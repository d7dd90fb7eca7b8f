import BraceLink.Handler.Basic

/-!
# Chains of handlers

The first handler of a chain that does not decline answers a payload; a failure before that is the
outcome. Every handler of the chain, in order, may then correct the record. A handler from elsewhere may do more than
correct a record when it looks at one: it may fail, or write something down (`correctWith`).
-/

namespace BraceLink.Chain

def answer? : List Handler → Text → Except Fault (Option (Handler × Draft))
  | [], _ => .ok none
  | handler :: rest, payload =>
    match handler.resolve payload with
    | .error fault => .error fault
    | .ok none => answer? rest payload
    | .ok (some draft) => .ok (some (handler, draft))

def draft? (chain : List Handler) (payload : Text) : Except Fault (Option Draft) :=
  (answer? chain payload).map fun answer => answer.map Prod.snd

def correct (chain : List Handler) (record : Record) : Record :=
  chain.foldl (fun record handler => (handler.postprocess record).getD record) record

def correctWith {m : Type → Type} [Monad m] (corrections : List (Record → m (Option Record))) (record : Record) :
    m Record :=
  corrections.foldlM (fun record correction => return (← correction record).getD record) record

def complete (chain : List Handler) (normalize : Text → Text) (draft : Draft) : Record :=
  correct chain (draft.fill normalize)

end BraceLink.Chain
