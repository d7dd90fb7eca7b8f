import BraceLink.Resolver

/-!
# What a chain makes of a payload

A handler answers a payload (`Handler.Answers`), declines it (`Handler.Declines`) or fails on it. Handlers
that decline may be cut off the front of a chain (`Chain.answer?_of_declines`), so the first handler that
answers wins (`Resolver.wonBy_of_declines`), and a chain of handlers that never fail has an outcome for
every payload (`Chain.answer?_ok`).
-/

namespace BraceLink

namespace Handler

def Answers (handler : Handler) (payload : Text) : Prop :=
  ∃ draft, handler.resolve payload = .ok (some draft)

/-- The handler leaves the payload to others. -/
def Declines (handler : Handler) (payload : Text) : Prop := handler.resolve payload = .ok none

/-- A handler that answers or declines, and never fails. -/
def NeverFails (handler : Handler) : Prop :=
  ∀ payload, ∃ answer, handler.resolve payload = .ok answer

end Handler

/-! ### Chains -/

namespace Chain

variable {payload : Text}

theorem answer?_of_declines {before : List Handler} (h : ∀ handler ∈ before, handler.Declines payload)
    (rest : List Handler) : answer? (before ++ rest) payload = answer? rest payload := by
  induction before with
  | nil => rfl
  | cons handler before ih =>
    have hhandler : handler.resolve payload = .ok none := h handler (by simp)
    rw [List.cons_append, answer?, hhandler]
    exact ih fun other hother => h other (by simp [hother])

theorem answer?_of_answer {handler : Handler} {draft : Draft}
    (h : handler.resolve payload = .ok (some draft)) (rest : List Handler) :
    answer? (handler :: rest) payload = .ok (some (handler, draft)) := by
  rw [answer?, h]

theorem draft?_cons (handler : Handler) (rest : List Handler) (payload : Text) :
    draft? (handler :: rest) payload =
      match handler.resolve payload with
      | .error fault => .error fault
      | .ok none => draft? rest payload
      | .ok (some draft) => .ok (some draft) := by
  rw [draft?, answer?]
  rcases handler.resolve payload with _ | _ | draft <;> rfl

theorem correct_cons (handler : Handler) (rest : List Handler) (record : Record) :
    correct (handler :: rest) record = correct rest ((handler.postprocess record).getD record) := rfl

theorem correct_append (first second : List Handler) (record : Record) :
    correct (first ++ second) record = correct second (correct first record) :=
  List.foldl_append

theorem answer?_ok {chain : List Handler} (h : ∀ handler ∈ chain, handler.NeverFails)
    (payload : Text) : ∃ answer, answer? chain payload = .ok answer := by
  induction chain with
  | nil => exact ⟨none, rfl⟩
  | cons handler rest ih =>
    obtain ⟨draft, hdraft⟩ := h handler (by simp) payload
    cases draft with
    | none =>
      obtain ⟨answer, hanswer⟩ := ih fun other hother => h other (by simp [hother])
      exact ⟨answer, by simp only [answer?, hdraft, hanswer]⟩
    | some draft => exact ⟨some (handler, draft), answer?_of_answer hdraft rest⟩

end Chain

/-! ### Resolvers -/

namespace Resolver

variable {resolver : Resolver} {payload : Text}

/-- The handler answers the payload, the handlers before it decline, and its draft becomes the record. -/
def WonBy (resolver : Resolver) (handler : Handler) (payload : Text) : Prop :=
  ∃ draft, handler.resolve payload = .ok (some draft) ∧
    Chain.answer? resolver.handlers payload = .ok (some (handler, draft)) ∧
    resolver.resolve payload = .ok (some (resolver.complete draft))

theorem resolve_of_answer? {answer : Option (Handler × Draft)}
    (h : Chain.answer? resolver.handlers payload = .ok answer) :
    resolver.resolve payload = .ok (answer.map fun won => resolver.complete won.2) := by
  rw [resolve, parse, Chain.draft?, h]
  cases answer <;> rfl

/-- The outcome depends on the chain only through the draft and through what becomes of records. -/
theorem resolve_congr {first second : Resolver} (hrules : first.settings.rules = second.settings.rules)
    (hnormalize : first.normalize = second.normalize)
    (hdraft : Chain.draft? first.handlers payload = Chain.draft? second.handlers payload)
    (hcorrect : ∀ record, Chain.correct first.handlers record = Chain.correct second.handlers record) :
    first.resolve payload = second.resolve payload := by
  have hcomplete : first.complete = second.complete := by
    funext draft
    rw [complete, Chain.complete, hcorrect, hnormalize, hrules]
    rfl
  rw [resolve, parse, hdraft, hcomplete]
  rfl

theorem parse_ok (h : ∀ handler ∈ resolver.handlers, handler.NeverFails) (payload : Text) :
    ∃ draft, resolver.parse payload = .ok draft := by
  obtain ⟨answer, hanswer⟩ := Chain.answer?_ok h payload
  exact ⟨answer.map Prod.snd, by rw [parse, Chain.draft?, hanswer]; rfl⟩

theorem resolve_ok (h : ∀ handler ∈ resolver.handlers, handler.NeverFails) (payload : Text) :
    ∃ record, resolver.resolve payload = .ok record := by
  obtain ⟨answer, hanswer⟩ := Chain.answer?_ok h payload
  exact ⟨_, resolve_of_answer? hanswer⟩

theorem wonBy_of_declines (before : List Handler) {after : List Handler} {handler : Handler}
    (hhandlers : resolver.handlers = before ++ handler :: after)
    (hbefore : ∀ other ∈ before, other.Declines payload) (hanswers : handler.Answers payload) :
    resolver.WonBy handler payload := by
  obtain ⟨draft, hdraft⟩ := hanswers
  have hanswer : Chain.answer? resolver.handlers payload = .ok (some (handler, draft)) := by
    rw [hhandlers, Chain.answer?_of_declines hbefore, Chain.answer?_of_answer hdraft]
  exact ⟨draft, hdraft, hanswer, resolve_of_answer? hanswer⟩

theorem resolve_none (h : ∀ handler ∈ resolver.handlers, handler.Declines payload) :
    resolver.resolve payload = .ok none := by
  have hanswer : Chain.answer? resolver.handlers payload = .ok none := by
    rw [← List.append_nil resolver.handlers, Chain.answer?_of_declines h]
    rfl
  exact resolve_of_answer? hanswer

end Resolver

end BraceLink
