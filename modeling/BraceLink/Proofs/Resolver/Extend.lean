import BraceLink.Proofs.Resolver.Chain
import Mathlib.Data.List.Forall2

/-!
# What may be changed in a chain

The two uses of a chain leave room for different changes. A draft is looked for up to the first handler that does
not decline, so handlers that decline may be added (`Chain.draft?_insert`) and whatever stands behind that
handler may be replaced (`Chain.draft?_of_not_declines`). All handlers look at the record, so a new handler must
leave records alone (`Chain.correct_insert`) and one that takes the place of another must correct as that one did
(`Chain.correct_congr`). `resolve_extended` puts the two together.

The same is true of corrections with effects of any kind (`Resolver.resolveWith`), which without effects are those of
`Resolver.resolve` (`Resolver.resolveWith_pure`).
-/

namespace BraceLink

/-- The handler declines every payload and leaves every record alone. -/
structure Handler.IsIdle (handler : Handler) : Prop where
  declines : ∀ payload, handler.Declines payload
  leaves : ∀ record, handler.postprocess record = none

/-! ### Drafts -/

namespace Chain

variable {payload : Text}

theorem draft?_of_declines {before : List Handler} (h : ∀ handler ∈ before, handler.Declines payload)
    (rest : List Handler) : draft? (before ++ rest) payload = draft? rest payload := by
  rw [draft?, answer?_of_declines h]
  rfl

theorem draft?_insert {idle : Handler} (h : idle.Declines payload) (before after : List Handler) :
    draft? (before ++ idle :: after) payload = draft? (before ++ after) payload := by
  have hidle : idle.resolve payload = .ok none := h
  induction before with
  | nil => rw [List.nil_append, draft?_cons, hidle]; rfl
  | cons handler before ih => rw [List.cons_append, List.cons_append, draft?_cons, draft?_cons, ih]

theorem draft?_of_not_declines {handler : Handler} (h : ¬ handler.Declines payload)
    (after others : List Handler) :
    draft? (handler :: after) payload = draft? (handler :: others) payload := by
  rw [draft?_cons, draft?_cons]
  rcases hresolve : handler.resolve payload with fault | _ | draft
  · rfl
  · exact absurd hresolve h
  · rfl

/-! ### Corrections -/

theorem correct_insert {idle : Handler} (h : ∀ record, idle.postprocess record = none)
    (before after : List Handler) (record : Record) :
    correct (before ++ idle :: after) record = correct (before ++ after) record := by
  induction before generalizing record with
  | nil => rw [List.nil_append, correct_cons, h, Option.getD_none, List.nil_append]
  | cons handler before ih => rw [List.cons_append, List.cons_append, correct_cons, correct_cons, ih]

theorem correct_congr {chain others : List Handler}
    (h : List.Forall₂ (fun old new => new.postprocess = old.postprocess) chain others) (record : Record) :
    correct chain record = correct others record := by
  induction h generalizing record with
  | nil => rfl
  | cons hhead _ ih => rw [correct_cons, correct_cons, ih, hhead]

end Chain

/-! ### Corrections with effects -/

section

variable {m : Type → Type} [Monad m]

theorem Resolver.resolveWith_handlers {resolver : Resolver} {payload : Text} {others : List Handler}
    (h : Chain.draft? others payload = Chain.draft? resolver.handlers payload)
    (corrections : List (Record → m (Option Record))) :
    { resolver with handlers := others }.resolveWith corrections payload =
      resolver.resolveWith corrections payload := by
  rw [Resolver.resolveWith, Resolver.parse, h]
  rfl

variable [LawfulMonad m]

theorem Chain.correctWith_insert (before after : List (Record → m (Option Record))) (record : Record) :
    Chain.correctWith (before ++ (fun _ => pure none) :: after) record =
      Chain.correctWith (before ++ after) record := by
  simp [Chain.correctWith, List.foldlM_append]

theorem Resolver.resolveWith_insert (before after : List (Record → m (Option Record))) (resolver : Resolver)
    (payload : Text) :
    resolver.resolveWith (before ++ (fun _ => pure none) :: after) payload =
      resolver.resolveWith (before ++ after) payload := by
  simp only [Resolver.resolveWith, Chain.correctWith_insert]

theorem Chain.correctWith_pure (chain : List Handler) (record : Record) :
    Chain.correctWith (m := m) (chain.map fun handler record => pure (handler.postprocess record)) record =
      pure (Chain.correct chain record) := by
  induction chain generalizing record with
  | nil => rfl
  | cons handler chain ih =>
    rw [List.map_cons, Chain.correctWith, List.foldlM_cons, pure_bind, pure_bind]
    exact ih _

theorem Resolver.resolveWith_pure (resolver : Resolver) (payload : Text) :
    resolver.resolveWith (m := m)
        (resolver.handlers.map fun handler record => pure (handler.postprocess record)) payload =
      pure (resolver.resolve payload) := by
  rw [Resolver.resolveWith, Resolver.resolve]
  rcases resolver.parse payload with fault | _ | draft
  · rfl
  · rfl
  · dsimp only
    rw [Chain.correctWith_pure, pure_bind]
    rfl

end

/-! ### Chains with other handlers -/

/-- **What may be changed in a chain.** A handler that always declines and leaves records alone may be put in
anywhere. Behind the first handler that does not decline, each handler may be replaced by one that corrects
records in the same way, whatever that one makes of payloads. If a handler fails before another one has answered,
its failure is the outcome, and no correction takes place. All this holds of corrections with effects as well, of
which those without effects are a case. -/
theorem resolve_extended (resolver : Resolver) (payload : Text) {m : Type → Type} [Monad m] [LawfulMonad m] :
    resolver.resolveWith (m := m)
        (resolver.handlers.map fun handler record => pure (handler.postprocess record)) payload =
      pure (resolver.resolve payload) ∧
    (∀ before after idle, resolver.handlers = before ++ after → idle.IsIdle →
      { resolver with handlers := before ++ idle :: after }.resolve payload = resolver.resolve payload ∧
      ∀ first second : List (Record → m (Option Record)),
        { resolver with handlers := before ++ idle :: after }.resolveWith
            (first ++ (fun _ => pure none) :: second) payload =
          resolver.resolveWith (first ++ second) payload) ∧
    (∀ before handler after others, resolver.handlers = before ++ handler :: after →
      (∀ other ∈ before, other.Declines payload) → ¬ handler.Declines payload →
      (List.Forall₂ (fun old new => new.postprocess = old.postprocess) after others →
        { resolver with handlers := before ++ handler :: others }.resolve payload = resolver.resolve payload) ∧
      ∀ corrections : List (Record → m (Option Record)),
        { resolver with handlers := before ++ handler :: others }.resolveWith corrections payload =
          resolver.resolveWith corrections payload) ∧
    (∀ before handler after fault, resolver.handlers = before ++ handler :: after →
      (∀ other ∈ before, other.Declines payload) → handler.resolve payload = .error fault →
      resolver.resolve payload = .error fault ∧
      ∀ corrections : List (Record → m (Option Record)),
        resolver.resolveWith corrections payload = pure (.error fault)) := by
  refine ⟨resolver.resolveWith_pure payload, fun before after idle hhandlers hidle => ?_, ?_, ?_⟩
  · have hdraft : Chain.draft? (before ++ idle :: after) payload = Chain.draft? resolver.handlers payload := by
      rw [hhandlers, Chain.draft?_insert (hidle.declines payload)]
    refine ⟨Resolver.resolve_congr rfl rfl hdraft fun record => ?_, fun first second => ?_⟩
    · rw [hhandlers, Chain.correct_insert hidle.leaves]
    · rw [Resolver.resolveWith_handlers hdraft, Resolver.resolveWith_insert]
  · intro before handler after others hhandlers hbefore hhandler
    have hdraft : Chain.draft? (before ++ handler :: others) payload =
        Chain.draft? resolver.handlers payload := by
      rw [hhandlers, Chain.draft?_of_declines hbefore, Chain.draft?_of_declines hbefore]
      exact Chain.draft?_of_not_declines hhandler _ _
    refine ⟨fun hothers => Resolver.resolve_congr rfl rfl hdraft fun record => ?_,
      Resolver.resolveWith_handlers hdraft⟩
    rw [hhandlers, Chain.correct_append, Chain.correct_append, Chain.correct_cons, Chain.correct_cons,
      Chain.correct_congr hothers]
  · intro before handler after fault hhandlers hbefore hfault
    have hparse : resolver.parse payload = .error fault := by
      rw [Resolver.parse, hhandlers, Chain.draft?_of_declines hbefore, Chain.draft?_cons, hfault]
    refine ⟨?_, fun corrections => ?_⟩
    · rw [Resolver.resolve, hparse]
      rfl
    · rw [Resolver.resolveWith, hparse]

def failingHandler : Handler := Handler.fixed "x" (.error ⟨"no"⟩) none

/-- A mention that is answered, with a handler added behind all others and with one replaced by a handler that
fails, and the same mention where that handler is asked first. -/
theorem resolve_extended_mention :
    Handler.silent.IsIdle ∧ Handler.silent.Declines "@a" ∧ ¬ Handler.github.Declines "@a" ∧
    failingHandler.postprocess = (Handler.platform []).postprocess ∧
    failingHandler.resolve "@a" = .error ⟨"no"⟩ ∧
    (⟨{}, [.silent, .github, .platform [], .silent], id⟩ : Resolver).resolve "@a" =
      (⟨{}, [.silent, .github, .platform []], id⟩ : Resolver).resolve "@a" ∧
    (⟨{}, [.silent, .github, failingHandler], id⟩ : Resolver).resolve "@a" =
      (⟨{}, [.silent, .github, .platform []], id⟩ : Resolver).resolve "@a" ∧
    (⟨{}, [.silent, failingHandler, .github], id⟩ : Resolver).resolve "@a" = .error ⟨"no"⟩ ∧
    Resolver.resolveWith (m := Except Fault) [fun _ => .error ⟨"late"⟩] ⟨{}, [.silent, failingHandler, .github], id⟩
      "@a" = .ok (.error ⟨"no"⟩) := by
  have hidle : Handler.silent.IsIdle := ⟨fun _ => rfl, fun _ => rfl⟩
  have hbefore : ∀ other ∈ [Handler.silent], other.Declines "@a" := by
    intro other hother
    obtain rfl := List.mem_singleton.mp hother
    rfl
  have hanswers : ¬ Handler.github.Declines "@a" := by
    rintro ⟨⟩
  obtain ⟨-, hinsert, hreplace, -⟩ :=
    resolve_extended (m := Except Fault) ⟨{}, [.silent, .github, .platform []], id⟩ "@a"
  obtain ⟨-, -, -, hfail⟩ :=
    resolve_extended (m := Except Fault) ⟨{}, [.silent, failingHandler, .github], id⟩ "@a"
  obtain ⟨houtcome, hcorrections⟩ := hfail [.silent] failingHandler [.github] ⟨"no"⟩ rfl hbefore rfl
  refine ⟨hidle, rfl, hanswers, rfl, rfl, ?_, ?_, houtcome, hcorrections _⟩
  · exact (hinsert [.silent, .github, .platform []] [] .silent rfl hidle).1
  · exact (hreplace [.silent] .github [.platform []] [failingHandler] rfl hbefore hanswers).1 (.cons rfl .nil)

end BraceLink
