import BraceLink.Text.Basic
import Mathlib.Data.List.Forall2

/-!
# Outcomes

What is known of a computation that may fail: a condition for its result and one for its error (`Outcome`). A step
with a state keeps a condition for the state (`Preserves`).
Computations that are put together keep their conditions, and a traversal gives its results one by one
(`mapM_eq_ok_iff`, `mapM_eq_of_forall₂`) or its first error (`mapM_eq_error_iff`).
-/

namespace BraceLink

/-- The result satisfies the first condition, or the error the second. -/
def Outcome {ε α : Type} (P : α → Prop) (E : ε → Prop) : Except ε α → Prop
  | .ok a => P a
  | .error error => E error

namespace Outcome

variable {ε δ α β : Type} {P : α → Prop} {Q : β → Prop} {E : ε → Prop} {result other : Except ε α}

theorem intro (hok : ∀ a, result = .ok a → P a) (herror : ∀ error, result = .error error → E error) :
    Outcome P E result := by
  cases result with
  | ok a => exact hok a rfl
  | error error => exact herror error rfl

theorem of_error {error : ε} (h : Outcome P E result) (hresult : result = .error error) : E error := by
  rw [hresult] at h
  exact h

theorem bind {next : α → Except ε β} (h : Outcome P E result) (hnext : ∀ a, P a → Outcome Q E (next a)) :
    Outcome Q E (result >>= next) := by
  cases result with
  | ok a => exact hnext a h
  | error error => exact h

theorem map {f : α → β} (h : Outcome P E result) (hmap : ∀ a, P a → Q (f a)) : Outcome Q E (result.map f) := by
  cases result with
  | ok a => exact hmap a h
  | error error => exact h

theorem imp (h : Outcome P E result) {R : α → Prop} (himp : ∀ a, P a → R a) : Outcome R E result := by
  cases result with
  | ok a => exact himp a h
  | error error => exact h

theorem mapError {F : δ → Prop} {f : ε → δ} (h : Outcome P E result) (hmap : ∀ error, E error → F (f error)) :
    Outcome P F (result.mapError f) := by
  cases result with
  | ok a => exact h
  | error error => exact hmap error h

theorem imp_error {F : ε → Prop} (h : Outcome P E result) (himp : ∀ error, E error → F error) :
    Outcome P F result := by
  cases result with
  | ok a => exact h
  | error error => exact himp error h

theorem ite {p : Prop} [Decidable p] (hthen : p → Outcome P E result) (helse : ¬ p → Outcome P E other) :
    Outcome P E (if p then result else other) := by
  split
  · next h => exact hthen h
  · next h => exact helse h

theorem mapM {f : α → Except ε β} {items : List α} (h : ∀ item ∈ items, Outcome Q E (f item)) :
    Outcome (fun results => ∀ b ∈ results, Q b) E (items.mapM f) := by
  induction items with
  | nil => exact fun _ h => absurd h List.not_mem_nil
  | cons item rest ih =>
    obtain ⟨hitem, hrest⟩ := List.forall_mem_cons.mp h
    rw [List.mapM_cons]
    exact hitem.bind fun b hb => (ih hrest).bind fun more hmore => List.forall_mem_cons.mpr ⟨hb, hmore⟩

theorem foldlM {f : β → α → Except ε β} {items : List α} {state : β}
    (h : ∀ state, Q state → ∀ item, Outcome Q E (f state item)) (hstate : Q state) :
    Outcome Q E (items.foldlM f state) := by
  induction items generalizing state with
  | nil => exact hstate
  | cons item rest ih =>
    rw [List.foldlM_cons]
    exact (h state hstate item).bind fun _ => ih

end Outcome

/-- A step that keeps a condition for its state, and whose errors satisfy another. -/
def Preserves {σ ε α : Type} (I : σ → Prop) (E : ε → Prop) (step : StateT σ (Except ε) α) : Prop :=
  ∀ s, I s → Outcome (fun found => I found.2) E (step.run s)

namespace Preserves

variable {σ ε α β : Type} {I : σ → Prop} {E : ε → Prop} {step other : StateT σ (Except ε) α}

theorem pure (a : α) : Preserves I E (Pure.pure a : StateT σ (Except ε) α) := fun _ hs => hs

theorem bind {next : α → StateT σ (Except ε) β} (h : Preserves I E step) (hnext : ∀ a, Preserves I E (next a)) :
    Preserves I E (step >>= next) := by
  intro s hs
  rw [StateT.run_bind]
  exact (h s hs).bind fun found hfound => hnext found.1 found.2 hfound

theorem fail {error : ε} (h : E error) : Preserves I E (throw error : StateT σ (Except ε) α) := fun _ _ => h

theorem fail_bind {error : ε} {next : α → StateT σ (Except ε) β} (h : E error) :
    Preserves I E (throw error >>= next) := fun _ _ => h

theorem get_bind {next : σ → StateT σ (Except ε) β} (h : ∀ s, I s → Preserves I E (next s)) :
    Preserves I E (MonadState.get >>= next) := fun s hs => h s hs s hs

theorem set {s : σ} (h : I s) : Preserves I E (MonadStateOf.set s : StateT σ (Except ε) PUnit) := fun _ _ => h

theorem lift_bind {P : α → Prop} {result : Except ε α} {next : α → StateT σ (Except ε) β} (h : Outcome P E result)
    (hnext : ∀ a, P a → Preserves I E (next a)) : Preserves I E (liftM result >>= next) := by
  intro s hs
  cases result with
  | ok a => exact hnext a h s hs
  | error error => exact h

theorem modify {change : σ → σ} (h : ∀ s, I s → I (change s)) :
    Preserves I E (modifyThe σ change : StateT σ (Except ε) PUnit) := h

theorem ite {p : Prop} [Decidable p] (hthen : p → Preserves I E step) (helse : ¬ p → Preserves I E other) :
    Preserves I E (if p then step else other) := by
  split
  · next h => exact hthen h
  · next h => exact helse h

theorem mapM {f : α → StateT σ (Except ε) β} (h : ∀ item, Preserves I E (f item)) (items : List α) :
    Preserves I E (items.mapM f) := by
  induction items with
  | nil => exact pure []
  | cons item rest ih =>
    rw [List.mapM_cons]
    exact (h item).bind fun _ => ih.bind fun _ => pure _

end Preserves

theorem map_eq_ok_iff {α β ε : Type} {f : α → β} {result : Except ε α} {b : β} :
    result.map f = .ok b ↔ ∃ a, result = .ok a ∧ f a = b := by
  cases result with
  | ok a => simp [Except.map]
  | error error => simp [Except.map]

theorem mapM_eq_of_forall₂ {α β γ ε : Type} {f : α → Except ε γ} {g : β → Except ε γ} {xs : List α} {ys : List β}
    (h : List.Forall₂ (fun x y => f x = g y) xs ys) : xs.mapM f = ys.mapM g := by
  induction h with
  | nil => rfl
  | cons hfirst _ ih => rw [List.mapM_cons, List.mapM_cons, hfirst, ih]

/-- A traversal that does not fail gives the answers position by position. -/
theorem mapM_eq_ok_iff {α β ε : Type} {f : α → Except ε β} {xs : List α} {ys : List β} :
    xs.mapM f = .ok ys ↔ List.Forall₂ (fun x y => f x = .ok y) xs ys := by
  induction xs generalizing ys with
  | nil =>
    rw [List.mapM_nil, List.forall₂_nil_left_iff]
    exact ⟨fun h => (Except.ok.inj h).symm, fun h => by rw [h]; rfl⟩
  | cons x xs ih =>
    rw [List.mapM_cons, List.forall₂_cons_left_iff]
    cases hx : f x with
    | error fault => simp [bind, Except.bind]
    | ok y =>
      cases hxs : xs.mapM f with
      | error fault =>
        have hnone : ∀ zs, ¬ List.Forall₂ (fun x y => f x = .ok y) xs zs := fun zs h => by
          rw [← ih, hxs] at h
          cases h
        simp [bind, Except.bind, hnone]
      | ok zs =>
        simp only [bind, Except.bind, pure, Except.pure, Except.ok.injEq, ← ih, hxs]
        constructor
        · rintro rfl
          exact ⟨y, zs, rfl, rfl, rfl⟩
        · rintro ⟨_, _, rfl, rfl, rfl⟩
          rfl

/-- A traversal that fails gives the error of the first of its steps that does. -/
theorem mapM_eq_error_iff {α β ε : Type} {f : α → Except ε β} {xs : List α} {error : ε} :
    xs.mapM f = .error error ↔
      ∃ before x after, xs = before ++ x :: after ∧ (∀ y ∈ before, ∃ b, f y = .ok b) ∧ f x = .error error := by
  induction xs with
  | nil => simp [pure, Except.pure]
  | cons x xs ih =>
    rw [List.mapM_cons]
    cases hx : f x with
    | error fault =>
      constructor
      · rintro ⟨⟩
        exact ⟨[], x, xs, rfl, by simp, hx⟩
      · rintro ⟨before, y, after, hsplit, hbefore, hy⟩
        cases before with
        | nil =>
          obtain ⟨rfl, -⟩ := List.cons.inj hsplit
          cases hx.symm.trans hy
          rfl
        | cons z before =>
          obtain ⟨rfl, -⟩ := List.cons.inj hsplit
          obtain ⟨b, hb⟩ := hbefore x List.mem_cons_self
          cases hx.symm.trans hb
    | ok b =>
      have hrest : (Except.ok b >>= fun b => xs.mapM f >>= fun bs => pure (b :: bs)) = .error error ↔
          xs.mapM f = .error error := by
        cases xs.mapM f <;> simp [bind, Except.bind, pure, Except.pure]
      rw [hrest, ih]
      constructor
      · rintro ⟨before, y, after, rfl, hbefore, hy⟩
        exact ⟨x :: before, y, after, rfl, List.forall_mem_cons.mpr ⟨⟨b, hx⟩, hbefore⟩, hy⟩
      · rintro ⟨before, y, after, hsplit, hbefore, hy⟩
        cases before with
        | nil =>
          obtain ⟨rfl, -⟩ := List.cons.inj hsplit
          cases hx.symm.trans hy
        | cons z before =>
          obtain ⟨rfl, rfl⟩ := List.cons.inj hsplit
          exact ⟨before, y, after, rfl, (List.forall_mem_cons.mp hbefore).2, hy⟩

end BraceLink
