import BraceLink.Proofs.Outcome
import BraceLink.Yaml.Content

/-!
# Values of scalars

A text that has no value of a kind fails with an error of that kind (`KindFails`), or is malformed as other texts are
(`readScalar_fails`).
-/

namespace BraceLink.Yaml

/-- The result satisfies the condition, or the document is malformed. -/
abbrev Fine {α : Type} (P : α → Prop) (result : Except Error α) : Prop := Outcome P (· = .malformed) result

abbrev NumberFails {α : Type} (result : Except Error α) : Prop :=
  Outcome (fun _ => True) (fun error => error = .noNumber ∨ error = .badNumber) result

theorem signed_fails (content : Text) : NumberFails (signed content) := by
  unfold signed
  split
  · exact Or.inl rfl
  · trivial
  · trivial
  · trivial

theorem wholeIn_fails (base : Nat) (digits : Text) : NumberFails (wholeIn base digits) := by
  refine .ite (fun _ => Or.inr rfl) fun _ => ?_
  split
  · trivial
  · exact Or.inr rfl

theorem fractionOf_fails (digits : Text) : NumberFails (fractionOf digits) := by
  unfold fractionOf
  split
  · trivial
  · exact Or.inr rfl

theorem readInt_fails (content : Text) : NumberFails (readInt content) := by
  refine (signed_fails content).bind fun found _ => ?_
  have hend : ∀ n : Int, True → NumberFails (.ok (if found.1 then -n else n)) := fun _ _ => trivial
  dsimp only
  split
  · exact Or.inl rfl
  · trivial
  · exact (wholeIn_fails 2 _).bind hend
  · exact (wholeIn_fails 16 _).bind hend
  · exact (wholeIn_fails 8 _).bind hend
  · exact (Outcome.mapM fun part _ => wholeIn_fails 10 part).bind fun parts _ => hend _ trivial

/-- The errors of texts that have no value of their kind. -/
inductive KindFails : Kind → Error → Prop
  | truth : KindFails .bool .badTruth
  | int {error : Error} (h : error = .noNumber ∨ error = .badNumber) : KindFails .int error
  | float {error : Error} (h : error = .noNumber ∨ error = .badNumber) : KindFails .float error
  | place : KindFails .float .hugePlace
  | moment : KindFails .moment .badMoment
  | date : KindFails .moment .badNumber

theorem readFloat_fails (content : Text) : Outcome (fun _ => True) (KindFails .float) (readFloat content) := by
  have hnumber : ∀ {α : Type} {result : Except Error α}, NumberFails result →
      Outcome (fun _ => True) (KindFails .float) result := fun h => h.imp_error fun _ => .float
  refine (hnumber (signed_fails _)).bind fun found _ => ?_
  have hend : ∀ x : Binary64, True →
      Outcome (fun _ => True) (KindFails .float) (.ok (if found.1 then x.neg else x)) := fun _ _ => trivial
  refine .ite (fun _ => trivial) fun _ => .ite (fun _ => hend _ trivial) fun _ => .ite (fun _ => ?_) fun _ => ?_
  · have hparts := (Outcome.mapM fun part (_ : part ∈ Text.splitOn ':' found.2) => fractionOf_fails part).imp
      fun _ _ => trivial
    refine (hnumber hparts).bind fun parts _ => ?_
    have hsum : Outcome (fun _ => True) (KindFails .float) (sixtyfold parts) := .ite (fun _ => trivial) fun _ => .place
    exact hsum.bind hend
  · exact (hnumber (fractionOf_fails _)).bind hend

theorem bytesFrom_fine (place held fills : Nat) (content : Text) :
    Fine (fun _ => True) (bytesFrom place held fills content) := by
  induction content generalizing place held fills with
  | nil => exact .ite (fun _ => trivial) fun _ => rfl
  | cons c rest ih =>
    rw [bytesFrom]
    refine .ite (fun _ => .ite (fun _ => trivial) fun _ => ih _ _ _) fun _ => ?_
    split
    · exact ih _ _ _
    · split
      · exact ih _ _ _
      · exact (ih _ _ _).bind fun _ _ => trivial
      · exact (ih _ _ _).bind fun _ _ => trivial
      · exact (ih _ _ _).bind fun _ _ => trivial

theorem readScalar_fails (kind : Kind) (content : Text) :
    Outcome (fun _ => True) (fun error => error = .malformed ∨ KindFails kind error) (readScalar kind content) := by
  cases kind with
  | null => trivial
  | bool =>
    have hbool : Outcome (fun _ => True) (KindFails .bool) (readBool content) := by
      unfold readBool
      split
      · trivial
      · exact .truth
    exact (hbool.map fun _ _ => trivial).imp_error fun _ => Or.inr
  | int => exact ((readInt_fails content).map fun _ _ => trivial).imp_error fun _ h => Or.inr (.int h)
  | float => exact ((readFloat_fails content).map fun _ _ => trivial).imp_error fun _ => Or.inr
  | binary =>
    have hbinary : Fine (fun _ => True) (readBinary content) :=
      .ite (fun _ => bytesFrom_fine 0 0 0 content) fun _ => rfl
    exact (hbinary.map fun _ _ => trivial).imp_error fun _ => Or.inl
  | moment =>
    have hmoment : Outcome (fun _ => True) (KindFails .moment) (readMoment content) := by
      unfold readMoment
      split
      · exact .moment
      · split
        · exact .ite (fun _ => trivial) fun _ => .date
        · exact .ite (fun _ => trivial) fun _ => .date
    exact hmoment.imp_error fun _ => Or.inr
  | text => trivial
  | _ => exact Or.inl rfl

theorem KindFails.ne_malformed {kind : Kind} {error : Error} (h : KindFails kind error) : error ≠ .malformed := by
  rintro rfl
  cases h with
  | int h => exact h.elim Error.noConfusion Error.noConfusion
  | float h => exact h.elim Error.noConfusion Error.noConfusion

end BraceLink.Yaml
