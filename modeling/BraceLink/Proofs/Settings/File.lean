import BraceLink.Proofs.Settings.Read
import BraceLink.Proofs.Text.Utf8
import BraceLink.Proofs.Yaml.Build
import BraceLink.Settings.File

/-!
# Settings in files

The bytes of a file go through four stages: they are decoded, divided into tokens, built into a value, and read as
settings. Each stage refuses most of what is wrong as a defect of the settings, and lets some errors through that
are none (`Escapes`). There are no others: the bytes of a file give settings, or a defect, or one of these errors.
-/

namespace BraceLink.Settings

/-- The bytes are those of a text, whose lines are read as these. -/
def IsTextOf (bytes : List Nat) (text : Text) : Prop :=
  ∃ written, bytes = Utf8.encode written ∧ text = Text.unifyLines written

/-- What the bytes of a file can hold that leads to an error other than a defect. -/
inductive Escapes (bytes : List Nat) : FileError → Prop
  /-- The bytes are those of no text. -/
  | noText (h : ∀ text, bytes ≠ Utf8.encode text) : Escapes bytes .noText
  /-- The code of a character or the number of a version is too large. -/
  | number {text : Text} {error : Yaml.Error} (htext : IsTextOf bytes text) (hvalue : Yaml.value text = .error error)
    (h : Yaml.Blocked text error) : Escapes bytes (.document error)
  /-- A node of the document has no value of its kind. -/
  | node {text : Text} {document : Yaml.Document} {error : Yaml.Error} (htext : IsTextOf bytes text)
    (hvalue : Yaml.value text = .error error) (hdocument : Yaml.document text = .ok (some document))
    (h : document.graph.Flaw error) : Escapes bytes (.document error)
  /-- The first broken check of the value is that of a key or a pattern with too large a number. -/
  | value {text : Text} {value : Value} {error : Error} (htext : IsTextOf bytes text)
    (hvalue : Yaml.value text = .ok value) (hbreaks : Breaks (checks value) error.verdict)
    (hlimit : error.verdict = .longNumber ∨ error.verdict = .hugePattern) : Escapes bytes (.settings error)

variable {bytes : List Nat}

theorem ofBytes?_eq_some_iff {text : Text} : Text.ofBytes? bytes = some text ↔ IsTextOf bytes text := by
  rw [Text.ofBytes?, Option.map_eq_some_iff]
  exact exists_congr fun written => and_congr Utf8.decode?_eq_some_iff eq_comm

theorem ofBytes?_eq_none_iff : Text.ofBytes? bytes = none ↔ ∀ text, bytes ≠ Utf8.encode text := by
  rw [Text.ofBytes?, Option.map_eq_none_iff, Option.eq_none_iff_forall_ne_some]
  exact forall_congr' fun text => not_congr Utf8.decode?_eq_some_iff

theorem ofFile_of_error (file : Text) {text : Text} {error : Yaml.Error} (h : IsTextOf bytes text)
    (hvalue : Yaml.value text = .error error) (hmalformed : error ≠ .malformed) :
    ofFile file (some bytes) = .error (.document error) := by
  rw [ofFile, ofBytes?_eq_some_iff.mpr h]
  dsimp only
  rw [ofText, hvalue]
  cases error with
  | malformed => exact absurd rfl hmalformed
  | _ => rfl

theorem ofFile_of_value (file : Text) {text : Text} {value : Value} (h : IsTextOf bytes text)
    (hvalue : Yaml.value text = .ok value) :
    ofFile file (some bytes) = (ofValue value).mapError FileError.settings := by
  rw [ofFile, ofBytes?_eq_some_iff.mpr h]
  dsimp only
  rw [ofText, hvalue]

/-! ### Errors that escape -/

theorem Escapes.exists_error {error : FileError} (file : Text) (h : Escapes bytes error) :
    ∃ found, ofFile file (some bytes) = .error found ∧ ∀ defect path, found ≠ .settings (.invalid defect path) := by
  cases h with
  | noText h =>
    refine ⟨.noText, ?_, fun _ _ => FileError.noConfusion⟩
    rw [ofFile, ofBytes?_eq_none_iff.mpr h]
  | number htext hvalue h =>
    exact ⟨_, ofFile_of_error file htext hvalue h.ne_malformed, fun _ _ => FileError.noConfusion⟩
  | node htext hvalue hdocument h =>
    exact ⟨_, ofFile_of_error file htext hvalue h.ne_malformed, fun _ _ => FileError.noConfusion⟩
  | @value text value error htext hvalue hbreaks hlimit =>
    obtain ⟨found, hfound, hverdict⟩ := ((ofValue_follows value).error_iff _).mpr hbreaks
    refine ⟨.settings found, by rw [ofFile_of_value file htext hvalue, hfound]; rfl, ?_⟩
    rintro defect path heq
    rw [FileError.settings.inj heq] at hverdict
    rcases hlimit with hlong | hhuge
    · rw [hlong] at hverdict
      cases hverdict
    · rw [hhuge] at hverdict
      cases hverdict

theorem invalid_or_escapes {error : FileError} (file : Text) (h : ofFile file (some bytes) = .error error) :
    (∃ defect path, error = .settings (.invalid defect path)) ∨ Escapes bytes error := by
  cases hdecode : Text.ofBytes? bytes with
  | none =>
    rw [ofFile, hdecode] at h
    cases h
    exact Or.inr (.noText (ofBytes?_eq_none_iff.mp hdecode))
  | some text =>
    have htext := ofBytes?_eq_some_iff.mp hdecode
    cases hvalue : Yaml.value text with
    | error found =>
      by_cases hmalformed : found = .malformed
      · rw [ofFile, hdecode] at h
        dsimp only at h
        rw [ofText, hvalue, hmalformed] at h
        exact Or.inl ⟨_, _, (Except.error.inj h).symm⟩
      · rw [ofFile_of_error file htext hvalue hmalformed] at h
        cases h
        rcases Yaml.value_error hvalue with hmal | hblocked | ⟨document, hdocument, hflaw⟩
        · exact absurd hmal hmalformed
        · exact Or.inr (.number htext hvalue hblocked)
        · exact Or.inr (.node htext hvalue hdocument hflaw)
    | ok value =>
      rw [ofFile_of_value file htext hvalue] at h
      cases hread : ofValue value with
      | ok settings =>
        rw [hread] at h
        cases h
      | error found =>
        rw [hread] at h
        cases h
        have hbreaks := ((ofValue_follows value).error_iff _).mp ⟨found, hread, rfl⟩
        cases found with
        | invalid defect path => exact Or.inl ⟨defect, path, rfl⟩
        | pattern error => exact Or.inr (.value htext hvalue hbreaks (Or.inr rfl))
        | longNumber => exact Or.inr (.value htext hvalue hbreaks (Or.inl rfl))

end BraceLink.Settings
