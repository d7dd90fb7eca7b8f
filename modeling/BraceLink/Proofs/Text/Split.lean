import BraceLink.Proofs.Text.Basic
import BraceLink.Text.Blank
import Mathlib.Data.List.DropRight
import Mathlib.Data.List.TakeWhile

/-!
# Cutting and trimming

A cut at the last separator (`cutLast_append`), pieces between separators and their way back
(`join_splitOn`, `splitOn_join`), and what trimming leaves: nothing of a blank text (`strip_eq_nil_iff`), all of
a text without blanks (`strip_eq_self`) or of one that is trimmed already (`strip_strip`, `strip_eq_self_iff`), that
text if blanks are put around it (`strip_padded`), and a beginning without blanks in any case (`strip_append`).
-/

namespace BraceLink.Text

/-! ### The last separator -/

theorem cutLast_append {sep : Char} {after : Text} (h : sep ∉ after) (before : Text) :
    cutLast sep (before ++ sep :: after) = (some before, after) := by
  have hreverse : (before ++ sep :: after).reverse = after.reverse ++ sep :: before.reverse := by simp
  rw [cutLast, hreverse, cut_of_mem (by simpa using h)]
  simp

theorem cutLast_of_not_mem {sep : Char} {text : Text} (h : sep ∉ text) :
    cutLast sep text = (none, text) := by
  rw [cutLast, cut_of_not_mem (by simpa using h)]
  simp

theorem exists_cutLast {sep : Char} {text : Text} (h : sep ∈ text) :
    ∃ before after, text = before ++ sep :: after ∧ sep ∉ after := by
  obtain ⟨after, before, hreverse, hafter⟩ := List.eq_append_cons_of_mem (List.mem_reverse.mpr h)
  refine ⟨before.reverse, after.reverse, ?_, by simpa using hafter⟩
  have htext := congrArg List.reverse hreverse
  simpa using htext

/-! ### Pieces -/

theorem splitOn_ne_nil (sep : Char) (text : Text) : splitOn sep text ≠ [] := by
  cases text with
  | nil => simp [splitOn]
  | cons c text =>
    rw [splitOn]
    split
    · simp
    · split <;> simp

theorem join_cons (sep piece : Text) {pieces : List Text} (h : pieces ≠ []) :
    join sep (piece :: pieces) = piece ++ sep ++ join sep pieces := by
  cases pieces with
  | nil => exact absurd rfl h
  | cons next pieces => rfl

theorem join_splitOn (sep : Char) (text : Text) : join [sep] (splitOn sep text) = text := by
  induction text with
  | nil => rfl
  | cons c text ih =>
    rw [splitOn]
    split_ifs with hc
    · rw [join_cons _ _ (splitOn_ne_nil sep text), ih, hc]
      rfl
    · cases hpieces : splitOn sep text with
      | nil => exact absurd hpieces (splitOn_ne_nil sep text)
      | cons piece pieces =>
        rw [hpieces] at ih
        cases pieces with
        | nil => rw [← ih]; rfl
        | cons next pieces => rw [← ih]; rfl

theorem mem_join {c sep : Char} {pieces : List Text} (h : c ∈ join [sep] pieces) :
    c = sep ∨ ∃ piece ∈ pieces, c ∈ piece := by
  induction pieces with
  | nil => simp [join] at h
  | cons piece pieces ih =>
    by_cases hpieces : pieces = []
    · subst hpieces
      exact Or.inr ⟨piece, by simp, h⟩
    · rw [join_cons _ _ hpieces, List.mem_append, List.mem_append, List.mem_singleton] at h
      rcases h with (h | h) | h
      · exact Or.inr ⟨piece, by simp, h⟩
      · exact Or.inl h
      · exact (ih h).imp_right fun ⟨other, hother, hc⟩ => ⟨other, by simp [hother], hc⟩

theorem mem_of_mem_splitOn {c sep : Char} {piece text : Text} (hpiece : piece ∈ splitOn sep text)
    (hc : c ∈ piece) : c ∈ text := by
  induction text generalizing piece with
  | nil =>
    rw [List.mem_singleton.mp hpiece] at hc
    exact absurd hc List.not_mem_nil
  | cons d text ih =>
    rw [splitOn] at hpiece
    split_ifs at hpiece with hd
    · rcases List.mem_cons.mp hpiece with rfl | hpiece
      · exact absurd hc List.not_mem_nil
      · exact List.mem_cons_of_mem _ (ih hpiece hc)
    · cases hpieces : splitOn sep text with
      | nil => exact absurd hpieces (splitOn_ne_nil sep text)
      | cons first pieces =>
        simp only [hpieces, List.mem_cons] at hpiece ih
        rcases hpiece with rfl | hpiece
        · rcases List.mem_cons.mp hc with rfl | hc
          · exact List.mem_cons_self
          · exact List.mem_cons_of_mem _ (ih (Or.inl rfl) hc)
        · exact List.mem_cons_of_mem _ (ih (Or.inr hpiece) hc)

theorem splitOn_of_not_mem {sep : Char} {text : Text} (h : sep ∉ text) : splitOn sep text = [text] := by
  induction text with
  | nil => rfl
  | cons c text ih =>
    have hc : c ≠ sep := fun hc => h (by simp [hc])
    rw [splitOn, if_neg hc, ih fun hmem => h (by simp [hmem])]

theorem splitOn_append {sep : Char} {piece : Text} (h : sep ∉ piece) (rest : Text) :
    splitOn sep (piece ++ sep :: rest) = piece :: splitOn sep rest := by
  induction piece with
  | nil => rw [List.nil_append, splitOn, if_pos rfl]
  | cons c piece ih =>
    have hc : c ≠ sep := fun hc => h (by simp [hc])
    rw [List.cons_append, splitOn, if_neg hc, ih fun hmem => h (by simp [hmem])]

theorem splitOn_join {sep : Char} {pieces : List Text} (hne : pieces ≠ []) (h : ∀ piece ∈ pieces, sep ∉ piece) :
    splitOn sep (join [sep] pieces) = pieces := by
  induction pieces with
  | nil => exact absurd rfl hne
  | cons piece pieces ih =>
    obtain ⟨hpiece, hpieces⟩ := List.forall_mem_cons.mp h
    by_cases hlast : pieces = []
    · rw [hlast]
      exact splitOn_of_not_mem hpiece
    · rw [join_cons _ _ hlast, List.append_assoc, List.singleton_append, splitOn_append hpiece, ih hlast hpieces]

theorem not_mem_of_mem_splitOn {sep : Char} {piece text : Text} (h : piece ∈ splitOn sep text) : sep ∉ piece := by
  induction text generalizing piece with
  | nil =>
    rw [List.mem_singleton.mp h]
    exact List.not_mem_nil
  | cons c text ih =>
    rw [splitOn] at h
    split_ifs at h with hc
    · rcases List.mem_cons.mp h with rfl | h
      · exact List.not_mem_nil
      · exact ih h
    · cases hpieces : splitOn sep text with
      | nil => exact absurd hpieces (splitOn_ne_nil sep text)
      | cons first pieces =>
        simp only [hpieces, List.mem_cons] at h ih
        rcases h with rfl | h
        · rw [List.mem_cons, not_or]
          exact ⟨Ne.symm hc, ih (Or.inl rfl)⟩
        · exact ih (Or.inr h)

/-! ### Runs at the beginning -/

theorem drop_length_takeWhile (p : Char → Bool) (text : Text) :
    text.drop (text.takeWhile p).length = text.dropWhile p := by
  induction text with
  | nil => rfl
  | cons c text ih =>
    by_cases hc : p c = true
    · simpa [List.takeWhile_cons_of_pos hc, List.dropWhile_cons_of_pos hc] using ih
    · simp [List.takeWhile_cons_of_neg hc, List.dropWhile_cons_of_neg hc]

theorem takeWhile_dropWhile_eq_nil (p : Char → Bool) (text : Text) :
    (text.dropWhile p).takeWhile p = [] := by
  induction text with
  | nil => rfl
  | cons c text ih =>
    by_cases hc : p c = true
    · rw [List.dropWhile_cons_of_pos hc, ih]
    · rw [List.dropWhile_cons_of_neg hc, List.takeWhile_cons_of_neg hc]

/-! ### Trimming -/

theorem stripWhile_eq_self {p : Char → Bool} {text : Text} (h : ∀ c ∈ text, p c = false) :
    stripWhile p text = text := by
  have hdrop : ∀ {other : Text}, (∀ c ∈ other, p c = false) → other.dropWhile p = other := by
    intro other hother
    cases other with
    | nil => rfl
    | cons c other => rw [List.dropWhile_cons_of_neg (by simp [hother c])]
  rw [stripWhile, dropEndWhile, hdrop h, hdrop fun c hc => h c (by simpa using hc), List.reverse_reverse]

theorem strip_eq_self {text : Text} (h : ∀ c ∈ text, isBlank c = false) : strip text = text :=
  stripWhile_eq_self h

theorem stripWhile_stripWhile (p : Char → Bool) (text : Text) :
    stripWhile p (stripWhile p text) = stripWhile p text := by
  have hstrip : ∀ other : Text, stripWhile p other = (other.dropWhile p).rdropWhile p := fun _ => rfl
  -- what is left begins as the text does after its first characters have been dropped
  have hstart : ((text.dropWhile p).rdropWhile p).dropWhile p = (text.dropWhile p).rdropWhile p := by
    obtain ⟨dropped, hsplit⟩ := List.rdropWhile_prefix p (text.dropWhile p)
    cases hleft : (text.dropWhile p).rdropWhile p with
    | nil => rfl
    | cons c rest =>
      have hnot := List.head?_dropWhile_not p text
      rw [← hsplit, hleft, List.cons_append, List.head?_cons] at hnot
      exact List.dropWhile_cons_of_neg (by simpa using hnot)
  rw [hstrip, hstrip, hstart]
  exact List.rdropWhile_idempotent _ _

theorem strip_strip (text : Text) : strip (strip text) = strip text := stripWhile_stripWhile isBlank text

theorem mem_of_mem_strip {c : Char} {text : Text} (h : c ∈ strip text) : c ∈ text :=
  (List.dropWhile_suffix isBlank).subset ((List.rdropWhile_prefix isBlank _).subset h)

theorem dropWhile_eq_nil_of_forall {p : Char → Bool} {text : Text}
    (h : ∀ c ∈ text.dropWhile p, p c = true) : text.dropWhile p = [] := by
  by_contra hne
  have hhead := List.head_dropWhile_not p hne
  rw [h _ (List.head_mem hne)] at hhead
  exact absurd hhead (by simp)

theorem strip_eq_nil_iff {text : Text} : strip text = [] ↔ ∀ c ∈ text, isBlank c = true := by
  constructor
  · intro h
    rw [strip, stripWhile, dropEndWhile, List.reverse_eq_nil_iff, List.dropWhile_eq_nil_iff] at h
    have hdrop := dropWhile_eq_nil_of_forall fun c hc => h c (List.mem_reverse.mpr hc)
    exact List.dropWhile_eq_nil_iff.mp hdrop
  · intro h
    rw [strip, stripWhile, List.dropWhile_eq_nil_iff.mpr h]
    rfl

/-- No blank stands at either end of the text. -/
structure IsTrimmed (text : Text) : Prop where
  head : ∀ c, text.head? = some c → isBlank c = false
  last : ∀ c, text.getLast? = some c → isBlank c = false

theorem dropWhile_append_of_head? {p : Char → Bool} {front text : Text} (hfront : ∀ c ∈ front, p c = true)
    (hhead : ∀ c, text.head? = some c → p c = false) : (front ++ text).dropWhile p = text := by
  rw [List.dropWhile_append_of_pos hfront]
  cases text with
  | nil => rfl
  | cons c text => exact List.dropWhile_cons_of_neg (by simp [hhead c rfl])

theorem strip_padded {left text right : Text} (hleft : ∀ c ∈ left, isBlank c = true) (htext : text.IsTrimmed)
    (hright : ∀ c ∈ right, isBlank c = true) : strip (left ++ text ++ right) = text := by
  by_cases hne : text = []
  · rw [hne, strip_eq_nil_iff]
    simpa [or_imp, forall_and] using And.intro hleft hright
  · have hstart : (left ++ (text ++ right)).dropWhile isBlank = text ++ right := by
      refine dropWhile_append_of_head? hleft fun c hc => htext.head c ?_
      rwa [List.head?_append_of_ne_nil text hne] at hc
    have hend : (right.reverse ++ text.reverse).dropWhile isBlank = text.reverse := by
      refine dropWhile_append_of_head? (fun c hc => hright c (List.mem_reverse.mp hc)) fun c hc => htext.last c ?_
      rwa [List.head?_reverse] at hc
    rw [strip, stripWhile, List.append_assoc, hstart, dropEndWhile, List.reverse_append, hend, List.reverse_reverse]

/-- Nothing is trimmed from a text exactly if no blank stands at either end. -/
theorem strip_eq_self_iff {text : Text} : strip text = text ↔ text.IsTrimmed := by
  constructor
  · intro h
    have hend : strip text <+: text.dropWhile isBlank := List.rdropWhile_prefix isBlank _
    have hstart : text.dropWhile isBlank <:+ text := List.dropWhile_suffix isBlank
    rw [h] at hend
    have hdrop : text.dropWhile isBlank = text := hstart.eq_of_length_le hend.length_le
    have hrdrop : text.rdropWhile isBlank = text := by
      conv_rhs => rw [← h, strip, stripWhile, hdrop]
      rfl
    constructor
    · intro c hc
      obtain ⟨rest, rfl⟩ := List.head?_eq_some_iff.mp hc
      exact Bool.eq_false_iff.mpr (List.dropWhile_eq_self_iff.mp hdrop (by simp))
    · intro c hc
      obtain ⟨rest, rfl⟩ := List.getLast?_eq_some_iff.mp hc
      simpa using List.rdropWhile_eq_self_iff.mp hrdrop (by simp)
  · intro h
    have hnone : ∀ c ∈ ([] : Text), isBlank c = true := by simp
    simpa using strip_padded hnone h hnone

/-- A beginning without blanks is kept, and only the end of the text behind it is trimmed. -/
theorem strip_append {start : Text} (hne : start ≠ []) (h : ∀ c ∈ start, isBlank c = false) (text : Text) :
    strip (start ++ text) = start ++ dropEndWhile isBlank text := by
  have hdrop : ∀ {front : Text}, front ≠ [] → (∀ c ∈ front, isBlank c = false) → ∀ back,
      (front ++ back).dropWhile isBlank = front ++ back := by
    intro front hfront hblank back
    obtain ⟨c, front, rfl⟩ := List.exists_cons_of_ne_nil hfront
    exact List.dropWhile_cons_of_neg (by simp [hblank c])
  have hback : start.reverse.dropWhile isBlank = start.reverse := by
    simpa using hdrop (by simpa using hne : start.reverse ≠ []) (by simpa using h) []
  rw [strip, stripWhile, hdrop hne h, dropEndWhile, dropEndWhile, List.reverse_append, List.dropWhile_append]
  split_ifs with hblank
  · rw [hback, List.isEmpty_iff.mp hblank, List.reverse_reverse]
    exact (List.append_nil start).symm
  · rw [List.reverse_append, List.reverse_reverse]

end BraceLink.Text
