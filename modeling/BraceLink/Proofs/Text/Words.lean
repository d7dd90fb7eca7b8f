import BraceLink.Proofs.Text.Split
import Mathlib.Data.List.SplitBy

/-!
# Words between blanks

`Text.words` gives the runs of characters between the blanks of a text, and every one of them is a word
(`mem_words`): it is not empty and holds no blank. A text is read in two steps wherever a word and a blank meet
(`words_append`), so a list of texts comes back from between single blanks exactly if it is a list of words
(`words_join_eq_self_iff`).
-/

namespace BraceLink.Text

/-- The text is not empty and holds no blank. -/
structure IsWord (text : Text) : Prop where
  ne_nil : text ≠ []
  not_blank : ∀ c ∈ text, isBlank c = false

theorem mem_words {word text : Text} (h : word ∈ words text) : word.IsWord := by
  obtain ⟨hrun, hblank⟩ := List.mem_filter.mp h
  exact ⟨List.ne_nil_of_mem_splitBy hrun, by simpa using hblank⟩

theorem words_of_isWord {word : Text} (h : word.IsWord) : words word = [word] := by
  have hrun : word.IsChain fun a b => (isBlank a == isBlank b) = true := by
    apply List.Pairwise.isChain
    apply List.pairwise_of_forall_mem_list
    intro a ha b hb
    rw [h.not_blank a ha, h.not_blank b hb]
    rfl
  have hkept : word.any isBlank = false := by
    simpa using h.not_blank
  rw [words, List.splitBy_of_isChain h.ne_nil hrun]
  simp [hkept]

/-- A text may be cut where a blank stands beside another character. -/
theorem words_append {front back : Text}
    (h : ∀ c ∈ front.getLast?, ∀ d ∈ back.head?, isBlank c ≠ isBlank d) :
    words (front ++ back) = words front ++ words back := by
  rw [words, words, words, List.splitBy_append, List.filter_append]
  intro c hc d hd
  simpa using h c hc d hd

theorem head?_join (sep : Text) {piece : Text} (h : piece ≠ []) (pieces : List Text) :
    (join sep (piece :: pieces)).head? = piece.head? := by
  cases pieces with
  | nil => rfl
  | cons next pieces =>
    rw [join, List.append_assoc]
    exact List.head?_append_of_ne_nil piece h

theorem words_join {pieces : List Text} (h : ∀ piece ∈ pieces, piece.IsWord) :
    words (join [' '] pieces) = pieces := by
  induction pieces with
  | nil => rfl
  | cons word pieces ih =>
    obtain ⟨hword, hpieces⟩ := List.forall_mem_cons.mp h
    cases pieces with
    | nil => exact words_of_isWord hword
    | cons next pieces =>
      have hblank : words [' '] = [] := rfl
      have hnext := hpieces next List.mem_cons_self
      -- the blank stands between the end of one word and the beginning of the next one
      have hbehind : words ([' '] ++ join [' '] (next :: pieces)) = next :: pieces := by
        rw [words_append, hblank, ih hpieces]
        · rfl
        · intro c hc d hd
          rw [head?_join [' '] hnext.ne_nil] at hd
          rw [← Option.mem_some.mp hc, hnext.not_blank d (List.mem_of_mem_head? hd)]
          decide
      rw [join, List.append_assoc, words_append, hbehind, words_of_isWord hword]
      · rfl
      · intro c hc d hd
        rw [hword.not_blank c (List.mem_of_mem_getLast? hc), ← Option.mem_some.mp hd]
        decide

/-- **Words come back from between blanks**, and nothing else does. -/
theorem words_join_eq_self_iff {pieces : List Text} :
    words (join [' '] pieces) = pieces ↔ ∀ piece ∈ pieces, piece.IsWord := by
  refine ⟨fun h piece hpiece => ?_, words_join⟩
  rw [← h] at hpiece
  exact mem_words hpiece

end BraceLink.Text
