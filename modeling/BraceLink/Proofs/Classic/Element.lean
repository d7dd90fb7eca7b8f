import BraceLink.Classic.Element
import BraceLink.Proofs.Html.Escape

/-!
# What the serializer writes

An ampersand that looks like the beginning of a reference is written as it is. So a text is not always read
back: what is read is the text with the references of its own read as well (`unescape_write`).
-/

namespace BraceLink.Classic.Element

open Html (unescape references StartsReference)

/-- A character as it is written in front of the rest of a text; in attributes quotation marks are escaped. -/
def writeChar (quoted : Bool) (c : Char) (rest : Text) : Text :=
  if c = '&' then if startsReference rest then ['&'] else "&amp;"
  else if c = '<' then "&lt;"
  else if c = '>' then "&gt;"
  else if quoted = true ∧ c = '\x22' then "&quot;"
  else [c]

/-- A text as it is written, between tags or in an attribute. -/
def write (quoted : Bool) (text : Text) : Text :=
  if quoted then escapeAttribute text else escapeText text

variable {quoted : Bool}

theorem write_nil : write quoted [] = [] := by
  cases quoted <;> rfl

theorem write_cons (c : Char) (rest : Text) :
    write quoted (c :: rest) = writeChar quoted c rest ++ write quoted rest := by
  have hmarks : escapeMarks (c :: rest) =
      (if c = '&' then if startsReference rest then ['&'] else "&amp;" else [c]) ++ escapeMarks rest := by
    by_cases hc : c = '&'
    · rw [hc, escapeMarks, if_pos rfl]
    · rw [escapeMarks, if_neg hc, List.singleton_append]
      exact hc
  have htext : escapeText (c :: rest) = writeChar false c rest ++ escapeText rest := by
    rw [escapeText, hmarks, List.flatMap_append, writeChar]
    congr 1
    by_cases hamp : c = '&'
    · rw [if_pos hamp, if_pos hamp]
      split_ifs <;> rfl
    · rw [if_neg hamp, if_neg hamp, List.flatMap_singleton, if_neg (by simp : ¬ (false = true ∧ c = '\x22'))]
  cases quoted with
  | false => exact htext
  | true =>
    change escapeAttribute (c :: rest) = _ ++ escapeAttribute rest
    rw [escapeAttribute, htext, List.flatMap_append]
    congr 1
    by_cases hamp : c = '&'
    · rw [writeChar, if_pos hamp, writeChar, if_pos hamp]
      split_ifs <;> rfl
    by_cases hless : c = '<'
    · rw [hless]
      rfl
    by_cases hgreater : c = '>'
    · rw [hgreater]
      rfl
    · simp only [writeChar, if_neg hamp, if_neg hless, if_neg hgreater, true_and, Bool.false_eq_true, false_and,
        if_false, List.flatMap_singleton]

theorem writeChar_eq (quoted : Bool) (c : Char) (rest : Text) :
    (∃ more, writeChar quoted c rest = '&' :: more) ∨ writeChar quoted c rest = [c] := by
  unfold writeChar
  split_ifs
  · exact Or.inl ⟨_, rfl⟩
  · exact Or.inl ⟨_, rfl⟩
  · exact Or.inl ⟨_, rfl⟩
  · exact Or.inl ⟨_, rfl⟩
  · exact Or.inl ⟨_, rfl⟩
  · exact Or.inr rfl

theorem prefix_of_prefix_write {start text : Text} (hstart : '&' ∉ start) (h : start <+: write quoted text) :
    start <+: text := by
  induction start generalizing text with
  | nil => exact List.nil_prefix
  | cons c start ih =>
    cases text with
    | nil =>
      rw [write_nil] at h
      exact absurd (List.prefix_nil.mp h) (by simp)
    | cons d rest =>
      rw [write_cons] at h
      rcases writeChar_eq quoted d rest with ⟨more, hmore⟩ | hself
      · rw [hmore] at h
        obtain ⟨rfl, -⟩ := List.cons_prefix_cons.mp h
        simp at hstart
      · rw [hself] at h
        obtain ⟨rfl, hrest⟩ := List.cons_prefix_cons.mp h
        exact List.cons_prefix_cons.mpr ⟨rfl, ih (fun hmem => hstart (by simp [hmem])) hrest⟩

theorem write_reference {reference : Text × Char} (h : reference ∈ references) (rest : Text) :
    write quoted ('&' :: reference.1 ++ rest) = '&' :: reference.1 ++ write quoted rest := by
  -- the ampersand looks like the beginning of a reference, and no other character is escaped
  simp only [references, List.mem_cons, List.not_mem_nil, or_false] at h
  have hstarts : startsReference (reference.1 ++ rest) = true := by
    rcases h with rfl | rfl | rfl | rfl <;> rfl
  have hbody : ∀ {body : Text}, (∀ c ∈ body, c ∉ ['&', '<', '>', '\x22']) →
      write quoted (body ++ rest) = body ++ write quoted rest := by
    intro body
    induction body with
    | nil => exact fun _ => rfl
    | cons c body ih =>
      intro hchars
      have hc := hchars c (by simp)
      simp only [List.mem_cons, List.not_mem_nil, not_or] at hc
      rw [List.cons_append, write_cons, ih fun d hd => hchars d (by simp [hd])]
      simp [writeChar, hc]
  rw [List.cons_append, write_cons, writeChar, if_pos rfl, if_pos hstarts, hbody, List.singleton_append]
  · rfl
  · rcases h with rfl | rfl | rfl | rfl <;> simp

/-- **What is written is read with its own references.** -/
theorem unescape_write (text : Text) : unescape (write quoted text) = unescape text := by
  induction text using Html.unescape_induct with
  | nil => rw [write_nil]
  | reference reference hmem rest ih =>
    rw [write_reference hmem, Html.unescape_reference hmem, Html.unescape_reference hmem, ih]
  | char c rest hstart ih =>
    rw [write_cons, Html.unescape_char hstart, ← ih]
    unfold writeChar
    split_ifs with hamp hlooks hless hgreater hquote
    · -- an ampersand that is left alone starts no reference afterwards either
      rw [hamp, List.singleton_append]
      refine Html.unescape_char ?_
      rintro ⟨reference, hmem, hprefix⟩
      have hbody : '&' ∉ reference.1 := by
        simp only [references, List.mem_cons, List.not_mem_nil, or_false] at hmem
        rcases hmem with rfl | rfl | rfl | rfl <;> decide
      have hrest := prefix_of_prefix_write hbody (List.cons_prefix_cons.mp hprefix).2
      exact hstart ⟨reference, hmem, List.cons_prefix_cons.mpr ⟨hamp.symm, hrest⟩⟩
    · rw [hamp]
      exact Html.unescape_reference (by decide : (("amp;" : Text), '&') ∈ references) _
    · rw [hless]
      exact Html.unescape_reference (by decide : (("lt;" : Text), '<') ∈ references) _
    · rw [hgreater]
      exact Html.unescape_reference (by decide : (("gt;" : Text), '>') ∈ references) _
    · rw [hquote.2]
      exact Html.unescape_reference (by decide : (("quot;" : Text), '\x22') ∈ references) _
    · exact Html.unescape_cons hamp _

/-- Marks of tags do not stand in what is written, and no quotation marks in an attribute. -/
theorem not_mem_write {c : Char} (h : c = '<' ∨ c = '>' ∨ (quoted = true ∧ c = '\x22')) (text : Text) :
    c ∉ write quoted text := by
  induction text with
  | nil => simp [write_nil]
  | cons d rest ih =>
    rw [write_cons, List.mem_append, not_or]
    refine ⟨fun hmem => ?_, ih⟩
    unfold writeChar at hmem
    split_ifs at hmem with hamp hlooks hless hgreater hquote
    · rcases h with rfl | rfl | ⟨-, rfl⟩ <;> exact absurd hmem (by decide)
    · rcases h with rfl | rfl | ⟨-, rfl⟩ <;> exact absurd hmem (by decide)
    · rcases h with rfl | rfl | ⟨-, rfl⟩ <;> exact absurd hmem (by decide)
    · rcases h with rfl | rfl | ⟨-, rfl⟩ <;> exact absurd hmem (by decide)
    · rcases h with rfl | rfl | ⟨-, rfl⟩ <;> exact absurd hmem (by decide)
    · obtain rfl := List.mem_singleton.mp hmem
      rcases h with h | h | h
      · exact hless h
      · exact hgreater h
      · exact hquote h

end BraceLink.Classic.Element
