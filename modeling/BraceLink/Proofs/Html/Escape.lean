import BraceLink.Html.Escape
import Mathlib.Data.List.Infix

/-!
# Reading references back

A text either begins with one of the four `references`, which is read as its character, or with a character that
stays as it is; `unescape_induct` is the induction that follows. With it, an escaped text is read back
(`unescape_escape`), and a text that holds no reference is read as it is, and no other one (`unescape_eq_self_iff`).
The escaped texts are those without marks in which every ampersand begins a reference (`isEscaped_iff`).
-/

namespace BraceLink.Html

/-- What follows the ampersand of a reference, and the character that it stands for. -/
def references : List (Text × Char) := [("amp;", '&'), ("lt;", '<'), ("gt;", '>'), ("quot;", '\x22')]

def StartsReference (text : Text) : Prop := ∃ reference ∈ references, '&' :: reference.1 <+: text

/-- A reference stands somewhere in the text. -/
def HoldsReference (text : Text) : Prop := ∃ reference ∈ references, '&' :: reference.1 <:+: text

theorem unescape_reference {reference : Text × Char} (h : reference ∈ references) (rest : Text) :
    unescape ('&' :: reference.1 ++ rest) = reference.2 :: unescape rest := by
  simp only [references, List.mem_cons, List.not_mem_nil, or_false] at h
  rcases h with rfl | rfl | rfl | rfl
  · exact unescape.eq_2 rest
  · exact unescape.eq_3 rest
  · exact unescape.eq_4 rest
  · exact unescape.eq_5 rest

theorem unescape_char {c : Char} {rest : Text} (h : ¬ StartsReference (c :: rest)) :
    unescape (c :: rest) = c :: unescape rest := by
  have hnot : ∀ reference ∈ references, ∀ after, c :: rest ≠ '&' :: reference.1 ++ after := by
    intro reference hmem after heq
    exact h ⟨reference, hmem, after, heq.symm⟩
  rw [unescape]
  · rintro after rfl rfl
    exact hnot ("amp;", '&') (by decide) after rfl
  · rintro after rfl rfl
    exact hnot ("lt;", '<') (by decide) after rfl
  · rintro after rfl rfl
    exact hnot ("gt;", '>') (by decide) after rfl
  · rintro after rfl rfl
    exact hnot ("quot;", '\x22') (by decide) after rfl

theorem unescape_cons {c : Char} (h : c ≠ '&') (rest : Text) : unescape (c :: rest) = c :: unescape rest := by
  refine unescape_char ?_
  rintro ⟨reference, -, hprefix⟩
  exact h (List.cons_prefix_cons.mp hprefix).1.symm

/-- Induction along the way in which a text is read: reference by reference, and character by character where no
reference begins. -/
theorem unescape_induct {motive : Text → Prop} (nil : motive [])
    (reference : ∀ reference ∈ references, ∀ rest, motive rest → motive ('&' :: reference.1 ++ rest))
    (char : ∀ c rest, ¬ StartsReference (c :: rest) → motive rest → motive (c :: rest)) (text : Text) :
    motive text := by
  match text with
  | [] => exact nil
  | c :: rest =>
    by_cases h : StartsReference (c :: rest)
    · obtain ⟨found, hmem, after, hafter⟩ := h
      have hshort : after.length < rest.length + 1 := by
        rw [← List.length_cons, ← hafter, List.length_append, List.length_cons]
        omega
      rw [← hafter]
      exact reference found hmem after (unescape_induct nil reference char after)
    · exact char c rest h (unescape_induct nil reference char rest)
termination_by text.length

/-! ### Texts side by side -/

theorem unescape_append_of_not_mem {text : Text} (h : '&' ∉ text) (more : Text) :
    unescape (text ++ more) = text ++ unescape more := by
  induction text with
  | nil => rfl
  | cons c text ih =>
    have hc : c ≠ '&' := fun hc => h (by simp [hc])
    rw [List.cons_append, unescape_cons hc, ih fun hmem => h (by simp [hmem]), List.cons_append]

/-- Two texts are read on their own if the second one does not go on with a reference of the first. -/
theorem unescape_append {more : Text}
    (h : ∀ c, more.head? = some c → ∀ reference ∈ references, c ∉ reference.1) (text : Text) :
    unescape (text ++ more) = unescape text ++ unescape more := by
  induction text using unescape_induct with
  | nil => rfl
  | reference reference hmem rest ih =>
    rw [List.append_assoc, unescape_reference hmem, unescape_reference hmem, ih, List.cons_append]
  | char c rest hstart ih =>
    have happend : ¬ StartsReference (c :: (rest ++ more)) := by
      rintro ⟨reference, hmem, hprefix⟩
      obtain ⟨rfl, hbody⟩ := List.cons_prefix_cons.mp hprefix
      have hrest : ¬ reference.1 <+: rest := fun hrest =>
        hstart ⟨reference, hmem, List.cons_prefix_cons.mpr ⟨rfl, hrest⟩⟩
      -- otherwise the reference ends in the second text
      obtain ⟨tail, htail⟩ := (List.prefix_or_prefix_of_prefix hbody (List.prefix_append _ _)).resolve_left hrest
      cases tail with
      | nil => exact hrest ⟨[], by simpa using htail.symm⟩
      | cons d tail =>
        rw [← htail, List.prefix_append_right_inj] at hbody
        obtain ⟨after, rfl⟩ := hbody
        exact h d rfl reference hmem (htail ▸ by simp)
    rw [List.cons_append, unescape_char happend, unescape_char hstart, ih, List.cons_append]

/-! ### Texts without references -/

theorem holdsReference_cons_iff {c : Char} {rest : Text} :
    HoldsReference (c :: rest) ↔ StartsReference (c :: rest) ∨ HoldsReference rest := by
  simp only [HoldsReference, StartsReference, List.infix_cons_iff, and_or_left, exists_or]

theorem length_unescape_le (text : Text) : (unescape text).length ≤ text.length := by
  induction text using unescape_induct with
  | nil => exact le_rfl
  | reference reference hmem rest ih =>
    rw [unescape_reference hmem]
    simp only [List.length_cons, List.length_append, List.cons_append]
    omega
  | char c rest h ih =>
    rw [unescape_char h]
    simpa using ih

theorem unescape_eq_self_iff {text : Text} : unescape text = text ↔ ¬ HoldsReference text := by
  induction text using unescape_induct with
  | nil => simp [unescape, HoldsReference, references]
  | reference reference hmem rest ih =>
    have hholds : HoldsReference ('&' :: reference.1 ++ rest) :=
      ⟨reference, hmem, (List.prefix_append _ _).isInfix⟩
    refine iff_of_false (fun heq => ?_) (not_not_intro hholds)
    -- the reference has been read as one character
    have hlength := congrArg List.length heq
    have hrest := length_unescape_le rest
    have hne : reference.1 ≠ [] := by
      simp only [references, List.mem_cons, List.not_mem_nil, or_false] at hmem
      rcases hmem with rfl | rfl | rfl | rfl <;> simp
    have hpos := List.length_pos_of_ne_nil hne
    rw [unescape_reference hmem] at hlength
    simp only [List.length_cons, List.length_append, List.cons_append] at hlength
    omega
  | char c rest h ih =>
    rw [unescape_char h, holdsReference_cons_iff, or_iff_right h, ← ih]
    simp

/-! ### Escaped texts -/

theorem escapeChar_cases (c : Char) :
    (∃ reference ∈ references, reference.2 = c ∧ escapeChar c = '&' :: reference.1) ∨
      (c ∉ (['&', '<', '>', '\x22'] : Text) ∧ escapeChar c = [c]) := by
  unfold escapeChar
  split_ifs with hamp hless hgreater hquote
  · exact Or.inl ⟨("amp;", '&'), by decide, hamp.symm, rfl⟩
  · exact Or.inl ⟨("lt;", '<'), by decide, hless.symm, rfl⟩
  · exact Or.inl ⟨("gt;", '>'), by decide, hgreater.symm, rfl⟩
  · exact Or.inl ⟨("quot;", '\x22'), by decide, hquote.symm, rfl⟩
  · exact Or.inr ⟨by simp [hamp, hless, hgreater, hquote], rfl⟩

theorem escape_cons (c : Char) (rest : Text) : escape (c :: rest) = escapeChar c ++ escape rest := rfl

theorem unescape_escapeChar_append (c : Char) (rest : Text) :
    unescape (escapeChar c ++ rest) = c :: unescape rest := by
  rcases escapeChar_cases c with ⟨reference, hmem, rfl, hshown⟩ | ⟨hplain, hshown⟩
  · rw [hshown]
    exact unescape_reference hmem rest
  · rw [hshown]
    apply unescape_cons
    rintro rfl
    exact hplain (by decide)

/-- **What is escaped is read back.** -/
theorem unescape_escape (text : Text) : unescape (escape text) = text := by
  induction text with
  | nil => rfl
  | cons c rest ih => rw [escape_cons, unescape_escapeChar_append, ih]

theorem escape_injective : Function.Injective escape := Function.LeftInverse.injective unescape_escape

theorem not_mem_escape {c : Char} (h : c = '<' ∨ c = '>' ∨ c = '\x22') (text : Text) : c ∉ escape text := by
  have hmarks : ∀ reference ∈ references, '<' ∉ '&' :: reference.1 ∧ '>' ∉ '&' :: reference.1 ∧
      '\x22' ∉ '&' :: reference.1 := by decide
  intro hmem
  obtain ⟨d, -, hd⟩ := List.mem_flatMap.mp hmem
  rcases escapeChar_cases d with ⟨reference, hreference, -, hshown⟩ | ⟨hplain, hshown⟩
  · obtain ⟨hless, hgreater, hquote⟩ := hmarks reference hreference
    rw [hshown] at hd
    rcases h with rfl | rfl | rfl
    · exact hless hd
    · exact hgreater hd
    · exact hquote hd
  · rw [hshown] at hd
    obtain rfl := List.mem_singleton.mp hd
    apply hplain
    rcases h with rfl | rfl | rfl <;> decide

/-- The text may stand in an attribute or between tags: it holds no mark of a tag and no quotation mark, and every
ampersand in it begins a reference. -/
structure IsEscaped (text : Text) : Prop where
  marks : ∀ c ∈ (['<', '>', '\x22'] : Text), c ∉ text
  ampersand : ∀ before after, text = before ++ '&' :: after → StartsReference ('&' :: after)

theorem IsEscaped.of_append {front text : Text} (h : IsEscaped (front ++ text)) : IsEscaped text := by
  constructor
  · intro c hc hmem
    exact h.marks c hc (List.mem_append_right front hmem)
  · rintro before after rfl
    apply h.ampersand (front ++ before)
    simp

theorem exists_of_append_eq {front back before after : Text} (hfront : '&' ∉ front)
    (h : front ++ back = before ++ '&' :: after) : ∃ between, back = between ++ '&' :: after := by
  rcases List.append_eq_append_iff.mp h with ⟨between, -, hback⟩ | ⟨rest, rfl, hafter⟩
  · exact ⟨between, hback⟩
  · cases rest with
    | nil => exact ⟨[], hafter.symm⟩
    | cons c rest =>
      obtain ⟨rfl, -⟩ := List.cons.inj hafter
      exact absurd (by simp) hfront

theorem isEscaped_escape (text : Text) : IsEscaped (escape text) := by
  refine ⟨fun c hc => not_mem_escape (by simpa using hc) text, ?_⟩
  have hbody : ∀ reference ∈ references, '&' ∉ reference.1 := by decide
  induction text with
  | nil =>
    intro before after h
    simp [escape] at h
  | cons c rest ih =>
    intro before after h
    rw [escape_cons] at h
    rcases escapeChar_cases c with ⟨reference, hmem, -, hshown⟩ | ⟨hplain, hshown⟩
    · rw [hshown] at h
      cases before with
      | nil =>
        rw [List.nil_append] at h
        rw [← h]
        exact ⟨reference, hmem, List.prefix_append _ _⟩
      | cons d before =>
        obtain ⟨between, hbetween⟩ := exists_of_append_eq (hbody reference hmem) (List.cons.inj h).2
        exact ih between after hbetween
    · have hfront : '&' ∉ escapeChar c := by
        rw [hshown, List.mem_singleton]
        rintro rfl
        exact hplain (by decide)
      obtain ⟨between, hbetween⟩ := exists_of_append_eq hfront h
      exact ih between after hbetween

theorem escape_unescape {text : Text} (h : IsEscaped text) : escape (unescape text) = text := by
  have hshown : ∀ reference ∈ references, escapeChar reference.2 = '&' :: reference.1 := by decide
  induction text using unescape_induct with
  | nil => rfl
  | reference reference hmem rest ih =>
    rw [unescape_reference hmem, escape_cons, hshown reference hmem, ih h.of_append]
  | char c rest hstart ih =>
    have hamp : c ≠ '&' := by
      rintro rfl
      exact hstart (h.ampersand [] rest rfl)
    have hmarks : ∀ d ∈ (['<', '>', '\x22'] : Text), c ≠ d := by
      rintro d hd rfl
      exact h.marks c hd List.mem_cons_self
    have hplain : escapeChar c = [c] := by
      simp only [List.forall_mem_cons] at hmarks
      simp [escapeChar, hamp, hmarks]
    have hcons : IsEscaped ([c] ++ rest) := h
    rw [unescape_char hstart, escape_cons, hplain, ih hcons.of_append]
    rfl

theorem isEscaped_iff {text : Text} : IsEscaped text ↔ escape (unescape text) = text := by
  refine ⟨escape_unescape, fun h => ?_⟩
  rw [← h]
  exact isEscaped_escape _

end BraceLink.Html
