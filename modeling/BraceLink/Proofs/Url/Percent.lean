import BraceLink.Url.Percent
import Mathlib.Data.List.Basic

/-!
# Escaped texts

What `escape` writes consists of plain characters and percent signs (`mem_escape`), and what begins with other
characters than an escape began with them before (`exists_of_escape_eq_append`). It works piece by piece
wherever the second piece does not begin with a hexadecimal digit (`escape_append`), and nothing is escaped
twice (`escape_escape`).
-/

namespace BraceLink.Url

/-! ### Classes of characters -/

theorem ascii_cases {p : Char → Prop} (h : ∀ n < 128, p (Char.ofNat n)) {c : Char}
    (hc : c.toNat < 128) : p c := by
  have hchar := h c.toNat hc
  rwa [Char.ofNat_toNat] at hchar

theorem toNat_lt_of_isAlphanum {c : Char} (h : c.isAlphanum = true) : c.toNat < 128 := by
  delta Char.isAlphanum Char.isAlpha Char.isUpper Char.isLower Char.isDigit at h
  simp only [Bool.or_eq_true, Bool.and_eq_true, decide_eq_true_eq, UInt32.le_iff_toNat_le, ge_iff_le] at h
  change ((65 ≤ c.toNat ∧ c.toNat ≤ 90) ∨ (97 ≤ c.toNat ∧ c.toNat ≤ 122)) ∨
    (48 ≤ c.toNat ∧ c.toNat ≤ 57) at h
  omega

theorem toNat_lt_of_isPlain {c : Char} (h : isPlain c = true) : c.toNat < 128 := by
  rw [isPlain, Bool.or_eq_true, decide_eq_true_eq] at h
  rcases h with halnum | hmark
  · exact toNat_lt_of_isAlphanum halnum
  · have hmarks : plainMarks.all (fun c => decide (c.toNat < 128)) = true := by decide
    simpa using List.all_eq_true.mp hmarks c hmark

theorem isPlain_of_isHexDigit {c : Char} (h : Text.isHexDigit c = true) : isPlain c = true := by
  have hascii : c.toNat < 128 := by
    rw [Text.isHexDigit, Text.hexValue?] at h
    simp only [Char.le_def, UInt32.le_iff_toNat_le] at h
    change Option.isSome (if 48 ≤ c.toNat ∧ c.toNat ≤ 57 then _
      else if 97 ≤ c.toNat ∧ c.toNat ≤ 102 then _
      else if 65 ≤ c.toNat ∧ c.toNat ≤ 70 then _ else _) = true at h
    split_ifs at h
    · omega
    · omega
    · omega
    · simp at h
  exact ascii_cases (p := fun c => Text.isHexDigit c = true → isPlain c = true) (by decide) hascii h

theorem ne_percent_of_isPlain {c : Char} (h : isPlain c = true) : c ≠ '%' := by
  rintro rfl
  exact absurd h (by decide)

theorem isHexDigit_hexDigitUpper {n : Nat} (h : n < 16) :
    Text.isHexDigit (Text.hexDigitUpper n) = true := by
  revert n
  decide

/-! ### Characters -/

theorem escapeChar_of_isPlain {c : Char} (h : isPlain c = true) : escapeChar c = [c] := if_pos h

theorem lt_of_mem_ofChar {c : Char} {byte : Nat} (h : byte ∈ Utf8.ofChar c) : byte < 256 := by
  have hc : c.toNat < 0x110000 := c.valid.elim (fun h => by change c.toNat < _ at h; omega) (·.2)
  unfold Utf8.ofChar at h
  dsimp only at h
  split_ifs at h <;> simp only [List.mem_cons, List.not_mem_nil, or_false] at h <;> omega

theorem escape_flatMap_escapeByte {bytes : List Nat} (h : ∀ byte ∈ bytes, byte < 256) (text : Text) :
    escape (bytes.flatMap escapeByte ++ text) = bytes.flatMap escapeByte ++ escape text := by
  induction bytes with
  | nil => rfl
  | cons byte bytes ih =>
    have hbyte : byte < 256 := h byte (by simp)
    have hhigh := isHexDigit_hexDigitUpper (n := byte / 16) (by omega)
    have hlow := isHexDigit_hexDigitUpper (n := byte % 16) (by omega)
    rw [List.flatMap_cons, escapeByte]
    simp only [List.cons_append, List.nil_append, escape, hhigh, hlow, Bool.and_self, if_true]
    rw [ih fun other hother => h other (by simp [hother])]

theorem escape_cons {c : Char} (h : c ≠ '%') (rest : Text) :
    escape (c :: rest) = escapeChar c ++ escape rest := by
  rw [escape]
  rintro _ _ _ rfl
  exact absurd rfl h

theorem escape_percent_cons {rest : Text}
    (h : ∀ a b tail, rest = a :: b :: tail → (Text.isHexDigit a && Text.isHexDigit b) = false) :
    escape ('%' :: rest) = escapeChar '%' ++ escape rest := by
  rcases rest with _ | ⟨a, _ | ⟨b, rest⟩⟩
  · rfl
  · rfl
  · rw [escape, if_neg (by rw [h a b rest rfl]; simp)]

theorem escape_plain_cons {c : Char} (h : isPlain c = true) (rest : Text) :
    escape (c :: rest) = c :: escape rest := by
  rw [escape_cons (ne_percent_of_isPlain h), escapeChar_of_isPlain h]
  rfl

theorem escape_escapeChar_append (c : Char) (text : Text) :
    escape (escapeChar c ++ text) = escapeChar c ++ escape text := by
  by_cases hplain : isPlain c = true
  · rw [escapeChar_of_isPlain hplain]
    exact escape_plain_cons hplain text
  · rw [escapeChar, if_neg hplain]
    exact escape_flatMap_escapeByte (fun byte => lt_of_mem_ofChar) text

/-! ### Texts -/

/-- **Nothing is escaped twice.** -/
theorem escape_escape (text : Text) : escape (escape text) = escape text := by
  fun_induction escape text with
  | case1 => rfl
  | case2 a b rest hpair ih => rw [escape, if_pos hpair, ih]
  | case3 a b rest hpair ih => rw [escape_escapeChar_append, ih]
  | case4 c rest _ ih => rw [escape_escapeChar_append, ih]

/-- Two pieces are escaped on their own if the second one does not go on with an escape of the first. -/
theorem escape_append {text more : Text} (h : ∀ c, more.head? = some c → Text.isHexDigit c = false) :
    escape (text ++ more) = escape text ++ escape more := by
  fun_induction escape text with
  | case1 => rfl
  | case2 a b rest hpair ih =>
    simp only [List.cons_append, escape, if_pos hpair, ih]
  | case3 a b rest hpair ih =>
    rw [List.cons_append, List.cons_append, List.cons_append, escape, if_neg hpair,
      ← List.cons_append, ← List.cons_append, ih, List.append_assoc]
  | case4 c rest hshort ih =>
    by_cases hc : c = '%'
    · -- what is left of the first piece is too short for an escape
      subst hc
      have hpair : ∀ a b tail, rest ++ more = a :: b :: tail →
          (Text.isHexDigit a && Text.isHexDigit b) = false := by
        intro a b tail heq
        rcases rest with _ | ⟨x, _ | ⟨y, rest⟩⟩
        · have hmore : more = a :: b :: tail := heq
          rw [h a (by rw [hmore]; rfl), Bool.false_and]
        · have hmore : more = b :: tail := (List.cons.inj heq).2
          rw [h b (by rw [hmore]; rfl), Bool.and_false]
        · exact (hshort x y rest rfl rfl).elim
      rw [List.cons_append, escape_percent_cons hpair, ih, List.append_assoc]
    · rw [List.cons_append, escape_cons hc, ih, List.append_assoc]

theorem escape_append_of_not_mem {text : Text} (h : '%' ∉ text) (more : Text) :
    escape (text ++ more) = escape text ++ escape more := by
  induction text with
  | nil => rfl
  | cons c text ih =>
    have hc : c ≠ '%' := fun hc => h (by simp [hc])
    rw [List.cons_append, escape_cons hc, escape_cons hc, ih fun hmem => h (by simp [hmem]),
      List.append_assoc]

theorem escape_append_mark {c : Char} (hplain : isPlain c = true) (hdigit : Text.isHexDigit c = false)
    (text more : Text) : escape (text ++ c :: more) = escape text ++ c :: escape more := by
  rw [escape_append, escape_plain_cons hplain]
  intro d hd
  obtain rfl := Option.some.inj hd
  exact hdigit

theorem escape_eq_self {text : Text} (h : ∀ c ∈ text, isPlain c = true) : escape text = text := by
  induction text with
  | nil => rfl
  | cons c text ih =>
    rw [escape_plain_cons (h c (by simp)), ih fun other hother => h other (by simp [hother])]

theorem mem_escape {c : Char} {text : Text} (h : c ∈ escape text) :
    c = '%' ∨ Text.isHexDigit c = true ∨ (c ∈ text ∧ isPlain c = true) := by
  have hchar : ∀ d, c ∈ escapeChar d →
      c = '%' ∨ Text.isHexDigit c = true ∨ (c = d ∧ isPlain c = true) := by
    intro d hd
    by_cases hplain : isPlain d = true
    · rw [escapeChar_of_isPlain hplain, List.mem_singleton] at hd
      exact Or.inr (Or.inr ⟨hd, hd ▸ hplain⟩)
    · rw [escapeChar, if_neg hplain, List.mem_flatMap] at hd
      obtain ⟨byte, hbyte, hmem⟩ := hd
      have hlt := lt_of_mem_ofChar hbyte
      simp only [escapeByte, List.mem_cons, List.not_mem_nil, or_false] at hmem
      rcases hmem with rfl | rfl | rfl
      · exact Or.inl rfl
      · exact Or.inr (Or.inl (isHexDigit_hexDigitUpper (by omega)))
      · exact Or.inr (Or.inl (isHexDigit_hexDigitUpper (by omega)))
  fun_induction escape text with
  | case1 => simp at h
  | case2 a b rest hpair ih =>
    rw [Bool.and_eq_true] at hpair
    simp only [List.mem_cons] at h
    rcases h with rfl | rfl | rfl | h
    · exact Or.inl rfl
    · exact Or.inr (Or.inl hpair.1)
    · exact Or.inr (Or.inl hpair.2)
    · exact (ih h).imp_right (Or.imp_right fun hmem => ⟨by simp [hmem.1], hmem.2⟩)
  | case3 a b rest hpair ih =>
    rcases List.mem_append.mp h with h | h
    · exact (hchar _ h).imp_right (Or.imp_right fun hmem => ⟨by simp [hmem.1], hmem.2⟩)
    · exact (ih h).imp_right (Or.imp_right fun hmem =>
        ⟨List.mem_cons_of_mem _ hmem.1, hmem.2⟩)
  | case4 d rest _ ih =>
    rcases List.mem_append.mp h with h | h
    · exact (hchar _ h).imp_right (Or.imp_right fun hmem => ⟨by simp [hmem.1], hmem.2⟩)
    · exact (ih h).imp_right (Or.imp_right fun hmem => ⟨by simp [hmem.1], hmem.2⟩)

theorem isPlain_or_percent_of_mem_escape {c : Char} {text : Text} (h : c ∈ escape text) :
    isPlain c = true ∨ c = '%' := by
  rcases mem_escape h with hpercent | hdigit | hmem
  · exact Or.inr hpercent
  · exact Or.inl (isPlain_of_isHexDigit hdigit)
  · exact Or.inl hmem.2

set_option maxRecDepth 4000 in
theorem toNat_of_isPlain {c : Char} (h : isPlain c = true) : 0x20 < c.toNat ∧ c.toNat < 0x7F :=
  ascii_cases (p := fun c => isPlain c = true → 0x20 < c.toNat ∧ c.toNat < 0x7F) (by decide)
    (toNat_lt_of_isPlain h) h

theorem toNat_of_mem_escape {text : Text} {c : Char} (h : c ∈ escape text) :
    0x20 < c.toNat ∧ c.toNat < 0x7F := by
  rcases isPlain_or_percent_of_mem_escape h with hplain | rfl
  · exact toNat_of_isPlain hplain
  · decide

theorem mem_of_mem_escape {c : Char} {text : Text} (hpercent : c ≠ '%')
    (hdigit : Text.isHexDigit c = false) (h : c ∈ escape text) : c ∈ text := by
  rcases mem_escape h with heq | hhex | hmem
  · exact absurd heq hpercent
  · simp [hdigit] at hhex
  · exact hmem.1

theorem exists_escapeChar {c : Char} (h : ¬ isPlain c = true) : ∃ more, escapeChar c = '%' :: more := by
  rw [escapeChar, if_neg h]
  unfold Utf8.ofChar
  dsimp only
  split_ifs <;> exact ⟨_, rfl⟩

theorem exists_escape_percent (rest : Text) : ∃ more, escape ('%' :: rest) = '%' :: more := by
  rcases rest with _ | ⟨a, _ | ⟨b, rest⟩⟩
  · exact ⟨_, rfl⟩
  · exact ⟨_, rfl⟩
  · rw [escape]
    split_ifs <;> exact ⟨_, rfl⟩

theorem length_le_length_escape (text : Text) : text.length ≤ (escape text).length := by
  have hchar : ∀ c, 0 < (escapeChar c).length := by
    intro c
    by_cases hplain : isPlain c = true
    · simp [escapeChar_of_isPlain hplain]
    · obtain ⟨more, hmore⟩ := exists_escapeChar hplain
      simp [hmore]
  fun_induction escape text with
  | case1 => simp
  | case2 a b rest hpair ih => simpa using ih
  | case3 a b rest hpair ih =>
    have := hchar '%'
    simp only [List.length_cons, List.length_append] at ih ⊢
    omega
  | case4 c rest _ ih =>
    have := hchar c
    simp only [List.length_cons, List.length_append]
    omega

theorem escape_eq_nil_iff {text : Text} : escape text = [] ↔ text = [] := by
  constructor
  · intro h
    have hlength := length_le_length_escape text
    rw [h] at hlength
    exact List.length_eq_zero_iff.mp (by simpa using hlength)
  · rintro rfl
    rfl

theorem exists_of_escape_eq_append {start text after : Text} (hstart : '%' ∉ start)
    (h : escape text = start ++ after) : ∃ rest, text = start ++ rest ∧ escape rest = after := by
  induction start generalizing text with
  | nil => exact ⟨text, rfl, h⟩
  | cons c start ih =>
    have hc : c ≠ '%' := fun hc => hstart (by simp [hc])
    cases text with
    | nil => simp [escape] at h
    | cons d text =>
      by_cases hd : d = '%'
      · subst hd
        obtain ⟨more, hmore⟩ := exists_escape_percent text
        rw [hmore] at h
        exact absurd (List.cons.inj h).1.symm hc
      · rw [escape_cons hd] at h
        by_cases hplain : isPlain d = true
        · rw [escapeChar_of_isPlain hplain] at h
          obtain ⟨hdc, hrest⟩ := List.cons.inj h
          obtain ⟨rest, rfl, hafter⟩ := ih (fun hmem => hstart (by simp [hmem])) hrest
          exact ⟨rest, by rw [hdc]; rfl, hafter⟩
        · obtain ⟨more, hmore⟩ := exists_escapeChar hplain
          rw [hmore] at h
          exact absurd (List.cons.inj h).1.symm hc

theorem head?_escape_iff {c : Char} (hplain : isPlain c = true) {text : Text} :
    (escape text).head? = some c ↔ text.head? = some c := by
  constructor
  · intro h
    obtain ⟨more, hmore⟩ := List.head?_eq_some_iff.mp h
    have hstart : '%' ∉ [c] := by simpa using (ne_percent_of_isPlain hplain).symm
    obtain ⟨rest, rfl, -⟩ := exists_of_escape_eq_append hstart hmore
    rfl
  · intro h
    obtain ⟨rest, rfl⟩ := List.head?_eq_some_iff.mp h
    rw [escape_plain_cons hplain]
    rfl

theorem not_mem_escape {c : Char} (hplain : isPlain c = false) (hpercent : c ≠ '%') (text : Text) :
    c ∉ escape text := fun hmem => by
  rcases isPlain_or_percent_of_mem_escape hmem with h | h
  · rw [hplain] at h
    exact absurd h (by simp)
  · exact hpercent h

theorem percent_mem_escape {c : Char} {text : Text} (hc : c ∈ text) (hplain : ¬ isPlain c = true) :
    '%' ∈ escape text := by
  by_contra hnot
  obtain ⟨rest, htext, hrest⟩ := exists_of_escape_eq_append hnot (List.append_nil _).symm
  rw [escape_eq_nil_iff.mp hrest, List.append_nil] at htext
  rw [htext] at hc
  rcases isPlain_or_percent_of_mem_escape hc with h | h
  · exact hplain h
  · exact hnot (h ▸ hc)

/-- If two pieces are escaped on their own, and together they are escaped already, each of them is. -/
theorem escape_eq_self_of_append {text more : Text}
    (happend : escape (text ++ more) = escape text ++ escape more)
    (h : escape (text ++ more) = text ++ more) : escape text = text ∧ escape more = more := by
  rw [happend] at h
  have htext := length_le_length_escape text
  have hmore := length_le_length_escape more
  have hlength := congrArg List.length h
  rw [List.length_append, List.length_append] at hlength
  exact List.append_inj h (by omega)

theorem isPlain_of_escape_eq_self {text : Text} (hpercent : '%' ∉ text) (h : escape text = text) :
    ∀ c ∈ text, isPlain c = true := by
  intro c hc
  by_contra hplain
  exact hpercent (h ▸ percent_mem_escape hc hplain)

end BraceLink.Url
