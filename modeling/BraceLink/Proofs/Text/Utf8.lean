import BraceLink.Text.Utf8
import Mathlib.Data.List.Basic

/-!
# Reading bytes as characters

Bytes are read as a text exactly if they are the bytes of that text (`decode?_eq_some_iff`): no other bytes
are accepted, and none that a text has are refused.
-/

namespace BraceLink.Utf8

theorem toNat_ofNat {n : Nat} (h : n.isValidChar) : (Char.ofNat n).toNat = n := by
  rw [Char.ofNat, dif_pos h]
  rfl

theorem toNat_isValidChar (c : Char) : c.toNat < 0xD800 ∨ 0xDFFF < c.toNat ∧ c.toNat < 0x110000 := c.valid

theorem isTail_iff {byte : Nat} : isTail byte = true ↔ 0x80 ≤ byte ∧ byte < 0xC0 := by
  rw [isTail, Bool.and_eq_true, decide_eq_true_eq, decide_eq_true_eq]

/-! ### One character -/

theorem next?_ofChar_append (c : Char) (rest : List Nat) : next? (ofChar c ++ rest) = some (c, rest) := by
  have hvalid := toNat_isValidChar c
  have hread : ∀ n, n = c.toNat → some (Char.ofNat n, rest) = some (c, rest) := by
    rintro n rfl
    rw [Char.ofNat_toNat]
  unfold ofChar
  dsimp only
  split_ifs with hone htwo hthree
  · show next? (c.toNat :: rest) = _
    unfold next?
    dsimp only
    rw [if_pos hone]
    exact hread _ rfl
  · simp only [List.cons_append, List.nil_append, next?]
    rw [if_neg (by omega), if_neg (by omega), if_pos (by omega), if_pos (isTail_iff.mpr (by omega))]
    exact hread _ (by omega)
  · simp only [List.cons_append, List.nil_append, next?]
    rw [if_neg (by omega), if_neg (by omega), if_neg (by omega), if_pos (by omega), if_pos]
    · exact hread _ (by omega)
    · simp only [Bool.and_eq_true, Bool.not_eq_true', Bool.and_eq_false_iff, decide_eq_true_eq, decide_eq_false_iff_not,
        isTail_iff]
      omega
  · simp only [List.cons_append, List.nil_append, next?]
    rw [if_neg (by omega), if_neg (by omega), if_neg (by omega), if_neg (by omega), if_pos (by omega), if_pos]
    · exact hread _ (by omega)
    · simp only [Bool.and_eq_true, decide_eq_true_eq, isTail_iff]
      omega

theorem ofChar_ofNat {n : Nat} (h : n.isValidChar) :
    ofChar (Char.ofNat n) =
      if n < 0x80 then [n]
      else if n < 0x800 then [0xC0 + n / 64, 0x80 + n % 64]
      else if n < 0x10000 then [0xE0 + n / 4096, 0x80 + n / 64 % 64, 0x80 + n % 64]
      else [0xF0 + n / 262144, 0x80 + n / 4096 % 64, 0x80 + n / 64 % 64, 0x80 + n % 64] := by
  rw [ofChar, toNat_ofNat h]

theorem eq_ofChar_append {bytes rest : List Nat} {c : Char} (h : next? bytes = some (c, rest)) :
    bytes = ofChar c ++ rest := by
  unfold next? at h
  split at h
  · cases h
  -- One case for each number of bytes. What the bytes are checked for makes their number a character.
  · next a tail =>
    split_ifs at h with hone hlow htwo hthree hfour
    · cases h
      have hvalid : a.isValidChar := Or.inl (by omega)
      rw [ofChar_ofNat hvalid, if_pos hone]
      rfl
    · split at h
      · next b tail =>
        split_ifs at h with htail
        rw [isTail_iff] at htail
        generalize hn : (a - 0xC0) * 64 + (b - 0x80) = n at h
        have hvalid : n.isValidChar := Or.inl (by omega)
        cases h
        rw [ofChar_ofNat hvalid, if_neg (by omega), if_pos (by omega)]
        simp only [List.cons_append, List.nil_append, List.cons.injEq, and_true]
        omega
      · cases h
    · split at h
      · next b c tail =>
        dsimp only at h
        generalize hn : (a - 0xE0) * 4096 + (b - 0x80) * 64 + (c - 0x80) = n at h
        split_ifs at h with htails
        simp only [Bool.and_eq_true, Bool.not_eq_true', Bool.and_eq_false_iff, decide_eq_true_eq,
          decide_eq_false_iff_not, isTail_iff] at htails
        have hvalid : n.isValidChar := by
          show n < 0xD800 ∨ 0xDFFF < n ∧ n < 0x110000
          omega
        cases h
        rw [ofChar_ofNat hvalid, if_neg (by omega), if_neg (by omega), if_pos (by omega)]
        simp only [List.cons_append, List.nil_append, List.cons.injEq, and_true]
        omega
      · cases h
    · split at h
      · next b c d tail =>
        dsimp only at h
        generalize hn : (a - 0xF0) * 262144 + (b - 0x80) * 4096 + (c - 0x80) * 64 + (d - 0x80) = n at h
        split_ifs at h with htails
        simp only [Bool.and_eq_true, decide_eq_true_eq, isTail_iff] at htails
        have hvalid : n.isValidChar := Or.inr (by omega)
        cases h
        rw [ofChar_ofNat hvalid, if_neg (by omega), if_neg (by omega), if_neg (by omega)]
        simp only [List.cons_append, List.nil_append, List.cons.injEq, and_true]
        omega
      · cases h

/-! ### Texts -/

theorem decode?_ofChar_append (c : Char) (rest : List Nat) :
    decode? (ofChar c ++ rest) = (decode? rest).map (c :: ·) := by
  rw [decode?]
  split
  · next found after h =>
    rw [next?_ofChar_append] at h
    cases h
    rfl
  · next h =>
    rw [next?_ofChar_append] at h
    cases h

theorem decode?_encode (text : Text) : decode? (encode text) = some text := by
  induction text with
  | nil =>
    show decode? [] = some []
    rw [decode?]
    rfl
  | cons c rest ih =>
    show decode? (ofChar c ++ encode rest) = some (c :: rest)
    rw [decode?_ofChar_append, ih]
    rfl

/-- **Bytes are read exactly.** -/
theorem decode?_eq_some_iff {bytes : List Nat} {text : Text} : decode? bytes = some text ↔ bytes = encode text := by
  refine ⟨fun h => ?_, fun h => h ▸ decode?_encode text⟩
  fun_induction decode? bytes generalizing text with
  | case1 bytes c rest hnext ih =>
    obtain ⟨tail, htail, rfl⟩ := Option.map_eq_some_iff.mp h
    rw [eq_ofChar_append hnext, ih htail]
    rfl
  | case2 bytes _ hempty =>
    cases h
    exact List.isEmpty_iff.mp hempty
  | case3 => cases h

end BraceLink.Utf8
