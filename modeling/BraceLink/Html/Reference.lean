import BraceLink.Html.Name
import BraceLink.Text.Punctuation

/-!
# References to characters

A reference stands for a character, by its name or by its number. `resolveAll` reads the references
and the escaped punctuation of a text.
-/

namespace BraceLink.Html

/-- Whether a number may stand for a character: surrogates, code points without a character for ever,
and most controls may not. -/
def isReferable (n : Nat) : Bool :=
  !(0xD800 ≤ n && n ≤ 0xDFFF) && !(0xFDD0 ≤ n && n ≤ 0xFDEF) &&
    n % 0x10000 ≠ 0xFFFF && n % 0x10000 ≠ 0xFFFE && !(n ≤ 0x08) && n ≠ 0x0B &&
    !(0x0E ≤ n && n ≤ 0x1F) && !(0x7F ≤ n && n ≤ 0x9F) && n ≤ 0x10FFFF

/-- What stands before the first semicolon, if only characters that satisfy `p` do, and the text
after it. -/
def cutReference? (p : Char → Bool) (text : Text) : Option (Text × Text) :=
  let body := text.takeWhile p
  match text.drop body.length with
  | ';' :: rest => some (body, rest)
  | _ => none

/-- The number of a reference by number, given by what stands between `&#` and the semicolon, with at
most the given counts of digits. -/
def number? (maxDecimal maxHex : Nat) (body : Text) : Option Nat :=
  match body with
  | 'x' :: digits | 'X' :: digits =>
    if digits ≠ [] && digits.length ≤ maxHex && digits.all Text.isHexDigit then
      some (Text.hexNumber digits)
    else none
  | digits =>
    if digits ≠ [] && digits.length ≤ maxDecimal && digits.all Char.isDigit then
      some (Text.decimalNumber digits)
    else none

/-- The character of a number that may stand for one. -/
def referred? (n : Nat) : Option Char := if isReferable n then some (Char.ofNat n) else none

/-- The reference at the beginning of the text: what it stands for, and the text after it. A number
that may not stand for a character gives the replacement character. -/
def reference? : Text → Option (Text × Text)
  | '&' :: '#' :: text =>
    (cutReference? Char.isAlphanum text).bind fun (body, rest) =>
      (number? 7 6 body).map fun n => ([(referred? n).getD (Char.ofNat 0xFFFD)], rest)
  | '&' :: text =>
    (cutReference? Char.isAlphanum text).bind fun (body, rest) =>
      (namedText? body).map fun shown => (shown, rest)
  | _ => none

/-- What a reference inside an address or a title stands for; one with a number that may not stand for
a character is no reference there. -/
def innerReference? : Text → Option (Text × Text)
  | '&' :: '#' :: text =>
    (cutReference? Char.isAlphanum text).bind fun (body, rest) =>
      ((number? 8 8 body).bind referred?).map fun c => ([c], rest)
  | text => reference? text

theorem length_of_cutReference? {p : Char → Bool} {text body rest : Text}
    (h : cutReference? p text = some (body, rest)) : rest.length < text.length := by
  unfold cutReference? at h
  simp only at h
  split at h
  · rename_i after heq
    simp only [Option.some.injEq, Prod.mk.injEq] at h
    have := congrArg List.length heq
    simp only [List.length_drop, List.length_cons] at this
    rw [← h.2]; omega
  · simp at h

theorem length_of_reference? {text shown rest : Text} (h : reference? text = some (shown, rest)) :
    rest.length < text.length := by
  unfold reference? at h
  split at h
  · obtain ⟨⟨body, after⟩, hc, hn⟩ := Option.bind_eq_some_iff.1 h
    obtain ⟨n, _, he⟩ := Option.map_eq_some_iff.1 hn
    simp only [Prod.mk.injEq] at he
    have := length_of_cutReference? hc
    rw [← he.2]; simp; omega
  · obtain ⟨⟨body, after⟩, hc, hn⟩ := Option.bind_eq_some_iff.1 h
    obtain ⟨n, _, he⟩ := Option.map_eq_some_iff.1 hn
    simp only [Prod.mk.injEq] at he
    have := length_of_cutReference? hc
    rw [← he.2]; simp; omega
  · simp at h

theorem length_of_innerReference? {text shown rest : Text}
    (h : innerReference? text = some (shown, rest)) : rest.length < text.length := by
  unfold innerReference? at h
  split at h
  · obtain ⟨⟨body, after⟩, hc, hn⟩ := Option.bind_eq_some_iff.1 h
    obtain ⟨n, _, he⟩ := Option.map_eq_some_iff.1 hn
    simp only [Prod.mk.injEq] at he
    have := length_of_cutReference? hc
    rw [← he.2]; simp; omega
  · exact length_of_reference? h

/-- Reads the references and the escaped punctuation of a text. -/
def resolveAll (text : Text) : Text :=
  match text with
  | [] => []
  | '\\' :: c :: rest =>
    if Text.isAsciiPunctuation c then c :: resolveAll rest else '\\' :: resolveAll (c :: rest)
  | c :: rest =>
    match _h : innerReference? (c :: rest) with
    | some (shown, after) => shown ++ resolveAll after
    | none => c :: resolveAll rest
termination_by text.length
decreasing_by
  · simp only [List.length_cons]; omega
  · simp
  · exact length_of_innerReference? _h
  · simp

end BraceLink.Html
