import BraceLink.Text.Utf8

/-!
# Percent escapes

Characters that may not stand in a URL are written as percent signs with the hexadecimal digits of
their bytes. Escapes that stand in the text already are kept.
-/

namespace BraceLink.Url

/-- The marks that stay as they are beside ASCII letters and digits. -/
def plainMarks : Text := ";/?:@&=+$,-_.!~*\x27()#"

def isPlain (c : Char) : Bool := c.isAlphanum || c ∈ plainMarks

def escapeByte (byte : Nat) : Text :=
  ['%', Text.hexDigitUpper (byte / 16), Text.hexDigitUpper (byte % 16)]

def escapeChar (c : Char) : Text :=
  if isPlain c then [c] else (Utf8.ofChar c).flatMap escapeByte

/-- The escaped text; a percent sign before two hexadecimal digits stays as it is. -/
def escape : Text → Text
  | [] => []
  | '%' :: a :: b :: rest =>
    if Text.isHexDigit a && Text.isHexDigit b then '%' :: a :: b :: escape rest
    else escapeChar '%' ++ escape (a :: b :: rest)
  | c :: rest => escapeChar c ++ escape rest

/-- The bytes of the escapes at the beginning of the text, and the text after them. -/
def leadingBytes : Text → List Nat × Text
  | '%' :: a :: b :: rest =>
    match Text.hexValue? a, Text.hexValue? b with
    | some high, some low =>
      let (bytes, after) := leadingBytes rest
      ((high * 16 + low) :: bytes, after)
    | _, _ => ([], '%' :: a :: b :: rest)
  | text => ([], text)

/-- The marks whose escapes are kept when a text is shown. -/
def keptEscapes : Text := ";/?:@&=+$,#%"

/-- The replacement for bytes that are no text. -/
def replacement : Char := Char.ofNat 0xFFFD

/-- The characters that escaped bytes stand for. A sequence of the right shape that is no character
gives one replacement for each of its bytes; a byte in no such sequence gives one as well. -/
def showBytes : List Nat → Text
  | [] => []
  | a :: rest =>
    if a < 0x80 then
      let c := Char.ofNat a
      (if c ∈ keptEscapes then escapeByte a else [c]) ++ showBytes rest
    else
      let shaped (count : Nat) : Bool :=
        let tail := rest.take count
        tail.length = count && tail.all Utf8.isTail
      let count :=
        if a / 32 = 6 && shaped 1 then 1
        else if a / 16 = 14 && shaped 2 then 2
        else if a / 8 = 30 && shaped 3 then 3
        else 0
      let sequence := a :: rest.take count
      (match Utf8.decode? sequence with
        | some text => text
        | none => sequence.map fun _ => replacement) ++ showBytes (rest.drop count)
termination_by bytes => bytes.length
decreasing_by all_goals simp only [List.length_cons, List.length_drop]; omega

theorem length_leadingBytes (text : Text) : (leadingBytes text).2.length ≤ text.length := by
  fun_induction leadingBytes text <;> simp_all
  omega

theorem length_of_leadingBytes {text after : Text} {byte : Nat} {bytes : List Nat}
    (h : leadingBytes text = (byte :: bytes, after)) : after.length < text.length := by
  unfold leadingBytes at h
  split at h
  · rename_i rest
    have := length_leadingBytes rest
    split at h
    · simp only [Prod.mk.injEq] at h; simp [← h.2]; omega
    · simp at h
  · simp at h

/-- The text with its escapes shown as characters. -/
def unescape : Text → Text
  | [] => []
  | c :: rest =>
    match _h : leadingBytes (c :: rest) with
    | ([], _) => c :: unescape rest
    | (byte :: bytes, after) => showBytes (byte :: bytes) ++ unescape after
termination_by text => text.length
decreasing_by
  · simp
  · exact length_of_leadingBytes _h

end BraceLink.Url
