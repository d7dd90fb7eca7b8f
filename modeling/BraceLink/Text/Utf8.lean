import BraceLink.Text.Basic

/-!
# Bytes of characters

The UTF-8 form of a character and the reading of bytes as UTF-8, strict: no byte sequence is read
that is longer than needed, that gives a surrogate, or that lies beyond the last code point.
-/

namespace BraceLink.Utf8

def ofChar (c : Char) : List Nat :=
  let n := c.toNat
  if n < 0x80 then [n]
  else if n < 0x800 then [0xC0 + n / 64, 0x80 + n % 64]
  else if n < 0x10000 then [0xE0 + n / 4096, 0x80 + n / 64 % 64, 0x80 + n % 64]
  else [0xF0 + n / 262144, 0x80 + n / 4096 % 64, 0x80 + n / 64 % 64, 0x80 + n % 64]

def encode (text : Text) : List Nat := text.flatMap ofChar

/-- Whether the byte continues a sequence. -/
def isTail (byte : Nat) : Bool := 0x80 ≤ byte && byte < 0xC0

/-- The first character of the bytes and the bytes after it. -/
def next? : List Nat → Option (Char × List Nat)
  | [] => none
  | a :: rest =>
    if a < 0x80 then some (Char.ofNat a, rest)
    else if a < 0xC2 then none
    else if a < 0xE0 then
      match rest with
      | b :: rest => if isTail b then some (Char.ofNat ((a - 0xC0) * 64 + (b - 0x80)), rest) else none
      | _ => none
    else if a < 0xF0 then
      match rest with
      | b :: c :: rest =>
        let n := (a - 0xE0) * 4096 + (b - 0x80) * 64 + (c - 0x80)
        if isTail b && isTail c && 0x800 ≤ n && !(0xD800 ≤ n && n < 0xE000) then
          some (Char.ofNat n, rest)
        else none
      | _ => none
    else if a < 0xF5 then
      match rest with
      | b :: c :: d :: rest =>
        let n := (a - 0xF0) * 262144 + (b - 0x80) * 4096 + (c - 0x80) * 64 + (d - 0x80)
        if isTail b && isTail c && isTail d && 0x10000 ≤ n && n < 0x110000 then
          some (Char.ofNat n, rest)
        else none
      | _ => none
    else none

theorem length_of_next? {bytes rest : List Nat} {c : Char} (h : next? bytes = some (c, rest)) :
    rest.length < bytes.length := by
  unfold next? at h
  grind

def decode? (bytes : List Nat) : Option Text :=
  match _h : next? bytes with
  | some (c, rest) => (decode? rest).map (c :: ·)
  | none => if bytes.isEmpty then some [] else none
termination_by bytes.length
decreasing_by exact length_of_next? _h

end BraceLink.Utf8
