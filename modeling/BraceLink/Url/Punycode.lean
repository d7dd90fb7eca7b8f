import BraceLink.Text.Basic

/-!
# Punycode

A host label with characters beyond ASCII is written with ASCII characters only: first the ASCII
characters of the label, then, after a hyphen, the places and code points of the others as numbers of
variable length. The bias adapts after each number, so that runs of one script stay short.

Every loop ends by a measure of its own: the number that is written, or the digits that are left.
-/

namespace BraceLink.Url.Punycode

/-- The threshold of the digit with index `k`. -/
def threshold (bias k : Nat) : Nat :=
  if 36 * (k + 1) < bias + 1 then 1
  else if bias + 26 < 36 * (k + 1) then 26
  else 36 * (k + 1) - bias

theorem threshold_pos (bias k : Nat) : 0 < threshold bias k := by
  unfold threshold; split
  · omega
  · split <;> omega

/-- The character of a digit below thirty-six. -/
def digitChar (d : Nat) : Char :=
  if d < 26 then Char.ofNat (0x61 + d) else Char.ofNat (0x30 + (d - 26))

/-- The value of a digit character, in either case. -/
def digitValue? (c : Char) : Option Nat :=
  let n := c.toNat
  if 0x61 ≤ n && n ≤ 0x7A then some (n - 0x61)
  else if 0x41 ≤ n && n ≤ 0x5A then some (n - 0x41)
  else if 0x30 ≤ n && n ≤ 0x39 then some (n - 0x30 + 26)
  else none

/-- The bias that belongs to a scaled difference. -/
def biasOf (delta divisions : Nat) : Nat :=
  if 455 < delta then biasOf (delta / 35) (divisions + 36)
  else divisions + 36 * delta / (delta + 38)
termination_by delta
decreasing_by exact Nat.div_lt_self (by omega) (by omega)

/-- The bias after a difference has been written, when there are `count` characters by then. -/
def adapt (delta : Nat) (first : Bool) (count : Nat) : Nat :=
  let scaled := if first then delta / 700 else delta / 2
  biasOf (scaled + scaled / count) 0

/-- A number of variable length, from the digit with index `k` on. -/
def writeFrom (bias k n : Nat) : Text :=
  if n < threshold bias k then [digitChar n]
  else
    let t := threshold bias k
    digitChar (t + (n - t) % (36 - t)) :: writeFrom bias (k + 1) ((n - t) / (36 - t))
termination_by n
decreasing_by
  have h := threshold_pos bias k
  exact Nat.lt_of_le_of_lt (Nat.div_le_self _ _) (by omega)

/-- What has been written so far: the text, the pending difference, the bias, and how many characters
are dealt with. -/
structure Writer where
  out : Text
  delta : Nat
  bias : Nat
  done : Nat

/-- Passes one character of the label while the characters equal to `target` are inserted. -/
def Writer.pass (basic : Nat) (target : Nat) (w : Writer) (c : Char) : Writer :=
  if c.toNat < target then { w with delta := w.delta + 1 }
  else if c.toNat = target then
    { out := w.out ++ writeFrom w.bias 0 w.delta
      delta := 0
      bias := adapt w.delta (w.done = basic) (w.done + 1)
      done := w.done + 1 }
  else w

/-- Inserts all characters with the given code points, which increase, from `current` on. -/
def Writer.insertAll (label : Text) (basic : Nat) : List Nat → Nat → Writer → Writer
  | [], _, w => w
  | target :: rest, current, w =>
    let w := { w with delta := w.delta + (target - current) * (w.done + 1) }
    let w := label.foldl (Writer.pass basic target) w
    insertAll label basic rest (target + 1) { w with delta := w.delta + 1 }

/-- Inserts a number into an increasing list that has each number once. -/
def insertOnce (n : Nat) : List Nat → List Nat
  | [] => [n]
  | m :: rest => if n < m then n :: m :: rest else if n = m then m :: rest else m :: insertOnce n rest

/-- The ASCII form of a label, without a mark in front. -/
def encode (label : Text) : Text :=
  let basic := label.filter fun c => c.toNat < 0x80
  let targets := (label.filter fun c => 0x80 ≤ c.toNat).foldl (fun l c => insertOnce c.toNat l) []
  let written := (Writer.insertAll label basic.length targets 0x80 ⟨[], 0, 72, basic.length⟩).out
  if basic.isEmpty then written else basic ++ '-' :: written

/-- The number at the beginning of the digits and the digits after it. -/
def read? (bias : Nat) : Nat → Nat → Nat → Text → Option (Nat × Text)
  | _, _, _, [] => none
  | k, weight, sum, c :: rest =>
    match digitValue? c with
    | none => none
    | some d =>
      let sum := sum + d * weight
      let t := threshold bias k
      if d < t then some (sum, rest) else read? bias (k + 1) (weight * (36 - t)) sum rest

theorem length_of_read? {bias k weight sum n : Nat} {text rest : Text}
    (h : read? bias k weight sum text = some (n, rest)) : rest.length < text.length := by
  induction text generalizing k weight sum with
  | nil => simp [read?] at h
  | cons c cs ih =>
    simp only [read?] at h
    split at h
    · simp at h
    · split at h
      · simp only [Option.some.injEq, Prod.mk.injEq] at h; simp [← h.2]
      · have := ih h; simp; omega

/-- The character of a code point; a surrogate is no character, and `half` stands for it. -/
def charOf (half : Char) (code : Nat) : Char := if code.isValidChar then Char.ofNat code else half

/-- Inserts the characters that the digits describe, from the code point `current` and the place
`place` on. -/
def insertAll? (half : Char) (label : Text) (current place bias : Nat) (first : Bool) (digits : Text) :
    Option Text :=
  if digits.isEmpty then some label
  else
    match _h : read? bias 0 1 0 digits with
    | none => none
    | some (delta, rest) =>
      let place := place + delta
      let size := label.length + 1
      let current := current + place / size
      if 0x10FFFF < current then none
      else
        let at_ := place % size
        insertAll? half (label.take at_ ++ charOf half current :: label.drop at_) current (at_ + 1)
          (adapt delta first size) false rest
termination_by digits.length
decreasing_by exact length_of_read? _h

/-- The label whose ASCII form this is, if there is one, with `half` for each surrogate. -/
def decode? (half : Char) (text : Text) : Option Text :=
  if text.any fun c => 0x80 ≤ c.toNat then none
  else
    let (basic, digits) := Text.cutLast '-' text
    insertAll? half (basic.getD []) 0x80 0 72 true digits

end BraceLink.Url.Punycode
