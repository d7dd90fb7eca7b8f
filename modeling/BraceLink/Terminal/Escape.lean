import BraceLink.Text.Basic

/-!
# Escape sequences

A terminal takes an escape character with a bracket, numerals and a letter as a command. Output that
goes to no terminal is written without such commands.

* `dropEscapes`: a text without its escape sequences.
-/

namespace BraceLink.Terminal

/-- The text behind the numerals and the letter of an escape sequence. -/
def escapeEnd? (text : Text) : Option Text :=
  match text.dropWhile fun c => c = ';' || c = '?' || c.isDigit with
  | c :: rest => if c.isAlpha then some rest else none
  | [] => none

/-- The text without escape sequences. -/
def dropEscapes (text : Text) : Text := go 0 text
where
  /-- The text behind `skip` characters, without escape sequences. -/
  go : Nat → Text → Text
    | _, [] => []
    | skip + 1, _ :: rest => go skip rest
    | 0, c :: rest =>
      match c, rest with
      | '\x1B', '[' :: more =>
        match escapeEnd? more with
        | some after => go (rest.length - after.length) rest
        | none => c :: go 0 rest
      | _, _ => c :: go 0 rest

end BraceLink.Terminal
