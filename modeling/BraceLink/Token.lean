import BraceLink.Text.Basic

/-!
# Tokens

A token is an opening brace, a payload on one line without braces, brackets and parentheses, and a
closing brace that is not followed by one of those six marks. The character after the closing brace
is looked at but does not belong to the token.

* `Token.split?`: payload and continuation of the text after an opening brace.
* `Token.at?`: the token that starts at an offset. A negative offset counts from the end, and the
  text is then read on from its beginning, so that it is read as if it stood there twice.
* `Token.all`: the tokens of a text from left to right.
-/

namespace BraceLink

/-- A token found in a source text. -/
structure Token where
  /-- The text between the braces. -/
  payload : Text
  /-- The offset of the opening brace. -/
  start : Int
  /-- The offset just past the closing brace. -/
  stop : Int
  /-- The character after the closing brace, if there is one. -/
  trailing : Option Char
  deriving DecidableEq, Repr

namespace Token

/-- How many characters the token takes. -/
def length (token : Token) : Int := token.stop - token.start

def isBracket (c : Char) : Bool :=
  c = Text.openBrace || c = Text.closeBrace || c = '[' || c = ']' || c = '(' || c = ')'

/-- Whether the character ends the search for a closing brace without success. -/
def endsSearch (c : Char) : Bool := (isBracket c && c ≠ Text.closeBrace) || c = '\n'

/-- The text before the first closing brace and the text after it, unless something that may not
stand in a payload comes first. -/
def split? : Text → Option (Text × Text)
  | [] => none
  | c :: rest =>
    if c = Text.closeBrace then some ([], rest)
    else if endsSearch c then none
    else (split? rest).map fun (payload, after) => (c :: payload, after)

/-- The payload and the trailing character of the token at the beginning of the text. -/
def read? : Text → Option (Text × Option Char)
  | [] => none
  | c :: rest =>
    if c ≠ Text.openBrace then none
    else
      match split? rest with
      | none => none
      | some (payload, after) =>
        match after.head? with
        | none => some (payload, none)
        | some next => if isBracket next then none else some (payload, some next)

/-- The offset, counted from the end if it is negative and cut to the text. -/
def clampOffset (size : Nat) (offset : Int) : Nat :=
  if offset < 0 then (size + offset).toNat else min offset.toNat size

/-- The characters from `start` up to `stop`, where negative offsets count from the end. -/
def slice (text : Text) (start stop : Int) : Text :=
  let first := clampOffset text.length start
  (text.drop first).take (clampOffset text.length stop - first)

/-- The text from an offset on; from a negative offset it goes on with the whole text. -/
def view (source : Text) (offset : Int) : Text :=
  if offset < 0 then source.drop (source.length + offset).toNat ++ source
  else source.drop offset.toNat

/-- An offset lies before the beginning of the text. -/
inductive OffsetError where
  | beforeStart
  deriving DecidableEq, Repr

def at? (source : Text) (offset : Int) : Except OffsetError (Option Token) :=
  if source.length + offset < 0 then .error .beforeStart
  else
    .ok <| (read? (view source offset)).map fun (payload, trailing) =>
      let close := offset + 1 + payload.length
      { payload := slice source (offset + 1) close
        start := offset
        stop := close + 1
        trailing := trailing }

/-- The tokens of a text that begins at the given offset of the source. -/
def allFrom (offset : Nat) (text : Text) : List Token :=
  match text with
  | [] => []
  | c :: rest =>
    match read? (c :: rest) with
    | none => allFrom (offset + 1) rest
    | some (payload, trailing) =>
      let stop := offset + payload.length + 2
      { payload := payload, start := offset, stop := stop, trailing := trailing } ::
        allFrom stop (rest.drop (payload.length + 1))
termination_by text.length
decreasing_by all_goals simp only [List.length_cons, List.length_drop]; omega

/-- The tokens of a text from left to right; after a token the search goes on behind it. -/
def all (source : Text) : List Token := allFrom 0 source

end Token

end BraceLink
