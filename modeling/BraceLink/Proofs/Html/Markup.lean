import BraceLink.Proofs.Html.Escape
import BraceLink.Proofs.Text.Basic

/-!
# Reading the markup of a link

A link is written as an element with two attributes, in which an empty element with two attributes stands for its
image, and text behind that. `readMarkup?` reads this back without asking in which order the attributes stand;
`readMarkup?_shown` says what it finds in markup that is put together from its pieces.
-/

namespace BraceLink.Html

/-- What the markup of a link says. -/
structure Markup where
  link : Text
  classes : Text
  imageClass : Text
  style : Text
  text : Text
  deriving DecidableEq, Repr

/-! ### Reading -/

def readUpTo? (mark : Char) (text : Text) : Option (Text × Text) :=
  match Text.cut mark text with
  | (before, some after) => some (before, after)
  | (_, none) => none

/-- So many attributes and the end of their tag; the references in their values are read. -/
def readAttributes? : Nat → Text → Option (List (Text × Text) × Text)
  | 0, html => (Text.dropPrefix? ">" html).map fun html => ([], html)
  | count + 1, html => do
    let html ← Text.dropPrefix? " " html
    let (name, html) ← readUpTo? '=' html
    let html ← Text.dropPrefix? "\x22" html
    let (value, html) ← readUpTo? '\x22' html
    let (attrs, html) ← readAttributes? count html
    return ((name, unescape value) :: attrs, html)

/-- A start tag with two attributes. -/
def readTag? (name html : Text) : Option (List (Text × Text) × Text) :=
  (Text.dropPrefix? ('<' :: name) html).bind (readAttributes? 2)

/-- What a link with these attributes says, if none of the four is missing. -/
def Markup.ofAttributes? (outer inner : List (Text × Text)) (text : Text) : Option Markup := do
  let link ← outer.lookup ("href" : Text)
  let classes ← outer.lookup ("class" : Text)
  let imageClass ← inner.lookup ("class" : Text)
  let style ← inner.lookup ("style" : Text)
  return { link, classes, imageClass, style, text }

/-- The link that the whole text is the markup of. -/
def readMarkup? (html : Text) : Option Markup := do
  let (outer, html) ← readTag? "a" html
  let (inner, html) ← readTag? "span" html
  let html ← Text.dropPrefix? "</span>" html
  let (text, html) ← readUpTo? '<' html
  if html = "/a>" then Markup.ofAttributes? outer inner (unescape text) else none

/-! ### Markup from its pieces -/

/-- An attribute in its tag, with a value that is escaped already. -/
def shownAttribute (attr : Text × Text) : Text := ' ' :: attr.1 ++ '=' :: '\x22' :: attr.2 ++ ['\x22']

/-- The markup of a link, of pieces that are escaped already. -/
def shownMarkup (outer inner : List (Text × Text)) (text : Text) : Text :=
  "<a" ++ outer.flatMap shownAttribute ++ ">" ++ ("<span" ++ inner.flatMap shownAttribute ++ "></span>") ++
    text ++ "</a>"

/-- The name and the value of an attribute end where they are meant to end. -/
def IsShowable (attr : Text × Text) : Prop := '=' ∉ attr.1 ∧ '\x22' ∉ attr.2

theorem readUpTo?_append {mark : Char} {before : Text} (h : mark ∉ before) (after : Text) :
    readUpTo? mark (before ++ mark :: after) = some (before, after) := by
  rw [readUpTo?, Text.cut_of_mem h]

theorem dropPrefix?_append (start rest : Text) : Text.dropPrefix? start (start ++ rest) = some rest :=
  Text.dropPrefix?_eq_some_iff.mpr rfl

theorem readAttributes?_shown {attrs : List (Text × Text)} (h : ∀ attr ∈ attrs, IsShowable attr) (rest : Text) :
    readAttributes? attrs.length (attrs.flatMap shownAttribute ++ '>' :: rest) =
      some (attrs.map fun attr => (attr.1, unescape attr.2), rest) := by
  induction attrs with
  | nil => rfl
  | cons attr attrs ih =>
    obtain ⟨hname, hvalue⟩ := h attr (by simp)
    have hattrs := ih fun other hother => h other (by simp [hother])
    have hshown : (attr :: attrs).flatMap shownAttribute ++ '>' :: rest =
        (" " : String).toList ++ (attr.1 ++ '=' :: (("\x22" : String).toList ++
          (attr.2 ++ '\x22' :: (attrs.flatMap shownAttribute ++ '>' :: rest)))) := by
      simp [shownAttribute]
    rw [hshown, List.length_cons, readAttributes?, dropPrefix?_append]
    simp only [Option.bind_eq_bind, Option.bind_some, readUpTo?_append hname, dropPrefix?_append,
      readUpTo?_append hvalue, hattrs]
    rfl

theorem readTag?_shown {attrs : List (Text × Text)} (hcount : attrs.length = 2)
    (h : ∀ attr ∈ attrs, IsShowable attr) (name rest : Text) :
    readTag? name ('<' :: name ++ (attrs.flatMap shownAttribute ++ '>' :: rest)) =
      some (attrs.map fun attr => (attr.1, unescape attr.2), rest) := by
  rw [readTag?, dropPrefix?_append, Option.bind_some, ← hcount, readAttributes?_shown h]

/-- **The markup of a link is read back**: what its attributes and its text say is what their pieces say after
their references are read. -/
theorem readMarkup?_shown {outer inner : List (Text × Text)} {text : Text} (houter : outer.length = 2)
    (hinner : inner.length = 2) (hshowable : ∀ attr ∈ outer ++ inner, IsShowable attr) (htext : '<' ∉ text) :
    readMarkup? (shownMarkup outer inner text) =
      Markup.ofAttributes? (outer.map fun attr => (attr.1, unescape attr.2))
        (inner.map fun attr => (attr.1, unescape attr.2)) (unescape text) := by
  have hshown : shownMarkup outer inner text =
      '<' :: ("a" : String).toList ++ (outer.flatMap shownAttribute ++
        '>' :: ('<' :: ("span" : String).toList ++ (inner.flatMap shownAttribute ++
          '>' :: (("</span>" : String).toList ++ (text ++ '<' :: ("/a>" : String).toList))))) := by
    simp [shownMarkup]
  have hread := readTag?_shown houter (fun attr hattr => hshowable attr (by simp [hattr])) "a"
  have hreadInner := readTag?_shown hinner (fun attr hattr => hshowable attr (by simp [hattr])) "span"
  rw [hshown, readMarkup?]
  simp only [Option.bind_eq_bind, hread, Option.bind_some, hreadInner, dropPrefix?_append,
    readUpTo?_append htext, if_true]

end BraceLink.Html
