import BraceLink.Settings.Read
import BraceLink.Text.Utf8
import BraceLink.Yaml.Build

/-!
# Settings in files

A file of settings is a text in UTF-8 with one YAML document.
-/

namespace BraceLink

def Text.ofBytes? (bytes : List Nat) : Option Text := (Utf8.decode? bytes).map unifyLines

namespace Settings

/-- Why a file gives no settings. -/
inductive FileError where
  | absent
  /-- The bytes are no text. -/
  | noText
  | document (error : Yaml.Error)
  | settings (error : Error)
  deriving DecidableEq, Repr

def ofText (file text : Text) : Except FileError Settings :=
  match Yaml.value text with
  | .error .malformed => .error (.settings (.invalid (.unreadable file) []))
  | .error error => .error (.document error)
  | .ok value => (ofValue value).mapError .settings

def ofFile (file : Text) (content : Option (List Nat)) : Except FileError Settings :=
  match content with
  | none => .error .absent
  | some bytes =>
    match Text.ofBytes? bytes with
    | none => .error .noText
    | some text => ofText file text

/-- Whether the document of a file gives the code of a half of a character beyond the first plane. Texts have no such
halves, so they hold something else in its place. -/
def writesHalves (bytes : List Nat) : Bool := (Text.ofBytes? bytes).any Yaml.writesHalves

/-- The content of a file whose document gives the codes of whole characters only. -/
structure FileContent where
  bytes : List Nat
  whole : writesHalves bytes = false

end Settings

end BraceLink
