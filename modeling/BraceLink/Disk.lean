import BraceLink.Text.Quoted
import BraceLink.Text.Utf8

/-!
# Disks

A disk is a list of files and folders by their places. A path leads to a place from the working folder,
or from the root if it begins with a slash; empty parts and single dots in it mean nothing.

* `Disk.read`: the bytes of a file.
* `Disk.write`: the disk with a file written.
-/

namespace BraceLink

/-- Why a file can be neither read nor written. -/
inductive Refusal where
  | absent
  /-- The path leads to a folder. -/
  | folder
  /-- The path leads through a file. -/
  | throughFile
  | tooLong
  /-- A path holds no NUL. -/
  | badPath
  deriving DecidableEq, Repr

structure Place where
  /-- The slashes at the beginning; none of them for a place seen from the working folder. -/
  root : Text := []
  parts : List Text
  deriving DecidableEq, Repr

namespace Place

/-- The root that a path begins with: two slashes are a root of their own. -/
def rootOf (path : Text) : Text :=
  match path.takeWhile (· = '/') with
  | [] => []
  | ['/', '/'] => "//"
  | _ => "/"

def ofPath (path : Text) : Place :=
  { root := rootOf path
    parts := (Text.splitOn '/' path).filter fun part => part ≠ [] ∧ part ≠ ['.'] }

/-- The shortest path to the place. -/
def shown (place : Place) : Text :=
  let path := place.root ++ Text.join ['/'] place.parts
  if path.isEmpty then ['.'] else path

end Place

/-- The number and the words of a refusal, with the place that it is about. -/
def Refusal.message (path : Text) (refusal : Refusal) : Text :=
  let numbered (number words : Text) : Text :=
    "[Errno " ++ number ++ "] " ++ words ++ ": " ++ Text.quoted (Place.ofPath path).shown
  match refusal with
  | .absent => numbered "2" "No such file or directory"
  | .throughFile => numbered "20" "Not a directory"
  | .folder => numbered "21" "Is a directory"
  | .tooLong => numbered "36" "File name too long"
  | .badPath => "embedded null byte"

/-- A file with its bytes, or a folder. -/
inductive Node where
  | file (bytes : List Nat)
  | folder
  deriving DecidableEq, Repr

/-- Files and folders by their places. A place below another one makes a folder of that one. -/
structure Disk where
  nodes : List (Place × Node) := []
  deriving DecidableEq, Repr

namespace Disk

/-- The part of a path that leads to the folder above. -/
def up : Text := ['.', '.']

/-- What is at a place. The folders above the working folder are there, and nothing else is known of
them. -/
def node? (disk : Disk) (place : Place) : Option Node :=
  match disk.nodes.lookup place with
  | some node => some node
  | none =>
    let isAbove (other : Place) : Bool := place.root = other.root && place.parts.isPrefixOf other.parts
    if place.parts.all (· = up) || disk.nodes.any fun entry => isAbove entry.1 then some .folder
    else none

def above (place : Place) : Place :=
  match place.parts.getLast? with
  | some part => if part = up then { place with parts := place.parts ++ [up] }
    else { place with parts := place.parts.dropLast }
  | none => if place.root.isEmpty then { place with parts := [up] } else place

/-- The place to which parts of a path lead from a place. -/
def follow (disk : Disk) (place : Place) : List Text → Except Refusal Place
  | [] => .ok place
  | part :: rest =>
    match disk.node? place with
    | none => .error .absent
    | some (.file _) => .error .throughFile
    | some .folder =>
      if part = up then follow disk (above place) rest
      else if 255 < (Utf8.encode part).length then .error .tooLong
      else follow disk { place with parts := place.parts ++ [part] } rest

def locate (disk : Disk) (path : Text) : Except Refusal Place :=
  let place := Place.ofPath path
  if '\x00' ∈ path then .error .badPath
  else if 4095 < (Utf8.encode place.shown).length then .error .tooLong
  else disk.follow { root := place.root, parts := [] } place.parts

/-- The bytes of the file to which a path leads. -/
def read (disk : Disk) (path : Text) : Except Refusal (List Nat) :=
  match disk.locate path with
  | .error refusal => .error refusal
  | .ok place =>
    match disk.node? place with
    | none => .error .absent
    | some .folder => .error .folder
    | some (.file bytes) => .ok bytes

/-- The disk with the bytes in the file to which a path leads. -/
def write (disk : Disk) (path : Text) (bytes : List Nat) : Except Refusal Disk :=
  match disk.locate path with
  | .error refusal => .error refusal
  | .ok place =>
    match disk.node? place with
    | some .folder => .error .folder
    | _ => .ok ⟨(place, .file bytes) :: disk.nodes.filter fun entry => entry.1 ≠ place⟩

end Disk

end BraceLink
