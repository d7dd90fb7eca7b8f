import BraceLink.Command.Verb
import BraceLink.Text.Blank

/-!
# Help pages

A page names what the program or a command is called with, says what it does and lists its options, and
the page of the program lists the commands.

* `usage`: the line that begins a page and a complaint.
* `page`: the page.
-/

namespace BraceLink.Command

def programName : Text := "magic-link"

def calledAs : Option Verb → Text
  | none => programName
  | some verb => programName ++ [' '] ++ verb.name

/-- How the program or a command is called. -/
def usage (verb : Option Verb) : Text :=
  let operands : Text :=
    match verb with
    | none => " COMMAND [ARGS]..."
    | some verb => (verb.operand?.map fun name => ' ' :: name).getD []
  "Usage: " ++ calledAs verb ++ " [OPTIONS]" ++ operands

def Verb.summary : Verb → Text
  | .handlers => "List built-in handlers and those installed via entry-points."
  | .render => "Render a Markdown FILE to HTML with magic links."
  | .resolve => "Show how PAYLOAD (the text between the braces) resolves."
  | .version => "Show detailed version information."

/-- The paragraphs of a page, each of them lines. -/
def description : Option Verb → List (List Text)
  | none =>
    [["Magic links for Markdown: \x7B@user\x7D, \x7BName|url\x7D and friends."]]
  | some .resolve =>
    [[Verb.summary .resolve],
     ["Examples:"],
     ["    magic-link resolve \"@antfu\"",
      "    magic-link resolve \"VueUse|https://vueuse.org\"",
      "    magic-link resolve \"@bilibili:lu-jiejie\" --config links.yaml"]]
  | some verb => [[verb.summary]]

/-- An option as pages list it. -/
def Switch.label (switch : Switch) : Text :=
  let short : Text := (switch.letter?.map fun letter => ['-', letter, ',', ' ']).getD []
  let value : Text :=
    match switch with
    | .engine => " [" ++ Text.join ['|'] (Engine.all.map Engine.name) ++ "]"
    | _ => if switch.hasValue then " TEXT".toList else []
  short ++ switch.long ++ value

def Switch.meaning : Switch → Text
  | .help => "Show this message and exit."
  | .version => "Show the version and exit."
  | .verbose => "Enable debug logging"
  | .config => "YAML or JSON options file"
  | .engine => "Markdown parser to render with (default: markdown-it)."
  | .output => "Output file path (defaults to stdout)"

def pageWidth : Nat := 78

/-- Words in lines of the width, behind the words of the first line so far. -/
def fillWords (width : Nat) (line : Text) : List Text → List Text
  | [] => [line]
  | word :: rest =>
    if line.length + 1 + word.length ≤ width then fillWords width (line ++ ' ' :: word) rest
    else line :: fillWords width word rest

def fillText (width : Nat) (text : Text) : List Text :=
  match Text.words text with
  | [] => []
  | word :: rest => fillWords width word rest

/-- The rows of a list: names and meanings side by side, where a meaning begins on the next line if the
name is too long. -/
def listing (rows : List (Text × Text)) : List Text :=
  let widest := (rows.map fun row => row.1.length).foldl max 0
  let column := min widest 30 + 2
  rows.flatMap fun (name, meaning) =>
    let lines := fillText (pageWidth - column - 2) meaning
    let indented (line : Text) : Text := List.replicate (column + 2) ' ' ++ line
    let named (line : Text) : Text :=
      [' ', ' '] ++ name ++ List.replicate (column - name.length) ' ' ++ line
    if name.length + 2 ≤ column then
      match lines with
      | [] => [named []]
      | first :: rest => named first :: rest.map indented
    else ([' ', ' '] ++ name) :: lines.map indented

/-- The help page of the program or of a command. -/
def page (verb : Option Verb) : Text :=
  let options := (Switch.allOf verb).map fun switch => (switch.label, switch.meaning)
  let paragraphs := (description verb).map fun lines => lines.map fun line => [' ', ' '] ++ line
  let commands :=
    match verb with
    | none => [("Commands:".toList :: listing (Verb.all.map fun verb => (verb.name, verb.summary)))]
    | some _ => []
  let blocks := [[usage verb]] ++ paragraphs ++ [("Options:".toList :: listing options)] ++ commands
  Text.join ['\n'] (blocks.map fun lines => lines.flatMap (· ++ ['\n']))

end BraceLink.Command
