import BraceLink.Classic.Document
import BraceLink.Command.Arguments
import BraceLink.Command.Page
import BraceLink.Command.Plan
import BraceLink.Commonmark.Document
import BraceLink.Terminal.Escape
import BraceLink.Terminal.Grid
import BraceLink.Version

/-!
# Commands

What the program does for the words behind its name.

* `plan`: the run for the words.
* `run`: how that run ends on a disk, and the disk after it.

Messages are marked texts in which names of files and errors stand as they are, so that brackets in
them are read as marks. The payload in the title of a grid and in the message that it is not resolved is
escaped.
-/

namespace BraceLink.Command

open Terminal (Grid Markup.escape)

/-- Ends with a marked text on the stream for complaints. -/
def refuse (message : Text) : Plan :=
  match Terminal.print message with
  | .ok complaints => .finish { code := 1, complaints }
  | .error error => .crash (.display error)

def finishWith (code : Nat) (output : Except Terminal.Markup.Error Text) : Plan :=
  match output with
  | .ok output => .finish { code, output }
  | .error error => .crash (.display error)

/-- Ends because a file cannot be read. -/
def refuseFile (missing path : Text) (refusal : Refusal) : Plan :=
  match refusal with
  | .absent => refuse ("[red]Error:[/red] " ++ missing ++ ": " ++ path)
  | .badPath => .crash (.disk refusal)
  | _ => refuse ("[red]Error:[/red] Cannot read " ++ path ++ ": " ++ refusal.message path)

/-- Goes on with the settings of a file, or with the default settings if there is no file. -/
def withSettings (config : Option Text) (next : Settings → Plan) : Plan :=
  match config with
  | none => next {}
  | some path =>
    .read path fun
      | .error refusal => refuseFile "Config file not found" path refusal
      | .ok bytes =>
        match Settings.ofFile path (some bytes) with
        | .ok settings => next settings
        | .error (.settings (.invalid defect place)) =>
          refuse ("[red]Config error[/red] in " ++ path ++ ": " ++ defect.describe place)
        | .error error => .crash (.settings error)

/-- Goes on with the resolver that the settings describe. -/
def withResolver (settings : Settings) (next : Resolver → Plan) : Plan :=
  match Resolver.build Registry.builtin settings with
  | .ok resolver => next resolver
  | .error (.unknown name available) =>
    refuse ("[red]Error:[/red] " ++ Registry.Error.message (.unknown name available))
  | .error error => .crash (.chain error)

/-! ## The commands -/

/-- The rows of the registry: name, kind, and place in the default chain. -/
def handlerRows (registry : Registry) : List (List Text) :=
  registry.entries.map fun (name, kind) =>
    let order : Text :=
      match Registry.defaultNames.idxOf? name with
      | some place => Text.ofNat (place + 1)
      | none => "-"
    [name, kind.home ++ ['.'] ++ kind.label, order]

def listHandlers : Plan :=
  finishWith 0 <| Grid.render
    { title := "Registered handlers"
      heads := some ["Name", "Class", "Order"]
      rows := handlerRows Registry.builtin }

def braced (payload : Text) : Text := Text.openBrace :: payload ++ [Text.closeBrace]

def recordRows (record : Record) : List (List Text) :=
  [["text", record.text], ["link", record.link], ["type", record.kind],
   ["class", record.className], ["image", record.image]]

/-- Shows the record of a payload. -/
def resolve (payload : Text) (resolver : Resolver) : Plan :=
  match resolver.resolve payload with
  | .error fault => .crash (.handler fault)
  | .ok none =>
    finishWith 1 <| Terminal.print <|
      "[yellow]Unresolved[/yellow] " ++ Markup.escape (braced payload) ++ " is left as literal text"
  | .ok (some record) =>
    finishWith 0 <| Grid.render
      { title := Markup.escape (braced payload), rows := recordRows record }

/-- The HTML of a document, with `half` for each surrogate in it. -/
def html (engine : Engine) (resolver : Resolver) (source : Text) (half : Char := Url.replacement) :
    Except Fault Text :=
  match engine with
  | .commonmark => Commonmark.render .full resolver source half
  | .classic => Classic.render resolver source

/-- Whether the HTML of a document has bytes. It has none if it holds a surrogate, and then it depends on
what stands for that. -/
def hasBytes (engine : Engine) (resolver : Resolver) (source : Text) : Bool :=
  match html engine resolver source, html engine resolver source '\uFFFE' with
  | .ok first, .ok second => first = second
  | _, _ => false

/-- Ends with HTML as the output, which ends with a line end. -/
def showHtml (html : Text) : Plan :=
  let shown := Terminal.dropEscapes html
  .finish { output := if html.getLast? = some '\n' then shown else shown ++ ['\n'] }

/-- Ends with HTML in a file. -/
def writeHtml (path html : Text) : Plan :=
  .write path html fun
    | none => finishWith 0 (Terminal.print ("[green]HTML written to[/green] " ++ path))
    | some refusal => .crash (.disk refusal)

/-- Breaks off with an empty file, which was opened for a text without bytes. -/
def writeNothing (path : Text) : Plan :=
  .write path [] fun
    | none => .crash .noBytes
    | some refusal => .crash (.disk refusal)

/-- Renders a document into a file, or to the output. -/
def render (source : Text) (engine : Engine) (output : Option Text) (resolver : Resolver) : Plan :=
  match html engine resolver source with
  | .error fault => .crash (.handler fault)
  | .ok html =>
    match output, hasBytes engine resolver source with
    | none, true | some [], true => showHtml html
    | none, false | some [], false => .crash .noBytes
    | some path, true => writeHtml path html
    | some path, false => writeNothing path

def Plan.ofRequest : Request → Plan
  | .page verb => .finish { output := page verb }
  | .programVersion => .finish { output := programName ++ ", version " ++ version ++ ['\n'] }
  | .version => .finish { output := " markdown-magic-link  v" ++ version ++ ['\n'] }
  | .handlers => listHandlers
  | .resolve payload config =>
    withSettings config fun settings => withResolver settings (resolve payload)
  | .render file config engine output =>
    .read file fun
      | .error refusal => refuseFile "File not found" file refusal
      | .ok bytes =>
        match Text.ofBytes? bytes with
        | none => .crash .noText
        | some source =>
          withSettings config fun settings =>
            withResolver settings (render source engine output)

/-- Ends with a complaint about the words. -/
def complain (verb : Option Verb) (complaint : Complaint) : Plan :=
  .finish
    { code := 2
      complaints :=
        Terminal.dropEscapes <|
          usage verb ++ "\nTry '" ++ calledAs verb ++ " --help' for help.\n\nError: " ++
            complaint.message ++ ['\n'] }

/-- The run for the words behind the program; without words it shows the help page. -/
def plan : List Text → Plan
  | [] => .finish { code := 2, complaints := page none }
  | words =>
    match Request.read words with
    | .ok request => .ofRequest request
    | .error (verb, complaint) => complain verb complaint

def run (disk : Disk) (words : List Text) : Ending × Disk := (plan words).run disk

end BraceLink.Command
