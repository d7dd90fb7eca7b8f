import BraceLink.Command.Verb
import BraceLink.Text.Lowercase
import BraceLink.Text.Quoted
import BraceLink.Text.Similar

/-!
# Arguments

A word that begins with a hyphen and has more characters names options: `--name`, with a value behind
an equals sign or in the next word, or a hyphen with letters, the last of which can have the rest of the
word or the next word as its value. The word `--` ends the options. The options of the program end at the
first word that names none, which is the command; the options of a command may stand between its operands.

* `Arguments.read`: the options and the operands among words.
* `Request.read`: what the words ask for.
-/

namespace BraceLink.Command

/-- Why words ask for nothing that the program does. -/
inductive Complaint where
  | unknownOption (name : Text) (similar : List Text)
  | unknownCommand (name : Text) (similar : List Text)
  /-- The option needs a value. -/
  | noValue (name : Text)
  /-- The option has no value. -/
  | needlessValue (name : Text)
  | unknownEngine (value : Text)
  | missingOperand (name : Text)
  | missingCommand
  | tooMany (operands : List Text)
  deriving DecidableEq, Repr

/-- The hint to similar names. -/
def hint (kind : Text) : List Text → Text
  | [] => []
  | [name] => " Did you mean " ++ Text.quoted name ++ "?"
  | names => " (Possible " ++ kind ++ ": " ++ Text.join ", " (names.map Text.quoted) ++ ")"

def Complaint.message : Complaint → Text
  | .unknownOption name similar =>
    "No such option " ++ Text.quoted name ++ "." ++ hint "options" similar
  | .unknownCommand name similar =>
    "No such command " ++ Text.quoted name ++ "." ++ hint "commands" similar
  | .noValue name => "Option " ++ Text.quoted name ++ " requires an argument."
  | .needlessValue name => "Option " ++ Text.quoted name ++ " does not take a value."
  | .unknownEngine value =>
    "Invalid value for '--engine': " ++ Text.quoted value ++ " is not one of " ++
      Text.join ", " (Engine.all.map fun engine => Text.quoted engine.name) ++ "."
  | .missingOperand name => "Missing argument '" ++ name ++ "'."
  | .missingCommand => "Missing command."
  | .tooMany operands =>
    let noun : Text := if operands.length = 1 then "argument" else "arguments"
    "Got unexpected extra " ++ noun ++ " (" ++ Text.join [' '] operands ++ ")"

abbrev Choice := Switch × Option Text

/-- The options and the operands among words, each in their order. -/
structure Arguments where
  choices : List Choice := []
  operands : List Text := []
  deriving DecidableEq, Repr

namespace Arguments

/-- What a word gives: options, and perhaps an option that has the next word as its value, by the name
that the word gives it. -/
abbrev Word := List Choice × Option (Switch × Text)

/-- Reads a word with the long form of an option. -/
def readLong (known : List Switch) (word : Text) : Except Complaint Word :=
  let (name, value) := Text.cut '=' word
  match known.find? fun switch => switch.long = name with
  | none => .error (.unknownOption name (Text.closest name (known.map Switch.long)))
  | some switch =>
    match switch.hasValue, value with
    | true, some value => .ok ([(switch, some value)], none)
    | true, none => .ok ([], some (switch, name))
    | false, some _ => .error (.needlessValue name)
    | false, none => .ok ([(switch, none)], none)

/-- Reads the letters of a word with short forms of options. -/
def readLetters (known : List Switch) : Text → Except Complaint Word
  | [] => .ok ([], none)
  | letter :: rest =>
    match known.find? fun switch => switch.letter? = some letter with
    | none => .error (.unknownOption ['-', letter] [])
    | some switch =>
      if switch.hasValue then
        if rest.isEmpty then .ok ([], some (switch, ['-', letter]))
        else .ok ([(switch, some rest)], none)
      else (readLetters known rest).map fun (choices, wanting) => ((switch, none) :: choices, wanting)

/-- Reads a word that names options. -/
def readWord (known : List Switch) : Text → Except Complaint Word
  | '-' :: '-' :: name => readLong known ('-' :: '-' :: name)
  | word => readLetters known word.tail

def namesOptions : Text → Bool
  | '-' :: _ :: _ => true
  | _ => false

/-- The arguments with options in front of them. -/
def after (choices : List Choice) (arguments : Arguments) : Arguments :=
  { arguments with choices := choices ++ arguments.choices }

/-- Reads words; unless `mixed`, options end at the first operand. -/
def readAll (known : List Switch) (mixed : Bool) : List Text → Except Complaint Arguments
  | [] => .ok {}
  | word :: rest =>
    if word = ['-', '-'] then .ok { operands := rest }
    else if namesOptions word then
      match readWord known word with
      | .error complaint => .error complaint
      | .ok (choices, none) => (readAll known mixed rest).map (after choices)
      | .ok (choices, some (switch, name)) =>
        match rest with
        | [] => .error (.noValue name)
        | value :: rest => (readAll known mixed rest).map (after (choices ++ [(switch, some value)]))
    else if mixed then
      (readAll known mixed rest).map
        fun arguments => { arguments with operands := word :: arguments.operands }
    else .ok { operands := word :: rest }

/-- Reads the words behind the program, or behind a command. -/
def read (verb : Option Verb) : List Text → Except Complaint Arguments :=
  readAll (Switch.allOf verb) verb.isSome

def value? (arguments : Arguments) (switch : Switch) : Option Text :=
  (arguments.choices.reverse.lookup switch).join

/-- The first option that asks for a page. -/
def page? (arguments : Arguments) : Option Switch :=
  (arguments.choices.map Prod.fst).find? Switch.asksPage

end Arguments

/-- What the words behind the program can ask for. -/
inductive Request where
  /-- The help page of the program or of a command. -/
  | page (verb : Option Verb)
  | programVersion
  | version
  | handlers
  | resolve (payload : Text) (config : Option Text)
  | render (file : Text) (config : Option Text) (engine : Engine) (output : Option Text)
  deriving DecidableEq, Repr

namespace Request

/-- The page that an option asks for. -/
def ofSwitch (verb : Option Verb) : Switch → Request
  | .version => .programVersion
  | _ => .page verb

/-- The parser that the arguments choose, by its name in letters of either case. -/
def engineOf (arguments : Arguments) : Except Complaint Engine :=
  match arguments.value? .engine with
  | none => .ok .commonmark
  | some value =>
    match Engine.all.find? fun engine => engine.name = Text.lower value with
    | some engine => .ok engine
    | none => .error (.unknownEngine value)

def operandOf (name : Text) : List Text → Except Complaint Text
  | [] => .error (.missingOperand name)
  | [operand] => .ok operand
  | _ :: rest => .error (.tooMany rest)

def ofArguments (verb : Verb) (arguments : Arguments) : Except Complaint Request :=
  match arguments.page? with
  | some switch => .ok (ofSwitch verb switch)
  | none =>
    match verb with
    | .version | .handlers =>
      if arguments.operands.isEmpty then
        .ok (if verb = .version then .version else .handlers)
      else .error (.tooMany arguments.operands)
    | .resolve => do
      let payload ← operandOf "PAYLOAD" arguments.operands
      return .resolve payload (arguments.value? .config)
    | .render => do
      let engine ← engineOf arguments
      let file ← operandOf "FILE" arguments.operands
      return .render file (arguments.value? .config) engine (arguments.value? .output)

def about {α : Type} (verb : Option Verb) (result : Except Complaint α) :
    Except (Option Verb × Complaint) α :=
  result.mapError fun complaint => (verb, complaint)

/-- What the words from a command on ask for. A word that is no command is read as options again, so that
these are complained about first. -/
def ofCommand : List Text → Except (Option Verb × Complaint) Request
  | [] => .error (none, .missingCommand)
  | name :: rest =>
    match Verb.ofName? name with
    | some verb => about verb do ofArguments verb (← Arguments.read verb rest)
    | none => do
      let arguments ← about none (Arguments.read none (name :: rest))
      match arguments.page? with
      | some switch => return ofSwitch none switch
      | none => throw (none, .unknownCommand name (Text.closest name (Verb.all.map Verb.name)))

/-- What the words behind the program ask for. -/
def read (words : List Text) : Except (Option Verb × Complaint) Request := do
  let arguments ← about none (Arguments.read none words)
  match arguments.page? with
  | some switch => return ofSwitch none switch
  | none => ofCommand arguments.operands

end Request

end BraceLink.Command
