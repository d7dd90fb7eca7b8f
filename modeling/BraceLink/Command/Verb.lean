import BraceLink.Text.Basic

/-!
# Commands and their options

The program has four commands. Options stand before the command, for the program, or behind it, for the
command.
-/

namespace BraceLink.Command

inductive Verb where
  | handlers
  | render
  | resolve
  | version
  deriving DecidableEq, Repr

namespace Verb

/-- The commands in the order of their names. -/
def all : List Verb := [.handlers, .render, .resolve, .version]

def name : Verb → Text
  | .handlers => "handlers"
  | .render => "render"
  | .resolve => "resolve"
  | .version => "version"

def ofName? (name : Text) : Option Verb := all.find? fun verb => verb.name = name

def operand? : Verb → Option Text
  | .render => some "FILE"
  | .resolve => some "PAYLOAD"
  | .handlers | .version => none

end Verb

/-- The options of the program and of its commands. -/
inductive Switch where
  | help
  | version
  /-- Asks for the log of a run; the runs described here keep none. -/
  | verbose
  | config
  | engine
  | output
  deriving DecidableEq, Repr

namespace Switch

/-- The long form of an option. -/
def long : Switch → Text
  | .help => "--help"
  | .version => "--version"
  | .verbose => "--verbose"
  | .config => "--config"
  | .engine => "--engine"
  | .output => "--output"

/-- The letter of an option that has a short form. -/
def letter? : Switch → Option Char
  | .verbose => some 'v'
  | .config => some 'c'
  | .output => some 'o'
  | _ => none

def hasValue : Switch → Bool
  | .config | .engine | .output => true
  | _ => false

/-- Whether the option asks for a page instead of a run. -/
def asksPage : Switch → Bool
  | .help | .version => true
  | _ => false

def allOf : Option Verb → List Switch
  | none => [.version, .verbose, .help]
  | some .render => [.config, .engine, .output, .help]
  | some .resolve => [.config, .help]
  | some _ => [.help]

end Switch

/-- The parsers of Markdown to render with. -/
inductive Engine where
  | commonmark
  | classic
  deriving DecidableEq, Repr

namespace Engine

def all : List Engine := [.commonmark, .classic]

def name : Engine → Text
  | .commonmark => "markdown-it"
  | .classic => "python-markdown"

end Engine

end BraceLink.Command
