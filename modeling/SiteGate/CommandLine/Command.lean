import SiteGate.Text.Basic

/-!
# Commands

What a command of a program is given: options, which have names, and operands, which have places. A
command may have commands of its own, of which the first word that is not an option names one.

The table of a command is all that reading its arguments and printing its help need.
-/

set_option autoImplicit false

namespace SiteGate.CommandLine

/-- What an option is for. -/
inductive OptionKind where
  /-- An option without a value. -/
  | switch
  /-- An option with a value: the word for the value in the help, the values that it takes, and
  whether it may be given several times. -/
  | value (shown : String) (accepts : Text → Bool) (repeatable : Bool)
  /-- Asks for the help of the command. -/
  | help
  /-- Asks for the version of the program. -/
  | version

/-- An option: its names, what it is for, and what the help says about it. -/
structure OptionSpec where
  short : Option Char
  long : String
  kind : OptionKind
  about : String

namespace OptionSpec

/-- Whether an option has a value. -/
def takesValue (o : OptionSpec) : Bool :=
  match o.kind with
  | .value _ _ _ => true
  | _ => false

/-- Whether an option only asks about the program. -/
def isQuestion (o : OptionSpec) : Bool :=
  match o.kind with
  | .help | .version => true
  | _ => false

/-- The option that asks for help. -/
def askHelp : OptionSpec := ⟨some 'h', "help", .help, "Print help"⟩

/-- The option that asks for the version. -/
def askVersion : OptionSpec := ⟨some 'V', "version", .version, "Print version"⟩

end OptionSpec

/-- Paths as values: all texts but the empty one. -/
def acceptsPath (t : Text) : Bool := !t.isEmpty

/-- An operand: the word for it in the help, and what the help says about it. -/
structure Operand where
  shown : String
  about : String

/-- A command: its name, what it does, its options, its operands, all of which have to be given, and
its commands with what they do. -/
structure Command where
  name : String
  about : String
  options : List OptionSpec
  operands : List Operand
  commands : List (String × String)

end SiteGate.CommandLine
