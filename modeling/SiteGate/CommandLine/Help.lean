import SiteGate.CommandLine.Command

/-!
# Help

The text that tells what a command does: what it is for, how it is called, and a table for its
commands, its operands and its options. In a table what is said about an entry begins in the column
after the longest name.
-/

set_option autoImplicit false

namespace SiteGate.CommandLine

/-- A text with as many spaces after it as bring it to a width. -/
def padded (width : Nat) (t : Text) : Text := t ++ List.replicate (width - t.length) ' '

/-- A table with a title: each entry has a line with its name and what is said about it. -/
def table (title : String) (entries : List (Text × Text)) : Text :=
  let width := (entries.map (·.1.length)).foldl max 0
  title.toList ++ [':'] ++ entries.flatMap fun (name, about) =>
    "\n  ".toList ++ padded width name ++ "  ".toList ++ about

/-- An option as the help names it. -/
def OptionSpec.shown (o : OptionSpec) : Text :=
  let short :=
    match o.short with
    | some c => ['-', c, ',', ' ']
    | none => "    ".toList
  let value :=
    match o.kind with
    | .value shown _ _ => " <".toList ++ shown.toList ++ ['>']
    | _ => []
  short ++ "--".toList ++ o.long.toList ++ value

namespace Command

/-- How a command is called. -/
def usage (c : Command) : Text :=
  c.name.toList ++ (if c.options.all (·.isQuestion) then [] else " [OPTIONS]".toList) ++
    c.operands.flatMap (fun o => ' ' :: o.shown.toList) ++
    (if c.commands.isEmpty then [] else " <COMMAND>".toList)

/-- The tables of a command that have entries. -/
def tables (c : Command) : List Text :=
  let commands := c.commands.map fun (name, about) => (name.toList, about.toList)
  let operands := c.operands.map fun o => (o.shown.toList, o.about.toList)
  let options := c.options.map fun o => (o.shown, o.about.toList)
  [("Commands", commands), ("Arguments", operands), ("Options", options)].filterMap
    fun (title, entries) => if entries.isEmpty then none else some (table title entries)

/-- The help of a command. -/
def help (c : Command) : Text :=
  c.about.toList ++ "\n\nUsage: ".toList ++ c.usage ++ ['\n'] ++
    c.tables.flatMap (fun t => '\n' :: t ++ ['\n'])

/-- What is said to who calls a command wrongly. -/
def misuseText (c : Command) : Text :=
  "Usage: ".toList ++ c.usage ++ "\n\nFor more information, try '--help'.\n".toList

end Command

end SiteGate.CommandLine
