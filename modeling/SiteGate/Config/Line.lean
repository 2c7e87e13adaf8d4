import SiteGate.Text.Basic

/-!
# Lines of a configuration file

A configuration file is read by logical lines. A physical line is what stands between two line
feeds; it is trimmed, its tabs count as spaces, and a backslash at its end joins exactly the next
physical line to it, whatever that line holds. A backslash at the end of the joined line is text.

Blank lines and lines that begin with a number sign are comments. Every other line is a key, which
is its first word, and a value, which is the rest.
-/

set_option autoImplicit false

namespace SiteGate.Config

/-- A physical line without the blanks around it and with its tabs turned into spaces. -/
def trimLine (line : Text) : Text := Text.trim (line.map fun c => if c = '\t' then ' ' else c)

/-- Whether a line is blank or a comment. -/
def isSkippable (line : Text) : Bool :=
  match Text.trim line with
  | [] => true
  | c :: _ => c = '#'

/-- Joins each trimmed line that ends in a backslash with the line after it. -/
def joinLines : List Text → List Text
  | [] => []
  | [line] => [if line.getLast? = some '\\' then line.dropLast else line]
  | line :: next :: rest =>
    if line.getLast? = some '\\' then (line.dropLast ++ next) :: joinLines rest
    else line :: joinLines (next :: rest)

/-- The logical lines of a text. -/
def logicalLines (t : Text) : List Text := joinLines ((t.splitOn '\n').map trimLine)

/-- A line's first word and the rest of it without the blanks around it. -/
def splitKeyValue (line : Text) : Text × Text :=
  let line := Text.trim line
  match Text.cutAt? Text.isBlank line with
  | some (key, value) => (key, Text.trim value)
  | none => (line, [])

/-- The elements of a list separated by commas, trimmed and without the empty ones. -/
def splitList (value : Text) : List Text :=
  ((value.splitOn ',').map Text.trim).filter (!·.isEmpty)

end SiteGate.Config
