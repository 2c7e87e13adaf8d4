import SiteGate.CommandLine.Command

/-!
# Reading arguments

The words after a program's name, read from left to right by the table of a command. A long name
follows two hyphens, and a value may be tied to it by an equals sign. Short names follow one hyphen
and may be run together; what follows one that has a value is its value. Otherwise the next word is
the value, if it does not begin with a hyphen and another character. After two hyphens alone every
word is an operand.

A value in a word of its own is looked at when the next option or operand comes, or else when all
words have been read. So a program is asked for its help before such a value is refused if only the
name of a command stands between the two.
-/

set_option autoImplicit false

namespace SiteGate.CommandLine

/-- Why the words are not read to their end. -/
inductive Stop where
  | misuse
  | help
  | version
deriving DecidableEq

/-- What has been read: the values of options by the options' long names, an empty one for a switch,
the operands, the last option while its value is missing or has not been looked at, and whether all
further words are operands. -/
structure Reading where
  given : List (String × Text)
  operands : List Text
  held : Option (OptionSpec × Option Text)
  literal : Bool

namespace Reading

/-- What has been read before the first word. -/
def start : Reading := ⟨[], [], none, false⟩

/-- The first value of an option. -/
def value? (r : Reading) (name : String) : Option Text := r.given.lookup name

/-- The values of an option. -/
def values (r : Reading) (name : String) : List Text :=
  (r.given.filter (·.1 == name)).map Prod.snd

/-- Whether an option has been given. -/
def has (r : Reading) (name : String) : Bool := (r.value? name).isSome

/-- Takes note of an option. -/
def give (r : Reading) (o : OptionSpec) (v : Text) : Except Stop Reading :=
  let fits :=
    match o.kind with
    | .value _ accepts repeatable => accepts v && (repeatable || !r.has o.long)
    | _ => !r.has o.long
  if fits then .ok { r with given := r.given ++ [(o.long, v)] } else .error .misuse

/-- Looks at the value that is held. -/
def settle (r : Reading) : Except Stop Reading :=
  match r.held with
  | none => .ok r
  | some (_, none) => .error .misuse
  | some (o, some v) => give { r with held := none } o v

/-- Whether the next word is a value. -/
def waits (r : Reading) : Bool := r.held.any (·.2.isNone)

/-- Reads an option, perhaps with a value tied to it. -/
def option (r : Reading) (o : OptionSpec) (tied : Option Text) : Except Stop Reading :=
  match o.kind, tied with
  | .value _ _ _, some v => r.settle.bind (·.give o v)
  | .value _ _ _, none => r.settle.map fun r => { r with held := some (o, none) }
  | .switch, none => r.settle.bind (·.give o [])
  | .help, none => r.settle.bind fun _ => .error .help
  | .version, none => r.settle.bind fun _ => .error .version
  | _, some _ => .error .misuse

/-- Reads a long name without the hyphens. -/
def long (c : Command) (r : Reading) (word : Text) : Except Stop Reading :=
  let (name, tied) :=
    match Text.cutAt? (· = '=') word with
    | some (name, v) => (name, some v)
    | none => (word, none)
  match c.options.find? (·.long.toList == name) with
  | some o => r.option o tied
  | none => .error .misuse

/-- What is tied to a short name, without an equals sign before it. -/
def tiedToShort : Text → Option Text
  | [] => none
  | '=' :: v => some v
  | v => some v

/-- Reads short names that are run together. -/
def shorts (c : Command) : Reading → Text → Except Stop Reading
  | r, [] => .ok r
  | r, x :: rest =>
    match c.options.find? (·.short == some x) with
    | none => .error .misuse
    | some o =>
      if o.takesValue then r.option o (tiedToShort rest)
      else (r.option o none).bind fun r => shorts c r rest

/-- Reads an operand. -/
def operand (c : Command) (r : Reading) (word : Text) : Except Stop Reading :=
  r.settle.bind fun r =>
    if r.operands.length < c.operands.length then .ok { r with operands := r.operands ++ [word] }
    else .error .misuse

/-- Reads a word that is neither an option nor the name of a command. -/
def plain (c : Command) (r : Reading) (word : Text) : Except Stop Reading :=
  match r.held with
  | some (o, none) => .ok { r with held := some (o, some word) }
  | _ => r.operand c word

/-- Reads a word. -/
def word (c : Command) (r : Reading) (w : Text) : Except Stop Reading :=
  if r.literal then r.operand c w
  else
    match w with
    | ['-', '-'] => .ok { r with literal := true }
    | '-' :: '-' :: name => r.long c name
    | '-' :: x :: rest => r.shorts c (x :: rest)
    | _ => r.plain c w

/-- What has been read of a command's own words, once there are no more of them: all operands are
there. -/
def finish (c : Command) (r : Reading) : Except Stop Reading :=
  r.settle.bind fun r =>
    if r.operands.length = c.operands.length then .ok r else .error .misuse

end Reading

/-- What the words of a command are: its own and, with the words after it, the name of the command
that follows them. -/
structure Call where
  own : Reading
  next : Option (Text × List Text)

/-- Reads words up to the name of a command. -/
def Command.readFrom (c : Command) : Reading → List Text → Except Stop Call
  | r, [] => .ok ⟨r, none⟩
  | r, w :: rest =>
    if !r.literal && !r.waits && c.commands.any (·.1.toList == w) then .ok ⟨r, some (w, rest)⟩
    else (r.word c w).bind fun r => c.readFrom r rest

/-- Reads words up to the name of a command. -/
def Command.read (c : Command) (words : List Text) : Except Stop Call := c.readFrom .start words

/-- Reads the words of a command that has no commands. -/
def Command.readAll (c : Command) (words : List Text) : Except Stop Reading :=
  (c.read words).bind fun call => call.own.finish c

end SiteGate.CommandLine
