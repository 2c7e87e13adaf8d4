import SiteGate.Config.Line
import SiteGate.Config.Section
import SiteGate.Config.Snapshot
import SiteGate.Text.Decimal

/-!
# Reading a configuration

The logical lines of a configuration are read by three loops that hand an index on to one another.
The one at the top takes directives and headers and passes over everything else. Behind a header it
hands the index of the next line to the loop of that section, which takes lines as long as they
match its keys, or to the loop of the free data, which takes every line up to the next header. Each
of the two gives back the index of the first line that it has not taken, and the loop at the top
reads that line again on its own.

A section takes a line of its own only after it has walked up from it, past comments and other lines
of its own, to a line that is its bare name. A header with more words therefore owns nothing.

No line is refused. A value that cannot be read counts as the empty one.
-/

set_option autoImplicit false

namespace SiteGate.Config

/-- The text in which every element after an equal one is left out. -/
def distinct : List Text → List Text
  | [] => []
  | x :: rest => x :: (distinct rest).filter (· != x)

/-- The port that a value names, or 0. -/
def portOf (value : Text) : UInt16 := UInt16.ofNat ((Text.natural? UInt16.size value).getD 0)

/-- The number of seconds that a value names, or 0. -/
def secondsOf (value : Text) : Nat := (Text.natural? UInt64.size value).getD 0

/-- A value, or nothing if it is empty. -/
def nonEmpty (value : Text) : Option Text := if value.isEmpty then none else some value

namespace Snapshot

/-- The snapshot with the setting of a key taken from its value. -/
def setKey (s : Snapshot) (key : Key) (value : Text) : Snapshot :=
  match key with
  | .hostname => { s with site := { s.site with hostname := Text.lower value } }
  | .alternateHostnames =>
    let hosts := distinct ((splitList value).map Text.lower)
    { s with site := { s.site with alternateHostnames := hosts } }
  | .sitePort => { s with site := { s.site with port := portOf value } }
  | .proto => { s with site := { s.site with proto := value } }
  | .certificate => { s with tls := { s.tls with certificate := nonEmpty value } }
  | .privateKey => { s with tls := { s.tls with privateKey := nonEmpty value } }
  | .allowedAddresses => { s with admin := { s.admin with allowedAddresses := splitList value } }
  | .runOnStartup =>
    let yes := Text.sameIgnoringCase value "yes".toList
    { s with admin := { s.admin with runOnStartup := yes } }
  | .adminPort => { s with admin := { s.admin with port := portOf value } }
  | .displayMode =>
    { s with banner := { s.banner with on := Text.sameIgnoringCase value "on".toList } }
  | .secondsToDisplay =>
    { s with banner := { s.banner with secondsToDisplay := secondsOf value } }
  | .allowedMethods => { s with allowedMethods := splitList value }
  | .restrictPaths => { s with urlPaths := { s.urlPaths with restrict := splitList value } }
  | .excludePaths => { s with urlPaths := { s.urlPaths with exclude := splitList value } }
  | .forwardPaths =>
    let rules := (splitList value).map ForwardRule.ofText
    { s with urlPaths := { s.urlPaths with forward := rules } }
  | .conditionalService =>
    { s with urlPaths := { s.urlPaths with conditional := ConditionalRule.listOfText value } }

/-- The snapshot with a directive taken from its value. -/
def setDirective (s : Snapshot) (directive : Directive) (value : Text) : Snapshot :=
  match directive with
  | .maintenanceWindow => { s with maintenance := Text.sameIgnoringCase value "on".toList }
  | .redirectToHttps => { s with redirectToHttps := Text.sameIgnoringCase value "yes".toList }

/-- The snapshot with an entry of the free data. -/
def setData (s : Snapshot) (key value : Text) : Snapshot :=
  { s with data := s.data.insert key value }

end Snapshot

namespace Parser

/-- The index of the first line from the given one on that is not passed over. -/
def skipFrom (lines : Array Text) (i : Nat) : Nat :=
  if h : i < lines.size then
    if isSkippable lines[i] then skipFrom lines (i + 1) else i
  else i
termination_by lines.size - i

/-- No line is read again after it has been passed over. -/
theorem le_skipFrom (lines : Array Text) (i : Nat) : i ≤ skipFrom lines i := by
  fun_induction skipFrom lines i <;> omega

/-- Whether a section owns the line at an index: going up from there, past lines that are passed
over and lines that match the section's keys, the first other line is the section's bare name. -/
def ownedBy (lines : Array Text) (s : Section) : (i : Nat) → i ≤ lines.size → Bool
  | 0, _ => false
  | i + 1, h =>
    let lowered := Text.lower lines[i]
    if isSkippable lines[i] || (s.matchKey? lowered).isSome then ownedBy lines s i (by omega)
    else lowered = s.name

/-- Takes the lines of a section from an index on. The first part of the result is the index of the
first line that is not taken. -/
def readSection (lines : Array Text) (s : Section) (i : Nat) (snapshot : Snapshot) :
    Nat × Snapshot :=
  if h : skipFrom lines i < lines.size then
    let line := lines[skipFrom lines i]
    match s.matchKey? (Text.lower line) with
    | some key =>
      if ownedBy lines s (skipFrom lines i) (Nat.le_of_lt h) then
        readSection lines s (skipFrom lines i + 1) (snapshot.setKey key (splitKeyValue line).2)
      else (skipFrom lines i, snapshot)
    | none => (skipFrom lines i, snapshot)
  else (skipFrom lines i, snapshot)
termination_by lines.size - i
decreasing_by
  have := le_skipFrom lines i
  omega

/-- Takes the entries of the free data from an index on. The first part of the result is the index
of the first line that is not taken: the next header, or the end. -/
def readData (lines : Array Text) (i : Nat) (data : Data) : Nat × Data :=
  if h : i < lines.size then
    if isSkippable lines[i] then readData lines (i + 1) data
    else if (Section.ofBareLine? lines[i]).isSome then (i, data)
    else
      let (key, value) := splitKeyValue lines[i]
      readData lines (i + 1) (data.insert key value)
  else (i, data)
termination_by lines.size - i

/-- The loop of a section never goes back. -/
theorem le_readSection (lines : Array Text) (s : Section) (i : Nat) (snapshot : Snapshot) :
    i ≤ (readSection lines s i snapshot).1 := by
  have hskip := le_skipFrom lines
  fun_induction readSection lines s i snapshot with
  | case1 i _ _ _ _ _ _ ih => exact Nat.le_trans (Nat.le_succ_of_le (hskip i)) ih
  | case2 => exact hskip _
  | case3 => exact hskip _
  | case4 => exact hskip _

/-- The loop of the free data never goes back. -/
theorem le_readData (lines : Array Text) (i : Nat) (data : Data) :
    i ≤ (readData lines i data).1 := by
  fun_induction readData lines i data <;> omega

/-- Reads the lines from an index on that no section owns, and hands those below a header over. -/
def readFrom (lines : Array Text) (i : Nat) (snapshot : Snapshot) : Snapshot :=
  if h : i < lines.size then
    let line := lines[i]
    if isSkippable line then readFrom lines (i + 1) snapshot
    else
      match Directive.ofLine? (Text.lower line) with
      | some d => readFrom lines (i + 1) (snapshot.setDirective d (splitKeyValue line).2)
      | none =>
        match Section.ofHeader? line with
        | some .data =>
          if (Section.ofBareLine? line).isSome then
            let handed := readData lines (i + 1) snapshot.data
            readFrom lines handed.1 { snapshot with data := handed.2 }
          else readFrom lines (i + 1) snapshot
        | some s =>
          let handed := readSection lines s (i + 1) snapshot
          readFrom lines handed.1 handed.2
        | none => readFrom lines (i + 1) snapshot
  else snapshot
termination_by lines.size - i
decreasing_by
  · omega
  · omega
  · have := le_readData lines (i + 1) snapshot.data
    omega
  · omega
  · have := le_readSection lines s (i + 1) snapshot
    omega
  · omega

end Parser

/-- The snapshot that a configuration text spells. What only the store knows is left empty. -/
def Snapshot.ofText (t : Text) : Snapshot :=
  Parser.readFrom (logicalLines t).toArray 0 .empty

end SiteGate.Config
