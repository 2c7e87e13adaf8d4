import SiteGate.Config.Snapshot.Parser
import SiteGate.Proofs.Text.Lowercase

/-!
# Settings

A setting is what one line of the configuration file can say: the value under a key of a section,
or of a directive. This module looks at settings from two sides.

In a snapshot a setting has a value (`Snapshot.get`), which is what was last made of a text
(`get_set_self`); setting one leaves the others and the free data alone.

In the file a line holds a setting if its lower case begins with the setting's name. The names are
so chosen that none is the beginning of another one (`name_eq_of_begins`), or of a section's name,
or the other way round (`not_begins_section`).
-/

set_option autoImplicit false

namespace SiteGate.Config

/-- What one line of the file can say: the value under a key, or of a directive. -/
inductive Setting where
  | key (k : Key)
  | directive (d : Directive)
deriving DecidableEq

/-- The value of a setting. -/
inductive Value where
  | text (t : Text)
  | texts (ts : List Text)
  | flag (on : Bool)
  | port (p : UInt16)
  | seconds (n : Nat)
  | file (path : Option Text)
  | forward (rules : List ForwardRule)
  | conditional (rules : List ConditionalRule)
deriving DecidableEq

namespace Setting

/-- All settings. -/
def all : List Setting :=
  [.key .hostname, .key .alternateHostnames, .key .sitePort, .key .proto, .key .certificate,
    .key .privateKey, .key .allowedAddresses, .key .runOnStartup, .key .adminPort,
    .key .displayMode, .key .secondsToDisplay, .key .allowedMethods, .key .restrictPaths,
    .key .excludePaths, .key .forwardPaths, .key .conditionalService,
    .directive .maintenanceWindow, .directive .redirectToHttps]

/-- The beginning of the lines that hold the setting. -/
def name : Setting → Text
  | .key k => k.name
  | .directive d => d.name

/-- There are no settings but those of the list. -/
theorem mem_all (x : Setting) : x ∈ all := by
  cases x with
  | key k => cases k <;> decide
  | directive d => cases d <;> decide

end Setting

namespace Snapshot

/-- The value of a setting in a snapshot. -/
def get (s : Snapshot) : Setting → Value
  | .key .hostname => .text s.site.hostname
  | .key .alternateHostnames => .texts s.site.alternateHostnames
  | .key .sitePort => .port s.site.port
  | .key .proto => .text s.site.proto
  | .key .certificate => .file s.tls.certificate
  | .key .privateKey => .file s.tls.privateKey
  | .key .allowedAddresses => .texts s.admin.allowedAddresses
  | .key .runOnStartup => .flag s.admin.runOnStartup
  | .key .adminPort => .port s.admin.port
  | .key .displayMode => .flag s.banner.on
  | .key .secondsToDisplay => .seconds s.banner.secondsToDisplay
  | .key .allowedMethods => .texts s.allowedMethods
  | .key .restrictPaths => .texts s.urlPaths.restrict
  | .key .excludePaths => .texts s.urlPaths.exclude
  | .key .forwardPaths => .forward s.urlPaths.forward
  | .key .conditionalService => .conditional s.urlPaths.conditional
  | .directive .maintenanceWindow => .flag s.maintenance
  | .directive .redirectToHttps => .flag s.redirectToHttps

/-- The snapshot with a setting taken from a text. -/
def set (s : Snapshot) : Setting → Text → Snapshot
  | .key k, value => s.setKey k value
  | .directive d, value => s.setDirective d value

end Snapshot

/-- What is made of a text for a setting. -/
def Setting.read (x : Setting) (value : Text) : Value := (Snapshot.empty.set x value).get x

namespace Snapshot

/-- A setting has the value that is made of the text it was taken from. -/
theorem get_set_self (s : Snapshot) (x : Setting) (value : Text) :
    (s.set x value).get x = x.read value := by
  cases x with
  | key k => cases k <;> rfl
  | directive d => cases d <;> rfl

/-- Other settings keep their values. -/
theorem get_set_of_ne (s : Snapshot) {x y : Setting} (h : y ≠ x) (value : Text) :
    (s.set x value).get y = s.get y := by
  rcases x with k | d <;> rcases y with k' | d'
  · cases k <;> cases k' <;> first | rfl | exact absurd rfl h
  · cases k <;> cases d' <;> rfl
  · cases d <;> cases k' <;> rfl
  · cases d <;> cases d' <;> first | rfl | exact absurd rfl h

/-- An entry of the free data changes no setting. -/
theorem get_setData (s : Snapshot) (x : Setting) (key value : Text) :
    (s.setData key value).get x = s.get x := by
  cases x with
  | key k => cases k <;> rfl
  | directive d => cases d <;> rfl

/-- The last text that a setting is taken from counts. -/
theorem set_set (s : Snapshot) (x : Setting) (value next : Text) :
    (s.set x value).set x next = s.set x next := by
  cases x with
  | key k => cases k <;> rfl
  | directive d => cases d <;> rfl

/-- Two settings may be taken from their texts in either order. -/
theorem set_comm (s : Snapshot) {x y : Setting} (h : y ≠ x) (value other : Text) :
    (s.set x value).set y other = (s.set y other).set x value := by
  rcases x with k | d <;> rcases y with k' | d'
  · cases k <;> cases k' <;> first | rfl | exact absurd rfl h
  · cases k <;> cases d' <;> rfl
  · cases d <;> cases k' <;> rfl
  · cases d <;> cases d' <;> first | rfl | exact absurd rfl h

/-- A setting and an entry of the free data may be taken in either order. -/
theorem set_setData (s : Snapshot) (x : Setting) (value key entry : Text) :
    (s.setData key entry).set x value = (s.set x value).setData key entry := by
  cases x with
  | key k => cases k <;> rfl
  | directive d => cases d <;> rfl

end Snapshot

/-! ## Names -/

namespace Setting

/-- No setting's name is the beginning of another name. -/
theorem name_eq_of_begins {x y : Setting} (h : x.name <+: y.name) : x.name = y.name := by
  have key : ∀ x ∈ all, ∀ y ∈ all, x.name <+: y.name → x.name = y.name := by decide +kernel
  exact key x (mem_all x) y (mem_all y) h

/-- No setting's name is the beginning of a section's name, or the other way round. -/
theorem not_begins_section (x : Setting) (s : Section) :
    ¬ x.name <+: s.name ∧ ¬ s.name <+: x.name := by
  have key : ∀ x ∈ all, ∀ s ∈ Section.all, ¬ x.name <+: s.name ∧ ¬ s.name <+: x.name := by
    decide +kernel
  exact key x (mem_all x) s (by cases s <;> decide)

/-- A name is made of characters of the first 128 code points in lower case, among which there is no
blank, no number sign, no backslash and no line feed. -/
theorem name_chars (x : Setting) {c : Char} (hc : c ∈ x.name) :
    Text.isAscii c = true ∧ Text.isBlank c = false ∧ Text.lowerOne c = [c] ∧
      c ≠ '#' ∧ c ≠ '\\' ∧ c ≠ '\n' := by
  have key : ∀ x ∈ all, ∀ c ∈ x.name, Text.isAscii c = true ∧ Text.isBlank c = false ∧
      Text.lowerOne c = [c] ∧ c ≠ '#' ∧ c ≠ '\\' ∧ c ≠ '\n' := by
    decide +kernel
  exact key x (mem_all x) c hc

/-- A setting's name has a character that no section's name has. -/
theorem exists_foreign_char (x : Setting) :
    ∃ c ∈ x.name, c.toLower = c ∧ ∀ s : Section, c ∉ s.name := by
  have key : ∀ x ∈ all, ∃ c ∈ x.name, c.toLower = c ∧ ∀ s ∈ Section.all, c ∉ s.name := by
    decide +kernel
  obtain ⟨c, hc, hlower, hforeign⟩ := key x (mem_all x)
  exact ⟨c, hc, hlower, fun s => hforeign s (by cases s <;> decide)⟩

/-- No name is empty. -/
theorem name_ne_nil (x : Setting) : x.name ≠ [] := by
  have key : ∀ x ∈ all, x.name ≠ [] := by decide
  exact key x (mem_all x)

end Setting

end SiteGate.Config
