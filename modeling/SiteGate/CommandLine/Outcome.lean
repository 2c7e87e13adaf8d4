import SiteGate.Files.Tree
import SiteGate.Http.Header
import SiteGate.Net.Binding
import SiteGate.Text.Quoted

/-!
# Outcomes of programs

Why a program fails, and what it has come to in the end: the code that it exits with, what it has
written to its two streams, and the files after it. A program that fails exits with 1 and reports
the failure; one that has been called wrongly exits with 2.
-/

set_option autoImplicit false

namespace SiteGate.CommandLine

/-- Why a program fails. -/
inductive Failure where
  | file (f : FileFailure)
  /-- The settings are not what they have to be. -/
  | settings
  | header (e : Http.HeaderError)
  /-- A header has no colon. -/
  | headerForm (entry : Text)
  | bind (e : Net.BindError)
deriving DecidableEq

/-- A cause with the number of the operating system, if it has one, its kind and its words. -/
def systemReport (code? : Option Nat) (kind words : String) : Text :=
  let begins :=
    match code? with
    | some n => "Os \x7b code: ".toList ++ Text.ofNat n ++ ", ".toList
    | none => "Error \x7b ".toList
  begins ++ "kind: ".toList ++ kind.toList ++ ", message: ".toList ++ Text.quoted words.toList ++
    " \x7d".toList

/-- The report of a failure. -/
def Failure.report : Failure → Text
  | .file f =>
    "Io \x7b path: ".toList ++ Text.quoted f.path ++ ", source: ".toList ++
      systemReport f.cause.code? f.cause.kind f.cause.words ++ " \x7d".toList
  | .settings => "Json".toList
  | .header .name => "InvalidHeaderName".toList
  | .header .value => "InvalidHeaderValue".toList
  | .headerForm entry =>
    Text.quoted ("header \x60".toList ++ entry ++ "\x60 is not \x60name: value\x60".toList)
  | .bind e => systemReport (some e.code) e.kind e.words

/-- What is written about a failure. -/
def Failure.text (f : Failure) : Text := "Error: ".toList ++ f.report ++ ['\n']

/-- What a program has come to. -/
structure Outcome where
  code : Nat
  output : Text
  errors : Text
  files : Tree

namespace Outcome

/-- A program that has done its work. -/
def done (files : Tree) (output : Text) : Outcome := ⟨0, output, [], files⟩

/-- A program that has failed. -/
def failed (files : Tree) (f : Failure) : Outcome := ⟨1, [], f.text, files⟩

end Outcome

end SiteGate.CommandLine
