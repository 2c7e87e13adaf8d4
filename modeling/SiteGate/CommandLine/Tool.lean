import SiteGate.CommandLine.Help
import SiteGate.CommandLine.Outcome
import SiteGate.CommandLine.Reading
import SiteGate.Config.Snapshot.Json
import SiteGate.Gate.Validation
import SiteGate.Store.Basic

/-!
# The configuration tool

A program with three commands on the configuration under a web root: `show` prints what has been
read from it, `set` changes one value, and `check` asks what would be done with a request. Each
begins by opening the store, which sets up what is missing.
-/

set_option autoImplicit false

namespace SiteGate.CommandLine.Tool

/-! ## The tables of the commands -/

/-- An option with a path of its own choice. -/
def rootOption (about : String) : OptionSpec :=
  ⟨some 'r', "root", .value "ROOT" acceptsPath false, about⟩

/-- An option of `check` with a value that stands for itself. -/
def plainOption (name shown about : String) : OptionSpec :=
  ⟨none, name, .value shown (fun _ => true) false, about⟩

/-- What the tool can do. -/
inductive Action where
  | print
  | set
  | check
deriving DecidableEq

namespace Action

/-- All that the tool can do. -/
def all : List Action := [.print, .set, .check]

/-- The word that asks for an action. -/
def name : Action → String
  | .print => "show"
  | .set => "set"
  | .check => "check"

/-- What the help says about an action. -/
def about : Action → String
  | .print => "Print the parsed configuration as JSON"
  | .set => "Replace one value in the config file"
  | .check => "Run a synthetic request through the validator"

/-- The options of an action. -/
def options : Action → List OptionSpec
  | .print | .set => [.askHelp]
  | .check =>
    [plainOption "path" "PATH" "[default: /]",
      plainOption "method" "METHOD" "[default: GET]",
      plainOption "host" "HOST" "[default: localhost]",
      plainOption "query" "QUERY" "[default: \"\"]",
      plainOption "remote" "REMOTE" "[default: 127.0.0.1:50000]",
      ⟨none, "header", .value "HEADERS" (fun _ => true) true,
        "Request header as \x60name: value\x60; repeatable"⟩,
      ⟨none, "validate-host", .switch, "Apply the Host header check"⟩,
      .askHelp]

/-- The operands of an action. -/
def operands : Action → List Operand
  | .print | .check => []
  | .set =>
    [⟨"<SECTION>", "Section name, or \"\" for a top-level directive"⟩, ⟨"<KEY>", ""⟩,
      ⟨"<VALUE>", ""⟩]

/-- The action that a word asks for. -/
def ofName? (word : Text) : Option Action := all.find? (·.name.toList == word)

end Action

/-- What the help says about itself. -/
def helpAbout : String := "Print this message or the help of the given subcommand(s)"

/-- The tool itself. -/
def tool : Command where
  name := "webconf-cli"
  about := "Inspect and edit a webconf site configuration"
  options := [rootOption "Web root containing \x60appdata/.cfg/.all\x60 [default: .]", .askHelp]
  operands := []
  commands := Action.all.map (fun a => (a.name, a.about)) ++ [("help", helpAbout)]

/-- The command of an action. -/
def Action.command (a : Action) : Command where
  name := tool.name ++ " " ++ a.name
  about := a.about
  options := a.options
  operands := a.operands
  commands := []

/-- The command that prints the help of another one. -/
def helpCommand : Command where
  name := tool.name ++ " help"
  about := helpAbout
  options := []
  operands := [⟨"[COMMAND]...", "Print help for the subcommand(s)"⟩]
  commands := []

/-- The web root that has been asked for. -/
def rootOf (own : Reading) : Path := (own.value? "root").getD ['.']

/-! ## What a command does -/

/-- Opens the store and goes on with it. -/
def withStore (files : Tree) (root : Path) (settings : Config.Settings)
    (go : Tree → Store → Outcome) : Outcome :=
  let o := Store.openAt files root settings
  match o.result with
  | .error f => .failed o.files (.file f)
  | .ok (_, s) => go o.files s

/-- A section as the tool names it. -/
def parentText (parent : Text) : Text :=
  if parent.isEmpty then "<top level>".toList else parent

/-- Prints the configuration. -/
def printConfig (files : Tree) (root : Path) : Outcome :=
  withStore files root .standard fun files s => .done files (s.snapshot.exportText ++ ['\n'])

/-- Changes one value. It has to be in the file already. -/
def setValue (files : Tree) (root : Path) (parent key value : Text) : Outcome :=
  withStore files root .standard fun files s =>
    let o := s.update files parent key value
    match o.result with
    | .error f => .failed o.files (.file f)
    | .ok (true, _) =>
      .done o.files (parentText parent ++ ": ".toList ++ key ++ " = ".toList ++ value ++ ['\n'])
    | .ok (false, _) =>
      { code := 1
        output := []
        errors := "No \x60".toList ++ key ++ "\x60 line found in ".toList ++ parentText parent ++
          ['\n']
        files := o.files }

/-- The header that an argument spells: a name, a colon and a value. -/
def header (entry : Text) : Except Failure Http.Header :=
  match Text.cutAt? (· = ':') entry with
  | none => .error (.headerForm entry)
  | some (name, value) =>
    (Http.Header.make (Text.trim name) (Text.encode (Text.trim value))).mapError .header

/-- What the tool says about a request. -/
def verdictText (s : Config.Snapshot) (r : Gate.Request) : Text :=
  if s.isBlocked (Net.addressPart r.peer) then "denied 403 (blocked address)".toList
  else if s.maintenance then "denied 503 (maintenance window)".toList
  else
    match Gate.verdict s r with
    | .allowed => "allowed".toList
    | .redirected location =>
      "redirect ".toList ++ Text.ofNat Gate.redirectStatus ++ " -> ".toList ++ location
    | .denied status => "denied ".toList ++ Text.ofNat status

/-- Asks about the request that options describe. -/
def checkRequest (files : Tree) (root : Path) (r : Reading) : Outcome :=
  let settings := { Config.Settings.standard with validateHost := r.has "validate-host" }
  withStore files root settings fun files s =>
    match (r.values "header").mapM header with
    | .error f => .failed files f
    | .ok headers =>
      let text := fun (name standard : String) => (r.value? name).getD standard.toList
      let request : Gate.Request :=
        { method := text "method" "GET"
          host := text "host" "localhost"
          path := text "path" "/"
          query := text "query" ""
          peer := text "remote" "127.0.0.1:50000"
          headers := headers }
      .done files (verdictText s.snapshot request ++ ['\n'])

/-- What the reading of a command's words comes to if it stops early. -/
def stopped (files : Tree) (c : Command) : Stop → Outcome
  | .help => .done files c.help
  | .misuse | .version => ⟨2, [], c.misuseText, files⟩

/-- The help that the words after `help` ask for. -/
def runHelp (files : Tree) : List Text → Outcome
  | [] => .done files tool.help
  | [word] =>
    if word = "help".toList then .done files helpCommand.help
    else
      match Action.ofName? word with
      | some a => .done files a.command.help
      | none => stopped files tool .misuse
  | _ :: _ :: _ => stopped files helpCommand .misuse

/-- Does what has been asked for, with what has been read of the words after it. -/
def perform (files : Tree) (root : Path) (r : Reading) : Action → Outcome
  | .print => printConfig files root
  | .set =>
    match r.operands with
    | [parent, key, value] => setValue files root parent key value
    | _ => stopped files Action.set.command .misuse
  | .check => checkRequest files root r

/-- Runs the tool with the words after its name. -/
def run (files : Tree) (words : List Text) : Outcome :=
  match tool.read words with
  | .error stop => stopped files tool stop
  | .ok ⟨_, none⟩ => stopped files tool .misuse
  | .ok ⟨own, some (word, rest)⟩ =>
    match Action.ofName? word with
    | none => runHelp files rest
    | some a =>
      match a.command.readAll rest with
      | .error stop => stopped files a.command stop
      | .ok r =>
        match own.finish tool with
        | .error stop => stopped files tool stop
        | .ok own => perform files (rootOf own) r a

end SiteGate.CommandLine.Tool
