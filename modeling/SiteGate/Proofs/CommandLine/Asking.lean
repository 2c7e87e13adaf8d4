import SiteGate.CommandLine.Tool
import SiteGate.Proofs.Text.Trim

/-!
# Asking the tool about a request

A command line asks about a request if its words are read as a check and the values of its options
describe the request (`Asks`); which spelling the words have does not matter. Whoever ties every
value to its option by an equals sign can ask about every request whose headers can be written as
arguments, for then no value is taken for an option or for the name of a command
(`asks_askWords`).
-/

set_option autoImplicit false

namespace SiteGate.CommandLine

/-! ## Values that are tied to their options -/

/-- An option and its value in one word. -/
def tied (name : String) (value : Text) : Text := '-' :: '-' :: (name.toList ++ '=' :: value)

namespace Reading

variable {c : Command} {r : Reading} {o : OptionSpec} {name : String} {value : Text}

/-- A word after two hyphens is a long name. -/
theorem word_long {word : Text} (hword : word ≠ []) (hliteral : r.literal = false) :
    r.word c ('-' :: '-' :: word) = r.long c word := by
  cases word with
  | nil => exact absurd rfl hword
  | cons d rest =>
    unfold Reading.word
    rw [if_neg (by simp [hliteral])]
    rfl

/-- A word that ties a value to an option gives the option that value. -/
theorem word_tied (hfind : c.options.find? (·.long.toList == name.toList) = some o)
    (hplain : '=' ∉ name.toList) (hvalue : o.takesValue = true) (hheld : r.held = none)
    (hliteral : r.literal = false) : r.word c (tied name value) = r.give o value := by
  have hcut : Text.cutAt? (· = '=') (name.toList ++ '=' :: value) = some (name.toList, value) := by
    refine Text.cutAt?_append (fun d hd => ?_) (by simp)
    exact decide_eq_false fun h => hplain (h ▸ hd)
  have hsettle : r.settle = .ok r := by rw [settle, hheld]
  rw [tied, word_long (by simp) hliteral, long, hcut]
  simp only [hfind]
  unfold option
  unfold OptionSpec.takesValue at hvalue
  cases hkind : o.kind with
  | value shown accepts repeatable => simp [hsettle, Except.bind]
  | switch => simp [hkind] at hvalue
  | help => simp [hkind] at hvalue
  | version => simp [hkind] at hvalue

end Reading

/-- What has been read where only options have been given, with all their values. -/
def told (given : List (String × Text)) : Reading := ⟨given, [], none, false⟩

section

variable {c : Command} {o : OptionSpec} {given : List (String × Text)} {value : Text}

/-- What has been read of options alone needs no settling. -/
theorem settle_told (given : List (String × Text)) : (told given).settle = .ok (told given) := rfl

/-- The option of a name has that name. -/
theorem long_of_find? {name : String}
    (h : c.options.find? (·.long.toList == name.toList) = some o) : o.long = name := by
  have hname := List.find?_some h
  exact String.toList_inj.mp (by simpa using hname)

/-- A command goes on after a word that ties a value to one of its options. -/
theorem readFrom_tied {shown : String} {accepts : Text → Bool} {repeatable : Bool} (name : String)
    (hcommands : c.commands.any (·.1.toList == tied name value) = false)
    (hfind : c.options.find? (·.long.toList == name.toList) = some o)
    (hplain : '=' ∉ name.toList) (hkind : o.kind = .value shown accepts repeatable)
    (haccepts : accepts value = true)
    (honce : repeatable = true ∨ (told given).has name = false) (rest : List Text) :
    c.readFrom (told given) (tied name value :: rest) =
      c.readFrom (told (given ++ [(name, value)])) rest := by
  have hvalue : o.takesValue = true := by simp [OptionSpec.takesValue, hkind]
  have hgive : (told given).give o value = .ok (told (given ++ [(name, value)])) := by
    have hfits : (accepts value && (repeatable || !(told given).has name)) = true := by
      rcases honce with honce | honce <;> simp [haccepts, honce]
    rw [Reading.give, long_of_find? hfind]
    simp only [hkind]
    exact if_pos hfits
  rw [Command.readFrom, hcommands, Bool.and_false, if_neg (by simp),
    Reading.word_tied hfind hplain hvalue rfl rfl, hgive]
  rfl

/-- A command goes on after one of its switches. -/
theorem readFrom_switch (name : String)
    (hcommands : c.commands.any (·.1.toList == '-' :: '-' :: name.toList) = false)
    (hfind : c.options.find? (·.long.toList == name.toList) = some o) (hname : name.toList ≠ [])
    (hplain : '=' ∉ name.toList) (hkind : o.kind = .switch)
    (honce : (told given).has name = false) (rest : List Text) :
    c.readFrom (told given) (('-' :: '-' :: name.toList) :: rest) =
      c.readFrom (told (given ++ [(name, [])])) rest := by
  have hcut : Text.cutAt? (· = '=') name.toList = none :=
    Text.cutAt?_eq_none fun d hd => decide_eq_false fun h => hplain (h ▸ hd)
  have hgive : (told given).give o [] = .ok (told (given ++ [(name, [])])) := by
    rw [Reading.give, long_of_find? hfind]
    simp only [hkind, honce]
    rfl
  have hword : (told given).word c ('-' :: '-' :: name.toList) =
      .ok (told (given ++ [(name, [])])) := by
    rw [Reading.word_long hname rfl, Reading.long, hcut]
    simp only [hfind, Reading.option, hkind, settle_told, Except.bind, hgive]
  rw [Command.readFrom, hcommands, Bool.and_false, if_neg (by simp), hword]
  rfl

/-- All options that a command without operands is given are read to their end. -/
theorem readAll_told {words : List Text} (hoperands : c.operands = [])
    (h : c.readFrom .start words = c.readFrom (told given) []) :
    c.readAll words = .ok (told given) := by
  rw [Command.readAll, Command.read, h, Command.readFrom]
  simp only [Except.bind, Reading.finish, settle_told, hoperands]
  rfl

end

namespace Tool

/-! ## What a command line asks -/

/-- The request that a reading describes, apart from its headers. -/
def described (rd : Reading) (headers : List Http.Header) : Gate.Request where
  method := (rd.value? "method").getD "GET".toList
  host := (rd.value? "host").getD "localhost".toList
  path := (rd.value? "path").getD "/".toList
  query := (rd.value? "query").getD "".toList
  peer := (rd.value? "remote").getD "127.0.0.1:50000".toList
  headers := headers

/-- A reading describes a request, and tells whether hosts are checked. -/
structure Describes (rd : Reading) (validateHost : Bool) (q : Gate.Request) : Prop where
  headers : (rd.values "header").mapM header = .ok q.headers
  request : described rd q.headers = q
  validateHost : rd.has "validate-host" = validateHost

/-- Words are read as a check under a web root, with a reading of the options of the check. -/
def ReadAs (words : List Text) (root : Path) (rd : Reading) : Prop :=
  ∃ own rest settled, tool.read words = .ok ⟨own, some ("check".toList, rest)⟩ ∧
    Action.check.command.readAll rest = .ok rd ∧ own.finish tool = .ok settled ∧
    rootOf settled = root

/-- A command line asks about a request under a web root. -/
def Asks (words : List Text) (root : Path) (validateHost : Bool) (q : Gate.Request) : Prop :=
  ∃ rd, ReadAs words root rd ∧ Describes rd validateHost q

/-- The name of a check names it. -/
theorem ofName?_check : Action.ofName? "check".toList = some .check := by decide +kernel

/-- Words that are read as a check run the check. -/
theorem ReadAs.run {words : List Text} {root : Path} {rd : Reading} (h : ReadAs words root rd)
    (files : Tree) : Tool.run files words = checkRequest files root rd := by
  obtain ⟨own, rest, settled, hread, hreadAll, hfinish, rfl⟩ := h
  unfold Tool.run
  simp only [hread, ofName?_check, hreadAll, hfinish]
  rfl

/-! ## A command line for every request -/

/-- The options that a request is given with, and the arguments that spell its headers. -/
def requestGiven (q : Gate.Request) (entries : List Text) : List (String × Text) :=
  [("path", q.path), ("method", q.method), ("host", q.host), ("query", q.query),
    ("remote", q.peer)] ++ entries.map (("header", ·))

/-- All options of a check. -/
def checkGiven (validateHost : Bool) (q : Gate.Request) (entries : List Text) :
    List (String × Text) :=
  requestGiven q entries ++ if validateHost then [("validate-host", [])] else []

/-- The words of a check, with every value tied to its option. -/
def checkWords (validateHost : Bool) (q : Gate.Request) (entries : List Text) : List Text :=
  ((requestGiven q entries).map fun (name, value) => tied name value) ++
    if validateHost then ['-' :: '-' :: "validate-host".toList] else []

/-- The words that ask about a request under a web root. -/
def askWords (root : Path) (validateHost : Bool) (q : Gate.Request) (entries : List Text) :
    List Text :=
  tied "root" root :: "check".toList :: checkWords validateHost q entries

/-- Headers that are tied to their options are read one after the other. -/
theorem readFrom_headers (given : List (String × Text)) (entries rest : List Text) :
    Action.check.command.readFrom (told given)
        ((entries.map (("header", ·))).map (fun (name, value) => tied name value) ++ rest) =
      Action.check.command.readFrom (told (given ++ entries.map (("header", ·)))) rest := by
  induction entries generalizing given with
  | nil => simp
  | cons entry more ih =>
    refine (readFrom_tied "header" rfl rfl (by decide +kernel) rfl rfl (.inl rfl) _).trans ?_
    refine (ih (given ++ [("header", entry)])).trans ?_
    rw [List.map_cons, List.append_assoc, List.singleton_append]

/-- The words of a request are read one after the other. -/
theorem readFrom_request (q : Gate.Request) (entries rest : List Text) :
    Action.check.command.readFrom .start
        ((requestGiven q entries).map (fun (name, value) => tied name value) ++ rest) =
      Action.check.command.readFrom (told (requestGiven q entries)) rest := by
  refine (readFrom_tied "path" rfl rfl (by decide +kernel) rfl rfl (.inr rfl) _).trans ?_
  refine (readFrom_tied "method" rfl rfl (by decide +kernel) rfl rfl (.inr rfl) _).trans ?_
  refine (readFrom_tied "host" rfl rfl (by decide +kernel) rfl rfl (.inr rfl) _).trans ?_
  refine (readFrom_tied "query" rfl rfl (by decide +kernel) rfl rfl (.inr rfl) _).trans ?_
  refine (readFrom_tied "remote" rfl rfl (by decide +kernel) rfl rfl (.inr rfl) _).trans ?_
  exact readFrom_headers _ entries rest

/-- The options of a request do not ask for hosts to be checked. -/
theorem has_requestGiven (q : Gate.Request) (entries : List Text) :
    (told (requestGiven q entries)).has "validate-host" = false := by
  have hnone : (requestGiven q entries).lookup "validate-host" = none := by
    rw [List.lookup_eq_none_iff]
    simp [requestGiven]
  rw [Reading.has, Reading.value?, told, hnone]
  rfl

/-- The words of a check are read as its options. -/
theorem readAll_checkWords (validateHost : Bool) (q : Gate.Request) (entries : List Text) :
    Action.check.command.readAll (checkWords validateHost q entries) =
      .ok (told (checkGiven validateHost q entries)) := by
  refine readAll_told rfl ((readFrom_request q entries _).trans ?_)
  unfold checkGiven
  cases validateHost with
  | false => simp
  | true =>
    exact readFrom_switch "validate-host" rfl rfl (by decide) (by decide +kernel) rfl
      (has_requestGiven q entries) []

/-- A web root that is tied to its option is read before a check. -/
theorem read_askWords {root : Path} (hroot : root ≠ []) (rest : List Text) :
    tool.read (tied "root" root :: "check".toList :: rest) =
      .ok ⟨told [("root", root)], some ("check".toList, rest)⟩ := by
  have haccepts : acceptsPath root = true := by simpa [acceptsPath] using hroot
  refine (readFrom_tied "root" rfl rfl (by decide +kernel) rfl haccepts (.inr rfl) _).trans ?_
  rw [Command.readFrom]
  exact if_pos rfl

/-- The options of a check describe the request that they were made of. -/
theorem describes_checkGiven (validateHost : Bool) {q : Gate.Request} {entries : List Text}
    (hheaders : entries.mapM header = .ok q.headers) :
    Describes (told (checkGiven validateHost q entries)) validateHost q where
  headers := by
    have hvalues : (told (checkGiven validateHost q entries)).values "header" = entries := by
      unfold Reading.values checkGiven requestGiven told
      cases validateHost <;> simp [List.filter_map, Function.comp_def]
    rw [hvalues, hheaders]
  request := rfl
  validateHost := by
    cases validateHost with
    | false =>
      have hgiven : checkGiven false q entries = requestGiven q entries := List.append_nil _
      rw [hgiven]
      exact has_requestGiven q entries
    | true =>
      simp [Reading.has, Reading.value?, told, checkGiven, List.lookup_append]

/-- Every request whose headers can be written as arguments can be asked about. -/
theorem asks_askWords {root : Path} (hroot : root ≠ []) (validateHost : Bool) {q : Gate.Request}
    {entries : List Text} (hheaders : entries.mapM header = .ok q.headers) :
    Asks (askWords root validateHost q entries) root validateHost q :=
  ⟨told (checkGiven validateHost q entries),
    ⟨told [("root", root)], _, told [("root", root)], read_askWords hroot _,
      readAll_checkWords validateHost q entries, rfl, rfl⟩,
    describes_checkGiven validateHost hheaders⟩

end Tool

end SiteGate.CommandLine
