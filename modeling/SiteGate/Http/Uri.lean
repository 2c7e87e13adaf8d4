import SiteGate.Text.Utf8

/-!
# Request targets

The target of a request in one of its four forms: a path, a whole address with scheme and host, a
host alone, or an asterisk. A fragment is dropped, and escapes in the path are kept as they are
written.
-/

set_option autoImplicit false

namespace SiteGate.Http

/-- The target of a request. The authority is what stands before the path: a host, perhaps with a
user before it and a port after it. -/
structure Uri where
  scheme : Option Text
  authority : Option Text
  path : Text
  query : Option Text
deriving DecidableEq

namespace Uri

/-- The longest target, in bytes. -/
def maxLength : Nat := 65534

/-- The longest scheme. -/
def maxScheme : Nat := 64

/-- Whether a character may stand in a scheme. -/
def isSchemeChar (c : Char) : Bool := c.isAlphanum || "+-.~".toList.contains c

/-- Whether a character may stand before the path: those that are not escaped in an address, but
for the percent sign. -/
def isAuthorityChar (c : Char) : Bool := c.isAlphanum || "!#$&'()*+,-./:;=?@[]_~".toList.contains c

/-- Whether a character may stand in a path. -/
def isPathChar (c : Char) : Bool :=
  let n := c.toNat
  n = 0x21 || n = 0x22 || (0x24 ≤ n && n ≤ 0x3B) || n = 0x3D || (0x40 ≤ n && n ≤ 0x5F) ||
    (0x61 ≤ n && n ≤ 0x7E) || 0x80 ≤ n

/-- Whether a character may stand in a query. -/
def isQueryChar (c : Char) : Bool :=
  let n := c.toNat
  n = 0x21 || (0x24 ≤ n && n ≤ 0x3B) || n = 0x3D || (0x3F ≤ n && n ≤ 0x7E) || 0x80 ≤ n

/-- Splits off a scheme, which ends with a colon and two slashes. There is none if something else
comes first; one that is too long is refused. -/
def splitScheme (t : Text) : Option (Option Text × Text) :=
  let name := t.takeWhile isSchemeChar
  if t.length > 3 ∧ [':', '/', '/'].isPrefixOf (t.drop name.length) then
    if name.length > maxScheme then none else some (some name, t.drop (name.length + 3))
  else some (none, t)

/-- What has been seen of the part before the path. -/
structure AuthorityState where
  colons : Nat
  opened : Bool
  closed : Bool
  percent : Bool

/-- Reads one character of the part before the path. -/
def authorityStep (s : AuthorityState) (c : Char) : Option AuthorityState :=
  if c = ':' then if s.colons ≥ 8 then none else some { s with colons := s.colons + 1 }
  else if c = '[' then if s.percent || s.opened then none else some { s with opened := true }
  else if c = ']' then
    if !s.opened || s.closed then none
    else some { s with closed := true, colons := 0, percent := false }
  else if c = '@' then some { s with colons := 0, percent := false }
  else if c = '%' then some { s with percent := true }
  else if isAuthorityChar c then some s
  else none

/-- Whether a text may stand before the path: its characters are allowed, brackets come in a pair,
at most one colon follows them and the name of the user, and a percent sign stands only before
those. -/
def isAuthority (t : Text) : Bool :=
  match t.foldlM authorityStep ⟨0, false, false, false⟩ with
  | some s => s.opened == s.closed && s.colons ≤ 1 && t.getLast? ≠ some '@' && !s.percent
  | none => false

/-- The part after the last occurrence of a character, or all of the text. -/
def afterLast (c : Char) (t : Text) : Text := (t.reverse.takeWhile (· != c)).reverse

/-- The host in the part before the path, without a user and a port. -/
def hostOf (authority : Text) : Text :=
  let rest := afterLast '@' authority
  match rest with
  | '[' :: _ => Text.before ']' rest ++ [']']
  | _ => Text.before ':' rest

/-- A scheme as it is kept: the two of the web in lower case, every other one as it is written. -/
def keptScheme (name : Text) : Text :=
  let lower := Text.lowerAscii name
  if lower = "http".toList || lower = "https".toList then lower else name

/-- Reads a path with its query; a fragment is dropped. -/
def pathAndQuery? (t : Text) : Option (Text × Option Text) :=
  let path := t.takeWhile fun c => c ≠ '?' && c ≠ '#'
  let query :=
    match t.drop path.length with
    | '?' :: rest => some (Text.before '#' rest)
    | _ => none
  if path.all isPathChar && query.all (·.all isQueryChar) then
    some (if path.isEmpty then ['/'] else path, query)
  else none

/-- The target that a text spells. -/
def ofText? (t : Text) : Option Uri :=
  if (Text.encode t).length > maxLength then none
  else
    match t with
    | [] => none
    | ['*'] => some ⟨none, none, ['*'], none⟩
    | '/' :: _ => (pathAndQuery? t).map fun (path, query) => ⟨none, none, path, query⟩
    | _ =>
      (splitScheme t).bind fun (scheme, rest) =>
        let authority := rest.takeWhile fun c => c ≠ '/' && c ≠ '?' && c ≠ '#'
        if !isAuthority authority || authority.isEmpty then none
        else
          match scheme with
          | some name =>
            (pathAndQuery? (rest.drop authority.length)).map fun (path, query) =>
              ⟨some (keptScheme name), some authority, path, query⟩
          | none =>
            if authority.length = rest.length then some ⟨none, some authority, [], none⟩ else none

/-- The host of a target. -/
def host? (u : Uri) : Option Text := u.authority.map hostOf

/-- Whether a target has a path that begins at the root. -/
def isRooted (u : Uri) : Bool := u.path.head? = some '/'

/-- The same target with a slash at the end of its path. A host alone has no path to add it to, and
an asterisk is none. -/
def withSlash? (u : Uri) : Option Uri :=
  if u.isRooted then some { u with path := u.path ++ ['/'] } else none

/-- The text of a target. -/
def toText (u : Uri) : Text :=
  u.scheme.elim [] (· ++ "://".toList) ++ u.authority.getD [] ++ u.path ++
    u.query.elim [] ('?' :: ·)

end Uri

end SiteGate.Http
