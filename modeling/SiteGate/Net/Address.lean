import SiteGate.Text.Decimal

/-!
# Addresses of peers

IP addresses of both families, and with a port those of peers. An address has many spellings and
one that it is written in. `Address.ofText?` and `SocketAddress.ofText?` read every spelling, and
`toText` writes the one: four numbers with points, or eight groups in hexadecimal without leading
zeros, in which the first of the longest runs of at least two zero groups is left out, and the last
two groups are written as an address of the other family if the first five are zero and the sixth
is `ffff`.
-/

set_option autoImplicit false

namespace SiteGate.Net

/-- An address of four numbers. -/
structure IPv4 where
  a : UInt8
  b : UInt8
  c : UInt8
  d : UInt8
deriving DecidableEq

/-- An address of eight groups. -/
structure IPv6 where
  groups : List UInt16
  eight : groups.length = 8
deriving DecidableEq

/-- An address of either family. -/
inductive Address where
  | v4 (a : IPv4)
  | v6 (a : IPv6)
deriving DecidableEq

/-- An address with a port, and in the newer family with a scope, which is zero if there is
none. -/
inductive SocketAddress where
  | v4 (address : IPv4) (port : UInt16)
  | v6 (address : IPv6) (scope : UInt32) (port : UInt16)
deriving DecidableEq

/-- The address without the port. -/
def SocketAddress.address : SocketAddress → Address
  | .v4 a _ => .v4 a
  | .v6 a _ _ => .v6 a

/-! ## Reading

A reader takes a text and gives what it has read and the rest of the text, or nothing. -/

/-- The longest run of digits that a text begins with and the rest of the text. -/
def takeDigits (base : Nat) : Text → List Nat × Text
  | [] => ([], [])
  | c :: rest =>
    match Text.digitIn? base c with
    | some d =>
      let (ds, rest') := takeDigits base rest
      (d :: ds, rest')
    | none => ([], c :: rest)

/-- The number that digits spell. -/
def valueOf (base : Nat) (ds : List Nat) : Nat := ds.foldl (fun v d => v * base + d) 0

/-- Reads the given character. -/
def readChar (c : Char) : Text → Option Text
  | [] => none
  | x :: rest => if x = c then some rest else none

/-- Reads a number of an address of four: one to three digits, no zero before another digit, and
at most 255. -/
def readOctet (t : Text) : Option (UInt8 × Text) :=
  let (ds, rest) := takeDigits 10 t
  if ds.isEmpty || ds.length > 3 || (ds.length > 1 && ds.head? = some 0) || valueOf 10 ds > 255 then
    none
  else some (UInt8.ofNat (valueOf 10 ds), rest)

/-- Reads an address of four numbers. -/
def readIPv4 (t : Text) : Option (IPv4 × Text) := do
  let (a, t) ← readOctet t
  let (b, t) ← readOctet (← readChar '.' t)
  let (c, t) ← readOctet (← readChar '.' t)
  let (d, t) ← readOctet (← readChar '.' t)
  some (⟨a, b, c, d⟩, t)

/-- The two groups that an address of four numbers makes. -/
def IPv4.groups (x : IPv4) : List UInt16 :=
  [UInt16.ofNat (x.a.toNat * 256 + x.b.toNat), UInt16.ofNat (x.c.toNat * 256 + x.d.toNat)]

/-- Reads a group: one to four hexadecimal digits. -/
def readGroup (t : Text) : Option (UInt16 × Text) :=
  let (ds, rest) := takeDigits 16 t
  if ds.isEmpty || ds.length > 4 then none else some (UInt16.ofNat (valueOf 16 ds), rest)

/-- Reads as many groups with colons between them as there are, up to `room`; the last two may be
given as an address of four numbers, and then nothing follows it. Tells the groups, whether they
end so, and the rest. -/
def readGroups : (room : Nat) → (first : Bool) → Text → List UInt16 × Bool × Text
  | 0, _, t => ([], false, t)
  | room + 1, first, t =>
    let start := if first then some t else readChar ':' t
    match if room = 0 then none else start.bind readIPv4 with
    | some (x, rest) => (x.groups, true, rest)
    | none =>
      match start.bind readGroup with
      | some (g, rest) =>
        let (gs, mixed, rest') := readGroups room false rest
        (g :: gs, mixed, rest')
      | none => ([], false, t)

/-- The address with the given groups, if they are eight. -/
def IPv6.ofGroups? (gs : List UInt16) : Option IPv6 :=
  if h : gs.length = 8 then some ⟨gs, h⟩ else none

/-- Reads an address of eight groups, of which two colons may stand for one or more that are
zero. -/
def readIPv6 (t : Text) : Option (IPv6 × Text) := do
  let (front, mixed, rest) := readGroups 8 true t
  if front.length = 8 then (IPv6.ofGroups? front).map (·, rest)
  else if mixed then none
  else
    let rest ← readChar ':' rest
    let rest ← readChar ':' rest
    let (back, _, rest) := readGroups (7 - front.length) true rest
    let zeros := List.replicate (8 - front.length - back.length) 0
    (IPv6.ofGroups? (front ++ zeros ++ back)).map (·, rest)

/-- Reads a number below `limit` in any number of digits. -/
def readBelow (limit : Nat) (t : Text) : Option (Nat × Text) :=
  let (ds, rest) := takeDigits 10 t
  if ds.isEmpty || limit ≤ valueOf 10 ds then none else some (valueOf 10 ds, rest)

/-- Reads a colon and a port. -/
def readPort (t : Text) : Option (UInt16 × Text) := do
  let (n, rest) ← readBelow UInt16.size (← readChar ':' t)
  some (UInt16.ofNat n, rest)

/-- Reads a percent sign and a scope, or nothing as no scope. -/
def readScope (t : Text) : UInt32 × Text :=
  match (readChar '%' t).bind (readBelow UInt32.size) with
  | some (n, rest) => (UInt32.ofNat n, rest)
  | none => (0, t)

/-- Reads an address of the older family with its port. -/
def readSocketV4 (t : Text) : Option (SocketAddress × Text) := do
  let (a, t) ← readIPv4 t
  let (port, t) ← readPort t
  some (.v4 a port, t)

/-- Reads an address of the newer family in brackets, perhaps with a scope, and its port. -/
def readSocketV6 (t : Text) : Option (SocketAddress × Text) := do
  let (a, t) ← readIPv6 (← readChar '[' t)
  let (scope, t) := readScope t
  let (port, t) ← readPort (← readChar ']' t)
  some (.v6 a scope port, t)

/-- What a reader reads if it reads the whole text. -/
def complete {α : Type} : Option (α × Text) → Option α
  | some (x, []) => some x
  | _ => none

/-- The address that a text spells. -/
def Address.ofText? (t : Text) : Option Address :=
  complete <|
    match readIPv4 t with
    | some (a, rest) => some (.v4 a, rest)
    | none => (readIPv6 t).map fun (a, rest) => (.v6 a, rest)

/-- The address with a port that a text spells. -/
def SocketAddress.ofText? (t : Text) : Option SocketAddress :=
  complete ((readSocketV4 t).or (readSocketV6 t))

/-! ## Writing -/

/-- An address of four numbers as it is written. -/
def IPv4.toText (x : IPv4) : Text :=
  ['.'].intercalate ([x.a, x.b, x.c, x.d].map fun n => Text.ofNat n.toNat)

/-- Where the first of the longest runs of true values begins and how long it is, in what is left
of a list from an index on, after a run of `current` true values and with `best` the longest one
seen. -/
def longestRunFrom (index current : Nat) (best : Nat × Nat) : List Bool → Nat × Nat
  | [] => best
  | true :: rest =>
    let run := current + 1
    longestRunFrom (index + 1) run (if run > best.2 then (index + 1 - run, run) else best) rest
  | false :: rest => longestRunFrom (index + 1) 0 best rest

/-- Where the first of the longest runs of true values begins and how long it is. -/
def longestRun (bs : List Bool) : Nat × Nat := longestRunFrom 0 0 (0, 0) bs

/-- Groups in hexadecimal with colons between them. -/
def groupsText (gs : List UInt16) : Text :=
  [':'].intercalate (gs.map fun g => Nat.toDigits 16 g.toNat)

/-- An address of eight groups as it is written. -/
def IPv6.toText (x : IPv6) : Text :=
  match x.groups with
  | [0, 0, 0, 0, 0, 0xffff, g, h] =>
    let v4 : IPv4 := ⟨UInt8.ofNat (g.toNat / 256), UInt8.ofNat g.toNat,
      UInt8.ofNat (h.toNat / 256), UInt8.ofNat h.toNat⟩
    "::ffff:".toList ++ v4.toText
  | gs =>
    let (start, length) := longestRun (gs.map (· == 0))
    if length > 1 then
      groupsText (gs.take start) ++ [':', ':'] ++ groupsText (gs.drop (start + length))
    else groupsText gs

/-- An address as it is written. -/
def Address.toText : Address → Text
  | .v4 a => a.toText
  | .v6 a => a.toText

/-- An address with a port as it is written. -/
def SocketAddress.toText : SocketAddress → Text
  | .v4 a port => a.toText ++ ':' :: Text.ofNat port.toNat
  | .v6 a scope port =>
    let scopeText := if scope = 0 then [] else '%' :: Text.ofNat scope.toNat
    '[' :: a.toText ++ scopeText ++ [']', ':'] ++ Text.ofNat port.toNat

/-- The address in a text that may also hold a port. A text that spells no address is cut: at the
closing bracket if it begins with an opening one, and otherwise at the first colon. -/
def addressPart (peer : Text) : Text :=
  match SocketAddress.ofText? peer with
  | some s => s.address.toText
  | none =>
    match Address.ofText? peer with
    | some a => a.toText
    | none =>
      match peer with
      | '[' :: rest => Text.before ']' rest
      | _ => Text.before ':' peer

end SiteGate.Net
