import SiteGate.Net.Address

/-!
# Listening at an address

Whether a program can listen at an address of a machine. The address must be one of the machine's
own: those that it speaks to itself with, those under which others know it, and the two that stand
for all of them. The ports below 1024 are reserved, but for port zero, which stands for any port.
A port is taken if another server listens at it, and so is every port that the program itself
listens at already.
-/

set_option autoImplicit false

namespace SiteGate.Net

/-- Why a program cannot listen at an address. -/
inductive BindError where
  | foreignAddress
  | reservedPort
  | takenPort
deriving DecidableEq

namespace BindError

/-- The number of the operating system for the failure. -/
def code : BindError → Nat
  | .foreignAddress => 99
  | .reservedPort => 13
  | .takenPort => 98

/-- The words for the failure. -/
def words : BindError → String
  | .foreignAddress => "Cannot assign requested address"
  | .reservedPort => "Permission denied"
  | .takenPort => "Address already in use"

/-- The name of the failure's kind. -/
def kind : BindError → String
  | .foreignAddress => "AddrNotAvailable"
  | .reservedPort => "PermissionDenied"
  | .takenPort => "AddrInUse"

/-- The message of the failure. -/
def message (e : BindError) : Text :=
  e.words.toList ++ " (os error ".toList ++ Text.ofNat e.code ++ [')']

end BindError

/-- The port of an address. -/
def SocketAddress.port : SocketAddress → UInt16
  | .v4 _ port => port
  | .v6 _ _ port => port

/-- Whether an address stands for all of the machine's own. -/
def SocketAddress.isWildcard (a : SocketAddress) : Bool :=
  a.address = .v4 ⟨0, 0, 0, 0⟩ || a.address = .v6 ⟨[0, 0, 0, 0, 0, 0, 0, 0], rfl⟩

/-- What a machine brings along: the addresses under which others know it, and the ports of all its
addresses at which other servers listen. -/
structure Machine where
  addresses : List Address
  takenPorts : List UInt16

/-- A machine that others know as 192.0.2.1, on which another server listens at port 8080. -/
def Machine.common : Machine := ⟨[.v4 ⟨192, 0, 2, 1⟩], [8080]⟩

/-- Whether an address is one of the machine's own, or stands for all of them. -/
def SocketAddress.isOwn (machine : Machine) (a : SocketAddress) : Bool :=
  a.isWildcard || machine.addresses.contains a.address ||
    match a with
    | .v4 ip _ => ip.a = 127
    | .v6 ip _ _ => ip = ⟨[0, 0, 0, 0, 0, 0, 0, 1], rfl⟩

/-- Whether nobody can listen at an address while somebody listens at another one. -/
def SocketAddress.collides (a other : SocketAddress) : Bool :=
  a.port ≠ 0 && a.port = other.port &&
    (a.address = other.address || a.isWildcard || other.isWildcard)

/-- What keeps a program from listening at an address of a machine when it listens at others
already. -/
def SocketAddress.bindError? (machine : Machine) (a : SocketAddress)
    (listening : List SocketAddress) : Option BindError :=
  if !a.isOwn machine then some .foreignAddress
  else if 0 < a.port && a.port < 1024 then some .reservedPort
  else if machine.takenPorts.contains a.port || listening.any a.collides then some .takenPort
  else none

end SiteGate.Net
