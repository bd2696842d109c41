import HttpEngine.Net.Lookup

/-! Networks: which addresses listeners can hold, and which connections can be opened. -/

namespace HttpEngine

/-- What a machine can do in its network. -/
structure Network where
  /-- Why a listener cannot be at an address, if it cannot. -/
  bindFailure? : SocketAddr → Option IoError
  /-- Why no connection to an address can be opened, if none can. -/
  connectFailure? : SocketAddr → Option IoError

namespace Network

/-- Why a listener cannot be at an address that no interface has. -/
def foreignFailure (address : SocketAddr) : IoError :=
  match address.ip with
  | .v4 _ => .addrNotAvailable
  | .v6 _ =>
    if address.ip.isMulticast then .invalidArgument
    else if address.ip.isLinkLocal then
      -- An address of one link says nothing without the interface of that link.
      if address.scope = 0 then .invalidArgument
      else if address.scope = ownInterface.2 then .addrNotAvailable
      else .noSuchDevice
    else .addrNotAvailable

/--
The network of a machine whose only interface, which leads back to itself, is down.

Nothing contradicts a short address, so that listeners can be anywhere, but no route leads there.
A long address would have to be on an interface.
-/
def isolated : Network where
  bindFailure? address := match address.ip with
    | .v4 _ => none
    | .v6 _ =>
      if address.ip.isMapped || address.ip.isUnspecified then none
      else some (foreignFailure address)
  connectFailure? address := match address.ip with
    | .v4 _ => some .networkUnreachable
    | .v6 _ =>
      if address.ip.isMapped || address.ip.isMulticast then some .networkUnreachable
      else if address.ip.isLinkLocal && address.scope == 0 then some .invalidArgument
      else some .addrNotAvailable

/-- The network of a machine that reaches nothing but itself. -/
def loopback : Network where
  bindFailure? address :=
    if address.ip.isLoopback || address.ip.isUnspecified then none
    else some (foreignFailure address)
  connectFailure? address :=
    if address.ip.isLoopback || address.ip.isUnspecified then none else some .networkUnreachable

/-- Whether a connection to an address can be opened. -/
def connect (network : Network) (address : SocketAddr) : Except IoError Unit :=
  match network.connectFailure? address with
  | some failure => .error failure
  | none => .ok ()

/-- Whether two listeners would be in each other's way. -/
def collide (a b : SocketAddr) : Bool :=
  a.port == b.port && (a.ip == b.ip || a.ip.isUnspecified || b.ip.isUnspecified)

/-- The lowest of the ports that are given to listeners that ask for none. -/
def firstFreePort : Nat := 49152

/-- A port that no listener holds, among those that are given to listeners that ask for none. -/
def freePort? (listeners : List SocketAddr) : Option Nat :=
  ((List.range (65536 - firstFreePort)).map (· + firstFreePort)).find? fun port =>
    listeners.all fun listener => listener.port != port

/-- The address at which a listener will be, beside those that are there already. -/
def bind (network : Network) (listeners : List SocketAddr) (address : SocketAddr) :
    Except IoError SocketAddr :=
  match network.bindFailure? address with
  | some failure => .error failure
  | none =>
    -- Port zero asks for any port.
    if address.port = 0 then
      match freePort? listeners with
      | some port => .ok { address with port }
      | none => .error .addrInUse
    else if listeners.any (collide address) then .error .addrInUse
    else .ok address

/-- The address at which every machine reaches itself, with a port. -/
def self (port : Nat) : SocketAddr := { ip := .v4 [127, 0, 0, 1], port }

end Network

end HttpEngine
