import HttpEngine.Fault.Io
import HttpEngine.Net.Address

/-!
From the text of an address to a socket address. A host that is no address in full is looked up by
the operating system, whose answer is a parameter.
-/

namespace HttpEngine

/-- A text cut at its last colon. -/
def cutAtLastColon? (text : String) : Option (String × String) :=
  -- Read from its end, a text is cut at the first colon that is met.
  let backwards := text.toList.reverse
  match backwards.dropWhile (· != ':') with
  | [] => none
  | _ :: front =>
    some (String.ofList front.reverse,
      String.ofList (backwards.takeWhile (· != ':')).reverse)

/--
One number of a host as the system reads it: octal after a zero, hexadecimal after a zero and an x.
-/
def hostNumber? (chars : List Char) : Option Nat :=
  let (radix, digits) := match chars with
    | '0' :: 'x' :: rest | '0' :: 'X' :: rest => (16, rest)
    | '0' :: rest => (8, '0' :: rest)
    | rest => (10, rest)
  -- A number that is followed by anything else is no number.
  match readNumber radix 0x100000000 none true digits with
  | some (value, []) => some value
  | _ => none

/-- The octets of one to four numbers, the last of which fills all that are left. -/
def octetsOfNumbers? : List Nat → Option (List Nat)
  | [a] => if a < 0x100000000 then some [a / 0x1000000, a / 0x10000 % 256, a / 256 % 256, a % 256] else none
  | [a, b] => if a < 256 ∧ b < 0x1000000 then some [a, b / 0x10000, b / 256 % 256, b % 256] else none
  | [a, b, c] => if a < 256 ∧ b < 256 ∧ c < 0x10000 then some [a, b, c / 256, c % 256] else none
  | [a, b, c, d] => if a < 256 ∧ b < 256 ∧ c < 256 ∧ d < 256 then some [a, b, c, d] else none
  | _ => none

/-- Characters cut at every point. -/
def cutAtPoints : List Char → List (List Char)
  | [] => [[]]
  | '.' :: rest => [] :: cutAtPoints rest
  | c :: rest =>
    match cutAtPoints rest with
    | part :: parts => (c :: part) :: parts
    | [] => [[c]]

/-- The interface that every machine has, and that leads back to it: its name and its number. -/
def ownInterface : String × Nat := ("lo", 1)

/-- The number of the interface that goes by a name of less than sixteen bytes. -/
def interfaceOfName? (name : String) : Option Nat :=
  -- A colon and what follows it are a label on the interface.
  let bare := String.ofList (name.toList.takeWhile (· != ':'))
  if name.utf8ByteSize < 16 && bare == ownInterface.1 then some ownInterface.2 else none

/--
The scope of an address: an interface by its name where the address has one, and else a number.
-/
def scopeOf? (ip : IpAddr) (text : String) : Option Nat :=
  -- Only an address that makes sense on one link may name its scope by the interface.
  let named? := if ip.hasNarrowScope then interfaceOfName? text else none
  named?.or (readWhole (readNumber 10 0x100000000 none true) text)

/-- The short address of a host that is made of numbers with points between them. -/
def shortHost? (host : String) : Option IpAddr := do
  let numbers ← (cutAtPoints host.toList).mapM hostNumber?
  let octets ← octetsOfNumbers? numbers
  return .v4 octets

/-- The long address of a host, and its scope, which follows a percent sign. -/
def longHost? (host : String) : Option (IpAddr × Nat) := do
  let chars := host.toList
  let groups ← readWhole readV6 (String.ofList (chars.takeWhile (· != '%')))
  -- Without a percent sign the address holds everywhere.
  match chars.dropWhile (· != '%') with
  | [] => return (.v6 groups, 0)
  | _ :: scopeChars =>
    let scope ← scopeOf? (.v6 groups) (String.ofList scopeChars)
    return (.v6 groups, scope)

/-- The address and the scope that a host is without any lookup. -/
def numericHost? (host : String) : Option (IpAddr × Nat) :=
  ((shortHost? host).map fun ip => (ip, 0)).or (longHost? host)

/-- A text that is no address, with or without a port. -/
def invalidSocketAddress : IoError := ⟨.invalidInput, "invalid socket address"⟩

/-- A text whose port is no port. -/
def invalidPort : IoError := ⟨.invalidInput, "invalid port value"⟩

/-- A host that the system could not be asked for, since a zero ends every text that it is given. -/
def hostWithZero : IoError := ⟨.invalidInput, "file name contained an unexpected NUL byte"⟩

/-- A host that nobody knows. -/
def unknownHost : IoError :=
  ⟨.uncategorized, "failed to lookup address information: Name or service not known"⟩

/-- A host that is known and has no address. -/
def addresslessHost : IoError := ⟨.addrNotAvailable, "address resolved to nothing"⟩

/-- What the system answers when it is asked for a host: its addresses, each with its scope. -/
abbrev HostLookup := String → Except IoError (List (IpAddr × Nat))

/-- The answers of a system that knows no names, and reads what is made of numbers. -/
def numericHosts : HostLookup := fun host =>
  match numericHost? host with
  | some address => .ok [address]
  | none => .error unknownHost

/-- The socket address of a text: the one that it is, and else the first one of its host. -/
def resolve (text : String) (lookup : HostLookup := numericHosts) : Except IoError SocketAddr :=
  match SocketAddr.ofText? text with
  | some address => .ok address
  | none =>
    match cutAtLastColon? text with
    | none => .error invalidSocketAddress
    | some (host, portText) =>
      match readUnsigned? 65536 portText with
      | none => .error invalidPort
      | some port =>
        if host.toList.contains '\x00' then .error hostWithZero
        else
          match lookup host with
          | .error failure => .error failure
          -- The port is that of the text, whichever address it is.
          | .ok ((ip, scope) :: _) => .ok { ip, port, scope }
          | .ok [] => .error addresslessHost

end HttpEngine
