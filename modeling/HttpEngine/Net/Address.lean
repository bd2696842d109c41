import HttpEngine.Text.Decimal

/-!
Internet addresses: their numbers, the texts that are read as one, and the one text that each is
written as.
-/

namespace HttpEngine

/-- The four numbers of a short address, and the eight of a long one. -/
inductive IpAddr where
  | v4 (octets : List Nat)
  | v6 (groups : List Nat)
  deriving DecidableEq, Repr

/-- An address and a port. A long address may name the scope that it holds in. -/
structure SocketAddr where
  ip : IpAddr
  port : Nat
  scope : Nat := 0
  deriving DecidableEq, Repr

/-- A reading of something at the front of some characters, with the characters after it. -/
abbrev Reading (α : Type) := List Char → Option (α × List Char)

/-- The value of a digit in a radix of at most sixteen. -/
def digitIn? (radix : Nat) (c : Char) : Option Nat :=
  let value? :=
    if '0' ≤ c ∧ c ≤ '9' then some (c.toNat - '0'.toNat)
    else if 'a' ≤ c ∧ c ≤ 'f' then some (c.toNat - 'a'.toNat + 10)
    else if 'A' ≤ c ∧ c ≤ 'F' then some (c.toNat - 'A'.toNat + 10)
    else none
  value?.filter (· < radix)

/-- The digits at the front, as values. -/
def frontDigits (radix : Nat) : List Char → List Nat × List Char
  | [] => ([], [])
  | c :: rest =>
    match digitIn? radix c with
    | some digit =>
      let (digits, rest) := frontDigits radix rest
      (digit :: digits, rest)
    | none => ([], c :: rest)

/-- A number below a limit: how many digits it may have, and whether zeros may stand in front. -/
def readNumber (radix limit : Nat) (maxDigits : Option Nat) (paddable : Bool) : Reading Nat :=
  fun chars =>
    let (digits, rest) := frontDigits radix chars
    let value := digits.foldl (fun sum digit => sum * radix + digit) 0
    -- All digits are taken before any of them is found to be too much.
    if digits.isEmpty then none
    else if maxDigits.any (· < digits.length) then none
    else if !paddable && digits.head? == some 0 && digits.length > 1 then none
    else if value < limit then some (value, rest)
    else none

/-- One character that has to be there. -/
def readSign (sign : Char) : Reading Unit
  | [] => none
  | c :: rest => if c = sign then some ((), rest) else none

/-- One number of a short address: up to three digits, and no zero in front of others. -/
def readOctet : Reading Nat := readNumber 10 256 (some 3) false

/-- A short address. -/
def readV4 : Reading (List Nat) := fun chars => do
  let (a, rest) ← readOctet chars
  let (_, rest) ← readSign '.' rest
  let (b, rest) ← readOctet rest
  let (_, rest) ← readSign '.' rest
  let (c, rest) ← readOctet rest
  let (_, rest) ← readSign '.' rest
  let (d, rest) ← readOctet rest
  return ([a, b, c, d], rest)

/-- Two numbers of a short address as one group of a long one. -/
def groupsOfV4 : List Nat → List Nat
  | [a, b, c, d] => [a * 256 + b, c * 256 + d]
  | _ => []

/-- One group of a long address: up to four hexadecimal digits. -/
def readGroup : Reading Nat := readNumber 16 65536 (some 4) true

/-- A reading after a colon, which the first group does not need. -/
def afterColon {α : Type} (first : Bool) (read : Reading α) : Reading α := fun chars =>
  if first then read chars
  else do
    let (_, rest) ← readSign ':' chars
    read rest

/--
The groups at the front, up to a number of them, and whether a short address ended them.

A short address takes the room of two groups.
-/
def readGroups : Nat → Bool → List Char → (List Nat × Bool) × List Char
  | 0, _, chars => (([], false), chars)
  | room + 1, first, chars =>
    -- A short address is tried first, since its first number could be taken for a group.
    let short? := if 0 < room then afterColon first readV4 chars else none
    match short? with
    | some (octets, rest) => ((groupsOfV4 octets, true), rest)
    | none =>
      match afterColon first readGroup chars with
      | some (group, rest) =>
        let ((groups, short), rest) := readGroups room false rest
        ((group :: groups, short), rest)
      | none => (([], false), chars)

/-- A long address: eight groups, or fewer of them around two colons. -/
def readV6 : Reading (List Nat) := fun chars =>
  let ((head, short), rest) := readGroups 8 true chars
  if head.length = 8 then some (head, rest)
  -- A short address can only stand at the end.
  else if short then none
  else do
    let (_, rest) ← readSign ':' rest
    let (_, rest) ← readSign ':' rest
    -- The two colons stand for at least one group.
    let ((tail, _), rest) := readGroups (8 - (head.length + 1)) true rest
    return (head ++ List.replicate (8 - head.length - tail.length) 0 ++ tail, rest)

/-- A colon and a port. -/
def readPort : Reading Nat := fun chars => do
  let (_, rest) ← readSign ':' chars
  readNumber 10 65536 none true rest

/-- The scope of a long address, which may be left out. -/
def readScope (chars : List Char) : Nat × List Char :=
  let scope? : Option (Nat × List Char) := do
    let (_, rest) ← readSign '%' chars
    readNumber 10 0x100000000 none true rest
  scope?.getD (0, chars)

/-- A short address and a port. -/
def readSocketV4 : Reading SocketAddr := fun chars => do
  let (octets, rest) ← readV4 chars
  let (port, rest) ← readPort rest
  return ({ ip := .v4 octets, port := port }, rest)

/-- A long address between brackets, and a port. -/
def readSocketV6 : Reading SocketAddr := fun chars => do
  let (_, rest) ← readSign '[' chars
  let (groups, rest) ← readV6 rest
  let (scope, rest) := readScope rest
  let (_, rest) ← readSign ']' rest
  let (port, rest) ← readPort rest
  return ({ ip := .v6 groups, port := port, scope := scope }, rest)

/-- A reading of a whole text. -/
def readWhole {α : Type} (read : Reading α) (text : String) : Option α :=
  match read text.toList with
  | some (value, []) => some value
  | _ => none

/-- The socket address that a text is, number by number. -/
def SocketAddr.ofText? (text : String) : Option SocketAddr :=
  (readWhole readSocketV4 text).or (readWhole readSocketV6 text)

/-- The first of the longest runs of zeros: where it starts, and how long it is. -/
def longestZeros (groups : List Nat) : Nat × Nat :=
  let spans := (List.range groups.length).map fun start =>
    (start, ((groups.drop start).takeWhile (· == 0)).length)
  -- A later run of the same length does not take the place of an earlier one.
  spans.foldl (fun best span => if best.2 < span.2 then span else best) (0, 0)

/-- A number in lowercase hexadecimal. -/
def hexText (n : Nat) : String := String.ofList (Nat.toDigits 16 n)

/-- Groups with colons between them. -/
def groupsText (groups : List Nat) : String :=
  ":".intercalate (groups.map hexText)

/-- Octets with points between them. -/
def octetsText (octets : List Nat) : String :=
  ".".intercalate (octets.map decimal)

namespace IpAddr

/-- The one text of an address. -/
def text : IpAddr → String
  | v4 octets => octetsText octets
  | v6 [0, 0, 0, 0, 0, 0xFFFF, high, low] =>
    -- A short address inside a long one keeps its points.
    "::ffff:" ++ octetsText [high / 256, high % 256, low / 256, low % 256]
  | v6 groups =>
    let (start, length) := longestZeros groups
    -- A single zero is not worth the two colons.
    if 1 < length then
      groupsText (groups.take start) ++ "::" ++ groupsText (groups.drop (start + length))
    else groupsText groups

/-- Whether an address leads back to the same machine. -/
def isLoopback : IpAddr → Bool
  | v4 octets => octets.head? == some 127
  | v6 groups => groups == [0, 0, 0, 0, 0, 0, 0, 1]

/-- Whether an address stands for every address of the machine. -/
def isUnspecified : IpAddr → Bool
  | v4 octets => octets.all (· == 0)
  | v6 groups => groups.all (· == 0)

/-- Whether a long address stands for a short one. -/
def isMapped : IpAddr → Bool
  | v4 _ => false
  | v6 groups => [0, 0, 0, 0, 0, 0xFFFF].isPrefixOf groups

/-- Whether an address stands for a group of machines. -/
def isMulticast : IpAddr → Bool
  | v4 octets => octets.head?.any (· / 16 == 0xE)
  | v6 groups => groups.head?.any (· / 256 == 0xFF)

/-- Whether an address belongs to one machine, and holds on one link only. -/
def isLinkLocal : IpAddr → Bool
  | v4 octets => [169, 254].isPrefixOf octets
  | v6 groups => groups.head?.any (· / 64 == 0xFE80 / 64)

/--
Whether an address holds on one interface or one link only, so that an interface is its scope.
-/
def hasNarrowScope (ip : IpAddr) : Bool :=
  match ip with
  | v4 _ => false
  | v6 groups =>
    -- The last four bits of the first group are the reach of a multicast address.
    ip.isLinkLocal || ip.isMulticast && groups.head?.any fun group => [1, 2].contains (group % 16)

end IpAddr

/-- The one text of a socket address. -/
def SocketAddr.text (address : SocketAddr) : String :=
  match address.ip with
  | .v4 _ => address.ip.text ++ ":" ++ decimal address.port
  | .v6 _ =>
    -- The scope that means nothing is not written.
    let scope := if address.scope = 0 then "" else "%" ++ decimal address.scope
    "[" ++ address.ip.text ++ scope ++ "]:" ++ decimal address.port

end HttpEngine
