import HttpEngine.Message.Version
import HttpEngine.Wire.Scan

/-!
The grammar of message heads: the first line of a request or a response, and the header lines up to
the empty one. Faults are found from left to right, however many bytes are there.
-/

namespace HttpEngine

/-- A header line as it stands in the bytes, with the spaces and tabs around the value cut off. -/
structure RawField where
  name : String
  value : Bytes
  deriving DecidableEq, Repr

/-- A request head: its first line and its header lines. -/
structure RequestHead where
  method : String
  target : String
  version : Version
  fields : List RawField
  deriving DecidableEq, Repr

/-- A response head: its first line, without the reason phrase, and its header lines. -/
structure ResponseHead where
  version : Version
  code : Nat
  fields : List RawField
  deriving DecidableEq, Repr

/-- The empty lines that may stand in front of a message. -/
def scanEmptyLines : Bytes → Scan Unit
  | [] => .more
  | first :: rest =>
    if first = 0x0A then scanEmptyLines rest
    else if first = 0x0D then
      -- A carriage return counts only together with a line feed.
      match rest with
      | [] => .more
      | second :: rest => if second = 0x0A then scanEmptyLines rest else .wrong .newLine
    else .found () (first :: rest)

/-- The method: a token that a space ends. -/
def scanMethod (bytes : Bytes) : Scan String :=
  -- Without a byte that ends it, the token may still grow.
  let token := bytes.takeWhile isTokenByte
  match bytes.dropWhile isTokenByte with
  | [] => .more
  | stop :: rest =>
    if stop = 0x20 ∧ token ≠ [] then .found (asciiText token) rest else .wrong .token

/-- The target: visible bytes that a space ends, and that spell a text. -/
def scanTarget (bytes : Bytes) : Scan String :=
  let target := bytes.takeWhile isTargetByte
  match bytes.dropWhile isTargetByte with
  | [] => .more
  | stop :: rest =>
    if stop = 0x20 ∧ target ≠ [] then
      -- Bytes beyond ASCII are let in, and only here it shows whether they spell anything.
      match utf8Text? target with
      | some text => .found text rest
      | none => .wrong .token
    else .wrong .token

/-- The bytes with which both versions begin. -/
def versionStart : Bytes := utf8Bytes "HTTP/1."

/-- The version: eight bytes, which are compared as soon as they can no longer become a version. -/
def scanVersion (bytes : Bytes) : Scan Version :=
  let front := bytes.take 8
  if front.length = 8 then
    match Version.ofBytes front with
    | .ok version => .found version (bytes.drop 8)
    | .error _ => .wrong .version
  -- Fewer bytes are waited for as long as they begin as a version does.
  else if front.isPrefixOf versionStart then .more
  else .wrong .version

/-- One byte that has to be there. -/
def scanByte (expected : UInt8) (fault : HeadError) : Bytes → Scan Unit
  | [] => .more
  | first :: rest => if first = expected then .found () rest else .wrong fault

/-- One decimal digit of a status code. -/
def scanDigit : Bytes → Scan Nat
  | [] => .more
  | first :: rest =>
    if 0x30 ≤ first ∧ first ≤ 0x39 then .found (first.toNat - 0x30) rest else .wrong .status

/-- The status code: three digits. -/
def scanCode (bytes : Bytes) : Scan Nat :=
  (scanDigit bytes).andThen fun hundreds rest =>
  (scanDigit rest).andThen fun tens rest =>
  (scanDigit rest).map fun ones => hundreds * 100 + tens * 10 + ones

/-- What follows the status code: nothing, or a space and a phrase, and the end of the line. -/
def scanReason : Bytes → Scan Unit
  | [] => .more
  | first :: rest =>
    -- The phrase is read over, and nobody looks at it again.
    if first = 0x20 then scanLineEnd .status (rest.dropWhile isTextByte)
    else scanLineEnd .status (first :: rest)

/-- The name of a header line: a token that a colon ends. -/
def scanFieldName (bytes : Bytes) : Scan String :=
  let token := bytes.takeWhile isTokenByte
  match bytes.dropWhile isTokenByte with
  | [] => .more
  | stop :: rest =>
    if stop = 0x3A ∧ token ≠ [] then .found (asciiText token) rest else .wrong .headerName

/-- The value of a header line, up to the end of the line. -/
def scanFieldValue (bytes : Bytes) : Scan Bytes :=
  -- The spaces and tabs behind the value are text bytes too, and are cut off at the end.
  let padded := bytes.dropWhile isPadByte
  let value := padded.takeWhile isTextByte
  (scanLineEnd .headerValue (padded.dropWhile isTextByte)).map fun _ =>
    (value.reverse.dropWhile isPadByte).reverse

/-- One header line. -/
def scanField (bytes : Bytes) : Scan RawField :=
  (scanFieldName bytes).andThen fun name rest =>
  (scanFieldValue rest).map fun value => ⟨name, value⟩

/--
The header lines up to the empty line that ends the head, as many as there is room for.

A line too many is refused only when it has been read to its end.
-/
def scanFields (room : Nat) (bytes : Bytes) : Scan (List RawField) :=
  match bytes with
  | [] => .more
  | first :: _ =>
    -- A line that begins with its end is the empty line.
    if first = 0x0A ∨ first = 0x0D then (scanLineEnd .newLine bytes).map fun _ => []
    else (scanField bytes).andThen fun field rest =>
      match room with
      | 0 => .wrong .tooManyHeaders
      | room + 1 => (scanFields room rest).map (field :: ·)

/-- The head of a request. -/
def scanRequestHead (bytes : Bytes) : Scan RequestHead :=
  (scanEmptyLines bytes).andThen fun _ rest =>
  (scanMethod rest).andThen fun method rest =>
  (scanTarget rest).andThen fun target rest =>
  (scanVersion rest).andThen fun version rest =>
  (scanLineEnd .newLine rest).andThen fun _ rest =>
  (scanFields maxHeaders rest).map fun fields => ⟨method, target, version, fields⟩

/-- The head of a response. -/
def scanResponseHead (bytes : Bytes) : Scan ResponseHead :=
  (scanEmptyLines bytes).andThen fun _ rest =>
  (scanVersion rest).andThen fun version rest =>
  (scanByte 0x20 .version rest).andThen fun _ rest =>
  (scanCode rest).andThen fun code rest =>
  (scanReason rest).andThen fun _ rest =>
  (scanFields maxHeaders rest).map fun fields => ⟨version, code, fields⟩

end HttpEngine
