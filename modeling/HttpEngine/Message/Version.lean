import HttpEngine.Fault.Wire
import HttpEngine.Text.Utf8

/-! The two versions of the protocol. -/

namespace HttpEngine

/-- The versions that the engine speaks. -/
inductive Version where
  | http10
  | http11
  deriving DecidableEq, Repr, Inhabited

namespace Version

/-- The version that messages have unless they say otherwise. -/
def standard : Version := http11

/-- How a version is written on a first line. -/
def text : Version → String
  | http10 => "HTTP/1.0"
  | http11 => "HTTP/1.1"

/-- Whether connections stay open between messages unless a header closes them. -/
def keepsAlive : Version → Bool
  | http10 => false
  | http11 => true

/-- The version that some bytes spell in full. -/
def ofBytes (bytes : Bytes) : Except LineFault Version :=
  if bytes = utf8Bytes http10.text then .ok http10
  else if bytes = utf8Bytes http11.text then .ok http11
  else .error .unknownVersion

/-- The version with a minor number. -/
def ofMinor (minor : Nat) : Except LineFault Version :=
  match minor with
  | 0 => .ok http10
  | 1 => .ok http11
  | other => .error (.unknownMinor other)

/-- The version that some text is, letter by letter. -/
def ofText? (text : String) : Option Version :=
  [http10, http11].find? fun version => version.text == text

end Version

end HttpEngine
