import HttpEngine.Fault.Error
import HttpEngine.Net.Lookup

/-! Targets of requests: a host, possibly behind a scheme, and possibly with a port and a path. -/

namespace HttpEngine

/-- Where a request goes: the host with its port, and the path on that host. -/
structure Target where
  authority : String
  path : String
  deriving DecidableEq, Repr

namespace Target

/-- The scheme that may stand in front. -/
def scheme : String := "http://"

/-- The scheme that asks for encryption. -/
def encryptedScheme : String := "https://"

/-- What follows an opening, if a text begins with it. -/
def after? (opening text : String) : Option String :=
  if opening.toList.isPrefixOf text.toList then
    some (String.ofList (text.toList.drop opening.length))
  else none

/-- Whether a host brings its own port: digits behind its last colon, and something before it. -/
def namesPort (host : String) : Bool :=
  match cutAtLastColon? host with
  | some (name, port) => !name.isEmpty && !port.isEmpty && port.toList.all isAsciiDigit
  | none => false

/-- A host with its port, which is eighty if it brings none. -/
def withPort (host : String) : String :=
  if namesPort host then host else host ++ ":80"

/-- A text cut before its first slash. Without one the path is a single slash. -/
def cutAtSlash (text : String) : String × String :=
  match text.toList.dropWhile (· != '/') with
  | [] => (text, "/")
  | path => (String.ofList (text.toList.takeWhile (· != '/')), String.ofList path)

/-- The target that a text names. -/
def ofText (text : String) : Except ProtocolFault Target :=
  -- Taken for a host, a scheme that is not supported would lead to a strange place.
  if (after? encryptedScheme text).isSome then .error (.encryptedTarget text)
  else
    let bare := (after? scheme text).getD text
    -- A question mark does not end the host, and only a slash begins the path.
    let (host, path) := cutAtSlash bare
    if host.isEmpty then .error (.missingHost bare)
    else .ok ⟨withPort host, path⟩

end Target

end HttpEngine
