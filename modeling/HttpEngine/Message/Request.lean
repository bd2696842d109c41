import HttpEngine.Message.Headers
import HttpEngine.Message.Method
import HttpEngine.Message.Version

/-! Requests. -/

namespace HttpEngine

/-- A whole request. -/
structure Request where
  method : Method
  target : String
  version : Version := .standard
  headers : Headers := .empty
  body : Bytes := []
  deriving DecidableEq, Repr, Inhabited

namespace Request

/--
Whether the connection stays open after the answer: as the headers say, and else as the version
does.
-/
def keepAlive (request : Request) : Bool :=
  !request.headers.wantsClose && (request.version.keepsAlive || request.headers.wantsKeepAlive)

end Request

end HttpEngine
