import HttpEngine.Message.Headers
import HttpEngine.Message.Status
import HttpEngine.Message.Version

/-! Responses. -/

namespace HttpEngine

/-- A whole response. -/
structure Response where
  version : Version := .standard
  status : Status
  headers : Headers := .empty
  body : Bytes := []
  deriving DecidableEq, Repr, Inhabited

namespace Response

/-- The body as text, with a mark for every broken piece. -/
def bodyText (response : Response) : String :=
  utf8TextLossy response.body

/--
Whether the connection can carry another request: as the headers say, and else as the version does.
-/
def keepAlive (response : Response) : Bool :=
  !response.headers.wantsClose && (response.version.keepsAlive || response.headers.wantsKeepAlive)

end Response

end HttpEngine
