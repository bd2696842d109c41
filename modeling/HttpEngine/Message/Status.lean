import HttpEngine.Fault.Wire

/-! Response statuses: the registered ones with their reason phrases, and all other codes. -/

namespace HttpEngine

/-- A status: one of the registered ones, or a bare code. -/
inductive Status where
  | continueSending
  | switchingProtocols
  | ok
  | created
  | accepted
  | nonAuthoritativeInformation
  | noContent
  | resetContent
  | partialContent
  | multipleChoices
  | movedPermanently
  | found
  | seeOther
  | notModified
  | useProxy
  | temporaryRedirect
  | permanentRedirect
  | badRequest
  | unauthorized
  | paymentRequired
  | forbidden
  | notFound
  | methodNotAllowed
  | notAcceptable
  | proxyAuthenticationRequired
  | requestTimeout
  | conflict
  | gone
  | lengthRequired
  | preconditionFailed
  | contentTooLarge
  | uriTooLong
  | unsupportedMediaType
  | rangeNotSatisfiable
  | expectationFailed
  | misdirectedRequest
  | unprocessableContent
  | upgradeRequired
  | tooManyRequests
  | internalServerError
  | notImplemented
  | badGateway
  | serviceUnavailable
  | gatewayTimeout
  | httpVersionNotSupported
  /-- A code that stands for itself, and has no reason phrase. -/
  | other (code : Nat)
  deriving DecidableEq, Repr, Inhabited

namespace Status

/-- The registered statuses, in the order of their codes. -/
def registered : List Status :=
  [continueSending, switchingProtocols, ok, created, accepted, nonAuthoritativeInformation,
   noContent, resetContent, partialContent, multipleChoices, movedPermanently, found, seeOther,
   notModified, useProxy, temporaryRedirect, permanentRedirect, badRequest, unauthorized,
   paymentRequired, forbidden, notFound, methodNotAllowed, notAcceptable,
   proxyAuthenticationRequired, requestTimeout, conflict, gone, lengthRequired,
   preconditionFailed, contentTooLarge, uriTooLong, unsupportedMediaType, rangeNotSatisfiable,
   expectationFailed, misdirectedRequest, unprocessableContent, upgradeRequired, tooManyRequests,
   internalServerError, notImplemented, badGateway, serviceUnavailable, gatewayTimeout,
   httpVersionNotSupported]

/-- The three digits of a status, as a number. -/
def code : Status → Nat
  | continueSending => 100
  | switchingProtocols => 101
  | ok => 200
  | created => 201
  | accepted => 202
  | nonAuthoritativeInformation => 203
  | noContent => 204
  | resetContent => 205
  | partialContent => 206
  | multipleChoices => 300
  | movedPermanently => 301
  | found => 302
  | seeOther => 303
  | notModified => 304
  | useProxy => 305
  | temporaryRedirect => 307
  | permanentRedirect => 308
  | badRequest => 400
  | unauthorized => 401
  | paymentRequired => 402
  | forbidden => 403
  | notFound => 404
  | methodNotAllowed => 405
  | notAcceptable => 406
  | proxyAuthenticationRequired => 407
  | requestTimeout => 408
  | conflict => 409
  | gone => 410
  | lengthRequired => 411
  | preconditionFailed => 412
  | contentTooLarge => 413
  | uriTooLong => 414
  | unsupportedMediaType => 415
  | rangeNotSatisfiable => 416
  | expectationFailed => 417
  | misdirectedRequest => 421
  | unprocessableContent => 422
  | upgradeRequired => 426
  | tooManyRequests => 429
  | internalServerError => 500
  | notImplemented => 501
  | badGateway => 502
  | serviceUnavailable => 503
  | gatewayTimeout => 504
  | httpVersionNotSupported => 505
  | other code => code

/-- The name of a status, without spaces. -/
def name : Status → String
  | continueSending => "Continue"
  | switchingProtocols => "SwitchingProtocols"
  | ok => "Ok"
  | created => "Created"
  | accepted => "Accepted"
  | nonAuthoritativeInformation => "NonAuthoritativeInformation"
  | noContent => "NoContent"
  | resetContent => "ResetContent"
  | partialContent => "PartialContent"
  | multipleChoices => "MultipleChoices"
  | movedPermanently => "MovedPermanently"
  | found => "Found"
  | seeOther => "SeeOther"
  | notModified => "NotModified"
  | useProxy => "UseProxy"
  | temporaryRedirect => "TemporaryRedirect"
  | permanentRedirect => "PermanentRedirect"
  | badRequest => "BadRequest"
  | unauthorized => "Unauthorized"
  | paymentRequired => "PaymentRequired"
  | forbidden => "Forbidden"
  | notFound => "NotFound"
  | methodNotAllowed => "MethodNotAllowed"
  | notAcceptable => "NotAcceptable"
  | proxyAuthenticationRequired => "ProxyAuthenticationRequired"
  | requestTimeout => "RequestTimeout"
  | conflict => "Conflict"
  | gone => "Gone"
  | lengthRequired => "LengthRequired"
  | preconditionFailed => "PreconditionFailed"
  | contentTooLarge => "ContentTooLarge"
  | uriTooLong => "UriTooLong"
  | unsupportedMediaType => "UnsupportedMediaType"
  | rangeNotSatisfiable => "RangeNotSatisfiable"
  | expectationFailed => "ExpectationFailed"
  | misdirectedRequest => "MisdirectedRequest"
  | unprocessableContent => "UnprocessableContent"
  | upgradeRequired => "UpgradeRequired"
  | tooManyRequests => "TooManyRequests"
  | internalServerError => "InternalServerError"
  | notImplemented => "NotImplemented"
  | badGateway => "BadGateway"
  | serviceUnavailable => "ServiceUnavailable"
  | gatewayTimeout => "GatewayTimeout"
  | httpVersionNotSupported => "HTTPVersionNotSupported"
  | other _ => "Other"

/-- The phrase that stands beside the code on the status line. -/
def reason : Status → String
  | continueSending => "Continue"
  | switchingProtocols => "Switching Protocols"
  | ok => "OK"
  | created => "Created"
  | accepted => "Accepted"
  | nonAuthoritativeInformation => "Non-Authoritative Information"
  | noContent => "No Content"
  | resetContent => "Reset Content"
  | partialContent => "Partial Content"
  | multipleChoices => "Multiple Choices"
  | movedPermanently => "Moved Permanently"
  | found => "Found"
  | seeOther => "See Other"
  | notModified => "Not Modified"
  | useProxy => "Use Proxy"
  | temporaryRedirect => "Temporary Redirect"
  | permanentRedirect => "Permanent Redirect"
  | badRequest => "Bad Request"
  | unauthorized => "Unauthorized"
  | paymentRequired => "Payment Required"
  | forbidden => "Forbidden"
  | notFound => "Not Found"
  | methodNotAllowed => "Method Not Allowed"
  | notAcceptable => "Not Acceptable"
  | proxyAuthenticationRequired => "Proxy Authentication Required"
  | requestTimeout => "Request Timeout"
  | conflict => "Conflict"
  | gone => "Gone"
  | lengthRequired => "Length Required"
  | preconditionFailed => "Precondition Failed"
  | contentTooLarge => "Content Too Large"
  | uriTooLong => "URI Too Long"
  | unsupportedMediaType => "Unsupported Media Type"
  | rangeNotSatisfiable => "Range Not Satisfiable"
  | expectationFailed => "Expectation Failed"
  | misdirectedRequest => "Misdirected Request"
  | unprocessableContent => "Unprocessable Content"
  | upgradeRequired => "Upgrade Required"
  | tooManyRequests => "Too Many Requests"
  | internalServerError => "Internal Server Error"
  | notImplemented => "Not Implemented"
  | badGateway => "Bad Gateway"
  | serviceUnavailable => "Service Unavailable"
  | gatewayTimeout => "Gateway Timeout"
  | httpVersionNotSupported => "HTTP Version Not Supported"
  | other _ => ""

/--
The status with a code: the registered one if there is one, and else a bare code of three digits.
-/
def ofCode (n : Nat) : Except LineFault Status :=
  match registered.find? (fun status => status.code == n) with
  | some status => .ok status
  | none => if 100 ≤ n ∧ n ≤ 999 then .ok (.other n) else .error (.statusOutOfRange n)

/-- The statuses that report a success are those from 200 to 299. -/
def isSuccess (status : Status) : Bool :=
  decide (200 ≤ status.code) && decide (status.code < 300)

/-- The statuses whose responses never have a body. -/
def isBodiless (status : Status) : Bool :=
  (decide (100 ≤ status.code) && decide (status.code ≤ 199)) || status.code == 204
    || status.code == 304

/-- A status that was made from a code has that code. -/
theorem code_of_ofCode {n : Nat} {status : Status} (made : ofCode n = .ok status) :
    status.code = n := by
  -- A registered code is found by comparing codes, and any other is kept as it is.
  unfold ofCode at made
  split at made
  · rename_i listed search
    cases made
    simpa using List.find?_some search
  · split at made
    · cases made; rfl
    · cases made

end Status

end HttpEngine
