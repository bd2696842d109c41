import HttpEngine.Text.Decimal
import HttpEngine.Text.Quoted

/-! What can be wrong with the bytes of a message, from the grammar of its head to its framing. -/

namespace HttpEngine

/-- The faults that the grammar of a message head knows. -/
inductive HeadError where
  | headerName
  | headerValue
  | newLine
  | status
  | token
  | tooManyHeaders
  | version
  deriving DecidableEq, Repr

namespace HeadError

/-- The name that a fault goes by. -/
def name : HeadError → String
  | .headerName => "HeaderName"
  | .headerValue => "HeaderValue"
  | .newLine => "NewLine"
  | .status => "Status"
  | .token => "Token"
  | .tooManyHeaders => "TooManyHeaders"
  | .version => "Version"

/-- The words for a fault. -/
def message : HeadError → String
  | .headerName => "invalid header name"
  | .headerValue => "invalid header value"
  | .newLine => "invalid new line"
  | .status => "invalid response status"
  | .token => "invalid token"
  | .tooManyHeaders => "too many headers"
  | .version => "invalid HTTP version"

/-- Every fault of the grammar. -/
def all : List HeadError :=
  [.headerName, .headerValue, .newLine, .status, .token, .tooManyHeaders, .version]

/-- The fault that goes by a name. -/
def ofName? (name : String) : Option HeadError :=
  all.find? fun fault => fault.name == name

end HeadError

/-- Words of a first line that follow the grammar and mean nothing. -/
inductive LineFault where
  | unknownMethod (token : String)
  | statusOutOfRange (code : Nat)
  | unknownVersion
  | unknownMinor (minor : Nat)
  deriving DecidableEq, Repr

/-- The words for a fault of a first line. -/
def LineFault.message : LineFault → String
  | .unknownMethod token => "unknown method " ++ quoted token
  | .statusOutOfRange code => "invalid status code " ++ decimal code
  | .unknownVersion => "unsupported HTTP version"
  | .unknownMinor minor => "unsupported HTTP/1." ++ decimal minor

/-- A head may have this many bytes while its end is still awaited. -/
def maxHeadLength : Nat := 8192

/-- A message may have this many header lines. -/
def maxHeaders : Nat := 64

/-- The reasons for which bytes are no message. -/
inductive Malformation where
  | head (fault : HeadError)
  | line (fault : LineFault)
  | valueNotUtf8 (name : String)
  | transferCoding
  | lengthText (value : String)
  | lengthOutOfRange (length : Nat)
  | headTooLong
  | endedInHead
  | endedInBody
  /-- A reason that is given in words only. -/
  | described (words : String)
  deriving DecidableEq, Repr

/-- The words for a reason. -/
def Malformation.message : Malformation → String
  | .head fault => fault.message
  | .line fault => "protocol error: " ++ fault.message
  | .valueNotUtf8 name => "non UTF-8 value for " ++ name
  | .transferCoding => "transfer codings are not supported"
  | .lengthText value => "invalid content-length " ++ quoted value
  | .lengthOutOfRange length => "content-length " ++ decimal length ++ " out of range"
  | .headTooLong => "message head exceeds " ++ decimal maxHeadLength ++ " bytes"
  | .endedInHead => "stream ended inside the response head"
  | .endedInBody => "stream ended inside the response body"
  | .described words => words

/-- The two ways in which the decoding of a message fails. -/
inductive DecodeError where
  | malformed (reason : Malformation)
  | tooLarge (length limit : Nat)
  deriving DecidableEq, Repr

/-- The words for a failed decoding. -/
def DecodeError.message : DecodeError → String
  | .malformed reason => "malformed message: " ++ reason.message
  | .tooLarge length limit =>
    "body of " ++ decimal length ++ " bytes exceeds the " ++ decimal limit ++ " byte limit"

end HttpEngine
