import HttpEngine.Message.Request
import HttpEngine.Message.Response

/-! The bytes of messages. The headers that frame a message are added where they are missing. -/

namespace HttpEngine

/-- The name under which the engine answers. -/
def serverName : String := "ferry/0.0.1"

/-- What a `Connection` header says. -/
def connectionWord (keepAlive : Bool) : String :=
  if keepAlive then "keep-alive" else "close"

/-- One line with its end. -/
def lineBytes (text : String) : Bytes :=
  utf8Bytes text ++ [0x0D, 0x0A]

/-- One header line. -/
def fieldBytes (field : Field) : Bytes :=
  lineBytes (field.name ++ ": " ++ field.value)

/-- The fields that a request for a host gets in front of its own, unless it has them already. -/
def addedFields (request : Request) (host : String) (keepAlive : Bool) : List Field :=
  (if request.headers.contains "host" then [] else [⟨"Host", host⟩])
    -- A length is announced for a body, and by the methods that usually have one.
    ++ (if !request.headers.contains "content-length"
          && (!request.body.isEmpty || request.method.announcesBody) then
        [⟨"Content-Length", decimal request.body.length⟩] else [])
    ++ (if request.headers.contains "connection" then []
        else [⟨"Connection", connectionWord keepAlive⟩])

/-- The bytes of a request for a host. -/
def encodeRequest (request : Request) (host : String) (keepAlive : Bool) : Bytes :=
  lineBytes (request.method.token ++ " " ++ request.target ++ " " ++ request.version.text)
    ++ (addedFields request host keepAlive ++ request.headers.fields).flatMap fieldBytes
    ++ lineBytes "" ++ request.body

/--
The fields of a response that are written: those that do not frame it, between the engine's own.
-/
def writtenFields (headers : Headers) (bodyLength : Nat) (keepAlive : Bool) : List Field :=
  [⟨"Server", serverName⟩]
    -- What a handler says about the framing is left out, since the engine knows it better.
    ++ headers.fields.filter
      (fun field => !sameName field.name "content-length" && !sameName field.name "connection")
    ++ [⟨"Content-Length", decimal bodyLength⟩, ⟨"Connection", connectionWord keepAlive⟩]

/-- The bytes of a response. Its length is always that of its body. -/
def encodeResponse (response : Response) (keepAlive : Bool) : Bytes :=
  lineBytes (response.version.text ++ " " ++ decimal response.status.code ++ " "
      ++ response.status.reason)
    ++ (writtenFields response.headers response.body.length keepAlive).flatMap fieldBytes
    ++ lineBytes "" ++ response.body

end HttpEngine
