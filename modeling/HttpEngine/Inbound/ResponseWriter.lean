import HttpEngine.Fault.Error
import HttpEngine.Wire.Encoding

/-!
The sink through which a handler answers one request. The first sending writes the response; a
second one is refused, and a missing one is made up for when the handler is done.
-/

namespace HttpEngine

/-- A sink for one response, over the output of a connection. -/
structure ResponseWriter where
  version : Version
  keepAlive : Bool
  headers : Headers := .empty
  out : Bytes
  sends : Nat := 0
  deriving DecidableEq, Repr

/-- What becomes of the connection after a handler. -/
inductive Completion where
  /-- One response was sent, which leaves the connection open or not. -/
  | sent (keepAlive : Bool)
  /-- The handler sent none, or tried to send several. -/
  | violated
  deriving DecidableEq, Repr

/-- What a handler can do with its sink. -/
inductive WriterAction where
  | add (name value : String)
  | insert (name value : String)
  /-- Any other change of the headers, by what they are after it. -/
  | replace (headers : Headers)
  | send (status : Status) (body : Bytes)
  deriving DecidableEq, Repr

namespace ResponseWriter

/-- Whether a response was sent. -/
def isSent (writer : ResponseWriter) : Bool := decide (0 < writer.sends)

/-- One more header of the response. -/
def addHeader (writer : ResponseWriter) (name value : String) : ResponseWriter :=
  { writer with headers := writer.headers.append name value }

/-- One header of the response in the place of all with its name. -/
def insertHeader (writer : ResponseWriter) (name value : String) : ResponseWriter :=
  { writer with headers := writer.headers.insert name value }

/-- Other headers of the response. -/
def setHeaders (writer : ResponseWriter) (headers : Headers) : ResponseWriter :=
  { writer with headers }

/-- The sending of the response, and what is said about it. -/
def send (writer : ResponseWriter) (status : Status) (body : Bytes) :
    ResponseWriter × Except Violation Unit :=
  let writer := { writer with sends := writer.sends + 1 }
  if 1 < writer.sends then (writer, .error .doubleSend)
  else
    -- A handler can close the connection by a header, and cannot open it.
    let keepAlive := writer.keepAlive && !writer.headers.wantsClose
    let response := { version := writer.version, status, headers := writer.headers, body }
    ({ writer with keepAlive, out := writer.out ++ encodeResponse response keepAlive }, .ok ())

/-- The response that is written for a handler that sent none. -/
def failureResponse (version : Version) : Response :=
  { version, status := .internalServerError }

/-- The end of the handler: what becomes of the connection, and the output. -/
def finish (writer : ResponseWriter) : Completion × Bytes :=
  match writer.sends with
  -- The peer gets an answer in any case, and the connection does not go on after a failure.
  | 0 => (.violated, writer.out ++ encodeResponse (failureResponse writer.version) false)
  | 1 => (.sent writer.keepAlive, writer.out)
  | _ => (.violated, writer.out)

/-- One action of a handler. What is said about a sending does not change the sink. -/
def perform (writer : ResponseWriter) : WriterAction → ResponseWriter
  | .add name value => writer.addHeader name value
  | .insert name value => writer.insertHeader name value
  | .replace headers => writer.setHeaders headers
  | .send status body => (writer.send status body).1

/-- The actions of a handler, one after the other. -/
def performAll (writer : ResponseWriter) (actions : List WriterAction) : ResponseWriter :=
  actions.foldl perform writer

end ResponseWriter

/-- How a completion is described. -/
def Completion.describe : Completion → String
  | sent keepAlive => "Sent \x7b keep_alive: " ++ (if keepAlive then "true" else "false") ++ " \x7d"
  | violated => "Violated"

end HttpEngine
