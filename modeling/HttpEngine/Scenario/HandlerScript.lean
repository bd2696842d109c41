import HttpEngine.Inbound.Session

/-!
Scripted handlers: for every target a list of actions, which are performed on the response writer
one after the other and leave entries in a log.
-/

namespace HttpEngine

/-- A body that a script sends: given bytes, or a part of the request. -/
inductive ScriptBody where
  | given (content : Bytes)
  | echoTarget
  | echoMethod
  | echoBody
  deriving DecidableEq, Repr

/-- One action of a scripted handler. -/
inductive HandlerAction where
  | add (name value : String)
  | insert (name value : String)
  /-- Adds a header with the value that the request has for it. -/
  | copy (name : String)
  | isSent
  /-- Sends a response, unless the status is none. -/
  | send (status : Except Error Status) (body : ScriptBody)
  | crash
  deriving Repr

/-- What the actions leave in the log. -/
inductive HandlerEntry where
  | received (request : Request)
  | isSent (value : Bool)
  | sent (outcome : Except Error Unit)
  | crashed

/-- The bytes of a scripted body. Without a request there is nothing to repeat. -/
def ScriptBody.content (request? : Option Request) : ScriptBody → Bytes
  | given content => content
  | echoTarget => (request?.map fun request => utf8Bytes request.target).getD []
  | echoMethod => (request?.map fun request => utf8Bytes request.method.token).getD []
  | echoBody => (request?.map Request.body).getD []

namespace HandlerAction

/-- What an action does to the writer, if it does anything. -/
def writerAction? (request? : Option Request) : HandlerAction → Option WriterAction
  | add name value => some (.add name value)
  | insert name value => some (.insert name value)
  | copy name => some (.add name ((request?.bind (·.headers.get? name)).getD "none"))
  | send (.ok status) body => some (.send status (body.content request?))
  | send (.error _) _ | isSent | crash => none

/-- What an action leaves in the log, seen before it is performed. -/
def entry? (request? : Option Request) (writer : ResponseWriter) : HandlerAction →
    Option HandlerEntry
  | isSent => some (.isSent writer.isSent)
  | send (.error error) _ => some (.sent (.error error))
  | send (.ok status) body =>
    match (writer.send status (body.content request?)).2 with
    | .ok () => some (.sent (.ok ()))
    | .error violation => some (.sent (.error (.contract violation)))
  | crash => some .crashed
  | add _ _ | insert _ _ | copy _ => none

/-- The actions up to the first crash, and whether there is one. -/
def untilCrash : List HandlerAction → List HandlerAction × Bool
  | [] => ([], false)
  | crash :: _ => ([], true)
  | action :: rest =>
    let (before, crashes) := untilCrash rest
    (action :: before, crashes)

/-- What actions do as a performance. -/
def performance (request? : Option Request) (actions : List HandlerAction) : Performance :=
  -- Nothing is done after a crash.
  let (before, crashes) := untilCrash actions
  ⟨before.filterMap (writerAction? request?), crashes⟩

/-- The log of actions, up to the first crash. -/
def log (request? : Option Request) : ResponseWriter → List HandlerAction → List HandlerEntry
  | _, [] => []
  | _, crash :: _ => [.crashed]
  | writer, action :: rest =>
    -- The entry is about the writer before the action.
    let performed := match action.writerAction? request? with
      | some step => writer.perform step
      | none => writer
    (action.entry? request? writer).toList ++ log request? performed rest

end HandlerAction

/-- Actions for some targets, and for all others. -/
structure HandlerScript where
  routes : List (String × List HandlerAction) := []
  fallback : List HandlerAction := []

namespace HandlerScript

/-- The actions for a target. -/
def actions (script : HandlerScript) (target : String) : List HandlerAction :=
  (script.routes.lookup target).getD script.fallback

/-- The script as a handler that keeps its log. -/
def handler (script : HandlerScript) : Handler (List HandlerEntry) := fun kept request =>
  let actions := script.actions request.target
  -- What is logged does not depend on what is written before.
  let writer : ResponseWriter :=
    { version := request.version, keepAlive := request.keepAlive, out := [] }
  (HandlerAction.performance (some request) actions,
    kept ++ .received request :: HandlerAction.log (some request) writer actions)

end HandlerScript

/-- What a script over one writer leaves behind. -/
structure WriterReport where
  log : List HandlerEntry
  isSent : Bool
  headers : Headers
  completion : Completion
  out : Bytes

/-- The run of actions over a writer, without a request. -/
def ResponseWriter.runScript (writer : ResponseWriter) (actions : List HandlerAction) :
    WriterReport :=
  let performed := writer.performAll (HandlerAction.performance none actions).actions
  let (completion, out) := performed.finish
  { log := HandlerAction.log none writer actions
    isSent := performed.isSent, headers := performed.headers, completion, out }

end HttpEngine
