import HttpEngine.Fault.Io
import HttpEngine.Fault.Wire
import HttpEngine.Time.Duration

/-! The errors that promises, endpoints and clients report, each by its cause. -/

namespace HttpEngine

/-- What a caller or a handler did against the rules. -/
inductive Violation where
  | alreadySettled
  | doubleSend
  | sendOmitted
  | shutdownWithPendingWork
  deriving DecidableEq, Repr

namespace Violation

/-- The name that a violation goes by. -/
def name : Violation → String
  | .alreadySettled => "AlreadySettled"
  | .doubleSend => "DoubleSend"
  | .sendOmitted => "SendOmitted"
  | .shutdownWithPendingWork => "ShutdownWithPendingWork"

/-- The words for a violation. -/
def message : Violation → String
  | .alreadySettled => "attempt to settle an already settled promise"
  | .doubleSend => "response was sent more than once"
  | .sendOmitted => "handler returned without sending a response"
  | .shutdownWithPendingWork => "shutdown while requests were still in flight"

/-- The violation that goes by a name. -/
def ofName? (name : String) : Option Violation :=
  [alreadySettled, doubleSend, sendOmitted, shutdownWithPendingWork].find? (·.name == name)

end Violation

/-- What is wrong with a message or a target. -/
inductive ProtocolFault where
  | head (fault : HeadError)
  | line (fault : LineFault)
  | undecodable (error : DecodeError)
  | encryptedTarget (target : String)
  | missingHost (target : String)
  /-- A fault that is given in words only. -/
  | described (words : String)
  deriving DecidableEq, Repr

/-- The words for a fault. -/
def ProtocolFault.message : ProtocolFault → String
  | .head fault => fault.message
  | .line fault => fault.message
  | .undecodable error => error.message
  | .encryptedTarget target => target ++ ": TLS is not supported"
  | .missingHost target => target ++ ": missing host"
  | .described words => words

/-- What is wrong with options, or with the moment at which they are given. -/
inductive OptionsFault where
  | noThreads
  | noConnections
  | noTimeout
  | timeoutOutOfRange (timeout : Duration)
  | noBacklog
  | noTimeouts
  | alreadyInitialized
  | servingOrStopped
  | noHandler
  | notBound
  /-- A fault that is given in words only. -/
  | described (words : String)
  deriving DecidableEq, Repr

/-- The words for a fault. -/
def OptionsFault.message : OptionsFault → String
  | .noThreads => "thread count must be positive"
  | .noConnections => "connections per host must be positive"
  | .noTimeout => "timeout must be positive"
  | .timeoutOutOfRange timeout => "timeout " ++ timeout.text ++ " is out of range"
  | .noBacklog => "backlog must be positive"
  | .noTimeouts => "timeouts must be positive"
  | .alreadyInitialized => "endpoint is already initialized"
  | .servingOrStopped => "endpoint is already serving or stopped"
  | .noHandler => "no handler bound"
  | .notBound => "endpoint is not bound"
  | .described words => words

/-- Everything that can go wrong. -/
inductive Error where
  | transport (failure : IoError)
  | timeout (after : Duration)
  | protocol (fault : ProtocolFault)
  | contract (violation : Violation)
  | rejected (reason : String)
  | shutdown
  | invalidOptions (fault : OptionsFault)
  deriving DecidableEq, Repr

namespace Error

/-- The name of the group that an error belongs to. -/
def group : Error → String
  | .transport _ => "transport"
  | .timeout _ => "timeout"
  | .protocol _ => "protocol"
  | .contract _ => "contract"
  | .rejected _ => "rejected"
  | .shutdown => "shutdown"
  | .invalidOptions _ => "invalid_options"

/-- The words for an error. -/
def message : Error → String
  | .transport failure => "transport error: " ++ failure.text
  | .timeout after => "request timed out after " ++ after.text
  | .protocol fault => "protocol error: " ++ fault.message
  | .contract violation => "contract violation: " ++ violation.message
  | .rejected reason => "rejected: " ++ reason
  | .shutdown => "operation aborted by shutdown"
  | .invalidOptions fault => "invalid options: " ++ fault.message

/-- The kind of failure behind an error of the transport, and a time-out is one of them. -/
def ioKind? : Error → Option IoKind
  | .transport failure => some failure.kind
  | .timeout _ => some .timedOut
  | _ => none

/-- Whether the error is the caller's own mistake. -/
def isContractViolation : Error → Bool
  | .contract _ => true
  | _ => false

end Error

end HttpEngine
