import HttpEngine.Fault.Wire

/-! Request methods and their tokens. -/

namespace HttpEngine

/-- The methods that a request may have. -/
inductive Method where
  | get
  | head
  | post
  | put
  | delete
  | connect
  | options
  | trace
  | patch
  deriving DecidableEq, Repr, Inhabited

namespace Method

/-- Every method. -/
def all : List Method := [get, head, post, put, delete, connect, options, trace, patch]

/-- The token of a method on the request line. -/
def token : Method → String
  | get => "GET"
  | head => "HEAD"
  | post => "POST"
  | put => "PUT"
  | delete => "DELETE"
  | connect => "CONNECT"
  | options => "OPTIONS"
  | trace => "TRACE"
  | patch => "PATCH"

/-- The name of a method, with one capital letter. -/
def name : Method → String
  | get => "Get"
  | head => "Head"
  | post => "Post"
  | put => "Put"
  | delete => "Delete"
  | connect => "Connect"
  | options => "Options"
  | trace => "Trace"
  | patch => "Patch"

/-- The method whose token a text is, letter by letter. -/
def ofToken (text : String) : Except LineFault Method :=
  match all.find? (fun method => method.token == text) with
  | some method => .ok method
  | none => .error (.unknownMethod text)

/-- The methods whose requests announce a length even if they have no body. -/
def announcesBody : Method → Bool
  | post | put | patch => true
  | _ => false

/-- Every method is read back from its token. -/
theorem ofToken_token (method : Method) : ofToken method.token = .ok method := by
  cases method <;> rfl

/-- A token that is read as a method is that method's own. -/
theorem token_of_ofToken {text : String} {method : Method} (read : ofToken text = .ok method) :
    method.token = text := by
  -- The search compares tokens, so that what it finds has the token.
  unfold ofToken at read
  split at read
  · rename_i found search
    cases read
    simpa using List.find?_some search
  · cases read

end Method

end HttpEngine
