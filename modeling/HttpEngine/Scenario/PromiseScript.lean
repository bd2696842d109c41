import HttpEngine.Promise.Combinators
import HttpEngine.Promise.Wait
import HttpEngine.Scenario.Datum

/-!
Scripts over promises with names. A script is code like any other: it becomes a task, runs on one
thread, and leaves behind an answer for each of its steps and the events that callbacks reported.
-/

namespace HttpEngine

/-- Where the inner promise of a flattening step comes from. -/
inductive InnerPromise where
  | named (name : String)
  | rejected (error : Error)
  | mapped (transform : Transform)

/-- One step of a script, apart from the steps nested in its callbacks. -/
inductive PromiseStep where
  | pending (name : String)
  | settledAs (name : String) (outcome : Outcome Datum)
  | produced (name : String) (outcomes : List (Outcome Datum))
  | settle (name : String) (outcome : Outcome Datum)
  | isPending (name : String)
  | describeResolver (name : String)
  | share (name newName : String)
  | drop (name : String)
  | dropResolver (name : String)
  | state (name : String)
  | peek (name : String)
  | value (name : String)
  | error (name : String)
  | chain (name newName : String) (transform : Transform)
  | flatten (name newName : String) (inner : InnerPromise)
  | onSettle (name tag : String)
  | whenAll (newName : String) (names : List String)
  | whenAny (newName : String) (names : List String)
  | waitFor (name : String) (limit : Duration)
  | wait (name : String) (helper : Option (Outcome Datum))
  | note (value : Datum)

/-- A script: steps, each with the word it goes by and the steps inside its two callbacks. -/
inductive PromiseScript where
  | done
  | step (word : String) (step : PromiseStep) (onResolve onReject rest : PromiseScript)

/-- What a step answers. -/
inductive PromiseAnswer where
  | made (outcome : Option (Outcome Datum))
  | produced (outcome : Option (Outcome Datum)) (attempts : List (Bool × Bool))
  | settled (accepted : Bool)
  | flag (value : Bool)
  | described (text : String)
  | state (state : PromiseState)
  | seen (outcome : Option (Outcome Datum))
  | value (value : Option Datum)
  | error (error : Option Error)
  | registered
  | waited (result : WaitResult Datum) (limit : Duration)
  | wouldBlock
  | note (value : Datum)
  | unknownPromise
  | unknownResolver

/-- What callbacks report. -/
inductive PromiseEvent where
  | resolved (name : String) (value : Datum)
  | rejected (name : String) (error : Error)
  | flattened (name : String) (value : Datum)
  | settled (tag : String) (outcome : Outcome Datum)
  | did (word : String) (answer : PromiseAnswer)

/-- What a script works with: the promises and resolvers by name, and what is to be reported. -/
structure PromiseDesk where
  promises : List (String × Nat) := []
  resolvers : List (String × Nat) := []
  /-- What was reported during the current step. -/
  events : List PromiseEvent := []
  /-- The answers of the steps that are over, with their events. -/
  answers : List (PromiseAnswer × List PromiseEvent) := []

namespace PromiseDesk

/-- A list of names with one name put in the place of any other like it. -/
def put (names : List (String × Nat)) (name : String) (promise : Nat) : List (String × Nat) :=
  names.filter (fun entry => entry.1 != name) ++ [(name, promise)]

/-- A list of names without one name. -/
def forget (names : List (String × Nat)) (name : String) : List (String × Nat) :=
  names.filter fun entry => entry.1 != name

/-- The promise or resolver with a name. -/
def find? (names : List (String × Nat)) (name : String) : Option Nat :=
  names.lookup name

/-- The desk after something was reported. -/
def report (event : PromiseEvent) (desk : PromiseDesk) : PromiseDesk :=
  { desk with events := desk.events ++ [event] }

/-- The desk after a step of the script itself is over. -/
def finish (answer : PromiseAnswer) (desk : PromiseDesk) : PromiseDesk :=
  { desk with events := [], answers := desk.answers ++ [(answer, desk.events)] }

end PromiseDesk

/-- Code of a script. -/
abbrev ScriptTask := Task Datum PromiseDesk

namespace PromiseScript

/-- Reports something and goes on. -/
def reporting (event : PromiseEvent) (next : ScriptTask) : ScriptTask :=
  .update (PromiseDesk.report event) fun _ => next

/-- Goes on with the promise that has a name. -/
def withPromise (name : String) (answer : PromiseAnswer → ScriptTask)
    (next : Nat → ScriptTask) : ScriptTask :=
  -- Nothing is changed, but the look at the names is a touch of its own.
  .update id fun desk => match PromiseDesk.find? desk.promises name with
    | some promise => next promise
    | none => answer .unknownPromise

/-- Goes on with the resolver that has a name. -/
def withResolver (name : String) (answer : PromiseAnswer → ScriptTask)
    (next : Nat → ScriptTask) : ScriptTask :=
  .update id fun desk => match PromiseDesk.find? desk.resolvers name with
    | some promise => next promise
    | none => answer .unknownResolver

/-- Gives a promise a name, and goes on with what is seen of it then. -/
def naming (newName : String) (promise : Nat) (next : Option (Outcome Datum) → ScriptTask) :
    ScriptTask :=
  .update (fun desk => { desk with promises := PromiseDesk.put desk.promises newName promise })
    fun _ => .peek promise next

/-- Gives the resolver of a promise a name. -/
def namingResolver (newName : String) (promise : Nat) (next : ScriptTask) : ScriptTask :=
  .update (fun desk => { desk with resolvers := PromiseDesk.put desk.resolvers newName promise })
    fun _ => next

/-- Settles a promise with each of some outcomes: whether it took it, and is pending after it. -/
def settleAll (promise : Nat) :
    List (Outcome Datum) → List (Bool × Bool) → (List (Bool × Bool) → ScriptTask) → ScriptTask
  | [], attempts, next => next attempts
  | outcome :: rest, attempts, next =>
    .settle promise outcome fun accepted =>
    .peek promise fun after =>
    settleAll promise rest (attempts ++ [(accepted, after.isNone)]) next

/-- The inner promise of a flattening step. -/
def innerPromise (inner : InnerPromise) (value : Datum) (next : Nat → ScriptTask) : ScriptTask :=
  match inner with
  | .named name =>
    -- The name is looked up when the value is there.
    .update id fun desk => match PromiseDesk.find? desk.promises name with
      | some promise => next promise
      | none => .settled (.error (.rejected "no such promise")) next
  | .rejected error => .settled (.error error) next
  | .mapped transform => .settled (.ok (transform.apply value)) next

/-- The data that stands for the first value and its position. -/
def positioned (index : Nat) (value : Datum) : Datum :=
  .list [.int index, value]

/-- One step as code, with the code of its two callbacks, and what its answer goes to. -/
def stepTask (step : PromiseStep) (onResolve onReject : ScriptTask → ScriptTask)
    (answer : PromiseAnswer → ScriptTask) : ScriptTask :=
  match step with
  | .pending name =>
    .create fun promise =>
    namingResolver name promise <| naming name promise fun seen => answer (.made seen)
  | .settledAs name outcome =>
    .settled outcome fun promise => naming name promise fun seen => answer (.made seen)
  | .produced name outcomes =>
    .create fun promise =>
    settleAll promise outcomes [] fun attempts =>
    namingResolver name promise <| naming name promise fun seen =>
    answer (.produced seen attempts)
  | .settle name outcome =>
    withResolver name answer fun promise =>
    .settle promise outcome fun accepted => answer (.settled accepted)
  | .isPending name =>
    withResolver name answer fun promise =>
    .peek promise fun seen => answer (.flag seen.isNone)
  | .describeResolver name =>
    withResolver name answer fun promise =>
    .peek promise fun seen =>
    answer (.described ((PromiseState.ofOutcome? seen).describe "Resolver"))
  | .share name newName =>
    withPromise name answer fun promise =>
    naming newName promise fun seen => answer (.made seen)
  | .drop name =>
    .update (fun desk => { desk with promises := PromiseDesk.forget desk.promises name })
      -- The desk is seen as it was, so that the answer tells whether there was anything to drop.
      fun desk => answer (.flag (PromiseDesk.find? desk.promises name).isSome)
  | .dropResolver name =>
    .update (fun desk => { desk with resolvers := PromiseDesk.forget desk.resolvers name })
      fun desk => answer (.flag (PromiseDesk.find? desk.resolvers name).isSome)
  | .state name =>
    withPromise name answer fun promise =>
    .peek promise fun seen => answer (.state (PromiseState.ofOutcome? seen))
  | .peek name =>
    withPromise name answer fun promise => .peek promise fun seen => answer (.seen seen)
  | .value name =>
    withPromise name answer fun promise =>
    .peek promise fun seen => answer (.value (seen.bind Except.toOption))
  | .error name =>
    withPromise name answer fun promise =>
    .peek promise fun seen => answer (.error (seen.bind fun outcome => match outcome with
      | .ok _ => none
      | .error error => some error))
  | .chain name newName transform =>
    withPromise name answer fun promise =>
    .chain promise
      (fun value give =>
        reporting (.resolved newName value) (onResolve (give (transform.apply value))))
      (fun error rest => reporting (.rejected newName error) (onReject rest))
      fun derived => naming newName derived fun seen => answer (.made seen)
  | .flatten name newName inner =>
    withPromise name answer fun promise =>
    .flatten promise
      -- The report comes before the steps of the callback, and those before the inner promise.
      (fun value give =>
        reporting (.flattened newName value) (onResolve (innerPromise inner value give)))
      fun derived => naming newName derived fun seen => answer (.made seen)
  | .onSettle name tag =>
    withPromise name answer fun promise =>
    .subscribe promise
      (fun outcome => reporting (.settled tag outcome) (onResolve .done))
      (answer .registered)
  | .whenAll newName names =>
    -- One unknown name is enough for the step to do nothing.
    .update id fun desk => match names.mapM (PromiseDesk.find? desk.promises) with
      | none => answer .unknownPromise
      | some promises =>
        .whenAll promises .list fun aggregate =>
        naming newName aggregate fun seen => answer (.made seen)
  | .whenAny newName names =>
    .update id fun desk => match names.mapM (PromiseDesk.find? desk.promises) with
      | none => answer .unknownPromise
      | some promises =>
        .whenAny promises positioned fun aggregate =>
        naming newName aggregate fun seen => answer (.made seen)
  | .waitFor name limit =>
    withPromise name answer fun promise =>
    -- Nobody else is running, so that a pending promise stays pending until the limit.
    .peek promise fun seen => answer (.waited (.ofOutcome? seen) limit)
  | .wait name helper =>
    withPromise name answer fun promise =>
    .peek promise fun seen => match seen, helper with
      | some _, _ => answer (.seen seen)
      | none, none => answer .wouldBlock
      | none, some outcome =>
        -- Another thread settles the promise and is waited for. Without a resolver none can.
        withResolver name (fun _ => answer .wouldBlock) fun resolver =>
        .settle resolver outcome fun _ =>
        .peek promise fun seen => answer (if seen.isSome then .seen seen else .wouldBlock)
  | .note value => answer (.note value)

/-- The steps nested in a callback as code. Each is reported when it is over. -/
def nestedTask : PromiseScript → ScriptTask → ScriptTask
  | done, next => next
  | step word op onResolve onReject rest, next =>
    stepTask op (nestedTask onResolve) (nestedTask onReject) fun answer =>
    reporting (.did word answer) (nestedTask rest next)

/-- A script as code. Each step of its own leaves an answer behind. -/
def task : PromiseScript → ScriptTask
  | done => .done
  | step _ op onResolve onReject rest =>
    stepTask op (nestedTask onResolve) (nestedTask onReject) fun answer =>
    .update (PromiseDesk.finish answer) fun _ => task rest

/-- How many names and outcomes a step lists. -/
def listed : PromiseStep → Nat
  | .produced _ outcomes => outcomes.length
  | .whenAll _ names | .whenAny _ names => names.length
  | _ => 0

/-- A number of touches that no run of a script exceeds: each step runs at most once. -/
def touches : PromiseScript → Nat
  | done => 1
  | step _ op onResolve onReject rest =>
    30 + 10 * listed op + touches onResolve + touches onReject + touches rest

/--
What a script leaves behind: the answers of its steps, and the promises that still have names.
-/
structure Report where
  answers : List (PromiseAnswer × List PromiseEvent)
  final : List (String × Option (Outcome Datum))

/-- The run of a script from nothing. -/
def run (script : PromiseScript) : Report :=
  -- The fuel is more than the script can use up.
  let start : Heap Datum PromiseDesk := { shared := {} }
  let (heap, _) := start.run (touches script) [.task (task script)]
  { answers := heap.shared.answers
    final := heap.shared.promises.map fun (name, promise) => (name, heap.outcome? promise) }

end PromiseScript

end HttpEngine
