import HttpEngine.Promise.Heap

/-!
Promises made from promises. Each of them is code that creates the new promise, subscribes to the
old ones, and hands the new promise to what comes next.
-/

namespace HttpEngine

namespace Task

variable {α σ : Type}

/-- A promise that has its outcome from the start. -/
def settled (outcome : Outcome α) (next : Nat → Task α σ) : Task α σ :=
  .create fun promise => .settle promise outcome fun _ => next promise

/--
The promise of what code makes of a value.

An error passes to the new promise after `onReject` has seen it.
-/
def chain (promise : Nat) (onResolve : α → (α → Task α σ) → Task α σ)
    (onReject : Error → Task α σ → Task α σ) (next : Nat → Task α σ) : Task α σ :=
  -- The new promise is there before the callback can run.
  .create fun derived =>
  .subscribe promise
    (fun outcome => match outcome with
      | .ok value => onResolve value fun result => .settle derived (.ok result) fun _ => .done
      | .error error => onReject error (.settle derived (.error error) fun _ => .done))
    (next derived)

/-- The promise of what a function makes of a value. -/
def mapped (promise : Nat) (f : α → α) (next : Nat → Task α σ) : Task α σ :=
  chain promise (fun value give => give (f value)) (fun _ rest => rest) next

/-- The promise that takes the outcome of the promise that code makes of a value. -/
def flatten (promise : Nat) (inner : α → (Nat → Task α σ) → Task α σ)
    (next : Nat → Task α σ) : Task α σ :=
  .create fun derived =>
  .subscribe promise
    (fun outcome => match outcome with
      | .ok value =>
        -- The outcome is passed on whenever the inner promise has one.
        inner value fun found =>
        .subscribe found (fun outcome => .settle derived outcome fun _ => .done) .done
      | .error error => .settle derived (.error error) fun _ => .done)
    (next derived)

/-- Subscribes the deposits of promises, from a position on. -/
def depositAll (gather aggregate : Nat) (pack : List α → α) :
    Nat → List Nat → Task α σ → Task α σ
  | _, [], next => next
  | index, promise :: rest, next =>
    .subscribe promise
      (fun outcome =>
        .deposit gather index outcome fun slots => match slots with
          -- Only the last deposit settles the aggregate, outside the section that took the slots.
          | some slots => .settle aggregate ((Gather.collect slots).map pack) fun _ => .done
          | none => .done)
      (depositAll gather aggregate pack (index + 1) rest next)

/-- The promise of all values in their order, or of the first error in that order. -/
def whenAll (promises : List Nat) (pack : List α → α) (next : Nat → Task α σ) : Task α σ :=
  if promises.isEmpty then settled (.ok (pack [])) next
  else
    .create fun aggregate =>
    .gather promises.length fun gather =>
    depositAll gather aggregate pack 0 promises (next aggregate)

/-- Subscribes the entries of promises into a race, from a position on. -/
def enterAll (race aggregate : Nat) (pack : Nat → α → α) :
    Nat → List Nat → Task α σ → Task α σ
  | _, [], next => next
  | index, promise :: rest, next =>
    .subscribe promise
      (fun outcome =>
        .enter race fun first =>
          -- Whoever comes later is not even told to the promise.
          if first then .settle aggregate (outcome.map (pack index)) fun _ => .done
          else .done)
      (enterAll race aggregate pack (index + 1) rest next)

/-- The reason for which no promises have no first one. -/
def noCandidates : Error := .rejected "when_any called without promises"

/-- The promise of the first outcome in time, with its position. -/
def whenAny (promises : List Nat) (pack : Nat → α → α) (next : Nat → Task α σ) : Task α σ :=
  if promises.isEmpty then settled (.error noCandidates) next
  else
    .create fun aggregate =>
    .race fun race =>
    enterAll race aggregate pack 0 promises (next aggregate)

end Task

end HttpEngine
