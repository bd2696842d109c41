import HttpEngine.Proofs.Outbound.Stride

/-!
The course of a dispatcher: the errands that it is sent on, one after the other. Each of them is a
sequence of strides, possibly with an entry between them.
-/

namespace HttpEngine

/-- What a dispatcher is told to do between two waits. -/
inductive Errand where
  | submit (exchange : Exchange)
  | ready (key : Nat) (ready : Readiness) (io : ConnectionIo)
  | expire (now : Instant)

/-- The exchange that comes in with an errand. -/
def Errand.exchange? : Errand → Option Exchange
  | submit exchange => some exchange
  | _ => none

/-- The exchanges that come in with errands. -/
def submitted (errands : List Errand) : List Exchange := errands.filterMap Errand.exchange?

namespace Dispatcher

/-- A dispatcher that has done nothing yet. -/
def fresh (maxConnectionsPerHost : Nat) (keepAlive : Bool) : Dispatcher :=
  { maxConnectionsPerHost, keepAlive }

/-- Does one errand. -/
def attend (net : Nat → HandoverIo) (dispatcher : Dispatcher) : Errand → Dispatcher
  | .submit exchange => dispatcher.submit net exchange
  | .ready key ready io => dispatcher.onReady net key ready io
  | .expire now => dispatcher.expire net now

/-- Does errands, one after the other. -/
def attendAll (net : Nat → HandoverIo) (dispatcher : Dispatcher) (errands : List Errand) :
    Dispatcher :=
  errands.foldl (attend net) dispatcher

/--
What every stride and every entry keeps, errands keep.

The property may speak about the exchanges that have come in so far.
-/
theorem attendAll_keeps_strides (property : List Exchange → Dispatcher → Prop)
    (net : Nat → HandoverIo)
    (strides : ∀ came (dispatcher next : Dispatcher), dispatcher.Stride net next →
      property came dispatcher → property came next)
    (enters : ∀ came (dispatcher next : Dispatcher) (exchange : Exchange),
      dispatcher.Entry exchange next → property came dispatcher →
        property (came ++ [exchange]) next)
    (errands : List Errand) (came : List Exchange) {dispatcher : Dispatcher}
    (holds : property came dispatcher) :
    property (came ++ submitted errands) (dispatcher.attendAll net errands) := by
  -- What the exchanges that came in before are changes with every errand.
  unfold submitted attendAll
  induction errands generalizing came dispatcher with
  | nil => rwa [List.filterMap_nil, List.append_nil]
  | cons errand rest ih =>
    have led : ∀ {came : List Exchange} {first last : Dispatcher}, first.Strides net last →
        property came first → property came last := by
      intro came first last led holds
      induction led with
      | refl => exact holds
      | tail _ stride ih => exact strides came _ _ stride ih
    rw [List.filterMap_cons]
    cases errand with
    | submit exchange =>
      -- There are strides on both sides of the entry.
      obtain ⟨known, entered, first, entry, last⟩ := entry_submit net dispatcher exchange
      have comes := enters came known entered exchange entry (led first holds)
      have done := ih _ (led last comes)
      rwa [List.append_assoc] at done
    | ready key ready io => exact ih came (led (strides_onReady net dispatcher key ready io) holds)
    | expire now => exact ih came (led (strides_expire net dispatcher now) holds)

/-- What every move and every entry keeps, errands keep. -/
theorem attendAll_keeps (property : List Exchange → Desk → Prop)
    (moves : ∀ came (desk next : Desk), desk.Moves next → property came desk →
      property came next)
    (enters : ∀ came (dispatcher next : Dispatcher) (exchange : Exchange),
      dispatcher.Entry exchange next → property came ⟨dispatcher, []⟩ →
        property (came ++ [exchange]) ⟨next, []⟩)
    (net : Nat → HandoverIo) (errands : List Errand) (came : List Exchange)
    {dispatcher : Dispatcher} (holds : property came ⟨dispatcher, []⟩) :
    property (came ++ submitted errands) ⟨dispatcher.attendAll net errands, []⟩ :=
  -- Nothing is in hand between two strides.
  attendAll_keeps_strides (fun came dispatcher => property came ⟨dispatcher, []⟩) net
    (fun came _ _ stride holds => (stride.leads []).keeps (property came) (moves came) holds)
    enters errands came holds

/-- A request to one host, with half a minute to go. -/
def rootRequest (promise : Nat) : Exchange :=
  { promise, request := { method := .get, target := "/" }, authority := "127.0.0.1:80"
    timeout := .ofSecs 30, deadline := ⟨30000000000⟩ }

/-- Everything that is written goes out at once. -/
def wideDeparture : Departure := ⟨1000, none⟩

/-- Every connection can be opened, and written to. -/
def openNet (_ : Nat) : HandoverIo :=
  { connect := fun _ => .ok (), departure := wideDeparture }

end Dispatcher

end HttpEngine
