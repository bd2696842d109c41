import HttpEngine.Promise.Combinators
import HttpEngine.Proofs.Promise.Graph
import HttpEngine.Proofs.Promise.Run

/-!
Programs that build promises from promises and settle some of them. What such a program does to
promises it does by the code that makes promises, and it writes down where each promise comes from.
-/

namespace HttpEngine

variable {α : Type}

/-- What programs write down. The last entry about a promise counts. -/
structure Ledger (α : Type) where
  origins : List (Nat × Origin α) := []
  /-- Where programs are called with values: the value and the promise found for it, once it is. -/
  sites : List (Option (α × Nat)) := []

namespace Ledger

/-- Where a promise comes from, if that was written down. -/
def origin? (ledger : Ledger α) (promise : Nat) : Option (Origin α) :=
  ledger.origins.lookup promise

/-- Whether it was written down that anybody may settle a promise. -/
def isSource (ledger : Ledger α) (promise : Nat) : Bool :=
  match ledger.origin? promise with
  | some .source => true
  | _ => false

/-- The promise that was found at a site, with the value that it was found for. -/
def found? (ledger : Ledger α) (site : Nat) : Option (α × Nat) :=
  ledger.sites[site]?.join

/-- One more entry about a promise. -/
def note (promise : Nat) (origin : Origin α) (ledger : Ledger α) : Ledger α :=
  { ledger with origins := (promise, origin) :: ledger.origins }

/-- One more site. -/
def openSite (ledger : Ledger α) : Ledger α :=
  { ledger with sites := ledger.sites ++ [none] }

/-- The ledger after a promise was found at a site. -/
def fillSite (site : Nat) (value : α) (found : Nat) (ledger : Ledger α) : Ledger α :=
  { ledger with sites := ledger.sites.set site (some (value, found)) }

end Ledger

/-- The graph of the promises on a heap, as far as it was written down. -/
def Heap.graph (heap : Heap α (Ledger α)) : Graph α :=
  ⟨heap.shared.origin?, heap.shared.found?, heap.outcome?⟩

/-- A program over promises, which ends with one of them. -/
inductive PromiseProgram (α : Type) where
  | give (promise : Nat)
  /-- A look at what has been written down, by this program or any other. -/
  | look (next : Ledger α → PromiseProgram α)
  | pending (next : Nat → PromiseProgram α)
  | mapped (promise : Nat) (f : α → α) (next : Nat → PromiseProgram α)
  | flatten (promise : Nat) (inner : α → PromiseProgram α) (next : Nat → PromiseProgram α)
  | whenAll (promises : List Nat) (next : Nat → PromiseProgram α)
  /-- The settling of a source. The program is told whether the source took the outcome. -/
  | settle (promise : Nat) (outcome : Outcome α) (next : Bool → PromiseProgram α)

namespace PromiseProgram

/-- Writes down where a promise comes from. -/
def noting (promise : Nat) (origin : Origin α) (next : Task α (Ledger α)) : Task α (Ledger α) :=
  .update (Ledger.note promise origin) fun _ => next

/--
Goes on with the promise that has a number.

A number that nobody wrote anything about stands for a new promise, which waits.
-/
def named (promise : Nat) (next : Nat → Task α (Ledger α)) : Task α (Ledger α) :=
  .update id fun ledger =>
    if (ledger.origin? promise).isSome then next promise
    else .create fun fresh => noting fresh .source (next fresh)

/-- Goes on with the promises that have numbers. -/
def namedAll : List Nat → (List Nat → Task α (Ledger α)) → Task α (Ledger α)
  | [], next => next []
  | promise :: rest, next =>
    named promise fun first => namedAll rest fun others => next (first :: others)

/-- A program as code. What comes after it goes on with the promise that the program ends with. -/
def task (pack : List α → α) : PromiseProgram α → (Nat → Task α (Ledger α)) → Task α (Ledger α)
  | give promise, after => named promise after
  | look next, after => .update id fun ledger => (next ledger).task pack after
  | pending next, after =>
    .create fun fresh => noting fresh .source ((next fresh).task pack after)
  | mapped promise f next, after =>
    named promise fun input =>
    .mapped input f fun derived => noting derived (.mapped input f) ((next derived).task pack after)
  | flatten promise inner next, after =>
    named promise fun input =>
    -- The site is there before the value can be.
    .update Ledger.openSite fun ledger =>
    let site := ledger.sites.length
    .flatten input
      (fun value give => (inner value).task pack fun found =>
        .update (Ledger.fillSite site value found) fun _ => give found)
      fun derived => noting derived (.flattened input site) ((next derived).task pack after)
  | whenAll promises next, after =>
    namedAll promises fun inputs =>
    .whenAll inputs pack fun derived =>
      noting derived (.gathered inputs) ((next derived).task pack after)
  | settle promise outcome next, after =>
    .update id fun ledger =>
      -- Nobody but its own callbacks has the resolver of a promise made from others.
      if ledger.isSource promise then
        .settle promise outcome fun accepted => (next accepted).task pack after
      else (next false).task pack after

end PromiseProgram

/--
What happens while programs run: one is called on a thread of its own, or some thread takes a step.

A thread that calls one program after another is as many calls.
-/
inductive PromiseAct (α : Type) where
  | call (program : PromiseProgram α)
  | step (thread : Nat)

/-- The act of the machine. Nothing comes after a program that is called. -/
def PromiseAct.toMachineAct (pack : List α → α) : PromiseAct α → MachineAct α (Ledger α)
  | call program => .call (program.task pack fun _ => .done)
  | step thread => .step thread

/-- The machine after programs were called, and their threads took steps in some order. -/
def runPrograms (pack : List α → α) (acts : List (PromiseAct α)) : Machine α (Ledger α) :=
  (Machine.fresh {}).run (acts.map (PromiseAct.toMachineAct pack))

end HttpEngine
