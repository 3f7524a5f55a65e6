import PageBuilder.Error

/-!
# The save queue

Saves are requested one after the other and reach the store one at a time.  Every request carries
the next number and a snapshot of what is to be saved.  A change waits on a timer, and a further
change takes its place; a flush waits on nothing.  Requests that no longer wait on the timer line
up for their turn.  One that has the turn and sees a newer one lined up is dropped: the newer
snapshot says all that it says.  Only the newest request publishes how its save went.

The queue is a state and the events that may happen to it, in any order.  An event that cannot
happen changes nothing.
-/

namespace PageBuilder

/-- How saving goes. -/
inductive SaveStatus where
  /-- Nothing was saved yet. -/
  | idle
  | saving
  | saved
  | failed (reason : String)
deriving DecidableEq, Repr

/-- A request to save. -/
structure SaveJob (α : Type) where
  number : Nat
  snapshot : α

/-- The state of saving. -/
structure SaveQueue (α : Type) where
  /-- The number of the last request. -/
  requested : Nat
  /-- The number of the newest request that ever lined up. -/
  latest : Nat
  /-- The request that waits on the timer. -/
  timer : Option (SaveJob α)
  /-- Requests whose timer ran out, which have not lined up yet. -/
  released : List (SaveJob α)
  /-- Requests that wait for their turn, in the order they lined up. -/
  waiting : List (SaveJob α)
  /-- The request that has the turn and did not look yet whether a newer one is lined up. -/
  holder : Option (SaveJob α)
  /-- The request that the store is working on. -/
  inFlight : Option (SaveJob α)
  status : SaveStatus
  /-- Every request handed to the store, oldest first. -/
  handed : List (SaveJob α)

/-- What may happen to a queue. -/
inductive SaveEvent (α : Type) where
  /-- Something changed: its snapshot waits on the timer, in place of any other. -/
  | schedule (snapshot : α)
  /-- A save is wanted now: it lines up at once, and nothing waits on the timer any longer. -/
  | flush (snapshot : α)
  /-- What waits on the timer is given up. -/
  | cancel
  /-- The timer runs out. -/
  | release
  /-- The released request at a position lines up. -/
  | lineUp (position : Nat)
  /-- The waiting request at a position gets its turn, if it is nobody's. -/
  | takeTurn (position : Nat)
  /-- The request that has the turn goes to the store, or is dropped. -/
  | proceed
  /-- The store is done with the request it was working on. -/
  | finish (result : Except Error Unit)

namespace SaveQueue

variable {α : Type}

/-- The queue before any request. -/
def empty : SaveQueue α := ⟨0, 0, none, [], [], none, none, .idle, []⟩

/-- The next request. -/
def nextJob (q : SaveQueue α) (snapshot : α) : SaveJob α := ⟨q.requested + 1, snapshot⟩

/-- Lines up a request. -/
def await (q : SaveQueue α) (job : SaveJob α) : SaveQueue α :=
  { q with latest := max q.latest job.number, waiting := q.waiting ++ [job] }

/-- Puts a snapshot on the timer. -/
def schedule (q : SaveQueue α) (snapshot : α) : SaveQueue α :=
  { q with requested := q.requested + 1, timer := some (q.nextJob snapshot) }

/-- Lines up a snapshot at once. -/
def flush (q : SaveQueue α) (snapshot : α) : SaveQueue α :=
  { q with requested := q.requested + 1, timer := none }.await (q.nextJob snapshot)

/-- Stops the timer. -/
def cancel (q : SaveQueue α) : SaveQueue α := { q with timer := none }

/-- Lets the timer run out. -/
def release (q : SaveQueue α) : SaveQueue α :=
  match q.timer with
  | some job => { q with timer := none, released := q.released ++ [job] }
  | none => q

/-- Lines up a released request. -/
def lineUp (q : SaveQueue α) (position : Nat) : SaveQueue α :=
  match q.released[position]? with
  | some job => { q with released := q.released.eraseIdx position }.await job
  | none => q

/-- Hands a request to the store. -/
def hand (q : SaveQueue α) (job : SaveJob α) : SaveQueue α :=
  { q with inFlight := some job, status := .saving, handed := q.handed ++ [job] }

/-- Gives a waiting request its turn. -/
def takeTurn (q : SaveQueue α) (position : Nat) : SaveQueue α :=
  match q.holder, q.inFlight, q.waiting[position]? with
  | none, none, some job =>
      { q with waiting := q.waiting.eraseIdx position, holder := some job }
  | _, _, _ => q

/-- Hands the request that has the turn to the store, unless a newer one is lined up. -/
def proceed (q : SaveQueue α) : SaveQueue α :=
  match q.holder with
  | some job =>
      let q := { q with holder := none }
      if job.number < q.latest then q else q.hand job
  | none => q

/-- The status after a save. -/
def outcome : Except Error Unit → SaveStatus
  | .ok () => .saved
  | .error e => .failed e.message

/-- Takes note of how a save went. -/
def finish (q : SaveQueue α) (result : Except Error Unit) : SaveQueue α :=
  match q.inFlight with
  | some job =>
      { q with
        inFlight := none
        status := if q.latest = job.number then outcome result else q.status }
  | none => q

/-- What an event does. -/
def step (q : SaveQueue α) : SaveEvent α → SaveQueue α
  | .schedule snapshot => q.schedule snapshot
  | .flush snapshot => q.flush snapshot
  | .cancel => q.cancel
  | .release => q.release
  | .lineUp position => q.lineUp position
  | .takeTurn position => q.takeTurn position
  | .proceed => q.proceed
  | .finish result => q.finish result

/-- What a run of events does. -/
def run (q : SaveQueue α) (events : List (SaveEvent α)) : SaveQueue α := events.foldl step q

/-- How many events the requests at hand still go through, at most. -/
def work (q : SaveQueue α) : Nat :=
  5 * q.timer.toList.length + 4 * q.released.length + 3 * q.waiting.length +
    2 * q.holder.toList.length + q.inFlight.toList.length

end SaveQueue

end PageBuilder
