import PageBuilder.Saving.Queue

/-!
# Saving in time

A save queue on a clock.  A timer runs out a fixed delay after it was set, and the store takes the
time it is said to take for each call.  What is due happens in the order of time; what needs no
time happens at once.  The clock moves when it is advanced, and while a flush is waited for.
-/

namespace PageBuilder

/-- What the store does with one call. -/
structure StoreReply where
  /-- How long the call takes. -/
  latency : Nat
  /-- Why it fails, if it does. -/
  failure : Option String
deriving DecidableEq, Repr

/-- A call to the store that ended. -/
structure FinishedSave (α : Type) where
  job : SaveJob α
  began : Nat
  ended : Nat
  failure : Option String

/-- A save queue on a clock. -/
structure Timeline (α : Type) where
  queue : SaveQueue α
  now : Nat
  /-- How long a change waits on the timer. -/
  delay : Nat
  /-- What the store does with its calls, in order; it is quick and succeeds after that. -/
  replies : List StoreReply
  /-- When the timer runs out, if something waits on it. -/
  timerDue : Nat
  /-- When the save in flight began and when it ends, if there is one. -/
  began : Nat
  saveDue : Nat
  /-- The calls that ended, oldest first. -/
  finished : List (FinishedSave α)

namespace StoreReply

/-- The result of a call. -/
def result (r : StoreReply) : Except Error Unit :=
  match r.failure with
  | some reason => .error (.saveFailed reason)
  | none => .ok ()

end StoreReply

namespace Timeline

variable {α : Type}

/-- The beginning of time. -/
def start (delay : Nat) (replies : List StoreReply) : Timeline α :=
  { queue := .empty, now := 0, delay, replies, timerDue := 0, began := 0, saveDue := 0,
    finished := [] }

/-- What the store does with the call at a position. -/
def reply (t : Timeline α) (call : Nat) : StoreReply := t.replies.getD call ⟨0, none⟩

/-- What the store does with the call in flight. -/
def currentReply (t : Timeline α) : StoreReply := t.reply (t.queue.handed.length - 1)

/-- Whether a change waits on the timer. -/
def isPending (t : Timeline α) : Bool := t.queue.timer.isSome

/-! ## Requests -/

/-- Something changed. -/
def schedule (t : Timeline α) (snapshot : α) : Timeline α :=
  { t with queue := t.queue.step (.schedule snapshot), timerDue := t.now + t.delay }

/-! ## What happens next -/

/-- The request that has the turn goes to the store, or is dropped. -/
def proceed (t : Timeline α) : Timeline α :=
  let queue := t.queue.step .proceed
  { t with
    queue
    began := t.now
    saveDue := t.now + (t.reply (queue.handed.length - 1)).latency }

/-- The save in flight ends. -/
def finish (t : Timeline α) : Timeline α :=
  let reply := t.currentReply
  let now := max t.now t.saveDue
  { t with
    queue := t.queue.step (.finish reply.result)
    now
    finished :=
      t.finished ++ t.queue.inFlight.toList.map fun job => ⟨job, t.began, now, reply.failure⟩ }

/-- The timer runs out. -/
def release (t : Timeline α) : Timeline α :=
  { t with queue := t.queue.step .release, now := max t.now t.timerDue }

/-- Whether a time is not past a limit. -/
def within (limit : Option Nat) (time : Nat) : Bool :=
  match limit with
  | some last => time ≤ last
  | none => true

/-- What happens next, if it happens within a limit. -/
def next? (t : Timeline α) (limit : Option Nat) : Option (Timeline α) :=
  if !t.queue.released.isEmpty then some { t with queue := t.queue.step (.lineUp 0) }
  else if t.queue.holder.isSome then some t.proceed
  else if t.queue.inFlight.isNone && !t.queue.waiting.isEmpty then
    some { t with queue := t.queue.step (.takeTurn 0) }
  else if t.queue.inFlight.isSome && within limit t.saveDue &&
      (t.queue.timer.isNone || t.saveDue ≤ t.timerDue) then
    some t.finish
  else if t.queue.timer.isSome && within limit t.timerDue then some t.release
  else none

/-- Lets things happen until nothing more does within a limit, or until `done`; at most `fuel`
things. -/
def settle (limit : Option Nat) (done : Timeline α → Bool) : Nat → Timeline α → Timeline α
  | 0, t => t
  | fuel + 1, t =>
      if done t then t
      else
        match t.next? limit with
        | some t => settle limit done fuel t
        | none => t

/-! ## Time -/

/-- Moves the clock. -/
def advance (t : Timeline α) (time : Nat) : Timeline α :=
  let last := t.now + time
  let t := settle (some last) (fun _ => false) t.queue.work t
  { t with now := max t.now last }

/-- Whether a request neither waits nor is worked on. -/
def isSettled (number : Nat) (t : Timeline α) : Bool :=
  !(t.queue.waiting ++ t.queue.holder.toList ++ t.queue.inFlight.toList).any (·.number == number)

/-- The result of the save of a request. -/
def resultOf (t : Timeline α) (number : Nat) : Except Error Unit :=
  match t.finished.find? (·.job.number == number) with
  | some call => StoreReply.result ⟨0, call.failure⟩
  | none => .ok ()

/-- Saves now and waits until that is done. -/
def flush (t : Timeline α) (snapshot : α) : Except Error Unit × Timeline α :=
  let t := { t with queue := t.queue.step (.flush snapshot) }
  let number := t.queue.requested
  let t := settle none (isSettled number) t.queue.work t
  (t.resultOf number, t)

end Timeline

end PageBuilder
