import Mathlib.Algebra.Order.Group.Multiset
import Mathlib.Tactic.Abel
import PageBuilder.Saving.Queue

/-!
# The order of saves

A save queue is run by any events in any order.  `Sound` is what each state of a run keeps: every
request at hand or handed over carries its own number and the snapshot it was made with, nothing
that lined up is newer than `latest`, and what the store was given is what it is done with and at
most one call more.  `step_sound` takes soundness through one event and `run_sound` through a run.

The main statement is `handed_in_order`: calls to the store never overlap, and they come in the
order of the requests, no request twice.
-/

namespace PageBuilder

/-! ## The history of a run -/

/-- The snapshot of the request that an event makes, if it makes one. -/
def SaveEvent.request? {α : Type} : SaveEvent α → Option α
  | .schedule snapshot => some snapshot
  | .flush snapshot => some snapshot
  | _ => none

namespace SaveQueue

variable {α : Type}

/-- The snapshots that were requested to be saved, oldest first.  The first has number 1. -/
def requests (events : List (SaveEvent α)) : List α := events.filterMap SaveEvent.request?

/-- The call to the store that an event ends, and how it went. -/
def ends (q : SaveQueue α) : SaveEvent α → List (SaveJob α × Except Error Unit)
  | .finish result => q.inFlight.toList.map fun job => (job, result)
  | _ => []

/-- The calls to the store that ended during a run, oldest first. -/
def ended (q : SaveQueue α) : List (SaveEvent α) → List (SaveJob α × Except Error Unit)
  | [] => []
  | event :: rest => q.ends event ++ ended (q.step event) rest

/-! ## What an event does -/

theorem release_cases (q : SaveQueue α) :
    q.release = q ∨
    ∃ job, q.timer = some job ∧
      q.release = { q with timer := none, released := q.released ++ [job] } := by
  cases h : q.timer with
  | none => exact Or.inl (by rw [release, h])
  | some job => exact Or.inr ⟨job, rfl, by rw [release, h]⟩

theorem lineUp_cases (q : SaveQueue α) (position : Nat) :
    q.lineUp position = q ∨
    ∃ job, q.released[position]? = some job ∧
      q.lineUp position = { q with released := q.released.eraseIdx position }.await job := by
  cases h : q.released[position]? with
  | none => exact Or.inl (by rw [lineUp, h])
  | some job => exact Or.inr ⟨job, rfl, by rw [lineUp, h]⟩

/-- The turn is given only while nobody has it and the store is not at work. -/
theorem takeTurn_cases (q : SaveQueue α) (position : Nat) :
    q.takeTurn position = q ∨
    ∃ job, q.holder = none ∧ q.inFlight = none ∧ q.waiting[position]? = some job ∧
      q.takeTurn position =
        { q with waiting := q.waiting.eraseIdx position, holder := some job } := by
  unfold takeTurn
  split
  next job hholder hflight hjob => exact Or.inr ⟨job, hholder, hflight, hjob, rfl⟩
  next => exact Or.inl rfl

/-- The request with the turn is dropped if a newer one lined up, and else goes to the store. -/
theorem proceed_cases (q : SaveQueue α) :
    q.proceed = q ∨
    ∃ job, q.holder = some job ∧
      ((job.number < q.latest ∧ q.proceed = { q with holder := none }) ∨
        (q.latest ≤ job.number ∧ q.proceed = { q with holder := none }.hand job)) := by
  cases h : q.holder with
  | none => exact Or.inl (by rw [proceed, h])
  | some job =>
      refine Or.inr ⟨job, rfl, ?_⟩
      by_cases hlt : job.number < q.latest
      · exact Or.inl ⟨hlt, by simp only [proceed, h, if_pos hlt]⟩
      · exact Or.inr ⟨Nat.le_of_not_lt hlt, by simp only [proceed, h, if_neg hlt]⟩

theorem finish_cases (q : SaveQueue α) (result : Except Error Unit) :
    (q.inFlight = none ∧ q.finish result = q) ∨
    ∃ job, q.inFlight = some job ∧
      q.finish result =
        { q with
          inFlight := none
          status := if q.latest = job.number then outcome result else q.status } := by
  cases h : q.inFlight with
  | none => exact Or.inl ⟨rfl, by rw [finish, h]⟩
  | some job => exact Or.inr ⟨job, rfl, by rw [finish, h]⟩

/-! ## Requests are neither doubled nor made up -/

/-- The requests that were not handed over yet. -/
def atHand (q : SaveQueue α) : Multiset (SaveJob α) :=
  q.timer.toList + q.released + q.waiting + q.holder.toList

/-- Every request at hand or handed over. -/
def jobs (q : SaveQueue α) : Multiset (SaveJob α) := q.atHand + q.handed

theorem coe_eq_cons_eraseIdx {β : Type} {xs : List β} {n : Nat} {x : β} (h : xs[n]? = some x) :
    (xs : Multiset β) = {x} + (xs.eraseIdx n : Multiset β) := by
  obtain ⟨hlt, rfl⟩ := List.getElem?_eq_some_iff.mp h
  exact Multiset.coe_eq_coe.mpr (List.getElem_cons_eraseIdx_perm hlt).symm

theorem jobs_schedule (q : SaveQueue α) (snapshot : α) :
    q.jobs + {q.nextJob snapshot} = (q.schedule snapshot).jobs + q.timer.toList := by
  simp only [schedule, jobs, atHand, Option.toList_some, Multiset.coe_singleton]
  abel

theorem jobs_flush (q : SaveQueue α) (snapshot : α) :
    q.jobs + {q.nextJob snapshot} = (q.flush snapshot).jobs + q.timer.toList := by
  simp only [flush, await, jobs, atHand, Option.toList_none, ← Multiset.coe_add, Multiset.coe_nil,
    Multiset.coe_singleton]
  abel

theorem jobs_cancel (q : SaveQueue α) : q.jobs = q.cancel.jobs + q.timer.toList := by
  simp only [cancel, jobs, atHand, Option.toList_none, Multiset.coe_nil]
  abel

theorem jobs_release (q : SaveQueue α) : q.jobs = q.release.jobs := by
  obtain h | ⟨job, htimer, h⟩ := q.release_cases
  · rw [h]
  · simp only [h, jobs, atHand, htimer, Option.toList_none, Option.toList_some,
      ← Multiset.coe_add, Multiset.coe_nil]
    abel

theorem jobs_lineUp (q : SaveQueue α) (position : Nat) : q.jobs = (q.lineUp position).jobs := by
  obtain h | ⟨job, hjob, h⟩ := q.lineUp_cases position
  · rw [h]
  · simp only [h, await, jobs, atHand, ← Multiset.coe_add, Multiset.coe_singleton,
      coe_eq_cons_eraseIdx hjob]
    abel

theorem jobs_takeTurn (q : SaveQueue α) (position : Nat) :
    q.jobs = (q.takeTurn position).jobs := by
  obtain h | ⟨job, hholder, _, hjob, h⟩ := q.takeTurn_cases position
  · rw [h]
  · simp only [h, jobs, atHand, hholder, Option.toList_none, Option.toList_some, Multiset.coe_nil,
      Multiset.coe_singleton, coe_eq_cons_eraseIdx hjob]
    abel

theorem jobs_proceed (q : SaveQueue α) :
    ∃ dropped : Multiset (SaveJob α), q.jobs = q.proceed.jobs + dropped := by
  obtain h | ⟨job, hholder, ⟨_, h⟩ | ⟨_, h⟩⟩ := q.proceed_cases
  · exact ⟨0, by rw [h, add_zero]⟩
  · refine ⟨{job}, ?_⟩
    simp only [h, jobs, atHand, hholder, Option.toList_none, Option.toList_some, Multiset.coe_nil,
      Multiset.coe_singleton]
    abel
  · refine ⟨0, ?_⟩
    simp only [h, hand, jobs, atHand, hholder, Option.toList_none, Option.toList_some,
      ← Multiset.coe_add, Multiset.coe_nil, Multiset.coe_singleton]
    abel

theorem jobs_finish (q : SaveQueue α) (result : Except Error Unit) :
    q.jobs = (q.finish result).jobs := by
  obtain ⟨_, h⟩ | ⟨job, _, h⟩ := q.finish_cases result
  all_goals rw [h]
  rfl

/-- An event only moves or drops requests, and makes at most the next one. -/
theorem jobs_step (q : SaveQueue α) (event : SaveEvent α) :
    ∃ dropped : Multiset (SaveJob α),
      q.jobs + (event.request?.map q.nextJob).toList = (q.step event).jobs + dropped := by
  cases event with
  | schedule snapshot => exact ⟨_, q.jobs_schedule snapshot⟩
  | flush snapshot => exact ⟨_, q.jobs_flush snapshot⟩
  | cancel => exact ⟨_, (add_zero _).trans q.jobs_cancel⟩
  | release => exact ⟨0, congrArg (· + 0) q.jobs_release⟩
  | lineUp position => exact ⟨0, congrArg (· + 0) (q.jobs_lineUp position)⟩
  | takeTurn position => exact ⟨0, congrArg (· + 0) (q.jobs_takeTurn position)⟩
  | proceed =>
      obtain ⟨dropped, h⟩ := q.jobs_proceed
      exact ⟨dropped, (add_zero _).trans h⟩
  | finish result => exact ⟨0, congrArg (· + 0) (q.jobs_finish result)⟩

/-! ## What every state keeps -/

/-- What a queue keeps after the given requests were made and the given calls ended. -/
structure Sound (q : SaveQueue α) (requests : List α)
    (calls : List (SaveJob α × Except Error Unit)) : Prop where
  requested : q.requested = requests.length
  /-- No number is there twice. -/
  distinct : (q.jobs.map SaveJob.number).Nodup
  /-- A request has the snapshot that it was made with. -/
  known : ∀ job ∈ q.jobs, 0 < job.number ∧ requests[job.number - 1]? = some job.snapshot
  latest_le : q.latest ≤ q.requested
  linedUp : ∀ job ∈ q.waiting ++ q.holder.toList ++ q.handed, job.number ≤ q.latest
  ordered : q.handed.Pairwise fun a b => a.number < b.number
  /-- The store works only while nobody has the turn. -/
  turn : ∀ job, q.holder = some job → q.inFlight = none
  calls_eq : q.handed = calls.map Prod.fst ++ q.inFlight.toList
  /-- The end of the newest call stays on display. -/
  status_eq : q.inFlight = none → ∀ call, calls.getLast? = some call →
    call.1.number = q.latest → q.status = outcome call.2

theorem empty_sound : Sound (empty : SaveQueue α) [] [] where
  requested := rfl
  distinct := by simp [jobs, atHand, empty]
  known := by simp [jobs, atHand, empty]
  latest_le := Nat.le_refl 0
  linedUp := by simp [empty]
  ordered := List.Pairwise.nil
  turn := by intro job h; cases h
  calls_eq := rfl
  status_eq := by intro _ call h; cases h

section

variable {q : SaveQueue α} {requests : List α} {calls : List (SaveJob α × Except Error Unit)}

theorem mem_atHand {job : SaveJob α} :
    job ∈ q.atHand ↔
      q.timer = some job ∨ job ∈ q.released ∨ job ∈ q.waiting ∨ q.holder = some job := by
  simp [atHand]

theorem mem_jobs {job : SaveJob α} : job ∈ q.jobs ↔ job ∈ q.atHand ∨ job ∈ q.handed := by
  simp [jobs]

/-- No request has a number beyond the last one. -/
theorem Sound.number_le (h : Sound q requests calls) {job : SaveJob α} (hjob : job ∈ q.jobs) :
    job.number ≤ q.requested := by
  obtain ⟨hpos, hget⟩ := h.known job hjob
  have hlt := (List.getElem?_eq_some_iff.mp hget).1
  rw [h.requested]
  omega

theorem Sound.number_le_of_released (h : Sound q requests calls) {job : SaveJob α}
    (hjob : job ∈ q.released) : job.number ≤ q.requested :=
  h.number_le (mem_jobs.mpr (Or.inl (mem_atHand.mpr (Or.inr (Or.inl hjob)))))

/-- The facts on numbers and snapshots hold after an event because they hold of all requests that
are left and of the one that is made. -/
theorem Sound.jobs_of_step (h : Sound q requests calls) (event : SaveEvent α) :
    ((q.step event).jobs.map SaveJob.number).Nodup ∧
    ∀ job ∈ (q.step event).jobs, 0 < job.number ∧
      (requests ++ event.request?.toList)[job.number - 1]? = some job.snapshot := by
  obtain ⟨dropped, hstep⟩ := q.jobs_step event
  have hle : (q.step event).jobs ≤ q.jobs + (event.request?.map q.nextJob).toList := by
    rw [hstep]
    exact Multiset.le_add_right _ _
  have hold : ∀ job ∈ q.jobs, 0 < job.number ∧
      (requests ++ event.request?.toList)[job.number - 1]? = some job.snapshot := by
    intro job hjob
    obtain ⟨hpos, hget⟩ := h.known job hjob
    have hlt := (List.getElem?_eq_some_iff.mp hget).1
    exact ⟨hpos, by rw [List.getElem?_append_left hlt, hget]⟩
  cases hrequest : event.request? with
  | none =>
      simp only [hrequest, Option.map_none, Option.toList_none, Multiset.coe_nil,
        add_zero, List.append_nil] at hle hold ⊢
      exact ⟨Multiset.nodup_of_le (Multiset.map_le_map hle) h.distinct,
        fun job hjob => hold job (Multiset.mem_of_le hle hjob)⟩
  | some snapshot =>
      simp only [hrequest, Option.map_some, Option.toList_some,
        Multiset.coe_singleton] at hle hold ⊢
      have hnew : (q.nextJob snapshot).number ∉ q.jobs.map SaveJob.number := by
        intro hmem
        obtain ⟨job, hjob, he⟩ := Multiset.mem_map.mp hmem
        have hnumber := h.number_le hjob
        simp only [nextJob] at he
        omega
      refine ⟨Multiset.nodup_of_le (Multiset.map_le_map hle) ?_, fun job hjob => ?_⟩
      · rw [Multiset.map_add, Multiset.map_singleton, add_comm, Multiset.singleton_add]
        exact Multiset.nodup_cons.mpr ⟨hnew, h.distinct⟩
      · rcases Multiset.mem_add.mp (Multiset.mem_of_le hle hjob) with hin | hnext
        · exact hold job hin
        · rw [Multiset.mem_singleton.mp hnext]
          simp only [nextJob, h.requested]
          exact ⟨Nat.succ_pos _, by simp⟩

/-- A request at hand was not handed over before. -/
theorem Sound.number_ne (h : Sound q requests calls) {job old : SaveJob α} (hjob : job ∈ q.atHand)
    (hold : old ∈ q.handed) : old.number ≠ job.number := by
  have hdistinct := h.distinct
  rw [jobs, Multiset.map_add, Multiset.nodup_add] at hdistinct
  intro he
  exact Multiset.disjoint_left.mp hdistinct.2.2 (Multiset.mem_map_of_mem SaveJob.number hjob)
    (he ▸ Multiset.mem_map_of_mem SaveJob.number (Multiset.mem_coe.mpr hold))

/-- The newest request that lined up and was not handed over is newer than all that were. -/
theorem Sound.lt_of_holder (h : Sound q requests calls) {job old : SaveJob α}
    (hholder : q.holder = some job) (hle : q.latest ≤ job.number) (hold : old ∈ q.handed) :
    old.number < job.number := by
  have hne := h.number_ne (mem_atHand.mpr (Or.inr (Or.inr (Or.inr hholder)))) hold
  have hlatest := h.linedUp old (List.mem_append_right _ hold)
  omega

/-! ### One event -/

/-- Soundness after an event that leaves what lined up, what was handed over, and how that went. -/
theorem Sound.of_request (h : Sound q requests calls) (event : SaveEvent α)
    (hrequested : (q.step event).requested = (requests ++ event.request?.toList).length)
    (hlatest : (q.step event).latest = q.latest) (hwaiting : (q.step event).waiting = q.waiting)
    (hholder : (q.step event).holder = q.holder) (hflight : (q.step event).inFlight = q.inFlight)
    (hstatus : (q.step event).status = q.status) (hhanded : (q.step event).handed = q.handed) :
    Sound (q.step event) (requests ++ event.request?.toList) calls where
  requested := hrequested
  distinct := (h.jobs_of_step event).1
  known := (h.jobs_of_step event).2
  latest_le := by
    have hle := h.latest_le
    rw [h.requested] at hle
    rw [hrequested, hlatest, List.length_append]
    omega
  linedUp := by
    rw [hwaiting, hholder, hhanded, hlatest]
    exact h.linedUp
  ordered := hhanded ▸ h.ordered
  turn := by
    rw [hholder, hflight]
    exact h.turn
  calls_eq := by
    rw [hhanded, hflight]
    exact h.calls_eq
  status_eq := by
    rw [hflight, hlatest, hstatus]
    exact h.status_eq

/-- With a request lined up behind those that were, none is newer than the newest. -/
theorem Sound.le_of_await (h : Sound q requests calls) (job : SaveJob α) {other : SaveJob α}
    (hother : other ∈ q.waiting ++ [job] ++ q.holder.toList ++ q.handed) :
    other.number ≤ max q.latest job.number := by
  simp only [List.mem_append, List.mem_singleton] at hother
  obtain ((hw | rfl) | hh) | hd := hother
  · exact le_max_of_le_left (h.linedUp other (by simp [hw]))
  · exact le_max_right _ _
  · exact le_max_of_le_left (h.linedUp other (by simp [hh]))
  · exact le_max_of_le_left (h.linedUp other (by simp [hd]))

/-- A request that was not handed over yet does not change whose end is on display. -/
theorem Sound.status_of_await (h : Sound q requests calls) {number : Nat}
    (hne : ∀ old ∈ q.handed, old.number ≠ number) (hflight : q.inFlight = none)
    {call : SaveJob α × Except Error Unit} (hcall : calls.getLast? = some call)
    (hnumber : call.1.number = max q.latest number) : q.status = outcome call.2 := by
  have hmem : call.1 ∈ q.handed := by
    rw [h.calls_eq]
    exact List.mem_append_left _ (List.mem_map.mpr ⟨call, List.mem_of_getLast? hcall, rfl⟩)
  have hold := hne call.1 hmem
  exact h.status_eq hflight call hcall (by omega)

theorem Sound.flush (h : Sound q requests calls) (snapshot : α) :
    Sound (q.step (.flush snapshot)) (requests ++ [snapshot]) calls where
  requested := by simp [step, SaveQueue.flush, await, h.requested]
  distinct := (h.jobs_of_step (.flush snapshot)).1
  known := (h.jobs_of_step (.flush snapshot)).2
  latest_le := by
    have hle := h.latest_le
    simp only [step, SaveQueue.flush, await, nextJob]
    omega
  linedUp := fun _ hother => h.le_of_await (q.nextJob snapshot) hother
  ordered := h.ordered
  turn := h.turn
  calls_eq := h.calls_eq
  status_eq := by
    intro hflight call hcall hnumber
    refine h.status_of_await (fun old hold => ?_) hflight hcall hnumber
    have hle := h.number_le (mem_jobs.mpr (Or.inr hold))
    simp only [nextJob]
    omega

theorem Sound.lineUp (h : Sound q requests calls) (position : Nat) :
    Sound (q.step (.lineUp position)) requests calls := by
  obtain he | ⟨job, hjob, he⟩ := q.lineUp_cases position
  · simpa only [step, he] using h
  · have hmem : job ∈ q.atHand :=
      mem_atHand.mpr (Or.inr (Or.inl (List.mem_of_getElem? hjob)))
    have hjobs := h.jobs_of_step (.lineUp position)
    simp only [SaveEvent.request?, Option.toList_none, List.append_nil, step, he] at hjobs ⊢
    exact
      { requested := h.requested
        distinct := hjobs.1
        known := hjobs.2
        latest_le := max_le h.latest_le (h.number_le (mem_jobs.mpr (Or.inl hmem)))
        linedUp := fun _ hother => h.le_of_await job hother
        ordered := h.ordered
        turn := h.turn
        calls_eq := h.calls_eq
        status_eq := fun hflight call hcall hnumber =>
          h.status_of_await (fun old hold => h.number_ne hmem hold) hflight hcall hnumber }

theorem Sound.takeTurn (h : Sound q requests calls) (position : Nat) :
    Sound (q.step (.takeTurn position)) requests calls := by
  obtain he | ⟨job, hholder, hflight, hjob, he⟩ := q.takeTurn_cases position
  · simpa only [step, he] using h
  · have hjobs := h.jobs_of_step (.takeTurn position)
    simp only [SaveEvent.request?, Option.toList_none, List.append_nil, step, he] at hjobs ⊢
    exact
      { requested := h.requested
        distinct := hjobs.1
        known := hjobs.2
        latest_le := h.latest_le
        linedUp := by
          intro other hother
          simp only [Option.toList_some, List.mem_append, List.mem_singleton] at hother
          obtain (hw | rfl) | hd := hother
          · exact h.linedUp other (by simp [List.mem_of_mem_eraseIdx hw])
          · exact h.linedUp other (by simp [List.mem_of_getElem? hjob])
          · exact h.linedUp other (by simp [hd])
        ordered := h.ordered
        turn := fun _ _ => hflight
        calls_eq := h.calls_eq
        status_eq := h.status_eq }

theorem Sound.proceed (h : Sound q requests calls) :
    Sound (q.step .proceed) requests calls := by
  have hjobs := h.jobs_of_step .proceed
  simp only [SaveEvent.request?, Option.toList_none, List.append_nil, step] at hjobs ⊢
  obtain he | ⟨job, hholder, ⟨_, he⟩ | ⟨hlatest, he⟩⟩ := q.proceed_cases
  · simpa only [he] using h
  · rw [he] at hjobs ⊢
    exact
      { requested := h.requested
        distinct := hjobs.1
        known := hjobs.2
        latest_le := h.latest_le
        linedUp := by
          intro other hother
          simp only [Option.toList_none, List.append_nil, List.mem_append] at hother
          obtain hw | hd := hother
          · exact h.linedUp other (by simp [hw])
          · exact h.linedUp other (by simp [hd])
        ordered := h.ordered
        turn := by intro other hother; cases hother
        calls_eq := h.calls_eq
        status_eq := h.status_eq }
  · have hflight := h.turn job hholder
    have hcalls : q.handed = calls.map Prod.fst := by simpa [hflight] using h.calls_eq
    rw [he] at hjobs ⊢
    exact
      { requested := h.requested
        distinct := hjobs.1
        known := hjobs.2
        latest_le := h.latest_le
        linedUp := by
          intro other hother
          simp only [hand, Option.toList_none, List.append_nil, List.mem_append,
            List.mem_singleton] at hother
          obtain hw | hd | rfl := hother
          · exact h.linedUp other (by simp [hw])
          · exact h.linedUp other (by simp [hd])
          · exact h.linedUp other (by simp [hholder])
        ordered := by
          refine List.pairwise_append.mpr ⟨h.ordered, List.pairwise_singleton _ _, ?_⟩
          intro old hold new hnew
          rw [List.mem_singleton.mp hnew]
          exact h.lt_of_holder hholder hlatest hold
        turn := by intro other hother; cases hother
        calls_eq := by simp only [hand, hcalls, Option.toList_some]
        status_eq := by intro hnone; cases hnone }

theorem Sound.finish (h : Sound q requests calls) (result : Except Error Unit) :
    Sound (q.step (.finish result)) requests (calls ++ q.ends (.finish result)) := by
  obtain ⟨hflight, he⟩ | ⟨job, hflight, he⟩ := q.finish_cases result
  · simpa only [step, he, ends, hflight, Option.toList_none, List.map_nil, List.append_nil] using h
  · have hjobs := h.jobs_of_step (.finish result)
    simp only [SaveEvent.request?, Option.toList_none, List.append_nil, step, he] at hjobs
    simp only [step, he, ends, hflight, Option.toList_some, List.map_cons, List.map_nil]
    exact
      { requested := h.requested
        distinct := hjobs.1
        known := hjobs.2
        latest_le := h.latest_le
        linedUp := h.linedUp
        ordered := h.ordered
        turn := fun _ _ => rfl
        calls_eq := by simpa [hflight] using h.calls_eq
        status_eq := by
          intro _ call hcall hnumber
          rw [List.getLast?_concat] at hcall
          cases hcall
          exact if_pos hnumber.symm }

/-- One event keeps a queue sound. -/
theorem step_sound (h : Sound q requests calls) (event : SaveEvent α) :
    Sound (q.step event) (requests ++ event.request?.toList) (calls ++ q.ends event) := by
  cases event with
  | schedule snapshot =>
      simp only [ends, List.append_nil]
      exact h.of_request (.schedule snapshot)
        (by simp [step, schedule, SaveEvent.request?, h.requested]) rfl rfl rfl rfl rfl rfl
  | flush snapshot => simpa [SaveEvent.request?, ends] using h.flush snapshot
  | cancel =>
      simp only [ends, List.append_nil]
      exact h.of_request .cancel (by simp [step, cancel, SaveEvent.request?, h.requested])
        rfl rfl rfl rfl rfl rfl
  | release =>
      simp only [ends, List.append_nil]
      obtain he | ⟨job, _, he⟩ := q.release_cases
      all_goals
        exact h.of_request .release (by simp [step, he, SaveEvent.request?, h.requested])
          (by simp [step, he]) (by simp [step, he]) (by simp [step, he]) (by simp [step, he])
          (by simp [step, he]) (by simp [step, he])
  | lineUp position => simpa [SaveEvent.request?, ends] using h.lineUp position
  | takeTurn position => simpa [SaveEvent.request?, ends] using h.takeTurn position
  | proceed => simpa [SaveEvent.request?, ends] using h.proceed
  | finish result => simpa [SaveEvent.request?] using h.finish result

/-! ### A whole run -/

theorem run_cons (q : SaveQueue α) (event : SaveEvent α) (rest : List (SaveEvent α)) :
    q.run (event :: rest) = (q.step event).run rest := rfl

theorem requests_cons (event : SaveEvent α) (rest : List (SaveEvent α)) :
    SaveQueue.requests (event :: rest) = event.request?.toList ++ SaveQueue.requests rest := by
  cases h : event.request? <;> simp [SaveQueue.requests, h]

/-- A run keeps a queue sound. -/
theorem run_sound (events : List (SaveEvent α)) : ∀ {q : SaveQueue α} {requests : List α}
    {calls : List (SaveJob α × Except Error Unit)}, Sound q requests calls →
      Sound (q.run events) (requests ++ SaveQueue.requests events) (calls ++ q.ended events) := by
  induction events with
  | nil =>
      intro q requests calls h
      simpa [run, SaveQueue.requests, ended] using h
  | cons event rest ih =>
      intro q requests calls h
      have hrest := ih (step_sound h event)
      rw [List.append_assoc, List.append_assoc] at hrest
      rw [run_cons, requests_cons, ended]
      exact hrest

end

/-- In whatever order the events of a queue come, its calls to the store do not overlap: the
requests handed over are those the store is done with and at most one more, and while it works on
one, nobody else has the turn.  Requests are handed over in the order they were made, each with its
own snapshot and at most once, so an older snapshot never comes after a newer one. -/
theorem handed_in_order (events : List (SaveEvent α)) :
    let q := (empty : SaveQueue α).run events
    let calls := (empty : SaveQueue α).ended events
    q.handed = calls.map Prod.fst ++ q.inFlight.toList ∧
    q.handed.length ≤ calls.length + 1 ∧
    (∀ job, q.holder = some job → q.inFlight = none) ∧
    q.handed.Pairwise (fun a b => a.number < b.number) ∧
    (∀ job ∈ q.handed, 0 < job.number ∧ job.number ≤ (requests events).length ∧
      (requests events)[job.number - 1]? = some job.snapshot) ∧
    ∀ number, q.handed.countP (·.number == number) ≤ 1 := by
  intro q calls
  have h : Sound q (requests events) calls := by
    simpa using run_sound events (empty_sound (α := α))
  refine ⟨h.calls_eq, ?_, h.turn, h.ordered, fun job hjob => ?_, fun number => ?_⟩
  · rw [h.calls_eq, List.length_append, List.length_map]
    have hone : q.inFlight.toList.length ≤ 1 := by cases q.inFlight <;> simp
    omega
  · have hmem := mem_jobs.mpr (Or.inr hjob)
    have hle := h.number_le hmem
    rw [h.requested] at hle
    exact ⟨(h.known job hmem).1, hle, (h.known job hmem).2⟩
  · have hnodup : (q.handed.map SaveJob.number).Nodup :=
      List.pairwise_map.mpr (h.ordered.imp Nat.ne_of_lt)
    have hcount := List.nodup_iff_count_le_one.mp hnodup number
    rwa [List.count, List.countP_map] at hcount

end SaveQueue

end PageBuilder
