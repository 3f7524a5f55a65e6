import PageBuilder.Proofs.Saving.Newest

/-!
# Events that come about by themselves

What a queue does while nobody asks for a save or gives one up.  `Moves` lists every such event with
what it does, and `moves_of_progress` says that there are no others: a proof that something is kept
goes through these cases.  None of them makes a request, and none but the end of the timer touches
what is on the timer.

`Bounded` is what a queue keeps even if flushes are given up while they wait (`abandon`): requests
have numbers up to the last one, and the store is idle while a request has the turn and did not look
yet whether a newer one is lined up.
-/

namespace PageBuilder.SaveQueue

variable {α : Type} {q q' : SaveQueue α} {event : SaveEvent α}

/-! ## The events -/

/-- What an event that comes about by itself does. -/
inductive Moves (q : SaveQueue α) : SaveEvent α → SaveQueue α → Prop where
  /-- It cannot happen. -/
  | nothing {event : SaveEvent α} : q.ends event = [] → Moves q event q
  | release {job : SaveJob α} : q.timer = some job →
      Moves q .release { q with timer := none, released := q.released ++ [job] }
  | lineUp {job : SaveJob α} {position : Nat} : q.released[position]? = some job →
      Moves q (.lineUp position) ({ q with released := q.released.eraseIdx position }.await job)
  | takeTurn {job : SaveJob α} {position : Nat} :
      q.holder = none → q.inFlight = none → q.waiting[position]? = some job →
      Moves q (.takeTurn position)
        { q with waiting := q.waiting.eraseIdx position, holder := some job }
  | drop {job : SaveJob α} : q.holder = some job → job.number < q.latest →
      Moves q .proceed { q with holder := none }
  | hand {job : SaveJob α} : q.holder = some job → q.latest ≤ job.number →
      Moves q .proceed ({ q with holder := none }.hand job)
  | finish {job : SaveJob α} {result : Except Error Unit} : q.inFlight = some job →
      Moves q (.finish result)
        { q with
          inFlight := none
          status := if q.latest = job.number then outcome result else q.status }

theorem moves_of_progress (h : event.isProgress) : Moves q event (q.step event) := by
  cases event with
  | schedule | flush | cancel => cases h
  | release =>
      rw [step]
      obtain he | ⟨job, hjob, he⟩ := q.release_cases
      · rw [he]
        exact .nothing rfl
      · rw [he]
        exact .release hjob
  | lineUp position =>
      rw [step]
      obtain he | ⟨job, hjob, he⟩ := q.lineUp_cases position
      · rw [he]
        exact .nothing rfl
      · rw [he]
        exact .lineUp hjob
  | takeTurn position =>
      rw [step]
      obtain he | ⟨job, hholder, hflight, hjob, he⟩ := q.takeTurn_cases position
      · rw [he]
        exact .nothing rfl
      · rw [he]
        exact .takeTurn hholder hflight hjob
  | proceed =>
      rw [step]
      obtain he | ⟨job, hjob, ⟨hlt, he⟩ | ⟨hle, he⟩⟩ := q.proceed_cases
      · rw [he]
        exact .nothing rfl
      · rw [he]
        exact .drop hjob hlt
      · rw [he]
        exact .hand hjob hle
  | finish result =>
      rw [step]
      obtain ⟨hflight, he⟩ | ⟨job, hjob, he⟩ := q.finish_cases result
      · rw [he]
        exact .nothing (by rw [ends, hflight]; rfl)
      · rw [he]
        exact .finish hjob

theorem Moves.requested_eq (h : Moves q event q') : q'.requested = q.requested := by
  cases h <;> rfl

/-- Only the end of the timer touches what is on it. -/
theorem Moves.timer_eq (h : Moves q event q') (hevent : event ≠ .release) : q'.timer = q.timer := by
  cases h with
  | release => exact absurd rfl hevent
  | nothing | lineUp | takeTurn | drop | hand | finish => rfl

/-! ## Runs -/

theorem run_append (q : SaveQueue α) (events later : List (SaveEvent α)) :
    q.run (events ++ later) = (q.run events).run later := List.foldl_append

theorem ended_append (q : SaveQueue α) (events later : List (SaveEvent α)) :
    q.ended (events ++ later) = q.ended events ++ (q.run events).ended later := by
  induction events generalizing q with
  | nil => rfl
  | cons event rest ih => rw [List.cons_append, ended, ih, run_cons, ended, List.append_assoc]

theorem run_concat (q : SaveQueue α) (events : List (SaveEvent α)) (event : SaveEvent α) :
    q.run (events ++ [event]) = (q.run events).step event := run_append q events [event]

theorem ended_concat (q : SaveQueue α) (events : List (SaveEvent α)) (event : SaveEvent α) :
    q.ended (events ++ [event]) = q.ended events ++ (q.run events).ends event := by
  rw [ended_append, ended, ended, List.append_nil]

/-! ## Flushes that are given up -/

/-- Gives up a request that lined up: it neither waits nor is it worked on any longer. -/
def abandon (q : SaveQueue α) (number : Nat) : SaveQueue α :=
  { q with
    waiting := q.waiting.filter (·.number != number)
    holder := q.holder.filter (·.number != number)
    inFlight := q.inFlight.filter (·.number != number) }

/-! ## Numbers in bounds -/

/-- No request has a number beyond the last one, and the turn belongs to one request at a time. -/
structure Bounded (q : SaveQueue α) : Prop where
  latest_le : q.latest ≤ q.requested
  number_le : ∀ job ∈ q.jobs, job.number ≤ q.requested
  turn : ∀ job, q.holder = some job → q.inFlight = none

theorem empty_bounded : Bounded (empty : SaveQueue α) where
  latest_le := Nat.le_refl 0
  number_le := by simp [jobs, atHand, empty]
  turn := by intro job h; cases h

theorem requested_step (q : SaveQueue α) (event : SaveEvent α) :
    (q.step event).requested = q.requested + event.request?.toList.length := by
  have hprogress : event.isProgress → (q.step event).requested = q.requested := fun he =>
    (moves_of_progress he).requested_eq
  cases event with
  | schedule | flush | cancel => rfl
  | release | lineUp | takeTurn | proceed | finish => exact hprogress rfl

/-- Events make no request but the next one. -/
theorem mem_jobs_step {job : SaveJob α} (h : job ∈ (q.step event).jobs) :
    job ∈ q.jobs ∨ ∃ snapshot, event.request? = some snapshot ∧ job = q.nextJob snapshot := by
  obtain ⟨dropped, hstep⟩ := q.jobs_step event
  have hmem : job ∈ q.jobs + (event.request?.map q.nextJob).toList := by
    rw [hstep]
    exact Multiset.mem_add.mpr (Or.inl h)
  rcases Multiset.mem_add.mp hmem with hold | hnew
  · exact Or.inl hold
  · cases hrequest : event.request? with
    | none => simp [hrequest] at hnew
    | some snapshot =>
        rw [hrequest] at hnew
        exact Or.inr ⟨snapshot, rfl, by simpa using hnew⟩

/-- What a move keeps in bounds. -/
theorem Bounded.moves (h : Bounded q) (hm : Moves q event q') :
    q'.latest ≤ q'.requested ∧ ∀ job, q'.holder = some job → q'.inFlight = none := by
  cases hm with
  | nothing | release => exact ⟨h.latest_le, h.turn⟩
  | @lineUp job position hjob =>
      have hle : job.number ≤ q.requested := h.number_le job
        (mem_jobs.mpr (Or.inl (mem_atHand.mpr (Or.inr (Or.inl (List.mem_of_getElem? hjob))))))
      exact ⟨max_le h.latest_le hle, h.turn⟩
  | takeTurn _ hflight _ => exact ⟨h.latest_le, fun _ _ => hflight⟩
  | drop | hand => exact ⟨h.latest_le, by intro job hjob; cases hjob⟩
  | finish _ => exact ⟨h.latest_le, fun _ _ => rfl⟩

theorem Bounded.step (h : Bounded q) (event : SaveEvent α) : Bounded (q.step event) := by
  have hnumber : ∀ job ∈ (q.step event).jobs, job.number ≤ (q.step event).requested := by
    intro job hjob
    rw [requested_step]
    rcases mem_jobs_step hjob with hold | ⟨snapshot, hrequest, rfl⟩
    · have hle := h.number_le job hold
      omega
    · simp [hrequest, nextJob]
  have hprogress : event.isProgress → Bounded (q.step event) := fun he =>
    ⟨(h.moves (moves_of_progress he)).1, hnumber, (h.moves (moves_of_progress he)).2⟩
  have hlatest := h.latest_le
  cases event with
  | schedule snapshot => exact ⟨Nat.le_succ_of_le hlatest, hnumber, h.turn⟩
  | flush snapshot =>
      refine ⟨?_, hnumber, h.turn⟩
      simp only [SaveQueue.step, flush, await, nextJob]
      omega
  | cancel => exact ⟨hlatest, hnumber, h.turn⟩
  | release | lineUp | takeTurn | proceed | finish => exact hprogress rfl

theorem Bounded.abandon (h : Bounded q) (number : Nat) : Bounded (q.abandon number) where
  latest_le := h.latest_le
  number_le := by
    intro job hjob
    refine h.number_le job ?_
    simp only [mem_jobs, mem_atHand, SaveQueue.abandon, List.mem_filter,
      Option.filter_eq_some_iff] at hjob ⊢
    tauto
  turn := by
    intro job hjob
    simp only [SaveQueue.abandon, Option.filter_eq_some_iff] at hjob ⊢
    rw [h.turn job hjob.1, Option.filter_none]

end PageBuilder.SaveQueue
