import PageBuilder.Proofs.Saving.Newest
import PageBuilder.Saving.Timeline

/-!
# Saves on a clock

The clock chooses one of the events that a queue may go through: whatever happens next on a
timeline is an event of its queue that nobody asks for (`next?_happens`), so what such events keep
holds when time went by (`settle_induction`).  Each of them leaves less to do, so letting things
happen comes to an end (`settle_done`).  In particular a flush is over when it returns: its
snapshot was the last one that the store was given, and what the flush returns is how that went
(`last_of_flush`).
-/

namespace PageBuilder

/-! ## Work that is left -/

namespace SaveQueue

variable {α : Type} {q : SaveQueue α} {job : SaveJob α}

theorem work_release_lt (h : q.timer = some job) : q.release.work < q.work := by
  simp only [release, h, work, Option.toList_some, Option.toList_none, List.length_append,
    List.length_singleton, List.length_nil]
  omega

theorem work_lineUp_lt {position : Nat} (h : q.released[position]? = some job) :
    (q.lineUp position).work < q.work := by
  have hlt := (List.getElem?_eq_some_iff.mp h).1
  simp only [lineUp, h, await, work, List.length_append, List.length_singleton,
    List.length_eraseIdx_of_lt hlt]
  omega

theorem work_takeTurn_lt {position : Nat} (hholder : q.holder = none) (hflight : q.inFlight = none)
    (h : q.waiting[position]? = some job) : (q.takeTurn position).work < q.work := by
  have hlt := (List.getElem?_eq_some_iff.mp h).1
  simp only [takeTurn, hholder, hflight, h, work, Option.toList_some, Option.toList_none,
    List.length_singleton, List.length_nil, List.length_eraseIdx_of_lt hlt]
  omega

theorem work_proceed_lt (h : q.holder = some job) : q.proceed.work < q.work := by
  by_cases hlt : job.number < q.latest
  · simp only [proceed, h, if_pos hlt, work, Option.toList_some, Option.toList_none,
      List.length_singleton, List.length_nil]
    omega
  · simp only [proceed, h, if_neg hlt, hand, work, Option.toList_some, Option.toList_none,
      List.length_singleton, List.length_nil]
    omega

theorem work_finish_lt (result : Except Error Unit) (h : q.inFlight = some job) :
    (q.finish result).work < q.work := by
  simp only [finish, h, work, Option.toList_some, Option.toList_none, List.length_singleton,
    List.length_nil]
  omega

end SaveQueue

/-! ## One thing after the other -/

/-- A call that ended, and how it went. -/
def FinishedSave.call {α : Type} (save : FinishedSave α) : SaveJob α × Except Error Unit :=
  (save.job, StoreReply.result ⟨0, save.failure⟩)

namespace Timeline

variable {α : Type} {t t' : Timeline α}

/-- The calls that ended, with their results. -/
def calls (t : Timeline α) : List (SaveJob α × Except Error Unit) :=
  t.finished.map FinishedSave.call

/-- An event of the queue leads from a timeline to another one. -/
structure Happens (t : Timeline α) (event : SaveEvent α) (t' : Timeline α) : Prop where
  progress : event.isProgress
  queue_eq : t'.queue = t.queue.step event
  calls_eq : t'.calls = t.calls ++ t.queue.ends event
  /-- There is less left to do. -/
  work_lt : t'.queue.work < t.queue.work

theorem calls_finish (t : Timeline α) :
    t.finish.calls = t.calls ++ t.queue.ends (.finish t.currentReply.result) := by
  cases h : t.queue.inFlight with
  | none => simp [calls, finish, SaveQueue.ends, h]
  | some job =>
      simp [calls, finish, SaveQueue.ends, h, FinishedSave.call, StoreReply.result]

/-- Whatever happens next is an event of the queue. -/
theorem next?_happens {limit : Option Nat} (h : t.next? limit = some t') :
    ∃ event, Happens t event t' := by
  unfold next? at h
  split_ifs at h with hreleased hholder hturn hfinish htimer
  · cases h
    obtain ⟨job, hjob⟩ : ∃ job, t.queue.released[0]? = some job := by
      cases hr : t.queue.released with
      | nil => simp [hr] at hreleased
      | cons job rest => exact ⟨job, rfl⟩
    exact ⟨.lineUp 0, rfl, rfl, (List.append_nil _).symm, SaveQueue.work_lineUp_lt hjob⟩
  · cases h
    obtain ⟨job, hjob⟩ := Option.isSome_iff_exists.mp hholder
    exact ⟨.proceed, rfl, rfl, (List.append_nil _).symm, SaveQueue.work_proceed_lt hjob⟩
  · cases h
    rw [Bool.and_eq_true, Option.isNone_iff_eq_none] at hturn
    obtain ⟨job, hjob⟩ : ∃ job, t.queue.waiting[0]? = some job := by
      cases hw : t.queue.waiting with
      | nil => simp [hw] at hturn
      | cons job rest => exact ⟨job, rfl⟩
    exact ⟨.takeTurn 0, rfl, rfl, (List.append_nil _).symm,
      SaveQueue.work_takeTurn_lt (by simpa using hholder) hturn.1 hjob⟩
  · cases h
    simp only [Bool.and_eq_true] at hfinish
    obtain ⟨job, hjob⟩ := Option.isSome_iff_exists.mp hfinish.1.1
    exact ⟨.finish t.currentReply.result, rfl, rfl, t.calls_finish,
      SaveQueue.work_finish_lt _ hjob⟩
  · cases h
    rw [Bool.and_eq_true] at htimer
    obtain ⟨job, hjob⟩ := Option.isSome_iff_exists.mp htimer.1
    exact ⟨.release, rfl, rfl, (List.append_nil _).symm, SaveQueue.work_release_lt hjob⟩

/-- Without a limit, nothing happens any more only when nothing is under way. -/
theorem quiet_of_next?_eq_none (h : t.next? none = none) : t.queue.Quiet := by
  unfold next? at h
  split_ifs at h with hreleased hholder hturn hfinish htimer
  simp only [within, Bool.and_true, Bool.and_eq_true, Bool.or_eq_true, Option.isSome_iff_ne_none,
    Option.isNone_iff_eq_none, ne_eq, Decidable.not_not] at hholder hfinish htimer
  have hflight : t.queue.inFlight = none := by
    by_contra hne
    exact hfinish ⟨hne, Or.inl htimer⟩
  exact
    { timer := htimer
      released := by simpa using hreleased
      waiting := by simpa [hflight] using hturn
      holder := hholder
      inFlight := hflight }

/-- What anything that happens next keeps, letting things happen keeps. -/
theorem settle_next_induction {motive : Timeline α → Prop} (limit : Option Nat)
    (done : Timeline α → Bool)
    (hnext : ∀ {t t' : Timeline α}, t.next? limit = some t' → motive t → motive t')
    (fuel : Nat) : ∀ {t : Timeline α}, motive t → motive (settle limit done fuel t) := by
  induction fuel with
  | zero => exact id
  | succ fuel ih =>
      intro t ht
      rw [settle]
      split
      · exact ht
      · cases ht' : t.next? limit with
        | none => exact ht
        | some t' => exact ih (hnext ht' ht)

/-- What every event keeps, letting things happen keeps. -/
theorem settle_induction {motive : Timeline α → Prop} (limit : Option Nat)
    (done : Timeline α → Bool)
    (hstep : ∀ {t t' : Timeline α} {event : SaveEvent α}, Happens t event t' → motive t → motive t')
    (fuel : Nat) : ∀ {t : Timeline α}, motive t → motive (settle limit done fuel t) := by
  refine settle_next_induction limit done (fun hnext ht => ?_) fuel
  obtain ⟨event, hevent⟩ := next?_happens hnext
  exact hstep hevent ht

/-- With as many events as there is work, letting things happen gets to what is wanted, or to where
nothing more happens within the limit. -/
theorem settle_stuck (limit : Option Nat) (done : Timeline α → Bool) (fuel : Nat) :
    ∀ {t : Timeline α}, t.queue.work ≤ fuel →
      done (settle limit done fuel t) ∨ (settle limit done fuel t).next? limit = none := by
  induction fuel with
  | zero =>
      intro t hwork
      cases hnext : t.next? limit with
      | none => exact Or.inr hnext
      | some t' =>
          obtain ⟨event, hevent⟩ := next?_happens hnext
          have hlt := hevent.work_lt
          omega
  | succ fuel ih =>
      intro t hwork
      rw [settle]
      split
      next hdone => exact Or.inl hdone
      next =>
        cases hnext : t.next? limit with
        | none => exact Or.inr hnext
        | some t' =>
            obtain ⟨event, hevent⟩ := next?_happens hnext
            have hlt := hevent.work_lt
            exact ih (by omega)

/-- Without a limit, that is to what is wanted, or to where nothing is under way. -/
theorem settle_done (done : Timeline α → Bool) (fuel : Nat) {t : Timeline α}
    (h : t.queue.work ≤ fuel) :
    done (settle none done fuel t) ∨ (settle none done fuel t).queue.Quiet :=
  (settle_stuck none done fuel h).imp_right quiet_of_next?_eq_none

/-! ## Waiting for a flush -/

variable {requests : List α}

open SaveQueue (Sound LinedUp)

/-- What a timeline keeps while the newest request is waited for. -/
theorem linedUp_settle (limit : Option Nat) (done : Timeline α → Bool) (fuel : Nat)
    (h : Sound t.queue requests t.calls ∧ LinedUp t.queue) :
    Sound (settle limit done fuel t).queue requests (settle limit done fuel t).calls ∧
      LinedUp (settle limit done fuel t).queue := by
  refine settle_induction (motive := fun t => Sound t.queue requests t.calls ∧ LinedUp t.queue)
    limit done ?_ fuel h
  rintro t t' event hevent ⟨hsound, hlined⟩
  have hstep := SaveQueue.step_sound hsound event
  have hrequest : event.request? = none := by
    cases event with
    | schedule | flush => cases hevent.progress
    | _ => rfl
  rw [hrequest, Option.toList_none, List.append_nil] at hstep
  rw [hevent.queue_eq, hevent.calls_eq]
  exact ⟨hstep, hlined.step hsound hevent.progress⟩

/-- No request of that number waits or is worked on. -/
theorem forall_ne_of_settled {number : Nat}
    (h : isSettled number t ∨ t.queue.Quiet) :
    (∀ job ∈ t.queue.waiting, job.number ≠ number) ∧
    (∀ job, t.queue.holder = some job → job.number ≠ number) ∧
    ∀ job, t.queue.inFlight = some job → job.number ≠ number := by
  rcases h with hsettled | hquiet
  · simpa [isSettled] using hsettled
  · exact ⟨by simp [hquiet.waiting], by simp [hquiet.holder], by simp [hquiet.inFlight]⟩

/-- The result of a request is that of its call. -/
theorem resultOf_eq (h : Sound t.queue requests t.calls) {job : SaveJob α}
    {result : Except Error Unit} (hcall : (job, result) ∈ t.calls) :
    t.resultOf job.number = result := by
  have hdistinct : (t.calls.map fun call => call.1.number).Nodup := by
    have hordered := h.ordered
    rw [h.calls_eq, List.pairwise_append, List.pairwise_map] at hordered
    exact List.pairwise_map.mpr (hordered.1.imp Nat.ne_of_lt)
  obtain ⟨save, hsave, he⟩ := List.mem_map.mp hcall
  have hnumber : save.job.number = job.number :=
    congrArg (fun call => call.1.number) he
  have hsome : (t.finished.find? (·.job.number == job.number)).isSome := by
    rw [List.find?_isSome]
    exact ⟨save, hsave, by simp [hnumber]⟩
  obtain ⟨found, hfound⟩ := Option.isSome_iff_exists.mp hsome
  have hmem : found.call ∈ t.calls :=
    List.mem_map_of_mem (List.mem_of_find?_eq_some hfound)
  have hfoundNumber : found.job.number = job.number := by simpa using List.find?_some hfound
  have hsame : found.call = (job, result) :=
    List.inj_on_of_nodup_map hdistinct hmem hcall hfoundNumber
  rw [resultOf, hfound]
  exact congrArg Prod.snd hsame

/-- When the newest request is settled, it was the last one handed to the store, and that call is
over. -/
theorem last_of_settled (h : Sound t.queue requests t.calls) (hk : LinedUp t.queue)
    (hdone : isSettled t.queue.requested t ∨ t.queue.Quiet) :
    ∃ job, t.queue.handed.getLast? = some job ∧ requests.getLast? = some job.snapshot ∧
      t.calls.getLast? = some (job, t.resultOf t.queue.requested) := by
  obtain ⟨hwaiting, hholder, hflight⟩ := forall_ne_of_settled hdone
  obtain ⟨job, hhanded, hnumber, _, hsnapshot⟩ := h.last_of_linedUp hk hwaiting hholder
  have hidle : t.queue.inFlight = none := by
    cases hcurrent : t.queue.inFlight with
    | none => rfl
    | some current =>
        have hlast := hhanded
        rw [h.calls_eq, hcurrent, Option.toList_some, List.getLast?_concat] at hlast
        cases hlast
        exact absurd hnumber (hflight job hcurrent)
  have hcalls : t.queue.handed = t.calls.map Prod.fst := by simpa [hidle] using h.calls_eq
  have hlast := hhanded
  rw [hcalls, List.getLast?_map, Option.map_eq_some_iff] at hlast
  obtain ⟨⟨_, result⟩, hcall, rfl⟩ := hlast
  have hresult := resultOf_eq h (List.mem_of_getLast? hcall)
  rw [hnumber] at hresult
  exact ⟨_, hhanded, hsnapshot, by rw [hcall, hresult]⟩

/-- When a flush returns, its snapshot was the last one handed to the store, that call is over, and
its result is what the flush returns. -/
theorem last_of_flush (h : Sound t.queue requests t.calls) (snapshot : α) :
    ∃ job, (t.flush snapshot).2.queue.handed.getLast? = some job ∧ job.snapshot = snapshot ∧
      (t.flush snapshot).2.calls.getLast? = some (job, (t.flush snapshot).1) := by
  let lined : Timeline α := { t with queue := t.queue.step (.flush snapshot) }
  have hstart : Sound lined.queue (requests ++ [snapshot]) lined.calls := by
    have hstep := SaveQueue.step_sound h (.flush snapshot)
    simp only [SaveQueue.ends, List.append_nil] at hstep
    exact hstep
  obtain ⟨hsound, hlined⟩ := linedUp_settle none (isSettled lined.queue.requested)
    lined.queue.work ⟨hstart, SaveQueue.linedUp_flush h snapshot⟩
  have hdone := settle_done (isSettled lined.queue.requested) lined.queue.work (Nat.le_refl _)
  have hflush : t.flush snapshot =
      let last := settle none (isSettled lined.queue.requested) lined.queue.work lined
      (last.resultOf lined.queue.requested, last) := rfl
  generalize settle none (isSettled lined.queue.requested) lined.queue.work lined = last
    at hsound hlined hdone hflush
  have hnumber : lined.queue.requested = last.queue.requested :=
    hstart.requested.trans hsound.requested.symm
  rw [hnumber] at hdone hflush
  obtain ⟨job, hhanded, hsnapshot, hcall⟩ := last_of_settled hsound hlined hdone
  rw [List.getLast?_concat, Option.some.injEq] at hsnapshot
  rw [hflush]
  exact ⟨job, hhanded, hsnapshot.symm, hcall⟩

end Timeline

end PageBuilder
