import PageBuilder.Proofs.Saving.Clock
import PageBuilder.Proofs.Saving.Progress

/-!
# The timer on the clock

When the timer runs out is fixed when it is set, and until then time does not touch what is on it
(`timer_advance`).

A change that is alone in the queue takes one way: it waits on the timer (`Armed`), and when that
runs out it lines up, gets the turn and is handed to the store, all at that time (`Sent`).  `Way` is
this way with the steps between, and `Way.tick` takes the change one step further.  Time passes from
step to step until nothing more is due, so it leaves a change that is still on the timer or one that
was handed over (`Way.advance`).
-/

namespace PageBuilder.Timeline

variable {α : Type} {t t' start : Timeline α} {limit : Option Nat} {last time : Nat}
  {job : SaveJob α} {due : Nat}

/-! ## What happens next -/

/-- What may happen next within a limit. -/
inductive Tick (limit : Option Nat) (t : Timeline α) : Timeline α → Prop where
  | lineUp : t.queue.released ≠ [] → Tick limit t { t with queue := t.queue.step (.lineUp 0) }
  | proceed : t.queue.holder ≠ none → Tick limit t t.proceed
  | takeTurn : t.queue.waiting ≠ [] → Tick limit t { t with queue := t.queue.step (.takeTurn 0) }
  | finish : t.queue.inFlight ≠ none → within limit t.saveDue → Tick limit t t.finish
  | release : t.queue.timer ≠ none → within limit t.timerDue → Tick limit t t.release

theorem tick_of_next? (h : t.next? limit = some t') : Tick limit t t' := by
  unfold next? at h
  split_ifs at h with hreleased hholder hturn hfinish htimer
  · cases h
    exact .lineUp (by simpa using hreleased)
  · cases h
    exact .proceed (Option.isSome_iff_ne_none.mp hholder)
  · cases h
    simp only [Bool.and_eq_true] at hturn
    exact .takeTurn (by simpa using hturn.2)
  · cases h
    simp only [Bool.and_eq_true] at hfinish
    exact .finish (Option.isSome_iff_ne_none.mp hfinish.1.1) hfinish.1.2
  · cases h
    rw [Bool.and_eq_true] at htimer
    exact .release (Option.isSome_iff_ne_none.mp htimer.1) htimer.2

theorem within_some_iff : within (some last) time = true ↔ time ≤ last := decide_eq_true_iff

/-! ## The clock -/

/-- Only a request sets the timer. -/
theorem Tick.timerDue_eq (h : Tick limit t t') : t'.timerDue = t.timerDue := by
  cases h <;> rfl

theorem Tick.delay_eq (h : Tick limit t t') : t'.delay = t.delay := by
  cases h <;> rfl

theorem Tick.now_le (h : Tick (some last) t t') (hnow : t.now ≤ last) : t'.now ≤ last := by
  cases h with
  | lineUp | proceed | takeTurn => exact hnow
  | finish _ hdue => exact max_le hnow (within_some_iff.mp hdue)
  | release _ hdue => exact max_le hnow (within_some_iff.mp hdue)

/-- Before the timer runs out, it keeps what is on it. -/
theorem Tick.timer_eq (h : Tick (some last) t t') (hdue : last < t.timerDue) :
    t'.queue.timer = t.queue.timer := by
  cases h with
  | lineUp => exact (SaveQueue.moves_of_progress rfl).timer_eq nofun
  | proceed => exact (SaveQueue.moves_of_progress rfl).timer_eq nofun
  | takeTurn => exact (SaveQueue.moves_of_progress rfl).timer_eq nofun
  | finish => exact (SaveQueue.moves_of_progress rfl).timer_eq nofun
  | release _ hwithin =>
      have hle := within_some_iff.mp hwithin
      omega

theorem timerDue_advance (t : Timeline α) (time : Nat) :
    (t.advance time).timerDue = t.timerDue :=
  settle_next_induction (motive := fun u => u.timerDue = t.timerDue) _ _
    (fun hnext hu => (tick_of_next? hnext).timerDue_eq.trans hu) _ rfl

theorem delay_advance (t : Timeline α) (time : Nat) : (t.advance time).delay = t.delay :=
  settle_next_induction (motive := fun u => u.delay = t.delay) _ _
    (fun hnext hu => (tick_of_next? hnext).delay_eq.trans hu) _ rfl

theorem now_advance (t : Timeline α) (time : Nat) : (t.advance time).now = t.now + time := by
  have hnow := settle_next_induction (motive := fun u => u.now ≤ t.now + time)
    (some (t.now + time)) (fun _ => false)
    (fun hnext hu => (tick_of_next? hnext).now_le hu) t.queue.work (Nat.le_add_right _ _)
  exact max_eq_right hnow

/-- Time makes no request. -/
theorem requested_advance (t : Timeline α) (time : Nat) :
    (t.advance time).queue.requested = t.queue.requested := by
  refine settle_induction (motive := fun u => u.queue.requested = t.queue.requested) _ _
    (fun hevent hu => ?_) _ rfl
  rw [hevent.queue_eq]
  exact (SaveQueue.moves_of_progress hevent.progress).requested_eq.trans hu

theorem timer_advance (h : t.now + time < t.timerDue) :
    (t.advance time).queue.timer = t.queue.timer := by
  have hkept := settle_next_induction
    (motive := fun u => u.queue.timer = t.queue.timer ∧ u.timerDue = t.timerDue)
    (some (t.now + time)) (fun _ => false)
    (fun hnext hu => by
      have ht := tick_of_next? hnext
      exact ⟨(ht.timer_eq (hu.2 ▸ h)).trans hu.1, ht.timerDue_eq.trans hu.2⟩)
    t.queue.work ⟨rfl, rfl⟩
  exact hkept.1

/-! ## What the store was given -/

/-- The requests that the store was given, and when. -/
def received (t : Timeline α) : List (SaveJob α × Nat) :=
  t.finished.map (fun save => (save.job, save.began)) ++
    t.queue.inFlight.toList.map fun job => (job, t.began)

theorem received_of_idle (h : t.queue.inFlight = none) :
    t.received = t.finished.map fun save => (save.job, save.began) := by
  rw [received, h, Option.toList_none, List.map_nil, List.append_nil]

/-- The end of a save does not change when it began. -/
theorem received_finish (t : Timeline α) : t.finish.received = t.received := by
  cases h : t.queue.inFlight with
  | none => simp [received, finish, SaveQueue.step, SaveQueue.finish, h]
  | some job => simp [received, finish, SaveQueue.step, SaveQueue.finish, h]

/-! ## The way of a change -/

/-- Since `start` the store was given nothing, and a request waits on the timer until it is due.
There is no other. -/
structure Armed (start : Timeline α) (job : SaveJob α) (due : Nat) (t : Timeline α) : Prop where
  queue : ∃ latest status, latest ≤ job.number ∧ t.queue =
    ⟨job.number, latest, some job, [], [], none, none, status, start.queue.handed⟩
  received : t.received = start.received
  timerDue : t.timerDue = due
  now : t.now ≤ due

/-- Since `start` the store was given one request, when that was due.  No other waits. -/
structure Sent (start : Timeline α) (job : SaveJob α) (due : Nat) (t : Timeline α) : Prop where
  queue : ∃ inFlight status, t.queue =
    ⟨job.number, job.number, none, [], [], none, inFlight, status, start.queue.handed ++ [job]⟩
  received : t.received = start.received ++ [(job, due)]
  now : due ≤ t.now

/-- The way of a request from the timer to the store. -/
inductive Way (start : Timeline α) (job : SaveJob α) (due : Nat) (t : Timeline α) : Prop where
  | armed : Armed start job due t → Way start job due t
  | released {latest : Nat} {status : SaveStatus} : latest ≤ job.number →
      t.queue = ⟨job.number, latest, none, [job], [], none, none, status, start.queue.handed⟩ →
      t.received = start.received → t.now = due → Way start job due t
  | waits {status : SaveStatus} :
      t.queue =
        ⟨job.number, job.number, none, [], [job], none, none, status, start.queue.handed⟩ →
      t.received = start.received → t.now = due → Way start job due t
  | turn {status : SaveStatus} :
      t.queue =
        ⟨job.number, job.number, none, [], [], some job, none, status, start.queue.handed⟩ →
      t.received = start.received → t.now = due → Way start job due t
  | sent : Sent start job due t → Way start job due t

/-- Before a request is handed over, its steps leave what the store was given. -/
theorem received_eq_of_idle (hfinished : t'.finished = t.finished)
    (hflight : t.queue.inFlight = none) (hflight' : t'.queue.inFlight = none) :
    t'.received = t.received := by
  rw [received_of_idle hflight', received_of_idle hflight, hfinished]

/-- The timer runs out when it is due. -/
theorem Armed.tick (h : Armed start job due t) (ht : Tick limit t t') : Way start job due t' := by
  obtain ⟨latest, status, hlatest, hq⟩ := h.queue
  cases ht with
  | lineUp hne | proceed hne | takeTurn hne | finish hne => simp [hq] at hne
  | release =>
      have hqueue : t.release.queue =
          ⟨job.number, latest, none, [job], [], none, none, status, start.queue.handed⟩ := by
        rw [release, hq]
        rfl
      have hreceived : t.release.received = t.received :=
        received_eq_of_idle rfl (by rw [hq]) (by rw [hqueue])
      refine .released hlatest hqueue (hreceived.trans h.received) ?_
      exact h.timerDue ▸ max_eq_right (h.timerDue ▸ h.now)

/-- Only the save in flight can still end. -/
theorem Sent.tick (h : Sent start job due t) (ht : Tick limit t t') : Sent start job due t' := by
  obtain ⟨inFlight, status, hq⟩ := h.queue
  cases ht with
  | lineUp hne | proceed hne | takeTurn hne | release hne => simp [hq] at hne
  | finish hne =>
      obtain ⟨hnone, _⟩ | ⟨current, _, he⟩ := t.queue.finish_cases t.currentReply.result
      · exact absurd hnone hne
      · have hqueue : t.finish.queue =
            ⟨job.number, job.number, none, [], [], none, none,
              if job.number = current.number then SaveQueue.outcome t.currentReply.result
                else status,
              start.queue.handed ++ [job]⟩ := he.trans (by rw [hq])
        exact ⟨⟨none, _, hqueue⟩, t.received_finish.trans h.received, le_max_of_le_left h.now⟩

/-- A request that is alone takes its next step. -/
theorem Way.tick (h : Way start job due t) (ht : Tick limit t t') : Way start job due t' := by
  cases h with
  | armed harmed => exact harmed.tick ht
  | @released latest status hlatest hq hreceived hnow =>
      cases ht with
      | proceed hne | takeTurn hne | finish hne | release hne => simp [hq] at hne
      | lineUp =>
          have hqueue : t.queue.step (.lineUp 0) =
              ⟨job.number, job.number, none, [], [job], none, none, status,
                start.queue.handed⟩ := by
            rw [hq, ← max_eq_right hlatest]
            rfl
          refine .waits hqueue ?_ hnow
          rw [← hreceived]
          exact received_eq_of_idle rfl (by rw [hq]) (by simp only [hqueue])
  | @waits status hq hreceived hnow =>
      cases ht with
      | lineUp hne | proceed hne | finish hne | release hne => simp [hq] at hne
      | takeTurn =>
          have hqueue : t.queue.step (.takeTurn 0) =
              ⟨job.number, job.number, none, [], [], some job, none, status,
                start.queue.handed⟩ := by
            rw [hq]
            rfl
          refine .turn hqueue ?_ hnow
          rw [← hreceived]
          exact received_eq_of_idle rfl (by rw [hq]) (by simp only [hqueue])
  | @turn status hq hreceived hnow =>
      cases ht with
      | lineUp hne | takeTurn hne | finish hne | release hne => simp [hq] at hne
      | proceed =>
          -- Nothing newer lined up, so the request is not dropped.
          have hqueue : t.proceed.queue =
              ⟨job.number, job.number, none, [], [], none, some job, .saving,
                start.queue.handed ++ [job]⟩ := by
            simp only [proceed, hq, SaveQueue.step, SaveQueue.proceed, Nat.lt_irrefl, if_false,
              SaveQueue.hand]
          refine .sent ⟨⟨some job, .saving, hqueue⟩, ?_, hnow.ge⟩
          rw [← hreceived, received_of_idle (t := t) (by rw [hq]), received, hqueue, ← hnow]
          rfl
  | sent hsent => exact .sent (hsent.tick ht)

/-! ## The change as time passes -/

/-- A request that is alone does not stop between the timer and the store. -/
theorem Way.of_stuck (h : Way start job due t) (hstuck : t.next? (some last) = none) :
    (Armed start job due t ∧ last < due) ∨ Sent start job due t := by
  cases h with
  | armed harmed =>
      obtain ⟨latest, status, _, hq⟩ := harmed.queue
      refine Or.inl ⟨harmed, ?_⟩
      simpa [next?, hq, within, harmed.timerDue] using hstuck
  | released _ hq | waits hq | turn hq => simp [next?, hq] at hstuck
  | sent hsent => exact Or.inr hsent

/-- Time that passes leaves a request on the timer as long as it is not due.  When it is due, it is
handed over. -/
theorem Way.advance (h : Way start job due t) (time : Nat) :
    (Armed start job due (t.advance time) ∧ t.now + time < due) ∨
      Sent start job due (t.advance time) := by
  have hway := settle_next_induction (motive := Way start job due) (some (t.now + time))
    (fun _ => false) (fun hnext hu => hu.tick (tick_of_next? hnext)) t.queue.work h
  -- Nothing more is due when the clock stops, so it does not stop between the timer and the store.
  have hstuck := settle_stuck (some (t.now + time)) (fun _ => false) t.queue.work (Nat.le_refl _)
  obtain ⟨harmed, hlt⟩ | hsent := hway.of_stuck (hstuck.resolve_left nofun)
  · refine Or.inl ⟨⟨harmed.queue, harmed.received, harmed.timerDue, ?_⟩, hlt⟩
    exact (t.now_advance time).trans_le hlt.le
  · exact Or.inr ⟨hsent.queue, hsent.received, le_max_of_le_left hsent.now⟩

theorem Sent.advance (h : Sent start job due t) (time : Nat) :
    Sent start job due (t.advance time) := by
  have hsent := settle_next_induction (motive := Sent start job due) (some (t.now + time))
    (fun _ => false) (fun hnext hu => hu.tick (tick_of_next? hnext)) t.queue.work h
  exact ⟨hsent.queue, hsent.received, le_max_of_le_left hsent.now⟩

/-! ## Changes -/

/-- A change puts its request on the timer of a queue with nothing in it. -/
theorem armed_of_quiet (hquiet : t.queue.Quiet) (hlatest : t.queue.latest ≤ t.queue.requested)
    (snapshot : α) :
    Armed t (t.queue.nextJob snapshot) (t.now + t.delay) (t.schedule snapshot) where
  queue := by
    refine ⟨t.queue.latest, t.queue.status, Nat.le_succ_of_le hlatest, ?_⟩
    simp only [schedule, SaveQueue.step, SaveQueue.schedule, hquiet.released, hquiet.waiting,
      hquiet.holder, hquiet.inFlight]
    rfl
  received := rfl
  timerDue := rfl
  now := Nat.le_add_right _ _

/-- A further change takes the place of what is on the timer. -/
theorem Armed.schedule (h : Armed start job due t) (snapshot : α) :
    Armed start ⟨job.number + 1, snapshot⟩ (t.now + t.delay) (t.schedule snapshot) where
  queue := by
    obtain ⟨latest, status, hlatest, hq⟩ := h.queue
    refine ⟨latest, status, Nat.le_succ_of_le hlatest, ?_⟩
    rw [Timeline.schedule, hq]
    rfl
  received := h.received
  timerDue := rfl
  now := Nat.le_add_right _ _

end PageBuilder.Timeline
