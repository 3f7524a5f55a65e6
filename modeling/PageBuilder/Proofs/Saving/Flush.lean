import Mathlib.Data.List.Induction
import PageBuilder.Proofs.Saving.Clock
import PageBuilder.Proofs.Saving.Progress

/-!
# The way of a flush

A flush lines up with the newest number there is, and until it is over nobody asks for another save.
So every other request that is still under way is older: one that gets the turn is dropped, and the
flush is the next request that the store is given (`Ahead`).  `Stage` follows it from the line to
the turn, to the store and to the end, and `Stage.next` takes it through one event.  Once over it
stays so, and nothing more is handed over (`Over.run`).

`Delivered` is what all this comes to, for any order of events (`delivered_of_settled`) and on the
clock (`Timeline.delivered_of_flush`).
-/

namespace PageBuilder

namespace SaveQueue

variable {α : Type} {q q' : SaveQueue α} {event : SaveEvent α} {job : SaveJob α}
  {snapshot : α} {result : Except Error Unit}
  {calls : List (SaveJob α × Except Error Unit)}

/-! ## Older requests -/

/-- The requests of a list that are not older than a given one. -/
def notOlder (job : SaveJob α) (others : List (SaveJob α)) : List (SaveJob α) :=
  others.filter fun other => job.number ≤ other.number

theorem notOlder_eq_nil_iff {others : List (SaveJob α)} :
    notOlder job others = [] ↔ ∀ other ∈ others, other.number < job.number := by
  simp [notOlder]

theorem notOlder_append_of_lt {others : List (SaveJob α)} {other : SaveJob α}
    (h : other.number < job.number) : notOlder job (others ++ [other]) = notOlder job others := by
  rw [notOlder, List.filter_append, notOlder, List.filter_cons_of_neg (by simpa using h),
    List.filter_nil, List.append_nil]

theorem exists_append_of_getElem? {β : Type} {xs : List β} {n : Nat} {x : β} (h : xs[n]? = some x) :
    ∃ front back, xs = front ++ x :: back ∧ xs.eraseIdx n = front ++ back := by
  obtain ⟨hlt, rfl⟩ := List.getElem?_eq_some_iff.mp h
  exact ⟨xs.take n, xs.drop (n + 1), by simp, List.eraseIdx_eq_take_drop_succ xs n⟩

/-- The turn goes to an older request, which changes nothing for the others, or to the only one
that is not older. -/
theorem notOlder_eraseIdx {others : List (SaveJob α)} {n : Nat} {other : SaveJob α}
    (h : others[n]? = some other) :
    (other.number < job.number ∧ notOlder job (others.eraseIdx n) = notOlder job others) ∨
    (notOlder job others = [job] → other = job ∧ notOlder job (others.eraseIdx n) = []) := by
  obtain ⟨front, back, hothers, herase⟩ := exists_append_of_getElem? h
  rw [herase, hothers]
  simp only [notOlder, List.filter_append]
  by_cases hlt : other.number < job.number
  · exact Or.inl ⟨hlt, by rw [List.filter_cons_of_neg (by simpa using hlt)]⟩
  · refine Or.inr fun hone => ?_
    rw [List.filter_cons_of_pos (by simpa using hlt)] at hone
    obtain ⟨hfront, hback⟩ | ⟨_, hback⟩ := List.append_eq_singleton_iff.mp hone
    · obtain ⟨rfl, hback⟩ := List.cons.inj hback
      exact ⟨rfl, by rw [hfront, hback]; rfl⟩
    · cases hback

/-! ## Ahead of all others -/

/-- A request is the newest that lined up, nothing is on the timer, and what did not line up is
older. -/
structure Ahead (job : SaveJob α) (q : SaveQueue α) : Prop where
  timer : q.timer = none
  latest : q.latest = job.number
  released : ∀ other ∈ q.released, other.number < job.number
  turn : ∀ other, q.holder = some other → q.inFlight = none

theorem Ahead.timer_ne (h : Ahead job q) {other : SaveJob α} : q.timer ≠ some other := by
  rw [h.timer]
  nofun

theorem Ahead.moves (h : Ahead job q) (hm : Moves q event q') : Ahead job q' := by
  cases hm with
  | nothing => exact h
  | release ht => exact absurd ht h.timer_ne
  | lineUp hother =>
      have hlt := h.released _ (List.mem_of_getElem? hother)
      have hlatest := h.latest
      exact ⟨h.timer, by simp only [await]; omega,
        fun other hmem => h.released other (List.mem_of_mem_eraseIdx hmem), h.turn⟩
  | takeTurn _ hflight _ => exact ⟨h.timer, h.latest, h.released, fun _ _ => hflight⟩
  | drop | hand => exact ⟨h.timer, h.latest, h.released, by intro other ho; cases ho⟩
  | finish => exact ⟨h.timer, h.latest, h.released, fun _ _ => rfl⟩

theorem Bounded.ahead_flush (h : Bounded q) (snapshot : α) :
    Ahead (q.nextJob snapshot) (q.step (.flush snapshot)) where
  timer := rfl
  latest := by
    have hle := h.latest_le
    simp only [SaveQueue.step, flush, await, nextJob]
    omega
  released := by
    intro other hother
    have hle := h.number_le other
      (mem_jobs.mpr (Or.inl (mem_atHand.mpr (Or.inr (Or.inl hother)))))
    exact Nat.lt_succ_of_le hle
  turn := h.turn

/-! ## After the end -/

/-- The request is over: the store was given it and no other since, and how that went is on display.
Only older requests are under way. -/
structure Over (handed : List (SaveJob α)) (job : SaveJob α) (result : Except Error Unit)
    (q : SaveQueue α) : Prop where
  waiting : notOlder job q.waiting = []
  holder : ∀ other, q.holder = some other → other.number < job.number
  inFlight : q.inFlight = none
  handed : q.handed = handed ++ [job]
  status : q.status = outcome result

theorem ends_of_idle (h : q.inFlight = none) (event : SaveEvent α) : q.ends event = [] := by
  cases event with
  | finish => rw [ends, h]; rfl
  | schedule | flush | cancel | release | lineUp | takeTurn | proceed => rfl

variable {handed : List (SaveJob α)}

/-- What lines up, or gets the turn, after the request is older, so it is dropped. -/
theorem Over.moves (h : Over handed job result q) (ha : Ahead job q) (hm : Moves q event q') :
    Over handed job result q' := by
  cases hm with
  | nothing | release => exact ⟨h.waiting, h.holder, h.inFlight, h.handed, h.status⟩
  | lineUp hother =>
      have hlt := ha.released _ (List.mem_of_getElem? hother)
      exact ⟨(notOlder_append_of_lt hlt).trans h.waiting, h.holder, h.inFlight, h.handed, h.status⟩
  | takeTurn _ _ hother =>
      have hall := notOlder_eq_nil_iff.mp h.waiting
      refine ⟨notOlder_eq_nil_iff.mpr fun other ho => hall other (List.mem_of_mem_eraseIdx ho), ?_,
        h.inFlight, h.handed, h.status⟩
      intro other ho
      cases ho
      exact hall _ (List.mem_of_getElem? hother)
  | drop => exact ⟨h.waiting, (by intro other ho; cases ho), h.inFlight, h.handed, h.status⟩
  | hand hother hle =>
      have hlt := h.holder _ hother
      rw [ha.latest] at hle
      omega
  | finish hother =>
      rw [h.inFlight] at hother
      cases hother

theorem Over.run (events : List (SaveEvent α)) : ∀ {q : SaveQueue α}, Over handed job result q →
    Ahead job q → (∀ event ∈ events, event.isProgress) → Over handed job result (q.run events) := by
  induction events with
  | nil => exact fun h _ _ => h
  | cons event rest ih =>
      intro q h ha hevents
      have hm := moves_of_progress (q := q) (hevents event List.mem_cons_self)
      exact ih (h.moves ha hm) (ha.moves hm) fun later hl =>
        hevents later (List.mem_cons_of_mem event hl)

/-! ## From the line to the end -/

/-- At some point of a run after a flush was requested, the store is given its snapshot.  By then it
is done with what it was working on at the request, and it was given nothing else. -/
def Handing (q : SaveQueue α) (snapshot : α) (events : List (SaveEvent α)) : Prop :=
  ∃ before after, events = before ++ .proceed :: after ∧
    (q.run (.flush snapshot :: before)).inFlight = none ∧
    (q.run (.flush snapshot :: before)).handed = q.handed ∧
    (q.ended (.flush snapshot :: before)).map Prod.fst = q.inFlight.toList ∧
    (q.run (.flush snapshot :: (before ++ [.proceed]))).inFlight = some (q.nextJob snapshot)

theorem Handing.concat {events : List (SaveEvent α)} (h : Handing q snapshot events)
    (event : SaveEvent α) : Handing q snapshot (events ++ [event]) := by
  obtain ⟨before, after, rfl, hrest⟩ := h
  exact ⟨before, after ++ [event], by simp, hrest⟩

/-- How far a flush that was requested of `start` has come, with the calls that ended since. -/
inductive Stage (start : SaveQueue α) (job : SaveJob α) (handing : Prop) (q : SaveQueue α)
    (calls : List (SaveJob α × Except Error Unit)) : Prop where
  /-- It waits, and only older requests are before it.  What the store was working on may have
  ended. -/
  | waiting : notOlder job q.waiting = [job] →
      (∀ other, q.holder = some other → other.number < job.number) →
      q.handed = start.handed →
      calls.map Prod.fst ++ q.inFlight.toList = start.inFlight.toList →
      Stage start job handing q calls
  | turn : notOlder job q.waiting = [] → q.holder = some job → q.handed = start.handed →
      calls.map Prod.fst = start.inFlight.toList → Stage start job handing q calls
  | sent : notOlder job q.waiting = [] → q.inFlight = some job →
      q.handed = start.handed ++ [job] →
      calls.map Prod.fst = start.inFlight.toList → handing → Stage start job handing q calls
  | done {result : Except Error Unit} {earlier : List (SaveJob α × Except Error Unit)} :
      Over start.handed job result q → calls = earlier ++ [(job, result)] →
      earlier.map Prod.fst = start.inFlight.toList → handing → Stage start job handing q calls

section

variable {start : SaveQueue α} {handing : Prop}

/-- From the line, the flush gets the turn when the store is done with what it was working on. -/
theorem stage_of_waiting (ha : Ahead job q) (hm : Moves q event q')
    (hwaiting : notOlder job q.waiting = [job])
    (hholder : ∀ other, q.holder = some other → other.number < job.number)
    (hhanded : q.handed = start.handed)
    (hcalls : calls.map Prod.fst ++ q.inFlight.toList = start.inFlight.toList) :
    Stage start job handing q' (calls ++ q.ends event) := by
  cases hm with
  | nothing hends =>
      rw [hends, List.append_nil]
      exact .waiting hwaiting hholder hhanded hcalls
  | release ht => exact absurd ht ha.timer_ne
  | lineUp hother =>
      simp only [ends, List.append_nil]
      have hlt := ha.released _ (List.mem_of_getElem? hother)
      exact .waiting ((notOlder_append_of_lt hlt).trans hwaiting) hholder hhanded hcalls
  | takeTurn hnone hflight hother =>
      simp only [ends, List.append_nil]
      obtain ⟨hlt, hothers⟩ | hflush := notOlder_eraseIdx hother
      · exact .waiting (hothers.trans hwaiting) (by rintro _ ⟨⟩; exact hlt) hhanded hcalls
      · obtain ⟨rfl, hothers⟩ := hflush hwaiting
        exact .turn hothers rfl hhanded (by simpa [hflight] using hcalls)
  | drop =>
      simp only [ends, List.append_nil]
      exact .waiting hwaiting (by rintro _ ⟨⟩) hhanded hcalls
  | hand hother hle =>
      have hlt := hholder _ hother
      rw [ha.latest] at hle
      omega
  | finish hother =>
      refine .waiting hwaiting hholder hhanded ?_
      rw [hother] at hcalls
      simpa [ends, hother] using hcalls

/-- The flush that has the turn is not dropped, since nothing newer lined up. -/
theorem stage_of_turn (ha : Ahead job q) (hm : Moves q event q')
    (hwaiting : notOlder job q.waiting = []) (hholder : q.holder = some job)
    (hhanded : q.handed = start.handed) (hcalls : calls.map Prod.fst = start.inFlight.toList)
    (hhand : event = .proceed → q'.inFlight = some job → handing) :
    Stage start job handing q' (calls ++ q.ends event) := by
  rw [ends_of_idle (ha.turn job hholder), List.append_nil]
  cases hm with
  | nothing => exact .turn hwaiting hholder hhanded hcalls
  | release ht => exact absurd ht ha.timer_ne
  | lineUp hother =>
      have hlt := ha.released _ (List.mem_of_getElem? hother)
      exact .turn ((notOlder_append_of_lt hlt).trans hwaiting) hholder hhanded hcalls
  | takeTurn hnone =>
      rw [hholder] at hnone
      cases hnone
  | drop hother hlt =>
      rw [hholder] at hother
      cases hother
      rw [ha.latest] at hlt
      omega
  | hand hother =>
      rw [hholder] at hother
      cases hother
      exact .sent hwaiting rfl (by simp [SaveQueue.hand, hhanded]) hcalls (hhand rfl rfl)
  | finish hother =>
      rw [ha.turn job hholder] at hother
      cases hother

/-- The flush that the store is working on is over when that call ends. -/
theorem stage_of_sent (ha : Ahead job q) (hm : Moves q event q')
    (hwaiting : notOlder job q.waiting = []) (hflight : q.inFlight = some job)
    (hhanded : q.handed = start.handed ++ [job])
    (hcalls : calls.map Prod.fst = start.inFlight.toList) (hh : handing) :
    Stage start job handing q' (calls ++ q.ends event) := by
  have hnobody : ∀ other, q.holder ≠ some other := by
    intro other hother
    have hnone := ha.turn other hother
    rw [hflight] at hnone
    cases hnone
  cases hm with
  | nothing hends =>
      rw [hends, List.append_nil]
      exact .sent hwaiting hflight hhanded hcalls hh
  | release ht => exact absurd ht ha.timer_ne
  | lineUp hother =>
      simp only [ends, List.append_nil]
      have hlt := ha.released _ (List.mem_of_getElem? hother)
      exact .sent ((notOlder_append_of_lt hlt).trans hwaiting) hflight hhanded hcalls hh
  | takeTurn _ hnone =>
      rw [hflight] at hnone
      cases hnone
  | drop hother => exact absurd hother (hnobody _)
  | hand hother => exact absurd hother (hnobody _)
  | @finish other result hother =>
      rw [hflight] at hother
      cases hother
      have hover : Over start.handed job result
          { q with
            inFlight := none
            status := if q.latest = job.number then outcome result else q.status } :=
        ⟨hwaiting, fun other ho => absurd ho (hnobody other), rfl, hhanded, if_pos ha.latest⟩
      exact .done hover (by rw [ends, hflight]; rfl) hcalls hh

end

theorem Stage.next {events : List (SaveEvent α)}
    (h : Stage q (q.nextJob snapshot) (Handing q snapshot events)
      (q.run (.flush snapshot :: events)) (q.ended (.flush snapshot :: events)))
    (ha : Ahead (q.nextJob snapshot) (q.run (.flush snapshot :: events)))
    (hevent : event.isProgress) :
    Stage q (q.nextJob snapshot) (Handing q snapshot (events ++ [event]))
      (q.run (.flush snapshot :: (events ++ [event])))
      (q.ended (.flush snapshot :: (events ++ [event]))) := by
  have hm := moves_of_progress (q := q.run (.flush snapshot :: events)) hevent
  rw [← List.cons_append, run_concat, ended_concat]
  cases h with
  | waiting hwaiting hholder hhanded hcalls =>
      exact stage_of_waiting ha hm hwaiting hholder hhanded hcalls
  | turn hwaiting hholder hhanded hcalls =>
      refine stage_of_turn ha hm hwaiting hholder hhanded hcalls fun hproceed hflight => ?_
      subst hproceed
      refine ⟨events, [], rfl, ha.turn _ hholder, hhanded, hcalls, ?_⟩
      rw [← List.cons_append, run_concat]
      exact hflight
  | sent hwaiting hflight hhanded hcalls hh =>
      exact stage_of_sent ha hm hwaiting hflight hhanded hcalls (hh.concat event)
  | done hover hcalls hearlier hh =>
      rw [ends_of_idle hover.inFlight, List.append_nil]
      exact .done (hover.moves ha hm) hcalls hearlier (hh.concat event)

theorem Bounded.stage_flush (h : Bounded q) (snapshot : α) {handing : Prop} :
    Stage q (q.nextJob snapshot) handing (q.step (.flush snapshot)) [] := by
  have hlt : ∀ other ∈ q.atHand, other.number < (q.nextJob snapshot).number := fun other hother =>
    Nat.lt_succ_of_le (h.number_le other (mem_jobs.mpr (Or.inl hother)))
  have hwaiting : notOlder (q.nextJob snapshot) q.waiting = [] :=
    notOlder_eq_nil_iff.mpr fun other ho => hlt other (mem_atHand.mpr (by tauto))
  refine .waiting ?_ (fun other ho => hlt other (mem_atHand.mpr (by tauto))) rfl rfl
  calc notOlder (q.nextJob snapshot) (q.waiting ++ [q.nextJob snapshot])
      = notOlder (q.nextJob snapshot) q.waiting ++ [q.nextJob snapshot] := by simp [notOlder]
    _ = [q.nextJob snapshot] := by rw [hwaiting, List.nil_append]

/-- Whatever happens after a flush was requested, it is ahead of all others and at one of its
stages. -/
theorem Bounded.stage (h : Bounded q) (snapshot : α) (events : List (SaveEvent α))
    (hevents : ∀ event ∈ events, event.isProgress) :
    Ahead (q.nextJob snapshot) (q.run (.flush snapshot :: events)) ∧
    Stage q (q.nextJob snapshot) (Handing q snapshot events)
      (q.run (.flush snapshot :: events)) (q.ended (.flush snapshot :: events)) := by
  induction events using List.reverseRecOn with
  | nil => exact ⟨h.ahead_flush snapshot, h.stage_flush snapshot⟩
  | append_singleton events event ih =>
      obtain ⟨ha, hstage⟩ := ih fun other ho => hevents other (List.mem_append_left _ ho)
      have hevent : event.isProgress := hevents event (List.mem_append_right _ List.mem_cons_self)
      refine ⟨?_, hstage.next ha hevent⟩
      rw [← List.cons_append, run_concat]
      exact ha.moves (moves_of_progress hevent)

/-! ## What a flush comes to -/

/-- Nothing of a request is under way: it neither waits, nor has the turn, nor is it saved. -/
structure Settled (number : Nat) (q : SaveQueue α) : Prop where
  waiting : ∀ job ∈ q.waiting, job.number ≠ number
  holder : ∀ job, q.holder = some job → job.number ≠ number
  inFlight : ∀ job, q.inFlight = some job → job.number ≠ number

/-- A flush that was requested of a queue is over after some events, and its save had the result. -/
structure Delivered (q : SaveQueue α) (snapshot : α) (events : List (SaveEvent α))
    (result : Except Error Unit) : Prop where
  /-- The store was given the snapshot after it was done with what it was working on. -/
  handing : Handing q snapshot events
  /-- It was given the snapshot, and nothing else. -/
  handed : (q.run (.flush snapshot :: events)).handed = q.handed ++ [q.nextJob snapshot]
  /-- No other call has the number of the flush. -/
  once : (q.run (.flush snapshot :: events)).handed.countP
    (·.number == (q.nextJob snapshot).number) = 1
  /-- The calls that ended since are the one that was under way, if there was one, and the flush. -/
  ended : ∃ earlier, earlier.map Prod.fst = q.inFlight.toList ∧
    q.ended (.flush snapshot :: events) = earlier ++ [(q.nextJob snapshot, result)]
  timer : (q.run (.flush snapshot :: events)).timer = none
  status : (q.run (.flush snapshot :: events)).status = outcome result
  /-- As long as nobody asks for a save, nothing more is handed over, no timer is set, and the
  status stays. -/
  last : ∀ later, (∀ event ∈ later, event.isProgress) →
    (q.run (.flush snapshot :: (events ++ later))).handed =
      (q.run (.flush snapshot :: events)).handed ∧
    (q.run (.flush snapshot :: (events ++ later))).timer = none ∧
    (q.run (.flush snapshot :: (events ++ later))).status = outcome result

theorem Bounded.once (h : Bounded q) (snapshot : α) :
    (q.handed ++ [q.nextJob snapshot]).countP (·.number == (q.nextJob snapshot).number) = 1 := by
  have hzero : q.handed.countP (·.number == (q.nextJob snapshot).number) = 0 := by
    rw [List.countP_eq_zero]
    intro job hjob
    have hle := h.number_le job (mem_jobs.mpr (Or.inr hjob))
    simp only [nextJob, beq_iff_eq]
    omega
  rw [List.countP_append, hzero]
  simp

/-- A flush that is over was delivered: before that it would wait, have the turn or be saved. -/
theorem delivered_of_settled (h : Bounded q) {events : List (SaveEvent α)}
    (hevents : ∀ event ∈ events, event.isProgress)
    (hsettled : Settled (q.nextJob snapshot).number (q.run (.flush snapshot :: events))) :
    ∃ result, Delivered q snapshot events result := by
  obtain ⟨ha, hstage⟩ := h.stage snapshot events hevents
  cases hstage with
  | waiting hwaiting =>
      have hmem : q.nextJob snapshot ∈
          notOlder (q.nextJob snapshot) (q.run (.flush snapshot :: events)).waiting := by
        rw [hwaiting]
        exact List.mem_cons_self
      exact absurd rfl (hsettled.waiting _ (List.mem_filter.mp hmem).1)
  | turn _ hholder => exact absurd rfl (hsettled.holder _ hholder)
  | sent _ hflight => exact absurd rfl (hsettled.inFlight _ hflight)
  | @done result earlier hover hcalls hearlier hh =>
      refine ⟨result, hh, hover.handed, hover.handed ▸ h.once snapshot, ⟨earlier, hearlier, hcalls⟩,
        ha.timer, hover.status, fun later hlater => ?_⟩
      have hafter := hover.run later ha hlater
      have hahead := (h.stage snapshot (events ++ later) fun event he =>
        (List.mem_append.mp he).elim (hevents event) (hlater event)).1
      rw [← List.cons_append, run_append] at hahead ⊢
      exact ⟨hafter.handed.trans hover.handed.symm, hahead.timer, hafter.status⟩

theorem Sound.bounded {requests : List α} (h : Sound q requests calls) : Bounded q where
  latest_le := h.latest_le
  number_le := fun _ hjob => h.number_le hjob
  turn := h.turn

end SaveQueue

/-! ## On the clock -/

namespace Timeline

open SaveQueue (Sound Delivered)

variable {α : Type} {requests : List α}

/-- What happens on the clock is a run of the queue. -/
theorem exists_events_settle (limit : Option Nat) (done : Timeline α → Bool) (fuel : Nat)
    (t : Timeline α) :
    ∃ events, (∀ event ∈ events, event.isProgress) ∧
      (settle limit done fuel t).queue = t.queue.run events ∧
      (settle limit done fuel t).calls = t.calls ++ t.queue.ended events := by
  refine settle_induction
    (motive := fun u => ∃ events : List (SaveEvent α), (∀ event ∈ events, event.isProgress) ∧
      u.queue = t.queue.run events ∧ u.calls = t.calls ++ t.queue.ended events)
    limit done ?_ fuel ⟨[], by simp, rfl, (List.append_nil _).symm⟩
  rintro u u' event hevent ⟨events, hevents, hqueue, hcalls⟩
  refine ⟨events ++ [event], ?_, ?_, ?_⟩
  · simpa [or_imp, forall_and] using ⟨hevents, hevent.progress⟩
  · rw [hevent.queue_eq, hqueue, SaveQueue.run_concat]
  · rw [hevent.calls_eq, hcalls, hqueue, SaveQueue.ended_concat, List.append_assoc]

/-- A flush that is waited for on the clock is delivered, and returns how its save went. -/
theorem delivered_of_flush {t : Timeline α} (h : Sound t.queue requests t.calls) (snapshot : α) :
    ∃ events, (∀ event ∈ events, event.isProgress) ∧
      (t.flush snapshot).2.queue = t.queue.run (.flush snapshot :: events) ∧
      Delivered t.queue snapshot events (t.flush snapshot).1 := by
  let lined : Timeline α := { t with queue := t.queue.step (.flush snapshot) }
  obtain ⟨events, hevents, hqueue, hcalls⟩ :=
    exists_events_settle none (isSettled lined.queue.requested) lined.queue.work lined
  obtain ⟨hwaiting, hholder, hflight⟩ := forall_ne_of_settled
    (settle_done (isSettled lined.queue.requested) lined.queue.work (Nat.le_refl _))
  rw [hqueue] at hwaiting hholder hflight
  obtain ⟨result, hdelivered⟩ :=
    SaveQueue.delivered_of_settled h.bounded hevents ⟨hwaiting, hholder, hflight⟩
  obtain ⟨job, _, _, hlast⟩ := last_of_flush h snapshot
  obtain ⟨earlier, _, hended⟩ := hdelivered.ended
  have hresult : result = (t.flush snapshot).1 := by
    have hall : (t.flush snapshot).2.calls =
        t.calls ++ (earlier ++ [(t.queue.nextJob snapshot, result)]) := by
      rw [← hended]
      exact hcalls
    rw [hall, ← List.append_assoc, List.getLast?_concat] at hlast
    exact congrArg Prod.snd (Option.some.inj hlast)
  exact ⟨events, hevents, hqueue, hresult ▸ hdelivered⟩

end Timeline

end PageBuilder
