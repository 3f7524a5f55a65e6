import PageBuilder.Proofs.Editor.Failure
import PageBuilder.Proofs.Editor.Flush
import PageBuilder.Proofs.Saving.Timer

/-!
# Bursts of changes

Changes that follow each other closely are saved once.  `Burst` is any number of changes, each of
them before the one before it is due, with any waiting and with intents that change nothing in
between.  Each change takes the place of the one on the timer (`Armed.schedule`), so as long as the
last one is not due it waits there alone, and then it is what the store is given
(`Burst.debounced`).  That is all that the store is given, however long nothing else changes
(`saved_once_of_burst`).
-/

namespace PageBuilder.Editor

open Timeline (Armed Sent Way)

variable {start e : Editor}

/-- A burst of changes, with the times and the snapshots of the changes, the last one first. -/
inductive Burst (start : Editor) : Editor → List (Nat × Project.Update) → Prop where
  | first {i : Intent} : start.alters i →
      Burst start (start.intend i) [(start.saving.now, (start.intend i).snapshot)]
  /-- A change that comes before the one before it is due. -/
  | next {e : Editor} {i : Intent} {last : Nat} {snapshot : Project.Update}
      {earlier : List (Nat × Project.Update)} :
      Burst start e ((last, snapshot) :: earlier) → e.alters i →
      e.saving.now < last + start.saving.delay →
      Burst start (e.intend i)
        ((e.saving.now, (e.intend i).snapshot) :: (last, snapshot) :: earlier)
  | idle {e : Editor} {i : Intent} {changes : List (Nat × Project.Update)} :
      Burst start e changes → e.alters i = false → Burst start (e.intend i) changes
  | wait {e : Editor} {changes : List (Nat × Project.Update)} (time : Nat) :
      Burst start e changes → Burst start (e.advance time) changes

/-- What a burst of changes comes to: the last change is on the timer, or was handed over when it
was due. -/
structure Debounced (start : Editor) (last : Nat) (job : SaveJob Project.Update) (e : Editor) :
    Prop where
  snapshot : e.snapshot = job.snapshot
  delay : e.saving.delay = start.saving.delay
  stage : Armed start.saving job (last + start.saving.delay) e.saving ∨
    Sent start.saving job (last + start.saving.delay) e.saving

variable {last : Nat} {job : SaveJob Project.Update}

theorem Debounced.next (h : Debounced start last job e) {i : Intent} (hi : e.alters i)
    (hnow : e.saving.now < last + start.saving.delay) :
    Debounced start e.saving.now ⟨job.number + 1, (e.intend i).snapshot⟩ (e.intend i) where
  snapshot := rfl
  delay := by
    rw [saving_of_alters hi]
    exact h.delay
  stage := by
    rw [saving_of_alters hi, ← h.delay]
    obtain harmed | hsent := h.stage
    · exact Or.inl (harmed.schedule _)
    · -- The change before would be due by now.
      have hle := hsent.now
      omega

theorem Debounced.idle (h : Debounced start last job e) {i : Intent} (hi : e.alters i = false) :
    Debounced start last job (e.intend i) := by
  obtain ⟨selected, hsame⟩ := intend_of_not_alters hi
  rw [hsame]
  exact ⟨h.snapshot, h.delay, h.stage⟩

theorem Debounced.wait (h : Debounced start last job e) (time : Nat) :
    Debounced start last job (e.advance time) where
  snapshot := h.snapshot
  delay := (e.saving.delay_advance time).trans h.delay
  stage := h.stage.elim (fun harmed => ((Way.armed harmed).advance time).imp_left And.left)
    fun hsent => Or.inr (hsent.advance time)

theorem Burst.debounced (hquiet : start.saving.queue.Quiet)
    (hlatest : start.saving.queue.latest ≤ start.saving.queue.requested)
    {changes : List (Nat × Project.Update)} (h : Burst start e changes) :
    ∃ last snapshot earlier, changes = (last, snapshot) :: earlier ∧
      Debounced start last
        ⟨start.saving.queue.requested + changes.length, snapshot⟩ e := by
  induction h with
  | @first i hi =>
      refine ⟨_, _, _, rfl, rfl, ?_, Or.inl ?_⟩
      · rw [saving_of_alters hi]
        rfl
      · rw [saving_of_alters hi]
        exact Timeline.armed_of_quiet hquiet hlatest _
  | next _ hi hnow ih =>
      obtain ⟨_, _, _, hchanges, hdebounced⟩ := ih
      cases hchanges
      exact ⟨_, _, _, rfl, hdebounced.next hi hnow⟩
  | idle _ hi ih =>
      obtain ⟨last, snapshot, earlier, hchanges, hdebounced⟩ := ih
      exact ⟨last, snapshot, earlier, hchanges, hdebounced.idle hi⟩
  | wait time _ ih =>
      obtain ⟨last, snapshot, earlier, hchanges, hdebounced⟩ := ih
      exact ⟨last, snapshot, earlier, hchanges, hdebounced.wait time⟩

/-- Before the last change is due, it is on the timer and the store was given nothing. -/
theorem Debounced.waiting (h : Debounced start last job e)
    (hnow : e.saving.now < last + start.saving.delay) :
    e.saving.isPending = true ∧ e.saving.queue.handed = start.saving.queue.handed ∧
    e.saving.received = start.saving.received := by
  obtain harmed | hsent := h.stage
  · obtain ⟨latest, status, _, hqueue⟩ := harmed.queue
    exact ⟨by rw [Timeline.isPending, hqueue]; rfl, by rw [hqueue], harmed.received⟩
  · have hle := hsent.now
    omega

/-- When the last change is due, the store is given it. -/
theorem Debounced.sent (h : Debounced start last job e) {time : Nat}
    (hdue : last + start.saving.delay ≤ e.saving.now + time) :
    Sent start.saving job (last + start.saving.delay) (e.advance time).saving := by
  obtain harmed | hsent := h.stage
  · obtain ⟨_, hlt⟩ | hsent := (Way.armed harmed).advance time
    · omega
    · exact hsent
  · exact hsent.advance time

/-- A burst of changes that starts when nothing is on the timer, waits or is saved is saved once.
Until the last change is due, it is on the timer and the store is given nothing.  Then the store is
given what that change left, and nothing else as long as nothing changes and nobody flushes. -/
theorem saved_once_of_burst (document : Document) (name : String) (settings : Settings)
    (delay : Nat) (replies : List StoreReply) :
    ∀ start, Reaches (opened document name settings delay replies) start →
    start.saving.queue.Quiet →
    ∀ e last snapshot earlier, Burst start e ((last, snapshot) :: earlier) →
      let due := last + start.saving.delay
      let job := ⟨start.saving.queue.requested + earlier.length + 1, snapshot⟩
      e.snapshot = snapshot ∧
      (e.saving.now < due →
        e.saving.isPending = true ∧ e.saving.queue.handed = start.saving.queue.handed ∧
        e.saving.received = start.saving.received) ∧
      ∀ time, due ≤ e.saving.now + time →
        (e.advance time).saving.received = start.saving.received ++ [(job, due)] ∧
        (e.advance time).saving.queue.handed = start.saving.queue.handed ++ [job] ∧
        (e.advance time).saving.isPending = false := by
  intro start hreaches hquiet e last snapshot earlier hburst due job
  obtain ⟨_, _, _, hchanges, h⟩ :=
    hburst.debounced hquiet (bounded_of_reaches hreaches).latest_le
  cases hchanges
  refine ⟨h.snapshot, h.waiting, fun time hdue => ?_⟩
  have hsent := h.sent hdue
  obtain ⟨inFlight, status, hqueue⟩ := hsent.queue
  exact ⟨hsent.received, by rw [hqueue]; rfl, by rw [Timeline.isPending, hqueue]; rfl⟩

/-- An editor after three changes at the times 0, 4 and 9. -/
def edited : Editor :=
  (opened (.empty 3) "Draft" {} 10 []).after
    [.intent (.rename "Shop"), .advance 4, .intent (.add "text"), .intent (.select (some 1)),
      .advance 5, .intent (.setSettings {})]

theorem saved_once_of_burst_edited :
    edited.saving.now = 9 ∧ edited.saving.queue.requested = 3 ∧
    (edited.advance 9).saving.isPending = true ∧ (edited.advance 9).saving.received = [] ∧
    (edited.advance 10).saving.received = [(⟨3, edited.snapshot⟩, 19)] ∧
    (edited.advance 500).saving.received = [(⟨3, edited.snapshot⟩, 19)] := by
  have hfirst : Burst (opened (.empty 3) "Draft" {} 10 []) _ _ := .first (i := .rename "Shop") rfl
  have hsecond := ((hfirst.wait 4).next (i := .add "text") rfl (by decide)).idle
    (i := .select (some 1)) rfl
  have hburst := (hsecond.wait 5).next (i := .setSettings {}) rfl (by decide)
  have hsaved :=
    saved_once_of_burst (.empty 3) "Draft" {} 10 [] _ .start ⟨rfl, rfl, rfl, rfl, rfl⟩
  obtain ⟨_, hwaiting, _⟩ := hsaved _ _ _ _ (hburst.wait 9)
  obtain ⟨_, _, hsent⟩ := hsaved _ _ _ _ hburst
  exact ⟨rfl, rfl, (hwaiting (by decide)).1, (hwaiting (by decide)).2.2, (hsent 10 (by decide)).1,
    (hsent 500 (by decide)).1⟩

end PageBuilder.Editor
