import PageBuilder.Proofs.Editor.Saves
import PageBuilder.Proofs.Saving.Flush

/-!
# Flushing an editor

Whatever an editor was doing, a flush that is not given up hands over what the editor would save
when it was asked for, once, and after the save that was under way.  It returns how that save went,
and then nothing more is saved until something else changes (`delivered_of_reaches`).

The states that an editor comes to are those of `Leads` and more: here a flush may also be given up
while it waits or is saved, which leaves its number behind in the queue (`Reaches`).  A flush keeps
the editor to itself until it is over, so meanwhile the queue only moves by itself.
-/

namespace PageBuilder.Editor

open SaveQueue (Bounded Settled Delivered)

/-! ## States -/

/-- The states that an editor can come to, in any order of intents, flushes and saves, with flushes
that are given up. -/
inductive Reaches (start : Editor) : Editor → Prop where
  | start : Reaches start start
  | intent {e : Editor} (i : Intent) : Reaches start e → Reaches start (e.intend i)
  /-- A flush is requested. -/
  | flush {e : Editor} : Reaches start e → Reaches start (e.onQueue (.flush e.snapshot))
  /-- A request that was made comes further. -/
  | progress {e : Editor} {event : SaveEvent Project.Update} :
      Reaches start e → event.isProgress → Reaches start (e.onQueue event)
  /-- A flush that is not over is given up. -/
  | abandon {e : Editor} (number : Nat) :
      Reaches start e →
      Reaches start { e with saving := { e.saving with queue := e.saving.queue.abandon number } }
  /-- The clock shows another time. -/
  | clock {e : Editor} {saving : Timeline Project.Update} :
      Reaches start e → saving.queue = e.saving.queue → Reaches start { e with saving }

variable {start e : Editor} {calls : List (SaveJob Project.Update × Except Error Unit)}

theorem reaches_of_leads (h : Leads start e calls) : Reaches start e := by
  induction h with
  | start => exact .start
  | intent i _ ih => exact ih.intent i
  | flush _ ih => exact ih.flush
  | progress _ hevent ih => exact ih.progress hevent
  | clock _ hqueue ih => exact ih.clock hqueue

theorem bounded_of_reaches {document : Document} {name : String} {settings : Settings} {delay : Nat}
    {replies : List StoreReply} (h : Reaches (opened document name settings delay replies) e) :
    Bounded e.saving.queue := by
  induction h with
  | start => exact SaveQueue.empty_bounded
  | @intent e i _ ih =>
      obtain ⟨_, hsaving⟩ | hsaving := e.noted_intend i
      · rwa [hsaving]
      · rw [hsaving]
        exact ih.step (.schedule (e.intend i).snapshot)
  | @flush e _ ih => exact ih.step (.flush e.snapshot)
  | @progress e event _ _ ih => exact ih.step event
  | abandon number _ ih => exact ih.abandon number
  | clock _ hqueue ih => exact hqueue ▸ ih

/-! ## Flushes -/

theorem queue_advance_of_delivered {q : SaveQueue Project.Update} {snapshot : Project.Update}
    {events : List (SaveEvent Project.Update)} {result : Except Error Unit}
    (hqueue : e.saving.queue = q.run (.flush snapshot :: events))
    (h : Delivered q snapshot events result) (time : Nat) :
    (e.advance time).saving.queue.handed = e.saving.queue.handed ∧
    (e.advance time).saving.isPending = false ∧
    (e.advance time).saving.queue.status = SaveQueue.outcome result := by
  obtain ⟨later, hlater, hadvance, _⟩ := Timeline.exists_events_settle
    (some (e.saving.now + time)) (fun _ => false) e.saving.queue.work e.saving
  have hrun : (e.advance time).saving.queue = q.run (.flush snapshot :: (events ++ later)) := by
    rw [← List.cons_append, SaveQueue.run_append, ← hqueue]
    exact hadvance
  obtain ⟨hhanded, htimer, hstatus⟩ := h.last later hlater
  rw [Timeline.isPending, hrun, hqueue]
  exact ⟨hhanded, by rw [htimer]; rfl, hstatus⟩

/-- A flush that is asked for in any state that an editor comes to, and that is over after the queue
moved by itself in any way, is delivered: the store was given the snapshot of the editor at that
time, once, after it was done with what it was working on.  On the clock a flush always comes to its
end, and what it returns is how that save went; the status says so too, no timer is set, and however
much time passes, nothing more is handed over. -/
theorem delivered_of_reaches (document : Document) (name : String) (settings : Settings)
    (delay : Nat) (replies : List StoreReply) :
    let start := opened document name settings delay replies
    (∀ e, Reaches start e → ∀ events, (∀ event ∈ events, event.isProgress) →
      Settled (e.saving.queue.nextJob e.snapshot).number
        (e.saving.queue.run (.flush e.snapshot :: events)) →
      ∃ result, Delivered e.saving.queue e.snapshot events result) ∧
    ∀ actions, let e := start.after actions
      Reaches start e ∧
      (∃ events, (∀ event ∈ events, event.isProgress) ∧
        e.flush.2.saving.queue = e.saving.queue.run (.flush e.snapshot :: events) ∧
        Delivered e.saving.queue e.snapshot events e.flush.1) ∧
      ∀ time,
        (e.flush.2.advance time).saving.queue.handed = e.flush.2.saving.queue.handed ∧
        (e.flush.2.advance time).saving.isPending = false ∧
        (e.flush.2.advance time).saving.queue.status = SaveQueue.outcome e.flush.1 := by
  intro start
  refine ⟨fun e h events hevents hsettled => ?_, fun actions => ?_⟩
  · exact SaveQueue.delivered_of_settled (bounded_of_reaches h) hevents hsettled
  · intro e
    have hleads : Leads start e e.saving.calls := leads_after actions .start
    obtain ⟨requests, hc⟩ := covered_of_leads hleads
    obtain ⟨events, hevents, hqueue, hdelivered⟩ :=
      Timeline.delivered_of_flush hc.sound e.snapshot
    exact ⟨reaches_of_leads hleads, ⟨events, hevents, hqueue, hdelivered⟩,
      queue_advance_of_delivered hqueue hdelivered⟩

/-- An editor whose first save is under way, and that has another change on the timer. -/
def midSave : Editor :=
  (opened (.empty 3) "Draft" {} 10 [⟨50, some "disk full"⟩]).after
    [.intent (.setSettings {}), .advance 20, .intent (.add "text")]

theorem delivered_of_reaches_midSave :
    let fired := midSave.onQueue .release
    fired.saving.queue.inFlight.isSome = true ∧ fired.saving.queue.released.length = 1 ∧
    (∃ result, Delivered fired.saving.queue fired.snapshot
      [.lineUp 0, .finish (.error (.saveFailed "disk full")), .takeTurn 0, .proceed,
        .finish (.ok ()), .takeTurn 0, .proceed] result) ∧
    midSave.saving.isPending = true ∧ midSave.flush.1 = .ok () ∧
    ∃ events, Delivered midSave.saving.queue midSave.snapshot events (.ok ()) := by
  intro fired
  obtain ⟨hany, hclock⟩ :=
    delivered_of_reaches (.empty 3) "Draft" {} 10 [⟨50, some "disk full"⟩]
  obtain ⟨hreaches, ⟨events, _, _, hdelivered⟩, _⟩ :=
    hclock [.intent (.setSettings {}), .advance 20, .intent (.add "text")]
  refine ⟨rfl, rfl, hany fired (hreaches.progress rfl) _ (by simp [SaveEvent.isProgress]) ?_, rfl,
    rfl, events, hdelivered⟩
  exact ⟨by rintro _ ⟨⟩, by rintro _ ⟨⟩, by rintro _ ⟨⟩⟩

end PageBuilder.Editor
