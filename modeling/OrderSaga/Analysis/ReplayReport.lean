import OrderSaga.Analysis.EventStore

/-!
# What a replay run reports

`ReplayFailedEvents` keeps two counters over the records it fetched. A record adds to the
failure count when all three of its publish attempts fail, whatever its marks do; it adds to
the success count when its payload is published and its completion mark succeeds. A record
whose payload is published but whose `MarkEventAsCompleted` fails adds to neither: the
failure is only logged. The run reports an error exactly when the failure count is positive
(`replay_reports_failed_publishes`).

So the report agrees with the statuses the run leaves only while the completion marks
succeed: a run whose completion mark fails returns `nil` and leaves its record `replaying`
(`replay_ok_leaves_replaying`).
-/

set_option autoImplicit false

namespace OrderSaga.Analysis

open Events Persistence OrderService

/-- A settled record is `completed` exactly when its payload was published and its
completion mark succeeded, if it was not `completed` before. -/
theorem settle_status_completed {fails : Faults} {r : OrderEvent} (hr : r.status ≠ .completed) :
    (settle fails r).status = .completed ↔
      publishFails fails r.id = false ∧ fails (.markCompleted r.id) = false := by
  unfold settle
  cases publishFails fails r.id <;> cases fails (.markCompleted r.id) <;>
    cases fails (.markReplaying r.id) <;> cases fails (.markFailed r.id) <;> simp [markWith, hr]

/-- A run whose fetch succeeds, on a store with distinct ids, exactly: it settles the batch
`GetUnreplayedEvents` returns, publishes the payloads whose publish succeeds, and reports the
number of records whose publish failed all three times. -/
theorem replayFailedEvents_eq (fails : Faults) (w : World) (hfetch : fails .fetchEvents = false)
    (hnd : (w.store.events.map (·.id)).Nodup) {batch : List OrderEvent}
    (hget : getUnreplayedEvents false 100 w.store = some batch) :
    replayFailedEvents fails w =
      (if 0 < (batch.filter fun r => publishFails fails r.id).length then
        .error (.failures (batch.filter fun r => publishFails fails r.id).length batch.length)
      else .ok (), { w with
        store := { w.store with events := writeBatch (batch.map (·.id)) (settle fails) w.store.events }
        inFlight := w.inFlight ++ (batch.filter fun r => !publishFails fails r.id).map replayMessage }) := by
  unfold replayFailedEvents
  rw [hfetch, hget]
  rcases batch with _ | ⟨evt, rest⟩
  · simp [writeBatch]
  · simp only [replayLoop_eq fails _ (getUnreplayedEvents_batch hget hnd).1 w 0 0 hnd, Nat.zero_add, gt_iff_lt]

/-- A run whose fetch succeeds, on a store with distinct ids. It fetches a batch and leaves
each fetched record settled, with the status `completed` exactly when its payload was
published and its completion mark succeeded. It reports an error exactly when the publish of
some record failed all three times, with the number of those records as its failure count.
When no completion mark fails, the run therefore returns `nil` exactly when every fetched
record ends `completed`, and otherwise counts the records that do not. -/
theorem replay_reports_failed_publishes (fails : Faults) (w : World)
    (hfetch : fails .fetchEvents = false) (hnd : (w.store.events.map (·.id)).Nodup) :
    ∃ batch, getUnreplayedEvents false 100 w.store = some batch ∧
      (∀ r ∈ batch, settle fails r ∈ (replayFailedEvents fails w).2.store.events ∧
        ((settle fails r).status = .completed ↔
          publishFails fails r.id = false ∧ fails (.markCompleted r.id) = false)) ∧
      (replayFailedEvents fails w).1 =
        (if 0 < (batch.filter fun r => publishFails fails r.id).length then
          .error (.failures (batch.filter fun r => publishFails fails r.id).length batch.length)
        else .ok ()) ∧
      ((∀ r ∈ batch, fails (.markCompleted r.id) = false) →
        ((replayFailedEvents fails w).1 = .ok () ↔
          ∀ r ∈ batch, (settle fails r).status = .completed) ∧
        (batch.filter fun r => publishFails fails r.id).length =
          (batch.filter fun r => (settle fails r).status != .completed).length) := by
  obtain ⟨batch, hget⟩ : ∃ batch, getUnreplayedEvents false 100 w.store = some batch := ⟨_, rfl⟩
  obtain ⟨-, hmem⟩ := getUnreplayedEvents_batch hget hnd
  have hstatus : ∀ r ∈ batch, ((settle fails r).status = .completed ↔
      publishFails fails r.id = false ∧ fails (.markCompleted r.id) = false) := fun r hr =>
    settle_status_completed fun h => by simpa [OrderEvent.unreplayed, h] using (hmem r hr).2
  have hrun := replayFailedEvents_eq fails w hfetch hnd hget
  refine ⟨batch, hget, fun r hr => ⟨?_, hstatus r hr⟩, by rw [hrun], fun hc => ?_⟩
  · rw [hrun]
    exact List.mem_map.2 ⟨r, (hmem r hr).1, by simp [List.mem_map_of_mem (·.id) hr]⟩
  · have hfail : ∀ r ∈ batch, publishFails fails r.id = ((settle fails r).status != .completed) :=
      fun r hr => by cases h : publishFails fails r.id <;> simp [hstatus r hr, hc r hr, h]
    rw [← List.filter_congr hfail, hrun]
    refine ⟨?_, rfl⟩
    have hall : (∀ r ∈ batch, (settle fails r).status = .completed) ↔
        ∀ r ∈ batch, ¬publishFails fails r.id = true :=
      forall₂_congr fun r hr => by simp [hstatus r hr, hc r hr]
    simp only [hall, List.length_pos, ne_eq, List.filter_eq_nil_iff]
    split <;> rename_i h <;> simpa using h

/-- The run at `capturedWorld` when the completion mark fails: its one record is published
and not completed, and the run reports no failure. -/
theorem replay_reports_failed_publishes_captured :
    markCompletedFails .fetchEvents = false ∧ (capturedWorld.store.events.map (·.id)).Nodup ∧
    ∃ batch, getUnreplayedEvents false 100 capturedWorld.store = some batch ∧
      (∀ r ∈ batch, settle markCompletedFails r ∈
          (replayFailedEvents markCompletedFails capturedWorld).2.store.events ∧
        ((settle markCompletedFails r).status = .completed ↔
          publishFails markCompletedFails r.id = false ∧ markCompletedFails (.markCompleted r.id) = false)) ∧
      (replayFailedEvents markCompletedFails capturedWorld).1 =
        (if 0 < (batch.filter fun r => publishFails markCompletedFails r.id).length then
          .error (.failures (batch.filter fun r => publishFails markCompletedFails r.id).length batch.length)
        else .ok ()) ∧
      ((∀ r ∈ batch, markCompletedFails (.markCompleted r.id) = false) →
        ((replayFailedEvents markCompletedFails capturedWorld).1 = .ok () ↔
          ∀ r ∈ batch, (settle markCompletedFails r).status = .completed) ∧
        (batch.filter fun r => publishFails markCompletedFails r.id).length =
          (batch.filter fun r => (settle markCompletedFails r).status != .completed).length) :=
  ⟨rfl, by decide, replay_reports_failed_publishes markCompletedFails capturedWorld rfl (by decide)⟩

/-- A run whose only failure is the completion mark of its one record returns `nil` and
leaves that record `replaying`, not `completed`. -/
theorem replay_ok_leaves_replaying :
    (replayFailedEvents markCompletedFails capturedWorld).1 = .ok () ∧
      strandedWorld.store.events.map (·.status) = [.replaying] :=
  ⟨rfl, by decide⟩

end OrderSaga.Analysis
