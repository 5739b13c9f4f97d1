import OrderSaga.Analysis.ReplayReport
import OrderSaga.Model.Api

/-!
# Draining the replay backlog

With no failed call, one `POST /replay-failed-events` fetches the oldest `min(100, n)` of
the `n` eligible records, republishes each of them once, oldest first, and marks each
`completed` and replayed; the records still eligible are those the batch left out, and the
route answers 200 "Replay complete" (`replayFailedEvents_none`,
`eligible_after_replay_none`). Record ids stay distinct, so `k` calls in a row, with no
other event between them, leave `n - 100 k` eligible records: `⌈n / 100⌉` calls clear the
backlog, and every call after that leaves the state as it is (`replay_drains_backlog`).

Between two calls, a delivery of a republished `order.created` message can store new
eligible records; this file says nothing about such runs.
-/

set_option autoImplicit false

namespace OrderSaga.Analysis

open Events Persistence OrderService

/-- The records `GetUnreplayedEvents` selects from, oldest first. -/
def eligibleOldestFirst (s : EventStore) : List OrderEvent :=
  (s.events.filter OrderEvent.unreplayed).insertionSort OrderEvent.createdBefore

/-- A fetch with a positive limit that does not fail returns the oldest `limit` eligible
records. -/
theorem getUnreplayedEvents_false {limit : Nat} (hlimit : limit ≠ 0) (s : EventStore) :
    getUnreplayedEvents false limit s = some ((eligibleOldestFirst s).take limit) := by
  simp [getUnreplayedEvents, hlimit, eligibleOldestFirst]

/-- The sorted records are the eligible ones, up to order. -/
theorem eligibleOldestFirst_perm (s : EventStore) :
    (eligibleOldestFirst s).Perm (s.events.filter OrderEvent.unreplayed) :=
  List.perm_insertionSort _ _

/-- Sorting keeps the record ids distinct. -/
theorem eligibleOldestFirst_nodup {s : EventStore} (hnd : (s.events.map (·.id)).Nodup) :
    ((eligibleOldestFirst s).map (·.id)).Nodup :=
  ((eligibleOldestFirst_perm s).map _).nodup_iff.2 (hnd.sublist ((List.filter_sublist _).map _))

/-- With no failure, the replay of a record marks it `completed` and replayed. -/
theorem settle_none (r : OrderEvent) :
    settle Faults.none r = { r with status := .completed, replayed := true } := rfl

/-- A record settled with no failure is no longer eligible. -/
theorem unreplayed_settle_none (r : OrderEvent) : (settle Faults.none r).unreplayed = false := rfl

/-- The records eligible after a batch is settled with no failure: those eligible before
whose id is not in the batch. -/
theorem filter_unreplayed_writeBatch (ids : List Nat) (events : List OrderEvent) :
    (writeBatch ids (settle Faults.none) events).filter OrderEvent.unreplayed =
      (events.filter OrderEvent.unreplayed).filter fun r => r.id ∉ ids := by
  induction events with
  | nil => rfl
  | cons r events ih =>
    simp only [writeBatch, List.map_cons] at ih ⊢
    by_cases h : r.id ∈ ids <;> cases hu : r.unreplayed <;>
      simp [List.filter_cons, h, hu, ih, unreplayed_settle_none]

/-- In a list with distinct ids, the records whose id is not among the first `n` are the
records after them. -/
theorem filter_id_not_mem_take {l : List OrderEvent} (hnd : (l.map (·.id)).Nodup) (n : Nat) :
    l.filter (fun r => r.id ∉ (l.take n).map (·.id)) = l.drop n := by
  rw [← List.take_append_drop n l, List.map_append, List.nodup_append] at hnd
  conv_lhs => rw [← List.take_append_drop n l]
  rw [List.filter_append, List.filter_eq_nil_iff.2 fun r hr => by simpa using List.mem_map_of_mem _ hr,
    List.filter_eq_self.2 fun r hr => by simpa using fun h => hnd.2.2 h (List.mem_map_of_mem _ hr)]
  rfl

/-- One replay call with no failure, on a store with distinct ids, exactly: it answers 200,
settles every record of the batch of the oldest hundred eligible records, and republishes
the whole batch in order. -/
theorem replayFailedEvents_none (w : World) (hnd : (w.store.events.map (·.id)).Nodup) :
    OrderController.replayFailedEvents Faults.none w =
      (⟨200, .status "Replay complete"⟩, { w with
        store := { w.store with
          events := writeBatch (((eligibleOldestFirst w.store).take 100).map (·.id)) (settle Faults.none)
            w.store.events }
        inFlight := w.inFlight ++ ((eligibleOldestFirst w.store).take 100).map replayMessage }) := by
  unfold OrderController.replayFailedEvents
  rw [replayFailedEvents_eq Faults.none w rfl hnd (getUnreplayedEvents_false (by decide) w.store)]
  simp [publishFails, Faults.none]

/-- After a replay call with no failure, the records still eligible are, up to order, the
eligible records the batch left out. -/
theorem eligible_after_replay_none (w : World) (hnd : (w.store.events.map (·.id)).Nodup) :
    ((OrderController.replayFailedEvents Faults.none w).2.store.events.filter OrderEvent.unreplayed).Perm
      ((eligibleOldestFirst w.store).drop 100) := by
  rw [replayFailedEvents_none w hnd, filter_unreplayed_writeBatch,
    ← filter_id_not_mem_take (eligibleOldestFirst_nodup hnd)]
  exact ((eligibleOldestFirst_perm w.store).filter _).symm

/-- A replay call with no failure keeps the record ids. -/
theorem replay_none_ids (w : World) (hnd : (w.store.events.map (·.id)).Nodup) :
    (OrderController.replayFailedEvents Faults.none w).2.store.events.map (·.id) =
      w.store.events.map (·.id) := by
  rw [replayFailedEvents_none w hnd]
  exact map_id_writeBatch (fun r _ => settle_id _ r) _

/-- A replay call with no failure leaves `n - 100` of `n` eligible records. -/
theorem eligible_count_replay_none (w : World) (hnd : (w.store.events.map (·.id)).Nodup) :
    ((OrderController.replayFailedEvents Faults.none w).2.store.events.filter OrderEvent.unreplayed).length =
      (w.store.events.filter OrderEvent.unreplayed).length - 100 := by
  rw [(eligible_after_replay_none w hnd).length_eq, List.length_drop, (eligibleOldestFirst_perm _).length_eq]

/-- `k` replay calls in a row with no failure leave `n - 100 k` of `n` eligible records. -/
theorem eligible_count_replays_none (k : Nat) :
    ∀ w : World, (w.store.events.map (·.id)).Nodup →
      ((Nat.iterate (fun w => (OrderController.replayFailedEvents Faults.none w).2) k w).store.events.filter
        OrderEvent.unreplayed).length = (w.store.events.filter OrderEvent.unreplayed).length - 100 * k := by
  induction k with
  | zero => intro w _; rfl
  | succ k ih =>
    intro w hnd
    rw [Function.iterate_succ_apply, ih _ ((replay_none_ids w hnd).symm ▸ hnd),
      eligible_count_replay_none w hnd]
    omega

/-- With no failed call, `POST /replay-failed-events` from a state whose records have
distinct ids (every reachable state has them) answers 200 "Replay complete"; it republishes
the oldest `min(100, n)` of the `n` eligible records, oldest first, marks each of them
`completed` and replayed, changes no other record, and leaves eligible exactly the others.
So `k` calls in a row leave `n - 100 k` eligible records: `⌈n / 100⌉` calls clear the
backlog, and once no record is eligible a call leaves the state as it is. -/
theorem replay_drains_backlog (w : World) (hnd : (w.store.events.map (·.id)).Nodup) :
    (OrderController.replayFailedEvents Faults.none w).1 = ⟨200, .status "Replay complete"⟩ ∧
    (OrderController.replayFailedEvents Faults.none w).2.inFlight =
      w.inFlight ++ ((eligibleOldestFirst w.store).take 100).map replayMessage ∧
    (OrderController.replayFailedEvents Faults.none w).2.store.events = w.store.events.map (fun r =>
      if r.id ∈ ((eligibleOldestFirst w.store).take 100).map (·.id) then
        { r with status := .completed, replayed := true } else r) ∧
    ((OrderController.replayFailedEvents Faults.none w).2.store.events.filter OrderEvent.unreplayed).Perm
      ((eligibleOldestFirst w.store).drop 100) ∧
    (∀ k, ((Nat.iterate (fun w => (OrderController.replayFailedEvents Faults.none w).2) k w).store.events.filter
      OrderEvent.unreplayed).length = (w.store.events.filter OrderEvent.unreplayed).length - 100 * k) ∧
    (w.store.events.filter OrderEvent.unreplayed = [] →
      OrderController.replayFailedEvents Faults.none w = (⟨200, .status "Replay complete"⟩, w)) := by
  refine ⟨by rw [replayFailedEvents_none w hnd], by rw [replayFailedEvents_none w hnd],
    by rw [replayFailedEvents_none w hnd]; rfl, eligible_after_replay_none w hnd,
    fun k => eligible_count_replays_none k w hnd, fun hnone => ?_⟩
  have hbatch : eligibleOldestFirst w.store = [] := by
    rw [eligibleOldestFirst, hnone]
    rfl
  rw [replayFailedEvents_none w hnd, hbatch]
  simp [writeBatch]

/-- The drain at `capturedWorld`, whose one record is eligible. -/
theorem replay_drains_backlog_captured :
    (capturedWorld.store.events.map (·.id)).Nodup ∧
    (OrderController.replayFailedEvents Faults.none capturedWorld).1 = ⟨200, .status "Replay complete"⟩ ∧
    (OrderController.replayFailedEvents Faults.none capturedWorld).2.inFlight =
      capturedWorld.inFlight ++ ((eligibleOldestFirst capturedWorld.store).take 100).map replayMessage ∧
    (OrderController.replayFailedEvents Faults.none capturedWorld).2.store.events =
      capturedWorld.store.events.map (fun r =>
        if r.id ∈ ((eligibleOldestFirst capturedWorld.store).take 100).map (·.id) then
          { r with status := .completed, replayed := true } else r) ∧
    ((OrderController.replayFailedEvents Faults.none capturedWorld).2.store.events.filter
      OrderEvent.unreplayed).Perm ((eligibleOldestFirst capturedWorld.store).drop 100) ∧
    (∀ k, ((Nat.iterate (fun w => (OrderController.replayFailedEvents Faults.none w).2) k
      capturedWorld).store.events.filter OrderEvent.unreplayed).length =
        (capturedWorld.store.events.filter OrderEvent.unreplayed).length - 100 * k) ∧
    (capturedWorld.store.events.filter OrderEvent.unreplayed = [] →
      OrderController.replayFailedEvents Faults.none capturedWorld =
        (⟨200, .status "Replay complete"⟩, capturedWorld)) :=
  have hnd : (capturedWorld.store.events.map (·.id)).Nodup := by decide
  ⟨hnd, replay_drains_backlog capturedWorld hnd⟩

end OrderSaga.Analysis
