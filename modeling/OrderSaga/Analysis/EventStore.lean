import OrderSaga.Model.ReplayRuns
import OrderSaga.Analysis.Envelopes

/-!
# The event store under replay

A replay run selects the records that are `pending` or `failed` and not replayed, the
oldest first (`unreplayed_batch_oldest_first`), and settles each with unconditional `$set`
updates on its id. Record ids are fresh
(`IdsFresh`), so a mark on a record's id writes that record and no other. When runs do
not overlap, a step therefore changes a record only if it was eligible, and only into
`replaying`, `completed` (with `replayed = true`) or `failed`, and a replay publishes
only payloads of records eligible before it (`replay_writes_only_eligible`). If moreover
no completion or failure mark fails, every record stays completed or eligible
(`records_recoverable`).

Neither holds of the code as deployed. A failed `MarkEventAsCompleted` is only logged and
strands its record in `replaying`, which no later replay selects
(`replaying_record_stranded`); and two runs that fetch the same record both publish it,
the second moving it from `completed` back to `replaying`
(`completed_record_republished`).
-/

set_option autoImplicit false

namespace OrderSaga.Analysis

open Events Persistence OrderService

/-! ## Fresh ids -/

/-- Every record has its own id, below the clock: each insert takes the clock. -/
def IdsFresh (s : EventStore) : Prop := (s.events.map (·.id)).Nodup ∧ ∀ r ∈ s.events, r.id < s.clock

/-- An insert keeps ids fresh: the new record takes the clock, which then moves on. -/
theorem IdsFresh.insert {s : EventStore} (h : IdsFresh s) (orderID : String) (data : JsonValue)
    (status : EventStatus) : IdsFresh (s.insert orderID data status) := by
  obtain ⟨hnd, hlt⟩ := h
  refine ⟨?_, ?_⟩
  · simpa [EventStore.insert, List.nodup_append, hnd] using fun r hr => Nat.ne_of_lt (hlt r hr)
  · simp only [EventStore.insert, List.mem_append, List.mem_singleton]
    rintro r (hr | rfl)
    · exact Nat.lt_succ_of_lt (hlt r hr)
    · exact Nat.lt_succ_self _

/-- The records after a write on every record with id `k`. -/
def writeId (k : Nat) (f : OrderEvent → OrderEvent) (events : List OrderEvent) : List OrderEvent :=
  events.map fun r => if r.id = k then f r else r

/-- A mark on a record's id writes every record with that id, which is one at most. -/
theorem EventStore.setById_eq {s : EventStore} (hnd : (s.events.map (·.id)).Nodup) (k : Nat)
    (f : OrderEvent → OrderEvent) : s.setById k f = { s with events := writeId k f s.events } :=
  congrArg (fun events => { s with events }) (updateFirst_key_eq_map f (·.id) k s.events hnd)

section WriteId

variable {k : Nat} {f g : OrderEvent → OrderEvent}

/-- A write that keeps ids keeps the ids of the collection, in order. -/
theorem map_id_writeId (hf : ∀ r, (f r).id = r.id) (events : List OrderEvent) :
    (writeId k f events).map (·.id) = events.map (·.id) := by
  simp only [writeId, List.map_map]
  exact List.map_congr_left fun r _ => by by_cases h : r.id = k <;> simp [h, hf]

/-- Two writes on the same id are one write of their composite. -/
theorem writeId_writeId (hf : ∀ r, (f r).id = r.id) (events : List OrderEvent) :
    writeId k g (writeId k f events) = writeId k (g ∘ f) events := by
  simp only [writeId, List.map_map]
  exact List.map_congr_left fun r _ => by by_cases h : r.id = k <;> simp [h, hf]

end WriteId

/-! ## What a fetch returns -/

/-- Any two records are ordered by `createdAt`, for the sort of the fetch. -/
instance : IsTotal OrderEvent OrderEvent.createdBefore := ⟨fun a b => le_total a.createdAt b.createdAt⟩

/-- The `createdAt` order is transitive, for the sort of the fetch. -/
instance : IsTrans OrderEvent OrderEvent.createdBefore := ⟨fun _ _ _ => Nat.le_trans⟩

/-- What the marks of a replay make of a record it fetched: `completed` and replayed, or
`failed`; or, when a completion or failure mark fails, the record as it was or
`replaying`. -/
def ReplayMark (marksOk : Bool) (r r' : OrderEvent) : Prop :=
  r' = { r with status := .completed, replayed := true } ∨ r' = { r with status := .failed } ∨
    marksOk = false ∧ (r' = r ∨ r' = { r with status := .replaying })

/-- The completion and the failure mark of record `id` succeed. -/
def marksOk (fails : Faults) (id : Nat) : Bool := !fails (.markCompleted id) && !fails (.markFailed id)

/-- The message a replay publishes for a record. -/
def replayMessage (r : OrderEvent) : Message := ⟨orderCreated, .json r.eventData⟩

/-- A mark that fails writes nothing. -/
def markWith (err : Bool) (f : OrderEvent → OrderEvent) : OrderEvent → OrderEvent :=
  if err then id else f

/-- The world after a mark on record `k`, whether it fails or not. -/
theorem mark_getD {err : Bool} {w : World} (hnd : (w.store.events.map (·.id)).Nodup) (k : Nat)
    (f : OrderEvent → OrderEvent) :
    ((if err then none else some (w.store.setById k f)).map (fun store => { w with store })).getD w =
      { w with store := { w.store with events := writeId k (markWith err f) w.store.events } } := by
  cases err
  · simp [EventStore.setById_eq hnd, markWith]
  · simp [markWith, writeId]

/-- All three publish attempts of the replay of record `id` fail. -/
def publishFails (fails : Faults) (id : Nat) : Bool :=
  fails (.replayPublish id 1) && fails (.replayPublish id 2) && fails (.replayPublish id 3)

/-- The record a replay leaves for a record it fetched: marked `replaying`, then `failed`
when the publish fails and `completed` and replayed when it succeeds. A mark that fails
writes nothing. -/
def settle (fails : Faults) (r : OrderEvent) : OrderEvent :=
  let marked := markWith (fails (.markReplaying r.id)) ({ · with status := .replaying }) r
  if publishFails fails r.id then markWith (fails (.markFailed r.id)) ({ · with status := .failed }) marked
  else markWith (fails (.markCompleted r.id)) ({ · with status := .completed, replayed := true }) marked

/-- A mark keeps the record's id, whether it fails or not. -/
theorem markWith_id (err : Bool) {f : OrderEvent → OrderEvent} (hf : ∀ r, (f r).id = r.id)
    (r : OrderEvent) : (markWith err f r).id = r.id := by
  cases err <;> simp [markWith, hf]

/-- Settling a record keeps its id. -/
theorem settle_id (fails : Faults) (r : OrderEvent) : (settle fails r).id = r.id := by
  unfold settle markWith
  dsimp only
  split <;> split <;> split <;> rfl

/-- A write on id `k` depends only on what it does to records with that id. -/
theorem writeId_congr {k : Nat} {f g : OrderEvent → OrderEvent} (h : ∀ r, r.id = k → f r = g r)
    (events : List OrderEvent) : writeId k f events = writeId k g events :=
  List.map_congr_left fun r _ => by by_cases hr : r.id = k <;> simp [hr, h]

/-- The replay publish of a record publishes its payload unless all three attempts fail. -/
theorem replayPublish_eq (fails : Faults) (evt : OrderEvent) (w : World) :
    w.publishWithRetry (fun a => fails (.replayPublish evt.id a)) orderCreated
        (.json evt.eventData) 1 3 =
      if publishFails fails evt.id then none
      else some { w with inFlight := w.inFlight ++ [replayMessage evt] } := by
  have hne : (orderCreated == "") = false := rfl
  simp only [World.publishWithRetry, World.publish, publishFails, replayMessage, Nat.reduceAdd, hne,
    Bool.or_false]
  cases fails (.replayPublish evt.id 1) <;> cases fails (.replayPublish evt.id 2) <;>
    cases fails (.replayPublish evt.id 3) <;> rfl

/-- One record of the loop, exactly: the record with its id is settled, its payload is
published unless the publish fails, and it counts as a success when the payload is published
and the completion mark succeeds, as a failure when the publish fails. -/
theorem replayOne_eq (fails : Faults) (evt : OrderEvent) (w : World)
    (hnd : (w.store.events.map (·.id)).Nodup) :
    replayOne fails evt w = ({ w with
        store := { w.store with events := writeId evt.id (settle fails) w.store.events }
        inFlight := w.inFlight ++ if publishFails fails evt.id then [] else [replayMessage evt] },
      !publishFails fails evt.id && !fails (.markCompleted evt.id), publishFails fails evt.id) := by
  let rep : OrderEvent → OrderEvent := ({ · with status := .replaying })
  have hnd₁ : ((⟨w.orders, w.products, ⟨writeId evt.id (markWith (fails (.markReplaying evt.id)) rep)
      w.store.events, w.store.clock⟩, w.inFlight⟩ : World).store.events.map (·.id)).Nodup :=
    (map_id_writeId (markWith_id _ (f := rep) fun _ => rfl) w.store.events).symm ▸ hnd
  have hsettle : ∀ g : OrderEvent → OrderEvent, (∀ r, r.id = evt.id → g (markWith
      (fails (.markReplaying evt.id)) rep r) = settle fails r) →
      writeId evt.id g (writeId evt.id (markWith (fails (.markReplaying evt.id)) rep) w.store.events) =
        writeId evt.id (settle fails) w.store.events := fun g hg => by
    rw [writeId_writeId (f := markWith _ rep) (markWith_id _ (f := rep) fun _ => rfl)]
    exact writeId_congr hg _
  unfold replayOne markEventAsReplaying markEventAsCompleted markEventAsFailed
  dsimp only
  rw [mark_getD hnd, replayPublish_eq]
  cases hp : publishFails fails evt.id
  · cases hc : fails (.markCompleted evt.id)
    · simp only [Bool.false_eq_true, if_false, EventStore.setById_eq hnd₁]
      rw [hsettle _ fun r hr => by simp [settle, markWith, hr, hp, hc, rep]]
      simp
    · simp only [if_true, Bool.false_eq_true, if_false]
      rw [← hsettle id fun r hr => by simp [settle, markWith, hr, hp, hc, rep]]
      simp [writeId]
  · simp only [if_true, Option.map_none', Option.getD_none]
    rw [mark_getD hnd₁, hsettle _ fun r hr => by simp [settle, markWith, hr, hp, rep]]
    simp

/-- A replay mark keeps the record's id. -/
theorem ReplayMark.id_eq {ok : Bool} {r r' : OrderEvent} (h : ReplayMark ok r r') : r'.id = r.id := by
  rcases h with rfl | rfl | ⟨-, rfl | rfl⟩ <;> rfl

/-- The records after the marks of a batch: each record with an id of the batch rewritten. -/
def writeBatch (ids : List Nat) (G : OrderEvent → OrderEvent) (events : List OrderEvent) :
    List OrderEvent :=
  events.map fun r => if r.id ∈ ids then G r else r

/-- A write on an id outside the batch, then the batch's marks, is the batch's marks extended by
that id. -/
theorem writeBatch_writeId {k : Nat} {ids : List Nat} {G g : OrderEvent → OrderEvent} (hk : k ∉ ids)
    (hg : ∀ r, (g r).id = r.id) (events : List OrderEvent) :
    writeBatch ids G (writeId k g events) =
      writeBatch (k :: ids) (fun r => if r.id = k then g r else G r) events := by
  simp only [writeBatch, writeId, List.map_map]
  refine List.map_congr_left fun r _ => ?_
  by_cases h : r.id = k
  · simp [h, hg, hk]
  · simp [h]

/-- The loop over a batch with distinct ids, exactly: every record with an id of the batch is
settled, the payloads of the records whose publish succeeds are published in batch order, and
the counters grow by the number of successes and of failed publishes. -/
theorem replayLoop_eq (fails : Faults) (batch : List OrderEvent) (hb : (batch.map (·.id)).Nodup) :
    ∀ (w : World) (successCount failureCount : Nat), (w.store.events.map (·.id)).Nodup →
      replayLoop fails batch w successCount failureCount = ({ w with
          store := { w.store with events := writeBatch (batch.map (·.id)) (settle fails) w.store.events }
          inFlight := w.inFlight ++ (batch.filter fun r => !publishFails fails r.id).map replayMessage },
        successCount + (batch.filter fun r => !publishFails fails r.id && !fails (.markCompleted r.id)).length,
        failureCount + (batch.filter fun r => publishFails fails r.id).length) := by
  induction batch with
  | nil => intro w _ _ _; simp [replayLoop, writeBatch]
  | cons evt rest ih =>
    intro w sc fc hnd
    rw [List.map_cons, List.nodup_cons] at hb
    have hnd₁ : ((writeId evt.id (settle fails) w.store.events).map (·.id)).Nodup :=
      (map_id_writeId (settle_id fails) _).symm ▸ hnd
    simp only [replayLoop, replayOne_eq fails evt w hnd]
    rw [ih hb.2 _ _ _ hnd₁, writeBatch_writeId hb.1 (settle_id fails)]
    cases hp : publishFails fails evt.id <;> cases hc : fails (.markCompleted evt.id) <;>
      simp [List.filter_cons, hp, hc, Nat.add_assoc, Nat.add_comm 1]

/-- Whatever the store holds, one record of the loop publishes its payload unless its
publish fails, and nothing else. -/
theorem replayOne_inFlight (fails : Faults) (evt : OrderEvent) (w : World) :
    (replayOne fails evt w).1.inFlight =
      w.inFlight ++ if publishFails fails evt.id then [] else [replayMessage evt] := by
  unfold replayOne
  generalize hw₁ : ((markEventAsReplaying (fails (.markReplaying evt.id)) evt.id w.store).map
    fun store => { w with store }).getD w = w₁
  have h₁ : w₁.inFlight = w.inFlight := by
    rw [← hw₁]; cases markEventAsReplaying (fails (.markReplaying evt.id)) evt.id w.store <;> rfl
  dsimp only
  rw [replayPublish_eq]
  cases publishFails fails evt.id
  · simp only [Bool.false_eq_true, if_false]
    split <;> simp [h₁]
  · simp only [if_true]
    cases markEventAsFailed (fails (.markFailed evt.id)) evt.id w₁.store <;> simp [h₁]

/-- Whatever the store holds, the loop publishes the payloads of the records whose
publish succeeds, in batch order, and nothing else. -/
theorem replayLoop_inFlight (fails : Faults) (batch : List OrderEvent) :
    ∀ (w : World) (successCount failureCount : Nat),
      (replayLoop fails batch w successCount failureCount).1.inFlight =
        w.inFlight ++ (batch.filter fun r => !publishFails fails r.id).map replayMessage := by
  induction batch with
  | nil => intro w _ _; simp [replayLoop]
  | cons evt rest ih =>
    intro w sc fc
    simp only [replayLoop, ih, replayOne_inFlight, List.filter_cons]
    cases publishFails fails evt.id <;> simp

/-- A replay run publishes only under order.created. -/
theorem replayFailedEvents_inFlight (fails : Faults) (w : World) :
    ∃ published : List OrderEvent,
      (replayFailedEvents fails w).2.inFlight = w.inFlight ++ published.map replayMessage := by
  unfold replayFailedEvents
  split
  · exact ⟨[], by simp⟩
  · exact ⟨[], by simp⟩
  · exact ⟨_, replayLoop_inFlight fails _ w 0 0⟩

/-- The marks of a replay leave each record it settles as `ReplayMark` allows. -/
theorem settle_replayMark (fails : Faults) (r : OrderEvent) :
    ReplayMark (marksOk fails r.id) r (settle fails r) := by
  unfold settle marksOk ReplayMark
  cases publishFails fails r.id <;> cases fails (.markCompleted r.id) <;> cases fails (.markFailed r.id) <;>
    cases fails (.markReplaying r.id) <;> simp [markWith]

/-- The loop over a batch with distinct ids: the marks rewrite each record with an id of the
batch, and the payloads published are those of a sub-batch. -/
theorem replayLoop_effect (fails : Faults) (batch : List OrderEvent) (hb : (batch.map (·.id)).Nodup) :
    ∀ (w : World) (successCount failureCount : Nat), (w.store.events.map (·.id)).Nodup →
      ∃ (G : OrderEvent → OrderEvent) (published : List OrderEvent),
        (∀ r, r.id ∈ batch.map (·.id) → ReplayMark (marksOk fails r.id) r (G r)) ∧
        published.Sublist batch ∧
        (replayLoop fails batch w successCount failureCount).1 = { w with
          store := { w.store with events := writeBatch (batch.map (·.id)) G w.store.events }
          inFlight := w.inFlight ++ published.map replayMessage } := fun w sc fc hnd =>
  ⟨settle fails, _, fun r _ => settle_replayMark fails r, List.filter_sublist _,
    by rw [replayLoop_eq fails batch hb w sc fc hnd]⟩

/-- `GetUnreplayedEvents` returns eligible records of the store, with distinct ids. -/
theorem getUnreplayedEvents_batch {err : Bool} {limit : Nat} {s : EventStore} {batch : List OrderEvent}
    (h : getUnreplayedEvents err limit s = some batch) (hnd : (s.events.map (·.id)).Nodup) :
    (batch.map (·.id)).Nodup ∧ ∀ evt ∈ batch, evt ∈ s.events ∧ evt.unreplayed = true := by
  have hperm := List.perm_insertionSort OrderEvent.createdBefore (s.events.filter OrderEvent.unreplayed)
  have hsub : batch.Sublist ((s.events.filter OrderEvent.unreplayed).insertionSort OrderEvent.createdBefore) := by
    unfold getUnreplayedEvents at h
    split at h
    · cases h
    · split at h <;> cases h
      exacts [List.Sublist.refl _, List.take_sublist _ _]
  refine ⟨((hperm.map _).nodup_iff.2 (hnd.sublist ((List.filter_sublist _).map _))).sublist
    (hsub.map _), fun evt hevt => ?_⟩
  simpa using hperm.subset (hsub.subset hevt)

/-- One `ReplayFailedEvents` run: it fetches a batch of eligible records with distinct ids,
its marks rewrite exactly the records of the batch, and it publishes the payloads of a
sub-batch. -/
theorem replayFailedEvents_effect (fails : Faults) (w : World)
    (hnd : (w.store.events.map (·.id)).Nodup) :
    ∃ (batch : List OrderEvent) (G : OrderEvent → OrderEvent) (published : List OrderEvent),
      (batch.map (·.id)).Nodup ∧ (∀ evt ∈ batch, evt ∈ w.store.events ∧ evt.unreplayed = true) ∧
      (∀ r, r.id ∈ batch.map (·.id) → ReplayMark (marksOk fails r.id) r (G r)) ∧
      published.Sublist batch ∧
      (replayFailedEvents fails w).2 = { w with
        store := { w.store with events := writeBatch (batch.map (·.id)) G w.store.events }
        inFlight := w.inFlight ++ published.map replayMessage } := by
  unfold replayFailedEvents
  split
  · exact ⟨[], id, [], by simp, by simp, by simp, .slnil, by simp [writeBatch]⟩
  · exact ⟨[], id, [], by simp, by simp, by simp, .slnil, by simp [writeBatch]⟩
  · rename_i batch _ hfetch
    obtain ⟨hb, hmem⟩ := getUnreplayedEvents_batch hfetch hnd
    obtain ⟨G, published, hG, hsub, hw⟩ := replayLoop_effect fails batch hb w 0 0 hnd
    exact ⟨batch, G, published, hb, hmem, hG, hsub, hw⟩

/-- What marks that succeed leave, marks that may fail leave too. -/
theorem ReplayMark.weaken {ok : Bool} {r r' : OrderEvent} (h : ReplayMark ok r r') : ReplayMark false r r' := by
  rcases h with h | h | ⟨-, h⟩
  · exact .inl h
  · exact .inr (.inl h)
  · exact .inr (.inr ⟨rfl, h⟩)

/-- Marks that keep ids keep the ids of the collection, in order. -/
theorem map_id_writeBatch {ids : List Nat} {G : OrderEvent → OrderEvent}
    (hG : ∀ r, r.id ∈ ids → (G r).id = r.id) (events : List OrderEvent) :
    (writeBatch ids G events).map (·.id) = events.map (·.id) := by
  simp only [writeBatch, List.map_map]
  exact List.map_congr_left fun r _ => by by_cases h : r.id ∈ ids <;> simp [h, hG]

/-! ## Steps of the system -/

/-- The event store is unchanged, or one `failed` record is inserted. -/
def InsertsFailed (s s' : EventStore) : Prop := s' = s ∨ ∃ orderID data, s' = s.insert orderID data .failed

/-- `StoreEventForReplay` inserts one `failed` record, or nothing when it fails. -/
theorem storeEventForReplay_insertsFailed {err : Bool} {orderID : String} {body : Body}
    {s s' : EventStore} (h : storeEventForReplay err orderID body s = some s') : InsertsFailed s s' := by
  unfold storeEventForReplay at h
  split at h
  · cases h
  · split at h
    · cases h
    · cases h; exact .inr ⟨_, _, rfl⟩

/-- The order.requested handler inserts at most one `failed` record: the order.created event its
publish could not send. -/
theorem orderRequested_insertsFailed (fails : Faults) (body : Body) (w : World) :
    InsertsFailed w.store (OrderRequestedEventHandler.handle fails body w).store := by
  unfold OrderRequestedEventHandler.handle OrderRequestedEventHandler.publishOrderCreatedEvent
  dsimp only
  repeat' split
  all_goals first
    | exact .inl rfl
    | exact storeEventForReplay_insertsFailed ‹_›
    | (rename_i hp; exact .inl (by rw [World.publishWithRetry_eq_some hp]))

/-- A capture inserts at most one `failed` record. -/
theorem captureForReplay_insertsFailed (orderIdOf : Body → Option String) (fails : Faults) (body : Body)
    (w : World) : InsertsFailed w.store (DLQHandler.captureForReplay orderIdOf fails body w).store := by
  unfold DLQHandler.captureForReplay
  split
  · exact storeEventForReplay_insertsFailed ‹_›
  · exact .inl rfl

/-- A step is a replay run, or it leaves the event store as it was or inserts one `failed`
record. -/
theorem step_store_cases {w w' : World} {a : Action} (h : step w a = some w') :
    (∃ fails, a = .replay fails ∧ w' = (replayFailedEvents fails w).2) ∨ InsertsFailed w.store w'.store := by
  cases a with
  | createOrder order fails => cases h; exact .inr (.inl (OrderService.createOrder_store _ _ _))
  | cancelOrder orderID fails => cases h; exact .inr (.inl (OrderService.cancelOrder_store _ _ _))
  | replay fails => exact .inl ⟨fails, rfl, (Option.some.inj h).symm⟩
  | deliver i fails =>
    obtain ⟨m, handler, -, hd, rfl⟩ := step_deliver_eq_some.1 h
    refine .inr (dispatch_rec (P := fun _ handler =>
        InsertsFailed w.store (handler fails m.body { w with inFlight := w.inFlight.eraseIdx i }).store)
      (orderRequested_insertsFailed _ _ _) (.inl (OrderCreatedEventHandler.handle_store _ _ _))
      (.inl (OrderCancelledEventHandler.handle_store _ _ _))
      (.inl (InventoryStatusUpdatedEventHandler.handle_store _ _ _))
      (.inl (NotificationSentEventHandler.handle_store _ _ _))
      (captureForReplay_insertsFailed _ _ _ _) (captureForReplay_insertsFailed _ _ _ _)
      (captureForReplay_insertsFailed _ _ _ _) hd)

/-- Every step keeps record ids fresh: a replay only marks records, and every other step
inserts at most one record, under the clock. -/
theorem step_idsFresh {w w' : World} {a : Action} (hs : step w a = some w') (hids : IdsFresh w.store) :
    IdsFresh w'.store := by
  rcases step_store_cases hs with ⟨fails, rfl, rfl⟩ | hins
  · obtain ⟨batch, G, _, -, -, hG, -, hw⟩ := replayFailedEvents_effect fails _ hids.1
    have hmap := map_id_writeBatch (fun r hr => (hG r hr).id_eq) w.store.events
    rw [hw]
    have hlt := (List.forall_mem_map (f := OrderEvent.id) (P := (· < w.store.clock))).2 hids.2
    rw [← hmap] at hlt
    exact ⟨hmap ▸ hids.1, List.forall_mem_map.1 hlt⟩
  · rcases hins with h | ⟨orderID, data, h⟩ <;> rw [h]
    · exact hids
    · exact hids.insert _ _ _

/-- Every reachable state has fresh record ids. -/
theorem reachable_idsFresh {products : List Inventory.Product} {w : World} (h : Reachable products w) :
    IdsFresh w.store := by
  induction h with
  | init => exact ⟨by simp [World.init], by simp [World.init]⟩
  | step a _ hs ih => exact step_idsFresh hs ih

/-- An insert appends records that are eligible for the next fetch. -/
theorem InsertsFailed.events {s s' : EventStore} (h : InsertsFailed s s') :
    ∃ new, s'.events = s.events ++ new ∧ ∀ r ∈ new, r.unreplayed = true := by
  rcases h with rfl | ⟨orderID, data, rfl⟩
  · exact ⟨[], by simp, by simp⟩
  · exact ⟨_, rfl, by simp [OrderEvent.unreplayed]⟩

/-! ## What a step writes -/

/-- What a step may do to a record: leave it, or, if it was eligible, mark it as a replay
does. -/
def RecordWrite (r r' : OrderEvent) : Prop := r' = r ∨ r.unreplayed = true ∧ ReplayMark false r r'

/-- What a step may do to the records of the store: write each as `RecordWrite` allows, and
append eligible ones. -/
def StoreWrites (events events' : List OrderEvent) : Prop :=
  ∃ old new, events' = old ++ new ∧ List.Forall₂ RecordWrite events old ∧ ∀ r ∈ new, r.unreplayed = true

/-- A record whose id a replay fetched was eligible: ids are fresh, so it is the fetched
record itself. -/
theorem unreplayed_of_id_mem_batch {events batch : List OrderEvent} (hnd : (events.map (·.id)).Nodup)
    (hmem : ∀ evt ∈ batch, evt ∈ events ∧ evt.unreplayed = true) {r : OrderEvent} (hr : r ∈ events)
    (hid : r.id ∈ batch.map (·.id)) : r.unreplayed = true := by
  obtain ⟨evt, hevt, he⟩ := List.mem_map.1 hid
  obtain rfl := List.inj_on_of_nodup_map hnd (hmem evt hevt).1 hr he
  exact (hmem evt hevt).2

/-- The marks of a replay write, record by record, only the eligible records it fetched. -/
theorem forall₂_recordWrite_writeBatch {events batch : List OrderEvent} {G : OrderEvent → OrderEvent}
    {marksOk : Nat → Bool} (hnd : (events.map (·.id)).Nodup)
    (hmem : ∀ evt ∈ batch, evt ∈ events ∧ evt.unreplayed = true)
    (hG : ∀ r, r.id ∈ batch.map (·.id) → ReplayMark (marksOk r.id) r (G r)) :
    List.Forall₂ RecordWrite events (writeBatch (batch.map (·.id)) G events) := by
  rw [writeBatch, List.forall₂_map_right_iff, List.forall₂_same]
  intro r hr
  by_cases hid : r.id ∈ batch.map (·.id)
  · simp only [hid, if_true]
    exact .inr ⟨unreplayed_of_id_mem_batch hnd hmem hr hid, (hG r hid).weaken⟩
  · simp only [hid, if_false]
    exact .inl rfl

/-- Every step writes the store as `StoreWrites` allows. -/
theorem step_storeWrites {w w' : World} {a : Action} (hids : IdsFresh w.store) (h : step w a = some w') :
    StoreWrites w.store.events w'.store.events := by
  rcases step_store_cases h with ⟨fails, rfl, rfl⟩ | hins
  · obtain ⟨batch, G, _, -, hmem, hG, -, hw⟩ := replayFailedEvents_effect fails w hids.1
    rw [hw]
    exact ⟨_, [], (List.append_nil _).symm, forall₂_recordWrite_writeBatch hids.1 hmem hG, by simp⟩
  · obtain ⟨new, he, hnew⟩ := hins.events
    exact ⟨_, new, he, List.forall₂_same.2 fun _ _ => .inl rfl, hnew⟩

/-- A record that is not eligible survives a step's writes as it is. -/
theorem mem_of_forall₂_recordWrite {l l' : List OrderEvent} (h : List.Forall₂ RecordWrite l l')
    {r : OrderEvent} (hr : r ∈ l) (hu : r.unreplayed = false) : r ∈ l' := by
  induction h with
  | nil => exact hr
  | cons hab _ ih =>
    rcases List.mem_cons.1 hr with rfl | hr
    · rcases hab with rfl | ⟨hun, -⟩
      · exact List.mem_cons_self _ _
      · simp [hun] at hu
    · exact List.mem_cons_of_mem _ (ih hr)

/-- A record that is not eligible stays in the store, as it is, through every later run. -/
theorem mem_run_of_not_unreplayed {products : List Inventory.Product} {w : World}
    (hw : Reachable products w) {r : OrderEvent} (hr : r ∈ w.store.events) (hu : r.unreplayed = false)
    (as : List Action) {w' : World} (h : run w as = some w') : r ∈ w'.store.events := by
  induction as generalizing w with
  | nil => cases h; exact hr
  | cons a as ih =>
    simp only [run, Option.bind_eq_some] at h
    obtain ⟨w₁, h₁, h₂⟩ := h
    obtain ⟨old, new, he, hold, -⟩ := step_storeWrites (reachable_idsFresh hw) h₁
    exact ih (.step a hw h₁) (he ▸ List.mem_append_left _ (mem_of_forall₂_recordWrite hold hr hu)) h₂

/-- When runs do not overlap, a step writes a record only if it was eligible, and only as
a replay's marks do; it appends only eligible records; and a replay publishes the payloads
of records that were eligible when it started, each at most once. -/
theorem replay_writes_only_eligible (products : List Inventory.Product) (w : World)
    (hw : Reachable products w) (a : Action) (w' : World) (h : step w a = some w') :
    StoreWrites w.store.events w'.store.events ∧
      ∀ fails, a = .replay fails → ∃ published : List OrderEvent, (published.map (·.id)).Nodup ∧
        (∀ r ∈ published, r ∈ w.store.events ∧ r.unreplayed = true) ∧
        w'.inFlight = w.inFlight ++ published.map replayMessage := by
  have hids := reachable_idsFresh hw
  refine ⟨step_storeWrites hids h, fun fails ha => ?_⟩
  subst ha
  obtain ⟨batch, G, published, hb, hmem, -, hsub, hw'⟩ := replayFailedEvents_effect fails w hids.1
  cases h
  refine ⟨published, hb.sublist (hsub.map _), fun r hr => hmem r (hsub.subset hr), by rw [hw']⟩

/-- The replay of `capturedWorld`'s record, which no failure interrupts. -/
theorem replay_writes_only_eligible_captured :
    Reachable [⟨"p1", 5, 0⟩] capturedWorld ∧ step capturedWorld (.replay Faults.none) = some replayedWorld ∧
      StoreWrites capturedWorld.store.events replayedWorld.store.events ∧
      ∀ fails, Action.replay Faults.none = .replay fails → ∃ published : List OrderEvent,
        (published.map (·.id)).Nodup ∧
        (∀ r ∈ published, r ∈ capturedWorld.store.events ∧ r.unreplayed = true) ∧
        replayedWorld.inFlight = capturedWorld.inFlight ++ published.map replayMessage :=
  have hw : Reachable [⟨"p1", 5, 0⟩] capturedWorld := reachable_run .init (cancelThenReplay.take 3) rfl
  ⟨hw, rfl, replay_writes_only_eligible [⟨"p1", 5, 0⟩] capturedWorld hw (.replay Faults.none) replayedWorld rfl⟩

/-! ## Records stay recoverable -/

/-- Completed and replayed, or eligible for the next `GetUnreplayedEvents`. -/
def recoverable (r : OrderEvent) : Bool :=
  r.status == .completed && r.replayed || r.unreplayed

/-- No completion or failure mark of the step fails. -/
def marksSucceed : Action → Prop
  | .replay fails => ∀ id, marksOk fails id = true
  | _ => True

/-- A mark that succeeds leaves an eligible record recoverable. -/
theorem recoverable_of_replayMark {r r' : OrderEvent} (h : ReplayMark true r r') (hr : r.unreplayed = true) :
    recoverable r' = true := by
  rcases h with rfl | rfl | ⟨h, -⟩
  · rfl
  · simp only [OrderEvent.unreplayed, Bool.and_eq_true, Bool.not_eq_true'] at hr
    simp [recoverable, OrderEvent.unreplayed, hr.1]
  · cases h

/-- A step whose marks succeed keeps every record recoverable. -/
theorem step_recoverable {w w' : World} {a : Action} (hids : IdsFresh w.store) (ha : marksSucceed a)
    (hrec : ∀ r ∈ w.store.events, recoverable r = true) (h : step w a = some w') :
    ∀ r ∈ w'.store.events, recoverable r = true := by
  rcases step_store_cases h with ⟨fails, rfl, rfl⟩ | hins
  · obtain ⟨batch, G, _, -, hmem, hG, -, hw⟩ := replayFailedEvents_effect fails w hids.1
    rw [hw]
    intro r' hr'
    obtain ⟨r, hr, rfl⟩ := List.mem_map.1 hr'
    by_cases hid : r.id ∈ batch.map (·.id)
    · simp only [hid, if_true]
      exact recoverable_of_replayMark ((ha r.id) ▸ hG r hid) (unreplayed_of_id_mem_batch hids.1 hmem hr hid)
    · simpa [hid] using hrec r hr
  · obtain ⟨new, he, hnew⟩ := hins.events
    rw [he]
    intro r hr
    rcases List.mem_append.1 hr with hr | hr
    · exact hrec r hr
    · simp [recoverable, hnew r hr]

/-- A run whose replays' marks all succeed keeps every record recoverable. -/
theorem recoverable_run {products : List Inventory.Product} {as : List Action}
    (has : ∀ a ∈ as, marksSucceed a) {w w' : World} (hw : Reachable products w)
    (hrec : ∀ r ∈ w.store.events, recoverable r = true) (h : run w as = some w') :
    ∀ r ∈ w'.store.events, recoverable r = true := by
  induction as generalizing w with
  | nil => cases h; exact hrec
  | cons a as ih =>
    simp only [run, Option.bind_eq_some] at h
    obtain ⟨w₁, h₁, h₂⟩ := h
    exact ih (fun a' ha' => has a' (List.mem_cons_of_mem _ ha')) (.step a hw h₁)
      (step_recoverable (reachable_idsFresh hw) (has a (List.mem_cons_self _ _)) hrec h₁) h₂

/-- When runs do not overlap and no completion or failure mark fails, every record is
completed and replayed, or eligible for the next `GetUnreplayedEvents`, in every state. -/
theorem records_recoverable (products : List Inventory.Product) (as : List Action)
    (has : ∀ a ∈ as, marksSucceed a) (w : World) (h : run (World.init products) as = some w) :
    ∀ r ∈ w.store.events, recoverable r = true :=
  recoverable_run has .init (by simp [World.init]) h

/-- `cancelThenReplay`, which no failure interrupts, leaves its record completed. -/
theorem records_recoverable_after_replay :
    (∀ a ∈ cancelThenReplay, marksSucceed a) ∧
      run (World.init [⟨"p1", 5, 0⟩]) cancelThenReplay = some replayedWorld ∧
      ∀ r ∈ replayedWorld.store.events, recoverable r = true :=
  have has : ∀ a ∈ cancelThenReplay, marksSucceed a := by
    simp [cancelThenReplay, marksSucceed, marksOk, Faults.none]
  ⟨has, rfl, records_recoverable [⟨"p1", 5, 0⟩] cancelThenReplay has replayedWorld rfl⟩

/-- A completion mark that fails, and nothing else. -/
def markCompletedFails : Faults
  | .markCompleted _ => true
  | _ => false

/-- `capturedWorld`'s record replayed when its completion mark fails. -/
def strandedWorld : World := (replayFailedEvents markCompletedFails capturedWorld).2

/-- After a replay whose completion mark fails, the record is `replaying` and not
eligible, and it stays in the store as it is through every later run of steps. -/
theorem replaying_record_stranded :
    ∃ w, Reachable [⟨"p1", 5, 0⟩] w ∧ ∃ r ∈ w.store.events, r.status = .replaying ∧
      r.unreplayed = false ∧ ∀ as w', run w as = some w' → r ∈ w'.store.events := by
  have hw : Reachable [⟨"p1", 5, 0⟩] strandedWorld :=
    .step (.replay markCompletedFails) (reachable_run .init (cancelThenReplay.take 3) rfl) rfl
  obtain ⟨r, hr, hs, hu⟩ : ∃ r ∈ strandedWorld.store.events, r.status = .replaying ∧
      r.unreplayed = false := by decide
  exact ⟨strandedWorld, hw, r, hr, hs, hu, fun as _ h => mem_run_of_not_unreplayed hw hr hu as h⟩

/-! ## Runs that overlap -/

/-- An `order.created` payload, as a dead-letter capture stores it. -/
def capturedPayload : Body :=
  .json (⟨"o1", ⟨"p1", "Laptop", 2⟩, 10, "Processing", 1⟩ : OrderCreatedEvent).marshal

/-- The payload is captured; two runs start and both fetch its record before either marks
it; the first run then settles the record, and the second follows. No call fails. -/
def doubleReplay : List ReplayRuns.RunAction :=
  [.capture "o1" capturedPayload false, .start, .start, .advance 0 false, .advance 1 false,
    .advance 0 false, .advance 0 false, .advance 0 false,
    .advance 1 false, .advance 1 false, .advance 1 false]

/-- In `doubleReplay` the record is `completed` after the first run, the second run moves it
back to `replaying`, and in the end the one record's payload has been published twice. -/
theorem completed_record_republished :
    ((ReplayRuns.Runs.mk (World.init []) []).run (doubleReplay.take 8)).map
        (fun rs => rs.world.store.events.map (·.status)) = some [.completed] ∧
      ((ReplayRuns.Runs.mk (World.init []) []).run (doubleReplay.take 9)).map
        (fun rs => rs.world.store.events.map (·.status)) = some [.replaying] ∧
      ((ReplayRuns.Runs.mk (World.init []) []).run doubleReplay).map
        (fun rs => (rs.world.inFlight.map (·.topic), rs.world.store.events.length)) =
        some ([orderCreated, orderCreated], 1) := by
  decide

end OrderSaga.Analysis
