import OrderSaga.Model.System

/-!
# Envelopes on the main topics

Every publisher of the saga builds its envelope from fields it has checked.
`CreateOrder` and `CancelOrder` validate before they publish, and each handler copies
the identifying fields of an input that its own topic guarantees to be valid. So in every
run without a replay, each message under one of the five main topics decodes as that
topic's envelope type and passes its `Validate` (`wellFormed_of_run_without_replay`).

`ReplayFailedEvents` breaks this. It republishes every stored payload under
`order.created`, whichever dead-letter queue captured it, and a captured
`OrderCancelledEvent` decodes there with an empty id
(`replayed_cancellation_malformed`). The chain such a message starts dead-letters again,
so one replay can leave more records to replay than it found (`replay_grows_eligible`).
-/

set_option autoImplicit false

namespace OrderSaga.Analysis

open Events Persistence

/-! ## Well-formed messages -/

/-- The body decodes as `α` and the result passes `validate`. -/
def decodesValid {α : Type} (unmarshal : Body → Option α) (validate : α → Except String Unit)
    (body : Body) : Bool :=
  match unmarshal body with
  | some e => (validate e).toBool
  | none => false

/-- A message under a main topic decodes as the topic's envelope type and passes its
`Validate`; the dead-letter queues carry any body. -/
def wellFormed (m : Message) : Bool :=
  if m.topic = orderRequested then
    decodesValid OrderRequestedEvent.unmarshal OrderRequestedEvent.validate m.body
  else if m.topic = orderCreated then
    decodesValid OrderCreatedEvent.unmarshal OrderCreatedEvent.validate m.body
  else if m.topic = orderCancelled then
    decodesValid OrderCancelledEvent.unmarshal OrderCancelledEvent.validate m.body
  else if m.topic = inventoryStatusUpdated then
    decodesValid InventoryStatusUpdatedEvent.unmarshal InventoryStatusUpdatedEvent.validate m.body
  else if m.topic = notificationSent then
    decodesValid NotificationSentEvent.unmarshal NotificationSentEvent.validate m.body
  else true

/-- What a decoded, validated body gives the handler that reads it. -/
theorem validate_of_decodesValid {α : Type} {unmarshal : Body → Option α}
    {validate : α → Except String Unit} {body : Body} {e : α}
    (h : decodesValid unmarshal validate body = true) (he : unmarshal body = some e) :
    validate e = .ok () := by
  simp only [decodesValid, he] at h
  revert h
  cases validate e <;> simp [Except.toBool]

/-- A validated envelope, marshalled, decodes back and validates. -/
theorem decodesValid_marshal {α : Type} {unmarshal : Body → Option α}
    {validate : α → Except String Unit} {marshal : α → JsonValue}
    (roundTrip : ∀ e, unmarshal (.json (marshal e)) = some e) {e : α} (h : validate e = .ok ()) :
    decodesValid unmarshal validate (.json (marshal e)) = true := by
  simp [decodesValid, roundTrip, h, Except.toBool]

/-- Every message in flight is well formed. -/
def InFlightWellFormed (w : World) : Prop := ∀ m ∈ w.inFlight, wellFormed m = true

section Publish

variable {w w' : World} {err : Bool} {topic : String} {body : Body}

/-- A well-formed message appended keeps every message in flight well formed. -/
theorem InFlightWellFormed.append (hw : InFlightWellFormed w) (hm : wellFormed ⟨topic, body⟩ = true) :
    InFlightWellFormed { w with inFlight := w.inFlight ++ [⟨topic, body⟩] } := by
  simpa [InFlightWellFormed, or_imp, forall_and] using ⟨hw, hm⟩

/-- A successful publish of a well-formed message keeps the invariant. -/
theorem InFlightWellFormed.publish (hw : InFlightWellFormed w) (hm : wellFormed ⟨topic, body⟩ = true)
    (h : w.publish err topic body = some w') : InFlightWellFormed w' :=
  World.publish_eq_some h ▸ hw.append hm

/-- A publish of a well-formed message keeps the invariant, whether it succeeds or fails. -/
theorem InFlightWellFormed.publish_getD (hw : InFlightWellFormed w)
    (hm : wellFormed ⟨topic, body⟩ = true) : InFlightWellFormed ((w.publish err topic body).getD w) := by
  cases h : w.publish err topic body with
  | none => exact hw
  | some w' => exact hw.publish hm h

/-- A retry loop that succeeds with a well-formed message keeps the invariant. -/
theorem InFlightWellFormed.publishWithRetry {fails : Nat → Bool} {a n : Nat}
    (hw : InFlightWellFormed w) (hm : wellFormed ⟨topic, body⟩ = true)
    (h : w.publishWithRetry fails topic body a n = some w') : InFlightWellFormed w' :=
  World.publishWithRetry_eq_some h ▸ hw.append hm

/-- A dead-letter send keeps the invariant: its queue is not a main topic. -/
theorem InFlightWellFormed.sendToDLQ {fails : Faults} {queue : String} (hw : InFlightWellFormed w)
    (hq : wellFormed ⟨queue, body⟩ = true) : InFlightWellFormed (w.sendToDLQ fails queue body) := by
  rcases World.sendToDLQ_cases fails queue body w with h | h <;> rw [h]
  · exact hw
  · exact hw.append hq

end Publish

section Envelopes

/-- A validated `OrderRequestedEvent` under order.requested is well formed. -/
theorem wellFormed_orderRequested {e : OrderRequestedEvent} (h : e.validate = .ok ()) :
    wellFormed ⟨orderRequested, .json e.marshal⟩ = true := by
  simpa [wellFormed] using decodesValid_marshal OrderRequestedEvent.unmarshal_marshal h

/-- A validated `OrderCreatedEvent` under order.created is well formed. -/
theorem wellFormed_orderCreated {e : OrderCreatedEvent} (h : e.validate = .ok ()) :
    wellFormed ⟨orderCreated, .json e.marshal⟩ = true := by
  simpa [wellFormed, orderCreated, orderRequested] using
    decodesValid_marshal OrderCreatedEvent.unmarshal_marshal h

/-- A validated `OrderCancelledEvent` under order.cancelled is well formed. -/
theorem wellFormed_orderCancelled {e : OrderCancelledEvent} (h : e.validate = .ok ()) :
    wellFormed ⟨orderCancelled, .json e.marshal⟩ = true := by
  simpa [wellFormed, orderCancelled, orderCreated, orderRequested] using
    decodesValid_marshal OrderCancelledEvent.unmarshal_marshal h

/-- A validated `InventoryStatusUpdatedEvent` under inventory.status.updated is well formed. -/
theorem wellFormed_inventoryStatusUpdated {e : InventoryStatusUpdatedEvent} (h : e.validate = .ok ()) :
    wellFormed ⟨inventoryStatusUpdated, .json e.marshal⟩ = true := by
  simpa [wellFormed, inventoryStatusUpdated, orderCancelled, orderCreated, orderRequested] using
    decodesValid_marshal InventoryStatusUpdatedEvent.unmarshal_marshal h

/-- A validated `NotificationSentEvent` under notification.sent is well formed. -/
theorem wellFormed_notificationSent {e : NotificationSentEvent} (h : e.validate = .ok ()) :
    wellFormed ⟨notificationSent, .json e.marshal⟩ = true := by
  simpa [wellFormed, notificationSent, inventoryStatusUpdated, orderCancelled, orderCreated,
    orderRequested] using decodesValid_marshal NotificationSentEvent.unmarshal_marshal h

/-- The dead-letter queues are not main topics. -/
theorem wellFormed_dlq (body : Body) :
    wellFormed ⟨"order.created.dlq", body⟩ = true ∧ wellFormed ⟨"order.cancelled.dlq", body⟩ = true ∧
      wellFormed ⟨"inventory.status.updated.dlq", body⟩ = true := by
  simp [wellFormed, notificationSent, inventoryStatusUpdated, orderCancelled, orderCreated, orderRequested]

end Envelopes

/-! ## What each publisher keeps -/

/-- Both notification texts start with a fixed, non-empty text. -/
theorem getNotificationMessage_ne_empty (hasStock : Bool) (productID : String) :
    InventoryStatusUpdatedEventHandler.getNotificationMessage hasStock productID ≠ "" := by
  have append_ne : ∀ s t : String, s ≠ "" → s ++ t ≠ "" := by
    rintro ⟨s⟩ ⟨t⟩ hs h
    obtain ⟨rfl, -⟩ : s = [] ∧ t = [] := by simpa using congrArg String.data h
    exact hs rfl
  unfold InventoryStatusUpdatedEventHandler.getNotificationMessage
  split <;> exact append_ne _ _ (by decide)

section Handlers

variable (fails : Faults) (body : Body) {w : World}

/-- The order.requested handler publishes only an `OrderCreatedEvent` built from the identifiers it
validated, so it keeps the invariant whatever body it reads. -/
theorem orderRequested_inFlightWellFormed (hw : InFlightWellFormed w) :
    InFlightWellFormed (OrderRequestedEventHandler.handle fails body w) := by
  unfold OrderRequestedEventHandler.handle OrderRequestedEventHandler.publishOrderCreatedEvent
  split
  · exact hw
  · rename_i e _
    split
    · exact hw
    · rename_i hv
      obtain ⟨hid, hpid, -⟩ := (OrderRequestedEvent.validate_eq_ok e).1 hv
      dsimp only
      split
      · exact hw
      · rename_i orderID orders hc
        obtain rfl := createOrder_id hc
        split
        · rename_i hp
          have hcreated : (⟨e.id, e.product, e.amount, "Processing", 1⟩ : OrderCreatedEvent).validate =
              .ok () := (OrderCreatedEvent.validate_eq_ok _).2 ⟨hid, hpid, by simp⟩
          exact InFlightWellFormed.publishWithRetry (show InFlightWellFormed { w with orders } from hw)
            (wellFormed_orderCreated hcreated) hp
        · split <;> exact hw

/-- The notification.sent handler publishes nothing. -/
theorem notificationSent_inFlightWellFormed (hw : InFlightWellFormed w) :
    InFlightWellFormed (NotificationSentEventHandler.handle fails body w) := by
  unfold NotificationSentEventHandler.handle
  repeat' split
  all_goals exact hw

/-- The order.created handler, reading a well-formed body, publishes an
`InventoryStatusUpdatedEvent` with the order and product ids it read, which validate, or dead-
letters the body. -/
theorem orderCreated_inFlightWellFormed (hw : InFlightWellFormed w)
    (hb : wellFormed ⟨orderCreated, body⟩ = true) :
    InFlightWellFormed (OrderCreatedEventHandler.handle fails body w) := by
  have hq := (wellFormed_dlq body).1
  unfold OrderCreatedEventHandler.handle OrderCreatedEventHandler.sendToDLQ
  split
  · exact hw.sendToDLQ hq
  · rename_i e he
    have hv : e.validate = .ok () :=
      validate_of_decodesValid (by simpa [wellFormed, orderCreated, orderRequested] using hb) he
    obtain ⟨hid, hpid, -⟩ := (OrderCreatedEvent.validate_eq_ok e).1 hv
    have hisu : ∀ (hasStock : Bool) (w : World), InFlightWellFormed w →
        InFlightWellFormed (OrderCreatedEventHandler.publishInventoryStatusUpdated fails e.id e.product.id
          hasStock w) := fun _ _ hw =>
      hw.publish_getD (wellFormed_inventoryStatusUpdated ((InventoryStatusUpdatedEvent.validate_eq_ok _).2
        ⟨hid, hpid⟩))
    dsimp only
    repeat' split
    all_goals first
      | exact InFlightWellFormed.sendToDLQ hw hq
      | exact hisu _ _ hw
      | exact InFlightWellFormed.sendToDLQ (hisu _ _ hw) hq

/-- The order.cancelled handler publishes only to its dead-letter queue. -/
theorem orderCancelled_inFlightWellFormed (hw : InFlightWellFormed w) :
    InFlightWellFormed (OrderCancelledEventHandler.handle fails body w) := by
  have hq := (wellFormed_dlq body).2.1
  unfold OrderCancelledEventHandler.handle OrderCancelledEventHandler.sendToDLQ
  dsimp only
  repeat' split
  all_goals first | exact hw | exact InFlightWellFormed.sendToDLQ hw hq

/-- The inventory.status.updated handler, reading a well-formed body, publishes an
`OrderCancelledEvent` and a `NotificationSentEvent` for the order id it read, both of which
validate, or dead-letters the body. -/
theorem inventoryStatusUpdated_inFlightWellFormed (hw : InFlightWellFormed w)
    (hb : wellFormed ⟨inventoryStatusUpdated, body⟩ = true) :
    InFlightWellFormed (InventoryStatusUpdatedEventHandler.handle fails body w) := by
  have hq := (wellFormed_dlq body).2.2
  unfold InventoryStatusUpdatedEventHandler.handle InventoryStatusUpdatedEventHandler.sendToDLQ
  split
  · exact hw.sendToDLQ hq
  · rename_i e he
    have hv : e.validate = .ok () := validate_of_decodesValid
      (by simpa [wellFormed, inventoryStatusUpdated, orderCancelled, orderCreated, orderRequested] using hb) he
    obtain ⟨hid, -⟩ := (InventoryStatusUpdatedEvent.validate_eq_ok e).1 hv
    have hnote : ∀ w : World, InFlightWellFormed w →
        InFlightWellFormed (InventoryStatusUpdatedEventHandler.publishNotificationSent fails e body w) := by
      intro w hw
      unfold InventoryStatusUpdatedEventHandler.publishNotificationSent
        InventoryStatusUpdatedEventHandler.sendToDLQ
      dsimp only
      split
      · exact hw.sendToDLQ hq
      · exact hw.publish (wellFormed_notificationSent ((NotificationSentEvent.validate_eq_ok _).2
          ⟨hid, getNotificationMessage_ne_empty _ _⟩)) ‹_›
    split
    · exact hnote w hw
    · split
      · exact hw.sendToDLQ hq
      · rename_i hp
        exact hnote _ (hw.publish (wellFormed_orderCancelled
          ((OrderCancelledEvent.validate_eq_ok _).2 ⟨hid, by simp⟩)) hp)

/-- A capture publishes nothing. -/
theorem captureForReplay_inFlightWellFormed (orderIdOf : Body → Option String)
    (hw : InFlightWellFormed w) :
    InFlightWellFormed (DLQHandler.captureForReplay orderIdOf fails body w) := by
  unfold InFlightWellFormed
  rw [DLQHandler.captureForReplay_inFlight]
  exact hw

end Handlers

/-! ## Runs without a replay -/

/-- The action is a `ReplayFailedEvents` run. -/
def isReplay : Action → Bool
  | .replay _ => true
  | _ => false

/-- Every step but a replay keeps every message in flight well formed. -/
theorem step_inFlightWellFormed {w w' : World} {a : Action} (ha : isReplay a = false)
    (h : step w a = some w') (hw : InFlightWellFormed w) : InFlightWellFormed w' := by
  cases a with
  | replay fails => cases ha
  | createOrder order fails =>
    cases h
    unfold OrderService.createOrder
    dsimp only
    repeat' split
    all_goals try exact hw
    exact hw.publishWithRetry (wellFormed_orderRequested ‹_›) ‹_›
  | cancelOrder orderID fails =>
    cases h
    unfold OrderService.cancelOrder
    dsimp only
    repeat' split
    all_goals try exact hw
    exact hw.publishWithRetry (wellFormed_orderCancelled ‹_›) ‹_›
  | deliver i fails =>
    obtain ⟨m, handler, hm, hd, rfl⟩ := step_deliver_eq_some.1 h
    have hrest : InFlightWellFormed { w with inFlight := w.inFlight.eraseIdx i } :=
      fun m' hm' => hw m' (List.mem_of_mem_eraseIdx hm')
    have hmw : wellFormed ⟨m.topic, m.body⟩ = true := hw m (List.getElem?_mem hm)
    revert hmw
    exact dispatch_rec (P := fun topic handler => wellFormed ⟨topic, m.body⟩ = true →
        InFlightWellFormed (handler fails m.body { w with inFlight := w.inFlight.eraseIdx i }))
      (fun _ => orderRequested_inFlightWellFormed _ _ hrest)
      (orderCreated_inFlightWellFormed _ _ hrest)
      (fun _ => orderCancelled_inFlightWellFormed _ _ hrest)
      (inventoryStatusUpdated_inFlightWellFormed _ _ hrest)
      (fun _ => notificationSent_inFlightWellFormed _ _ hrest)
      (fun _ => captureForReplay_inFlightWellFormed _ _ _ hrest)
      (fun _ => captureForReplay_inFlightWellFormed _ _ _ hrest)
      (fun _ => captureForReplay_inFlightWellFormed _ _ _ hrest) hd

/-- A run without a replay keeps every message in flight well formed. -/
theorem inFlightWellFormed_run {w w' : World} {as : List Action} (has : ∀ a ∈ as, isReplay a = false)
    (hw : InFlightWellFormed w) (h : run w as = some w') : InFlightWellFormed w' := by
  induction as generalizing w with
  | nil => cases h; exact hw
  | cons a as ih =>
    simp only [run, Option.bind_eq_some] at h
    obtain ⟨w₁, h₁, h₂⟩ := h
    exact ih (fun a' ha' => has a' (List.mem_cons_of_mem _ ha'))
      (step_inFlightWellFormed (has a (List.mem_cons_self _ _)) h₁ hw) h₂

/-- In every state a run without a replay reaches from the initial state, every message
under a main topic decodes as that topic's envelope type and passes its `Validate`. -/
theorem wellFormed_of_run_without_replay (products : List Inventory.Product) (as : List Action)
    (has : ∀ a ∈ as, isReplay a = false) (w : World) (h : run (World.init products) as = some w) :
    ∀ m ∈ w.inFlight, wellFormed m = true :=
  inFlightWellFormed_run has (by simp [InFlightWellFormed, World.init]) h

/-- An order is requested and its order.requested message handled: the order.created
message then in flight is well formed. -/
def requestThenHandle : List Action :=
  [.createOrder ⟨"o1", 10, "Pending", ⟨"p1", "Laptop", 2⟩⟩ Faults.none, .deliver 0 Faults.none]

/-- The state `requestThenHandle` ends in. -/
def requestedWorld : World := (run (World.init [⟨"p1", 5, 0⟩]) requestThenHandle).getD (World.init [])

/-- After an order is requested and its order.requested message handled, every message in flight is
well formed. -/
theorem wellFormed_after_request :
    (∀ a ∈ requestThenHandle, isReplay a = false) ∧
      run (World.init [⟨"p1", 5, 0⟩]) requestThenHandle = some requestedWorld ∧
      ∀ m ∈ requestedWorld.inFlight, wellFormed m = true :=
  ⟨by decide, rfl, wellFormed_of_run_without_replay [⟨"p1", 5, 0⟩] requestThenHandle (by decide) requestedWorld rfl⟩

/-! ## What a replay publishes -/

/-- A cancellation of an order that does not exist: the order.cancelled handler cannot
find it and dead-letters the message, the capture stores it, and a replay republishes it
under `order.created`. -/
def cancelThenReplay : List Action :=
  [.cancelOrder "o1" Faults.none, .deliver 0 Faults.none, .deliver 0 Faults.none, .replay Faults.none]

/-- The state `cancelThenReplay` ends in. -/
def replayedWorld : World := (run (World.init [⟨"p1", 5, 0⟩]) cancelThenReplay).getD (World.init [])

/-- After `cancelThenReplay`, which no failure interrupts, an `order.created` message is in
flight that decodes with an empty id and so fails `OrderCreatedEvent.Validate`. -/
theorem replayed_cancellation_malformed :
    ∃ w, Reachable [⟨"p1", 5, 0⟩] w ∧ ∃ m ∈ w.inFlight, m.topic = orderCreated ∧
      (OrderCreatedEvent.unmarshal m.body).map (·.id) = some "" ∧ wellFormed m = false :=
  ⟨replayedWorld, reachable_run .init cancelThenReplay rfl, by decide⟩

/-- The records the next `GetUnreplayedEvents` may select. -/
def eligibleCount (s : EventStore) : Nat := (s.events.filter OrderEvent.unreplayed).length

/-- The failure-free deliveries that handle the replayed message and everything it leads
to, until nothing is in flight. -/
def drainReplay : List Action := [0, 1, 0, 0, 1, 0].map (.deliver · Faults.none)

/-- The state before the replay: the cancellation has been dead-lettered and captured. -/
def capturedWorld : World :=
  (run (World.init [⟨"p1", 5, 0⟩]) (cancelThenReplay.take 3)).getD (World.init [])

/-- A replay with no failure, from a reachable state with one eligible record and nothing
in flight, followed by failure-free deliveries until nothing is in flight, leaves two
eligible records. -/
theorem replay_grows_eligible :
    ∃ w, Reachable [⟨"p1", 5, 0⟩] w ∧ w.inFlight.isEmpty ∧ eligibleCount w.store = 1 ∧
      (run w (.replay Faults.none :: drainReplay)).any
        (fun w'' => w''.inFlight.isEmpty && eligibleCount w''.store == 2) = true :=
  ⟨capturedWorld, reachable_run .init (cancelThenReplay.take 3) rfl, by decide⟩

end OrderSaga.Analysis
