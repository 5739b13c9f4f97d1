import OrderSaga.Analysis.Envelopes

/-!
# What a failed step leaves for replay

Three handlers own a dead-letter queue: order.created, order.cancelled and
inventory.status.updated. Each sends the original body there on its early returns, so
when that publish succeeds the body is dead-lettered unless the step's side effect was
done (`orderCreated_deadLettered`, `orderCancelled_deadLettered`); for
inventory.status.updated the step is its publishes, and the body is dead-lettered unless
they all succeed (`statusUpdated_deadLettered`). Delivering a dead-lettered body to the
queue's capture stores it as a `failed` record when it is JSON and the insert succeeds
(`deliver_deadLetter_stores`), and stores nothing when it is not (`deliver_deadLetter_malformed`).

The order.created handler's own `inventory.status.updated` publish is outside this: once
the order is confirmed, a failure of that publish is only logged, and nothing is left for
replay (`orderCreated_status_publish_lost`, `confirmed_status_publish_lost`), while every
other failure of the same handler, and of the inventory.status.updated handler's
publishes, dead-letters the message. The order.requested handler has no dead-letter
queue: it keeps the constructed order.created event for replay when all three publish
attempts fail (`orderRequested_stores_created`), and every earlier return leaves the
world as it was (`orderRequested_early_return`). The notification.sent handler only logs
its failures.
-/

set_option autoImplicit false

namespace OrderSaga.Analysis

open Events Persistence Inventory

/-- The step from `w` to `w'` published `body` on the dead-letter queue `queue`. -/
def DeadLettered (queue : String) (body : Body) (w w' : World) : Prop :=
  ∃ ms, w'.inFlight = w.inFlight ++ ms ∧ ⟨queue, body⟩ ∈ ms

/-- The step from `w` to `w'` only appended messages. -/
def Appends (w w' : World) : Prop := ∃ ms, w'.inFlight = w.inFlight ++ ms

/-- A dead-letter send whose publish succeeds dead-letters the body. -/
theorem deadLettered_sendToDLQ {fails : Faults} {queue : String} (hq : queue ≠ "")
    (hok : fails (.publish queue 1) = false) (body : Body) (w : World) :
    DeadLettered queue body w (w.sendToDLQ fails queue body) :=
  ⟨[⟨queue, body⟩], by simp [World.sendToDLQ, World.publish, hok, hq], List.mem_singleton_self _⟩

/-- A body dead-lettered after a step that only appended messages is dead-lettered by the two
together. -/
theorem DeadLettered.after {queue : String} {body : Body} {w w₁ w' : World} (h₁ : Appends w w₁)
    (h : DeadLettered queue body w₁ w') : DeadLettered queue body w w' := by
  obtain ⟨ms₁, h₁⟩ := h₁
  obtain ⟨ms, h, hm⟩ := h
  exact ⟨ms₁ ++ ms, by rw [h, h₁, List.append_assoc], List.mem_append_right _ hm⟩

/-- A publish only appends, whether it succeeds or fails. -/
theorem appends_publish_getD (err : Bool) (topic : String) (body : Body) (w : World) :
    Appends w ((w.publish err topic body).getD w) := by
  cases h : w.publish err topic body with
  | none => exact ⟨[], by simp⟩
  | some w' => exact ⟨_, congrArg World.inFlight (World.publish_eq_some h)⟩

/-! ## The handlers with a dead-letter queue -/

section DeadLetterQueues

variable (fails : Faults) (body : Body) (w : World)

/-- The order.created step's side effect is done: the stock is reserved and the order
confirmed. -/
def stockConfirmed : Prop :=
  ∃ e products orders, OrderCreatedEvent.unmarshal body = some e ∧
    checkAndReserveProduct (fails .reserveProduct) e.product.id e.product.quantity w.products =
      some (true, products) ∧
    updateOrder (fails .updateOrder) e.id { status := some "Confirmed" } w.orders = some orders

/-- The order.cancelled step's side effect is done: the order's quantity is released and
the order cancelled. -/
def orderReleased : Prop :=
  ∃ e order products orders, OrderCancelledEvent.unmarshal body = some e ∧
    getOrderByID (fails .getOrder) e.orderId w.orders = some (some order) ∧
    releaseReservedProduct (fails .releaseProduct) order.product.id order.product.quantity
      w.products = some products ∧
    updateOrder (fails .updateOrder) e.orderId { status := some "Cancelled" } w.orders = some orders

/-- The inventory.status.updated step is done: the body decodes, and its publishes succeed,
`order.cancelled` on a stock-out and then `notification.sent`. -/
def statusPublished : Prop :=
  ∃ e, InventoryStatusUpdatedEvent.unmarshal body = some e ∧
    (e.hasStock = false → fails (.publish orderCancelled 1) = false) ∧
    fails (.publish notificationSent 1) = false

/-- When the dead-letter publish succeeds, the order.created handler dead-letters the body unless it
reserved the stock and confirmed the order. -/
theorem orderCreated_deadLettered (hok : fails (.publish "order.created.dlq" 1) = false) :
    DeadLettered "order.created.dlq" body w (OrderCreatedEventHandler.handle fails body w) ∨
      stockConfirmed fails body w := by
  have hdlq := deadLettered_sendToDLQ (by decide) hok body
  unfold OrderCreatedEventHandler.handle OrderCreatedEventHandler.sendToDLQ
  dsimp only
  split
  · exact .inl (hdlq w)
  · rename_i e he
    split
    · exact .inl (hdlq w)
    · rename_i products hres
      split
      · exact .inl (hdlq _)
      · rename_i orders hupd
        exact .inr ⟨e, products, orders, he, hres, hupd⟩
    · exact .inl ((hdlq _).after (appends_publish_getD _ _ _ _))

/-- `GetOrderByID` reports a missing order as an error, never as a found `nil`. -/
theorem getOrderByID_ne_some_none (err : Bool) (id : String) (orders : List OrderDocument) :
    getOrderByID err id orders ≠ some none := by
  unfold getOrderByID
  split
  · simp
  · cases orders.find? (·.id == id) <;> simp

/-- When the dead-letter publish succeeds, the order.cancelled handler dead-letters the body unless
it released the order's quantity and cancelled the order. -/
theorem orderCancelled_deadLettered (hok : fails (.publish "order.cancelled.dlq" 1) = false) :
    DeadLettered "order.cancelled.dlq" body w (OrderCancelledEventHandler.handle fails body w) ∨
      orderReleased fails body w := by
  have hdlq := deadLettered_sendToDLQ (by decide) hok body
  unfold OrderCancelledEventHandler.handle OrderCancelledEventHandler.sendToDLQ
  dsimp only
  split
  · exact .inl (hdlq w)
  · rename_i e he
    split
    · exact .inl (hdlq w)
    · exact absurd ‹_› (getOrderByID_ne_some_none _ _ _)
    · rename_i order hget
      split
      · exact .inl (hdlq w)
      · rename_i products hrel
        split
        · exact .inl (hdlq _)
        · rename_i orders hupd
          exact .inr ⟨e, order, products, orders, he, hget, hrel, hupd⟩

/-- An order.cancelled message for an id that no order has is dead-lettered, whatever
fails: `GetOrderByID` reports the missing order as an error, so the handler's not-found
branch, which stops without dead-lettering, is never taken. -/
theorem orderCancelled_missing_order {e : OrderCancelledEvent}
    (he : OrderCancelledEvent.unmarshal body = some e) (hmiss : ∀ d ∈ w.orders, d.id ≠ e.orderId) :
    OrderCancelledEventHandler.handle fails body w = OrderCancelledEventHandler.sendToDLQ fails body w := by
  have hnone : getOrderByID (fails .getOrder) e.orderId w.orders = none := by
    unfold getOrderByID
    split
    · rfl
    · simpa using hmiss
  simp [OrderCancelledEventHandler.handle, he, hnone]

/-- When the dead-letter publish succeeds, the notification.sent publish of the
inventory.status.updated handler dead-letters the body unless it succeeds. -/
theorem publishNotificationSent_deadLettered
    (hok : fails (.publish "inventory.status.updated.dlq" 1) = false)
    (event : InventoryStatusUpdatedEvent) :
    DeadLettered "inventory.status.updated.dlq" body w
        (InventoryStatusUpdatedEventHandler.publishNotificationSent fails event body w) ∨
      fails (.publish notificationSent 1) = false := by
  unfold InventoryStatusUpdatedEventHandler.publishNotificationSent
    InventoryStatusUpdatedEventHandler.sendToDLQ
  dsimp only
  split
  · exact .inl (deadLettered_sendToDLQ (by decide) hok body w)
  · exact .inr (World.publish_eq_some_iff.1 ‹_›).1

/-- When the dead-letter publish succeeds, the inventory.status.updated handler dead-letters the
body unless it decodes and every publish of the step succeeds. -/
theorem statusUpdated_deadLettered
    (hok : fails (.publish "inventory.status.updated.dlq" 1) = false) :
    DeadLettered "inventory.status.updated.dlq" body w
        (InventoryStatusUpdatedEventHandler.handle fails body w) ∨
      statusPublished fails body := by
  unfold InventoryStatusUpdatedEventHandler.handle InventoryStatusUpdatedEventHandler.sendToDLQ
  split
  · exact .inl (deadLettered_sendToDLQ (by decide) hok body w)
  · rename_i e he
    split
    · rename_i hstock
      refine (publishNotificationSent_deadLettered fails body w hok e).imp id fun hn => ?_
      exact ⟨e, he, fun h => absurd hstock (by simp [h]), hn⟩
    · rename_i hstock
      split
      · exact .inl (deadLettered_sendToDLQ (by decide) hok body w)
      · rename_i w₁ hpub
        refine (publishNotificationSent_deadLettered fails body w₁ hok e).imp
          (·.after ⟨_, congrArg World.inFlight (World.publish_eq_some hpub)⟩) fun hn => ?_
        exact ⟨e, he, fun _ => (World.publish_eq_some_iff.1 hpub).1, hn⟩

end DeadLetterQueues

/-! ## The captures -/

/-- The three dead-letter queues, each consumed by its capture. -/
def deadLetterQueues : List String :=
  ["order.created.dlq", "order.cancelled.dlq", "inventory.status.updated.dlq"]

/-- A capture whose insert succeeds stores a JSON body as one `failed` record, under the order id
the body gives or `unknown`. -/
theorem captureForReplay_json (orderIdOf : Body → Option String) {fails : Faults}
    (hok : fails .storeEvent = false) (v : JsonValue) (w : World) :
    (DLQHandler.captureForReplay orderIdOf fails (.json v) w).store =
      w.store.insert ((orderIdOf (.json v)).getD "unknown") v .failed := by
  simp [DLQHandler.captureForReplay, storeEventForReplay, hok]

/-- Delivering a dead-lettered JSON body whose insert succeeds stores it as a `failed`
record. -/
theorem deliver_deadLetter_stores {w : World} {i : Nat} {queue : String} {v : JsonValue}
    (hq : queue ∈ deadLetterQueues) (hm : w.inFlight[i]? = some ⟨queue, .json v⟩) {fails : Faults}
    (hok : fails .storeEvent = false) :
    ∃ w', step w (.deliver i fails) = some w' ∧ ∃ orderID, w'.store = w.store.insert orderID v .failed := by
  simp only [deadLetterQueues, List.mem_cons, List.mem_singleton, List.not_mem_nil, or_false] at hq
  rcases hq with rfl | rfl | rfl <;>
    exact ⟨_, step_deliver_eq_some.2 ⟨_, _, hm, rfl, rfl⟩, _,
      captureForReplay_json _ hok v { w with inFlight := w.inFlight.eraseIdx i }⟩

/-- Delivering a dead-lettered body that is not JSON leaves the event store as it was,
whatever fails: `StoreEventForReplay` refuses bytes that `json.Valid` rejects. -/
theorem deliver_deadLetter_malformed {w : World} {i : Nat} {queue : String} {bytes : List UInt8}
    (hq : queue ∈ deadLetterQueues) (hm : w.inFlight[i]? = some ⟨queue, .malformed bytes⟩) (fails : Faults) :
    ∃ w', step w (.deliver i fails) = some w' ∧ w'.store = w.store := by
  simp only [deadLetterQueues, List.mem_cons, List.mem_singleton, List.not_mem_nil, or_false] at hq
  rcases hq with rfl | rfl | rfl <;>
    exact ⟨_, step_deliver_eq_some.2 ⟨_, _, hm, rfl, rfl⟩, rfl⟩

/-! ## order.requested -/

section OrderRequested

variable (fails : Faults) (body : Body) (w : World)

/-- When the order is stored and all three publish attempts fail, the handler keeps the
constructed order.created event for replay. -/
theorem orderRequested_stores_created (e : OrderRequestedEvent)
    (he : OrderRequestedEvent.unmarshal body = some e) (hv : e.validate = .ok ())
    (hcreate : fails .createOrder = false)
    (hpub : ∀ a < 3, fails (.publish orderCreated (a + 1)) = true) (hstore : fails .storeEvent = false) :
    (OrderRequestedEventHandler.handle fails body w).store =
      w.store.insert e.id (⟨e.id, e.product, e.amount, "Processing", 1⟩ : OrderCreatedEvent).marshal
        .failed := by
  have hretry : ∀ w₁ : World, w₁.publishWithRetry (fun a => fails (.publish orderCreated a))
      orderCreated (.json (⟨e.id, e.product, e.amount, "Processing", 1⟩ : OrderCreatedEvent).marshal)
      1 3 = none := by
    intro w₁
    cases h : w₁.publishWithRetry _ _ _ 1 3 with
    | none => rfl
    | some w₂ =>
      obtain ⟨⟨i, h1, h2, hi⟩, -⟩ := World.publishWithRetry_eq_some_iff.1 h
      obtain ⟨a, rfl⟩ : ∃ a, i = a + 1 := ⟨i - 1, by omega⟩
      simp [hpub a (by omega)] at hi
  simp [OrderRequestedEventHandler.handle, OrderRequestedEventHandler.publishOrderCreatedEvent, he, hv,
    createOrder, hcreate, hretry, storeEventForReplay, hstore]

/-- A body that does not decode or fails `Validate`, or a failed `CreateOrder`, leaves the
world as it was: nothing is dead-lettered or stored. -/
theorem orderRequested_early_return
    (h : ∀ e, OrderRequestedEvent.unmarshal body = some e →
      e.validate = .ok () → fails .createOrder = true) :
    OrderRequestedEventHandler.handle fails body w = w := by
  unfold OrderRequestedEventHandler.handle
  split
  · rfl
  · rename_i e he
    split
    · rfl
    · rename_i hv
      simp [createOrder, h e he hv]

end OrderRequested

/-! ## Every saga handler -/

/-- For the three handlers with a dead-letter queue and a body whose numbers Go reads as the
model does, when that publish succeeds the body is dead-lettered unless the step was done,
and delivering a dead-lettered JSON body to its capture stores it as a `failed` record when
the insert succeeds, while a body that is not JSON is refused and stores nothing. For such a
body the order.requested handler stores the constructed event when every publish attempt
fails, and returns with no trace when the body does not decode or fails `Validate` or
`CreateOrder` fails. -/
theorem failed_step_dead_lettered (fails : Faults) (body : Body) (w : World) :
    (body.numbersFit = true → fails (.publish "order.created.dlq" 1) = false →
      DeadLettered "order.created.dlq" body w (OrderCreatedEventHandler.handle fails body w) ∨
        stockConfirmed fails body w) ∧
    (body.numbersFit = true → fails (.publish "order.cancelled.dlq" 1) = false →
      DeadLettered "order.cancelled.dlq" body w (OrderCancelledEventHandler.handle fails body w) ∨
        orderReleased fails body w) ∧
    (body.numbersFit = true → fails (.publish "inventory.status.updated.dlq" 1) = false →
      DeadLettered "inventory.status.updated.dlq" body w
          (InventoryStatusUpdatedEventHandler.handle fails body w) ∨
        statusPublished fails body) ∧
    (∀ (w₀ : World) i queue v, queue ∈ deadLetterQueues → w₀.inFlight[i]? = some ⟨queue, .json v⟩ →
      fails .storeEvent = false →
      ∃ w', step w₀ (.deliver i fails) = some w' ∧ ∃ orderID, w'.store = w₀.store.insert orderID v .failed) ∧
    (∀ (w₀ : World) i queue bytes, queue ∈ deadLetterQueues → w₀.inFlight[i]? = some ⟨queue, .malformed bytes⟩ →
      ∃ w', step w₀ (.deliver i fails) = some w' ∧ w'.store = w₀.store) ∧
    (body.numbersFit = true → ∀ e, OrderRequestedEvent.unmarshal body = some e → e.validate = .ok () →
      fails .createOrder = false → (∀ a < 3, fails (.publish orderCreated (a + 1)) = true) →
      fails .storeEvent = false →
      (OrderRequestedEventHandler.handle fails body w).store =
        w.store.insert e.id (⟨e.id, e.product, e.amount, "Processing", 1⟩ : OrderCreatedEvent).marshal
          .failed) ∧
    (body.numbersFit = true → (∀ e, OrderRequestedEvent.unmarshal body = some e → e.validate = .ok () →
      fails .createOrder = true) → OrderRequestedEventHandler.handle fails body w = w) :=
  ⟨fun _ => orderCreated_deadLettered fails body w, fun _ => orderCancelled_deadLettered fails body w,
    fun _ => statusUpdated_deadLettered fails body w, fun _ _ _ _ hq hm hok => deliver_deadLetter_stores hq hm hok,
    fun _ _ _ _ hq hm => deliver_deadLetter_malformed hq hm fails,
    fun _ => orderRequested_stores_created fails body w, fun _ => orderRequested_early_return fails body w⟩

/-- Every call succeeds except the `inventory.status.updated` publish. -/
def statusPublishFails : Faults
  | .publish topic _ => topic == inventoryStatusUpdated
  | _ => false

/-- `requestedWorld`'s order.created message handled with `statusPublishFails`. -/
def lostWorld : World := (step requestedWorld (.deliver 0 statusPublishFails)).getD requestedWorld

/-- Once the order.created handler has reserved the stock and confirmed the order, a failed
`inventory.status.updated` publish leaves nothing behind: no message is dead-lettered or
published and nothing is stored, so the saga stops with the order confirmed. -/
theorem orderCreated_status_publish_lost {fails : Faults} {body : Body} {w : World} {e : OrderCreatedEvent}
    {products : List Inventory.Product} {orders : List OrderDocument}
    (he : OrderCreatedEvent.unmarshal body = some e)
    (hres : checkAndReserveProduct (fails .reserveProduct) e.product.id e.product.quantity w.products =
      some (true, products))
    (hupd : updateOrder (fails .updateOrder) e.id { status := some "Confirmed" } w.orders = some orders)
    (hpub : fails (.publish inventoryStatusUpdated 1) = true) :
    OrderCreatedEventHandler.handle fails body w = { w with products, orders } := by
  simp [OrderCreatedEventHandler.handle, OrderCreatedEventHandler.publishInventoryStatusUpdated,
    World.publish, he, hres, hupd, hpub]

/-- For every body whose numbers Go reads as the model does, every world and failure
pattern, once the stock is reserved and the order confirmed, a failed
`inventory.status.updated` publish is only logged: the handler's world is the reservation
and the confirmation and nothing else, with nothing dead-lettered and nothing stored. It
happens in a reachable state: a well-formed order.created message is the only one in
flight; its handler confirms the order, and the failed publish leaves nothing in flight and
nothing in the event store, though the dead-letter publish and the insert would succeed. -/
theorem confirmed_status_publish_lost :
    (∀ (fails : Faults) (body : Body) (w : World) (e : OrderCreatedEvent)
        (products : List Inventory.Product) (orders : List OrderDocument),
      body.numbersFit = true → OrderCreatedEvent.unmarshal body = some e →
      checkAndReserveProduct (fails .reserveProduct) e.product.id e.product.quantity w.products =
        some (true, products) →
      updateOrder (fails .updateOrder) e.id { status := some "Confirmed" } w.orders = some orders →
      fails (.publish inventoryStatusUpdated 1) = true →
      OrderCreatedEventHandler.handle fails body w = { w with products, orders }) ∧
    Reachable [⟨"p1", 5, 0⟩] requestedWorld ∧ requestedWorld.inFlight.map (·.topic) = [orderCreated] ∧
      requestedWorld.inFlight.all wellFormed = true ∧
      step requestedWorld (.deliver 0 statusPublishFails) = some lostWorld ∧
      lostWorld.orders.map (·.status) = ["Confirmed"] ∧ lostWorld.inFlight.isEmpty = true ∧
      lostWorld.store.events.isEmpty = true :=
  ⟨fun _ _ _ _ _ _ _ he hres hupd hpub => orderCreated_status_publish_lost he hres hupd hpub,
    reachable_run .init requestThenHandle rfl, by decide, by decide, rfl, by decide⟩

/-- Cancelling `"o1"` before any order exists: the order.cancelled step leaves the orders
and the products as they were but dead-letters the message, and the dead-letter capture
stores it as a `failed` record. -/
theorem missing_order_cancellation_dead_lettered :
    ((run (World.init [⟨"p1", 5, 0⟩]) (cancelThenReplay.take 2)).map fun w =>
        (w.orders, w.products, w.inFlight.map (·.topic))) =
      some ([], [⟨"p1", 5, 0⟩], ["order.cancelled.dlq"]) ∧
      capturedWorld.store.events.map (·.status) = [.failed] := by
  decide

end OrderSaga.Analysis
