import OrderSaga.Analysis.Api

/-!
# The quantities the saga reserves and releases

The order.created handler reserves the quantity of the body it decodes, and the
order.cancelled handler releases the quantity stored on the order. Every such quantity is
one the code checked, or zero. `CreateOrder` and the order.requested handler's `Validate`
refuse a quantity that is not positive; the other envelopes have no `product` member, so
decoded as an `OrderCreatedEvent` they carry the zero product; and dead-letter sends,
captures and replays move only bodies that were already in flight or stored.

So in every state the system model or the deployed program reaches, every body in flight
and every stored payload decodes as an `OrderCreatedEvent` with a quantity of at least 0,
and every stored order has a positive quantity (`saga_quantities_nonneg`). The saga never
hands MinInt64 to a `$inc`, and for every quantity it reserves or releases that fits an
`int`, Go's `-quantity` is the exact negation the model takes (`negInt_of_int64`).
-/

set_option autoImplicit false

namespace OrderSaga.Analysis

open Events Persistence Inventory

/-- The body decodes as an `OrderCreatedEvent`, if at all, with a product quantity of at
least 0: what the order.created handler would reserve for it is not negative. -/
def NonnegBody (b : Body) : Prop := ∀ e, OrderCreatedEvent.unmarshal b = some e → 0 ≤ e.product.quantity

/-- Every quantity the saga can still reserve or release is not negative. -/
structure QuantitiesNonneg (w : World) : Prop where
  /-- Every body in flight, on the dead-letter queues too. -/
  inFlight : ∀ m ∈ w.inFlight, NonnegBody m.body
  /-- Every stored payload, which a replay republishes under order.created. -/
  store : ∀ r ∈ w.store.events, NonnegBody (.json r.eventData)
  /-- Every stored order, whose quantity the order.cancelled handler releases. -/
  orders : ∀ o ∈ w.orders, 0 < o.product.quantity

/-- The initial state holds no message, no record and no order. -/
theorem quantitiesNonneg_init (products : List Inventory.Product) : QuantitiesNonneg (World.init products) :=
  ⟨by simp [World.init], by simp [World.init], by simp [World.init]⟩

/-! ## The envelopes, decoded as an `OrderCreatedEvent` -/

/-- A body that decodes to an event with a quantity of at least 0. -/
theorem nonnegBody_of_unmarshal {b : Body} {e : OrderCreatedEvent} (h : OrderCreatedEvent.unmarshal b = some e)
    (hq : 0 ≤ e.product.quantity) : NonnegBody b := fun _ he' =>
  Option.some.inj (h.symm.trans he') ▸ hq

/-- An `OrderCreatedEvent` with a quantity of at least 0 decodes back to itself. -/
theorem nonnegBody_orderCreated {e : OrderCreatedEvent} (h : 0 ≤ e.product.quantity) :
    NonnegBody (.json e.marshal) :=
  nonnegBody_of_unmarshal (OrderCreatedEvent.unmarshal_marshal e) h

/-- An `OrderRequestedEvent` is marshalled with the members of an `OrderCreatedEvent`. -/
theorem nonnegBody_orderRequested {e : OrderRequestedEvent} (h : 0 ≤ e.product.quantity) :
    NonnegBody (.json e.marshal) :=
  nonnegBody_orderCreated (e := ⟨e.id, e.product, e.amount, e.status, e.version⟩) h

/-- An `OrderCancelledEvent` decodes as an `OrderCreatedEvent` with the zero product: only
its `status` and `version` match a tag. -/
theorem nonnegBody_orderCancelled (e : OrderCancelledEvent) : NonnegBody (.json e.marshal) :=
  nonnegBody_of_unmarshal (e := { OrderCreatedEvent.zero with status := e.status, version := e.version })
    rfl le_rfl

/-- An `InventoryStatusUpdatedEvent` decodes as an `OrderCreatedEvent` with the zero
product: `productId` is not the tag `product`. -/
theorem nonnegBody_inventoryStatusUpdated (e : InventoryStatusUpdatedEvent) : NonnegBody (.json e.marshal) :=
  nonnegBody_of_unmarshal (e := { OrderCreatedEvent.zero with version := e.version }) rfl le_rfl

/-- A `NotificationSentEvent` decodes as an `OrderCreatedEvent` with the zero product. -/
theorem nonnegBody_notificationSent (e : NotificationSentEvent) : NonnegBody (.json e.marshal) :=
  nonnegBody_of_unmarshal (e := { OrderCreatedEvent.zero with version := e.version }) rfl le_rfl

/-! ## The writes that keep the invariant -/

section Writes

variable {w w' : World} {err : Bool} {topic : String} {body : Body}

/-- A product write keeps the invariant: it touches no message, record or order. -/
theorem QuantitiesNonneg.withProducts (hw : QuantitiesNonneg w) (products : List Inventory.Product) :
    QuantitiesNonneg { w with products } :=
  ⟨hw.inFlight, hw.store, hw.orders⟩

/-- A body appended in flight keeps the invariant when its quantity, if any, is at least 0. -/
theorem QuantitiesNonneg.append (hw : QuantitiesNonneg w) (hb : NonnegBody body) :
    QuantitiesNonneg { w with inFlight := w.inFlight ++ [⟨topic, body⟩] } :=
  ⟨List.forall_mem_append.2 ⟨hw.inFlight, List.forall_mem_singleton.2 hb⟩, hw.store, hw.orders⟩

/-- A successful publish of such a body keeps the invariant. -/
theorem QuantitiesNonneg.publish (hw : QuantitiesNonneg w) (hb : NonnegBody body)
    (h : w.publish err topic body = some w') : QuantitiesNonneg w' :=
  World.publish_eq_some h ▸ hw.append hb

/-- A publish of such a body keeps the invariant, whether it succeeds or fails. -/
theorem QuantitiesNonneg.publish_getD (hw : QuantitiesNonneg w) (hb : NonnegBody body) :
    QuantitiesNonneg ((w.publish err topic body).getD w) := by
  cases h : w.publish err topic body with
  | none => exact hw
  | some w' => exact hw.publish hb h

/-- A retry loop that succeeds with such a body keeps the invariant. -/
theorem QuantitiesNonneg.publishWithRetry {fails : Nat → Bool} {a n : Nat} (hw : QuantitiesNonneg w)
    (hb : NonnegBody body) (h : w.publishWithRetry fails topic body a n = some w') : QuantitiesNonneg w' :=
  World.publishWithRetry_eq_some h ▸ hw.append hb

/-- A dead-letter send of such a body keeps the invariant, whether it succeeds or fails. -/
theorem QuantitiesNonneg.sendToDLQ {fails : Faults} {queue : String} (hw : QuantitiesNonneg w)
    (hb : NonnegBody body) : QuantitiesNonneg (w.sendToDLQ fails queue body) := by
  rcases World.sendToDLQ_cases fails queue body w with h | h <;> rw [h]
  · exact hw
  · exact hw.append hb

/-- A stored payload is the body it was stored from. -/
theorem QuantitiesNonneg.storeEventForReplay {orderID : String} {store : EventStore} (hw : QuantitiesNonneg w)
    (hb : NonnegBody body) (h : storeEventForReplay err orderID body w.store = some store) :
    QuantitiesNonneg { w with store } := by
  cases body with
  | malformed => cases h
  | json v =>
    simp only [storeEventForReplay, Option.ite_none_left_eq_some, Option.some.injEq] at h
    obtain ⟨-, rfl⟩ := h
    exact ⟨hw.inFlight, List.forall_mem_append.2 ⟨hw.store, List.forall_mem_singleton.2 hb⟩, hw.orders⟩

/-- `UpdateOrder` writes no product. -/
theorem QuantitiesNonneg.updateOrder {id : String} {u : OrderUpdate} {orders : List OrderDocument}
    (hw : QuantitiesNonneg w) (h : updateOrder err id u w.orders = some orders) :
    QuantitiesNonneg { w with orders } := by
  simp only [Persistence.updateOrder, Option.ite_none_left_eq_some, Option.some.injEq] at h
  obtain ⟨-, rfl⟩ := h
  refine ⟨hw.inFlight, hw.store, fun o ho => ?_⟩
  have hmem : o.product ∈ w.orders.map (·.product) :=
    map_updateFirst _ u.apply (·.product) (fun _ => rfl) w.orders ▸ List.mem_map_of_mem _ ho
  obtain ⟨o', ho', he⟩ := List.mem_map.1 hmem
  exact he ▸ hw.orders o' ho'

/-- Inserting an order with a positive quantity keeps the invariant. -/
theorem QuantitiesNonneg.createOrder {order : OrderDocument} {id : String} {orders : List OrderDocument}
    (hw : QuantitiesNonneg w) (hq : 0 < order.product.quantity)
    (h : createOrder err order w.orders = some (id, orders)) : QuantitiesNonneg { w with orders } := by
  simp only [Persistence.createOrder, Option.ite_none_left_eq_some, Option.some.injEq, Prod.mk.injEq] at h
  obtain ⟨-, -, rfl⟩ := h
  exact ⟨hw.inFlight, hw.store, List.forall_mem_append.2 ⟨hw.orders, List.forall_mem_singleton.2 hq⟩⟩

end Writes

/-! ## Each handler -/

section Handlers

variable (fails : Faults) (body : Body) {w : World}

/-- The order.requested handler stores and publishes only the product of an event that passed
`Validate`, whose quantity is positive, whatever body it reads. -/
theorem orderRequested_quantitiesNonneg (hw : QuantitiesNonneg w) :
    QuantitiesNonneg (OrderRequestedEventHandler.handle fails body w) := by
  unfold OrderRequestedEventHandler.handle OrderRequestedEventHandler.publishOrderCreatedEvent
  split
  · exact hw
  · rename_i e _
    split
    · exact hw
    · rename_i hv
      obtain ⟨-, -, hq⟩ := (OrderRequestedEvent.validate_eq_ok e).1 hv
      dsimp only
      split
      · exact hw
      · rename_i orderID orders hc
        have hw' : QuantitiesNonneg { w with orders } := hw.createOrder hq hc
        have hb : NonnegBody (.json (⟨orderID, e.product, e.amount, "Processing", 1⟩ : OrderCreatedEvent).marshal) :=
          nonnegBody_orderCreated hq.le
        split
        · exact hw'.publishWithRetry hb ‹_›
        · split
          · exact hw'.storeEventForReplay hb ‹_›
          · exact hw'

/-- The notification.sent handler only writes notification fields. -/
theorem notificationSent_quantitiesNonneg (hw : QuantitiesNonneg w) :
    QuantitiesNonneg (NotificationSentEventHandler.handle fails body w) := by
  unfold NotificationSentEventHandler.handle
  repeat' split
  all_goals first | exact hw | exact hw.updateOrder ‹_›

/-- The order.created handler publishes an `InventoryStatusUpdatedEvent`, which has no product, or
dead-letters the body it read. -/
theorem orderCreated_quantitiesNonneg (hw : QuantitiesNonneg w) (hb : NonnegBody body) :
    QuantitiesNonneg (OrderCreatedEventHandler.handle fails body w) := by
  have hisu : ∀ (orderID productID : String) (hasStock : Bool) (w : World), QuantitiesNonneg w →
      QuantitiesNonneg (OrderCreatedEventHandler.publishInventoryStatusUpdated fails orderID productID hasStock w) :=
    fun _ _ _ _ hw => hw.publish_getD (nonnegBody_inventoryStatusUpdated _)
  unfold OrderCreatedEventHandler.handle OrderCreatedEventHandler.sendToDLQ
  dsimp only
  repeat' split
  all_goals first
    | exact hw.sendToDLQ hb
    | exact (hw.withProducts _).sendToDLQ hb
    | exact hisu _ _ _ _ ((hw.withProducts _).updateOrder ‹_›)
    | exact (hisu _ _ _ _ hw).sendToDLQ hb

/-- The order.cancelled handler writes a status or dead-letters the body it read. -/
theorem orderCancelled_quantitiesNonneg (hw : QuantitiesNonneg w) (hb : NonnegBody body) :
    QuantitiesNonneg (OrderCancelledEventHandler.handle fails body w) := by
  unfold OrderCancelledEventHandler.handle OrderCancelledEventHandler.sendToDLQ
  dsimp only
  repeat' split
  all_goals first
    | exact hw
    | exact hw.sendToDLQ hb
    | exact (hw.withProducts _).sendToDLQ hb
    | exact (hw.withProducts _).updateOrder ‹_›

/-- The inventory.status.updated handler publishes an `OrderCancelledEvent` and a
`NotificationSentEvent`, which have no product, or dead-letters the body it read. -/
theorem inventoryStatusUpdated_quantitiesNonneg (hw : QuantitiesNonneg w) (hb : NonnegBody body) :
    QuantitiesNonneg (InventoryStatusUpdatedEventHandler.handle fails body w) := by
  have hnote : ∀ (event : InventoryStatusUpdatedEvent) (w : World), QuantitiesNonneg w →
      QuantitiesNonneg (InventoryStatusUpdatedEventHandler.publishNotificationSent fails event body w) := by
    intro event w hw
    unfold InventoryStatusUpdatedEventHandler.publishNotificationSent InventoryStatusUpdatedEventHandler.sendToDLQ
    dsimp only
    split
    · exact hw.sendToDLQ hb
    · exact hw.publish (nonnegBody_notificationSent _) ‹_›
  unfold InventoryStatusUpdatedEventHandler.handle InventoryStatusUpdatedEventHandler.sendToDLQ
  repeat' split
  all_goals first
    | exact hw.sendToDLQ hb
    | exact hnote _ _ hw
    | exact hnote _ _ (hw.publish (nonnegBody_orderCancelled _) ‹_›)

/-- A capture stores the body it read. -/
theorem captureForReplay_quantitiesNonneg (orderIdOf : Body → Option String) (hw : QuantitiesNonneg w)
    (hb : NonnegBody body) : QuantitiesNonneg (DLQHandler.captureForReplay orderIdOf fails body w) := by
  unfold DLQHandler.captureForReplay
  split
  · exact hw.storeEventForReplay hb ‹_›
  · exact hw

end Handlers

/-! ## Steps and runs -/

/-- The marks of a replay keep a record's payload. -/
theorem ReplayMark.eventData_eq {ok : Bool} {r r' : OrderEvent} (h : ReplayMark ok r r') :
    r'.eventData = r.eventData := by
  rcases h with rfl | rfl | ⟨-, rfl | rfl⟩ <;> rfl

/-- A replay republishes stored payloads and keeps every payload it marks. -/
theorem replay_quantitiesNonneg (fails : Faults) {w : World} (hids : (w.store.events.map (·.id)).Nodup)
    (hw : QuantitiesNonneg w) : QuantitiesNonneg (OrderService.replayFailedEvents fails w).2 := by
  obtain ⟨batch, G, published, -, hmem, hG, hsub, hw'⟩ := replayFailedEvents_effect fails w hids
  rw [hw']
  refine ⟨List.forall_mem_append.2 ⟨hw.inFlight, List.forall_mem_map.2 fun r hr => ?_⟩,
    List.forall_mem_map.2 fun r hr => ?_, hw.orders⟩
  · exact hw.store r (hmem r (hsub.subset hr)).1
  · split
    · exact (hG r ‹_›).eventData_eq ▸ hw.store r hr
    · exact hw.store r hr

/-- Every step of the system model keeps the invariant. -/
theorem step_quantitiesNonneg {w w' : World} {a : Action} (hids : IdsFresh w.store) (h : step w a = some w')
    (hw : QuantitiesNonneg w) : QuantitiesNonneg w' := by
  cases a with
  | createOrder order fails =>
    cases h
    unfold OrderService.createOrder
    dsimp only
    repeat' split
    all_goals try exact hw
    exact hw.publishWithRetry (nonnegBody_orderRequested ((OrderRequestedEvent.validate_eq_ok _).1 ‹_›).2.2.le) ‹_›
  | cancelOrder orderID fails =>
    cases h
    unfold OrderService.cancelOrder
    dsimp only
    repeat' split
    all_goals try exact hw
    exact hw.publishWithRetry (nonnegBody_orderCancelled _) ‹_›
  | replay fails =>
    cases h
    exact replay_quantitiesNonneg fails hids.1 hw
  | deliver i fails =>
    obtain ⟨m, handler, hm, hd, rfl⟩ := step_deliver_eq_some.1 h
    have hrest : QuantitiesNonneg { w with inFlight := w.inFlight.eraseIdx i } :=
      ⟨fun m' hm' => hw.inFlight m' (List.mem_of_mem_eraseIdx hm'), hw.store, hw.orders⟩
    have hb := hw.inFlight m (List.getElem?_mem hm)
    exact dispatch_rec (P := fun _ handler =>
        QuantitiesNonneg (handler fails m.body { w with inFlight := w.inFlight.eraseIdx i }))
      (orderRequested_quantitiesNonneg _ _ hrest) (orderCreated_quantitiesNonneg _ _ hrest hb)
      (orderCancelled_quantitiesNonneg _ _ hrest hb) (inventoryStatusUpdated_quantitiesNonneg _ _ hrest hb)
      (notificationSent_quantitiesNonneg _ _ hrest) (captureForReplay_quantitiesNonneg _ _ _ hrest hb)
      (captureForReplay_quantitiesNonneg _ _ _ hrest hb) (captureForReplay_quantitiesNonneg _ _ _ hrest hb) hd

/-- Every event of the deployed program keeps record ids fresh and the invariant: a product
write touches neither. -/
theorem apiStep_quantitiesNonneg {w w' : World} {e : Event} (h : apiStep w e = some w')
    (hw : IdsFresh w.store ∧ QuantitiesNonneg w) : IdsFresh w'.store ∧ QuantitiesNonneg w' := by
  rcases apiStep_cases h with ⟨a, ha⟩ | ⟨pw, -, rfl⟩ | rfl
  · exact ⟨step_idsFresh ha hw.1, step_quantitiesNonneg hw.1 ha hw.2⟩
  · exact ⟨hw.1, hw.2.withProducts _⟩
  · exact hw

/-- In every state the system model reaches, and in every state the deployed program
reaches by events taken one at a time, every body in flight and every stored payload
decodes as an `OrderCreatedEvent`, if at all, with a quantity of at least 0, and every
stored order has a positive quantity. So every reservation the order.created handler makes
and every release the order.cancelled handler makes is of a quantity of at least 0. -/
theorem saga_quantities_nonneg (products : List Inventory.Product) (w : World)
    (h : Reachable products w ∨ ∃ allowed : World → Event → Prop, ApiReachable allowed products w) :
    (∀ m ∈ w.inFlight, ∀ e, OrderCreatedEvent.unmarshal m.body = some e → 0 ≤ e.product.quantity) ∧
      (∀ r ∈ w.store.events, ∀ e, OrderCreatedEvent.unmarshal (.json r.eventData) = some e →
        0 ≤ e.product.quantity) ∧
      ∀ o ∈ w.orders, 0 < o.product.quantity := by
  suffices hq : QuantitiesNonneg w from ⟨hq.inFlight, hq.store, hq.orders⟩
  rcases h with h | ⟨allowed, h⟩
  · induction h with
    | init => exact quantitiesNonneg_init products
    | step a hr hs ih => exact step_quantitiesNonneg (reachable_idsFresh hr) hs ih
  · suffices hq : IdsFresh w.store ∧ QuantitiesNonneg w from hq.2
    induction h with
    | init => exact ⟨reachable_idsFresh .init, quantitiesNonneg_init products⟩
    | step e _ _ hs ih => exact apiStep_quantitiesNonneg hs ih

/-- The invariant at the end of the stock-out trace of the system model. -/
theorem saga_quantities_nonneg_stockOut :
    (Reachable laptopStock stockOutWorld ∨
      ∃ allowed : World → Event → Prop, ApiReachable allowed laptopStock stockOutWorld) ∧
    (∀ m ∈ stockOutWorld.inFlight, ∀ e, OrderCreatedEvent.unmarshal m.body = some e → 0 ≤ e.product.quantity) ∧
      (∀ r ∈ stockOutWorld.store.events, ∀ e, OrderCreatedEvent.unmarshal (.json r.eventData) = some e →
        0 ≤ e.product.quantity) ∧
      ∀ o ∈ stockOutWorld.orders, 0 < o.product.quantity :=
  have h : Reachable laptopStock stockOutWorld ∨
      ∃ allowed : World → Event → Prop, ApiReachable allowed laptopStock stockOutWorld :=
    .inl reachable_stockOutWorld
  ⟨h, saga_quantities_nonneg laptopStock stockOutWorld h⟩

end OrderSaga.Analysis
