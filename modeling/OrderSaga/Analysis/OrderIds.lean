import OrderSaga.Analysis.EventStore

/-!
# Order ids

The `orders` collection has no unique index. `CreateOrder` inserts whatever id its
order.requested event carries, and every later write and read of an order (`UpdateOne`
and `FindOne` on `{"id": id}`) takes the first document with the id. What keeps ids
unique is the order controller, which gives each request a fresh UUID, together with
two facts of the code: only `OrderService.CreateOrder` publishes under
order.requested, and only the order.requested handler inserts orders, under the id of
the event it consumes.

So the ids a state holds, those of the stored orders and those the order.requested
messages in flight carry (`orderIds`), can only move from a message to the store or
disappear; a step adds one only when it is a `CreateOrder` call, and then its own
(`step_orderIds`). When every `CreateOrder` call uses an id the state does not hold, the
ids stay distinct (`orderIds_nodup_of_subperm`), and every update or lookup of an order by
its id reaches exactly that order (`orders_by_id`). The runs of the deployed program are
taken up in `OrderSaga.Analysis.Api`.
-/

set_option autoImplicit false

namespace OrderSaga.Analysis

open Events Persistence

/-- The id an order.requested message carries, when its body decodes. -/
def requestedId (m : Message) : Option String :=
  if m.topic = orderRequested then (OrderRequestedEvent.unmarshal m.body).map (·.id) else none

/-- The order ids a state holds: those of the stored orders, then those of the
order.requested messages in flight. -/
def orderIds (w : World) : List String :=
  w.orders.map (·.id) ++ w.inFlight.filterMap requestedId

/-- A message under another topic than order.requested carries no id. -/
theorem requestedId_of_ne {topic : String} (h : topic ≠ orderRequested) (body : Body) :
    requestedId ⟨topic, body⟩ = none := by
  simp [requestedId, h]

/-! ## Writes that keep the ids -/

section Keep

variable {w : World}

/-- A message under another topic than order.requested carries no order id. -/
theorem orderIds_append {topic : String} (h : topic ≠ orderRequested) (body : Body) :
    orderIds { w with inFlight := w.inFlight ++ [⟨topic, body⟩] } = orderIds w := by
  simp [orderIds, List.filterMap_append, requestedId_of_ne h]

/-- A publish under another topic than order.requested keeps the ids, whether it succeeds or fails. -/
theorem orderIds_publish_getD {err : Bool} {topic : String} (h : topic ≠ orderRequested) (body : Body) :
    orderIds ((w.publish err topic body).getD w) = orderIds w := by
  cases hp : w.publish err topic body with
  | none => rfl
  | some w' => rw [Option.getD_some, World.publish_eq_some hp, orderIds_append h]

/-- A dead-letter send keeps the ids: no dead-letter queue is order.requested. -/
theorem orderIds_sendToDLQ (fails : Faults) {queue : String} (h : queue ≠ orderRequested) (body : Body) :
    orderIds (w.sendToDLQ fails queue body) = orderIds w := by
  rcases World.sendToDLQ_cases fails queue body w with hs | hs <;> rw [hs]
  exact orderIds_append h body

/-- An `UpdateOrder` that succeeds keeps every order's id. -/
theorem orderIds_updateOrder {err : Bool} {id : String} {u : OrderUpdate} {orders : List OrderDocument}
    (h : updateOrder err id u w.orders = some orders) : orderIds { w with orders } = orderIds w := by
  unfold updateOrder at h
  split at h
  · cases h
  · cases h
    simp only [orderIds]
    rw [map_updateFirst _ u.apply (·.id) (fun _ => rfl)]

end Keep

/-! ## What each handler does to the ids -/

section Handlers

variable (fails : Faults) (body : Body) (w : World)

/-- The order.created handler keeps the ids: it only updates a status and publishes under other
topics. -/
theorem orderIds_orderCreated : orderIds (OrderCreatedEventHandler.handle fails body w) = orderIds w := by
  have hdlq : ∀ w : World, orderIds (OrderCreatedEventHandler.sendToDLQ fails body w) = orderIds w :=
    fun _ => orderIds_sendToDLQ fails (by decide) body
  have hisu : ∀ (oid pid : String) (hasStock : Bool) (w : World),
      orderIds (OrderCreatedEventHandler.publishInventoryStatusUpdated fails oid pid hasStock w) = orderIds w :=
    fun _ _ _ _ => orderIds_publish_getD (by decide) _
  unfold OrderCreatedEventHandler.handle
  dsimp only
  repeat' split
  all_goals first
    | exact hdlq w
    | exact (hdlq _).trans rfl
    | exact (hisu _ _ _ _).trans (orderIds_updateOrder (w := { w with products := _ }) ‹_›)
    | exact (hdlq _).trans (hisu _ _ _ _)

/-- The order.cancelled handler keeps the ids. -/
theorem orderIds_orderCancelled : orderIds (OrderCancelledEventHandler.handle fails body w) = orderIds w := by
  have hdlq : ∀ w : World, orderIds (OrderCancelledEventHandler.sendToDLQ fails body w) = orderIds w :=
    fun _ => orderIds_sendToDLQ fails (by decide) body
  unfold OrderCancelledEventHandler.handle
  dsimp only
  repeat' split
  all_goals first
    | rfl
    | exact hdlq _
    | exact orderIds_updateOrder (w := { w with products := _ }) ‹_›

/-- The inventory.status.updated handler keeps the ids: it publishes only under order.cancelled and
notification.sent. -/
theorem orderIds_statusUpdated :
    orderIds (InventoryStatusUpdatedEventHandler.handle fails body w) = orderIds w := by
  have hdlq : ∀ w : World, orderIds (InventoryStatusUpdatedEventHandler.sendToDLQ fails body w) = orderIds w :=
    fun _ => orderIds_sendToDLQ fails (by decide) body
  have hnote : ∀ (e : InventoryStatusUpdatedEvent) (w : World),
      orderIds (InventoryStatusUpdatedEventHandler.publishNotificationSent fails e body w) = orderIds w := by
    intro e w
    unfold InventoryStatusUpdatedEventHandler.publishNotificationSent
    dsimp only
    split
    · exact hdlq w
    · rename_i hp
      rw [World.publish_eq_some hp, orderIds_append (by decide)]
  unfold InventoryStatusUpdatedEventHandler.handle
  repeat' split
  all_goals first
    | exact hdlq w
    | exact hnote _ w
    | (rename_i hp; rw [hnote, World.publish_eq_some hp, orderIds_append (by decide)])

/-- The notification.sent handler keeps the ids: it only writes the notification fields. -/
theorem orderIds_notificationSent :
    orderIds (NotificationSentEventHandler.handle fails body w) = orderIds w := by
  unfold NotificationSentEventHandler.handle
  repeat' split
  all_goals first | rfl | exact orderIds_updateOrder ‹_›

/-- A capture keeps the ids: it writes only the event store. -/
theorem orderIds_captureForReplay (orderIdOf : Body → Option String) :
    orderIds (DLQHandler.captureForReplay orderIdOf fails body w) = orderIds w := by
  simp [orderIds]

/-- The order.requested handler keeps the ids, or stores the order of the event it
consumed under that event's id. -/
theorem orderIds_orderRequested :
    orderIds (OrderRequestedEventHandler.handle fails body w) = orderIds w ∨
      ∃ e, OrderRequestedEvent.unmarshal body = some e ∧
        orderIds (OrderRequestedEventHandler.handle fails body w) =
          w.orders.map (·.id) ++ [e.id] ++ w.inFlight.filterMap requestedId := by
  unfold OrderRequestedEventHandler.handle OrderRequestedEventHandler.publishOrderCreatedEvent
  split
  · exact .inl rfl
  · rename_i e he
    split
    · exact .inl rfl
    · dsimp only
      split
      · exact .inl rfl
      · rename_i orderID orders hc
        have ho : orders = w.orders ++ [⟨e.id, e.amount, "Processing",
            ⟨e.product.id, e.product.name, e.product.quantity⟩, none, none⟩] := by
          unfold createOrder at hc
          split at hc
          · cases hc
          · cases hc; rfl
        have hstored : orderIds { w with orders } =
            w.orders.map (·.id) ++ [e.id] ++ w.inFlight.filterMap requestedId := by
          simp [orderIds, ho]
        refine .inr ⟨e, he, ?_⟩
        split
        · rename_i hp
          rw [World.publishWithRetry_eq_some hp, orderIds_append (by decide), hstored]
        · split <;> exact hstored

end Handlers

/-! ## One step -/

/-- The ids a step may add: a `CreateOrder` call's own. -/
def newOrderIds : Action → List String
  | .createOrder o _ => [o.id]
  | _ => []

/-- The order.requested message `CreateOrder` publishes for an order. -/
def requestedMessage (o : Domain.Order) : Message :=
  ⟨orderRequested, .json (⟨o.id, ⟨o.product.id, o.product.name, o.product.quantity⟩, o.amount,
    orderStatusRequested, 1⟩ : OrderRequestedEvent).marshal⟩

/-- `CreateOrder` reports an error and leaves the world as it was, or returns the order's id
after publishing its order.requested message, which it does only for an order that passes
its checks. -/
theorem createOrder_eq (fails : Faults) (o : Domain.Order) (w : World) :
    (∃ msg, OrderService.createOrder fails o w = (.error msg, w)) ∨
      (o.id ≠ "" ∧ o.product.id ≠ "" ∧ 0 < o.product.quantity ∧ 0 < o.amount) ∧
        OrderService.createOrder fails o w = (.ok o.id, { w with inFlight := w.inFlight ++ [requestedMessage o] }) := by
  unfold OrderService.createOrder
  split_ifs with hid hpid hq ha
  any_goals exact .inl ⟨_, rfl⟩
  dsimp only
  repeat' split
  any_goals exact .inl ⟨_, rfl⟩
  rename_i hp
  exact .inr ⟨⟨hid, hpid, Int.not_le.1 hq, Bool.of_not_eq_false ha⟩, by rw [World.publishWithRetry_eq_some hp]; rfl⟩

/-- `CancelOrder` leaves the world as it was or publishes under order.cancelled. -/
theorem cancelOrder_publishes (fails : Faults) (orderID : String) (w : World) :
    (OrderService.cancelOrder fails orderID w).2 = w ∨
      ∃ body, (OrderService.cancelOrder fails orderID w).2 =
        { w with inFlight := w.inFlight ++ [⟨orderCancelled, body⟩] } := by
  unfold OrderService.cancelOrder
  dsimp only
  repeat' split
  all_goals first | exact .inl rfl | exact .inr ⟨_, World.publishWithRetry_eq_some ‹_›⟩

/-- The ids of a list with its `i`-th message taken out, with that message's id put
back at the end, are those of the list in another order. -/
theorem filterMap_eraseIdx_perm {l : List Message} {i : Nat} {m : Message} (h : l[i]? = some m) :
    List.Perm ((l.eraseIdx i).filterMap requestedId ++ (requestedId m).toList) (l.filterMap requestedId) := by
  obtain ⟨hi, rfl⟩ := List.getElem?_eq_some_iff.1 h
  conv_rhs => rw [← List.take_append_drop i l, ← List.getElem_cons_drop l i hi]
  rw [List.eraseIdx_eq_take_drop_succ, List.filterMap_append, List.filterMap_append, List.filterMap_cons]
  cases requestedId l[i] with
  | none => simp
  | some x => simpa using (List.perm_append_singleton x _).append_left _

/-- A delivery, whichever queue the message is on, moves at most the id of the message it
consumes into the store. -/
theorem deliver_orderIds {topic : String} {handler : Faults → Body → World → World}
    (hd : dispatch topic = some handler) (fails : Faults) (body : Body) (w : World) :
    List.Subperm (orderIds (handler fails body w)) (orderIds w ++ (requestedId ⟨topic, body⟩).toList) := by
  have keep : ∀ t w', orderIds w' = orderIds w →
      List.Subperm (orderIds w') (orderIds w ++ (requestedId ⟨t, body⟩).toList) :=
    fun _ _ h => h ▸ (List.sublist_append_left _ _).subperm
  refine dispatch_rec (P := fun topic handler =>
      List.Subperm (orderIds (handler fails body w)) (orderIds w ++ (requestedId ⟨topic, body⟩).toList))
    ?_ (keep _ _ (orderIds_orderCreated _ _ _)) (keep _ _ (orderIds_orderCancelled _ _ _))
    (keep _ _ (orderIds_statusUpdated _ _ _)) (keep _ _ (orderIds_notificationSent _ _ _))
    (keep _ _ (orderIds_captureForReplay _ _ _ _)) (keep _ _ (orderIds_captureForReplay _ _ _ _))
    (keep _ _ (orderIds_captureForReplay _ _ _ _)) hd
  rcases orderIds_orderRequested fails body w with h | ⟨e, he, h⟩
  · exact keep _ _ h
  · have hid : requestedId ⟨orderRequested, body⟩ = some e.id := by simp [requestedId, he]
    have hperm : List.Perm (w.orders.map (·.id) ++ [e.id] ++ w.inFlight.filterMap requestedId)
        (orderIds w ++ [e.id]) := by
      simpa only [orderIds, List.append_assoc] using
        (@List.perm_append_comm _ [e.id] (w.inFlight.filterMap requestedId)).append_left
          (w.orders.map (·.id))
    rw [h, hid]
    exact hperm.subperm

/-- One step holds no id it did not hold before, except a `CreateOrder` call's own. -/
theorem step_orderIds {w w' : World} {a : Action} (h : step w a = some w') :
    List.Subperm (orderIds w') (orderIds w ++ newOrderIds a) := by
  have keep : orderIds w' = orderIds w → List.Subperm (orderIds w') (orderIds w ++ newOrderIds a) :=
    fun h => h ▸ (List.sublist_append_left _ _).subperm
  cases a with
  | createOrder o fails =>
    cases h
    rcases createOrder_eq fails o w with ⟨msg, h⟩ | ⟨-, h⟩
    · exact keep (by rw [h])
    · rw [h]
      have hid : requestedId (requestedMessage o) = some o.id := by simp [requestedId, requestedMessage]
      simp only [orderIds, newOrderIds, List.filterMap_append, List.filterMap_cons, List.filterMap_nil, hid,
        List.append_assoc]
      exact List.Subperm.refl _
  | cancelOrder orderID fails =>
    cases h
    rcases cancelOrder_publishes fails orderID w with h | ⟨body, h⟩
    · exact keep (by rw [h])
    · exact keep (by rw [h]; exact orderIds_append (by decide : orderCancelled ≠ orderRequested) body)
  | replay fails =>
    cases h
    obtain ⟨published, hw⟩ := replayFailedEvents_inFlight fails w
    have hnone : ∀ r : OrderEvent, requestedId (replayMessage r) = none :=
      fun r => requestedId_of_ne (by decide) _
    exact keep (by simp [orderIds, hw, List.filterMap_append, List.filterMap_map, Function.comp_def, hnone])
  | deliver i fails =>
    obtain ⟨m, handler, hm, hd, rfl⟩ := step_deliver_eq_some.1 h
    have hmove := deliver_orderIds hd fails m.body { w with inFlight := w.inFlight.eraseIdx i }
    refine (hmove.trans ?_).trans (List.sublist_append_left _ _).subperm
    simpa [orderIds, List.append_assoc] using
      ((filterMap_eraseIdx_perm hm).append_left (w.orders.map (·.id))).subperm

/-! ## Fresh ids -/

/-- A step that holds no id it did not hold before, except new ones the state does not
hold, keeps the ids distinct. -/
theorem orderIds_nodup_of_subperm {w w' : World} {new : List String} (hnd : (orderIds w).Nodup)
    (hnew : new.Nodup) (hfresh : ∀ id ∈ new, id ∉ orderIds w)
    (h : List.Subperm (orderIds w') (orderIds w ++ new)) : (orderIds w').Nodup := by
  obtain ⟨l, hperm, hsub⟩ := h
  exact ((List.nodup_append.2 ⟨hnd, hnew, fun x hx hy => hfresh x hy hx⟩).sublist hsub).perm hperm

/-- With distinct ids, every `UpdateOrder` on an id rewrites exactly the order with that
id, and `GetOrderByID` of a stored order's id returns that order. -/
theorem orders_by_id {orders : List OrderDocument} (hids : (orders.map (·.id)).Nodup) :
    (∀ (err : Bool) (id : String) (u : OrderUpdate), updateOrder err id u orders =
      if err then none else some (orders.map fun d => if d.id = id then u.apply d else d)) ∧
      ∀ d ∈ orders, getOrderByID false d.id orders = some (some d) := by
  refine ⟨fun err id u => ?_, fun d hd => ?_⟩
  · unfold updateOrder
    split
    · rfl
    · rw [updateFirst_key_eq_map u.apply (·.id) id orders hids]
  · obtain ⟨d', hfind⟩ : ∃ d', orders.find? (·.id == d.id) = some d' :=
      Option.ne_none_iff_exists'.1 (List.find?_isSome.2 ⟨d, hd, by simp⟩ |> Option.isSome_iff_ne_none.1)
    have hd' := List.mem_of_find?_eq_some hfind
    have hid : d'.id = d.id := by simpa using List.find?_some hfind
    simp [getOrderByID, hfind, List.inj_on_of_nodup_map hids hd' hd hid]

end OrderSaga.Analysis
