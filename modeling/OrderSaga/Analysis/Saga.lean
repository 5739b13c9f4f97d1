import OrderSaga.Model.System

/-!
# The saga when nothing fails

With no failed call, each handler does its whole step on every body that decodes
(`orderRequested_handle_decoded`, `orderCreated_handle_decoded`,
`statusUpdated_handle_decoded`, `notificationSent_handle_decoded`), and in particular on
the body its upstream step publishes (`orderRequested_handle_none`, …). Chained by the broker, they take an order that passes
`CreateOrder`'s checks, for a product with enough stock, through the whole choreography:
the order is stored, the stock reserved, the order confirmed and its notification
recorded on it, and nothing is left in flight or in the event store
(`saga_confirms_order`).

When no product is in stock, the same choreography cancels the order and records the
stock-out notice on it, and the dead-lettered order.created event is kept as a `failed`
record. The order.cancelled handler cannot tell a stock-out from a cancellation after a
reservation: it releases the order's quantity on its product although nothing was
reserved (`saga_cancels_out_of_stock`).
-/

set_option autoImplicit false

namespace OrderSaga.Analysis

open Events Persistence Inventory

/-! ## One step of each handler -/

section Handlers

variable (w : World)

/-- The order.requested handler stores the order of a body that decodes to a valid event
as `Processing` and publishes its order.created event. -/
theorem orderRequested_handle_decoded {body : Body} {e : OrderRequestedEvent}
    (he : OrderRequestedEvent.unmarshal body = some e) (hv : e.validate = .ok ()) :
    OrderRequestedEventHandler.handle Faults.none body w = { w with
      orders := w.orders ++ [⟨e.id, e.amount, "Processing", ⟨e.product.id, e.product.name, e.product.quantity⟩,
        none, none⟩]
      inFlight := w.inFlight ++
        [⟨orderCreated, .json (⟨e.id, e.product, e.amount, "Processing", 1⟩ : OrderCreatedEvent).marshal⟩] } := by
  simp [OrderRequestedEventHandler.handle, OrderRequestedEventHandler.publishOrderCreatedEvent, he, hv,
    createOrder, Faults.none, World.publishWithRetry, World.publish, orderCreated]

/-- The order.requested handler stores a valid event's order as `Processing` and publishes
its order.created event. -/
theorem orderRequested_handle_none (e : OrderRequestedEvent) (hv : e.validate = .ok ()) :
    OrderRequestedEventHandler.handle Faults.none (.json e.marshal) w = { w with
      orders := w.orders ++ [⟨e.id, e.amount, "Processing", ⟨e.product.id, e.product.name, e.product.quantity⟩,
        none, none⟩]
      inFlight := w.inFlight ++
        [⟨orderCreated, .json (⟨e.id, e.product, e.amount, "Processing", 1⟩ : OrderCreatedEvent).marshal⟩] } :=
  orderRequested_handle_decoded w (OrderRequestedEvent.unmarshal_marshal e) hv

/-- When the product is in stock, the order.created handler reserves the decoded quantity,
confirms the order and publishes `hasStock = true`. -/
theorem orderCreated_handle_decoded {body : Body} {e : OrderCreatedEvent}
    (he : OrderCreatedEvent.unmarshal body = some e)
    (hstock : w.products.any (reservable e.product.id e.product.quantity) = true) :
    OrderCreatedEventHandler.handle Faults.none body w = { w with
      products := updateFirst (reservable e.product.id e.product.quantity)
        (Product.reserve e.product.quantity) w.products
      orders := updateFirst (·.id == e.id) (OrderUpdate.apply { status := some "Confirmed" }) w.orders
      inFlight := w.inFlight ++ [⟨inventoryStatusUpdated,
        .json (⟨e.id, e.product.id, true, 1⟩ : InventoryStatusUpdatedEvent).marshal⟩] } := by
  simp [OrderCreatedEventHandler.handle, OrderCreatedEventHandler.publishInventoryStatusUpdated, he,
    checkAndReserveProduct, hstock, updateOrder, Faults.none, World.publish, inventoryStatusUpdated]

/-- When the product is in stock, the order.created handler reserves it, confirms the
order and publishes `hasStock = true`. -/
theorem orderCreated_handle_reserved (e : OrderCreatedEvent)
    (hstock : w.products.any (reservable e.product.id e.product.quantity) = true) :
    OrderCreatedEventHandler.handle Faults.none (.json e.marshal) w = { w with
      products := updateFirst (reservable e.product.id e.product.quantity)
        (Product.reserve e.product.quantity) w.products
      orders := updateFirst (·.id == e.id) (OrderUpdate.apply { status := some "Confirmed" }) w.orders
      inFlight := w.inFlight ++ [⟨inventoryStatusUpdated,
        .json (⟨e.id, e.product.id, true, 1⟩ : InventoryStatusUpdatedEvent).marshal⟩] } :=
  orderCreated_handle_decoded w (OrderCreatedEvent.unmarshal_marshal e) hstock

/-- The inventory.status.updated handler publishes, for every body that decodes, the
cancellation when `hasStock` is false and then the notice. -/
theorem statusUpdated_handle_decoded {body : Body} {e : InventoryStatusUpdatedEvent}
    (he : InventoryStatusUpdatedEvent.unmarshal body = some e) :
    InventoryStatusUpdatedEventHandler.handle Faults.none body w = { w with inFlight := w.inFlight ++
      ((if e.hasStock then [] else [⟨orderCancelled, .json (⟨e.orderId, "Cancelled", 1⟩ : OrderCancelledEvent).marshal⟩]) ++
        [⟨notificationSent, .json (⟨e.orderId, InventoryStatusUpdatedEventHandler.getNotificationMessage
          e.hasStock e.productId, 1⟩ : NotificationSentEvent).marshal⟩]) } := by
  cases hs : e.hasStock <;>
    simp [InventoryStatusUpdatedEventHandler.handle, InventoryStatusUpdatedEventHandler.publishNotificationSent,
      he, hs, Faults.none, World.publish, orderCancelled, notificationSent]

/-- On `hasStock = true` the inventory.status.updated handler publishes the confirmation
notice. -/
theorem statusUpdated_handle_inStock (orderID productID : String) (version : Int) :
    InventoryStatusUpdatedEventHandler.handle Faults.none
        (.json (⟨orderID, productID, true, version⟩ : InventoryStatusUpdatedEvent).marshal) w =
      { w with inFlight := w.inFlight ++ [⟨notificationSent, .json (⟨orderID,
        "Order confirmed for product: " ++ productID, 1⟩ : NotificationSentEvent).marshal⟩] } :=
  statusUpdated_handle_decoded w (InventoryStatusUpdatedEvent.unmarshal_marshal _)

/-- The notification.sent handler records the notice of every body that decodes on the
order. -/
theorem notificationSent_handle_decoded {body : Body} {e : NotificationSentEvent}
    (he : NotificationSentEvent.unmarshal body = some e) :
    NotificationSentEventHandler.handle Faults.none body w = { w with
      orders := updateFirst (·.id == e.orderId)
        (OrderUpdate.apply { notificationStatus := some "sent", notificationMessage := some e.message })
        w.orders } := by
  simp [NotificationSentEventHandler.handle, he, updateOrder, Faults.none]

/-- The notification.sent handler records the notice on the order. -/
theorem notificationSent_handle_none (e : NotificationSentEvent) :
    NotificationSentEventHandler.handle Faults.none (.json e.marshal) w = { w with
      orders := updateFirst (·.id == e.orderId)
        (OrderUpdate.apply { notificationStatus := some "sent", notificationMessage := some e.message })
        w.orders } :=
  notificationSent_handle_decoded w (NotificationSentEvent.unmarshal_marshal e)

/-- When no product is in stock, the order.created handler publishes `hasStock = false`
and dead-letters the message. -/
theorem orderCreated_handle_outOfStock (e : OrderCreatedEvent)
    (hout : w.products.any (reservable e.product.id e.product.quantity) = false) :
    OrderCreatedEventHandler.handle Faults.none (.json e.marshal) w = { w with
      inFlight := w.inFlight ++ [⟨inventoryStatusUpdated,
        .json (⟨e.id, e.product.id, false, 1⟩ : InventoryStatusUpdatedEvent).marshal⟩,
        ⟨"order.created.dlq", .json e.marshal⟩] } := by
  simp [OrderCreatedEventHandler.handle, OrderCreatedEventHandler.publishInventoryStatusUpdated,
    OrderCreatedEventHandler.sendToDLQ, World.sendToDLQ, checkAndReserveProduct, hout, Faults.none,
    World.publish, inventoryStatusUpdated]

/-- On `hasStock = false` the inventory.status.updated handler publishes the cancellation
and then the stock-out notice. -/
theorem statusUpdated_handle_outOfStock (orderID productID : String) (version : Int) :
    InventoryStatusUpdatedEventHandler.handle Faults.none
        (.json (⟨orderID, productID, false, version⟩ : InventoryStatusUpdatedEvent).marshal) w =
      { w with inFlight := w.inFlight ++
        [⟨orderCancelled, .json (⟨orderID, "Cancelled", 1⟩ : OrderCancelledEvent).marshal⟩,
          ⟨notificationSent, .json (⟨orderID,
            "Order cancelled due to insufficient stock for product: " ++ productID, 1⟩ :
              NotificationSentEvent).marshal⟩] } :=
  statusUpdated_handle_decoded w (InventoryStatusUpdatedEvent.unmarshal_marshal _)

/-- The order.created capture stores the dead-lettered event as a `failed` record under
its order id. -/
theorem orderCreatedDLQ_handle_none (e : OrderCreatedEvent) :
    DLQHandler.handleOrderCreatedDLQ Faults.none (.json e.marshal) w =
      { w with store := w.store.insert e.id e.marshal .failed } := by
  simp [DLQHandler.handleOrderCreatedDLQ, DLQHandler.captureForReplay, storeEventForReplay, Faults.none]

/-- The order.cancelled handler, on every body that decodes, releases the quantity stored
on the order it finds and marks the order `Cancelled`. -/
theorem orderCancelled_handle_decoded {body : Body} {e : OrderCancelledEvent} {d : OrderDocument}
    (he : OrderCancelledEvent.unmarshal body = some e) (hd : w.orders.find? (·.id == e.orderId) = some d) :
    OrderCancelledEventHandler.handle Faults.none body w = { w with
      products := updateFirst (·.id == d.product.id) (Product.release d.product.quantity) w.products
      orders := updateFirst (·.id == e.orderId) (OrderUpdate.apply { status := some "Cancelled" }) w.orders } := by
  simp [OrderCancelledEventHandler.handle, he, getOrderByID, hd, releaseReservedProduct, updateOrder, Faults.none]

/-- The order.cancelled handler releases the quantity stored on the order it finds and
marks the order `Cancelled`. -/
theorem orderCancelled_handle_found (e : OrderCancelledEvent) (d : OrderDocument)
    (hd : w.orders.find? (·.id == e.orderId) = some d) :
    OrderCancelledEventHandler.handle Faults.none (.json e.marshal) w = { w with
      products := updateFirst (·.id == d.product.id) (Product.release d.product.quantity) w.products
      orders := updateFirst (·.id == e.orderId) (OrderUpdate.apply { status := some "Cancelled" }) w.orders } :=
  orderCancelled_handle_decoded w (OrderCancelledEvent.unmarshal_marshal e) hd

end Handlers

/-- `CreateOrder` of an order that passes its checks publishes its order.requested event. -/
theorem createOrder_none (w : World) (o : Domain.Order) (hid : o.id ≠ "") (hpid : o.product.id ≠ "")
    (hq : 0 < o.product.quantity) (ha : 0 < o.amount) :
    OrderService.createOrder Faults.none o w = (.ok o.id, { w with
      inFlight := w.inFlight ++ [⟨orderRequested, .json (⟨o.id, ⟨o.product.id, o.product.name,
        o.product.quantity⟩, o.amount, orderStatusRequested, 1⟩ : OrderRequestedEvent).marshal⟩] }) := by
  have hv : (⟨o.id, ⟨o.product.id, o.product.name, o.product.quantity⟩, o.amount, orderStatusRequested, 1⟩ :
      OrderRequestedEvent).validate = .ok () := (OrderRequestedEvent.validate_eq_ok _).2 ⟨hid, hpid, hq⟩
  have hna : ¬o.amount ≤ 0 := fun h =>
    Bool.false_ne_true ((show Rat.blt 0 o.amount = false from h).symm.trans (show Rat.blt 0 o.amount = true from ha))
  simp [OrderService.createOrder, hid, hpid, hq.not_le, hna, hv, Faults.none,
    World.publishWithRetry, World.publish, orderRequested]

/-- `CreateOrder` and the order.requested step: the order is stored as `Processing`, and its
order.created event is the one message in flight. -/
theorem run_createOrder_requested (w : World) (o : Domain.Order) (hin : w.inFlight = [])
    (hid : o.id ≠ "") (hpid : o.product.id ≠ "") (hq : 0 < o.product.quantity) (ha : 0 < o.amount)
    (rest : List Action) :
    run w (.createOrder o Faults.none :: .deliver 0 Faults.none :: rest) =
      run ⟨w.orders ++ [⟨o.id, o.amount, "Processing", ⟨o.product.id, o.product.name, o.product.quantity⟩,
          none, none⟩], w.products, w.store,
        [⟨orderCreated, .json (⟨o.id, ⟨o.product.id, o.product.name, o.product.quantity⟩, o.amount,
          "Processing", 1⟩ : OrderCreatedEvent).marshal⟩]⟩ rest := by
  have hv := (OrderRequestedEvent.validate_eq_ok ⟨o.id, ⟨o.product.id, o.product.name, o.product.quantity⟩,
    o.amount, orderStatusRequested, 1⟩).2 ⟨hid, hpid, hq⟩
  simp only [run, step_createOrder, createOrder_none w o hid hpid hq ha, hin, List.nil_append,
    Option.some_bind, step_deliver_head, dispatch_orderRequested, Option.map_some',
    orderRequested_handle_none _ _ hv]

/-! ## The whole choreography -/

/-- When no call fails and each message is handled as it arrives, an order that passes
`CreateOrder`'s checks, for a product in stock and an id no stored order has, ends
stored, `Confirmed` and notified, with its quantity reserved, and nothing is left in
flight or in the event store. -/
theorem saga_confirms_order (w : World) (o : Domain.Order) (hin : w.inFlight = [])
    (hid : o.id ≠ "") (hpid : o.product.id ≠ "") (hq : 0 < o.product.quantity) (ha : 0 < o.amount)
    (hnew : ∀ d ∈ w.orders, d.id ≠ o.id)
    (hstock : w.products.any (reservable o.product.id o.product.quantity) = true) :
    run w (.createOrder o Faults.none :: List.replicate 4 (.deliver 0 Faults.none)) =
      some { w with
        orders := w.orders ++ [⟨o.id, o.amount, "Confirmed", ⟨o.product.id, o.product.name, o.product.quantity⟩,
          some "sent", some ("Order confirmed for product: " ++ o.product.id)⟩]
        products := updateFirst (reservable o.product.id o.product.quantity)
          (Product.reserve o.product.quantity) w.products } := by
  have hfresh : ∀ d ∈ w.orders, (d.id == o.id) = false := by simpa using hnew
  rw [List.replicate_succ, run_createOrder_requested w o hin hid hpid hq ha]
  simp only [run, List.replicate, hin, List.nil_append, Option.some_bind, step_deliver_head, Option.map_some',
    dispatch_orderCreated, orderCreated_handle_reserved, hstock, dispatch_inventoryStatusUpdated,
    statusUpdated_handle_inStock, dispatch_notificationSent, notificationSent_handle_none,
    updateFirst_append_of_forall_not _ _ _ _ hfresh, updateFirst, beq_self_eq_true, if_true, OrderUpdate.apply]
  rfl

/-- When no call fails and each message is handled as it arrives, an order that passes
`CreateOrder`'s checks but for which no product is in stock ends `Cancelled` and notified
of the stock-out; the cancellation releases the order's quantity on its product although
nothing was reserved, and the dead-lettered order.created event is kept for replay. -/
theorem saga_cancels_out_of_stock (w : World) (o : Domain.Order) (hin : w.inFlight = [])
    (hid : o.id ≠ "") (hpid : o.product.id ≠ "") (hq : 0 < o.product.quantity) (ha : 0 < o.amount)
    (hnew : ∀ d ∈ w.orders, d.id ≠ o.id)
    (hout : w.products.any (reservable o.product.id o.product.quantity) = false) :
    run w (.createOrder o Faults.none :: List.replicate 6 (.deliver 0 Faults.none)) =
      some { w with
        orders := w.orders ++ [⟨o.id, o.amount, "Cancelled", ⟨o.product.id, o.product.name, o.product.quantity⟩,
          some "sent", some ("Order cancelled due to insufficient stock for product: " ++ o.product.id)⟩]
        products := updateFirst (·.id == o.product.id) (Product.release o.product.quantity) w.products
        store := w.store.insert o.id (⟨o.id, ⟨o.product.id, o.product.name, o.product.quantity⟩, o.amount,
          "Processing", 1⟩ : OrderCreatedEvent).marshal .failed } := by
  have hfresh : ∀ d ∈ w.orders, (d.id == o.id) = false := by simpa using hnew
  have hnone : w.orders.find? (·.id == o.id) = none := List.find?_eq_none.2 fun d hd => by simp [hfresh d hd]
  rw [List.replicate_succ, run_createOrder_requested w o hin hid hpid hq ha]
  simp only [run, List.replicate, hin, List.nil_append, List.cons_append, List.singleton_append,
    Option.some_bind, step_deliver_head, Option.map_some', dispatch_orderCreated, orderCreated_handle_outOfStock,
    hout, dispatch_inventoryStatusUpdated, statusUpdated_handle_outOfStock, dispatch_orderCreatedDLQ,
    orderCreatedDLQ_handle_none, dispatch_orderCancelled]
  rw [orderCancelled_handle_found _ _ ⟨o.id, o.amount, "Processing", ⟨o.product.id, o.product.name, o.product.quantity⟩,
    none, none⟩]
  · simp only [Option.some_bind, step_deliver_head, dispatch_notificationSent, Option.map_some',
      notificationSent_handle_none, updateFirst_append_of_forall_not _ _ _ _ hfresh, updateFirst, beq_self_eq_true,
      if_true, OrderUpdate.apply]
    rfl
  · simp [List.find?_append, hnone]

/-- Two laptops ordered from a store of five. -/
def laptopOrder : Domain.Order := ⟨"o1", 10, "Pending", ⟨"p1", "Laptop", 2⟩⟩

/-- With five in stock and no failure, an order for two is stored, reserved and confirmed after four
deliveries. -/
theorem saga_confirms_laptop_order :
    (World.init [⟨"p1", 5, 0⟩]).products.any (reservable "p1" 2) = true ∧
      run (World.init [⟨"p1", 5, 0⟩]) (.createOrder laptopOrder Faults.none :: List.replicate 4 (.deliver 0 Faults.none)) =
        some { World.init [⟨"p1", 5, 0⟩] with
          orders := (World.init [⟨"p1", 5, 0⟩]).orders ++ [⟨"o1", 10, "Confirmed", ⟨"p1", "Laptop", 2⟩,
            some "sent", some ("Order confirmed for product: " ++ "p1")⟩]
          products := updateFirst (reservable "p1" 2) (Product.reserve 2) (World.init [⟨"p1", 5, 0⟩]).products } :=
  ⟨by decide, saga_confirms_order (World.init [⟨"p1", 5, 0⟩]) laptopOrder rfl (by decide) (by decide) (by decide)
    (by decide) (by simp [World.init]) (by decide)⟩

/-- Ten laptops ordered from a store of five. -/
def largeLaptopOrder : Domain.Order := ⟨"o1", 10, "Pending", ⟨"p1", "Laptop", 10⟩⟩

/-- With five in stock and no failure, an order for ten is refused, cancelled, and its quantity
released after six deliveries. -/
theorem saga_cancels_large_laptop_order :
    (World.init [⟨"p1", 5, 0⟩]).products.any (reservable "p1" 10) = false ∧
      run (World.init [⟨"p1", 5, 0⟩])
          (.createOrder largeLaptopOrder Faults.none :: List.replicate 6 (.deliver 0 Faults.none)) =
        some { World.init [⟨"p1", 5, 0⟩] with
          orders := (World.init [⟨"p1", 5, 0⟩]).orders ++ [⟨"o1", 10, "Cancelled", ⟨"p1", "Laptop", 10⟩,
            some "sent", some ("Order cancelled due to insufficient stock for product: " ++ "p1")⟩]
          products := updateFirst (·.id == "p1") (Product.release 10) (World.init [⟨"p1", 5, 0⟩]).products
          store := (World.init [⟨"p1", 5, 0⟩]).store.insert "o1"
            (⟨"o1", ⟨"p1", "Laptop", 10⟩, 10, "Processing", 1⟩ : OrderCreatedEvent).marshal .failed } :=
  ⟨by decide, saga_cancels_out_of_stock (World.init [⟨"p1", 5, 0⟩]) largeLaptopOrder rfl (by decide) (by decide)
    (by decide) (by decide) (by simp [World.init]) (by decide)⟩

end OrderSaga.Analysis
