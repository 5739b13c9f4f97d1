import OrderSaga.Model.Broker

/-!
# The saga step handlers and the dead-letter capture

One definition per `Handle` method registered in `main.go`, each a function of the
failures of its calls, the delivered body and the world. Control flow follows the
source line by line: every early `return` is a branch that ends with the world as it
stands at that point, and every `sendToDLQ` is `World.sendToDLQ` on the handler's own
queue. `json.Marshal` of an envelope cannot fail, so its error branches are gone, and
`SendMultiChannelNotification` only logs and returns `nil`, so the notification calls
of the inventory.status.updated handler change nothing.
-/

set_option autoImplicit false

namespace OrderSaga

open Events Persistence Inventory

/-! ## order.requested (`order_requested_event_handler.go`) -/

namespace OrderRequestedEventHandler

/-- `publishOrderCreatedEvent`: up to three attempts under `order.created`. -/
def publishOrderCreatedEvent (fails : Faults) (event : OrderCreatedEvent) (w : World) :
    Option World :=
  w.publishWithRetry (fun a => fails (.publish orderCreated a)) orderCreated (.json event.marshal) 1 3

/-- `OrderRequestedEventHandler.Handle`: store the order as `Processing`, then publish
`order.created`; if that publish fails, store the constructed event for replay. -/
def handle (fails : Faults) (eventData : Body) (w : World) : World :=
  match OrderRequestedEvent.unmarshal eventData with
  | none => w
  | some e =>
    match e.validate with
    | .error _ => w
    | .ok () =>
      let orderDoc : OrderDocument :=
        { id := e.id, amount := e.amount, status := "Processing",
          product := ⟨e.product.id, e.product.name, e.product.quantity⟩ }
      match createOrder (fails .createOrder) orderDoc w.orders with
      | none => w
      | some (orderID, orders) =>
        let w := { w with orders }
        let created : OrderCreatedEvent := ⟨orderID, e.product, e.amount, "Processing", 1⟩
        match publishOrderCreatedEvent fails created w with
        | some w' => w'
        | none =>
          match storeEventForReplay (fails .storeEvent) orderID (.json created.marshal) w.store with
          | some store => { w with store }
          | none => w

end OrderRequestedEventHandler

/-! ## notification.sent (`order_requested_event_handler.go`) -/

/-- `NotificationSentEventHandler.Handle`: record on the order that it was notified. -/
def NotificationSentEventHandler.handle (fails : Faults) (msgBody : Body) (w : World) : World :=
  match NotificationSentEvent.unmarshal msgBody with
  | none => w
  | some event =>
    match updateOrder (fails .updateOrder) event.orderId
        { notificationStatus := some "sent", notificationMessage := some event.message } w.orders with
    | none => w
    | some orders => { w with orders }

/-! ## order.created (`order_created_event_handler.go`) -/

namespace OrderCreatedEventHandler

/-- `OrderCreatedEventHandler.sendToDLQ`. -/
def sendToDLQ (fails : Faults) (body : Body) (w : World) : World :=
  w.sendToDLQ fails "order.created.dlq" body

/-- `publishInventoryStatusUpdated`: a failed publish is only logged. -/
def publishInventoryStatusUpdated (fails : Faults) (orderID productID : String) (hasStock : Bool)
    (w : World) : World :=
  let inventoryEvent : InventoryStatusUpdatedEvent := ⟨orderID, productID, hasStock, 1⟩
  (w.publish (fails (.publish inventoryStatusUpdated 1)) inventoryStatusUpdated
    (.json inventoryEvent.marshal)).getD w

/-- `OrderCreatedEventHandler.Handle`: reserve the event's product quantity; on success
confirm the order and publish `hasStock = true`, otherwise publish `hasStock = false`
and dead-letter the message. -/
def handle (fails : Faults) (msgBody : Body) (w : World) : World :=
  match OrderCreatedEvent.unmarshal msgBody with
  | none => sendToDLQ fails msgBody w
  | some event =>
    match checkAndReserveProduct (fails .reserveProduct) event.product.id event.product.quantity
        w.products with
    | none => sendToDLQ fails msgBody w
    | some (true, products) =>
      let w := { w with products }
      match updateOrder (fails .updateOrder) event.id { status := some "Confirmed" } w.orders with
      | none => sendToDLQ fails msgBody w
      | some orders => publishInventoryStatusUpdated fails event.id event.product.id true { w with orders }
    | some (false, _) =>
      sendToDLQ fails msgBody (publishInventoryStatusUpdated fails event.id event.product.id false w)

end OrderCreatedEventHandler

/-! ## order.cancelled (`order_created_event_handler.go`) -/

namespace OrderCancelledEventHandler

/-- `OrderCancelledEventHandler.sendToDLQ`. -/
def sendToDLQ (fails : Faults) (body : Body) (w : World) : World :=
  w.sendToDLQ fails "order.cancelled.dlq" body

/-- `OrderCancelledEventHandler.Handle`: release the quantity stored on the order, then
mark the order `Cancelled`. -/
def handle (fails : Faults) (msgBody : Body) (w : World) : World :=
  match OrderCancelledEvent.unmarshal msgBody with
  | none => sendToDLQ fails msgBody w
  | some event =>
    match getOrderByID (fails .getOrder) event.orderId w.orders with
    | none => sendToDLQ fails msgBody w
    | some none => w
    | some (some order) =>
      match releaseReservedProduct (fails .releaseProduct) order.product.id order.product.quantity
          w.products with
      | none => sendToDLQ fails msgBody w
      | some products =>
        let w := { w with products }
        match updateOrder (fails .updateOrder) event.orderId { status := some "Cancelled" } w.orders with
        | none => sendToDLQ fails msgBody w
        | some orders => { w with orders }

end OrderCancelledEventHandler

/-! ## inventory.status.updated (package `notification/handlers`) -/

namespace InventoryStatusUpdatedEventHandler

/-- `InventoryStatusUpdatedEventHandler.sendToDLQ`. -/
def sendToDLQ (fails : Faults) (body : Body) (w : World) : World :=
  w.sendToDLQ fails "inventory.status.updated.dlq" body

/-- `getNotificationMessage`. -/
def getNotificationMessage (hasStock : Bool) (productID : String) : String :=
  if hasStock then "Order confirmed for product: " ++ productID
  else "Order cancelled due to insufficient stock for product: " ++ productID

/-- The tail of `Handle` after the branch on `HasStock`: publish `notification.sent`,
dead-lettering the message if that fails. -/
def publishNotificationSent (fails : Faults) (event : InventoryStatusUpdatedEvent) (msgBody : Body)
    (w : World) : World :=
  let notificationEvent : NotificationSentEvent :=
    ⟨event.orderId, getNotificationMessage event.hasStock event.productId, 1⟩
  match w.publish (fails (.publish notificationSent 1)) notificationSent
      (.json notificationEvent.marshal) with
  | none => sendToDLQ fails msgBody w
  | some w => w

/-- `InventoryStatusUpdatedEventHandler.Handle`: on a stock-out publish `order.cancelled`
first; in both cases then publish `notification.sent`. -/
def handle (fails : Faults) (msgBody : Body) (w : World) : World :=
  match InventoryStatusUpdatedEvent.unmarshal msgBody with
  | none => sendToDLQ fails msgBody w
  | some event =>
    if event.hasStock then publishNotificationSent fails event msgBody w
    else
      match w.publish (fails (.publish orderCancelled 1)) orderCancelled
          (.json (⟨event.orderId, "Cancelled", 1⟩ : OrderCancelledEvent).marshal) with
      | none => sendToDLQ fails msgBody w
      | some w => publishNotificationSent fails event msgBody w

end InventoryStatusUpdatedEventHandler

/-! ## Dead-letter capture (package `dlq`) -/

namespace DLQHandler

/-- The body shared by the three capture handlers: take the order id from the body if it
decodes as the queue's envelope (`"unknown"` otherwise) and store the raw body as a
`failed` record; a failed store is only logged. -/
def captureForReplay (orderIdOf : Body → Option String) (fails : Faults) (msgBody : Body)
    (w : World) : World :=
  match storeEventForReplay (fails .storeEvent) ((orderIdOf msgBody).getD "unknown") msgBody w.store with
  | some store => { w with store }
  | none => w

/-- `HandleOrderCreatedDLQ`. -/
def handleOrderCreatedDLQ : Faults → Body → World → World :=
  captureForReplay fun b => (OrderCreatedEvent.unmarshal b).map (·.id)

/-- `HandleOrderCancelledDLQ`. -/
def handleOrderCancelledDLQ : Faults → Body → World → World :=
  captureForReplay fun b => (OrderCancelledEvent.unmarshal b).map (·.orderId)

/-- `HandleInventoryStatusUpdatedDLQ`. -/
def handleInventoryStatusUpdatedDLQ : Faults → Body → World → World :=
  captureForReplay fun b => (InventoryStatusUpdatedEvent.unmarshal b).map (·.orderId)

end DLQHandler

/-! ## What each handler writes

The frame of every handler: the collections it cannot touch, and, for the collections
it can, the one write that changes them, as a function of the body and of the outcomes
of the calls before it.
-/

section Frames

variable (fails : Faults) (body : Body) (w : World)

/-- The order.requested handler writes no product. -/
@[simp] theorem OrderRequestedEventHandler.handle_products :
    (OrderRequestedEventHandler.handle fails body w).products = w.products := by
  unfold OrderRequestedEventHandler.handle OrderRequestedEventHandler.publishOrderCreatedEvent
  dsimp only
  repeat' split
  all_goals simp_all

/-- The notification.sent handler writes no product. -/
@[simp] theorem NotificationSentEventHandler.handle_products :
    (NotificationSentEventHandler.handle fails body w).products = w.products := by
  unfold NotificationSentEventHandler.handle
  repeat' split
  all_goals rfl

/-- The notification.sent handler writes no record of the event store. -/
@[simp] theorem NotificationSentEventHandler.handle_store :
    (NotificationSentEventHandler.handle fails body w).store = w.store := by
  unfold NotificationSentEventHandler.handle
  repeat' split
  all_goals rfl

/-- The inventory.status.updated publish of the order.created handler writes no order. -/
@[simp] theorem OrderCreatedEventHandler.publishInventoryStatusUpdated_orders (orderID productID : String)
    (hasStock : Bool) :
    (OrderCreatedEventHandler.publishInventoryStatusUpdated fails orderID productID hasStock w).orders =
      w.orders := by
  unfold OrderCreatedEventHandler.publishInventoryStatusUpdated World.publish; split <;> rfl

/-- The inventory.status.updated publish of the order.created handler writes no product. -/
@[simp] theorem OrderCreatedEventHandler.publishInventoryStatusUpdated_products (orderID productID : String)
    (hasStock : Bool) :
    (OrderCreatedEventHandler.publishInventoryStatusUpdated fails orderID productID hasStock w).products =
      w.products := by
  unfold OrderCreatedEventHandler.publishInventoryStatusUpdated World.publish; split <;> rfl

/-- The inventory.status.updated publish of the order.created handler writes no record of the event
store. -/
@[simp] theorem OrderCreatedEventHandler.publishInventoryStatusUpdated_store (orderID productID : String)
    (hasStock : Bool) :
    (OrderCreatedEventHandler.publishInventoryStatusUpdated fails orderID productID hasStock w).store =
      w.store := by
  unfold OrderCreatedEventHandler.publishInventoryStatusUpdated World.publish; split <;> rfl

/-- The order.created handler writes no record of the event store. -/
@[simp] theorem OrderCreatedEventHandler.handle_store :
    (OrderCreatedEventHandler.handle fails body w).store = w.store := by
  unfold OrderCreatedEventHandler.handle OrderCreatedEventHandler.sendToDLQ
  dsimp only
  repeat' split
  all_goals simp

/-- The order.cancelled handler writes no record of the event store. -/
@[simp] theorem OrderCancelledEventHandler.handle_store :
    (OrderCancelledEventHandler.handle fails body w).store = w.store := by
  unfold OrderCancelledEventHandler.handle OrderCancelledEventHandler.sendToDLQ
  dsimp only
  repeat' split
  all_goals simp

/-- The notification.sent publish of the inventory.status.updated handler writes no order. -/
@[simp] theorem InventoryStatusUpdatedEventHandler.publishNotificationSent_orders
    (event : InventoryStatusUpdatedEvent) :
    (InventoryStatusUpdatedEventHandler.publishNotificationSent fails event body w).orders = w.orders := by
  unfold InventoryStatusUpdatedEventHandler.publishNotificationSent InventoryStatusUpdatedEventHandler.sendToDLQ
  dsimp only
  split <;> simp_all

/-- The notification.sent publish of the inventory.status.updated handler writes no product. -/
@[simp] theorem InventoryStatusUpdatedEventHandler.publishNotificationSent_products
    (event : InventoryStatusUpdatedEvent) :
    (InventoryStatusUpdatedEventHandler.publishNotificationSent fails event body w).products =
      w.products := by
  unfold InventoryStatusUpdatedEventHandler.publishNotificationSent InventoryStatusUpdatedEventHandler.sendToDLQ
  dsimp only
  split <;> simp_all

/-- The notification.sent publish of the inventory.status.updated handler writes no record of the
event store. -/
@[simp] theorem InventoryStatusUpdatedEventHandler.publishNotificationSent_store
    (event : InventoryStatusUpdatedEvent) :
    (InventoryStatusUpdatedEventHandler.publishNotificationSent fails event body w).store = w.store := by
  unfold InventoryStatusUpdatedEventHandler.publishNotificationSent InventoryStatusUpdatedEventHandler.sendToDLQ
  dsimp only
  split <;> simp_all

/-- The inventory.status.updated handler writes no order: cancelling the order is the
order.cancelled handler's write. -/
@[simp] theorem InventoryStatusUpdatedEventHandler.handle_orders :
    (InventoryStatusUpdatedEventHandler.handle fails body w).orders = w.orders := by
  unfold InventoryStatusUpdatedEventHandler.handle InventoryStatusUpdatedEventHandler.sendToDLQ
  repeat' split
  all_goals simp_all

/-- The inventory.status.updated handler writes no product. -/
@[simp] theorem InventoryStatusUpdatedEventHandler.handle_products :
    (InventoryStatusUpdatedEventHandler.handle fails body w).products = w.products := by
  unfold InventoryStatusUpdatedEventHandler.handle InventoryStatusUpdatedEventHandler.sendToDLQ
  repeat' split
  all_goals simp_all

/-- The inventory.status.updated handler writes no record of the event store. -/
@[simp] theorem InventoryStatusUpdatedEventHandler.handle_store :
    (InventoryStatusUpdatedEventHandler.handle fails body w).store = w.store := by
  unfold InventoryStatusUpdatedEventHandler.handle InventoryStatusUpdatedEventHandler.sendToDLQ
  repeat' split
  all_goals simp_all

/-- A capture writes no order. -/
@[simp] theorem DLQHandler.captureForReplay_orders (orderIdOf : Body → Option String) :
    (DLQHandler.captureForReplay orderIdOf fails body w).orders = w.orders := by
  unfold DLQHandler.captureForReplay; split <;> rfl

/-- A capture writes no product. -/
@[simp] theorem DLQHandler.captureForReplay_products (orderIdOf : Body → Option String) :
    (DLQHandler.captureForReplay orderIdOf fails body w).products = w.products := by
  unfold DLQHandler.captureForReplay; split <;> rfl

/-- A capture publishes nothing. -/
@[simp] theorem DLQHandler.captureForReplay_inFlight (orderIdOf : Body → Option String) :
    (DLQHandler.captureForReplay orderIdOf fails body w).inFlight = w.inFlight := by
  unfold DLQHandler.captureForReplay; split <;> rfl

/-- The order.created handler changes the products only by its own reservation, and keeps
it whatever happens after. -/
theorem OrderCreatedEventHandler.handle_products :
    (OrderCreatedEventHandler.handle fails body w).products =
      match OrderCreatedEvent.unmarshal body with
      | some e =>
        match checkAndReserveProduct (fails .reserveProduct) e.product.id e.product.quantity
            w.products with
        | some (true, products) => products
        | _ => w.products
      | none => w.products := by
  unfold OrderCreatedEventHandler.handle OrderCreatedEventHandler.sendToDLQ
  dsimp only
  repeat' split
  all_goals simp_all

/-- The order.cancelled handler changes the products only by its own release, and keeps it
whatever happens after. -/
theorem OrderCancelledEventHandler.handle_products :
    (OrderCancelledEventHandler.handle fails body w).products =
      match OrderCancelledEvent.unmarshal body with
      | some e =>
        match getOrderByID (fails .getOrder) e.orderId w.orders with
        | some (some order) =>
          (releaseReservedProduct (fails .releaseProduct) order.product.id order.product.quantity
            w.products).getD w.products
        | _ => w.products
      | none => w.products := by
  unfold OrderCancelledEventHandler.handle OrderCancelledEventHandler.sendToDLQ
  dsimp only
  repeat' split
  all_goals simp_all

/-- The orders after the order.requested handler: the `CreateOrder` insert of a body that decodes
and validates, whatever its publish does afterwards. -/
theorem OrderRequestedEventHandler.handle_orders :
    (OrderRequestedEventHandler.handle fails body w).orders =
      match OrderRequestedEvent.unmarshal body with
      | some e =>
        match e.validate with
        | .ok () =>
          ((createOrder (fails .createOrder)
            { id := e.id, amount := e.amount, status := "Processing",
              product := ⟨e.product.id, e.product.name, e.product.quantity⟩ } w.orders).map
            Prod.snd).getD w.orders
        | .error _ => w.orders
      | none => w.orders := by
  unfold OrderRequestedEventHandler.handle OrderRequestedEventHandler.publishOrderCreatedEvent
  dsimp only
  repeat' split
  all_goals simp_all

/-- The orders after the order.created handler: the `Confirmed` update once the reservation
succeeded, and nothing otherwise. -/
theorem OrderCreatedEventHandler.handle_orders :
    (OrderCreatedEventHandler.handle fails body w).orders =
      match OrderCreatedEvent.unmarshal body with
      | some e =>
        match checkAndReserveProduct (fails .reserveProduct) e.product.id e.product.quantity
            w.products with
        | some (true, _) =>
          (updateOrder (fails .updateOrder) e.id { status := some "Confirmed" } w.orders).getD w.orders
        | _ => w.orders
      | none => w.orders := by
  unfold OrderCreatedEventHandler.handle OrderCreatedEventHandler.sendToDLQ
  dsimp only
  repeat' split
  all_goals simp_all

/-- The orders after the order.cancelled handler: the `Cancelled` update once the order was found
and its quantity released, and nothing otherwise. -/
theorem OrderCancelledEventHandler.handle_orders :
    (OrderCancelledEventHandler.handle fails body w).orders =
      match OrderCancelledEvent.unmarshal body with
      | some e =>
        match getOrderByID (fails .getOrder) e.orderId w.orders with
        | some (some order) =>
          match releaseReservedProduct (fails .releaseProduct) order.product.id order.product.quantity
              w.products with
          | some _ =>
            (updateOrder (fails .updateOrder) e.orderId { status := some "Cancelled" } w.orders).getD
              w.orders
          | none => w.orders
        | _ => w.orders
      | none => w.orders := by
  unfold OrderCancelledEventHandler.handle OrderCancelledEventHandler.sendToDLQ
  dsimp only
  repeat' split
  all_goals simp_all

/-- The orders after the notification.sent handler: the notification fields written on the order the
event names. -/
theorem NotificationSentEventHandler.handle_orders :
    (NotificationSentEventHandler.handle fails body w).orders =
      match NotificationSentEvent.unmarshal body with
      | some e =>
        (updateOrder (fails .updateOrder) e.orderId
          { notificationStatus := some "sent", notificationMessage := some e.message } w.orders).getD
          w.orders
      | none => w.orders := by
  unfold NotificationSentEventHandler.handle
  repeat' split
  all_goals simp_all

end Frames

end OrderSaga
