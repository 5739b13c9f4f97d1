import OrderSaga.Model.Json

/-!
# The event envelopes

The five envelope types of package `events` (`events.go`), each with the `Validate`
method the source gives it, its `json.Marshal` encoding and its `json.Unmarshal`
decoding. The `TimeStamp` field is written by every publisher and read by nothing, so
it is not kept: marshalling leaves it out and decoding only checks that a `timestamp`
member is `null` or a text `time.Parse` reads as RFC 3339 (`decodeTime`), which is where a
bad one makes `Unmarshal` fail.

`unmarshal_marshal` for each type is the round trip every handler relies on when it
decodes what another handler published.
-/

set_option autoImplicit false

namespace OrderSaga.Events

/-! ## Routing keys and status constants -/

/-- `events.OrderRequested`. -/
def orderRequested : String := "order.requested"
/-- `events.OrderCreated`. -/
def orderCreated : String := "order.created"
/-- `events.OrderCancelled`. -/
def orderCancelled : String := "order.cancelled"
/-- `events.InventoryStatusUpdated`. -/
def inventoryStatusUpdated : String := "inventory.status.updated"
/-- `events.NotificationSent`. -/
def notificationSent : String := "notification.sent"

/-- `events.OrderStatusRequested`. -/
def orderStatusRequested : String := "Requested"
/-- `events.OrderStatusCancelled`. -/
def orderStatusCancelled : String := "Cancelled"

/-! ## `events.Product` -/

/-- The product snapshot an order event carries. -/
structure Product where
  id : String
  name : String
  quantity : Int

/-- The zero `Product`. -/
def Product.zero : Product := ⟨"", "", 0⟩

/-- One member of a JSON object decoded into a `Product`. -/
def Product.setField (p : Product) (key : String) (v : JsonValue) : Option Product :=
  if keyMatches key "id" then (decodeString p.id v).map ({ p with id := · })
  else if keyMatches key "name" then (decodeString p.name v).map ({ p with name := · })
  else if keyMatches key "quantity" then (decodeInt p.quantity v).map ({ p with quantity := · })
  else some p

/-- `json.Marshal` of a `Product`. -/
def Product.marshal (p : Product) : JsonValue :=
  .object [("id", .string p.id), ("name", .string p.name), ("quantity", .int p.quantity)]

/-- Decoding a member into a struct's `product` field decodes into the value already there. -/
@[simp] theorem Product.decodeInto_marshal (old p : Product) :
    decodeInto Product.setField old p.marshal = some p := rfl

/-- The event `OrderService.CreateOrder` publishes. -/
structure OrderRequestedEvent where
  id : String
  product : Product
  amount : ℚ
  status : String
  version : Int

/-- The zero `OrderRequestedEvent`. -/
def OrderRequestedEvent.zero : OrderRequestedEvent := ⟨"", Product.zero, 0, "", 0⟩

/-- One member of a JSON object decoded into an `OrderRequestedEvent`. -/
def OrderRequestedEvent.setField (e : OrderRequestedEvent) (key : String) (v : JsonValue) :
    Option OrderRequestedEvent :=
  if keyMatches key "id" then (decodeString e.id v).map ({ e with id := · })
  else if keyMatches key "product" then (decodeInto Product.setField e.product v).map ({ e with product := · })
  else if keyMatches key "amount" then (decodeFloat e.amount v).map ({ e with amount := · })
  else if keyMatches key "status" then (decodeString e.status v).map ({ e with status := · })
  else if keyMatches key "version" then (decodeInt e.version v).map ({ e with version := · })
  else if keyMatches key "timestamp" then (decodeTime v).map fun _ => e
  else some e

/-- `json.Unmarshal` into an `OrderRequestedEvent`. -/
def OrderRequestedEvent.unmarshal (b : Body) : Option OrderRequestedEvent :=
  b.unmarshal OrderRequestedEvent.setField OrderRequestedEvent.zero

/-- `json.Marshal` of an `OrderRequestedEvent`. -/
def OrderRequestedEvent.marshal (e : OrderRequestedEvent) : JsonValue :=
  .object [("id", .string e.id), ("product", e.product.marshal), ("amount", marshalFloat e.amount),
    ("status", .string e.status), ("version", .int e.version)]

/-- `OrderRequestedEvent.Validate`: the amount is not checked. -/
def OrderRequestedEvent.validate (e : OrderRequestedEvent) : Except String Unit :=
  if e.id = "" ∨ e.product.id = "" ∨ e.product.quantity ≤ 0 then
    .error "missing required fields in OrderRequestedEvent"
  else .ok ()

/-! ## `events.OrderCreatedEvent` -/

/-- The event the order.requested handler publishes once the order is stored. -/
structure OrderCreatedEvent where
  id : String
  product : Product
  amount : ℚ
  status : String
  version : Int

/-- The zero `OrderCreatedEvent`. -/
def OrderCreatedEvent.zero : OrderCreatedEvent := ⟨"", Product.zero, 0, "", 0⟩

/-- One member of a JSON object decoded into an `OrderCreatedEvent`. -/
def OrderCreatedEvent.setField (e : OrderCreatedEvent) (key : String) (v : JsonValue) :
    Option OrderCreatedEvent :=
  if keyMatches key "id" then (decodeString e.id v).map ({ e with id := · })
  else if keyMatches key "product" then (decodeInto Product.setField e.product v).map ({ e with product := · })
  else if keyMatches key "amount" then (decodeFloat e.amount v).map ({ e with amount := · })
  else if keyMatches key "status" then (decodeString e.status v).map ({ e with status := · })
  else if keyMatches key "version" then (decodeInt e.version v).map ({ e with version := · })
  else if keyMatches key "timestamp" then (decodeTime v).map fun _ => e
  else some e

/-- `json.Unmarshal` into an `OrderCreatedEvent`. -/
def OrderCreatedEvent.unmarshal (b : Body) : Option OrderCreatedEvent :=
  b.unmarshal OrderCreatedEvent.setField OrderCreatedEvent.zero

/-- `json.Marshal` of an `OrderCreatedEvent`. -/
def OrderCreatedEvent.marshal (e : OrderCreatedEvent) : JsonValue :=
  .object [("id", .string e.id), ("product", e.product.marshal), ("amount", marshalFloat e.amount),
    ("status", .string e.status), ("version", .int e.version)]

/-- `OrderCreatedEvent.Validate`: neither the quantity nor the amount is checked. -/
def OrderCreatedEvent.validate (e : OrderCreatedEvent) : Except String Unit :=
  if e.id = "" ∨ e.product.id = "" ∨ e.status = "" then
    .error "missing required fields in OrderCreatedEvent"
  else .ok ()

/-! ## `events.OrderCancelledEvent` -/

/-- The event that asks the inventory side to release an order's stock. -/
structure OrderCancelledEvent where
  orderId : String
  status : String
  version : Int

/-- The zero `OrderCancelledEvent`. -/
def OrderCancelledEvent.zero : OrderCancelledEvent := ⟨"", "", 0⟩

/-- One member of a JSON object decoded into an `OrderCancelledEvent`. -/
def OrderCancelledEvent.setField (e : OrderCancelledEvent) (key : String) (v : JsonValue) :
    Option OrderCancelledEvent :=
  if keyMatches key "orderId" then (decodeString e.orderId v).map ({ e with orderId := · })
  else if keyMatches key "status" then (decodeString e.status v).map ({ e with status := · })
  else if keyMatches key "version" then (decodeInt e.version v).map ({ e with version := · })
  else if keyMatches key "timestamp" then (decodeTime v).map fun _ => e
  else some e

/-- `json.Unmarshal` into an `OrderCancelledEvent`. -/
def OrderCancelledEvent.unmarshal (b : Body) : Option OrderCancelledEvent :=
  b.unmarshal OrderCancelledEvent.setField OrderCancelledEvent.zero

/-- `json.Marshal` of an `OrderCancelledEvent`. -/
def OrderCancelledEvent.marshal (e : OrderCancelledEvent) : JsonValue :=
  .object [("orderId", .string e.orderId), ("status", .string e.status), ("version", .int e.version)]

/-- `OrderCancelledEvent.Validate`. -/
def OrderCancelledEvent.validate (e : OrderCancelledEvent) : Except String Unit :=
  if e.orderId = "" ∨ e.status = "" then .error "missing required fields in OrderCancelledEvent"
  else .ok ()

/-! ## `events.InventoryStatusUpdatedEvent` -/

/-- The event the order.created handler publishes after trying to reserve stock. -/
structure InventoryStatusUpdatedEvent where
  orderId : String
  productId : String
  hasStock : Bool
  version : Int

/-- The zero `InventoryStatusUpdatedEvent`. -/
def InventoryStatusUpdatedEvent.zero : InventoryStatusUpdatedEvent := ⟨"", "", false, 0⟩

/-- One member of a JSON object decoded into an `InventoryStatusUpdatedEvent`. -/
def InventoryStatusUpdatedEvent.setField (e : InventoryStatusUpdatedEvent) (key : String)
    (v : JsonValue) : Option InventoryStatusUpdatedEvent :=
  if keyMatches key "orderId" then (decodeString e.orderId v).map ({ e with orderId := · })
  else if keyMatches key "productId" then (decodeString e.productId v).map ({ e with productId := · })
  else if keyMatches key "hasStock" then (decodeBool e.hasStock v).map ({ e with hasStock := · })
  else if keyMatches key "version" then (decodeInt e.version v).map ({ e with version := · })
  else if keyMatches key "timestamp" then (decodeTime v).map fun _ => e
  else some e

/-- `json.Unmarshal` into an `InventoryStatusUpdatedEvent`. -/
def InventoryStatusUpdatedEvent.unmarshal (b : Body) : Option InventoryStatusUpdatedEvent :=
  b.unmarshal InventoryStatusUpdatedEvent.setField InventoryStatusUpdatedEvent.zero

/-- `json.Marshal` of an `InventoryStatusUpdatedEvent`. -/
def InventoryStatusUpdatedEvent.marshal (e : InventoryStatusUpdatedEvent) : JsonValue :=
  .object [("orderId", .string e.orderId), ("productId", .string e.productId),
    ("hasStock", .bool e.hasStock), ("version", .int e.version)]

/-- `InventoryStatusUpdatedEvent.Validate`. -/
def InventoryStatusUpdatedEvent.validate (e : InventoryStatusUpdatedEvent) : Except String Unit :=
  if e.orderId = "" ∨ e.productId = "" then
    .error "missing required fields in InventoryStatusUpdatedEvent"
  else .ok ()

/-! ## `events.NotificationSentEvent` -/

/-- The event that closes the chain once the customer has been notified. -/
structure NotificationSentEvent where
  orderId : String
  message : String
  version : Int

/-- The zero `NotificationSentEvent`. -/
def NotificationSentEvent.zero : NotificationSentEvent := ⟨"", "", 0⟩

/-- One member of a JSON object decoded into a `NotificationSentEvent`. -/
def NotificationSentEvent.setField (e : NotificationSentEvent) (key : String) (v : JsonValue) :
    Option NotificationSentEvent :=
  if keyMatches key "orderId" then (decodeString e.orderId v).map ({ e with orderId := · })
  else if keyMatches key "message" then (decodeString e.message v).map ({ e with message := · })
  else if keyMatches key "version" then (decodeInt e.version v).map ({ e with version := · })
  else if keyMatches key "timestamp" then (decodeTime v).map fun _ => e
  else some e

/-- `json.Unmarshal` into a `NotificationSentEvent`. -/
def NotificationSentEvent.unmarshal (b : Body) : Option NotificationSentEvent :=
  b.unmarshal NotificationSentEvent.setField NotificationSentEvent.zero

/-- `json.Marshal` of a `NotificationSentEvent`. -/
def NotificationSentEvent.marshal (e : NotificationSentEvent) : JsonValue :=
  .object [("orderId", .string e.orderId), ("message", .string e.message), ("version", .int e.version)]

/-- `NotificationSentEvent.Validate`. -/
def NotificationSentEvent.validate (e : NotificationSentEvent) : Except String Unit :=
  if e.orderId = "" ∨ e.message = "" then .error "missing required fields in NotificationSentEvent"
  else .ok ()

/-! ## Round trips -/

/-- An `OrderRequestedEvent` decodes back from its JSON. -/
@[simp] theorem OrderRequestedEvent.unmarshal_marshal (e : OrderRequestedEvent) :
    OrderRequestedEvent.unmarshal (.json e.marshal) = some e := by
  simp [unmarshal, marshal, Body.unmarshal, decodeInto, setField]
  rfl

/-- An `OrderCreatedEvent` decodes back from its JSON. -/
@[simp] theorem OrderCreatedEvent.unmarshal_marshal (e : OrderCreatedEvent) :
    OrderCreatedEvent.unmarshal (.json e.marshal) = some e := by
  simp [unmarshal, marshal, Body.unmarshal, decodeInto, setField]
  rfl

/-- An `OrderCancelledEvent` decodes back from its JSON. -/
@[simp] theorem OrderCancelledEvent.unmarshal_marshal (e : OrderCancelledEvent) :
    OrderCancelledEvent.unmarshal (.json e.marshal) = some e := rfl

/-- An `InventoryStatusUpdatedEvent` decodes back from its JSON. -/
@[simp] theorem InventoryStatusUpdatedEvent.unmarshal_marshal (e : InventoryStatusUpdatedEvent) :
    InventoryStatusUpdatedEvent.unmarshal (.json e.marshal) = some e := rfl

/-- A `NotificationSentEvent` decodes back from its JSON. -/
@[simp] theorem NotificationSentEvent.unmarshal_marshal (e : NotificationSentEvent) :
    NotificationSentEvent.unmarshal (.json e.marshal) = some e := rfl

/-! ## What `Validate` accepts -/

/-- What `OrderRequestedEvent.Validate` accepts: both ids set and a positive quantity. -/
theorem OrderRequestedEvent.validate_eq_ok (e : OrderRequestedEvent) :
    e.validate = .ok () ↔ e.id ≠ "" ∧ e.product.id ≠ "" ∧ 0 < e.product.quantity := by
  simp [validate, Int.not_le]

/-- What `OrderCreatedEvent.Validate` accepts: both ids and the status set. -/
theorem OrderCreatedEvent.validate_eq_ok (e : OrderCreatedEvent) :
    e.validate = .ok () ↔ e.id ≠ "" ∧ e.product.id ≠ "" ∧ e.status ≠ "" := by
  simp [validate]

/-- What `OrderCancelledEvent.Validate` accepts: the order id and the status set. -/
theorem OrderCancelledEvent.validate_eq_ok (e : OrderCancelledEvent) :
    e.validate = .ok () ↔ e.orderId ≠ "" ∧ e.status ≠ "" := by
  simp [validate]

/-- What `InventoryStatusUpdatedEvent.Validate` accepts: both ids set. -/
theorem InventoryStatusUpdatedEvent.validate_eq_ok (e : InventoryStatusUpdatedEvent) :
    e.validate = .ok () ↔ e.orderId ≠ "" ∧ e.productId ≠ "" := by
  simp [validate]

/-- What `NotificationSentEvent.Validate` accepts: the order id and the message set. -/
theorem NotificationSentEvent.validate_eq_ok (e : NotificationSentEvent) :
    e.validate = .ok () ↔ e.orderId ≠ "" ∧ e.message ≠ "" := by
  simp [validate]

end OrderSaga.Events
