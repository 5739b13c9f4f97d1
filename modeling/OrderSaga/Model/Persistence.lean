import OrderSaga.Model.Collection
import OrderSaga.Model.Events
import Mathlib.Data.List.Sort

/-!
# The order repository and the event store

`mongo_order_repository.go` and `order_event_repository.go`: the `orders` collection
the saga handlers read and update, and the `order_events` collection that dead-letter
capture writes and the replay coordinator drains. As in `OrderSaga.Model.Inventory`,
each call takes the flag `err` that says whether the driver returns an error this
time; a failed call leaves its collection as it was.

Event records get their ObjectID and their creation time from one counter, `clock`:
ids are unique and creation times strictly increase in insertion order.
-/

set_option autoImplicit false

namespace OrderSaga.Persistence

/-! ## Orders -/

/-- `persistence.ProductDocument`: the product snapshot stored with an order. -/
structure ProductDocument where
  id : String
  name : String
  quantity : Int
  deriving DecidableEq, Repr

/-- A document of `orders`: the fields of `OrderDocument` (its `CreatedAt` is read by
nothing) and the two fields the notification.sent handler adds with `$set`. -/
structure OrderDocument where
  id : String
  amount : ℚ
  status : String
  product : ProductDocument
  notificationStatus : Option String := none
  notificationMessage : Option String := none
  deriving DecidableEq

/-- The `$set` document of an `UpdateOrder` call: the fields it names. -/
structure OrderUpdate where
  status : Option String := none
  notificationStatus : Option String := none
  notificationMessage : Option String := none

/-- `$set` of an `OrderUpdate` on one document. -/
def OrderUpdate.apply (u : OrderUpdate) (d : OrderDocument) : OrderDocument :=
  { d with
    status := u.status.getD d.status
    notificationStatus := u.notificationStatus <|> d.notificationStatus
    notificationMessage := u.notificationMessage <|> d.notificationMessage }

/-- `OrderRepository.CreateOrder`: `InsertOne` of a copy of the document, returning its id. -/
def createOrder (err : Bool) (order : OrderDocument) (orders : List OrderDocument) :
    Option (String × List OrderDocument) :=
  if err then none
  else some (order.id, orders ++ [⟨order.id, order.amount, order.status, order.product, none, none⟩])

/-- The id `CreateOrder` returns is the document's. -/
theorem createOrder_id {err : Bool} {order : OrderDocument} {orders orders' : List OrderDocument}
    {id : String} (h : createOrder err order orders = some (id, orders')) : id = order.id := by
  unfold createOrder at h
  split at h
  · cases h
  · cases h; rfl

/-- `OrderRepository.GetOrderByID`: `FindOne` on the id, then `Decode`. Go's
`(*OrderDocument, error)`: `none` is an error, and a missing document is the error
`ErrNoDocuments`, so the result is never `some none`. -/
def getOrderByID (err : Bool) (id : String) (orders : List OrderDocument) :
    Option (Option OrderDocument) :=
  if err then none else (orders.find? (·.id == id)).map some

/-- `OrderRepository.UpdateOrder`: `UpdateOne` on the first order with the id; no match
is not an error. -/
def updateOrder (err : Bool) (id : String) (update : OrderUpdate) (orders : List OrderDocument) :
    Option (List OrderDocument) :=
  if err then none else some (updateFirst (·.id == id) update.apply orders)

/-! ## The event store -/

/-- The status constants of `order_events` (`events.EventStatus*`). -/
inductive EventStatus where
  | pending
  | failed
  | completed
  | replaying
  deriving DecidableEq, Repr

/-- `persistence.OrderEvent`. The payload is a JSON value: both inserting functions
reject anything else. `ReplayedAt` is written on completion and read by nothing. -/
structure OrderEvent where
  id : Nat
  orderId : String
  eventData : JsonValue
  createdAt : Nat
  replayed : Bool
  status : EventStatus

/-- The `order_events` collection and the source of fresh ObjectIDs and timestamps. -/
structure EventStore where
  events : List OrderEvent
  clock : Nat

/-- `InsertOne` of a fresh, not yet replayed record. -/
def EventStore.insert (s : EventStore) (orderID : String) (data : JsonValue)
    (status : EventStatus) : EventStore :=
  ⟨s.events ++ [⟨s.clock, orderID, data, s.clock, false, status⟩], s.clock + 1⟩

/-- `OrderRepository.StoreEventForReplay`: bytes that are not valid JSON are refused
("invalid JSON event data"); otherwise one `failed` record is inserted. -/
def storeEventForReplay (err : Bool) (orderID : String) (eventData : Body) (s : EventStore) :
    Option EventStore :=
  match eventData with
  | .malformed _ => none
  | .json v => if err then none else some (s.insert orderID v .failed)

/-- `OrderRepository.StoreEventAsPending`: as `storeEventForReplay`, with status
`pending`, returning the new record's id. -/
def storeEventAsPending (err : Bool) (orderID : String) (eventData : Body) (s : EventStore) :
    Option (Nat × EventStore) :=
  match eventData with
  | .malformed _ => none
  | .json v => if err then none else some (s.clock, s.insert orderID v .pending)

/-- The filter of `GetUnreplayedEvents`: `replayed != true` and status in
`{pending, failed}`. -/
def OrderEvent.unreplayed (e : OrderEvent) : Bool :=
  !e.replayed && (e.status == .pending || e.status == .failed)

/-- The sort of `GetUnreplayedEvents`: `createdAt` ascending. -/
def OrderEvent.createdBefore (a b : OrderEvent) : Prop := a.createdAt ≤ b.createdAt

/-- The `createdAt` order is decided by comparing the timestamps. -/
instance : DecidableRel OrderEvent.createdBefore := fun a b =>
  inferInstanceAs (Decidable (a.createdAt ≤ b.createdAt))

/-- `OrderRepository.GetUnreplayedEvents`: `Find` with the filter, sorted oldest first,
with `SetLimit(limit)`, which MongoDB reads as no limit when `limit` is `0`. Records with
equal `createdAt`, whose order MongoDB leaves open, keep their store order. The only
caller passes `100`; a negative limit is not modelled. -/
def getUnreplayedEvents (err : Bool) (limit : Nat) (s : EventStore) : Option (List OrderEvent) :=
  if err then none
  else
    let sorted := (s.events.filter OrderEvent.unreplayed).insertionSort OrderEvent.createdBefore
    some (if limit = 0 then sorted else sorted.take limit)

/-- `UpdateOne` on `{"_id": eventID}`. -/
def EventStore.setById (eventID : Nat) (f : OrderEvent → OrderEvent) (s : EventStore) :
    EventStore :=
  { s with events := updateFirst (·.id == eventID) f s.events }

/-- `OrderRepository.MarkEventAsReplaying`: `$set` of the status alone. -/
def markEventAsReplaying (err : Bool) (eventID : Nat) (s : EventStore) : Option EventStore :=
  if err then none else some (s.setById eventID ({ · with status := .replaying }))

/-- `OrderRepository.MarkEventAsCompleted`: `$set` of the status and `replayed = true`. -/
def markEventAsCompleted (err : Bool) (eventID : Nat) (s : EventStore) : Option EventStore :=
  if err then none else some (s.setById eventID ({ · with status := .completed, replayed := true }))

/-- `OrderRepository.MarkEventAsFailed`: `$set` of the status alone, `replayed` untouched. -/
def markEventAsFailed (err : Bool) (eventID : Nat) (s : EventStore) : Option EventStore :=
  if err then none else some (s.setById eventID ({ · with status := .failed }))

end OrderSaga.Persistence
