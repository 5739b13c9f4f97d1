import OrderSaga.Model.Handlers
import OrderSaga.Model.OrderService

/-!
# The system as a message-passing state machine

A step is one of: an `OrderService.CreateOrder` or `CancelOrder` call, one complete
invocation of the handler `main.go` registers for a message in flight (the message is
taken off the broker, so each is consumed at most once, in any order), or one
`ReplayFailedEvents` run. Every step carries its `Faults`, so any collaborator call or
publish may fail. The inventory endpoints are not steps: nothing in the choreography
calls them.

`run` executes a list of actions and is what concrete traces are evaluated with;
`reachable_of_run` turns such a trace into a `Reachable` state.
-/

set_option autoImplicit false

namespace OrderSaga

open Events

/-- The handlers `main.go` registers with `RegisterHandler`, by queue. -/
def handlers : List (String × (Faults → Body → World → World)) :=
  [(orderRequested, OrderRequestedEventHandler.handle),
    (orderCreated, OrderCreatedEventHandler.handle),
    (orderCancelled, OrderCancelledEventHandler.handle),
    (inventoryStatusUpdated, InventoryStatusUpdatedEventHandler.handle),
    (notificationSent, NotificationSentEventHandler.handle),
    ("order.created.dlq", DLQHandler.handleOrderCreatedDLQ),
    ("order.cancelled.dlq", DLQHandler.handleOrderCancelledDLQ),
    ("inventory.status.updated.dlq", DLQHandler.handleInventoryStatusUpdatedDLQ)]

/-- The handler the listener of a queue passes its messages to. -/
def dispatch (topic : String) : Option (Faults → Body → World → World) :=
  (handlers.find? (·.1 == topic)).map (·.2)

/-- One step of the system, with the failures of its calls. -/
inductive Action where
  | createOrder (order : Domain.Order) (fails : Faults)
  | cancelOrder (orderID : String) (fails : Faults)
  /-- Hand the `index`-th message in flight to its queue's handler. -/
  | deliver (index : Nat) (fails : Faults)
  | replay (fails : Faults)

/-- The world after an action; `none` when a delivery names no message with a handler. -/
def step (w : World) : Action → Option World
  | .createOrder order fails => some (OrderService.createOrder fails order w).2
  | .cancelOrder orderID fails => some (OrderService.cancelOrder fails orderID w).2
  | .deliver i fails =>
    (w.inFlight[i]?).bind fun m =>
      (dispatch m.topic).map fun handler =>
        handler fails m.body { w with inFlight := w.inFlight.eraseIdx i }
  | .replay fails => some (OrderService.replayFailedEvents fails w).2

/-- What holds of each of the eight handlers of `main.go`, with its queue, holds of every
registered handler. -/
theorem dispatch_rec {P : String → (Faults → Body → World → World) → Prop}
    (requested : P orderRequested OrderRequestedEventHandler.handle)
    (created : P orderCreated OrderCreatedEventHandler.handle)
    (cancelled : P orderCancelled OrderCancelledEventHandler.handle)
    (statusUpdated : P inventoryStatusUpdated InventoryStatusUpdatedEventHandler.handle)
    (notified : P notificationSent NotificationSentEventHandler.handle)
    (createdDLQ : P "order.created.dlq" DLQHandler.handleOrderCreatedDLQ)
    (cancelledDLQ : P "order.cancelled.dlq" DLQHandler.handleOrderCancelledDLQ)
    (statusUpdatedDLQ : P "inventory.status.updated.dlq" DLQHandler.handleInventoryStatusUpdatedDLQ)
    {topic : String} {handler : Faults → Body → World → World} (h : dispatch topic = some handler) :
    P topic handler := by
  obtain ⟨e, he, rfl⟩ := Option.map_eq_some'.1 h
  obtain rfl : e.1 = topic := by simpa using List.find?_some he
  have hmem := List.mem_of_find?_eq_some he
  simp only [handlers, List.mem_cons, List.mem_singleton, List.not_mem_nil, or_false] at hmem
  rcases hmem with rfl | rfl | rfl | rfl | rfl | rfl | rfl | rfl <;> assumption

/-- A delivery takes the message off the broker and runs its queue's handler. -/
theorem step_deliver_eq_some {w w' : World} {i : Nat} {fails : Faults} :
    step w (.deliver i fails) = some w' ↔
      ∃ m handler, w.inFlight[i]? = some m ∧ dispatch m.topic = some handler ∧
        w' = handler fails m.body { w with inFlight := w.inFlight.eraseIdx i } := by
  simp only [step, Option.bind_eq_some, Option.map_eq_some']
  constructor
  · rintro ⟨m, hm, handler, hd, rfl⟩; exact ⟨m, handler, hm, hd, rfl⟩
  · rintro ⟨m, handler, hm, hd, rfl⟩; exact ⟨m, hm, handler, hd, rfl⟩

/-- The order.requested queue is consumed by the order.requested handler. -/
theorem dispatch_orderRequested : dispatch orderRequested = some OrderRequestedEventHandler.handle := rfl

/-- The order.created queue is consumed by the order.created handler. -/
theorem dispatch_orderCreated : dispatch orderCreated = some OrderCreatedEventHandler.handle := rfl

/-- The order.cancelled queue is consumed by the order.cancelled handler. -/
theorem dispatch_orderCancelled : dispatch orderCancelled = some OrderCancelledEventHandler.handle := rfl

/-- The inventory.status.updated queue is consumed by the inventory.status.updated handler. -/
theorem dispatch_inventoryStatusUpdated :
    dispatch inventoryStatusUpdated = some InventoryStatusUpdatedEventHandler.handle := rfl

/-- The notification.sent queue is consumed by the notification.sent handler. -/
theorem dispatch_notificationSent : dispatch notificationSent = some NotificationSentEventHandler.handle := rfl

/-- The order.created dead-letter queue is consumed by its capture handler. -/
theorem dispatch_orderCreatedDLQ : dispatch "order.created.dlq" = some DLQHandler.handleOrderCreatedDLQ := rfl

/-- A `createOrder` step is one `CreateOrder` call. -/
theorem step_createOrder (w : World) (order : Domain.Order) (fails : Faults) :
    step w (.createOrder order fails) = some (OrderService.createOrder fails order w).2 := rfl

/-- The oldest message in flight is handed to its queue's handler. -/
theorem step_deliver_head (orders : List Persistence.OrderDocument) (products : List Inventory.Product)
    (store : Persistence.EventStore)
    (m : Message) (rest : List Message) (fails : Faults) :
    step ⟨orders, products, store, m :: rest⟩ (.deliver 0 fails) =
      (dispatch m.topic).map fun handler => handler fails m.body ⟨orders, products, store, rest⟩ := by
  simp [step]

/-- No orders, no stored events, nothing in flight, and the given products. -/
def World.init (products : List Inventory.Product) : World := ⟨[], products, ⟨[], 0⟩, []⟩

/-- The states reachable from `World.init products`. -/
inductive Reachable (products : List Inventory.Product) : World → Prop where
  | init : Reachable products (World.init products)
  | step {w w' : World} (a : Action) : Reachable products w → step w a = some w' →
      Reachable products w'

/-- Execute actions in order, stopping at the first that cannot be taken. -/
def run (w : World) : List Action → Option World
  | [] => some w
  | a :: as => (step w a).bind fun w' => run w' as

/-- Every state a run from a reachable state ends in is reachable. -/
theorem reachable_run {products : List Inventory.Product} {w w' : World}
    (hw : Reachable products w) (as : List Action) (h : run w as = some w') :
    Reachable products w' := by
  induction as generalizing w with
  | nil => cases h; exact hw
  | cons a as ih =>
    simp only [run, Option.bind_eq_some] at h
    obtain ⟨w₁, h₁, h₂⟩ := h
    exact ih (.step a hw h₁) h₂

end OrderSaga
