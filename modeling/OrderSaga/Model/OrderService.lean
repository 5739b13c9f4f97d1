import OrderSaga.Model.Broker

/-!
# The order service

`order_service.go`: the two entry points that start a chain (`CreateOrder`,
`CancelOrder`), each publishing one validated event with two attempts, and the replay
coordinator `ReplayFailedEvents`. Each returns the Go result (an id or an error
message, or the replay error) together with the world after the call.

The replay loop is `replayLoop`, one record per iteration: mark it `replaying` (a
failure is only logged), republish its stored payload under the fixed routing key
`order.created` with up to three attempts, then mark it `completed` or `failed`.
-/

set_option autoImplicit false

namespace OrderSaga

open Events Persistence

/-! ## Starting and cancelling an order -/

/-- `domain.Product`. -/
structure Domain.Product where
  id : String
  name : String
  quantity : Int

/-- `domain.Order`, as the order controller fills it in. -/
structure Domain.Order where
  id : String
  amount : ℚ
  status : String
  product : Domain.Product

namespace OrderService

/-- `orderService.CreateOrder`: field checks, the `OrderRequested` event, its `Validate`,
then up to two publishes. -/
def createOrder (fails : Faults) (order : Domain.Order) (w : World) : Except String String × World :=
  if order.id = "" then (.error "order ID is required", w)
  else if order.product.id = "" then (.error "product ID is required", w)
  else if order.product.quantity ≤ 0 then (.error "product quantity must be greater than 0", w)
  else if order.amount ≤ 0 then (.error "order amount must be greater than 0", w)
  else
    let event : OrderRequestedEvent :=
      ⟨order.id, ⟨order.product.id, order.product.name, order.product.quantity⟩, order.amount,
        orderStatusRequested, 1⟩
    match event.validate with
    | .error msg => (.error ("invalid order request: " ++ msg), w)
    | .ok () =>
      match w.publishWithRetry (fun a => fails (.publish orderRequested a)) orderRequested
          (.json event.marshal) 1 2 with
      | none => (.error "failed to publish order request", w)
      | some w' => (.ok order.id, w')

/-- `orderService.CancelOrder`: publish an `OrderCancelled` event for the id. -/
def cancelOrder (fails : Faults) (orderID : String) (w : World) : Except String Unit × World :=
  if orderID = "" then (.error "order ID is required for cancellation", w)
  else
    let event : OrderCancelledEvent := ⟨orderID, orderStatusCancelled, 1⟩
    match event.validate with
    | .error msg => (.error ("invalid cancellation request: " ++ msg), w)
    | .ok () =>
      match w.publishWithRetry (fun a => fails (.publish orderCancelled a)) orderCancelled
          (.json event.marshal) 1 2 with
      | none => (.error "failed to publish cancellation event", w)
      | some w' => (.ok (), w')

/-! ## Replay -/

/-- The errors `ReplayFailedEvents` returns. -/
inductive ReplayError where
  /-- "failed to fetch unreplayed events: …" -/
  | fetch
  /-- "replay completed with `failureCount` failures out of `total` events" -/
  | failures (failureCount total : Nat)
  deriving DecidableEq, Repr

/-- Replaying one fetched record: mark it `replaying`, republish, settle its status.
Returns the world and whether it counts as a success and as a failure. -/
def replayOne (fails : Faults) (evt : OrderEvent) (w : World) : World × Bool × Bool :=
  let w := ((markEventAsReplaying (fails (.markReplaying evt.id)) evt.id w.store).map
    fun store => { w with store }).getD w
  match w.publishWithRetry (fun a => fails (.replayPublish evt.id a)) orderCreated
      (.json evt.eventData) 1 3 with
  | some w =>
    match markEventAsCompleted (fails (.markCompleted evt.id)) evt.id w.store with
    | some store => ({ w with store }, true, false)
    | none => (w, false, false)
  | none =>
    (((markEventAsFailed (fails (.markFailed evt.id)) evt.id w.store).map
      fun store => { w with store }).getD w, false, true)

/-- The `for _, evt := range events` loop, with its two counters. -/
def replayLoop (fails : Faults) : List OrderEvent → World → Nat → Nat → World × Nat × Nat
  | [], w, successCount, failureCount => (w, successCount, failureCount)
  | evt :: rest, w, successCount, failureCount =>
    let (w, ok, failed) := replayOne fails evt w
    replayLoop fails rest w (successCount + if ok then 1 else 0)
      (failureCount + if failed then 1 else 0)

/-- `orderService.ReplayFailedEvents`: one batch of at most 100 records. -/
def replayFailedEvents (fails : Faults) (w : World) : Except ReplayError Unit × World :=
  match getUnreplayedEvents (fails .fetchEvents) 100 w.store with
  | none => (.error .fetch, w)
  | some [] => (.ok (), w)
  | some events =>
    let (w, _, failureCount) := replayLoop fails events w 0 0
    (if failureCount > 0 then .error (.failures failureCount events.length) else .ok (), w)

/-! ## What the service writes

`CreateOrder` and `CancelOrder` only publish; a replay run writes the event store and
publishes, and never touches the orders or the products.
-/

section Frames

variable (fails : Faults) (w : World)

/-- `CreateOrder` leaves the world as it was, or publishes one message. -/
theorem createOrder_cases (order : Domain.Order) :
    (createOrder fails order w).2 = w ∨ ∃ m, (createOrder fails order w).2 = { w with inFlight := w.inFlight ++ [m] } := by
  unfold createOrder; dsimp only; repeat' split
  all_goals first | exact .inl rfl | (rename_i h; exact .inr ⟨_, World.publishWithRetry_eq_some h⟩)

/-- `CancelOrder` leaves the world as it was, or publishes one message. -/
theorem cancelOrder_cases (orderID : String) :
    (cancelOrder fails orderID w).2 = w ∨ ∃ m, (cancelOrder fails orderID w).2 = { w with inFlight := w.inFlight ++ [m] } := by
  unfold cancelOrder; dsimp only; repeat' split
  all_goals first | exact .inl rfl | (rename_i h; exact .inr ⟨_, World.publishWithRetry_eq_some h⟩)

/-- `CreateOrder` writes no order: the order.requested handler stores it. -/
@[simp] theorem createOrder_orders (order : Domain.Order) : (createOrder fails order w).2.orders = w.orders := by
  rcases createOrder_cases fails w order with h | ⟨m, h⟩ <;> rw [h]

/-- `CreateOrder` writes no product. -/
@[simp] theorem createOrder_products (order : Domain.Order) :
    (createOrder fails order w).2.products = w.products := by
  rcases createOrder_cases fails w order with h | ⟨m, h⟩ <;> rw [h]

/-- `CreateOrder` writes no record of the event store. -/
@[simp] theorem createOrder_store (order : Domain.Order) : (createOrder fails order w).2.store = w.store := by
  rcases createOrder_cases fails w order with h | ⟨m, h⟩ <;> rw [h]

/-- `CancelOrder` writes no order: the order.cancelled handler marks it. -/
@[simp] theorem cancelOrder_orders (orderID : String) : (cancelOrder fails orderID w).2.orders = w.orders := by
  rcases cancelOrder_cases fails w orderID with h | ⟨m, h⟩ <;> rw [h]

/-- `CancelOrder` writes no product. -/
@[simp] theorem cancelOrder_products (orderID : String) :
    (cancelOrder fails orderID w).2.products = w.products := by
  rcases cancelOrder_cases fails w orderID with h | ⟨m, h⟩ <;> rw [h]

/-- `CancelOrder` writes no record of the event store. -/
@[simp] theorem cancelOrder_store (orderID : String) : (cancelOrder fails orderID w).2.store = w.store := by
  rcases cancelOrder_cases fails w orderID with h | ⟨m, h⟩ <;> rw [h]

/-- One record of the replay loop leaves orders and products alone. -/
theorem replayOne_frame (evt : OrderEvent) :
    (replayOne fails evt w).1.orders = w.orders ∧ (replayOne fails evt w).1.products = w.products := by
  unfold replayOne
  dsimp only
  repeat' split
  all_goals simp_all

/-- The replay loop writes no order and no product. -/
theorem replayLoop_frame (events : List OrderEvent) (successCount failureCount : Nat) :
    (replayLoop fails events w successCount failureCount).1.orders = w.orders ∧
      (replayLoop fails events w successCount failureCount).1.products = w.products := by
  induction events generalizing w successCount failureCount with
  | nil => exact ⟨rfl, rfl⟩
  | cons evt rest ih =>
    obtain ⟨ho, hp⟩ := replayOne_frame fails w evt
    obtain ⟨ho', hp'⟩ := ih (replayOne fails evt w).1 _ _
    exact ⟨ho'.trans ho, hp'.trans hp⟩

/-- `ReplayFailedEvents` writes no order. -/
@[simp] theorem replayFailedEvents_orders : (replayFailedEvents fails w).2.orders = w.orders := by
  unfold replayFailedEvents
  split
  · rfl
  · rfl
  · exact (replayLoop_frame fails w _ 0 0).1

/-- `ReplayFailedEvents` writes no product. -/
@[simp] theorem replayFailedEvents_products : (replayFailedEvents fails w).2.products = w.products := by
  unfold replayFailedEvents
  split
  · rfl
  · rfl
  · exact (replayLoop_frame fails w _ 0 0).2

end Frames

end OrderService

end OrderSaga
