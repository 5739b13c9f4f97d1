import OrderSaga.Analysis.DeadLetter
import OrderSaga.Analysis.Saga

/-!
# Which steps check their input

Every envelope has a `Validate` method, but only the order.requested handler calls one. The
order.created, inventory.status.updated and notification.sent handlers decode and act: a
payload that its own type's `Validate` rejects (an empty order id, empty ids, an empty
message) is acted on like any other, a negative quantity included
(`invalid_payloads_acted_on`). The order.requested handler checks exactly
`OrderRequestedEvent.Validate`'s conditions, which leave out the amount that `CreateOrder`
checks, so it also stores and forwards an amount of zero.
-/

set_option autoImplicit false

namespace OrderSaga.Analysis

open Events Persistence Inventory

/-- An order.requested payload with amount zero, which `Validate` accepts. -/
def zeroAmountRequest : OrderRequestedEvent := ⟨"o1", ⟨"p1", "Laptop", 2⟩, 0, "Requested", 1⟩

/-- An order.created payload with an empty order id and a negative quantity. -/
def negativeCreated : OrderCreatedEvent := ⟨"", ⟨"p1", "Laptop", -1⟩, 10, "Processing", 1⟩

/-- An inventory.status.updated payload with empty ids, reporting a stock-out. -/
def emptyIdsStatus : InventoryStatusUpdatedEvent := ⟨"", "", false, 1⟩

/-- Payloads that their own type's `Validate` rejects are acted on, since no handler but
order.requested calls `Validate`: the order.created payload with an empty id and a negative
quantity adds to the stock and is confirmed downstream, the inventory.status.updated payload
with empty ids publishes a cancellation and a notice, and the notice with an empty message
is recorded on the order. The order.requested handler, which calls `Validate`, stores and
forwards an amount of zero that `CreateOrder` refuses. -/
theorem invalid_payloads_acted_on :
    negativeCreated.validate = .error "missing required fields in OrderCreatedEvent" ∧
      emptyIdsStatus.validate = .error "missing required fields in InventoryStatusUpdatedEvent" ∧
      (⟨"o1", "", 1⟩ : NotificationSentEvent).validate =
        .error "missing required fields in NotificationSentEvent" ∧
      zeroAmountRequest.validate = .ok () ∧
      (OrderRequestedEventHandler.handle Faults.none (.json zeroAmountRequest.marshal)
        (World.init [⟨"p1", 5, 0⟩])).orders.map (·.amount) = [0] ∧
      (OrderRequestedEventHandler.handle Faults.none (.json zeroAmountRequest.marshal)
        (World.init [⟨"p1", 5, 0⟩])).inFlight.map (·.topic) = [orderCreated] ∧
      (OrderService.createOrder Faults.none ⟨"o1", 0, "Pending", ⟨"p1", "Laptop", 2⟩⟩
        (World.init [⟨"p1", 5, 0⟩])).1 = .error "order amount must be greater than 0" ∧
      (OrderCreatedEventHandler.handle Faults.none (.json negativeCreated.marshal)
        (World.init [⟨"p1", 5, 0⟩])).products = [⟨"p1", 6, -1⟩] ∧
      (OrderCreatedEventHandler.handle Faults.none (.json negativeCreated.marshal)
        (World.init [⟨"p1", 5, 0⟩])).inFlight.map (·.topic) = [inventoryStatusUpdated] ∧
      (InventoryStatusUpdatedEventHandler.handle Faults.none (.json emptyIdsStatus.marshal)
        (World.init [⟨"p1", 5, 0⟩])).inFlight.map (·.topic) = [orderCancelled, notificationSent] ∧
      (NotificationSentEventHandler.handle Faults.none (.json (⟨"o1", "", 1⟩ : NotificationSentEvent).marshal)
        (OrderRequestedEventHandler.handle Faults.none (.json zeroAmountRequest.marshal)
          (World.init [⟨"p1", 5, 0⟩]))).orders.map (·.notificationMessage) = [some ""] :=
  ⟨rfl, rfl, rfl, rfl, by decide, by decide, rfl, by decide, by decide, by decide, by decide⟩

end OrderSaga.Analysis
