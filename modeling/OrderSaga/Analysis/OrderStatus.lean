import OrderSaga.Model.System

/-!
# Order status histories

Three places write an order's status: the order.requested handler creates the order as
`Processing`, the order.created handler sets `Confirmed` after a successful
reservation, and the order.cancelled handler sets `Cancelled` after the release. Each
write is an unconditional `$set` on the first order with the id. So one step keeps
every order in place, leaves its status or rewrites it to `Confirmed` or `Cancelled`,
and appends new orders as `Processing` (`step_statusWrites`): `Processing` is never
re-entered, and nothing stops `Cancelled` from being followed by `Confirmed`
(`confirmed_after_cancelled`).
-/

set_option autoImplicit false

namespace OrderSaga.Analysis

open Events Persistence

/-- What one step may do to an order it already holds: the id and the product stay, the
status stays or becomes `Confirmed` or `Cancelled`. -/
def StatusWrite (d d' : OrderDocument) : Prop :=
  d'.id = d.id ∧ d'.product = d.product ∧
    (d'.status = d.status ∨ d'.status = "Confirmed" ∨ d'.status = "Cancelled")

/-- What one step may do to the orders: a `StatusWrite` on each order already there, and
new orders appended as `Processing`. -/
def StatusWrites (orders orders' : List OrderDocument) : Prop :=
  ∃ old new, orders' = old ++ new ∧ List.Forall₂ StatusWrite orders old ∧
    ∀ d ∈ new, d.status = "Processing"

/-- Leaving the orders as they are is a `StatusWrites`. -/
theorem StatusWrites.refl (orders : List OrderDocument) : StatusWrites orders orders :=
  ⟨orders, [], by simp, List.forall₂_same.2 fun _ _ => ⟨rfl, rfl, .inl rfl⟩, by simp⟩

/-- An `UpdateOrder` whose `$set` writes no status, `Confirmed` or `Cancelled`. -/
theorem statusWrites_updateOrder {err : Bool} {id : String} {u : OrderUpdate}
    (hu : u.status = none ∨ u.status = some "Confirmed" ∨ u.status = some "Cancelled")
    (orders : List OrderDocument) :
    StatusWrites orders ((updateOrder err id u orders).getD orders) := by
  unfold updateOrder
  split
  · exact .refl orders
  · show StatusWrites orders (updateFirst (·.id == id) u.apply orders)
    refine ⟨_, [], (List.append_nil _).symm, (forall₂_updateFirst _ u.apply orders).imp ?_, by simp⟩
    rintro d _ (rfl | rfl)
    · exact ⟨rfl, rfl, .inl rfl⟩
    · refine ⟨rfl, rfl, ?_⟩
      rcases hu with h | h | h <;> simp [OrderUpdate.apply, h]

/-- A `CreateOrder` of a `Processing` order. -/
theorem statusWrites_createOrder {err : Bool} {order : OrderDocument}
    (ho : order.status = "Processing") (orders : List OrderDocument) :
    StatusWrites orders (((createOrder err order orders).map Prod.snd).getD orders) := by
  unfold createOrder
  split
  · exact .refl orders
  · exact ⟨orders, _, rfl, List.forall₂_same.2 fun _ _ => ⟨rfl, rfl, .inl rfl⟩, by simp [ho]⟩

section Handlers

variable (fails : Faults) (body : Body) (w : World)

/-- The order.requested handler only appends a `Processing` order. -/
theorem orderRequested_statusWrites :
    StatusWrites w.orders (OrderRequestedEventHandler.handle fails body w).orders := by
  rw [OrderRequestedEventHandler.handle_orders]
  repeat' split
  all_goals first | exact statusWrites_createOrder rfl _ | exact .refl _

/-- The order.created handler writes at most the status `Confirmed`. -/
theorem orderCreated_statusWrites :
    StatusWrites w.orders (OrderCreatedEventHandler.handle fails body w).orders := by
  rw [OrderCreatedEventHandler.handle_orders]
  repeat' split
  all_goals first | exact statusWrites_updateOrder (by simp) _ | exact .refl _

/-- The order.cancelled handler writes at most the status `Cancelled`. -/
theorem orderCancelled_statusWrites :
    StatusWrites w.orders (OrderCancelledEventHandler.handle fails body w).orders := by
  rw [OrderCancelledEventHandler.handle_orders]
  repeat' split
  all_goals first | exact statusWrites_updateOrder (by simp) _ | exact .refl _

/-- The notification.sent handler writes the notification fields and no status. -/
theorem notificationSent_statusWrites :
    StatusWrites w.orders (NotificationSentEventHandler.handle fails body w).orders := by
  rw [NotificationSentEventHandler.handle_orders]
  split
  · exact statusWrites_updateOrder (by simp) _
  · exact .refl _

end Handlers

/-- One step of the system changes the orders only by status writes and `Processing`
insertions. -/
theorem step_statusWrites {w w' : World} {a : Action} (h : step w a = some w') :
    StatusWrites w.orders w'.orders := by
  cases a with
  | createOrder order fails => cases h; simpa using .refl _
  | cancelOrder orderID fails => cases h; simpa using .refl _
  | replay fails => cases h; simpa using .refl _
  | deliver i fails =>
    obtain ⟨m, handler, -, hd, rfl⟩ := step_deliver_eq_some.1 h
    exact dispatch_rec (P := fun _ handler =>
        StatusWrites w.orders (handler fails m.body { w with inFlight := w.inFlight.eraseIdx i }).orders)
      (orderRequested_statusWrites _ _ _) (orderCreated_statusWrites _ _ _)
      (orderCancelled_statusWrites _ _ _) (by simpa using .refl _) (notificationSent_statusWrites _ _ _)
      (by simpa [DLQHandler.handleOrderCreatedDLQ] using .refl _)
      (by simpa [DLQHandler.handleOrderCancelledDLQ] using .refl _)
      (by simpa [DLQHandler.handleInventoryStatusUpdatedDLQ] using .refl _) hd

/-- The three statuses an order can have. -/
def KnownStatus (d : OrderDocument) : Prop :=
  d.status = "Processing" ∨ d.status = "Confirmed" ∨ d.status = "Cancelled"

/-- A status write keeps an order's status among the three known ones. -/
theorem StatusWrite.knownStatus {d d' : OrderDocument} (h : StatusWrite d d') (hk : KnownStatus d) :
    KnownStatus d' := by
  obtain ⟨-, -, hs | hs | hs⟩ := h
  · rw [KnownStatus, hs]; exact hk
  · exact .inr (.inl hs)
  · exact .inr (.inr hs)

/-- The writes of one step keep every order's status among the three known ones. -/
theorem StatusWrites.knownStatus {orders orders' : List OrderDocument}
    (h : StatusWrites orders orders') (hk : ∀ d ∈ orders, KnownStatus d) :
    ∀ d ∈ orders', KnownStatus d := by
  obtain ⟨old, new, rfl, hold, hnew⟩ := h
  have hold : ∀ d ∈ old, KnownStatus d := by
    induction hold with
    | nil => simp
    | cons hw _ ih =>
      simp only [List.mem_cons, forall_eq_or_imp] at hk ⊢
      exact ⟨hw.knownStatus hk.1, ih hk.2⟩
  simp only [List.mem_append]
  rintro d (hd | hd)
  · exact hold d hd
  · exact .inl (hnew d hd)

/-- Every order's status history starts at `Processing`, and each later write sets
`Confirmed` or `Cancelled`, whatever the current status. -/
theorem order_status_writes (products : List Inventory.Product) :
    (∀ w a w', step w a = some w' → StatusWrites w.orders w'.orders) ∧
      ∀ w, Reachable products w → ∀ d ∈ w.orders, KnownStatus d := by
  refine ⟨fun _ _ _ h => step_statusWrites h, fun w hw => ?_⟩
  induction hw with
  | init => simp [World.init]
  | step a _ hs ih => exact (step_statusWrites hs).knownStatus ih

/-- A cancellation overtakes the order.created message: the order is released and
`Cancelled`, then reserved again and `Confirmed`. -/
def lateConfirmationTrace : List Action :=
  [.createOrder ⟨"o1", 10, "Pending", ⟨"p1", "Laptop", 2⟩⟩ Faults.none,
    .deliver 0 Faults.none,
    .cancelOrder "o1" Faults.none,
    .deliver 1 Faults.none,
    .deliver 0 Faults.none]

/-- The state after the cancellation has been handled, with the order.created message
still in flight. -/
def cancelledWorld : World :=
  (run (World.init [⟨"p1", 5, 0⟩]) (lateConfirmationTrace.take 4)).getD (World.init [])

/-- The order `o1` goes from `Cancelled` to `Confirmed` in one step of a run no failure
interrupts. -/
theorem confirmed_after_cancelled :
    ∃ w w', Reachable [⟨"p1", 5, 0⟩] w ∧ step w (.deliver 0 Faults.none) = some w' ∧
      (w.orders.find? (·.id == "o1")).map (·.status) = some "Cancelled" ∧
      (w'.orders.find? (·.id == "o1")).map (·.status) = some "Confirmed" :=
  ⟨cancelledWorld, _, reachable_run .init (lateConfirmationTrace.take 4) rfl, rfl, by decide, by decide⟩

end OrderSaga.Analysis
