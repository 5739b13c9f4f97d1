import OrderSaga.Model.Inventory
import OrderSaga.Model.Persistence

/-!
# The broker and the world a handler acts on

`rabbitmq.go`: `Publish` puts a message on the topic exchange under its routing key,
and every routing key the code publishes under has a queue bound to it, so a
published message is in flight until its queue's consumer takes it. `World` is
everything a step of the system reads or writes: the three collections and the
messages in flight.

Which collaborator calls fail is the environment's choice. A step is given `Faults`,
one outcome per call site (`Call`); quantifying over `Faults` covers every pattern of
failures, and naming the sites lets a statement say which of them succeed.
-/

set_option autoImplicit false

namespace OrderSaga

open Persistence

/-- A message on the broker: its routing key and its body. -/
structure Message where
  topic : String
  body : Body

/-- The external call sites of one step of the system. -/
inductive Call where
  /-- The `attempt`-th publish under `topic` (a step publishes under a routing key only
  in one place, retrying at most). -/
  | publish (topic : String) (attempt : Nat)
  | createOrder
  | getOrder
  | updateOrder
  | reserveProduct
  | releaseProduct
  /-- The `InsertOne` of `StoreEventForReplay`. -/
  | storeEvent
  /-- The `Find` of `GetUnreplayedEvents`. -/
  | fetchEvents
  | markReplaying (eventId : Nat)
  /-- The `attempt`-th republish of the record `eventId` by `ReplayFailedEvents`. -/
  | replayPublish (eventId : Nat) (attempt : Nat)
  | markCompleted (eventId : Nat)
  | markFailed (eventId : Nat)

/-- Which calls of one step return an error. -/
abbrev Faults := Call → Bool

/-- No call fails. -/
def Faults.none : Faults := fun _ => false

/-- The state of the whole system. -/
structure World where
  orders : List OrderDocument
  products : List Inventory.Product
  store : EventStore
  inFlight : List Message

namespace World

/-- `RabbitMQServiceImpl.Publish`: an empty routing key is refused ("topic cannot be
empty"); otherwise the message is in flight unless the send fails (`err`). -/
def publish (err : Bool) (topic : String) (body : Body) (w : World) : Option World :=
  if err || topic == "" then none else some { w with inFlight := w.inFlight ++ [⟨topic, body⟩] }

/-- The publish loops of `CreateOrder`, `publishOrderCreatedEvent` and
`ReplayFailedEvents`: attempts numbered from `attempt`, at most `left` of them, until one
succeeds; `fails a` is the outcome of attempt `a`. -/
def publishWithRetry (fails : Nat → Bool) (topic : String) (body : Body) (w : World) :
    (attempt left : Nat) → Option World
  | _, 0 => none
  | a, n + 1 =>
    match w.publish (fails a) topic body with
    | some w' => some w'
    | none => w.publishWithRetry fails topic body (a + 1) n

/-- A `sendToDLQ` method: publish the original body to the dead-letter queue `queue`;
a failed publish is only logged. -/
def sendToDLQ (fails : Faults) (queue : String) (body : Body) (w : World) : World :=
  (w.publish (fails (.publish queue 1)) queue body).getD w

end World

/-! ## What a publish changes -/

/-- A publish succeeds exactly when the channel call does not fail and the topic is not empty, and
then it appends the one message. -/
@[simp] theorem World.publish_eq_some_iff {err : Bool} {topic : String} {body : Body}
    {w w' : World} :
    w.publish err topic body = some w' ↔
      err = false ∧ topic ≠ "" ∧ w' = { w with inFlight := w.inFlight ++ [⟨topic, body⟩] } := by
  unfold World.publish
  split
  · rename_i h
    simp only [Bool.or_eq_true, beq_iff_eq] at h
    simp only [reduceCtorEq, false_iff, not_and]
    rintro rfl ht
    simp_all
  · rename_i h
    simp only [Bool.or_eq_true, beq_iff_eq, not_or, Bool.not_eq_true] at h
    simp only [Option.some.injEq, h, ne_eq, not_false_eq_true, true_and]
    exact ⟨Eq.symm, Eq.symm⟩

/-- A successful publish appends the one message. -/
theorem World.publish_eq_some {err : Bool} {topic : String} {body : Body} {w w' : World}
    (h : w.publish err topic body = some w') :
    w' = { w with inFlight := w.inFlight ++ [⟨topic, body⟩] } :=
  (World.publish_eq_some_iff.1 h).2.2

/-- A retry loop succeeds when one of its attempts does, and then it has published exactly
one message. -/
@[simp] theorem World.publishWithRetry_eq_some_iff {fails : Nat → Bool} {topic : String}
    {body : Body} {w w' : World} {a n : Nat} :
    w.publishWithRetry fails topic body a n = some w' ↔
      (∃ i, a ≤ i ∧ i < a + n ∧ fails i = false) ∧ topic ≠ "" ∧
        w' = { w with inFlight := w.inFlight ++ [⟨topic, body⟩] } := by
  induction n generalizing a with
  | zero => simp only [World.publishWithRetry]; simp; omega
  | succ n ih =>
    unfold World.publishWithRetry
    split
    · rename_i w₁ h
      obtain ⟨hok, ht, rfl⟩ := World.publish_eq_some_iff.1 h
      simp only [Option.some.injEq, ne_eq, ht, not_false_eq_true, true_and]
      exact ⟨fun h' => ⟨⟨a, le_rfl, by omega, hok⟩, h'.symm⟩, fun h' => h'.2.symm⟩
    · rename_i h
      rw [ih]
      constructor
      · rintro ⟨⟨i, h1, h2, h3⟩, h4⟩; exact ⟨⟨i, by omega, by omega, h3⟩, h4⟩
      · rintro ⟨⟨i, h1, h2, h3⟩, ht, h4⟩
        refine ⟨⟨i, ?_, by omega, h3⟩, ht, h4⟩
        rcases Nat.eq_or_lt_of_le h1 with rfl | h1
        · simp [World.publish, h3, ht] at h
        · omega

/-- A retry loop that succeeds has appended the one message, once. -/
theorem World.publishWithRetry_eq_some {fails : Nat → Bool} {topic : String} {body : Body}
    {w w' : World} {a n : Nat} (h : w.publishWithRetry fails topic body a n = some w') :
    w' = { w with inFlight := w.inFlight ++ [⟨topic, body⟩] } :=
  (World.publishWithRetry_eq_some_iff.1 h).2.2

/-- A dead-letter send writes no order. -/
@[simp] theorem World.sendToDLQ_orders (fails : Faults) (queue : String) (body : Body) (w : World) :
    (w.sendToDLQ fails queue body).orders = w.orders := by
  unfold World.sendToDLQ World.publish; split <;> rfl

/-- A dead-letter send writes no product. -/
@[simp] theorem World.sendToDLQ_products (fails : Faults) (queue : String) (body : Body) (w : World) :
    (w.sendToDLQ fails queue body).products = w.products := by
  unfold World.sendToDLQ World.publish; split <;> rfl

/-- A dead-letter send writes no record of the event store. -/
@[simp] theorem World.sendToDLQ_store (fails : Faults) (queue : String) (body : Body) (w : World) :
    (w.sendToDLQ fails queue body).store = w.store := by
  unfold World.sendToDLQ World.publish; split <;> rfl

/-- The dead-letter send either publishes the body or changes nothing. -/
theorem World.sendToDLQ_cases (fails : Faults) (queue : String) (body : Body) (w : World) :
    w.sendToDLQ fails queue body = w ∨
      w.sendToDLQ fails queue body = { w with inFlight := w.inFlight ++ [⟨queue, body⟩] } := by
  unfold World.sendToDLQ
  cases h : w.publish (fails (.publish queue 1)) queue body with
  | none => exact .inl rfl
  | some w' => exact .inr (World.publish_eq_some h)

end OrderSaga
