import OrderSaga.Analysis.Api
import OrderSaga.Model.Topology

/-!
# Where published messages go

With the default exchange, the topic exchange `Publish` sends to is the one
`NewRabbitMQService` declared, and a message under a routing key lands on exactly the
queues bound under that key: one queue, named by the key, for each of the ten bound
keys, and none for any other key. Eight of those queues have a listener, the ones named
by the registered handlers' event types; `order.requested.dlq` and `notification.sent.dlq`
have none. When `RABBITMQ_EXCHANGE` names another exchange, `Publish` still sends to
`"order_events"`, which is then not declared, so no publish reaches a queue
(`published_topics_reach_listeners`).

Every publish of the deployed program is under the event type of a registered handler, so
in every state it reaches every message in flight sits, with the default exchange, on
exactly one queue: the one named by its topic, which `StartListening` consumes with that
handler (`in_flight_on_listened_queues`). Whether the listener of that queue is still
consuming is another matter: it stops after five failed `Consume` calls, and spins on a
closed delivery channel.
-/

set_option autoImplicit false

namespace OrderSaga.Analysis

open Events Persistence Broker

/-! ## The topology -/

/-- No exchange name with `.dlx` appended is `"order_events"`. -/
theorem append_dlx_ne (exchange : String) : exchange ++ ".dlx" ≠ publishExchange := fun h => by
  have hx : 'x' ∈ (exchange ++ ".dlx").data := by
    rw [String.data_append]
    exact List.mem_append_right _ (by decide)
  rw [h] at hx
  exact absurd hx (by decide)

/-- With the exchange `Publish` uses declared, a routing key reaches the queues bound under
it, whatever the configured queue. -/
theorem route_publishExchange (queueName key : String) :
    (newRabbitMQService publishExchange queueName).route publishExchange key =
      some (boundKeys.filter (· == key)) := by
  have hdlx : (publishExchange ++ ".dlx" == publishExchange) = false := by
    simpa using append_dlx_ne publishExchange
  simp [Topology.route, newRabbitMQService, List.lookup_cons, Binding.matches, List.filter_map,
    Function.comp_def, hdlx]

/-- With another exchange configured, the exchange `Publish` uses is not declared. -/
theorem route_other {exchange : String} (h : exchange ≠ publishExchange) (queueName key : String) :
    (newRabbitMQService exchange queueName).route publishExchange key = none := by
  have hne : (publishExchange == exchange) = false := by simpa using Ne.symm h
  have hdlx : (publishExchange == exchange ++ ".dlx") = false := by simpa using Ne.symm (append_dlx_ne exchange)
  simp [Topology.route, newRabbitMQService, List.lookup_cons, hne, hdlx]

/-- With `RABBITMQ_EXCHANGE` unset or `"order_events"`, `main.go` declares the exchange
`Publish` sends to. -/
theorem mainTopology_default {envExchange : String} (h : envExchange = "" ∨ envExchange = publishExchange)
    (envQueue : String) :
    mainTopology envExchange envQueue = newRabbitMQService publishExchange (loadQueueName envQueue) := by
  rcases h with rfl | rfl <;> rfl

/-- Each registered event type is bound under its own name, to its own queue only. -/
theorem route_listened (queueName : String) :
    ∀ t ∈ listenedQueues, (newRabbitMQService publishExchange queueName).route publishExchange t = some [t] := by
  intro t ht
  rw [route_publishExchange]
  revert t
  decide

/-- With `RABBITMQ_EXCHANGE` unset or `"order_events"`, a message `Publish` sends under a
key lands on the queues bound under the key, and a message under a registered event type
lands on exactly the queue that type's listener consumes. With any other exchange
configured, `Publish` sends to an exchange that was not declared, and no message reaches a
queue. -/
theorem published_topics_reach_listeners (envExchange envQueue : String) :
    ((envExchange = "" ∨ envExchange = publishExchange) →
      (∀ key, (mainTopology envExchange envQueue).route publishExchange key =
        some (boundKeys.filter (· == key))) ∧
      ∀ t ∈ listenedQueues, (mainTopology envExchange envQueue).route publishExchange t = some [t]) ∧
    (envExchange ≠ "" → envExchange ≠ publishExchange →
      ∀ key, (mainTopology envExchange envQueue).route publishExchange key = none) := by
  refine ⟨fun h => ?_, fun h₁ h₂ key => ?_⟩
  · rw [mainTopology_default h]
    exact ⟨route_publishExchange _, route_listened _⟩
  · simp only [mainTopology, loadExchange, h₁, if_false]
    exact route_other h₂ _ key

/-! ## Registered topics -/

/-- Every message in flight is under the event type of a registered handler. -/
def TopicsRegistered (w : World) : Prop := ∀ m ∈ w.inFlight, m.topic ∈ listenedQueues

/-- A queue is listened to exactly when `dispatch` has a handler for it. -/
theorem mem_listenedQueues {topic : String} : topic ∈ listenedQueues ↔ (dispatch topic).isSome := by
  simp only [listenedQueues, dispatch, Option.isSome_map', List.find?_isSome, List.mem_map, beq_iff_eq]

section Publish

variable {w w' : World} {err : Bool} {topic : String} {body : Body}

/-- A message appended under a listened queue keeps every topic in flight registered. -/
theorem TopicsRegistered.append (hw : TopicsRegistered w) (ht : topic ∈ listenedQueues) :
    TopicsRegistered { w with inFlight := w.inFlight ++ [⟨topic, body⟩] } := by
  simpa [TopicsRegistered, or_imp, forall_and] using ⟨hw, ht⟩

/-- A publish under a listened queue keeps the invariant, whether it succeeds or fails. -/
theorem TopicsRegistered.publish_getD (hw : TopicsRegistered w) (ht : topic ∈ listenedQueues) :
    TopicsRegistered ((w.publish err topic body).getD w) := by
  cases h : w.publish err topic body with
  | none => exact hw
  | some w' => exact World.publish_eq_some h ▸ hw.append ht

/-- A retry loop that succeeds under a listened queue keeps the invariant. -/
theorem TopicsRegistered.publishWithRetry {fails : Nat → Bool} {a n : Nat}
    (h : w.publishWithRetry fails topic body a n = some w') (ht : topic ∈ listenedQueues)
    (hw : TopicsRegistered w) : TopicsRegistered w' :=
  World.publishWithRetry_eq_some h ▸ hw.append ht

/-- A dead-letter send to a listened queue keeps the invariant, whether it succeeds or fails. -/
theorem TopicsRegistered.sendToDLQ {fails : Faults} {queue : String} (hw : TopicsRegistered w)
    (hq : queue ∈ listenedQueues) : TopicsRegistered (w.sendToDLQ fails queue body) := by
  rcases World.sendToDLQ_cases fails queue body w with h | h <;> rw [h]
  · exact hw
  · exact hw.append hq

end Publish

section Handlers

variable (fails : Faults) (body : Body) {w : World}

/-- The order.requested handler publishes only under order.created. -/
theorem orderRequested_topicsRegistered (hw : TopicsRegistered w) :
    TopicsRegistered (OrderRequestedEventHandler.handle fails body w) := by
  unfold OrderRequestedEventHandler.handle OrderRequestedEventHandler.publishOrderCreatedEvent
  dsimp only
  repeat' split
  all_goals first | exact hw | (rename_i hp; exact .publishWithRetry hp (by decide) hw)

/-- The order.created handler publishes only under inventory.status.updated and to its dead-letter
queue. -/
theorem orderCreated_topicsRegistered (hw : TopicsRegistered w) :
    TopicsRegistered (OrderCreatedEventHandler.handle fails body w) := by
  have hisu : ∀ (oid pid : String) (hasStock : Bool) (w : World), TopicsRegistered w →
      TopicsRegistered (OrderCreatedEventHandler.publishInventoryStatusUpdated fails oid pid hasStock w) :=
    fun _ _ _ _ hw => hw.publish_getD (by decide)
  unfold OrderCreatedEventHandler.handle OrderCreatedEventHandler.sendToDLQ
  dsimp only
  repeat' split
  all_goals first
    | (refine .sendToDLQ ?_ (by decide); exact hw)
    | (refine .sendToDLQ (hisu _ _ _ _ ?_) (by decide); exact hw)

/-- The order.cancelled handler publishes only to its dead-letter queue. -/
theorem orderCancelled_topicsRegistered (hw : TopicsRegistered w) :
    TopicsRegistered (OrderCancelledEventHandler.handle fails body w) := by
  unfold OrderCancelledEventHandler.handle OrderCancelledEventHandler.sendToDLQ
  dsimp only
  repeat' split
  all_goals first | exact hw | (refine .sendToDLQ ?_ (by decide); exact hw)

/-- The inventory.status.updated handler publishes only under order.cancelled and notification.sent,
and to its dead-letter queue. -/
theorem statusUpdated_topicsRegistered (hw : TopicsRegistered w) :
    TopicsRegistered (InventoryStatusUpdatedEventHandler.handle fails body w) := by
  have hnote : ∀ (e : InventoryStatusUpdatedEvent) (w : World), TopicsRegistered w →
      TopicsRegistered (InventoryStatusUpdatedEventHandler.publishNotificationSent fails e body w) := by
    intro e w hw
    unfold InventoryStatusUpdatedEventHandler.publishNotificationSent InventoryStatusUpdatedEventHandler.sendToDLQ
    dsimp only
    split
    · exact hw.sendToDLQ (by decide)
    · exact World.publish_eq_some ‹_› ▸ hw.append (by decide)
  unfold InventoryStatusUpdatedEventHandler.handle InventoryStatusUpdatedEventHandler.sendToDLQ
  repeat' split
  all_goals first
    | exact hw.sendToDLQ (by decide)
    | exact hnote _ w hw
    | exact hnote _ _ (World.publish_eq_some ‹_› ▸ hw.append (by decide))

/-- The notification.sent handler publishes nothing. -/
theorem notificationSent_topicsRegistered (hw : TopicsRegistered w) :
    TopicsRegistered (NotificationSentEventHandler.handle fails body w) := by
  unfold NotificationSentEventHandler.handle
  repeat' split
  all_goals exact hw

/-- A capture handler publishes nothing. -/
theorem captureForReplay_topicsRegistered (orderIdOf : Body → Option String) (hw : TopicsRegistered w) :
    TopicsRegistered (DLQHandler.captureForReplay orderIdOf fails body w) := by
  unfold TopicsRegistered
  rw [DLQHandler.captureForReplay_inFlight]
  exact hw

end Handlers

/-- Every step of the system model publishes only under registered event types. -/
theorem step_topicsRegistered {w w' : World} {a : Action} (h : step w a = some w') (hw : TopicsRegistered w) :
    TopicsRegistered w' := by
  cases a with
  | createOrder o fails =>
    cases h
    rcases createOrder_eq fails o w with ⟨msg, h⟩ | ⟨-, h⟩ <;> rw [h]
    · exact hw
    · exact hw.append (by decide)
  | cancelOrder orderID fails =>
    cases h
    rcases cancelOrder_publishes fails orderID w with h | ⟨body, h⟩ <;> rw [h]
    · exact hw
    · exact hw.append (by decide)
  | replay fails =>
    cases h
    obtain ⟨published, hpub⟩ := replayFailedEvents_inFlight fails w
    intro m hm
    rw [hpub] at hm
    rcases List.mem_append.1 hm with hm | hm
    · exact hw m hm
    · obtain ⟨r, -, rfl⟩ := List.mem_map.1 hm
      show orderCreated ∈ listenedQueues
      decide
  | deliver i fails =>
    obtain ⟨m, handler, -, hd, rfl⟩ := step_deliver_eq_some.1 h
    have hrest : TopicsRegistered { w with inFlight := w.inFlight.eraseIdx i } :=
      fun m' hm' => hw m' (List.mem_of_mem_eraseIdx hm')
    exact dispatch_rec (P := fun _ handler =>
        TopicsRegistered (handler fails m.body { w with inFlight := w.inFlight.eraseIdx i }))
      (orderRequested_topicsRegistered _ _ hrest) (orderCreated_topicsRegistered _ _ hrest)
      (orderCancelled_topicsRegistered _ _ hrest) (statusUpdated_topicsRegistered _ _ hrest)
      (notificationSent_topicsRegistered _ _ hrest) (captureForReplay_topicsRegistered _ _ _ hrest)
      (captureForReplay_topicsRegistered _ _ _ hrest) (captureForReplay_topicsRegistered _ _ _ hrest) hd

/-- Every event of the deployed program keeps every topic in flight registered: a request is a step
of the system model, a product write or nothing. -/
theorem apiStep_topicsRegistered {w w' : World} {e : Event} (h : apiStep w e = some w')
    (hw : TopicsRegistered w) : TopicsRegistered w' := by
  rcases apiStep_cases h with ⟨a, ha⟩ | ⟨pw, -, rfl⟩ | rfl
  exacts [step_topicsRegistered ha hw, hw, hw]

/-- In every state the deployed program reaches, one request or delivery at a time, every
message in flight is under the event type of a registered handler. With `RABBITMQ_EXCHANGE`
unset or `"order_events"`, `Publish` put it on exactly one queue, the one named by its
topic, which `StartListening` consumes with that handler. -/
theorem in_flight_on_listened_queues (allowed : World → Event → Prop) (products : List Inventory.Product)
    (envExchange envQueue : String) (hexchange : envExchange = "" ∨ envExchange = publishExchange)
    (w : World) (h : ApiReachable allowed products w) :
    ∀ m ∈ w.inFlight, m.topic ∈ listenedQueues ∧
      (mainTopology envExchange envQueue).route publishExchange m.topic = some [m.topic] := by
  have hw : TopicsRegistered w := by
    induction h with
    | init => simp [TopicsRegistered, World.init]
    | step e _ _ hs ih => exact apiStep_topicsRegistered hs ih
  intro m hm
  rw [mainTopology_default hexchange]
  exact ⟨hw m hm, route_listened _ _ (hw m hm)⟩

/-- After two create-order requests and their first deliveries, with the default
configuration, every message in flight sits on the queue its handler's listener consumes. -/
theorem in_flight_on_listened_queues_orderFlow :
    ("" = "" ∨ "" = publishExchange) ∧
      ApiReachable (fun w e => writesNoProduct w e = true) laptopStock orderFlowWorld ∧
      ∀ m ∈ orderFlowWorld.inFlight, m.topic ∈ listenedQueues ∧
        (mainTopology "" "").route publishExchange m.topic = some [m.topic] :=
  have h : ApiReachable (fun w e => writesNoProduct w e = true) laptopStock orderFlowWorld :=
    ApiReachable.init.apiRun orderFlow rfl
  ⟨.inl rfl, h, in_flight_on_listened_queues _ laptopStock "" "" (.inl rfl) orderFlowWorld h⟩

end OrderSaga.Analysis
