import OrderSaga.Model.System

/-!
# The broker topology

`NewRabbitMQService(host, exchange, queueName)` declares a topic exchange named by the
configuration, a fanout dead-letter exchange `exchange + ".dlx"`, the configured queue
and its `.dlq` queue (bound to the dead-letter exchange), and for each of the five event
queues the queue and its `.dlq` queue, each bound to the topic exchange under its own
name. `Publish` sends every message to the exchange `"order_events"` under its topic,
whatever exchange the configuration names. `StartListening` consumes, for each handler
`main.go` registers, the queue named by its event type.

The dead-lettering arguments of the queues are not modelled: the listener acknowledges
every message after its handler returns, so the broker dead-letters nothing. Every
binding key is a plain word list with no `*` or `#`, so on the topic exchange a binding
matches exactly its own key.
-/

set_option autoImplicit false

namespace OrderSaga.Broker

/-- The kinds of exchange `ExchangeDeclare` is called with. -/
inductive ExchangeKind where
  | topic
  | fanout
  deriving DecidableEq

/-- `QueueBind(queue, key, exchange)`. -/
structure Binding where
  queue : String
  key : String
  exchange : String
  deriving DecidableEq

/-- The declared exchanges, queues and bindings. -/
structure Topology where
  exchanges : List (String × ExchangeKind)
  queues : List String
  bindings : List Binding

/-- The event queues `NewRabbitMQService` declares, each with a `.dlq` queue. -/
def eventQueues : List String :=
  ["order.requested", "order.created", "order.cancelled", "inventory.status.updated", "notification.sent"]

/-- The keys bound on the topic exchange: each event queue's name and its `.dlq` queue's. -/
def boundKeys : List String := eventQueues.flatMap fun q => [q, q ++ ".dlq"]

/-- `NewRabbitMQService(host, exchange, queueName)` when every declaration succeeds. -/
def newRabbitMQService (exchange queueName : String) : Topology :=
  ⟨[(exchange, .topic), (exchange ++ ".dlx", .fanout)],
    [queueName ++ ".dlq", queueName] ++ boundKeys,
    ⟨queueName ++ ".dlq", "", exchange ++ ".dlx"⟩ :: boundKeys.map fun k => ⟨k, k, exchange⟩⟩

/-- Whether a binding on an exchange of the kind takes a message with the routing key: a
fanout exchange takes every key; on a topic exchange a binding key with no wildcard word
takes exactly itself. -/
def Binding.matches (kind : ExchangeKind) (b : Binding) (key : String) : Bool :=
  match kind with
  | .fanout => true
  | .topic => b.key == key

/-- The queues a message sent to `exchange` under `key` is put on, or `none` when no such
exchange is declared. -/
def Topology.route (t : Topology) (exchange key : String) : Option (List String) :=
  (t.exchanges.lookup exchange).map fun kind =>
    (t.bindings.filter fun b => b.exchange == exchange && b.matches kind key).map (·.queue)

/-- The exchange `Publish` sends to. -/
def publishExchange : String := "order_events"

/-- `LoadConfig`'s `RabbitMQExchange`: the environment's `RABBITMQ_EXCHANGE`, or
`"order_events"` when it is unset or empty. -/
def loadExchange (env : String) : String := if env = "" then "order_events" else env

/-- `LoadConfig`'s `RabbitMQQueueName`: `RABBITMQ_QUEUENAME`, or `"order_events_queue"`. -/
def loadQueueName (env : String) : String := if env = "" then "order_events_queue" else env

/-- The topology `main.go` declares from the environment. -/
def mainTopology (envExchange envQueue : String) : Topology :=
  newRabbitMQService (loadExchange envExchange) (loadQueueName envQueue)

/-- The queues `StartListening` consumes: one per registered handler, named by its event
type. -/
def listenedQueues : List String := handlers.map (·.1)

/-- No bound key holds a wildcard, so a topic exchange routes it by plain equality. -/
theorem boundKeys_plain : ∀ k ∈ boundKeys, '*' ∉ k.toList ∧ '#' ∉ k.toList := by decide

end OrderSaga.Broker
