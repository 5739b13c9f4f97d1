import OrderSaga.Model.Json
import OrderSaga.Model.Events
import OrderSaga.Model.Collection
import OrderSaga.Model.Inventory
import OrderSaga.Model.Persistence
import OrderSaga.Model.Broker
import OrderSaga.Model.Handlers
import OrderSaga.Model.OrderService
import OrderSaga.Model.System
import OrderSaga.Analysis.Stock
import OrderSaga.Analysis.OrderStatus
import OrderSaga.Analysis.Envelopes
import OrderSaga.Model.Listener
import OrderSaga.Model.ReplayRuns
import OrderSaga.Analysis.Listener
import OrderSaga.Analysis.EventStore
import OrderSaga.Analysis.DeadLetter
import OrderSaga.Analysis.Saga
import OrderSaga.Analysis.ReplayReport
import OrderSaga.Analysis.Validation
import OrderSaga.Analysis.OrderIds
import OrderSaga.Model.Api
import OrderSaga.Analysis.Api
import OrderSaga.Analysis.Quantities
import OrderSaga.Model.Topology
import OrderSaga.Analysis.Routing
import OrderSaga.Analysis.ReplayDrain
