import OrderSaga.Model.System

/-!
# The deployed program: HTTP routes and listeners

`main.go` exposes two controllers and a health check, and starts one listener per
registered queue. The order controller routes `POST /api/v1/orders/create-order` and
`POST /api/v1/orders/replay-failed-events`; `CancelOrder` has no route. The inventory
controller routes three reads and three writes of the product collection; its
`inventoryService` methods delegate to the repository unchanged, so each endpoint here
calls the repository function directly.

Each endpoint is a function of its request, of the outcome of the driver call it makes
(`err`, or the step's `Faults`) and of the world, returning its reply and the world
after it. A path parameter is given by what `strconv.Atoi` makes of it: `none` when
`Atoi` reports an error. A reply is its status code and the `fiber.Map` or documents it
sends; the text of a driver error is not modelled (`driverError`).

`Event` is one call of the deployed program: an HTTP request, or a delivery by a
listener, which is the system model's delivery step. Events are taken one at a time:
`ApiReachable` is the deployed program when no two requests or handler invocations
overlap. Fiber serves requests concurrently and the listener runs each handler in its own
goroutine; overlapping replay runs, modelled call by call in `ReplayRuns`, reach states
outside this set. A delivery hands a message to its queue's handler; whether that queue's
listener is still consuming (it stops after five failed `Consume` calls, and spins on a
closed delivery channel) is the listener model's concern.
-/

set_option autoImplicit false

namespace OrderSaga

open Events Persistence Inventory

/-- The JSON a route sends. -/
inductive ReplyBody where
  /-- `{"error": err.Error()}` for an error whose text the model does not name. -/
  | driverError
  /-- `{"error": text}` -/
  | error (text : String)
  /-- `{"message": text}` -/
  | message (text : String)
  /-- `{"status": text}` -/
  | status (text : String)
  /-- `{"order_id": orderID, "status": "Order created successfully"}` -/
  | created (orderID : String)
  /-- One product document. -/
  | product (p : Inventory.Product)
  /-- A list of product documents. -/
  | products (ps : List Inventory.Product)
  /-- `{"status": "unhealthy", "error": error}` -/
  | unhealthy (error : String)
  /-- `{"status": "healthy", "timestamp": …}`; the time is not modelled. -/
  | healthy
  deriving DecidableEq

/-- A reply: its status code and its body. -/
structure Reply where
  status : Nat
  body : ReplyBody
  deriving DecidableEq

/-- The reply to an error: status 400 and above. -/
def Reply.isError (r : Reply) : Bool := 400 ≤ r.status

/-- `GET /api/healthCheck`, the route `main.go` registers itself: a MongoDB ping, then
`rabbitmqService.IsHealthy()`. -/
def healthCheck (pingErr healthy : Bool) (w : World) : Reply × World :=
  if pingErr then (⟨503, .unhealthy "database connection failed"⟩, w)
  else if !healthy then (⟨503, .unhealthy "message queue connection failed"⟩, w)
  else (⟨200, .healthy⟩, w)

/-! ## `controllers.InventoryController` -/

namespace InventoryController

/-- `GET /products`. -/
def getAllProducts (err : Bool) (w : World) : Reply × World :=
  match Inventory.getAllProducts err w.products with
  | none => (⟨500, .driverError⟩, w)
  | some ps => (⟨200, .products ps⟩, w)

/-- `GET /products/:id`: `GetProductStock`, which is `GetProductById`. -/
def getProduct (productID : String) (err : Bool) (w : World) : Reply × World :=
  match getProductById err productID w.products with
  | none => (⟨500, .driverError⟩, w)
  | some none => (⟨404, .error "Product not found"⟩, w)
  | some (some p) => (⟨200, .product p⟩, w)

/-- `GET /products/low-stock/:threshold`. -/
def getLowStockProducts (threshold : Option Int) (err : Bool) (w : World) : Reply × World :=
  match threshold with
  | none => (⟨400, .error "Invalid threshold"⟩, w)
  | some threshold =>
    match Inventory.getLowStockProducts err threshold w.products with
    | none => (⟨500, .driverError⟩, w)
    | some ps => (⟨200, .products ps⟩, w)

/-- `POST /products/:id/reserve/:quantity`: `ReserveProduct`, which is
`CheckAndReserveProduct`. -/
def reserveProduct (productID : String) (quantity : Option Int) (err : Bool) (w : World) :
    Reply × World :=
  match quantity with
  | none => (⟨400, .error "Invalid quantity"⟩, w)
  | some quantity =>
    match checkAndReserveProduct err productID quantity w.products with
    | none => (⟨500, .driverError⟩, w)
    | some (false, _) => (⟨400, .error "Insufficient stock or product not found"⟩, w)
    | some (true, products) => (⟨200, .message "Product reserved successfully"⟩, { w with products })

/-- `POST /products/:id/release/:quantity`. -/
def releaseProduct (productID : String) (quantity : Option Int) (err : Bool) (w : World) :
    Reply × World :=
  match quantity with
  | none => (⟨400, .error "Invalid quantity"⟩, w)
  | some quantity =>
    match releaseReservedProduct err productID quantity w.products with
    | none => (⟨500, .driverError⟩, w)
    | some products => (⟨200, .message "Reserved product released successfully"⟩, { w with products })

/-- `PUT /products/:id/quantity/:quantity`. -/
def updateQuantity (productID : String) (quantity : Option Int) (err : Bool) (w : World) :
    Reply × World :=
  match quantity with
  | none => (⟨400, .error "Invalid quantity"⟩, w)
  | some quantity =>
    match updateProductQuantity err productID quantity w.products with
    | none => (⟨500, .driverError⟩, w)
    | some products => (⟨200, .message "Product quantity updated successfully"⟩, { w with products })

end InventoryController

/-! ## `controllers.OrderController` -/

/-- `models.OrderRequest`, the body of `POST /create-order`. -/
structure OrderRequest where
  amount : ℚ
  product : Events.Product

/-- The zero `OrderRequest`. -/
def OrderRequest.zero : OrderRequest := ⟨0, Events.Product.zero⟩

/-- One member of a JSON object decoded into an `OrderRequest`. -/
def OrderRequest.setField (r : OrderRequest) (key : String) (v : JsonValue) : Option OrderRequest :=
  if keyMatches key "amount" then (decodeFloat r.amount v).map ({ r with amount := · })
  else if keyMatches key "product" then (decodeInto Events.Product.setField r.product v).map ({ r with product := · })
  else some r

/-- `ctx.BodyParser` of a JSON body into an `OrderRequest`. -/
def OrderRequest.unmarshal (b : Body) : Option OrderRequest :=
  b.unmarshal OrderRequest.setField OrderRequest.zero

/-- The `domain.Order` the create-order route builds from a request, with the id `uuid.New()`
gave it and the status `Pending`. -/
def OrderRequest.toOrder (req : OrderRequest) (id : String) : Domain.Order :=
  ⟨id, req.amount, "Pending", ⟨req.product.id, req.product.name, req.product.quantity⟩⟩

namespace OrderController

/-- `POST /create-order`: the order gets the id `newID` (`uuid.New()`) and the status
`Pending`, and goes to `OrderService.CreateOrder`. -/
def createOrder (fails : Faults) (body : Body) (newID : String) (w : World) : Reply × World :=
  match OrderRequest.unmarshal body with
  | none => (⟨400, .error "Invalid request"⟩, w)
  | some req =>
    match OrderService.createOrder fails (req.toOrder newID) w with
    | (.error msg, w') => (⟨500, .error msg⟩, w')
    | (.ok orderID, w') => (⟨201, .created orderID⟩, w')

/-- `POST /replay-failed-events`: `err.Error()` of a failed fetch is
"failed to fetch unreplayed events: " and the driver's text. -/
def replayFailedEvents (fails : Faults) (w : World) : Reply × World :=
  match OrderService.replayFailedEvents fails w with
  | (.error .fetch, w') => (⟨500, .driverError⟩, w')
  | (.error (.failures failureCount total), w') =>
    (⟨500, .error ("replay completed with " ++ toString failureCount ++ " failures out of " ++
      toString total ++ " events")⟩, w')
  | (.ok (), w') => (⟨200, .status "Replay complete"⟩, w')

end OrderController

/-! ## Startup -/

/-- The five products `seedProducts` builds, each with the id `uuid.NewString()` gave it;
their names are not modelled. -/
def sampleProducts (id₁ id₂ id₃ id₄ id₅ : String) : List Inventory.Product :=
  [⟨id₁, 50, 0⟩, ⟨id₂, 100, 0⟩, ⟨id₃, 75, 0⟩, ⟨id₄, 30, 0⟩, ⟨id₅, 80, 0⟩]

/-- `seedProducts` in `main.go`: `SeedProduct` of each product in turn, returning at the first
error. `err i` is the outcome of the call for the `i`-th product; the result is whether
every call succeeded, with the products the calls made leave. -/
def seedProducts (err : Nat → Bool) (seeds products : List Inventory.Product) :
    Bool × List Inventory.Product :=
  go 0 seeds products
where
  /-- The loop from the `i`-th product on. -/
  go (i : Nat) : List Inventory.Product → List Inventory.Product → Bool × List Inventory.Product
    | [], products => (true, products)
    | p :: seeds, products =>
      match seedProduct (err i) p products with
      | none => (false, products)
      | some products => go (i + 1) seeds products

/-! ## The program's calls -/

/-- An HTTP request to a route `main.go` registers, with the outcomes of its calls and,
for create-order, the id `uuid.New()` returns. -/
inductive Request where
  | createOrder (body : Body) (newID : String) (fails : Faults)
  | replayFailedEvents (fails : Faults)
  | getAllProducts (err : Bool)
  | getProduct (productID : String) (err : Bool)
  | getLowStockProducts (threshold : Option Int) (err : Bool)
  | reserveProduct (productID : String) (quantity : Option Int) (err : Bool)
  | releaseProduct (productID : String) (quantity : Option Int) (err : Bool)
  | updateQuantity (productID : String) (quantity : Option Int) (err : Bool)
  | healthCheck (pingErr healthy : Bool)

/-- The route a request goes to. -/
def Request.serve (w : World) : Request → Reply × World
  | .createOrder body newID fails => OrderController.createOrder fails body newID w
  | .replayFailedEvents fails => OrderController.replayFailedEvents fails w
  | .getAllProducts err => InventoryController.getAllProducts err w
  | .getProduct productID err => InventoryController.getProduct productID err w
  | .getLowStockProducts threshold err => InventoryController.getLowStockProducts threshold err w
  | .reserveProduct productID quantity err => InventoryController.reserveProduct productID quantity err w
  | .releaseProduct productID quantity err => InventoryController.releaseProduct productID quantity err w
  | .updateQuantity productID quantity err => InventoryController.updateQuantity productID quantity err w
  | .healthCheck pingErr healthy => OrderSaga.healthCheck pingErr healthy w

/-- One call of the deployed program: a request, or a listener handing the `index`-th
message in flight to its queue's handler. -/
inductive Event where
  | request (r : Request)
  | deliver (index : Nat) (fails : Faults)

/-- The world after an event; `none` when a delivery names no message with a handler. -/
def apiStep (w : World) : Event → Option World
  | .request r => some (r.serve w).2
  | .deliver i fails => step w (.deliver i fails)

/-- The states the deployed program reaches from `World.init products` by events that
`allowed` lets through in the state they are taken in, one event at a time: each request
and each handler invocation runs to completion before the next starts. -/
inductive ApiReachable (allowed : World → Event → Prop) (products : List Inventory.Product) :
    World → Prop where
  | init : ApiReachable allowed products (World.init products)
  | step {w w' : World} (e : Event) : ApiReachable allowed products w → allowed w e →
      apiStep w e = some w' → ApiReachable allowed products w'

end OrderSaga
