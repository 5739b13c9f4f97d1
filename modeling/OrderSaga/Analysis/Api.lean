import OrderSaga.Analysis.OrderIds
import OrderSaga.Analysis.Saga
import OrderSaga.Analysis.Stock
import OrderSaga.Model.Api

/-!
# The deployed program and the system model

For the world, each HTTP request is one of three things (`Request.serve_cases`): a step of
the system model (create-order of a body that decodes is `CreateOrder` of the order the
route builds, and replay is `ReplayFailedEvents`), one write of the product repository (the
three inventory write routes, once their path parameter parses), or nothing. A listener's
delivery is the system model's delivery. So every state the deployed program reaches
without the write routes, when no two requests or handler invocations overlap, is a state of
the system model (`deployed_refines_system`), and what is proved of those states holds of
it. Overlapping replay runs reach states the system model does not (`ReplayRuns`).

The write routes change only products. Every route keeps each product document's id and
position, and every route but `PUT quantity` keeps its `quantity + reserved`, for every
quantity but MinInt64, which Go's `-quantity` maps to itself (`deployed_stock`). Order ids
stay distinct over every run whose create-order requests get ids the state does not hold
(`order_ids_unique`).

For the replies: a request answered with an error status leaves the world as it was, except
a replay run that counts failed publishes (`error_reply_changes_nothing`); create-order, on
a body whose numbers Go reads as the model does, answers 400 exactly for a body that does
not decode, and 201 only after publishing the
order.requested message whose handler stores the order (`create_order_reply`); and for an id
no product has, reserve answers 400 and the read 404, while release and update answer 200
(`inventory_replies`). At startup, seeding never changes a document already there, and
appends every sample whose id is new, which the fresh ids `main.go` gives its samples make
all five at every start (`seeding_appends`).
-/

set_option autoImplicit false

namespace OrderSaga

open Events Persistence Inventory Analysis

/-! ## What a request does to the world -/

/-- The step of the system model a request makes. -/
def Request.action : Request → Option Action
  | .createOrder body newID fails =>
    (OrderRequest.unmarshal body).map fun req => .createOrder (req.toOrder newID) fails
  | .replayFailedEvents fails => some (.replay fails)
  | _ => none

/-- The write of the product repository a request makes once its path parameter parses. -/
def Request.productWrite : Request → Option ProductWrite
  | .reserveProduct productID quantity err => quantity.map (.reserve err productID)
  | .releaseProduct productID quantity err => quantity.map (.release err productID)
  | .updateQuantity productID quantity err => quantity.map (.updateQuantity err productID)
  | _ => none

/-- The write of the product repository an event makes. -/
def Event.productWrite : Event → Option ProductWrite
  | .request r => r.productWrite
  | .deliver .. => none

/-- A request is a step of the system model, a write of the product repository, or
changes nothing. -/
theorem Request.serve_cases (w : World) (r : Request) :
    (∃ a, r.action = some a ∧ step w a = some (r.serve w).2) ∨
      (∃ pw, r.productWrite = some pw ∧ (r.serve w).2 = { w with products := pw.apply w.products }) ∨
      (r.serve w).2 = w := by
  cases r with
  | createOrder body newID fails =>
    simp only [Request.serve, Request.action, OrderController.createOrder]
    cases OrderRequest.unmarshal body with
    | none => exact .inr (.inr rfl)
    | some req =>
      refine .inl ⟨_, rfl, ?_⟩
      rcases createOrder_eq fails (req.toOrder newID) w with ⟨msg, h⟩ | ⟨-, h⟩ <;> simp [h, step]
  | replayFailedEvents fails =>
    refine .inl ⟨_, rfl, ?_⟩
    simp only [Request.serve, OrderController.replayFailedEvents, step]
    split <;> simp_all
  | reserveProduct _ quantity _ | releaseProduct _ quantity _ | updateQuantity _ quantity _ =>
    cases quantity with
    | none => exact .inr (.inr rfl)
    | some n =>
      refine .inr (.inl ⟨_, rfl, ?_⟩)
      simp only [Request.serve, InventoryController.reserveProduct, InventoryController.releaseProduct,
        InventoryController.updateQuantity, ProductWrite.apply, checkAndReserveProduct, releaseReservedProduct,
        updateProductQuantity]
      split_ifs <;> rfl
  | _ =>
    -- the three reads and the health check
    refine .inr (.inr ?_)
    simp only [Request.serve, InventoryController.getAllProducts, InventoryController.getProduct,
      InventoryController.getLowStockProducts, OrderSaga.healthCheck]
    repeat' split
    all_goals rfl

/-- The order id an event brings: the one a create-order request gives its order. -/
def Event.newOrderIds : Event → List String
  | .request (.createOrder _ newID _) => [newID]
  | _ => []

/-- An event brings at most one order id. -/
theorem Event.newOrderIds_nodup (e : Event) : e.newOrderIds.Nodup := by
  unfold Event.newOrderIds
  split <;> simp

/-- A request that is a step of the system model brings the ids that step brings. -/
theorem Request.newOrderIds_action {r : Request} {a : Action} (h : r.action = some a) :
    newOrderIds a = (Event.request r).newOrderIds := by
  cases r with
  | createOrder body newID fails => obtain ⟨req, -, rfl⟩ := Option.map_eq_some'.1 h; rfl
  | replayFailedEvents fails => cases h; rfl
  | _ => cases h

/-- Take events in order while `allowed` lets them through. -/
def apiRun (allowed : World → Event → Bool) (w : World) : List Event → Option World
  | [] => some w
  | e :: es => if allowed w e then (apiStep w e).bind fun w' => apiRun allowed w' es else none

/-- A run that `apiRun` takes from a reachable state ends in a reachable state. -/
theorem ApiReachable.apiRun {allowed : World → Event → Bool} {products : List Inventory.Product} {w w' : World}
    (hw : ApiReachable (fun w e => allowed w e = true) products w) (es : List Event)
    (h : OrderSaga.apiRun allowed w es = some w') : ApiReachable (fun w e => allowed w e = true) products w' := by
  induction es generalizing w with
  | nil => cases h; exact hw
  | cons e es ih =>
    simp only [OrderSaga.apiRun] at h
    split at h
    · obtain ⟨w₁, h₁, h₂⟩ := Option.bind_eq_some.1 h
      exact ih (.step e hw ‹_› h₁) h₂
    · cases h

namespace Analysis

/-- An event of the deployed program is a step of the system model, a write of the product
repository, or changes nothing. -/
theorem apiStep_cases {w w' : World} {e : Event} (h : apiStep w e = some w') :
    (∃ a, step w a = some w') ∨
      (∃ pw, e.productWrite = some pw ∧ w' = { w with products := pw.apply w.products }) ∨ w' = w := by
  cases e with
  | request r =>
    cases h
    rcases r.serve_cases w with ⟨a, -, ha⟩ | hw | hw
    · exact .inl ⟨a, ha⟩
    · exact .inr (.inl hw)
    · exact .inr (.inr hw)
  | deliver i fails => exact .inl ⟨.deliver i fails, h⟩

/-! ## Refinement -/

/-- Every state the deployed program reaches, one request or delivery at a time, by events
that write no product is a state of the system model. -/
theorem deployed_refines_system (allowed : World → Event → Prop) (products : List Inventory.Product)
    (hallowed : ∀ w e, allowed w e → e.productWrite = none) (w : World) (h : ApiReachable allowed products w) :
    Reachable products w := by
  induction h with
  | init => exact .init
  | step e _ he hs ih =>
    rcases apiStep_cases hs with ⟨a, ha⟩ | ⟨pw, hpw, -⟩ | rfl
    · exact .step a ih ha
    · cases (hallowed _ e he).symm.trans hpw
    · exact ih

/-- A create-order body for two units of `p1` at 10. -/
def laptopRequestBody : Body :=
  .json (.object [("amount", .int 10),
    ("product", .object [("id", .string "p1"), ("name", .string "Laptop"), ("quantity", .int 2)])])

/-- Two orders requested; the first is stored and its stock reserved, and the product read. -/
def orderFlow : List Event :=
  [.request (.createOrder laptopRequestBody "o1" Faults.none), .deliver 0 Faults.none,
    .request (.createOrder laptopRequestBody "o2" Faults.none), .deliver 0 Faults.none,
    .request (.getProduct "p1" false)]

/-- The event writes no product. -/
def writesNoProduct (_ : World) (e : Event) : Bool := e.productWrite.isNone

/-- The state `orderFlow` ends in, with no product write. -/
def orderFlowWorld : World := (apiRun writesNoProduct (World.init laptopStock) orderFlow).getD (World.init [])

/-- The state `orderFlow` ends in, with no product write, is a state of the system model. -/
theorem deployed_refines_system_orderFlow :
    (∀ w e, writesNoProduct w e = true → e.productWrite = none) ∧
      ApiReachable (fun w e => writesNoProduct w e = true) laptopStock orderFlowWorld ∧
      Reachable laptopStock orderFlowWorld :=
  have hallowed : ∀ w e, writesNoProduct w e = true → e.productWrite = none :=
    fun _ _ h => Option.isNone_iff_eq_none.1 h
  have h : ApiReachable (fun w e => writesNoProduct w e = true) laptopStock orderFlowWorld :=
    ApiReachable.init.apiRun orderFlow rfl
  ⟨hallowed, h, deployed_refines_system _ laptopStock hallowed orderFlowWorld h⟩

/-! ## Order ids -/

/-- An event holds no order id it did not hold before, except the one it brings. -/
theorem apiStep_orderIds {w w' : World} {e : Event} (h : apiStep w e = some w') :
    List.Subperm (orderIds w') (orderIds w ++ e.newOrderIds) := by
  cases e with
  | request r =>
    cases h
    rcases r.serve_cases w with ⟨a, ha, hs⟩ | ⟨pw, -, hw⟩ | hw
    · exact Request.newOrderIds_action ha ▸ step_orderIds hs
    all_goals rw [hw]; exact (List.sublist_append_left _ _).subperm
  | deliver i fails => exact step_orderIds (a := .deliver i fails) h

/-- In every state the deployed program reaches by events whose create-order requests give
ids the state does not hold, as `uuid.New()` does, no two stored orders share an id and no
order.requested message in flight carries an id that is stored or carried by another. So
every `UpdateOrder` on an id rewrites exactly the order with that id, and `GetOrderByID` of
a stored order's id returns that order. -/
theorem order_ids_unique (allowed : World → Event → Prop) (products : List Inventory.Product)
    (hfresh : ∀ w e, allowed w e → ∀ id ∈ e.newOrderIds, id ∉ orderIds w) (w : World)
    (h : ApiReachable allowed products w) :
    (orderIds w).Nodup ∧
      (∀ (err : Bool) (id : String) (u : OrderUpdate), updateOrder err id u w.orders =
        if err then none else some (w.orders.map fun d => if d.id = id then u.apply d else d)) ∧
      ∀ d ∈ w.orders, getOrderByID false d.id w.orders = some (some d) := by
  have hnd : (orderIds w).Nodup := by
    induction h with
    | init => simp [orderIds, World.init]
    | step e _ he hs ih =>
      exact orderIds_nodup_of_subperm ih e.newOrderIds_nodup (hfresh _ e he) (apiStep_orderIds hs)
  exact ⟨hnd, orders_by_id (List.nodup_append.1 hnd).1⟩

/-- The event brings only ids the state does not hold. -/
def freshIds (w : World) (e : Event) : Bool := e.newOrderIds.all fun id => !(orderIds w).contains id

/-- An event that `freshIds` lets through brings no id the state holds. -/
theorem freshIds_spec {w : World} {e : Event} (h : freshIds w e = true) : ∀ id ∈ e.newOrderIds, id ∉ orderIds w :=
  fun id hid hmem => by simpa [hmem] using List.all_eq_true.1 h id hid

/-- The state `orderFlow` ends in, with fresh ids. -/
def freshOrderFlowWorld : World := (apiRun freshIds (World.init laptopStock) orderFlow).getD (World.init [])

/-- The two orders of `orderFlow`, given fresh ids, have distinct ids, and each update and read
reaches the one order it names. -/
theorem order_ids_unique_orderFlow :
    (∀ w e, (fun w e => freshIds w e = true) w e → ∀ id ∈ e.newOrderIds, id ∉ orderIds w) ∧
      ApiReachable (fun w e => freshIds w e = true) laptopStock freshOrderFlowWorld ∧
      orderIds freshOrderFlowWorld = ["o1", "o2"] ∧
      (orderIds freshOrderFlowWorld).Nodup ∧
      (∀ (err : Bool) (id : String) (u : OrderUpdate), updateOrder err id u freshOrderFlowWorld.orders =
        if err then none else some (freshOrderFlowWorld.orders.map fun d => if d.id = id then u.apply d else d)) ∧
      ∀ d ∈ freshOrderFlowWorld.orders, getOrderByID false d.id freshOrderFlowWorld.orders = some (some d) :=
  have h : ApiReachable (fun w e => freshIds w e = true) laptopStock freshOrderFlowWorld :=
    ApiReachable.init.apiRun orderFlow rfl
  ⟨fun _ _ => freshIds_spec, h, by decide,
    order_ids_unique _ laptopStock (fun _ _ => freshIds_spec) freshOrderFlowWorld h⟩

/-! ## Products -/

/-- A product write keeps every product's id and position. -/
theorem ProductWrite.ids_apply (pw : ProductWrite) (ps : List Inventory.Product) :
    (pw.apply ps).map (·.id) = ps.map (·.id) := by
  cases pw with
  | reserve err id n =>
    simp only [ProductWrite.apply, checkAndReserveProduct]
    split_ifs
    · rfl
    · exact map_updateFirst _ _ _ (reserve_id n) ps
    · rfl
  | release err id n =>
    simp only [ProductWrite.apply, releaseReservedProduct]
    split_ifs
    · rfl
    · exact map_updateFirst _ _ _ (release_id n) ps
  | updateQuantity err id q =>
    simp only [ProductWrite.apply, updateProductQuantity]
    split_ifs
    · rfl
    · exact map_updateFirst _ (fun p : Inventory.Product => { p with quantity := q }) (·.id) (fun _ => rfl) ps

/-- A reservation or a release keeps every product's id and `quantity + reserved`. -/
theorem ProductWrite.stock_apply {pw : ProductWrite} (h : ∀ err id q, pw ≠ .updateQuantity err id q)
    (ps : List Inventory.Product) : stock (pw.apply ps) = stock ps := by
  cases pw with
  | reserve err id n =>
    cases hc : checkAndReserveProduct err id n ps with
    | none => simp [ProductWrite.apply, hc]
    | some r => simpa [ProductWrite.apply, hc] using stock_checkAndReserveProduct hc
  | release err id n =>
    cases hc : releaseReservedProduct err id n ps with
    | none => simp [ProductWrite.apply, hc]
    | some ps' => simpa [ProductWrite.apply, hc] using stock_releaseReservedProduct hc
  | updateQuantity err id q => exact absurd rfl (h err id q)

/-- Collections with the same stock have the same ids in the same order. -/
theorem ids_eq_of_stock_eq {ps ps' : List Inventory.Product} (h : stock ps = stock ps') :
    ps.map (·.id) = ps'.map (·.id) := by
  simpa [stock, Function.comp_def] using congrArg (List.map Prod.fst) h

/-- An event keeps each product's id and position, and unless it sets a quantity, its
`quantity + reserved`. -/
theorem apiStep_stock {w w' : World} {e : Event} (h : apiStep w e = some w') :
    w'.products.map (·.id) = w.products.map (·.id) ∧
      ((∀ err id q, e.productWrite ≠ some (.updateQuantity err id q)) → stock w'.products = stock w.products) := by
  rcases apiStep_cases h with ⟨a, ha⟩ | ⟨pw, hpw, rfl⟩ | rfl
  · exact ⟨ids_eq_of_stock_eq (step_stock ha), fun _ => step_stock ha⟩
  · exact ⟨pw.ids_apply _, fun hq => ProductWrite.stock_apply (fun err id q hpq => hq err id q (hpq ▸ hpw)) _⟩
  · exact ⟨rfl, fun _ => rfl⟩

/-- In every state the deployed program reaches, every product keeps its id and position.
When no event sets a quantity with `PUT quantity`, and no reserve or release request carries
MinInt64, whose negation Go wraps to itself (`negInt_minInt64`), each product also keeps its
initial `quantity + reserved`, the reserve and release routes included. -/
theorem deployed_stock (allowed : World → Event → Prop) (products : List Inventory.Product) (w : World)
    (h : ApiReachable allowed products w) :
    w.products.map (·.id) = products.map (·.id) ∧
      ((∀ w e, allowed w e → ∀ err id q, e.productWrite ≠ some (.updateQuantity err id q) ∧
          e.productWrite ≠ some (.reserve err id (-2 ^ 63)) ∧ e.productWrite ≠ some (.release err id (-2 ^ 63))) →
        stock w.products = stock products) := by
  induction h with
  | init => exact ⟨rfl, fun _ => rfl⟩
  | step e _ he hs ih =>
    obtain ⟨hids, hstock⟩ := apiStep_stock hs
    exact ⟨hids.trans ih.1, fun hq => (hstock fun err id q => (hq _ e he err id q).1).trans (ih.2 hq)⟩

/-- `orderFlow`, then one unit of `p1` reserved and released through the inventory routes. -/
def stockFlow : List Event :=
  orderFlow ++ [.request (.reserveProduct "p1" (some 1) false), .request (.releaseProduct "p1" (some 1) false)]

/-- The event sets no quantity, and reserves or releases any quantity but MinInt64. -/
def keepsStock (_ : World) (e : Event) : Bool :=
  match e.productWrite with
  | some (.updateQuantity ..) => false
  | some (.reserve _ _ q) | some (.release _ _ q) => q != -2 ^ 63
  | none => true

/-- The state `stockFlow` ends in. -/
def stockFlowWorld : World := (apiRun keepsStock (World.init laptopStock) stockFlow).getD (World.init [])

/-- The stock after `stockFlow`: two units reserved by the saga and one reserved and released
through the routes. -/
theorem deployed_stock_stockFlow :
    ApiReachable (fun w e => keepsStock w e = true) laptopStock stockFlowWorld ∧
      stockFlowWorld.products = [⟨"p1", 3, 2⟩] ∧
      stockFlowWorld.products.map (·.id) = laptopStock.map (·.id) ∧
      stock stockFlowWorld.products = stock laptopStock :=
  have h : ApiReachable (fun w e => keepsStock w e = true) laptopStock stockFlowWorld :=
    ApiReachable.init.apiRun stockFlow rfl
  have hkeeps : ∀ w e, keepsStock w e = true → ∀ err id q, e.productWrite ≠ some (.updateQuantity err id q) ∧
      e.productWrite ≠ some (.reserve err id (-2 ^ 63)) ∧ e.productWrite ≠ some (.release err id (-2 ^ 63)) :=
    fun w e he err id q => by refine ⟨?_, ?_, ?_⟩ <;> intro hpw <;> simp [keepsStock, hpw] at he
  ⟨h, by decide, (deployed_stock _ laptopStock stockFlowWorld h).1, (deployed_stock _ laptopStock stockFlowWorld h).2 hkeeps⟩

/-! ## Replies -/

/-- A replay whose fetch fails changes nothing. -/
theorem replayFailedEvents_fetch {fails : Faults} {w w' : World}
    (h : OrderService.replayFailedEvents fails w = (.error .fetch, w')) : w' = w := by
  unfold OrderService.replayFailedEvents at h
  split at h
  · exact (Prod.mk.inj h).2.symm
  · cases h
  · split at h
    split_ifs at h <;> cases h

/-- A replay that reports failures counted at least one. -/
theorem replayFailedEvents_failures {fails : Faults} {w w' : World} {failureCount total : Nat}
    (h : OrderService.replayFailedEvents fails w = (.error (.failures failureCount total), w')) :
    0 < failureCount := by
  unfold OrderService.replayFailedEvents at h
  split at h
  · cases h
  · cases h
  · split at h
    split_ifs at h with hf
    · cases h; exact hf
    · cases h

/-- A request answered with an error status leaves the world as it was, unless it is a
replay run that counted failed publishes, which answers 500 with the count after its
writes and publishes. -/
theorem error_reply_changes_nothing (w : World) (r : Request) (he : (r.serve w).1.isError = true) :
    (r.serve w).2 = w ∨ ∃ (fails : Faults) (failureCount total : Nat), r = .replayFailedEvents fails ∧ 0 < failureCount ∧
      (r.serve w).1 = ⟨500, .error ("replay completed with " ++ toString failureCount ++ " failures out of " ++
        toString total ++ " events")⟩ := by
  cases r with
  | createOrder body newID fails =>
    simp only [Request.serve, OrderController.createOrder] at he ⊢
    cases hu : OrderRequest.unmarshal body with
    | none => exact .inl rfl
    | some req =>
      rcases createOrder_eq fails (req.toOrder newID) w with ⟨msg, h⟩ | ⟨-, h⟩ <;>
        simp [hu, h, Reply.isError] at he ⊢
  | replayFailedEvents fails =>
    simp only [Request.serve, OrderController.replayFailedEvents] at he ⊢
    rcases hr : OrderService.replayFailedEvents fails w with ⟨res, w'⟩
    rcases res with (_ | ⟨failureCount, total⟩) | ⟨⟩
    · simp [hr, replayFailedEvents_fetch hr]
    · exact .inr ⟨fails, failureCount, total, rfl, replayFailedEvents_failures hr, by simp [hr]⟩
    · simp [hr, Reply.isError] at he
  | reserveProduct _ _ _ | releaseProduct _ _ _ | updateQuantity _ _ _ =>
    simp only [Request.serve, InventoryController.reserveProduct, InventoryController.releaseProduct,
      InventoryController.updateQuantity] at he ⊢
    repeat' split at he
    all_goals simp_all [Reply.isError]
  | _ =>
    -- the three reads and the health check leave the world as it was
    simp only [Request.serve, InventoryController.getAllProducts, InventoryController.getProduct,
      InventoryController.getLowStockProducts, OrderSaga.healthCheck]
    repeat' split
    all_goals simp

/-- A reservation of ten units of a product that holds five is refused, and nothing changes. -/
theorem error_reply_changes_nothing_stock_out :
    ((Request.reserveProduct "p1" (some 10) false).serve (World.init laptopStock)).1.isError = true ∧
      (((Request.reserveProduct "p1" (some 10) false).serve (World.init laptopStock)).2 = World.init laptopStock ∨
        ∃ (fails : Faults) (failureCount total : Nat),
          Request.reserveProduct "p1" (some 10) false = .replayFailedEvents fails ∧ 0 < failureCount ∧
          ((Request.reserveProduct "p1" (some 10) false).serve (World.init laptopStock)).1 =
            ⟨500, .error ("replay completed with " ++ toString failureCount ++ " failures out of " ++
              toString total ++ " events")⟩) :=
  ⟨by decide, error_reply_changes_nothing _ _ (by decide)⟩

/-- For a reservation with no driver error, the reserve route answers 200 exactly when a
product with the id holds at least the quantity. For an id no product has, reserve answers
400 and the read 404, while release and update answer 200 and change nothing. -/
theorem inventory_replies (w : World) (productID : String) (n : Int) :
    ((InventoryController.reserveProduct productID (some n) false w).1.status = 200 ↔
      ∃ p ∈ w.products, p.id = productID ∧ n ≤ p.quantity) ∧
    ((∀ p ∈ w.products, p.id ≠ productID) →
      (InventoryController.getProduct productID false w).1 = ⟨404, .error "Product not found"⟩ ∧
      InventoryController.reserveProduct productID (some n) false w =
        (⟨400, .error "Insufficient stock or product not found"⟩, w) ∧
      InventoryController.releaseProduct productID (some n) false w =
        (⟨200, .message "Reserved product released successfully"⟩, w) ∧
      InventoryController.updateQuantity productID (some n) false w =
        (⟨200, .message "Product quantity updated successfully"⟩, w)) := by
  constructor
  · simp only [InventoryController.reserveProduct, checkAndReserveProduct, Bool.false_eq_true, if_false]
    split_ifs with h <;> simp_all [reservable]
  · intro hnone
    have hne : ∀ p ∈ w.products, (p.id == productID) = false := fun p hp => by simpa using hnone p hp
    have hres : w.products.any (reservable productID n) = false := by
      simpa [reservable] using fun p hp hid => absurd hid (hnone p hp)
    have hfind : w.products.find? (·.id == productID) = none := List.find?_eq_none.2 fun p hp => by simp [hne p hp]
    refine ⟨?_, ?_, ?_, ?_⟩
    · simp [InventoryController.getProduct, getProductById, hfind]
    · simp [InventoryController.reserveProduct, checkAndReserveProduct, hres]
    · simp [InventoryController.releaseProduct, releaseReservedProduct, updateFirst_of_forall_not _ _ _ hne]
    · simp [InventoryController.updateQuantity, updateProductQuantity, updateFirst_of_forall_not _ _ _ hne]

/-! ## Startup -/

section Seeding

variable (err : Nat → Bool)

/-- The seeding loop only appends samples, in their order. -/
theorem seedProducts_go_extends (i : Nat) (seeds products : List Inventory.Product) :
    ∃ new, (seedProducts.go err i seeds products).2 = products ++ new ∧ new.Sublist seeds := by
  induction seeds generalizing i products with
  | nil => exact ⟨[], by simp [seedProducts.go], .slnil⟩
  | cons p seeds ih =>
    simp only [seedProducts.go, seedProduct]
    split_ifs
    · exact ⟨[], by simp, List.nil_sublist _⟩
    · obtain ⟨new, h, hs⟩ := ih (i + 1) products
      exact ⟨new, h, hs.cons p⟩
    · obtain ⟨new, h, hs⟩ := ih (i + 1) (products ++ [p])
      exact ⟨p :: new, by simp [h], hs.cons₂ p⟩

/-- The seeding loop leaves a collection that already holds every sample's id as it is. -/
theorem seedProducts_go_present (i : Nat) (seeds products : List Inventory.Product)
    (h : ∀ p ∈ seeds, ∃ q ∈ products, q.id = p.id) : (seedProducts.go err i seeds products).2 = products := by
  induction seeds generalizing i with
  | nil => rfl
  | cons p seeds ih =>
    have hp : products.any (·.id == p.id) = true := by simpa using h p (.head _)
    simp only [seedProducts.go, seedProduct, hp]
    split_ifs
    · rfl
    · exact ih (i + 1) fun p' hp' => h p' (.tail _ hp')

/-- On a collection that holds none of the samples' ids, the seeding loop appends the samples up to
the first failed upsert, and reports success exactly when none failed. -/
theorem seedProducts_go_fresh (i : Nat) (seeds products : List Inventory.Product)
    (hfresh : ∀ p ∈ seeds, ∀ q ∈ products, q.id ≠ p.id) (hnd : (seeds.map (·.id)).Nodup) :
    ∃ k ≤ seeds.length, seedProducts.go err i seeds products = (decide (k = seeds.length), products ++ seeds.take k) ∧
      (∀ j < k, err (i + j) = false) ∧ (k < seeds.length → err (i + k) = true) := by
  induction seeds generalizing i products with
  | nil => exact ⟨0, le_rfl, by simp [seedProducts.go], by simp, by simp⟩
  | cons p seeds ih =>
    obtain ⟨hp, hnd⟩ := List.nodup_cons.1 hnd
    cases he : err i with
    | true => exact ⟨0, by simp, by simp [seedProducts.go, seedProduct, he], by simp, fun _ => by simpa using he⟩
    | false =>
      have hnew : products.any (·.id == p.id) = false := by simpa using fun q hq => hfresh p (.head _) q hq
      have hfresh' : ∀ p' ∈ seeds, ∀ q ∈ products ++ [p], q.id ≠ p'.id := by
        intro p' hp' q hq
        rcases List.mem_append.1 hq with hq | hq
        · exact hfresh p' (.tail _ hp') q hq
        · rw [List.mem_singleton.1 hq]
          exact fun h => hp (List.mem_map.2 ⟨p', hp', h.symm⟩)
      obtain ⟨k, hk, heq, hok, hfail⟩ := ih (i + 1) (products ++ [p]) hfresh' hnd
      refine ⟨k + 1, by simpa using hk, by simp [seedProducts.go, seedProduct, he, hnew, heq], ?_, ?_⟩
      · intro j hj
        cases j with
        | zero => exact he
        | succ j => simpa [Nat.add_assoc, Nat.add_comm 1 j] using hok j (by omega)
      · intro hlt
        simpa [Nat.add_assoc, Nat.add_comm 1 k] using hfail (by simpa using hlt)

end Seeding

/-- Seeding never changes or removes a document already there; it leaves the collection as
it was when it already holds every sample's id; and for samples with distinct ids the
collection does not hold, it appends them in order up to the first failed call, reporting
success exactly when none failed. With the fresh ids `main.go` gives its five samples,
every start with no failure appends all five again. -/
theorem seeding_appends (err : Nat → Bool) (seeds products : List Inventory.Product) :
    (∃ new, (seedProducts err seeds products).2 = products ++ new ∧ new.Sublist seeds) ∧
    ((∀ p ∈ seeds, ∃ q ∈ products, q.id = p.id) → (seedProducts err seeds products).2 = products) ∧
    ((∀ p ∈ seeds, ∀ q ∈ products, q.id ≠ p.id) → (seeds.map (·.id)).Nodup →
      ∃ k ≤ seeds.length, seedProducts err seeds products = (decide (k = seeds.length), products ++ seeds.take k) ∧
        (∀ j < k, err j = false) ∧ (k < seeds.length → err k = true)) ∧
    ∀ id₁ id₂ id₃ id₄ id₅ : String, [id₁, id₂, id₃, id₄, id₅].Nodup →
      (∀ q ∈ products, q.id ∉ [id₁, id₂, id₃, id₄, id₅]) →
      seedProducts (fun _ => false) (sampleProducts id₁ id₂ id₃ id₄ id₅) products =
        (true, products ++ sampleProducts id₁ id₂ id₃ id₄ id₅) := by
  refine ⟨seedProducts_go_extends err 0 seeds products, seedProducts_go_present err 0 seeds products,
    fun hfresh hnd => ?_, fun id₁ id₂ id₃ id₄ id₅ hnd hfresh => ?_⟩
  · simpa using seedProducts_go_fresh err 0 seeds products hfresh hnd
  · have hids : (sampleProducts id₁ id₂ id₃ id₄ id₅).map (·.id) = [id₁, id₂, id₃, id₄, id₅] := rfl
    obtain ⟨k, hk, heq, -, hfail⟩ := seedProducts_go_fresh (fun _ => false) 0 _ products
      (fun p hp q hq hid => hfresh q hq (by rw [hid, ← hids]; exact List.mem_map_of_mem _ hp)) (hids ▸ hnd)
    -- every call succeeds, so the loop runs through all five samples
    obtain rfl : k = 5 := by
      change k ≤ 5 at hk
      by_contra hne
      exact Bool.false_ne_true (hfail (by change k < 5; omega))
    exact heq

end Analysis

end OrderSaga
