import OrderSaga.Model.System

/-!
# Stock: what reservation and release conserve, and what they do not

Every step of the system keeps each product document in place and keeps its
`quantity + reserved`: only the order.created and order.cancelled handlers write
products, through one `$inc` pair each (`step_stock`, `stock_conserved`).

What the steps do not keep is any tie between `reserved` and the orders. The
order.cancelled handler releases the quantity stored on the order whatever the order's
history, so an order refused for lack of stock still has its quantity released
(`reserved_ne_confirmed_after_stock_out`); and neither handler undoes its write when a
later call fails (`stock_write_not_compensated`).
-/

set_option autoImplicit false

namespace OrderSaga.Analysis

open Events Persistence Inventory

/-! ## Conservation -/

section Handlers

variable (fails : Faults) (body : Body) (w : World)

/-- The order.created handler keeps every product's id and `quantity + reserved`: its one product
write is a reservation. -/
theorem orderCreated_stock :
    stock (OrderCreatedEventHandler.handle fails body w).products = stock w.products := by
  rw [OrderCreatedEventHandler.handle_products]
  split
  · split
    · exact stock_checkAndReserveProduct ‹_›
    · rfl
  · rfl

/-- The order.cancelled handler keeps every product's id and `quantity + reserved`: its one product
write is a release. -/
theorem orderCancelled_stock :
    stock (OrderCancelledEventHandler.handle fails body w).products = stock w.products := by
  rw [OrderCancelledEventHandler.handle_products]
  split
  · split
    · rename_i order _
      cases h : releaseReservedProduct (fails .releaseProduct) order.product.id order.product.quantity
          w.products with
      | none => rfl
      | some products => exact stock_releaseReservedProduct h
    · rfl
  · rfl

end Handlers

/-- One step of the system keeps every product's id and `quantity + reserved`. -/
theorem step_stock {w w' : World} {a : Action} (h : step w a = some w') :
    stock w'.products = stock w.products := by
  cases a with
  | createOrder order fails => cases h; simp
  | cancelOrder orderID fails => cases h; simp
  | replay fails => cases h; simp
  | deliver i fails =>
    obtain ⟨m, handler, -, hd, rfl⟩ := step_deliver_eq_some.1 h
    exact dispatch_rec (P := fun _ handler =>
        stock (handler fails m.body { w with inFlight := w.inFlight.eraseIdx i }).products =
          stock w.products)
      (by simp) (orderCreated_stock _ _ _) (orderCancelled_stock _ _ _) (by simp) (by simp)
      (by simp [DLQHandler.handleOrderCreatedDLQ]) (by simp [DLQHandler.handleOrderCancelledDLQ])
      (by simp [DLQHandler.handleInventoryStatusUpdatedDLQ]) hd

/-- In every reachable state each product keeps its id, its position and its initial
`quantity + reserved`. -/
theorem stock_conserved {products : List Inventory.Product} {w : World}
    (h : Reachable products w) : stock w.products = stock products := by
  induction h with
  | init => rfl
  | step a _ hs ih => rw [step_stock hs, ih]

/-- One product, five in stock. -/
def laptopStock : List Inventory.Product := [⟨"p1", 5, 0⟩]

/-- An order for ten: the reservation is refused, the inventory.status.updated handler
cancels the order, and the order.cancelled handler releases the ten units. -/
def stockOutTrace : List Action :=
  [.createOrder ⟨"o1", 10, "Pending", ⟨"p1", "Laptop", 10⟩⟩ Faults.none,
    .deliver 0 Faults.none,
    .deliver 0 Faults.none,
    .deliver 0 Faults.none,
    .deliver 1 Faults.none]

/-- The state the stock-out trace ends in. -/
def stockOutWorld : World := (run (World.init laptopStock) stockOutTrace).getD (World.init laptopStock)

/-- The stock-out trace is a run of the system model. -/
theorem reachable_stockOutWorld : Reachable laptopStock stockOutWorld :=
  reachable_run .init stockOutTrace rfl

/-- After the stock-out trace `p1` holds 15 and has `reserved = -10`, which still sum to its initial
5. -/
theorem stock_conserved_after_stock_out :
    Reachable laptopStock stockOutWorld ∧ stock stockOutWorld.products = stock laptopStock ∧
      stockOutWorld.products = [⟨"p1", 15, -10⟩] :=
  ⟨reachable_stockOutWorld, stock_conserved reachable_stockOutWorld, by decide⟩

/-! ## What is not conserved -/

/-- The quantity of the `Confirmed` orders for a product. -/
def confirmedQuantity (orders : List OrderDocument) (productID : String) : Int :=
  (orders.filter fun o => o.product.id == productID && o.status == "Confirmed").foldr
    (fun o total => o.product.quantity + total) 0

/-- After the stock-out trace, which no failure interrupts, `p1` has `reserved = -10`
and no order is `Confirmed`. -/
theorem reserved_ne_confirmed_after_stock_out :
    ∃ w, Reachable laptopStock w ∧
      ∃ p ∈ w.products, p.reserved < 0 ∧ p.reserved ≠ confirmedQuantity w.orders p.id :=
  ⟨stockOutWorld, reachable_stockOutWorld, by decide⟩

/-! ## Bounds of the product writes

Each of the three writes of the product repository is one atomic MongoDB update, so
concurrent calls act as some sequence of them. The code guards only the quantity of a
reservation (`quantity >= n`); which arguments keep both counters non-negative is
`ProductWrite.admissible`.
-/

/-- A call of one of the three writes of the product repository, with the outcome of its
driver call. -/
inductive ProductWrite where
  | reserve (err : Bool) (productID : String) (quantity : Int)
  | release (err : Bool) (productID : String) (quantity : Int)
  | updateQuantity (err : Bool) (productID : String) (quantity : Int)

/-- The products after the write; a failed call leaves them as they were. -/
def ProductWrite.apply : ProductWrite → List Inventory.Product → List Inventory.Product
  | .reserve err id n, ps => ((checkAndReserveProduct err id n ps).map Prod.snd).getD ps
  | .release err id n, ps => (releaseReservedProduct err id n ps).getD ps
  | .updateQuantity err id q, ps => (updateProductQuantity err id q ps).getD ps

/-- Both counters of a product are non-negative. -/
def Bounded (p : Inventory.Product) : Prop := 0 ≤ p.quantity ∧ 0 ≤ p.reserved

/-- Whether a product is bounded is decided by its two counters. -/
instance : DecidablePred Bounded := fun _ => inferInstanceAs (Decidable (_ ∧ _))

/-- The write fails, matches nothing, or its argument keeps the document it writes within
bounds: the first document its filter matches. -/
def ProductWrite.admissible : ProductWrite → List Inventory.Product → Bool
  | .reserve err id n, ps => err || (ps.find? (reservable id n)).all fun p => 0 ≤ p.reserved + n
  | .release err id n, ps =>
    err || (ps.find? (·.id == id)).all fun p => 0 ≤ p.quantity + n && n ≤ p.reserved
  | .updateQuantity err id q, ps => err || (ps.find? (·.id == id)).all fun _ => 0 ≤ q

/-- The write that succeeds is an update of the first document its filter matches. -/
theorem ProductWrite.apply_reserve (id : String) (n : Int) (ps : List Inventory.Product) :
    (ProductWrite.reserve false id n).apply ps = updateFirst (reservable id n) (Product.reserve n) ps := by
  simp only [ProductWrite.apply, checkAndReserveProduct, Bool.false_eq_true, if_false]
  split
  · rfl
  · rename_i hany
    exact (updateFirst_of_forall_not _ _ _ (by simpa using hany)).symm

/-- From bounded products, a write keeps every product bounded exactly when it is
admissible. -/
theorem bounded_apply_iff (w : ProductWrite) {ps : List Inventory.Product}
    (h : ∀ p ∈ ps, Bounded p) : (∀ p ∈ w.apply ps, Bounded p) ↔ w.admissible ps = true := by
  cases w with
  | reserve err id n =>
    cases err
    · rw [ProductWrite.apply_reserve, forall_mem_updateFirst_iff _ _ _ h]
      cases hf : ps.find? (reservable id n) with
      | none => simp [ProductWrite.admissible, hf]
      | some p =>
        have hq := List.find?_some hf
        simp only [reservable, Bool.and_eq_true, decide_eq_true_eq] at hq
        simp only [ProductWrite.admissible, hf, Bool.false_or, Option.all_some, decide_eq_true_eq,
          Option.some.injEq, forall_eq', Bounded, Product.reserve]
        omega
    · simpa [ProductWrite.apply, ProductWrite.admissible, checkAndReserveProduct] using h
  | release err id n =>
    cases err
    · simp only [ProductWrite.apply, releaseReservedProduct, Bool.false_eq_true, if_false,
        Option.getD_some, forall_mem_updateFirst_iff _ _ _ h]
      cases hf : ps.find? (·.id == id) with
      | none => simp [ProductWrite.admissible, hf]
      | some p =>
        have := h p (List.mem_of_find?_eq_some hf)
        simp only [ProductWrite.admissible, hf, Bool.false_or, Option.all_some, Bool.and_eq_true,
          decide_eq_true_eq, Option.some.injEq, forall_eq', Bounded, Product.release] at this ⊢
        omega
    · simpa [ProductWrite.apply, ProductWrite.admissible, releaseReservedProduct] using h
  | updateQuantity err id q =>
    cases err
    · simp only [ProductWrite.apply, updateProductQuantity, Bool.false_eq_true, if_false,
        Option.getD_some, forall_mem_updateFirst_iff _ _ _ h]
      cases hf : ps.find? (·.id == id) with
      | none => simp [ProductWrite.admissible, hf]
      | some p =>
        have := h p (List.mem_of_find?_eq_some hf)
        simp only [ProductWrite.admissible, hf, Bool.false_or, Option.all_some, decide_eq_true_eq,
          Option.some.injEq, forall_eq', Bounded] at this ⊢
        omega
    · simpa [ProductWrite.apply, ProductWrite.admissible, updateProductQuantity] using h

/-- The product stores a sequence of admissible writes reaches from `products`. -/
inductive AdmissibleRun (products : List Inventory.Product) : List Inventory.Product → Prop
  | init : AdmissibleRun products products
  | step {ps : List Inventory.Product} (w : ProductWrite) : AdmissibleRun products ps →
      w.admissible ps = true → AdmissibleRun products (w.apply ps)

/-- From bounded products, a write keeps every product bounded exactly when it is
admissible, so every sequence of admissible writes keeps them bounded. -/
theorem product_writes_bounded (products : List Inventory.Product) (h : ∀ p ∈ products, Bounded p) :
    (∀ w : ProductWrite, (∀ p ∈ w.apply products, Bounded p) ↔ w.admissible products = true) ∧
      ∀ ps, AdmissibleRun products ps → ∀ p ∈ ps, Bounded p := by
  refine ⟨fun w => bounded_apply_iff w h, fun ps hps => ?_⟩
  induction hps with
  | init => exact h
  | step w _ hw ih => exact (bounded_apply_iff w ih).2 hw

/-- The bounds from `laptopStock`, whose one product is bounded. -/
theorem product_writes_bounded_laptop :
    (∀ p ∈ laptopStock, Bounded p) ∧
      (∀ w : ProductWrite, (∀ p ∈ w.apply laptopStock, Bounded p) ↔ w.admissible laptopStock = true) ∧
      ∀ ps, AdmissibleRun laptopStock ps → ∀ p ∈ ps, Bounded p :=
  ⟨by decide, product_writes_bounded laptopStock (by decide)⟩

/-- Any negative request passes the reservation filter and lowers `reserved`. -/
theorem checkAndReserveProduct_negative (p : Inventory.Product) (n : Int) (hn : n < 0)
    (hq : 0 ≤ p.quantity) :
    checkAndReserveProduct false p.id n [p] = some (true, [p.reserve n]) ∧
      (p.reserve n).reserved < p.reserved := by
  have : reservable p.id n p = true := by simp [reservable]; omega
  simp [checkAndReserveProduct, updateFirst, this, Product.reserve]
  omega

/-- `ReserveProduct("p1", -1)` on a fresh product: the request passes the filter and the
product ends with `reserved = -1`. -/
theorem reserve_negative_quantity :
    checkAndReserveProduct false "p1" (-1) [⟨"p1", 0, 0⟩] = some (true, [⟨"p1", 1, -1⟩]) :=
  (checkAndReserveProduct_negative ⟨"p1", 0, 0⟩ (-1) (by decide) le_rfl).1

/-! ## No compensation -/

/-- The products of a handler invocation are decided by its own reservation or release and
are kept whatever follows: the order.created handler changes them only by a successful
`CheckAndReserveProduct`, and keeps that reservation whether or not `UpdateOrder` then
fails; likewise the order.cancelled handler with `ReleaseReservedProduct`. -/
theorem stock_write_not_compensated (fails : Faults) (body : Body) (w : World) :
    (∀ e products, OrderCreatedEvent.unmarshal body = some e →
      checkAndReserveProduct (fails .reserveProduct) e.product.id e.product.quantity w.products =
        some (true, products) →
      (OrderCreatedEventHandler.handle fails body w).products = products) ∧
    ((OrderCreatedEventHandler.handle fails body w).products ≠ w.products →
      ∃ e products, OrderCreatedEvent.unmarshal body = some e ∧
        checkAndReserveProduct (fails .reserveProduct) e.product.id e.product.quantity w.products =
          some (true, products)) ∧
    (∀ e order products, OrderCancelledEvent.unmarshal body = some e →
      getOrderByID (fails .getOrder) e.orderId w.orders = some (some order) →
      releaseReservedProduct (fails .releaseProduct) order.product.id order.product.quantity
        w.products = some products →
      (OrderCancelledEventHandler.handle fails body w).products = products) ∧
    ((OrderCancelledEventHandler.handle fails body w).products ≠ w.products →
      ∃ e order products, OrderCancelledEvent.unmarshal body = some e ∧
        getOrderByID (fails .getOrder) e.orderId w.orders = some (some order) ∧
        releaseReservedProduct (fails .releaseProduct) order.product.id order.product.quantity
          w.products = some products) := by
  refine ⟨fun e products he hr => ?_, fun hne => ?_, fun e order products he ho hr => ?_, fun hne => ?_⟩
  · simp [OrderCreatedEventHandler.handle_products, he, hr]
  · rw [OrderCreatedEventHandler.handle_products] at hne
    split at hne
    · split at hne
      · exact ⟨_, _, ‹_›, ‹_›⟩
      · exact absurd rfl hne
    · exact absurd rfl hne
  · simp [OrderCancelledEventHandler.handle_products, he, ho, hr]
  · rw [OrderCancelledEventHandler.handle_products] at hne
    split at hne
    · split at hne
      · rename_i order _
        cases hr : releaseReservedProduct (fails .releaseProduct) order.product.id order.product.quantity
            w.products with
        | none => simp [hr] at hne
        | some products => exact ⟨_, _, _, ‹_›, ‹_›, hr⟩
      · exact absurd rfl hne
    · exact absurd rfl hne

/-- The order `o1` for two units of `p1`, still `Processing`. -/
def processingOrder : OrderDocument := ⟨"o1", 10, "Processing", ⟨"p1", "Laptop", 2⟩, none, none⟩

/-- The `order.created` message for `o1`. -/
def orderCreatedBody : Body := .json (⟨"o1", ⟨"p1", "Laptop", 2⟩, 10, "Processing", 1⟩ : OrderCreatedEvent).marshal

/-- Only the status update fails. -/
def updateOrderFails : Faults
  | .updateOrder => true
  | _ => false

/-- The reservation succeeds, the status update fails: `o1` stays `Processing` and the
product store has changed. -/
theorem reservation_kept_when_confirmation_fails :
    let w : World := ⟨[processingOrder], laptopStock, ⟨[], 0⟩, []⟩
    let w' := OrderCreatedEventHandler.handle updateOrderFails orderCreatedBody w
    (w'.orders.find? (·.id == "o1")).map (·.status) = some "Processing" ∧
      w'.products = [⟨"p1", 3, 2⟩] ∧ w'.products ≠ w.products := by
  decide

end OrderSaga.Analysis
