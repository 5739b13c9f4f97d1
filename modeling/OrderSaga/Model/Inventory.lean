import Mathlib.Algebra.Group.Int
import Mathlib.Algebra.Group.Nat.Basic
import OrderSaga.Model.Collection

/-!
# The product repository

`product_repository.go`: the `products` collection, the three writes the
choreography and the inventory endpoints make to it, the reads of the inventory
endpoints, and the upsert `main.go` seeds the catalogue with. Each takes the flag `err`, the
outcome the collaborator call has in this run: `true` is an error returned by the
driver, after which the collection is as it was. The `inventoryService` methods of
the same names delegate to these unchanged.

Quantities are Go `int`s passed straight into `$inc` and `$set`; nothing on the path
checks their sign, which is what `reserve_quantity_add_reserved` and the analysis of
the stock invariants turn on. The `-quantity` of the two `$inc` pairs is exact negation
here. Go's `-` on an `int` (`negInt`) agrees with it on every `int` but MinInt64, `-2^63`,
which it maps to itself (`reserve_eq_negInt`, `release_eq_negInt`); a statement about
requests that carry any quantity leaves that one value out.
-/

set_option autoImplicit false

namespace OrderSaga.Inventory

/-- `inventory.Product`: a product document. Its `Name` is read by nothing modelled. -/
structure Product where
  id : String
  quantity : Int
  reserved : Int
  deriving DecidableEq, Repr

/-- The filter of `CheckAndReserveProduct`: `{"id": productID, "quantity": {"$gte": quantity}}`. -/
def reservable (productID : String) (quantity : Int) (p : Product) : Bool :=
  p.id == productID && decide (quantity ≤ p.quantity)

/-- The `$inc` of `CheckAndReserveProduct`: `{"quantity": -quantity, "reserved": quantity}`,
with exact negation. -/
def Product.reserve (quantity : Int) (p : Product) : Product :=
  { p with quantity := p.quantity - quantity, reserved := p.reserved + quantity }

/-- The `$inc` of `ReleaseReservedProduct`: `{"quantity": quantity, "reserved": -quantity}`,
with exact negation. -/
def Product.release (quantity : Int) (p : Product) : Product :=
  { p with quantity := p.quantity + quantity, reserved := p.reserved - quantity }

/-- `productRepository.CheckAndReserveProduct`: `FindOneAndUpdate` with the filter above.
`some (true, _)` when a document matched, `some (false, _)` on `ErrNoDocuments`, `none`
on any other error. -/
def checkAndReserveProduct (err : Bool) (productID : String) (quantity : Int)
    (products : List Product) : Option (Bool × List Product) :=
  if err then none
  else if products.any (reservable productID quantity) then
    some (true, updateFirst (reservable productID quantity) (Product.reserve quantity) products)
  else some (false, products)

/-- `productRepository.ReleaseReservedProduct`: `UpdateOne` on the first product with the
id; no match is not an error. -/
def releaseReservedProduct (err : Bool) (productID : String) (quantity : Int)
    (products : List Product) : Option (List Product) :=
  if err then none else some (updateFirst (·.id == productID) (Product.release quantity) products)

/-- `productRepository.UpdateProductQuantity`: `$set` of the quantity, reached only from
the inventory endpoint `PUT /products/:id/quantity/:quantity`. -/
def updateProductQuantity (err : Bool) (productID : String) (quantity : Int)
    (products : List Product) : Option (List Product) :=
  if err then none else some (updateFirst (·.id == productID) ({ · with quantity }) products)

/-! ## Reads and the seeding upsert -/

/-- `productRepository.GetProductById`: `FindOne` on the id; `ErrNoDocuments` is reported
as `(nil, nil)`, so a missing product is `some none` and only a driver error is `none`. -/
def getProductById (err : Bool) (productID : String) (products : List Product) :
    Option (Option Product) :=
  if err then none else some (products.find? (·.id == productID))

/-- `productRepository.GetLowStockProducts`: `Find` with `{"quantity": {"$lt": threshold}}`,
the documents in collection order. -/
def getLowStockProducts (err : Bool) (threshold : Int) (products : List Product) :
    Option (List Product) :=
  if err then none else some (products.filter fun p => decide (p.quantity < threshold))

/-- `productRepository.GetAllProducts`: `Find` with the empty filter. -/
def getAllProducts (err : Bool) (products : List Product) : Option (List Product) :=
  if err then none else some products

/-- `productRepository.SeedProduct`: `UpdateOne` on `{"id": product.ID}` with
`$setOnInsert` and upsert. A document with the id is left as it is; otherwise the product
is inserted. -/
def seedProduct (err : Bool) (product : Product) (products : List Product) : Option (List Product) :=
  if err then none
  else if products.any (·.id == product.id) then some products
  else some (products ++ [product])

/-! ## What reservation and release conserve -/

/-- Reserving and releasing move units between the two counters and never change their sum. -/
@[simp] theorem reserve_quantity_add_reserved (n : Int) (p : Product) :
    (p.reserve n).quantity + (p.reserve n).reserved = p.quantity + p.reserved := by
  simp only [Product.reserve]; omega

/-- A release moves units from `reserved` back to `quantity` and never changes their sum. -/
@[simp] theorem release_quantity_add_reserved (n : Int) (p : Product) :
    (p.release n).quantity + (p.release n).reserved = p.quantity + p.reserved := by
  simp only [Product.release]; omega

/-- A reservation keeps the product's id. -/
@[simp] theorem reserve_id (n : Int) (p : Product) : (p.reserve n).id = p.id := rfl

/-- A release keeps the product's id. -/
@[simp] theorem release_id (n : Int) (p : Product) : (p.release n).id = p.id := rfl

/-! ## Go's negation -/

/-- Go's `-x` on an `int` of 64 bits: two's-complement negation, modulo `2^64` into
`[-2^63, 2^63)`. -/
def negInt (x : Int) : Int := (-x).bmod (2 ^ 64)

/-- On every `int` but MinInt64, Go's `-x` is exact negation. -/
theorem negInt_of_int64 {x : Int} (h1 : -2 ^ 63 < x) (h2 : x < 2 ^ 63) : negInt x = -x := by
  simp only [negInt, Int.bmod]
  split <;> omega

/-- Go's `-x` maps MinInt64 to itself. -/
theorem negInt_minInt64 : negInt (-2 ^ 63) = -2 ^ 63 := by decide

/-- For every `int` quantity but MinInt64, the model's reservation is the `$inc` pair Go
sends. -/
theorem reserve_eq_negInt (p : Product) {n : Int} (h1 : -2 ^ 63 < n) (h2 : n < 2 ^ 63) :
    p.reserve n = { p with quantity := p.quantity + negInt n, reserved := p.reserved + n } := by
  rw [negInt_of_int64 h1 h2, Product.reserve, Int.sub_eq_add_neg]

/-- For every `int` quantity but MinInt64, the model's release is the `$inc` pair Go sends. -/
theorem release_eq_negInt (p : Product) {n : Int} (h1 : -2 ^ 63 < n) (h2 : n < 2 ^ 63) :
    p.release n = { p with quantity := p.quantity + n, reserved := p.reserved + negInt n } := by
  rw [negInt_of_int64 h1 h2, Product.release, Int.sub_eq_add_neg]

/-- The stock of a collection: each product's id with its quantity plus reserved. -/
def stock (products : List Product) : List (String × Int) :=
  products.map fun p => (p.id, p.quantity + p.reserved)

/-- `CheckAndReserveProduct` keeps the stock, whether it reserves or not. -/
theorem stock_checkAndReserveProduct {err : Bool} {productID : String} {quantity : Int}
    {products products' : List Product} {ok : Bool}
    (h : checkAndReserveProduct err productID quantity products = some (ok, products')) :
    stock products' = stock products := by
  unfold checkAndReserveProduct at h
  split at h
  · cases h
  split at h <;> cases h
  · exact map_updateFirst _ _ _ (by simp) _
  · rfl

/-- `ReleaseReservedProduct` keeps the stock. -/
theorem stock_releaseReservedProduct {err : Bool} {productID : String} {quantity : Int}
    {products products' : List Product}
    (h : releaseReservedProduct err productID quantity products = some products') :
    stock products' = stock products := by
  unfold releaseReservedProduct at h
  split at h <;> cases h
  exact map_updateFirst _ _ _ (by simp) _

end OrderSaga.Inventory
