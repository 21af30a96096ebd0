import AutoGrocery.Relational.Table
import AutoGrocery.Rounding.Grid

/-!
Values that travel between the services and their stores. `int32` fields and
`INT` columns are `Int32`, so a value outside their range cannot be built.
Prices and costs are exact rationals: `float64` rounding is not modelled.
A Go `map[string]V` is an association list without repeated keys. `range` over
a map has no fixed order in Go; here it is the order of the list.
-/

namespace AutoGrocery

abbrev SKU := String

/-- The business order id, a UUID string. -/
abbrev OrderID := String

abbrev Timestamp := Int

/-- Go's `map[string]V`. -/
abbrev GoMap (V : Type) := Relational.Table String V

/-- `map[string]int32`: quantities by SKU. -/
abbrev ItemMap := GoMap Int32

/-- `m[sku]`, with Go's zero value for an absent key. -/
def ItemMap.at (m : ItemMap) (sku : SKU) : Int32 := (m.lookup sku).getD 0

/-- The quantity of a SKU in a map, as an integer. -/
def ItemMap.units (m : ItemMap) (sku : SKU) : Int := (m.at sku).toInt

/-- Every listed quantity is positive. -/
def ItemMap.Positive (m : ItemMap) : Prop :=
  ∀ sku quantity, m.lookup sku = some quantity → 0 < quantity.toInt

instance (m : ItemMap) : Decidable m.Positive :=
  decidable_of_iff (∀ row ∈ m.entries, 0 < row.2.toInt)
    ⟨fun h _ _ hrow => h _ (AList.mem_lookup_iff.mp hrow),
      fun h _ hrow => h _ _ (AList.mem_lookup_iff.mpr hrow)⟩

@[simp] theorem ItemMap.units_empty (sku : SKU) : ItemMap.units ∅ sku = 0 := rfl

theorem ItemMap.units_of_lookup {m : ItemMap} {sku : SKU} {quantity : Int32}
    (h : m.lookup sku = some quantity) : m.units sku = quantity.toInt := by
  simp [units, ItemMap.at, h]

theorem ItemMap.units_of_lookup_none {m : ItemMap} {sku : SKU}
    (h : m.lookup sku = none) : m.units sku = 0 := by
  simp [units, ItemMap.at, h]

theorem ItemMap.Positive.units_nonneg {m : ItemMap} (h : m.Positive) (sku : SKU) :
    0 ≤ m.units sku := by
  cases hsku : m.lookup sku with
  | none => rw [units_of_lookup_none hsku]
  | some quantity => rw [units_of_lookup hsku]; exact le_of_lt (h sku quantity hsku)

theorem ItemMap.Positive.units_pos_iff {m : ItemMap} (h : m.Positive) (sku : SKU) :
    0 < m.units sku ↔ sku ∈ m := by
  rw [← AList.lookup_isSome]
  cases hsku : m.lookup sku with
  | none => simp [units_of_lookup_none hsku]
  | some quantity => simp [units_of_lookup hsku, h sku quantity hsku]

/-- A Go `error`. `fault` is a failed statement, command or connection;
`notFound` is an error a store builds itself when a row or key is absent. -/
inductive GoError where
  | notFound (message : String)
  | fault (message : String)
  deriving DecidableEq

/-- `err.Error()`. -/
def GoError.message : GoError → String
  | .notFound message => message
  | .fault message => message

/-- `fmt.Errorf(context + "%w", err)`. -/
def GoError.wrap (context : String) : GoError → GoError
  | .notFound message => .notFound (context ++ message)
  | .fault message => .fault (context ++ message)

/-- A sequence of fallible steps that succeeded succeeded at each step. -/
theorem bind_eq_ok {ε α β : Type} {first : Except ε α} {rest : α → Except ε β} {value : β}
    (h : (first >>= rest) = .ok value) :
    ∃ middle, first = .ok middle ∧ rest middle = .ok value := by
  cases first with
  | error err => cases h
  | ok middle => exact ⟨middle, rfl, h⟩

def isFault {α : Type} : Except GoError α → Bool
  | .error (.fault _) => true
  | _ => false

/-- A value stored in an `INT` column; the statement fails out of range. -/
def int4 (x : Int) : Except GoError Int32 :=
  if -2 ^ 31 ≤ x ∧ x < 2 ^ 31 then .ok (Int32.ofInt x)
  else .error (.fault "pq: integer out of range")

theorem int4_toInt {x : Int} {stored : Int32} (h : int4 x = .ok stored) :
    stored.toInt = x := by
  unfold int4 at h
  split at h
  · rename_i hrange
    cases h
    exact Int32.toInt_ofInt_of_le hrange.1 hrange.2
  · cases h

theorem int4_of_range {x : Int} (h : -2 ^ 31 ≤ x ∧ x < 2 ^ 31) :
    int4 x = .ok (Int32.ofInt x) := by
  rw [int4, if_pos h]

theorem int4_error {x : Int} {err : GoError} (h : int4 x = .error err) :
    ∃ message, err = .fault message := by
  unfold int4 at h
  split at h
  · cases h
  · cases h
    exact ⟨_, rfl⟩

theorem int4_of_toInt (q : Int32) : int4 q.toInt = .ok q := by
  rw [int4_of_range ⟨Int32.le_toInt q, Int32.toInt_lt q⟩, Int32.ofInt_toInt]

/-- A sequence of fallible steps that failed failed at one of them. -/
theorem bind_eq_error {ε α β : Type} {first : Except ε α} {rest : α → Except ε β} {err : ε}
    (h : (first >>= rest) = .error err) :
    first = .error err ∨ ∃ middle, first = .ok middle ∧ rest middle = .error err := by
  cases first with
  | error err' => exact Or.inl (congrArg Except.error (Except.error.inj h))
  | ok middle => exact Or.inr ⟨middle, rfl, h⟩

/-- Rounding to whole cents, halves away from zero, as `math.Round` and
`NUMERIC(10,2)` both do. -/
def roundCents (x : ℚ) : ℚ :=
  if 0 ≤ x then ((x * 100 + 1 / 2).floor : ℚ) / 100
  else -(((-x * 100 + 1 / 2).floor : ℚ) / 100)

/-- A value stored in a `NUMERIC(10,2)` column. -/
def numeric (x : ℚ) : Except GoError ℚ :=
  if |roundCents x| < 100000000 then .ok (roundCents x)
  else .error (.fault "pq: numeric field overflow")

theorem numeric_error {x : ℚ} {err : GoError} (h : numeric x = .error err) :
    ∃ message, err = .fault message := by
  unfold numeric at h
  split at h
  · cases h
  · cases h
    exact ⟨_, rfl⟩

/-- Cents are a grid of a hundredth. -/
theorem roundCents_eq (x : ℚ) : roundCents x = Rounding.roundAway 100 x := by
  simp only [Rounding.roundAway, round_eq, Nat.cast_ofNat]
  rfl

/-- Rounding leaves whole cents. -/
theorem exists_roundCents (x : ℚ) : ∃ cents : ℤ, roundCents x = cents / 100 := by
  rw [roundCents_eq]
  exact Rounding.exists_roundAway 100 x

/-- Whole cents are stored as they are. -/
theorem roundCents_cents (cents : ℤ) : roundCents (cents / 100) = cents / 100 := by
  rw [roundCents_eq]
  exact Rounding.roundAway_grid (by decide) cents

/-- A column takes whole cents as they are, or overflows. -/
theorem numeric_of_cents {x : ℚ} (hcents : ∃ cents : ℤ, x = cents / 100) :
    numeric x = if |x| < 100000000 then .ok x else .error (.fault "pq: numeric field overflow") := by
  obtain ⟨cents, rfl⟩ := hcents
  rw [numeric, roundCents_cents]

theorem numeric_cents {cents : ℤ} {stored : ℚ} (h : numeric (cents / 100) = .ok stored) :
    stored = cents / 100 := by
  rw [numeric_of_cents ⟨cents, rfl⟩] at h
  split at h
  · exact (Except.ok.inj h).symm
  · cases h

/-- The status column of both order tables. -/
inductive OrderStatus where
  | pending
  | processing
  | failedDispatch
  | completed
  | other (text : String)
  deriving DecidableEq

/-- The `order_type` strings CUSTOMER and RESTOCK, and anything else a caller
may send. -/
inductive OrderType where
  | customer
  | restock
  | other (text : String)
  deriving DecidableEq

/-! ### Messages of the inventory service -/

structure ReserveItemsRequest where
  orderID : OrderID
  items : ItemMap

structure ReserveItemsResponse where
  orderID : OrderID
  success : Bool
  errorMessage : String
  deriving DecidableEq

structure ReleaseItemsRequest where
  orderID : OrderID
  items : ItemMap

structure ReleaseItemsResponse where
  success : Bool

structure ProcessCustomerOrderRequest where
  orderID : OrderID
  items : ItemMap

structure ProcessCustomerOrderResponse where
  success : Bool
  message : String

structure RestockItem where
  sku : SKU
  name : String
  aisleType : String
  quantity : Int32
  unitCost : ℚ
  mfdDate : Timestamp
  expiryDate : Timestamp
  deriving DecidableEq

structure RestockItemsOrderRequest where
  orderID : OrderID
  items : List RestockItem

structure RestockItemsOrderResponse where
  success : Bool

structure ReportJobStatusRequest where
  orderID : OrderID
  orderType : OrderType
  status : String
  processedItems : ItemMap

structure ReportJobStatusResponse where
  success : Bool

/-! ### Messages to the robots, to pricing and to ordering -/

/-- `mq.ItemDetails`. -/
structure ItemDetails where
  quantity : Int32
  aisle : String

structure BroadcastItem where
  sku : SKU
  quantity : Int32
  aisle : String
  deriving DecidableEq

structure OrderBroadcast where
  orderID : OrderID
  orderType : OrderType
  items : List BroadcastItem
  deriving DecidableEq

structure CartItem where
  sku : SKU
  quantity : Int32

structure LineItem where
  sku : SKU
  unitPrice : ℚ
  quantity : Int32
  totalPrice : ℚ

structure CalculateBillResponse where
  items : List LineItem
  grandTotal : ℚ

structure StockMetric where
  sku : SKU
  quantity : Int32
  unitCost : ℚ

structure UpdateStockMetricsResponse where
  success : Bool
  updatedCount : Int32

/-- The two completion webhooks of ordering. -/
inductive WebhookURL where
  | updateOrder
  | updateRestock
  deriving DecidableEq

/-- The JSON body `callWebhook` builds: the amount stands under `priceKey`. -/
structure WebhookPayload where
  orderID : OrderID
  status : OrderStatus
  priceKey : String
  price : ℚ

/-- Decoding a numeric field: a missing key leaves Go's zero value. -/
def WebhookPayload.number (payload : WebhookPayload) (key : String) : ℚ :=
  if payload.priceKey = key then payload.price else 0

end AutoGrocery
