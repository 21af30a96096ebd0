import AutoGrocery.Data

/-!
The workflow state of `internal/store/memory.go`: two Redis databases, number
0 for client orders and number 1 for restocks. Each order owns three keys, the
order id followed by `:items`, `:count` and `:finalized`. The suffixes differ and
hold the last colon of a key, so the keys of an order are three slots of one record.

Expiry is stored with each key. A key that reaches its expiry time is removed
by `RedisDB.expire`, a step of the environment, and not by these commands.
JSON encoding of the values is taken to be lossless.
-/

namespace AutoGrocery

/-- A stored value and the time it expires, in milliseconds; `none` for a key
without an expiry time. -/
structure RedisEntry (V : Type) where
  value : V
  expiresAt : Option Nat

/-- The three keys of one order. -/
structure OrderKeys (I : Type) where
  items : Option (RedisEntry I)
  count : Option (RedisEntry Nat)
  finalized : Option (RedisEntry Unit)

/-- One Redis database, with items of type `I`. -/
abbrev RedisDB (I : Type) := OrderID → OrderKeys I

/-- `1*time.Hour`. -/
def hour : Nat := 3600000

namespace RedisDB

variable {I : Type}

def empty : RedisDB I := fun _ => ⟨none, none, none⟩

/-- `SET orderID:items data EX 1h`. -/
def setItems (now : Nat) (orderID : OrderID) (items : I) (db : RedisDB I) : RedisDB I :=
  Function.update db orderID { db orderID with items := some ⟨items, some (now + hour)⟩ }

/-- `GET orderID:items`. -/
def getItems (orderID : OrderID) (db : RedisDB I) : Except GoError I :=
  match (db orderID).items with
  | some entry => .ok entry.value
  | none => .error (.notFound "redis: nil")

theorem getItems_setItems (db : RedisDB I) (now : Nat) (orderID other : OrderID) (items : I) :
    (db.setItems now orderID items).getItems other =
      if other = orderID then .ok items else db.getItems other := by
  unfold getItems setItems
  by_cases heq : other = orderID
  · subst heq
    simp
  · simp [heq]

/-- The value `INCR orderID:count` answers. -/
def nextCount (orderID : OrderID) (db : RedisDB I) : Nat :=
  match (db orderID).count with
  | some entry => entry.value + 1
  | none => 1

/-- `INCR orderID:count`. A new counter gets no expiry time and an old one
keeps its own. -/
def incr (orderID : OrderID) (db : RedisDB I) : RedisDB I :=
  Function.update db orderID
    { db orderID with
      count := some ⟨nextCount orderID db, ((db orderID).count.map (·.expiresAt)).getD none⟩ }

/-- `DEL orderID:items orderID:count orderID:finalized`, one atomic command. -/
def del (orderID : OrderID) (db : RedisDB I) : RedisDB I :=
  Function.update db orderID ⟨none, none, none⟩

/-- Whether `SETNX orderID:finalized` sets the marker. -/
def canMark (orderID : OrderID) (db : RedisDB I) : Bool := (db orderID).finalized.isNone

/-- `SET orderID:finalized 1 NX EX 1h`. -/
def setNX (now : Nat) (orderID : OrderID) (db : RedisDB I) : RedisDB I :=
  if canMark orderID db then
    Function.update db orderID { db orderID with finalized := some ⟨(), some (now + hour)⟩ }
  else db

/-- Counting a robot leaves the items of every order alone. -/
theorem incr_items (db : RedisDB I) (orderID other : OrderID) :
    (db.incr orderID other).items = (db other).items := by
  unfold incr
  by_cases heq : other = orderID
  · subst heq
    simp
  · simp [heq]

/-- So does setting a marker. -/
theorem setNX_items (db : RedisDB I) (now : Nat) (orderID other : OrderID) :
    (db.setNX now orderID other).items = (db other).items := by
  unfold setNX
  split
  · by_cases heq : other = orderID
    · subst heq
      simp
    · simp [heq]
  · rfl

/-- Deleting the keys of an order brings no items back. -/
theorem del_items (db : RedisDB I) (orderID other : OrderID) :
    (db.del orderID other).items = none ∨ (db.del orderID other).items = (db other).items := by
  unfold del
  by_cases heq : other = orderID
  · subst heq
    exact Or.inl (by simp)
  · exact Or.inr (by simp [heq])

/-- The keys still present at a time. -/
def expire (now : Nat) (db : RedisDB I) : RedisDB I :=
  let live {V : Type} (entry : Option (RedisEntry V)) : Option (RedisEntry V) :=
    entry.filter fun e => e.expiresAt.all (now < ·)
  fun orderID => ⟨live (db orderID).items, live (db orderID).count, live (db orderID).finalized⟩

end RedisDB

/-- `MemoryStore`: the two database clients. -/
structure MemoryStore where
  clientClient : RedisDB ItemMap
  restockClient : RedisDB (List RestockItem)

namespace MemoryStore

def empty : MemoryStore := ⟨.empty, .empty⟩

def saveOrderItems (now : Nat) (orderID : OrderID) (items : ItemMap) (m : MemoryStore) :
    MemoryStore :=
  { m with clientClient := m.clientClient.setItems now orderID items }

def getOrderItems (orderID : OrderID) (m : MemoryStore) : Except GoError ItemMap :=
  m.clientClient.getItems orderID

def incrementClientRobotCount (orderID : OrderID) (m : MemoryStore) : Nat × MemoryStore :=
  (m.clientClient.nextCount orderID, { m with clientClient := m.clientClient.incr orderID })

def saveRestockItems (now : Nat) (orderID : OrderID) (items : List RestockItem)
    (m : MemoryStore) : MemoryStore :=
  { m with restockClient := m.restockClient.setItems now orderID items }

def getRestockItems (orderID : OrderID) (m : MemoryStore) : Except GoError (List RestockItem) :=
  m.restockClient.getItems orderID

def incrementRestockRobotCount (orderID : OrderID) (m : MemoryStore) : Nat × MemoryStore :=
  (m.restockClient.nextCount orderID, { m with restockClient := m.restockClient.incr orderID })

def deleteOrderData (orderID : OrderID) (isRestock : Bool) (m : MemoryStore) : MemoryStore :=
  if isRestock then { m with restockClient := m.restockClient.del orderID }
  else { m with clientClient := m.clientClient.del orderID }

def tryMarkOrderFinalized (now : Nat) (orderID : OrderID) (isRestock : Bool)
    (m : MemoryStore) : Bool × MemoryStore :=
  if isRestock then
    (m.restockClient.canMark orderID,
      { m with restockClient := m.restockClient.setNX now orderID })
  else
    (m.clientClient.canMark orderID,
      { m with clientClient := m.clientClient.setNX now orderID })

/-- Saving the same items a second time at once changes nothing. -/
theorem saveOrderItems_twice (now : Nat) (orderID : OrderID) (items : ItemMap) (m : MemoryStore) :
    (m.saveOrderItems now orderID items).saveOrderItems now orderID items =
      m.saveOrderItems now orderID items := by
  simp [saveOrderItems, RedisDB.setItems]

theorem saveRestockItems_twice (now : Nat) (orderID : OrderID) (items : List RestockItem)
    (m : MemoryStore) :
    (m.saveRestockItems now orderID items).saveRestockItems now orderID items =
      m.saveRestockItems now orderID items := by
  simp [saveRestockItems, RedisDB.setItems]

end MemoryStore

end AutoGrocery
