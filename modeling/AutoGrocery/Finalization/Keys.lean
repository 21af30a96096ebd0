import AutoGrocery.Finalization.Refinement

/-!
The three keys of an order with their expiry times, in whichever database they
are. The barrier of the order sees the same keys without the times.
-/

namespace AutoGrocery

/-- Whether a key is there at a time. -/
def RedisEntry.live {V : Type} (time : Nat) (entry : RedisEntry V) : Bool :=
  entry.expiresAt.all (time < ·)

/-- Another reading of the items. -/
def OrderKeys.map {I J : Type} (f : I → J) (keys : OrderKeys I) : OrderKeys J :=
  ⟨keys.items.map fun entry => ⟨f entry.value, entry.expiresAt⟩, keys.count, keys.finalized⟩

/-- The three keys of an order in its database. -/
def orderKeys (orderID : OrderID) (isRestock : Bool) (m : MemoryStore) : OrderKeys Work :=
  if isRestock then (m.restockClient orderID).map .restock else (m.clientClient orderID).map .client

section

variable (orderID : OrderID) (isRestock : Bool) (m : MemoryStore)

theorem savedWork_eq :
    savedWork orderID isRestock m = (orderKeys orderID isRestock m).items.map RedisEntry.value := by
  cases isRestock <;> simp [savedWork, orderKeys, OrderKeys.map, Option.map_map, Function.comp_def]

theorem keysOf_eq : keysOf orderID isRestock m = (orderKeys orderID isRestock m).barrier := by
  cases isRestock <;> simp [keysOf, orderKeys, OrderKeys.map, OrderKeys.barrier]

/-- A new counter has no expiry time, and an old one keeps its own. -/
theorem orderKeys_increment :
    orderKeys orderID isRestock (incrementRobotCount orderID isRestock m).2 =
      { orderKeys orderID isRestock m with
        count := some ⟨(keysOf orderID isRestock m).count + 1,
          ((orderKeys orderID isRestock m).count.map RedisEntry.expiresAt).getD none⟩ } := by
  rw [← (increment_spec orderID isRestock m).1]
  cases isRestock <;> simp [orderKeys, incrementRobotCount, OrderKeys.map,
    MemoryStore.incrementClientRobotCount, MemoryStore.incrementRestockRobotCount, RedisDB.incr]

/-- The marker is set for an hour, or was there. -/
theorem orderKeys_mark (now : Nat) :
    orderKeys orderID isRestock (m.tryMarkOrderFinalized now orderID isRestock).2 =
        { orderKeys orderID isRestock m with finalized := some ⟨(), some (now + hour)⟩ } ∨
      orderKeys orderID isRestock (m.tryMarkOrderFinalized now orderID isRestock).2 =
        orderKeys orderID isRestock m := by
  cases isRestock with
  | false =>
      cases hmark : m.clientClient.canMark orderID with
      | true =>
          left
          simp [orderKeys, MemoryStore.tryMarkOrderFinalized, RedisDB.setNX, hmark, OrderKeys.map]
      | false =>
          right
          simp [orderKeys, MemoryStore.tryMarkOrderFinalized, RedisDB.setNX, hmark]
  | true =>
      cases hmark : m.restockClient.canMark orderID with
      | true =>
          left
          simp [orderKeys, MemoryStore.tryMarkOrderFinalized, RedisDB.setNX, hmark, OrderKeys.map]
      | false =>
          right
          simp [orderKeys, MemoryStore.tryMarkOrderFinalized, RedisDB.setNX, hmark]

theorem orderKeys_delete :
    orderKeys orderID isRestock (m.deleteOrderData orderID isRestock) = ⟨none, none, none⟩ := by
  cases isRestock <;> simp [orderKeys, MemoryStore.deleteOrderData, RedisDB.del, OrderKeys.map]

end

end AutoGrocery
