import AutoGrocery.Orders.Serving

/-!
What the steps of requests do to the books. A created order takes its units
from stock, a dispatched one gives them to the robots, and one that is deleted
before any robot has heard of it puts them back.
-/

namespace AutoGrocery

open Interleaving

section

variable {w w' : World}

/-- What the robots were told depends on the broadcasts alone. -/
theorem dispatched_congr (hbroadcasts : w'.broadcasts = w.broadcasts) (orderID : OrderID) :
    w'.dispatched orderID = w.dispatched orderID := by
  rw [World.dispatched, hbroadcasts, World.dispatched]

theorem told_congr (hbroadcasts : w'.broadcasts = w.broadcasts) (sku : SKU) :
    w'.told sku = w.told sku := by
  rw [World.told, hbroadcasts, World.told]

/-- The same orders list the same units. -/
theorem untold_congr (hbroadcasts : w'.broadcasts = w.broadcasts)
    (horders : w.ordering.SameOrders w'.ordering) (sku : SKU) : w'.untold sku = w.untold sku := by
  have hsums := horders.sums fun orderID id =>
    if w.dispatched orderID then 0 else lineUnits (w.ordering.itemRows id) sku
  rw [World.untold, World.untold, ← hsums]
  apply Relational.Table.total_congr
  intro orderID row _
  rw [dispatched_congr hbroadcasts, OrderingDB.itemRows, horders.items]
  rfl

/-- More rows of stock do not matter for the lines of an order. -/
theorem Placed.mono {stock stock' : StockTable} {lines : List OrderItemRow}
    (hplaced : Placed stock lines) (hrows : ∀ sku ∈ stock, sku ∈ stock') : Placed stock' lines :=
  ⟨hplaced.nodup, hplaced.nonneg, fun line hline hpos => hrows _ (hplaced.stocked line hline hpos)⟩

/-! ### Changes that move no units -/

/-- Nothing changes but prices, the restock side of Redis, and broadcasts of
restocks. -/
theorem Booked.quiet (hbooked : Booked w)
    (havailable : ∀ sku, w'.stock.available sku = w.stock.available sku)
    (hrows : ∀ sku ∈ w.stock, sku ∈ w'.stock) (htables : w.ordering.SameTables w'.ordering)
    (hclient : w'.memory.clientClient = w.memory.clientClient)
    (hbroadcasts : w'.broadcasts = w.broadcasts ∨ ∃ broadcast, broadcast.orderType = .restock ∧
      w'.broadcasts = w.broadcasts ++ [broadcast]) : Balanced w w' [] := by
  have hdispatched (orderID : OrderID) : w'.dispatched orderID = w.dispatched orderID := by
    rcases hbroadcasts with hsame | ⟨broadcast, htype, hnew⟩
    · exact dispatched_congr hsame orderID
    · simp [World.dispatched, hnew, OrderBroadcast.isFor, htype]
  have htold (sku : SKU) : w'.told sku = w.told sku := by
    rcases hbroadcasts with hsame | ⟨broadcast, htype, hnew⟩
    · exact told_congr hsame sku
    · simp [World.told, hnew, htype]
  obtain ⟨horders, hitems, hnext⟩ := htables
  have hlines (dbID : Nat) : w'.ordering.itemRows dbID = w.ordering.itemRows dbID := by
    rw [OrderingDB.itemRows, hitems]
    rfl
  have huntold (sku : SKU) : w'.untold sku = w.untold sku := by
    rw [World.untold, World.untold, horders]
    apply Relational.Table.total_congr
    intro orderID row _
    rw [hdispatched, hlines]
  constructor
  case ledger =>
    intro sku
    rw [World.ledger, havailable, huntold, htold, World.ledger]
    simp [restocked]
  constructor
  case wellFormed =>
    have hchange : OrderChange w.ordering (.getOrderByID "") w'.ordering :=
      .keep ⟨horders, hitems, hnext⟩
    exact hchange.wellFormed hbooked.wellFormed
  case placed =>
    intro orderID row hrow
    rw [horders] at hrow
    rw [hlines]
    exact (hbooked.placed orderID row hrow).mono hrows
  case pending =>
    intro orderID row hrow
    rw [horders] at hrow
    rw [hdispatched]
    exact hbooked.pending orderID row hrow
  case known =>
    intro orderID hknown
    rw [hdispatched] at hknown
    rw [horders]
    exact hbooked.known orderID hknown
  case saved =>
    intro orderID items hsaved
    rw [hdispatched]
    rw [MemoryStore.getOrderItems, hclient] at hsaved
    exact hbooked.saved orderID items hsaved

/-! ### Changes of an order -/

/-- Lines that list a map of units reserved from existing rows. -/
theorem placed_of_lists {stock : StockTable} {lines : List OrderItemRow} {items : ItemMap}
    (hlists : Lists OrderItemRow.sku OrderItemRow.quantity lines items) (hpos : items.Positive)
    (hstocked : ∀ sku ∈ items, sku ∈ stock) : Placed stock lines := by
  have hitem (line : OrderItemRow) (hline : line ∈ lines) :
      items.lookup line.sku = some line.quantity :=
    (hlists.lookup line.sku line.quantity).mpr ⟨line, hline, rfl, rfl⟩
  refine ⟨hlists.nodup, fun line hline => ?_, fun line hline _ => ?_⟩
  · exact (hpos line.sku line.quantity (hitem line hline)).le
  · apply hstocked
    apply AList.lookup_isSome.mp
    rw [hitem line hline]
    rfl

/-- **An order is created.** Its units left stock. -/
theorem Booked.create (hbooked : Booked w) {now : Nat} {order : GroceryOrder} {items : ItemMap}
    (hpos : items.Positive) (hstocked : ∀ sku ∈ items, sku ∈ w.stock)
    (havailable : ∀ sku, w'.stock.available sku = w.stock.available sku - items.units sku)
    (hrows : ∀ sku ∈ w.stock, sku ∈ w'.stock)
    (hok : w.ordering.createGroceryOrder now order (orderLines items) = .ok w'.ordering)
    (hmemory : w'.memory = w.memory) (hbroadcasts : w'.broadcasts = w.broadcasts) :
    Balanced w w' [] := by
  have hdispatched := dispatched_congr hbroadcasts
  have hchange := createGroceryOrder_change hok
  have hlines {orderID : OrderID} {row : OrderRow} (hne : orderID ≠ order.orderID)
      (hrow : w.ordering.groceryOrders.lookup orderID = some row) :
      w'.ordering.itemRows row.id = w.ordering.itemRows row.id :=
    (hchange.frame hbooked.wellFormed fun heq => hne (Option.some.inj heq).symm).2 row hrow
  have hnew := createGroceryOrder_new hok
  have hunheard : w.dispatched order.orderID = false := by
    cases hknown : w.dispatched order.orderID with
    | false => rfl
    | true => exact absurd hnew (hbooked.known _ hknown)
  have hlists {row : OrderRow} := @created_lists items now order _ _ row hbooked.wellFormed hok
  have hdb := createGroceryOrder_orderLines now order items w.ordering hnew
  rw [hok] at hdb
  set created : OrderRow := ⟨w.ordering.nextOrderID, order.clientID, .pending, 0, now⟩
  have horders : w'.ordering.groceryOrders = w.ordering.groceryOrders.insert order.orderID created :=
    congrArg OrderingDB.groceryOrders (Except.ok.inj hdb)
  have hcreated : w'.ordering.groceryOrders.lookup order.orderID = some created := by
    rw [horders, AList.lookup_insert]
  have huntold (sku : SKU) : w'.untold sku = w.untold sku + items.units sku := by
    have hunits : lineUnits (w'.ordering.itemRows created.id) sku = items.units sku :=
      (hlists hcreated).units sku
    rw [World.untold, horders, Relational.Table.total_insert_new _ hnew, hdispatched, hunheard,
      if_neg Bool.false_ne_true, hunits, add_comm]
    congr 1
    apply Relational.Table.total_congr
    intro orderID row hrow
    have hne : orderID ≠ order.orderID := by
      rintro rfl
      rw [hnew] at hrow
      cases hrow
    rw [hdispatched, hlines hne hrow]
  constructor
  case ledger =>
    intro sku
    rw [World.ledger, havailable, huntold, told_congr hbroadcasts, World.ledger]
    simp only [restocked, List.map_nil, List.sum_nil]
    ring
  constructor
  case wellFormed => exact hchange.wellFormed hbooked.wellFormed
  case placed =>
    intro orderID row hrow
    by_cases hne : orderID = order.orderID
    · subst hne
      exact (placed_of_lists (hlists hrow) hpos hstocked).mono hrows
    · rw [horders, AList.lookup_insert_ne hne] at hrow
      rw [hlines hne hrow]
      exact (hbooked.placed orderID row hrow).mono hrows
  case pending =>
    intro orderID row hrow
    rw [hdispatched]
    by_cases hne : orderID = order.orderID
    · subst hne
      rw [hcreated] at hrow
      rw [← Option.some.inj hrow, hunheard]
      simp [created]
    · rw [horders, AList.lookup_insert_ne hne] at hrow
      exact hbooked.pending orderID row hrow
  case known =>
    intro orderID hknown
    rw [hdispatched] at hknown
    exact hchange.stays (fun heq => by cases heq) (hbooked.known orderID hknown)
  case saved =>
    intro orderID items hsaved
    rw [hdispatched]
    rw [hmemory] at hsaved
    exact hbooked.saved orderID items hsaved

/-- **A PENDING order is dispatched.** Its units are with the robots. -/
theorem Booked.dispatch (hbooked : Booked w) {orderID : OrderID} {row : OrderRow}
    {broadcast : OrderBroadcast}
    (hrow : w.ordering.groceryOrders.lookup orderID = some row) (hpending : row.status = .pending)
    (hstock : w'.stock = w.stock)
    (hordering : w'.ordering = w.ordering.updateStatus orderID .processing)
    (hbroadcasts : w'.broadcasts = w.broadcasts ++ [broadcast])
    (hfor : broadcast.orderType = .customer ∧ broadcast.orderID = orderID)
    (hunits : ∀ sku, broadcast.units sku = lineUnits (w.ordering.itemRows row.id) sku)
    (hsaved : ∀ other items, w'.memory.getOrderItems other = .ok items →
      other = orderID ∨ w.memory.getOrderItems other = .ok items) : Balanced w w' [] := by
  have horders : w.ordering.SameOrders w'.ordering := by
    rw [hordering]
    exact OrderingDB.sameOrders_updateStatus orderID .processing w.ordering
  have hlines (dbID : Nat) : w'.ordering.itemRows dbID = w.ordering.itemRows dbID := by
    rw [OrderingDB.itemRows, horders.items]
    rfl
  have hdispatched (other : OrderID) :
      w'.dispatched other = (w.dispatched other || decide (other = orderID)) := by
    rw [World.dispatched, hbroadcasts, List.any_append, World.dispatched]
    simp [OrderBroadcast.isFor, hfor, eq_comm]
  have hunheard : w.dispatched orderID = false := (hbooked.pending orderID row hrow).mp hpending
  have huntold (sku : SKU) : w'.untold sku + lineUnits (w.ordering.itemRows row.id) sku = w.untold sku := by
    have hsums := horders.sums fun other id =>
      if w'.dispatched other then 0 else lineUnits (w'.ordering.itemRows id) sku
    have hexcept := Relational.Table.total_congr_except
      (fun other (row : OrderRow) =>
        if w'.dispatched other then 0 else lineUnits (w'.ordering.itemRows row.id) sku) hrow
      (fun other value hne _ => show _ =
        if w.dispatched other then 0 else lineUnits (w.ordering.itemRows value.id) sku by
          rw [hdispatched, decide_eq_false hne, Bool.or_false, hlines])
    rw [World.untold, hsums, World.untold]
    simpa [hdispatched, hunheard] using hexcept
  have htold (sku : SKU) : w'.told sku = w.told sku + lineUnits (w.ordering.itemRows row.id) sku := by
    rw [World.told, hbroadcasts, List.map_append, List.sum_append, World.told]
    simp [hfor, hunits]
  constructor
  case ledger =>
    intro sku
    have hmoved := huntold sku
    rw [World.ledger, hstock, htold, World.ledger]
    simp only [restocked, List.map_nil, List.sum_nil]
    omega
  constructor
  case wellFormed => exact horders.wellFormed hbooked.wellFormed
  case placed =>
    intro other row' hrow'
    obtain ⟨before, hbefore, hid, _⟩ := horders.row hrow'
    rw [hlines, ← hid, hstock]
    exact hbooked.placed other before hbefore
  case pending =>
    intro other row' hrow'
    obtain ⟨before, hbefore, _⟩ := horders.row hrow'
    have hstatus := OrderingDB.status_updateStatus orderID .processing w.ordering other
    rw [← hordering, OrderingDB.status_of_lookup hrow'] at hstatus
    rw [hdispatched]
    by_cases hne : other = orderID
    · subst hne
      rw [if_pos rfl, OrderingDB.status_of_lookup hbefore, Option.map_some] at hstatus
      rw [Option.some.inj hstatus]
      simp
    · rw [if_neg hne, OrderingDB.status_of_lookup hbefore] at hstatus
      rw [Option.some.inj hstatus, decide_eq_false hne, Bool.or_false]
      exact hbooked.pending other before hbefore
  case known =>
    intro other hknown hnone
    have hsame := horders.rows other
    rw [hnone, Option.map_none, eq_comm, Option.map_eq_none_iff] at hsame
    rw [hdispatched, Bool.or_eq_true, decide_eq_true_eq] at hknown
    rcases hknown with hknown | rfl
    · exact hbooked.known other hknown hsame
    · rw [hrow] at hsame
      cases hsame
  case saved =>
    intro other items hget
    rw [hdispatched, Bool.or_eq_true, decide_eq_true_eq]
    rcases hsaved other items hget with heq | hold
    · exact Or.inr heq
    · exact Or.inl (hbooked.saved other items hold)

/-- **A PENDING order is deleted.** Its units are in stock again. -/
theorem Booked.cancel (hbooked : Booked w) {orderID : OrderID} {row : OrderRow}
    (hrow : w.ordering.groceryOrders.lookup orderID = some row) (hpending : row.status = .pending)
    (havailable : ∀ sku, w'.stock.available sku =
      w.stock.available sku + lineUnits (w.ordering.itemRows row.id) sku)
    (hrows : ∀ sku ∈ w.stock, sku ∈ w'.stock)
    (hok : w.ordering.deleteOrder orderID = .ok w'.ordering)
    (hmemory : w'.memory = w.memory) (hbroadcasts : w'.broadcasts = w.broadcasts) :
    Balanced w w' [] := by
  have hdispatched := dispatched_congr hbroadcasts
  have hunheard : w.dispatched orderID = false := (hbooked.pending orderID row hrow).mp hpending
  have hchange := deleteOrder_change hok
  have horders : w'.ordering.groceryOrders = w.ordering.groceryOrders.erase orderID := by
    rw [OrderingDB.deleteOrder, hrow] at hok
    exact (congrArg OrderingDB.groceryOrders (Except.ok.inj hok)).symm
  have hold {other : OrderID} {found : OrderRow}
      (hfound : w'.ordering.groceryOrders.lookup other = some found) :
      other ≠ orderID ∧ w.ordering.groceryOrders.lookup other = some found ∧
        w'.ordering.itemRows found.id = w.ordering.itemRows found.id := by
    by_cases hne : other = orderID
    · subst hne
      rw [horders, AList.lookup_erase] at hfound
      cases hfound
    · have hframe := hchange.frame hbooked.wellFormed fun heq => hne (Option.some.inj heq).symm
      rw [hframe.1] at hfound
      exact ⟨hne, hfound, hframe.2 found hfound⟩
  have huntold (sku : SKU) : lineUnits (w.ordering.itemRows row.id) sku + w'.untold sku = w.untold sku := by
    have herase := Relational.Table.total_erase (fun other (row : OrderRow) =>
      if w.dispatched other then 0 else lineUnits (w.ordering.itemRows row.id) sku) hrow
    rw [hunheard, if_neg Bool.false_ne_true, ← horders] at herase
    refine Eq.trans ?_ herase
    rw [World.untold]
    congr 1
    apply Relational.Table.total_congr
    intro other found hfound
    rw [hdispatched, (hold hfound).2.2]
  constructor
  case ledger =>
    intro sku
    have hback := huntold sku
    rw [World.ledger, havailable, told_congr hbroadcasts, World.ledger]
    simp only [restocked, List.map_nil, List.sum_nil]
    omega
  constructor
  case wellFormed => exact hchange.wellFormed hbooked.wellFormed
  case placed =>
    intro other found hfound
    obtain ⟨_, hbefore, hlines⟩ := hold hfound
    rw [hlines]
    exact (hbooked.placed other found hbefore).mono hrows
  case pending =>
    intro other found hfound
    rw [hdispatched]
    exact hbooked.pending other found (hold hfound).2.1
  case known =>
    intro other hknown
    rw [hdispatched] at hknown
    apply hchange.stays _ (hbooked.known other hknown)
    intro heq
    cases heq
    rw [hunheard] at hknown
    cases hknown
  case saved =>
    intro other items hsaved
    rw [hdispatched]
    rw [hmemory] at hsaved
    exact hbooked.saved other items hsaved

end

end AutoGrocery
