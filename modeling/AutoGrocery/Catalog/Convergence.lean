import AutoGrocery.Catalog.Prices
import AutoGrocery.Catalog.Awaited

/-!
Catalog prices against the stock table, once every metric is delivered. A
delivery stores what its finalization read back, so the price of a SKU is that of
its row of stock when the metric stored last came from the finalization that was
the last to upsert the SKU. Deliveries may overtake each other, and then it is not.
-/

namespace AutoGrocery

open Interleaving InventoryHandler

/-! ### One step -/

section

variable {w : World} {trace : List (Nat × PriceEvent)} {index origin : Nat}

/-- A step that neither upserts nor stores a metric leaves all as it was. -/
private theorem quiet_apart {w' : World} (index : Nat) {event : PriceEvent} (hstock : w'.stock = w.stock)
    (hcatalog : w'.catalog = w.catalog) (hupserter : ∀ sku, upserterOf sku event = none)
    (happlier : ∀ sku, applierOf sku event = none) (mover : Option Nat) (hagrees : Agrees w trace) :
    (∀ sku, lastUpserter sku (trace ++ [(index, event)]) = lastUpserter sku trace ∧
      lastApplier sku (trace ++ [(index, event)]) = lastApplier sku trace) ∧
    Apart mover w w' trace (index, event) ∧ Agrees w' (trace ++ [(index, event)]) := by
  have hlasts (sku : SKU) : lastUpserter sku (trace ++ [(index, event)]) = lastUpserter sku trace ∧
      lastApplier sku (trace ++ [(index, event)]) = lastApplier sku trace := by
    rw [lastUpserter_append, lastApplier_append, hupserter, happlier]
    exact ⟨rfl, rfl⟩
  refine ⟨hlasts, fun other _ sku => ?_, fun sku origin hupserted happlied => ?_⟩
  · rw [(hlasts sku).1, (hlasts sku).2, hstock]
    exact ⟨fun h => ⟨h, rfl⟩, id⟩
  · rw [(hlasts sku).1] at hupserted
    rw [(hlasts sku).2] at happlied
    rw [hstock, hcatalog]
    exact hagrees sku origin hupserted happlied

/-- A step after the goroutine was started. -/
private theorem closing_step (hcosted : w.Costed) (hagrees : Agrees w trace) {prog : InventoryProg Unit}
    (huses : prog.Uses isClosingOp) {move : Move PriceThread World PriceEvent}
    (hact : priceAct () (.finalizing origin true prog) w = some move) :
    PriceStep w trace index (.finalizing origin true prog) move := by
  cases huses with
  | ret value => cases hact
  | @call op next hop hnext =>
      have hkept : (inventoryExec .works op w).2.Costed :=
        costed_kept hcosted (MetricsRule.close (inventoryExec .works op w).1 hop)
      have hquiet : (inventoryExec .works op w).2.stock = w.stock ∧
          (inventoryExec .works op w).2.catalog = w.catalog ∧ deliveries op = [] ∧
          ∀ sku answer, upserterOf sku (.inventory origin ⟨op, answer⟩) = none := by
        cases op with
        | postWebhook url payload =>
            exact ⟨inventoryExec_stock (by simp [InventoryOp.writes]),
              inventoryExec_catalog (by simp [InventoryOp.writes]), rfl, fun _ _ => rfl⟩
        | deleteOrderData orderID isRestock => exact ⟨rfl, rfl, rfl, fun _ _ => rfl⟩
        | _ => exact hop.elim
      cases hact
      obtain ⟨hstock, hcatalog, hdeliveries, hupserter⟩ := hquiet
      obtain ⟨_, hapart, hagrees'⟩ := quiet_apart index hstock hcatalog
        (fun sku => hupserter sku _) (fun sku => rfl) none hagrees
      refine ⟨hkept, .keeps (by rw [hdeliveries]; rfl) rfl, .closing (hnext _), ?_, hapart, ?_, hagrees'⟩
      · rw [hdeliveries]
        intro spawned hspawned
        cases hspawned
      · intro sku other hother
        rw [hupserter] at hother
        cases hother

/-- An upsert of a finalization, which knows what it wrote. -/
private theorem upsert_step (hcosted : w.Costed) (hagrees : Agrees w trace) {latest : GoMap ℚ}
    {pi : RestockItem} {next : InventoryAns (.upsertStock (stockItem pi)) → InventoryProg Unit}
    (hnext : RestockAt (.upserting (latest.insert pi.sku pi.unitCost)) (next (.ok ())))
    (hcents : ∃ cents : ℤ, pi.unitCost = cents / 100) (hcosts : (next (.ok ())).Uses costedOp)
    (hunapplied : ∀ sku, lastApplier sku trace ≠ some origin)
    (hcurrent : Current w.stock trace origin fun sku row => latest.lookup sku = some row.unitCost)
    {move : Move PriceThread World PriceEvent}
    (hact : priceAct () (.finalizing origin false (.call (.upsertStock (stockItem pi)) next)) w = some move)
    (hfine : InventoryAns.faulty (.upsertStock (stockItem pi))
      (inventoryExec .works (.upsertStock (stockItem pi)) w).1 = false) :
    PriceStep w trace index (.finalizing origin false (.call (.upsertStock (stockItem pi)) next)) move := by
  obtain ⟨hanswer, hcatalog, hmemory, row, hstock, hcost⟩ := upsertStock_works w (stockItem pi) hfine
  obtain ⟨cents, hcents⟩ := hcents
  have hrowCost : row.unitCost = pi.unitCost := hcost cents hcents
  cases hact
  rw [hanswer]
  set event : PriceEvent := .inventory origin ⟨.upsertStock (stockItem pi), .ok ()⟩
  have hupserter (sku : SKU) : lastUpserter sku (trace ++ [(index, event)]) =
      if pi.sku = sku then some origin else lastUpserter sku trace := by
    rw [lastUpserter_append]
    by_cases heq : pi.sku = sku
    · simp [event, upserterOf, stockItem, heq]
    · simp [event, upserterOf, stockItem, heq]
  have happlier (sku : SKU) : lastApplier sku (trace ++ [(index, event)]) = lastApplier sku trace := by
    rw [lastApplier_append]
    rfl
  have hlookup {sku : SKU} (hne : pi.sku ≠ sku) :
      (inventoryExec .works (.upsertStock (stockItem pi)) w).2.stock.lookup sku = w.stock.lookup sku := by
    rw [hstock]
    exact AList.lookup_insert_ne (Ne.symm hne)
  constructor
  case costed =>
    unfold World.Costed
    rw [hmemory]
    exact hcosted
  case hands => exact .keeps rfl rfl
  case mover =>
    refine .finalizing hnext (Or.inr hcosts) (fun sku => by rw [happlier]; exact hunapplied sku) ?_
    intro sku hlast
    by_cases heq : pi.sku = sku
    · subst heq
      refine ⟨row, ?_, ?_⟩
      · rw [hstock]
        exact AList.lookup_insert _
      · show (latest.insert pi.sku pi.unitCost).lookup pi.sku = some row.unitCost
        rw [AList.lookup_insert, hrowCost]
    · rw [hupserter, if_neg heq] at hlast
      obtain ⟨old, hold, hknown⟩ := hcurrent sku hlast
      refine ⟨old, (hlookup heq).trans hold, ?_⟩
      show (latest.insert pi.sku pi.unitCost).lookup sku = some old.unitCost
      rw [AList.lookup_insert_ne (Ne.symm heq), hknown]
  case spawned =>
    intro spawned hspawned
    cases hspawned
  case apart =>
    intro other hother sku
    rw [hupserter, happlier]
    refine ⟨fun hlast => ?_, id⟩
    by_cases heq : pi.sku = sku
    · rw [if_pos heq] at hlast
      exact absurd hlast hother
    · rw [if_neg heq] at hlast
      exact ⟨hlast, hlookup heq⟩
  case upserter =>
    intro sku other hother
    simp only [event, upserterOf] at hother
    split at hother
    · exact hother
    · cases hother
  case agrees =>
    intro sku other hlast happlied
    rw [happlier] at happlied
    rw [hupserter] at hlast
    by_cases heq : pi.sku = sku
    · rw [if_pos heq] at hlast
      exact absurd (happlied.trans hlast.symm) (hunapplied sku)
    · rw [if_neg heq] at hlast
      rw [hlookup heq, hcatalog]
      exact hagrees sku other hlast happlied

/-- What a statement that is no upsert tells a finalization. -/
private theorem knows_next {phase phase' : MetricsPhase} {op : InventoryOp}
    (hrule : MetricsRule phase op (inventoryExec .works op w).1 phase')
    (hupsert : ∀ item, op ≠ .upsertStock item) :
    op.writes ≠ some .stock ∧ op.writes ≠ some .catalog ∧
      (deliveries op = [] ∧ (∀ sku row, w.stock.lookup sku = some row → phase.Knows sku row →
          phase'.Knows sku row) ∨
        ∃ metrics, op = .goUpdateStockMetrics metrics ∧ phase' = .closing ∧
          ∀ sku row, phase.Knows sku row → sku ∈ metrics.map StockMetric.sku ∧
            ∀ metric ∈ metrics, metric.sku = sku → metric = ⟨sku, row.quantity, row.unitCost⟩) := by
  generalize hanswer : (inventoryExec .works op w).1 = answer at hrule
  cases hrule with
  | load orderID items =>
      exact ⟨by simp [InventoryOp.writes], by simp [InventoryOp.writes], Or.inl ⟨rfl, fun _ _ _ => False.elim⟩⟩
  | unloaded orderID err =>
      exact ⟨by simp [InventoryOp.writes], by simp [InventoryOp.writes], Or.inl ⟨rfl, fun _ _ _ => False.elim⟩⟩
  | upsert latest pi => exact absurd rfl (hupsert _)
  | skip latest pi err => exact absurd rfl (hupsert _)
  | readBack latest currentItems =>
      cases hanswer
      refine ⟨by simp [InventoryOp.writes], by simp [InventoryOp.writes], Or.inl ⟨rfl, ?_⟩⟩
      intro sku row hrow hknown
      have hlatest : latest.lookup sku = some row.unitCost := hknown
      refine ⟨mem_stockMetrics ?_ ?_, fun metric hmetric hsku => ?_⟩
      · exact AList.lookup_isSome.mp (by rw [hlatest]; rfl)
      · exact AList.lookup_isSome.mp (by rw [hrow]; rfl)
      · subst hsku
        obtain ⟨hcost, found, hfound, hquantity⟩ := of_mem_stockMetrics hmetric
        rw [hlatest] at hcost
        rw [hrow] at hfound
        obtain ⟨sku, quantity, unitCost⟩ := metric
        cases hcost
        cases hfound
        cases hquantity
        rfl
  | unread latest err => cases hanswer
  | launch metrics =>
      exact ⟨by simp [InventoryOp.writes], by simp [InventoryOp.writes],
        Or.inr ⟨metrics, rfl, rfl, fun sku row hknown => hknown⟩⟩
  | launchNone =>
      exact ⟨by simp [InventoryOp.writes], by simp [InventoryOp.writes],
        Or.inr ⟨[], rfl, rfl, fun sku row hknown => by cases hknown⟩⟩
  | close answer hop =>
      cases op with
      | postWebhook url payload =>
          exact ⟨by simp [InventoryOp.writes], by simp [InventoryOp.writes],
            Or.inl ⟨rfl, fun _ _ _ => False.elim⟩⟩
      | deleteOrderData orderID isRestock =>
          exact ⟨by simp [InventoryOp.writes], by simp [InventoryOp.writes],
            Or.inl ⟨rfl, fun _ _ _ => False.elim⟩⟩
      | _ => exact hop.elim

/-- A step of a finalization up to the start of its goroutine. -/
private theorem finalizing_step (hcosted : w.Costed) (hagrees : Agrees w trace) {phase : MetricsPhase}
    {prog : InventoryProg Unit} (hat : RestockAt phase prog)
    (hcosts : phase = .loading ∨ prog.Uses costedOp)
    (hunapplied : ∀ sku, lastApplier sku trace ≠ some origin)
    (hcurrent : Current w.stock trace origin fun sku row => phase.Knows sku row)
    {move : Move PriceThread World PriceEvent}
    (hact : priceAct () (.finalizing origin false prog) w = some move) (hfine : move.event.fine = true) :
    PriceStep w trace index (.finalizing origin false prog) move := by
  cases prog with
  | ret value => cases hact
  | call op next =>
      have hworked : InventoryAns.faulty op (inventoryExec .works op w).1 = false := by
        cases hact
        simpa [PriceEvent.fine] using hfine
      obtain ⟨phase', hrule, hnext⟩ := hat.step (inventoryExec .works op w).1
      have hcosted' := costed_kept hcosted hrule
      have hcosts' := costed_next hcosted hat hcosts
      by_cases hupsert : ∃ item, op = .upsertStock item
      · obtain ⟨item, rfl⟩ := hupsert
        rw [(upsertStock_works w item hworked).1] at hrule hnext hcosts'
        cases hrule with
        | upsert latest pi =>
            have hcents : ∃ cents : ℤ, pi.unitCost = cents / 100 := by
              rcases hcosts with hloading | huses
              · cases hloading
              · cases huses with
                | call hop _ => exact hop
            exact upsert_step hcosted hagrees hnext hcents hcosts' hunapplied hcurrent hact hworked
        | close answer hop => exact hop.elim
      · have hno : ∀ item, op ≠ .upsertStock item := fun item heq => hupsert ⟨item, heq⟩
        obtain ⟨hstock, hcatalog, hknows⟩ := knows_next hrule hno
        have hstock : (inventoryExec .works op w).2.stock = w.stock := inventoryExec_stock hstock
        have hupserter (sku : SKU) (answer : InventoryAns op) :
            upserterOf sku (.inventory origin ⟨op, answer⟩) = none := by
          cases op with
          | upsertStock item => exact absurd rfl (hno item)
          | _ => rfl
        obtain ⟨hlasts, hapart, hagrees'⟩ := quiet_apart index hstock (inventoryExec_catalog hcatalog)
          (fun sku => hupserter sku (inventoryExec .works op w).1) (fun sku => rfl) (some origin) hagrees
        have hlast (sku : SKU) (hnow : lastUpserter sku (trace ++
              [(index, .inventory origin ⟨op, (inventoryExec .works op w).1⟩)]) = some origin) :
            lastUpserter sku trace = some origin ∧
              (inventoryExec .works op w).2.stock.lookup sku = w.stock.lookup sku := by
          rw [hstock]
          exact ⟨(hlasts sku).1.symm.trans hnow, rfl⟩
        have hnobody (sku : SKU) (other : Nat)
            (hother : upserterOf sku (.inventory origin ⟨op, (inventoryExec .works op w).1⟩) = some other) :
            PriceThread.carries (.finalizing origin false (.call op next)) = some other := by
          rw [hupserter] at hother
          cases hother
        cases hact
        rcases hknows with ⟨hdeliveries, hknown⟩ | ⟨metrics, rfl, rfl, hmetrics⟩
        · refine ⟨hcosted', .keeps ?_ ?_, ?_, ?_, hapart, hnobody, hagrees'⟩
          · rw [hdeliveries]
            rfl
          · rw [hdeliveries]
            rfl
          · rw [hdeliveries]
            refine .finalizing hnext (Or.inr hcosts') (fun sku => ?_) (hcurrent.mono hlast hknown)
            rw [(hlasts sku).2]
            exact hunapplied sku
          · rw [hdeliveries]
            intro spawned hspawned
            cases hspawned
        · refine ⟨hcosted', .gives rfl rfl rfl, ?_, ?_, hapart, hnobody, hagrees'⟩
          · cases hnext with
            | closing huses => exact .closing huses
          · intro spawned hspawned
            obtain rfl := List.mem_singleton.mp hspawned
            refine .delivering (delivery_at metrics) (hcurrent.mono hlast fun sku row _ hknown => ?_)
            obtain ⟨hlisted, hrow⟩ := hmetrics sku row hknown
            exact ⟨hrow, Or.inl hlisted⟩

/-- A step of a delivery. -/
private theorem delivering_step (hcosted : w.Costed) (hagrees : Agrees w trace) {rest : List StockMetric}
    {prog : Prog PricingAns (Except GoError UpdateStockMetricsResponse)} (hat : DeliverAt rest prog)
    (hcurrent : Current w.stock trace origin fun sku row =>
      (∀ metric ∈ rest, metric.sku = sku → metric = ⟨sku, row.quantity, row.unitCost⟩) ∧
        (sku ∈ rest.map StockMetric.sku ∨ Stored trace origin sku row))
    {move : Move PriceThread World PriceEvent}
    (hact : priceAct () (.delivering origin prog) w = some move) (hfine : move.event.fine = true) :
    PriceStep w trace index (.delivering origin prog) move := by
  cases hat with
  | ended answer => cases hact
  | @item metric rest next hnext =>
      set price := calculatePrice metric.unitCost metric.quantity.toInt with hprice
      obtain ⟨id, catalog', hok, hexec⟩ : ∃ id catalog',
          w.catalog.upsertItem metric.sku price = .ok (id, catalog') ∧
          pricingExec .works (.upsertItem metric.sku price) w.catalog = (.ok id, catalog') := by
        cases hact
        exact upsertItem_fine hfine
      have hstored := upsertItem_price hok
      cases hact
      rw [hexec]
      set event : PriceEvent := .pricing origin ⟨.upsertItem metric.sku price, .ok id⟩ with hevent
      have hupserter (sku : SKU) : lastUpserter sku (trace ++ [(index, event)]) = lastUpserter sku trace := by
        rw [lastUpserter_append]
        rfl
      have happlier (sku : SKU) : lastApplier sku (trace ++ [(index, event)]) =
          if metric.sku = sku then some origin else lastApplier sku trace := by
        rw [lastApplier_append]
        by_cases heq : metric.sku = sku
        · simp [event, applierOf, heq]
        · simp [event, applierOf, heq]
      constructor
      case costed => exact hcosted
      case hands => exact .keeps rfl rfl
      case mover =>
        refine .delivering (hnext _) ?_
        refine hcurrent.mono (fun sku hlast => ⟨(hupserter sku).symm.trans hlast, rfl⟩) ?_
        intro sku row _ hknown
        obtain ⟨hmetrics, hlisted⟩ := hknown
        refine ⟨fun other hother => hmetrics other (List.mem_cons_of_mem metric hother), ?_⟩
        rcases hlisted with hlisted | hearlier
        · rcases List.mem_cons.mp hlisted with heq | hrest
          · have hmetric := hmetrics metric List.mem_cons_self heq.symm
            refine Or.inr ⟨index, .ok id, List.mem_append_right _ ?_⟩
            rw [hevent, hprice, hmetric]
            exact List.mem_singleton_self _
          · exact Or.inl hrest
        · exact Or.inr (hearlier.mono _)
      case spawned =>
        intro spawned hspawned
        cases hspawned
      case apart =>
        intro other hother sku
        rw [hupserter, happlier]
        refine ⟨fun hlast => ⟨hlast, rfl⟩, fun happlied => ?_⟩
        by_cases heq : metric.sku = sku
        · rw [if_pos heq] at happlied
          exact absurd happlied hother
        · rw [if_neg heq] at happlied
          exact happlied
      case upserter =>
        intro sku other hother
        cases hother
      case agrees =>
        intro sku other hlast happlied
        rw [hupserter] at hlast
        rw [happlier] at happlied
        by_cases heq : metric.sku = sku
        · rw [if_pos heq] at happlied
          obtain rfl := Option.some.inj happlied
          obtain ⟨row, hrow, hmetrics, _⟩ := hcurrent sku hlast
          refine ⟨row, hrow, ?_⟩
          have hmetric := hmetrics metric List.mem_cons_self heq
          show catalog'.price sku = row.price
          rw [hstored, if_pos heq.symm, hmetric]
          rfl
        · rw [if_neg heq] at happlied
          obtain ⟨row, hrow, hagreed⟩ := hagrees sku other hlast happlied
          refine ⟨row, hrow, ?_⟩
          show catalog'.price sku = row.price
          rw [hstored, if_neg (Ne.symm heq)]
          exact hagreed

end

/-! ### Runs -/

section

variable {w : World} {trace : List (Nat × PriceEvent)} {index : Nat} {thread : PriceThread}
  {pool : Pool PriceThread World} {move : Move PriceThread World PriceEvent}

theorem PriceAt.step (hat : PriceAt w.stock trace thread) (hcosted : w.Costed)
    (hagrees : Agrees w trace) (hact : priceAct () thread w = some move)
    (hfine : move.event.fine = true) : PriceStep w trace index thread move := by
  cases hat with
  | finalizing hprog hcosts hunapplied hcurrent =>
      exact finalizing_step hcosted hagrees hprog hcosts hunapplied hcurrent hact hfine
  | closing huses => exact closing_step hcosted hagrees huses hact
  | delivering hprog hcurrent => exact delivering_step hcosted hagrees hprog hcurrent hact hfine

theorem Settling.step (hsettling : Settling pool trace) (hthread : pool.threads[index]? = some thread)
    (hact : priceAct () thread pool.state = some move) (hfine : move.event.fine = true) :
    Settling (pool.after index move) (trace ++ [(index, move.event)]) := by
  have hmem := List.mem_of_getElem? hthread
  have hstep : PriceStep pool.state trace index thread move :=
    (hsettling.threads thread hmem).step hsettling.costed hsettling.agrees hact hfine
  refine ⟨hstep.costed, Pool.Unique.after hsettling.unique hthread hstep.hands, ?_, ?_, hstep.agrees⟩
  · intro found hfound
    obtain ⟨i, hi⟩ := List.getElem?_of_mem hfound
    rcases Pool.threads_after hi with ⟨_, rfl⟩ | ⟨hne, hold⟩ | ⟨_, hspawned⟩
    · exact hstep.mover
    · apply (hsettling.threads found (List.mem_of_getElem? hold)).other hstep.apart
      intro origin hcarries hmover
      exact hne (hsettling.unique hold hthread hcarries hmover)
    · exact hstep.spawned found (List.mem_of_getElem? hspawned)
  · intro sku origin hlast
    rw [lastUpserter_append] at hlast
    apply Pool.bears_after hthread hstep.hands
    rcases Option.or_eq_some_iff.mp hlast with hnow | ⟨_, hbefore⟩
    · exact ⟨thread, hmem, hstep.upserter sku origin hnow⟩
    · exact hsettling.carried sku origin hbefore

theorem Settling.start (orderIDs : List OrderID) (hcosted : w.Costed) :
    Settling (finalizations orderIDs w) [] := by
  constructor
  case costed => exact hcosted
  case unique =>
    have hcarries {i : Nat} {thread : PriceThread} {origin : Nat}
        (hthread : (finalizations orderIDs w).threads[i]? = some thread)
        (horigin : thread.carries = some origin) : i = origin := by
      simp only [finalizations, List.getElem?_map, List.getElem?_zipIdx, Option.map_map,
        Option.map_eq_some_iff] at hthread
      obtain ⟨orderID, _, rfl⟩ := hthread
      have hsame : 0 + i = origin := Option.some.inj horigin
      omega
    intro i j thread other origin hthread hother hmark hmark'
    exact (hcarries hthread hmark).trans (hcarries hother hmark').symm
  case threads =>
    intro thread hthread
    obtain ⟨entry, _, rfl⟩ := List.mem_map.mp hthread
    refine .finalizing (.loading entry.1) (Or.inl rfl) (fun sku => ?_) fun sku hlast => ?_
    · exact Option.some_ne_none _ ∘ Eq.symm
    · cases hlast
  case carried =>
    intro sku origin hlast
    cases hlast
  case agrees =>
    intro sku origin hlast
    cases hlast

theorem Settling.run {orderIDs : List OrderID} (hcosted : w.Costed)
    (hrun : Run priceAct (fun pool index event => fineSteps pool index event = true)
      (finalizations orderIDs w) trace pool) : Settling pool trace :=
  hrun.invariant Settling (.start orderIDs hcosted)
    fun _ _ _ _ _ _ hinv hthread hact hallowed => hinv.step hthread hact hallowed

/-- A thread with nothing left to do has delivered what it knew. -/
theorem PriceAt.stored {stock : StockTable} (hat : PriceAt stock trace thread)
    (hended : thread.ended = true) {sku : SKU} {origin : Nat} (hcarries : thread.carries = some origin)
    (hlast : lastUpserter sku trace = some origin) :
    ∃ row, stock.lookup sku = some row ∧ Stored trace origin sku row := by
  cases hat with
  | @finalizing _ phase prog hprog _ _ hcurrent =>
      obtain rfl := Option.some.inj hcarries
      obtain ⟨row, hrow, hknown⟩ := hcurrent sku hlast
      cases prog with
      | call op next => cases hended
      | ret value =>
          obtain rfl := hprog.ret
          cases hknown
  | closing _ => cases hcarries
  | @delivering _ rest prog hprog hcurrent =>
      obtain rfl := Option.some.inj hcarries
      obtain ⟨row, hrow, _, hdelivered⟩ := hcurrent sku hlast
      cases hprog with
      | ended answer => exact ⟨row, hrow, hdelivered.resolve_left List.not_mem_nil⟩
      | item hnext => cases hended

/-- Any number of restock finalizations and their deliveries, interleaved in any
way, without a fault. When all is delivered, the finalization that was the last to
upsert a SKU has stored the price of the SKU's row of stock, and this is the
catalog's price unless another finalization's metric of the SKU was stored last. -/
theorem settled_prices {orderIDs : List OrderID} (hcosted : w.Costed)
    (hrun : Run priceAct (fun pool index event => fineSteps pool index event = true)
      (finalizations orderIDs w) trace pool)
    (hended : ∀ thread ∈ pool.threads, thread.ended = true) {sku : SKU} {origin : Nat}
    (hlast : lastUpserter sku trace = some origin) :
    ∃ row, pool.state.stock.lookup sku = some row ∧ Stored trace origin sku row ∧
      (lastApplier sku trace = some origin →
        pool.state.catalog.price sku = calculatePrice row.unitCost row.quantity.toInt) := by
  have hsettling : Settling pool trace := .run hcosted hrun
  obtain ⟨carrier, hcarrier, hcarries⟩ := hsettling.carried sku origin hlast
  obtain ⟨row, hrow, hstored⟩ := (hsettling.threads carrier hcarrier).stored
    (hended carrier hcarrier) hcarries hlast
  refine ⟨row, hrow, hstored, fun happlied => ?_⟩
  obtain ⟨found, hfound, hprice⟩ := hsettling.agrees sku origin hlast happlied
  obtain rfl := Option.some.inj (hrow.symm.trans hfound)
  exact hprice

end

/-! ### Two deliveries of milk -/

namespace Sample

/-- Three units of milk are to come with one restock and four with another. -/
def twoRestocks : World :=
  let milk (quantity : Int32) : List RestockItem := [⟨"milk", "Milk", "dairy", quantity, 1, 0, 0⟩]
  { unopened with
    memory := (MemoryStore.empty.saveRestockItems 0 "restock-1" (milk 3)).saveRestockItems 0
      "restock-2" (milk 4) }

/-- Both finalizations one after the other, then their deliveries in this order. -/
def deliveredAs (first second : Nat) : List (Nat × Unit) :=
  (List.replicate 6 0 ++ List.replicate 6 1 ++ [first, second]).map fun i => (i, ())

theorem twoRestocks_costed : twoRestocks.Costed := by
  intro orderID items hitems pi hpi
  refine ⟨100, ?_⟩
  have hcost (quantity : Int32) (hpi : pi ∈ [⟨"milk", "Milk", "dairy", quantity, 1, 0, 0⟩]) :
      pi.unitCost = (100 : ℤ) / 100 := by
    obtain rfl := List.mem_singleton.mp hpi
    norm_num
  simp only [twoRestocks, MemoryStore.getRestockItems, MemoryStore.saveRestockItems,
    RedisDB.getItems_setItems] at hitems
  split at hitems
  · cases hitems
    exact hcost 4 hpi
  · split at hitems
    · cases hitems
      exact hcost 3 hpi
    · cases hitems

end Sample

/-- With the deliveries in the order of their finalizations, the catalog has the
price of seven units. -/
theorem settled_prices_sample :
    ∃ trace pool, Run priceAct (fun pool index event => fineSteps pool index event = true)
        (finalizations ["restock-1", "restock-2"] Sample.twoRestocks) trace pool ∧
      ∃ row, pool.state.stock.lookup "milk" = some row ∧
        pool.state.catalog.price "milk" = calculatePrice row.unitCost row.quantity.toInt := by
  obtain ⟨trace, pool, hrun, hcheck⟩ := run_of_play priceAct fineSteps
    (finalizations ["restock-1", "restock-2"] Sample.twoRestocks) (Sample.deliveredAs 2 3)
    (fun trace pool => pool.threads.all PriceThread.ended &&
      (decide (lastUpserter "milk" trace = some 1) && decide (lastApplier "milk" trace = some 1)))
    (by decide +kernel)
  rw [Bool.and_eq_true, Bool.and_eq_true, List.all_eq_true, decide_eq_true_eq,
    decide_eq_true_eq] at hcheck
  obtain ⟨hended, hlast, happlied⟩ := hcheck
  obtain ⟨row, hrow, _, hprice⟩ := settled_prices Sample.twoRestocks_costed hrun hended hlast
  exact ⟨trace, pool, hrun, row, hrow, hprice happlied⟩

/-- With the deliveries the other way round, all is delivered and the catalog has
the price of the three units there were before the second restock. -/
theorem overtaken_price :
    ∃ trace pool, Run priceAct (fun pool index event => fineSteps pool index event = true)
        (finalizations ["restock-1", "restock-2"] Sample.twoRestocks) trace pool ∧
      (∀ thread ∈ pool.threads, thread.ended = true) ∧
      ∃ row, pool.state.stock.lookup "milk" = some row ∧
        pool.state.catalog.price "milk" ≠ calculatePrice row.unitCost row.quantity.toInt := by
  obtain ⟨trace, pool, hrun, hcheck⟩ := run_of_play priceAct fineSteps
    (finalizations ["restock-1", "restock-2"] Sample.twoRestocks) (Sample.deliveredAs 3 2)
    (fun _ pool => pool.threads.all PriceThread.ended &&
      (pool.state.stock.lookup "milk").any fun row =>
        decide (pool.state.catalog.price "milk" ≠ calculatePrice row.unitCost row.quantity.toInt))
    (by decide +kernel)
  rw [Bool.and_eq_true, List.all_eq_true] at hcheck
  obtain ⟨row, hrow, hprice⟩ := (Option.any_eq_true _ _).mp hcheck.2
  exact ⟨trace, pool, hrun, hcheck.1, row, hrow, of_decide_eq_true hprice⟩

end AutoGrocery
