import AutoGrocery.Catalog.Batches
import AutoGrocery.Interleaving.Register
import AutoGrocery.Relational.Serial
import AutoGrocery.System

/-!
The whole pricing service: `CreateItem` and `GetPrice` of `internal/handler/grpc.go`
next to the two methods that inventory calls. Calls run at the same time, one statement
after the other, and a statement may fail or lose its answer. A price that a method
answers with is the one that was written last, or one that was written later and never
acknowledged.
-/

namespace AutoGrocery

open Interleaving Relational

/-- `store.Item`. -/
structure CatalogItem where
  id : Nat
  sku : SKU
  unitPrice : ℚ

/-- The statements of `internal/store/catalog.go`. -/
inductive CatalogOp where
  | pricing (op : PricingOp)
  | getItem (sku : SKU)

abbrev CatalogAns : CatalogOp → Type
  | .pricing op => PricingAns op
  | .getItem _ => Except GoError CatalogItem

/-- `GetItem`. -/
def Catalog.getItem (catalog : Catalog) (sku : SKU) : Except GoError CatalogItem :=
  match catalog.rows.lookup sku with
  | none => .error (.notFound "item not found")
  | some row => .ok ⟨row.id, sku, row.unitPrice⟩

/-- One statement on the catalog under a fault. -/
def catalogExec (fault : Fault) : Handler CatalogAns Catalog
  | .pricing op, catalog => pricingExec fault op catalog
  | .getItem sku, catalog =>
      fault.run "failed to get item: " (fun catalog => (catalog.getItem sku, catalog)) catalog

structure CreateItemResponse where
  id : Int32

structure GetPriceResponse where
  id : Int32
  sku : SKU
  unitPrice : ℚ

namespace PricingHandler

/-- `CreateItem`. -/
def createItem (sku : SKU) (unitPrice : ℚ) : Prog CatalogAns (Except GoError CreateItemResponse) :=
  .call (.pricing (.upsertItem sku unitPrice)) fun
    | .error err => .ret (.error (err.wrap "failed to upsert item: "))
    | .ok id => .ret (.ok ⟨Int32.ofNat id⟩)

/-- `GetPrice`. Whatever the error of the store is, the answer is that there is no item. -/
def getPrice (sku : SKU) : Prog CatalogAns (Except GoError GetPriceResponse) :=
  .call (.getItem sku) fun
    | .error _ => .ret (.error (.notFound ("item with SKU " ++ sku ++ " not found")))
    | .ok item => .ret (.ok ⟨Int32.ofNat item.id, item.sku, item.unitPrice⟩)

/-- The other two methods, over all statements of the store. -/
def onCatalog {α : Type} : Prog PricingAns α → Prog CatalogAns α
  | .ret value => .ret value
  | .call op next => .call (.pricing op) fun ans => onCatalog (next ans)

end PricingHandler

/-! ### Calls at the same time -/

inductive PricingCall where
  | calculateBill (items : List CartItem)
  | updateStockMetrics (updates : List StockMetric)
  | createItem (sku : SKU) (unitPrice : ℚ)
  | getPrice (sku : SKU)

/-- What a call is answered with. -/
inductive PricingReply where
  | bill (answer : Except GoError CalculateBillResponse)
  | metrics (answer : Except GoError UpdateStockMetricsResponse)
  | created (sku : SKU) (answer : Except GoError CreateItemResponse)
  | price (answer : Except GoError GetPriceResponse)

abbrev PricingThread := Prog CatalogAns PricingReply

/-- A call as a thread that ends with its reply. -/
def PricingCall.thread : PricingCall → PricingThread
  | .calculateBill items =>
      PricingHandler.onCatalog (PricingHandler.calculateBill items) >>= fun answer => .ret (.bill answer)
  | .updateStockMetrics updates =>
      PricingHandler.onCatalog (PricingHandler.updateStockMetrics updates) >>= fun answer =>
        .ret (.metrics answer)
  | .createItem sku unitPrice =>
      PricingHandler.createItem sku unitPrice >>= fun answer => .ret (.created sku answer)
  | .getPrice sku => PricingHandler.getPrice sku >>= fun answer => .ret (.price answer)

/-- One statement of a call. -/
def catalogAct : Act Fault PricingThread Catalog (Event CatalogAns)
  | fault, .call op next, catalog =>
      let answer := catalogExec fault op catalog
      some ⟨⟨op, answer.1⟩, next answer.1, [], answer.2⟩
  | _, .ret _, _ => none

/-! ### Writes and their acknowledgements -/

/-- The statement writes this price for the SKU, if it takes effect. -/
def Upserts (entry : Nat × Event CatalogAns) (sku : SKU) (price : ℚ) : Prop :=
  ∃ unitPrice, entry.2.op = .pricing (.upsertItem sku unitPrice) ∧ numeric unitPrice = .ok price

/-- The statement has written a price for the SKU and was answered with the id of its row. -/
def Acknowledged (entry : Nat × Event CatalogAns) (sku : SKU) : Prop :=
  ∃ unitPrice id, entry.2 = ⟨.pricing (.upsertItem sku unitPrice), .ok id⟩

namespace Catalog

/-- The price in the catalog, if there is one. -/
def listed (catalog : Catalog) (sku : SKU) : Option ℚ :=
  (catalog.rows.lookup sku).map CatalogRow.unitPrice

/-- The price that was written last before this point of a run, or later without an
acknowledgement. -/
abbrev Latest (start : Catalog) (history : List (Nat × Event CatalogAns)) (sku : SKU)
    (found : Option ℚ) : Prop :=
  Register.Explains Upserts Acknowledged start.listed history sku found

/-- The row of the SKU has this id. -/
def Identifies (catalog : Catalog) (sku : SKU) (id : Int32) : Prop :=
  ∃ row, catalog.rows.lookup sku = some row ∧ id = Int32.ofNat row.id

end Catalog

/-- A reply holds the latest prices of one moment before it, and ids that are good for ever. -/
def PricingReply.Current (start : Catalog) (trace : List (Nat × Event CatalogAns)) (catalog : Catalog) :
    PricingReply → Prop
  | .price (.ok resp) => catalog.Identifies resp.sku resp.id ∧
      ∃ history, history <+: trace ∧ start.Latest history resp.sku (some resp.unitPrice)
  | .bill (.ok resp) => ∃ history, history <+: trace ∧
      (∀ line ∈ resp.items, start.Latest history line.sku (some line.unitPrice) ∧
        line.totalPrice = line.unitPrice * line.quantity.toInt) ∧
      resp.grandTotal = (resp.items.map LineItem.totalPrice).sum
  | .created sku (.ok resp) => catalog.Identifies sku resp.id
  | _ => True

/-! ### One statement -/

section

variable {start catalog : Catalog} {trace : List (Nat × Event CatalogAns)}

/-- What is known of the catalog after some steps. -/
structure Catalog.Recorded (start : Catalog) (trace : List (Nat × Event CatalogAns)) (catalog : Catalog) :
    Prop where
  serial : catalog.rows.Serial CatalogRow.id catalog.nextID
  latest : ∀ sku, start.Latest trace sku (catalog.listed sku)

/-- An upsert that takes effect writes its SKU under the id of its row, and nothing else. -/
private theorem upsertItem_ok {catalog' : Catalog} {sku : SKU} {unitPrice : ℚ} {id : Nat}
    (hok : catalog.upsertItem sku unitPrice = .ok (id, catalog')) :
    ∃ stored, numeric unitPrice = .ok stored ∧
      id = ((catalog.rows.lookup sku).map CatalogRow.id).getD catalog.nextID ∧
      catalog' = ⟨catalog.rows.insert sku ⟨id, stored⟩, catalog.nextID + 1⟩ := by
  obtain ⟨stored, hstored, hrest⟩ := bind_eq_ok hok
  cases hrest
  exact ⟨stored, hstored, rfl, rfl⟩

/-- An upsert under a fault has no effect and is not acknowledged, or takes effect and is
answered with the id of its row if it is answered at all. -/
private theorem upsertItem_exec (fault : Fault) (sku : SKU) (unitPrice : ℚ) (catalog : Catalog) :
    let answer := pricingExec fault (.upsertItem sku unitPrice) catalog
    (answer.2 = catalog ∧ ∀ id, answer.1 ≠ .ok id) ∨
      ∃ id, catalog.upsertItem sku unitPrice = .ok (id, answer.2) ∧ ∀ id', answer.1 = .ok id' → id' = id := by
  cases hresult : catalog.upsertItem sku unitPrice with
  | error err =>
      left
      cases fault <;> simp [pricingExec, Fault.run, hresult]
  | ok result =>
      obtain ⟨id, catalog'⟩ := result
      cases fault with
      | works =>
          right
          refine ⟨id, by simp [pricingExec, Fault.run, hresult], fun id' hanswer => ?_⟩
          simp only [pricingExec, Fault.run, hresult] at hanswer
          exact (Except.ok.inj hanswer).symm
      | fails err =>
          left
          simp [pricingExec, Fault.run]
      | loses err =>
          right
          refine ⟨id, by simp [pricingExec, Fault.run, hresult], fun id' hanswer => ?_⟩
          cases hanswer

/-- A statement that reads leaves the catalog alone and acknowledges nothing. -/
private theorem Recorded.reads (hrecorded : start.Recorded trace catalog) {entry : Nat × Event CatalogAns}
    (hreads : ∀ sku, ¬ Acknowledged entry sku) : start.Recorded (trace ++ [entry]) catalog :=
  ⟨hrecorded.serial, fun sku => (hrecorded.latest sku).snoc (hreads sku)⟩

/-- **The step lemma.** A statement keeps the record of the catalog and the ids of its rows. -/
theorem Catalog.Recorded.step (hrecorded : start.Recorded trace catalog) (fault : Fault) (op : CatalogOp)
    (index : Nat) :
    start.Recorded (trace ++ [(index, ⟨op, (catalogExec fault op catalog).1⟩)])
        (catalogExec fault op catalog).2 ∧
      catalog.KeepsIDs (catalogExec fault op catalog).2 := by
  rcases op with (skus | ⟨sku, unitPrice⟩) | sku
  · have hsame : (catalogExec fault (.pricing (.getItemsBySKUs skus)) catalog).2 = catalog := by
      cases fault <;> rfl
    rw [hsame]
    refine ⟨Recorded.reads hrecorded ?_, .refl⟩
    rintro sku ⟨unitPrice, id, hentry⟩
    cases congrArg Event.op hentry
  · rcases upsertItem_exec fault sku unitPrice catalog with ⟨hsame, hanswer⟩ | ⟨id, hok, _⟩
    · have hstate : (catalogExec fault (.pricing (.upsertItem sku unitPrice)) catalog).2 = catalog := hsame
      rw [hstate]
      refine ⟨Recorded.reads hrecorded ?_, .refl⟩
      rintro other ⟨_, id, hentry⟩
      cases congrArg Event.op hentry
      injection hentry with _ hans
      exact hanswer id hans
    · obtain ⟨stored, hstored, hid, hcatalog⟩ := upsertItem_ok hok
      have hstate : (catalogExec fault (.pricing (.upsertItem sku unitPrice)) catalog).2 =
        ⟨catalog.rows.insert sku ⟨id, stored⟩, catalog.nextID + 1⟩ := hcatalog
      rw [hstate]
      refine ⟨⟨hrecorded.serial.upsert hid, fun other => (hrecorded.latest other).step ?_⟩, ?_⟩
      · by_cases heq : other = sku
        · subst heq
          exact Or.inr ⟨stored, by simp [Catalog.listed], unitPrice, rfl, hstored⟩
        · refine Or.inl ⟨by simp [Catalog.listed, heq], ?_⟩
          rintro ⟨_, _, hentry⟩
          cases congrArg Event.op hentry
          exact heq rfl
      · intro other row hrow
        by_cases heq : other = sku
        · subst heq
          exact ⟨_, AList.lookup_insert _, by rw [hid, hrow]; rfl⟩
        · exact ⟨row, (AList.lookup_insert_ne heq).trans hrow, rfl⟩
  · have hsame : (catalogExec fault (.getItem sku) catalog).2 = catalog := by
      cases fault <;> rfl
    rw [hsame]
    refine ⟨Recorded.reads hrecorded ?_, .refl⟩
    rintro sku ⟨unitPrice, id, hentry⟩
    cases congrArg Event.op hentry

/-! ### The calls -/

/-- A call before its first statement, an update somewhere in its loop, or a reply. -/
inductive PricingAt (start : Catalog) (trace : List (Nat × Event CatalogAns)) (catalog : Catalog) :
    PricingThread → Prop where
  | billing (items : List CartItem) : PricingAt start trace catalog (PricingCall.calculateBill items).thread
  | updating (prog : Prog PricingAns (Except GoError UpdateStockMetricsResponse)) :
      PricingAt start trace catalog (PricingHandler.onCatalog prog >>= fun answer => .ret (.metrics answer))
  | creating (sku : SKU) (unitPrice : ℚ) :
      PricingAt start trace catalog (PricingCall.createItem sku unitPrice).thread
  | pricing (sku : SKU) : PricingAt start trace catalog (PricingCall.getPrice sku).thread
  | replied {reply : PricingReply} : reply.Current start trace catalog →
      PricingAt start trace catalog (.ret reply)

theorem PricingCall.thread_at (call : PricingCall) : PricingAt start trace catalog call.thread := by
  cases call with
  | calculateBill items => exact .billing items
  | updateStockMetrics updates => exact .updating (PricingHandler.updateStockMetrics updates)
  | createItem sku unitPrice => exact .creating sku unitPrice
  | getPrice sku => exact .pricing sku

theorem Catalog.Identifies.keeps {catalog' : Catalog} {sku : SKU} {id : Int32}
    (hid : catalog.Identifies sku id) (hkeeps : catalog.KeepsIDs catalog') : catalog'.Identifies sku id := by
  obtain ⟨row, hrow, rfl⟩ := hid
  obtain ⟨row', hrow', hsame⟩ := hkeeps sku row hrow
  exact ⟨row', hrow', by rw [hsame]⟩

/-- A reply stays as good as it was. -/
theorem PricingReply.Current.later {reply : PricingReply} (hcurrent : reply.Current start trace catalog)
    {catalog' : Catalog} (hkeeps : catalog.KeepsIDs catalog') (entry : Nat × Event CatalogAns) :
    reply.Current start (trace ++ [entry]) catalog' := by
  have hlonger : ∀ history, history <+: trace → history <+: trace ++ [entry] :=
    fun history h => h.trans (List.prefix_append trace [entry])
  rcases reply with (_ | bill) | (_ | _) | ⟨sku, _ | created⟩ | (_ | price)
  · trivial
  · obtain ⟨history, hhistory, hlines⟩ := hcurrent
    exact ⟨history, hlonger history hhistory, hlines⟩
  · trivial
  · trivial
  · trivial
  · exact Catalog.Identifies.keeps hcurrent hkeeps
  · trivial
  · obtain ⟨hid, history, hhistory, hlatest⟩ := hcurrent
    exact ⟨hid.keeps hkeeps, history, hlonger history hhistory, hlatest⟩

theorem PricingAt.later {thread : PricingThread} (hat : PricingAt start trace catalog thread)
    {catalog' : Catalog} (hkeeps : catalog.KeepsIDs catalog') (entry : Nat × Event CatalogAns) :
    PricingAt start (trace ++ [entry]) catalog' thread := by
  cases hat with
  | billing items => exact .billing items
  | updating prog => exact .updating prog
  | creating sku unitPrice => exact .creating sku unitPrice
  | pricing sku => exact .pricing sku
  | replied hcurrent => exact .replied (hcurrent.later hkeeps entry)

/-- A bill is made of the prices of one moment. -/
private theorem billLines_current (hrecorded : start.Recorded trace catalog) {items : List CartItem}
    {resp : CalculateBillResponse}
    (hbill : PricingHandler.billLines (catalog.getItemsBySKUs (items.map CartItem.sku)) items ⟨[], 0⟩ =
      .ok resp) :
    (∀ line ∈ resp.items, start.Latest trace line.sku (some line.unitPrice) ∧
        line.totalPrice = line.unitPrice * line.quantity.toInt) ∧
      resp.grandTotal = (resp.items.map LineItem.totalPrice).sum := by
  obtain ⟨hall, hmissing⟩ := PricingHandler.billLines_spec catalog items
    (fun line hline => List.mem_map_of_mem hline) ⟨[], 0⟩
  have hlisted : ∀ line ∈ items, line.sku ∈ catalog.rows := by
    by_contra hnot
    push Not at hnot
    obtain ⟨err, herr⟩ := hmissing hnot
    rw [hbill] at herr
    cases herr
  obtain ⟨found, hfound, hitems, htotal⟩ := hall hlisted
  obtain rfl : found = resp := Except.ok.inj (hfound.symm.trans hbill)
  constructor
  · intro line hline
    rw [hitems, List.nil_append] at hline
    obtain ⟨cartItem, hcart, rfl⟩ := List.mem_map.mp hline
    obtain ⟨row, hrow⟩ := Option.isSome_iff_exists.mp (AList.lookup_isSome.mpr (hlisted cartItem hcart))
    have hprice := hrecorded.latest cartItem.sku
    rw [Catalog.listed, hrow] at hprice
    refine ⟨?_, rfl⟩
    simp only [Catalog.lineItem, Catalog.price, hrow]
    exact hprice
  · rw [htotal, hitems, zero_add, List.nil_append, List.map_map]
    rfl

/-- **One statement of a call.** -/
theorem PricingAt.step (hrecorded : start.Recorded trace catalog) {thread : PricingThread}
    (hat : PricingAt start trace catalog thread) (index : Nat) {fault : Fault}
    {move : Move PricingThread Catalog (Event CatalogAns)} (hact : catalogAct fault thread catalog = some move) :
    start.Recorded (trace ++ [(index, move.event)]) move.state ∧ catalog.KeepsIDs move.state ∧
      PricingAt start (trace ++ [(index, move.event)]) move.state move.thread ∧ move.spawned = [] := by
  cases hat with
  | replied hcurrent => cases hact
  | updating prog =>
      cases prog with
      | ret value => cases hact
      | call op next =>
          cases hact
          obtain ⟨hafter, hkeeps⟩ := hrecorded.step fault (.pricing op) index
          exact ⟨hafter, hkeeps, .updating (next _), rfl⟩
  | billing items =>
      cases hact
      obtain ⟨hafter, hkeeps⟩ := hrecorded.step fault (.pricing (.getItemsBySKUs (items.map CartItem.sku))) index
      refine ⟨hafter, hkeeps, ?_, rfl⟩
      dsimp only [catalogExec, pricingExec]
      cases fault with
      | fails err => exact .replied trivial
      | loses err => exact .replied trivial
      | works =>
          dsimp only [Fault.run, PricingHandler.onCatalog]
          cases hbill : PricingHandler.billLines (catalog.getItemsBySKUs (items.map CartItem.sku)) items ⟨[], 0⟩ with
          | error err => exact .replied trivial
          | ok resp =>
              obtain ⟨hlines, htotal⟩ := billLines_current hrecorded hbill
              exact .replied ⟨trace, List.prefix_append _ _, hlines, htotal⟩
  | creating sku unitPrice =>
      cases hact
      obtain ⟨hafter, hkeeps⟩ := hrecorded.step fault (.pricing (.upsertItem sku unitPrice)) index
      refine ⟨hafter, hkeeps, ?_, rfl⟩
      dsimp only [catalogExec]
      cases hanswer : (pricingExec fault (.upsertItem sku unitPrice) catalog).1 with
      | error err => exact .replied trivial
      | ok id =>
          rcases upsertItem_exec fault sku unitPrice catalog with ⟨_, hnone⟩ | ⟨id', hok, hsame⟩
          · exact absurd hanswer (hnone id)
          · obtain rfl := hsame id hanswer
            obtain ⟨stored, _, _, hcatalog⟩ := upsertItem_ok hok
            refine .replied ⟨⟨id, stored⟩, ?_, rfl⟩
            rw [hcatalog]
            exact AList.lookup_insert _
  | pricing sku =>
      cases hact
      obtain ⟨hafter, hkeeps⟩ := hrecorded.step fault (.getItem sku) index
      refine ⟨hafter, hkeeps, ?_, rfl⟩
      dsimp only [catalogExec]
      cases fault with
      | fails err => exact .replied trivial
      | loses err => exact .replied trivial
      | works =>
          dsimp only [Fault.run, Catalog.getItem]
          cases hrow : catalog.rows.lookup sku with
          | none => exact .replied trivial
          | some row =>
              have hprice := hrecorded.latest sku
              rw [Catalog.listed, hrow] at hprice
              exact .replied ⟨⟨row, hrow, rfl⟩, trace, List.prefix_append _ _, hprice⟩

end

/-! ### Every run -/

/-- **The pricing service answers with the latest prices.** Whatever calls run at the same
time and whatever statements fail or lose their answer: a price in the catalog or in the
answer of `GetPrice` is one that no acknowledged write of its SKU came after, all prices of
one bill are of one moment, and an id that was answered is the id of the row for good. No
two SKUs share an id. -/
theorem pricing_answers_current {calls : List PricingCall} {start : Catalog}
    (hserial : start.rows.Serial CatalogRow.id start.nextID) {trace : List (Nat × Event CatalogAns)}
    {pool : Pool PricingThread Catalog}
    (hrun : Run catalogAct anyStep ⟨calls.map PricingCall.thread, start⟩ trace pool) :
    start.Recorded trace pool.state ∧
      ∀ reply, .ret reply ∈ pool.threads → reply.Current start trace pool.state := by
  have hinv := hrun.invariant (fun pool trace => start.Recorded trace pool.state ∧
    ∀ thread ∈ pool.threads, PricingAt start trace pool.state thread) ⟨⟨hserial, fun _ => .opening⟩, ?_⟩ ?_
  · refine ⟨hinv.1, fun reply hreply => ?_⟩
    generalize hthread : Prog.ret reply = thread at hreply
    cases hinv.2 thread hreply with
    | replied hcurrent => exact Prog.ret.inj hthread ▸ hcurrent
    | updating prog =>
        cases prog with
        | ret value =>
            cases hthread
            cases value <;> trivial
        | call op next => cases hthread
    | billing items => cases hthread
    | creating sku unitPrice => cases hthread
    | pricing sku => cases hthread
  · intro thread hthread
    obtain ⟨call, _, rfl⟩ := List.mem_map.mp hthread
    exact call.thread_at
  · intro trace pool index thread fault move hinv hthread hact _
    obtain ⟨hrecorded, hthreads⟩ := hinv
    obtain ⟨hafter, hkeeps, hmover, hspawned⟩ :=
      (hthreads thread (List.mem_of_getElem? hthread)).step hrecorded index hact
    refine ⟨hafter, Pool.forall_threads_after (fun other hother => (hthreads other hother).later hkeeps _)
      hmover ?_⟩
    rw [hspawned]
    exact fun _ h => absurd h List.not_mem_nil

/-! ### A price whose answer was lost -/

namespace Sample

/-- The price a thread was answered with. -/
def quoted : PricingThread → Option ℚ
  | .ret (.price (.ok resp)) => some resp.unitPrice
  | _ => none

/-- Two prices for milk, and a call that asks for it. -/
def quotes : List PricingCall := [.createItem "milk" 2, .createItem "milk" (5 / 2), .getPrice "milk"]

end Sample

/-- The first price is acknowledged and the answer of the second is lost. -/
theorem pricing_answers_current_sample :
    ∃ trace pool, Run catalogAct anyStep ⟨Sample.quotes.map PricingCall.thread, Sample.world.catalog⟩ trace pool ∧
      pool.threads.map Sample.quoted = [none, none, some (5 / 2)] ∧
      ∀ reply, .ret reply ∈ pool.threads → reply.Current Sample.world.catalog trace pool.state := by
  obtain ⟨trace, pool, hplayed, hcheck⟩ := run_of_play catalogAct (fun _ _ _ => true)
    ⟨Sample.quotes.map PricingCall.thread, Sample.world.catalog⟩
    [(0, .works), (1, .loses "EOF"), (2, .works)]
    (fun _ pool => pool.threads.map Sample.quoted = [none, none, some (5 / 2)]) (by decide +kernel)
  have hrun : Run catalogAct anyStep _ trace pool := hplayed.mono fun _ _ _ _ => trivial
  have hserial : Sample.world.catalog.rows.Serial CatalogRow.id Sample.world.catalog.nextID :=
    Table.serial_of_entries (by decide) (by decide)
  exact ⟨trace, pool, hrun, of_decide_eq_true hcheck, (pricing_answers_current hserial hrun).2⟩

end AutoGrocery
