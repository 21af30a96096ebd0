import AutoGrocery.Orders.Bill

/-!
One item list for the whole life of a client order. A preview reserves the map
of its cart and stores one line for each of its entries. A later confirm or
cancel makes a map of these lines, which inventory saves, broadcasts, bills or
releases. Requests that concern other orders run between any two of these
steps.
-/

namespace AutoGrocery

open Interleaving InventoryHandler

/-! ### The requests -/

/-- A preview, one later request about its order, and any other requests. -/
def lifePool (user : Int) (cart : List CartItem) (orderUUID : OrderID) (laterUser : Option Int)
    (later : ClientRequest) (others : List Request) (w : World) : Pool Thread World :=
  ⟨.ordering (previewOrder (some user) (some cart) orderUUID) :: .ordering (later.handle laterUser) ::
    others.map Request.thread, w⟩

/-- Nothing has an order of this id yet. -/
structure UnknownOrder (orderID : OrderID) (w : World) : Prop where
  row : w.ordering.groceryOrders.lookup orderID = none
  saved : ∀ items, w.memory.getOrderItems orderID ≠ .ok items
  untold : ∀ broadcast ∈ w.broadcasts, broadcast.orderType = .customer → broadcast.orderID ≠ orderID

/-- Reads of this order's lines return what was stored: the database does not fail them. -/
def linesRead (orderID : OrderID) (_ : Pool Thread World) (_ : Nat) : ServiceEvent → Bool
  | .ordering ⟨.store (.getOrderItems read), answer⟩ => read ≠ orderID || !isFault answer
  | _ => true

/-! ### What is to be shown -/

/-- Every list of the order's items that a run has brought about is these items:
the reserved map and the stored lines, the maps sent to inventory, the map saved
there, the broadcasts, and the carts its finalizations bill. -/
structure OneItemList (user : Int) (orderID : OrderID) (items : ItemMap)
    (trace : List (Nat × ServiceEvent)) (pool : Pool Thread World) : Prop where
  reserved : ∀ req answer, (0, .ordering ⟨.reserveItems req, answer⟩) ∈ trace → req = ⟨orderID, items⟩
  answered : ∀ reply, pool.threads[0]? = some (.ordering (.ret reply)) → reply.status = some 201 →
    (∃ resp, resp.success = true ∧
      (0, .ordering ⟨.reserveItems ⟨orderID, items⟩, .ok resp⟩) ∈ trace) ∧
    (0, .ordering ⟨.store (.createGroceryOrder (previewedOrder user orderID) (orderLines items)),
      .ok ()⟩) ∈ trace
  kept : Agreed orderID items pool.state
  sent : ∀ index event sent, (index, event) ∈ trace → Sends event orderID sent → sent.Same items
  billed : ∀ index read cart answer, (index, .inventory ⟨.getOrderItems orderID, read⟩) ∈ trace →
    (index, .inventory ⟨.calculateBill cart, answer⟩) ∈ trace →
    Lists CartItem.sku CartItem.quantity cart items

/-! ### The parts the threads play -/

/-- What a later request has learned about the order. -/
def ClientPhase.Learned (orderID : OrderID) (items : ItemMap) (db : OrderingDB) : ClientPhase → Prop
  | .reserving _ => False
  | .creating _ => False
  | .checking => True
  | .owning => db.groceryOrders.lookup orderID ≠ none
  | .holding answer => ∃ dbItems, answer = .ok dbItems ∧ (protoItems dbItems).Same items
  | .ended => True

/-- What a preview has done on its way to an answer of 201. -/
def PreviewPhase.Done (user : Int) (orderID : OrderID) (items : ItemMap)
    (trace : List (Nat × ServiceEvent)) : PreviewPhase → Prop
  | .creating => ∃ resp, resp.success = true ∧
      (0, .ordering ⟨.reserveItems ⟨orderID, items⟩, .ok resp⟩) ∈ trace
  | .created => (∃ resp, resp.success = true ∧
      (0, .ordering ⟨.reserveItems ⟨orderID, items⟩, .ok resp⟩) ∈ trace) ∧
    (0, .ordering ⟨.store (.createGroceryOrder (previewedOrder user orderID) (orderLines items)),
      .ok ()⟩) ∈ trace
  | _ => True

/-- The part a thread plays in the life of the order, by its index. -/
inductive Plays (user : Int) (orderID : OrderID) (items : ItemMap) (trace : List (Nat × ServiceEvent))
    (db : OrderingDB) : Nat → Thread → Prop where
  | preview {phase : PreviewPhase} {thread : Thread} : PreviewAt user orderID items phase thread →
      phase.Done user orderID items trace → Plays user orderID items trace db 0 thread
  | later {laterUser : Int} {phase : ClientPhase} {prog : OrderingProg} :
      prog.Follows (ClientRule laterUser orderID) phase → phase.Learned orderID items db →
      Plays user orderID items trace db 1 (.ordering prog)
  | other {index : Nat} {prog : OrderingProg} : 2 ≤ index →
      prog.Uses (fun op => op.names ≠ some orderID) →
      Plays user orderID items trace db index (.ordering prog)
  | callback {index : Nat} {phase : BillPhase} {prog : InventoryProg Unit} : 2 ≤ index →
      prog.Uses isCallbackOp → prog.Follows (BillRule orderID) phase →
      phase.History orderID items trace index →
      Plays user orderID items trace db index (.inventory prog)

/-- The invariant: the world agrees on the items, every thread plays its part,
and nothing else has been sent. -/
structure OneLife (user : Int) (orderID : OrderID) (items : ItemMap) (trace : List (Nat × ServiceEvent))
    (pool : Pool Thread World) : Prop where
  agreed : Agreed orderID items pool.state
  many : 2 ≤ pool.threads.length
  known : ∀ index event, (index, event) ∈ trace → index < pool.threads.length
  callbacks : ∀ index event, (index, .inventory event) ∈ trace →
    ∃ prog, pool.threads[index]? = some (.inventory prog)
  threads : ∀ (index : Nat) (thread : Thread), pool.threads[index]? = some thread →
    Plays user orderID items trace pool.state.ordering index thread
  reserved : ∀ req answer, (0, .ordering ⟨.reserveItems req, answer⟩) ∈ trace → req = ⟨orderID, items⟩
  sent : ∀ index event sent, (index, event) ∈ trace → Sends event orderID sent → sent.Same items

/-! ### One step -/

/-- What a step of a thread does, as far as the order's items go. -/
structure StepKeeps (user : Int) (orderID : OrderID) (items : ItemMap) (trace : List (Nat × ServiceEvent))
    (index : Nat) (w : World) (move : Move Thread World ServiceEvent) : Prop where
  agreed : Agreed orderID items move.state
  mover : Plays user orderID items (trace ++ [(index, move.event)]) move.state.ordering index move.thread
  spawned : ∀ spawned ∈ move.spawned, ∃ phase prog, spawned = .inventory prog ∧
    prog.Uses isCallbackOp ∧ prog.Follows (BillRule orderID) phase ∧ (phase = .idle ∨ phase = .reading)
  stays : index ≠ 1 → w.ordering.groceryOrders.lookup orderID ≠ none →
    move.state.ordering.groceryOrders.lookup orderID ≠ none
  reserved : index = 0 → ∀ req answer, move.event = .ordering ⟨.reserveItems req, answer⟩ →
    req = ⟨orderID, items⟩
  sent : ∀ sent, Sends move.event orderID sent → sent.Same items

section

variable {user : Int} {orderID : OrderID} {items : ItemMap} {trace : List (Nat × ServiceEvent)}
  {index : Nat} {w : World} {fault : ServiceFault} {move : Move Thread World ServiceEvent}

/-- An event sends items under the id its operation names. -/
private theorem Sends.names {op : OrderingOp} {answer : OrderingAns op} {sent : ItemMap}
    (hsends : Sends (.ordering ⟨op, answer⟩) orderID sent) : op.names = some orderID := by
  cases hsends <;> rfl

private theorem preview_step (hagreed : Agreed orderID items w) {phase : PreviewPhase} {thread : Thread}
    (hat : PreviewAt user orderID items phase thread) (hdone : phase.Done user orderID items trace)
    (hact : serviceAct fault thread w = some move) :
    StepKeeps user orderID items trace 0 w move := by
  have hlast (event : ServiceEvent) : (0, event) ∈ trace ++ [(0, event)] :=
    List.mem_append_right _ List.mem_cons_self
  cases hat with
  | created _ => cases hact
  | refused _ => cases hact
  | @reserving next hgranted hrejected =>
      cases hact
      refine ⟨?_, ?_, ?_, ?_, ?_, ?_⟩
      · apply hagreed.ordering fault.1
        · intro order lines h
          cases h
        · intro req h
          cases h
      · dsimp only
        cases hanswer : (orderingExec fault.1 (.reserveItems ⟨orderID, items⟩) w).1 with
        | error err => exact .preview (hrejected _ rfl) trivial
        | ok resp =>
            cases hsuccess : resp.success with
            | false => exact .preview (hrejected _ hsuccess) trivial
            | true => exact .preview (hgranted _ hsuccess) ⟨resp, hsuccess, hlast _⟩
      · intro spawned hspawned
        cases hspawned
      · exact fun _ => orderingExec_stays fault.1 fun h => by cases h
      · intro _ req answer h
        cases h
        rfl
      · intro sent h
        cases h
  | @creating next hcreated hfailed =>
      cases hact
      refine ⟨?_, ?_, ?_, ?_, ?_, ?_⟩
      · apply hagreed.ordering fault.1
        · intro order lines h _
          cases h
          rfl
        · intro req h
          cases h
      · dsimp only
        obtain ⟨resp, hsuccess, hmem⟩ := hdone
        cases hanswer : (orderingExec fault.1 (.store (.createGroceryOrder
            (previewedOrder user orderID) (orderLines items))) w).1 with
        | error err => exact .preview (hfailed err) trivial
        | ok value =>
            exact .preview hcreated
              ⟨⟨resp, hsuccess, List.mem_append_left _ hmem⟩, hlast _⟩
      · intro spawned hspawned
        cases hspawned
      · exact fun _ => orderingExec_stays fault.1 fun h => by cases h
      · intro _ req answer h
        cases h
      · intro sent h
        cases h

/-- The lines of an order that exists are read unless the statement fails. -/
private theorem getOrderItems_fault {fault : CallFault (CallFault Fault)} {row : OrderRow} {err : GoError}
    (hrow : w.ordering.groceryOrders.lookup orderID = some row)
    (hanswer : (orderingExec fault (.store (.getOrderItems orderID)) w).1 = .error err) :
    ∃ message, err = .fault message := by
  rcases fault with ⟨_ | _ | _, script⟩
  · have hread : w.ordering.getOrderItems orderID = .error err := hanswer
    rw [getOrderItems_of_lookup hrow] at hread
    cases hread
  · exact ⟨_, (Except.error.inj hanswer).symm⟩
  · exact ⟨_, (Except.error.inj hanswer).symm⟩

/-- What a later request learns from a step: a read of the lines of the order
answers, and gives the lines that are stored. -/
private theorem learned_step (hagreed : Agreed orderID items w) {laterUser : Int}
    {phase phase' : ClientPhase} {op : OrderingOp}
    (hrule : ClientRule laterUser orderID phase op (orderingExec fault.1 op w).1 phase')
    (hread : op = .store (.getOrderItems orderID) →
      isFault (orderingExec fault.1 (.store (.getOrderItems orderID)) w).1 = false)
    (hlearned : phase.Learned orderID items w.ordering) :
    phase'.Learned orderID items (orderingExec fault.1 op w).2.ordering := by
  generalize hanswer : (orderingExec fault.1 op w).1 = answer at hrule
  cases hrule with
  | reserve => exact hlearned.elim
  | create => exact hlearned.elim
  | refuse => trivial
  | own order howner =>
      obtain ⟨hsame, hfound⟩ := getOrderByID_exec fault.1 w orderID
      have horder := hfound _ hanswer
      obtain ⟨row, hrow, _⟩ := Option.map_eq_some_iff.mp horder.symm
      show (orderingExec fault.1 (.store (.getOrderByID orderID)) w).2.ordering.groceryOrders.lookup
        orderID ≠ none
      rw [hsame, hrow]
      exact Option.some_ne_none row
  | load answer =>
      obtain ⟨row, hrow⟩ := Option.ne_none_iff_exists'.mp hlearned
      have hstored := getOrderItems_of_lookup hrow
      have hfine := hread rfl
      rw [hanswer] at hfine
      cases answer with
      | ok dbItems =>
          have hlines := (getOrderItems_exec fault.1 w orderID).2 dbItems hanswer
          rw [hstored] at hlines
          rw [← Except.ok.inj hlines]
          exact ⟨_, rfl, (hagreed.stored row hrow).protoItems⟩
      | error err =>
          obtain ⟨message, rfl⟩ := getOrderItems_fault hrow hanswer
          cases hfine
  | write held status answer => exact hlearned
  | dispatch dbItems answer => exact hlearned
  | release held answer => exact hlearned
  | delete held answer => exact hlearned

private theorem later_step (hagreed : Agreed orderID items w) {laterUser : Int} {phase : ClientPhase}
    {prog : OrderingProg} (hfollows : prog.Follows (ClientRule laterUser orderID) phase)
    (hlearned : phase.Learned orderID items w.ordering)
    (hact : serviceAct fault (.ordering prog) w = some move)
    {pool : Pool Thread World} (hread : linesRead orderID pool 1 move.event = true) :
    StepKeeps user orderID items trace 1 w move := by
  rcases serviceAct_eq_some hact with ⟨op, next, hprog, rfl⟩ | ⟨op, next, hprog, rfl⟩
  case inr => cases hprog
  cases hprog
  obtain ⟨phase', hrule, hnext⟩ := hfollows (orderingExec fault.1 op w).1
  have hfine : op = .store (.getOrderItems orderID) →
      isFault (orderingExec fault.1 (.store (.getOrderItems orderID)) w).1 = false := by
    rintro rfl
    simpa [linesRead] using hread
  have hlearned' := learned_step hagreed hrule hfine hlearned
  have hdispatch (req : ProcessCustomerOrderRequest) (h : op = .processCustomerOrder req) :
      req.items.Same items := by
    subst h
    cases hrule
    obtain ⟨_, heq, hsame⟩ := hlearned
    cases heq
    exact hsame
  refine ⟨hagreed.ordering fault.1 (fun order lines h _ => ?_) fun req h _ => hdispatch req h,
    .later hnext hlearned', fun spawned h => ?_, fun h => absurd rfl h, fun h => ?_, fun sent h => ?_⟩
  · subst h
    cases hrule
    exact hlearned.elim
  · cases h
  · cases h
  · generalize hanswer : (orderingExec fault.1 op w).1 = answer at hrule h
    cases h with
    | process => exact hdispatch _ rfl
    | release =>
        cases hrule
        obtain ⟨dbItems, rfl, hsame⟩ := hlearned
        exact hsame

private theorem other_step (hagreed : Agreed orderID items w) (hindex : 2 ≤ index) {prog : OrderingProg}
    (huses : prog.Uses (fun op => op.names ≠ some orderID))
    (hact : serviceAct fault (.ordering prog) w = some move) :
    StepKeeps user orderID items trace index w move := by
  rcases serviceAct_eq_some hact with ⟨op, next, hprog, rfl⟩ | ⟨op, next, hprog, rfl⟩
  case inr => cases hprog
  cases hprog
  cases huses with
  | call hnames hnext =>
      refine ⟨hagreed.ordering fault.1 (fun order lines h horder => ?_) fun req h horder => ?_,
        .other hindex (hnext _), fun spawned h => ?_, fun _ => orderingExec_stays fault.1 fun h => ?_,
        fun h => by omega, fun sent h => absurd h.names hnames⟩
      · rw [h] at hnames
        exact absurd (congrArg some horder) hnames
      · rw [h] at hnames
        exact absurd (congrArg some horder) hnames
      · cases h
      · rw [h] at hnames
        exact absurd rfl hnames

/-- The items a finalization reads are the items saved. -/
private theorem getOrderItems_saved {fault : CallFault Fault} {op : InventoryOp} {saved : ItemMap}
    (hevent : (⟨op, (inventoryExec fault op w).1⟩ : Event InventoryAns) =
      ⟨.getOrderItems orderID, .ok saved⟩) : w.memory.getOrderItems orderID = .ok saved := by
  obtain ⟨rfl, hanswer⟩ := Event.mk.inj hevent
  have hok : (fault.mode.run "" (fun w : World => (w.memory.getOrderItems orderID, w)) w).1 = .ok saved :=
    eq_of_heq hanswer
  have hrun := congrArg Prod.fst (Fault.run_of_ok hok)
  rw [hok] at hrun
  exact hrun.symm

private theorem callback_step (hagreed : Agreed orderID items w) (hindex : 2 ≤ index)
    {phase : BillPhase} {prog : InventoryProg Unit} (huses : prog.Uses isCallbackOp)
    (hfollows : prog.Follows (BillRule orderID) phase)
    (hhistory : phase.History orderID items trace index)
    (hact : serviceAct fault (.inventory prog) w = some move) :
    StepKeeps user orderID items trace index w move := by
  rcases serviceAct_eq_some hact with ⟨op, next, hprog, rfl⟩ | ⟨op, next, hprog, rfl⟩
  case inl => cases hprog
  cases hprog
  cases huses with
  | call hop hnext =>
      obtain ⟨phase', hrule, hnext'⟩ := hfollows (inventoryExec fault.2 op w).1
      have hsaved (saved : ItemMap) (h : (⟨op, (inventoryExec fault.2 op w).1⟩ : Event InventoryAns) =
          ⟨.getOrderItems orderID, .ok saved⟩) : saved.Same items :=
        hagreed.saved saved (getOrderItems_saved h)
      refine ⟨hagreed.callback fault.2 hop,
        .callback hindex (hnext _) hnext' (hrule.history hsaved hhistory), fun spawned h => ?_,
        fun _ hrow => ?_, fun h => by omega, fun sent h => by cases h⟩
      · obtain ⟨prog, hprog, rfl⟩ := List.mem_map.mp h
        have hcallback := goroutines_isCallback _ prog hprog
        rcases goroutines_follow _ prog hprog with hidle | hreading
        · exact ⟨.idle, prog, rfl, hcallback, hidle, Or.inl rfl⟩
        · exact ⟨.reading, prog, rfl, hcallback, hreading, Or.inr rfl⟩
      · have hsame := (callbackOp_completes hop fault.2 w).orders.rows orderID
        intro hnone
        rw [hnone, Option.map_none, eq_comm, Option.map_eq_none_iff] at hsame
        exact hrow hsame

end

section

variable {user : Int} {orderID : OrderID} {items : ItemMap} {trace : List (Nat × ServiceEvent)}
  {index : Nat} {pool : Pool Thread World}

/-- A thread keeps its part while another one moves. -/
private theorem Plays.bystander {db db' : OrderingDB} {thread : Thread}
    (hplays : Plays user orderID items trace db index thread) {mover : Nat} (hne : index ≠ mover)
    (event : ServiceEvent)
    (hstays : mover ≠ 1 → db.groceryOrders.lookup orderID ≠ none →
      db'.groceryOrders.lookup orderID ≠ none) :
    Plays user orderID items (trace ++ [(mover, event)]) db' index thread := by
  cases hplays with
  | @preview phase thread hat hdone =>
      refine .preview hat ?_
      cases phase with
      | creating =>
          obtain ⟨resp, hsuccess, hmem⟩ := hdone
          exact ⟨resp, hsuccess, List.mem_append_left _ hmem⟩
      | created =>
          obtain ⟨⟨resp, hsuccess, hmem⟩, hcreated⟩ := hdone
          exact ⟨⟨resp, hsuccess, List.mem_append_left _ hmem⟩, List.mem_append_left _ hcreated⟩
      | _ => trivial
  | @later laterUser phase prog hfollows hlearned =>
      refine .later hfollows ?_
      cases phase with
      | owning => exact hstays hne.symm hlearned
      | _ => exact hlearned
  | other hindex huses => exact .other hindex huses
  | callback hindex huses hfollows hhistory =>
      exact .callback hindex huses hfollows (hhistory.other hne event)

/-- A thread of inventory stays one, and only such a thread has its events. -/
private theorem serviceAct_kind {thread : Thread} {fault : ServiceFault} {w : World}
    {move : Move Thread World ServiceEvent} (hact : serviceAct fault thread w = some move)
    (hkind : (∃ prog, thread = .inventory prog) ∨ ∃ event, move.event = .inventory event) :
    ∃ prog, move.thread = .inventory prog := by
  rcases serviceAct_eq_some hact with ⟨op, next, rfl, rfl⟩ | ⟨op, next, rfl, rfl⟩
  · rcases hkind with ⟨_, h⟩ | ⟨_, h⟩ <;> cases h
  · exact ⟨_, rfl⟩

/-- **The step lemma.** -/
theorem OneLife.step (hlife : OneLife user orderID items trace pool) {thread : Thread}
    {fault : ServiceFault} {move : Move Thread World ServiceEvent}
    (hthread : pool.threads[index]? = some thread)
    (hact : serviceAct fault thread pool.state = some move)
    (hread : linesRead orderID pool index move.event = true) :
    OneLife user orderID items (trace ++ [(index, move.event)]) (pool.after index move) := by
  have hkeeps : StepKeeps user orderID items trace index pool.state move := by
    cases hlife.threads index thread hthread with
    | preview hat hdone => exact preview_step hlife.agreed hat hdone hact
    | later hfollows hlearned => exact later_step hlife.agreed hfollows hlearned hact hread
    | other hindex huses => exact other_step hlife.agreed hindex huses hact
    | callback hindex huses hfollows hhistory =>
        exact callback_step hlife.agreed hindex huses hfollows hhistory hact
  have hlength := Pool.length_after pool index move
  have hmover : index < pool.threads.length := (List.getElem?_eq_some_iff.mp hthread).1
  have hmany := hlife.many
  refine ⟨hkeeps.agreed, by omega, fun found event h => ?_, fun found event h => ?_,
    fun found other hfound => ?_, fun req answer h => ?_, fun found event sent h hsends => ?_⟩
  · rcases mem_snoc h with hold | ⟨rfl, _⟩
    · have hbefore := hlife.known found event hold
      omega
    · omega
  · rcases mem_snoc h with hold | ⟨rfl, hnew⟩
    · obtain ⟨prog, hprog⟩ := hlife.callbacks found event hold
      by_cases heq : found = index
      · subst heq
        obtain rfl := Option.some.inj (hthread.symm.trans hprog)
        obtain ⟨next, hnext⟩ := serviceAct_kind hact (Or.inl ⟨prog, rfl⟩)
        exact ⟨next, by rw [Pool.mover_after hthread, hnext]⟩
      · exact ⟨prog, Pool.other_after hprog heq move⟩
    · obtain ⟨next, hnext⟩ := serviceAct_kind hact (Or.inr ⟨event, hnew.symm⟩)
      exact ⟨next, by rw [Pool.mover_after hthread, hnext]⟩
  · rcases Pool.threads_after hfound with ⟨rfl, rfl⟩ | ⟨hne, hold⟩ | ⟨hnew, hspawned⟩
    · exact hkeeps.mover
    · exact (hlife.threads found other hold).bystander hne move.event hkeeps.stays
    · obtain ⟨phase, prog, rfl, huses, hfollows, hphase⟩ :=
        hkeeps.spawned other (List.mem_of_getElem? hspawned)
      have hunseen (event : ServiceEvent) : (found, event) ∉ trace ++ [(index, move.event)] := by
        intro h
        rcases mem_snoc h with hold | ⟨rfl, _⟩
        · have hbefore := hlife.known found event hold
          omega
        · omega
      refine .callback (by omega) huses hfollows ?_
      rcases hphase with rfl | rfl
      · exact fun answer => hunseen _
      · exact fun cart answer => hunseen _
  · rcases mem_snoc h with hold | ⟨rfl, hnew⟩
    · exact hlife.reserved req answer hold
    · exact hkeeps.reserved rfl req answer hnew.symm
  · rcases mem_snoc h with hold | ⟨rfl, rfl⟩
    · exact hlife.sent found event sent hold hsends
    · exact hkeeps.sent sent hsends

/-! ### Whole runs -/

private theorem request_plays {request : Request} (hother : request.clientOrder ≠ some orderID)
    {db : OrderingDB} (hindex : 2 ≤ index) : Plays user orderID items [] db index request.thread := by
  cases request with
  | client userID request =>
      exact .other hindex ((request.handle_uses userID).mono fun op hop => by rw [hop]; exact hother)
  | restock body restockUUID =>
      refine .other hindex ((restockOrder_uses body restockUUID).mono fun op hop => ?_)
      rw [hop]
      exact (Option.some_ne_none orderID).symm
  | report req =>
      have huses := (reportJobStatus_uses req).bind fun _ => .ret ()
      exact .callback hindex (huses.mono fun _ => And.left) (idle_follows huses)
        fun answer => List.not_mem_nil

private theorem later_plays {later : ClientRequest}
    (hlater : later = .confirm (some orderID) ∨ later = .cancel orderID) (laterUser : Option Int)
    {db : OrderingDB} :
    Plays user orderID items [] db 1 (.ordering (later.handle laterUser)) := by
  have hchecking : later.start = .checking ∧ later.orderID = some orderID := by
    rcases hlater with rfl | rfl
    · exact ⟨rfl, rfl⟩
    · exact ⟨rfl, rfl⟩
  obtain ⟨hstart, hsame⟩ := hchecking
  have hanswered {reply : Reply} : Plays user orderID items [] db 1 (.ordering (.ret reply)) :=
    @Plays.later user orderID items [] db 0 .ended (.ret reply) trivial trivial
  cases laterUser with
  | none => cases later <;> exact hanswered
  | some laterUser =>
      rcases later.handle_follows laterUser with ⟨reply, hreply⟩ | ⟨named, hnamed, hfollows⟩
      · rw [hreply]
        exact hanswered
      · obtain rfl := Option.some.inj (hnamed.symm.trans hsame)
        rw [hstart] at hfollows
        exact .later hfollows trivial

variable {cart : List CartItem} {laterUser : Option Int} {later : ClientRequest}
  {others : List Request} {w : World}

private theorem oneLife_start (hwf : w.ordering.WellFormed) (hnew : UnknownOrder orderID w)
    (hlater : later = .confirm (some orderID) ∨ later = .cancel orderID)
    (hothers : ∀ request ∈ others, request.clientOrder ≠ some orderID) :
    OneLife user orderID (cartMap cart) [] (lifePool user cart orderID laterUser later others w) := by
  refine ⟨⟨hwf, fun row hrow => ?_, fun saved hsaved => absurd hsaved (hnew.saved saved),
    fun broadcast hbroadcast htype horder => absurd horder (hnew.untold broadcast hbroadcast htype)⟩,
    by simp [lifePool], fun _ _ h => absurd h List.not_mem_nil,
    fun _ _ h => absurd h List.not_mem_nil, fun found thread hfound => ?_,
    fun _ _ h => absurd h List.not_mem_nil, fun _ _ _ h => absurd h List.not_mem_nil⟩
  · have hnone : w.ordering.groceryOrders.lookup orderID = some row := hrow
    rw [hnew.row] at hnone
    cases hnone
  · rcases found with _ | _ | index
    · obtain rfl := Option.some.inj hfound
      rcases previewOrder_at (some user) (some cart) orderID with
        ⟨_, _, huser, hcart, hat⟩ | ⟨reply, hreply, hstatus⟩
      · cases huser
        cases hcart
        exact .preview hat trivial
      · rw [hreply]
        exact .preview (.refused hstatus) trivial
    · obtain rfl := Option.some.inj hfound
      exact later_plays hlater laterUser
    · have hrequest : (others.map Request.thread)[index]? = some thread := hfound
      rw [List.getElem?_map] at hrequest
      obtain ⟨request, hget, rfl⟩ := Option.map_eq_some_iff.mp hrequest
      exact request_plays (hothers request (List.mem_of_getElem? hget)) (by omega)

/-- **One item list for the whole life of an order.** Take a preview under a new
order id, one confirm or cancel of that order by any user, and any requests that
are not about it. In every run of them in which reads of this order's lines return
what was stored, whatever else fails: the map the preview
reserves, the lines that are stored, the maps sent to inventory under the order
id, the map saved there, the broadcasts and the carts that finalizations of the
order bill are all the map of the preview's cart, and a preview that answered
201 has reserved and stored it. -/
theorem one_item_list (hwf : w.ordering.WellFormed) (hnew : UnknownOrder orderID w)
    (hlater : later = .confirm (some orderID) ∨ later = .cancel orderID)
    (hothers : ∀ request ∈ others, request.clientOrder ≠ some orderID)
    (hrun : Run serviceAct (fun pool index event => linesRead orderID pool index event = true)
      (lifePool user cart orderID laterUser later others w) trace pool) :
    OneItemList user orderID (cartMap cart) trace pool := by
  have hlife := hrun.invariant (fun pool trace => OneLife user orderID (cartMap cart) trace pool)
    (oneLife_start hwf hnew hlater hothers)
    fun _ _ _ _ _ _ hlife hthread hact hread => hlife.step hthread hact hread
  refine ⟨hlife.reserved, fun reply hfound hstatus => ?_, hlife.agreed, hlife.sent,
    fun found read cart answer hread hbill => ?_⟩
  · have hplays := hlife.threads 0 _ hfound
    generalize hindex : 0 = first at hplays
    cases hplays with
    | preview hat hdone =>
        cases hat with
        | created _ => exact hdone
        | refused hrefused => exact absurd hstatus hrefused
    | later => cases hindex
    | other hlate => omega
  · obtain ⟨prog, hprog⟩ := hlife.callbacks found _ hread
    have hplays := hlife.threads found _ hprog
    cases hplays with
    | preview hat => cases hat
    | @callback _ phase _ _ _ _ hhistory =>
        cases phase with
        | idle => exact absurd hread (hhistory read)
        | reading => exact absurd hbill (hhistory cart answer)
        | billing saved => exact absurd hbill (hhistory.2 cart answer)
        | billed => exact hhistory cart answer hbill

end

/-! ### One life -/

/-- Three units of milk are previewed, confirmed, picked and billed. -/
theorem one_item_list_sample :
    ∃ trace pool,
      Run serviceAct (fun pool index event => linesRead "order-2" pool index event = true)
        (lifePool 7 [⟨"milk", 3⟩] "order-2" (some 7) (.confirm (some "order-2"))
          (List.replicate 5 (.report ⟨"order-2", .customer, "NO_OP", ∅⟩)) Sample.world) trace pool ∧
      pool.state.ordering.status "order-2" = some .completed ∧
      pool.state.broadcasts = [⟨"order-2", .customer, [⟨"milk", 3, "dairy"⟩]⟩] ∧
      OneItemList 7 "order-2" (cartMap [⟨"milk", 3⟩]) trace pool := by
  obtain ⟨trace, pool, hrun, hcheck⟩ := run_of_play serviceAct (linesRead "order-2")
    (lifePool 7 [⟨"milk", 3⟩] "order-2" (some 7) (.confirm (some "order-2"))
      (List.replicate 5 (.report ⟨"order-2", .customer, "NO_OP", ∅⟩)) Sample.world)
    ([(0, noFault), (0, noFault), (1, noFault), (1, noFault), (1, noFault), (1, noFault)] ++
      Sample.robotRound 2)
    (fun _ pool => pool.state.ordering.status "order-2" = some .completed &&
      pool.state.broadcasts = [⟨"order-2", .customer, [⟨"milk", 3, "dairy"⟩]⟩]) (by decide +kernel)
  rw [Bool.and_eq_true, decide_eq_true_eq, decide_eq_true_eq] at hcheck
  have hwf : Sample.world.ordering.WellFormed :=
    OrderingDB.wellFormed_of_entries (by decide) (by decide) (by decide)
  have hnew : UnknownOrder "order-2" Sample.world := by
    constructor
    · decide
    · intro items h
      cases h
    · intro broadcast h
      cases h
  have hothers : ∀ request ∈ List.replicate 5 (Request.report ⟨"order-2", .customer, "NO_OP", ∅⟩),
      request.clientOrder ≠ some "order-2" := by
    intro request hrequest
    rw [List.eq_of_mem_replicate hrequest]
    exact (Option.some_ne_none _).symm
  exact ⟨trace, pool, hrun, hcheck.1, hcheck.2,
    one_item_list hwf hnew (Or.inl rfl) hothers hrun⟩

end AutoGrocery
