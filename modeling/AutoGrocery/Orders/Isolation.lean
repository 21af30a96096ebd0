import AutoGrocery.Orders.Requests

/-!
Clients and each other's orders. Confirm and cancel check the owner of an order
in one statement and act on the order by its id in later ones, while requests
of other clients run. That is sound because an id never changes its owner: the
row of an id is only ever created by the one preview that drew the id. So an
order id, once found to be the user's, is the user's for good, and a statement
touches no order but the one it names.
-/

namespace AutoGrocery

open Interleaving

/-- The order id a request draws. -/
def ClientRequest.draws : ClientRequest → Option OrderID
  | .preview _ orderUUID => some orderUUID
  | _ => none

section

variable (validateToken : String → Option Claims)

/-- Requests to the protected client routes, each with its `Authorization` header. -/
def clientPool (calls : List (String × ClientRequest)) (w : World) : Pool Thread World :=
  ⟨calls.map fun call => .ordering (clientRoute validateToken call.1 call.2), w⟩

/-- No id is drawn twice, and none is the id of an order already. -/
structure FreshIDs (calls : List (String × ClientRequest)) (db : OrderingDB) : Prop where
  nodup : (calls.filterMap fun call => call.2.draws).Nodup
  unused : ∀ call ∈ calls, ∀ orderID, call.2.draws = some orderID →
    db.groceryOrders.lookup orderID = none

/-- The user an order id belongs to: the owner of the order at the start, or the
user whose preview draws the id. -/
def Owns (calls : List (String × ClientRequest)) (w : World) (user : Int) (orderID : OrderID) : Prop :=
  (∃ row, w.ordering.groceryOrders.lookup orderID = some row ∧ row.clientID = user) ∨
    ∃ call ∈ calls, call.2.draws = some orderID ∧ authenticate validateToken call.1 = .ok user

end

/-- The lines of the user's order of this id, in a state the run went through,
make these items. The well-formedness of that state says that the lines under
the numeric id of the order are no other order's. -/
def ReadFromOwn (start pool : Pool Thread World) (user : Int) (orderID : OrderID)
    (items : ItemMap) : Prop :=
  ∃ earlier row, Passes serviceAct start earlier pool ∧ earlier.state.ordering.WellFormed ∧
    earlier.state.ordering.groceryOrders.lookup orderID = some row ∧ row.clientID = user ∧
    items = protoItems (orderItems (earlier.state.ordering.itemRows row.id))

/-- A step on behalf of a user leaves the orders of others and their lines
alone, and sends inventory no id and no lines of such an order. -/
structure OwnStep (start pool : Pool Thread World) (user : Int) (event : ServiceEvent)
    (w' : World) : Prop where
  rows : ∀ orderID row, row.clientID ≠ user →
    (pool.state.ordering.groceryOrders.lookup orderID = some row ↔
      w'.ordering.groceryOrders.lookup orderID = some row)
  lines : ∀ orderID row, pool.state.ordering.groceryOrders.lookup orderID = some row →
    row.clientID ≠ user → w'.ordering.itemRows row.id = pool.state.ordering.itemRows row.id
  sends : ∀ orderID items, Sends event orderID items →
    (∀ row, pool.state.ordering.groceryOrders.lookup orderID = some row → row.clientID = user) ∧
      (items = ∅ ∨ ReadFromOwn start pool user orderID items)

/-! ### The invariant -/

/-- Past the check of the owner, or on the way to create the order. -/
def ClientPhase.trusted : ClientPhase → Bool
  | .checking => false
  | .ended => false
  | _ => true

section

variable {validateToken : String → Option Claims} {calls : List (String × ClientRequest)} {w : World}

/-- An id has one owner. -/
theorem Owns.unique (hfresh : FreshIDs calls w.ordering) {user user' : Int} {orderID : OrderID}
    (howns : Owns validateToken calls w user orderID)
    (howns' : Owns validateToken calls w user' orderID) : user = user' := by
  rcases howns with ⟨row, hrow, rfl⟩ | ⟨call, hcall, hdraws, hauth⟩ <;>
    rcases howns' with ⟨row', hrow', rfl⟩ | ⟨call', hcall', hdraws', hauth'⟩
  · rw [hrow] at hrow'
    rw [Option.some.inj hrow']
  · rw [hfresh.unused call' hcall' orderID hdraws'] at hrow
    cases hrow
  · rw [hfresh.unused call hcall orderID hdraws] at hrow'
    cases hrow'
  · by_cases hsame : call = call'
    · rw [hsame, hauth'] at hauth
      exact (Except.ok.inj hauth).symm
    · have hdistinct := List.pairwise_filterMap.mp hfresh.nodup
      have hsymm : Std.Symm fun a b : String × ClientRequest =>
          ∀ x, a.2.draws = some x → ∀ y, b.2.draws = some y → x ≠ y :=
        ⟨fun _ _ h x hx y hy => (h y hy x hx).symm⟩
      exact absurd rfl (hdistinct.forall hcall hcall' hsame orderID hdraws orderID hdraws')

/-- What a request knows about the order it names. -/
structure Backed (validateToken : String → Option Claims) (calls : List (String × ClientRequest))
    (start pool : Pool Thread World) (user : Int) (orderID : OrderID) (phase : ClientPhase) : Prop where
  owns : phase.trusted = true → Owns validateToken calls start.state user orderID
  held : ∀ items, phase = .holding (.ok items) →
    ReadFromOwn start pool user orderID (protoItems items)

/-- The thread of a request: refused, or authenticated and acting on an order. -/
inductive ActsFor (validateToken : String → Option Claims) (calls : List (String × ClientRequest))
    (start pool : Pool Thread World) (call : String × ClientRequest) : Thread → Prop where
  | answered (reply : Reply) : ActsFor validateToken calls start pool call (.ordering (.ret reply))
  | acts {user : Int} {orderID : OrderID} {phase : ClientPhase} {prog : OrderingProg} :
      authenticate validateToken call.1 = .ok user → prog.Follows (ClientRule user orderID) phase →
      Backed validateToken calls start pool user orderID phase →
      ActsFor validateToken calls start pool call (.ordering prog)

/-- Every order belongs to the owner of its id, and every thread acts for its
request. -/
structure Isolated (validateToken : String → Option Claims) (calls : List (String × ClientRequest))
    (start pool : Pool Thread World) : Prop where
  wellFormed : pool.state.ordering.WellFormed
  owners : ∀ orderID row, pool.state.ordering.groceryOrders.lookup orderID = some row →
    Owns validateToken calls start.state row.clientID orderID
  threads : ∀ (index : Nat) (thread : Thread), pool.threads[index]? = some thread →
    ∃ call, calls[index]? = some call ∧ ActsFor validateToken calls start pool call thread

/-! ### One step -/

section

variable {start pool : Pool Thread World} {user : Int} {orderID : OrderID}

theorem ReadFromOwn.step {items : ItemMap} (hread : ReadFromOwn start pool user orderID items)
    {index : Nat} {thread : Thread} {fault : ServiceFault} {move : Move Thread World ServiceEvent}
    (hthread : pool.threads[index]? = some thread)
    (hact : serviceAct fault thread pool.state = some move) :
    ReadFromOwn start (pool.after index move) user orderID items := by
  obtain ⟨earlier, row, hpasses, hrest⟩ := hread
  exact ⟨earlier, row, hpasses.step hthread hact, hrest⟩

theorem ActsFor.step {call : String × ClientRequest} {other thread : Thread}
    (hacts : ActsFor validateToken calls start pool call other) {index : Nat} {fault : ServiceFault}
    {move : Move Thread World ServiceEvent} (hthread : pool.threads[index]? = some thread)
    (hact : serviceAct fault thread pool.state = some move) :
    ActsFor validateToken calls start (pool.after index move) call other := by
  cases hacts with
  | answered reply => exact .answered reply
  | acts hauth hfollows hbacked =>
      exact .acts hauth hfollows
        ⟨hbacked.owns, fun items hphase => (hbacked.held items hphase).step hthread hact⟩

/-- Before the check a request only reads. -/
private theorem untrusted_reads {phase phase' : ClientPhase} {op : OrderingOp}
    {answer : OrderingAns op} (hrule : ClientRule user orderID phase op answer phase')
    (huntrusted : phase.trusted = false) : op = .store (.getOrderByID orderID) := by
  cases hrule <;> first | rfl | cases huntrusted

/-- A request creates the order of its id, for its user. -/
private theorem creates_own {phase phase' : ClientPhase} {order : GroceryOrder}
    {items : List GroceryOrderItem} {answer : Except GoError Unit}
    (hrule : ClientRule user orderID phase (.store (.createGroceryOrder order items)) answer phase') :
    order.orderID = orderID ∧ order.clientID = user ∧ phase.trusted = true := by
  cases hrule
  exact ⟨rfl, rfl, rfl⟩

/-- A request sends inventory the lines it holds. -/
private theorem sends_held {phase phase' : ClientPhase} {op : OrderingOp} {answer : OrderingAns op}
    (hrule : ClientRule user orderID phase op answer phase') {sent : OrderID} {items : ItemMap}
    (hsends : Sends (.ordering ⟨op, answer⟩) sent items) :
    sent = orderID ∧ ∃ held, phase = .holding held ∧ items = protoItems (itemsRead held) := by
  cases hsends <;> cases hrule
  · exact ⟨rfl, _, rfl, rfl⟩
  · exact ⟨rfl, _, rfl, rfl⟩

/-- What a request knows after its step. -/
private theorem Backed.step (hfresh : FreshIDs calls start.state.ordering)
    (hinv : Isolated validateToken calls start pool)
    {trace : List (Nat × ServiceEvent)} (hrun : Run serviceAct anyStep start trace pool)
    {phase phase' : ClientPhase} (hbacked : Backed validateToken calls start pool user orderID phase)
    {op : OrderingOp} {fault : ServiceFault}
    (hrule : ClientRule user orderID phase op (orderingExec fault.1 op pool.state).1 phase')
    {index : Nat} {thread : Thread} {move : Move Thread World ServiceEvent}
    (hthread : pool.threads[index]? = some thread)
    (hact : serviceAct fault thread pool.state = some move) :
    Backed validateToken calls start (pool.after index move) user orderID phase' := by
  have hsame {held : Except GoError (List GroceryOrderItem)} (hphase : phase = .holding held) :
      Backed validateToken calls start (pool.after index move) user orderID (.holding held) :=
    ⟨hphase ▸ hbacked.owns, fun items h => (hbacked.held items (hphase.trans h)).step hthread hact⟩
  have hended : Backed validateToken calls start (pool.after index move) user orderID .ended := by
    constructor
    · intro h
      cases h
    · intro items h
      cases h
  generalize hanswer : (orderingExec fault.1 op pool.state).1 = answer at hrule
  cases hrule with
  | reserve items answer =>
      constructor
      · exact fun _ => hbacked.owns rfl
      · intro items h
        cases h
  | create items answer => exact hended
  | refuse answer => exact hended
  | own order howner =>
      constructor
      case held =>
        intro items h
        cases h
      intro _
      have hfound := (getOrderByID_exec fault.1 pool.state orderID).2 _ hanswer
      obtain ⟨row, hrow, rfl⟩ := Option.map_eq_some_iff.mp hfound.symm
      exact howner ▸ hinv.owners orderID row hrow
  | load answer =>
      have howns := hbacked.owns rfl
      refine ⟨fun _ => howns, fun items h => ?_⟩
      cases h
      have hread := (getOrderItems_exec fault.1 pool.state orderID).2 items hanswer
      unfold OrderingDB.getOrderItems at hread
      split at hread
      · cases hread
      · rename_i row hrow
        cases hread
        have howner := (hinv.owners orderID row hrow).unique hfresh howns
        exact ⟨pool, row, (Passes.of_run hrun).step hthread hact, hinv.wellFormed, hrow, howner, rfl⟩
  | write held status answer => exact hsame rfl
  | dispatch dbItems answer => exact hsame rfl
  | release held answer => exact hsame rfl
  | delete held answer => exact hsame rfl

/-- **The step lemma.** -/
theorem Isolated.step (hfresh : FreshIDs calls start.state.ordering)
    (hinv : Isolated validateToken calls start pool)
    {trace : List (Nat × ServiceEvent)} (hrun : Run serviceAct anyStep start trace pool)
    {index : Nat} {thread : Thread} {fault : ServiceFault} {move : Move Thread World ServiceEvent}
    (hthread : pool.threads[index]? = some thread)
    (hact : serviceAct fault thread pool.state = some move) :
    Isolated validateToken calls start (pool.after index move) ∧
      ∃ call user, calls[index]? = some call ∧ authenticate validateToken call.1 = .ok user ∧
        OwnStep start pool user move.event move.state := by
  obtain ⟨call, hcall, hacts⟩ := hinv.threads index thread hthread
  cases hacts with
  | answered reply => cases hact
  | @acts user orderID phase prog hauth hfollows hbacked =>
      have hmove := hact
      rcases serviceAct_eq_some hact with ⟨op, next, hprog, rfl⟩ | ⟨op, next, hprog, rfl⟩
      case inr => cases hprog
      cases hprog
      obtain ⟨phase', hrule, hnext⟩ := hfollows (orderingExec fault.1 op pool.state).1
      have hbacked' := hbacked.step hfresh hinv hrun hrule hthread hmove
      have howner (row : OrderRow) (howns : Owns validateToken calls start.state row.clientID orderID)
          (htrusted : phase.trusted = true) : row.clientID = user :=
        howns.unique hfresh (hbacked.owns htrusted)
      have hreads (huntrusted : phase.trusted = false) :
          (orderingExec fault.1 op pool.state).2.ordering = pool.state.ordering := by
        rw [untrusted_reads hrule huntrusted]
        exact (getOrderByID_exec fault.1 pool.state orderID).1
      have howners (other : OrderID) (row' : OrderRow)
          (hrow' : (orderingExec fault.1 op pool.state).2.ordering.groceryOrders.lookup other =
            some row') : Owns validateToken calls start.state row'.clientID other := by
        rcases orderingExec_owner fault.1 op pool.state hrow' with ⟨row, hrow, hclient⟩ |
          ⟨order, items, rfl, rfl, hclient⟩
        · exact hclient ▸ hinv.owners other row hrow
        · obtain ⟨horder, huser, htrusted⟩ := creates_own hrule
          rw [← hclient, huser, horder]
          exact hbacked.owns htrusted
      have hframe {other : OrderID} (hother : other ≠ orderID) :
          (orderingExec fault.1 op pool.state).2.ordering.groceryOrders.lookup other =
              pool.state.ordering.groceryOrders.lookup other ∧
            ∀ row, pool.state.ordering.groceryOrders.lookup other = some row →
              (orderingExec fault.1 op pool.state).2.ordering.itemRows row.id =
                pool.state.ordering.itemRows row.id := by
        apply orderingExec_frame fault.1 op pool.state hinv.wellFormed
        rw [hrule.names]
        exact fun h => hother (Option.some.inj h).symm
      refine ⟨⟨orderingExec_wellFormed fault.1 op pool.state hinv.wellFormed, howners,
        fun found other hfound => ?_⟩, call, user, hcall, hauth, fun other row hother => ?_,
        fun other row hrow hother => ?_, fun sent items hsends => ?_⟩
      · rcases Pool.threads_after hfound with ⟨rfl, rfl⟩ | ⟨_, hold⟩ | ⟨_, hspawned⟩
        · exact ⟨call, hcall, .acts hauth hnext hbacked'⟩
        · obtain ⟨call', hcall', hacts'⟩ := hinv.threads found other hold
          exact ⟨call', hcall', hacts'.step hthread hmove⟩
        · cases hspawned
      · by_cases hsame : other = orderID
        · subst hsame
          cases htrusted : phase.trusted with
          | false => exact Eq.to_iff (by rw [hreads htrusted])
          | true =>
              constructor
              · intro hrow
                exact absurd (howner row (hinv.owners other row hrow) htrusted) hother
              · intro hrow'
                exact absurd (howner row (howners other row hrow') htrusted) hother
        · exact Eq.to_iff (by rw [(hframe hsame).1])
      · by_cases hsame : other = orderID
        · subst hsame
          cases htrusted : phase.trusted with
          | false => exact congrArg (fun db => db.itemRows row.id) (hreads htrusted)
          | true => exact absurd (howner row (hinv.owners other row hrow) htrusted) hother
        · exact (hframe hsame).2 row hrow
      · obtain ⟨rfl, held, rfl, rfl⟩ := sends_held hrule hsends
        refine ⟨fun row hrow => howner row (hinv.owners sent row hrow) rfl, ?_⟩
        cases held with
        | error err => exact Or.inl rfl
        | ok dbItems => exact Or.inr (hbacked.held dbItems rfl)

end

/-! ### Whole runs -/

private theorem isolated_start (hwf : w.ordering.WellFormed) :
    Isolated validateToken calls (clientPool validateToken calls w)
      (clientPool validateToken calls w) := by
  refine ⟨hwf, fun orderID row hrow => Or.inl ⟨row, hrow, rfl⟩, fun index thread hthread => ?_⟩
  rw [clientPool, List.getElem?_map] at hthread
  obtain ⟨call, hcall, rfl⟩ := Option.map_eq_some_iff.mp hthread
  refine ⟨call, hcall, ?_⟩
  cases hauth : authenticate validateToken call.1 with
  | error message =>
      have hroute : clientRoute validateToken call.1 call.2 = .ret (httpError message 401) := by
        rw [clientRoute, authMiddleware, hauth]
      rw [hroute]
      exact .answered _
  | ok user =>
      have hroute : clientRoute validateToken call.1 call.2 = call.2.handle (some user) := by
        rw [clientRoute, authMiddleware, hauth]
      rw [hroute]
      rcases call.2.handle_follows user with ⟨reply, hreply⟩ | ⟨orderID, horder, hfollows⟩
      · rw [hreply]
        exact .answered reply
      · have hmem := List.mem_of_getElem? hcall
        obtain ⟨authHeader, request⟩ := call
        refine .acts hauth hfollows ⟨fun htrusted => Or.inr ⟨_, hmem, ?_, hauth⟩, fun items hphase => ?_⟩
        · cases request with
          | preview body orderUUID => exact horder
          | confirm body => cases htrusted
          | cancel orderID => cases htrusted
        · cases request <;> cases hphase

/-- **Clients cannot touch each other's orders.** In every run of preview,
confirm and cancel requests with any headers and bodies, whatever faults they
meet, each step is one on behalf of an authenticated user. It neither changes,
removes nor creates an order of anyone else, nor changes the lines of one. The
items it sends to inventory go under an id that is no one else's, and are empty
or the lines of an order that was the user's when they were read. -/
theorem clients_isolated (hwf : w.ordering.WellFormed) (hfresh : FreshIDs calls w.ordering)
    {trace : List (Nat × ServiceEvent)} {pool : Pool Thread World}
    (hrun : Run serviceAct anyStep (clientPool validateToken calls w) trace pool)
    {index : Nat} {thread : Thread} {fault : ServiceFault} {move : Move Thread World ServiceEvent}
    (hthread : pool.threads[index]? = some thread)
    (hact : serviceAct fault thread pool.state = some move) :
    ∃ call user, calls[index]? = some call ∧ authenticate validateToken call.1 = .ok user ∧
      OwnStep (clientPool validateToken calls w) pool user move.event move.state := by
  have hinv := hrun.invariant
    (fun pool trace => Run serviceAct anyStep (clientPool validateToken calls w) trace pool ∧
      Isolated validateToken calls (clientPool validateToken calls w) pool)
    ⟨.start, isolated_start hwf⟩ fun _ _ index _ fault _ hinv hthread hact _ =>
      ⟨.move index fault hinv.1 hthread hact trivial, (hinv.2.step hfresh hinv.1 hthread hact).1⟩
  exact (hinv.2.step hfresh hrun hthread hact).2

end

/-! ### Two clients and one order -/

private def tokens (token : String) : Option Claims :=
  if token = "seven" then some ⟨7, "CLIENT", "ACCESS", 900, "auto-grocery"⟩
  else if token = "eight" then some ⟨8, "CLIENT", "ACCESS", 900, "auto-grocery"⟩
  else none

private def rivals : List (String × ClientRequest) :=
  [("Bearer seven", .cancel "order-1"), ("Bearer eight", .cancel "order-1")]

private theorem rivals_wellFormed : Sample.world.ordering.WellFormed :=
  OrderingDB.wellFormed_of_entries (by decide) (by decide) (by decide)

/-- Client 8 is refused, and client 7 releases the lines of its order. -/
theorem clients_isolated_sample :
    ∃ trace pool thread move,
      Run serviceAct anyStep (clientPool tokens rivals Sample.world) trace pool ∧ trace.length = 3 ∧
      pool.threads[0]? = some thread ∧ serviceAct noFault thread pool.state = some move ∧
      OwnStep (clientPool tokens rivals Sample.world) pool 7 move.event move.state := by
  have hfresh : FreshIDs rivals Sample.world.ordering := by
    refine ⟨by decide, fun call hcall orderID hdraws => ?_⟩
    have hnone : ∀ call ∈ rivals, call.2.draws = none := by decide
    rw [hnone call hcall] at hdraws
    cases hdraws
  obtain ⟨trace, pool, hplayed, hcheck⟩ := run_of_play serviceAct (fun _ _ _ => true)
    (clientPool tokens rivals Sample.world) [(1, noFault), (0, noFault), (0, noFault)]
    (fun trace pool => trace.length = 3 &&
      (pool.threads[0]?.bind fun thread => serviceAct noFault thread pool.state).isSome)
    (by decide +kernel)
  rw [Bool.and_eq_true, decide_eq_true_eq, Option.isSome_iff_exists] at hcheck
  obtain ⟨hlength, move, hmove⟩ := hcheck
  obtain ⟨thread, hthread, hact⟩ := Option.bind_eq_some_iff.mp hmove
  have hrun := hplayed.mono fun _ _ _ _ => trivial
  obtain ⟨call, user, hcall, hauth, hown⟩ :=
    clients_isolated rivals_wellFormed hfresh hrun hthread hact
  cases hcall
  cases hauth
  exact ⟨trace, pool, thread, move, hrun, hlength, hthread, hact, hown⟩

end AutoGrocery
