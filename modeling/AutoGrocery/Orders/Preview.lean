import AutoGrocery.Orders.Calls

/-!
A preview request as a protocol. It reserves the cart by a call to inventory,
creates the order if the call was granted, and answers 201 if the order was
created.
-/

namespace AutoGrocery

open Interleaving

/-- Where a preview request stands; a created one has answered 201 and a refused
one has answered otherwise. -/
inductive PreviewPhase where
  | reserving
  | creating
  | created
  | refused
  deriving DecidableEq

/-- The order a preview request creates. -/
def previewedOrder (user : Int) (orderUUID : OrderID) : GroceryOrder :=
  { orderID := orderUUID, clientID := user, status := .pending }

/-- The call of `ReserveItems` was granted. -/
def isGrant : Except GoError ReserveItemsResponse → Bool
  | .error _ => false
  | .ok resp => resp.success

/-- The thread of a preview request at a phase. -/
inductive PreviewAt (user : Int) (orderUUID : OrderID) (items : ItemMap) :
    PreviewPhase → Thread → Prop where
  | created {reply : Reply} : reply.status = some 201 →
      PreviewAt user orderUUID items .created (.ordering (.ret reply))
  | refused {reply : Reply} : reply.status ≠ some 201 →
      PreviewAt user orderUUID items .refused (.ordering (.ret reply))
  | creating {next : Except GoError Unit → OrderingProg} :
      PreviewAt user orderUUID items .created (.ordering (next (.ok ()))) →
      (∀ err, PreviewAt user orderUUID items .refused (.ordering (next (.error err)))) →
      PreviewAt user orderUUID items .creating (.ordering (.call
        (.store (.createGroceryOrder (previewedOrder user orderUUID) (orderLines items))) next))
  | reserving {next : Except GoError ReserveItemsResponse → OrderingProg} :
      (∀ answer, isGrant answer = true →
        PreviewAt user orderUUID items .creating (.ordering (next answer))) →
      (∀ answer, isGrant answer = false →
        PreviewAt user orderUUID items .refused (.ordering (next answer))) →
      PreviewAt user orderUUID items .reserving
        (.ordering (.call (.reserveItems ⟨orderUUID, items⟩) next))

/-- The grant of the reservation, as an event. -/
def Granted (orderUUID : OrderID) (items : ItemMap) (event : ServiceEvent) : Prop :=
  ∃ answer, event = .ordering ⟨.reserveItems ⟨orderUUID, items⟩, answer⟩ ∧ isGrant answer = true

/-- What a step of a preview request does: the phase, the event and the world
after it. -/
inductive PreviewStep (user : Int) (orderUUID : OrderID) (items : ItemMap) (w : World) :
    PreviewPhase → ServiceEvent → PreviewPhase → World → Prop where
  | grant {event : ServiceEvent} (fault : CallFault (CallFault Fault)) :
      Granted orderUUID items event →
      PreviewStep user orderUUID items w .reserving event .creating
        (orderingExec fault (.reserveItems ⟨orderUUID, items⟩) w).2
  | reject {event : ServiceEvent} (fault : CallFault (CallFault Fault)) :
      PreviewStep user orderUUID items w .reserving event .refused
        (orderingExec fault (.reserveItems ⟨orderUUID, items⟩) w).2
  | create {event : ServiceEvent} {db : OrderingDB} :
      w.ordering.createGroceryOrder w.now (previewedOrder user orderUUID) (orderLines items) = .ok db →
      PreviewStep user orderUUID items w .creating event .created { w with ordering := db }
  | fail {event : ServiceEvent} {w' : World} : w'.stock = w.stock →
      (w'.ordering = w.ordering ∨ w.ordering.createGroceryOrder w.now
        (previewedOrder user orderUUID) (orderLines items) = .ok w'.ordering) →
      PreviewStep user orderUUID items w .creating event .refused w'

section

variable {user : Int} {orderUUID : OrderID} {items : ItemMap} {w : World}

/-- A preview request starts by its call, or has been refused already. -/
theorem previewOrder_at (userID : Option Int) (body : Option (List CartItem)) (orderUUID : OrderID) :
    (∃ user cart, userID = some user ∧ body = some cart ∧
      PreviewAt user orderUUID (cartMap cart) .reserving
        (.ordering (previewOrder userID body orderUUID))) ∨
    ∃ reply, previewOrder userID body orderUUID = .ret reply ∧ reply.status ≠ some 201 := by
  cases userID with
  | none => exact Or.inr ⟨_, rfl, by decide⟩
  | some user =>
      cases body with
      | none => exact Or.inr ⟨_, rfl, by decide⟩
      | some cart =>
          refine Or.inl ⟨user, cart, rfl, rfl, .reserving (fun answer hgrant => ?_)
            fun answer hgrant => ?_⟩
          · cases answer with
            | error err => cases hgrant
            | ok resp =>
                have hsuccess : resp.success = true := hgrant
                simp only [hsuccess]
                exact .creating (.created rfl) fun err => .refused (by decide)
          · cases answer with
            | error err => exact .refused (by decide)
            | ok resp =>
                have hsuccess : resp.success = false := hgrant
                simp only [hsuccess]
                exact .refused (by decide)

/-- **The step lemma.** -/
theorem PreviewAt.step {phase : PreviewPhase} {thread : Thread} {fault : ServiceFault}
    {move : Move Thread World ServiceEvent} (hat : PreviewAt user orderUUID items phase thread)
    (hact : serviceAct fault thread w = some move) :
    move.spawned = [] ∧ ∃ phase', PreviewAt user orderUUID items phase' move.thread ∧
      PreviewStep user orderUUID items w phase move.event phase' move.state := by
  cases hat with
  | created _ => cases hact
  | refused _ => cases hact
  | reserving hgranted hrejected =>
      cases hact
      refine ⟨rfl, ?_⟩
      dsimp only
      cases hgrant : isGrant (orderingExec fault.1 (.reserveItems ⟨orderUUID, items⟩) w).1 with
      | true => exact ⟨.creating, hgranted _ hgrant, .grant fault.1 ⟨_, rfl, hgrant⟩⟩
      | false => exact ⟨.refused, hrejected _ hgrant, .reject fault.1⟩
  | creating hcreated hfailed =>
      cases hact
      refine ⟨rfl, ?_⟩
      set op : StoreOp := .createGroceryOrder (previewedOrder user orderUUID) (orderLines items)
      have hrun := run_commit fault.1.mode "" (OrderingDB.createGroceryOrder w.now
        (previewedOrder user orderUUID) (orderLines items)) w.ordering
      obtain ⟨hok, hstate⟩ := hrun
      dsimp only
      cases hanswer : (orderingExec fault.1 (.store op) w).1 with
      | error err => exact ⟨.refused, hfailed err, .fail rfl hstate⟩
      | ok value => exact ⟨.created, hcreated, .create (hok hanswer)⟩

end

end AutoGrocery
