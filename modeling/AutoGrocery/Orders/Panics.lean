import AutoGrocery.Ordering.LastOrder
import AutoGrocery.Orders.Analytics
import AutoGrocery.Sessions.Handlers

/-!
The requests that can end in a panic. The handlers read the second word of a header
and the fields of an order without asking whether there are any. A header may have one
word, and the store reports a missing order by nil without an error, so `net/http`
closes the connection on some requests that a guard would have answered.
-/

namespace AutoGrocery

open Interleaving

/-! ### Ends -/

/-- Every end of the program, on any path, is a response. -/
inductive Answers {Op : Type} {Ans : Op → Type} : Prog Ans Reply → Prop where
  | ret {reply : Reply} : reply.status.isSome = true → Answers (.ret reply)
  | call {op : Op} {next : Ans op → Prog Ans Reply} :
      (∀ ans, Answers (next ans)) → Answers (.call op next)

theorem Answers.run {Op σ : Type} {Ans : Op → Type} {prog : Prog Ans Reply} (hanswers : Answers prog)
    (handler : Handler Ans σ) (state : σ) : (prog.run handler state).value.status.isSome = true := by
  induction hanswers generalizing state with
  | ret hreply => exact hreply
  | call _ ih => exact ih _ _

/-- A dispatch ends with a response. -/
theorem dispatchOrder_answers (orderID : OrderID) (items : ItemMap) : Answers (dispatchOrder orderID items) := by
  refine .call fun answer => ?_
  cases answer with
  | error err => exact .ret rfl
  | ok value =>
      refine .call fun answer => ?_
      cases answer with
      | error err => exact .call fun _ => .ret rfl
      | ok resp => exact .ret rfl

/-- A cancel that has checked the owner ends with a response. -/
theorem cancelItems_answers (orderID : OrderID) : Answers (cancelItems orderID) :=
  .call fun _ => .call fun _ => .call fun _ => .ret rfl

theorem cancelOrder_answers (userID : Option Int) (orderID : OrderID) : Answers (cancelOrder userID orderID) := by
  cases userID with
  | none => exact .ret rfl
  | some user =>
      refine .call fun answer => ?_
      rcases answer with err | _ | order
      · exact .ret rfl
      · exact .ret rfl
      · dsimp only
        split
        · exact .ret rfl
        · exact cancelItems_answers orderID

/-! ### Requests -/

/-- A request to one of the four handlers, with the user id of its context. -/
inductive HandlerRequest where
  | refresh (authHeader : String)
  | confirm (userID : Option Int) (body : Option OrderID)
  | cancel (userID : Option Int) (orderID : OrderID)
  | lastOrder (userID : Option Int)

/-- One operation of ordering, without an error of the ordering database. -/
def sparingExec (fault : CallFault (CallFault Fault)) : Handler OrderingAns World :=
  fun op => orderingExec (op.sparing fault) op

/-- The status code of the response, and `none` for a panic. The faults are those of the
calls to inventory. -/
def HandlerRequest.respond (jwt : JWT) (now : Nat) (script : List (CallFault (CallFault Fault))) (w : World) :
    HandlerRequest → Option Nat
  | .refresh authHeader => (refreshAccess jwt now authHeader).bind Reply.status
  | .confirm userID body =>
      ((confirmOrder userID body).run (scripted sparingExec .works) (w, script)).value.status
  | .cancel userID orderID =>
      ((cancelOrder userID orderID).run (scripted sparingExec .works) (w, script)).value.status
  | .lastOrder userID => ((AutoGrocery.lastOrder userID).run (lastOrderExec .works) w.ordering).value.status

/-- The handlers get what they read: a header that is empty or has two words, an order
to confirm that is there, an order of the user who asks for the last one. -/
def HandlerRequest.Guarded (db : OrderingDB) : HandlerRequest → Prop
  | .refresh authHeader => authHeader = "" ∨ ' ' ∈ authHeader.toList
  | .confirm userID body => ∀ user orderID, userID = some user → body = some orderID → orderID ≠ "" →
      orderID ∈ db.groceryOrders
  | .cancel _ _ => True
  | .lastOrder userID => ∀ user, userID = some user →
      ∃ orderID row, db.groceryOrders.lookup orderID = some row ∧ row.clientID = user

/-- A header has a second word when it has a space. -/
theorem headerWords_second (authHeader : String) :
    (headerWords authHeader)[1]?.isSome = true ↔ ' ' ∈ authHeader.toList := by
  rw [headerWords, ← Option.ne_none_iff_isSome, ne_eq, List.getElem?_eq_none_iff, not_le, List.length_map]
  constructor
  · intro hlong
    by_contra hnone
    rw [List.splitOn_eq_singleton hnone] at hlong
    cases hlong with
    | step h => cases h
  · intro hspace
    obtain ⟨first, rest, hsplit⟩ := List.append_of_mem hspace
    have hfirst := List.length_pos_of_ne_nil (List.splitOn_ne_nil ' ' first)
    have hrest := List.length_pos_of_ne_nil (List.splitOn_ne_nil ' ' rest)
    rw [hsplit, List.splitOn_append_cons_self, List.length_append]
    omega

/-- A refresh that reads a second word ends with a response. -/
theorem refreshAccess_status (jwt : JWT) (now : Nat) (authHeader : String) :
    ((refreshAccess jwt now authHeader).bind Reply.status).isSome = true ↔
      authHeader = "" ∨ ' ' ∈ authHeader.toList := by
  unfold refreshAccess
  by_cases hempty : authHeader = ""
  · rw [if_pos hempty]
    exact iff_of_true rfl (Or.inl hempty)
  · rw [if_neg hempty, or_iff_right hempty, ← headerWords_second]
    cases (headerWords authHeader)[1]? with
    | none => exact iff_of_false Bool.false_ne_true Bool.false_ne_true
    | some tokenString =>
        refine iff_of_true ?_ rfl
        dsimp only
        cases jwt.validateToken now tokenString with
        | none => rfl
        | some claims =>
            dsimp only
            split <;> rfl

section

variable (script : List (CallFault (CallFault Fault))) (w : World)

/-- A confirm ends with a response when it finds its order. -/
theorem confirmOrder_status (user : Int) {orderID : OrderID} (hnamed : orderID ≠ "") :
    ((confirmOrder (some user) (some orderID)).run (scripted sparingExec .works)
      (w, script)).value.status.isSome = true ↔ orderID ∈ w.ordering.groceryOrders := by
  have hread : scripted sparingExec .works (.store (.getOrderByID orderID)) (w, script) =
      (.ok (w.ordering.getOrderByID orderID), w, script.tail) := rfl
  rw [confirmOrder, if_neg hnamed, Prog.run_call, hread, ← AList.lookup_isSome, OrderingDB.getOrderByID]
  cases hrow : w.ordering.groceryOrders.lookup orderID with
  | none => exact iff_of_false Bool.false_ne_true Bool.false_ne_true
  | some row =>
      refine iff_of_true (Answers.run ?_ _ _) rfl
      dsimp only [Option.map_some]
      split
      · exact .ret rfl
      · split
        · exact .ret rfl
        · refine .call fun answer => ?_
          cases answer with
          | error err => exact .ret rfl
          | ok dbItems => exact dispatchOrder_answers orderID _

/-- A poll ends with a response when the user has an order. -/
theorem lastOrder_status (user : Int) (db : OrderingDB) :
    ((lastOrder (some user)).run (lastOrderExec .works) db).value.status.isSome = true ↔
      ∃ orderID row, db.groceryOrders.lookup orderID = some row ∧ row.clientID = user := by
  rw [← OrderingDB.getLastOrderByClientID_isSome, lastOrder, Prog.run_call]
  simp only [lastOrderExec, Fault.run_works]
  cases db.getLastOrderByClientID user with
  | none => exact iff_of_false Bool.false_ne_true Bool.false_ne_true
  | some order => exact iff_of_true rfl rfl

end

/-- **The handlers answer exactly the requests that give them what they read.** -/
theorem respond_iff_guarded (jwt : JWT) (now : Nat) (script : List (CallFault (CallFault Fault)))
    (w : World) (request : HandlerRequest) :
    (request.respond jwt now script w).isSome = true ↔ request.Guarded w.ordering := by
  cases request with
  | refresh authHeader => exact refreshAccess_status jwt now authHeader
  | confirm userID body =>
      simp only [HandlerRequest.respond, HandlerRequest.Guarded]
      cases userID with
      | none => exact iff_of_true rfl fun user orderID huser => nomatch huser
      | some user =>
          cases body with
          | none => exact iff_of_true rfl fun user orderID _ hbody => nomatch hbody
          | some orderID =>
              by_cases hnamed : orderID = ""
              · subst hnamed
                refine iff_of_true rfl fun other found _ hfound hne => ?_
                exact absurd (Option.some.inj hfound).symm hne
              · rw [confirmOrder_status script w user hnamed]
                constructor
                · intro hfound _ other _ hbody _
                  rwa [← Option.some.inj hbody]
                · exact fun h => h user orderID rfl rfl hnamed
  | cancel userID orderID => exact iff_of_true ((cancelOrder_answers userID orderID).run _ _) trivial
  | lastOrder userID =>
      cases userID with
      | none => exact iff_of_true rfl fun user huser => nomatch huser
      | some user =>
          refine (lastOrder_status user w.ordering).trans ⟨fun h other huser => ?_, fun h => h user rfl⟩
          rwa [← Option.some.inj huser]

/-- A header of one word, an order id that is not there, and a user without orders. -/
theorem respond_panics :
    let jwt : JWT := ⟨fun _ => "signed", fun _ => none, fun _ _ hparse => nomatch hparse⟩
    (HandlerRequest.refresh "Bearer").respond jwt 0 [] Sample.world = none ∧
      (HandlerRequest.confirm (some 7) (some "order-9")).respond jwt 0 [] Sample.world = none ∧
      (HandlerRequest.lastOrder (some 8)).respond jwt 0 [] Sample.world = none :=
  ⟨rfl, rfl, rfl⟩

end AutoGrocery
