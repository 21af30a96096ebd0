import AutoGrocery.Frontend.Promises
import AutoGrocery.Frontend.Retries

/-!
The handlers of the protected routes for the account of a device. An order is drawn for
the account that previews it, so a request about an order of the account is never told
that it does not own the order, whatever other sessions, clients, trucks and robots do
in between.
-/

namespace AutoGrocery

open Interleaving Relational

/-- The order a response to a preview names. -/
def PageReply.created : PageReply → Option OrderID
  | .reply (.http 201 data) => data.orderID
  | _ => none

/-- The order a request confirms or cancels. -/
def PageRequest.orderID : PageRequest → Option OrderID
  | .confirm body => body
  | .cancel orderID => some orderID
  | _ => none

/-- The operation creates no order and saves no device. -/
def BrowserOp.quiet : BrowserOp → Bool
  | .page (.ordering (.store (.createGroceryOrder _ _))) => false
  | .saveCache _ => false
  | _ => true

/-- What a session holds is of the account of the device it shows. Only a session with an
access token shows an order, and one that was not restored yet holds nothing. -/
structure ClientSession.Genuine (jwt : JWT) (site : Site) (session : ClientSession) : Prop where
  access : site.Admits jwt session.deviceID session.token
  refresh : site.Refreshes jwt session.deviceID session.refreshToken
  order : ∀ orderID, session.orderID = some orderID → site.Holds session.deviceID orderID
  shown : session.orderID ≠ none → truthy session.token = true
  fresh : session.authRestored = false → session.token = none ∧ session.polling = false

/-- A response of a handler for a user: no refusal, and a new order was drawn for the user. -/
def Site.Answered (userID : Int) (site : Site) (reply : PageReply) : Prop :=
  reply.status ≠ some 403 ∧ ∀ orderID, reply.created = some orderID → (orderID, userID) ∈ site.drawn

/-- The same for the account of a device. -/
def Site.AnsweredFor (deviceID : Option String) (site : Site) (reply : PageReply) : Prop :=
  reply.status ≠ some 403 ∧ ∀ orderID, reply.created = some orderID → site.Holds deviceID orderID

/-- A session went on with the same form. -/
structure ClientSession.Goes (session session' : ClientSession) : Prop where
  device : session'.deviceID = session.deviceID
  order : session'.orderID = session.orderID
  restored : session'.authRestored = session.authRestored
  token : truthy session.token = true → truthy session'.token = true

section

variable {jwt : JWT} {site site' : Site} {session session' : ClientSession}

theorem ClientSession.Genuine.later (hgenuine : session.Genuine jwt site) (hlater : site.Later site') :
    session.Genuine jwt site' :=
  ⟨hgenuine.access.later hlater, hgenuine.refresh.later hlater,
    fun orderID horder => (hgenuine.order orderID horder).later hlater, hgenuine.shown, hgenuine.fresh⟩

theorem Site.AnsweredFor.later {deviceID : Option String} {reply : PageReply}
    (hanswered : site.AnsweredFor deviceID reply) (hlater : site.Later site') :
    site'.AnsweredFor deviceID reply :=
  ⟨hanswered.1, fun orderID hcreated => (hanswered.2 orderID hcreated).later hlater⟩

/-! ### The handlers -/

/-- An operation that creates no order and saves no device is always permitted. -/
theorem permits_quiet {op : BrowserOp} (hquiet : op.quiet = true) : site.Permits jwt op := by
  refine ⟨fun order items hop => ?_, fun payload hop => ?_⟩
  · rw [hop] at hquiet
    cases hquiet
  · rw [hop] at hquiet
    cases hquiet

/-- A step of a handler that creates no order. -/
theorem keeps_quiet {α : Type} {promised : Site → α → Prop} {op : BrowserOp}
    {next : BrowserAns op → BrowserProg α} (hquiet : op.quiet = true)
    (hnext : ∀ site' ans site'', site.Later site' → site'.Owned jwt →
      (∃ env, browserExec env op site' = some (ans, site'')) → site'.Later site'' →
      (next ans).Keeps (siteRules jwt) promised site'') :
    (Prog.call op next).Keeps (siteRules jwt) promised site :=
  .perform (fun _ _ _ => permits_quiet hquiet) fun site' ans site'' hlater howned hdoes hlater' _ =>
    hnext site' ans site'' hlater howned hdoes hlater'

/-- An operation on the orders, on the way through both sums. -/
private abbrev orderingOp (op : OrderingOp) : BrowserOp := .page (.ordering op)

/-- A handler of preview, confirm or cancel in a browser. -/
private abbrev inBrowser (prog : OrderingProg) : BrowserProg PageReply :=
  (onOrdering prog).lift .page fun _ ans => ans

private theorem created_none {reply : PageReply} (hstatus : reply.status ≠ some 201) : reply.created = none := by
  unfold PageReply.created
  split
  · exact absurd rfl hstatus
  · rfl

/-- A response with any other status. -/
private theorem answered_other {userID : Int} {reply : PageReply} (hrefused : reply.status ≠ some 403)
    (hcreated : reply.status ≠ some 201) : site.Answered userID reply :=
  ⟨hrefused, fun orderID hnew => by rw [created_none hcreated] at hnew; cases hnew⟩

/-- A dispatch refuses nobody. -/
private theorem dispatchOrder_keeps {userID : Int} (orderID : OrderID) (items : ItemMap) :
    (inBrowser (dispatchOrder orderID items)).Keeps (siteRules jwt) (Site.Answered userID) site := by
  refine keeps_quiet rfl fun _ answer _ _ _ _ _ => ?_
  cases answer with
  | error err => exact .ret (answered_other (by decide) (by decide))
  | ok value =>
      refine keeps_quiet rfl fun _ answer _ _ _ _ _ => ?_
      cases answer with
      | error err =>
          refine keeps_quiet rfl fun _ answer _ _ _ _ _ => ?_
          exact .ret (answered_other (by simp [PageReply.status, httpError, Reply.status])
            (by simp [PageReply.status, httpError, Reply.status]))
      | ok resp =>
          exact .ret (answered_other (by simp [PageReply.status, Reply.status])
            (by simp [PageReply.status, Reply.status]))

/-- A read of an order that was drawn for a user finds the user. -/
private theorem read_owner {userID : Int} {orderID : OrderID} {order : GroceryOrder}
    (howned : site.Owned jwt) (hdrawn : (orderID, userID) ∈ site.drawn)
    (hread : ∃ env, browserExec env (orderingOp (.store (.getOrderByID orderID))) site =
      some (.ok (some order), site')) : order.clientID = userID := by
  obtain ⟨env, hexec⟩ := hread
  have hanswer : (orderingExec env.call (.store (.getOrderByID orderID)) site.world).1 = .ok (some order) :=
    congrArg Prod.fst (Option.some.inj hexec)
  have hfound := (getOrderByID_exec env.call site.world orderID).2 _ hanswer
  obtain ⟨row, hrow, rfl⟩ := Option.map_eq_some_iff.mp hfound.symm
  exact howned.owners hdrawn hrow

private theorem confirmOrder_keeps {userID : Int} (body : Option OrderID)
    (hdrawn : ∀ orderID, body = some orderID → (orderID, userID) ∈ site.drawn) :
    (inBrowser (confirmOrder (some userID) body)).Keeps (siteRules jwt) (Site.Answered userID) site := by
  cases body with
  | none => exact .ret (answered_other (by decide) (by decide))
  | some orderID =>
      have horder := hdrawn orderID rfl
      unfold confirmOrder
      dsimp only
      split
      · exact .ret (answered_other (by decide) (by decide))
      refine keeps_quiet rfl fun site' answer site'' hlater howned hread _ => ?_
      rcases answer with err | _ | order
      · exact .ret (answered_other (by decide) (by decide))
      · exact .ret (answered_other (by decide) (by decide))
      have howner := read_owner howned (hlater.drawn _ horder) hread
      dsimp only
      rw [if_neg (not_not.mpr howner)]
      split
      · exact .ret (answered_other (by decide) (by decide))
      refine keeps_quiet rfl fun _ answer _ _ _ _ _ => ?_
      cases answer with
      | error err => exact .ret (answered_other (by decide) (by decide))
      | ok dbItems => exact dispatchOrder_keeps orderID (protoItems dbItems)

private theorem cancelOrder_keeps {userID : Int} {orderID : OrderID} (hdrawn : (orderID, userID) ∈ site.drawn) :
    (inBrowser (cancelOrder (some userID) orderID)).Keeps (siteRules jwt) (Site.Answered userID) site := by
  refine keeps_quiet rfl fun site' answer site'' hlater howned hread _ => ?_
  rcases answer with err | _ | order
  · exact .ret (answered_other (by decide) (by decide))
  · exact .ret (answered_other (by decide) (by decide))
  have howner := read_owner howned (hlater.drawn _ hdrawn) hread
  dsimp only
  rw [if_neg (not_not.mpr howner)]
  refine keeps_quiet rfl fun _ _ _ _ _ _ _ => ?_
  refine keeps_quiet rfl fun _ _ _ _ _ _ _ => ?_
  refine keeps_quiet rfl fun _ _ _ _ _ _ _ => ?_
  exact .ret (answered_other (by decide) (by decide))

/-- A preview creates the order it has drawn. -/
private theorem previewOrder_keeps {userID : Int} {orderID : OrderID} (items : List CartItem)
    (hdrawn : (orderID, userID) ∈ site.drawn) :
    (inBrowser (previewOrder (some userID) (some items) orderID)).Keeps (siteRules jwt)
      (Site.Answered userID) site := by
  refine keeps_quiet rfl fun site' answer site'' hlater _ _ hlater' => ?_
  have hstill := hlater'.drawn _ (hlater.drawn _ hdrawn)
  cases answer with
  | error err => exact .ret (answered_other (by decide) (by decide))
  | ok resp =>
      dsimp only
      split
      · exact .ret (answered_other (by decide) (by decide))
      have hpermits {later : Site} (hlater : site''.Later later) :
          later.Permits jwt (orderingOp (.store (.createGroceryOrder
            { orderID := orderID, clientID := userID, status := .pending } (orderLines (cartMap items))))) := by
        refine ⟨fun order lines hop => ?_, nofun⟩
        cases hop
        exact hlater.drawn _ hstill
      refine .perform (fun _ hlater _ => hpermits hlater) fun last answer later hlast _ _ hafter _ => ?_
      cases answer with
      | error err => exact .ret (answered_other (by decide) (by decide))
      | ok value =>
          refine .ret ⟨by simp [PageReply.status, Reply.status], fun other hother => ?_⟩
          cases hother
          exact hafter.drawn _ (hlast.drawn _ hstill)

/-- **A handler for a user** refuses nobody if the order of the request was drawn for the
user. -/
theorem PageRequest.handle_keeps (request : PageRequest) {userID : Int}
    (hdrawn : ∀ orderID, request.orderID = some orderID → (orderID, userID) ∈ site.drawn) :
    (Prog.lift BrowserOp.page (fun _ ans => ans) (request.handle (some userID)) : BrowserProg PageReply).Keeps
      (siteRules jwt) (Site.Answered userID) site := by
  cases request with
  | preview body =>
      cases body with
      | none => exact .ret (answered_other (by decide) (by decide))
      | some items =>
          refine keeps_quiet rfl fun site' orderUUID site'' _ _ hdraw _ => ?_
          refine previewOrder_keeps items ?_
          obtain ⟨env, hexec⟩ := hdraw
          simp only [browserExec] at hexec
          split at hexec
          · cases hexec
            exact List.mem_append_right _ (List.mem_singleton_self _)
          · cases hexec
  | confirm body => exact confirmOrder_keeps body hdrawn
  | cancel orderID => exact cancelOrder_keeps (hdrawn orderID rfl)
  | orders =>
      refine keeps_quiet rfl fun _ _ _ _ _ _ _ => ?_
      exact .ret (answered_other (by simp [PageReply.status]) (by simp [PageReply.status]))
  | lastOrder =>
      refine keeps_quiet rfl fun _ answer _ _ _ _ _ => ?_
      rcases answer with err | _ | order
      · exact .ret (answered_other (by decide) (by decide))
      · exact .ret (answered_other (by decide) (by decide))
      · exact .ret (answered_other (by simp [PageReply.status]) (by simp [PageReply.status]))

/-- A route refuses nobody the middleware takes for the account of a device, if the order
of the request is one of that account. -/
theorem PageRequest.route_keeps (request : PageRequest) {deviceID : Option String}
    {validateToken : String → Option Claims} {authHeader : String}
    (haccount : ∀ claims, acceptedClaims validateToken authHeader = .ok claims →
      site.HasAccount deviceID claims.userID)
    (horder : ∀ orderID, request.orderID = some orderID → site.Holds deviceID orderID) :
    (Prog.lift BrowserOp.page (fun _ ans => ans) (request.route validateToken authHeader) :
      BrowserProg PageReply).Keeps (siteRules jwt) (Site.AnsweredFor deviceID) site := by
  unfold PageRequest.route authenticate
  cases haccepted : acceptedClaims validateToken authHeader with
  | error message =>
      exact .ret ⟨by simp [PageReply.status, httpError, Reply.status], fun orderID hcreated => by cases hcreated⟩
  | ok claims =>
      have hclaims := haccount claims haccepted
      have hdrawn : ∀ orderID, request.orderID = some orderID → (orderID, claims.userID) ∈ site.drawn := by
        intro orderID hnamed
        obtain ⟨userID, hdrawn, hdevice⟩ := horder orderID hnamed
        rwa [hclaims.unique hdevice]
      refine (request.handle_keeps hdrawn).weaken fun site' reply hlater hanswered => ?_
      exact ⟨hanswered.1, fun orderID hcreated => ⟨claims.userID, hanswered.2 orderID hcreated,
        hclaims.later hlater⟩⟩

/-! ### Requests of a session -/

/-- What the server promises of its response holds of the response that comes back. -/
theorem exchange_keeps {α : Type} {promised : Site → α → Prop} {status : α → Option Nat}
    {server : BrowserProg α}
    (hserver : server.Keeps (siteRules jwt) promised site)
    (hstable : ∀ {site site' reply}, promised site reply → site.Later site' → promised site' reply) :
    (exchange status server).Keeps (siteRules jwt)
      (fun site answer => ∀ reply, answer = some reply → promised site reply) site := by
  refine hserver.roundTrip hstable (fun _ => ?_) fun _ => ?_
  · exact keeps_quiet rfl fun _ _ _ _ _ _ _ => .ret trivial
  · exact keeps_quiet rfl fun _ _ _ _ _ _ _ => .ret trivial

/-- The header of a session with a token stands for the account of the device. -/
theorem Site.Admits.account {deviceID token : Option String} (hadmits : site.Admits jwt deviceID token)
    (htruthy : truthy token = true) {now : Nat} {claims : Claims}
    (haccepted : acceptedClaims (jwt.validateToken now) (bearer token) = .ok claims) :
    site.HasAccount deviceID claims.userID := by
  cases token with
  | none => cases htruthy
  | some text =>
      obtain ⟨_, hvalid, _⟩ := acceptedClaims_bearer.mp haccepted
      exact hadmits text claims rfl (jwt.validateToken_eq_some hvalid).1

theorem attempt_keeps (request : PageRequest) {deviceID : Option String} {authHeader : String}
    (haccount : ∀ now claims, acceptedClaims (jwt.validateToken now) authHeader = .ok claims →
      site.HasAccount deviceID claims.userID)
    (horder : ∀ orderID, request.orderID = some orderID → site.Holds deviceID orderID) :
    (attempt jwt request authHeader).Keeps (siteRules jwt)
      (fun site answer => ∀ reply, answer = some reply → site.AnsweredFor deviceID reply) site := by
  refine exchange_keeps ?_ Site.AnsweredFor.later
  refine keeps_quiet rfl fun site' now site'' hlater _ _ hlater' => ?_
  exact request.route_keeps (fun claims haccepted => (haccount now claims haccepted).later (hlater.trans hlater'))
    fun orderID hnamed => (horder orderID hnamed).later (hlater.trans hlater')

end

end AutoGrocery
