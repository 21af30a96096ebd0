import AutoGrocery.Frontend.Client
import AutoGrocery.System

/-!
Any number of browser sessions in front of the services. A session shows the page of
`frontend/client/app.py` and runs one click after the other; the sessions share one cache
file. Other clients, trucks and robots send their requests too, and requests about
accounts come from anywhere. Any thread may take the next step, and the surroundings
decide what gets lost, what time it is and which UUID is drawn.
-/

namespace AutoGrocery

open Interleaving

/-- The accounts, the cache file and the services. `drawn` are the UUIDs the handlers have
drawn for sessions, with the client they were drawn for, and `taken` the UUIDs of the
other requests. -/
structure Site where
  clients : SmartClients
  cache : AuthCache
  world : World
  drawn : List (OrderID × Int)
  taken : List OrderID

/-- Nobody has drawn this UUID. -/
def Site.Fresh (site : Site) (orderUUID : OrderID) : Prop :=
  orderUUID ∉ site.drawn.map Prod.fst ∧ orderUUID ∉ site.taken ∧
    orderUUID ∉ site.world.ordering.groceryOrders

instance (site : Site) (orderUUID : OrderID) : Decidable (site.Fresh orderUUID) := by
  unfold Site.Fresh
  infer_instance

/-- What the surroundings decide about one operation. `succeeds` is about the network or
the file. -/
structure Surroundings where
  succeeds : Bool := true
  clock : Nat := 0
  orderUUID : OrderID := ""
  statement : Fault := .works
  call : CallFault (CallFault Fault) := .works

/-- One operation of a page or of a handler it waits for. `uuid.New()` does not repeat
itself. -/
def browserExec (env : Surroundings) : (op : BrowserOp) → Site → Option (BrowserAns op × Site)
  | .send, site => some (env.succeeds, site)
  | .receive, site => some (env.succeeds, site)
  | .serverNow, site => some (env.clock, site)
  | .time, site => some (env.clock, site)
  | .page (.newUUID clientID), site =>
      if site.Fresh env.orderUUID then
        some (env.orderUUID, { site with drawn := site.drawn ++ [(env.orderUUID, clientID)] })
      else none
  | .page (.ordering op), site =>
      let answer := orderingExec env.call op site.world
      some (answer.1, { site with world := answer.2 })
  | .page (.getOrdersByClientID clientID), site =>
      some ((env.statement.run "" (fun db => (.ok (db.getOrdersByClientID clientID), db))
        site.world.ordering).1, site)
  | .page (.lastOrder op), site => some ((lastOrderExec env.statement op site.world.ordering).1, site)
  | .account op, site =>
      let answer := accountExec env.statement op site.clients
      some (answer.1, { site with clients := answer.2 })
  | .loadCache, site => some (if env.succeeds then site.cache else ⟨none, none⟩, site)
  | .saveCache payload, site => some ((), if env.succeeds then { site with cache := payload } else site)
  | .clearCache, site =>
      some ((), if env.succeeds then { site with cache := ⟨none, none⟩ } else site)

/-! ### Clicks -/

/-- What a session shows, and the response to its last protected request. -/
structure Screen where
  session : ClientSession
  reply : Option PageReply := none

/-- A run of the page: the restore at its start, a form, a button, the timer, or the next
turn of the polling loop. -/
inductive Click where
  | restore
  | login (deviceID password : String)
  | register (req : RegisterRequest) (hashedPwd : String)
  | rerun
  | refresh
  | exit
  | preview (body : Option (List CartItem))
  | cancel
  | dispatch
  | history
  | poll

/-- The page shows the control. -/
def Click.shown (session : ClientSession) : Click → Bool
  | .restore => !session.authRestored
  | .login _ _ => session.authRestored && !truthy session.token
  | .register _ _ => session.authRestored && !truthy session.token
  | .cancel => session.authRestored && truthy session.token && truthy session.orderID
  | .dispatch => session.authRestored && truthy session.token && truthy session.orderID
  | .poll => session.polling
  | _ => session.authRestored && truthy session.token

/-- `data.get("order_id")`. -/
def Body.orderID : Body → Option OrderID
  | .preview _ orderID _ => some orderID
  | data => data.get "order_id"

/-- `data.get("items") or {}`. -/
def Body.items : Body → ItemMap
  | .preview _ _ items => items
  | _ => ∅

namespace ClientSession

/-- The session once the order is gone from the form. -/
def closed (session : ClientSession) : ClientSession := { session with orderID := none, confirmedItems := ∅ }

/-- After the response to a stock scan. -/
def afterPreview (session : ClientSession) : Option PageReply → ClientSession
  | some (.reply (.http 201 data)) => { session with orderID := data.orderID, confirmedItems := data.items }
  | _ => session

/-- After the response to a cancel. -/
def afterCancel (session : ClientSession) (reply : Option PageReply) : ClientSession :=
  if reply.bind PageReply.status = some 200 then session.closed else session

/-- After the response to a dispatch. -/
def afterDispatch (session : ClientSession) (reply : Option PageReply) : ClientSession :=
  { session with polling := reply.bind PageReply.status = some 200 }

/-- After a turn of the polling loop. -/
def afterPoll (session : ClientSession) : Option PageReply → ClientSession
  | none => { session with polling := false }
  | some (.lastOrder data) =>
      if data.status = .completed then { session.closed with polling := false }
      else { session with polling := ¬ data.status.saysFailed }
  | some _ => session

end ClientSession

section

variable (jwt : JWT) (compareHashAndPassword : String → String → Bool)

/-- A button of a session that is logged in: the page first refreshes the token if it is
time, and a loop that was running is over. -/
def button (request : ClientSession → BrowserProg Screen) (session : ClientSession) : BrowserProg Screen :=
  maybeAutoRefresh jwt { session with polling := false } >>= request

/-- A protected request, and what the page makes of the response. -/
def ask (request : PageRequest) (after : ClientSession → Option PageReply → ClientSession)
    (session : ClientSession) : BrowserProg Screen :=
  authRequest jwt request session >>= fun outcome =>
    .ret ⟨after outcome.2 outcome.1, outcome.1⟩

/-- What the page does on a click. -/
def Click.run (session : ClientSession) : Click → BrowserProg Screen
  | .restore => restoreSession jwt session >>= fun session => .ret ⟨session, none⟩
  | .login deviceID password =>
      AutoGrocery.login jwt compareHashAndPassword deviceID password session >>= fun session =>
        .ret ⟨session, none⟩
  | .register req hashedPwd => AutoGrocery.register req hashedPwd session >>= fun session => .ret ⟨session, none⟩
  | .rerun => button jwt (fun session => .ret ⟨session, none⟩) session
  | .refresh =>
      button jwt (fun session => refreshAccessToken jwt session >>= fun outcome => .ret ⟨outcome.2, none⟩) session
  | .exit => exitSystem >>= fun session => .ret ⟨session, none⟩
  | .preview body => button jwt (ask jwt (.preview body) .afterPreview) session
  | .cancel => button jwt (ask jwt (.cancel (session.orderID.getD "")) .afterCancel) session
  | .dispatch => button jwt (ask jwt (.confirm session.orderID) .afterDispatch) session
  | .history => button jwt (ask jwt .orders fun session _ => session) session
  | .poll => ask jwt .lastOrder .afterPoll session

end

/-! ### Sessions and services at the same time -/

/-- A browser session, a handler or goroutine of the services, or a request about
accounts. -/
inductive SiteThread where
  | browser (prog : BrowserProg Screen)
  | service (thread : Thread)
  | accounts (prog : AccountProg)

inductive SiteChoice where
  | click (click : Click)
  | browser (env : Surroundings)
  | service (fault : ServiceFault)
  | accounts (fault : Fault)

inductive SiteEvent where
  | clicked (click : Click)
  | browser (event : Event BrowserAns)
  | service (event : ServiceEvent)
  | accounts (event : Event AccountAns)

section

variable (jwt : JWT) (compareHashAndPassword : String → String → Bool)

/-- One step of a thread. A session that shows a screen waits for a click. -/
def siteAct : Act SiteChoice SiteThread Site SiteEvent
  | .click click, .browser (.ret screen), site =>
      if click.shown screen.session then
        some ⟨.clicked click, .browser (click.run jwt compareHashAndPassword screen.session), [], site⟩
      else none
  | .browser env, .browser (.call op next), site =>
      (browserExec env op site).map fun answer =>
        ⟨.browser ⟨op, answer.1⟩, .browser (next answer.1), [], answer.2⟩
  | .service fault, .service thread, site =>
      (serviceAct fault thread site.world).map fun move =>
        ⟨.service move.event, .service move.thread, move.spawned.map .service,
          { site with world := move.state }⟩
  | .accounts fault, .accounts (.call op next), site =>
      let answer := accountExec fault op site.clients
      some ⟨.accounts ⟨op, answer.1⟩, .accounts (next answer.1), [], { site with clients := answer.2 }⟩
  | _, _, _ => none

end

end AutoGrocery
