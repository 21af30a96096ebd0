import AutoGrocery.Frontend.Clicks
import AutoGrocery.Orders.Callbacks

/-!
Every run of the site. Sessions click, requests of other clients, trucks and robots are
served and accounts change, one operation at a time and in any order, whatever fails.
-/

namespace AutoGrocery

open Interleaving Relational

/-- An order the services create belongs to one of these requests. -/
def OrderingOp.ForOthers (taken : List OrderID) (op : OrderingOp) : Prop :=
  ∀ order items, op = .store (.createGroceryOrder order items) → order.orderID ∈ taken

/-- The request previews an order under a UUID of these. -/
def Request.Apart (taken : List OrderID) (request : Request) : Prop :=
  ∀ userID body orderUUID, request = .client userID (.preview body orderUUID) → orderUUID ∈ taken

/-- A session keeps to the rules of the pages, and a service serves the other requests. -/
def SiteThread.Lawful (jwt : JWT) (site : Site) : SiteThread → Prop
  | .browser prog => prog.Keeps (siteRules jwt) (Screen.Genuine jwt) site
  | .service (.ordering prog) => prog.Uses (OrderingOp.ForOthers site.taken)
  | .service (.inventory prog) => prog.Uses isCallbackOp
  | .accounts _ => True

/-- The site at its opening: sessions nobody has used yet, requests, and requests about
accounts. -/
def siteOpening (sessions : Nat) (requests : List Request) (programs : List AccountProg) (site : Site) :
    Pool SiteThread Site :=
  ⟨List.replicate sessions (.browser (.ret ⟨{}, none⟩)) ++
    requests.map (fun request => .service request.thread) ++ programs.map .accounts, site⟩

/-! ### The requests of others -/

/-- A phase of a preview. -/
private def ClientPhase.previewing : ClientPhase → Bool
  | .reserving _ => true
  | .creating _ => true
  | _ => false

/-- Only a preview creates an order, and it does not begin later on. -/
private theorem ClientRule.previewing {user : Int} {orderID : OrderID} {phase phase' : ClientPhase}
    {op : OrderingOp} {answer : OrderingAns op} (hrule : ClientRule user orderID phase op answer phase') :
    (phase'.previewing = true → phase.previewing = true) ∧
      ∀ order items, op = .store (.createGroceryOrder order items) →
        phase.previewing = true ∧ order.orderID = orderID := by
  cases hrule with
  | create items answer =>
      refine ⟨nofun, fun order lines hop => ?_⟩
      cases hop
      exact ⟨rfl, rfl⟩
  | reserve items answer => exact ⟨id, nofun⟩
  | _ => exact ⟨nofun, nofun⟩

/-- A request of another client creates its own order only. -/
private theorem clientRequest_others {taken : List OrderID} (request : ClientRequest) (userID : Option Int)
    (htaken : ∀ body orderUUID, request = .preview body orderUUID → orderUUID ∈ taken) :
    (request.handle userID).Uses (OrderingOp.ForOthers taken) := by
  cases userID with
  | none => cases request <;> exact .ret _
  | some user =>
      rcases request.handle_follows user with ⟨reply, hreply⟩ | ⟨orderID, horder, hfollows⟩
      · rw [hreply]
        exact .ret reply
      · have hstart : request.start.previewing = true → orderID ∈ taken := by
          cases request with
          | preview body orderUUID =>
              cases horder
              exact fun _ => htaken body _ rfl
          | confirm body => exact nofun
          | cancel named => exact nofun
        refine hfollows.uses_within
          (fun phase op answer phase' (hkind : phase.previewing = true → orderID ∈ taken) hrule => ?_) hstart
        obtain ⟨hback, hcreates⟩ := hrule.previewing
        refine ⟨fun order items hop => ?_, fun hlate => hkind (hback hlate)⟩
        obtain ⟨hpreviewing, hsame⟩ := hcreates order items hop
        rw [hsame]
        exact hkind hpreviewing

theorem Request.thread_lawful {jwt : JWT} {site : Site} (request : Request)
    (hapart : request.Apart site.taken) : (SiteThread.service request.thread).Lawful jwt site := by
  cases request with
  | client userID request =>
      exact clientRequest_others request userID fun body orderUUID hpreview =>
        hapart userID body orderUUID (by rw [hpreview])
  | restock body restockUUID =>
      refine (restockOrder_uses body restockUUID).mono fun op hop order items hcreate => ?_
      rw [hcreate] at hop
      cases hop
  | report req => exact reportThread_isCallback req

/-! ### One step -/

section

variable {jwt : JWT} {site site' : Site}

theorem SiteThread.Lawful.later {thread : SiteThread} (hlawful : thread.Lawful jwt site)
    (hlater : site.Later site') : thread.Lawful jwt site' := by
  cases thread with
  | browser prog => exact Prog.Keeps.later hlawful hlater fun hgenuine => hgenuine.later
  | accounts prog => trivial
  | service thread =>
      cases thread with
      | ordering prog =>
          unfold SiteThread.Lawful
          rw [hlater.taken]
          exact hlawful
      | inventory prog => exact hlawful

/-- A step of the services goes by in the eyes of the sessions. -/
private theorem service_step (howned : site.Owned jwt) {thread : Thread}
    (hlawful : (SiteThread.service thread).Lawful jwt site) {fault : ServiceFault}
    {move : Move Thread World ServiceEvent} (hact : serviceAct fault thread site.world = some move) :
    ({ site with world := move.state } : Site).Owned jwt ∧ (SiteThread.service move.thread).Lawful jwt site ∧
      ∀ spawned ∈ move.spawned, (SiteThread.service spawned).Lawful jwt site := by
  have hcallback {thread : Thread} (hthread : thread.IsCallback) :
      (SiteThread.service thread).Lawful jwt site := by
    cases thread with
    | ordering prog => exact hthread.elim
    | inventory prog => exact hthread
  cases thread with
  | ordering prog =>
      cases prog with
      | ret reply => cases hact
      | call op next =>
          cases hact
          cases hlawful with
          | call hop hnext =>
              refine ⟨howned.ordering fun hrow' => ?_, hnext _,
                fun spawned hspawned => absurd hspawned List.not_mem_nil⟩
              rcases orderingExec_owner fault.1 op site.world hrow' with hbefore | ⟨order, items, rfl, rfl, _⟩
              · exact Or.inl hbefore
              · exact Or.inr (Or.inl (hop order items rfl))
  | inventory prog =>
      have hthread : Thread.IsCallback (.inventory prog) := hlawful
      obtain ⟨op, ans, _, hop, hstate, hmover, hspawned⟩ := hthread.step hact
      refine ⟨howned.ordering fun hrow' => ?_, hcallback hmover,
        fun spawned hmem => hcallback (hspawned spawned hmem)⟩
      rw [hstate] at hrow'
      obtain ⟨row, hrow, _, hclient⟩ := (callbackOp_completes hop fault.2 site.world).orders.row hrow'
      exact Or.inl ⟨row, hrow, hclient⟩

/-- **The step lemma.** Whoever moves, what the sessions rely on goes on to hold. -/
theorem SiteThread.Lawful.step (hcompact : jwt.Compact) {compareHashAndPassword : String → String → Bool}
    (howned : site.Owned jwt) {thread : SiteThread} (hlawful : thread.Lawful jwt site) {choice : SiteChoice}
    {move : Move SiteThread Site SiteEvent}
    (hact : siteAct jwt compareHashAndPassword choice thread site = some move) :
    site.Later move.state ∧ move.state.Owned jwt ∧ move.thread.Lawful jwt move.state ∧
      ∀ spawned ∈ move.spawned, spawned.Lawful jwt move.state := by
  unfold siteAct at hact
  split at hact
  case h_1 click screen =>
    split at hact
    case isFalse => cases hact
    case isTrue hshown =>
      cases hact
      cases hlawful with
      | ret hgenuine =>
          exact ⟨.refl site, howned,
            click.run_keeps hcompact compareHashAndPassword hgenuine.session hshown, nofun⟩
  case h_2 env op next =>
    obtain ⟨⟨ans, site'⟩, hexec, hmove⟩ := Option.map_eq_some_iff.mp hact
    subst hmove
    obtain ⟨hlater, howned', hnext⟩ := Prog.Keeps.step hlawful howned ⟨env, hexec⟩
    exact ⟨hlater, howned', hnext, nofun⟩
  case h_3 fault thread =>
    obtain ⟨inner, hinner, hmove⟩ := Option.map_eq_some_iff.mp hact
    subst hmove
    obtain ⟨howned', hmover, hspawned⟩ := service_step howned hlawful hinner
    have hlater : site.Later { site with world := inner.state } :=
      ⟨fun hrow => ⟨_, hrow, rfl⟩, fun _ h => h, rfl⟩
    refine ⟨hlater, howned', hmover.later hlater, fun spawned hmem => ?_⟩
    obtain ⟨started, hstarted, rfl⟩ := List.mem_map.mp hmem
    exact (hspawned started hstarted).later hlater
  case h_4 fault op next =>
    cases hact
    have hlater : site.Later { site with clients := (accountExec fault op site.clients).2 } :=
      ⟨fun hrow => accountExec_ids fault op hrow, fun _ h => h, rfl⟩
    exact ⟨hlater, howned.clients hlater, trivial, nofun⟩
  case h_5 => cases hact

/-! ### Every run -/

/-- The promises of the site, and threads that keep them. -/
private structure SiteKept (jwt : JWT) (pool : Pool SiteThread Site) : Prop where
  owned : pool.state.Owned jwt
  threads : ∀ thread ∈ pool.threads, thread.Lawful jwt pool.state

private theorem siteKept_opening {requests : List Request} (sessions : Nat) (programs : List AccountProg)
    (howned : site.Owned jwt) (hapart : ∀ request ∈ requests, request.Apart site.taken) :
    SiteKept jwt (siteOpening sessions requests programs site) := by
  refine ⟨howned, fun thread hthread => ?_⟩
  rcases List.mem_append.mp hthread with hthread | hthread
  · rcases List.mem_append.mp hthread with hthread | hthread
    · rw [List.eq_of_mem_replicate hthread]
      exact .ret ⟨⟨.none, .none, nofun, fun hshown => absurd rfl hshown, fun _ => ⟨rfl, rfl⟩⟩, nofun⟩
    · obtain ⟨request, hrequest, rfl⟩ := List.mem_map.mp hthread
      exact request.thread_lawful (hapart request hrequest)
  · obtain ⟨prog, _, rfl⟩ := List.mem_map.mp hthread
    trivial

private theorem siteKept_run {compareHashAndPassword : String → String → Bool} (hcompact : jwt.Compact)
    {start pool : Pool SiteThread Site} {trace : List (Nat × SiteEvent)} (hstart : SiteKept jwt start)
    (hrun : Run (siteAct jwt compareHashAndPassword) anyStep start trace pool) : SiteKept jwt pool := by
  refine hrun.invariant (fun pool _ => SiteKept jwt pool) hstart
    fun _ pool index thread choice move hkept hthread hact _ => ?_
  obtain ⟨hlater, howned, hmover, hspawned⟩ :=
    (hkept.threads thread (List.mem_of_getElem? hthread)).step hcompact hkept.owned hact
  refine ⟨howned, Pool.forall_threads_after (fun other hother => ?_) hmover hspawned⟩
  exact (hkept.threads other hother).later hlater

/-- **Every session works on its own orders.** In every run of sessions, requests and
requests about accounts, whatever fails: no screen shows the response "you do not own
this order", the order a screen shows belongs to the account of its device once it has a
row, and so does its access token. -/
theorem pages_own_their_orders (hcompact : jwt.Compact) {compareHashAndPassword : String → String → Bool}
    {sessions : Nat} {requests : List Request} {programs : List AccountProg} (howned : site.Owned jwt)
    (hapart : ∀ request ∈ requests, request.Apart site.taken) {trace : List (Nat × SiteEvent)}
    {pool : Pool SiteThread Site}
    (hrun : Run (siteAct jwt compareHashAndPassword) anyStep (siteOpening sessions requests programs site)
      trace pool) {screen : Screen} (hscreen : .browser (.ret screen) ∈ pool.threads) :
    (∀ reply, screen.reply = some reply → reply.status ≠ some 403) ∧
      (∀ orderID row, screen.session.orderID = some orderID →
        pool.state.world.ordering.groceryOrders.lookup orderID = some row →
        pool.state.HasAccount screen.session.deviceID row.clientID) ∧
      pool.state.Admits jwt screen.session.deviceID screen.session.token := by
  have hkept := siteKept_run hcompact (siteKept_opening sessions programs howned hapart) hrun
  have hthread : Prog.Keeps (siteRules jwt) (Screen.Genuine jwt) (.ret screen) pool.state :=
    hkept.threads _ hscreen
  cases hthread with
  | ret hgenuine =>
      refine ⟨hgenuine.welcome, fun orderID row hshown hrow => ?_, hgenuine.session.access⟩
      obtain ⟨userID, hdrawn, haccount⟩ := hgenuine.session.order orderID hshown
      rwa [hkept.owned.owners hdrawn hrow]

end

/-! ### A preview of the fridge -/

namespace Sample

/-- The small deployment with the fridge registered and order-3 taken by somebody else. -/
def site : Site := ⟨clients, ⟨none, none⟩, world, [], ["order-3"]⟩

theorem site_owned : site.Owned jwt := ⟨nofun, List.nodup_nil, fun _ _ => List.not_mem_nil, .none⟩

theorem jwt_compact : jwt.Compact := by
  intro claims
  have hnames : ∀ entry ∈ tokens, entry.1 ≠ "" ∧ ' ' ∉ entry.1.toList := by decide +kernel
  unfold jwt
  dsimp only
  cases hfind : tokens.find? fun entry => entry.2 = claims with
  | none => exact ⟨by decide, by decide⟩
  | some entry => exact hnames entry (List.mem_of_find?_eq_some hfind)

/-- The preview of a sensor, which is client 8. -/
def sensorPreview : Request := .client (some 8) (.preview (some [⟨"milk", 1⟩]) "order-3")

/-- A restore without a cache, a login and a preview, with a preview of the sensor in between. -/
def visit : List (Nat × SiteChoice) :=
  let next : Nat × SiteChoice := (0, .browser { orderUUID := "order-2" })
  [(0, .click .restore), next, (0, .click (.login "fridge" "secret"))] ++ List.replicate 6 next ++
    [(1, .service noFault), (0, .click (.preview (some [⟨"milk", 1⟩])))] ++ List.replicate 4 next ++
    [(1, .service noFault)] ++ List.replicate 3 next

/-- What a session shows while it waits for a click. -/
def shows : SiteThread → Option Screen
  | .browser (.ret screen) => some screen
  | _ => none

theorem shows_eq_some {thread : SiteThread} {screen : Screen} (hshows : shows thread = some screen) :
    thread = .browser (.ret screen) := by
  unfold shows at hshows
  split at hshows
  · rw [Option.some.inj hshows]
  · cases hshows

end Sample

/-- The screen shows order-2, which is of client 7. -/
theorem pages_own_their_orders_sample :
    ∃ trace pool screen, Run (siteAct Sample.jwt Sample.compareHashAndPassword) anyStep
        (siteOpening 1 [Sample.sensorPreview] [] Sample.site) trace pool ∧
      .browser (.ret screen) ∈ pool.threads ∧ screen.session.orderID = some "order-2" ∧
      screen.reply.bind PageReply.status = some 201 ∧
      ∀ row, pool.state.world.ordering.groceryOrders.lookup "order-2" = some row →
        pool.state.HasAccount screen.session.deviceID row.clientID := by
  obtain ⟨trace, pool, hplayed, hcheck⟩ := run_of_play (siteAct Sample.jwt Sample.compareHashAndPassword)
    (fun _ _ _ => true) (siteOpening 1 [Sample.sensorPreview] [] Sample.site) Sample.visit
    (fun _ pool => ((pool.threads.head?).bind Sample.shows).any fun screen =>
      screen.session.orderID = some "order-2" ∧ screen.reply.bind PageReply.status = some 201)
    (by decide +kernel)
  have hrun : Run (siteAct Sample.jwt Sample.compareHashAndPassword) anyStep _ trace pool :=
    hplayed.mono fun _ _ _ _ => trivial
  obtain ⟨screen, hfound, hshown⟩ := (Option.any_eq_true _ _).mp hcheck
  obtain ⟨thread, hthread, hshows⟩ := Option.bind_eq_some_iff.mp hfound
  obtain ⟨hshown, hstatus⟩ := of_decide_eq_true hshown
  have hscreen : .browser (.ret screen) ∈ pool.threads :=
    Sample.shows_eq_some hshows ▸ List.mem_of_mem_head? hthread
  have hapart : ∀ request ∈ [Sample.sensorPreview], request.Apart Sample.site.taken := by
    intro request hrequest userID body orderUUID hpreview
    rw [List.mem_singleton.mp hrequest] at hpreview
    cases hpreview
    exact List.mem_singleton_self _
  obtain ⟨_, howner, _⟩ := pages_own_their_orders Sample.jwt_compact Sample.site_owned hapart hrun hscreen
  exact ⟨trace, pool, screen, hrun, hscreen, hshown, hstatus, fun row => howner "order-2" row hshown⟩

end AutoGrocery
