import AutoGrocery.Frontend.Storefront
import AutoGrocery.Interleaving.Rely
import AutoGrocery.Orders.Requests

/-!
What browser sessions rely on. Ids of accounts stay, and a UUID that was drawn stays with
the client it was drawn for. These are the rules of the pages: which operations they may
perform in which state, and that such an operation keeps the promises of the site.
-/

namespace AutoGrocery

open Interleaving Relational

/-- A signed token is one word. -/
def JWT.Compact (jwt : JWT) : Prop :=
  ∀ claims, jwt.signedString claims ≠ "" ∧ ' ' ∉ (jwt.signedString claims).toList

namespace Site

/-- The device is registered, under this id. -/
def HasAccount (site : Site) (deviceID : Option String) (userID : Int) : Prop :=
  ∃ device client, deviceID = some device ∧ site.clients.rows.lookup device = some client ∧
    (client.id : Int) = userID

/-- An order was drawn for the account of the device. -/
def Holds (site : Site) (deviceID : Option String) (orderID : OrderID) : Prop :=
  ∃ userID, (orderID, userID) ∈ site.drawn ∧ site.HasAccount deviceID userID

section

variable (jwt : JWT)

/-- An access token, if it parses, is one of the account of the device. -/
def Admits (site : Site) (deviceID token : Option String) : Prop :=
  ∀ text claims, token = some text → jwt.parseWithClaims text = some claims →
    site.HasAccount deviceID claims.userID

/-- A refresh token, if its first word parses, is one of the account of the device. -/
def Refreshes (site : Site) (deviceID refreshToken : Option String) : Prop :=
  ∀ text word claims, refreshToken = some text → (headerWords text).head? = some word →
    jwt.parseWithClaims word = some claims → site.HasAccount deviceID claims.userID

/-- A UUID is drawn once and its order has the client it was drawn for, and the cache file
holds a refresh token of the device it names. -/
structure Owned (site : Site) : Prop where
  owners : ∀ {orderID userID row}, (orderID, userID) ∈ site.drawn →
    site.world.ordering.groceryOrders.lookup orderID = some row → row.clientID = userID
  distinct : (site.drawn.map Prod.fst).Nodup
  apart : ∀ orderID ∈ site.taken, orderID ∉ site.drawn.map Prod.fst
  cached : site.Refreshes jwt site.cache.deviceID site.cache.refreshToken

/-- An order is created for the client its UUID was drawn for, and a device goes into the
cache file with a refresh token of its own. -/
structure Permits (site : Site) (op : BrowserOp) : Prop where
  create : ∀ order items, op = .page (.ordering (.store (.createGroceryOrder order items))) →
    (order.orderID, order.clientID) ∈ site.drawn
  save : ∀ payload, op = .saveCache payload → site.Refreshes jwt payload.deviceID payload.refreshToken

end

/-- What any thread may do to the site. -/
structure Later (site site' : Site) : Prop where
  accounts : ∀ {device client}, site.clients.rows.lookup device = some client →
    ∃ client', site'.clients.rows.lookup device = some client' ∧ client'.id = client.id
  drawn : ∀ entry ∈ site.drawn, entry ∈ site'.drawn
  taken : site'.taken = site.taken

section

variable {jwt : JWT} {site site' site'' : Site} {deviceID token : Option String} {userID : Int}

theorem Later.refl (site : Site) : Later site site := ⟨fun hrow => ⟨_, hrow, rfl⟩, fun _ h => h, rfl⟩

theorem Later.trans (h : Later site site') (h' : Later site' site'') : Later site site'' := by
  refine ⟨fun hrow => ?_, fun entry hentry => h'.drawn entry (h.drawn entry hentry), h'.taken.trans h.taken⟩
  obtain ⟨client', hrow', hid⟩ := h.accounts hrow
  obtain ⟨client'', hrow'', hid'⟩ := h'.accounts hrow'
  exact ⟨client'', hrow'', hid'.trans hid⟩

theorem HasAccount.later (haccount : site.HasAccount deviceID userID) (hlater : Later site site') :
    site'.HasAccount deviceID userID := by
  obtain ⟨device, client, hdevice, hrow, rfl⟩ := haccount
  obtain ⟨client', hrow', hid⟩ := hlater.accounts hrow
  exact ⟨device, client', hdevice, hrow', by rw [hid]⟩

/-- A device has one account. -/
theorem HasAccount.unique {userID' : Int} (haccount : site.HasAccount deviceID userID)
    (haccount' : site.HasAccount deviceID userID') : userID = userID' := by
  obtain ⟨device, client, rfl, hrow, rfl⟩ := haccount
  obtain ⟨device', client', hdevice, hrow', rfl⟩ := haccount'
  obtain rfl := Option.some.inj hdevice
  obtain rfl := Option.some.inj (hrow.symm.trans hrow')
  rfl

theorem Holds.later {orderID : OrderID} (hholds : site.Holds deviceID orderID) (hlater : Later site site') :
    site'.Holds deviceID orderID := by
  obtain ⟨userID, hdrawn, haccount⟩ := hholds
  exact ⟨userID, hlater.drawn _ hdrawn, haccount.later hlater⟩

theorem Admits.later (hadmits : site.Admits jwt deviceID token) (hlater : Later site site') :
    site'.Admits jwt deviceID token :=
  fun text claims htoken hparse => (hadmits text claims htoken hparse).later hlater

theorem Refreshes.later (hrefreshes : site.Refreshes jwt deviceID token) (hlater : Later site site') :
    site'.Refreshes jwt deviceID token :=
  fun text word claims htoken hword hparse => (hrefreshes text word claims htoken hword hparse).later hlater

/-- Nothing was ever issued to it. -/
theorem Refreshes.none : site.Refreshes jwt deviceID none := fun _ _ _ htoken => nomatch htoken

theorem Admits.none : site.Admits jwt deviceID none := fun _ _ htoken => nomatch htoken

/-- The owners are still right after a change of the orders, if the orders that are new
were drawn for their client or are those of other requests. -/
theorem Owned.ordering (howned : site.Owned jwt) {w' : World}
    (howner : ∀ {orderID row'}, w'.ordering.groceryOrders.lookup orderID = some row' →
      (∃ row, site.world.ordering.groceryOrders.lookup orderID = some row ∧ row.clientID = row'.clientID) ∨
        orderID ∈ site.taken ∨ (orderID, row'.clientID) ∈ site.drawn) :
    ({ site with world := w' } : Site).Owned jwt := by
  refine ⟨fun hdrawn hrow' => ?_, howned.distinct, howned.apart, howned.cached⟩
  rcases howner hrow' with ⟨row, hrow, hclient⟩ | htaken | hsame
  · rw [← hclient]
    exact howned.owners hdrawn hrow
  · exact absurd (List.mem_map_of_mem hdrawn) (howned.apart _ htaken)
  · exact congrArg Prod.snd (List.inj_on_of_nodup_map howned.distinct hsame hdrawn rfl)

/-- A new UUID has no order yet. -/
theorem Owned.draw (howned : site.Owned jwt) {orderUUID : OrderID} (hfresh : site.Fresh orderUUID) :
    ({ site with drawn := site.drawn ++ [(orderUUID, userID)] } : Site).Owned jwt := by
  obtain ⟨hundrawn, huntaken, hnone⟩ := hfresh
  refine ⟨fun hdrawn hrow => ?_, ?_, fun orderID htaken => ?_, howned.cached⟩
  · rcases List.mem_append.mp hdrawn with hold | hnew
    · exact howned.owners hold hrow
    · cases List.mem_singleton.mp hnew
      exact absurd (AList.lookup_isSome.mp (by rw [hrow]; rfl)) hnone
  · rw [List.map_append, List.nodup_append]
    refine ⟨howned.distinct, List.nodup_singleton _, ?_⟩
    rintro orderID hold _ hnew rfl
    have heq : orderID = orderUUID := List.mem_singleton.mp hnew
    exact hundrawn (heq ▸ hold)
  · rw [List.map_append, List.mem_append, not_or]
    refine ⟨howned.apart orderID htaken, fun hnew => ?_⟩
    have heq : orderID = orderUUID := List.mem_singleton.mp hnew
    exact huntaken (heq ▸ htaken)

theorem Owned.clients (howned : site.Owned jwt) {clients : SmartClients}
    (hlater : Later site { site with clients }) : ({ site with clients } : Site).Owned jwt :=
  ⟨howned.owners, howned.distinct, howned.apart, howned.cached.later hlater⟩

end

end Site

/-- A statement on the accounts takes place or it does not. -/
private theorem accountExec_state (fault : Fault) (op : AccountOp) (db : SmartClients) :
    (accountExec fault op db).2 = db ∨ (accountExec fault op db).2 = (accountExec .works op db).2 := by
  cases fault <;> cases op <;> first
    | exact Or.inr rfl
    | exact Or.inl rfl

/-- A statement on the accounts keeps the id of every row. -/
theorem accountExec_ids (fault : Fault) (op : AccountOp) {db : SmartClients} {device : String}
    {client : SmartClient} (hrow : db.rows.lookup device = some client) :
    ∃ client', (accountExec fault op db).2.rows.lookup device = some client' ∧ client'.id = client.id := by
  rcases accountExec_state fault op db with hsame | hworks
  · exact ⟨client, by rw [hsame]; exact hrow, rfl⟩
  rw [hworks]
  cases op with
  | createSmartClient deviceID email phone passwordHash =>
      exact ⟨client, accountExec_createSmartClient hrow, rfl⟩
  | getSmartClient deviceID => exact ⟨client, hrow, rfl⟩
  | setRefreshToken deviceID refreshToken expiry =>
      refine ⟨if device = deviceID then { client with
        refreshToken := some refreshToken, tokenExpiry := some expiry } else client, ?_, by split <;> rfl⟩
      exact (SmartClients.writeToken_lookup db deviceID device _ _).trans (by rw [hrow]; rfl)

/-! ### The rules -/

section

variable (jwt : JWT)

/-- A page never does what the site does not permit, and what it permits keeps the
promises. -/
private theorem permitted_kept {site site' : Site} {op : BrowserOp} {ans : BrowserAns op}
    (howned : site.Owned jwt) (hpermits : site.Permits jwt op)
    (hdoes : ∃ env, browserExec env op site = some (ans, site')) : site.Later site' ∧ site'.Owned jwt := by
  obtain ⟨env, hexec⟩ := hdoes
  have hsame (h : site' = site) : site.Later site' ∧ site'.Owned jwt := by
    rw [h]
    exact ⟨.refl site, howned⟩
  cases op with
  | send => exact hsame (congrArg Prod.snd (Option.some.inj hexec)).symm
  | receive => exact hsame (congrArg Prod.snd (Option.some.inj hexec)).symm
  | serverNow => exact hsame (congrArg Prod.snd (Option.some.inj hexec)).symm
  | time => exact hsame (congrArg Prod.snd (Option.some.inj hexec)).symm
  | loadCache => exact hsame (congrArg Prod.snd (Option.some.inj hexec)).symm
  | account op =>
      cases hexec
      have hlater : site.Later { site with clients := (accountExec env.statement op site.clients).2 } :=
        ⟨fun hrow => accountExec_ids env.statement op hrow, fun _ h => h, rfl⟩
      exact ⟨hlater, howned.clients hlater⟩
  | saveCache payload =>
      cases hexec
      split
      · exact ⟨⟨fun hrow => ⟨_, hrow, rfl⟩, fun _ h => h, rfl⟩, howned.owners, howned.distinct, howned.apart,
          hpermits.save payload rfl⟩
      · exact ⟨.refl site, howned⟩
  | clearCache =>
      cases hexec
      split
      · exact ⟨⟨fun hrow => ⟨_, hrow, rfl⟩, fun _ h => h, rfl⟩, howned.owners, howned.distinct, howned.apart,
          .none⟩
      · exact ⟨.refl site, howned⟩
  | page op =>
      cases op with
      | newUUID clientID =>
          simp only [browserExec] at hexec
          split at hexec
          case isFalse => cases hexec
          case isTrue hfresh =>
            cases hexec
            exact ⟨⟨fun hrow => ⟨_, hrow, rfl⟩, fun _ h => List.mem_append_left _ h, rfl⟩, howned.draw hfresh⟩
      | ordering op =>
          cases hexec
          refine ⟨⟨fun hrow => ⟨_, hrow, rfl⟩, fun _ h => h, rfl⟩, howned.ordering fun hrow' => ?_⟩
          rcases orderingExec_owner env.call op site.world hrow' with hbefore |
            ⟨order, items, rfl, rfl, hclient⟩
          · exact Or.inl hbefore
          · rw [← hclient]
            exact Or.inr (Or.inr (hpermits.create order items rfl))
      | getOrdersByClientID clientID => exact hsame (congrArg Prod.snd (Option.some.inj hexec)).symm
      | lastOrder op => exact hsame (congrArg Prod.snd (Option.some.inj hexec)).symm

/-- The rules of the pages. -/
def siteRules : Rules BrowserAns Site where
  does site op ans site' := ∃ env, browserExec env op site = some (ans, site')
  allowed site op := site.Permits jwt op
  invariant site := site.Owned jwt
  later := Site.Later
  refl := .refl
  trans := .trans
  kept := permitted_kept jwt

end

end AutoGrocery
