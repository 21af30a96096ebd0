import AutoGrocery.Frontend.Ownership

/-!
Whose orders a session works on. Browser sessions that share a cache file log in, restore,
refresh and exit in any order, next to other clients, trucks and robots. A session acts
for the account of the device it shows, and the order it shows is one of that account,
so no page is ever told that it does not own its order.
-/

namespace AutoGrocery

open Interleaving Relational

/-- A response with an access token for the account of the device. -/
def Site.Issued (jwt : JWT) (deviceID : Option String) (site : Site) (reply : Reply) : Prop :=
  ∀ data, reply = .http 200 data →
    truthy (data.get "access_token") = true ∧ site.Admits jwt deviceID (data.get "access_token")

/-- A response with both tokens for the account of the device. -/
def Site.LoggedIn (jwt : JWT) (deviceID : Option String) (site : Site) (reply : Reply) : Prop :=
  site.Issued jwt deviceID reply ∧
    ∀ data, reply = .http 200 data → site.Refreshes jwt deviceID (data.get "refresh_token")

/-- A screen of a session whose last request was not refused as that of somebody else. -/
structure Screen.Genuine (jwt : JWT) (site : Site) (screen : Screen) : Prop where
  session : screen.session.Genuine jwt site
  welcome : ∀ reply, screen.reply = some reply → reply.status ≠ some 403

section

variable {jwt : JWT} {site site' : Site} {session session' : ClientSession} {deviceID : Option String}

theorem Site.Issued.later {reply : Reply} (hissued : site.Issued jwt deviceID reply)
    (hlater : site.Later site') : site'.Issued jwt deviceID reply :=
  fun data hreply => (hissued data hreply).imp_right fun hadmits => hadmits.later hlater

theorem Site.LoggedIn.later {reply : Reply} (hlogged : site.LoggedIn jwt deviceID reply)
    (hlater : site.Later site') : site'.LoggedIn jwt deviceID reply :=
  ⟨hlogged.1.later hlater, fun data hreply => (hlogged.2 data hreply).later hlater⟩

theorem Screen.Genuine.later {screen : Screen} (hgenuine : screen.Genuine jwt site)
    (hlater : site.Later site') : screen.Genuine jwt site' :=
  ⟨hgenuine.session.later hlater, hgenuine.welcome⟩

theorem ClientSession.Goes.refl (session : ClientSession) : session.Goes session := ⟨rfl, rfl, rfl, id⟩

/-- A session that closed its order is still genuine. -/
theorem ClientSession.Genuine.closed (hgenuine : session.Genuine jwt site) :
    session.closed.Genuine jwt site :=
  ⟨hgenuine.access, hgenuine.refresh, nofun, fun hshown => absurd rfl hshown, hgenuine.fresh⟩

theorem ClientSession.Genuine.polled (hgenuine : session.Genuine jwt site)
    (hrestored : session.authRestored = true) (polling : Bool) :
    ({ session with polling } : ClientSession).Genuine jwt site :=
  ⟨hgenuine.access, hgenuine.refresh, hgenuine.order, hgenuine.shown,
    fun hfresh => by simp [hrestored] at hfresh⟩

/-- A session without an access token shows no order. -/
theorem ClientSession.Genuine.blank (hgenuine : session.Genuine jwt site)
    (htoken : truthy session.token = false) : session.orderID = none := by
  by_contra hshown
  rw [hgenuine.shown hshown] at htoken
  cases htoken

/-! ### Tokens -/

/-- A token signed for an account is a token of that account. -/
private theorem admits_signed {claims : Claims} (haccount : site.HasAccount deviceID claims.userID) :
    site.Admits jwt deviceID (some (jwt.signedString claims)) := by
  intro text found htext hparse
  obtain rfl := Option.some.inj htext
  rwa [jwt.sound claims found hparse]

private theorem refreshes_signed (hcompact : jwt.Compact) {claims : Claims}
    (haccount : site.HasAccount deviceID claims.userID) :
    site.Refreshes jwt deviceID (some (jwt.signedString claims)) := by
  intro text word found htext hword hparse
  obtain rfl := Option.some.inj htext
  rw [headerWords, List.splitOn_eq_singleton (hcompact claims).2] at hword
  obtain rfl : jwt.signedString claims = word := by simpa using hword
  rwa [jwt.sound claims found hparse]

private theorem truthy_signed (hcompact : jwt.Compact) (claims : Claims) :
    truthy (some (jwt.signedString claims)) = true := decide_eq_true (hcompact claims).1

/-- A refresh is for the account of the refresh token. -/
private theorem refreshRoute_keeps (hcompact : jwt.Compact) {refreshToken : String}
    (hrefreshes : site.Refreshes jwt deviceID (some refreshToken)) :
    (refreshRoute jwt (bearer (some refreshToken))).Keeps (siteRules jwt) (Site.Issued jwt deviceID) site := by
  refine keeps_quiet rfl fun site' now site'' hlater _ _ hlater' => .ret fun data hreply => ?_
  cases hanswer : refreshAccess jwt now (bearer (some refreshToken)) with
  | none =>
      rw [hanswer] at hreply
      cases hreply
  | some reply =>
      rw [hanswer] at hreply
      obtain rfl : reply = .http 200 data := hreply
      rcases refreshAccess_issues hanswer with
        ⟨message, herror⟩ | ⟨word, claims, hword, hvalid, _, hissued⟩
      · cases herror
      · cases hissued
        rw [headerWords_bearer, List.getElem?_cons_succ, ← List.head?_eq_getElem?] at hword
        have haccount := hrefreshes refreshToken word claims rfl hword (jwt.validateToken_eq_some hvalid).1
        exact ⟨truthy_signed hcompact _, admits_signed ((haccount.later hlater).later hlater')⟩

/-- What a refresh makes of a session. -/
structure ClientSession.Refreshed (jwt : JWT) (session : ClientSession) (site : Site)
    (outcome : Bool × ClientSession) : Prop where
  genuine : outcome.2.Genuine jwt site
  goes : session.Goes outcome.2
  token : outcome.1 = true → truthy outcome.2.token = true
  same : outcome.1 = false → outcome.2 = session

theorem refreshAccessToken_keeps (hcompact : jwt.Compact) (hgenuine : session.Genuine jwt site)
    (hrestored : session.authRestored = true) :
    (refreshAccessToken jwt session).Keeps (siteRules jwt) (session.Refreshed jwt) site := by
  have hfailed {later : Site} (hlater : site.Later later) : session.Refreshed jwt later (false, session) :=
    ⟨hgenuine.later hlater, .refl session, nofun, fun _ => rfl⟩
  unfold refreshAccessToken
  split
  case isFalse => exact .ret (hfailed (.refl site))
  case isTrue htruthy =>
    obtain ⟨refreshToken, htoken⟩ := Option.ne_none_iff_exists'.mp
      (show session.refreshToken ≠ none by rintro hnone; rw [hnone] at htruthy; cases htruthy)
    have hserver := refreshRoute_keeps hcompact (htoken ▸ hgenuine.refresh)
    rw [← htoken] at hserver
    refine (exchange_keeps hserver Site.Issued.later).bind fun site' answer hlater hissued => ?_
    split
    case h_2 => exact .ret (hfailed hlater)
    case h_1 data =>
      obtain ⟨hnew, hadmits⟩ := hissued _ rfl data rfl
      refine keeps_quiet rfl fun _ time site'' hlater' _ _ hlater'' => ?_
      have hwhile := (hlater.trans hlater').trans hlater''
      have hpermits {later : Site} (h : site''.Later later) :
          later.Permits jwt (.saveCache ⟨session.deviceID, session.refreshToken⟩) :=
        ⟨nofun, fun payload hpayload => by
          cases hpayload
          exact hgenuine.refresh.later (hwhile.trans h)⟩
      refine .perform (fun _ h _ => hpermits h) fun last saved after hlast _ _ hlast' _ => ?_
      have hafter := (hlater'.trans hlater'').trans (hlast.trans hlast')
      refine .ret ⟨⟨hadmits.later hafter, hgenuine.refresh.later (hlater.trans hafter),
        fun orderID horder => (hgenuine.order orderID horder).later (hlater.trans hafter), fun _ => hnew, ?_⟩,
        ⟨rfl, rfl, rfl, fun _ => hnew⟩, fun _ => hnew, nofun⟩
      intro hfresh
      rw [hrestored] at hfresh
      cases hfresh

private theorem maybeAutoRefresh_keeps (hcompact : jwt.Compact) (hgenuine : session.Genuine jwt site)
    (hrestored : session.authRestored = true) :
    (maybeAutoRefresh jwt session).Keeps (siteRules jwt)
      (fun site session' => session'.Genuine jwt site ∧ session.Goes session') site := by
  unfold maybeAutoRefresh
  split
  case isFalse => exact .ret ⟨hgenuine, .refl session⟩
  case isTrue =>
    refine keeps_quiet rfl fun _ now site'' hlater _ _ hlater' => ?_
    have hthere := hgenuine.later (hlater.trans hlater')
    split
    · exact .ret ⟨hthere, .refl session⟩
    · refine (refreshAccessToken_keeps hcompact hthere hrestored).bind fun last outcome _ hrefreshed => ?_
      exact .ret ⟨hrefreshed.genuine, hrefreshed.goes⟩

/-! ### Protected requests -/

/-- What a protected request makes of a session, with a response for its account. -/
structure ClientSession.Served (jwt : JWT) (session : ClientSession) (site : Site)
    (outcome : Option PageReply × ClientSession) : Prop where
  genuine : outcome.2.Genuine jwt site
  goes : session.Goes outcome.2
  answered : ∀ reply, outcome.1 = some reply → site.AnsweredFor session.deviceID reply

private theorem authHeader_account (hgenuine : session.Genuine jwt site) {now : Nat} {claims : Claims}
    (haccepted : acceptedClaims (jwt.validateToken now) session.authHeader = .ok claims) :
    site.HasAccount session.deviceID claims.userID := by
  unfold ClientSession.authHeader at haccepted
  split at haccepted
  case isTrue htruthy => exact hgenuine.access.account htruthy haccepted
  case isFalse => cases haccepted

theorem authRequest_keeps (hcompact : jwt.Compact) (request : PageRequest) (hgenuine : session.Genuine jwt site)
    (hrestored : session.authRestored = true)
    (horder : ∀ orderID, request.orderID = some orderID → site.Holds session.deviceID orderID) :
    (authRequest jwt request session).Keeps (siteRules jwt) (session.Served jwt) site := by
  refine (attempt_keeps request (fun now claims => authHeader_account hgenuine) horder).bind
    fun site' answer hlater hanswered => ?_
  have hthere := hgenuine.later hlater
  cases answer with
  | none => exact .ret ⟨hthere, .refl session, nofun⟩
  | some reply =>
      dsimp only
      split
      case isFalse => exact .ret ⟨hthere, .refl session, hanswered⟩
      case isTrue =>
        refine (refreshAccessToken_keeps hcompact hthere hrestored).bind fun last outcome hlast hrefreshed => ?_
        obtain ⟨succeeded, session'⟩ := outcome
        cases succeeded with
        | false =>
            exact .ret ⟨hrefreshed.genuine, hrefreshed.goes, fun other hother =>
              (hanswered other hother).later hlast⟩
        | true =>
            have hdevice : session'.deviceID = session.deviceID := hrefreshed.goes.device
            have haccess := hrefreshed.genuine.access
            dsimp only at haccess
            rw [hdevice] at haccess
            refine (attempt_keeps request (fun now claims haccepted => haccess.account (hrefreshed.token rfl)
              haccepted) fun orderID hnamed => ((horder orderID hnamed).later hlater).later hlast).bind
              fun after reply hafter hreply => ?_
            exact .ret ⟨hrefreshed.genuine.later hafter, hrefreshed.goes, hreply⟩

/-- A protected request and what the page makes of the response. -/
private theorem ask_keeps (hcompact : jwt.Compact) (request : PageRequest)
    {after : ClientSession → Option PageReply → ClientSession} (hgenuine : session.Genuine jwt site)
    (hrestored : session.authRestored = true)
    (horder : ∀ orderID, request.orderID = some orderID → site.Holds session.deviceID orderID)
    (hafter : ∀ site outcome, session.Served jwt site outcome →
      (after outcome.2 outcome.1).Genuine jwt site) :
    (ask jwt request after session).Keeps (siteRules jwt) (Screen.Genuine jwt) site := by
  refine (authRequest_keeps hcompact request hgenuine hrestored horder).bind fun site' outcome _ hserved => ?_
  exact .ret ⟨hafter site' outcome hserved, fun reply hreply => (hserved.answered reply hreply).1⟩

section

variable {outcome : Option PageReply × ClientSession}

/-- The order of a preview was drawn for the account of the session. -/
private theorem afterPreview_genuine (hserved : session.Served jwt site outcome)
    (htoken : truthy session.token = true) : (outcome.2.afterPreview outcome.1).Genuine jwt site := by
  obtain ⟨hgenuine, hgoes, hanswered⟩ := hserved
  unfold ClientSession.afterPreview
  split
  case h_2 => exact hgenuine
  case h_1 data hanswer =>
    refine ⟨hgenuine.access, hgenuine.refresh, fun orderID horder => ?_, fun _ => hgoes.token htoken,
      hgenuine.fresh⟩
    have hholds := (hanswered _ hanswer).2 orderID horder
    rwa [← hgoes.device] at hholds

private theorem afterCancel_genuine (hserved : session.Served jwt site outcome) :
    (outcome.2.afterCancel outcome.1).Genuine jwt site := by
  unfold ClientSession.afterCancel
  split
  · exact hserved.genuine.closed
  · exact hserved.genuine

private theorem afterDispatch_genuine (hserved : session.Served jwt site outcome)
    (hrestored : session.authRestored = true) : (outcome.2.afterDispatch outcome.1).Genuine jwt site :=
  hserved.genuine.polled (hserved.goes.restored.trans hrestored) _

private theorem afterPoll_genuine (hserved : session.Served jwt site outcome)
    (hrestored : session.authRestored = true) : (outcome.2.afterPoll outcome.1).Genuine jwt site := by
  have hstill := hserved.goes.restored.trans hrestored
  unfold ClientSession.afterPoll
  split
  · exact hserved.genuine.polled hstill _
  · split
    · exact hserved.genuine.closed.polled hstill _
    · exact hserved.genuine.polled hstill _
  · exact hserved.genuine

end

/-! ### Getting a session -/

/-- A login is for the account of the device. -/
private theorem loginRoute_keeps (hcompact : jwt.Compact) (compareHashAndPassword : String → String → Bool)
    (device password : String) :
    (loginRoute jwt compareHashAndPassword device password).Keeps (siteRules jwt)
      (Site.LoggedIn jwt (some device)) site := by
  refine keeps_quiet rfl fun _ now _ _ _ _ _ => ?_
  refine keeps_quiet rfl fun site' answer site'' _ _ hread hlater => ?_
  cases answer with
  | error err => exact .ret ⟨nofun, nofun⟩
  | ok client =>
      obtain ⟨env, hexec⟩ := hread
      have hanswer : (accountExec env.statement (.getSmartClient device) site'.clients).1 = .ok client :=
        congrArg Prod.fst (Option.some.inj hexec)
      have hrow : site'.HasAccount (some device) client.id :=
        ⟨device, client, rfl, accountExec_getSmartClient hanswer, rfl⟩
      dsimp only
      split
      · exact .ret ⟨nofun, nofun⟩
      · refine keeps_quiet rfl fun _ _ last hwritten _ _ hwritten' => ?_
        have haccount := ((hrow.later hlater).later hwritten).later hwritten'
        refine .ret ⟨fun data hdata => ?_, fun data hdata => ?_⟩
        · cases hdata
          exact ⟨truthy_signed hcompact _, admits_signed haccount⟩
        · cases hdata
          exact refreshes_signed hcompact haccount

private theorem login_keeps (hcompact : jwt.Compact) (compareHashAndPassword : String → String → Bool)
    (device password : String) (hgenuine : session.Genuine jwt site) (hrestored : session.authRestored = true)
    (htoken : truthy session.token = false) :
    (login jwt compareHashAndPassword device password session).Keeps (siteRules jwt)
      (fun site session' => session'.Genuine jwt site) site := by
  have hserver := @loginRoute_keeps jwt site hcompact compareHashAndPassword device password
  refine (exchange_keeps hserver Site.LoggedIn.later).bind fun site' answer hlater hlogged => ?_
  split
  case h_2 => exact .ret (hgenuine.later hlater)
  case h_1 data =>
    obtain ⟨hissued, hrefreshes⟩ := hlogged _ rfl
    have hpermits {later : Site} (h : site'.Later later) :
        later.Permits jwt (.saveCache ⟨some device, data.get "refresh_token"⟩) :=
      ⟨nofun, fun payload hpayload => by
        cases hpayload
        exact (hrefreshes data rfl).later h⟩
    refine .perform (fun _ h _ => hpermits h) fun last saved after hlast _ _ hlast' _ => ?_
    have hafter := hlast.trans hlast'
    refine .ret ⟨(hissued data rfl).2.later hafter, (hrefreshes data rfl).later hafter, ?_,
      fun _ => (hissued data rfl).1, fun hfresh => by simp [hrestored] at hfresh⟩
    intro orderID horder
    dsimp only at horder
    rw [hgenuine.blank htoken] at horder
    cases horder

/-- A session that was just opened takes over the device of the cache file. -/
private theorem restoreSession_keeps (hcompact : jwt.Compact) (hgenuine : session.Genuine jwt site)
    (hfresh : session.authRestored = false) :
    (restoreSession jwt session).Keeps (siteRules jwt) (fun site session' => session'.Genuine jwt site) site := by
  obtain ⟨hnone, _⟩ := hgenuine.fresh hfresh
  have hblank := hgenuine.blank (by rw [hnone]; rfl)
  have hempty {later : Site} {deviceID refreshToken : Option String}
      (hrefreshes : later.Refreshes jwt deviceID refreshToken) :
      ({ session with authRestored := true, refreshToken, deviceID } : ClientSession).Genuine jwt later := by
    refine ⟨?_, hrefreshes, ?_, fun hshown => absurd hblank hshown, nofun⟩
    · dsimp only
      rw [hnone]
      exact .none
    · intro orderID horder
      dsimp only at horder
      rw [hblank] at horder
      cases horder
  refine keeps_quiet rfl fun site' cached site'' hlater howned hdoes hlater' => ?_
  have hcached : site''.Refreshes jwt cached.deviceID cached.refreshToken := by
    obtain ⟨env, hexec⟩ := hdoes
    cases hexec
    split
    · exact howned.cached
    · exact .none
  split
  case isFalse =>
    refine .ret ⟨?_, (hgenuine.refresh.later hlater).later hlater', fun orderID horder =>
      ((hgenuine.order orderID horder).later hlater).later hlater', hgenuine.shown, nofun⟩
    exact (hgenuine.access.later hlater).later hlater'
  case isTrue =>
    refine (refreshAccessToken_keeps hcompact (hempty hcached) rfl).bind fun last outcome _ hrefreshed => ?_
    obtain ⟨succeeded, session'⟩ := outcome
    cases succeeded with
    | true => exact .ret hrefreshed.genuine
    | false =>
        obtain rfl := hrefreshed.same rfl
        exact keeps_quiet rfl fun _ _ _ _ _ _ _ => .ret (hempty .none)

private theorem register_keeps (req : RegisterRequest) (hashedPwd : String)
    (hgenuine : session.Genuine jwt site) :
    (register req hashedPwd session).Keeps (siteRules jwt)
      (fun site session' => session'.Genuine jwt site) site := by
  have hserver : (Prog.lift BrowserOp.account (fun _ ans => ans) (registerClient (some req) hashedPwd) :
      BrowserProg Reply).Keeps (siteRules jwt) (fun _ _ => True) site := by
    refine keeps_quiet rfl fun _ answer _ _ _ _ _ => ?_
    cases answer <;> exact .ret trivial
  exact (exchange_keeps hserver fun _ _ => trivial).bind fun site' _ hlater _ => .ret (hgenuine.later hlater)

/-! ### Clicks of a session -/

private theorem button_keeps (hcompact : jwt.Compact) {request : ClientSession → BrowserProg Screen}
    (hgenuine : session.Genuine jwt site) (hrestored : session.authRestored = true)
    (hrequest : ∀ site' session', site.Later site' → session'.Genuine jwt site' → session.Goes session' →
      (request session').Keeps (siteRules jwt) (Screen.Genuine jwt) site') :
    (button jwt request session).Keeps (siteRules jwt) (Screen.Genuine jwt) site := by
  refine (maybeAutoRefresh_keeps hcompact (hgenuine.polled hrestored false) hrestored).bind
    fun site' session' hlater hkept => ?_
  exact hrequest site' session' hlater hkept.1
    ⟨hkept.2.device, hkept.2.order, hkept.2.restored, hkept.2.token⟩

/-- **A click of a session that shows its own order** leads to a screen that shows its own
order, and nobody is refused as somebody else. -/
theorem Click.run_keeps (hcompact : jwt.Compact) (compareHashAndPassword : String → String → Bool)
    (click : Click) (hgenuine : session.Genuine jwt site) (hshown : click.shown session = true) :
    (click.run jwt compareHashAndPassword session).Keeps (siteRules jwt) (Screen.Genuine jwt) site := by
  have hopen (hboth : (session.authRestored && truthy session.token) = true) :
      session.authRestored = true ∧ truthy session.token = true := by simpa using hboth
  have hhome (hboth : (session.authRestored && !truthy session.token) = true) :
      session.authRestored = true ∧ truthy session.token = false := by simpa using hboth
  have hform (hall : (session.authRestored && truthy session.token && truthy session.orderID) = true) :
      session.authRestored = true ∧ truthy session.token = true ∧
        ∃ orderID, session.orderID = some orderID := by
    simp only [Bool.and_eq_true] at hall
    refine ⟨hall.1.1, hall.1.2, Option.ne_none_iff_exists'.mp fun hnone => ?_⟩
    rw [hnone] at hall
    cases hall.2
  have hscreen {first : BrowserProg ClientSession} (hfirst : first.Keeps (siteRules jwt)
      (fun site session' => session'.Genuine jwt site) site) :
      (first >>= fun session' => .ret ⟨session', none⟩ : BrowserProg Screen).Keeps (siteRules jwt)
        (Screen.Genuine jwt) site :=
    hfirst.bind fun _ _ _ hsession => .ret ⟨hsession, nofun⟩
  cases click with
  | restore => exact hscreen (restoreSession_keeps hcompact hgenuine (by simpa [Click.shown] using hshown))
  | login device password =>
      obtain ⟨hrestored, htoken⟩ := hhome hshown
      exact hscreen (login_keeps hcompact compareHashAndPassword device password hgenuine hrestored htoken)
  | register req hashedPwd => exact hscreen (register_keeps req hashedPwd hgenuine)
  | rerun =>
      exact button_keeps hcompact hgenuine (hopen hshown).1 fun _ _ _ hsession _ => .ret ⟨hsession, nofun⟩
  | refresh =>
      obtain ⟨hrestored, _⟩ := hopen hshown
      refine button_keeps hcompact hgenuine hrestored fun site' session' _ hsession hgoes => ?_
      refine (refreshAccessToken_keeps hcompact hsession (hgoes.restored.trans hrestored)).bind
        fun _ outcome _ hrefreshed => ?_
      exact .ret ⟨hrefreshed.genuine, nofun⟩
  | exit =>
      refine hscreen (keeps_quiet rfl fun _ _ _ _ _ _ _ => .ret ?_)
      exact ⟨.none, .none, nofun, fun hshown => absurd rfl hshown, fun _ => ⟨rfl, rfl⟩⟩
  | preview body =>
      obtain ⟨hrestored, htoken⟩ := hopen hshown
      refine button_keeps hcompact hgenuine hrestored fun site' session' _ hsession hgoes => ?_
      exact ask_keeps hcompact _ hsession (hgoes.restored.trans hrestored) nofun
        fun _ _ hserved => afterPreview_genuine hserved (hgoes.token htoken)
  | cancel =>
      obtain ⟨hrestored, _, orderID, horder⟩ := hform hshown
      refine button_keeps hcompact hgenuine hrestored fun site' session' hlater hsession hgoes => ?_
      refine ask_keeps hcompact _ hsession (hgoes.restored.trans hrestored) ?_
        fun _ _ hserved => afterCancel_genuine hserved
      intro named hnamed
      rw [horder] at hnamed
      cases hnamed
      rw [hgoes.device]
      exact (hgenuine.order _ horder).later hlater
  | dispatch =>
      obtain ⟨hrestored, _⟩ := hform hshown
      refine button_keeps hcompact hgenuine hrestored fun site' session' hlater hsession hgoes => ?_
      refine ask_keeps hcompact _ hsession (hgoes.restored.trans hrestored) ?_
        fun _ _ hserved => afterDispatch_genuine hserved (hgoes.restored.trans hrestored)
      intro named hnamed
      rw [hgoes.device]
      exact (hgenuine.order _ hnamed).later hlater
  | history =>
      obtain ⟨hrestored, _⟩ := hopen hshown
      refine button_keeps hcompact hgenuine hrestored fun site' session' _ hsession hgoes => ?_
      exact ask_keeps hcompact _ hsession (hgoes.restored.trans hrestored) nofun
        fun _ _ hserved => hserved.genuine
  | poll =>
      have hrestored : session.authRestored = true := by
        by_contra hnot
        have hfresh := hgenuine.fresh (Bool.not_eq_true _ ▸ hnot)
        rw [Click.shown, hfresh.2] at hshown
        cases hshown
      exact ask_keeps hcompact _ hgenuine hrestored nofun
        fun _ _ hserved => afterPoll_genuine hserved hrestored

end

end AutoGrocery
