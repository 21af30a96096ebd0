import AutoGrocery.Sessions.Handlers

/-!
How long a login lasts. Every token ever handed out goes back to a password
login: an access token to the login itself or to a refresh with a token of that
login. So a protected route admits nobody later than the two lifetimes after
the login, whatever tokens are presented where.
-/

namespace AutoGrocery

open Interleaving

section

variable (jwt : JWT) (compareHashAndPassword : String → String → Bool)

/-- A successful password login of a client, and what it issued. -/
def Visit.LoggedIn (visit : Visit) (userID : Int) (role : String) : Prop :=
  ∃ req client, visit.request = .login (some req) ∧
    visit.clients.rows.lookup req.deviceID = some client ∧ (client.id : Int) = userID ∧
    compareHashAndPassword client.passwordHash req.password = true ∧
    visit.served = .reply (loginReply jwt visit.now userID role)

/-- Claims that go back to a login: those of its refresh token, or those of an
access token issued before that refresh token expired. -/
def FromLogin (visits : List Visit) (claims : Claims) : Prop :=
  ∃ login ∈ visits, login.LoggedIn jwt compareHashAndPassword claims.userID claims.role ∧
    (claims.tokenType = "REFRESH" ∧ claims.expiresAt * 1000 ≤ login.now + refreshLifetime ∨
      claims.tokenType = "ACCESS" ∧
        claims.expiresAt * 1000 ≤ login.now + refreshLifetime + accessLifetime)

/-- Every visit is in the past, and every token handed out goes back to a login. -/
structure Grounded (pool : Pool Unit Accounts) : Prop where
  past : ∀ visit ∈ pool.state.visits, visit.now ≤ pool.state.now
  tokens : ∀ visit ∈ pool.state.visits, ∀ token ∈ visit.tokens, ∃ claims,
    token = jwt.signedString claims ∧ FromLogin jwt compareHashAndPassword pool.state.visits claims

end

/-! ### What a request is answered with -/

section

variable {jwt : JWT} {compareHashAndPassword : String → String → Bool} {now : Nat}
  {db : SmartClients} {script : List Fault}

/-- A login is refused, or the password was right. -/
theorem loginClient_value (body : Option LoginRequest) :
    let outcome := (loginClient jwt compareHashAndPassword now body).run
      (scripted accountExec .works) (db, script)
    (∃ message status, outcome.value = httpError message status) ∨
      ∃ req client, body = some req ∧ db.rows.lookup req.deviceID = some client ∧
        compareHashAndPassword client.passwordHash req.password = true ∧
        outcome.value = loginReply jwt now client.id "CLIENT" := by
  cases body with
  | none => exact Or.inl ⟨_, _, rfl⟩
  | some req =>
      simp only [loginClient, Prog.run_call]
      cases hanswer : (scripted accountExec .works (.getSmartClient req.deviceID) (db, script)).1 with
      | error err => exact Or.inl ⟨_, _, rfl⟩
      | ok client =>
          dsimp only
          by_cases hpassword : compareHashAndPassword client.passwordHash req.password = true
          · refine Or.inr ⟨req, client, rfl, accountExec_getSmartClient hanswer, hpassword, ?_⟩
            rw [if_neg (by simp [hpassword])]
            rfl
          · rw [if_pos (by simpa using hpassword)]
            exact Or.inl ⟨_, _, rfl⟩

/-- A refresh is refused, or its header holds a refresh token. -/
theorem refreshAccess_issues {authHeader : String} {reply : Reply}
    (hreply : refreshAccess jwt now authHeader = some reply) :
    (∃ message, reply = httpError message 401) ∨
      ∃ tokenString claims, (headerWords authHeader)[1]? = some tokenString ∧
        jwt.validateToken now tokenString = some claims ∧ claims.tokenType = "REFRESH" ∧
        reply = .http 200 (.json
          [("access_token", jwt.generateAccessToken now claims.userID claims.role)]) := by
  unfold refreshAccess at hreply
  split at hreply
  · cases hreply
    exact Or.inl ⟨_, rfl⟩
  cases hword : (headerWords authHeader)[1]? with
  | none => simp [hword] at hreply
  | some tokenString =>
      simp only [hword] at hreply
      cases hvalid : jwt.validateToken now tokenString with
      | none =>
          simp only [hvalid, Option.some.injEq] at hreply
          exact Or.inl ⟨_, hreply.symm⟩
      | some claims =>
          simp only [hvalid] at hreply
          split at hreply
          · exact Or.inl ⟨_, (Option.some.inj hreply).symm⟩
          · rename_i htype
            exact Or.inr ⟨tokenString, claims, rfl, hvalid, not_not.mp htype,
              (Option.some.inj hreply).symm⟩

/-- A request that is admitted presents an access token as the second word. -/
theorem acceptedClaims_eq_ok {validateToken : String → Option Claims} {authHeader : String}
    {claims : Claims} (hok : acceptedClaims validateToken authHeader = .ok claims) :
    ∃ tokenString, (headerWords authHeader)[1]? = some tokenString ∧
      validateToken tokenString = some claims ∧ claims.tokenType = "ACCESS" := by
  unfold acceptedClaims at hok
  split at hok
  · cases hok
  split at hok
  · rename_i scheme token hwords
    refine ⟨String.ofList token, by simp [headerWords, hwords], ?_⟩
    split at hok
    · cases hok
    split at hok
    · cases hok
    split at hok
    · cases hok
    · rename_i found hvalid htype
      cases hok
      exact ⟨hvalid, not_not.mp htype⟩
  · cases hok

end

/-! ### Where tokens come from -/

section

variable {jwt : JWT} {compareHashAndPassword : String → String → Bool}

private theorem tokens_of_text {visit : Visit} {message : String} {status : Nat}
    (hserved : visit.served = .reply (httpError message status)) : visit.tokens = [] := by
  rw [Visit.tokens, hserved]
  rfl

/-- A token that is handed out was made for a login, or for a refresh with a token
that was still good. -/
theorem serve_tokens {now : Nat} {db : SmartClients} {script : List Fault} {request : AccountRequest}
    {visit : Visit}
    (hvisit : visit =
      ⟨now, db, request, (serveAccount jwt compareHashAndPassword now script request db).1⟩)
    {token : String} (htoken : token ∈ visit.tokens) :
    (∃ userID role, visit.LoggedIn jwt compareHashAndPassword userID role ∧
        (token = jwt.generateAccessToken now userID role ∨
          token = jwt.generateRefreshToken now userID role)) ∨
      ∃ authHeader tokenString claims, request = .refresh authHeader ∧
        (headerWords authHeader)[1]? = some tokenString ∧
        jwt.validateToken now tokenString = some claims ∧ claims.tokenType = "REFRESH" ∧
        token = jwt.generateAccessToken now claims.userID claims.role := by
  subst hvisit
  cases request with
  | register body hashedPwd =>
      have hnone : ∃ reply, (serveAccount jwt compareHashAndPassword now script
            (.register body hashedPwd) db).1 =
          .reply reply ∧ (VisitAnswer.reply reply).field "access_token" = none ∧
          (VisitAnswer.reply reply).field "refresh_token" = none := by
        refine ⟨_, rfl, ?_⟩
        cases body with
        | none => exact ⟨rfl, rfl⟩
        | some req =>
            simp only [registerClient, Prog.run_call]
            cases (scripted accountExec .works (.createSmartClient req.deviceID req.email req.phone
              hashedPwd) (db, script)).1 with
            | error err => exact ⟨rfl, rfl⟩
            | ok value => exact ⟨rfl, rfl⟩
      obtain ⟨reply, hserved, haccess, hrefresh⟩ := hnone
      simp only [Visit.tokens, hserved, haccess, hrefresh] at htoken
      cases htoken
  | login body =>
      have hserved : (serveAccount jwt compareHashAndPassword now script (.login body) db).1 =
        .reply ((loginClient jwt compareHashAndPassword now body).run
          (scripted accountExec .works) (db, script)).value := rfl
      rcases @loginClient_value jwt compareHashAndPassword now db script body with ⟨message, status, hvalue⟩ |
        ⟨req, client, rfl, hclient, hpassword, hvalue⟩
      · rw [hvalue] at hserved
        rw [tokens_of_text hserved] at htoken
        cases htoken
      · rw [hvalue] at hserved
        refine Or.inl ⟨client.id, "CLIENT", ⟨req, client, rfl, hclient, rfl, hpassword, hserved⟩, ?_⟩
        have haccess : (VisitAnswer.reply (loginReply jwt now client.id "CLIENT")).field "access_token" =
          some (jwt.generateAccessToken now client.id "CLIENT") := rfl
        have hrefresh : (VisitAnswer.reply (loginReply jwt now client.id "CLIENT")).field "refresh_token" =
          some (jwt.generateRefreshToken now client.id "CLIENT") := rfl
        simpa [Visit.tokens, hserved, haccess, hrefresh] using htoken
  | refresh authHeader =>
      have hserved : (serveAccount jwt compareHashAndPassword now script (.refresh authHeader) db).1 =
        ((refreshAccess jwt now authHeader).map .reply).getD .panicked := rfl
      cases hreply : refreshAccess jwt now authHeader with
      | none =>
          rw [hreply] at hserved
          rw [Visit.tokens, hserved] at htoken
          cases htoken
      | some reply =>
          rw [hreply] at hserved
          rcases refreshAccess_issues hreply with ⟨message, rfl⟩ |
            ⟨tokenString, claims, hword, hvalid, htype, rfl⟩
          · rw [tokens_of_text hserved] at htoken
            cases htoken
          · refine Or.inr ⟨authHeader, tokenString, claims, rfl, hword, hvalid, htype, ?_⟩
            simpa [Visit.tokens, hserved, VisitAnswer.field] using htoken
  | enter authHeader =>
      cases hclaims : acceptedClaims (jwt.validateToken now) authHeader with
      | error message =>
          simp [Visit.tokens, serveAccount, hclaims, VisitAnswer.field, httpError] at htoken
      | ok claims =>
          simp [Visit.tokens, serveAccount, hclaims, VisitAnswer.field] at htoken
  | rewrite deviceID refreshToken tokenExpiry =>
      simp [Visit.tokens, serveAccount, VisitAnswer.field] at htoken

end

/-! ### Runs -/

section

variable {jwt : JWT} {compareHashAndPassword : String → String → Bool}
  {pool : Pool Unit Accounts} {visits : List Visit} {claims : Claims}

theorem FromLogin.mono (hsession : FromLogin jwt compareHashAndPassword visits claims) (more : List Visit) :
    FromLogin jwt compareHashAndPassword (visits ++ more) claims := by
  obtain ⟨login, hlogin, hrest⟩ := hsession
  exact ⟨login, List.mem_append_left more hlogin, hrest⟩

/-- A word that validates goes back to a login. -/
theorem Grounded.session (hgrounded : Grounded jwt compareHashAndPassword pool) {visit : Visit}
    {index : Nat} (hunforged : unforged jwt pool index visit = true) {now : Nat} {tokenString : String}
    (hword : tokenString ∈ visit.request.words)
    (hvalid : jwt.validateToken now tokenString = some claims) :
    FromLogin jwt compareHashAndPassword pool.state.visits claims ∧ now < claims.expiresAt * 1000 := by
  obtain ⟨hparse, hexpiry⟩ := jwt.validateToken_eq_some hvalid
  have hissued := List.all_eq_true.mp hunforged tokenString hword
  rw [hparse, Option.isNone_some, Bool.false_or, decide_eq_true_eq] at hissued
  obtain ⟨earlier, hearlier, htoken⟩ := hissued
  obtain ⟨signed, rfl, hsession⟩ := hgrounded.tokens earlier hearlier tokenString htoken
  obtain rfl := jwt.sound signed claims hparse
  exact ⟨hsession, hexpiry⟩

theorem Grounded.step (hgrounded : Grounded jwt compareHashAndPassword pool)
    {choice : Nat × List Fault × AccountRequest} {thread : Unit} {move : Move Unit Accounts Visit}
    (hact : visitAct jwt compareHashAndPassword choice thread pool.state = some move) {index : Nat}
    (hunforged : unforged jwt pool index move.event = true) :
    Grounded jwt compareHashAndPassword (pool.after index move) := by
  obtain ⟨elapsed, script, request⟩ := choice
  have hmove := Option.some.inj hact
  set now := pool.state.now + elapsed with hnow
  set visit : Visit := ⟨now, pool.state.clients, request,
    (serveAccount jwt compareHashAndPassword now script request pool.state.clients).1⟩ with hvisit
  subst hmove
  have hpast : ∀ earlier ∈ pool.state.visits ++ [visit], earlier.now ≤ now := by
    intro earlier hearlier
    rcases List.mem_append.mp hearlier with hold | hnew
    · have := hgrounded.past earlier hold
      omega
    · rw [List.mem_singleton.mp hnew]
  refine ⟨hpast, fun earlier hearlier token htoken => ?_⟩
  rcases List.mem_append.mp hearlier with hold | hnew
  · obtain ⟨claims, hsigned, hsession⟩ := hgrounded.tokens earlier hold token htoken
    exact ⟨claims, hsigned, hsession.mono [visit]⟩
  · rw [List.mem_singleton.mp hnew] at htoken
    have hself : visit ∈ pool.state.visits ++ [visit] := List.mem_append_right _ (List.mem_singleton_self _)
    rcases serve_tokens hvisit htoken with ⟨userID, role, hlogin, hmade⟩ |
      ⟨authHeader, tokenString, claims, rfl, hword, hvalid, htype, rfl⟩
    · rcases hmade with rfl | rfl
      · refine ⟨_, rfl, visit, hself, hlogin, Or.inr ⟨rfl, ?_⟩⟩
        have hexpiry := accessClaims_expiry now userID role
        exact hexpiry.trans (Nat.add_le_add_right (Nat.le_add_right now refreshLifetime) accessLifetime)
      · exact ⟨_, rfl, visit, hself, hlogin, Or.inl ⟨rfl, refreshClaims_expiry now userID role⟩⟩
    · obtain ⟨⟨login, hlogin, hlogged, hbound⟩, hexpiry⟩ := hgrounded.session hunforged
        (List.mem_of_getElem? hword) hvalid
      refine ⟨_, rfl, login, List.mem_append_left _ hlogin, hlogged, Or.inr ⟨rfl, ?_⟩⟩
      -- the refresh token was good until its own expiry
      have hrefresh : claims.expiresAt * 1000 ≤ login.now + refreshLifetime := by
        rcases hbound with ⟨_, hle⟩ | ⟨haccess, _⟩
        · exact hle
        · rw [haccess] at htype
          exact absurd htype (by decide)
      have hnow : now ≤ login.now + refreshLifetime := hexpiry.le.trans hrefresh
      exact (accessClaims_expiry now claims.userID claims.role).trans
        (Nat.add_le_add_right hnow accessLifetime)

theorem Grounded.run {now : Nat} {clients : SmartClients} {trace : List (Nat × Visit)}
    (hrun : Run (visitAct jwt compareHashAndPassword)
      (fun pool index visit => unforged jwt pool index visit = true) (openingPool now clients) trace pool) :
    Grounded jwt compareHashAndPassword pool := by
  have hstart : Grounded jwt compareHashAndPassword (openingPool now clients) := by
    constructor
    · intro visit hvisit
      cases hvisit
    · intro visit hvisit
      cases hvisit
  exact hrun.invariant (fun pool _ => Grounded jwt compareHashAndPassword pool) hstart
    fun _ _ _ _ _ _ hgrounded _ hact hunforged => hgrounded.step hact hunforged

/-- A request that is let through presents a token of a session. -/
theorem Grounded.admitted (hgrounded : Grounded jwt compareHashAndPassword pool)
    {choice : Nat × List Fault × AccountRequest} {thread : Unit} {move : Move Unit Accounts Visit}
    (hact : visitAct jwt compareHashAndPassword choice thread pool.state = some move)
    (hunforged : unforged jwt pool 0 move.event = true) (hserved : move.event.served = .admitted claims) :
    pool.state.now ≤ move.event.now ∧ move.event.now < claims.expiresAt * 1000 ∧
      FromLogin jwt compareHashAndPassword pool.state.visits claims ∧ claims.tokenType = "ACCESS" := by
  obtain ⟨elapsed, script, request⟩ := choice
  obtain rfl := Option.some.inj hact
  refine ⟨Nat.le_add_right _ _, ?_⟩
  cases request with
  | register body hashedPwd => cases hserved
  | login body => cases hserved
  | refresh authHeader =>
      have hreply : ((refreshAccess jwt (pool.state.now + elapsed) authHeader).map VisitAnswer.reply).getD
          .panicked = .admitted claims := hserved
      cases hrefresh : refreshAccess jwt (pool.state.now + elapsed) authHeader with
      | none =>
          rw [hrefresh] at hreply
          cases hreply
      | some reply =>
          rw [hrefresh] at hreply
          cases hreply
  | enter authHeader =>
      cases hclaims : acceptedClaims (jwt.validateToken (pool.state.now + elapsed)) authHeader with
      | error message => simp [serveAccount, hclaims] at hserved
      | ok found =>
          simp only [serveAccount, hclaims, VisitAnswer.admitted.injEq] at hserved
          subst hserved
          obtain ⟨tokenString, hword, hvalid, htype⟩ := acceptedClaims_eq_ok hclaims
          obtain ⟨hsession, hexpiry⟩ := hgrounded.session hunforged (List.mem_of_getElem? hword) hvalid
          exact ⟨hexpiry, hsession, htype⟩
  | rewrite deviceID refreshToken tokenExpiry => cases hserved

/-- **Sessions end.** In every run of logins, refreshes and protected requests by
anybody, in which nobody forges a signature, a protected route lets a request
through with a user id and a role only less than seven days and fifteen minutes
after a password login of the client with that id, which issued that role. No
protected route accepts a refresh token, and refresh accepts no access token. -/
theorem admitted_after_login {now : Nat} {clients : SmartClients} {trace : List (Nat × Visit)}
    (hrun : Run (visitAct jwt compareHashAndPassword)
      (fun pool index visit => unforged jwt pool index visit = true) (openingPool now clients) trace pool) :
    (∀ (choice : Nat × List Fault × AccountRequest) (move : Move Unit Accounts Visit) (claims : Claims),
      visitAct jwt compareHashAndPassword choice () pool.state = some move →
      unforged jwt pool 0 move.event = true → move.event.served = .admitted claims →
      ∃ login ∈ pool.state.visits,
        login.LoggedIn jwt compareHashAndPassword claims.userID claims.role ∧
        login.now ≤ move.event.now ∧
        move.event.now < login.now + refreshLifetime + accessLifetime) ∧
    (∀ (time issued : Nat) (userID : Int) (role authHeader : String) (claims : Claims),
      (headerWords authHeader)[1]? = some (jwt.generateRefreshToken issued userID role) →
      acceptedClaims (jwt.validateToken time) authHeader ≠ .ok claims) ∧
    ∀ (time issued : Nat) (userID : Int) (role authHeader : String) (reply : Reply),
      (headerWords authHeader)[1]? = some (jwt.generateAccessToken issued userID role) →
      refreshAccess jwt time authHeader = some reply → reply.status ≠ some 200 := by
  have hgrounded := Grounded.run hrun
  refine ⟨fun choice move claims hact hunforged hserved => ?_, ?_, ?_⟩
  · obtain ⟨hlater, hexpiry, ⟨login, hlogin, hlogged, hbound⟩, htype⟩ :=
      hgrounded.admitted hact hunforged hserved
    refine ⟨login, hlogin, hlogged, (hgrounded.past login hlogin).trans hlater, ?_⟩
    rcases hbound with ⟨hrefresh, _⟩ | ⟨_, hle⟩
    · rw [hrefresh] at htype
      exact absurd htype (by decide)
    · exact hexpiry.trans_le hle
  · intro time issued userID role authHeader claims hword hok
    obtain ⟨tokenString, hsecond, hvalid, htype⟩ := acceptedClaims_eq_ok hok
    obtain rfl := Option.some.inj (hword.symm.trans hsecond)
    obtain ⟨rfl, _⟩ := jwt.validateToken_signed hvalid
    exact absurd htype (by simp [refreshClaims])
  · intro time issued userID role authHeader reply hword hreply hstatus
    rcases refreshAccess_issues hreply with ⟨message, rfl⟩ |
      ⟨tokenString, claims, hsecond, hvalid, htype, _⟩
    · cases hstatus
    · obtain rfl := Option.some.inj (hword.symm.trans hsecond)
      obtain ⟨rfl, _⟩ := jwt.validateToken_signed hvalid
      exact absurd htype (by simp [accessClaims])

end

/-! ### One fridge -/

namespace Sample

/-- Tokens of client 7, with the times in their names. -/
def tokens : List (String × Claims) :=
  [("access-0", accessClaims 0 7 "CLIENT"), ("refresh-0", refreshClaims 0 7 "CLIENT"),
    ("access-1", accessClaims 1000 7 "CLIENT"), ("refresh-1", refreshClaims 1000 7 "CLIENT"),
    ("access-2", accessClaims 2000 7 "CLIENT"),
    ("access-last", accessClaims (refreshLifetime - 1000) 7 "CLIENT")]

theorem tokens_lookup : ∀ entry ∈ tokens, tokens.lookup entry.1 = some entry.2 := by
  decide

/-- A library that signs these claims and no others. -/
def jwt : JWT where
  signedString claims := ((tokens.find? fun entry => entry.2 = claims).map Prod.fst).getD "unsigned"
  parseWithClaims token := tokens.lookup token
  sound claims found hparse := by
    cases hfind : tokens.find? fun entry => entry.2 = claims with
    | none =>
        rw [hfind] at hparse
        cases hparse
    | some entry =>
        rw [hfind] at hparse
        have hentry := tokens_lookup entry (List.mem_of_find?_eq_some hfind)
        have hsome := List.find?_some hfind
        have hclaims : entry.2 = claims := of_decide_eq_true hsome
        exact (Option.some.inj (hparse.symm.trans hentry)).trans hclaims

def compareHashAndPassword (hash password : String) : Bool := decide (hash = "hash of " ++ password)

/-- A fridge is registered as client 7. -/
def clients : SmartClients :=
  ⟨(∅ : Relational.Table String SmartClient).insert "fridge"
    ⟨7, "fridge@home", "", "hash of secret", none, none⟩, 8⟩

def login : AccountRequest := .login (some ⟨"fridge", "secret"⟩)

end Sample

/-- The fridge logs in and refreshes a second before its refresh token expires.
Almost fifteen minutes later it is still let in. -/
theorem admitted_after_login_sample :
    ∃ trace pool move, Run (visitAct Sample.jwt Sample.compareHashAndPassword)
        (fun pool index visit => unforged Sample.jwt pool index visit = true)
        (openingPool 0 Sample.clients) trace pool ∧
      visitAct Sample.jwt Sample.compareHashAndPassword
        (899000, [], .enter "Bearer access-last") () pool.state = some move ∧
      ∃ login ∈ pool.state.visits,
        login.LoggedIn Sample.jwt Sample.compareHashAndPassword 7 "CLIENT" ∧
        move.event.now < login.now + refreshLifetime + accessLifetime := by
  obtain ⟨trace, pool, hrun, hcheck⟩ := run_of_play
    (visitAct Sample.jwt Sample.compareHashAndPassword) (unforged Sample.jwt)
    (openingPool 0 Sample.clients)
    [(0, 0, [], Sample.login), (0, refreshLifetime - 1000, [], .refresh "Bearer refresh-0")]
    (fun _ pool => (visitAct Sample.jwt Sample.compareHashAndPassword
      (899000, [], .enter "Bearer access-last") () pool.state).any fun move =>
        unforged Sample.jwt pool 0 move.event &&
          move.event.served.claims? = some (accessClaims (refreshLifetime - 1000) 7 "CLIENT"))
    (by decide +kernel)
  obtain ⟨move, hact, hmove⟩ := (Option.any_eq_true _ _).mp hcheck
  rw [Bool.and_eq_true, decide_eq_true_eq] at hmove
  have hserved : move.event.served =
      .admitted (accessClaims (refreshLifetime - 1000) 7 "CLIENT") := by
    cases hend : move.event.served with
    | admitted claims =>
        rw [hend] at hmove
        rw [Option.some.inj hmove.2]
    | _ =>
        rw [hend] at hmove
        cases hmove.2
  obtain ⟨login, hlogin, hlogged, _, hbound⟩ :=
    (admitted_after_login hrun).1 _ move _ hact hmove.1 hserved
  exact ⟨trace, pool, move, hrun, hact, login, hlogin, hlogged, hbound⟩

end AutoGrocery
