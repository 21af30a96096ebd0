import AutoGrocery.Sessions.Logins

/-!
Revoking a refresh token. A login stores its refresh token with the client, so
that the column can be cleared or overwritten to end the session. The refresh
endpoint never reads the column. What it accepts is the stored token as long as
nobody presents a token that was never stored, because the statement failed, or
that another login, or an administrator, has replaced.
-/

namespace AutoGrocery

open Interleaving

/-- A visit, with the faults its statements met. -/
structure VisitRecord where
  script : List Fault
  visit : Visit

/-- The client whose token columns a visit wrote, by its device. The second statement of a
login writes them, unless it fails, and the login does not look at its error. -/
def VisitRecord.writes (record : VisitRecord) : Option String :=
  match record.visit.request with
  | .login (some req) =>
      if (record.visit.served.field "refresh_token").isSome ∧ (record.script.tail.headD .works).reaches then
        some req.deviceID
      else none
  | .rewrite deviceID _ _ => some deviceID
  | _ => none

theorem VisitRecord.writes_login {record : VisitRecord} {req : LoginRequest}
    (hlogin : record.visit.request = .login (some req)) :
    record.writes = some req.deviceID ↔
      (record.visit.served.field "refresh_token").isSome ∧ (record.script.tail.headD .works).reaches := by
  simp [writes, hlogin]

/-- A login handed out the refresh token and stored it, and the columns of its client have
not been written since. -/
def StillStored (records : List VisitRecord) (tokenString : String) : Prop :=
  ∃ before login after req, records = before ++ login :: after ∧
    login.visit.request = .login (some req) ∧
    login.visit.served.field "refresh_token" = some tokenString ∧ login.writes = some req.deviceID ∧
    ∀ record ∈ after, record.writes ≠ some req.deviceID

section

variable (jwt : JWT)

/-- A refresh with a refresh token that is still good presents one that is stored. -/
def PresentsStored (records : List VisitRecord) (visit : Visit) : Prop :=
  ∀ authHeader tokenString claims, visit.request = .refresh authHeader →
    (headerWords authHeader)[1]? = some tokenString →
    jwt.validateToken visit.now tokenString = some claims → claims.tokenType = "REFRESH" →
    StillStored records tokenString

/-- If the visit is a refresh that issued an access token, the token it presented
is the one stored with its client and the stored expiry has not passed. -/
def Visit.Honoured (visit : Visit) : Prop :=
  ∀ authHeader, visit.request = .refresh authHeader → visit.served.field "access_token" ≠ none →
    ∃ tokenString claims, (headerWords authHeader)[1]? = some tokenString ∧
      jwt.parseWithClaims tokenString = some claims ∧
      ∃ deviceID client expiry, visit.clients.rows.lookup deviceID = some client ∧
        (client.id : Int) = claims.userID ∧ client.refreshToken = some tokenString ∧
        client.tokenExpiry = some expiry ∧ visit.now < expiry

/-- Visits under any faults of the database, each with the faults it met. -/
def recordedAct (compareHashAndPassword : String → String → Bool) :
    Act (Nat × List Fault × AccountRequest) Unit Accounts VisitRecord :=
  fun choice thread accounts =>
    (visitAct jwt compareHashAndPassword choice thread accounts).map fun move =>
      ⟨⟨choice.2.1, move.event⟩, move.thread, move.spawned, move.state⟩

/-- A standing token is the one stored with its client. -/
def Stands (records : List VisitRecord) (clients : SmartClients) : Prop :=
  ∀ before login after req tokenString, records = before ++ login :: after →
    login.visit.request = .login (some req) →
    login.visit.served.field "refresh_token" = some tokenString → login.writes = some req.deviceID →
    (∀ record ∈ after, record.writes ≠ some req.deviceID) →
    ∃ client, clients.rows.lookup req.deviceID = some client ∧
      client.refreshToken = some tokenString ∧
      client.tokenExpiry = some (login.visit.now + refreshLifetime) ∧
      tokenString = jwt.generateRefreshToken login.visit.now client.id "CLIENT"

end

/-! ### What a visit does to the accounts -/

section

variable {jwt : JWT} {compareHashAndPassword : String → String → Bool} {now : Nat} {db : SmartClients}
  {script : List Fault}

/-- A login is refused and writes nothing, or issues a refresh token, which it stores
unless the statement fails. -/
theorem serve_login (body : Option LoginRequest) :
    let answer := serveAccount jwt compareHashAndPassword now script (.login body) db
    ((∃ message status, answer.1 = .reply (httpError message status)) ∧ answer.2 = db) ∨
      ∃ req client, body = some req ∧ db.rows.lookup req.deviceID = some client ∧
        answer.1 = .reply (loginReply jwt now client.id "CLIENT") ∧
        answer.2 = if (script.tail.headD .works).reaches then
            db.setRefreshToken req.deviceID (jwt.generateRefreshToken now client.id "CLIENT")
              (now + refreshLifetime)
          else db := by
  cases body with
  | none => exact Or.inl ⟨⟨_, _, rfl⟩, rfl⟩
  | some req =>
      have hread : (scripted accountExec .works (.getSmartClient req.deviceID) (db, script)).2 =
          (db, script.tail) := by
        rcases Fault.run_state (script.headD .works) "client not found: "
          (fun db => (db.getSmartClient req.deviceID, db)) db with h | h
        · exact congrArg (fun state => (state, script.tail)) h
        · exact congrArg (fun state => (state, script.tail)) h
      simp only [serveAccount, loginClient, Prog.run_call, hread]
      cases hanswer : (scripted accountExec .works (.getSmartClient req.deviceID) (db, script)).1 with
      | error err => exact Or.inl ⟨⟨_, _, rfl⟩, rfl⟩
      | ok client =>
          dsimp only
          split
          · exact Or.inl ⟨⟨_, _, rfl⟩, rfl⟩
          · refine Or.inr ⟨req, client, rfl, accountExec_getSmartClient hanswer, rfl, ?_⟩
            cases hreaches : (script.tail.headD .works).reaches with
            | true => exact Fault.run_state_of_reaches hreaches _ _ _
            | false => exact Fault.run_state_of_not_reaches hreaches _ _ _

/-- A visit that does not write the columns of a client leaves the client alone. -/
theorem serve_keeps {request : AccountRequest} {deviceID : String} {client : SmartClient}
    (hrow : db.rows.lookup deviceID = some client)
    (hwrites : (VisitRecord.mk script ⟨now, db, request,
      (serveAccount jwt compareHashAndPassword now script request db).1⟩).writes ≠ some deviceID) :
    (serveAccount jwt compareHashAndPassword now script request db).2.rows.lookup deviceID = some client := by
  cases request with
  | register body hashedPwd =>
      cases body with
      | none => exact hrow
      | some req =>
          have hstate : (serveAccount jwt compareHashAndPassword now script
              (.register (some req) hashedPwd) db).2 =
              (accountExec (script.headD .works)
                (.createSmartClient req.deviceID req.email req.phone hashedPwd) db).2 := by
            simp only [serveAccount, registerClient, Prog.run_call]
            cases (scripted accountExec .works (.createSmartClient req.deviceID req.email req.phone
              hashedPwd) (db, script)).1 with
            | error err => rfl
            | ok value => rfl
          rw [hstate]
          exact accountExec_createSmartClient hrow
  | login body =>
      rcases @serve_login jwt compareHashAndPassword now db script body with
        ⟨_, hsame⟩ | ⟨req, found, rfl, _, hreply, hwritten⟩
      · rw [hsame]
        exact hrow
      · rw [hwritten]
        split
        · rename_i hreaches
          have hne : deviceID ≠ req.deviceID := by
            rintro rfl
            apply hwrites
            refine (VisitRecord.writes_login rfl).mpr ⟨?_, hreaches⟩
            rw [hreply]
            rfl
          rw [SmartClients.setRefreshToken, SmartClients.writeToken_lookup, hrow, Option.map_some,
            if_neg hne]
        · exact hrow
  | refresh authHeader => exact hrow
  | enter authHeader =>
      cases hclaims : acceptedClaims (jwt.validateToken now) authHeader with
      | error message => simpa [serveAccount, hclaims] using hrow
      | ok claims => simpa [serveAccount, hclaims] using hrow
  | rewrite other refreshToken tokenExpiry =>
      have hne : deviceID ≠ other := by
        rintro rfl
        exact hwrites rfl
      have hstate : (serveAccount jwt compareHashAndPassword now script
        (.rewrite other refreshToken tokenExpiry) db).2 = db.writeToken other refreshToken tokenExpiry := rfl
      rw [hstate, SmartClients.writeToken_lookup, hrow, Option.map_some, if_neg hne]

end

/-! ### Runs -/

section

variable {jwt : JWT} {compareHashAndPassword : String → String → Bool} {now : Nat} {script : List Fault}
  {request : AccountRequest} {records : List VisitRecord} {clients : SmartClients}

/-- A visit as it is recorded. -/
private theorem Stands.visit (hstands : Stands jwt records clients) :
    Stands jwt (records ++ [⟨script, now, clients, request,
        (serveAccount jwt compareHashAndPassword now script request clients).1⟩])
      (serveAccount jwt compareHashAndPassword now script request clients).2 := by
  intro before login after req tokenString hsplit hlogin hissued hstored hkept
  rcases List.eq_nil_or_concat' after with rfl | ⟨earlier, last, rfl⟩
  · -- the visit is the login itself, and its second statement took effect
    obtain ⟨_, hsame⟩ := List.append_inj' hsplit rfl
    obtain rfl := List.head_eq_of_cons_eq hsame
    have hrequest : request = .login (some req) := hlogin
    subst hrequest
    have hreaches : (script.tail.headD .works).reaches = true := ((VisitRecord.writes_login rfl).mp hstored).2
    have hhanded : (serveAccount jwt compareHashAndPassword now script (.login (some req)) clients).1.field
      "refresh_token" = some tokenString := hissued
    rcases @serve_login jwt compareHashAndPassword now clients script (some req) with
      ⟨⟨message, status, hrefused⟩, _⟩ | ⟨found, client, hfound, hrow, hreply, hwritten⟩
    · rw [hrefused] at hhanded
      cases hhanded
    · cases hfound
      rw [hreply] at hhanded
      obtain rfl : jwt.generateRefreshToken now client.id "CLIENT" = tokenString := Option.some.inj hhanded
      refine ⟨{ client with
        refreshToken := some (jwt.generateRefreshToken now client.id "CLIENT")
        tokenExpiry := some (now + refreshLifetime) }, ?_, rfl, rfl, rfl⟩
      rw [hwritten, if_pos hreaches, SmartClients.setRefreshToken, SmartClients.writeToken_lookup,
        hrow, Option.map_some, if_pos rfl]
  · -- the login was earlier, and the visit does not write its client
    rw [← List.cons_append, ← List.append_assoc] at hsplit
    obtain ⟨hbefore, hsame⟩ := List.append_inj' hsplit rfl
    obtain rfl := List.head_eq_of_cons_eq hsame
    obtain ⟨client, hrow, hclient⟩ := hstands before login earlier req tokenString hbefore hlogin
      hissued hstored fun record hrecord => hkept record (List.mem_append_left _ hrecord)
    exact ⟨client, serve_keeps hrow (hkept _ (List.mem_append_right _ (List.mem_singleton_self _))), hclient⟩

/-- A refresh with a standing token presents the stored one. -/
private theorem Stands.honoured (hstands : Stands jwt records clients) {visit : Visit}
    (hvisit : visit = ⟨now, clients, request,
      (serveAccount jwt compareHashAndPassword now script request clients).1⟩)
    (hpresents : PresentsStored jwt records visit) : visit.Honoured jwt := by
  subst hvisit
  intro authHeader hrequest hissued
  have hrefresh : request = .refresh authHeader := hrequest
  subst hrefresh
  have hserved : (serveAccount jwt compareHashAndPassword now script (.refresh authHeader) clients).1 =
    ((refreshAccess jwt now authHeader).map .reply).getD .panicked := rfl
  have hfield : (serveAccount jwt compareHashAndPassword now script (.refresh authHeader) clients).1.field
    "access_token" ≠ none := hissued
  rw [hserved] at hfield
  cases hreply : refreshAccess jwt now authHeader with
  | none =>
      rw [hreply] at hfield
      exact absurd rfl hfield
  | some reply =>
      rw [hreply] at hfield
      rcases refreshAccess_issues hreply with ⟨message, rfl⟩ |
        ⟨tokenString, claims, hword, hvalid, htype, _⟩
      · exact absurd rfl hfield
      · obtain ⟨hparse, hexpiry⟩ := jwt.validateToken_eq_some hvalid
        obtain ⟨before, login, after, req, hrecords, hlogin, hhanded, hstored, hkept⟩ :=
          hpresents authHeader tokenString claims rfl hword hvalid htype
        obtain ⟨client, hrow, htoken, hstoredExpiry, hsigned⟩ :=
          hstands before login after req tokenString hrecords hlogin hhanded hstored hkept
        refine ⟨tokenString, claims, hword, hparse, req.deviceID, client, _, hrow, ?_, htoken,
          hstoredExpiry, ?_⟩
        · rw [hsigned] at hparse
          rw [jwt.sound _ _ hparse]
          rfl
        · rw [hsigned] at hparse
          rw [jwt.sound _ _ hparse] at hexpiry
          exact hexpiry.trans_le (refreshClaims_expiry login.visit.now client.id "CLIENT")

/-- **When refresh tokens are revocable.** In every run of logins, of writes to the token
columns and of refreshes, under any faults of the database: a refresh that presents a
token that a login stored and that nobody has written over since issues an access token
only for the token stored with the client, before the stored expiry. -/
theorem refreshed_while_standing {trace : List (Nat × VisitRecord)} {pool : Pool Unit Accounts}
    (hrun : Run (recordedAct jwt compareHashAndPassword) anyStep (openingPool now clients) trace pool)
    {before after : List VisitRecord} {record : VisitRecord}
    (hrecord : trace.map Prod.snd = before ++ record :: after)
    (hpresents : PresentsStored jwt before record.visit) : record.visit.Honoured jwt := by
  have hstart : Stands jwt [] clients := by
    intro before login after req tokenString hvisits
    simp at hvisits
  refine (hrun.invariant (fun (pool : Pool Unit Accounts) (trace : List (Nat × VisitRecord)) =>
    Stands jwt (trace.map Prod.snd) pool.state.clients ∧
      ∀ before record after, trace.map Prod.snd = before ++ record :: after →
        PresentsStored jwt before record.visit → record.visit.Honoured jwt)
    ⟨hstart, fun before record after hnil => by simp at hnil⟩ ?_).2 before record after hrecord hpresents
  rintro trace pool index thread ⟨elapsed, script, request⟩ move ⟨hstands, hall⟩ _ hact _
  obtain rfl := Option.some.inj hact
  rw [List.map_append]
  refine ⟨hstands.visit, fun before record after hsplit hpresents => ?_⟩
  rcases List.eq_nil_or_concat' after with rfl | ⟨earlier, last, rfl⟩
  · obtain ⟨rfl, hsame⟩ := List.append_inj' hsplit rfl
    obtain rfl := List.head_eq_of_cons_eq hsame
    exact hstands.honoured rfl hpresents
  · rw [← List.cons_append, ← List.append_assoc] at hsplit
    exact hall before record earlier (List.append_inj' hsplit rfl).1 hpresents

end

/-! ### One fridge that logs in twice -/

/-- The fridge logs in, and logs in again a second later, when its new refresh token is not
stored because the statement fails. A refresh with the first token presents the stored one. -/
theorem refreshed_while_standing_sample :
    ∃ trace pool, Run (recordedAct Sample.jwt Sample.compareHashAndPassword) anyStep
        (openingPool 0 Sample.clients) trace pool ∧
      ∃ step ∈ trace, step.2.visit.served.field "access_token" = some "access-2" ∧
        step.2.visit.Honoured Sample.jwt := by
  have hlogins : Run (recordedAct Sample.jwt Sample.compareHashAndPassword) anyStep
      (openingPool 0 Sample.clients) _ _ :=
    .move 0 (1000, [.works, .fails "connection reset"], Sample.login)
      (.move 0 (0, [], Sample.login) .start rfl rfl trivial) rfl rfl trivial
  have hrefresh : Run (recordedAct Sample.jwt Sample.compareHashAndPassword) anyStep
      (openingPool 0 Sample.clients) _ _ :=
    .move 0 (1000, [], .refresh "Bearer refresh-0") hlogins rfl rfl trivial
  have hhonoured := @refreshed_while_standing _ _ _ _ _ _ hrefresh [_, _] [] _ rfl
    fun authHeader tokenString claims hrequest hword _ _ => by
      cases hrequest
      have hsecond : (headerWords "Bearer refresh-0")[1]? = some "refresh-0" := by decide +kernel
      obtain rfl := Option.some.inj (hsecond.symm.trans hword)
      exact ⟨[], _, [_], ⟨"fridge", "secret"⟩, rfl, rfl, by decide +kernel, by decide +kernel,
        by decide +kernel⟩
  exact ⟨_, _, hrefresh, _, List.mem_append_right _ (List.mem_singleton_self _), by decide +kernel, hhonoured⟩

private def refreshHeader : AccountRequest → Option String
  | .refresh authHeader => some authHeader
  | _ => none

/-- The fridge logs in and logs in again a second later. The first refresh token
is no longer stored, and a refresh with it still issues an access token. -/
theorem refreshed_after_revocation :
    ∃ trace pool, Run (visitAct Sample.jwt Sample.compareHashAndPassword)
        (fun pool index visit => unforged Sample.jwt pool index visit = true)
        (openingPool 0 Sample.clients) trace pool ∧
      ∃ step ∈ trace, ¬ step.2.Honoured Sample.jwt := by
  obtain ⟨trace, pool, hrun, hcheck⟩ := run_of_play
    (visitAct Sample.jwt Sample.compareHashAndPassword) (unforged Sample.jwt)
    (openingPool 0 Sample.clients)
    [(0, 0, [], Sample.login), (0, 1000, [], Sample.login), (0, 1000, [], .refresh "Bearer refresh-0")]
    (fun trace _ => trace.any fun step =>
      refreshHeader step.2.request = some "Bearer refresh-0" &&
        (step.2.served.field "access_token").isSome &&
        step.2.clients.rows.entries.all fun entry => entry.2.refreshToken ≠ some "refresh-0")
    (by decide +kernel)
  obtain ⟨step, hstep, hall⟩ := List.any_eq_true.mp hcheck
  simp only [Bool.and_eq_true, decide_eq_true_eq, List.all_eq_true] at hall
  obtain ⟨⟨hheader, hissued⟩, hstored⟩ := hall
  refine ⟨trace, pool, hrun, step, hstep, fun hhonoured => ?_⟩
  have hrequest : step.2.request = .refresh "Bearer refresh-0" := by
    unfold refreshHeader at hheader
    split at hheader
    · rename_i authHeader heq
      rw [heq, Option.some.inj hheader]
    · cases hheader
  obtain ⟨tokenString, claims, hword, _, deviceID, client, _, hrow, _, htoken, _⟩ :=
    hhonoured _ hrequest (Option.isSome_iff_ne_none.mp hissued)
  have hsecond : (headerWords "Bearer refresh-0")[1]? = some "refresh-0" := by decide +kernel
  obtain rfl := Option.some.inj (hsecond.symm.trans hword)
  exact hstored ⟨deviceID, client⟩ (AList.mem_lookup_iff.mp hrow) htoken

end AutoGrocery
