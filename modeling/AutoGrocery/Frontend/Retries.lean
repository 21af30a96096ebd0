import AutoGrocery.Frontend.Client
import AutoGrocery.Sessions.Logins
import AutoGrocery.System

/-!
`auth_request` sends a request again once its access token was refused. Whatever the
network, the clocks, the databases and inventory answer, and whatever else runs in
between: the handler behind the middleware runs once at most, in the name of the user
of one of the two tokens. A path is what one page does in any interleaving.
-/

namespace AutoGrocery

open Interleaving

/-- What a handler of a protected route did. -/
def pageEvent : Event BrowserAns → Option (Event PageAns)
  | ⟨.page op, ans⟩ => some ⟨op, ans⟩
  | _ => none

/-- The operations of the handlers of protected routes. -/
def pageEvents (trace : List (Event BrowserAns)) : List (Event PageAns) := trace.filterMap pageEvent

@[simp] theorem pageEvents_nil : pageEvents [] = [] := rfl

theorem pageEvents_append (trace trace' : List (Event BrowserAns)) :
    pageEvents (trace ++ trace') = pageEvents trace ++ pageEvents trace' := List.filterMap_append

/-- Other operations do not count. -/
theorem pageEvents_cons {event : Event BrowserAns} (hother : pageEvent event = none)
    (trace : List (Event BrowserAns)) : pageEvents (event :: trace) = pageEvents trace :=
  List.filterMap_cons_none hother

/-- The user one of the tokens of the session was signed for. Of a refresh token the
handler reads the part before a space. -/
def ClientSession.StandsFor (jwt : JWT) (session : ClientSession) (userID : Int) : Prop :=
  ∃ claims : Claims, claims.userID = userID ∧
    ((∃ token, session.token = some token ∧ jwt.parseWithClaims token = some claims) ∨
      ∃ refreshToken word, session.refreshToken = some refreshToken ∧
        (headerWords refreshToken).head? = some word ∧ jwt.parseWithClaims word = some claims)

/-! ### Headers -/

private theorem bearer_splitOn (token : String) :
    (bearer (some token)).toList.splitOn ' ' = ['B', 'e', 'a', 'r', 'e', 'r'] :: token.toList.splitOn ' ' := by
  have hsplit : (bearer (some token)).toList = ['B', 'e', 'a', 'r', 'e', 'r'] ++ ' ' :: token.toList := by
    simp [bearer]
  have hscheme : ' ' ∉ ['B', 'e', 'a', 'r', 'e', 'r'] := by decide
  rw [hsplit, List.splitOn_append_cons_self, List.splitOn_eq_singleton hscheme]
  rfl

/-- A bearer header has the words of its token behind the scheme. -/
theorem headerWords_bearer (token : String) :
    headerWords (bearer (some token)) = "Bearer" :: headerWords token := by
  rw [headerWords, bearer_splitOn]
  rfl

/-- The middleware accepts the whole token of a bearer header or nothing. -/
theorem acceptedClaims_bearer {validateToken : String → Option Claims} {token : String} {claims : Claims} :
    acceptedClaims validateToken (bearer (some token)) = .ok claims ↔
      ' ' ∉ token.toList ∧ validateToken token = some claims ∧ claims.tokenType = "ACCESS" := by
  have hne : bearer (some token) ≠ "" := by
    intro h
    have hnil := congrArg String.toList h
    simp [bearer] at hnil
  unfold acceptedClaims
  rw [if_neg hne, bearer_splitOn]
  by_cases hspace : ' ' ∈ token.toList
  · obtain ⟨first, rest, hsplit⟩ := List.append_of_mem hspace
    rw [hsplit, List.splitOn_append_cons_self]
    obtain ⟨word, words, hwords⟩ := List.exists_cons_of_ne_nil (List.splitOn_ne_nil ' ' first)
    obtain ⟨word', words', hwords'⟩ := List.exists_cons_of_ne_nil (List.splitOn_ne_nil ' ' rest)
    rw [hwords, hwords']
    cases words <;> simp
  · rw [List.splitOn_eq_singleton hspace]
    dsimp only
    rw [if_neg (by decide), String.ofList_toList]
    cases hvalid : validateToken token with
    | none => exact iff_of_false nofun fun hok => nomatch hok.2.1
    | some found =>
        dsimp only
        by_cases htype : found.tokenType = "ACCESS"
        · rw [if_neg (not_not.mpr htype)]
          constructor
          · intro hok
            cases hok
            exact ⟨hspace, rfl, htype⟩
          · rintro ⟨_, hfound, _⟩
            cases hfound
            rfl
        · rw [if_pos htype]
          constructor
          · intro hok
            cases hok
          · rintro ⟨_, hfound, haccess⟩
            cases hfound
            exact absurd haccess htype

/-! ### What a request does -/

section

variable {trace : List (Event BrowserAns)}

/-- A request gets lost, or the server runs to its end and the reply may get lost. -/
theorem exchange_path {α : Type} {status : α → Option Nat} {server : BrowserProg α} {answer : Option α}
    (hpath : (exchange status server).Path trace answer) :
    trace = [⟨.send, false⟩] ∧ answer = none ∨
      ∃ served reply returned, server.Path served reply ∧
        trace = ⟨.send, true⟩ :: (served ++ [⟨.receive, returned⟩]) ∧
        answer = if returned = true ∧ (status reply).isSome = true then some reply else none := by
  have hread {op : BrowserOp} {sent : List (Event BrowserAns)} {ans : BrowserAns op}
      (hsent : (Prog.call op .ret).Path sent ans) : sent = [⟨op, ans⟩] := by
    obtain ⟨answer, rest, rfl, hrest⟩ := Prog.path_call.mp hsent
    obtain ⟨rfl, rfl⟩ := Prog.path_ret.mp hrest
    rfl
  rcases Prog.path_roundTrip hpath with ⟨hsend, hnone⟩ |
    ⟨sending, served, receiving, reply, returned, rfl, hsend, hserved, hreceive, hanswer⟩
  · exact Or.inl ⟨hread hsend, hnone⟩
  · rw [hread hsend, hread hreceive]
    exact Or.inr ⟨served, reply, returned, hserved, rfl, hanswer⟩

/-- Preview, confirm and cancel do not reply 401 to a user. -/
private theorem clientRequest_ends (request : ClientRequest) (userID : Int) :
    (request.handle (some userID)).Ends (fun reply => reply.status ≠ some 401) := by
  have hdispatch (orderID : OrderID) (items : ItemMap) :
      (dispatchOrder orderID items).Ends (fun reply => reply.status ≠ some 401) := by
    refine .call fun answer => ?_
    cases answer with
    | error err => exact .ret (by decide)
    | ok value =>
        refine .call fun answer => ?_
        cases answer with
        | error err => exact .call fun _ => .ret (by simp [httpError, Reply.status])
        | ok resp => exact .ret (by simp [Reply.status])
  cases request with
  | preview body orderUUID =>
      cases body with
      | none => exact .ret (by decide)
      | some items =>
          refine .call fun answer => ?_
          cases answer with
          | error err => exact .ret (by decide)
          | ok resp =>
              dsimp only
              split
              · exact .ret (by decide)
              · refine .call fun answer => ?_
                cases answer with
                | error err => exact .ret (by decide)
                | ok value => exact .ret (by simp [Reply.status])
  | confirm body =>
      cases body with
      | none => exact .ret (by decide)
      | some orderID =>
          unfold ClientRequest.handle confirmOrder
          dsimp only
          split
          · exact .ret (by decide)
          refine .call fun answer => ?_
          rcases answer with err | _ | order
          · exact .ret (by decide)
          · exact .ret (by decide)
          · dsimp only
            split
            · exact .ret (by decide)
            split
            · exact .ret (by decide)
            refine .call fun answer => ?_
            cases answer with
            | error err => exact .ret (by decide)
            | ok dbItems => exact hdispatch orderID (protoItems dbItems)
  | cancel orderID =>
      refine .call fun answer => ?_
      rcases answer with err | _ | order
      · exact .ret (by decide)
      · exact .ret (by decide)
      · dsimp only
        split
        · exact .ret (by decide)
        · exact .call fun _ => .call fun _ => .call fun _ => .ret (by decide)

private theorem onOrdering_ends {prog : OrderingProg}
    (hends : prog.Ends (fun reply => reply.status ≠ some 401)) :
    (onOrdering prog).Ends (fun reply => reply.status ≠ some 401) :=
  (hends.lift _ _).bind fun _ hreply => .ret hreply

/-- Nobody replies 401 to a user. -/
theorem PageRequest.handle_ends (request : PageRequest) (userID : Int) :
    (request.handle (some userID)).Ends (fun reply => reply.status ≠ some 401) := by
  cases request with
  | preview body =>
      cases body with
      | none => exact .ret (by decide)
      | some items => exact .call fun orderUUID =>
          onOrdering_ends (clientRequest_ends (.preview (some items) orderUUID) userID)
  | confirm body => exact onOrdering_ends (clientRequest_ends (.confirm body) userID)
  | cancel orderID => exact onOrdering_ends (clientRequest_ends (.cancel orderID) userID)
  | orders => exact .call fun _ => .ret (by simp [PageReply.status])
  | lastOrder =>
      refine .call fun answer => ?_
      rcases answer with err | _ | order
      · exact .ret (by decide)
      · exact .ret (by decide)
      · exact .ret (by simp [PageReply.status])

/-- The middleware refuses a request, or its handler runs for the user of the token. -/
theorem PageRequest.route_path {request : PageRequest} {validateToken : String → Option Claims}
    {authHeader : String} {events : List (Event PageAns)} {reply : PageReply}
    (hpath : (request.route validateToken authHeader).Path events reply) :
    events = [] ∧ (∃ message, acceptedClaims validateToken authHeader = .error message ∧
        reply = .reply (httpError message 401)) ∨
      ∃ claims, acceptedClaims validateToken authHeader = .ok claims ∧
        (request.handle (some claims.userID)).Path events reply ∧ reply.status ≠ some 401 := by
  unfold PageRequest.route authenticate at hpath
  cases haccepted : acceptedClaims validateToken authHeader with
  | error message =>
      rw [haccepted] at hpath
      obtain ⟨rfl, rfl⟩ := Prog.path_ret.mp hpath
      exact Or.inl ⟨rfl, message, rfl, rfl⟩
  | ok claims =>
      rw [haccepted] at hpath
      exact Or.inr ⟨claims, rfl, hpath, (request.handle_ends claims.userID).path hpath⟩

section

variable {jwt : JWT} {request : PageRequest} {session : ClientSession}

/-- What the handler did in an attempt, at the time the middleware read. -/
theorem attempt_path {authHeader : String} {answer : Option PageReply}
    (hpath : (attempt jwt request authHeader).Path trace answer) :
    trace = [⟨.send, false⟩] ∧ answer = none ∨
      ∃ now reply returned, ⟨.serverNow, now⟩ ∈ trace ∧ ⟨.receive, returned⟩ ∈ trace ∧
        (request.route (jwt.validateToken now) authHeader).Path (pageEvents trace) reply ∧
        answer = if returned = true ∧ reply.status.isSome = true then some reply else none := by
  rcases exchange_path hpath with hlost | ⟨served, reply, returned, hserved, rfl, hanswer⟩
  · exact Or.inl hlost
  · obtain ⟨now, rest, rfl, hrest⟩ := Prog.path_call.mp hserved
    have hback (op : PageOp) (ans : PageAns op) : pageEvent ⟨.page op, ans⟩ = some ⟨op, ans⟩ := rfl
    have hroute := Prog.path_lift hrest hback
    refine Or.inr ⟨now, reply, returned, List.mem_cons_of_mem _ (List.mem_append_left _ List.mem_cons_self),
      List.mem_cons_of_mem _ (List.mem_append_right _ (List.mem_singleton_self _)), ?_, hanswer⟩
    rw [pageEvents_cons rfl, List.cons_append, pageEvents_cons rfl, pageEvents_append, pageEvents_cons rfl]
    exact (List.append_nil (pageEvents rest)).symm ▸ hroute

private theorem refresh_exchange_path {authHeader : String} {answer : Option Reply}
    (hpath : (exchange Reply.status (refreshRoute jwt authHeader)).Path trace answer) :
    pageEvents trace = [] ∧ ((answer = none ∨ ∃ message, answer = some (httpError message 401)) ∨
      ∃ now word claims, ⟨.serverNow, now⟩ ∈ trace ∧ (headerWords authHeader)[1]? = some word ∧
        jwt.validateToken now word = some claims ∧ answer = some (.http 200 (.json
          [("access_token", jwt.generateAccessToken now claims.userID claims.role)]))) := by
  rcases exchange_path hpath with ⟨rfl, rfl⟩ | ⟨served, reply, returned, hserved, rfl, hanswer⟩
  · exact ⟨rfl, Or.inl (Or.inl rfl)⟩
  obtain ⟨now, rest, rfl, hrest⟩ := Prog.path_call.mp hserved
  obtain ⟨rfl, rfl⟩ := Prog.path_ret.mp hrest
  refine ⟨rfl, ?_⟩
  cases hreply : refreshAccess jwt now authHeader with
  | none =>
      rw [hreply] at hanswer
      exact Or.inl (Or.inl (by simpa [Reply.status] using hanswer))
  | some reply =>
      rw [hreply, Option.getD_some] at hanswer
      cases returned with
      | false => exact Or.inl (Or.inl hanswer)
      | true =>
          rcases refreshAccess_issues hreply with ⟨message, rfl⟩ | ⟨word, claims, hword, hvalid, _, rfl⟩
          · exact Or.inl (Or.inr ⟨message, hanswer⟩)
          · exact Or.inr ⟨now, word, claims, List.mem_cons_of_mem _ List.mem_cons_self, hword, hvalid, hanswer⟩

/-- A refresh that succeeds leaves an access token for the user of the refresh token. -/
theorem refreshAccessToken_path {outcome : Bool × ClientSession}
    (hpath : (refreshAccessToken jwt session).Path trace outcome) :
    pageEvents trace = [] ∧ (outcome = (false, session) ∨
      ∃ refreshToken word claims now time, session.refreshToken = some refreshToken ∧
        (headerWords refreshToken).head? = some word ∧ ⟨.serverNow, now⟩ ∈ trace ∧
        jwt.validateToken now word = some claims ∧
        outcome = (true, { session with
          token := some (jwt.generateAccessToken now claims.userID claims.role), lastRefreshTs := time })) := by
  unfold refreshAccessToken at hpath
  split at hpath
  case isFalse =>
    obtain ⟨rfl, rfl⟩ := Prog.path_ret.mp hpath
    exact ⟨rfl, Or.inl rfl⟩
  case isTrue htruthy =>
    obtain ⟨early, late, answer, rfl, hearly, hlate⟩ := Prog.path_bind.mp hpath
    obtain ⟨hnone, (rfl | ⟨message, rfl⟩) | ⟨now, word, claims, hnow, hword, hvalid, rfl⟩⟩ :=
      refresh_exchange_path hearly
    · obtain ⟨rfl, rfl⟩ := Prog.path_ret.mp hlate
      exact ⟨by rwa [List.append_nil], Or.inl rfl⟩
    · obtain ⟨rfl, rfl⟩ := Prog.path_ret.mp hlate
      exact ⟨by rwa [List.append_nil], Or.inl rfl⟩
    · obtain ⟨time, saved, rfl, hsaved⟩ := Prog.path_call.mp hlate
      obtain ⟨_, last, rfl, hlast⟩ := Prog.path_call.mp hsaved
      obtain ⟨rfl, rfl⟩ := Prog.path_ret.mp hlast
      obtain ⟨refreshToken, hrefresh⟩ : ∃ refreshToken, session.refreshToken = some refreshToken := by
        cases hrefresh : session.refreshToken with
        | none => rw [hrefresh] at htruthy; cases htruthy
        | some refreshToken => exact ⟨refreshToken, rfl⟩
      rw [hrefresh, headerWords_bearer, List.getElem?_cons_succ, ← List.head?_eq_getElem?] at hword
      refine ⟨?_, Or.inr ⟨refreshToken, word, claims, now, time, hrefresh, hword, List.mem_append_left _ hnow,
        hvalid, rfl⟩⟩
      rw [pageEvents_append, hnone, List.nil_append, pageEvents_cons rfl, pageEvents_cons rfl]
      rfl

/-! ### At most once -/

/-- What an attempt comes to: nothing happened, or the handler ran for the user of the
token in the header. -/
private theorem attempt_served {authHeader : String} {answer : Option PageReply}
    (hpath : (attempt jwt request authHeader).Path trace answer) :
    pageEvents trace = [] ∧ (answer = none ∨ ∃ message, answer = some (.reply (httpError message 401))) ∨
      ∃ now claims reply, acceptedClaims (jwt.validateToken now) authHeader = .ok claims ∧
        (request.handle (some claims.userID)).Path (pageEvents trace) reply ∧ reply.status ≠ some 401 ∧
        (answer = none ∨ answer = some reply) := by
  rcases attempt_path hpath with ⟨rfl, rfl⟩ | ⟨now, reply, returned, _, _, hroute, hanswer⟩
  · exact Or.inl ⟨rfl, Or.inl rfl⟩
  have hor : answer = none ∨ answer = some reply := by
    rw [hanswer]
    split
    · exact Or.inr rfl
    · exact Or.inl rfl
  rcases PageRequest.route_path hroute with ⟨hnone, message, _, rfl⟩ | ⟨claims, haccepted, hhandle, hstatus⟩
  · exact Or.inl ⟨hnone, hor.imp_right fun hsome => ⟨message, hsome⟩⟩
  · exact Or.inr ⟨now, claims, reply, haccepted, hhandle, hstatus, hor⟩

/-- A user let in by the header of the session is the one its access token names. -/
private theorem standsFor_accepted {now : Nat} {claims : Claims}
    (haccepted : acceptedClaims (jwt.validateToken now) session.authHeader = .ok claims) :
    session.StandsFor jwt claims.userID := by
  unfold ClientSession.authHeader at haccepted
  split at haccepted
  case isFalse => cases haccepted
  case isTrue htruthy =>
    cases htoken : session.token with
    | none => rw [htoken] at htruthy; cases htruthy
    | some token =>
        rw [htoken] at haccepted
        obtain ⟨_, hvalid, _⟩ := acceptedClaims_bearer.mp haccepted
        exact ⟨claims, rfl, Or.inl ⟨token, htoken, (jwt.validateToken_eq_some hvalid).1⟩⟩

/-- **A request is served once at most.** However a page asks, refreshes and asks again:
either no handler did anything and the page is left without an answer or with a refusal,
or one handler ran from beginning to end, for the user of one of the two tokens, and
the page has its reply or none. -/
theorem served_at_most_once {outcome : Option PageReply × ClientSession}
    (hpath : (authRequest jwt request session).Path trace outcome) :
    pageEvents trace = [] ∧ (outcome.1 = none ∨ ∃ message, outcome.1 = some (.reply (httpError message 401))) ∨
      ∃ userID reply, session.StandsFor jwt userID ∧
        (request.handle (some userID)).Path (pageEvents trace) reply ∧ reply.status ≠ some 401 ∧
        (outcome.1 = none ∨ outcome.1 = some reply) := by
  obtain ⟨early, late, first, rfl, hearly, hlate⟩ := Prog.path_bind.mp hpath
  rw [pageEvents_append]
  rcases attempt_served hearly with ⟨hnone, rfl | ⟨message, rfl⟩⟩ |
    ⟨now, claims, reply, haccepted, hhandle, hstatus, rfl | rfl⟩
  · obtain ⟨rfl, rfl⟩ := Prog.path_ret.mp hlate
    exact Or.inl ⟨by rw [hnone]; rfl, Or.inl rfl⟩
  · rw [hnone, List.nil_append]
    dsimp only at hlate
    split at hlate
    case isFalse =>
      obtain ⟨rfl, rfl⟩ := Prog.path_ret.mp hlate
      exact Or.inl ⟨rfl, Or.inr ⟨message, rfl⟩⟩
    case isTrue =>
      -- the first attempt was refused, so only the second can be served
      obtain ⟨refresh, retry, refreshed, rfl, hrefresh, hretry⟩ := Prog.path_bind.mp hlate
      rw [pageEvents_append]
      obtain ⟨hquiet, rfl | ⟨refreshToken, word, claims, now, time, htoken, hword, _, hvalid, rfl⟩⟩ :=
        refreshAccessToken_path hrefresh
      · obtain ⟨rfl, rfl⟩ := Prog.path_ret.mp hretry
        exact Or.inl ⟨by rw [hquiet]; rfl, Or.inr ⟨message, rfl⟩⟩
      · obtain ⟨again, last, answer, rfl, hagain, hlast⟩ := Prog.path_bind.mp hretry
        obtain ⟨rfl, rfl⟩ := Prog.path_ret.mp hlast
        rw [hquiet, List.nil_append, List.append_nil]
        rcases attempt_served hagain with hnothing | ⟨now', claims', reply, haccepted, hserved⟩
        · exact Or.inl hnothing
        · obtain ⟨_, hvalid', _⟩ := acceptedClaims_bearer.mp haccepted
          obtain ⟨rfl, _⟩ := jwt.validateToken_signed hvalid'
          exact Or.inr ⟨claims.userID, reply, ⟨claims, rfl, Or.inr ⟨refreshToken, word, htoken, hword,
            (jwt.validateToken_eq_some hvalid).1⟩⟩, hserved⟩
  · obtain ⟨rfl, rfl⟩ := Prog.path_ret.mp hlate
    exact Or.inr ⟨claims.userID, reply, standsFor_accepted haccepted,
      by rwa [pageEvents_nil, List.append_nil], hstatus,
      Or.inl rfl⟩
  · dsimp only at hlate
    rw [if_neg fun hrefused => hstatus hrefused.1] at hlate
    obtain ⟨rfl, rfl⟩ := Prog.path_ret.mp hlate
    exact Or.inr ⟨claims.userID, reply, standsFor_accepted haccepted,
      by rwa [pageEvents_nil, List.append_nil], hstatus,
      Or.inr rfl⟩

/-! ### While the refresh token lasts -/

/-- No request and no response gets lost. -/
def Connected (trace : List (Event BrowserAns)) : Prop :=
  ⟨.send, false⟩ ∉ trace ∧ ⟨.receive, false⟩ ∉ trace

theorem Connected.append {trace' : List (Event BrowserAns)} (hconnected : Connected (trace ++ trace')) :
    Connected trace ∧ Connected trace' :=
  ⟨⟨fun h => hconnected.1 (List.mem_append_left _ h), fun h => hconnected.2 (List.mem_append_left _ h)⟩,
    fun h => hconnected.1 (List.mem_append_right _ h), fun h => hconnected.2 (List.mem_append_right _ h)⟩

/-- The session holds a refresh token that is good at every time ordering reads, the
access tokens made at these times are signed as compact text that parses, and the whole
request takes less than an access token lasts. -/
structure ClientSession.Refreshable (jwt : JWT) (session : ClientSession) (trace : List (Event BrowserAns)) :
    Prop where
  held : ∃ refreshToken word claims, session.refreshToken = some refreshToken ∧ refreshToken ≠ "" ∧
    (headerWords refreshToken).head? = some word ∧ claims.tokenType = "REFRESH" ∧
    ∀ now, ⟨.serverNow, now⟩ ∈ trace → jwt.validateToken now word = some claims ∧
      jwt.parseWithClaims (jwt.generateAccessToken now claims.userID claims.role) =
        some (accessClaims now claims.userID claims.role) ∧
      ' ' ∉ (jwt.generateAccessToken now claims.userID claims.role).toList
  brief : ∀ now later, ⟨.serverNow, now⟩ ∈ trace → ⟨.serverNow, later⟩ ∈ trace →
    later + 1000 ≤ now + accessLifetime

/-- An attempt on a connected network comes back with what the route ends with. -/
private theorem attempt_connected {authHeader : String} {answer : Option PageReply}
    (hpath : (attempt jwt request authHeader).Path trace answer) (hconnected : Connected trace) :
    ∃ now reply, ⟨.serverNow, now⟩ ∈ trace ∧
      (request.route (jwt.validateToken now) authHeader).Path (pageEvents trace) reply ∧
      answer = if reply.status.isSome = true then some reply else none := by
  rcases attempt_path hpath with ⟨rfl, _⟩ | ⟨now, reply, returned, hnow, hreturned, hroute, hanswer⟩
  · exact absurd (List.mem_singleton_self _) hconnected.1
  · cases returned with
    | false => exact absurd hreturned hconnected.2
    | true => exact ⟨now, reply, hnow, hroute, by simpa using hanswer⟩

/-- A refresh on a connected network with a good token. -/
private theorem refresh_connected {outcome : Bool × ClientSession} {refreshToken word : String}
    {claims : Claims} (hpath : (refreshAccessToken jwt session).Path trace outcome)
    (hconnected : Connected trace) (htoken : session.refreshToken = some refreshToken)
    (hne : refreshToken ≠ "") (hword : (headerWords refreshToken).head? = some word)
    (htype : claims.tokenType = "REFRESH")
    (hvalid : ∀ now, ⟨.serverNow, now⟩ ∈ trace → jwt.validateToken now word = some claims) :
    ∃ now time, ⟨.serverNow, now⟩ ∈ trace ∧ outcome = (true, { session with
      token := some (jwt.generateAccessToken now claims.userID claims.role), lastRefreshTs := time }) := by
  have htruthy : truthy session.refreshToken = true := by simp [truthy, htoken, hne]
  unfold refreshAccessToken at hpath
  rw [if_pos htruthy] at hpath
  obtain ⟨early, late, answer, rfl, hearly, hlate⟩ := Prog.path_bind.mp hpath
  rcases exchange_path hearly with ⟨rfl, _⟩ | ⟨served, reply, returned, hserved, rfl, hanswer⟩
  · exact absurd (List.mem_append_left _ (List.mem_singleton_self _)) hconnected.1
  obtain ⟨now, rest, rfl, hrest⟩ := Prog.path_call.mp hserved
  obtain ⟨rfl, rfl⟩ := Prog.path_ret.mp hrest
  have hnow : ⟨.serverNow, now⟩ ∈ (⟨.send, true⟩ :: ([⟨.serverNow, now⟩] ++ [⟨.receive, returned⟩]) :
      List (Event BrowserAns)) ++ late :=
    List.mem_append_left _ (List.mem_cons_of_mem _ List.mem_cons_self)
  have hreply : refreshAccess jwt now (bearer session.refreshToken) = some (.http 200 (.json
      [("access_token", jwt.generateAccessToken now claims.userID claims.role)])) := by
    have hsecond : (headerWords (bearer session.refreshToken))[1]? = some word := by
      rw [htoken, headerWords_bearer, List.getElem?_cons_succ, ← List.head?_eq_getElem?, hword]
    have hheader : bearer session.refreshToken ≠ "" := by
      intro h
      have hnil := congrArg String.toList h
      simp [bearer] at hnil
    simp only [refreshAccess, hsecond, hvalid now hnow, if_neg hheader, htype, ne_eq, not_true_eq_false,
      if_false]
  cases returned with
  | false => exact absurd (List.mem_append_left _ (by simp)) hconnected.2
  | true =>
      rw [hreply] at hanswer
      obtain rfl : answer = some (.http 200 (.json
        [("access_token", jwt.generateAccessToken now claims.userID claims.role)])) := hanswer
      obtain ⟨time, saved, rfl, hsaved⟩ := Prog.path_call.mp hlate
      obtain ⟨_, last, rfl, hlast⟩ := Prog.path_call.mp hsaved
      obtain ⟨rfl, rfl⟩ := Prog.path_ret.mp hlast
      exact ⟨now, time, hnow, rfl⟩

/-- **An expired access token goes unnoticed.** A page whose refresh token is good gets
the reply of its handler, whatever its access token is, unless the network fails it. -/
theorem answered_while_refreshable {outcome : Option PageReply × ClientSession}
    (hpath : (authRequest jwt request session).Path trace outcome) (hconnected : Connected trace)
    (hrefreshable : session.Refreshable jwt trace) :
    ∃ userID reply, session.StandsFor jwt userID ∧
      (request.handle (some userID)).Path (pageEvents trace) reply ∧
      outcome.1 = if reply.status.isSome = true then some reply else none := by
  obtain ⟨refreshToken, word, claims, htoken, hne, hword, htype, hgood⟩ := hrefreshable.held
  obtain ⟨early, late, first, rfl, hearly, hlate⟩ := Prog.path_bind.mp hpath
  obtain ⟨hfirst, hrest⟩ := hconnected.append
  rw [pageEvents_append]
  obtain ⟨now, reply, _, hroute, hanswer⟩ := attempt_connected hearly hfirst
  rcases PageRequest.route_path hroute with ⟨hnone, message, _, rfl⟩ | ⟨accepted, haccepted, hhandle, hstatus⟩
  · -- the access token was refused, so the page refreshes and asks again
    obtain rfl : first = some (.reply (httpError message 401)) := hanswer
    have htruthy : truthy session.refreshToken = true := by simp [truthy, htoken, hne]
    dsimp only at hlate
    rw [if_pos ⟨rfl, htruthy⟩] at hlate
    obtain ⟨refresh, retry, refreshed, rfl, hrefresh, hretry⟩ := Prog.path_bind.mp hlate
    obtain ⟨hrefreshed, hretried⟩ := hrest.append
    obtain ⟨now', time, hnow', rfl⟩ := refresh_connected hrefresh hrefreshed htoken hne hword htype
      fun now hnow => (hgood now (List.mem_append_right _ (List.mem_append_left _ hnow))).1
    obtain ⟨again, last, answer, rfl, hagain, hlast⟩ := Prog.path_bind.mp hretry
    obtain ⟨rfl, rfl⟩ := Prog.path_ret.mp hlast
    obtain ⟨later, reply, hlater, hroute', rfl⟩ := attempt_connected hagain hretried.append.1
    have hmade : ⟨.serverNow, now'⟩ ∈ early ++ (refresh ++ (again ++ [])) :=
      List.mem_append_right _ (List.mem_append_left _ hnow')
    have hread : ⟨.serverNow, later⟩ ∈ early ++ (refresh ++ (again ++ [])) :=
      List.mem_append_right _ (List.mem_append_right _ (List.mem_append_left _ hlater))
    obtain ⟨hvalid, hparse, hcompact⟩ := hgood now' hmade
    have haccepted : acceptedClaims (jwt.validateToken later)
        (bearer (some (jwt.generateAccessToken now' claims.userID claims.role))) =
        .ok (accessClaims now' claims.userID claims.role) := by
      refine acceptedClaims_bearer.mpr ⟨hcompact, Option.filter_eq_some_iff.mpr ⟨hparse, ?_⟩, rfl⟩
      have hbrief := hrefreshable.brief now' later hmade hread
      apply decide_eq_true
      change later < (now' + accessLifetime) / 1000 * 1000
      omega
    rcases PageRequest.route_path hroute' with ⟨_, message', hrefused, _⟩ | ⟨found, hfound, hhandle, _⟩
    · rw [haccepted] at hrefused
      cases hrefused
    · rw [haccepted] at hfound
      cases hfound
      refine ⟨claims.userID, reply, ⟨claims, rfl, Or.inr ⟨refreshToken, word, htoken, hword,
        (jwt.validateToken_eq_some hvalid).1⟩⟩, ?_, rfl⟩
      rw [hnone, pageEvents_append, (refreshAccessToken_path hrefresh).1, List.append_nil]
      exact hhandle
  · have hlast : late = [] ∧ outcome = (first, session) := by
      split at hanswer
      · subst hanswer
        dsimp only at hlate
        rw [if_neg fun hrefused => hstatus hrefused.1] at hlate
        exact (Prog.path_ret.mp hlate).imp_right Eq.symm
      · subst hanswer
        exact (Prog.path_ret.mp hlate).imp_right Eq.symm
    obtain ⟨rfl, rfl⟩ := hlast
    exact ⟨accepted.userID, reply, standsFor_accepted haccepted, by rwa [pageEvents_nil, List.append_nil],
      hanswer⟩

end

end

/-! ### A preview after the access token has expired -/

namespace Sample

/-- The fridge a week after its login. -/
def sleeper : ClientSession :=
  { token := some "access-0", refreshToken := some "refresh-0", deviceID := some "fridge" }

/-- A network that works, a second before the refresh token expires. -/
def lastSecond : Handler BrowserAns World
  | .send, w => (true, w)
  | .receive, w => (true, w)
  | .serverNow, w => (refreshLifetime - 1000, w)
  | .time, w => (refreshLifetime, w)
  | .page (.newUUID _), w => ("order-2", w)
  | .page (.ordering op), w => orderingExec .works op w
  | .page (.getOrdersByClientID clientID), w => (.ok (w.ordering.getOrdersByClientID clientID), w)
  | .page (.lastOrder op), w => ((lastOrderExec .works op w.ordering).1, w)
  | .account (.createSmartClient _ _ _ _), w => (.ok (), w)
  | .account (.getSmartClient _), w => (.error (.fault ""), w)
  | .account (.setRefreshToken _ _ _), w => (.ok (), w)
  | .loadCache, w => (⟨none, none⟩, w)
  | .saveCache _, w => ((), w)
  | .clearCache, w => ((), w)

/-- The preview of a carton of milk. -/
def latePreview : Outcome BrowserAns World (Option PageReply × ClientSession) :=
  (authRequest jwt (.preview (some [⟨"milk", 1⟩])) sleeper).run lastSecond world

/-- The time an event reads from the clock of ordering. -/
private def reading : Event BrowserAns → Option Nat
  | ⟨.serverNow, now⟩ => some now
  | _ => none

/-- The event is a request or a response that gets lost. -/
private def lost : Event BrowserAns → Bool
  | ⟨.send, reached⟩ => !reached
  | ⟨.receive, returned⟩ => !returned
  | _ => false

end Sample

/-- The preview is refused, sent again and served: it draws an id, reserves and creates. -/
theorem served_at_most_once_sample :
    (pageEvents Sample.latePreview.trace).length = 3 ∧ ∃ userID reply,
      Sample.sleeper.StandsFor Sample.jwt userID ∧
        ((PageRequest.preview (some [⟨"milk", 1⟩])).handle (some userID)).Path
          (pageEvents Sample.latePreview.trace) reply ∧
        (Sample.latePreview.value.1 = none ∨ Sample.latePreview.value.1 = some reply) := by
  have hthree : (pageEvents Sample.latePreview.trace).length = 3 := by decide +kernel
  refine ⟨hthree, ?_⟩
  rcases served_at_most_once (Prog.run_path Sample.lastSecond (authRequest Sample.jwt
    (.preview (some [⟨"milk", 1⟩])) Sample.sleeper) Sample.world) with ⟨hnone, _⟩ |
    ⟨userID, reply, hstands, hserved, _, hanswer⟩
  · have hempty : pageEvents Sample.latePreview.trace = [] := hnone
    rw [hempty] at hthree
    cases hthree
  · exact ⟨userID, reply, hstands, hserved, hanswer⟩

/-- All the while the refresh token is good. -/
theorem answered_while_refreshable_sample :
    Sample.latePreview.value.1.isSome = true ∧ ∃ userID reply, Sample.sleeper.StandsFor Sample.jwt userID ∧
      ((PageRequest.preview (some [⟨"milk", 1⟩])).handle (some userID)).Path
        (pageEvents Sample.latePreview.trace) reply ∧
      Sample.latePreview.value.1 = if reply.status.isSome = true then some reply else none := by
  have hreadings : ∀ now ∈ Sample.latePreview.trace.filterMap Sample.reading, now = refreshLifetime - 1000 := by
    decide +kernel
  have hnow {now : Nat} (hevent : ⟨.serverNow, now⟩ ∈ Sample.latePreview.trace) :
      now = refreshLifetime - 1000 := hreadings now (List.mem_filterMap.mpr ⟨_, hevent, rfl⟩)
  have hkept : ∀ event ∈ Sample.latePreview.trace, Sample.lost event = false := by decide +kernel
  have hconnected : Connected Sample.latePreview.trace :=
    ⟨fun hsend => absurd (hkept _ hsend) (by decide), fun hreceive => absurd (hkept _ hreceive) (by decide)⟩
  refine ⟨by decide +kernel, answered_while_refreshable (Prog.run_path Sample.lastSecond (authRequest Sample.jwt
    (.preview (some [⟨"milk", 1⟩])) Sample.sleeper) Sample.world) hconnected ⟨?_, ?_⟩⟩
  · refine ⟨"refresh-0", "refresh-0", refreshClaims 0 7 "CLIENT", rfl, by decide, by decide +kernel, rfl, ?_⟩
    intro now hevent
    rw [hnow hevent]
    exact ⟨by decide +kernel, by decide +kernel, by decide +kernel⟩
  · intro now later hevent hevent'
    rw [hnow hevent, hnow hevent']
    decide

end AutoGrocery
