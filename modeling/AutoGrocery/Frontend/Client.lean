import AutoGrocery.Interleaving.Network
import AutoGrocery.Ordering.Pages
import AutoGrocery.Sessions.Handlers

/-!
The requests of the client frontend, `frontend/client/app.py`, with the handlers of
ordering behind them. What a page does is a program: a request may get lost on its way,
the handler runs operation by operation, and its response may get lost or come after the
five seconds the page waits. Every clock reading is an answer.

Truth in Python: neither `None` nor an empty string counts as a token.
-/

namespace AutoGrocery

open Interleaving

/-- `.client_auth_cache.json`; the empty object has neither field. -/
structure AuthCache where
  deviceID : Option String
  refreshToken : Option String

/-- `st.session_state`, without the rows of the cart form. `polling` is set while the
loop of the dispatch button runs. -/
structure ClientSession where
  token : Option String := none
  refreshToken : Option String := none
  deviceID : Option String := none
  orderID : Option OrderID := none
  confirmedItems : ItemMap := ∅
  authRestored : Bool := false
  lastRefreshTs : Nat := 0
  polling : Bool := false

/-- What a page and the handlers it waits for do. `send` is answered by whether the
request reaches ordering, `receive` by whether the response is back in time. -/
inductive BrowserOp where
  | send
  | receive
  | serverNow
  | time
  | page (op : PageOp)
  | account (op : AccountOp)
  | loadCache
  | saveCache (payload : AuthCache)
  | clearCache

abbrev BrowserAns : BrowserOp → Type
  | .send => Bool
  | .receive => Bool
  | .serverNow => Nat
  | .time => Nat
  | .page op => PageAns op
  | .account op => AccountAns op
  | .loadCache => AuthCache
  | .saveCache _ => Unit
  | .clearCache => Unit

abbrev BrowserProg := Prog BrowserAns

/-- `TOKEN_REFRESH_INTERVAL_SEC`. -/
def tokenRefreshInterval : Nat := 240000

/-- `bool(text)`. -/
def truthy (text : Option String) : Bool := text.any fun text => text ≠ ""

/-- `f"Bearer {token}"`. -/
def bearer (token : Option String) : String := "Bearer " ++ token.getD "None"

/-- `res.json().get(name)`. -/
def Body.get (name : String) : Body → Option String
  | .json fields => fields.lookup name
  | _ => none

/-- `str(order_status)`. -/
def OrderStatus.text : OrderStatus → String
  | .pending => "PENDING"
  | .processing => "PROCESSING"
  | .failedDispatch => "FAILED_DISPATCH"
  | .completed => "COMPLETED"
  | .other text => text

/-- `"FAILED" in str(order_status)`. -/
def OrderStatus.saysFailed (status : OrderStatus) : Prop := "FAILED".toList <:+: status.text.toList

instance (status : OrderStatus) : Decidable status.saysFailed := by
  unfold OrderStatus.saysFailed
  infer_instance

/-- `requests.get` and `requests.post`: the response, or `none` for a `RequestException`.
A handler that panics closes the connection. -/
def exchange {α : Type} (status : α → Option Nat) (server : BrowserProg α) : BrowserProg (Option α) :=
  Prog.roundTrip (.call .send .ret) (.call .receive .ret) (fun reply => (status reply).isSome) server

section

variable (jwt : JWT) (compareHashAndPassword : String → String → Bool)

/-- `RefreshHandler` at the time ordering reads. -/
def refreshRoute (authHeader : String) : BrowserProg Reply :=
  .call .serverNow fun now => .ret ((refreshAccess jwt now authHeader).getD .nilDereference)

/-- `refresh_access_token`. -/
def refreshAccessToken (session : ClientSession) : BrowserProg (Bool × ClientSession) :=
  if truthy session.refreshToken then
    exchange Reply.status (refreshRoute jwt (bearer session.refreshToken)) >>= fun
      | some (.http 200 data) =>
          .call .time fun now =>
            .call (.saveCache ⟨session.deviceID, session.refreshToken⟩) fun _ =>
              .ret (true, { session with token := data.get "access_token", lastRefreshTs := now })
      | _ => .ret (false, session)
  else .ret (false, session)

/-- `maybe_auto_refresh_access_token`. -/
def maybeAutoRefresh (session : ClientSession) : BrowserProg ClientSession :=
  if truthy session.token && truthy session.refreshToken then
    .call .time fun now =>
      if now < session.lastRefreshTs + tokenRefreshInterval then .ret session
      else refreshAccessToken jwt session >>= fun outcome => .ret outcome.2
  else .ret session

/-- One request to a protected route, with the middleware at the time it reads. -/
def attempt (request : PageRequest) (authHeader : String) : BrowserProg (Option PageReply) :=
  exchange PageReply.status (.call .serverNow fun now =>
    (request.route (jwt.validateToken now) authHeader).lift .page fun _ ans => ans)

/-- The `Authorization` header of a session; without a token there is none. -/
def ClientSession.authHeader (session : ClientSession) : String :=
  if truthy session.token then bearer session.token else ""

/-- `auth_request`: after a 401 the access token is refreshed and the request sent again. -/
def authRequest (request : PageRequest) (session : ClientSession) :
    BrowserProg (Option PageReply × ClientSession) :=
  attempt jwt request session.authHeader >>= fun
    | none => .ret (none, session)
    | some reply =>
        if reply.status = some 401 ∧ truthy session.refreshToken = true then
          refreshAccessToken jwt session >>= fun
            | (true, session) =>
                attempt jwt request (bearer session.token) >>= fun reply => .ret (reply, session)
            | (false, session) => .ret (some reply, session)
        else .ret (some reply, session)

/-- The block under `if not st.session_state.auth_restored`. -/
def restoreSession (session : ClientSession) : BrowserProg ClientSession :=
  .call .loadCache fun cached =>
    if truthy cached.refreshToken then
      refreshAccessToken jwt { session with
        authRestored := true, refreshToken := cached.refreshToken, deviceID := cached.deviceID } >>= fun
        | (true, session) => .ret session
        | (false, session) =>
            .call .clearCache fun _ => .ret { session with refreshToken := none, deviceID := none }
    else .ret { session with authRestored := true }

/-- `LoginHandler` at the time ordering reads. -/
def loginRoute (deviceID password : String) : BrowserProg Reply :=
  .call .serverNow fun now =>
    (loginClient jwt compareHashAndPassword now (some ⟨deviceID, password⟩)).lift .account fun _ ans => ans

/-- The login form. -/
def login (deviceID password : String) (session : ClientSession) : BrowserProg ClientSession :=
  exchange Reply.status (loginRoute jwt compareHashAndPassword deviceID password) >>= fun
    | some (.http 200 data) =>
        .call (.saveCache ⟨some deviceID, data.get "refresh_token"⟩) fun _ =>
          .ret { session with
            token := data.get "access_token", refreshToken := data.get "refresh_token"
            deviceID := some deviceID }
    | _ => .ret session

/-- The registration form. It leaves the session as it is. -/
def register (req : RegisterRequest) (hashedPwd : String) (session : ClientSession) :
    BrowserProg ClientSession :=
  exchange Reply.status ((registerClient (some req) hashedPwd).lift .account fun _ ans => ans) >>= fun _ =>
    .ret session

/-- The button EXIT SYSTEM. -/
def exitSystem : BrowserProg ClientSession := .call .clearCache fun _ => .ret {}

end

end AutoGrocery
