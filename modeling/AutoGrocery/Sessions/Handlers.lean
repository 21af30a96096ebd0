import Mathlib.Data.List.ReduceOption
import AutoGrocery.Interleaving.Pool
import AutoGrocery.Sessions.Tokens

/-!
Requests about client sessions: `register.go`, `login.go` and `refresh.go` of
`internal/handlers/client`, and `AuthMiddleware` in front of a protected route.

A request is served at one reading of the clock. Anyone may send any request in
any order, so a run is a list of visits. Somebody with access to the database
may also write the token columns of a client.
-/

namespace AutoGrocery

open Interleaving

/-- The body of `POST /api/client/register`. -/
structure RegisterRequest where
  deviceID : String
  password : String
  email : String
  phone : String

/-- The body of `POST /api/client/login`. -/
structure LoginRequest where
  deviceID : String
  password : String

abbrev AccountProg := Prog AccountAns Reply

/-- `RegisterHandler.ServeHTTP`. The salted hash of the password is an argument. -/
def registerClient (body : Option RegisterRequest) (hashedPwd : String) : AccountProg :=
  match body with
  | none => .ret (httpError "Invalid JSON" 400)
  | some req =>
      .call (.createSmartClient req.deviceID req.email req.phone hashedPwd) fun
        | .error _ => .ret (httpError "Registration failed" 409)
        | .ok _ => .ret (.http 201 (.json [("status", "success")]))

/-- The words of an `Authorization` header, as `strings.Split` gives them. -/
def headerWords (authHeader : String) : List String :=
  (authHeader.toList.splitOn ' ').map String.ofList

section

variable (jwt : JWT) (compareHashAndPassword : String → String → Bool) (now : Nat)

/-- The body of a successful login. -/
def loginReply (userID : Int) (role : String) : Reply :=
  .http 200 (.json [("access_token", jwt.generateAccessToken now userID role),
    ("refresh_token", jwt.generateRefreshToken now userID role)])

/-- `LoginHandler.ServeHTTP`. The error of the last statement is dropped. -/
def loginClient (body : Option LoginRequest) : AccountProg :=
  match body with
  | none => .ret (httpError "Invalid JSON" 400)
  | some req =>
      .call (.getSmartClient req.deviceID) fun
        | .error _ => .ret (httpError "Invalid credentials" 401)
        | .ok client =>
            if !compareHashAndPassword client.passwordHash req.password then
              .ret (httpError "Invalid credentials" 401)
            else
              .call (.setRefreshToken req.deviceID
                (jwt.generateRefreshToken now client.id "CLIENT") (now + refreshLifetime)) fun _ =>
                .ret (loginReply jwt now client.id "CLIENT")

/-- `RefreshHandler.ServeHTTP`. A header without a second word is an index out of
range, and the handler panics. The store is not read. -/
def refreshAccess (authHeader : String) : Option Reply :=
  if authHeader = "" then some (httpError "Missing Token" 401)
  else
    match (headerWords authHeader)[1]? with
    | none => none
    | some tokenString =>
        match jwt.validateToken now tokenString with
        | none => some (httpError "Invalid Token" 401)
        | some claims =>
            if claims.tokenType ≠ "REFRESH" then some (httpError "Invalid Token Type" 401)
            else some (.http 200 (.json
              [("access_token", jwt.generateAccessToken now claims.userID claims.role)]))

end

/-! ### Visits -/

inductive AccountRequest where
  | register (body : Option RegisterRequest) (hashedPwd : String)
  | login (body : Option LoginRequest)
  | refresh (authHeader : String)
  | enter (authHeader : String)
  | rewrite (deviceID : String) (refreshToken : Option String) (tokenExpiry : Option Nat)

/-- How a request ends: with a reply or a panic, at the handler of a protected
route with these claims, or with the columns written. -/
inductive VisitAnswer where
  | reply (reply : Reply)
  | panicked
  | admitted (claims : Claims)
  | written

/-- A field of the JSON object a request was answered with. -/
def VisitAnswer.field (name : String) : VisitAnswer → Option String
  | .reply (.http _ (.json fields)) => fields.lookup name
  | _ => none

/-- The claims with which a protected route let a request through. -/
def VisitAnswer.claims? : VisitAnswer → Option Claims
  | .admitted claims => some claims
  | _ => none

/-- A request, the time, the accounts it found and how it was served. -/
structure Visit where
  now : Nat
  clients : SmartClients
  request : AccountRequest
  served : VisitAnswer

/-- The tokens a visit handed out. -/
def Visit.tokens (visit : Visit) : List String :=
  [visit.served.field "access_token", visit.served.field "refresh_token"].reduceOption

/-- The accounts, the clock and the visits so far. -/
structure Accounts where
  now : Nat
  clients : SmartClients
  visits : List Visit

/-- The words of the request's `Authorization` header. -/
def AccountRequest.words : AccountRequest → List String
  | .refresh authHeader => headerWords authHeader
  | .enter authHeader => headerWords authHeader
  | _ => []

section

variable (jwt : JWT) (compareHashAndPassword : String → String → Bool)

/-- A request served at a time, under a script of faults. -/
def serveAccount (now : Nat) (script : List Fault) (request : AccountRequest) (db : SmartClients) :
    VisitAnswer × SmartClients :=
  let accounts (prog : AccountProg) : VisitAnswer × SmartClients :=
    let outcome := prog.run (scripted accountExec .works) (db, script)
    (.reply outcome.value, outcome.state.1)
  match request with
  | .register body hashedPwd => accounts (registerClient body hashedPwd)
  | .login body => accounts (loginClient jwt compareHashAndPassword now body)
  | .refresh authHeader => (((refreshAccess jwt now authHeader).map .reply).getD .panicked, db)
  | .enter authHeader =>
      match acceptedClaims (jwt.validateToken now) authHeader with
      | .error message => (.reply (httpError message 401), db)
      | .ok claims => (.admitted claims, db)
  | .rewrite deviceID refreshToken tokenExpiry =>
      (.written, db.writeToken deviceID refreshToken tokenExpiry)

/-- A visit some time after the last one. -/
def visitAct : Act (Nat × List Fault × AccountRequest) Unit Accounts Visit :=
  fun choice _ accounts =>
    let now := accounts.now + choice.1
    let answer := serveAccount jwt compareHashAndPassword now choice.2.1 choice.2.2 accounts.clients
    let visit : Visit := ⟨now, accounts.clients, choice.2.2, answer.1⟩
    some ⟨visit, (), [], ⟨now, answer.2, accounts.visits ++ [visit]⟩⟩

/-- Nobody forges a signature: a word that parses as a token was handed out. -/
def unforged (pool : Pool Unit Accounts) (_ : Nat) (visit : Visit) : Bool :=
  visit.request.words.all fun word =>
    (jwt.parseWithClaims word).isNone || decide (∃ earlier ∈ pool.state.visits, word ∈ earlier.tokens)

/-- The service before its first visit. -/
def openingPool (now : Nat) (clients : SmartClients) : Pool Unit Accounts := ⟨[()], now, clients, []⟩

end

end AutoGrocery
