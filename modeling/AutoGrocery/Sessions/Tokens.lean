import AutoGrocery.Ordering.Router
import AutoGrocery.Relational.Table

/-!
Tokens and client accounts of ordering: `internal/auth/jwt.go` and
`internal/store/smart_devices.go`.

Signing and parsing a JWT is done by a library and is a parameter, as is the
comparison of a password with its bcrypt hash. Times are in milliseconds; the
expiry claim of a token is in whole seconds, since `NewNumericDate` truncates.
-/

namespace AutoGrocery

open Interleaving Relational

/-- What the JWT library does with the service's key: `SignedString`, and the
claims `ParseWithClaims` finds in a string whose signature is right. A string
that was signed and parses holds the claims it was signed for. -/
structure JWT where
  signedString : Claims → String
  parseWithClaims : String → Option Claims
  sound : ∀ claims found, parseWithClaims (signedString claims) = some found → found = claims

/-- `15 * time.Minute`. -/
def accessLifetime : Nat := 900000

/-- `7 * 24 * time.Hour`. -/
def refreshLifetime : Nat := 604800000

/-- `jwt.NewNumericDate`. -/
def numericDate (time : Nat) : Nat := time / 1000

/-- The claims of an access token. -/
def accessClaims (now : Nat) (userID : Int) (role : String) : Claims :=
  ⟨userID, role, "ACCESS", numericDate (now + accessLifetime), "auto-grocery"⟩

/-- The claims of a refresh token. -/
def refreshClaims (now : Nat) (userID : Int) (role : String) : Claims :=
  ⟨userID, role, "REFRESH", numericDate (now + refreshLifetime), "auto-grocery"⟩

namespace JWT

variable (jwt : JWT)

/-- `GenerateAccessToken`. -/
def generateAccessToken (now : Nat) (userID : Int) (role : String) : String :=
  jwt.signedString (accessClaims now userID role)

/-- `GenerateRefreshToken`. -/
def generateRefreshToken (now : Nat) (userID : Int) (role : String) : String :=
  jwt.signedString (refreshClaims now userID role)

/-- `ValidateToken`: a token is good while the clock is before its expiry. -/
def validateToken (now : Nat) (tokenString : String) : Option Claims :=
  (jwt.parseWithClaims tokenString).filter fun claims => now < claims.expiresAt * 1000

theorem validateToken_eq_some {now : Nat} {tokenString : String} {claims : Claims}
    (hvalid : jwt.validateToken now tokenString = some claims) :
    jwt.parseWithClaims tokenString = some claims ∧ now < claims.expiresAt * 1000 := by
  obtain ⟨hparse, hexpiry⟩ := Option.filter_eq_some_iff.mp hvalid
  exact ⟨hparse, of_decide_eq_true hexpiry⟩

/-- A signed token validates as the claims it was signed for. -/
theorem validateToken_signed {now : Nat} {claims found : Claims}
    (hvalid : jwt.validateToken now (jwt.signedString claims) = some found) :
    found = claims ∧ now < claims.expiresAt * 1000 := by
  obtain ⟨hparse, hexpiry⟩ := jwt.validateToken_eq_some hvalid
  obtain rfl := jwt.sound claims found hparse
  exact ⟨rfl, hexpiry⟩

end JWT

/-- A NumericDate is not after the time it was made of. -/
theorem numericDate_le (time : Nat) : numericDate time * 1000 ≤ time :=
  Nat.div_mul_le_self time 1000

theorem accessClaims_expiry (now : Nat) (userID : Int) (role : String) :
    (accessClaims now userID role).expiresAt * 1000 ≤ now + accessLifetime :=
  numericDate_le _

theorem refreshClaims_expiry (now : Nat) (userID : Int) (role : String) :
    (refreshClaims now userID role).expiresAt * 1000 ≤ now + refreshLifetime :=
  numericDate_le _

/-! ### Accounts -/

/-- `store.SmartClient`, a row of `smart_clients` under its unique `device_id`.
The token columns are null until the first login. -/
structure SmartClient where
  id : Nat
  email : String
  phone : String
  passwordHash : String
  refreshToken : Option String
  tokenExpiry : Option Nat

/-- `smart_clients` and the next serial id. -/
structure SmartClients where
  rows : Table String SmartClient
  nextID : Nat

namespace SmartClients

/-- `CreateSmartClient`: the device id and the email are unique columns. -/
def createSmartClient (deviceID email phone passwordHash : String) (db : SmartClients) :
    Except GoError SmartClients :=
  if deviceID ∈ db.rows ∨ ∃ entry ∈ db.rows.entries, entry.2.email = email then
    .error (.fault
      "failed to register smart client: pq: duplicate key value violates unique constraint")
  else
    .ok ⟨db.rows.insert deviceID ⟨db.nextID, email, phone, passwordHash, none, none⟩, db.nextID + 1⟩

/-- `GetSmartClient`. -/
def getSmartClient (deviceID : String) (db : SmartClients) : Except GoError SmartClient :=
  match db.rows.lookup deviceID with
  | none => .error (.notFound "client not found: sql: no rows in result set")
  | some client => .ok client

/-- The two token columns of a row set to these values. -/
def writeToken (deviceID : String) (refreshToken : Option String) (tokenExpiry : Option Nat)
    (db : SmartClients) : SmartClients :=
  match db.rows.lookup deviceID with
  | none => db
  | some client =>
      { db with rows := db.rows.insert deviceID { client with refreshToken, tokenExpiry } }

/-- `SetRefreshToken`: no row to update is no error. -/
def setRefreshToken (deviceID token : String) (expiry : Nat) (db : SmartClients) : SmartClients :=
  db.writeToken deviceID (some token) (some expiry)

theorem getSmartClient_eq_ok {deviceID : String} {db : SmartClients} {client : SmartClient}
    (hok : db.getSmartClient deviceID = .ok client) : db.rows.lookup deviceID = some client := by
  unfold getSmartClient at hok
  split at hok
  · cases hok
  · rename_i hrow
    rw [hrow, Except.ok.inj hok]

/-- Writing the tokens of one client leaves the other clients alone. -/
theorem writeToken_lookup (db : SmartClients) (deviceID other : String) (refreshToken : Option String)
    (tokenExpiry : Option Nat) :
    (db.writeToken deviceID refreshToken tokenExpiry).rows.lookup other =
      (db.rows.lookup other).map fun client =>
        if other = deviceID then { client with refreshToken, tokenExpiry } else client := by
  unfold writeToken
  split
  · rename_i hrow
    by_cases heq : other = deviceID
    · subst heq
      rw [hrow]
      rfl
    · simp [heq]
  · rename_i client hrow
    by_cases heq : other = deviceID
    · subst heq
      simp [hrow]
    · simp [heq]

end SmartClients

/-- The statements on `smart_clients`. -/
inductive AccountOp where
  | createSmartClient (deviceID email phone passwordHash : String)
  | getSmartClient (deviceID : String)
  | setRefreshToken (deviceID token : String) (expiry : Nat)

abbrev AccountAns : AccountOp → Type
  | .createSmartClient _ _ _ _ => Except GoError Unit
  | .getSmartClient _ => Except GoError SmartClient
  | .setRefreshToken _ _ _ => Except GoError Unit

/-- One statement on the accounts under a fault. -/
def accountExec (fault : Fault) : Handler AccountAns SmartClients
  | .createSmartClient deviceID email phone passwordHash, db =>
      fault.run "failed to register smart client: " (fun db =>
        match db.createSmartClient deviceID email phone passwordHash with
        | .error err => (.error err, db)
        | .ok db' => (.ok (), db')) db
  | .getSmartClient deviceID, db =>
      fault.run "client not found: " (fun db => (db.getSmartClient deviceID, db)) db
  | .setRefreshToken deviceID token expiry, db =>
      fault.run "failed to save refresh token: "
        (fun db => (.ok (), db.setRefreshToken deviceID token expiry)) db

/-- A registration leaves the clients that are there alone. -/
theorem accountExec_createSmartClient {fault : Fault} {deviceID email phone passwordHash other : String}
    {db : SmartClients} {client : SmartClient} (hrow : db.rows.lookup other = some client) :
    (accountExec fault (.createSmartClient deviceID email phone passwordHash) db).2.rows.lookup other =
      some client := by
  simp only [accountExec]
  rcases Fault.run_state fault "failed to register smart client: " _ db with hkept | hdone
  · rw [hkept]
    exact hrow
  rw [hdone, SmartClients.createSmartClient]
  by_cases htaken : deviceID ∈ db.rows ∨ ∃ entry ∈ db.rows.entries, entry.2.email = email
  · simp only [if_pos htaken]
    exact hrow
  · simp only [if_neg htaken]
    have hne : other ≠ deviceID := by
      rintro rfl
      exact htaken (Or.inl (AList.lookup_isSome.mp (by rw [hrow]; rfl)))
    exact (AList.lookup_insert_ne hne).trans hrow

/-- A client that was read is there, whatever faults there are. -/
theorem accountExec_getSmartClient {fault : Fault} {deviceID : String} {db : SmartClients}
    {client : SmartClient} (hok : (accountExec fault (.getSmartClient deviceID) db).1 = .ok client) :
    db.rows.lookup deviceID = some client := by
  have hrun : (fault.run "client not found: " (fun db => (db.getSmartClient deviceID, db)) db).1 =
    .ok client := hok
  rw [Fault.run_of_ok hrun] at hrun
  exact SmartClients.getSmartClient_eq_ok hrun

end AutoGrocery
