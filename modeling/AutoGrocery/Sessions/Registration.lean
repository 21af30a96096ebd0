import AutoGrocery.Sessions.Logins

/-!
Whether a registered device can log in. `register.go` drops the error of the hash
function and stores the empty hash it comes with, which no password fits, so a device
with a password bcrypt does not take has an account that nobody can enter. Its device
id and email are taken from then on.
-/

namespace AutoGrocery

open Interleaving

/-- What the bcrypt library does: no hash for a password of more than 72 bytes, and
for another one a hash that fits it and no other password of that length. -/
structure Bcrypt where
  generateFromPassword : String → String → Option String
  compareHashAndPassword : String → String → Bool
  tooLong : ∀ salt password, 72 < password.utf8ByteSize → generateFromPassword salt password = none
  fits : ∀ salt password, password.utf8ByteSize ≤ 72 →
    ∃ hash, generateFromPassword salt password = some hash ∧
      compareHashAndPassword hash password = true ∧
      ∀ other, other ≠ password → other.utf8ByteSize ≤ 72 → compareHashAndPassword hash other = false
  empty : ∀ password, compareHashAndPassword "" password = false

/-- `hashedPwd, _ := bcrypt.GenerateFromPassword(…)`: an empty hash after an error. -/
def Bcrypt.hashedPwd (bcrypt : Bcrypt) (salt password : String) : String :=
  (bcrypt.generateFromPassword salt password).getD ""

/-- The stored hash fits the password it was made of, and then no other one. -/
theorem Bcrypt.hashedPwd_iff (bcrypt : Bcrypt) (salt password : String) :
    (bcrypt.compareHashAndPassword (bcrypt.hashedPwd salt password) password = true ∧
      ∀ other, other ≠ password → other.utf8ByteSize ≤ 72 →
        bcrypt.compareHashAndPassword (bcrypt.hashedPwd salt password) other = false) ↔
      password.utf8ByteSize ≤ 72 := by
  by_cases hsize : password.utf8ByteSize ≤ 72
  · obtain ⟨hash, hhash, hfits, hothers⟩ := bcrypt.fits salt password hsize
    rw [hashedPwd, hhash]
    exact iff_of_true ⟨hfits, hothers⟩ hsize
  · rw [hashedPwd, bcrypt.tooLong salt password (by omega), Option.getD_none, bcrypt.empty]
    exact iff_of_false (fun h => Bool.false_ne_true h.1) hsize

/-- A request to register, with the salt that is drawn for it and the faults it meets. -/
structure Registration where
  body : Option RegisterRequest
  salt : String
  script : List Fault

section

variable (bcrypt : Bcrypt)

/-- `RegisterHandler.ServeHTTP` at its end. -/
def Registration.serve (registration : Registration) (db : SmartClients) :
    Outcome AccountAns (SmartClients × List Fault) Reply :=
  let hashedPwd := (registration.body.map fun req => bcrypt.hashedPwd registration.salt req.password).getD ""
  (registerClient registration.body hashedPwd).run (scripted accountExec .works) (db, registration.script)

/-- The accounts a registration leaves. -/
def Registration.register (db : SmartClients) (registration : Registration) : SmartClients :=
  (registration.serve bcrypt db).state.1

end

section

variable {bcrypt : Bcrypt} {db : SmartClients} {deviceID : String} {client : SmartClient}

/-- A registration that decodes is one statement. -/
theorem Registration.serve_some (req : RegisterRequest) (salt : String) (script : List Fault) :
    let hashedPwd := bcrypt.hashedPwd salt req.password
    let answer := accountExec (script.headD .works)
      (.createSmartClient req.deviceID req.email req.phone hashedPwd) db
    let outcome := Registration.serve bcrypt ⟨some req, salt, script⟩ db
    outcome.state.1 = answer.2 ∧ (outcome.value.status = some 201 → answer.1 = .ok ()) := by
  intro hashedPwd answer outcome
  have hanswer : scripted accountExec .works (.createSmartClient req.deviceID req.email req.phone hashedPwd)
      (db, script) = (answer.1, answer.2, script.tail) := rfl
  have hrun : outcome =
      (registerClient (some req) hashedPwd).run (scripted accountExec .works) (db, script) := rfl
  rw [hrun, registerClient, Prog.run_call, hanswer]
  cases answer.1 with
  | error err => exact ⟨rfl, fun hcreated => by cases hcreated⟩
  | ok value => exact ⟨rfl, fun _ => rfl⟩

/-- A statement that creates a client stores its hash. -/
theorem accountExec_created {fault : Fault} {email phone passwordHash : String}
    (hok : (accountExec fault (.createSmartClient deviceID email phone passwordHash) db).1 = .ok ()) :
    (accountExec fault (.createSmartClient deviceID email phone passwordHash) db).2.rows.lookup deviceID =
      some ⟨db.nextID, email, phone, passwordHash, none, none⟩ := by
  have hworks : accountExec fault (.createSmartClient deviceID email phone passwordHash) db =
    accountExec .works (.createSmartClient deviceID email phone passwordHash) db := Fault.run_of_ok hok
  rw [hworks] at hok ⊢
  simp only [accountExec, Fault.run_works] at hok ⊢
  cases hcreated : db.createSmartClient deviceID email phone passwordHash with
  | error err =>
      rw [hcreated] at hok
      cases hok
  | ok db' =>
      unfold SmartClients.createSmartClient at hcreated
      split at hcreated
      · cases hcreated
      · cases hcreated
        exact AList.lookup_insert _

/-- A registration leaves the clients that are there alone, whatever faults it meets. -/
theorem Registration.register_keeps (registration : Registration)
    (hrow : db.rows.lookup deviceID = some client) :
    (registration.register bcrypt db).rows.lookup deviceID = some client := by
  obtain ⟨body, salt, script⟩ := registration
  cases body with
  | none => exact hrow
  | some req =>
      obtain ⟨hstate, _⟩ := @Registration.serve_some bcrypt db req salt script
      rw [Registration.register, hstate]
      exact accountExec_createSmartClient hrow

theorem register_all_keeps (later : List Registration) (hrow : db.rows.lookup deviceID = some client) :
    (later.foldl (Registration.register bcrypt) db).rows.lookup deviceID = some client := by
  induction later generalizing db with
  | nil => exact hrow
  | cons registration later ih => exact ih (registration.register_keeps hrow)

/-- A login whose first statement works compares the password with the stored hash. -/
theorem loginClient_status (jwt : JWT) (now : Nat) (script : List Fault) (password : String)
    (hrow : db.rows.lookup deviceID = some client) :
    ((loginClient jwt bcrypt.compareHashAndPassword now (some ⟨deviceID, password⟩)).run
      (scripted accountExec .works) (db, .works :: script)).value.status =
      some (if bcrypt.compareHashAndPassword client.passwordHash password then 200 else 401) := by
  have hread : scripted accountExec .works (.getSmartClient deviceID) (db, .works :: script) =
      (.ok client, db, script) := by
    simp only [scripted, List.headD_cons, List.tail_cons, accountExec, Fault.run_works,
      SmartClients.getSmartClient, hrow]
  rw [loginClient, Prog.run_call, hread]
  cases hfits : bcrypt.compareHashAndPassword client.passwordHash password with
  | false => simp [hfits, httpError, Reply.status]
  | true => simp [hfits, Prog.run_call, loginReply, Reply.status]

end

/-- **A registered device can log in with its password and no other** exactly when
bcrypt takes the password. -/
theorem registered_login_iff (bcrypt : Bcrypt) (jwt : JWT) (now : Nat) {db : SmartClients}
    {req : RegisterRequest} {salt : String} {script : List Fault}
    (hcreated : (Registration.serve bcrypt ⟨some req, salt, script⟩ db).value.status = some 201)
    (later : List Registration) (loginScript : List Fault) :
    let after := later.foldl (Registration.register bcrypt)
      (Registration.register bcrypt db ⟨some req, salt, script⟩)
    let login (password : String) := ((loginClient jwt bcrypt.compareHashAndPassword now
      (some ⟨req.deviceID, password⟩)).run (scripted accountExec .works)
      (after, .works :: loginScript)).value.status
    (login req.password = some 200 ∧ ∀ other, other ≠ req.password → other.utf8ByteSize ≤ 72 →
        login other = some 401) ↔ req.password.utf8ByteSize ≤ 72 := by
  intro after login
  obtain ⟨hstate, hanswer⟩ := @Registration.serve_some bcrypt db req salt script
  have hrow := accountExec_created (hanswer hcreated)
  rw [← hstate] at hrow
  have hlogin : ∀ password, login password =
      some (if bcrypt.compareHashAndPassword (bcrypt.hashedPwd salt req.password) password then 200 else 401) :=
    fun password => loginClient_status jwt now loginScript password (register_all_keeps later hrow)
  rw [← bcrypt.hashedPwd_iff salt req.password]
  simp only [hlogin, Option.some.injEq, ite_eq_left_iff, ite_eq_right_iff]
  simp

namespace Sample

/-- A library whose hashes show their password. -/
def bcrypt : Bcrypt where
  generateFromPassword _ password :=
    if password.utf8ByteSize ≤ 72 then some ("hash of " ++ password) else none
  compareHashAndPassword := compareHashAndPassword
  tooLong _ password hsize := if_neg (by omega)
  fits _ password hsize := by
    refine ⟨_, if_pos hsize, decide_eq_true rfl, fun other hne _ => decide_eq_false fun heq => ?_⟩
    exact hne ((String.append_right_inj _).mp heq).symm
  empty password := decide_eq_false fun heq => by
    have hlength := congrArg String.length heq
    have hcontext : "hash of ".length = 8 := rfl
    rw [String.length_append, hcontext, String.length_empty] at hlength
    omega

/-- A fridge that registers with this password. -/
def fridge (password : String) : RegisterRequest := ⟨"fridge", password, "fridge@home", ""⟩

/-- A password of 73 bytes. -/
def longPassword : String := String.ofList (List.replicate 73 'a')

end Sample

/-- A fridge logs in after an oven has registered, and not with the password of the oven. -/
theorem registered_login_iff_sample :
    let after := [(⟨some ⟨"oven", "hot stuff", "oven@home", ""⟩, "salt", []⟩ : Registration)].foldl
      (Registration.register Sample.bcrypt)
      (Registration.register Sample.bcrypt ⟨∅, 1⟩ ⟨some (Sample.fridge "secret"), "salt", []⟩)
    let login (password : String) := ((loginClient Sample.jwt Sample.compareHashAndPassword 0
      (some ⟨"fridge", password⟩)).run (scripted accountExec .works) (after, [.works])).value.status
    login "secret" = some 200 ∧ login "hot stuff" = some 401 := by
  intro after login
  have hcreated : (Registration.serve Sample.bcrypt ⟨some (Sample.fridge "secret"), "salt", []⟩
      ⟨∅, 1⟩).value.status = some 201 := by decide +kernel
  obtain ⟨hright, hothers⟩ := (registered_login_iff Sample.bcrypt Sample.jwt 0 hcreated
    [⟨some ⟨"oven", "hot stuff", "oven@home", ""⟩, "salt", []⟩] []).mpr (by decide +kernel)
  exact ⟨hright, hothers "hot stuff" (by decide +kernel) (by decide +kernel)⟩

/-- A fridge with a password of 73 bytes is registered and never let in. -/
theorem long_password_locked_out :
    let registered := Registration.serve Sample.bcrypt
      ⟨some (Sample.fridge Sample.longPassword), "salt", []⟩ ⟨∅, 1⟩
    registered.value.status = some 201 ∧
      ((loginClient Sample.jwt Sample.compareHashAndPassword 0 (some ⟨"fridge", Sample.longPassword⟩)).run
        (scripted accountExec .works) (registered.state.1, [])).value.status = some 401 := by
  decide +kernel

end AutoGrocery
