import FireIsp.Base.Client
import FireIsp.Base.Table

/-!
# Statements of the staff login

The rows of `users` and `user_sessions`, and the statements of `authService` and
`twoFactorService` on them.  Times are in seconds.
-/

namespace FireIsp.Auth

open Txn

/-- A random value, named after when it was stored. -/
inductive Secret
  | token (tick : Nat)
  | code (tick index : Nat)

/-- When it was stored. -/
def Secret.tick : Secret → Nat
  | .token tick => tick
  | .code tick _ => tick

/-- A SHA-256 digest in hexadecimal. -/
abbrev Digest := List Char

/-- `users.status`. -/
inductive UserStatus
  | active
  | inactive
  deriving DecidableEq

/-- Row of `users`; when the password was set is no column. -/
structure User where
  id : Nat
  organizationId : Option Nat
  email : String
  status : UserStatus
  deletedAt : Option Nat
  passwordHash : String
  passwordSetAt : Nat
  failedLoginAttempts : Nat
  lockedUntil : Option Nat
  resetTokenHash : Option Digest
  resetTokenExpires : Option Nat
  totpSecret : Option String
  totpEnabled : Bool
  totpBackupCodes : Option (List Digest)
  deriving DecidableEq

/-- Row of `user_sessions`; the password of its login is no column. -/
structure UserSession where
  id : Nat
  userId : Nat
  tokenHash : Digest
  tokenFamily : Option Nat
  expiresAt : Nat
  /-- When the password was set that its login was verified against. -/
  origin : Nat

/-- The tables.  `user_sessions` is the rows that were inserted without those that were deleted. -/
structure Db where
  clock : Nat
  users : List User
  /-- Rows of `user_sessions` that were inserted. -/
  inserted : List UserSession
  deleted : List Nat
  /-- Users whose sessions were deleted, with when the password was set that did it. -/
  revoked : List (Nat × Nat)
  /-- Users whose password a login has compared. -/
  compared : List Nat

def Db.userSessions (db : Db) : List UserSession :=
  db.inserted.filter fun row => row.id ∉ db.deleted

def Db.idsWhere (db : Db) (p : UserSession → Bool) : List Nat :=
  (db.userSessions.filter p).map UserSession.id

def maxLoginAttempts : Nat := 5

def lockoutMinutes : Nat := 15

def backupCodeCount : Nat := 10

def refreshSeconds : Nat := 604800

/-- SQL statements, and the comparison of a password. -/
inductive Stmt
  | clock
  | elapse (seconds : Nat)
  | byEmail (email : String)
  | byId (userId : Nat)
  /-- The user whose reset token has a digest, unless it has expired. -/
  | byResetToken (tokenHash : Digest)
  /-- The row of a user, with the columns of the second factor. -/
  | selectTotp (userId : Nat)
  | sessionByHash (tokenHash : Digest)
  | sessionOf (tokenHash : Digest) (userId : Nat)
  | compare (password : String) (user : User)
  | confirm (password : String) (user : User)
  | storeAttempts (userId attempts : Nat)
  | lockAccount (userId attempts : Nat)
  | clearAttempts (userId : Nat)
  /-- A session is inserted for a login that was verified. -/
  | openSession (userId origin : Nat)
  | replaceSession (userId : Nat) (tokenFamily : Option Nat) (origin : Nat)
  /-- A session is deleted; the reply says whether it was there. -/
  | deleteSession (sessionId : Nat)
  | deleteByHash (tokenHash : Digest)
  | deleteSessionsOf (userId setAt : Nat)
  | storeResetToken (userId : Nat)
  | resetPassword (userId : Nat) (tokenHash : Digest) (passwordHash : String)
  | storePassword (userId : Nat) (passwordHash : String)
  /-- The codes that were read are stored without one. -/
  | spendCode (userId : Nat) (backupCodes : List Digest) (codeHash : Digest)
  | replaceCodes (userId : Nat)
  /-- New codes are stored, and the second factor is switched on. -/
  | enableTotp (userId : Nat)
  | storeSecret (userId : Nat) (secret : String)
  | disableTotp (userId : Nat)
  /-- Columns and tables nothing here reads are written. -/
  | otherwise

/-- It is the live user with an id. -/
def User.IsById (userId : Nat) (user : User) : Prop := user.id = userId ∧ user.deletedAt = none

def User.ResetsBy (now : Nat) (tokenHash : Digest) (user : User) : Prop :=
  user.resetTokenHash = some tokenHash ∧ ∃ expires ∈ user.resetTokenExpires, now < expires

def UserSession.IsByHash (tokenHash : Digest) (row : UserSession) : Prop :=
  row.tokenHash = tokenHash

def UserSession.IsOf (tokenHash : Digest) (userId : Nat) (row : UserSession) : Prop :=
  row.tokenHash = tokenHash ∧ row.userId = userId

instance (userId : Nat) : DecidablePred (User.IsById userId) :=
  fun _ => inferInstanceAs (Decidable (_ ∧ _))

instance (now : Nat) (tokenHash : Digest) : DecidablePred (User.ResetsBy now tokenHash) :=
  fun _ => inferInstanceAs (Decidable (_ ∧ _))

instance (tokenHash : Digest) : DecidablePred (UserSession.IsByHash tokenHash) :=
  fun _ => inferInstanceAs (Decidable (_ = _))

instance (tokenHash : Digest) (userId : Nat) : DecidablePred (UserSession.IsOf tokenHash userId) :=
  fun _ => inferInstanceAs (Decidable (_ ∧ _))

/-- Replies. -/
@[reducible] def Stmt.Res : Stmt → Type
  | .clock => Nat
  | .byEmail _ => Option User
  | .byId userId => Option {user : User // user.IsById userId}
  | .byResetToken tokenHash => Option {user : User // ∃ now, user.ResetsBy now tokenHash}
  | .selectTotp userId => Option {user : User // user.id = userId}
  | .sessionByHash tokenHash => Option {row : UserSession // row.IsByHash tokenHash}
  | .sessionOf tokenHash userId => Option {row : UserSession // row.IsOf tokenHash userId}
  | .compare .. => Bool
  | .confirm .. => Bool
  | .openSession .. => Secret
  | .replaceSession .. => Secret
  | .deleteSession _ => Bool
  | .storeResetToken _ => Secret
  | .resetPassword .. => Nat
  | .storePassword .. => Nat
  | .replaceCodes _ => List Secret
  | .enableTotp _ => List Secret
  | _ => Unit

/-- What is written to a row of `users`. -/
inductive Update
  | attempts (attempts : Nat)
  | locked (attempts lockedUntil : Nat)
  | cleared
  | resetToken (tokenHash : Digest) (expires : Nat)
  | reset (passwordHash : String) (setAt : Nat)
  | password (passwordHash : String) (setAt : Nat)
  | codes (backupCodes : List Digest)
  | enabled (backupCodes : List Digest)
  | secret (secret : String)
  | disabled

/-- The row after an update. -/
def User.update (user : User) : Update → User
  | .attempts attempts => { user with failedLoginAttempts := attempts }
  | .locked attempts lockedUntil =>
    { user with failedLoginAttempts := attempts, lockedUntil := some lockedUntil }
  | .cleared => { user with failedLoginAttempts := 0, lockedUntil := none }
  | .resetToken tokenHash expires =>
    { user with resetTokenHash := some tokenHash, resetTokenExpires := some expires }
  | .reset passwordHash setAt =>
    { user with
      passwordHash := passwordHash
      passwordSetAt := setAt
      resetTokenHash := none
      resetTokenExpires := none
      failedLoginAttempts := 0
      lockedUntil := none }
  | .password passwordHash setAt =>
    { user with passwordHash := passwordHash, passwordSetAt := setAt }
  | .codes backupCodes => { user with totpBackupCodes := some backupCodes }
  | .enabled backupCodes =>
    { user with totpEnabled := true, totpBackupCodes := some backupCodes }
  | .secret secret => { user with totpSecret := some secret, totpEnabled := false }
  | .disabled =>
    { user with totpEnabled := false, totpSecret := none, totpBackupCodes := none }

theorem User.id_update (user : User) (update : Update) : (user.update update).id = user.id := by
  cases update <;> rfl

/-- Row versions. -/
inductive Write
  | elapsed (seconds : Nat)
  | updated (userId : Nat) (update : Update)
  | inserted (row : UserSession)
  | deleted (sessionIds : List Nat)
  | revoked (userId setAt : Nat)
  | compared (userId : Nat)

/-- One row version is stored. -/
def Db.apply (db : Db) : Write → Db
  | .elapsed seconds => { db with clock := db.clock + seconds }
  | .updated userId update =>
    { db with users := Table.modify User.id userId (fun user => user.update update) db.users }
  | .inserted row => { db with inserted := db.inserted ++ [row] }
  | .deleted sessionIds => { db with deleted := db.deleted ++ sessionIds }
  | .revoked userId setAt => { db with revoked := db.revoked ++ [(userId, setAt)] }
  | .compared userId => { db with compared := db.compared ++ [userId] }

def Db.user (db : Db) (userId : Nat) : Option User := Table.find User.id userId db.users

/-- `generateBackupCodes` -/
def backupCodesOf (tick : Nat) : List Secret := (List.range backupCodeCount).map (.code tick)

/-- The user whose reset token has a digest, unless it has expired. -/
def Db.byResetToken (db : Db) (tokenHash : Digest) :
    Option {user : User // ∃ now, user.ResetsBy now tokenHash} :=
  (Table.search (User.ResetsBy db.clock tokenHash) db.users).map fun user =>
    ⟨user.1, db.clock, user.2⟩

section Engine

variable (digest : Secret → Digest) (verifies : String → String → Bool)
  (same : String → String → Bool)

/-- The row of a session that is inserted. -/
def newSession (tick : Nat) (db : Db) (userId : Nat) (tokenFamily : Option Nat) (origin : Nat) :
    UserSession where
  id := tick
  userId := userId
  tokenHash := digest (.token tick)
  tokenFamily := tokenFamily
  expiresAt := db.clock + refreshSeconds
  origin := origin

/-- Reply and row versions of a statement. -/
def exec (tick : Nat) (db : Db) : (op : Stmt) → op.Res × List Write
  | .clock => (db.clock, [])
  | .elapse seconds => ((), [.elapsed seconds])
  | .byEmail email =>
    (db.users.find? fun user => same user.email email && user.deletedAt.isNone, [])
  | .byId userId => (Table.search (User.IsById userId) db.users, [])
  | .byResetToken tokenHash => (db.byResetToken tokenHash, [])
  | .selectTotp userId => (Table.search (fun user => user.id = userId) db.users, [])
  | .sessionByHash tokenHash =>
    (Table.search (UserSession.IsByHash tokenHash) db.userSessions, [])
  | .sessionOf tokenHash userId =>
    (Table.search (UserSession.IsOf tokenHash userId) db.userSessions, [])
  | .compare password user => (verifies password user.passwordHash, [.compared user.id])
  | .confirm password user => (verifies password user.passwordHash, [])
  | .storeAttempts userId attempts => ((), [.updated userId (.attempts attempts)])
  | .lockAccount userId attempts =>
    ((), [.updated userId (.locked attempts (db.clock + lockoutMinutes * 60))])
  | .clearAttempts userId => ((), [.updated userId .cleared])
  | .openSession userId origin =>
    (.token tick, [.inserted (newSession digest tick db userId (some tick) origin)])
  | .replaceSession userId tokenFamily origin =>
    (.token tick, [.inserted (newSession digest tick db userId tokenFamily origin)])
  | .deleteSession sessionId =>
    let found := db.idsWhere fun row => row.id = sessionId
    (!found.isEmpty, [.deleted found])
  | .deleteByHash tokenHash =>
    ((), [.deleted (db.idsWhere fun row => row.tokenHash = tokenHash)])
  | .deleteSessionsOf userId setAt =>
    ((), [.deleted (db.idsWhere fun row => row.userId = userId), .revoked userId setAt])
  | .storeResetToken userId =>
    (.token tick, [.updated userId (.resetToken (digest (.token tick)) (db.clock + 3600))])
  | .resetPassword userId _ passwordHash => (tick, [.updated userId (.reset passwordHash tick)])
  | .storePassword userId passwordHash => (tick, [.updated userId (.password passwordHash tick)])
  | .spendCode userId backupCodes codeHash =>
    ((), [.updated userId (.codes (backupCodes.erase codeHash))])
  | .replaceCodes userId =>
    (backupCodesOf tick, [.updated userId (.codes ((backupCodesOf tick).map digest))])
  | .enableTotp userId =>
    (backupCodesOf tick, [.updated userId (.enabled ((backupCodesOf tick).map digest))])
  | .storeSecret userId secret => ((), [.updated userId (.secret secret)])
  | .disableTotp userId => ((), [.updated userId .disabled])
  | .otherwise => ((), [])

def locks : Stmt → Db → List Nat
  | .deleteSession sessionId, db => db.idsWhere fun row => row.id = sessionId
  | .deleteByHash tokenHash, db => db.idsWhere fun row => row.tokenHash = tokenHash
  | .deleteSessionsOf userId _, db => db.idsWhere fun row => row.userId = userId
  | _, _ => []

/-- The statements. -/
def engine : Engine Db Write Nat Stmt Stmt.Res where
  apply := Db.apply
  exec op tick db _ := exec digest verifies same tick db op
  locks := locks
  snapshots _ := false

end Engine

end FireIsp.Auth
