import FireIsp.Auth.Statements
import FireIsp.Base.Text

/-!
# The staff login

`login`, `refreshToken`, `switchOrganization`, `logout` and the password calls of `authService`, and
the codes of `twoFactorService`.  Any number of these calls run beside each other.
-/

namespace FireIsp.Auth

open Txn Throwing

/-- The errors of a call. -/
inductive Failure
  | raised
  | unauthorized (message : String)
  | validation (message : String)
  | notFound (entity : String)
  | forbidden (message : String)

instance : Raises Failure := ⟨.raised⟩

/-- What is asked outside of the two tables. -/
inductive Query
  | hash (password : String)
  | fallbackOrganization (userId : Nat)
  | activeOrganization (userId organizationId : Nat)
  | principal (userId organizationId : Nat)
  | totp (secret : String) (code : Secret)
  /-- Whether the driver hands the codes out as text that `JSON.parse` reads. -/
  | textual

/-- Replies; a lookup of an organization that raises replies `none`. -/
@[reducible] def Answer : Query → Type
  | .hash _ => String
  | .fallbackOrganization _ => Option (Option Nat)
  | .activeOrganization .. => Option (Option Nat)
  | .principal .. => Option (Option Nat)
  | .totp .. => Bool
  | .textual => Bool

/-- A part of a call. -/
abbrev Body (A : Type) : Type := Client Stmt Stmt.Res Query Answer Failure A

abbrev statement (op : Stmt) : Body op.Res := Client.statement .pool op

/-- A statement of a transaction, which may raise. -/
abbrev inside (op : Stmt) : Body op.Res := Client.statement .conn op

/-- What a second factor was. -/
inductive Method
  | totp
  | backupCode

/-- What a call returns.  When a password was set is no part of the reply. -/
inductive Answered
  | issued (refreshToken : Secret) (activeOrgId : Option Nat)
  /-- The token of a reset, if there is an account. -/
  | requested (token : Option Secret)
  | passwordSet (userId setAt : Nat)
  | verified (method : Method)
  | codes (method : Method) (backupCodes : List Secret)
  | done

variable (digest : Secret → Digest)

/-- `new Date()` -/
def readClock : Body Nat := lift (Prog.send .pool Stmt.clock)

/-- The account is not locked. -/
def refuseLocked (user : User) : Body Unit :=
  match user.lockedUntil with
  | none => pure ()
  | some lockedUntil => do
      let now ← readClock
      refuseIf (now < lockedUntil)
        (.unauthorized "Account temporarily locked due to too many failed login attempts")

/-- A wrong password is counted. -/
def countFailure (user : User) : Body Unit :=
  let attempts := user.failedLoginAttempts + 1
  if maxLoginAttempts ≤ attempts then statement (.lockAccount user.id attempts)
  else statement (.storeAttempts user.id attempts)

def resetAttempts (user : User) : Body Unit :=
  if 0 < user.failedLoginAttempts ∨ user.lockedUntil ≠ none then statement (.clearAttempts user.id)
  else pure ()

/-- A session is opened for a login that was verified. -/
def openFor (user : User) : Body Answered := do
  resetAttempts user
  statement .otherwise
  let answer ← Client.asked (.fallbackOrganization user.id)
  let fallback ← orThrow answer .raised
  let refreshToken ← statement (.openSession user.id user.passwordSetAt)
  pure (.issued refreshToken (fallback <|> user.organizationId))

/-- What a comparison means for a login. -/
def settleLogin (user : User) : Bool → Body Answered
  | true => openFor user
  | false => do
      countFailure user
      throw (.unauthorized "Invalid email or password")

def login (email password : String) : Body Answered := do
  let found ← statement (.byEmail email)
  let user ← orThrow found (.unauthorized "Invalid email or password")
  refuseIf (user.status ≠ .active) (.unauthorized "Account is inactive")
  refuseLocked user
  let valid ← statement (.compare password user)
  settleLogin user valid

/-- The transaction of `consumeAndReplaceSession`. -/
def claimAndReplace (sessionId userId : Nat) (tokenFamily : Option Nat) (origin : Nat) :
    Body Secret := do
  let claimed ← inside (.deleteSession sessionId)
  refuseIf (claimed = false) (.unauthorized "Invalid or expired refresh token")
  inside (.replaceSession userId tokenFamily origin)

def consumeAndReplaceSession (sessionId userId : Nat) (tokenFamily : Option Nat) (origin : Nat) :
    Body Secret :=
  Client.inTransactionQuietly (claimAndReplace sessionId userId tokenFamily origin)

def refuseExpired (session : UserSession) : Bool → Body Unit
  | false => pure ()
  | true => do
      let _ ← statement (.deleteSession session.id)
      throw (.unauthorized "Refresh token expired")

def checkExpiry (session : UserSession) : Body Unit := do
  let now ← readClock
  refuseExpired session (decide (session.expiresAt ≤ now))

/-- The organization of the new access token. -/
def activeOrganization (user : User) (requested fallback : Option Nat) : Body (Option Nat) :=
  match requested with
  | none => pure fallback
  | some organizationId =>
    if organizationId = 0 ∨ some organizationId = fallback then pure fallback
    else do
      let answer ← Client.asked (.activeOrganization user.id organizationId)
      let resolved ← orThrow answer .raised
      pure (resolved <|> fallback)

def activeUser {p : User → Prop} (found : Option {user : User // p user}) :
    Body {user : User // p user} := do
  let user ← orThrow found (.unauthorized "User not found or inactive")
  refuseIf (user.1.status ≠ .active) (.unauthorized "User not found or inactive")
  pure user

def refreshToken (currentRefreshToken : Secret) (requestedActiveOrgId : Option Nat) :
    Body Answered := do
  let found ← statement (.sessionByHash (digest currentRefreshToken))
  let session ← orThrow found (.unauthorized "Invalid or expired refresh token")
  checkExpiry session.1
  let account ← statement (.byId session.1.userId)
  let user ← activeUser account
  let answer ← Client.asked (.fallbackOrganization user.1.id)
  let fallback ← orThrow answer .raised
  let activeOrgId ←
    activeOrganization user.1 requestedActiveOrgId (fallback <|> user.1.organizationId)
  let newRefreshToken ←
    consumeAndReplaceSession session.1.id user.1.id session.1.tokenFamily session.1.origin
  pure (.issued newRefreshToken activeOrgId)

def switchOrganization (userId organizationId : Nat) (currentRefreshToken : Option Secret) :
    Body Answered := do
  refuseIf (organizationId = 0) (.validation "organizationId is required")
  let account ← statement (.byId userId)
  let user ← activeUser account
  let answer ← Client.asked (.principal user.1.id organizationId)
  let principal ← orThrow answer .raised
  let membership ← orThrow principal (.forbidden "User is not a member of the requested organization")
  let token ← orThrow currentRefreshToken
    (.unauthorized "Refresh token required to switch organizations")
  let found ← statement (.sessionOf (digest token) userId)
  let session ← orThrow found (.unauthorized "Invalid or expired refresh token")
  checkExpiry session.1
  let newRefreshToken ←
    consumeAndReplaceSession session.1.id user.1.id session.1.tokenFamily session.1.origin
  pure (.issued newRefreshToken (some membership))

def logout (refreshTokenValue : Secret) : Body Answered := do
  statement (.deleteByHash (digest refreshTokenValue))
  pure .done

def requestPasswordReset (email : String) : Body Answered := do
  let found ← statement (.byEmail email)
  match found with
  | none => pure (.requested none)
  | some user => do
      let token ← statement (.storeResetToken user.id)
      pure (.requested (some token))

def resetPassword (token : Secret) (newPassword : String) : Body Answered := do
  refuseIf (Text.units newPassword < 8) (.validation "Password must be at least 8 characters")
  let found ← statement (.byResetToken (digest token))
  let user ← orThrow found (.unauthorized "Invalid or expired reset token")
  let passwordHash ← Client.asked (.hash newPassword)
  let setAt ← statement (.resetPassword user.1.id (digest token) passwordHash)
  statement (.deleteSessionsOf user.1.id setAt)
  pure (.passwordSet user.1.id setAt)

def changePassword (userId : Nat) (currentPassword newPassword : String) : Body Answered := do
  refuseIf (Text.units newPassword < 8) (.validation "New password must be at least 8 characters")
  let found ← statement (.byId userId)
  let user ← orThrow found (.notFound "User")
  let valid ← statement (.confirm currentPassword user.1)
  refuseIf (valid = false) (.unauthorized "Current password is incorrect")
  let passwordHash ← Client.asked (.hash newPassword)
  let setAt ← statement (.storePassword user.1.id passwordHash)
  statement (.deleteSessionsOf user.1.id setAt)
  pure (.passwordSet user.1.id setAt)

/-- A backup code is taken from those of the user. -/
def spendBackupCode (userId : Nat) (user : User) (code : Secret) : Body Method := do
  let textual ← Client.asked .textual
  refuseIf (textual = false) .raised
  refuseIf (digest code ∉ user.totpBackupCodes.getD []) (.unauthorized "Invalid 2FA code")
  statement (.spendCode userId (user.totpBackupCodes.getD []) (digest code))
  pure .backupCode

/-- What is tried once it is known whether a code is of the authenticator. -/
def tryBackupCode (userId : Nat) (user : User) (code : Secret) : Bool → Body Method
  | true => pure .totp
  | false => spendBackupCode digest userId user code

def verifyCode (userId : Nat) (code : Secret) : Body Method := do
  let found ← statement (.selectTotp userId)
  let user ← orThrow found (.unauthorized "User not found")
  refuseIf (user.1.totpEnabled = false) (.validation "2FA is not enabled for this account")
  let secret ← orThrow user.1.totpSecret .raised
  let right ← Client.asked (.totp secret code)
  tryBackupCode digest userId user.1 code right

def regenerateBackupCodes (userId : Nat) (code : Secret) : Body Answered := do
  let method ← verifyCode digest userId code
  let backupCodes ← statement (.replaceCodes userId)
  pure (.codes method backupCodes)

def verifyAndEnable (userId : Nat) (code : Secret) : Body Answered := do
  let found ← statement (.selectTotp userId)
  let secret ← orThrow (found.bind fun user => user.1.totpSecret)
    (.validation "No 2FA secret configured. Call setup first.")
  let right ← Client.asked (.totp secret code)
  refuseIf (right = false) (.unauthorized "Invalid verification code")
  let backupCodes ← statement (.enableTotp userId)
  pure (.codes .totp backupCodes)

def generateSecret (userId : Nat) (secret : String) : Body Answered := do
  let found ← statement (.selectTotp userId)
  let _ ← orThrow found (.validation "User not found")
  statement (.storeSecret userId secret)
  pure .done

def disable (userId : Nat) : Body Answered := do
  statement (.disableTotp userId)
  pure .done

/-- What runs beside each other: calls, and the time. -/
inductive Call
  | login (email password : String)
  | refreshToken (token : Secret) (requestedActiveOrgId : Option Nat)
  | switchOrganization (userId organizationId : Nat) (token : Option Secret)
  | logout (token : Secret)
  | requestPasswordReset (email : String)
  | resetPassword (token : Secret) (newPassword : String)
  | changePassword (userId : Nat) (currentPassword newPassword : String)
  | verifyCode (userId : Nat) (code : Secret)
  | regenerateBackupCodes (userId : Nat) (code : Secret)
  | verifyAndEnable (userId : Nat) (code : Secret)
  | generateSecret (userId : Nat) (secret : String)
  | disable (userId : Nat)
  | elapse (seconds : Nat)

/-- Time passes. -/
def elapse (seconds : Nat) : Body Answered := do
  statement (.elapse seconds)
  pure .done

/-- What a call does. -/
def Call.body : Call → Body Answered
  | .login email password => Auth.login email password
  | .refreshToken token requested => Auth.refreshToken digest token requested
  | .switchOrganization userId organizationId token =>
    Auth.switchOrganization digest userId organizationId token
  | .logout token => Auth.logout digest token
  | .requestPasswordReset email => Auth.requestPasswordReset email
  | .resetPassword token newPassword => Auth.resetPassword digest token newPassword
  | .changePassword userId currentPassword newPassword =>
    Auth.changePassword userId currentPassword newPassword
  | .verifyCode userId code => do
      let method ← Auth.verifyCode digest userId code
      pure (.verified method)
  | .regenerateBackupCodes userId code => Auth.regenerateBackupCodes digest userId code
  | .verifyAndEnable userId code => Auth.verifyAndEnable userId code
  | .generateSecret userId secret => Auth.generateSecret userId secret
  | .disable userId => Auth.disable userId
  | .elapse seconds => Auth.elapse seconds

/-- The program of a call, which returns its answer beside it. -/
def Call.run (call : Call) :
    Prog Stmt Stmt.Res (Outside Stmt Query) (Outside.Answer Answer)
      (Call × Except Failure Answered) := do
  let tried ← (call.body digest).run
  pure (call, tried)

/-- The tables with all calls on them. -/
abbrev System :=
  Sys Db Write Nat Stmt Stmt.Res (Outside Stmt Query) (Outside.Answer Answer)
    (Call × Except Failure Answered)

/-- A choice of the scheduler. -/
abbrev Choice := Label (@Outside.Answer Stmt Query Answer)

end FireIsp.Auth
