import FireIsp.Auth.Service

/-!
# What a call knows

Between two statements a call knows the user or the session it has read, and how far it has come
with a rotation, a new password or a backup code.
-/

namespace FireIsp.Auth

open Txn Throwing

/-- What a call knows. -/
inductive Know
  | nothing
  | read (user : User) (seen : Nat)
  | found (row : UserSession)
  | begun (row : UserSession)
  | missed
  | claimed (row : UserSession)
  | replaced (row : UserSession)
  | redeemed (row : UserSession)
  | stored (userId setAt : Nat) (tokenHash : Option Digest)
  | revoked (userId setAt : Nat) (tokenHash : Option Digest)
  | spent (userId : Nat) (codeHash : Digest)

/-- The clock is read. -/
def Know.timed (now : Nat) : Know → Know
  | .read user _ => .read user now
  | know => know

def Know.admits (user : User) : Know → Bool
  | .read user' seen => decide (user' = user) && user.lockedUntil.all fun t => decide (t ≤ seen)
  | _ => false

/-- The sessions of the user whose password was set are deleted. -/
def Know.revoke (userId setAt : Nat) : Know → Option Know
  | .stored userId' setAt' tokenHash =>
    if userId' = userId ∧ setAt' = setAt then some (.revoked userId setAt tokenHash) else none
  | _ => none

/-- Its transaction is open. -/
def Know.isOpen : Know → Bool
  | .begun _ => true
  | .missed => true
  | .claimed _ => true
  | .replaced .. => true
  | _ => false

/-- What a statement of a transaction teaches. -/
def Know.inside : Know → (op : Stmt) → Option (op.Res → Know)
  | .begun row, .deleteSession sessionId =>
    if sessionId = row.id then some fun there => if there then .claimed row else .missed
    else none
  | .claimed row, .replaceSession userId tokenFamily origin =>
    if userId = row.userId ∧ tokenFamily = row.tokenFamily ∧ origin = row.origin then
      some fun _ => .replaced row
    else none
  | _, _ => none

/-- Hashes are equal where they look equal. -/
local instance lawfulHash : LawfulBEq (List Char) := inferInstance

/-- What a statement on the pool teaches. -/
def Know.outside (know : Know) : (op : Stmt) → Option (op.Res → Know)
  | .clock => some fun now => know.timed now
  | .byEmail _ => some fun reply => reply.elim know fun user => .read user 0
  | .compare _ user => if know.admits user then some fun _ => know else none
  | .storeAttempts _ attempts =>
    if attempts < maxLoginAttempts then some fun _ => know else none
  | .sessionByHash _ => some fun reply => reply.elim know fun row => .found row.1
  | .sessionOf .. => some fun reply => reply.elim know fun row => .found row.1
  | .resetPassword userId tokenHash _ => some fun setAt => .stored userId setAt (some tokenHash)
  | .storePassword userId _ => some fun setAt => .stored userId setAt none
  | .deleteSessionsOf userId setAt => (know.revoke userId setAt).map fun know' _ => know'
  | .spendCode userId backupCodes codeHash =>
    if codeHash ∈ backupCodes then some fun _ => .spent userId codeHash else none
  | .replaceSession .. => none
  | _ => some fun _ => know

/-- What calls may send. -/
def tracking : Discipline Know Stmt Stmt.Res (Outside Stmt Query) (Outside.Answer Answer) where
  started know := match know with
    | .found row => some (.begun row)
    | _ => none
  committed know := match know with
    | .replaced row => some (.redeemed row)
    | _ => none
  rolledBack _ := some .nothing
  sent know via op := match via with
    | .pool => if know.isOpen then none else know.outside op
    | .conn => know.inside op
  asked know _ := some fun _ => know

/-- What a reply on the pool teaches. -/
inductive Taught (know : Know) : (op : Stmt) → op.Res → Know → Prop
  | same (op : Stmt) (reply : op.Res) : Taught know op reply know
  | timed (now : Nat) : Taught know .clock now (know.timed now)
  | read (email : String) (user : User) : Taught know (.byEmail email) (some user) (.read user 0)
  | found (tokenHash : Digest) (row : {row : UserSession // row.IsByHash tokenHash}) :
      Taught know (.sessionByHash tokenHash) (some row) (.found row.1)
  | owned (tokenHash : Digest) (userId : Nat)
      (row : {row : UserSession // row.IsOf tokenHash userId}) :
      Taught know (.sessionOf tokenHash userId) (some row) (.found row.1)
  | reset (userId : Nat) (tokenHash : Digest) (passwordHash : String) (setAt : Nat) :
      Taught know (.resetPassword userId tokenHash passwordHash) setAt
        (.stored userId setAt (some tokenHash))
  | set (userId : Nat) (passwordHash : String) (setAt : Nat) :
      Taught know (.storePassword userId passwordHash) setAt (.stored userId setAt none)
  | revoked (userId setAt : Nat) (tokenHash : Option Digest)
      (hknow : know = .stored userId setAt tokenHash) :
      Taught know (.deleteSessionsOf userId setAt) () (.revoked userId setAt tokenHash)
  | spent (userId : Nat) (backupCodes : List Digest) (codeHash : Digest)
      (hcode : codeHash ∈ backupCodes) :
      Taught know (.spendCode userId backupCodes codeHash) () (.spent userId codeHash)

variable {op : Stmt}

theorem taught_of_outside {know : Know} {learn : op.Res → Know} (h : know.outside op = some learn)
    (reply : op.Res) : Taught know op reply (learn reply) := by
  cases op with
  | clock =>
    obtain rfl := Option.some.inj h
    exact .timed reply
  | byEmail email =>
    obtain rfl := Option.some.inj h
    cases reply with
    | none => exact .same _ _
    | some user => exact .read email user
  | sessionByHash tokenHash =>
    obtain rfl := Option.some.inj h
    cases reply with
    | none => exact .same _ _
    | some row => exact .found tokenHash row
  | sessionOf tokenHash userId =>
    obtain rfl := Option.some.inj h
    cases reply with
    | none => exact .same _ _
    | some row => exact .owned tokenHash userId row
  | compare password user =>
    obtain ⟨-, hlearn⟩ := Option.ite_none_right_eq_some.mp h
    rw [← Option.some.inj hlearn]
    exact .same _ _
  | storeAttempts userId attempts =>
    obtain ⟨-, hlearn⟩ := Option.ite_none_right_eq_some.mp h
    rw [← Option.some.inj hlearn]
    exact .same _ _
  | resetPassword userId tokenHash passwordHash =>
    obtain rfl := Option.some.inj h
    exact .reset userId tokenHash passwordHash reply
  | storePassword userId passwordHash =>
    obtain rfl := Option.some.inj h
    exact .set userId passwordHash reply
  | deleteSessionsOf userId setAt =>
    obtain ⟨know', hrevoke, rfl⟩ := Option.map_eq_some_iff.mp h
    cases know with
    | stored storedFor storedAt tokenHash =>
      obtain ⟨⟨rfl, rfl⟩, hknow⟩ := Option.ite_none_right_eq_some.mp hrevoke
      obtain rfl := Option.some.inj hknow
      exact .revoked storedFor storedAt tokenHash rfl
    | _ => exact nomatch hrevoke
  | spendCode userId backupCodes codeHash =>
    obtain ⟨hcode, hlearn⟩ := Option.ite_none_right_eq_some.mp h
    rw [← Option.some.inj hlearn]
    exact .spent userId backupCodes codeHash hcode
  | replaceSession userId tokenFamily origin => exact nomatch h
  | _ =>
    obtain rfl := Option.some.inj h
    exact .same _ _

theorem isOpen_of_inside {know : Know} {learn : op.Res → Know} (h : know.inside op = some learn)
    (reply : op.Res) : (learn reply).isOpen = true := by
  cases know with
  | begun row =>
    cases op with
    | deleteSession sessionId =>
      obtain ⟨-, hlearn⟩ := Option.ite_none_right_eq_some.mp h
      rw [← Option.some.inj hlearn]
      dsimp only
      split_ifs <;> rfl
    | _ => exact nomatch h
  | claimed row =>
    cases op with
    | replaceSession userId tokenFamily origin =>
      obtain ⟨-, hlearn⟩ := Option.ite_none_right_eq_some.mp h
      rw [← Option.some.inj hlearn]
      rfl
    | _ => exact nomatch h
  | _ => cases op <;> exact nomatch h

def Call.Presents (token : Secret) : Call → Prop
  | .refreshToken presented _ => presented = token
  | .switchOrganization _ _ presented => presented = some token
  | _ => False

def Call.Tries (userId : Nat) (code : Secret) : Call → Prop
  | .verifyCode userId' presented => userId' = userId ∧ presented = code
  | .regenerateBackupCodes userId' presented => userId' = userId ∧ presented = code
  | _ => False

def Answered.ByBackupCode : Answered → Prop
  | .verified .backupCode => True
  | .codes .backupCode _ => True
  | _ => False

variable {digest : Secret → Digest}

structure Ended (digest : Secret → Digest) (call : Call) (answered : Answered) (know : Know) :
    Prop where
  redeemed : ∀ token, call.Presents token →
    ∃ row, know = .redeemed row ∧ row.tokenHash = digest token
  revoked : ∀ userId setAt, answered = .passwordSet userId setAt →
    ∃ tokenHash, know = .revoked userId setAt tokenHash
  reset : ∀ token newPassword, call = .resetPassword token newPassword →
    ∃ userId setAt, know = .revoked userId setAt (some (digest token))
  spent : ∀ userId code, call.Tries userId code → answered.ByBackupCode →
    know = .spent userId (digest code)

def EndedIn (digest : Secret → Digest) (answer : Call × Except Failure Answered) (know : Know) :
    Prop :=
  ∀ answered, answer.2 = .ok answered → Ended digest answer.1 answered know

/-- A part of a call that keeps to the discipline. -/
abbrev Keeps {A : Type} (know : Know) (p : Body A) (post : A → Know → Prop) : Prop :=
  Client.Keeps tracking know p post fun _ => True

variable {A : Type} {know : Know} {post : A → Know → Prop}

theorem silent_tracking : Client.Silent tracking := ⟨fun _ _ => rfl, fun _ _ => rfl⟩

theorem keeps_statement {learn : op.Res → Know} (hclosed : know.isOpen = false)
    (h : know.outside op = some learn) :
    Keeps know (statement op) fun reply know' => know' = learn reply := by
  have hsent : tracking.sent know .pool op = some learn := by
    change (if know.isOpen = true then none else know.outside op) = some learn
    rw [hclosed, if_neg Bool.false_ne_true, h]
  exact Client.keeps_statement silent_tracking hsent trivial

theorem keeps_plain (hclosed : know.isOpen = false) (h : know.outside op = some fun _ => know) :
    Keeps know (statement op) fun _ know' => know' = know :=
  keeps_statement hclosed h

theorem keeps_asked (query : Query) :
    Keeps know (Client.asked query : Body (Answer query)) fun _ know' => know' = know :=
  Client.keeps_asked rfl

theorem keeps_refuseIf {condition : Prop} [Decidable condition] {error : Failure} :
    Keeps know (refuseIf condition error : Body Unit) fun _ know' => know' = know ∧ ¬condition :=
  Client.keeps_refuseIf trivial

theorem keeps_orThrow {found : Option A} {error : Failure} :
    Keeps know (orThrow found error : Body A) fun row know' => found = some row ∧ know' = know :=
  Client.keeps_orThrow trivial

theorem keeps_readClock (hclosed : know.isOpen = false) :
    Keeps know readClock fun now know' => know' = know.timed now := by
  refine follows_lift ⟨fun now => know.timed now, ?_, fun _ => rfl⟩
  change (if know.isOpen = true then none else _) = _
  rw [hclosed, if_neg Bool.false_ne_true]
  rfl

theorem keeps_refuseLocked (user : User) :
    Keeps (.read user 0) (refuseLocked user) fun _ know =>
      ∃ seen, know = .read user seen ∧ know.admits user = true := by
  unfold refuseLocked
  cases hlocked : user.lockedUntil with
  | none =>
    refine Client.keeps_pure ⟨0, rfl, ?_⟩
    simp [Know.admits, hlocked]
  | some lockedUntil =>
    refine (keeps_readClock rfl).bind fun now know hknow => ?_
    subst hknow
    refine keeps_refuseIf.mono (fun _ know hknow => ?_) fun _ h => h
    obtain ⟨rfl, hpassed⟩ := hknow
    refine ⟨now, rfl, ?_⟩
    simp only [Know.timed, Know.admits, hlocked, decide_true, Bool.true_and, Option.all_some,
      decide_eq_true_eq]
    omega

theorem keeps_countFailure (user : User) (hclosed : know.isOpen = false) :
    Keeps know (countFailure user) fun _ know' => know' = know := by
  unfold countFailure
  dsimp only
  split_ifs with h
  · exact keeps_plain hclosed rfl
  · exact keeps_plain hclosed (if_pos (not_le.mp h))

theorem keeps_login (email password : String) :
    Keeps .nothing (login email password) fun answered _ =>
      ∃ token org, answered = .issued token org := by
  have hread : Keeps .nothing (statement (.byEmail email)) fun reply know =>
      know = reply.elim .nothing fun user => .read user 0 := keeps_statement rfl rfl
  refine hread.bind fun found know hknow => ?_
  subst hknow
  refine keeps_orThrow.bind fun user know hknow => ?_
  obtain ⟨rfl, rfl⟩ := hknow
  refine keeps_refuseIf.bind fun _ know hknow => ?_
  obtain ⟨rfl, -⟩ := hknow
  refine (keeps_refuseLocked user).bind fun _ know hknow => ?_
  obtain ⟨seen, rfl, hadmits⟩ := hknow
  have hcompare : Keeps (.read user seen) (statement (.compare password user)) fun _ know =>
      know = .read user seen := keeps_plain rfl (if_pos hadmits)
  refine hcompare.bind fun valid know hknow => ?_
  subst hknow
  cases valid with
  | false =>
    exact (keeps_countFailure user rfl).bind fun _ _ _ => Client.keeps_throw trivial
  | true =>
    have hreset : Keeps (.read user seen) (resetAttempts user) fun _ know =>
        know = .read user seen := by
      unfold resetAttempts
      split_ifs
      · exact keeps_plain rfl rfl
      · exact Client.keeps_pure rfl
    refine hreset.bind fun _ know hknow => ?_
    subst hknow
    have hother : Keeps (.read user seen) (statement .otherwise) fun _ know =>
        know = .read user seen := keeps_plain rfl rfl
    refine hother.bind fun _ know hknow => ?_
    subst hknow
    refine (keeps_asked _).bind fun answer know hknow => ?_
    subst hknow
    refine keeps_orThrow.bind fun fallback know hknow => ?_
    obtain ⟨rfl, rfl⟩ := hknow
    have hopen : Keeps (.read user seen)
        (statement (.openSession user.id user.passwordSetAt)) fun _ know =>
        know = .read user seen := keeps_plain rfl rfl
    exact hopen.bind fun token _ _ => Client.keeps_pure ⟨_, _, rfl⟩

theorem keeps_checkExpiry (row session : UserSession) :
    Keeps (.found row) (checkExpiry session) fun _ know => know = .found row := by
  refine (keeps_readClock rfl).bind fun now know hknow => ?_
  subst hknow
  cases decide (session.expiresAt ≤ now) with
  | false => exact Client.keeps_pure rfl
  | true =>
    have hdelete : Keeps (.found row) (statement (.deleteSession session.id)) fun _ know =>
        know = .found row := keeps_plain rfl rfl
    exact hdelete.bind fun _ _ _ => Client.keeps_throw trivial

theorem keeps_consume {row : UserSession} {userId : Nat} (huser : userId = row.userId) :
    Keeps (.found row) (consumeAndReplaceSession row.id userId row.tokenFamily row.origin)
      fun _ know => know = .redeemed row := by
  have hbody : Keeps (.begun row) (claimAndReplace row.id userId row.tokenFamily row.origin)
      fun _ know => know = .replaced row := by
    have hdelete : Keeps (.begun row) (inside (.deleteSession row.id)) fun there know =>
        know = if there then .claimed row else .missed :=
      Client.keeps_statement silent_tracking (if_pos rfl) trivial
    refine hdelete.bind fun there know hknow => ?_
    subst hknow
    refine keeps_refuseIf.bind fun _ know hknow => ?_
    obtain ⟨rfl, hthere⟩ := hknow
    rw [Bool.not_eq_false] at hthere
    subst hthere
    exact Client.keeps_statement silent_tracking (if_pos ⟨huser, rfl, rfl⟩) trivial
  refine Client.keeps_inTransactionQuietly silent_tracking rfl (fun _ => rfl) hbody
    (fun _ know hknow => ?_) trivial fun _ => trivial
  subst hknow
  exact ⟨_, rfl, rfl⟩

theorem keeps_activeUser {p : User → Prop} (found : Option {user : User // p user}) :
    Keeps know (activeUser found) fun _ know' => know' = know := by
  refine keeps_orThrow.bind fun user know hknow => ?_
  obtain ⟨rfl, rfl⟩ := hknow
  refine keeps_refuseIf.bind fun _ know hknow => ?_
  obtain ⟨rfl, -⟩ := hknow
  exact Client.keeps_pure rfl

theorem keeps_activeOrganization (user : User) (requested fallback : Option Nat) :
    Keeps know (activeOrganization user requested fallback) fun _ know' => know' = know := by
  unfold activeOrganization
  cases requested with
  | none => exact Client.keeps_pure rfl
  | some organizationId =>
    dsimp only
    split_ifs
    · exact Client.keeps_pure rfl
    · refine (keeps_asked _).bind fun answer know hknow => ?_
      subst hknow
      refine keeps_orThrow.bind fun resolved know hknow => ?_
      obtain ⟨rfl, rfl⟩ := hknow
      exact Client.keeps_pure rfl

theorem keeps_refreshToken (token : Secret) (requested : Option Nat) :
    Keeps .nothing (refreshToken digest token requested) fun answered know =>
      (∃ row, know = .redeemed row ∧ row.tokenHash = digest token) ∧
        ∃ token org, answered = .issued token org := by
  have hread : Keeps .nothing (statement (.sessionByHash (digest token))) fun reply know =>
      know = reply.elim .nothing fun row => .found row.1 := keeps_statement rfl rfl
  refine hread.bind fun found know hknow => ?_
  subst hknow
  refine keeps_orThrow.bind fun session know hknow => ?_
  obtain ⟨rfl, rfl⟩ := hknow
  refine (keeps_checkExpiry session.1 session.1).bind fun _ know hknow => ?_
  subst hknow
  have huser : Keeps (.found session.1) (statement (.byId session.1.userId)) fun _ know =>
      know = .found session.1 := keeps_plain rfl rfl
  refine huser.bind fun account know hknow => ?_
  subst hknow
  refine (keeps_activeUser account).bind fun user know hknow => ?_
  subst hknow
  refine (keeps_asked _).bind fun answer know hknow => ?_
  subst hknow
  refine keeps_orThrow.bind fun fallback know hknow => ?_
  obtain ⟨rfl, rfl⟩ := hknow
  refine (keeps_activeOrganization _ _ _).bind fun activeOrgId know hknow => ?_
  subst hknow
  refine (keeps_consume user.2.1).bind fun newToken know hknow => ?_
  subst hknow
  exact Client.keeps_pure ⟨⟨_, rfl, session.2⟩, _, _, rfl⟩

theorem keeps_switchOrganization (userId organizationId : Nat) (token : Option Secret) :
    Keeps .nothing (switchOrganization digest userId organizationId token) fun answered know =>
      (∀ presented, token = some presented →
        ∃ row, know = .redeemed row ∧ row.tokenHash = digest presented) ∧
        ∃ token org, answered = .issued token org := by
  refine keeps_refuseIf.bind fun _ know hknow => ?_
  obtain ⟨rfl, -⟩ := hknow
  have hread : Keeps .nothing (statement (.byId userId)) fun _ know => know = .nothing :=
    keeps_plain rfl rfl
  refine hread.bind fun account know hknow => ?_
  subst hknow
  refine (keeps_activeUser account).bind fun user know hknow => ?_
  subst hknow
  refine (keeps_asked _).bind fun answer know hknow => ?_
  subst hknow
  refine keeps_orThrow.bind fun principal know hknow => ?_
  obtain ⟨rfl, rfl⟩ := hknow
  refine keeps_orThrow.bind fun membership know hknow => ?_
  obtain ⟨rfl, rfl⟩ := hknow
  refine keeps_orThrow.bind fun presented know hknow => ?_
  obtain ⟨rfl, rfl⟩ := hknow
  have hfound : Keeps .nothing (statement (.sessionOf (digest presented) userId))
      fun reply know => know = reply.elim .nothing fun row => .found row.1 := keeps_statement rfl rfl
  refine hfound.bind fun found know hknow => ?_
  subst hknow
  refine keeps_orThrow.bind fun session know hknow => ?_
  obtain ⟨rfl, rfl⟩ := hknow
  refine (keeps_checkExpiry session.1 session.1).bind fun _ know hknow => ?_
  subst hknow
  refine (keeps_consume (user.2.1.trans session.2.2.symm)).bind fun newToken know hknow => ?_
  subst hknow
  refine Client.keeps_pure ⟨fun token htoken => ?_, _, _, rfl⟩
  obtain rfl := Option.some.inj htoken
  exact ⟨_, rfl, session.2.1⟩

theorem keeps_revoke (userId setAt : Nat) (tokenHash : Option Digest) :
    Keeps (.stored userId setAt tokenHash) (statement (.deleteSessionsOf userId setAt))
      fun _ know => know = .revoked userId setAt tokenHash := by
  have hlearn : (Know.stored userId setAt tokenHash).outside (.deleteSessionsOf userId setAt) =
      some fun _ => .revoked userId setAt tokenHash := by simp [Know.outside, Know.revoke]
  exact keeps_statement rfl hlearn

theorem keeps_resetPassword (token : Secret) (newPassword : String) :
    Keeps .nothing (resetPassword digest token newPassword) fun answered know =>
      ∃ userId setAt, answered = .passwordSet userId setAt ∧
        know = .revoked userId setAt (some (digest token)) := by
  refine keeps_refuseIf.bind fun _ know hknow => ?_
  obtain ⟨rfl, -⟩ := hknow
  have hread : Keeps .nothing (statement (.byResetToken (digest token))) fun _ know =>
      know = .nothing := keeps_plain rfl rfl
  refine hread.bind fun found know hknow => ?_
  subst hknow
  refine keeps_orThrow.bind fun user know hknow => ?_
  obtain ⟨rfl, rfl⟩ := hknow
  refine (keeps_asked _).bind fun passwordHash know hknow => ?_
  subst hknow
  have hstore : Keeps .nothing (statement (.resetPassword user.1.id (digest token) passwordHash))
      fun setAt know => know = .stored user.1.id setAt (some (digest token)) := keeps_statement rfl rfl
  refine hstore.bind fun setAt know hknow => ?_
  subst hknow
  refine (keeps_revoke _ _ _).bind fun _ know hknow => ?_
  subst hknow
  exact Client.keeps_pure ⟨_, _, rfl, rfl⟩

theorem keeps_changePassword (userId : Nat) (currentPassword newPassword : String) :
    Keeps .nothing (changePassword userId currentPassword newPassword) fun answered know =>
      ∃ userId setAt, answered = .passwordSet userId setAt ∧
        know = .revoked userId setAt none := by
  refine keeps_refuseIf.bind fun _ know hknow => ?_
  obtain ⟨rfl, -⟩ := hknow
  have hread : Keeps .nothing (statement (.byId userId)) fun _ know => know = .nothing :=
    keeps_plain rfl rfl
  refine hread.bind fun found know hknow => ?_
  subst hknow
  refine keeps_orThrow.bind fun user know hknow => ?_
  obtain ⟨rfl, rfl⟩ := hknow
  have hconfirm : Keeps .nothing (statement (.confirm currentPassword user.1)) fun _ know =>
      know = .nothing := keeps_plain rfl rfl
  refine hconfirm.bind fun valid know hknow => ?_
  subst hknow
  refine keeps_refuseIf.bind fun _ know hknow => ?_
  obtain ⟨rfl, -⟩ := hknow
  refine (keeps_asked _).bind fun passwordHash know hknow => ?_
  subst hknow
  have hstore : Keeps .nothing (statement (.storePassword user.1.id passwordHash))
      fun setAt know => know = .stored user.1.id setAt none := keeps_statement rfl rfl
  refine hstore.bind fun setAt know hknow => ?_
  subst hknow
  refine (keeps_revoke _ _ _).bind fun _ know hknow => ?_
  subst hknow
  exact Client.keeps_pure ⟨_, _, rfl, rfl⟩

theorem keeps_verifyCode (userId : Nat) (code : Secret) :
    Keeps .nothing (verifyCode digest userId code) fun method know =>
      know.isOpen = false ∧ (method = .backupCode → know = .spent userId (digest code)) := by
  have hread : Keeps .nothing (statement (.selectTotp userId)) fun _ know => know = .nothing :=
    keeps_plain rfl rfl
  refine hread.bind fun found know hknow => ?_
  subst hknow
  refine keeps_orThrow.bind fun user know hknow => ?_
  obtain ⟨rfl, rfl⟩ := hknow
  refine keeps_refuseIf.bind fun _ know hknow => ?_
  obtain ⟨rfl, -⟩ := hknow
  refine keeps_orThrow.bind fun secret know hknow => ?_
  obtain ⟨-, rfl⟩ := hknow
  refine (keeps_asked _).bind fun right know hknow => ?_
  subst hknow
  cases right with
  | true => exact Client.keeps_pure ⟨rfl, nofun⟩
  | false =>
    refine (keeps_asked _).bind fun textual know hknow => ?_
    subst hknow
    refine keeps_refuseIf.bind fun _ know hknow => ?_
    obtain ⟨rfl, -⟩ := hknow
    refine keeps_refuseIf.bind fun _ know hknow => ?_
    obtain ⟨rfl, hcode⟩ := hknow
    have hspend : Keeps .nothing (statement (.spendCode userId (user.1.totpBackupCodes.getD [])
        (digest code))) fun _ know => know = .spent userId (digest code) :=
      keeps_statement rfl (if_pos (not_not.mp hcode))
    refine hspend.bind fun _ know hknow => ?_
    subst hknow
    exact Client.keeps_pure ⟨rfl, fun _ => rfl⟩

theorem keeps_body (call : Call) : Keeps .nothing (call.body digest) (Ended digest call) := by
  have hplain : ∀ {op : Stmt}, Know.nothing.outside op = some (fun _ => .nothing) →
      Keeps .nothing (statement op) fun _ know => know = .nothing := fun h => keeps_plain rfl h
  cases call with
  | login email password =>
    refine (keeps_login email password).mono (fun answered know h => ?_) fun _ h => h
    obtain ⟨token, org, rfl⟩ := h
    exact ⟨nofun, nofun, nofun, nofun⟩
  | refreshToken token requested =>
    refine (keeps_refreshToken token requested).mono (fun answered know h => ?_) fun _ h => h
    obtain ⟨hrow, issued, org, rfl⟩ := h
    exact ⟨fun presented hpresented => by cases hpresented; exact hrow, nofun, nofun, nofun⟩
  | switchOrganization userId organizationId token =>
    refine (keeps_switchOrganization userId organizationId token).mono
      (fun answered know h => ?_) fun _ h => h
    obtain ⟨hrow, issued, org, rfl⟩ := h
    exact ⟨hrow, nofun, nofun, nofun⟩
  | logout token =>
    refine Client.Keeps.bind (hplain rfl) fun _ know hknow => ?_
    exact Client.keeps_pure ⟨nofun, nofun, nofun, nofun⟩
  | requestPasswordReset email =>
    refine Client.Keeps.bind (keeps_statement rfl rfl) fun found know hknow => ?_
    subst hknow
    cases found with
    | none => exact Client.keeps_pure ⟨nofun, nofun, nofun, nofun⟩
    | some user =>
      refine Client.Keeps.bind (keeps_plain rfl rfl) fun token know hknow => ?_
      exact Client.keeps_pure ⟨nofun, nofun, nofun, nofun⟩
  | resetPassword token newPassword =>
    refine (keeps_resetPassword token newPassword).mono (fun answered know h => ?_) fun _ h => h
    obtain ⟨userId, setAt, rfl, rfl⟩ := h
    refine ⟨nofun, fun userId' setAt' heq => ?_, fun token' new heq => ?_, nofun⟩
    · cases heq
      exact ⟨_, rfl⟩
    · cases heq
      exact ⟨_, _, rfl⟩
  | changePassword userId currentPassword newPassword =>
    refine (keeps_changePassword userId currentPassword newPassword).mono
      (fun answered know h => ?_) fun _ h => h
    obtain ⟨userId, setAt, rfl, rfl⟩ := h
    refine ⟨nofun, fun userId' setAt' heq => ?_, nofun, nofun⟩
    cases heq
    exact ⟨_, rfl⟩
  | verifyCode userId code =>
    refine (keeps_verifyCode userId code).bind fun method know hknow => ?_
    refine Client.keeps_pure ⟨nofun, nofun, nofun, fun userId' code' htries hby => ?_⟩
    obtain ⟨rfl, rfl⟩ := htries
    cases method with
    | totp => exact hby.elim
    | backupCode => exact hknow.2 rfl
  | regenerateBackupCodes userId code =>
    refine (keeps_verifyCode userId code).bind fun method know hknow => ?_
    refine Client.Keeps.bind (keeps_plain hknow.1 rfl) fun backupCodes know' hsame => ?_
    subst hsame
    refine Client.keeps_pure ⟨nofun, nofun, nofun, fun userId' code' htries hby => ?_⟩
    obtain ⟨rfl, rfl⟩ := htries
    cases method with
    | totp => exact hby.elim
    | backupCode => exact hknow.2 rfl
  | verifyAndEnable userId code =>
    refine Client.Keeps.bind (hplain rfl) fun found know hknow => ?_
    subst hknow
    refine keeps_orThrow.bind fun secret know hknow => ?_
    obtain ⟨-, rfl⟩ := hknow
    refine (keeps_asked _).bind fun right know hknow => ?_
    subst hknow
    refine keeps_refuseIf.bind fun _ know hknow => ?_
    obtain ⟨rfl, -⟩ := hknow
    refine Client.Keeps.bind (hplain rfl) fun backupCodes know hknow => ?_
    exact Client.keeps_pure ⟨nofun, nofun, nofun, nofun⟩
  | generateSecret userId secret =>
    refine Client.Keeps.bind (hplain rfl) fun found know hknow => ?_
    subst hknow
    refine keeps_orThrow.bind fun user know hknow => ?_
    obtain ⟨-, rfl⟩ := hknow
    refine Client.Keeps.bind (hplain rfl) fun _ know hknow => ?_
    exact Client.keeps_pure ⟨nofun, nofun, nofun, nofun⟩
  | disable userId =>
    refine Client.Keeps.bind (hplain rfl) fun _ know hknow => ?_
    exact Client.keeps_pure ⟨nofun, nofun, nofun, nofun⟩
  | elapse seconds =>
    refine Client.Keeps.bind (hplain rfl) fun _ know hknow => ?_
    exact Client.keeps_pure ⟨nofun, nofun, nofun, nofun⟩

theorem follows_run (call : Call) : (call.run digest).Follows tracking .nothing (EndedIn digest) := by
  refine Prog.Follows.bind (keeps_body call) fun tried know h => ?_
  intro answered heq
  obtain rfl : tried = .ok answered := heq
  exact h

end FireIsp.Auth
