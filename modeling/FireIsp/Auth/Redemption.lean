import FireIsp.Auth.Rotation
import Mathlib.Data.Nat.Pairing

/-!
# Refresh tokens are redeemed once

Calls that start on tables whose rows are in order.  In every interleaving of them a refresh token
is redeemed by at most one call, and a family has at most one session.
-/

namespace FireIsp.Auth

open Txn

variable {digest : Secret → Digest} {verifies same : String → String → Bool} {calls : Nat → Call}
  {s : System}

/-- Rows in order: ids are past ticks, tokens are their own, and a family has one session. -/
structure Orderly (digest : Secret → Digest) (tick : Nat) (db : Db) : Prop where
  keyed : (db.inserted.map UserSession.id).Nodup
  below : ∀ row ∈ db.inserted, row.id < tick
  named : ∀ row ∈ db.inserted, row.Named digest
  families : ∀ row ∈ db.inserted, ∀ family ∈ row.tokenFamily, family < tick
  single : ∀ a ∈ db.userSessions, ∀ b ∈ db.userSessions, ∀ family,
    a.tokenFamily = some family → b.tokenFamily = some family → a = b

/-- Calls that have not started, on rows in order. -/
structure Opening (digest : Secret → Digest) (calls : Nat → Call) (s : System) : Prop where
  orderly : Orderly digest s.tick s.db
  free : s.held = []
  sessions : ∀ i, s.sessions i = ⟨some ((calls i).run digest), none⟩

/-- A call that has not started knows nothing. -/
def idle : Ghost Db Write Know := ⟨some .nothing, none⟩

theorem Opening.tracks (h : Opening digest calls s) (i : Nat) :
    TracksTo tracking (EndedIn digest) (s.sessions i) idle := by
  rw [h.sessions i]
  refine ⟨rfl, fun p hp => ⟨.nothing, rfl, ?_⟩⟩
  obtain rfl := Option.some.inj hp
  exact follows_run (calls i)

theorem Opening.sessionsInv (h : Opening digest calls s) :
    SessionsInv digest verifies same s.tick s.db s.held fun _ => idle := by
  refine ⟨?_, ⟨h.orderly.keyed, fun n hn => ?_, ⟨fun _ => 0, fun i tx htx => nomatch htx⟩,
    fun i tx view htx => nomatch htx⟩, h.orderly.named, h.orderly.families, h.orderly.single,
    fun i => rfl, fun i j row row' hi => nomatch hi⟩
  · rw [h.free]
    exact fun a b k ha => absurd ha List.not_mem_nil
  · obtain ⟨row, hrow, rfl⟩ := List.mem_map.mp hn
    exact h.orderly.below row hrow

theorem Opening.kept (h : Opening digest calls s) (labels : List Choice) :
    (Transition.run (Sys.step (engine digest verifies same)) s labels).KeptTo tracking
      (EndedIn digest) (SessionsInv digest verifies same) :=
  Sys.run_keptTo (fun _ _ _ _ _ _ _ _ hinv hd => hinv.step hd)
    ⟨fun _ => idle, h.sessionsInv, h.tracks⟩ labels

/-- A statement is sent only where it fits. -/
def Sending (fits : Db → Stmt → Bool) (db : Db) :
    Act Stmt (Outside Stmt Query) (Outside.Answer Answer) → Prop
  | .sends op => fits db op = true
  | _ => True

instance (fits : Db → Stmt → Bool) (db : Db) : DecidablePred (Sending fits db)
  | .sends op => inferInstanceAs (Decidable (fits db op = true))
  | .quiet => isTrue trivial
  | .cut => isTrue trivial
  | .hears _ _ => isTrue trivial

def Redeemed (s : System) (i : Nat) (token : Secret) : Prop :=
  ∃ call answered, s.answer i = some (call, .ok answered) ∧ call.Presents token

theorem know_of_redeemed {ghost : Ghost Db Write Know} {i : Nat} {token : Secret}
    (ht : TracksTo tracking (EndedIn digest) (s.sessions i) ghost) (h : Redeemed s i token) :
    ∃ row, ghost.know = some (.redeemed row) ∧ row.tokenHash = digest token := by
  obtain ⟨call, answered, hanswer, hpresents⟩ := h
  obtain ⟨know, hknow, hended⟩ := ht.follows _ (Sys.prog_of_answer hanswer)
  obtain ⟨row, rfl, hrow⟩ := (hended answered rfl).redeemed token hpresents
  exact ⟨row, hknow, hrow⟩

/-- However calls interleave, a token is redeemed at most once, and a family has one session. -/
theorem redeemed_once (hdigest : Function.Injective digest) (h : Opening digest calls s)
    (labels : List Choice) :
    let s' := Transition.run (Sys.step (engine digest verifies same)) s labels
    (∀ i j token, Redeemed s' i token → Redeemed s' j token → i = j) ∧
      ∀ family, (s'.db.userSessions.filter fun row => row.tokenFamily = some family).length ≤ 1 := by
  intro s'
  obtain ⟨ghosts, hinv, htracks⟩ :
      s'.KeptTo tracking (EndedIn digest) (SessionsInv digest verifies same) := h.kept labels
  refine ⟨fun i j token hi hj => ?_, fun family => ?_⟩
  · obtain ⟨row, hrow, hhash⟩ := know_of_redeemed (htracks i) hi
    obtain ⟨row', hrow', hhash'⟩ := know_of_redeemed (htracks j) hj
    have hin : ∀ k row, (ghosts k).know = some (.redeemed row) → row ∈ s'.db.inserted := by
      intro k row hk
      have hplaced := hinv.placed k
      unfold Placed at hplaced
      rw [hk] at hplaced
      exact hplaced.2.1
    have hids : Secret.token row.id = .token row'.id := hdigest <| by
      rw [← hinv.named row (hin i row hrow), ← hinv.named row' (hin j row' hrow'), hhash, hhash']
    exact hinv.once i j row row' hrow hrow' (Secret.token.inj hids)
  · have hnodup : (s'.db.userSessions.filter fun row => row.tokenFamily = some family).Nodup :=
      (hinv.fresh.keyed.of_map.filter _).filter _
    generalize hrows : (s'.db.userSessions.filter fun row => row.tokenFamily = some family) = rows
    have hsame : ∀ a ∈ rows, ∀ b ∈ rows, a = b := by
      intro a ha b hb
      rw [← hrows] at ha hb
      obtain ⟨ha, hfa⟩ := List.mem_filter.mp ha
      obtain ⟨hb, hfb⟩ := List.mem_filter.mp hb
      exact hinv.single a ha b hb family (of_decide_eq_true hfa) (of_decide_eq_true hfb)
    rw [hrows] at hnodup
    match rows, hnodup, hsame with
    | [], _, _ => exact Nat.zero_le 1
    | [_], _, _ => exact le_refl 1
    | a :: b :: rows, hnodup, hsame =>
      have heq := hsame a List.mem_cons_self b (List.mem_cons_of_mem _ List.mem_cons_self)
      exact absurd (heq ▸ List.mem_cons_self) (List.nodup_cons.mp hnodup).1

def sampleDigest : Secret → Digest
  | .token tick => 't' :: List.replicate tick '0'
  | .code tick index => 'c' :: List.replicate (Nat.pair tick index) '0'

theorem sampleDigest_injective : Function.Injective sampleDigest := by
  have hlength : ∀ a b : Nat, List.replicate a '0' = List.replicate b '0' → a = b := by
    intro a b h
    have hlen := congrArg List.length h
    rwa [List.length_replicate, List.length_replicate] at hlen
  intro a b h
  cases a with
  | token tick =>
    cases b with
    | token tick' => rw [hlength tick tick' (List.cons.inj h).2]
    | code tick' index => exact absurd (List.cons.inj h).1 (by decide)
  | code tick index =>
    cases b with
    | token tick' => exact absurd (List.cons.inj h).1 (by decide)
    | code tick' index' =>
      have hpair := hlength _ _ (List.cons.inj h).2
      obtain ⟨rfl, rfl⟩ := Nat.pair_eq_pair.mp hpair
      rfl

/-- Passwords are their own hashes, and addresses are compared as they are. -/
def sampleSame (a b : String) : Bool := decide (a = b)

/-- An account. -/
def sampleUser : User where
  id := 1
  organizationId := some 1
  email := "a"
  status := .active
  deletedAt := none
  passwordHash := "p"
  passwordSetAt := 0
  failedLoginAttempts := 0
  lockedUntil := none
  resetTokenHash := none
  resetTokenExpires := none
  totpSecret := none
  totpEnabled := false
  totpBackupCodes := none

def sampleSession : UserSession := ⟨0, 1, sampleDigest (.token 0), some 0, 100, 0⟩

/-- The tables. -/
def sampleDb : Db := ⟨0, [sampleUser], [sampleSession], [], [], []⟩

/-- The calls before they start. -/
def sampleSystem (db : Db) (calls : Nat → Call) : System where
  db := db
  tick := 1
  held := []
  sessions := fun i => ⟨some ((calls i).run sampleDigest), none⟩
  calls := []

/-- Nothing raises. -/
def sampleWorld : (query : Outside Stmt Query) → Outside.Answer Answer query
  | .raises _ => false
  | .fails _ => false
  | .about (.hash password) => password
  | .about (.fallbackOrganization _) => some none
  | .about (.activeOrganization ..) => some none
  | .about (.principal _ organizationId) => some (some organizationId)
  | .about (.totp ..) => false
  | .about .textual => true

theorem sampleDb_orderly : Orderly sampleDigest 1 sampleDb := by
  refine ⟨by decide, by decide, fun row hrow => ?_, by decide, fun a ha b hb _ _ _ => ?_⟩
  · rw [List.mem_singleton.mp hrow]
    rfl
  · rw [List.mem_singleton.mp ha, List.mem_singleton.mp hb]

theorem sampleSystem_opening {db : Db} (h : Orderly sampleDigest 1 db) (calls : Nat → Call) :
    Opening sampleDigest calls (sampleSystem db calls) :=
  ⟨h, rfl, fun _ => rfl⟩

/-- The token of the session is presented twice. -/
def twoRefreshes : Nat → Call := fun _ => .refreshToken (.token 0) none

/-- Of two refreshes that overlap one is answered with a token. -/
theorem redeemed_once_sample :
    let s' := Transition.run (Sys.step (engine sampleDigest sampleSame sampleSame))
      (sampleSystem sampleDb twoRefreshes)
      (List.replicate 25 [.step 0 sampleWorld, .step 1 sampleWorld]).flatten
    Redeemed s' 0 (.token 0) ∧ s'.db.userSessions.map UserSession.id = [25] ∧
      (∀ i j token, Redeemed s' i token → Redeemed s' j token → i = j) ∧
      ∀ family, (s'.db.userSessions.filter fun row => row.tokenFamily = some family).length ≤ 1 :=
  ⟨⟨_, _, rfl, rfl⟩, by decide, redeemed_once sampleDigest_injective
    (sampleSystem_opening sampleDb_orderly twoRefreshes) _⟩

end FireIsp.Auth

/-!
## A new password ends old sessions

A login inserts its session long after it has read the hash it verifies.  In every interleaving in
which it does so before the sessions of its user were deleted for a later password, a call that has
set a password leaves no session of an earlier one.
-/

namespace FireIsp.Auth

open Txn

variable {digest : Secret → Digest} {verifies same : String → String → Bool} {calls : Nat → Call}
  {s : System} {tick i : Nat} {db db' : Db} {held held' : List (Nat × Nat)}
  {ghosts : Nat → Ghost Db Write Know} {ghost' : Ghost Db Write Know} {know : Know}

/-- A session is opened only where no later password has ended the sessions of its user. -/
def opensCurrent (db : Db) : Stmt → Bool
  | .openSession userId origin =>
    db.revoked.all fun entry => decide (entry.1 = userId → entry.2 ≤ origin)
  | _ => true

/-- No session is older than a password that has ended sessions. -/
def Current (db : Db) : Prop :=
  ∀ row ∈ db.userSessions, ∀ setAt, (row.userId, setAt) ∈ db.revoked → setAt ≤ row.origin

/-- What holds of passwords and sessions. -/
structure RevokedInv (digest : Secret → Digest) (verifies same : String → String → Bool)
    (tick : Nat) (db : Db) (held : List (Nat × Nat)) (ghosts : Nat → Ghost Db Write Know) :
    Prop where
  sessions : SessionsInv digest verifies same tick db held ghosts
  current : Current db
  recorded : ∀ i userId setAt tokenHash,
    (ghosts i).know = some (.revoked userId setAt tokenHash) → (userId, setAt) ∈ db.revoked

theorem revoked_exec (digest : Secret → Digest) (verifies same : String → String → Bool)
    (tick : Nat) (db : Db) (op : Stmt) :
    ((engine digest verifies same).visible db (exec digest verifies same tick db op).2).revoked =
      match op with
      | .deleteSessionsOf userId setAt => db.revoked ++ [(userId, setAt)]
      | _ => db.revoked := by
  cases op <;> rfl

theorem Current.exec {op : Stmt} {learn : op.Res → Know} (h : Current db)
    (hsent : know.outside op = some learn) (hmay : opensCurrent db op = true) :
    Current ((engine digest verifies same).visible db (exec digest verifies same tick db op).2) := by
  obtain ⟨hinserted, hdeleted⟩ := visible_exec digest verifies same tick db op
  have hrevoked := revoked_exec digest verifies same tick db op
  intro row hrow setAt hset
  obtain ⟨hin, hnot⟩ := mem_userSessions.mp hrow
  rw [hinserted, List.mem_append] at hin
  rw [hdeleted, List.mem_append, not_or] at hnot
  rw [hrevoked] at hset
  have hold : row ∈ db.inserted → (row.userId, setAt) ∈ db.revoked → setAt ≤ row.origin :=
    fun hin hset => h row (mem_userSessions.mpr ⟨hin, hnot.1⟩) setAt hset
  cases op with
  | openSession userId origin =>
    rcases hin with hin | hnew
    · exact hold hin hset
    · obtain rfl := List.mem_singleton.mp hnew
      have hall := List.all_eq_true.mp hmay _ hset
      exact of_decide_eq_true hall rfl
  | replaceSession => exact nomatch hsent
  | deleteSessionsOf userId setAt' =>
    rcases hin with hin | hnew
    · rcases List.mem_append.mp hset with hset | hset
      · exact hold hin hset
      · obtain ⟨huser, -⟩ := Prod.mk.inj (List.mem_singleton.mp hset)
        refine absurd (mem_idsWhere.mpr ⟨row, ?_, decide_eq_true huser, rfl⟩) hnot.2
        exact mem_userSessions.mpr ⟨hin, hnot.1⟩
    · exact absurd hnew List.not_mem_nil
  | _ =>
    rcases hin with hin | hnew
    · exact hold hin hset
    · exact absurd hnew List.not_mem_nil

theorem Taught.of_revoked {op : Stmt} {reply : op.Res} {userId setAt : Nat}
    {tokenHash : Option Digest} (h : Taught know op reply (.revoked userId setAt tokenHash)) :
    know = .revoked userId setAt tokenHash ∨ op = .deleteSessionsOf userId setAt := by
  generalize hknow : Know.revoked userId setAt tokenHash = know' at h
  cases h with
  | same => exact Or.inl rfl
  | timed now => cases know <;> first | exact Or.inl rfl | exact nomatch hknow
  | revoked userId' setAt' tokenHash' =>
    obtain ⟨rfl, rfl, -⟩ := Know.revoked.inj hknow
    exact Or.inr rfl
  | _ => exact nomatch hknow

theorem Current.commit (h : Current db) {row new : UserSession} {ids : List Nat}
    (hrow : row ∈ db.userSessions) (hids : ∀ id, id ∈ ids ↔ id = row.id)
    (hnew : Succeeds digest row new) :
    Current { db with inserted := db.inserted ++ [new], deleted := db.deleted ++ ids } := by
  intro other hother setAt hset
  rcases mem_rotated hids hother with ⟨hother, -⟩ | rfl
  · exact h other hother setAt hset
  · rw [hnew.user] at hset
    rw [hnew.origin]
    exact h row hrow setAt hset

theorem RevokedInv.update (h : RevokedInv digest verifies same tick db held ghosts)
    (hsessions : SessionsInv digest verifies same (tick + 1) db' held'
      (Function.update ghosts i ghost')) (hcurrent : Current db')
    (hgrows : ∀ entry ∈ db.revoked, entry ∈ db'.revoked)
    (hself : ∀ userId setAt tokenHash, ghost'.know = some (.revoked userId setAt tokenHash) →
      (ghosts i).know = some (.revoked userId setAt tokenHash) ∨ (userId, setAt) ∈ db'.revoked) :
    RevokedInv digest verifies same (tick + 1) db' held' (Function.update ghosts i ghost') := by
  refine ⟨hsessions, hcurrent, fun j userId setAt tokenHash hj => ?_⟩
  by_cases hji : j = i
  · subst hji
    rw [Function.update_self] at hj
    rcases hself userId setAt tokenHash hj with hold | hnew
    · exact hgrows _ (h.recorded _ _ _ _ hold)
    · exact hnew
  · rw [Function.update_of_ne hji] at hj
    exact hgrows _ (h.recorded _ _ _ _ hj)

theorem RevokedInv.step (h : RevokedInv digest verifies same tick db held ghosts)
    (hd : Guarded (engine digest verifies same) tracking (Sending opensCurrent db) i tick db held
      (ghosts i) db' held' ghost') :
    RevokedInv digest verifies same (tick + 1) db' held' (Function.update ghosts i ghost') := by
  have hsessions := h.sessions.step hd.disciplined
  have hplaced := h.sessions.placed i
  generalize hghost : ghosts i = ghost at hd hplaced
  cases hd with
  | idle =>
    exact h.update hsessions h.current (fun _ he => he)
      fun userId setAt tokenHash hknow => Or.inl (by rw [hghost, hknow])
  | abort hmay => exact h.update hsessions h.current (fun _ he => he) nofun
  | start know know' tx hk =>
    cases know with
    | found row =>
      obtain rfl := Option.some.inj hk
      obtain ⟨rfl, -⟩ := placed_some.mp hplaced
      exact h.update hsessions h.current (fun _ he => he) nofun
    | _ => exact nomatch hk
  | commit know know' tx hk =>
    cases know with
    | replaced row =>
      obtain rfl := Option.some.inj hk
      obtain ⟨hrow, -, ids, new, rfl, hids, hnew⟩ := placed_some.mp hplaced
      exact h.update hsessions (h.current.commit hrow hids hnew) (fun _ he => he) nofun
    | _ => exact nomatch hk
  | rollback know know' tx hk =>
    obtain rfl := Option.some.inj hk
    exact h.update hsessions h.current (fun _ he => he) nofun
  | call know query learn tx hk answer hmay =>
    obtain rfl := Option.some.inj hk
    exact h.update hsessions h.current (fun _ he => he)
      fun userId setAt tokenHash hknow => Or.inl (by rw [hghost, hknow])
  | auto know via op learn tx hk hin hfree hmay =>
    have hrevoked := revoked_exec digest verifies same tick db op
    obtain ⟨-, hsent⟩ := hplaced.outside hin hk
    refine h.update hsessions (h.current.exec hsent hmay) (fun entry hentry => ?_)
      fun userId setAt tokenHash hknow => ?_
    · change entry ∈ ((engine digest verifies same).visible db
        (exec digest verifies same tick db op).2).revoked
      rw [hrevoked]
      cases op <;> first | exact List.mem_append_left _ hentry | exact hentry
    · have htaught := taught_of_outside hsent ((engine digest verifies same).exec op tick db db).1
      rw [Option.some.inj hknow] at htaught
      rcases htaught.of_revoked with hold | rfl
      · exact Or.inl (by rw [hghost, hold])
      · exact Or.inr (List.mem_append_right _ (List.mem_singleton.mpr rfl))
  | within know op learn tx hk hfree hmay =>
    refine h.update hsessions h.current (fun _ he => he) fun userId setAt tokenHash hknow => ?_
    exact nomatch (isOpen_of_inside hk _).symm.trans
      (congrArg Know.isOpen (Option.some.inj hknow))

/-- Where no login opens its session too late, a new password leaves no session of an earlier one. -/
theorem sessions_current (h : Opening digest calls s) (hcurrent : Current s.db)
    {labels : List Choice}
    (hrun : s.Keeping (engine digest verifies same) (fun s => Sending opensCurrent s.db) labels) :
    let s' := Transition.run (Sys.step (engine digest verifies same)) s labels
    ∀ i call userId setAt, s'.answer i = some (call, .ok (.passwordSet userId setAt)) →
      ∀ row ∈ s'.db.userSessions, row.userId = userId → setAt ≤ row.origin := by
  intro s' i call userId setAt hanswer row hrow huser
  have hinv : RevokedInv digest verifies same s.tick s.db s.held fun _ => idle :=
    ⟨h.sessionsInv, hcurrent, fun i userId setAt tokenHash hi => nomatch hi⟩
  obtain ⟨ghosts, hend, htracks, -⟩ := Sys.run_guarded
    (fun _ _ _ _ _ _ _ _ hinv hd => hinv.step hd) hinv h.tracks hrun
  obtain ⟨know, hknow, hended⟩ := (htracks i).follows _ (Sys.prog_of_answer hanswer)
  obtain ⟨tokenHash, rfl⟩ := (hended _ rfl).revoked userId setAt rfl
  have hset := hend.recorded i userId setAt tokenHash hknow
  exact hend.current row hrow setAt (huser ▸ hset)

/-- A password change while an old login is on its way; a login with the new one follows. -/
def changeBesideLogin : Nat → Call
  | 0 => .login "a" "p"
  | 1 => .changePassword 1 "p" "new word"
  | _ => .login "a" "new word"

/-- The login with the old password opens its session before the sessions are deleted. -/
def loginFirst : List Choice :=
  List.replicate 7 (.step 0 sampleWorld) ++ List.replicate 7 (.step 1 sampleWorld) ++
    List.replicate 5 (.step 0 sampleWorld) ++ List.replicate 9 (.step 1 sampleWorld) ++
    List.replicate 12 (.step 2 sampleWorld)

theorem sampleDb_current : Current sampleDb := fun _ _ _ hset => absurd hset List.not_mem_nil

/-- Once the password is changed there is only the session of the later login. -/
theorem sessions_current_sample :
    let s' := Transition.run (Sys.step (engine sampleDigest sampleSame sampleSame))
      (sampleSystem sampleDb changeBesideLogin) loginFirst
    s'.answer 1 = some (.changePassword 1 "p" "new word", .ok (.passwordSet 1 14)) ∧
      s'.db.userSessions.map UserSession.origin = [14] ∧
      ∀ row ∈ s'.db.userSessions, row.userId = 1 → 14 ≤ row.origin :=
  ⟨rfl, by decide, sessions_current
    (sampleSystem_opening sampleDb_orderly changeBesideLogin) sampleDb_current (by decide)
    1 (.changePassword 1 "p" "new word") 1 14 rfl⟩

/-- The login with the old password opens its session after the sessions are deleted. -/
def loginLast : List Choice :=
  List.replicate 7 (.step 0 sampleWorld) ++ List.replicate 20 (.step 1 sampleWorld) ++
    List.replicate 5 (.step 0 sampleWorld)

/-- Once the password is changed there is a session of a login with the old one. -/
theorem sessions_current_fails :
    ¬∀ (calls : Nat → Call) (s : System) (labels : List Choice),
      Opening sampleDigest calls s → Current s.db →
      let s' := Transition.run (Sys.step (engine sampleDigest sampleSame sampleSame)) s labels
      ∀ i call userId setAt, s'.answer i = some (call, .ok (.passwordSet userId setAt)) →
        ∀ row ∈ s'.db.userSessions, row.userId = userId → setAt ≤ row.origin := by
  intro h
  have hold := h changeBesideLogin (sampleSystem sampleDb changeBesideLogin) loginLast
    (sampleSystem_opening sampleDb_orderly changeBesideLogin) sampleDb_current
    1 (.changePassword 1 "p" "new word") 1 14 rfl
  revert hold
  decide

end FireIsp.Auth
