import FireIsp.Auth.Accounts
import FireIsp.Auth.Redemption

/-!
# Attempts at a password

A login reads how often its account was tried, compares the password, and writes the next number as
it is.  In every interleaving in which it compares only while all that was compared is counted, an
account is locked after five attempts, and no password is compared while it is.
-/

namespace FireIsp.Auth

open Txn

variable {digest : Secret → Digest} {verifies same : String → String → Bool} {calls : Nat → Call}
  {s : System} {tick i : Nat} {db db' : Db} {held held' : List (Nat × Nat)}
  {ghosts : Nat → Ghost Db Write Know} {ghost' : Ghost Db Write Know} {know know' : Know}
  {account attempts : Nat}

/-- Logins on the account are with wrong passwords, and nothing resets its attempts. -/
def guesses (verifies : String → String → Bool) (account : Nat) : Stmt → Bool
  | .compare password user => user.id ≠ account || !verifies password user.passwordHash
  | .clearAttempts userId => userId ≠ account
  | .resetPassword userId _ _ => userId ≠ account
  | _ => true

def countsAll (account attempts : Nat) (db : Db) : Stmt → Bool
  | .compare _ user => user.id ≠ account || (db.user account).any fun stored =>
    stored.failedLoginAttempts = user.failedLoginAttempts &&
      stored.lockedUntil = user.lockedUntil &&
      attempts + db.compared.count account ≤ stored.failedLoginAttempts
  | _ => true

/-- Both. -/
def guessesCounted (verifies : String → String → Bool) (account attempts : Nat) (db : Db)
    (op : Stmt) : Bool :=
  guesses verifies account op && countsAll account attempts db op

def Db.Locked (db : Db) (account : Nat) : Prop :=
  ∃ user ∈ db.user account, ∃ lockedUntil ∈ user.lockedUntil, db.clock < lockedUntil

/-- As long as the account was never locked its attempts are few, and so are the comparisons. -/
structure Bounded (account attempts : Nat) (db : Db) : Prop where
  few : ∀ user ∈ db.user account, user.lockedUntil = none →
    user.failedLoginAttempts < maxLoginAttempts ∨ user.failedLoginAttempts = attempts
  compared : ∀ user ∈ db.user account, user.lockedUntil = none →
    db.compared.count account ≤ maxLoginAttempts

variable {user : User}

theorem stored_of_countsAll {password : String} (haccount : user.id = account)
    (h : countsAll account attempts db (.compare password user) = true) :
    ∃ stored ∈ db.user account, stored.failedLoginAttempts = user.failedLoginAttempts ∧
      stored.lockedUntil = user.lockedUntil ∧
      attempts + db.compared.count account ≤ stored.failedLoginAttempts := by
  simp only [countsAll, haccount, ne_eq, not_true_eq_false, decide_false, Bool.false_or,
    Option.any_eq_true, Bool.and_eq_true, decide_eq_true_eq] at h
  obtain ⟨stored, hstored, ⟨hattempts, hlocked⟩, hcount⟩ := h
  exact ⟨stored, hstored, hattempts, hlocked, hcount⟩

variable {op : Stmt}

theorem row_of_exec {learn : op.Res → Know} (hsent : know.outside op = some learn)
    (hmay : guesses verifies account op = true)
    (huser : user ∈ ((engine digest verifies same).visible db
      (exec digest verifies same tick db op).2).user account) (hopen : user.lockedUntil = none) :
    (∃ old ∈ db.user account, old.lockedUntil = none ∧
      (user.failedLoginAttempts = old.failedLoginAttempts ∨
        user.failedLoginAttempts < maxLoginAttempts)) := by
  rw [Option.mem_def, user_exec] at huser
  have hkept : ∀ {userId : Nat} {update : Update},
      (∀ old : User, old.id = account → (old.update update).lockedUntil = none → account = userId →
        old.lockedUntil = none ∧
          ((old.update update).failedLoginAttempts = old.failedLoginAttempts ∨
            (old.update update).failedLoginAttempts < maxLoginAttempts)) →
      (if account = userId then (db.user account).map fun user => user.update update
        else db.user account) = some user →
      ∃ old ∈ db.user account, old.lockedUntil = none ∧
        (user.failedLoginAttempts = old.failedLoginAttempts ∨
          user.failedLoginAttempts < maxLoginAttempts) := by
    intro userId update hupdate hrow
    split_ifs at hrow with hid
    · obtain ⟨old, hold, rfl⟩ := Option.map_eq_some_iff.mp hrow
      exact ⟨old, hold, hupdate old (mem_of_user hold).2 hopen hid⟩
    · exact ⟨user, hrow, hopen, Or.inl rfl⟩
  have hplain : ∀ {userId : Nat} {update : Update},
      (∀ old : User, (old.update update).lockedUntil = old.lockedUntil ∧
        (old.update update).failedLoginAttempts = old.failedLoginAttempts) →
      (if account = userId then (db.user account).map fun user => user.update update
        else db.user account) = some user →
      ∃ old ∈ db.user account, old.lockedUntil = none ∧
        (user.failedLoginAttempts = old.failedLoginAttempts ∨
          user.failedLoginAttempts < maxLoginAttempts) := fun hsame hrow =>
    hkept (fun old _ hnone _ => ⟨(hsame old).1 ▸ hnone, Or.inl (hsame old).2⟩) hrow
  cases op with
  | storeAttempts userId stored =>
    obtain ⟨hfew, -⟩ := Option.ite_none_right_eq_some.mp hsent
    refine hkept (fun old _ hnone _ => ?_) huser
    exact ⟨hnone, Or.inr hfew⟩
  | lockAccount userId stored =>
    refine hkept (fun old _ hnone _ => ?_) huser
    exact nomatch hnone
  | clearAttempts userId =>
    exact hkept (fun old _ _ hid => absurd hid.symm (of_decide_eq_true hmay)) huser
  | resetPassword userId tokenHash passwordHash =>
    exact hkept (fun old _ _ hid => absurd hid.symm (of_decide_eq_true hmay)) huser
  | storeResetToken userId => exact hplain (fun _ => ⟨rfl, rfl⟩) huser
  | storePassword userId passwordHash => exact hplain (fun _ => ⟨rfl, rfl⟩) huser
  | spendCode userId backupCodes codeHash => exact hplain (fun _ => ⟨rfl, rfl⟩) huser
  | replaceCodes userId => exact hplain (fun _ => ⟨rfl, rfl⟩) huser
  | enableTotp userId => exact hplain (fun _ => ⟨rfl, rfl⟩) huser
  | storeSecret userId secret => exact hplain (fun _ => ⟨rfl, rfl⟩) huser
  | disableTotp userId => exact hplain (fun _ => ⟨rfl, rfl⟩) huser
  | _ => exact ⟨user, huser, hopen, Or.inl rfl⟩

theorem Bounded.exec (h : Bounded account attempts db) {learn : op.Res → Know}
    (hsent : know.outside op = some learn)
    (hmay : guessesCounted verifies account attempts db op = true) :
    Bounded account attempts
      ((engine digest verifies same).visible db (exec digest verifies same tick db op).2) := by
  obtain ⟨hguess, hcounts⟩ := (Bool.and_eq_true _ _).mp hmay
  refine ⟨fun user huser hopen => ?_, fun user huser hopen => ?_⟩
  · obtain ⟨old, hold, holdOpen, hsame | hfew⟩ := row_of_exec hsent hguess huser hopen
    · rw [hsame]
      exact h.few old hold holdOpen
    · exact Or.inl hfew
  · obtain ⟨old, hold, holdOpen, -⟩ := row_of_exec hsent hguess huser hopen
    have hbefore := h.compared old hold holdOpen
    rw [compared_exec]
    cases op with
    | compare password read =>
      dsimp only
      rw [List.count_append, List.count_singleton]
      split_ifs with hid
      · obtain ⟨stored, hstored, hattempts, -, hcount⟩ :=
          stored_of_countsAll (beq_iff_eq.mp hid) hcounts
        obtain rfl := Option.mem_unique hold hstored
        rcases h.few old hold holdOpen with hfew | hnone
        · omega
        · have hmax : 1 ≤ maxLoginAttempts := by decide
          omega
      · exact hbefore
    | _ => exact hbefore

/-- What holds of the account. -/
structure LockoutInv (digest : Secret → Digest) (verifies same : String → String → Bool)
    (account attempts tick : Nat) (db : Db) (held : List (Nat × Nat))
    (ghosts : Nat → Ghost Db Write Know) : Prop where
  sessions : SessionsInv digest verifies same tick db held ghosts
  bounded : Bounded account attempts db
  seen : ∀ i user seen, (ghosts i).know = some (.read user seen) → seen ≤ db.clock

/-- Nothing is compared on the account while it is locked. -/
def Withstands (account : Nat) (db db' : Db) : Prop :=
  db.Locked account → db'.compared.count account = db.compared.count account

theorem LockoutInv.update (h : LockoutInv digest verifies same account attempts tick db held ghosts)
    (hsessions : SessionsInv digest verifies same (tick + 1) db' held'
      (Function.update ghosts i ghost')) (hbounded : Bounded account attempts db')
    (hclock : db.clock ≤ db'.clock)
    (hself : ∀ user seen, ghost'.know = some (.read user seen) → seen ≤ db'.clock) :
    LockoutInv digest verifies same account attempts (tick + 1) db' held'
      (Function.update ghosts i ghost') := by
  refine ⟨hsessions, hbounded, fun j user seen hj => ?_⟩
  by_cases hji : j = i
  · subst hji
    rw [Function.update_self] at hj
    exact hself user seen hj
  · rw [Function.update_of_ne hji] at hj
    exact (h.seen j user seen hj).trans hclock

theorem Taught.seen {reply : op.Res} {seen : Nat} (h : Taught know op reply know')
    (hreply : reply = (exec digest verifies same tick db op).1) (hknow : know' = .read user seen) :
    know = .read user seen ∨ seen ≤ db.clock := by
  cases h with
  | same => exact Or.inl hknow
  | timed now =>
    obtain rfl : now = db.clock := hreply
    cases know with
    | read read before =>
      obtain ⟨rfl, rfl⟩ := Know.read.inj hknow
      exact Or.inr (le_refl _)
    | _ => exact nomatch hknow
  | read email read =>
    obtain ⟨-, rfl⟩ := Know.read.inj hknow
    exact Or.inr (Nat.zero_le _)
  | _ => exact nomatch hknow

theorem LockoutInv.withstands
    (h : LockoutInv digest verifies same account attempts tick db held ghosts)
    {learn : op.Res → Know} (hknow : (ghosts i).know = some know)
    (hsent : know.outside op = some learn)
    (hmay : guessesCounted verifies account attempts db op = true) :
    Withstands account db
      ((engine digest verifies same).visible db (exec digest verifies same tick db op).2) := by
  intro hlocked
  rw [compared_exec]
  cases op with
  | compare password user =>
    dsimp only
    rw [List.count_append, List.count_singleton]
    split_ifs with hid
    · obtain ⟨stored, hstored, -, hsame, -⟩ :=
        stored_of_countsAll (beq_iff_eq.mp hid) ((Bool.and_eq_true _ _).mp hmay).2
      obtain ⟨row, hrow, lockedUntil, hlock, hlater⟩ := hlocked
      obtain rfl := Option.mem_unique hstored hrow
      obtain ⟨hadmits, -⟩ := Option.ite_none_right_eq_some.mp hsent
      cases know with
      | read read seen =>
        simp only [Know.admits, Bool.and_eq_true, decide_eq_true_eq, Option.all_eq_true] at hadmits
        obtain ⟨rfl, hpast⟩ := hadmits
        have hbefore := hpast lockedUntil (hsame ▸ hlock)
        have hseen := h.seen i read seen hknow
        omega
      | _ => cases hadmits
    · rfl
  | _ => rfl

theorem LockoutInv.step (h : LockoutInv digest verifies same account attempts tick db held ghosts)
    (hd : Guarded (engine digest verifies same) tracking
      (Sending (guessesCounted verifies account attempts) db) i tick db held (ghosts i) db' held'
      ghost') :
    LockoutInv digest verifies same account attempts (tick + 1) db' held'
      (Function.update ghosts i ghost') ∧ Withstands account db db' := by
  have hsessions := h.sessions.step hd.disciplined
  have hplaced := h.sessions.placed i
  generalize hghost : ghosts i = ghost at hd hplaced
  cases hd with
  | idle =>
    exact ⟨h.update hsessions h.bounded (le_refl _)
      fun user seen hknow => h.seen i user seen (by rw [hghost, hknow]), fun _ => rfl⟩
  | abort hmay =>
    refine ⟨h.update hsessions h.bounded (le_refl _) fun _ _ hknow => ?_, fun _ => rfl⟩
    cases hknow
  | start know know' tx hk =>
    cases know with
    | found row =>
      obtain rfl := Option.some.inj hk
      obtain ⟨rfl, -⟩ := placed_some.mp hplaced
      refine ⟨h.update hsessions h.bounded (le_refl _) fun _ _ hknow => ?_, fun _ => rfl⟩
      cases hknow
    | _ => exact nomatch hk
  | commit know know' tx hk =>
    cases know with
    | replaced row =>
      obtain rfl := Option.some.inj hk
      obtain ⟨-, -, ids, new, rfl, -, -⟩ := placed_some.mp hplaced
      refine ⟨h.update hsessions ⟨h.bounded.few, h.bounded.compared⟩ (le_refl _)
        fun _ _ hknow => ?_, fun _ => rfl⟩
      cases hknow
    | _ => exact nomatch hk
  | rollback know know' tx hk =>
    obtain rfl := Option.some.inj hk
    refine ⟨h.update hsessions h.bounded (le_refl _) fun _ _ hknow => ?_, fun _ => rfl⟩
    cases hknow
  | call know query learn tx hk answer hmay =>
    obtain rfl := Option.some.inj hk
    exact ⟨h.update hsessions h.bounded (le_refl _)
      fun user seen hknow => h.seen i user seen (by rw [hghost]; exact hknow), fun _ => rfl⟩
  | auto know via op learn tx hk hin hfree hmay =>
    obtain ⟨-, hsent⟩ := hplaced.outside hin hk
    have hclock := clock_exec digest verifies same tick db op
    refine ⟨h.update hsessions (h.bounded.exec hsent hmay) hclock fun user seen hknow => ?_,
      h.withstands (by rw [hghost]) hsent hmay⟩
    rcases (taught_of_outside hsent _).seen rfl (Option.some.inj hknow) with hold | hnow
    · exact (h.seen i user seen (by rw [hghost, hold])).trans hclock
    · exact hnow.trans hclock
  | within know op learn tx hk hfree hmay =>
    refine ⟨h.update hsessions h.bounded (le_refl _) fun user seen hknow => ?_, fun _ => rfl⟩
    exact nomatch (isOpen_of_inside hk _).symm.trans
      (congrArg Know.isOpen (Option.some.inj hknow))

/-- Where compared passwords are counted, no more than five are compared, and none while locked. -/
theorem attempts_bounded (account attempts : Nat) (h : Opening digest calls s)
    (hnone : account ∉ s.db.compared) (hattempts :
      ∀ user ∈ s.db.user account, user.failedLoginAttempts = attempts) {labels : List Choice}
    (hrun : s.Keeping (engine digest verifies same)
      (fun s => Sending (guessesCounted verifies account attempts) s.db) labels) :
    let s' := Transition.run (Sys.step (engine digest verifies same)) s labels
    (∀ user ∈ s'.db.user account, user.lockedUntil = none →
      s'.db.compared.count account ≤ maxLoginAttempts) ∧
      Transition.Along (Sys.step (engine digest verifies same))
        (fun s l => Withstands account s.db (s.step (engine digest verifies same) l).db) s
        labels := by
  intro s'
  have hinv : LockoutInv digest verifies same account attempts s.tick s.db s.held fun _ => idle := by
    refine ⟨h.sessionsInv, ⟨fun user huser _ => Or.inr (hattempts user huser), fun _ _ _ => ?_⟩,
      fun i user seen hi => nomatch hi⟩
    rw [List.count_eq_zero_of_not_mem hnone]
    exact Nat.zero_le _
  obtain ⟨ghosts, hend, -, -⟩ := Sys.run_guarded
    (fun _ _ _ _ _ _ _ _ hinv hd => (hinv.step hd).1) hinv h.tracks hrun
  exact ⟨hend.bounded.compared,
    Sys.along_guarded (fun _ _ _ _ _ _ _ _ hinv hd => hinv.step hd) hinv h.tracks hrun⟩

/-- Wrong passwords. -/
def wrongLogins : Nat → Call := fun _ => .login "a" "q"

def loginsInTurn : List Choice :=
  ((List.range 6).map fun i => List.replicate 6 (.step i sampleWorld)).flatten

theorem sampleDb_attempts : ∀ user ∈ sampleDb.user 1, user.failedLoginAttempts = 0 := by
  intro user huser
  obtain rfl : sampleUser = user := Option.some.inj huser
  rfl

/-- Of six logins one after the other the last is refused without a comparison. -/
theorem attempts_bounded_sample :
    let s' := Transition.run (Sys.step (engine sampleDigest sampleSame sampleSame))
      (sampleSystem sampleDb wrongLogins) loginsInTurn
    s'.db.compared = [1, 1, 1, 1, 1] ∧ s'.db.Locked 1 ∧
      (∀ user ∈ s'.db.user 1, user.lockedUntil = none →
        s'.db.compared.count 1 ≤ maxLoginAttempts) ∧
      Transition.Along (Sys.step (engine sampleDigest sampleSame sampleSame))
        (fun s l => Withstands 1 s.db (s.step (engine sampleDigest sampleSame sampleSame) l).db)
        (sampleSystem sampleDb wrongLogins) loginsInTurn :=
  ⟨rfl, ⟨_, rfl, 900, rfl, by decide⟩, attempts_bounded 1 0
    (sampleSystem_opening sampleDb_orderly wrongLogins) List.not_mem_nil sampleDb_attempts
    (by decide)⟩

def loginsBeside : List Choice :=
  (List.replicate 4 ((List.range 6).map fun i => .step i sampleWorld)).flatten

/-- Six logins beside each other compare six passwords, and the account is not locked. -/
theorem attempts_bounded_fails :
    ¬∀ (calls : Nat → Call) (s : System) (labels : List Choice),
      Opening sampleDigest calls s → 1 ∉ s.db.compared →
      (∀ user ∈ s.db.user 1, user.failedLoginAttempts = 0) →
      s.Keeping (engine sampleDigest sampleSame sampleSame)
        (fun s => Sending (fun _ => guesses sampleSame 1) s.db) labels →
      let s' := Transition.run (Sys.step (engine sampleDigest sampleSame sampleSame)) s labels
      ∀ user ∈ s'.db.user 1, user.lockedUntil = none →
        s'.db.compared.count 1 ≤ maxLoginAttempts := by
  intro h
  have hold := h wrongLogins (sampleSystem sampleDb wrongLogins) loginsBeside
    (sampleSystem_opening sampleDb_orderly wrongLogins) List.not_mem_nil sampleDb_attempts
    (by decide) _ rfl rfl
  revert hold
  decide

end FireIsp.Auth
