import FireIsp.Auth.Accounts
import FireIsp.Auth.Redemption

/-!
# Reset tokens and backup codes

A reset and the check of a backup code read what is stored, and write it back later without asking
whether it is still the same.  In every interleaving in which it is, a token is accepted by one
reset, and a code once.
-/

namespace FireIsp.Auth

open Txn

variable {digest : Secret → Digest} {verifies same : String → String → Bool} {calls : Nat → Call}
  {s : System} {tick i : Nat} {db db' : Db} {held held' : List (Nat × Nat)}
  {ghosts : Nat → Ghost Db Write Know} {ghost' : Ghost Db Write Know} {know know' : Know}

/-- A reset and a code are written only where what was read is still stored. -/
def spendsStored (db : Db) : Stmt → Bool
  | .resetPassword userId tokenHash _ =>
    (db.user userId).any fun user => user.resetTokenHash = some tokenHash
  | .spendCode userId backupCodes _ =>
    (db.user userId).any fun user => user.totpBackupCodes = some backupCodes
  | _ => true

/-- What is accepted once. -/
inductive Credential
  | token (tokenHash : Digest)
  | code (userId : Nat) (codeHash : Digest)

def Credential.hash : Credential → Digest
  | .token tokenHash => tokenHash
  | .code _ codeHash => codeHash

def User.Has (user : User) : Credential → Prop
  | .token tokenHash => user.resetTokenHash = some tokenHash
  | .code userId codeHash => user.id = userId ∧ ∃ codes ∈ user.totpBackupCodes, codeHash ∈ codes

def Db.Stores (db : Db) (c : Credential) : Prop := ∃ user ∈ db.users, user.Has c

/-- What a call has accepted. -/
def Know.accepted : Know → Option Credential
  | .stored _ _ tokenHash => tokenHash.map .token
  | .revoked _ _ tokenHash => tokenHash.map .token
  | .spent userId codeHash => some (.code userId codeHash)
  | _ => none

def Past (digest : Secret → Digest) (tick : Nat) (hash : Digest) : Prop :=
  ∃ secret : Secret, secret.tick < tick ∧ hash = digest secret

/-- Stored tokens and codes are past and different. -/
structure Unspent (digest : Secret → Digest) (tick : Nat) (db : Db) : Prop where
  past : ∀ c, db.Stores c → Past digest tick c.hash
  owned : ∀ a ∈ db.users, ∀ b ∈ db.users, ∀ tokenHash, a.resetTokenHash = some tokenHash →
    b.resetTokenHash = some tokenHash → a.id = b.id
  distinct : ∀ user ∈ db.users, ∀ codes ∈ user.totpBackupCodes, codes.Nodup

theorem Past.later {hash : Digest} (h : Past digest tick hash) : Past digest (tick + 1) hash := by
  obtain ⟨secret, hlt, heq⟩ := h
  exact ⟨secret, Nat.lt_succ_of_lt hlt, heq⟩

theorem Past.ne (hdigest : Function.Injective digest) {hash : Digest} (h : Past digest tick hash)
    {secret : Secret} (hnow : secret.tick = tick) : hash ≠ digest secret := by
  obtain ⟨old, hlt, rfl⟩ := h
  intro heq
  obtain rfl := hdigest heq
  omega

variable {op : Stmt}

/-- A field that an update leaves or clears. -/
theorem field_back {A : Type} {field : User → Option A} {value : A} {user : User} {users : List User}
    {userId : Nat} {update : Update} (hfield : field user = some value)
    (hmem : user ∈ Table.modify User.id userId (fun user => user.update update) users)
    (hsame : ∀ old : User, field (old.update update) = field old ∨ field (old.update update) = none) :
    ∃ old ∈ users, old.id = user.id ∧ field old = some value := by
  obtain ⟨old, hold, hid, ⟨-, rfl⟩ | ⟨-, rfl⟩⟩ := mem_modify hmem
  · exact ⟨user, hold, rfl, hfield⟩
  · refine ⟨old, hold, hid.symm, ?_⟩
    rcases hsame old with heq | hnone
    · exact heq.symm.trans hfield
    · exact nomatch hnone.symm.trans hfield

theorem token_back {user : User} {tokenHash : Digest} (h : user ∈
      ((engine digest verifies same).visible db (exec digest verifies same tick db op).2).users)
    (hhash : user.resetTokenHash = some tokenHash) :
    (∃ old ∈ db.users, old.id = user.id ∧ old.resetTokenHash = some tokenHash) ∨
      op = .storeResetToken user.id ∧ tokenHash = digest (.token tick) := by
  rw [users_exec] at h
  cases op with
  | storeResetToken userId =>
    obtain ⟨old, hold, hid, ⟨-, rfl⟩ | ⟨rfl, rfl⟩⟩ := mem_modify h
    · exact Or.inl ⟨user, hold, rfl, hhash⟩
    · exact Or.inr ⟨rfl, (Option.some.inj hhash).symm⟩
  | resetPassword => exact Or.inl (field_back hhash h fun _ => Or.inr rfl)
  | storeAttempts => exact Or.inl (field_back hhash h fun _ => Or.inl rfl)
  | lockAccount => exact Or.inl (field_back hhash h fun _ => Or.inl rfl)
  | clearAttempts => exact Or.inl (field_back hhash h fun _ => Or.inl rfl)
  | storePassword => exact Or.inl (field_back hhash h fun _ => Or.inl rfl)
  | spendCode => exact Or.inl (field_back hhash h fun _ => Or.inl rfl)
  | replaceCodes => exact Or.inl (field_back hhash h fun _ => Or.inl rfl)
  | enableTotp => exact Or.inl (field_back hhash h fun _ => Or.inl rfl)
  | storeSecret => exact Or.inl (field_back hhash h fun _ => Or.inl rfl)
  | disableTotp => exact Or.inl (field_back hhash h fun _ => Or.inl rfl)
  | _ => exact Or.inl ⟨user, h, rfl, hhash⟩

theorem codes_back {user : User} {codes : List Digest} (h : user ∈
      ((engine digest verifies same).visible db (exec digest verifies same tick db op).2).users)
    (hcodes : user.totpBackupCodes = some codes) :
    (∃ old ∈ db.users, old.id = user.id ∧ old.totpBackupCodes = some codes) ∨
      (∃ backupCodes codeHash, op = .spendCode user.id backupCodes codeHash ∧
        codes = backupCodes.erase codeHash) ∨
      codes = (backupCodesOf tick).map digest := by
  rw [users_exec] at h
  have hnew : ∀ {userId : Nat} {update : Update},
      (∀ old : User, (old.update update).totpBackupCodes = some ((backupCodesOf tick).map digest)) →
      user ∈ Table.modify User.id userId (fun user => user.update update) db.users →
      (∃ old ∈ db.users, old.id = user.id ∧ old.totpBackupCodes = some codes) ∨
        codes = (backupCodesOf tick).map digest := by
    intro userId update hset hmem
    obtain ⟨old, hold, hid, ⟨-, rfl⟩ | ⟨-, rfl⟩⟩ := mem_modify hmem
    · exact Or.inl ⟨user, hold, rfl, hcodes⟩
    · exact Or.inr (Option.some.inj (hcodes.symm.trans (hset old)))
  cases op with
  | spendCode userId backupCodes codeHash =>
    obtain ⟨old, hold, hid, ⟨-, rfl⟩ | ⟨rfl, rfl⟩⟩ := mem_modify h
    · exact Or.inl ⟨user, hold, rfl, hcodes⟩
    · exact Or.inr (Or.inl ⟨_, _, rfl, (Option.some.inj hcodes).symm⟩)
  | replaceCodes => exact (hnew (fun _ => rfl) h).imp_right Or.inr
  | enableTotp => exact (hnew (fun _ => rfl) h).imp_right Or.inr
  | disableTotp => exact Or.inl (field_back hcodes h fun _ => Or.inr rfl)
  | storeResetToken => exact Or.inl (field_back hcodes h fun _ => Or.inl rfl)
  | resetPassword => exact Or.inl (field_back hcodes h fun _ => Or.inl rfl)
  | storeAttempts => exact Or.inl (field_back hcodes h fun _ => Or.inl rfl)
  | lockAccount => exact Or.inl (field_back hcodes h fun _ => Or.inl rfl)
  | clearAttempts => exact Or.inl (field_back hcodes h fun _ => Or.inl rfl)
  | storePassword => exact Or.inl (field_back hcodes h fun _ => Or.inl rfl)
  | storeSecret => exact Or.inl (field_back hcodes h fun _ => Or.inl rfl)
  | _ => exact Or.inl ⟨user, h, rfl, hcodes⟩

theorem stored_of_spends {userId : Nat} {backupCodes : List Digest} {codeHash : Digest}
    (hmay : spendsStored db (.spendCode userId backupCodes codeHash) = true) :
    ∃ user ∈ db.users, user.id = userId ∧ user.totpBackupCodes = some backupCodes := by
  obtain ⟨user, hfound, hcodes⟩ := (Option.any_eq_true _ _).mp hmay
  obtain ⟨hmem, hid⟩ := mem_of_user hfound
  exact ⟨user, hmem, hid, of_decide_eq_true hcodes⟩

variable {c : Credential}

theorem stores_exec (hmay : spendsStored db op = true) (h : Db.Stores
      ((engine digest verifies same).visible db (exec digest verifies same tick db op).2) c) :
    db.Stores c ∨ ∃ secret : Secret, secret.tick = tick ∧ c.hash = digest secret := by
  obtain ⟨user, huser, hhas⟩ := h
  cases c with
  | token tokenHash =>
    rcases token_back huser hhas with ⟨old, hold, -, hhash⟩ | ⟨-, rfl⟩
    · exact Or.inl ⟨old, hold, hhash⟩
    · exact Or.inr ⟨.token tick, rfl, rfl⟩
  | code userId codeHash =>
    obtain ⟨rfl, codes, hcodes, hmem⟩ := hhas
    rcases codes_back huser hcodes with ⟨old, hold, hid, hcodes⟩ |
      ⟨backupCodes, spent, rfl, rfl⟩ | rfl
    · exact Or.inl ⟨old, hold, hid, codes, hcodes, hmem⟩
    · obtain ⟨old, hold, hid, hcodes⟩ := stored_of_spends hmay
      exact Or.inl ⟨old, hold, hid, backupCodes, hcodes, List.mem_of_mem_erase hmem⟩
    · obtain ⟨secret, hsecret, rfl⟩ := List.mem_map.mp hmem
      obtain ⟨index, -, rfl⟩ := List.mem_map.mp hsecret
      exact Or.inr ⟨.code tick index, rfl, rfl⟩

def Stmt.Accepts (c : Credential) : Stmt → Prop
  | .resetPassword _ tokenHash _ => c = .token tokenHash
  | .spendCode userId backupCodes codeHash => c = .code userId codeHash ∧ codeHash ∈ backupCodes
  | _ => False

theorem stored_of_accepts (h : op.Accepts c) (hmay : spendsStored db op = true) : db.Stores c := by
  cases op with
  | resetPassword userId tokenHash passwordHash =>
    obtain rfl : c = .token tokenHash := h
    obtain ⟨user, hfound, hhash⟩ := (Option.any_eq_true _ _).mp hmay
    have hstored : user.resetTokenHash = some tokenHash := of_decide_eq_true hhash
    exact ⟨user, (mem_of_user hfound).1, hstored⟩
  | spendCode userId backupCodes codeHash =>
    obtain ⟨rfl, hcode⟩ := h
    obtain ⟨user, hmem, hid, hcodes⟩ := stored_of_spends hmay
    exact ⟨user, hmem, hid, backupCodes, hcodes, hcode⟩
  | _ => exact h.elim

theorem Unspent.gone (h : Unspent digest tick db) (haccepts : op.Accepts c)
    (hmay : spendsStored db op = true) :
    ¬Db.Stores
      ((engine digest verifies same).visible db (exec digest verifies same tick db op).2) c := by
  rintro ⟨user, huser, hhas⟩
  cases op with
  | resetPassword userId tokenHash passwordHash =>
    obtain rfl : c = .token tokenHash := haccepts
    obtain ⟨owner, hfound, hhash⟩ := (Option.any_eq_true _ _).mp hmay
    obtain ⟨howner, hid⟩ := mem_of_user hfound
    rw [users_exec] at huser
    obtain ⟨old, hold, -, ⟨hne, rfl⟩ | ⟨-, rfl⟩⟩ := mem_modify huser
    · have heq := h.owned user hold owner howner tokenHash hhas (of_decide_eq_true hhash)
      exact hne (heq.trans hid)
    · exact nomatch hhas
  | spendCode userId backupCodes codeHash =>
    obtain ⟨rfl, -⟩ := haccepts
    obtain ⟨owner, howner, -, hcodes⟩ := stored_of_spends hmay
    have hnodup := h.distinct owner howner backupCodes hcodes
    rw [users_exec] at huser
    obtain ⟨huserId, codes, hleft, hmem⟩ := hhas
    obtain ⟨old, hold, hid, ⟨hne, rfl⟩ | ⟨-, rfl⟩⟩ := mem_modify huser
    · exact hne huserId
    · rw [← Option.some.inj (Option.mem_def.mp hleft)] at hmem
      exact (List.Nodup.mem_erase_iff hnodup).mp hmem |>.1 rfl
  | _ => exact haccepts.elim

theorem nodup_backupCodes (hdigest : Function.Injective digest) (tick : Nat) :
    ((backupCodesOf tick).map digest).Nodup := by
  refine (List.nodup_range.map fun a b h => ?_).map hdigest
  exact (Secret.code.inj h).2

theorem Unspent.exec (hdigest : Function.Injective digest) (h : Unspent digest tick db)
    (hmay : spendsStored db op = true) :
    Unspent digest (tick + 1)
      ((engine digest verifies same).visible db (exec digest verifies same tick db op).2) := by
  refine ⟨fun c hc => ?_, fun a ha b hb tokenHash hhash hhash' => ?_,
    fun user huser codes hcodes => ?_⟩
  · rcases stores_exec hmay hc with hold | ⟨secret, hnow, hhash⟩
    · exact (h.past c hold).later
    · exact ⟨secret, hnow ▸ Nat.lt_succ_self _, hhash⟩
  · have hnew : ∀ old ∈ db.users, old.resetTokenHash = some tokenHash →
        tokenHash ≠ digest (.token tick) := fun old hold hstored =>
      (h.past (.token tokenHash) ⟨old, hold, hstored⟩).ne hdigest rfl
    rcases token_back ha hhash with ⟨old, hold, hid, hstored⟩ | ⟨hopa, hnowa⟩ <;>
      rcases token_back hb hhash' with ⟨old', hold', hid', hstored'⟩ | ⟨hopb, hnowb⟩
    · rw [← hid, ← hid']
      exact h.owned old hold old' hold' tokenHash hstored hstored'
    · exact absurd hnowb (hnew old hold hstored)
    · exact absurd hnowa (hnew old' hold' hstored')
    · exact Stmt.storeResetToken.inj (hopa.symm.trans hopb)
  · rcases codes_back huser hcodes with ⟨old, hold, -, hstored⟩ |
      ⟨backupCodes, spent, rfl, rfl⟩ | rfl
    · exact h.distinct old hold codes hstored
    · obtain ⟨old, hold, -, hstored⟩ := stored_of_spends hmay
      exact (h.distinct old hold backupCodes hstored).erase spent
    · exact nodup_backupCodes hdigest tick

theorem Taught.accepted {reply : op.Res} (h : Taught know op reply know')
    (hc : know'.accepted = some c) :
    know.accepted = some c ∨ op.Accepts c := by
  cases h with
  | same => exact Or.inl hc
  | timed now => cases know <;> exact Or.inl hc
  | read email user => exact nomatch hc
  | found tokenHash row => exact nomatch hc
  | owned tokenHash userId row => exact nomatch hc
  | reset userId tokenHash passwordHash setAt => exact Or.inr (Option.some.inj hc).symm
  | set userId passwordHash setAt => exact nomatch hc
  | revoked userId setAt tokenHash hknow =>
    subst hknow
    exact Or.inl hc
  | spent userId backupCodes codeHash hcode =>
    exact Or.inr ⟨(Option.some.inj hc).symm, hcode⟩

theorem accepted_of_isOpen (h : know.isOpen = true) : know.accepted ≠ some c := by
  revert h
  cases know <;> exact nofun

/-- What holds of tokens and codes. -/
structure OneTimeInv (digest : Secret → Digest) (verifies same : String → String → Bool)
    (tick : Nat) (db : Db) (held : List (Nat × Nat)) (ghosts : Nat → Ghost Db Write Know) :
    Prop where
  sessions : SessionsInv digest verifies same tick db held ghosts
  /-- Stored tokens and codes are past and different. -/
  unspent : Unspent digest tick db
  spent : ∀ i know c, (ghosts i).know = some know → know.accepted = some c →
    Past digest tick c.hash ∧ ¬db.Stores c
  once : ∀ i j know know' c, (ghosts i).know = some know → (ghosts j).know = some know' →
    know.accepted = some c → know'.accepted = some c → i = j

theorem OneTimeInv.update (hdigest : Function.Injective digest)
    (h : OneTimeInv digest verifies same tick db held ghosts)
    (hsessions : SessionsInv digest verifies same (tick + 1) db' held'
      (Function.update ghosts i ghost')) (hunspent : Unspent digest (tick + 1) db')
    (hstores : ∀ c, db'.Stores c →
      db.Stores c ∨ ∃ secret : Secret, secret.tick = tick ∧ c.hash = digest secret)
    (hself : ∀ know c, ghost'.know = some know → know.accepted = some c →
      (∃ old, (ghosts i).know = some old ∧ old.accepted = some c) ∨ db.Stores c ∧ ¬db'.Stores c) :
    OneTimeInv digest verifies same (tick + 1) db' held' (Function.update ghosts i ghost') := by
  have hgone : ∀ c, Past digest tick c.hash → ¬db.Stores c → ¬db'.Stores c := by
    intro c hpast hnot hstored
    rcases hstores c hstored with hold | ⟨secret, hnow, hhash⟩
    · exact hnot hold
    · exact hpast.ne hdigest hnow hhash
  -- What a call has accepted in the new state: before, or from what was stored.
  have hcases : ∀ j know c, (Function.update ghosts i ghost' j).know = some know →
      know.accepted = some c → (∃ old, (ghosts j).know = some old ∧ old.accepted = some c) ∨
        j = i ∧ db.Stores c ∧ ¬db'.Stores c := by
    intro j know c hj hc
    by_cases hji : j = i
    · subst hji
      rw [Function.update_self] at hj
      exact (hself know c hj hc).imp_right fun hnew => ⟨rfl, hnew⟩
    · rw [Function.update_of_ne hji] at hj
      exact Or.inl ⟨know, hj, hc⟩
  refine ⟨hsessions, hunspent, fun j know c hj hc => ?_, fun j k know know' c hj hk hc hc' => ?_⟩
  · rcases hcases j know c hj hc with ⟨old, hold, hc⟩ | ⟨-, hstored, hnot⟩
    · obtain ⟨hpast, hnot⟩ := h.spent j old c hold hc
      exact ⟨hpast.later, hgone c hpast hnot⟩
    · exact ⟨(h.unspent.past c hstored).later, hnot⟩
  · rcases hcases j know c hj hc with ⟨old, hold, hc⟩ | ⟨hji, hstored, -⟩ <;>
      rcases hcases k know' c hk hc' with ⟨old', hold', hc'⟩ | ⟨hki, hstored', -⟩
    · exact h.once j k old old' c hold hold' hc hc'
    · exact absurd hstored' (h.spent j old c hold hc).2
    · exact absurd hstored (h.spent k old' c hold' hc').2
    · exact hji.trans hki.symm

theorem Unspent.later (h : Unspent digest tick db) : Unspent digest (tick + 1) db :=
  { h with past := fun c hc => (h.past c hc).later }

theorem Unspent.congr (h : Unspent digest tick db) (husers : db'.users = db.users) :
    Unspent digest tick db' := by
  refine ⟨fun c hc => h.past c ?_, ?_, ?_⟩
  · obtain ⟨user, huser, hhas⟩ := hc
    exact ⟨user, husers ▸ huser, hhas⟩
  · exact husers ▸ h.owned
  · exact husers ▸ h.distinct

theorem OneTimeInv.step (hdigest : Function.Injective digest)
    (h : OneTimeInv digest verifies same tick db held ghosts)
    (hd : Guarded (engine digest verifies same) tracking (Sending spendsStored db) i tick db held
      (ghosts i) db' held' ghost') :
    OneTimeInv digest verifies same (tick + 1) db' held' (Function.update ghosts i ghost') := by
  have hsessions := h.sessions.step hd.disciplined
  have hplaced := h.sessions.placed i
  generalize hghost : ghosts i = ghost at hd hplaced
  cases hd with
  | idle =>
    exact h.update hdigest hsessions h.unspent.later (fun _ hc => Or.inl hc)
      fun know c hknow hc => Or.inl ⟨know, by rw [hghost, hknow], hc⟩
  | abort hmay =>
    refine h.update hdigest hsessions h.unspent.later (fun _ hc => Or.inl hc) fun _ _ hknow => ?_
    cases hknow
  | start know know' tx hk =>
    cases know with
    | found row =>
      obtain rfl := Option.some.inj hk
      obtain ⟨rfl, -⟩ := placed_some.mp hplaced
      exact h.update hdigest hsessions h.unspent.later (fun _ hc => Or.inl hc)
        fun know c hknow hc => by
          obtain rfl := Option.some.inj hknow
          exact nomatch hc
    | _ => exact nomatch hk
  | commit know know' tx hk =>
    cases know with
    | replaced row =>
      obtain rfl := Option.some.inj hk
      obtain ⟨-, -, ids, new, rfl, -, -⟩ := placed_some.mp hplaced
      exact h.update hdigest hsessions (h.unspent.later.congr rfl) (fun _ hc => Or.inl hc)
        fun know c hknow hc => by
          obtain rfl := Option.some.inj hknow
          exact nomatch hc
    | _ => exact nomatch hk
  | rollback know know' tx hk =>
    obtain rfl := Option.some.inj hk
    exact h.update hdigest hsessions h.unspent.later (fun _ hc => Or.inl hc)
      fun know c hknow hc => by
        obtain rfl := Option.some.inj hknow
        exact nomatch hc
  | call know query learn tx hk answer hmay =>
    obtain rfl := Option.some.inj hk
    exact h.update hdigest hsessions h.unspent.later (fun _ hc => Or.inl hc)
      fun know' c hknow hc => Or.inl ⟨know', by rw [hghost]; exact hknow, hc⟩
  | auto know via op learn tx hk hin hfree hmay =>
    obtain ⟨-, hsent⟩ := hplaced.outside hin hk
    refine h.update hdigest hsessions (h.unspent.exec hdigest hmay)
      (fun c hc => stores_exec hmay hc) fun know' c hknow hc => ?_
    obtain rfl := Option.some.inj hknow
    rcases (taught_of_outside hsent _).accepted hc with hold | haccepts
    · exact Or.inl ⟨know, by rw [hghost], hold⟩
    · exact Or.inr ⟨stored_of_accepts haccepts hmay, h.unspent.gone haccepts hmay⟩
  | within know op learn tx hk hfree hmay =>
    refine h.update hdigest hsessions h.unspent.later (fun _ hc => Or.inl hc)
      fun know' c hknow hc => ?_
    have hopen := (isOpen_of_inside hk _).symm.trans (congrArg Know.isOpen (Option.some.inj hknow))
    exact absurd hc (accepted_of_isOpen hopen.symm)

def ResetBy (s : System) (i : Nat) (token : Secret) : Prop :=
  ∃ newPassword answered, s.answer i = some (.resetPassword token newPassword, .ok answered)

def Accepted (s : System) (i userId : Nat) (code : Secret) : Prop :=
  ∃ call answered, s.answer i = some (call, .ok answered) ∧ call.Tries userId code ∧
    answered.ByBackupCode

theorem know_of_resetBy {ghost : Ghost Db Write Know} {token : Secret}
    (ht : TracksTo tracking (EndedIn digest) (s.sessions i) ghost) (h : ResetBy s i token) :
    ∃ know, ghost.know = some know ∧ know.accepted = some (.token (digest token)) := by
  obtain ⟨newPassword, answered, hanswer⟩ := h
  obtain ⟨know, hknow, hended⟩ := ht.follows _ (Sys.prog_of_answer hanswer)
  obtain ⟨userId, setAt, rfl⟩ := (hended answered rfl).reset token newPassword rfl
  exact ⟨_, hknow, rfl⟩

theorem know_of_accepted {ghost : Ghost Db Write Know} {userId : Nat} {code : Secret}
    (ht : TracksTo tracking (EndedIn digest) (s.sessions i) ghost) (h : Accepted s i userId code) :
    ∃ know, ghost.know = some know ∧ know.accepted = some (.code userId (digest code)) := by
  obtain ⟨call, answered, hanswer, htries, hcode⟩ := h
  obtain ⟨know, hknow, hended⟩ := ht.follows _ (Sys.prog_of_answer hanswer)
  obtain rfl := (hended answered rfl).spent userId code htries hcode
  exact ⟨_, hknow, rfl⟩

/-- Where stores find what was read still stored, a token and a backup code are accepted once. -/
theorem accepted_once (hdigest : Function.Injective digest) (h : Opening digest calls s)
    (hunspent : Unspent digest s.tick s.db) {labels : List Choice}
    (hrun : s.Keeping (engine digest verifies same) (fun s => Sending spendsStored s.db) labels) :
    let s' := Transition.run (Sys.step (engine digest verifies same)) s labels
    (∀ i j token, ResetBy s' i token → ResetBy s' j token → i = j) ∧
      ∀ i j userId code, Accepted s' i userId code → Accepted s' j userId code → i = j := by
  intro s'
  have hinv : OneTimeInv digest verifies same s.tick s.db s.held fun _ => idle := by
    refine ⟨h.sessionsInv, hunspent, fun i know c hknow hc => ?_,
      fun i j know know' c hknow _ hc => ?_⟩ <;>
    · obtain rfl := Option.some.inj hknow
      exact nomatch hc
  obtain ⟨ghosts, hend, htracks, -⟩ := Sys.run_guarded
    (fun _ _ _ _ _ _ _ _ hinv hd => hinv.step hdigest hd) hinv h.tracks hrun
  refine ⟨fun i j token hi hj => ?_, fun i j userId code hi hj => ?_⟩
  · obtain ⟨know, hknow, hc⟩ := know_of_resetBy (htracks i) hi
    obtain ⟨know', hknow', hc'⟩ := know_of_resetBy (htracks j) hj
    exact hend.once i j know know' _ hknow hknow' hc hc'
  · obtain ⟨know, hknow, hc⟩ := know_of_accepted (htracks i) hi
    obtain ⟨know', hknow', hc'⟩ := know_of_accepted (htracks j) hj
    exact hend.once i j know know' _ hknow hknow' hc hc'

/-- An account with a reset token and two backup codes. -/
def enrolledUser : User :=
  { sampleUser with
    resetTokenHash := some (sampleDigest (.token 0))
    resetTokenExpires := some 3600
    totpSecret := some "s"
    totpEnabled := true
    totpBackupCodes := some [sampleDigest (.code 0 0), sampleDigest (.code 0 1)] }

/-- The account without sessions. -/
def enrolledDb : Db := { sampleDb with users := [enrolledUser], inserted := [] }

theorem enrolledDb_orderly : Orderly sampleDigest 1 enrolledDb :=
  ⟨List.nodup_nil, nofun, nofun, nofun, nofun⟩

theorem enrolledDb_unspent : Unspent sampleDigest 1 enrolledDb := by
  have hall : ∀ user ∈ enrolledDb.users, user = enrolledUser := fun _ => List.mem_singleton.mp
  refine ⟨fun c ⟨user, huser, hhas⟩ => ?_, fun a ha b hb _ _ _ => ?_,
    fun user huser codes hcodes => ?_⟩
  · obtain rfl := hall user huser
    cases c with
    | token tokenHash =>
      obtain rfl := Option.some.inj hhas
      exact ⟨.token 0, Nat.zero_lt_one, rfl⟩
    | code userId codeHash =>
      obtain ⟨-, codes, hcodes, hmem⟩ := hhas
      obtain rfl := Option.some.inj (Option.mem_def.mp hcodes)
      obtain ⟨index, -, rfl⟩ : ∃ index ∈ List.range 2, sampleDigest (.code 0 index) = codeHash :=
        List.mem_map.mp hmem
      exact ⟨.code 0 index, Nat.zero_lt_one, rfl⟩
  · rw [hall a ha, hall b hb]
  · obtain rfl := hall user huser
    obtain rfl := Option.some.inj (Option.mem_def.mp hcodes)
    decide

/-- The token and a code are presented twice. -/
def twoOfEach : Nat → Call
  | 0 => .resetPassword (.token 0) "new word"
  | 1 => .resetPassword (.token 0) "new word"
  | _ => .verifyCode 1 (.code 0 1)

/-- One call after the other. -/
def inTurn : List Choice :=
  ([0, 1, 2, 3].map fun i => List.replicate 10 (.step i sampleWorld)).flatten

/-- One reset and one check of a code have accepted. -/
theorem accepted_once_sample :
    let s' := Transition.run (Sys.step (engine sampleDigest sampleSame sampleSame))
      (sampleSystem enrolledDb twoOfEach) inTurn
    ResetBy s' 0 (.token 0) ∧ Accepted s' 2 1 (.code 0 1) ∧
      (∀ i j token, ResetBy s' i token → ResetBy s' j token → i = j) ∧
        ∀ i j userId code, Accepted s' i userId code → Accepted s' j userId code → i = j :=
  ⟨⟨_, _, rfl⟩, ⟨_, _, rfl, ⟨rfl, rfl⟩, trivial⟩, accepted_once sampleDigest_injective
    (sampleSystem_opening enrolledDb_orderly twoOfEach) enrolledDb_unspent (by decide)⟩

/-- All calls go on in turn. -/
def besideEachOther : List Choice :=
  (List.replicate 10 ([0, 1, 2, 3].map fun i => .step i sampleWorld)).flatten

/-- Where calls overlap a token is accepted by two resets, and a code by two checks. -/
theorem accepted_once_fails :
    ¬∀ (calls : Nat → Call) (s : System) (labels : List Choice),
      Opening sampleDigest calls s → Unspent sampleDigest s.tick s.db →
      let s' := Transition.run (Sys.step (engine sampleDigest sampleSame sampleSame)) s labels
      (∀ i j token, ResetBy s' i token → ResetBy s' j token → i = j) ∨
        ∀ i j userId code, Accepted s' i userId code → Accepted s' j userId code → i = j := by
  intro h
  rcases h twoOfEach (sampleSystem enrolledDb twoOfEach) besideEachOther
    (sampleSystem_opening enrolledDb_orderly twoOfEach) enrolledDb_unspent with hreset | hcode
  · have hsame := hreset 0 1 (.token 0) ⟨_, _, rfl⟩ ⟨_, _, rfl⟩
    exact nomatch hsame
  · have hsame := hcode 2 3 1 (.code 0 1) ⟨_, _, rfl, ⟨rfl, rfl⟩, trivial⟩
      ⟨_, _, rfl, ⟨rfl, rfl⟩, trivial⟩
    exact nomatch hsame

end FireIsp.Auth
