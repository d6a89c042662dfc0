import FireIsp.Line.Footprint

/-!
# The account follows its contract

After each call that completes the account is active if and only if its contract is: unless a
reconnection or a renewal finds an account it does not restore, or a synchronisation opens an
account during a test window.
-/

namespace FireIsp.Line

open Txn Throwing Client
open Lifecycle (ContractStatus ConnectionType)

def Paired (c : Contract) (r : Radius) : Prop := r.status = .active ↔ c.status = .active

/-- The line is held by a contract and an account that are paired. -/
def Follows (contractId : Nat) (db : Db) : Prop := ∃ c r, Held contractId c r db ∧ Paired c r

variable {assume : (query : Outside Stmt Query) → Outside.Answer Query.Answer query → Prop}
  {contractId : Nat} {c : Contract} {r : Radius} {db : Db} {via : Via}

theorem paired_of_ne (hc : c.status ≠ .active) (hr : r.status ≠ .active) : Paired c r :=
  ⟨fun h => absurd h hr, fun h => absurd h hc⟩

theorem suspended_ne (r : Radius) :
    (if r.livesOn contractId && decide (r.status = .active) then
      { r with status := .suspended } else r).status = .active → r.livesOn contractId = false := by
  intro h
  by_contra hlives
  rw [Bool.eq_true_of_not_eq_false hlives, Bool.true_and] at h
  split_ifs at h with hactive
  exact hactive (decide_eq_true h)

theorem meets_onlyIf {condition : Bool} {part : Body Unit} {post : Except Failure Unit → Db → Prop}
    (hpart : condition = true → Meets engine assume via part db post)
    (hskip : condition = false → post (.ok ()) db) :
    Meets engine assume via (onlyIf condition part) db post := by
  unfold onlyIf
  split_ifs with hcondition
  · exact hpart hcondition
  · exact meets_pure (hskip (Bool.eq_false_of_not_eq_true hcondition))

theorem meets_updateContracts {matches_ : Nat → Contract → Bool} {set : Nat → Contract → Contract}
    {post : Except Failure Nat → Db → Prop} (hraised : post (.error .raised) db)
    (hset : ∀ now, post (.ok (db.contracts.countP (matches_ now)))
      { db with contracts := update (matches_ now) (set now) db.contracts }) :
    Meets engine assume via (updateContracts via matches_ set) db post := by
  refine meets_bind (meets_statement hraised fun now => ?_)
  change Meets engine assume via (orThrow (db.updated _ _).1 Failure.raised)
    (engine.visible db (db.updated _ _).2) post
  unfold Db.updated
  split_ifs
  · exact meets_throw hraised
  · exact meets_pure (hset now)

variable {set : Contract → Contract}

theorem meets_updateLines {matches_ : Contract → List Radius → Bool}
    {post : Except Failure Nat → Db → Prop} (hraised : post (.error .raised) db)
    (hset : ∀ matched, post (.ok (db.contracts.countP matched))
      { db with contracts := update matched set db.contracts }) :
    Meets engine assume via (updateLines via matches_ set) db post := by
  refine meets_bind (meets_statement hraised fun now => ?_)
  change Meets engine assume via (orThrow (db.updated _ _).1 Failure.raised)
    (engine.visible db (db.updated _ _).2) post
  unfold Db.updated
  split_ifs
  · exact meets_throw hraised
  · exact meets_pure (hset _)

variable {matches_ : Contract → Bool}

theorem Held.set_status (h : Held contractId c r db) (status : ContractStatus) :
    Held contractId (if matches_ c then { c with status := status } else c) r
      { db with contracts := update matches_ (fun c => { c with status := status }) db.contracts } := by
  have hid : ∀ c : Contract, ({ c with status := status } : Contract).id = c.id := fun _ => rfl
  exact h.update_contracts hid

theorem Held.countP (h : Held contractId c r db)
    (hid : ∀ c, matches_ c = true → c.id = contractId) :
    db.contracts.countP matches_ = if matches_ c then 1 else 0 := by
  have hfilter : db.contracts.filter matches_ =
      (db.contracts.filter fun c => c.id = contractId).filter matches_ := by
    rw [List.filter_filter]
    refine List.filter_congr fun a _ => ?_
    by_cases ha : matches_ a = true
    · rw [ha, hid a ha, decide_eq_true rfl]
      rfl
    · rw [Bool.eq_false_of_not_eq_true ha]
      rfl
  rw [List.countP_eq_length_filter, hfilter, h.contract, List.filter_cons, List.filter_nil]
  split_ifs <;> rfl

theorem Held.update_matched (h : Held contractId c r db)
    (hid : ∀ c, matches_ c = true → c.id = contractId) (hset : ∀ c, (set c).id = c.id)
    (hcount : db.contracts.countP matches_ ≠ 0) :
    Held contractId (set c) r { db with contracts := update matches_ set db.contracts } := by
  have hheld : Held contractId (if matches_ c then set c else c) r
      { db with contracts := update matches_ set db.contracts } := h.update_contracts hset
  rw [h.countP hid] at hcount
  split_ifs at hcount hheld with hc
  · exact hheld
  · exact absurd rfl hcount

theorem Held.set_matched (h : Held contractId c r db)
    (hid : ∀ c, matches_ c = true → c.id = contractId) (status : ContractStatus)
    (hcount : db.contracts.countP matches_ ≠ 0) :
    Held contractId { c with status := status } r
      { db with contracts := update matches_ (fun c => { c with status := status }) db.contracts } := by
  have hset : ∀ c : Contract, ({ c with status := status } : Contract).id = c.id := fun _ => rfl
  exact h.update_matched hid hset hcount

theorem meets_sendCoa (id : Nat) :
    Meets engine assume via (sendCoa id) db fun returned db' => db' = db ∧ ∃ sent,
      returned = .ok sent :=
  meets_bind (meets_asked fun result _ => by
    cases result with
    | none => exact meets_pure ⟨rfl, _, rfl⟩
    | some result => exact meets_pure ⟨rfl, _, rfl⟩)

theorem meets_disableNas (accounts : List Radius) :
    Meets engine assume via (disableNasBestEffort accounts) db fun _ db' => db' = db := by
  induction accounts with
  | nil => exact meets_pure rfl
  | cons radius accounts ih =>
    have hone : Meets engine assume via (disableOneNasBestEffort radius) db
        fun _ db' => db' = db := by
      unfold disableOneNasBestEffort
      cases radius.nasId with
      | none => exact meets_pure rfl
      | some nasId => exact meets_bind (meets_asked fun _ _ => meets_pure rfl)
    refine meets_bind (hone.mono ?_)
    rintro (error | one) _ rfl
    · rfl
    · refine meets_bind (ih.mono ?_)
      rintro (error | others) _ rfl
      · rfl
      · exact meets_pure rfl

theorem meets_disconnect (id : Nat) :
    Meets engine assume .pool (disconnectBestEffort id) db fun _ db' => db' = db := by
  have hconfirmed : Meets engine assume .pool (disconnectConfirmed id) db
      fun _ db' => db' = db := by
    refine meets_bind (meets_asked fun result _ => ?_)
    cases result with
    | none => exact meets_pure rfl
    | some result =>
      dsimp only
      split_ifs
      · exact meets_pure rfl
      · exact meets_bind (meets_statement rfl fun _ => meets_pure rfl)
      · exact meets_pure rfl
  refine meets_bind (meets_attempted (hconfirmed.mono ?_))
  rintro (error | confirmed) _ rfl
  · exact meets_pure rfl
  · exact meets_pure rfl

theorem Held.keep_status (h : Held contractId c r db) (hid : ∀ c, (set c).id = c.id)
    (hstatus : ∀ c, (set c).status = c.status) :
    ∃ c', Held contractId c' r { db with contracts := update matches_ set db.contracts } ∧
      c'.status = c.status := by
  refine ⟨_, h.update_contracts hid, ?_⟩
  split_ifs
  · exact hstatus c
  · rfl

theorem meets_finalizeMarkedCleanup (h : Held contractId c r db) (id : Nat) (orgId : Option Nat)
    (radius : List Radius) (retainMarker : Bool) :
    Meets engine assume .pool (finalizeMarkedCleanup id orgId radius retainMarker) db
      fun _ db' => ∃ c', Held contractId c' r db' ∧ c'.status = c.status := by
  have hsame : ∃ c', Held contractId c' r db ∧ c'.status = c.status := ⟨c, h, rfl⟩
  refine meets_bind (meets_bind (meets_statement hsame fun _ => meets_pure ?_))
  refine meets_bind ((meets_disableNas _).mono ?_)
  rintro (error | nas) _ rfl
  · exact hsame
  refine meets_bind ((meets_disconnect id).mono ?_)
  rintro (error | confirmed) _ rfl
  · exact hsame
  dsimp only
  unfold settleMarker
  split_ifs
  · exact meets_bind (meets_updateContracts hsame fun now =>
      meets_pure (h.keep_status (fun _ => rfl) fun _ => rfl))
  · unfold onlyIf
    split_ifs
    · exact meets_bind (meets_bind (meets_updateLines hsame fun _ =>
        meets_pure (meets_pure (h.keep_status (fun _ => rfl) fun _ => rfl))))
    · exact meets_pure hsame

theorem meets_prepareExternalCleanup (h : Held contractId c r db) (orgId : Option Nat)
    (expected : Expected) :
    Meets engine assume .conn (prepareExternalCleanup contractId orgId expected) db
      fun returned db' => ∀ cleanup, returned = .ok cleanup → ∃ c' r',
        Held contractId c' r' db' ∧ c'.status = c.status ∧ r'.status = .inactive := by
  have herror : ∀ {error : Failure} {db' : Db}, ∀ cleanup : CleanupPreparation,
      Except.error error = .ok cleanup → ∃ c' r',
        Held contractId c' r' db' ∧ c'.status = c.status ∧ r'.status = .inactive :=
    fun _ h => nomatch h
  refine meets_bind (meets_statement herror fun _ => ?_)
  refine meets_bind (meets_orThrow (fun _ => herror) fun contract hcontract => ?_)
  have hmem := List.mem_filter.mp (List.mem_of_head? hcontract)
  obtain rfl : contract = c := h.eq_contract hmem.1
    (id_of_and (Bool.and_eq_true_iff.mp hmem.2).1)
  refine meets_bind (meets_refuseIf (fun _ => herror) fun _ => ?_)
  refine meets_bind (meets_refuseIf (fun _ => herror) fun _ => ?_)
  refine meets_bind (meets_refuseIf (fun _ => herror) fun _ => ?_)
  refine meets_bind (meets_refuseIf (fun _ => herror) fun _ => ?_)
  refine meets_bind (meets_statement herror fun _ => ?_)
  have hrequired : Meets engine assume .conn (requiresExternalCleanup contract
      (db.radius.filter fun r => r.contractId = some contractId)) db
      fun returned db' => db' = db ∧ (returned = .ok false → r.status = .inactive) := by
    unfold requiresExternalCleanup
    dsimp only
    split_ifs with hshown
    · exact meets_pure ⟨rfl, fun h => nomatch h⟩
    · refine (meets_asked fun _ _ => ⟨rfl, fun _ => ?_⟩)
      by_contra hstatus
      refine hshown ?_
      have hlive := Bool.and_eq_true_iff.mp h.mem_account.2
      have haccount : r ∈ (db.radius.filter fun r => r.contractId = some contractId).filter
          Radius.live :=
        List.mem_filter.mpr ⟨List.mem_filter.mpr ⟨h.mem_account.1, hlive.1⟩, hlive.2⟩
      have hany : ((db.radius.filter fun r => r.contractId = some contractId).filter
          Radius.live).any (fun r => r.status ≠ .inactive) = true :=
        List.any_eq_true.mpr ⟨r, haccount, decide_eq_true hstatus⟩
      rw [hany]
      simp only [Bool.or_true, Bool.true_or]
  refine meets_bind (hrequired.mono ?_)
  rintro (error | cleanupRequired) _ ⟨rfl, hinactive⟩
  · exact herror
  refine meets_bind (meets_updateContracts herror fun now => ?_)
  have hset : ∀ c : Contract, (if cleanupRequired then c.marked none else c.unmarked).id = c.id ∧
      (if cleanupRequired then c.marked none else c.unmarked).status = c.status := by
    intro c
    split_ifs <;> exact ⟨rfl, rfl⟩
  obtain ⟨c', hheld, hstatus⟩ := h.keep_status (fun c => (hset c).1) fun c => (hset c).2
  unfold onlyIf
  cases cleanupRequired with
  | false =>
    refine meets_bind (meets_pure (meets_pure ?_))
    exact fun _ _ => ⟨c', r, hheld, hstatus, hinactive rfl⟩
  | true =>
    refine meets_bind (meets_bind (meets_statement herror fun _ => ?_))
    refine meets_statement herror fun _ => meets_pure fun _ _ => ?_
    refine ⟨c', _, hheld.update_radius (settles_status _), hstatus, ?_⟩
    rw [if_pos hheld.mem_account.2]

/-- The line is paired once a part has returned. -/
def Done (contractId : Nat) {A : Type} (returned : Except Failure A) (db : Db) : Prop :=
  ∀ value, returned = .ok value → Follows contractId db

theorem done_error {A : Type} {error : Failure} :
    Done contractId (.error error : Except Failure A) db := fun _ h => nomatch h

theorem Follows.write_logs (h : Follows contractId db) (logs : List SuspensionLog) :
    Follows contractId { db with logs := logs } := by
  obtain ⟨c, r, hheld, hpaired⟩ := h
  exact ⟨c, r, hheld.write_logs logs, hpaired⟩

theorem meets_insertLog (h : Follows contractId db) (id : Nat) (row : Nat → Nat → SuspensionLog) :
    Meets engine assume via (run via (.insertLog id row)) db fun _ db' =>
      Follows contractId db' := by
  refine meets_statement h fun tick => ?_
  change Follows contractId (engine.visible db (if _ then _ else _ : Unit × List Db).2)
  split_ifs
  · exact h.write_logs _
  · exact h

theorem meets_suspendAccount (h : Held contractId c r db) (hc : c.status ≠ .active) :
    Meets engine assume via (suspendAccount via contractId) db (Done contractId) := by
  refine meets_bind (meets_statement done_error fun _ => meets_pure fun _ _ => ?_)
  refine ⟨c, _, h.update_radius (settles_status _), paired_of_ne hc fun hactive => ?_⟩
  have hlives := suspended_ne r hactive
  rw [h.mem_account.2] at hlives
  cases hlives

theorem meets_suspendContract (h : Held contractId c r db) (hpaired : Paired c r)
    (ruleId userId invoiceId : Option Nat) :
    Meets engine assume .pool (suspendContract contractId ruleId userId invoiceId) db
      (Done contractId) := by
  refine meets_bind (meets_asked fun exempt _ => ?_)
  refine meets_onlyIf (fun _ => ?_) fun _ _ _ => ⟨c, r, h, hpaired⟩
  refine meets_inTransaction (fun _ => done_error) ?_
  refine meets_bind (meets_updateContracts (fun _ h => nomatch h) fun now => ?_)
  refine meets_bind ((meets_suspendAccount (h.set_status .suspended) ?_).mono ?_)
  · rw [if_pos (decide_eq_true h.mem.2)]
    exact fun h => nomatch h
  rintro (error | _) db' hdone
  · exact fun _ h => nomatch h
  refine meets_bind ((meets_sendCoa contractId).mono ?_)
  rintro _ _ ⟨rfl, coa, rfl⟩
  exact (meets_insertLog (hdone () rfl) contractId _).mono fun _ _ hfollows _ _ _ _ => hfollows

theorem meets_resetSuspended (h : Held contractId c r db) (hpaired : Paired c r)
    (orgId : Option Nat) {locked : Option Contract} (hlocked : ∀ l, locked = some l → l = c) :
    Meets engine assume .conn (resetSuspended contractId orgId locked) db (Done contractId) := by
  cases locked with
  | none => exact meets_throw done_error
  | some locked =>
    obtain rfl := hlocked locked rfl
    have hr : locked.status = .suspended → r.status ≠ .active :=
      fun hstatus hactive => by rw [hpaired.mp hactive] at hstatus; cases hstatus
    unfold resetSuspended
    dsimp only
    split_ifs with hnever hpppoe
    · have hstatus := of_decide_eq_true (Bool.and_eq_true_iff.mp hnever).1
      refine meets_bind ((meets_prepareExternalCleanup h orgId _).mono ?_)
      rintro (error | cleanup) db' hprepared
      · exact done_error
      obtain ⟨c', r', hheld, hc', hr'⟩ := hprepared cleanup rfl
      refine meets_bind (meets_updateContracts done_error fun now => ?_)
      refine meets_bind (meets_refuseIf (fun _ => done_error) fun _ => meets_pure fun _ _ => ?_)
      refine ⟨_, r', hheld.set_status .pending, paired_of_ne ?_ (by rw [hr']; intro h; cases h)⟩
      split_ifs
      · intro h
        cases h
      · rw [hc', hstatus]
        intro h
        cases h
    · have hstatus := of_decide_eq_true (Bool.and_eq_true_iff.mp hnever).1
      refine meets_bind (meets_updateContracts done_error fun now => ?_)
      refine meets_bind (meets_refuseIf (fun _ => done_error) fun _ => meets_pure fun _ _ => ?_)
      have hid : ∀ c : Contract, ({ c with
        status := .pending
        testWindowCleanupPending := false
        testWindowExpiresAt := none } : Contract).id = c.id := fun _ => rfl
      refine ⟨_, r, h.update_contracts hid, paired_of_ne ?_ (hr hstatus)⟩
      split_ifs
      · intro h
        cases h
      · rw [hstatus]
        intro h
        cases h
    · exact meets_bind (meets_refuseIf (fun _ => done_error) fun _ =>
        meets_pure fun _ _ => ⟨locked, r, h, hpaired⟩)

theorem meets_restoreOrReset (h : Held contractId c r db) (hpaired : Paired c r)
    (hrestores : c.status = .suspended → c.firstActivatedAt.isSome → r.status = .suspended)
    (hmatches : ∀ c, matches_ c = true → c.id = contractId ∧
      c.status = .suspended ∧ c.firstActivatedAt.isSome) (orgId : Option Nat)
    {locked : Option Contract} (hlocked : ∀ l, locked = some l → l = c) :
    Meets engine assume .conn
      (restoreOrReset contractId orgId locked (db.contracts.countP matches_))
      { db with contracts := update matches_ (fun c => { c with status := .active }) db.contracts }
      (Done contractId) := by
  have hheld : Held contractId (if matches_ c then { c with status := .active } else c) r
      { db with
        contracts := update matches_ (fun c => { c with status := .active }) db.contracts } :=
    h.set_status .active
  rw [h.countP fun c hc => (hmatches c hc).1]
  unfold restoreOrReset
  cases hc : matches_ c with
  | false =>
    rw [hc] at hheld
    exact meets_resetSuspended hheld hpaired orgId hlocked
  | true =>
    rw [hc] at hheld
    obtain ⟨-, hstatus, hfirst⟩ := hmatches c hc
    rw [if_pos rfl, if_pos rfl]
    refine meets_bind (meets_statement done_error fun _ => meets_pure fun _ _ => ?_)
    refine ⟨_, _, hheld.update_radius (settles_status _), ?_⟩
    rw [if_pos rfl, if_pos]
    · exact ⟨fun _ => rfl, fun _ => rfl⟩
    · rw [h.mem_account.2, hrestores hstatus hfirst]
      rfl

theorem meets_closeOpen (h : Follows contractId db) (walled : String → Bool) (id : Nat) :
    Meets engine assume .conn (closeOpenSuspensionAndGetStart walled id) db
      fun _ db' => Follows contractId db' :=
  meets_bind (meets_statement h fun _ => meets_bind (meets_statement h fun _ =>
    meets_pure (h.write_logs _)))

theorem meets_reconnecting (h : Held contractId c r db) (hpaired : Paired c r)
    (hrestores : c.status = .suspended → c.firstActivatedAt.isSome → r.status = .suspended)
    (walled : String → Bool) (userId invoiceId orgId : Option Nat) :
    Meets engine assume .conn (reconnecting walled contractId userId invoiceId orgId) db
      (Done contractId) := by
  refine meets_bind (meets_statement done_error fun _ => ?_)
  have hlocked : ∀ l, (db.contracts.filter fun c => c.id = contractId && c.live &&
      (orgWhere orgId).admits c.organizationId).head? = some l → l = c := by
    intro l hl
    have hmem := List.mem_filter.mp (List.mem_of_head? hl)
    simp only [Bool.and_eq_true, decide_eq_true_eq] at hmem
    exact h.eq_contract hmem.1 hmem.2.1.1
  have hsandbox : ∀ condition, Meets engine assume .conn
      (onlyIf condition (assertSandboxContractCanResume contractId)) db fun _ db' => db' = db :=
    fun _ => meets_onlyIf (fun _ => meets_bind (meets_asked fun _ _ =>
      meets_refuseIf (fun _ => rfl) fun _ => rfl)) fun _ => rfl
  refine meets_bind ((hsandbox _).mono ?_)
  rintro (error | _) _ rfl
  · exact done_error
  refine meets_bind (meets_updateContracts done_error fun now => ?_)
  refine meets_bind ((meets_restoreOrReset h hpaired hrestores (fun c hc => ?_) orgId hlocked).mono
    ?_)
  · simp only [Bool.and_eq_true, decide_eq_true_eq] at hc
    exact ⟨hc.1.1.1.1, hc.1.1.1.2, hc.1.1.2⟩
  rintro (error | reconnected) db₁ hdone
  · exact done_error
  have hcoa : Meets engine assume .conn (reconnectCoa contractId reconnected.activationRequired) db₁
      fun _ db₂ => db₂ = db₁ := by
    unfold reconnectCoa
    split_ifs
    · exact meets_pure rfl
    · exact (meets_sendCoa _).mono fun _ _ hsent => hsent.1
  refine meets_bind (hcoa.mono ?_)
  rintro (error | coa) _ rfl
  · exact done_error
  refine meets_bind ((meets_closeOpen (hdone reconnected rfl) walled contractId).mono ?_)
  rintro (error | suspendedAt) db₂ hfollows
  · exact done_error
  refine meets_bind (meets_asked fun restoredAt _ => ?_)
  refine meets_bind ((meets_insertLog hfollows contractId _).mono ?_)
  rintro (error | _) db₃ hfollows
  · exact done_error
  · exact meets_pure fun _ _ => hfollows

theorem meets_reconnectContract (h : Held contractId c r db) (hpaired : Paired c r)
    (hrestores : c.status = .suspended → c.firstActivatedAt.isSome → r.status = .suspended)
    (walled : String → Bool) (userId invoiceId orgId : Option Nat) :
    Meets engine assume .pool (reconnectContract walled contractId userId invoiceId orgId) db
      (Done contractId) := by
  refine meets_bind (meets_inTransaction (fun _ => done_error) ?_)
  refine (meets_reconnecting h hpaired hrestores walled userId invoiceId orgId).mono ?_
  rintro _ db' hdone reconnected rfl
  obtain ⟨c', r', hheld, hpaired'⟩ := hdone reconnected rfl
  dsimp only
  unfold afterReconnect
  split_ifs
  · cases reconnected.cleanup with
    | none => exact meets_pure fun _ _ => ⟨c', r', hheld, hpaired'⟩
    | some cleanup =>
      refine meets_swallowed ((meets_finalizeMarkedCleanup hheld _ _ _ _).mono ?_)
      rintro _ db'' ⟨c'', hheld', hstatus⟩ _ _
      exact ⟨c'', r', hheld', by unfold Paired; rw [hstatus]; exact hpaired'⟩
  · refine meets_bind (meets_statement done_error fun _ => meets_onlyIf (fun _ => ?_) fun _ _ _ =>
      ⟨c', r', hheld, hpaired'⟩)
    refine meets_bind (meets_statement done_error fun _ => ?_)
    exact meets_bind (meets_statement done_error fun _ => meets_pure fun _ _ =>
      ⟨c', r', hheld.write_logs _, hpaired'⟩)

theorem meets_routeContract (h : Held contractId c r db) (orgId : Nat)
    {A : Type} {next : Contract → Body A} {post : Except Failure A → Db → Prop}
    (herror : ∀ error, post (.error error) db)
    (hnext : c.organizationId = some orgId → Meets engine assume .pool (next c) db post) :
    Meets engine assume .pool (routeContract contractId orgId >>= next) db post := by
  refine meets_bind (meets_bind (meets_statement (herror _) fun _ => ?_))
  refine meets_orThrow (fun _ => herror _) fun contract hcontract => ?_
  have hmem := List.mem_filter.mp (List.mem_of_head? hcontract)
  simp only [Bool.and_eq_true, decide_eq_true_eq] at hmem
  obtain rfl := h.eq_contract hmem.1 hmem.2.1.1
  exact hnext hmem.2.1.2

theorem meets_updateStatus (h : Held contractId c r db) (orgId : Nat) (status : ContractStatus)
    {post : Except Failure Unit → Db → Prop} (herror : ∀ error db, post (.error error) db)
    (hset : ∀ {db'}, Held contractId { c with status := status } r db' → post (.ok ()) db') :
    Meets engine assume .pool (updateStatus contractId orgId status) db post := by
  refine meets_bind (meets_updateContracts (herror _ _) fun now => ?_)
  refine meets_refuseIf (fun _ => herror _ _) fun haffected => hset ?_
  exact h.set_matched (fun c hc => id_of_and (Bool.and_eq_true_iff.mp hc).1) status haffected

theorem meets_terminate (h : Held contractId c r db) (orgId : Nat) :
    Meets engine assume .pool (terminate contractId orgId) db (Done contractId) := by
  refine meets_routeContract h orgId (fun _ => done_error) fun _ => ?_
  refine meets_bind (meets_refuseIf (fun _ => done_error) fun _ => ?_)
  refine meets_bind (meets_updateStatus h orgId .terminated (fun _ _ => done_error) ?_)
  intro db' hheld
  refine meets_bind (meets_statement done_error fun _ => meets_pure fun _ _ => ?_)
  refine ⟨_, _, hheld.update_radius (settles_status _), paired_of_ne nofun ?_⟩
  rw [if_pos hheld.mem_account.2]
  exact nofun

theorem meets_putSuspended (h : Held contractId c r db) (hpaired : Paired c r)
    (orgId userId : Nat) :
    Meets engine assume .pool (putSuspended contractId orgId userId) db (Done contractId) := by
  refine meets_routeContract h orgId (fun _ => done_error) fun _ => ?_
  refine meets_bind (meets_updateStatus h orgId .suspended (fun _ _ => done_error) ?_)
  intro db' hheld
  refine meets_onlyIf (fun _ => ?_) fun hsuspended _ _ => ?_
  · refine meets_bind ((meets_suspendAccount hheld nofun).mono ?_)
    rintro (error | _) db'' hdone
    · exact done_error
    refine meets_bind ((meets_sendCoa contractId).mono ?_)
    rintro _ _ ⟨rfl, coa, rfl⟩
    exact meets_swallowed ((meets_insertLog (hdone () rfl) contractId _).mono
      fun _ _ hfollows _ _ => hfollows)
  · have hstatus : c.status = .suspended := by
      by_contra hne
      rw [decide_eq_true hne] at hsuspended
      cases hsuspended
    refine ⟨_, r, hheld, paired_of_ne nofun fun hactive => ?_⟩
    rw [hpaired.mp hactive] at hstatus
    cases hstatus

/-- A renewal finds the account of a PPPoE line in its organization. -/
def Restores (orgId : Option Nat) (c : Contract) (r : Radius) : Prop :=
  c.connectionType.isPppoe = true ∧
    (orgWhere (c.organizationId <|> orgId)).admits r.organizationId = true

theorem meets_renewalAccount (h : Held contractId c r db) {effectiveOrgId : Option Nat}
    (hadmits : (orgWhere effectiveOrgId).admits r.organizationId = true) :
    Meets engine assume .conn (renewalAccount contractId c effectiveOrgId) db fun returned db' =>
      db' = db ∧ ∀ account, returned = .ok account → account = r := by
  have hfound : (db.radius.filter fun r => r.livesOn contractId &&
      (orgWhere effectiveOrgId).admits r.organizationId) = [r] := by
    rw [← List.filter_filter, List.filter_comm, h.account, List.filter_cons, if_pos hadmits,
      List.filter_nil]
  have hread : ∀ tick, (engine.exec (.radius fun r => r.livesOn contractId &&
      (orgWhere effectiveOrgId).admits r.organizationId) tick db db).1 = [r] := fun _ => hfound
  refine meets_bind (meets_statement ⟨rfl, fun _ h => nomatch h⟩ fun tick => ?_)
  rw [hread tick]
  refine meets_bind (meets_refuseIf (fun _ => ⟨rfl, fun _ h => nomatch h⟩) fun _ => ?_)
  exact meets_pure ⟨rfl, fun _ h => (Except.ok.inj h).symm⟩

theorem meets_renewing (h : Held contractId c r db) {orgId : Option Nat}
    (hrestores : Restores orgId c r) :
    Meets engine assume .conn (renewing contractId orgId) db (Done contractId) := by
  refine meets_bind (meets_statement done_error fun _ => ?_)
  refine meets_bind (meets_orThrow (fun _ => done_error) fun locked hlocked => ?_)
  have hmem := List.mem_filter.mp (List.mem_of_head? hlocked)
  simp only [Bool.and_eq_true, decide_eq_true_eq] at hmem
  obtain rfl := h.eq_contract hmem.1 hmem.2.1.1
  refine meets_bind (meets_refuseIf (fun _ => done_error) fun _ => ?_)
  refine meets_bind (meets_refuseIf (fun _ => done_error) fun _ => ?_)
  refine meets_bind (meets_bind (meets_asked fun _ _ => meets_refuseIf (fun _ => done_error)
    fun _ => ?_))
  dsimp only
  rw [if_pos hrestores.1]
  refine meets_bind ((meets_renewalAccount h hrestores.2).mono ?_)
  rintro (error | account) _ ⟨rfl, haccount⟩
  · exact done_error
  obtain rfl := haccount account rfl
  refine meets_bind (meets_bind (meets_updateContracts done_error fun _ =>
    meets_refuseIf (fun _ => done_error) fun hrenewed => ?_))
  have hcount := Decidable.not_not.mp hrenewed
  have hheld := h.set_matched (fun c hc => by
    simp only [Bool.and_eq_true, decide_eq_true_eq] at hc
    exact hc.1.1.1.1) .active (hcount.trans_ne Nat.one_ne_zero)
  refine meets_bind (meets_statement done_error fun _ => ?_)
  refine meets_bind (meets_refuseIf (fun _ => done_error) fun _ => ?_)
  refine meets_statement done_error fun _ _ _ => ⟨_, _, hheld.update_radius (settles_status _), ?_⟩
  rw [if_pos]
  · exact ⟨fun _ => rfl, fun _ => rfl⟩
  · rw [decide_eq_true rfl, hrestores.2, h.mem_account.2]
    rfl

end FireIsp.Line
