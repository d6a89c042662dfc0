import FireIsp.Line.Follows

/-!
# Runs in which the account follows

Renewals and synchronisations of the line, and whole runs of calls: each call about the line needs
to find the account as the service expects it.
-/

namespace FireIsp.Line

open Txn Throwing Client
open Lifecycle (ContractStatus ConnectionType)

variable {assume : (query : Outside Stmt Query) → Outside.Answer Query.Answer query → Prop}
  {contractId : Nat} {c : Contract} {r : Radius} {db : Db}

theorem meets_renewPreviouslyActivated (h : Held contractId c r db) {orgId : Option Nat}
    (hrestores : Restores orgId c r) :
    Meets engine assume .pool (renewPreviouslyActivated contractId orgId) db (Done contractId) :=
  meets_inTransaction (fun _ => done_error)
    ((meets_renewing h hrestores).mono fun _ _ hdone value hvalue _ _ => hdone value hvalue)

theorem meets_resettingPppoe (h : Held contractId c r db) (orgId : Nat) :
    Meets engine assume .conn (resettingPppoe contractId c orgId) db
      fun returned db' => ∀ cleanup, returned = .ok cleanup → ∃ c' r',
        Held contractId c' r' db' ∧ c'.status = .pending ∧ r'.status = .inactive := by
  have herror : ∀ {error : Failure} {db' : Db}, ∀ cleanup : CleanupPreparation,
      Except.error error = .ok cleanup → ∃ c' r',
        Held contractId c' r' db' ∧ c'.status = .pending ∧ r'.status = .inactive :=
    fun _ h => nomatch h
  refine meets_bind (meets_statement herror fun _ => ?_)
  refine meets_bind (meets_orThrow (fun _ => herror) fun locked hlocked => ?_)
  refine meets_bind (meets_refuseIf (fun _ => herror) fun _ => ?_)
  refine meets_bind (meets_bind (meets_asked fun _ _ => meets_refuseIf (fun _ => herror)
    fun _ => ?_))
  refine meets_bind ((meets_prepareExternalCleanup h _ _).mono ?_)
  rintro (error | cleanup) db' hprepared
  · exact herror
  obtain ⟨c', r', hheld, -, hr'⟩ := hprepared cleanup rfl
  refine meets_bind (meets_updateContracts herror fun now => ?_)
  refine meets_bind (meets_refuseIf (fun _ => herror) fun hreset => meets_pure fun _ _ => ?_)
  have hcount := Decidable.not_not.mp hreset
  refine ⟨_, r', hheld.set_matched (fun c hc => ?_) .pending (hcount.trans_ne Nat.one_ne_zero),
    rfl, hr'⟩
  simp only [Bool.and_eq_true, decide_eq_true_eq] at hc
  exact hc.1.1.1.1

theorem meets_renewReset (h : Held contractId c r db) (hr : r.status ≠ .active) (orgId : Nat) :
    Meets engine assume .pool (renewReset contractId c orgId) db (Done contractId) := by
  unfold renewReset
  split_ifs
  · refine meets_bind (meets_inTransaction (fun _ => done_error)
      ((meets_resettingPppoe h orgId).mono ?_))
    rintro _ db' hreset cleanup rfl
    obtain ⟨c', r', hheld, hc', hr'⟩ := hreset cleanup rfl
    have hpaired : ∀ {c : Contract}, c.status = c'.status → Paired c r' := fun hstatus =>
      paired_of_ne (by rw [hstatus, hc']; intro h; cases h) (by rw [hr']; intro h; cases h)
    refine meets_onlyIf (fun _ => ?_) fun _ _ _ => ⟨c', r', hheld, hpaired rfl⟩
    refine meets_swallowed ((meets_finalizeMarkedCleanup hheld _ _ _ _).mono ?_)
    rintro _ db'' ⟨c'', hheld', hstatus⟩ _ _
    exact ⟨c'', r', hheld', hpaired hstatus⟩
  · refine meets_bind (meets_bind (meets_asked fun _ _ => meets_refuseIf (fun _ => done_error)
      fun _ => ?_))
    refine meets_bind (meets_updateContracts done_error fun now => ?_)
    refine meets_refuseIf (fun _ => done_error) fun hreset _ _ => ?_
    have hid : ∀ c : Contract, ({ c.unmarked with status := .pending } : Contract).id = c.id :=
      fun _ => rfl
    have hcount := Decidable.not_not.mp hreset
    refine ⟨_, r, h.update_matched (fun c hc => ?_) hid (hcount.trans_ne Nat.one_ne_zero),
      paired_of_ne (fun h => by cases h) hr⟩
    simp only [Bool.and_eq_true, decide_eq_true_eq] at hc
    exact hc.1.1.1.1

theorem meets_renew (h : Held contractId c r db) (hpaired : Paired c r) {orgId : Nat}
    (hrestores : c.firstActivatedAt.isSome → Restores (some orgId) c r) :
    Meets engine assume .pool (renew contractId orgId) db (Done contractId) := by
  refine meets_routeContract h orgId (fun _ => done_error) fun _ => ?_
  refine meets_bind (meets_refuseIf (fun _ => done_error) fun hrenewable => ?_)
  have hr : r.status ≠ .active := by
    intro hactive
    rw [hpaired.mp hactive] at hrenewable
    exact hrenewable (by decide)
  dsimp only
  split_ifs with hnever
  · exact meets_renewReset h hr orgId
  · refine meets_renewPreviouslyActivated h (hrestores ?_)
    rw [Option.isNone_iff_eq_none] at hnever
    exact Option.isSome_iff_ne_none.mpr hnever

theorem meets_syncAccount (h : Held contractId c r db) (hpaired : Paired c r) (id : Nat)
    (hclosed : id = contractId → ∀ first now, assume (.about (.first id)) first →
      assume (.about .now) now → (db.accounts id)[first % (db.accounts id).length]? = some r →
      c.testWindowOpen now = false) :
    Meets engine assume .pool (syncAccount id) db
      fun _ db' => ∃ r', Held contractId c r' db' ∧ Paired c r' := by
  have hsame : ∃ r', Held contractId c r' db ∧ Paired c r' := ⟨r, h, hpaired⟩
  have hread : ∀ tick, (engine.exec (.lines fun c => c.id = id) tick db db).1 =
      (db.contracts.filter fun c => c.id = id).map fun c => (c, db.accounts c.id) := fun _ => rfl
  refine meets_bind (meets_statement hsame fun tick => ?_)
  rw [hread tick]
  dsimp only
  cases hrow : ((db.contracts.filter fun c => c.id = id).map fun c =>
    (c, db.accounts c.id)).head? with
  | none => exact meets_pure hsame
  | some row =>
    obtain ⟨contract, hcontract, rfl⟩ := List.mem_map.mp (List.mem_of_head? hrow)
    obtain ⟨hmem, hid⟩ := List.mem_filter.mp hcontract
    obtain rfl := of_decide_eq_true hid
    refine meets_bind (meets_asked fun first hfirst => ?_)
    dsimp only
    cases hpicked : (db.accounts contract.id)[first % (db.accounts contract.id).length]? with
    | none => exact meets_pure hsame
    | some radius =>
      refine meets_bind (meets_asked fun now hnow => meets_onlyIf (fun _ => ?_) fun _ => hsame)
      refine meets_bind (meets_statement hsame fun _ => meets_pure ?_)
      refine ⟨_, h.update_radius (settles_status _), ?_⟩
      obtain ⟨haccount, howner⟩ := List.mem_filter.mp (List.mem_of_getElem? hpicked)
      split_ifs with hpick
      · have hsameid := List.inj_on_of_nodup_map h.keyed h.mem_account.1 haccount
          (of_decide_eq_true hpick)
        obtain rfl := hsameid
        have hlives := Bool.and_eq_true_iff.mp h.mem_account.2
        have heq : contract.id = contractId := Option.some.inj
          ((of_decide_eq_true howner).symm.trans (of_decide_eq_true hlives.1))
        obtain rfl := h.eq_contract hmem heq
        have hclose := hclosed heq first now hfirst hnow hpicked
        unfold Paired Contract.expectedStatus
        rw [hclose, Bool.or_false]
        by_cases hactive : contract.status = .active
        · rw [decide_eq_true hactive]
          exact ⟨fun _ => hactive, fun _ => rfl⟩
        · rw [decide_eq_false hactive]
          exact ⟨nofun, fun h => absurd h hactive⟩
      · exact hpaired

theorem meets_syncEach (h : Held contractId c r db) (hpaired : Paired c r) {ids : List Nat}
    (hpending : contractId ∈ ids → c.status ≠ .pending) :
    Meets engine assume .pool (syncEach ids) db fun _ db' => Follows contractId db' := by
  induction ids generalizing r db with
  | nil => exact meets_pure ⟨c, r, h, hpaired⟩
  | cons id ids ih =>
    refine meets_bind (meets_swallowed ((meets_syncAccount h hpaired id ?_).mono ?_))
    · rintro rfl first now - - -
      unfold Contract.testWindowOpen
      rw [decide_eq_false (hpending List.mem_cons_self)]
      rfl
    · rintro _ db' ⟨r', hheld, hpaired'⟩
      exact ih hheld hpaired' fun hmem => hpending (List.mem_cons_of_mem _ hmem)

theorem meets_syncAllAccounts (h : Held contractId c r db) (hpaired : Paired c r)
    (organizationId : Option Nat) :
    Meets engine assume .pool (syncAllAccounts organizationId) db (Done contractId) := by
  refine meets_bind (meets_statement done_error fun tick => ?_)
  refine (meets_syncEach h hpaired fun hmem hpending => ?_).mono fun _ _ hfollows _ _ => hfollows
  obtain ⟨⟨contract, accounts⟩, hrow, haccount⟩ := List.mem_flatMap.mp hmem
  obtain ⟨_, -, hid⟩ := List.mem_map.mp haccount
  obtain ⟨found, hfound, heq⟩ := List.mem_map.mp hrow
  obtain ⟨rfl, -⟩ := Prod.mk.inj heq
  obtain ⟨hcontract, hstatus⟩ := List.mem_filter.mp hfound
  obtain rfl := h.eq_contract hcontract hid
  rw [hpending] at hstatus
  cases hstatus

/-- A call finds its account as it expects it: suspended, restored, or not tested. -/
def Incoming.Finds (contractId : Nat) (db : Db) (c : Contract) (r : Radius)
    (incoming : Incoming) : Prop :=
  match incoming.call with
  | .reconnectContract id _ _ _ => id = contractId → c.status = .suspended →
      c.firstActivatedAt.isSome → r.status = .suspended
  | .renewPreviouslyActivated id orgId => id = contractId → Restores orgId c r
  | .renew id orgId => id = contractId → c.firstActivatedAt.isSome → Restores (some orgId) c r
  | .syncAccount id => id = contractId → ∀ t t' : Nat,
      (db.accounts id)[incoming.world t (.about (.first id)) % (db.accounts id).length]? = some r →
        c.testWindowOpen (incoming.world t' (.about .now)) = false
  | _ => True

variable (walled : String → Bool)

variable {incoming : Incoming}

theorem meets_call (h : Held contractId c r db) (hpaired : Paired c r)
    (hfinds : incoming.Finds contractId db c r) (hcall : incoming.call.contract = some contractId) :
    Meets engine assume .pool (incoming.call.body walled) db (Done contractId) := by
  obtain ⟨call, world⟩ := incoming
  cases call with
  | suspendContract id ruleId userId invoiceId =>
    obtain rfl := Option.some.inj hcall
    exact meets_suspendContract h hpaired ruleId userId invoiceId
  | reconnectContract id userId invoiceId orgId =>
    obtain rfl := Option.some.inj hcall
    exact meets_reconnectContract h hpaired (hfinds rfl) walled userId invoiceId orgId
  | syncAccount id => cases hcall
  | syncAllAccounts organizationId => cases hcall
  | terminate id orgId =>
    obtain rfl := Option.some.inj hcall
    exact meets_terminate h orgId
  | renewPreviouslyActivated id orgId =>
    obtain rfl := Option.some.inj hcall
    exact meets_renewPreviouslyActivated h (hfinds rfl)
  | renew id orgId =>
    obtain rfl := Option.some.inj hcall
    exact meets_renew h hpaired (hfinds rfl)
  | putSuspended id orgId userId =>
    obtain rfl := Option.some.inj hcall
    exact meets_putSuspended h hpaired orgId userId

theorem meets_sync (h : Held contractId c r db) (hpaired : Paired c r)
    (hfinds : incoming.Finds contractId db c r) (hcall : incoming.call.contract = none) :
    Meets engine (fun query answer => ∃ t, incoming.world t query = answer) .pool
      (incoming.call.body walled) db (Done contractId) := by
  obtain ⟨call, world⟩ := incoming
  cases call with
  | syncAccount id =>
    refine (meets_syncAccount h hpaired id ?_).mono ?_
    · rintro hid _ _ ⟨t, rfl⟩ ⟨t', rfl⟩ hpicked
      exact hfinds hid t t' hpicked
    · exact fun _ _ ⟨r', hheld', hpaired'⟩ _ _ => ⟨c, r', hheld', hpaired'⟩
  | syncAllAccounts organizationId => exact meets_syncAllAccounts h hpaired organizationId
  | _ => cases hcall

/-- A call completes, and finds the account of the line as it needs it. -/
def Service.Admits (contractId : Nat) (s : Service) (incoming : Incoming) : Prop :=
  s.Completes walled incoming ∧
    ∀ c r, Held contractId c r s.db → incoming.Finds contractId s.db c r

theorem Service.step_follows {s : Service} (h : Follows contractId s.db)
    (hadmits : s.Admits walled contractId incoming) :
    Follows contractId (s.step walled incoming).db := by
  obtain ⟨c, r, hheld, hpaired⟩ := h
  obtain ⟨hcompletes, hfinds⟩ := hadmits
  have hdone : Meets engine (fun query answer => ∃ t, incoming.world t query = answer) .pool
      (incoming.call.body walled) s.db (Done contractId) →
      Follows contractId (s.step walled incoming).db := by
    intro hmeets
    obtain ⟨-, hdone⟩ := meets_pool.mp hmeets incoming.world (fun t query => ⟨t, rfl⟩) s.tick
    exact hdone () hcompletes
  cases hcall : incoming.call.contract with
  | none => exact hdone (meets_sync walled hheld hpaired (hfinds c r hheld) hcall)
  | some id =>
    by_cases hid : id = contractId
    · exact hdone (meets_call walled hheld hpaired (hfinds c r hheld) (hid ▸ hcall))
    · have hstays : Held contractId c r (s.step walled incoming).db :=
        kept_of_uses (about_call walled hcall)
          (fun _ hop tick _ hheld => hheld.other hid hop tick) hheld incoming.world s.tick
      exact ⟨c, r, hstays, hpaired⟩

/-- Where calls complete and find their account, it is active iff the contract is. -/
theorem account_follows_contract {s : Service} (h : Held contractId c r s.db)
    (hc : c.status = .active) (hr : r.status = .active) {calls : List Incoming}
    (hrun : Transition.Along (Service.step walled) (Service.Admits walled contractId) s calls) :
    Transition.Along (Service.step walled)
      (fun s incoming => Follows contractId (s.step walled incoming).db) s calls := by
  have hfollows : Follows contractId s.db := ⟨c, r, h, fun _ => hc, fun _ => hr⟩
  clear h hc hr
  induction calls generalizing s with
  | nil => trivial
  | cons incoming calls ih =>
    have hstep := Service.step_follows walled hfollows hrun.1
    exact ⟨hstep, ih hrun.2 hstep⟩

def activeContract : Contract := ⟨1, some 1, .active, .pppoe, some 1, none, false, none, none⟩

def activeAccount : Radius := ⟨1, some 1, some 1, none, "ana", .active, none⟩

def activeLine : Service := ⟨10, ⟨[activeContract], [activeAccount], []⟩⟩

theorem activeLine_held : Held 1 activeContract activeAccount activeLine.db :=
  ⟨rfl, rfl, List.nodup_singleton 1⟩

/-- A call to which nothing fails. -/
def answered (call : Call) : Incoming where
  call := call
  world _ query := match query with
    | .raises _ => false
    | .fails _ => false
    | .about (.exempt _) => false
    | .about (.sandboxResumes _) => true
    | .about (.evidence _) => false
    | .about (.coa _) => none
    | .about (.nasDisabled _) => true
    | .about (.provisioned _) => none
    | .about (.first _) => (0 : Nat)
    | .about .now => (20 : Nat)

/-- A line is suspended and reconnected. -/
theorem account_follows_contract_sample :
    Transition.Along (Service.step fun _ => false)
      (fun s incoming => Follows 1 (s.step (fun _ => false) incoming).db) activeLine
      [answered (.suspendContract 1 none none none),
        answered (.reconnectContract 1 none none none)] := by
  refine account_follows_contract _ activeLine_held rfl rfl ⟨⟨rfl, fun _ _ _ => trivial⟩,
    ⟨rfl, fun c r hheld _ _ _ => ?_⟩, trivial⟩
  obtain rfl : ({ activeAccount with status := .suspended } : Radius) = r :=
    List.singleton_inj.mp hheld.account
  rfl

/-- A suspended line is synchronised before it is reconnected. -/
theorem account_follows_contract_fails :
    let calls := [answered (.suspendContract 1 none none none), answered (.syncAccount 1),
      answered (.reconnectContract 1 none none none)]
    Held 1 activeContract activeAccount activeLine.db ∧ activeContract.status = .active ∧
      activeAccount.status = .active ∧
      Transition.Along (Service.step fun _ => false) (Service.Completes fun _ => false)
        activeLine calls ∧
      ¬Transition.Along (Service.step fun _ => false)
        (fun s incoming => Follows 1 (s.step (fun _ => false) incoming).db) activeLine calls := by
  refine ⟨activeLine_held, rfl, rfl, ⟨rfl, rfl, rfl, trivial⟩, ?_⟩
  rintro ⟨-, -, ⟨c, r, hheld, hpaired⟩, -⟩
  obtain rfl : activeContract = c := List.singleton_inj.mp hheld.contract
  obtain rfl : ({ activeAccount with status := .inactive } : Radius) = r :=
    List.singleton_inj.mp hheld.account
  cases hpaired.mpr rfl

end FireIsp.Line
