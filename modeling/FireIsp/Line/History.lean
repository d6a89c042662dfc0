import FireIsp.Line.Synced

/-!
# The suspension history

`restored_at IS NULL` means that a line is still suspended.  A reconnection closes what is open; a
renewal leaves it as it is.
-/

namespace FireIsp.Line

open Txn Throwing Client
open Lifecycle (ContractStatus ConnectionType)

variable {assume : (query : Outside Stmt Query) → Outside.Answer Query.Answer query → Prop}
  {contractId : Nat} {db : Db} {via : Via} {walled : String → Bool}

/-- No suspension of the contract is open, but for its walled gardens. -/
def HistoryClosed (walled : String → Bool) (contractId : Nat) (db : Db) : Prop :=
  ∀ log ∈ db.logs, log.isOpenOther walled contractId = false

def ContractActive (contractId : Nat) (db : Db) : Prop :=
  ∃ c ∈ db.contracts, c.id = contractId ∧ c.status = .active

instance (walled : String → Bool) (contractId : Nat) (db : Db) :
    Decidable (HistoryClosed walled contractId db) :=
  inferInstanceAs (Decidable (∀ log ∈ db.logs, log.isOpenOther walled contractId = false))

/-- A statement that opens no suspension of the contract. -/
def Closing (walled : String → Bool) (contractId : Nat) : Stmt → Prop
  | .updateLogs _ set => ∀ now log, log.isOpenOther walled contractId = false →
      (set now log).isOpenOther walled contractId = false
  | .insertLog _ row => ∀ id now, (row id now).isOpenOther walled contractId = false
  | _ => True

theorem HistoryClosed.exec (h : HistoryClosed walled contractId db) {op : Stmt}
    (hop : Closing walled contractId op) (tick : Nat) :
    HistoryClosed walled contractId (engine.visible db (engine.exec op tick db db).2) := by
  have hupdated : ∀ matches_ set, HistoryClosed walled contractId
      (engine.visible db (db.updated matches_ set).2) := by
    intro matches_ set
    unfold Db.updated
    split_ifs
    · exact h
    · exact h
  cases op with
  | contracts matches_ => exact h
  | radius matches_ => exact h
  | logs matches_ => exact h
  | lines matches_ => exact h
  | updateContracts matches_ set => exact hupdated _ _
  | updateLines matches_ set => exact hupdated _ _
  | updateRadius matches_ set => exact h
  | updateAccounts matches_ set => exact h
  | updateLogs matches_ set =>
    intro log hlog
    obtain ⟨old, hold, rfl⟩ := List.mem_map.mp hlog
    split_ifs
    · exact hop tick old (h old hold)
    · exact h old hold
  | insertLog id row =>
    change HistoryClosed walled contractId
      (engine.visible db (if _ then _ else _ : Unit × List Db).2)
    split_ifs
    · intro log hlog
      rcases List.mem_append.mp hlog with hlog | hlog
      · exact h log hlog
      · obtain rfl := List.mem_singleton.mp hlog
        exact hop _ _
    · exact h
  | insertRadius row => exact h
  | otherwise => exact h

theorem closing_of_silent {op : Stmt} (h : Silent op) : Closing walled contractId op := by
  cases op with
  | updateLogs matches_ set => cases h
  | insertLog id row => cases h
  | _ => trivial

theorem inactive_exec (h : ¬ContractActive contractId db) {op : Stmt} (hid : Concerns contractId op)
    (hop : Idle op) (tick : Nat) :
    ¬ContractActive contractId (engine.visible db (engine.exec op tick db db).2) := by
  have hupdated : ∀ (matches_ : Contract → Bool) (set : Contract → Contract),
      (∀ c, (set c).id = c.id) → (∀ c, (set c).status = .active → c.status = .active) →
      ¬ContractActive contractId (engine.visible db (db.updated matches_ set).2) := by
    intro matches_ set hset hidle
    unfold Db.updated
    split_ifs
    · exact h
    · rintro ⟨c, hc, heq, hactive⟩
      obtain ⟨old, hold, rfl⟩ := List.mem_map.mp hc
      split_ifs at heq hactive
      · exact h ⟨old, hold, (hset old).symm.trans heq, hidle old hactive⟩
      · exact h ⟨old, hold, heq, hactive⟩
  cases op with
  | updateContracts matches_ set => exact hupdated _ _ (hid.2 tick) (hop tick)
  | updateLines matches_ set => exact hupdated _ _ hid.2 hop
  | insertLog id row =>
    change ¬ContractActive contractId (engine.visible db (if _ then _ else _ : Unit × List Db).2)
    split_ifs <;> exact h
  | _ => exact h

theorem inactive_of_quietly {A : Type} {p : Body A} (hp : Quietly contractId p)
    (h : ¬ContractActive contractId db)
    (world : Nat → (query : Outside Stmt Query) → Outside.Answer Query.Answer query) (tick : Nat) :
    ¬ContractActive contractId (alone engine world p.run tick db none).db :=
  kept_of_uses (I := fun db => ¬ContractActive contractId db) hp
    (fun _ hop tick _ h => inactive_exec h hop.1 hop.2.2 tick) h world tick

theorem meets_closeOpenSuspension (db : Db) :
    Meets engine assume .conn (closeOpenSuspensionAndGetStart walled contractId) db
      fun returned db' => ∀ value, returned = .ok value → HistoryClosed walled contractId db' := by
  have herror : ∀ {error : Failure} {db' : Db}, ∀ value : Option Nat,
      Except.error error = .ok value → HistoryClosed walled contractId db' := fun _ h => nomatch h
  refine meets_bind (meets_statement herror fun _ => meets_bind (meets_statement herror fun _ =>
    meets_pure fun _ _ log hlog => ?_))
  obtain ⟨old, -, rfl⟩ := List.mem_map.mp hlog
  split_ifs with hopen
  · unfold SuspensionLog.isOpenOther SuspensionLog.isOpen
    simp only [Option.isNone_some, Bool.and_false, Bool.false_and]
  · exact Bool.eq_false_of_not_eq_true hopen

theorem meets_preparation (orgId : Option Nat) (expected : Expected) (db : Db) :
    Meets engine assume .conn (prepareExternalCleanup contractId orgId expected) db
      fun _ _ => True := by
  refine meets_bind (meets_statement trivial fun _ => ?_)
  refine meets_bind (meets_orThrow (fun _ => trivial) fun contract _ => ?_)
  refine meets_bind (meets_refuseIf (fun _ => trivial) fun _ => ?_)
  refine meets_bind (meets_refuseIf (fun _ => trivial) fun _ => ?_)
  refine meets_bind (meets_refuseIf (fun _ => trivial) fun _ => ?_)
  refine meets_bind (meets_refuseIf (fun _ => trivial) fun _ => ?_)
  refine meets_bind (meets_statement trivial fun _ => ?_)
  have hrequired : ∀ {rows : List Radius} {copy : Db}, Meets engine assume .conn
      (requiresExternalCleanup contract rows) copy fun _ _ => True := by
    intro rows copy
    unfold requiresExternalCleanup
    dsimp only
    split_ifs
    · exact meets_pure trivial
    · exact meets_asked fun _ _ => trivial
  refine meets_bind (hrequired.mono ?_)
  rintro (error | cleanupRequired) copy -
  · trivial
  refine meets_bind (meets_updateContracts trivial fun _ => ?_)
  refine meets_bind (meets_onlyIf (fun _ => ?_) fun _ => meets_pure trivial)
  exact meets_bind (meets_statement trivial fun _ => meets_statement trivial fun _ =>
    meets_pure trivial)

theorem meets_restoration (orgId : Option Nat) (locked : Option Contract) (reactivated : Nat)
    (db : Db) :
    Meets engine assume .conn (restoreOrReset contractId orgId locked reactivated) db
      fun _ _ => True := by
  unfold restoreOrReset
  split_ifs
  · exact meets_bind (meets_statement trivial fun _ => meets_pure trivial)
  cases locked with
  | none => exact meets_throw trivial
  | some locked =>
    unfold resetSuspended
    dsimp only
    split_ifs
    · refine meets_bind ((meets_preparation orgId _ db).mono ?_)
      rintro (error | cleanup) copy -
      · trivial
      exact meets_bind (meets_updateContracts trivial fun _ =>
        meets_bind (meets_refuseIf (fun _ => trivial) fun _ => meets_pure trivial))
    · exact meets_bind (meets_updateContracts trivial fun _ =>
        meets_bind (meets_refuseIf (fun _ => trivial) fun _ => meets_pure trivial))
    · exact meets_bind (meets_refuseIf (fun _ => trivial) fun _ => meets_pure trivial)

theorem meets_reconnecting_closed (userId invoiceId orgId : Option Nat) (db : Db) :
    Meets engine assume .conn (reconnecting walled contractId userId invoiceId orgId) db
      fun returned db' => ∀ value, returned = .ok value → HistoryClosed walled contractId db' := by
  have herror : ∀ {error : Failure} {db' : Db}, ∀ value : Reconnected,
      Except.error error = .ok value → HistoryClosed walled contractId db' := fun _ h => nomatch h
  refine meets_bind (meets_statement herror fun _ => ?_)
  have hsandbox : ∀ {condition : Bool} {db : Db}, Meets engine assume .conn
      (onlyIf condition (assertSandboxContractCanResume contractId)) db fun _ _ => True :=
    meets_onlyIf (fun _ => meets_bind (meets_asked fun _ _ =>
      meets_refuseIf (fun _ => trivial) fun _ => trivial)) fun _ => trivial
  refine meets_bind (hsandbox.mono ?_)
  rintro (error | _) db₁ -
  · exact herror
  refine meets_bind (meets_updateContracts herror fun now => ?_)
  refine meets_bind ((meets_restoration orgId _ _ _).mono ?_)
  rintro (error | reconnected) db₂ -
  · exact herror
  have hcoa : Meets engine assume .conn (reconnectCoa contractId reconnected.activationRequired) db₂
      fun _ _ => True := by
    unfold reconnectCoa
    split_ifs
    · exact meets_pure trivial
    · exact (meets_sendCoa _).mono fun _ _ _ => trivial
  refine meets_bind (hcoa.mono ?_)
  rintro (error | coa) db₃ -
  · exact herror
  refine meets_bind ((meets_closeOpenSuspension db₃).mono ?_)
  rintro (error | suspendedAt) db₄ hclosed
  · exact herror
  refine meets_bind (meets_asked fun restoredAt _ => ?_)
  refine meets_bind (meets_statement herror fun tick => meets_pure fun _ _ => ?_)
  refine (hclosed _ rfl).exec ?_ tick
  intro id now
  unfold SuspensionLog.isOpenOther SuspensionLog.isOpen Event.unsuspended
  simp only [reduceCtorEq, decide_false, Bool.and_false, Bool.false_and]

theorem closing_afterReconnect (orgId : Option Nat) (reconnected : Reconnected) :
    (afterReconnect walled contractId orgId reconnected).run.Uses (Closing walled contractId) := by
  unfold afterReconnect
  split_ifs
  · cases reconnected.cleanup with
    | none => trivial
    | some cleanup =>
      exact uses_swallowed (Prog.Uses.mono (fun _ h => closing_of_silent h.2.1)
        (quietly_finalizeMarkedCleanup _ _ _))
  · refine uses_bind (uses_statement trivial) fun open_ => uses_onlyIf ?_
    refine uses_bind (uses_statement fun now log _ => ?_) fun _ =>
      uses_bind (uses_statement trivial) fun _ => trivial
    unfold SuspensionLog.isOpenOther SuspensionLog.isOpen
    simp only [Option.isNone_some, Bool.and_false, Bool.false_and]

theorem always_reconnectContract (userId invoiceId orgId : Option Nat) :
    Always engine assume (reconnectContract walled contractId userId invoiceId orgId).run db none
      fun _ db' _ => db' = db ∨ HistoryClosed walled contractId db' := by
  have hcommitted : Meets engine assume .pool
      (inTransaction (reconnecting walled contractId userId invoiceId orgId)) db
      fun returned db' => match returned with
        | .ok _ => HistoryClosed walled contractId db'
        | .error _ => db' = db :=
    meets_inTransaction (fun _ => rfl) (meets_reconnecting_closed userId invoiceId orgId db)
  refine Client.always_bind ((meets_pool.mp hcommitted).mono ?_)
  rintro (error | reconnected) db' _ ⟨rfl, hclosed⟩
  · exact .inl hclosed
  · have hstart : HistoryClosed walled contractId db' := hclosed
    exact fun world _ tick => .inr (kept_of_uses (closing_afterReconnect orgId reconnected)
      (fun _ hop tick _ h => h.exec hop tick) hstart world tick)

theorem always_renew (hkeyed : (db.contracts.map Contract.id).Nodup)
    (hclosed : ∀ c ∈ db.contracts, c.id = contractId → c.firstActivatedAt.isSome →
      HistoryClosed walled contractId db) (orgId : Nat) :
    Always engine assume (renew contractId orgId).run db none fun _ db' _ =>
      db' = db ∨ ¬ContractActive contractId db' ∨ HistoryClosed walled contractId db' := by
  have hroute : Meets engine assume .pool (routeContract contractId orgId) db
      fun returned db' => db' = db ∧ ∀ contract, returned = .ok contract →
        contract ∈ db.contracts ∧ contract.id = contractId := by
    refine meets_bind (meets_statement ⟨rfl, fun _ h => nomatch h⟩ fun _ => ?_)
    refine meets_orThrow (fun _ => ⟨rfl, fun _ h => nomatch h⟩) fun contract hcontract =>
      ⟨rfl, fun value hvalue => ?_⟩
    obtain rfl := Except.ok.inj hvalue
    obtain ⟨hmem, hmatches⟩ := List.mem_filter.mp (List.mem_of_head? hcontract)
    exact ⟨hmem, id_of_and ((Bool.and_assoc _ _ _).symm.trans hmatches)⟩
  refine Client.always_bind ((meets_pool.mp hroute).mono ?_)
  rintro (error | contract) db' _ ⟨rfl, rfl, hfound⟩
  · exact .inl rfl
  obtain ⟨hmem, hid⟩ := hfound contract rfl
  have hcheck : Meets engine assume .pool (refuseWith (contract.status ∉ renewableStatuses)
      "Cannot renew a contract with this status") db' fun returned db => db = db' ∧
        ∀ value, returned = .ok value → contract.status ∈ renewableStatuses :=
    meets_refuseIf (fun _ => ⟨rfl, fun _ h => nomatch h⟩) fun h =>
      ⟨rfl, fun _ _ => Decidable.not_not.mp h⟩
  refine Client.always_bind ((meets_pool.mp hcheck).mono ?_)
  rintro (error | _) db _ ⟨rfl, rfl, hrenewable⟩
  · exact .inl rfl
  dsimp only
  split_ifs with hnever
  · have hinactive : ¬ContractActive contractId db := by
      rintro ⟨c, hc, heq, hactive⟩
      obtain rfl := List.inj_on_of_nodup_map hkeyed hc hmem (heq.trans hid.symm)
      have hstatus := hrenewable () rfl
      rw [hactive] at hstatus
      exact absurd hstatus (by decide)
    exact fun world _ tick => .inr (.inl
      (inactive_of_quietly (quietly_renewReset contract orgId) hinactive world tick))
  · have hfirst : contract.firstActivatedAt.isSome :=
      Option.isSome_iff_ne_none.mpr fun hnone => hnever (hnone ▸ rfl)
    exact fun world _ tick => .inr (.inr (kept_of_uses (silent_renewPreviouslyActivated _)
      (fun _ hop tick _ h => h.exec (closing_of_silent hop.2) tick)
      (hclosed contract hmem hid hfirst) world tick))

variable (walled)

/-- A reactivation that commits an active contract leaves no suspension open. -/
def Service.ClosesHistory (contractId : Nat) (s : Service) (incoming : Incoming) : Prop :=
  ((∃ userId invoiceId orgId, incoming.call = .reconnectContract contractId userId invoiceId orgId) ∨
    ∃ orgId, incoming.call = .renew contractId orgId) →
  (s.step walled incoming).db ≠ s.db → ContractActive contractId (s.step walled incoming).db →
    HistoryClosed walled contractId (s.step walled incoming).db

/-- No contract that was activated is renewed while a suspension of it is open. -/
def Service.RenewsClosed (contractId : Nat) (s : Service) (incoming : Incoming) : Prop :=
  (∃ orgId, incoming.call = .renew contractId orgId) → ∀ c ∈ s.db.contracts, c.id = contractId →
    c.firstActivatedAt.isSome → HistoryClosed walled contractId s.db

/-- Contracts have ids of their own. -/
def Keyed (db : Db) : Prop := (db.contracts.map Contract.id).Nodup

variable {walled}

def KeepsIds : Stmt → Prop
  | .updateContracts _ set => ∀ now c, (set now c).id = c.id
  | .updateLines _ set => ∀ c, (set c).id = c.id
  | _ => True

theorem Keyed.exec (h : Keyed db) {op : Stmt} (hop : KeepsIds op) (tick : Nat) :
    Keyed (engine.visible db (engine.exec op tick db db).2) := by
  have hupdated : ∀ (matches_ : Contract → Bool) (set : Contract → Contract),
      (∀ c, (set c).id = c.id) → Keyed (engine.visible db (db.updated matches_ set).2) := by
    intro matches_ set hset
    unfold Db.updated
    split_ifs
    · exact h
    · have hids : (update matches_ set db.contracts).map Contract.id =
          db.contracts.map Contract.id := by
        unfold update
        rw [List.map_map]
        refine List.map_congr_left fun c _ => ?_
        change (if matches_ c then set c else c).id = c.id
        split_ifs
        · exact hset c
        · rfl
      change ((update matches_ set db.contracts).map Contract.id).Nodup
      rw [hids]
      exact h
  cases op with
  | updateContracts matches_ set => exact hupdated _ _ (hop tick)
  | updateLines matches_ set => exact hupdated _ _ hop
  | insertLog id row =>
    change Keyed (engine.visible db (if _ then _ else _ : Unit × List Db).2)
    split_ifs <;> exact h
  | _ => exact h

theorem keepsIds_call (walled : String → Bool) (call : Call) :
    (call.body walled).run.Uses KeepsIds := by
  have hconcerns : ∀ id op, Concerns id op → KeepsIds op := by
    intro id op hop
    cases op with
    | updateContracts matches_ set => exact hop.2
    | updateLines matches_ set => exact hop.2
    | _ => trivial
  have hsync : ∀ id, (syncAccount id).run.Uses KeepsIds := by
    intro id
    refine uses_bind (uses_statement trivial) fun rows => ?_
    cases rows.head? with
    | none => trivial
    | some row =>
      obtain ⟨contract, accounts⟩ := row
      refine uses_bind (uses_asked _) fun first => ?_
      cases accounts[first % accounts.length]? with
      | none => trivial
      | some radius =>
        exact uses_bind (uses_asked _) fun now => uses_onlyIf
          (uses_bind (uses_statement trivial) fun _ => trivial)
  cases hcall : call.contract with
  | some id => exact Prog.Uses.mono (hconcerns id) (about_call walled hcall)
  | none =>
    cases call with
    | syncAccount id => exact hsync id
    | syncAllAccounts organizationId =>
      refine uses_bind (uses_statement trivial) fun rows => ?_
      induction rows.flatMap fun row => row.2.map fun _ => row.1.id with
      | nil => trivial
      | cons id ids ih => exact uses_bind (uses_swallowed (hsync id)) fun _ => ih
    | _ => cases hcall

/-- Without renewals over open suspensions, what is reactivated has none left open. -/
theorem reactivation_closes_history {s : Service} (h : Keyed s.db) {calls : List Incoming}
    (hrun : Transition.Along (Service.step walled) (Service.RenewsClosed walled contractId) s
      calls) :
    Transition.Along (Service.step walled) (Service.ClosesHistory walled contractId) s calls := by
  induction calls generalizing s with
  | nil => trivial
  | cons incoming calls ih =>
    refine ⟨?_, ih (kept_of_uses (keepsIds_call walled incoming.call)
      (fun _ hop tick _ h => h.exec hop tick) h incoming.world s.tick) hrun.2⟩
    obtain ⟨call, world⟩ := incoming
    rintro (⟨userId, invoiceId, orgId, rfl⟩ | ⟨orgId, rfl⟩) hcommits hactive
    · have halways : Always engine (fun _ _ => True)
          (reconnectContract walled contractId userId invoiceId orgId).run s.db none
          fun _ db' _ => db' = s.db ∨ HistoryClosed walled contractId db' :=
        always_reconnectContract userId invoiceId orgId
      exact (halways world (fun _ _ => trivial) s.tick).resolve_left hcommits
    · have halways : Always engine (fun _ _ => True) (renew contractId orgId).run s.db none
          fun _ db' _ => db' = s.db ∨ ¬ContractActive contractId db' ∨
            HistoryClosed walled contractId db' :=
        always_renew h (hrun.1 ⟨orgId, rfl⟩) orgId
      exact ((halways world (fun _ _ => trivial) s.tick).resolve_left hcommits).resolve_left
        fun hnot => hnot hactive

/-- A line is suspended and reconnected, terminated and renewed. -/
theorem reactivation_closes_history_sample :
    Transition.Along (Service.step fun _ => false) (Service.ClosesHistory (fun _ => false) 1)
      activeLine [answered (.suspendContract 1 none none none),
        answered (.reconnectContract 1 none none none), answered (.terminate 1 1),
        answered (.renew 1 1)] := by
  have hkeyed : Keyed activeLine.db := List.nodup_singleton 1
  refine reactivation_closes_history hkeyed ⟨?_, ?_, ?_, fun _ _ _ _ _ => ?_, trivial⟩
  · rintro ⟨orgId, hcall⟩
    cases hcall
  · rintro ⟨orgId, hcall⟩
    cases hcall
  · rintro ⟨orgId, hcall⟩
    cases hcall
  · decide

theorem reactivation_closes_history_fails :
    let calls := [answered (.suspendContract 1 none none none), answered (.renew 1 1)]
    Keyed activeLine.db ∧ HistoryClosed (fun _ => false) 1 activeLine.db ∧
      ¬Transition.Along (Service.step fun _ => false) (Service.ClosesHistory (fun _ => false) 1)
        activeLine calls := by
  refine ⟨List.nodup_singleton 1, fun event hevent => (by cases hevent), ?_⟩
  rintro ⟨-, hcloses, -⟩
  have hclosed := hcloses (.inr ⟨1, rfl⟩) ?_ ⟨_, .head _, rfl, rfl⟩
  · revert hclosed
    decide
  · intro hsame
    have hstatus : [ContractStatus.active] = [ContractStatus.suspended] :=
      congrArg (fun db : Db => db.contracts.map Contract.status) hsame
    cases hstatus

end FireIsp.Line
