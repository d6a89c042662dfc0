import FireIsp.Line.Held

/-!
# What a call is about

Every statement a call sends concerns its own contract, but for the synchronisation of accounts,
which names an account by its id.
-/

namespace FireIsp.Line

open Txn Throwing Client
open Lifecycle (ContractStatus ConnectionType)

/-- All statements of a part concern a contract. -/
abbrev About {A : Type} (contractId : Nat) (p : Body A) : Prop := p.run.Uses (Concerns contractId)

variable {contractId : Nat}

theorem id_of_and {id other : Nat} {rest : Bool} (h : (decide (id = other) && rest) = true) :
    id = other := of_decide_eq_true (Bool.and_eq_true_iff.mp h).1

/-- No log is written. -/
def Silent : Stmt → Prop
  | .updateLogs .. => False
  | .insertLog .. => False
  | _ => True

def Idle : Stmt → Prop
  | .updateContracts _ set => ∀ now c, (set now c).status = .active → c.status = .active
  | .updateLines _ set => ∀ c, (set c).status = .active → c.status = .active
  | _ => True

/-- All statements of a part concern a contract, write no log and leave it inactive. -/
abbrev Quietly {A : Type} (contractId : Nat) (p : Body A) : Prop :=
  p.run.Uses fun op => Concerns contractId op ∧ Silent op ∧ Idle op

variable {allowed : Stmt → Prop}

theorem uses_onlyIf {condition : Bool} {part : Body Unit} (h : part.run.Uses allowed) :
    (onlyIf condition part).run.Uses allowed := by
  unfold onlyIf
  split_ifs
  · exact h
  · trivial

theorem uses_updateContracts {via : Via} {matches_ : Nat → Contract → Bool}
    {set : Nat → Contract → Contract} (h : allowed (.updateContracts matches_ set)) :
    (updateContracts via matches_ set).run.Uses allowed :=
  uses_bind (uses_statement h) fun _ => uses_orThrow

theorem about_updateContracts {via : Via} {matches_ : Nat → Contract → Bool}
    {set : Nat → Contract → Contract}
    (h : ∀ now c, matches_ now c = true → c.id = contractId) (hset : ∀ now c, (set now c).id = c.id) :
    About contractId (updateContracts via matches_ set) := uses_updateContracts ⟨h, hset⟩

theorem quietly_prepareExternalCleanup (orgId : Option Nat) (expected : Expected) :
    Quietly contractId (prepareExternalCleanup contractId orgId expected) := by
  refine uses_bind (uses_statement ⟨trivial, trivial, trivial⟩) fun found =>
    uses_bind uses_orThrow fun contract => ?_
  refine uses_bind uses_refuseIf fun _ => uses_bind uses_refuseIf fun _ =>
    uses_bind uses_refuseIf fun _ => uses_bind uses_refuseIf fun _ => ?_
  refine uses_bind (uses_statement ⟨trivial, trivial, trivial⟩) fun radius =>
    uses_bind ?_ fun cleanupRequired => ?_
  · unfold requiresExternalCleanup
    dsimp only
    split_ifs
    · trivial
    · exact uses_asked _
  · have hset : ∀ c : Contract, (if cleanupRequired then c.marked none else c.unmarked).id = c.id ∧
        (if cleanupRequired then c.marked none else c.unmarked).status = c.status := by
      intro c
      split_ifs <;> exact ⟨rfl, rfl⟩
    refine uses_bind (uses_updateContracts ⟨⟨fun _ c hc => ?_, fun _ c => (hset c).1⟩, trivial,
      fun _ c h => (hset c).2.symm.trans h⟩) fun _ => ?_
    · exact id_of_and (Bool.and_eq_true_iff.mp hc).1
    · refine uses_bind (uses_onlyIf ?_) fun _ => trivial
      exact uses_bind (uses_statement ⟨⟨fun _ h => h, settles_status _⟩, trivial, trivial⟩)
        fun _ => uses_statement ⟨trivial, trivial, trivial⟩

theorem quietly_finalizeMarkedCleanup (orgId : Option Nat) (radius : List Radius)
    (retainMarker : Bool) :
    Quietly contractId (finalizeMarkedCleanup contractId orgId radius retainMarker) := by
  have hnas : ∀ accounts, Quietly contractId (disableNasBestEffort accounts) := by
    intro accounts
    induction accounts with
    | nil => trivial
    | cons radius accounts ih =>
      refine uses_bind ?_ fun _ => uses_bind ih fun _ => trivial
      unfold disableOneNasBestEffort
      cases radius.nasId with
      | none => trivial
      | some nasId => exact uses_bind (uses_asked _) fun _ => trivial
  have hdisconnect : Quietly contractId (disconnectBestEffort contractId) := by
    refine uses_bind (uses_attempted (uses_bind (uses_asked _) fun result => ?_)) fun tried => ?_
    · cases result with
      | none => trivial
      | some result =>
        dsimp only
        split_ifs
        · trivial
        · exact uses_bind (uses_statement ⟨trivial, trivial, trivial⟩) fun _ => trivial
        · trivial
    · cases tried <;> trivial
  refine uses_bind (uses_bind (uses_statement ⟨trivial, trivial, trivial⟩) fun _ => trivial)
    fun state => ?_
  refine uses_bind (hnas _) fun nas => uses_bind hdisconnect fun confirmed => ?_
  unfold settleMarker
  split_ifs
  · refine uses_bind (uses_updateContracts ⟨⟨fun _ c hc => ?_, fun _ c => rfl⟩, trivial,
      fun _ _ h => h⟩) fun _ => trivial
    exact id_of_and (Bool.and_eq_true_iff.mp hc).1
  · refine uses_onlyIf (uses_bind (uses_bind (uses_bind (uses_statement
      ⟨⟨fun c accounts hc => ?_, fun c => rfl⟩, trivial, fun _ h => h⟩) fun _ => uses_orThrow)
      fun _ => trivial) fun _ => trivial)
    simp only [Bool.and_eq_true, decide_eq_true_eq] at hc
    exact hc.1.1.1.1.1

theorem about_of_quietly {A : Type} {p : Body A} (h : Quietly contractId p) : About contractId p :=
  Prog.Uses.mono (fun _ => And.left) h

theorem about_suspendAccount (via : Via) : About contractId (suspendAccount via contractId) :=
  uses_bind (uses_statement ⟨fun _ hr => (Bool.and_eq_true_iff.mp hr).1, settles_status _⟩)
    fun _ => trivial

theorem about_deactivateAccount (via : Via) : About contractId (deactivateAccount via contractId) :=
  uses_bind (uses_statement ⟨fun _ hr => hr, settles_status _⟩) fun _ => trivial

theorem about_sendCoa (id : Nat) : About contractId (sendCoa id) :=
  uses_bind (uses_asked _) fun result => by cases result <;> trivial

theorem about_logSuspension (via : Via) {event : Event} (h : event.contractId = contractId) :
    About contractId (logSuspension via event) :=
  uses_statement ⟨h, fun _ _ => h⟩

theorem about_suspendContract (ruleId userId invoiceId : Option Nat) :
    About contractId (suspendContract contractId ruleId userId invoiceId) := by
  refine uses_bind (uses_asked _) fun exempt => uses_onlyIf (uses_inTransaction ?_)
  refine uses_bind (about_updateContracts (fun _ c hc => of_decide_eq_true hc) fun _ _ => rfl)
    fun _ => uses_bind (about_suspendAccount _) fun _ => uses_bind (about_sendCoa _) fun coa => ?_
  exact about_logSuspension _ rfl

theorem uses_assertSandbox (id : Nat) :
    (assertSandboxContractCanResume id).run.Uses allowed :=
  uses_bind (uses_asked _) fun _ => uses_refuseIf

theorem about_resetSuspended (orgId : Option Nat) (locked : Option Contract) :
    About contractId (resetSuspended contractId orgId locked) := by
  cases locked with
  | none => trivial
  | some locked =>
    unfold resetSuspended
    dsimp only
    split_ifs
    · refine uses_bind (about_of_quietly (quietly_prepareExternalCleanup _ _)) fun cleanup =>
        uses_bind (about_updateContracts (fun _ c hc => ?_) fun _ _ => rfl) fun _ =>
          uses_bind uses_refuseIf fun _ => trivial
      simp only [Bool.and_eq_true, decide_eq_true_eq] at hc
      exact hc.1.1.1.1
    · refine uses_bind (about_updateContracts (fun _ c hc => ?_) fun _ _ => rfl) fun _ =>
        uses_bind uses_refuseIf fun _ => trivial
      simp only [Bool.and_eq_true, decide_eq_true_eq] at hc
      exact hc.1.1.1.1.1
    · exact uses_bind uses_refuseIf fun _ => trivial

theorem about_reconnectContract (walled : String → Bool) (userId invoiceId orgId : Option Nat) :
    About contractId (reconnectContract walled contractId userId invoiceId orgId) := by
  have hlog : ∀ log : SuspensionLog, log.isOpen contractId = true → log.contractId = contractId := by
    intro log hlog
    unfold SuspensionLog.isOpen at hlog
    simp only [Bool.and_eq_true, decide_eq_true_eq] at hlog
    exact hlog.1.1
  refine uses_bind (uses_inTransaction ?_) fun reconnected => ?_
  · refine uses_bind (uses_statement trivial) fun lockedStates =>
      uses_bind (uses_onlyIf (uses_assertSandbox _)) fun _ =>
        uses_bind (about_updateContracts (fun _ c hc => ?_) fun _ _ => rfl) fun reactivated => ?_
    · simp only [Bool.and_eq_true, decide_eq_true_eq] at hc
      exact hc.1.1.1.1
    refine uses_bind ?_ fun reconnected => uses_bind ?_ fun coa => uses_bind ?_ fun suspendedAt =>
      uses_bind (uses_asked _) fun restoredAt =>
        uses_bind (uses_statement ⟨rfl, fun _ _ => rfl⟩) fun _ => trivial
    · unfold restoreOrReset
      split_ifs
      · exact uses_bind (uses_statement ⟨fun _ hr => (Bool.and_eq_true_iff.mp hr).1,
          settles_status _⟩) fun _ => trivial
      · exact about_resetSuspended orgId _
    · unfold reconnectCoa
      split_ifs
      · trivial
      · exact about_sendCoa _
    · exact uses_bind (uses_statement trivial) fun _ => uses_bind (uses_statement
        ⟨fun log h => hlog log (Bool.and_eq_true_iff.mp h).1, fun _ _ => rfl⟩) fun _ => trivial
  · unfold afterReconnect
    split_ifs
    · cases reconnected.cleanup with
      | none => trivial
      | some cleanup => exact uses_swallowed (about_of_quietly (quietly_finalizeMarkedCleanup _ _ _))
    · refine uses_bind (uses_statement trivial) fun open_ => uses_onlyIf ?_
      exact uses_bind (uses_statement ⟨fun log h => hlog log (Bool.and_eq_true_iff.mp h).1,
        fun _ _ => rfl⟩) fun _ => uses_bind (uses_statement trivial) fun _ => trivial

theorem silent_renewPreviouslyActivated (orgId : Option Nat) :
    (renewPreviouslyActivated contractId orgId).run.Uses
      fun op => Concerns contractId op ∧ Silent op := by
  have hrenew : ∀ locked, (renewContract contractId locked orgId).run.Uses
      fun op => Concerns contractId op ∧ Silent op := by
    intro locked
    refine uses_bind (uses_updateContracts ⟨⟨fun _ c hc => ?_, fun _ _ => rfl⟩, trivial⟩)
      fun _ => uses_refuseIf
    simp only [Bool.and_eq_true, decide_eq_true_eq] at hc
    exact hc.1.1.1.1
  refine uses_inTransaction ?_
  refine uses_bind (uses_statement ⟨trivial, trivial⟩) fun contracts =>
    uses_bind uses_orThrow fun locked => uses_bind uses_refuseIf fun _ =>
      uses_bind uses_refuseIf fun _ => uses_bind (uses_assertSandbox _) fun _ => ?_
  dsimp only
  split_ifs
  · refine uses_bind ?_ fun radius => uses_bind (hrenew locked) fun _ => ?_
    · refine uses_bind (uses_statement ⟨trivial, trivial⟩) fun rows =>
        uses_bind uses_refuseIf fun _ => ?_
      cases rows.head? with
      | some radius => trivial
      | none =>
        exact uses_bind (uses_asked _) fun _ => uses_bind uses_orThrow fun _ =>
          uses_bind (uses_statement ⟨fun _ => ⟨rfl, rfl⟩, trivial⟩) fun _ => trivial
    · refine uses_bind (uses_statement ⟨⟨fun r hr => (Bool.and_eq_true_iff.mp hr).2,
        settles_status _⟩, trivial⟩) fun _ => uses_bind uses_refuseIf fun _ =>
          uses_statement ⟨trivial, trivial⟩
  · exact hrenew locked

theorem quietly_renewReset (contract : Contract) (orgId : Nat) :
    Quietly contractId (renewReset contractId contract orgId) := by
  unfold renewReset
  split_ifs
  · refine uses_bind (uses_inTransaction ?_) fun cleanup =>
      uses_onlyIf (uses_swallowed (quietly_finalizeMarkedCleanup _ _ _))
    refine uses_bind (uses_statement ⟨trivial, trivial, trivial⟩) fun rows =>
      uses_bind uses_orThrow fun locked => uses_bind uses_refuseIf fun _ =>
        uses_bind (uses_assertSandbox _) fun _ =>
          uses_bind (quietly_prepareExternalCleanup _ _) fun cleanup =>
            uses_bind (uses_updateContracts ⟨⟨fun _ c hc => ?_, fun _ _ => rfl⟩, trivial,
              fun _ _ h => nomatch h⟩) fun _ => uses_bind uses_refuseIf fun _ => trivial
    simp only [Bool.and_eq_true, decide_eq_true_eq] at hc
    exact hc.1.1.1.1
  · refine uses_bind (uses_assertSandbox _) fun _ =>
      uses_bind (uses_updateContracts ⟨⟨fun _ c hc => ?_, fun _ _ => rfl⟩, trivial,
        fun _ _ h => nomatch h⟩) fun _ => uses_refuseIf
    simp only [Bool.and_eq_true, decide_eq_true_eq] at hc
    exact hc.1.1.1.1

theorem about_renew (orgId : Nat) : About contractId (renew contractId orgId) := by
  refine uses_bind (uses_bind (uses_statement trivial) fun _ => uses_orThrow) fun contract =>
    uses_bind uses_refuseIf fun _ => ?_
  split_ifs
  · exact about_of_quietly (quietly_renewReset _ _)
  · exact Prog.Uses.mono (fun _ => And.left) (silent_renewPreviouslyActivated _)

theorem about_updateStatus (orgId : Nat) (status : ContractStatus) :
    About contractId (updateStatus contractId orgId status) := by
  refine uses_bind (about_updateContracts (fun _ c hc => ?_) fun _ _ => rfl) fun _ => uses_refuseIf
  exact id_of_and (Bool.and_eq_true_iff.mp hc).1

theorem about_terminate (orgId : Nat) : About contractId (terminate contractId orgId) :=
  uses_bind (uses_bind (uses_statement trivial) fun _ => uses_orThrow) fun _ =>
    uses_bind uses_refuseIf fun _ => uses_bind (about_updateStatus _ _) fun _ =>
      about_deactivateAccount _

theorem about_putSuspended (orgId userId : Nat) :
    About contractId (putSuspended contractId orgId userId) :=
  uses_bind (uses_bind (uses_statement trivial) fun _ => uses_orThrow) fun _ =>
    uses_bind (about_updateStatus _ _) fun _ => uses_onlyIf
      (uses_bind (about_suspendAccount _) fun _ => uses_bind (about_sendCoa _) fun _ =>
        uses_swallowed (about_logSuspension _ rfl))

/-- The contract a call is about; synchronisations name accounts. -/
def Call.contract : Call → Option Nat
  | .suspendContract contractId .. => some contractId
  | .reconnectContract contractId .. => some contractId
  | .syncAccount _ => none
  | .syncAllAccounts _ => none
  | .terminate contractId _ => some contractId
  | .renewPreviouslyActivated contractId _ => some contractId
  | .renew contractId _ => some contractId
  | .putSuspended contractId .. => some contractId

theorem about_call (walled : String → Bool) {call : Call} (h : call.contract = some contractId) :
    About contractId (call.body walled) := by
  cases call with
  | syncAccount _ => cases h
  | syncAllAccounts _ => cases h
  | suspendContract id ruleId userId invoiceId =>
    obtain rfl := Option.some.inj h
    exact about_suspendContract _ _ _
  | reconnectContract id userId invoiceId orgId =>
    obtain rfl := Option.some.inj h
    exact about_reconnectContract _ _ _ _
  | terminate id orgId =>
    obtain rfl := Option.some.inj h
    exact about_terminate _
  | renewPreviouslyActivated id orgId =>
    obtain rfl := Option.some.inj h
    exact Prog.Uses.mono (fun _ => And.left) (silent_renewPreviouslyActivated _)
  | renew id orgId =>
    obtain rfl := Option.some.inj h
    exact about_renew _
  | putSuspended id orgId userId =>
    obtain rfl := Option.some.inj h
    exact about_putSuspended _ _

end FireIsp.Line
