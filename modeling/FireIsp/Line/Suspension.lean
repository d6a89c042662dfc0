import FireIsp.Line.TestWindow

/-!
# Suspending and reconnecting a line

`suspensionService`, and what the contract routes do to the status of a contract that has been in
service.
-/

namespace FireIsp.Line

open Txn Throwing Client
open Lifecycle (ContractStatus ConnectionType)

def triggeredBy : Option Nat → Trigger
  | none => .system
  | some _ => .manual

def Trigger.text : Trigger → String
  | .system => "system"
  | .manual => "manual"

def describeTrigger (what : String) (ruleId userId invoiceId : Option Nat) : String :=
  let parts := (match ruleId with
      | some ruleId => what ++ " by rule #" ++ toString ruleId
      | none => (triggeredBy userId).text ++ " " ++ what) ::
    (userId.toList.map fun userId => "user #" ++ toString userId) ++
    invoiceId.toList.map fun invoiceId => "invoice #" ++ toString invoiceId
  " — ".intercalate parts

/-- What is logged about an event. -/
structure Event where
  contractId : Nat
  ruleId : Option Nat
  reason : String
  userId : Option Nat
  coaSent : Bool
  coaResponse : Option String
  invoiceId : Option Nat

/-- The row of a suspension. -/
def Event.suspended (event : Event) (id now : Nat) : SuspensionLog where
  id := id
  contractId := event.contractId
  suspensionRuleId := event.ruleId
  action := .suspended
  reason := some event.reason
  triggeredBy := triggeredBy event.userId
  performedByUserId := event.userId
  radiusCoaSent := event.coaSent
  radiusCoaResponse := event.coaResponse
  relatedInvoiceId := event.invoiceId
  suspendedAt := now
  restoredAt := none

/-- The row of a reconnection. -/
def Event.unsuspended (event : Event) (suspendedAt : Option Nat) (restoredAt id now : Nat) :
    SuspensionLog where
  id := id
  contractId := event.contractId
  suspensionRuleId := none
  action := .unsuspended
  reason := some event.reason
  triggeredBy := triggeredBy event.userId
  performedByUserId := event.userId
  radiusCoaSent := event.coaSent
  radiusCoaResponse := event.coaResponse
  relatedInvoiceId := event.invoiceId
  suspendedAt := suspendedAt.getD now
  restoredAt := some restoredAt

/-- `logSuspensionEvent` of a suspension. -/
def logSuspension (via : Via) (event : Event) : Body Unit :=
  run via (.insertLog event.contractId event.suspended)

def suspendAccount (via : Via) (contractId : Nat) : Body Unit := do
  let _ ← run via (.updateRadius
    (fun r => r.livesOn contractId && r.status = .active) fun r => { r with status := .suspended })
  pure ()

/-- An account is taken out of service. -/
def deactivateAccount (via : Via) (contractId : Nat) : Body Unit := do
  let _ ← run via (.updateRadius (Radius.livesOn contractId) fun r => { r with status := .inactive })
  pure ()

/-- A packet is sent; that it cannot be sent is only noted. -/
def sendCoa (contractId : Nat) : Body (Bool × Option String) := do
  let result ← asked (Query.coa contractId)
  match result with
  | some result => pure (result.sent, result.response)
  | none => pure (false, some "CoA send failed")

/-- The transaction of `suspendContract`. -/
def suspending (contractId : Nat) (ruleId userId invoiceId : Option Nat) : Body Unit := do
  let _ ← updateContracts .conn (fun _ c => c.id = contractId)
    fun _ c => { c with status := .suspended }
  suspendAccount .conn contractId
  let (coaSent, coaResponse) ← sendCoa contractId
  logSuspension .conn ⟨contractId, ruleId, describeTrigger "suspension" ruleId userId invoiceId,
    userId, coaSent, coaResponse, invoiceId⟩

def suspendContract (contractId : Nat) (ruleId userId invoiceId : Option Nat) : Body Unit := do
  let exempt ← asked (Query.exempt contractId)
  onlyIf (!exempt) (inTransaction (suspending contractId ruleId userId invoiceId))

section Walled

variable (walled : String → Bool)

/-- The row of a suspension that is not over. -/
def SuspensionLog.isOpen (contractId : Nat) (log : SuspensionLog) : Bool :=
  log.contractId = contractId && log.action = .suspended && log.restoredAt.isNone

/-- `OPEN_WALLED_GARDEN_PREDICATE`; `walled` is what `LIKE` finds. -/
def SuspensionLog.isOpenWalled (contractId : Nat) (log : SuspensionLog) : Bool :=
  log.isOpen contractId && log.reason.any walled

/-- The row of a suspension that is not over and no walled garden. -/
def SuspensionLog.isOpenOther (contractId : Nat) (log : SuspensionLog) : Bool :=
  log.isOpen contractId && !log.reason.any walled

def newestSuspendedAt (rows : List SuspensionLog) : Option Nat :=
  (rows.map SuspensionLog.suspendedAt).max?

def closeOpenSuspensionAndGetStart (contractId : Nat) : Body (Option Nat) := do
  let priorRows ← run .conn (.logs (SuspensionLog.isOpen contractId))
  let _ ← run .conn (.updateLogs (SuspensionLog.isOpenOther walled contractId) fun now log =>
    { log with restoredAt := some now })
  pure (newestSuspendedAt priorRows)

/-- Result of the transaction of `reconnectContract`. -/
structure Reconnected where
  /-- The contract has to be activated for the first time. -/
  activationRequired : Bool
  cleanup : Option CleanupPreparation

/-- A line that has never been in service goes back to commissioning; nothing else may. -/
def resetSuspended (contractId : Nat) (orgId : Option Nat) (locked : Option Contract) :
    Body Reconnected := do
  match locked with
  | some locked =>
    if locked.status = .suspended && locked.firstActivatedAt.isNone then
      if locked.connectionType.isPppoe then do
        let cleanup ← prepareExternalCleanup contractId orgId
          ⟨[.suspended], [locked.connectionType], true⟩
        let reset ← updateContracts .conn
          (fun _ c => c.id = contractId && c.status = .suspended && c.firstActivatedAt.isNone &&
            c.live && (orgWhere orgId).admits c.organizationId)
          fun _ c => { c with status := .pending }
        refuseWith (reset ≠ 1) "Only a suspended contract can be reconnected"
        pure ⟨true, if cleanup.cleanupRequired then some cleanup else none⟩
      else do
        let reset ← updateContracts .conn
          (fun _ c => c.id = contractId && c.status = .suspended && c.firstActivatedAt.isNone &&
            !c.connectionType.isPppoe && c.live && (orgWhere orgId).admits c.organizationId)
          fun _ c => { c with
            status := .pending
            testWindowCleanupPending := false
            testWindowExpiresAt := none }
        refuseWith (reset ≠ 1) "Only a suspended contract can be reconnected"
        pure ⟨true, none⟩
    else do
      refuseWith (¬(locked.status = .active ∧ locked.firstActivatedAt.isSome))
        "Only a suspended contract can be reconnected"
      pure ⟨false, none⟩
  | none => throw (.validation "Only a suspended contract can be reconnected")

/-- The answer to a reconnection that is logged. -/
def reconnectCoa (contractId : Nat) (activationRequired : Bool) : Body (Bool × Option String) :=
  if activationRequired then pure (false, some "activation_required") else sendCoa contractId

/-- A contract whose environment is looked at before it is resumed. -/
def Contract.resumes (c : Contract) : Bool :=
  c.status = .suspended || (c.status = .active && c.firstActivatedAt.isSome)

def assertSandboxContractCanResume (contractId : Nat) : Body Unit := do
  let resumes ← asked (Query.sandboxResumes contractId)
  refuseWith (resumes = false)
    "Sandbox contract evidence cannot return to pending or active service in production"

/-- The account of a line that was suspended is restored, or the line is reset. -/
def restoreOrReset (contractId : Nat) (orgId : Option Nat) (locked : Option Contract)
    (reactivated : Nat) : Body Reconnected :=
  if reactivated = 1 then do
    let _ ← run .conn (.updateRadius
      (fun r => r.livesOn contractId && r.status = .suspended) fun r => { r with status := .active })
    pure ⟨false, none⟩
  else resetSuspended contractId orgId locked

/-- The transaction of `reconnectContract`. -/
def reconnecting (contractId : Nat) (userId invoiceId orgId : Option Nat) : Body Reconnected := do
  let lockedStates ← run .conn (.contracts fun _ c =>
    c.id = contractId && c.live && (orgWhere orgId).admits c.organizationId)
  let lockedState := lockedStates.head?
  onlyIf (lockedState.any Contract.resumes) (assertSandboxContractCanResume contractId)
  let reactivated ← updateContracts .conn
    (fun _ c => c.id = contractId && c.status = .suspended && c.firstActivatedAt.isSome && c.live &&
      (orgWhere orgId).admits c.organizationId)
    fun _ c => { c with status := .active }
  let reconnected ← restoreOrReset contractId orgId lockedState reactivated
  let (coaSent, coaResponse) ← reconnectCoa contractId reconnected.activationRequired
  let suspendedAt ← closeOpenSuspensionAndGetStart walled contractId
  let restoredAt ← asked Query.now
  let reason := describeTrigger "reconnect" none userId invoiceId
  let event : Event := ⟨contractId, none,
    if reconnected.activationRequired then reason ++ "; first activation required" else reason,
    userId, coaSent, coaResponse, invoiceId⟩
  run .conn (.insertLog contractId (event.unsuspended suspendedAt restoredAt))
  pure reconnected

def walledGardenReconnect (contractId : Nat) : Body Unit := do
  let _ ← run .pool (.updateLogs (SuspensionLog.isOpenWalled walled contractId) fun now log =>
    { log with restoredAt := some now })
  let _ ← run .pool (.contracts fun _ c => c.id = contractId)
  pure ()

/-- What `reconnectContract` does after it has committed. -/
def afterReconnect (contractId : Nat) (orgId : Option Nat) (reconnected : Reconnected) :
    Body Unit :=
  if reconnected.activationRequired then
    match reconnected.cleanup with
    | some cleanup => swallowed (finalizeMarkedCleanup contractId orgId cleanup.radius false)
    | none => pure ()
  else do
    let open_ ← run .pool (.logs (SuspensionLog.isOpenWalled walled contractId))
    onlyIf (!open_.isEmpty) (walledGardenReconnect walled contractId)

def reconnectContract (contractId : Nat) (userId invoiceId orgId : Option Nat) : Body Unit := do
  let reconnected ← inTransaction (reconnecting walled contractId userId invoiceId orgId)
  afterReconnect walled contractId orgId reconnected

end Walled

end FireIsp.Line
