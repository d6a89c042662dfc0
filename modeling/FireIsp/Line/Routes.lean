import FireIsp.Line.Suspension

/-!
# Renewing, terminating and synchronising a line

`renewPreviouslyActivated` and the routes of contracts that change the status of a line which has
been in service, and the synchronisation of its account.
-/

namespace FireIsp.Line

open Txn Throwing Client
open Lifecycle (ContractStatus ConnectionType)

def renewableStatuses : List ContractStatus := [.suspended, .expired, .cancelled, .terminated]

/-- The account a PPPoE line is renewed with. -/
def renewalAccount (contractId : Nat) (locked : Contract) (effectiveOrgId : Option Nat) :
    Body Radius := do
  let radiusRows ← run .conn (.radius fun r =>
    r.livesOn contractId && (orgWhere effectiveOrgId).admits r.organizationId)
  refuseWith (radiusRows.length > 1)
    "The contract has multiple RADIUS accounts and cannot be renewed safely"
  match radiusRows.head? with
  | some radius => pure radius
  | none => do
      let provisioned ← asked (Query.provisioned contractId)
      let username ← orThrow provisioned .raised
      let radiusId ← run .conn (.insertRadius fun id =>
        ⟨id, locked.organizationId, some contractId, none, username, .inactive, none⟩)
      pure ⟨radiusId, effectiveOrgId, some contractId, none, username, .inactive, none⟩

def restoreAccount (contractId : Nat) (effectiveOrgId : Option Nat) (radius : Radius) :
    Body Unit := do
  let restored ← run .conn (.updateRadius
    (fun r => r.id = radius.id && (orgWhere effectiveOrgId).admits r.organizationId &&
      r.livesOn contractId)
    fun r => { r with status := .active })
  refuseWith (restored ≠ 1) "The RADIUS subscriber changed during renewal — reload and retry"
  run .conn .otherwise

def renewContract (contractId : Nat) (locked : Contract) (orgId : Option Nat) : Body Unit := do
  let renewed ← updateContracts .conn
    (fun _ c => c.id = contractId && (orgWhere orgId).admits c.organizationId &&
      c.status = locked.status && c.firstActivatedAt.isSome && c.live)
    fun _ c => { c with status := .active }
  refuseWith (renewed ≠ 1) "Contract renewal was modified concurrently — reload and retry"

/-- The transaction of `renewPreviouslyActivated`. -/
def renewing (contractId : Nat) (orgId : Option Nat) : Body Unit := do
  let contracts ← run .conn (.contracts fun _ c =>
    c.id = contractId && (orgWhere orgId).admits c.organizationId && c.live)
  let locked ← orThrow contracts.head? (.notFound "Contract")
  refuseWith (locked.status ∉ renewableStatuses) "Cannot renew a contract with this status"
  refuseWith (locked.firstActivatedAt = none)
    "This contract still requires its first activation workflow"
  assertSandboxContractCanResume contractId
  let effectiveOrgId := locked.organizationId <|> orgId
  if locked.connectionType.isPppoe then do
    let radius ← renewalAccount contractId locked effectiveOrgId
    renewContract contractId locked orgId
    restoreAccount contractId effectiveOrgId radius
  else renewContract contractId locked orgId

def renewPreviouslyActivated (contractId : Nat) (orgId : Option Nat) : Body Unit :=
  inTransaction (renewing contractId orgId)

def routeContract (contractId orgId : Nat) : Body Contract := do
  let rows ← run .pool (.contracts fun _ c =>
    c.id = contractId && c.organizationId = some orgId && c.live)
  orThrow rows.head? (.notFound "Contract")

/-- The transaction that resets a PPPoE line which was never activated. -/
def resettingPppoe (contractId : Nat) (contract : Contract) (orgId : Nat) :
    Body CleanupPreparation := do
  let lockedRows ← run .conn (.contracts fun _ c =>
    c.id = contractId && c.organizationId = some orgId && c.live)
  let locked ← orThrow lockedRows.head?
    (.validation "Contract renewal was modified concurrently — reload and retry")
  refuseWith (¬(locked.status = contract.status ∧ locked.connectionType = contract.connectionType ∧
    locked.firstActivatedAt = none))
    "Contract renewal was modified concurrently — reload and retry"
  assertSandboxContractCanResume contractId
  let cleanup ← prepareExternalCleanup contractId (some orgId)
    ⟨[contract.status], [contract.connectionType], true⟩
  let reset ← updateContracts .conn
    (fun _ c => c.id = contractId && c.organizationId = some orgId && c.status = locked.status &&
      c.firstActivatedAt.isNone && c.live)
    fun _ c => { c with status := .pending }
  refuseWith (reset ≠ 1) "Contract renewal was modified concurrently — reload and retry"
  pure cleanup

/-- A renewal of a contract that was never activated. -/
def renewReset (contractId : Nat) (contract : Contract) (orgId : Nat) : Body Unit := do
  if contract.connectionType.isPppoe then do
    let cleanup ← inTransaction (resettingPppoe contractId contract orgId)
    onlyIf cleanup.cleanupRequired
      (swallowed (finalizeMarkedCleanup contractId (some orgId) cleanup.radius false))
  else do
    assertSandboxContractCanResume contractId
    let reset ← updateContracts .pool
      (fun _ c => c.id = contractId && c.organizationId = some orgId &&
        c.status = contract.status && c.firstActivatedAt.isNone && c.live)
      fun _ c => { c.unmarked with status := .pending }
    refuseWith (reset ≠ 1) "Contract renewal was modified concurrently — reload and retry"

/-- `POST /:id/renew` -/
def renew (contractId orgId : Nat) : Body Unit := do
  let contract ← routeContract contractId orgId
  refuseWith (contract.status ∉ renewableStatuses) "Cannot renew a contract with this status"
  if contract.firstActivatedAt.isNone then renewReset contractId contract orgId
  else renewPreviouslyActivated contractId (some orgId)

/-- `Contract.update`, of the status. -/
def updateStatus (contractId orgId : Nat) (status : ContractStatus) : Body Unit := do
  let affected ← updateContracts .pool
    (fun _ c => c.id = contractId && c.organizationId = some orgId && c.live)
    fun _ c => { c with status := status }
  refuseIf (affected = 0) (.notFound "contracts")

/-- `POST /:id/terminate` -/
def terminate (contractId orgId : Nat) : Body Unit := do
  let contract ← routeContract contractId orgId
  refuseWith (contract.status ∉ [.active, .suspended]) "Cannot terminate a contract with this status"
  updateStatus contractId orgId .terminated
  deactivateAccount .pool contractId

/-- What `updateContractHandler` does once a contract has been suspended. -/
def afterSuspended (contractId userId : Nat) : Body Unit := do
  suspendAccount .pool contractId
  let (coaSent, coaResponse) ← sendCoa contractId
  swallowed (logSuspension .pool ⟨contractId, none,
    "manual status change to 'suspended' via contract update (user #" ++ toString userId ++ ")",
    some userId, coaSent, coaResponse, none⟩)

/-- `updateContractHandler` to `'suspended'`, which the trigger may refuse after the cleanup. -/
def putSuspended (contractId orgId userId : Nat) : Body Unit := do
  let old ← routeContract contractId orgId
  updateStatus contractId orgId .suspended
  onlyIf (old.status ≠ .suspended) (afterSuspended contractId userId)

def Contract.testWindowOpen (now : Nat) (c : Contract) : Bool :=
  c.status = .pending && c.testWindowExpiresAt.any fun expiresAt => expiresAt > now

/-- The status an account should have. -/
def Contract.expectedStatus (now : Nat) (c : Contract) : RadiusStatus :=
  if c.status = .active || c.testWindowOpen now then .active else .inactive

/-- `syncAccount`: without an order, any of the accounts may come first. -/
def syncAccount (contractId : Nat) : Body Unit := do
  let rows ← run .pool (.lines fun c => c.id = contractId)
  match rows.head? with
  | none => pure ()
  | some (contract, accounts) => do
      let first ← asked (Query.first contractId)
      match accounts[first % accounts.length]? with
      | none => pure ()
      | some radius => do
          let now ← asked Query.now
          onlyIf (radius.status ≠ contract.expectedStatus now) do
            let _ ← run .pool (.updateRadius (fun r => r.id = radius.id) fun r =>
              { r with status := contract.expectedStatus now })
            pure ()

def syncEach : List Nat → Body Unit
  | [] => pure ()
  | contractId :: contractIds => do
      swallowed (syncAccount contractId)
      syncEach contractIds

def syncAllAccounts (organizationId : Option Nat) : Body Unit := do
  let rows ← run .pool (.lines fun c => (c.status = .active || c.status = .suspended) &&
    (orgWhere organizationId).admits c.organizationId)
  syncEach (rows.flatMap fun (c, accounts) => accounts.map fun _ => c.id)

end FireIsp.Line

/-!
## Calls about lines

What is called, one after the other, and the tables after each call.
-/

namespace FireIsp.Line

open Txn

inductive Call
  | suspendContract (contractId : Nat) (ruleId userId invoiceId : Option Nat)
  | reconnectContract (contractId : Nat) (userId invoiceId orgId : Option Nat)
  | syncAccount (contractId : Nat)
  | syncAllAccounts (organizationId : Option Nat)
  /-- `POST /:id/terminate` -/
  | terminate (contractId orgId : Nat)
  | renewPreviouslyActivated (contractId : Nat) (orgId : Option Nat)
  | renew (contractId orgId : Nat)
  /-- `PUT /:id` with the status `'suspended'`. -/
  | putSuspended (contractId orgId userId : Nat)

/-- The part of a service that is called. -/
def Call.body (walled : String → Bool) : Call → Body Unit
  | .suspendContract contractId ruleId userId invoiceId =>
    FireIsp.Line.suspendContract contractId ruleId userId invoiceId
  | .reconnectContract contractId userId invoiceId orgId =>
    FireIsp.Line.reconnectContract walled contractId userId invoiceId orgId
  | .syncAccount contractId => FireIsp.Line.syncAccount contractId
  | .syncAllAccounts organizationId => FireIsp.Line.syncAllAccounts organizationId
  | .terminate contractId orgId => FireIsp.Line.terminate contractId orgId
  | .renewPreviouslyActivated contractId orgId =>
    FireIsp.Line.renewPreviouslyActivated contractId orgId
  | .renew contractId orgId => FireIsp.Line.renew contractId orgId
  | .putSuspended contractId orgId userId => FireIsp.Line.putSuspended contractId orgId userId

/-- What is answered from outside, at each time. -/
abbrev World : Type :=
  Nat → (query : Outside Stmt Query) → Outside.Answer Query.Answer query

/-- A call, and what is answered to it. -/
structure Incoming where
  call : Call
  world : World

/-- The service between two calls. -/
structure Service where
  tick : Nat
  db : Db

variable (walled : String → Bool)

/-- Everything a call leaves behind. -/
def Service.served (s : Service) (incoming : Incoming) : Outcome (Except Failure Unit) Db :=
  alone engine incoming.world (incoming.call.body walled).run s.tick s.db none

/-- One call is served. -/
def Service.step (s : Service) (incoming : Incoming) : Service :=
  ⟨(s.served walled incoming).tick + 1, (s.served walled incoming).db⟩

/-- A call completes without an error. -/
def Service.Completes (s : Service) (incoming : Incoming) : Prop :=
  (s.served walled incoming).value = .ok ()

end FireIsp.Line
