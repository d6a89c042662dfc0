import FireIsp.Base.Text
import FireIsp.Line.Statements

/-!
# Cleaning up behind a line that is not active

What `testWindowService` offers to those who take a line out of service: the durable marker, and
the work on the network that follows the commit.
-/

namespace FireIsp.Line

open Txn Throwing
open Lifecycle (ContractStatus ConnectionType)

/-- Errors. -/
inductive Failure
  /-- A statement, or something outside, has raised. -/
  | raised
  | validation (message : String)
  | notFound (entity : String)

instance : Raises Failure := ⟨.raised⟩

/-- How a Disconnect-Request ended. -/
inductive CoaOutcome
  | ack
  | nak
  | noAccount
  | noTarget
  | unresolved
  deriving DecidableEq

/-- Result of a Disconnect-Request or a CoA-Request. -/
structure CoaResult where
  sent : Bool
  response : Option String
  outcome : CoaOutcome

/-- Questions to what is outside of the tables. -/
inductive Query
  | exempt (contractId : Nat)
  /-- `assertSandboxContractCanResume` lets the contract pass. -/
  | sandboxResumes (contractId : Nat)
  /-- The tables of FreeRADIUS or the connection log show that the line was used. -/
  | evidence (contractId : Nat)
  /-- `sendRadiusDisconnect` or `sendRadiusCoA`. -/
  | coa (contractId : Nat)
  /-- The PPP secret of an account is gone from its NAS. -/
  | nasDisabled (radiusId : Nat)
  /-- `provisionNewContract`: the user name of a new account. -/
  | provisioned (contractId : Nat)
  /-- Which of the rows without an order comes first. -/
  | first (contractId : Nat)
  | now

/-- Answers; what may raise answers nothing then. -/
@[reducible] def Query.Answer : Query → Type
  | .exempt _ => Bool
  | .sandboxResumes _ => Bool
  | .evidence _ => Bool
  | .coa _ => Option CoaResult
  | .nasDisabled _ => Bool
  | .provisioned _ => Option String
  | .first _ => Nat
  | .now => Nat

/-- A part of a service. -/
abbrev Body (A : Type) : Type := Client Stmt Stmt.Res Query Query.Answer Failure A

/-- A statement, which may raise. -/
abbrev run (via : Via) (op : Stmt) : Body op.Res := Client.statement via op

/-- An `UPDATE contracts`, which a trigger may refuse. -/
def updateContracts (via : Via) (matches_ : Nat → Contract → Bool)
    (set : Nat → Contract → Contract) : Body Nat := do
  let affected ← run via (.updateContracts matches_ set)
  orThrow affected .raised

/-- An `UPDATE contracts` with conditions on the accounts. -/
def updateLines (via : Via) (matches_ : Contract → List Radius → Bool)
    (set : Contract → Contract) : Body Nat := do
  let affected ← run via (.updateLines matches_ set)
  orThrow affected .raised

/-- An error for a reason. -/
abbrev refuseWith (condition : Prop) [Decidable condition] (message : String) : Body Unit :=
  refuseIf condition (.validation message)

/-- A part of a function that is there only in one case. -/
def onlyIf (condition : Bool) (part : Body Unit) : Body Unit := if condition then part else pure ()

/-- The marker is set. -/
def Contract.marked (attemptedAt : Option Nat) (c : Contract) : Contract :=
  { c with testWindowCleanupPending := true, testWindowCleanupAttemptedAt := attemptedAt }

/-- The marker and the end of the window are taken away. -/
def Contract.unmarked (c : Contract) : Contract :=
  { c with
    testWindowCleanupPending := false
    testWindowExpiresAt := none
    testWindowCleanupAttemptedAt := none }

/-- An account of the contract that is not deleted. -/
def Radius.livesOn (contractId : Nat) (r : Radius) : Bool := r.contractId = some contractId && r.live

def requiresExternalCleanup (contract : Contract) (radiusRows : List Radius) : Body Bool := do
  let accounts := radiusRows.filter Radius.live
  if contract.firstActivatedAt.isSome || contract.testWindowExpiresAt.isSome ||
      contract.testWindowCleanupPending || radiusRows.any (fun r => !r.live) ||
      accounts.length ≠ 1 || accounts.any (fun r => r.nasId.isSome) ||
      accounts.any (fun r => r.status ≠ .inactive) ||
      accounts.any (fun r => Text.isBlank r.username) then
    pure true
  else Client.asked (Query.evidence contract.id)

/-- What `prepareExternalCleanup` expects of the contract. -/
structure Expected where
  statuses : List ContractStatus
  connectionTypes : List ConnectionType
  neverActivated : Bool

/-- Result of `prepareExternalCleanup`. -/
structure CleanupPreparation where
  contract : Contract
  /-- Its accounts as they were, live ones first. -/
  radius : List Radius
  /-- The network has to be cleaned up after the commit. -/
  cleanupRequired : Bool

/-- `prepareExternalCleanup`, on the connection of the caller. -/
def prepareExternalCleanup (contractId : Nat) (orgId : Option Nat) (expected : Expected) :
    Body CleanupPreparation := do
  let found ← run .conn (.contracts fun _ c =>
    c.id = contractId && (contractOrgPredicate orgId).admits c.organizationId && c.live)
  let contract ← orThrow found.head? (.notFound "Contract")
  refuseWith (contract.status = .active)
    "Active service cannot be prepared for test-window cleanup"
  refuseWith (contract.status ∉ expected.statuses)
    "The contract changed while network cleanup was being prepared — reload and retry"
  refuseWith (contract.connectionType ∉ expected.connectionTypes)
    "The contract connection type changed while network cleanup was being prepared — reload and retry"
  refuseWith (expected.neverActivated && contract.firstActivatedAt.isSome)
    "The contract crossed its first-activation boundary — reload and retry"
  let radius ← run .conn (.radius fun r => r.contractId = some contractId)
  let cleanupRequired ← requiresExternalCleanup contract radius
  let _ ← updateContracts .conn
    (fun _ c => c.id = contractId && c.status ≠ .active && c.live)
    (fun _ c => if cleanupRequired then c.marked none else c.unmarked)
  onlyIf cleanupRequired do
    let _ ← run .conn (.updateRadius (Radius.livesOn contractId) fun r =>
      { r with status := .inactive })
    run .conn .otherwise
  pure ⟨contract, radius, cleanupRequired⟩

def setCleanupMarker (contractId : Nat) (orgId : Option Nat) : Body Unit := do
  let _ ← updateContracts .pool
    (fun _ c => c.id = contractId && (contractOrgPredicate orgId).admits c.organizationId &&
      c.status ≠ .active)
    (fun now c => c.marked (some now))
  pure ()

def releaseCleanupMarker (contractId : Nat) (orgId : Option Nat) : Body Bool := do
  let affectedRows ← updateLines .pool
    (fun c accounts => c.id = contractId && (contractOrgPredicate orgId).admits c.organizationId &&
      c.status ≠ .active && c.testWindowCleanupPending && accounts.countP Radius.live = 1 &&
      accounts.all Radius.live)
    Contract.unmarked
  pure (affectedRows > 0)

/-- Result of `radiusCleanupIdentityState`. -/
structure IdentityState where
  archivedHistory : Bool
  ambiguousLiveCardinality : Bool

def radiusCleanupIdentityState (contractId : Nat) (radius : List Radius) (orgId : Option Nat) :
    Body IdentityState := do
  let rows ← run .pool (.lines fun c =>
    c.id = contractId && (contractOrgPredicate orgId).admits c.organizationId)
  let current := rows.head?.map Prod.snd
  pure ⟨radius.any (fun r => !r.live) || current.any fun accounts => accounts.any fun r => !r.live,
    radius.countP Radius.live ≠ 1 ||
      !current.any fun accounts => accounts.countP Radius.live = 1⟩

/-- `disableOneNasBestEffort`: nothing, where there is no NAS. -/
def disableOneNasBestEffort (radius : Radius) : Body (Option Bool) :=
  match radius.nasId with
  | none => pure none
  | some _ => do
      let disabled ← Client.asked (Query.nasDisabled radius.id)
      pure (some disabled)

def disableNasBestEffort : List Radius → Body (Option Bool)
  | [] => pure none
  | radius :: accounts => do
      let one ← disableOneNasBestEffort radius
      let others ← disableNasBestEffort accounts
      pure (if one = some false || others = some false then some false
        else if one = some true || others = some true then some true else none)

/-- Words of a response that leave open whether every NAS has answered. -/
def unresolvedWords : List String :=
  ["timeout", "no response", "socket error", "no secret", "not configured", "unexpected", "failed",
    "primary:"]

def hasUnresolvedTarget (response : Option String) : Bool :=
  unresolvedWords.any fun word =>
    (((response.getD "").toList.map Char.toLower).tails).any fun rest =>
      word.toList.isPrefixOf rest

/-- The `try` of `disconnectBestEffort`: the session is known to be gone. -/
def disconnectConfirmed (contractId : Nat) : Body Bool := do
  let result ← Client.asked (Query.coa contractId)
  match result with
  | none => pure false
  | some result =>
    if result.outcome = .nak || result.outcome = .noAccount ||
        (result.sent && result.outcome = .ack && !hasUnresolvedTarget result.response) then
      pure true
    else if result.outcome = .noTarget then do
      let bounds ← run .pool (.contracts fun now c => c.id = contractId &&
        c.testWindowExpiresAt.any fun expiresAt => expiresAt ≤ now)
      pure (!bounds.isEmpty)
    else pure false

def disconnectBestEffort (contractId : Nat) : Body Bool := do
  let tried ← attempted (disconnectConfirmed contractId)
  match tried with
  | .ok confirmed => pure confirmed
  | .error _ => pure false

/-- The marker is set or taken away. -/
def settleMarker (contractId : Nat) (orgId : Option Nat) (failed retainMarker : Bool) :
    Body Unit :=
  if failed then setCleanupMarker contractId orgId
  else onlyIf (!retainMarker) do
    let _ ← releaseCleanupMarker contractId orgId
    pure ()

def finalizeMarkedCleanup (contractId : Nat) (orgId : Option Nat) (radius : List Radius)
    (retainMarker : Bool) : Body Unit := do
  let identityState ← radiusCleanupIdentityState contractId radius orgId
  let attemptedNasState ← disableNasBestEffort (radius.filter Radius.live)
  let confirmed ← disconnectBestEffort contractId
  settleMarker contractId orgId
    (identityState.archivedHistory || identityState.ambiguousLiveCardinality ||
      attemptedNasState = some false || !confirmed)
    retainMarker

end FireIsp.Line
