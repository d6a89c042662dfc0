import FireIsp.Base.Lease
import FireIsp.Trap.Forwarding

/-!
# A delivery is a lease

A worker claims the row of a delivery, sends the trap at most once under its claim, and writes the
outcome by its token.  Other calls only take the row from a holder that is gone.
-/

namespace FireIsp.Trap

open Txn

def Delivery.holder (row : Delivery) : Option Nat :=
  if row.status = .deadLetter then none else row.claimToken.map Token.uuid

/-- The row of a delivery, its claim and its sends. -/
def lease : Lease Db Delivery := ⟨Db.delivery, Delivery.holder, Db.sends⟩

def kind : (op : Stmt) → Lease.Kind op.Res
  | .preflight _ => .looks
  | .organizationState => .looks
  | .activeWebhook _ => .looks
  | .selectDue _ => .looks
  | .claim _ => .claims id
  | .selectClaimed _ uuid => .reads uuid fun found => found.any fun row => mayDeliver row.1 row.2.1
  | .settle token _ => .settles token.uuid
  | .send uuid => .acts uuid
  | _ => .changes

/-- What a statement at a time and tick does to the row and the sends. -/
inductive Effect (now tick : Nat) (db : Db) : Stmt → Delivery → List Nat → Prop
  | kept (op) : Effect now tick db op db.delivery db.sends
  /-- A row that is due, or stale, is claimed. -/
  | claimed (organizationId) (hready : db.delivery.ready now = true)
      (hrevoked : db.delivery.revokedAt = none) :
      Effect now tick db (.claim organizationId) (db.delivery.claim tick now) db.sends
  /-- The outcome of the current claim is written. -/
  | settled (token outcome) (hprocessing : db.delivery.status = .processing)
      (htoken : db.delivery.claimToken = some token) :
      Effect now tick db (.settle token outcome) (db.delivery.settle outcome now) db.sends
  | sent (uuid) : Effect now tick db (.send uuid) db.delivery (db.sends ++ [uuid])
  /-- A row that waits or is stale is cancelled. -/
  | cancelled (op) (hkind : kind op = .changes) (hopen : db.delivery.isOpen now = true) :
      Effect now tick db op db.delivery.cancel db.sends
  | revoked (op) (hkind : kind op = .changes) (hprocessing : db.delivery.status = .processing) :
      Effect now tick db op (db.delivery.revoke now) db.sends

variable {clock : Nat → Nat} {now tick : Nat} {db : Db} {op : Stmt} {row : Delivery}
  {sends : List Nat}

theorem effect_cancelIf {condition : Bool} {db' : Db} (hkind : kind op = .changes)
    (hrow : db'.delivery = db.delivery) (hsends : db'.sends = db.sends)
    (h : condition = true → db.delivery.isOpen now = true) :
    Effect now tick db op ((engine clock).visible db' (db.cancelIf condition)).delivery
      ((engine clock).visible db' (db.cancelIf condition)).sends := by
  unfold Db.cancelIf
  split_ifs with hcondition
  · change Effect now tick db op db.delivery.cancel db'.sends
    rw [hsends]
    exact .cancelled op hkind (h hcondition)
  · change Effect now tick db op db'.delivery db'.sends
    rw [hrow, hsends]
    exact .kept op

theorem isOpen_of_waiting (h : db.delivery.waiting = true) : db.delivery.isOpen now = true := by
  rw [Delivery.isOpen, h, Bool.true_or]

theorem effect_recalled {condition : Bool} (hkind : kind op = .changes) {db' : Db}
    (hrow : db'.delivery = db.delivery) (hsends : db'.sends = db.sends) :
    Effect now tick db op ((engine clock).visible db' (db.recalled condition now)).delivery
      ((engine clock).visible db' (db.recalled condition now)).sends := by
  unfold Db.recalled
  split_ifs with hcondition hwaiting hprocessing
  · change Effect now tick db op db.delivery.cancel db'.sends
    rw [hsends]
    exact .cancelled op hkind (isOpen_of_waiting hwaiting)
  · change Effect now tick db op (db.delivery.revoke now) db'.sends
    rw [hsends]
    exact .revoked op hkind hprocessing
  · change Effect now tick db op db'.delivery db'.sends
    rw [hrow, hsends]
    exact .kept op
  · change Effect now tick db op db'.delivery db'.sends
    rw [hrow, hsends]
    exact .kept op

theorem exec_effect (clock : Nat → Nat) (tick : Nat) (db : Db) (op : Stmt) :
    Effect (clock tick) tick db op
      ((engine clock).visible db ((engine clock).exec op tick db db).2).delivery
      ((engine clock).visible db ((engine clock).exec op tick db db).2).sends := by
  cases op with
  | cancelOpen organizationId =>
    exact effect_cancelIf rfl rfl rfl fun h => (Bool.and_eq_true_iff.mp h).2
  | preflight organizationId => exact .kept _
  | claim organizationId =>
    simp only [engine, exec]
    split_ifs with hclaim
    · simp only [Bool.and_eq_true, Option.isNone_iff_eq_none] at hclaim
      exact .claimed organizationId hclaim.2 hclaim.1.2
    · exact .kept _
  | selectClaimed organizationId uuid => exact .kept _
  | settle token outcome =>
    simp only [engine, exec]
    split_ifs with hmatch
    · exact .settled token outcome hmatch.1 hmatch.2
    · exact .kept _
  | organizationState => exact .kept _
  | activeWebhook webhookId => exact .kept _
  | send uuid => exact .sent uuid
  | cancelUnavailable organizationId =>
    exact effect_cancelIf rfl rfl rfl fun h => (Bool.and_eq_true_iff.mp h).2
  | sweepRevoked organizationId =>
    exact effect_cancelIf rfl rfl rfl fun h => (Bool.and_eq_true_iff.mp h).2
  | sweepOrganization organizationId =>
    exact effect_cancelIf rfl rfl rfl fun h => (Bool.and_eq_true_iff.mp h).2
  | selectDue organizationId => exact .kept _
  | cancelRule ruleId organizationId =>
    exact effect_cancelIf rfl rfl rfl fun h => isOpen_of_waiting (Bool.and_eq_true_iff.mp h).2
  | changeRule rule =>
    simp only [engine, exec]
    split
    · exact .kept _
    · exact effect_recalled rfl rfl rfl
  | changeWebhook webhook =>
    simp only [engine, exec]
    split
    · exact .kept _
    · exact effect_recalled rfl rfl rfl
  | changeOrganization active deleted =>
    simp only [engine, exec]
    split
    · exact .kept _
    · exact effect_cancelIf rfl rfl rfl fun h => isOpen_of_waiting (Bool.and_eq_true_iff.mp h).2

theorem holder_claim (row : Delivery) (uuid now : Nat) :
    (row.claim uuid now).holder = some uuid ∨ (row.claim uuid now).holder = none := by
  unfold Delivery.holder
  split_ifs
  · exact Or.inr rfl
  · exact Or.inl rfl

theorem exec_claim (clock : Nat → Nat) (tick : Nat) (db : Db) (organizationId : Option Nat) :
    (engine clock).exec (.claim organizationId) tick db db = (none, []) ∨
      (engine clock).exec (.claim organizationId) tick db db =
        (some tick, [.delivery (db.delivery.claim tick (clock tick))]) := by
  simp only [engine, exec]
  split_ifs
  · exact Or.inr rfl
  · exact Or.inl rfl

theorem lease_lawful (clock : Nat → Nat) : lease.Lawful (engine clock) kind where
  looks := by
    intro op tick db hkind
    cases op <;> first | rfl | cases hkind
  changes := by
    intro op tick db hkind
    have heffect := exec_effect clock tick db op
    generalize (engine clock).visible db ((engine clock).exec op tick db db).2 = db' at heffect
    obtain ⟨row, rule, webhook, organization, sends⟩ := db'
    change Effect (clock tick) tick db op row sends at heffect
    change sends = db.sends ∧ (row.holder = db.delivery.holder ∨ row.holder = none)
    cases heffect with
    | kept => exact ⟨rfl, Or.inl rfl⟩
    | claimed organizationId hready hrevoked => cases hkind
    | settled token outcome hprocessing htoken => cases hkind
    | sent uuid => cases hkind
    | cancelled _ _ hopen => exact ⟨rfl, Or.inr rfl⟩
    | revoked _ _ hprocessing => exact ⟨rfl, Or.inl rfl⟩
  missed := by
    intro op tick db granted hkind hreply
    cases op <;> cases hkind
    rename_i organizationId
    rcases exec_claim clock tick db organizationId with hnone | hsome
    · rw [hnone]
      rfl
    · rw [hsome] at hreply
      cases hreply
  granted := by
    intro op tick db granted token hkind hreply
    cases op <;> cases hkind
    rename_i organizationId
    rcases exec_claim clock tick db organizationId with hnone | hsome
    · rw [hnone] at hreply
      cases hreply
    · rw [hsome] at hreply ⊢
      obtain rfl := Option.some.inj hreply
      exact ⟨rfl, rfl, holder_claim db.delivery _ _⟩
  reads := by
    intro op tick db token found hkind
    cases op <;> cases hkind
    rename_i organizationId
    refine ⟨rfl, fun hfound => ?_⟩
    change Option.any _ (Option.map _ (db.delivery.claimToken.filter _)) = true at hfound
    rw [Option.any_map, Option.any_eq_true] at hfound
    obtain ⟨current, hcurrent, hmay⟩ := hfound
    obtain ⟨hclaim, hmatch⟩ := Option.filter_eq_some_iff.mp hcurrent
    change db.delivery.holder = some token
    rw [Delivery.holder, hclaim, if_neg (of_decide_eq_true hmay).2]
    exact congrArg some (of_decide_eq_true (Bool.and_eq_true_iff.mp hmatch).2)
  settles := by
    intro op tick db token hkind
    cases op <;> cases hkind
    rename_i current outcome
    simp only [engine, exec]
    split_ifs with hmatch
    · right
      refine ⟨?_, rfl, ?_⟩
      · change db.delivery.holder = some current.uuid
        rw [Delivery.holder, hmatch.1, hmatch.2]
        rfl
      · change (db.delivery.settle outcome (clock tick)).holder = none
        unfold Delivery.holder
        split_ifs <;> rfl
    · exact Or.inl rfl
  acting := by
    intro op tick db token hkind
    cases op <;> cases hkind
    exact ⟨rfl, rfl⟩

/-- The session keeps to the discipline of a lease. -/
abbrev Keeps (stage : Lease.Stage) (p : Program Result) : Prop :=
  p.Follows (Lease.discipline kind) stage fun _ _ => True

theorem keeps_settle (token : Token) (row : Delivery) (outcome : Outcome) (acted : Bool) :
    Keeps (.working token.uuid acted) (setDeliveryOutcome token row outcome) := by
  refine ⟨fun _ => .finished, ?_, fun updated => ?_⟩
  · cases acted <;> exact if_pos rfl
  · cases updated <;> trivial

theorem keeps_settleRetrying (token : Token) (row : Delivery) (acted : Bool)
    (httpStatus responseTimeMs : Option Nat) :
    Keeps (.working token.uuid acted) (settleRetrying token row httpStatus responseTimeMs) :=
  ⟨fun _ => _, rfl, fun _ => keeps_settle token row _ acted⟩

theorem keeps_settleFailure (token : Token) (row : Delivery) (acted retryable : Bool)
    (httpStatus responseTimeMs : Option Nat) :
    Keeps (.working token.uuid acted)
      (settleFailure token row retryable httpStatus responseTimeMs) := by
  unfold settleFailure
  split_ifs
  · exact keeps_settle token row _ acted
  · exact keeps_settleRetrying token row acted httpStatus responseTimeMs

theorem keeps_settleReply (token : Token) (row : Delivery) (reply : Reply) :
    Keeps (.working token.uuid true) (settleReply token row reply) := by
  cases reply with
  | answered statusCode responseTimeMs =>
    simp only [settleReply]
    split_ifs
    · exact keeps_settle token row _ true
    · exact keeps_settleFailure token row true _ _ _
  | accepted => exact keeps_settle token row _ true
  | failed retryable => exact keeps_settleFailure token row true retryable none none

theorem keeps_sendOut (token : Token) (row : Delivery) :
    Keeps (.working token.uuid false) (sendOut token row) := by
  refine ⟨fun _ => _, rfl, fun prepares => ?_⟩
  cases prepares with
  | true =>
    exact ⟨fun _ => .working token.uuid true, if_pos rfl,
      fun _ => ⟨fun _ => _, rfl, fun reply => keeps_settleReply token row reply⟩⟩
  | false => exact keeps_settleFailure token row false true none none

theorem keeps_sendToTarget (webhooks : Bool) (token : Token) (row : Delivery) :
    Keeps (.working token.uuid false) (sendToTarget webhooks token row) := by
  unfold sendToTarget
  split
  · rename_i webhookId url _
    split_ifs with hwebhooks
    · exact keeps_settle token row _ false
    · refine ⟨fun _ => _, rfl, fun raises => ?_⟩
      cases raises with
      | true => exact keeps_settleFailure token row false true none none
      | false =>
        refine ⟨fun _ => _, rfl, fun current => ?_⟩
        change Keeps _ (sendToWebhook token row url current)
        cases current with
        | none => exact keeps_settle token row _ false
        | some current =>
          simp only [sendToWebhook]
          split_ifs
          · exact keeps_settle token row _ false
          · exact keeps_sendOut token row
  · exact keeps_sendOut token row

theorem keeps_sendIf (webhooks : Bool) (token : Token) (row : Delivery) (found : Finding) :
    Keeps (.working token.uuid false) (sendIf webhooks token row found) := by
  cases found with
  | bound => exact keeps_sendToTarget webhooks token row
  | unbound => exact keeps_settle token row _ false
  | raised => exact keeps_settleRetrying token row false none none

theorem keeps_checkSource (webhooks : Bool) (token : Token) (row : Delivery) :
    Keeps (.working token.uuid false) (checkSource webhooks token row) := by
  unfold checkSource
  split_ifs with htest
  · exact ⟨fun _ => _, rfl, fun found => keeps_sendIf webhooks token row found⟩
  · split
    · exact keeps_settle token row _ false
    · exact ⟨fun _ => _, rfl, fun found => keeps_sendIf webhooks token row found⟩

theorem keeps_deliverClaimed (webhooks : Bool) (token : Token) (row : Delivery)
    (joined : Joined) :
    Keeps (.working token.uuid false) (deliverClaimed webhooks token row joined) := by
  unfold deliverClaimed
  split_ifs with hmatches
  · exact keeps_settle token row _ false
  · refine ⟨fun _ => _, rfl, fun raises => ?_⟩
    cases raises with
    | true => exact keeps_settleFailure token row false true none none
    | false =>
      refine ⟨fun _ => _, rfl, fun state => ?_⟩
      change Keeps _ (checkOrganization webhooks token row state)
      cases state with
      | none => exact keeps_settle token row _ false
      | some state =>
        simp only [checkOrganization]
        split_ifs
        · exact keeps_settle token row _ false
        · exact keeps_checkSource webhooks token row

theorem keeps_attemptDelivery (snmp webhooks : Bool) (organizationId : Option Nat) :
    Keeps .free (attemptDelivery snmp webhooks organizationId) := by
  unfold attemptDelivery
  split_ifs with hsnmp
  · exact ⟨_, rfl, fun _ => trivial⟩
  · refine ⟨fun _ => _, rfl, fun readiness => ?_⟩
    change Keeps .free (attemptIfReady webhooks organizationId readiness)
    cases readiness with
    | unavailable => trivial
    | unsupported => exact ⟨_, rfl, fun _ => trivial⟩
    | ready =>
      refine ⟨_, rfl, fun found => ?_⟩
      change Keeps .free (claimFound webhooks organizationId found)
      rcases found with _ | ⟨row, joined⟩
      · trivial
      · simp only [claimFound]
        split_ifs with hmatches
        · exact ⟨_, rfl, fun _ => trivial⟩
        · refine ⟨_, rfl, fun granted => ?_⟩
          change Keeps _ (deliverGranted webhooks organizationId granted)
          cases granted with
          | none => trivial
          | some uuid =>
            refine ⟨_, if_pos rfl, fun selected => ?_⟩
            change Keeps _ (deliverSelected webhooks uuid selected)
            rcases selected with _ | ⟨mark, row, joined⟩
            · trivial
            · simp only [deliverSelected, Option.any_some]
              split_ifs
              · exact keeps_deliverClaimed webhooks ⟨mark, uuid⟩ row joined
              · trivial

theorem keeps_processRetries (snmp : Bool) (organizationId : Option Nat) :
    Keeps .free (processRetries snmp organizationId) := by
  unfold processRetries
  split_ifs with hsnmp
  · exact ⟨_, rfl, fun _ => trivial⟩
  · refine ⟨fun _ => _, rfl, fun readiness => ?_⟩
    change Keeps .free (retryIfReady organizationId readiness)
    cases readiness with
    | unavailable => trivial
    | unsupported => exact ⟨_, rfl, fun _ => trivial⟩
    | ready =>
      refine ⟨_, rfl, fun _ => ⟨_, rfl, fun _ => ⟨_, rfl, fun due => ?_⟩⟩⟩
      cases due with
      | true => exact ⟨fun _ => _, rfl, fun _ => trivial⟩
      | false => trivial

theorem keeps_run (call : Call) : Keeps .free call.run := by
  cases call with
  | attempt snmp webhooks organizationId => exact keeps_attemptDelivery snmp webhooks organizationId
  | retries snmp organizationId => exact keeps_processRetries snmp organizationId
  | cancelRule ruleId organizationId => exact ⟨_, rfl, fun _ => trivial⟩
  | changeRule rule => exact ⟨_, rfl, fun _ => trivial⟩
  | changeWebhook webhook => exact ⟨_, rfl, fun _ => trivial⟩
  | changeOrganization active deleted => exact ⟨_, rfl, fun _ => trivial⟩

end FireIsp.Trap
