import FireIsp.Base.Completion
import FireIsp.Invoicing.Generate

/-!
# The connection of an invoice run

`generateInvoice` with the connection it takes from the pool, where every statement may fail.  Its `finally`
clause gives the connection back; the branch that finds the period billed has given it back before.
-/

namespace FireIsp.Invoicing

open Txn

inductive Thrown
  | error (message : String)
  | invoiceGeneration (contractId periodId : Nat) (cause : String)
  deriving DecidableEq

def Thrown.message : Thrown → String
  | .error message => message
  | .invoiceGeneration contractId _ cause =>
    "Failed to generate invoice for contract " ++ toString contractId ++ ": " ++ cause

/-- What statements do to the rest of the world; any of them may fail. -/
structure Environment (W : Type) where
  getConnection : W → Except String Unit × W
  beginTransaction : W → Except String Unit × W
  commit : W → Except String Unit × W
  rollback : W → Except String Unit × W
  statement : Via → (stmt : Stmt) → W → Except String stmt.Res × W
  read : (query : Query) → W → Except String query.Answer × W

/-- The world, and how often a connection was taken and given back. -/
structure Pooled (W : Type) where
  world : W
  obtained : Nat
  released : Nat
  deriving DecidableEq

variable {W : Type}

/-- Code of the service; what it returns is the id of the invoice that is looked up. -/
abbrev Code (W A : Type) : Type := Act (Pooled W) Thrown (Option Nat) A

/-- What is done to the world. -/
def onWorld {A : Type} (f : W → Except String A × W) : Code W A :=
  Act.perform fun s => ((f s.world).1.mapError Thrown.error, { s with world := (f s.world).2 })

/-- `conn.release()` -/
def release : Code W Unit := Act.modify fun s => { s with released := s.released + 1 }

/-- `db.getConnection()` -/
def getConnection (env : Environment W) : Code W Unit := do
  onWorld env.getConnection
  Act.modify fun s => { s with obtained := s.obtained + 1 }

variable (env : Environment W)

/-- The statements of a request, one after the other. -/
def perform {A : Type} : Request A → Code W A
  | .done value => pure value
  | .start next => do
      onWorld env.beginTransaction
      perform next
  | .commit next => do
      onWorld env.commit
      perform next
  | .rollback next => do
      onWorld env.rollback
      perform next
  | .stmt via op next => do
      let reply ← onWorld (env.statement via op)
      perform (next reply)
  | .call query next => do
      let answer ← onWorld (env.read query)
      perform (next answer)

/-- What the `try` block does once the period is locked and pending, up to the commit. -/
def billing (period : Period) (contract : Contract) (plan : Plan) (organizationId : Option Nat) :
    Code W Nat := do
  let inTrial ← perform env (isContractInTrial contract plan)
  let price := if inTrial then plan.trialPrice.getD 0 else contract.priceOverride.getD plan.price
  let currency ← perform env (currencyOr plan.currency organizationId)
  let tax ← perform env (resolveTaxContext organizationId contract.clientId contract.taxRateId)
  let invoiceNumber ← perform env (nextInvoiceNumber organizationId)
  let inserted ← perform env (execute (.insertInvoice {
    id := 0
    organizationId
    clientId := contract.clientId
    contractId := some contract.id
    invoiceNumber
    subtotal := price
    taxAmount := taxOn price tax.rate
    total := price + taxOn price tax.rate
    currency
    taxRate := tax.rate
    taxRateId := tax.taxRateId
    dueDate := Calendar.setDate period.periodEnd ((Calendar.civil period.periodEnd).day + 15)
    status := .issued
    deletedAt := none }))
  match inserted with
  | none => Act.throw (.error "Duplicate entry")
  | some invoiceId =>
    let _ ← perform env (execute (.insertItem (planItem invoiceId period plan price)))
    let running ← perform env
      (billOverage invoiceId period contract plan inTrial currency price)
    match running with
    | none => Act.throw (.error "Unknown column 'NaN'")
    | some running =>
      let addons ← perform env (ask (.addons contract.id))
      let running ← perform env (billAddons invoiceId addons running)
      let finalTotal ← perform env
        (foldTotals invoiceId tax.rate price (price + taxOn price tax.rate) running)
      perform env (execute (.markInvoiced period.id invoiceId))
      let _ ← perform env (execute (.insertEntry {
        id := 0
        clientId := contract.clientId
        organizationId
        entryType := .debit
        amount := finalTotal
        currency
        referenceType := "invoice"
        referenceId := invoiceId
        description := "Invoice " ++ invoiceNumber }))
      return invoiceId

/-- The `try` block. -/
def attempt (period : Period) (contract : Contract) (plan : Plan) (organizationId : Option Nat) :
    Code W Unit := do
  onWorld env.beginTransaction
  let locked ← onWorld (env.statement .conn (.lockPeriod period.id))
  match locked.filter fun row => row.status != .pending with
  | some row =>
    onWorld env.rollback
    release
    -- `return Invoice.findById(…)` does not wait, so the lookup cannot fail in here
    Act.leave row.invoiceId
  | none =>
    let invoiceId ← billing env period contract plan organizationId
    onWorld env.commit
    Act.leave (some invoiceId)

/-- The `catch` clause. -/
def giveUp (period : Period) (contract : Contract) (thrown : Thrown) : Code W Unit := do
  onWorld env.rollback
  Act.throw (.invoiceGeneration contract.id period.id thrown.message)

/-- `generateInvoice`, with its connection. -/
def generateInvoiceOn (period : Period) (contract : Contract) (plan : Plan)
    (organizationId : Option Nat) : Code W Unit := do
  getConnection env
  ((attempt env period contract plan organizationId).tryCatch
    (giveUp env period contract)).tryFinally release

/-- A period that is not pending is locked, found billed, and rolled back. -/
def findsBilled (period : Period) (w : W) : Bool :=
  match env.beginTransaction w with
  | (.error _, _) => false
  | (.ok _, w) =>
    match env.statement .conn (.lockPeriod period.id) w with
    | (.error _, _) => false
    | (.ok locked, w) =>
      (locked.filter fun row => row.status != .pending).isSome && (env.rollback w).1.isOk

/-- A connection is obtained, and the branch of a period that is not pending any more comes to its end. -/
def leavesEarly (period : Period) (w : W) : Bool :=
  match env.getConnection w with
  | (.error _, _) => false
  | (.ok _, w) => findsBilled env period w

/-- How often a connection was taken and given back. -/
def Pooled.counts (s : Pooled W) : Nat × Nat := (s.obtained, s.released)

section Kept

variable {env}

theorem keeps_onWorld {A : Type} (f : W → Except String A × W) :
    (onWorld f : Code W A).Keeps Pooled.counts := Act.Keeps.perform fun _ => rfl

theorem keeps_perform {A : Type} (request : Request A) :
    (perform env request).Keeps Pooled.counts := by
  induction request with
  | done value => exact .pure value
  | start next ih => exact (keeps_onWorld _).bind fun _ => ih
  | commit next ih => exact (keeps_onWorld _).bind fun _ => ih
  | rollback next ih => exact (keeps_onWorld _).bind fun _ => ih
  | stmt via op next ih => exact (keeps_onWorld _).bind ih
  | call query next ih => exact (keeps_onWorld _).bind ih

theorem keeps_billing (period : Period) (contract : Contract) (plan : Plan)
    (organizationId : Option Nat) :
    (billing env period contract plan organizationId).Keeps Pooled.counts := by
  refine (keeps_perform _).bind fun inTrial => (keeps_perform _).bind fun currency =>
    (keeps_perform _).bind fun tax => (keeps_perform _).bind fun invoiceNumber =>
    (keeps_perform _).bind fun inserted => ?_
  cases inserted with
  | none => exact .throw _
  | some invoiceId =>
    refine (keeps_perform _).bind fun _ => (keeps_perform _).bind fun running => ?_
    cases running with
    | none => exact .throw _
    | some running =>
      exact (keeps_perform _).bind fun _ => (keeps_perform _).bind fun _ =>
        (keeps_perform _).bind fun _ => (keeps_perform _).bind fun _ =>
        (keeps_perform _).bind fun _ => .pure invoiceId

theorem keeps_giveUp (period : Period) (contract : Contract) (thrown : Thrown) :
    (giveUp env period contract thrown).Keeps Pooled.counts :=
  (keeps_onWorld _).bind fun _ => .throw _

end Kept

section Ends

variable {env} {s : Pooled W}

theorem onWorld_ok {A : Type} {f : W → Except String A × W} {value : A} {w : W}
    (h : f s.world = (.ok value, w)) :
    (onWorld f : Code W A) s = (.normal value, { s with world := w }) := by
  rw [onWorld, Act.perform, h]
  rfl

theorem onWorld_error {A : Type} {f : W → Except String A × W} {message : String} {w : W}
    (h : f s.world = (.error message, w)) :
    (onWorld f : Code W A) s = (.thrown (.error message), { s with world := w }) := by
  rw [onWorld, Act.perform, h]
  rfl

theorem attempt_billed {period : Period} (contract : Contract) (plan : Plan)
    (organizationId : Option Nat) (h : findsBilled env period s.world = true) :
    ∃ value s', attempt env period contract plan organizationId s = (.returned value, s') ∧
      s'.counts = (s.obtained, s.released + 1) := by
  rw [findsBilled] at h
  rcases hbegin : env.beginTransaction s.world with ⟨message | _, w⟩
  · rw [hbegin] at h
    cases h
  rw [hbegin] at h
  dsimp only at h
  rcases hlock : env.statement .conn (.lockPeriod period.id) w with ⟨message | locked, w'⟩
  · rw [hlock] at h
    cases h
  rw [hlock] at h
  dsimp only at h
  obtain ⟨hsome, hrollback⟩ := Bool.and_eq_true_iff.mp h
  obtain ⟨row, hrow⟩ := Option.isSome_iff_exists.mp hsome
  rcases hback : env.rollback w' with ⟨message | _, w''⟩
  · rw [hback] at hrollback
    cases hrollback
  refine ⟨row.invoiceId, ⟨w'', s.obtained, s.released + 1⟩, ?_, rfl⟩
  rw [attempt, Act.bind_normal (onWorld_ok hbegin), Act.bind_normal (onWorld_ok hlock), hrow]
  dsimp only
  rw [Act.bind_normal (onWorld_ok hback)]
  rfl

theorem attempt_pending {period : Period} (contract : Contract) (plan : Plan)
    (organizationId : Option Nat) (h : findsBilled env period s.world = false) :
    (attempt env period contract plan organizationId s).2.counts = s.counts := by
  rw [findsBilled] at h
  rcases hbegin : env.beginTransaction s.world with ⟨message | _, w⟩
  · rw [attempt, Act.bind_thrown (onWorld_error hbegin)]
    rfl
  rw [hbegin] at h
  dsimp only at h
  rcases hlock : env.statement .conn (.lockPeriod period.id) w with ⟨message | locked, w'⟩
  · rw [attempt, Act.bind_normal (onWorld_ok hbegin), Act.bind_thrown (onWorld_error hlock)]
    rfl
  rw [hlock] at h
  dsimp only at h
  rw [attempt, Act.bind_normal (onWorld_ok hbegin), Act.bind_normal (onWorld_ok hlock)]
  cases hrow : locked.filter fun row => row.status != .pending with
  | some row =>
    rw [hrow, Option.isSome_some, Bool.true_and] at h
    rcases hback : env.rollback w' with ⟨message | _, w''⟩
    · dsimp only
      rw [Act.bind_thrown (onWorld_error hback)]
      rfl
    · rw [hback] at h
      cases h
  | none =>
    have hkeeps : (do
        let invoiceId ← billing env period contract plan organizationId
        onWorld env.commit
        Act.leave (some invoiceId) : Code W Unit).Keeps Pooled.counts :=
      (keeps_billing period contract plan organizationId).bind fun invoiceId =>
        (keeps_onWorld _).bind fun _ => .leave _
    exact hkeeps _

end Ends

/-- The connection is released once, unless the period is billed: then twice. -/
theorem released_once_iff (period : Period) (contract : Contract) (plan : Plan)
    (organizationId : Option Nat) (w : W) :
    (generateInvoiceOn env period contract plan organizationId ⟨w, 0, 0⟩).2.released =
        (generateInvoiceOn env period contract plan organizationId ⟨w, 0, 0⟩).2.obtained ↔
      leavesEarly env period w = false := by
  rcases hconn : env.getConnection w with ⟨message | _, w'⟩
  · have hthrown : getConnection env ⟨w, 0, 0⟩ = (.thrown (.error message), ⟨w', 0, 0⟩) := by
      rw [getConnection, Act.bind_thrown (onWorld_error hconn)]
    rw [generateInvoiceOn, Act.bind_thrown hthrown, leavesEarly, hconn]
    exact iff_of_true rfl rfl
  · have hobtained : getConnection env ⟨w, 0, 0⟩ = (.normal (), ⟨w', 1, 0⟩) := by
      rw [getConnection, Act.bind_normal (onWorld_ok hconn)]
      rfl
    rw [generateInvoiceOn, Act.bind_normal hobtained, release, Act.tryFinally_modify, leavesEarly,
      hconn]
    cases hbilled : findsBilled env period w' with
    | true =>
      obtain ⟨value, s', hattempt, hcounts⟩ : ∃ value s',
          attempt env period contract plan organizationId ⟨w', 1, 0⟩ = (.returned value, s') ∧
            s'.counts = (1, 0 + 1) := attempt_billed contract plan organizationId hbilled
      obtain ⟨hone, htwo⟩ := Prod.mk.inj hcounts
      rw [Act.tryCatch_returned hattempt]
      dsimp only
      rw [hone, htwo]
      exact iff_of_false (Nat.succ_ne_self 1) (fun h => by rw [hbilled] at h; cases h)
    | false =>
      have hcounts : ((attempt env period contract plan organizationId).tryCatch
          (giveUp env period contract) ⟨w', 1, 0⟩).2.counts = (1, 0) :=
        Act.tryCatch_kept (attempt_pending contract plan organizationId hbilled)
          (keeps_giveUp period contract)
      obtain ⟨hone, htwo⟩ := Prod.mk.inj hcounts
      dsimp only
      rw [hone, htwo]
      exact iff_of_true rfl hbilled

/-- A world where every statement succeeds and the period is billed. -/
def billedWorld : Environment Unit where
  getConnection w := (.ok (), w)
  beginTransaction w := (.ok (), w)
  commit w := (.ok (), w)
  rollback w := (.ok (), w)
  statement _ stmt w := (match stmt with
    | .selectPending _ => .ok none
    | .selectLastInvoiced _ => .ok none
    | .insertPeriod .. => .ok none
    | .selectPeriod _ => .ok none
    | .lockPeriod id => .ok (some ⟨id, 7, 20454, 20484, some 12, .invoiced, 20454⟩)
    | .seedSequence _ => .ok ()
    | .advanceSequence _ => .ok 1
    | .insertInvoice _ => .ok (some 13)
    | .insertItem _ => .ok 14
    | .updateTotals .. => .ok ()
    | .markInvoiced .. => .ok ()
    | .insertEntry _ => .ok 15
    | .selectInvoice _ => .ok none, w)
  read _ w := (.error "down", w)

/-- A period that another request has billed in the meantime: its connection is released twice. -/
theorem released_twice :
    (generateInvoiceOn billedWorld ⟨3, 7, 20454, 20484, none, .pending, 20454⟩
      ⟨7, 5, 20454, none, none, none⟩ ⟨"Home", 50000, none, none, none, none, none⟩ (some 1)
      ⟨(), 0, 0⟩) = (.returned (some 12), ⟨(), 1, 2⟩) := by
  decide

end FireIsp.Invoicing
