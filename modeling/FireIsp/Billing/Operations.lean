import FireIsp.Base.Alone
import FireIsp.Base.Run
import FireIsp.Billing.Bounds
import FireIsp.Billing.Requests

/-!
# Sequences of operations

The eight operations on allocations and settlements, run one after another.  The
statements each of them can send are listed once, so that an invariant of statements
becomes an invariant of sequences.
-/

namespace FireIsp.Billing

open Txn

/-- One operation with its parameters. -/
inductive Operation
  /-- `POST /payments/:id/allocate`. -/
  | allocate (org paymentId invoiceId : Nat) (amount : Nat)
  /-- `POST /payments/:id/allocate-auto`. -/
  | allocateAuto (org paymentId : Nat) (ids : Option (List Nat))
  /-- `POST /payments/:id/reallocate`. -/
  | reallocate (org paymentId fromId toId : Nat) (amount : Option Int)
  /-- `POST /payments/:id/unapply`. -/
  | unapply (org paymentId invoiceId : Nat)
  | deletePayment (org paymentId : Nat)
  /-- `POST /payments/:id/restore`. -/
  | restorePayment (org paymentId : Nat)
  | voidInvoiceById (invoiceId org : Nat)
  | settleInvoiceTerminal (invoiceId org : Nat) (status : TerminalStatus) (action : String)
      (forbidFrom : List InvoiceStatus)

/-- The handler of an operation; `validate` admits no negative amount in `allocate`. -/
def Operation.request : Operation → Request Response
  | .allocate org paymentId invoiceId amount => Billing.allocate org paymentId invoiceId amount
  | .allocateAuto org paymentId ids => Billing.allocateAuto org paymentId ids
  | .reallocate org paymentId fromId toId amount =>
    Billing.reallocate org paymentId fromId toId amount
  | .unapply org paymentId invoiceId => Billing.unapply org paymentId invoiceId
  | .deletePayment org paymentId => Billing.deletePayment org paymentId
  | .restorePayment org paymentId => Billing.restorePayment org paymentId
  | .voidInvoiceById invoiceId org => Billing.voidInvoiceById invoiceId org
  | .settleInvoiceTerminal invoiceId org status action forbidFrom =>
    Billing.settleInvoiceTerminal invoiceId org status action forbidFrom

/-- Database between two operations. -/
structure Books where
  tick : Nat
  db : Db

/-- One operation from start to end. -/
def Books.step (world : Nat → (e : Effect) → e.Answer) (s : Books) (op : Operation) : Books :=
  let o := alone engine world op.request s.tick s.db none
  ⟨o.tick, o.db⟩

/-- Statements of a request that settles no invoice and inserts no negative amount. -/
def Stmt.Plain : Stmt → Prop
  | .insertAllocation _ _ amount => 0 ≤ amount
  | .updateStatus .. => False
  | _ => True

/-- Statements of the settlement of one invoice. -/
def Stmt.SettlesOnly (id : Nat) : Stmt → Prop
  | .insertAllocation .. => False
  | .reviveAllocationsOf _ => False
  | .markPaid .. => False
  | .markIssued _ => False
  | .updateStatus invoiceId _ _ => invoiceId = id
  | _ => True

theorem Stmt.Plain.insertsNonneg {stmt : Stmt} (h : stmt.Plain) : stmt.InsertsNonneg := by
  cases stmt <;> first | exact h | trivial

theorem Stmt.SettlesOnly.insertsNonneg {id : Nat} {stmt : Stmt} (h : stmt.SettlesOnly id) :
    stmt.InsertsNonneg := by
  cases stmt <;> first | exact h.elim | trivial

section Inventory

variable {allowed : Stmt → Prop}

theorem uses_refuse (response : Response) : (refuse response).Uses allowed := trivial

theorem uses_refreshInvoicePaidStatus {id : Nat} (hread : allowed (.selectAllocated id))
    (hpaid : allowed (.markPaid id true)) (hissued : allowed (.markIssued id)) :
    (refreshInvoicePaidStatus id).Uses allowed := by
  refine (Prog.Uses.send hread).bind fun r => ?_
  cases r with
  | none => trivial
  | some sums =>
    obtain ⟨total, allocated⟩ := sums
    simp only []
    split
    · exact Prog.Uses.send hpaid
    · exact Prog.Uses.send hissued

theorem uses_refreshAll {ids : List Nat} (hread : ∀ id ∈ ids, allowed (.selectAllocated id))
    (hpaid : ∀ id ∈ ids, allowed (.markPaid id true))
    (hissued : ∀ id ∈ ids, allowed (.markIssued id)) : (refreshAll ids).Uses allowed := by
  induction ids with
  | nil => trivial
  | cons id ids ih =>
    exact (uses_refreshInvoicePaidStatus (hread id List.mem_cons_self)
      (hpaid id List.mem_cons_self) (hissued id List.mem_cons_self)).bind fun _ =>
        ih (fun id h => hread id (List.mem_cons_of_mem _ h))
          (fun id h => hpaid id (List.mem_cons_of_mem _ h))
          (fun id h => hissued id (List.mem_cons_of_mem _ h))

theorem uses_finalizeIfFullyPaid {via : Via} {invoice : Invoice}
    (hread : allowed (.sumOfInvoice invoice.id)) (hpaid : allowed (.markPaid invoice.id false)) :
    (finalizeIfFullyPaid via invoice).Uses allowed := by
  refine (Prog.Uses.send hread).bind fun total => ?_
  split
  · trivial
  · exact (Prog.Uses.send hpaid).bind fun _ => trivial

variable {org paymentId : Nat}

theorem uses_applyAllocation {invoice : Invoice} {amount : Int}
    (hinsert : allowed (.insertAllocation paymentId invoice.id amount))
    (hselect : ∀ id, allowed (.selectAllocation id)) (hread : allowed (.sumOfInvoice invoice.id))
    (hpaid : allowed (.markPaid invoice.id false)) :
    (applyAllocation org paymentId invoice amount).Uses allowed := by
  refine (Prog.Uses.send hinsert).bind fun r => ?_
  cases r with
  | error err => cases err <;> trivial
  | ok id =>
    refine (Prog.Uses.send (hselect id)).bind fun row => ?_
    refine (uses_finalizeIfFullyPaid hread hpaid).bind fun becamePaid => ?_
    cases becamePaid with
    | false => exact fun _ => trivial
    | true => exact fun _ _ => trivial

theorem uses_waterfall {rows : List (Invoice × Int)} {progress : Waterfall}
    (hinsert : ∀ row ∈ rows, ∀ amount, 0 ≤ amount →
      allowed (.insertAllocation paymentId row.1.id amount))
    (hread : ∀ row ∈ rows, allowed (.sumOfInvoice row.1.id))
    (hpaid : ∀ row ∈ rows, allowed (.markPaid row.1.id false)) :
    (waterfall paymentId rows progress).Uses allowed := by
  induction rows generalizing progress with
  | nil => trivial
  | cons row rows ih =>
    obtain ⟨invoice, balanceDue⟩ := row
    have hrest : ∀ progress, (waterfall paymentId rows progress).Uses allowed := fun progress =>
      ih (fun row h => hinsert row (List.mem_cons_of_mem _ h))
        (fun row h => hread row (List.mem_cons_of_mem _ h))
        (fun row h => hpaid row (List.mem_cons_of_mem _ h))
    simp only [waterfall]
    split
    · trivial
    · rename_i hremainder
      split
      · exact hrest progress
      · have hamount : 0 ≤ min progress.remainder (max 0 balanceDue) :=
          le_min (by omega) (le_max_left _ _)
        refine (Prog.Uses.send (hinsert _ List.mem_cons_self _ hamount)).bind fun r => ?_
        cases r with
        | error err =>
          cases err with
          | overAllocation => trivial
          | dupEntry => exact hrest progress
          | foreignKey => trivial
        | ok id =>
          exact (uses_finalizeIfFullyPaid (hread _ List.mem_cons_self)
            (hpaid _ List.mem_cons_self)).bind fun _ => hrest _

theorem uses_reconnectAll (invoices : List Invoice) : (reconnectAll invoices).Uses allowed := by
  induction invoices with
  | nil => trivial
  | cons invoice invoices ih => exact fun _ => ih

theorem uses_generateReps (org paymentId : Nat) (rows : List Applied) :
    (generateReps org paymentId rows).Uses allowed := by
  induction rows with
  | nil => trivial
  | cons row rows ih => exact fun _ => ih

theorem uses_distribute {rows : List (Invoice × Int)} {remainder : Int}
    (hinsert : ∀ row ∈ rows, ∀ amount, 0 ≤ amount →
      allowed (.insertAllocation paymentId row.1.id amount))
    (hread : ∀ row ∈ rows, allowed (.sumOfInvoice row.1.id))
    (hpaid : ∀ row ∈ rows, allowed (.markPaid row.1.id false)) :
    (distribute org paymentId rows remainder).Uses allowed := by
  refine (uses_waterfall hinsert hread hpaid).bind fun r => ?_
  cases r with
  | error response => trivial
  | ok progress =>
    exact (uses_reconnectAll progress.justPaid).bind fun _ =>
      (uses_generateReps org paymentId progress.applied).bind fun _ => trivial

theorem uses_replaceAllocation {existingId fromId toId : Nat} {moveAmount : Int}
    (hdelete : allowed (.softDeleteAllocation existingId true))
    (hinsert : allowed (.insertAllocation paymentId toId moveAmount))
    (hselect : ∀ id, allowed (.selectAllocation id))
    (hread : ∀ id, id = fromId ∨ id = toId → allowed (.selectAllocated id))
    (hpaid : ∀ id, id = fromId ∨ id = toId → allowed (.markPaid id true))
    (hissued : ∀ id, id = fromId ∨ id = toId → allowed (.markIssued id)) :
    (replaceAllocation org paymentId existingId fromId toId moveAmount).Uses allowed := by
  refine (Prog.Uses.send hdelete).bind fun r => ?_
  cases r with
  | error err => trivial
  | ok done =>
    refine (Prog.Uses.send hinsert).bind fun r => ?_
    cases r with
    | error err => cases err <;> trivial
    | ok id =>
      refine (uses_refreshInvoicePaidStatus (hread _ (Or.inl rfl)) (hpaid _ (Or.inl rfl))
        (hissued _ (Or.inl rfl))).bind fun _ => ?_
      refine (uses_refreshInvoicePaidStatus (hread _ (Or.inr rfl)) (hpaid _ (Or.inr rfl))
        (hissued _ (Or.inr rfl))).bind fun _ => ?_
      exact fun _ => (Prog.Uses.send (hselect id)).bind fun _ => trivial

theorem uses_removeAllocation {invoiceId rowId : Nat}
    (hdelete : allowed (.softDeleteAllocation rowId false))
    (hread : allowed (.selectAllocated invoiceId)) (hpaid : allowed (.markPaid invoiceId true))
    (hissued : allowed (.markIssued invoiceId)) :
    (removeAllocation paymentId invoiceId rowId).Uses allowed := by
  refine (Prog.Uses.send hdelete).bind fun r => ?_
  cases r with
  | error err => trivial
  | ok done => exact (uses_refreshInvoicePaidStatus hread hpaid hissued).bind fun _ => trivial

theorem uses_settleLedger {existing : Invoice} {action : String} {record : Option Invoice}
    (hdelete : allowed (.deleteInvoiceCredits existing.id existing.clientId))
    (hzero : allowed (.zeroInvoiceLedger existing.id existing.clientId)) :
    (settleLedger existing action record).Uses allowed :=
  ⟨hdelete, fun _ => ⟨hzero, fun _ _ => trivial⟩⟩

theorem uses_finishSettlement {existing : Invoice} {action : String} {record : Option Invoice}
    (hrelease : allowed (.releaseAllocationsTo existing.id))
    (hdelete : allowed (.deleteInvoiceCredits existing.id existing.clientId))
    (hzero : allowed (.zeroInvoiceLedger existing.id existing.clientId)) :
    (finishSettlement existing action record).Uses allowed := by
  unfold finishSettlement
  split
  · exact fun _ => trivial
  · split
    · refine (Prog.Uses.send hrelease).bind fun released => ?_
      cases released with
      | error err => trivial
      | ok done => exact uses_settleLedger hdelete hzero
    · exact uses_settleLedger hdelete hzero

theorem uses_settleInvoiceTerminal (invoiceId org : Nat) (status : TerminalStatus)
    (action : String) (forbidFrom : List InvoiceStatus) :
    (settleInvoiceTerminal invoiceId org status action forbidFrom).Uses
      (Stmt.SettlesOnly invoiceId) := by
  refine (Prog.Uses.send trivial).bind fun existing => ?_
  cases existing with
  | none => trivial
  | some existing =>
    simp only []
    split
    · trivial
    · have hupdate : Stmt.SettlesOnly invoiceId (.updateStatus invoiceId org status.status) := rfl
      refine (Prog.Uses.send hupdate).bind fun affected => ?_
      split
      · trivial
      · exact (Prog.Uses.send trivial).bind fun record =>
          uses_finishSettlement trivial trivial trivial

theorem uses_voidInvoiceById (invoiceId org : Nat) :
    (voidInvoiceById invoiceId org).Uses (Stmt.SettlesOnly invoiceId) := by
  refine (Prog.Uses.send trivial).bind fun cfdi => ?_
  cases cfdi with
  | some cfdi => trivial
  | none =>
    refine (Prog.Uses.send trivial).bind fun row => ?_
    cases row with
    | some row => trivial
    | none => exact uses_settleInvoiceTerminal invoiceId org .void "void" [.cancelled]

end Inventory

section Checks

variable (world : Nat → (e : Effect) → e.Answer)

@[simp] theorem engine_exec (stmt : Stmt) (tick : Nat) (current view : Db) :
    engine.exec stmt tick current view = stmt.exec tick current view := rfl

theorem allocate_cases (org paymentId invoiceId : Nat) (amount : Int) (tick : Nat) (db : Db) :
    (alone engine world (allocate org paymentId invoiceId amount) tick db none).db = db ∨
    ∃ invoice ∈ db.invoices, invoice.id = invoiceId ∧ invoice.status.terminal = false ∧
      alone engine world (allocate org paymentId invoiceId amount) tick db none =
        alone engine world (applyAllocation org paymentId invoice amount) (tick + 2) db none := by
  cases hpayment : paymentOf paymentId org db with
  | none => exact Or.inl (by simp [allocate, Stmt.exec, hpayment])
  | some payment =>
    cases hinvoice : invoiceOf invoiceId org db with
    | none => exact Or.inl (by simp [allocate, Stmt.exec, hpayment, hinvoice])
    | some invoice =>
      have hmatch := List.find?_some hinvoice
      simp only [Bool.and_eq_true, beq_iff_eq] at hmatch
      cases hterminal : invoice.status.terminal with
      | true => exact Or.inl (by simp [allocate, Stmt.exec, hpayment, hinvoice, hterminal])
      | false =>
        exact Or.inr ⟨invoice, List.mem_of_find?_eq_some hinvoice, hmatch.1.1, hterminal,
          by simp [allocate, Stmt.exec, hpayment, hinvoice, hterminal]⟩

theorem of_mem_payableInvoices {org clientId : Nat} {ids : Option (List Nat)}
    {invoices : List Invoice} {invoice : Invoice}
    (h : invoice ∈ payableInvoices org clientId ids invoices) :
    invoice ∈ invoices ∧ invoice.clientId = clientId ∧ invoice.organizationId = org ∧
      invoice.live = true ∧ invoice.status.payable = true := by
  have hfilter := (List.mem_insertionSort issuedBefore).mp h
  obtain ⟨hmem, hmatch⟩ := List.mem_filter.mp hfilter
  simp only [Bool.and_eq_true, beq_iff_eq] at hmatch
  exact ⟨hmem, hmatch.1.1.1.1, hmatch.1.1.1.2, hmatch.1.1.2, hmatch.1.2⟩

theorem allocateAuto_cases (org paymentId : Nat) (ids : Option (List Nat)) (tick : Nat) (db : Db) :
    (alone engine world (allocateAuto org paymentId ids) tick db none).db = db ∨
    ∃ payment rows remainder, paymentOf paymentId org db = some payment ∧
      (∀ row ∈ rows, row.1 ∈ payableInvoices org payment.clientId ids db.invoices) ∧
      alone engine world (allocateAuto org paymentId ids) tick db none =
        alone engine world (distribute org paymentId rows remainder) (tick + 4) db (some db) := by
  by_cases hids : ids = some []
  · exact Or.inl (by simp [allocateAuto, hids])
  · cases hpayment : paymentOf paymentId org db with
    | none => exact Or.inl (by simp [allocateAuto, Stmt.exec, hids, hpayment, refuse])
    | some payment =>
      by_cases hremainder : payment.amount ≤ allocatedFrom paymentId db.allocations
      · exact Or.inl (by simp [allocateAuto, Stmt.exec, hids, hpayment, hremainder, refuse])
      · by_cases hmissing : missingIds ids ((payableInvoices org payment.clientId ids
            db.invoices).map fun row => (row, row.total - allocatedTo row.id db.allocations)) = []
        · refine Or.inr ⟨payment, _, _, rfl, ?_,
            by simp [allocateAuto, Stmt.exec, hids, hpayment, hremainder, hmissing]; rfl⟩
          intro row hrow
          obtain ⟨invoice, hmem, rfl⟩ := List.mem_map.mp hrow
          exact hmem
        · exact Or.inl (by
            simp [allocateAuto, Stmt.exec, hids, hpayment, hremainder, hmissing, refuse])

theorem reallocate_cases (org paymentId fromId toId : Nat) (amount : Option Int) (tick : Nat)
    (db : Db) :
    (alone engine world (reallocate org paymentId fromId toId amount) tick db none).db = db ∨
    ∃ existing ∈ db.allocations, ∃ toInv ∈ db.invoices,
      existing.paymentId = paymentId ∧ existing.invoiceId = fromId ∧ existing.live = true ∧
      toInv.id = toId ∧ toInv.status.terminal = false ∧
      alone engine world (reallocate org paymentId fromId toId amount) tick db none =
        alone engine world (replaceAllocation org paymentId existing.id fromId toId
          (amount.getD existing.amount)) (tick + 4) db (some db) := by
  by_cases hsame : fromId = toId
  · exact Or.inl (by simp [reallocate, hsame])
  · cases hpayment : paymentOf paymentId org db with
    | none => exact Or.inl (by simp [reallocate, Stmt.exec, hsame, hpayment, refuse])
    | some payment =>
      cases hexisting : db.allocations.find? fun row =>
          row.paymentId == paymentId && row.invoiceId == fromId && row.live with
      | none => exact Or.inl (by simp [reallocate, Stmt.exec, hsame, hpayment, hexisting, refuse])
      | some existing =>
        have hmatch := List.find?_some hexisting
        simp only [Bool.and_eq_true, beq_iff_eq] at hmatch
        have hmove : alone engine world (reallocate org paymentId fromId toId amount) tick db
            none = alone engine world (moveAllocation org paymentId payment existing fromId toId
              (amount.getD existing.amount)) (tick + 3) db (some db) := by
          simp [reallocate, Stmt.exec, hsame, hpayment, hexisting]
        rw [hmove]
        set rows := db.invoices.filter fun row =>
          (row.id == fromId || row.id == toId) && row.live with hrows
        cases hfrom : rows.find? fun row => row.id == fromId with
        | none =>
          exact Or.inl (by
            cases hto : rows.find? fun row => row.id == toId <;>
              simp [moveAllocation, Stmt.exec, ← hrows, hfrom, hto, refuse])
        | some fromInv =>
          cases hto : rows.find? fun row => row.id == toId with
          | none =>
            exact Or.inl (by simp [moveAllocation, Stmt.exec, ← hrows, hfrom, hto, refuse])
          | some toInv =>
            have hid : toInv.id = toId := by simpa using List.find?_some hto
            cases hterminal : toInv.status.terminal with
            | true =>
              exact Or.inl (by
                simp [moveAllocation, Stmt.exec, ← hrows, hfrom, hto, hterminal, refuse])
            | false =>
              by_cases htoClient : toInv.clientId = payment.clientId
              · by_cases hfromClient : fromInv.clientId = payment.clientId
                · exact Or.inr ⟨existing, List.mem_of_find?_eq_some hexisting, toInv,
                    List.mem_of_mem_filter (List.mem_of_find?_eq_some hto), hmatch.1.1,
                    hmatch.1.2, hmatch.2, hid, hterminal, by
                      simp [moveAllocation, Stmt.exec, ← hrows, hfrom, hto, hterminal,
                        htoClient, hfromClient]⟩
                · exact Or.inl (by
                    simp [moveAllocation, Stmt.exec, ← hrows, hfrom, hto, hterminal,
                      htoClient, hfromClient, refuse])
              · exact Or.inl (by
                  simp [moveAllocation, Stmt.exec, ← hrows, hfrom, hto, hterminal,
                    htoClient, refuse])

theorem unapply_cases (org paymentId invoiceId : Nat) (tick : Nat) (db : Db) :
    (alone engine world (unapply org paymentId invoiceId) tick db none).db = db ∨
    ∃ row ∈ db.allocations, row.paymentId = paymentId ∧ row.invoiceId = invoiceId ∧
      row.live = true ∧
      alone engine world (unapply org paymentId invoiceId) tick db none =
        alone engine world (removeAllocation paymentId invoiceId row.id) (tick + 3) db
          (some db) := by
  cases hpayment : paymentOf paymentId org db with
  | none => exact Or.inl (by simp [unapply, Stmt.exec, hpayment, refuse])
  | some payment =>
    cases hrow : db.allocations.find? fun row =>
        row.paymentId == paymentId && row.invoiceId == invoiceId && row.live with
    | none => exact Or.inl (by simp [unapply, Stmt.exec, hpayment, hrow, refuse])
    | some row =>
      have hmatch := List.find?_some hrow
      simp only [Bool.and_eq_true, beq_iff_eq] at hmatch
      exact Or.inr ⟨row, List.mem_of_find?_eq_some hrow, hmatch.1.1, hmatch.1.2, hmatch.2, by
        simp [unapply, Stmt.exec, hpayment, hrow]⟩

theorem deletePayment_cases (org paymentId : Nat) (tick : Nat) (db : Db) :
    (paymentOf paymentId org db = none ∧
      (alone engine world (deletePayment org paymentId) tick db none).db = db) ∨
    ∃ payment tick' db', paymentOf paymentId org db = some payment ∧
      db'.payments = Table.put Payment.id { payment with deletedAt := some (tick + 1) }
        db.payments ∧
      db'.invoices = db.invoices ∧ db'.allocations = db.allocations ∧
      (alone engine world (deletePayment org paymentId) tick db none).db =
        (alone engine world (reversePaymentAllocations paymentId) tick' db' none).db := by
  cases hpayment : paymentOf paymentId org db with
  | none => exact Or.inl ⟨rfl, by simp [deletePayment, Stmt.exec, hpayment]⟩
  | some payment =>
    have hid : payment.id = paymentId := by
      have hmatch := List.find?_some hpayment
      simp only [Bool.and_eq_true, beq_iff_eq] at hmatch
      exact hmatch.1.1
    set db₁ := db.apply (.payment { payment with deletedAt := some (tick + 1) }) with hdb₁
    set db₂ := engine.visible db₁ ((Stmt.deletePaymentCredit payment.id).exec (tick + 3) db₁
      db₁).2 with hdb₂
    have hledger := visible_ledger_only db₁
      (onLedger_deletePaymentCredit payment.id (tick + 3) db₁ db₁)
    refine Or.inr ⟨payment, tick + 4, db₂, rfl, hledger.1, hledger.2.1, hledger.2.2, ?_⟩
    rw [← hid]
    rw [← hid] at hpayment
    have hrun : alone engine world (deletePayment org payment.id) tick db none =
        alone engine world (reversePaymentAllocations payment.id >>= fun _ =>
          return Response.ok 204 .none) (tick + 4) db₂ none := by
      simp [deletePayment, Stmt.exec, hpayment, hdb₂, hdb₁]
      rfl
    rw [hrun, alone_bind]
    rfl

theorem paymentOf_restored {org paymentId : Nat} {db : Db} {payment : Payment}
    (hkeyed : db.WellKeyed) (hpayment : deletedPaymentOf paymentId org db = some payment) :
    paymentOf paymentId org (db.apply (.payment { payment with deletedAt := none })) =
      some { payment with deletedAt := none } := by
  have hmatch := List.find?_some hpayment
  simp only [Bool.and_eq_true, beq_iff_eq] at hmatch
  refine Table.find?_eq_some (hkeyed.apply _).payments
    (Table.mem_put_self _ _) ?_ ?_
  · simp only [hmatch.1.1, hmatch.1.2, beq_self_eq_true, Bool.true_and]
    rfl
  · intro row _ hrow
    simp only [Bool.and_eq_true, beq_iff_eq] at hrow
    exact hrow.1.1.trans hmatch.1.1.symm

theorem restorePayment_cases (org paymentId : Nat) (tick : Nat) (db : Db) (hkeyed : db.WellKeyed) :
    (deletedPaymentOf paymentId org db = none ∧
      (alone engine world (restorePayment org paymentId) tick db none).db = db) ∨
    ∃ payment tick' db', deletedPaymentOf paymentId org db = some payment ∧
      db'.payments = Table.put Payment.id { payment with deletedAt := none } db.payments ∧
      db'.invoices = db.invoices ∧ db'.allocations = db.allocations ∧
      (alone engine world (restorePayment org paymentId) tick db none).db =
        (alone engine world (restorePaymentAllocations paymentId) tick' db' none).db := by
  cases hpayment : deletedPaymentOf paymentId org db with
  | none => exact Or.inl ⟨rfl, by simp [restorePayment, Stmt.exec, hpayment]⟩
  | some payment =>
    have hfound := paymentOf_restored hkeyed hpayment
    have hid : payment.id = paymentId := by
      have hmatch := List.find?_some hpayment
      simp only [Bool.and_eq_true, beq_iff_eq] at hmatch
      exact hmatch.1.1
    set restored : Payment := { payment with deletedAt := none } with hrestored
    set db₁ := db.apply (.payment restored) with hdb₁
    set db₂ := engine.visible db₁ ((Stmt.deletePaymentCredit payment.id).exec (tick + 3) db₁
      db₁).2 with hdb₂
    set db₃ := engine.visible db₂ ((Stmt.insertPaymentCredit restored org).exec (tick + 4) db₂
      db₂).2 with hdb₃
    have hdeleted := visible_ledger_only db₁
      (onLedger_deletePaymentCredit payment.id (tick + 3) db₁ db₁)
    have hinserted := visible_ledger_only db₂
      (onLedger_insertPaymentCredit restored org (tick + 4) db₂ db₂)
    refine Or.inr ⟨payment, tick + 5, db₃, rfl, hinserted.1.trans hdeleted.1,
      hinserted.2.1.trans hdeleted.2.1, hinserted.2.2.trans hdeleted.2.2, ?_⟩
    rw [← hid]
    rw [← hid] at hpayment hfound
    have hrun : alone engine world (restorePayment org payment.id) tick db none =
        alone engine world (restorePaymentAllocations payment.id >>= fun _ =>
          return Response.ok 200 (.payment (some restored))) (tick + 5) db₃ none := by
      have hdb₁' : engine.visible db [.payment restored] = db₁ := rfl
      simp [restorePayment, Stmt.exec, hpayment, ← hrestored, hdb₁', hfound, hdb₂, hdb₃]
      rfl
    rw [hrun, alone_bind]
    rfl

theorem alone_reversePaymentAllocations (paymentId : Nat) (tick : Nat) (db : Db) :
    (alone engine world (reversePaymentAllocations paymentId) tick db none).db =
      if liveAllocationsOf paymentId db = [] then db
      else
        match updateDeletedAt (some (tick + 1)) (liveAllocationsOf paymentId db) db db with
        | .error _ => db
        | .ok writes =>
          (alone engine world
            (refreshAll ((liveAllocationsOf paymentId db).map Allocation.invoiceId).dedup)
            (tick + 2) (engine.visible db writes) none).db := by
  by_cases hempty : liveAllocationsOf paymentId db = []
  · simp [reversePaymentAllocations, Stmt.exec, hempty]
  · cases hupdate : updateDeletedAt (some (tick + 1)) (liveAllocationsOf paymentId db) db db with
    | error e =>
      simp [reversePaymentAllocations, Stmt.exec, hempty, hupdate, statementReply]
    | ok writes =>
      simp [reversePaymentAllocations, Stmt.exec, hempty, hupdate, statementReply, alone_bind]

theorem alone_restorePaymentAllocations (paymentId : Nat) (tick : Nat) (db : Db) :
    (alone engine world (restorePaymentAllocations paymentId) tick db none).db =
      if deletedAllocationsOf paymentId db = [] then db
      else
        match updateDeletedAt none (deletedAllocationsOf paymentId db) db db with
        | .error _ => db
        | .ok writes =>
          (alone engine world
            (refreshAll ((deletedAllocationsOf paymentId db).map Allocation.invoiceId).dedup)
            (tick + 2) (engine.visible db writes) none).db := by
  by_cases hempty : deletedAllocationsOf paymentId db = []
  · simp [restorePaymentAllocations, Stmt.exec, hempty]
  · cases hupdate : updateDeletedAt none (deletedAllocationsOf paymentId db) db db with
    | error e =>
      simp [restorePaymentAllocations, Stmt.exec, hempty, hupdate, statementReply]
    | ok writes =>
      simp [restorePaymentAllocations, Stmt.exec, hempty, hupdate, statementReply, alone_bind]

theorem settle_cases (id org : Nat) (target : TerminalStatus) (action : String)
    (forbidFrom : List InvoiceStatus) (tick : Nat) (db : Db) :
    (alone engine world (settleInvoiceTerminal id org target action forbidFrom) tick db
      none).db = db ∨
    ∃ existing ∈ db.invoices, ∃ record, existing.id = id ∧ existing.organizationId = org ∧
      forbidFrom.contains existing.status = false ∧
      alone engine world (settleInvoiceTerminal id org target action forbidFrom) tick db none =
        alone engine world (finishSettlement existing action record) (tick + 3)
          (db.apply (.invoice { existing with status := target.status })) none := by
  cases hexisting : invoiceOf id org db with
  | none => exact Or.inl (by simp [settleInvoiceTerminal, Stmt.exec, hexisting])
  | some existing =>
    have hmatch := List.find?_some hexisting
    simp only [Bool.and_eq_true, beq_iff_eq] at hmatch
    cases hforbid : forbidFrom.contains existing.status with
    | true =>
      have hmem : existing.status ∈ forbidFrom := by simpa using hforbid
      exact Or.inl (by simp [settleInvoiceTerminal, Stmt.exec, hexisting, hmem])
    | false =>
      have hmem : existing.status ∉ forbidFrom := by simpa using hforbid
      refine Or.inr ⟨existing, List.mem_of_find?_eq_some hexisting,
        invoiceOf id org (db.apply (.invoice { existing with status := target.status })),
        hmatch.1.1, hmatch.1.2, hforbid, ?_⟩
      simp [settleInvoiceTerminal, Stmt.exec, hexisting, hmem]
      rfl

theorem void_cases (id org : Nat) (tick : Nat) (db : Db) :
    (alone engine world (voidInvoiceById id org) tick db none).db = db ∨
    (∀ invoice ∈ db.invoices, invoice.id = id → invoice.organizationId = org →
      ∀ row ∈ db.allocations, row.live = true → row.invoiceId ≠ id) ∧
    alone engine world (voidInvoiceById id org) tick db none =
      alone engine world (settleInvoiceTerminal id org .void "void" [.cancelled]) (tick + 2) db
        none := by
  cases hcfdi : db.cfdis.find? fun row => row.invoiceId == id && row.organizationId == org &&
      (row.satStatus == .draft || row.satStatus == .vigente || row.satStatus == .cancelPending) with
  | some cfdi => exact Or.inl (by simp [voidInvoiceById, Stmt.exec, hcfdi])
  | none =>
    cases hrow : db.allocations.find? fun row => row.invoiceId == id && row.live &&
        db.invoices.any fun invoice => invoice.id == id && invoice.organizationId == org with
    | some row => exact Or.inl (by simp [voidInvoiceById, Stmt.exec, hcfdi, hrow])
    | none =>
      refine Or.inr ⟨fun invoice hinvoice hid horg row hmem hlive hto => ?_, by
        simp [voidInvoiceById, Stmt.exec, hcfdi, hrow]⟩
      have hnone := List.find?_eq_none.mp hrow row hmem
      simp only [Bool.and_eq_true, beq_iff_eq, List.any_eq_true, not_and] at hnone
      exact hnone ⟨hto, hlive⟩ ⟨invoice, hinvoice, hid, horg⟩

end Checks

section Runs

variable {world : Nat → (e : Effect) → e.Answer}

variable (world) in
theorem Db.Good.alone {A : Type} {p : Request A} (hp : p.Uses Stmt.InsertsNonneg) {tick : Nat}
    {db : Db} {work : Option Db} (hdb : db.Good tick)
    (hwork : ∀ copy, work = some copy → copy.Good tick) :
    (Txn.alone engine world p tick db work).db.Good (Txn.alone engine world p tick db work).tick :=
  (alone_preserves (I := fun tick db => Db.Good tick db)
    (fun tick _ h => h.later (Nat.le_succ tick))
    (fun stmt hstmt _ _ h => h.exec stmt hstmt) hp hdb hwork).1

/-- The request moves no negative amount. -/
def Operation.AmountsNonneg : Operation → Prop
  | .reallocate _ _ _ _ (some amount) => 0 ≤ amount
  | _ => True

theorem uses_reversePaymentAllocations {allowed : Stmt → Prop} {paymentId : Nat}
    (hread : allowed (.allocatedInvoices paymentId true))
    (hdelete : allowed (.deleteAllocationsOf paymentId))
    (hselect : ∀ id, allowed (.selectAllocated id)) (hpaid : ∀ id, allowed (.markPaid id true))
    (hissued : ∀ id, allowed (.markIssued id)) :
    (reversePaymentAllocations paymentId).Uses allowed := by
  refine (Prog.Uses.send hread).bind fun ids => ?_
  split
  · trivial
  · refine (Prog.Uses.send hdelete).bind fun r => ?_
    cases r with
    | error err => trivial
    | ok done =>
      exact (uses_refreshAll (fun id _ => hselect id) (fun id _ => hpaid id)
        (fun id _ => hissued id)).bind fun _ => trivial

theorem uses_restorePaymentAllocations {allowed : Stmt → Prop} {paymentId : Nat}
    (hread : allowed (.allocatedInvoices paymentId false))
    (hrevive : allowed (.reviveAllocationsOf paymentId))
    (hselect : ∀ id, allowed (.selectAllocated id)) (hpaid : ∀ id, allowed (.markPaid id true))
    (hissued : ∀ id, allowed (.markIssued id)) :
    (restorePaymentAllocations paymentId).Uses allowed := by
  refine (Prog.Uses.send hread).bind fun ids => ?_
  split
  · trivial
  · refine (Prog.Uses.send hrevive).bind fun r => ?_
    cases r with
    | error err => trivial
    | ok done =>
      exact (uses_refreshAll (fun id _ => hselect id) (fun id _ => hpaid id)
        (fun id _ => hissued id)).bind fun _ => trivial

theorem uses_deletePayment (org paymentId : Nat) :
    (deletePayment org paymentId).Uses Stmt.Plain := by
  refine (Prog.Uses.send trivial).bind fun old => ?_
  cases old with
  | none => trivial
  | some old =>
    refine (Prog.Uses.send trivial).bind fun affected => ?_
    split
    · trivial
    · refine fun _ => ⟨trivial, fun _ => ?_⟩
      exact (uses_reversePaymentAllocations trivial trivial (fun _ => trivial)
        (fun _ => trivial) (fun _ => trivial)).bind fun _ => trivial

theorem uses_restorePayment (org paymentId : Nat) :
    (restorePayment org paymentId).Uses Stmt.Plain := by
  refine (Prog.Uses.send trivial).bind fun affected => ?_
  split
  · trivial
  · refine (Prog.Uses.send trivial).bind fun payment => ?_
    cases payment with
    | none => trivial
    | some payment =>
      refine fun _ => ⟨trivial, fun _ => ⟨trivial, fun _ => ?_⟩⟩
      exact (uses_restorePaymentAllocations trivial trivial (fun _ => trivial)
        (fun _ => trivial) (fun _ => trivial)).bind fun _ => trivial

variable (world) in
theorem operation_plain {op : Operation} (hop : op.AmountsNonneg) {tick : Nat} {db : Db}
    (hdb : db.Good tick)
    (hsettle : ∀ id org, op ≠ .voidInvoiceById id org)
    (hsettle' : ∀ id org status action forbidFrom,
      op ≠ .settleInvoiceTerminal id org status action forbidFrom) :
    (Txn.alone engine world op.request tick db none).db = db ∨
    ∃ (p : Request Response) (tick' : Nat) (work : Option Db), p.Uses Stmt.Plain ∧ tick ≤ tick' ∧
      (∀ copy, work = some copy → copy = db) ∧
      Txn.alone engine world op.request tick db none =
        Txn.alone engine world p tick' db work := by
  cases op with
  | allocate org paymentId invoiceId amount =>
    rcases allocate_cases world org paymentId invoiceId amount tick db with
      h | ⟨invoice, -, -, -, h⟩
    · exact Or.inl h
    · exact Or.inr ⟨_, _, none, uses_applyAllocation (Int.natCast_nonneg amount)
        (fun _ => trivial) trivial trivial, by omega, nofun, h⟩
  | allocateAuto org paymentId ids =>
    rcases allocateAuto_cases world org paymentId ids tick db with
      h | ⟨-, rows, remainder, -, -, h⟩
    · exact Or.inl h
    · exact Or.inr ⟨_, _, some db, uses_distribute (fun _ _ _ hamount => hamount)
        (fun _ _ => trivial) (fun _ _ => trivial), by omega, fun _ h => (Option.some.inj h).symm, h⟩
  | reallocate org paymentId fromId toId amount =>
    rcases reallocate_cases world org paymentId fromId toId amount tick db with
      h | ⟨existing, hmem, toInv, -, -, -, -, -, -, h⟩
    · exact Or.inl h
    · have hamount : 0 ≤ amount.getD existing.amount := by
        cases amount with
        | none => exact hdb.sound.nonneg existing hmem
        | some amount => exact hop
      exact Or.inr ⟨_, _, some db, uses_replaceAllocation trivial hamount (fun _ => trivial)
        (fun _ _ => trivial) (fun _ _ => trivial) (fun _ _ => trivial), by omega,
        fun _ h => (Option.some.inj h).symm, h⟩
  | unapply org paymentId invoiceId =>
    rcases unapply_cases world org paymentId invoiceId tick db with
      h | ⟨row, -, -, -, -, h⟩
    · exact Or.inl h
    · exact Or.inr ⟨_, _, some db, uses_removeAllocation trivial trivial trivial trivial,
        by omega, fun _ h => (Option.some.inj h).symm, h⟩
  | deletePayment org paymentId =>
    exact Or.inr ⟨_, _, none, uses_deletePayment org paymentId, le_refl _, nofun, rfl⟩
  | restorePayment org paymentId =>
    exact Or.inr ⟨_, _, none, uses_restorePayment org paymentId, le_refl _, nofun, rfl⟩
  | voidInvoiceById id org => exact absurd rfl (hsettle id org)
  | settleInvoiceTerminal id org status action forbidFrom =>
    exact absurd rfl (hsettle' id org status action forbidFrom)

theorem Books.step_good {s : Books} {op : Operation} (h : s.db.Good s.tick)
    (hop : op.AmountsNonneg) : (s.step world op).db.Good (s.step world op).tick := by
  by_cases hvoid : ∃ id org, op = .voidInvoiceById id org
  · obtain ⟨id, org, rfl⟩ := hvoid
    exact h.alone world ((uses_voidInvoiceById id org).mono fun _ hs => hs.insertsNonneg) nofun
  by_cases hsettle : ∃ id org status action forbidFrom,
      op = .settleInvoiceTerminal id org status action forbidFrom
  · obtain ⟨id, org, status, action, forbidFrom, rfl⟩ := hsettle
    exact h.alone world ((uses_settleInvoiceTerminal id org status action forbidFrom).mono
      fun _ hs => hs.insertsNonneg) nofun
  rcases operation_plain world hop h (fun id org e => hvoid ⟨id, org, e⟩)
      (fun id org status action forbidFrom e => hsettle ⟨id, org, status, action, forbidFrom, e⟩)
    with hsame | ⟨p, tick', work, huses, htick, hwork, hrun⟩
  · have hdb : (s.step world op).db = s.db := hsame
    rw [hdb]
    exact h.later (alone_tick_le _ _ _ _)
  · have hlater := h.later htick
    have hgood := hlater.alone world (huses.mono fun _ hs => hs.insertsNonneg)
      fun copy hcopy => hwork copy hcopy ▸ hlater
    unfold Books.step
    rw [hrun]
    exact hgood

theorem Books.step_caps {s : Books} (h : s.db.WellKeyed) (op : Operation) :
    (s.step world op).db.WellKeyed ∧ (s.step world op).db.caps = s.db.caps := by
  refine (alone_preserves (I := fun _ (db : Db) => db.WellKeyed ∧ db.caps = s.db.caps)
    (fun _ _ h => h) ?_ (Prog.uses_true _) ⟨h, rfl⟩
    (fun copy hcopy => by cases hcopy)).1
  rintro stmt - tick db ⟨hkeyed, hcaps⟩
  obtain ⟨hkeyed', hcaps'⟩ := visible_caps hkeyed fun w hw =>
    (exec_wrote stmt tick db db w hw).keepsCaps
  exact ⟨hkeyed', hcaps'.trans hcaps⟩

end Runs

end FireIsp.Billing
