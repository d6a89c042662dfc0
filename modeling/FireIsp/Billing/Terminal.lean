import FireIsp.Billing.Operations

/-!
# Terminal invoices

A void or cancelled invoice is meant to be out of the game: nothing is applied to it any
more and its status is final.  The statements that could disturb it are singled out, each
operation is shown to avoid them, and the result is carried over whole sequences.
-/

namespace FireIsp.Billing

open Txn

def Unallocated (id : Nat) (db : Db) : Prop :=
  ∀ row ∈ db.allocations, row.live = true → row.invoiceId ≠ id

/-- The invoice has the given status and carries no live allocation. -/
structure Closed (id : Nat) (status : InvoiceStatus) (db : Db) : Prop where
  status_eq : ∀ row ∈ db.invoices, row.id = id → row.status = status
  unallocated : Unallocated id db

def Open (id : Nat) (db : Db) : Prop :=
  ∀ row ∈ db.invoices, row.id = id → row.status.terminal = false

/-- Statements that leave the status and the allocations of the invoice alone. -/
def Stmt.Spares (id : Nat) : Stmt → Prop
  | .insertAllocation _ invoiceId _ => invoiceId ≠ id
  | .reviveAllocationsOf _ => False
  | .markPaid invoiceId _ => invoiceId ≠ id
  | .markIssued invoiceId => invoiceId ≠ id
  | .updateStatus invoiceId _ _ => invoiceId ≠ id
  | _ => True

/-- Row versions that leave the status and the allocations of the invoice alone. -/
def Write.Spares (id : Nat) : Write → Prop
  | .allocation row => row.live = true → row.invoiceId ≠ id
  | .invoice row => row.id ≠ id
  | _ => True

/-- Row versions that settle no invoice of this id. -/
def Write.KeepsOpen (id : Nat) : Write → Prop
  | .invoice row => row.id = id → row.status.terminal = false
  | _ => True

variable {id : Nat} {status : InvoiceStatus} {world : Nat → (e : Effect) → e.Answer}

theorem mem_liveAllocationsTo {row : Allocation} {db : Db} :
    row ∈ liveAllocationsTo id db ↔
      row ∈ db.allocations ∧ row.invoiceId = id ∧ row.live = true := by
  simp only [liveAllocationsTo, List.mem_filter, Bool.and_eq_true, beq_iff_eq]

theorem unallocated_iff {db : Db} : Unallocated id db ↔ liveAllocationsTo id db = [] := by
  rw [List.eq_nil_iff_forall_not_mem]
  constructor
  · intro h row hrow
    obtain ⟨hmem, hid, hlive⟩ := mem_liveAllocationsTo.mp hrow
    exact h row hmem hlive hid
  · intro h row hmem hlive hid
    exact h row (mem_liveAllocationsTo.mpr ⟨hmem, hid, hlive⟩)

variable {w : Write}

theorem Unallocated.apply {db : Db} (h : Unallocated id db) (hw : w.Spares id) :
    Unallocated id (db.apply w) := by
  cases w with
  | allocation new =>
    intro row hrow hlive
    rcases Table.mem_of_mem_put hrow with rfl | hmem
    · exact hw hlive
    · exact h row hmem hlive
  | payment new => exact h
  | invoice new => exact h
  | ledger new => exact h
  | dropLedger id => exact h

theorem Closed.apply {db : Db} (h : Closed id status db) (hw : w.Spares id) :
    Closed id status (db.apply w) := by
  refine ⟨?_, h.unallocated.apply hw⟩
  cases w with
  | invoice new =>
    intro row hrow hid
    rcases Table.mem_of_mem_put hrow with rfl | hmem
    · exact absurd hid hw
    · exact h.status_eq row hmem hid
  | allocation new => exact h.status_eq
  | payment new => exact h.status_eq
  | ledger new => exact h.status_eq
  | dropLedger id => exact h.status_eq

theorem Open.apply {db : Db} (h : Open id db) (hw : w.KeepsOpen id) :
    Open id (db.apply w) := by
  cases w with
  | invoice new =>
    intro row hrow hid
    rcases Table.mem_of_mem_put hrow with rfl | hmem
    · exact hw hid
    · exact h row hmem hid
  | allocation new => exact h
  | payment new => exact h
  | ledger new => exact h
  | dropLedger id => exact h

variable {stmt : Stmt} {current view : Db}

theorem Wrote.spares {tick : Nat} (h : Wrote stmt tick current view w) (hstmt : stmt.Spares id) :
    w.Spares id := by
  cases h with
  | payment old hold deletedAt => trivial
  | invoice old hold newStatus paidAt hsets =>
    cases stmt with
    | markPaid invoiceId unlessPaid => exact hsets.1 ▸ hstmt
    | markIssued invoiceId => exact hsets.1 ▸ hstmt
    | updateStatus invoiceId org new => exact hsets.1 ▸ hstmt
    | _ => exact hsets.elim
  | inserted paymentId invoiceId amount hinsert =>
    subst hinsert
    exact fun _ => hstmt
  | deleted old hold deletedAt => exact fun hlive => absurd hlive (by simp [Allocation.live])
  | revived old hold hdead hrevive =>
    subst hrevive
    exact hstmt.elim
  | ledger row => trivial
  | dropLedger rowId => trivial

theorem Wrote.keepsOpen_of_plain {tick : Nat} (h : Wrote stmt tick current view w)
    (hstmt : stmt.Plain) : w.KeepsOpen id := by
  cases h with
  | invoice old hold newStatus paidAt hsets =>
    intro _
    cases stmt with
    | markPaid invoiceId unlessPaid =>
      obtain ⟨-, rfl⟩ := hsets
      rfl
    | markIssued invoiceId =>
      obtain ⟨-, rfl⟩ := hsets
      rfl
    | updateStatus invoiceId org new => exact hstmt.elim
    | _ => exact hsets.elim
  | _ => trivial

theorem Wrote.keepsOpen_of_other {tick : Nat} (h : Wrote stmt tick current view w) {other : Nat}
    (hother : other ≠ id) (hstmt : stmt.SettlesOnly other) : w.KeepsOpen id := by
  cases h with
  | invoice old hold newStatus paidAt hsets =>
    intro hid
    cases stmt with
    | markPaid invoiceId unlessPaid => exact hstmt.elim
    | markIssued invoiceId => exact hstmt.elim
    | updateStatus invoiceId org new => exact absurd (hstmt.symm.trans (hsets.1.trans hid)) hother
    | _ => exact hsets.elim
  | _ => trivial

theorem Stmt.SettlesOnly.spares {other : Nat} (hother : other ≠ id) (h : stmt.SettlesOnly other) :
    stmt.Spares id := by
  cases stmt with
  | updateStatus invoiceId org new => exact fun e => hother (h.symm.trans e)
  | insertAllocation => exact h.elim
  | reviveAllocationsOf => exact h.elim
  | markPaid => exact h.elim
  | markIssued => exact h.elim
  | _ => trivial

theorem Closed.exec {db : Db} (h : Closed id status db) (hstmt : stmt.Spares id) (tick : Nat) :
    Closed id status (engine.visible db (stmt.exec tick db db).2) :=
  Engine.visible_invariant (E := engine)
    (fun _ w hw hclosed => hclosed.apply ((exec_wrote stmt tick db db w hw).spares hstmt)) h

theorem Closed.alone {A : Type} {p : Request A} (hp : p.Uses (Stmt.Spares id)) {tick : Nat}
    {db : Db} {work : Option Db} (h : Closed id status db)
    (hwork : ∀ copy, work = some copy → Closed id status copy) :
    Closed id status (Txn.alone engine world p tick db work).db :=
  (alone_preserves (I := fun _ db => Closed id status db) (fun _ _ h => h)
    (fun _ hstmt tick _ h => h.exec hstmt tick) hp h hwork).1

theorem Open.alone {A : Type} {p : Request A} {allowed : Stmt → Prop} (hp : p.Uses allowed)
    (hallowed : ∀ stmt tick current view w, allowed stmt →
      Wrote stmt tick current view w → w.KeepsOpen id)
    {tick : Nat} {db : Db} {work : Option Db} (h : Open id db)
    (hwork : ∀ copy, work = some copy → Open id copy) :
    Open id (Txn.alone engine world p tick db work).db :=
  (alone_preserves (I := fun _ db => Open id db) (fun _ _ h => h)
    (fun stmt hstmt tick db h => Engine.visible_invariant (E := engine)
      (fun _ w hw hopen =>
        hopen.apply (hallowed stmt tick db db w hstmt (exec_wrote stmt tick db db w hw))) h)
    hp h hwork).1

theorem updateDeletedAt_accepts {tick : Nat} {rows : List Allocation} {db : Db} (h : db.Good tick)
    (hnodup : (rows.map Allocation.id).Nodup)
    (hrows : ∀ row ∈ rows, row ∈ db.allocations ∧ row.live = true) (deletedAt : Nat) :
    ∃ writes, updateDeletedAt (some deletedAt) rows db db = .ok writes := by
  induction rows generalizing db with
  | nil => exact ⟨[], rfl⟩
  | cons row rows ih =>
    obtain ⟨hmem, hlive⟩ := hrows row List.mem_cons_self
    obtain ⟨hnot, hrest⟩ := List.nodup_cons.mp hnodup
    have hguard := guardsAccept_of_within h.sound h.within hmem hlive (some deletedAt)
    have hgood : (db.apply (.allocation { row with deletedAt := some deletedAt })).Good tick :=
      ⟨h.sound.applyVersion (h.sound.fresh row hmem) (h.sound.nonneg row hmem),
        within_update h.sound h.within (h.sound.nonneg row hmem) hguard⟩
    obtain ⟨writes, hwrites⟩ := ih hgood hrest fun other hother => by
      obtain ⟨hmem', hlive'⟩ := hrows other (List.mem_cons_of_mem _ hother)
      refine ⟨(Table.mem_put h.sound.keyed.allocations).mpr (Or.inr ⟨hmem', fun e => ?_⟩), hlive'⟩
      exact hnot (List.mem_map.mpr ⟨other, hother, e⟩)
    refine ⟨.allocation { row with deletedAt := some deletedAt } :: writes, ?_⟩
    simp only [updateDeletedAt, hguard, Bool.not_true, Bool.false_eq_true, if_false,
      Allocation.live, Option.isNone_some, Bool.false_and, hwrites]

variable (id) in
theorem release_unallocated {tick : Nat} {db : Db} (h : db.Good tick) :
    ∃ writes, (Stmt.releaseAllocationsTo id).exec tick db db = (.ok (), writes) ∧
      Unallocated id (engine.visible db writes) ∧
      (engine.visible db writes).invoices = db.invoices := by
  have hnodup : ((liveAllocationsTo id db).map Allocation.id).Nodup :=
    h.sound.keyed.allocations.sublist (List.filter_sublist.map _)
  obtain ⟨writes, hok⟩ := updateDeletedAt_accepts h hnodup
    (fun row hrow => ⟨(mem_liveAllocationsTo.mp hrow).1, (mem_liveAllocationsTo.mp hrow).2.2⟩) tick
  refine ⟨writes, by simp only [Stmt.exec, hok, statementReply], ?_,
    (visible_updateDeletedAt_other hok db).1⟩
  intro row hrow hlive hid
  rw [visible_updateDeletedAt h.sound.keyed hok] at hrow
  obtain ⟨old, -, rfl⟩ := List.mem_map.mp hrow
  split at hlive
  · cases hlive
  · rename_i hmatch
    rw [if_neg hmatch] at hid
    simp [hid, hlive] at hmatch

theorem status_after_update {db : Db} (hkeyed : db.WellKeyed) {existing : Invoice}
    (hid : existing.id = id) (new : InvoiceStatus) :
    ∀ row ∈ (db.apply (.invoice { existing with status := new })).invoices,
      row.id = id → row.status = new := by
  intro row hrow hrowId
  rcases (Table.mem_put hkeyed.invoices).mp hrow with rfl | ⟨-, hne⟩
  · rfl
  · exact absurd (hrowId.trans hid.symm) hne

section Settle

variable (world) (org tick : Nat) (target : TerminalStatus) (action : String)
  (forbidFrom : List InvoiceStatus) {db : Db}

theorem Open.settle (h : Open id db) (hgood : db.Good tick)
    (hguard : ∀ row ∈ db.invoices, row.id = id → row.organizationId = org →
      Unallocated id db ∨ row.status = .paid) :
    let db' := (Txn.alone engine world (settleInvoiceTerminal id org target action forbidFrom)
      tick db none).db
    Open id db' ∨ Closed id target.status db' := by
  rcases settle_cases world id org target action forbidFrom tick db with
    hsame | ⟨existing, hmem, record, hid, horg, -, hrun⟩
  · exact Or.inl (by rw [hsame]; exact h)
  · right
    rw [hrun]
    set updated := db.apply (.invoice { existing with status := target.status }) with hupdated
    have hstatus := status_after_update hgood.sound.keyed hid target.status
    rw [← hupdated] at hstatus
    have hterminal : existing.status.terminal = false := h existing hmem hid
    by_cases hpaid : existing.status = .paid
    · have hcaps : (Write.invoice { existing with status := target.status }).KeepsCaps db.caps :=
        List.mem_map.mpr ⟨existing, hmem, rfl⟩
      have hupdatedGood : updated.Good (tick + 3) :=
        (hgood.visible_other [.invoice { existing with status := target.status }]
          (by simpa using hcaps) (by simp)).later (by omega)
      obtain ⟨writes, hexec, hreleased, hinvoices⟩ := release_unallocated id hupdatedGood
      have hclosed : Closed id target.status (engine.visible updated writes) :=
        ⟨hinvoices ▸ hstatus, hreleased⟩
      have hfinish : Txn.alone engine world (finishSettlement existing action record) (tick + 3)
          updated none = Txn.alone engine world (settleLedger existing action record) (tick + 4)
            (engine.visible updated writes) none := by
        rw [← hid] at hexec
        simp [finishSettlement, hpaid, InvoiceStatus.terminal, hexec]
      rw [hfinish]
      exact hclosed.alone (uses_settleLedger trivial trivial) nofun
    · have hunallocated : Unallocated id updated := by
        rcases hguard existing hmem hid horg with hguard | hguard
        · exact hguard
        · exact absurd hguard hpaid
      have hfinish : finishSettlement existing action record =
          settleLedger existing action record := by
        simp [finishSettlement, hpaid, hterminal]
      rw [hfinish]
      exact Closed.alone (uses_settleLedger trivial trivial) ⟨hstatus, hunallocated⟩ nofun

theorem Closed.settle (h : Closed id status db) (hkeyed : db.WellKeyed) :
    let db' := (Txn.alone engine world (settleInvoiceTerminal id org target action forbidFrom)
      tick db none).db
    Closed id status db' ∨ (forbidFrom.contains status = false ∧ Closed id target.status db') := by
  rcases settle_cases world id org target action forbidFrom tick db with
    hsame | ⟨existing, hmem, record, hid, -, hforbid, hrun⟩
  · exact Or.inl (by rw [hsame]; exact h)
  · have hstatus : existing.status = status := h.status_eq existing hmem hid
    refine Or.inr ⟨hstatus ▸ hforbid, ?_⟩
    rw [hrun]
    refine Closed.alone (uses_finishSettlement trivial trivial trivial) ?_ nofun
    exact ⟨status_after_update hkeyed hid _, h.unallocated⟩

end Settle

def Operation.SettlesTo (id : Nat) (status : InvoiceStatus) (op : Operation) : Prop :=
  ∃ org target action forbidFrom,
    op = .settleInvoiceTerminal id org target action forbidFrom ∧ target.status = status

/-- What keeps a terminal invoice settled: no revival, no settling over money, no negative amount. -/
def Operation.Respects (id : Nat) (s : Books) : Operation → Prop
  | .restorePayment _ paymentId =>
    ∀ row ∈ deletedAllocationsOf paymentId s.db, row.invoiceId = id → Open id s.db
  | .settleInvoiceTerminal invoiceId _ _ _ _ =>
    invoiceId = id → Unallocated id s.db ∨
      ∀ row ∈ s.db.invoices, row.id = id → row.status = .paid
  | .reallocate _ _ _ _ (some amount) => 0 ≤ amount
  | _ => True

variable {s : Books} {op : Operation}

theorem Operation.Respects.amountsNonneg (h : op.Respects id s) :
    op.AmountsNonneg := by
  cases op with
  | reallocate org paymentId fromId toId amount =>
    cases amount with
    | none => trivial
    | some amount => exact h
  | _ => trivial

theorem Closed.updateDeletedAt {deletedAt : Option Nat} {rows : List Allocation} {db : Db}
    {writes : List Write} (h : Closed id status db)
    (hok : updateDeletedAt deletedAt rows current view = .ok writes)
    (hrows : deletedAt = none → ∀ row ∈ rows, row.invoiceId ≠ id) :
    Closed id status (engine.visible db writes) := by
  refine Engine.visible_invariant (E := engine) (fun state w hw hclosed => hclosed.apply ?_) h
  rw [updateDeletedAt_ok hok] at hw
  obtain ⟨row, hrow, rfl⟩ := List.mem_map.mp hw
  intro hlive
  refine hrows ?_ row hrow
  cases deletedAt with
  | none => rfl
  | some at' => cases hlive

theorem Closed.refreshAll {tick : Nat} {db : Db} {ids : List Nat} (h : Closed id status db)
    (hids : ∀ other ∈ ids, other ≠ id) :
    Closed id status (Txn.alone engine world (refreshAll ids) tick db none).db :=
  h.alone (uses_refreshAll (fun _ _ => trivial) hids hids) nofun

theorem InvoiceStatus.terminal_of_payable {status : InvoiceStatus} (h : status.payable = true) :
    status.terminal = false := by
  cases status <;> first | rfl | cases h

variable (world) in
/-- Respectful operations keep a closed invoice closed; only settling it changes its status. -/
theorem Books.step_closed (h : Closed id status s.db) (hgood : s.db.Good s.tick)
    (hexists : ∃ row ∈ s.db.invoices, row.id = id) (hterminal : status.terminal = true)
    (hop : op.Respects id s) :
    Closed id status (s.step world op).db ∨
      ∃ status', op.SettlesTo id status' ∧ Closed id status' (s.step world op).db := by
  have hopen : ∀ row ∈ s.db.invoices, row.status.terminal = false → row.id ≠ id :=
    fun row hrow hnot hid => by
      rw [h.status_eq row hrow hid, hterminal] at hnot
      cases hnot
  have hother : ∀ {A : Type} {p : Request A} {tick : Nat} {work : Option Db},
      p.Uses (Stmt.Spares id) → (∀ copy, work = some copy → copy = s.db) →
      Closed id status (Txn.alone engine world p tick s.db work).db :=
    fun hp hwork => h.alone hp fun copy hcopy => hwork copy hcopy ▸ h
  cases op with
  | allocate org paymentId invoiceId amount =>
    left
    rcases allocate_cases world org paymentId invoiceId amount s.tick s.db with
      hsame | ⟨invoice, hmem, -, hnot, hrun⟩
    · exact (congrArg (Closed id status) hsame).mpr h
    · have hne := hopen invoice hmem hnot
      refine (congrArg (fun o => Closed id status o.db) hrun).mpr ?_
      exact hother (uses_applyAllocation hne (fun _ => trivial) trivial hne) nofun
  | allocateAuto org paymentId ids =>
    left
    rcases allocateAuto_cases world org paymentId ids s.tick s.db with
      hsame | ⟨payment, rows, remainder, -, hrows, hrun⟩
    · exact (congrArg (Closed id status) hsame).mpr h
    · have hne : ∀ row ∈ rows, row.1.id ≠ id := fun row hrow => by
        obtain ⟨hmem, -, -, -, hpayable⟩ := of_mem_payableInvoices (hrows row hrow)
        exact hopen row.1 hmem (InvoiceStatus.terminal_of_payable hpayable)
      refine (congrArg (fun o => Closed id status o.db) hrun).mpr ?_
      exact hother (uses_distribute (fun row hrow _ _ => hne row hrow) (fun _ _ => trivial) hne)
        fun _ hcopy => (Option.some.inj hcopy).symm
  | reallocate org paymentId fromId toId amount =>
    left
    rcases reallocate_cases world org paymentId fromId toId amount s.tick s.db with
      hsame | ⟨existing, hmem, toInv, htoMem, -, hfrom, hlive, hto, hnot, hrun⟩
    · exact (congrArg (Closed id status) hsame).mpr h
    · have hfromNe : fromId ≠ id := hfrom ▸ h.unallocated existing hmem hlive
      have htoNe : toId ≠ id := hto ▸ hopen toInv htoMem hnot
      have hboth : ∀ other, other = fromId ∨ other = toId → other ≠ id := by
        rintro other (rfl | rfl)
        · exact hfromNe
        · exact htoNe
      refine (congrArg (fun o => Closed id status o.db) hrun).mpr ?_
      exact hother (uses_replaceAllocation trivial htoNe (fun _ => trivial)
        (fun _ _ => trivial) hboth hboth) fun _ hcopy => (Option.some.inj hcopy).symm
  | unapply org paymentId invoiceId =>
    left
    rcases unapply_cases world org paymentId invoiceId s.tick s.db with
      hsame | ⟨row, hmem, -, hto, hlive, hrun⟩
    · exact (congrArg (Closed id status) hsame).mpr h
    · have hne : invoiceId ≠ id := hto ▸ h.unallocated row hmem hlive
      refine (congrArg (fun o => Closed id status o.db) hrun).mpr ?_
      exact hother (uses_removeAllocation trivial trivial hne hne)
        fun _ hcopy => (Option.some.inj hcopy).symm
  | deletePayment org paymentId =>
    left
    rcases deletePayment_cases world org paymentId s.tick s.db with
      ⟨-, hsame⟩ | ⟨payment, tick', db', -, -, hinvoices, hallocations, hrun⟩
    · exact (congrArg (Closed id status) hsame).mpr h
    · have hclosed : Closed id status db' :=
        ⟨hinvoices ▸ h.status_eq, fun row hrow => h.unallocated row (hallocations ▸ hrow)⟩
      refine (congrArg (Closed id status) hrun).mpr ?_
      rw [alone_reversePaymentAllocations]
      split
      · exact hclosed
      · split
        · exact hclosed
        · rename_i writes hok
          refine (hclosed.updateDeletedAt hok nofun).refreshAll fun other hmem => ?_
          obtain ⟨row, hrow, rfl⟩ := List.mem_map.mp (List.mem_dedup.mp hmem)
          obtain ⟨hrowMem, hlive⟩ := List.mem_filter.mp hrow
          simp only [Bool.and_eq_true] at hlive
          exact hclosed.unallocated row hrowMem hlive.2
  | restorePayment org paymentId =>
    left
    rcases restorePayment_cases world org paymentId s.tick s.db hgood.sound.keyed with
      ⟨-, hsame⟩ | ⟨payment, tick', db', -, -, hinvoices, hallocations, hrun⟩
    · exact (congrArg (Closed id status) hsame).mpr h
    · have hclosed : Closed id status db' :=
        ⟨hinvoices ▸ h.status_eq, fun row hrow => h.unallocated row (hallocations ▸ hrow)⟩
      have hdead : ∀ row ∈ deletedAllocationsOf paymentId db', row.invoiceId ≠ id := by
        intro row hrow hid
        rw [deletedAllocationsOf, hallocations] at hrow
        obtain ⟨invoice, hinvoice, hinvoiceId⟩ := hexists
        exact hopen invoice hinvoice (hop row hrow hid invoice hinvoice hinvoiceId) hinvoiceId
      refine (congrArg (Closed id status) hrun).mpr ?_
      rw [alone_restorePaymentAllocations]
      split
      · exact hclosed
      · split
        · exact hclosed
        · rename_i writes hok
          refine (hclosed.updateDeletedAt hok fun _ => hdead).refreshAll fun other hmem => ?_
          obtain ⟨row, hrow, rfl⟩ := List.mem_map.mp (List.mem_dedup.mp hmem)
          exact hdead row hrow
  | voidInvoiceById invoiceId org =>
    left
    by_cases hid : invoiceId = id
    · subst hid
      rcases void_cases world invoiceId org s.tick s.db with hsame | ⟨-, hrun⟩
      · exact (congrArg (Closed invoiceId status) hsame).mpr h
      · refine (congrArg (fun o => Closed invoiceId status o.db) hrun).mpr ?_
        rcases h.settle world org (s.tick + 2) .void "void" [.cancelled]
            hgood.sound.keyed with
          hsame | ⟨hforbid, hvoid⟩
        · exact hsame
        · have hstatus : status = .void := by
            cases status <;> first | rfl | exact absurd hforbid (by decide) | cases hterminal
          exact hstatus ▸ hvoid
    · exact hother ((uses_voidInvoiceById invoiceId org).mono fun _ hs => hs.spares hid) nofun
  | settleInvoiceTerminal invoiceId org target action forbidFrom =>
    by_cases hid : invoiceId = id
    · subst hid
      rcases h.settle world org s.tick target action forbidFrom
          hgood.sound.keyed with
        hsame | ⟨-, hsettled⟩
      · exact Or.inl hsame
      · exact Or.inr ⟨target.status, ⟨org, target, action, forbidFrom, rfl, rfl⟩, hsettled⟩
    · exact Or.inl (hother ((uses_settleInvoiceTerminal invoiceId org target action
        forbidFrom).mono fun _ hs => hs.spares hid) nofun)

theorem TerminalStatus.terminal (target : TerminalStatus) : target.status.terminal = true := by
  cases target <;> rfl

theorem Books.step_open (h : Open id s.db) (hgood : s.db.Good s.tick) (hop : op.Respects id s) :
    Open id (s.step world op).db ∨
      ∃ status, status.terminal = true ∧ Closed id status (s.step world op).db := by
  by_cases hsettle : ∃ invoiceId org target action forbidFrom,
      op = .settleInvoiceTerminal invoiceId org target action forbidFrom
  · obtain ⟨invoiceId, org, target, action, forbidFrom, rfl⟩ := hsettle
    by_cases hid : invoiceId = id
    · subst hid
      rcases h.settle world org s.tick target action forbidFrom hgood
          (fun row hrow hid _ => (hop rfl).imp_right fun hpaid => hpaid row hrow hid) with
        hopen | hclosed
      · exact Or.inl hopen
      · exact Or.inr ⟨target.status, target.terminal, hclosed⟩
    · exact Or.inl (h.alone (uses_settleInvoiceTerminal invoiceId org target action forbidFrom)
        (fun _ _ _ _ _ hs hw => hw.keepsOpen_of_other hid hs) nofun)
  by_cases hvoid : ∃ invoiceId org, op = .voidInvoiceById invoiceId org
  · obtain ⟨invoiceId, org, rfl⟩ := hvoid
    by_cases hid : invoiceId = id
    · subst hid
      rcases void_cases world invoiceId org s.tick s.db with
        hsame | ⟨hunallocated, hrun⟩
      · exact Or.inl ((congrArg (Open invoiceId) hsame).mpr h)
      · rw [show s.step world (.voidInvoiceById invoiceId org) = ⟨_, _⟩ from rfl]
        simp only [Operation.request, hrun]
        rcases h.settle world org (s.tick + 2) .void "void" [.cancelled]
            (hgood.later (Nat.le_add_right s.tick 2))
            (fun row hrow hid horg => Or.inl (hunallocated row hrow hid horg)) with hopen | hclosed
        · exact Or.inl hopen
        · exact Or.inr ⟨.void, rfl, hclosed⟩
    · exact Or.inl (h.alone (uses_voidInvoiceById invoiceId org)
        (fun _ _ _ _ _ hs hw => hw.keepsOpen_of_other hid hs) nofun)
  left
  rcases operation_plain world hop.amountsNonneg hgood
      (fun invoiceId org e => hvoid ⟨invoiceId, org, e⟩)
      (fun invoiceId org target action forbidFrom e =>
        hsettle ⟨invoiceId, org, target, action, forbidFrom, e⟩)
    with hsame | ⟨p, tick', work, huses, -, hwork, hrun⟩
  · exact (congrArg (Open id) hsame).mpr h
  · refine (congrArg (fun o => Open id o.db) hrun).mpr ?_
    exact h.alone huses (fun _ _ _ _ _ hs hw => hw.keepsOpen_of_plain hs)
      fun copy hcopy => hwork copy hcopy ▸ h

/-- A terminal invoice in a good database, with nothing applied to it. -/
structure Settled (id : Nat) (s : Books) : Prop where
  good : s.db.Good s.tick
  on_record : ∃ row ∈ s.db.invoices, row.id = id
  closed : ∃ status, status.terminal = true ∧ Closed id status s.db

theorem Caps.on_record {db : Db} :
    (∃ row ∈ db.invoices, row.id = id) ↔ ∃ total, (id, total) ∈ db.caps.invoices := by
  constructor
  · rintro ⟨row, hrow, rfl⟩
    exact ⟨row.total, List.mem_map.mpr ⟨row, hrow, rfl⟩⟩
  · rintro ⟨total, hmem⟩
    obtain ⟨row, hrow, heq⟩ := List.mem_map.mp hmem
    exact ⟨row, hrow, congrArg Prod.fst heq⟩

variable (world) in
theorem Settled.step (h : Settled id s) (hop : op.Respects id s) :
    Settled id (s.step world op) := by
  obtain ⟨status, hterminal, hclosed⟩ := h.closed
  refine ⟨Books.step_good h.good hop.amountsNonneg, ?_, ?_⟩
  · rw [Caps.on_record, (Books.step_caps h.good.sound.keyed op).2]
    exact Caps.on_record.mp h.on_record
  · rcases Books.step_closed world hclosed h.good h.on_record hterminal hop with
      hsame | ⟨status', ⟨org, target, action, forbidFrom, -, rfl⟩, hnew⟩
    · exact ⟨status, hterminal, hsame⟩
    · exact ⟨target.status, target.terminal, hnew⟩

variable (world) in
theorem open_or_closed_run {ops : List Operation} (hgood : s.db.Good s.tick)
    (hstart : Open id s.db ∨ ∃ status, status.terminal = true ∧ Closed id status s.db)
    (hexists : ∃ row ∈ s.db.invoices, row.id = id)
    (hrun : Transition.Along (Books.step world) (fun s op => op.Respects id s) s ops) :
    let s' := Transition.run (Books.step world) s ops
    s'.db.Good s'.tick ∧ (∃ row ∈ s'.db.invoices, row.id = id) ∧
      (Open id s'.db ∨ ∃ status, status.terminal = true ∧ Closed id status s'.db) := by
  refine Transition.run_invariant (I := fun s : Books => s.db.Good s.tick ∧
    (∃ row ∈ s.db.invoices, row.id = id) ∧
    (Open id s.db ∨ ∃ status, status.terminal = true ∧ Closed id status s.db)) ?_
    ⟨hgood, hexists, hstart⟩ hrun
  rintro s op ⟨hgood, hexists, hopen | hclosed⟩ hop
  · refine ⟨Books.step_good hgood hop.amountsNonneg, ?_, Books.step_open hopen hgood hop⟩
    rw [Caps.on_record, (Books.step_caps hgood.sound.keyed op).2]
    exact Caps.on_record.mp hexists
  · have hsettled : Settled id (s.step world op) := Settled.step world ⟨hgood, hexists, hclosed⟩ hop
    exact ⟨hsettled.good, hsettled.on_record, Or.inr hsettled.closed⟩

/-- A void or cancelled invoice stays terminal and free of live allocations. -/
theorem terminal_absorbing (world : Nat → (e : Effect) → e.Answer) {s : Books} {id : Nat}
    (before after : List Operation) {op : Operation} {invoice : Invoice}
    (hgood : s.db.Good s.tick) (hstart : Open id s.db ∨ Unallocated id s.db)
    (hrun : Transition.Along (Books.step world) (fun s op => op.Respects id s) s
      (before ++ (after ++ [op])))
    (hinvoice : invoice ∈ (Transition.run (Books.step world) s before).db.invoices)
    (hid : invoice.id = id) (hterminal : invoice.status.terminal = true) :
    let s' := Transition.run (Books.step world) s (before ++ after)
    ∃ old ∈ s'.db.invoices, ∃ new ∈ (s'.step world op).db.invoices,
      old.id = id ∧ new.id = id ∧ old.status.terminal = true ∧ new.status.terminal = true ∧
      (new.status = old.status ∨ op.SettlesTo id new.status) ∧
      liveAllocationsTo id s'.db = [] ∧ liveAllocationsTo id (s'.step world op).db = [] := by
  obtain ⟨hrunBefore, hrunRest⟩ := Transition.along_append.mp hrun
  obtain ⟨hrunAfter, hrunOp⟩ := Transition.along_append.mp hrunRest
  have hrecord : ∃ row ∈ s.db.invoices, row.id = id := by
    have hcaps : (Transition.run (Books.step world) s before).db.WellKeyed ∧
        (Transition.run (Books.step world) s before).db.caps = s.db.caps :=
      Transition.run_preserves (I := fun t : Books => t.db.WellKeyed ∧ t.db.caps = s.db.caps)
      (fun _ op h => ⟨(Books.step_caps h.1 op).1, (Books.step_caps h.1 op).2.trans h.2⟩)
      ⟨hgood.sound.keyed, rfl⟩ before
    rw [Caps.on_record, ← hcaps.2]
    exact Caps.on_record.mp ⟨invoice, hinvoice, hid⟩
  have hinit : Open id s.db ∨ ∃ status, status.terminal = true ∧ Closed id status s.db := by
    rcases hstart with hopen | hfree
    · exact Or.inl hopen
    · obtain ⟨row, hrow, hrowId⟩ := hrecord
      have hsame : ∀ other ∈ s.db.invoices, other.id = id → other = row := fun other hother he =>
        List.inj_on_of_nodup_map hgood.sound.keyed.invoices hother hrow (he.trans hrowId.symm)
      cases hstatus : row.status.terminal with
      | true => exact Or.inr ⟨row.status, hstatus,
          fun other hother he => by rw [hsame other hother he], hfree⟩
      | false => exact Or.inl fun other hother he => by rw [hsame other hother he, hstatus]
  obtain ⟨hgood₁, hrecord₁, hcases⟩ := open_or_closed_run world hgood hinit hrecord
    hrunBefore
  have hclosed₁ : ∃ status, status.terminal = true ∧
      Closed id status (Transition.run (Books.step world) s before).db := by
    rcases hcases with hopen | hclosed
    · rw [hopen invoice hinvoice hid] at hterminal
      cases hterminal
    · exact hclosed
  have hsettled : Settled id (Transition.run (Books.step world) s (before ++ after)) := by
    rw [Transition.run_append]
    exact Transition.run_invariant (fun _ _ h hop => Settled.step world h hop)
      ⟨hgood₁, hrecord₁, hclosed₁⟩ hrunAfter
  have hop : op.Respects id (Transition.run (Books.step world) s (before ++ after)) := by
    rw [Transition.run_append]
    exact hrunOp.1
  obtain ⟨old, hold, holdId⟩ := hsettled.on_record
  obtain ⟨new, hnew, hnewId⟩ := (Settled.step world hsettled hop).on_record
  obtain ⟨status, hstatus, hclosed⟩ := hsettled.closed
  have holdStatus := hclosed.status_eq old hold holdId
  refine ⟨old, hold, new, hnew, holdId, hnewId, holdStatus ▸ hstatus, ?_⟩
  rcases Books.step_closed world hclosed hsettled.good hsettled.on_record hstatus hop
    with hsame | ⟨status', hto, hnewClosed⟩
  · have hnewStatus := hsame.status_eq new hnew hnewId
    exact ⟨hnewStatus ▸ hstatus, Or.inl (hnewStatus.trans holdStatus.symm),
      unallocated_iff.mp hclosed.unallocated, unallocated_iff.mp hsame.unallocated⟩
  · have hnewStatus := hnewClosed.status_eq new hnew hnewId
    have hterminal' : status'.terminal = true := by
      obtain ⟨org, target, action, forbidFrom, -, rfl⟩ := hto
      exact target.terminal
    exact ⟨hnewStatus ▸ hterminal', Or.inr (hnewStatus ▸ hto),
      unallocated_iff.mp hclosed.unallocated, unallocated_iff.mp hnewClosed.unallocated⟩

/-- Outside calls that do nothing. -/
def quietWorld : Nat → (e : Effect) → e.Answer
  | _, .reconnectIfSuspended .. => false
  | _, .maybeGenerateRep .. => ()
  | _, .auditLog .. => ()

/-- One payment of 100.00 and three open invoices of 100.00 of one client. -/
def sampleBooks : Books where
  tick := 10
  db := {
    payments := [⟨1, 1, 1, 10000, "MXN", none, none⟩]
    invoices := [⟨1, 1, 1, none, "A-1", 1, 10000, .issued, none, none⟩,
      ⟨2, 1, 1, none, "A-2", 2, 10000, .issued, none, none⟩,
      ⟨3, 1, 1, none, "A-3", 3, 10000, .issued, none, none⟩]
    allocations := []
    ledger := []
    cfdis := [] }

theorem sampleBooks_good : sampleBooks.db.Good sampleBooks.tick :=
  ⟨⟨⟨by decide, by decide, by decide⟩, by decide, by decide⟩, ⟨by decide, by decide⟩⟩

/-- A voided invoice refuses a later allocation. -/
theorem terminal_absorbing_sample :
    let s' := Transition.run (Books.step quietWorld) sampleBooks [.voidInvoiceById 1 1]
    ∃ old ∈ s'.db.invoices, ∃ new ∈ (s'.step quietWorld (.allocate 1 1 1 100)).db.invoices,
      old.id = 1 ∧ new.id = 1 ∧ old.status.terminal = true ∧ new.status.terminal = true ∧
      (new.status = old.status ∨ (Operation.allocate 1 1 1 100).SettlesTo 1 new.status) ∧
      liveAllocationsTo 1 s'.db = [] ∧
      liveAllocationsTo 1 (s'.step quietWorld (.allocate 1 1 1 100)).db = [] :=
  have hvoid : (⟨1, 1, 1, none, "A-1", 1, 10000, .void, none, none⟩ : Invoice) ∈
      (Transition.run (Books.step quietWorld) sampleBooks [.voidInvoiceById 1 1]).db.invoices := by
    decide
  terminal_absorbing quietWorld [.voidInvoiceById 1 1] [] sampleBooks_good
    (Or.inr (by unfold Unallocated; decide)) ⟨trivial, trivial, trivial⟩ hvoid rfl rfl

def sampleStatus (ops : List Operation) : Option InvoiceStatus :=
  ((Transition.run (Books.step quietWorld) sampleBooks ops).db.invoices.find?
    fun row => row.id == 1).map Invoice.status

/-- Whether invoice 1 carries a live allocation after a sequence of operations on the sample. -/
def sampleAllocated (ops : List Operation) : Bool :=
  !(liveAllocationsTo 1 (Transition.run (Books.step quietWorld) sampleBooks ops).db).isEmpty

/-- Without the conditions a terminal invoice is settled anew, restored to paid, or keeps money. -/
theorem terminal_not_absorbing :
    (sampleStatus [.voidInvoiceById 1 1] = some .void ∧
      sampleStatus [.voidInvoiceById 1 1, .settleInvoiceTerminal 1 1 .cancelled "cancel_cfdi" []] =
        some .cancelled) ∧
    (sampleStatus [.allocate 1 1 1 10000, .unapply 1 1 1, .voidInvoiceById 1 1] = some .void ∧
      sampleStatus [.allocate 1 1 1 10000, .unapply 1 1 1, .voidInvoiceById 1 1,
        .deletePayment 1 1, .restorePayment 1 1] = some .paid) ∧
    (sampleStatus [.allocate 1 1 1 5000,
        .settleInvoiceTerminal 1 1 .cancelled "cancel_cfdi" []] = some .cancelled ∧
      sampleAllocated [.allocate 1 1 1 5000,
        .settleInvoiceTerminal 1 1 .cancelled "cancel_cfdi" []] = true) ∧
    (sampleStatus [.allocate 1 1 2 6000, .reallocate 1 1 2 3 (some (-4000)),
        .allocate 1 1 1 10000, .allocate 1 1 2 4000, .unapply 1 1 3,
        .settleInvoiceTerminal 1 1 .cancelled "cancel_cfdi" []] = some .cancelled ∧
      sampleAllocated [.allocate 1 1 2 6000, .reallocate 1 1 2 3 (some (-4000)),
        .allocate 1 1 1 10000, .allocate 1 1 2 4000, .unapply 1 1 3,
        .settleInvoiceTerminal 1 1 .cancelled "cancel_cfdi" []] = true) := by
  decide

end FireIsp.Billing
