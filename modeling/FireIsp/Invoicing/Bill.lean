import FireIsp.Base.Discipline
import FireIsp.Invoicing.Generate

/-!
# What a request has written

The discipline of the invoice run: what a request knows between two statements is the bill it
has written so far in its transaction, and it may commit only a bill that foots and is posted.
-/

namespace FireIsp.Invoicing

open Txn

/-- What a transaction has written since it took an invoice number. -/
structure Bill where
  /-- Locked billing period, none for a one-off invoice. -/
  period : Option Period
  bucket : Nat
  next : Nat
  draft : Invoice
  items : List Item
  totals : Option (Int × Int × Int)
  marked : Bool
  debit : Option LedgerEntry

def Bill.invoice (bill : Bill) : Invoice :=
  match bill.totals with
  | none => bill.draft
  | some (subtotal, taxAmount, total) => { bill.draft with subtotal, taxAmount, total }

def itemsTotal (items : List Item) : Int := (items.map Item.amount).sum

/-- The invoice adds up. -/
structure Invoice.Foots (invoice : Invoice) (items : List Item) : Prop where
  subtotal : invoice.subtotal = itemsTotal items
  total : invoice.total = invoice.subtotal + invoice.taxAmount

instance (invoice : Invoice) (items : List Item) : Decidable (invoice.Foots items) :=
  decidable_of_iff (invoice.subtotal = itemsTotal items ∧
      invoice.total = invoice.subtotal + invoice.taxAmount)
    ⟨fun h => ⟨h.1, h.2⟩, fun h => ⟨h.subtotal, h.total⟩⟩

structure LedgerEntry.Debits (entry : LedgerEntry) (invoice : Invoice) : Prop where
  entryType : entry.entryType = .debit
  amount : entry.amount = invoice.total
  referenceType : entry.referenceType = "invoice"
  referenceId : entry.referenceId = invoice.id
  clientId : entry.clientId = invoice.clientId

instance (entry : LedgerEntry) (invoice : Invoice) : Decidable (entry.Debits invoice) :=
  decidable_of_iff (entry.entryType = .debit ∧ entry.amount = invoice.total ∧
      entry.referenceType = "invoice" ∧ entry.referenceId = invoice.id ∧
      entry.clientId = invoice.clientId)
    ⟨fun h => ⟨h.1, h.2.1, h.2.2.1, h.2.2.2.1, h.2.2.2.2⟩,
      fun h => ⟨h.entryType, h.amount, h.referenceType, h.referenceId, h.clientId⟩⟩

/-- Writes of the transaction, in order. -/
def Bill.writes (bill : Bill) : List Write :=
  .seed bill.bucket :: .advance bill.bucket (bill.next + 1) :: .invoice bill.draft ::
    (bill.items.map .item ++
      (bill.totals.toList.map fun t => .totals bill.draft.id t.1 t.2.1 t.2.2) ++
      (if bill.marked then bill.period.toList.map fun row => .invoiced row.id bill.draft.id
        else []) ++
      bill.debit.toList.map .entry)

/-- What is written hangs together. -/
structure Bill.Sound (bill : Bill) : Prop where
  number : bill.draft.invoiceNumber = invoiceNumberText bill.next
  bucket : bill.bucket = bill.draft.organizationId.getD 0
  items : ∀ item ∈ bill.items, item.invoiceId = bill.draft.id
  /-- A posted bill foots, is posted with its total, and its period is marked. -/
  posted : ∀ entry, bill.debit = some entry →
    bill.invoice.Foots bill.items ∧ entry.Debits bill.invoice ∧ (bill.period = none ∨ bill.marked)

/-- What a request knows between two statements. -/
inductive Know
  /-- No transaction is open; the id of a billing period it has read. -/
  | idle (known : Option Nat)
  | opened (known : Option Nat)
  | locked (row : Period)
  | seeded (period : Option Period) (bucket : Nat)
  | numbered (period : Option Period) (bucket next : Nat)
  | drafted (bill : Bill)
  | finished
  /-- It locked no row or another one, which no run allows, and may do anything. -/
  | lost

namespace Know

def written : Know → Option (List Write)
  | idle _ => none
  | opened _ => some []
  | locked _ => some []
  | seeded _ bucket => some [.seed bucket]
  | numbered _ bucket next => some [.seed bucket, .advance bucket (next + 1)]
  | drafted bill => some bill.writes
  | finished => none
  | lost => none

/-- A billing period it has read. -/
def known : Know → Option Nat
  | idle known => known
  | opened known => known
  | _ => none

def period : Know → Option Period
  | locked row => some row
  | seeded period _ => period
  | numbered period _ _ => period
  | drafted bill => bill.period
  | _ => none

def billing : Know → Option (Option Period)
  | seeded period _ => some period
  | numbered period _ _ => some period
  | drafted bill => some bill.period
  | _ => none

/-- The bill it has written. -/
def bill : Know → Option Bill
  | drafted bill => some bill
  | _ => none

end Know

/-- What a pooled statement teaches. -/
def learnIdle (known : Option Nat) : (op : Stmt) → Option (op.Res → Know)
  | .selectPending _ => some fun row => .idle (row.map Period.id)
  | .selectLastInvoiced _ => some fun _ => .idle known
  | .insertPeriod .. => some fun _ => .idle known
  | .selectPeriod _ => some fun row => .idle (row.map Period.id)
  | .selectInvoice _ => some fun _ => .idle known
  | _ => none

/-- What a statement teaches once the invoice is inserted. -/
def learnDrafted (bill : Bill) : (op : Stmt) → Option (op.Res → Know)
  | .insertItem row =>
    if row.invoiceId = bill.draft.id ∧ bill.totals = none ∧ bill.marked = false ∧
        bill.debit = none then
      some fun id => .drafted { bill with items := bill.items ++ [{ row with id }] }
    else none
  | .updateTotals invoiceId subtotal taxAmount total =>
    if invoiceId = bill.draft.id ∧ bill.totals = none ∧ bill.marked = false ∧
        bill.debit = none then
      some fun _ => .drafted { bill with totals := some (subtotal, taxAmount, total) }
    else none
  | .markInvoiced periodId invoiceId =>
    if bill.period.map Period.id = some periodId ∧ invoiceId = bill.draft.id ∧
        bill.marked = false ∧ bill.debit = none then
      some fun _ => .drafted { bill with marked := true }
    else none
  | .insertEntry row =>
    if bill.invoice.Foots bill.items ∧ row.Debits bill.invoice ∧
        (bill.period = none ∨ bill.marked = true) ∧ bill.debit = none then
      some fun id => .drafted { bill with debit := some { row with id } }
    else none
  | _ => none

/-- What the reply to the insert of an invoice teaches. -/
def learnInvoice (period : Option Period) (bucket next : Nat) (row : Invoice) : Option Nat → Know
  | none => .numbered period bucket next
  | some id => .drafted ⟨period, bucket, next, { row with id }, [], none, false, none⟩

/-- What the reply to the locking read of a period teaches. -/
def learnLocked (known : Nat) : Option Period → Know
  | none => .lost
  | some row =>
    if row.id ≠ known then .lost
    else if row.status = .pending then .locked row
    else .opened (some known)

/-- What a statement teaches; only one-off runs take a number without a period. -/
def learnOpen (oneOffs : Bool) : Know → (op : Stmt) → Option (op.Res → Know)
  | .opened (some known), .lockPeriod id =>
    if id = known then some (learnLocked known) else none
  | .opened none, .seedSequence bucket =>
    if oneOffs then some fun _ => .seeded none bucket else none
  | .locked row, .seedSequence bucket => some fun _ => .seeded (some row) bucket
  | .seeded period bucket, .advanceSequence wanted =>
    if wanted = bucket then some fun next => .numbered period bucket next else none
  | .numbered period bucket next, .insertInvoice row =>
    if row.invoiceNumber = invoiceNumberText next ∧ bucket = row.organizationId.getD 0 then
      some (learnInvoice period bucket next row)
    else none
  | .drafted bill, op => learnDrafted bill op
  | _, _ => none

/-- The discipline of the invoice run. -/
def discipline (oneOffs : Bool) : Discipline Know Stmt Stmt.Res Query Query.Answer where
  started
    | .idle known => some (.opened known)
    | .lost => some .lost
    | _ => none
  committed
    | .drafted bill => if bill.debit.isSome then some .finished else none
    | .lost => some .lost
    | _ => none
  rolledBack
    | .lost => some .lost
    | know => know.written.map fun _ => .idle none
  sent know via op :=
    match know, via with
    | .lost, _ => some fun _ => .lost
    | .idle known, .pool => learnIdle known op
    | .finished, .pool =>
      match op with
      | .selectInvoice _ => some fun _ => .finished
      | _ => none
    | know, .conn => learnOpen oneOffs know op
    | _, _ => none
  asked know _ := some fun _ => know

/-- How a request ends: with no transaction open, and without an error once it has committed. -/
def Ended {A : Type} (value : Except Failure A) (know : Know) : Prop :=
  (∃ known, know = .idle known) ∨ (know = .finished ∧ ∃ reply, value = .ok reply) ∨ know = .lost

section Programs

variable {oneOffs : Bool} {A B : Type}

/-- The program sends no statement and leaves what is known as it is. -/
def Reads (oneOffs : Bool) (p : Request A) : Prop :=
  ∀ know, p.Follows (discipline oneOffs) know fun _ k => k = know

theorem reads_pure (value : A) : Reads oneOffs (pure value : Request A) := fun _ => rfl

theorem reads_ask (read : Query) : Reads oneOffs (ask read) :=
  fun know => ⟨fun _ => know, rfl, fun _ => rfl⟩

variable {p : Request A}

theorem reads_bind {f : A → Request B} (hp : Reads oneOffs p)
    (hf : ∀ value, Reads oneOffs (f value)) : Reads oneOffs (p >>= f) :=
  fun know => (hp know).bind fun value _ hk => hk ▸ hf value know

variable {know : Know}

theorem Reads.follows_bind {f : A → Request B} {post : B → Know → Prop} (hp : Reads oneOffs p)
    (hf : ∀ value, (f value).Follows (discipline oneOffs) know post) :
    (p >>= f).Follows (discipline oneOffs) know post :=
  (hp know).bind fun value _ hk => hk ▸ hf value

theorem reads_isContractInTrial (contract : Contract) (plan : Plan) :
    Reads oneOffs (isContractInTrial contract plan) := by
  unfold isContractInTrial
  split
  · exact reads_pure _
  · exact reads_bind (reads_ask _) fun _ => reads_pure _

theorem reads_currencyOr (currency : Option String) (organizationId : Option Nat) :
    Reads oneOffs (currencyOr currency organizationId) := by
  unfold currencyOr
  split
  · exact reads_bind (reads_ask _) fun _ => reads_pure _
  · exact reads_pure _

theorem reads_resolveDefaultRate (organizationId contractTaxRateId : Option Nat)
    (clientIsMx : Bool) :
    Reads oneOffs (resolveDefaultRate organizationId contractTaxRateId clientIsMx) := by
  refine reads_bind (reads_ask _) fun configured => ?_
  split
  · exact reads_pure _
  · split
    · exact reads_pure _
    · exact reads_bind (reads_bind (reads_ask _) fun _ => reads_pure _) fun _ => reads_pure _

theorem reads_resolveTaxContext (organizationId : Option Nat) (clientId : Nat)
    (contractTaxRateId : Option Nat) :
    Reads oneOffs (resolveTaxContext organizationId clientId contractTaxRateId) := by
  refine reads_bind (reads_ask _) fun client => ?_
  split
  · exact reads_resolveDefaultRate _ _ _
  · split
    · exact reads_pure _
    · split
      · exact reads_resolveDefaultRate _ _ _
      · refine reads_bind (reads_ask _) fun region => ?_
        split
        · exact reads_pure _
        · exact reads_resolveDefaultRate _ _ _

theorem reads_calculateOverageCharges (contractId : Nat) (periodStart periodEnd : Int) :
    Reads oneOffs (calculateOverageCharges contractId periodStart periodEnd) :=
  reads_bind (reads_ask _) fun _ => reads_pure _

theorem reads_isDue (dueOnly : Bool) (period : Period) : Reads oneOffs (isDue dueOnly period) := by
  unfold isDue
  split
  · exact reads_bind (reads_ask _) fun _ => reads_pure _
  · exact reads_pure _

theorem follows_nextInvoiceNumber {period : Option Period} (organizationId : Option Nat)
    (hseed : (discipline oneOffs).sent know .conn (.seedSequence (organizationId.getD 0)) =
      some fun _ => .seeded period (organizationId.getD 0)) :
    (nextInvoiceNumber organizationId).Follows (discipline oneOffs) know fun number k =>
      ∃ next, k = .numbered period (organizationId.getD 0) next ∧
        number = invoiceNumberText next := by
  refine ⟨fun _ => .seeded period (organizationId.getD 0), ?_, fun _ => ?_⟩
  · exact hseed
  · exact ⟨fun next => .numbered period (organizationId.getD 0) next, if_pos rfl,
      fun next => ⟨next, rfl, rfl⟩⟩

variable {post : A → Know → Prop}

theorem follows_insertInvoice {period : Option Period} {bucket next : Nat} {row : Invoice}
    (hnumber : row.invoiceNumber = invoiceNumberText next)
    (hbucket : bucket = row.organizationId.getD 0) {f : Option Nat → Request A}
    (hf : ∀ inserted, (f inserted).Follows (discipline oneOffs)
      (learnInvoice period bucket next row inserted) post) :
    (execute (.insertInvoice row) >>= f).Follows (discipline oneOffs)
      (.numbered period bucket next) post :=
  ⟨learnInvoice period bucket next row, if_pos ⟨hnumber, hbucket⟩, hf⟩

/-- Lines may still be added to the bill. -/
structure Bill.Unsettled (bill : Bill) : Prop where
  totals : bill.totals = none
  marked : bill.marked = false
  debit : bill.debit = none

/-- The bill with further lines, which sum up to `running`. -/
def Lengthened (bill : Bill) (running : Int) (know : Know) : Prop :=
  ∃ items, know = .drafted { bill with items } ∧ running = itemsTotal items

theorem itemsTotal_snoc (items : List Item) (item : Item) :
    itemsTotal (items ++ [item]) = itemsTotal items + item.amount := by
  simp [itemsTotal]

variable {bill : Bill}

theorem follows_insertItem (hbill : bill.Unsettled) {item : Item}
    (hitem : item.invoiceId = bill.draft.id) :
    (execute (.insertItem item)).Follows (discipline oneOffs) (.drafted bill) fun _ k =>
      Lengthened bill (itemsTotal bill.items + item.amount) k := by
  refine ⟨_, if_pos ⟨hitem, hbill.totals, hbill.marked, hbill.debit⟩, fun id => ?_⟩
  exact ⟨_, rfl, (itemsTotal_snoc bill.items { item with id }).symm⟩

variable {running : Int}

theorem follows_billOverage (hbill : bill.Unsettled) (period : Period) (contract : Contract)
    (plan : Plan) (inTrial : Bool) (currency : String)
    (hrunning : running = itemsTotal bill.items) :
    (billOverage bill.draft.id period contract plan inTrial currency running).Follows
      (discipline oneOffs) (.drafted bill) fun after k =>
        match after with
        | none => k = .drafted bill
        | some total => Lengthened bill total k := by
  unfold billOverage
  split
  · exact ⟨bill.items, rfl, hrunning⟩
  · refine (reads_calculateOverageCharges _ _ _).follows_bind fun overage => ?_
    split
    · cases plan.overagePricePerGb with
      | none => exact rfl
      | some pricePerGb =>
        refine (follows_insertItem hbill rfl).bind fun _ k hk => ?_
        rw [hrunning]
        exact hk
    · exact ⟨bill.items, rfl, hrunning⟩

theorem follows_billAddons (hbill : bill.Unsettled) (addons : List Addon)
    (hknow : Lengthened bill running know) :
    (billAddons bill.draft.id addons running).Follows (discipline oneOffs) know fun after k =>
      Lengthened bill after k := by
  induction addons generalizing running know with
  | nil => exact hknow
  | cons addon rest ih =>
    obtain ⟨items, rfl, hrunning⟩ := hknow
    have hbill' : Bill.Unsettled { bill with items } := ⟨hbill.totals, hbill.marked, hbill.debit⟩
    refine (follows_insertItem hbill' rfl).bind fun _ k hk => ih ?_
    obtain ⟨longer, hk, hsum⟩ := hk
    exact ⟨longer, hk, hrunning ▸ hsum⟩

structure Bill.Totaled (bill : Bill) (total : Int) : Prop where
  foots : bill.invoice.Foots bill.items
  total : bill.invoice.total = total
  debit : bill.debit = none

theorem follows_foldTotals (hbill : bill.Unsettled) {rate : Int}
    (htotal : bill.draft.total = bill.draft.subtotal + bill.draft.taxAmount)
    (hknow : Lengthened bill running know) :
    (foldTotals bill.draft.id rate bill.draft.subtotal bill.draft.total running).Follows
      (discipline oneOffs) know fun total k => ∃ bill', k = .drafted bill' ∧
        bill'.period = bill.period ∧ bill'.draft = bill.draft ∧ bill'.marked = false ∧
        bill'.Totaled total := by
  obtain ⟨items, rfl, rfl⟩ := hknow
  unfold foldTotals
  split
  · refine ⟨_, if_pos ⟨rfl, hbill.totals, hbill.marked, hbill.debit⟩, fun _ => ?_⟩
    exact ⟨_, rfl, rfl, rfl, hbill.marked, ⟨rfl, rfl⟩, rfl, hbill.debit⟩
  · rename_i heq
    have hinvoice : Bill.invoice { bill with items } = bill.draft := by
      unfold Bill.invoice
      rw [hbill.totals]
    refine ⟨_, rfl, rfl, rfl, hbill.marked, ⟨?_, ?_⟩, ?_, hbill.debit⟩
    · rw [hinvoice]
      exact (not_ne_iff.mp heq).symm
    · rw [hinvoice, htotal]
    · rw [hinvoice]

theorem Bill.invoice_columns (bill : Bill) :
    bill.invoice.id = bill.draft.id ∧ bill.invoice.clientId = bill.draft.clientId := by
  unfold Bill.invoice
  split <;> exact ⟨rfl, rfl⟩

theorem follows_findInvoice (invoiceId : Option Nat) :
    (do return .ok (← findInvoice invoiceId) : Request (Except Failure (Option Invoice))).Follows
      (discipline oneOffs) .finished Ended := by
  cases invoiceId with
  | none => exact Or.inr (Or.inl ⟨rfl, _, rfl⟩)
  | some id => exact ⟨fun _ => .finished, rfl, fun row => Or.inr (Or.inl ⟨rfl, row, rfl⟩)⟩

theorem follows_rollback (hknow : (discipline oneOffs).rolledBack know = some (.idle none))
    (hp : p.Follows (discipline oneOffs) (.idle none) post) :
    (Prog.rollbackNow >>= fun _ => p).Follows (discipline oneOffs) know post :=
  ⟨.idle none, hknow, hp⟩

theorem follows_lost (hpost : ∀ value, post value .lost) (p : Request A) :
    p.Follows (discipline oneOffs) .lost post := by
  induction p with
  | done value => exact hpost value
  | start next ih => exact ⟨.lost, rfl, ih⟩
  | commit next ih => exact ⟨.lost, rfl, ih⟩
  | rollback next ih => exact ⟨.lost, rfl, ih⟩
  | stmt via op next ih => exact ⟨fun _ => .lost, rfl, ih⟩
  | call query next ih => exact ⟨fun _ => .lost, rfl, ih⟩

theorem follows_post (hfoots : bill.invoice.Foots bill.items) (hdebit : bill.debit = none)
    (hmarked : bill.period = none ∨ bill.marked = true) {entry : LedgerEntry}
    (hentry : entry.Debits bill.invoice) (invoiceId : Option Nat) :
    (do
      let _ ← execute (.insertEntry entry)
      Prog.commitNow
      return .ok (← findInvoice invoiceId) : Request (Except Failure (Option Invoice))).Follows
        (discipline oneOffs) (.drafted bill) Ended := by
  refine ⟨_, if_pos ⟨hfoots, hentry, hmarked, hdebit⟩, fun id => ?_⟩
  exact ⟨.finished, rfl, follows_findInvoice invoiceId⟩

theorem follows_billInvoice {row : Period} (hbill : bill.Unsettled)
    (hperiod : bill.period = some row) (hitems : bill.items = [])
    (htotal : bill.draft.total = bill.draft.subtotal + bill.draft.taxAmount) {period : Period}
    (hid : row.id = period.id) {contract : Contract}
    (hclient : bill.draft.clientId = contract.clientId) (plan : Plan) (inTrial : Bool) :
    (billInvoice period contract plan inTrial bill.draft bill.draft.id).Follows
      (discipline oneOffs) (.drafted bill) Ended := by
  refine (follows_insertItem hbill rfl).bind fun _ know hknow => ?_
  obtain ⟨items, rfl, hsum⟩ := hknow
  have hfirst : bill.draft.subtotal = itemsTotal items := by
    rw [← hsum, hitems]
    exact (zero_add _).symm
  have hbill' : Bill.Unsettled { bill with items } := ⟨hbill.totals, hbill.marked, hbill.debit⟩
  refine (follows_billOverage hbill' period contract plan inTrial _ hfirst).bind
    fun running know hknow => ?_
  cases running with
  | none =>
    obtain rfl := hknow
    exact follows_rollback rfl (Or.inl ⟨none, rfl⟩)
  | some running =>
    refine (reads_ask _).follows_bind fun addons => ?_
    refine (follows_billAddons hbill' addons hknow).bind fun running know hknow => ?_
    refine (follows_foldTotals hbill' htotal hknow).bind fun total know hknow => ?_
    obtain ⟨final, rfl, hp, hd, hm, ht⟩ := hknow
    have hd' : final.draft = bill.draft := hd
    have hwanted : final.period.map Period.id = some period.id := by
      rw [hp]
      exact (congrArg _ hperiod).trans (congrArg some hid)
    refine ⟨_, if_pos ⟨hwanted, hd' ▸ rfl, hm, ht.debit⟩, fun _ => ?_⟩
    have hcolumns := final.invoice_columns
    have hfoots : Invoice.Foots (Bill.invoice { final with marked := true }) final.items :=
      ht.foots
    refine follows_post hfoots ht.debit (Or.inr rfl) ?_ _
    refine ⟨rfl, ht.total.symm, rfl, ?_, ?_⟩
    · exact (hd' ▸ hcolumns.1).symm
    · exact (hd' ▸ hcolumns.2).trans hclient |>.symm

theorem follows_billPeriod {row period : Period} (hid : row.id = period.id) (contract : Contract)
    (plan : Plan) (organizationId : Option Nat) :
    (billPeriod period contract plan organizationId).Follows (discipline oneOffs) (.locked row)
      Ended := by
  refine (reads_isContractInTrial contract plan).follows_bind fun inTrial => ?_
  refine (reads_currencyOr plan.currency organizationId).follows_bind fun currency => ?_
  refine (reads_resolveTaxContext _ _ _).follows_bind fun tax => ?_
  refine (follows_nextInvoiceNumber organizationId rfl).bind fun number know hknow => ?_
  obtain ⟨next, rfl, rfl⟩ := hknow
  refine follows_insertInvoice rfl rfl fun inserted => ?_
  cases inserted with
  | none => exact follows_rollback rfl (Or.inl ⟨none, rfl⟩)
  | some invoiceId =>
    exact follows_billInvoice ⟨rfl, rfl, rfl⟩ rfl rfl rfl hid rfl plan inTrial

theorem follows_findAfterRollback (invoiceId : Option Nat) :
    (do return .ok (← findInvoice invoiceId) : Request (Except Failure (Option Invoice))).Follows
      (discipline oneOffs) (.idle none) Ended := by
  cases invoiceId with
  | none => exact Or.inl ⟨none, rfl⟩
  | some id => exact ⟨fun _ => .idle none, rfl, fun row => Or.inl ⟨none, rfl⟩⟩

theorem follows_billLocked (period : Period) (contract : Contract) (plan : Plan)
    (organizationId : Option Nat) (locked : Option Period) :
    (billLocked period contract plan organizationId locked).Follows (discipline oneOffs)
      (learnLocked period.id locked) Ended := by
  cases locked with
  | none => exact follows_lost (fun _ => Or.inr (Or.inr rfl)) _
  | some row =>
    by_cases hid : row.id = period.id
    · by_cases hpending : row.status = .pending
      · have hknow : learnLocked period.id (some row) = .locked row := by
          rw [learnLocked, if_neg (not_ne_iff.mpr hid), if_pos hpending]
        have hfilter : (some row).filter (fun r => r.status != .pending) = none := by
          simp [hpending]
        rw [hknow, billLocked, hfilter]
        exact follows_billPeriod hid contract plan organizationId
      · have hknow : learnLocked period.id (some row) = .opened (some period.id) := by
          rw [learnLocked, if_neg (not_ne_iff.mpr hid), if_neg hpending]
        have hfilter : (some row).filter (fun r => r.status != .pending) = some row := by
          simp [hpending]
        rw [hknow, billLocked, hfilter]
        exact follows_rollback rfl (follows_findAfterRollback row.invoiceId)
    · have hknow : learnLocked period.id (some row) = .lost := if_pos hid
      rw [hknow]
      exact follows_lost (fun _ => Or.inr (Or.inr rfl)) _

theorem follows_generateInvoice (period : Period) (contract : Contract) (plan : Plan)
    (organizationId : Option Nat) :
    (generateInvoice period contract plan organizationId).Follows (discipline oneOffs)
      (.idle (some period.id)) Ended :=
  ⟨.opened (some period.id), rfl, learnLocked period.id, if_pos rfl, fun locked =>
    follows_billLocked period contract plan organizationId locked⟩

theorem Ended.map {value : Except Failure A} (h : Ended value know) (f : A → B) :
    Ended (value.map f) know := by
  rcases h with h | ⟨h, row, rfl⟩ | h
  · exact Or.inl h
  · exact Or.inr (Or.inl ⟨h, f row, rfl⟩)
  · exact Or.inr (Or.inr h)

theorem follows_replyInvoice (period : Period) (contract : Contract) (plan : Plan)
    (organizationId : Option Nat) :
    (replyInvoice period contract plan organizationId).Follows (discipline oneOffs)
      (.idle (some period.id)) Ended :=
  (follows_generateInvoice period contract plan organizationId).bind fun _ _ h => h.map _

theorem follows_generateBillingPeriod (contract : Contract) :
    (generateBillingPeriod contract).Follows (discipline oneOffs) (.idle none) fun period k =>
      (∃ known, k = .idle known) ∧ ∀ row, period = .ok row → k = .idle (some row.id) := by
  refine ⟨fun row => .idle (row.map Period.id), rfl, fun existing => ?_⟩
  cases existing with
  | some row => exact ⟨⟨_, rfl⟩, fun _ h => by cases h; rfl⟩
  | none =>
    refine ⟨fun _ => .idle none, rfl, fun lastPeriod => ?_⟩
    refine ⟨fun _ => .idle none, rfl, fun inserted => ?_⟩
    cases inserted with
    | none => exact ⟨⟨_, rfl⟩, nofun⟩
    | some id =>
      refine ⟨fun row => .idle (row.map Period.id), rfl, fun stored => ?_⟩
      cases stored with
      | none => exact ⟨⟨_, rfl⟩, nofun⟩
      | some row => exact ⟨⟨_, rfl⟩, fun _ h => by cases h; rfl⟩

theorem follows_createOneOffInvoice (charge : OneOff) :
    (createOneOffInvoice charge).Follows (discipline true) (.idle none) Ended := by
  refine (reads_currencyOr _ _).follows_bind fun currency => ⟨.opened none, rfl, ?_⟩
  refine (reads_resolveTaxContext _ _ _).follows_bind fun tax => ?_
  refine (follows_nextInvoiceNumber charge.organizationId rfl).bind fun number know hknow => ?_
  obtain ⟨next, rfl, rfl⟩ := hknow
  refine (reads_ask _).follows_bind fun now => ?_
  refine follows_insertInvoice rfl rfl fun inserted => ?_
  cases inserted with
  | none => exact follows_rollback rfl (Or.inl ⟨none, rfl⟩)
  | some invoiceId =>
    refine (follows_insertItem ⟨rfl, rfl, rfl⟩ rfl).bind fun _ know hknow => ?_
    obtain ⟨items, rfl, hsum⟩ := hknow
    refine follows_post ⟨?_, rfl⟩ rfl (Or.inl rfl) ⟨rfl, rfl, rfl, rfl, rfl⟩ _
    rw [← hsum]
    exact (zero_add _).symm

theorem follows_run (call : Call) (hcall : oneOffs = true ∨ ∀ charge, call ≠ .oneOff charge) :
    call.run.Follows (discipline oneOffs) (.idle none) Ended := by
  cases call with
  | period contract =>
    refine (follows_generateBillingPeriod contract).bind fun period know h => ?_
    exact Or.inl h.1
  | invoice contract plan organizationId =>
    refine (follows_generateBillingPeriod contract).bind fun period know h => ?_
    cases period with
    | error e => exact Or.inl h.1
    | ok row =>
      obtain rfl := h.2 row rfl
      exact follows_replyInvoice row contract plan organizationId
  | scheduled dueOnly contract plan organizationId =>
    refine (follows_generateBillingPeriod contract).bind fun period know h => ?_
    cases period with
    | error e => exact Or.inl h.1
    | ok row =>
      obtain rfl := h.2 row rfl
      refine (reads_isDue dueOnly row).follows_bind fun due => ?_
      split
      · exact follows_replyInvoice row contract plan organizationId
      · exact Or.inl ⟨_, rfl⟩
  | again periodId contract plan organizationId =>
    refine ⟨fun row => .idle (row.map Period.id), rfl, fun stored => ?_⟩
    cases stored with
    | none => exact Or.inl ⟨_, rfl⟩
    | some row => exact follows_replyInvoice row contract plan organizationId
  | oneOff charge =>
    obtain rfl : oneOffs = true := hcall.resolve_right fun h => h charge rfl
    exact (follows_createOneOffInvoice charge).bind fun _ _ h => h.map _

end Programs

end FireIsp.Invoicing
