import FireIsp.Invoicing.Bill

/-!
# Bills are posted whole

Requests of the invoice run, interleaved statement by statement and cut off anywhere.  The
committed tables change only when a billing period is added and when a whole bill, which foots
and is debited with its total, is posted.
-/

namespace FireIsp.Invoicing

open Txn

/-- The tables with all requests on them. -/
abbrev System := Sys Db Write Key Stmt Stmt.Res Query Query.Answer (Except Failure Reply)

/-- The period may be added: it is pending, its id is new and so is its window. -/
structure Period.New (row : Period) (before : Db) : Prop where
  pending : row.status = .pending
  invoiceId : row.invoiceId = none
  fresh : ∀ old ∈ before.periods, old.id ≠ row.id
  window : ∀ old ∈ before.periods, old.contractId = row.contractId →
    old.periodStart ≠ row.periodStart

/-- A pending period was added. -/
def Opened (before after : Db) : Prop :=
  ∃ row : Period, row.New before ∧ after = { before with periods := before.periods ++ [row] }

/-- One bill in full. -/
structure Posting where
  /-- Invoiced period, none for a one-off invoice. -/
  period : Option Period
  invoice : Invoice
  items : List Item
  debit : LedgerEntry
  next : Nat

def Posting.periodsAfter (posting : Posting) (rows : List Period) : List Period :=
  match posting.period with
  | none => rows
  | some row => invoicedPeriods row.id posting.invoice.id rows

/-- Tables after a posting. -/
def Posting.after (posting : Posting) (before : Db) : Db where
  periods := posting.periodsAfter before.periods
  invoices := before.invoices ++ [posting.invoice]
  items := before.items ++ posting.items
  ledger := before.ledger ++ [posting.debit]
  sequences := advanced (posting.invoice.organizationId.getD 0) (posting.next + 1)
    (seeded (posting.invoice.organizationId.getD 0) before.sequences)

/-- The bill foots, is new, and bills a pending period. -/
structure Posting.Valid (posting : Posting) (before : Db) : Prop where
  foots : posting.invoice.Foots posting.items
  debits : posting.debit.Debits posting.invoice
  number : posting.invoice.invoiceNumber = invoiceNumberText posting.next
  pending : ∀ row, posting.period = some row → row ∈ before.periods ∧ row.status = .pending
  fresh : ∀ old ∈ before.invoices, old.id ≠ posting.invoice.id
  freshItems : ∀ old ∈ before.items, old.invoiceId ≠ posting.invoice.id
  items : ∀ item ∈ posting.items, item.invoiceId = posting.invoice.id

/-- A whole bill was posted; without a period only by a one-off invoice. -/
def Posted (oneOffs : Bool) (before after : Db) : Prop :=
  ∃ posting : Posting, posting.Valid before ∧ after = posting.after before ∧
    (posting.period = none → oneOffs = true)

/-- What one step can do to the committed tables. -/
def Change (oneOffs : Bool) (before after : Db) : Prop :=
  after = before ∨ Opened before after ∨ Posted oneOffs before after

section Tables

theorem visible_items (db : Db) (items : List Item) :
    engine.visible db (items.map .item) = { db with items := db.items ++ items } := by
  induction items generalizing db with
  | nil => simp
  | cons item items ih =>
    rw [List.map_cons, Engine.visible_cons, ih]
    change ({ db with items := (db.items ++ [item]) ++ items } : Db) = _
    simp

theorem retotaled_fresh {rows : List Invoice} {draft : Invoice}
    (hfresh : ∀ row ∈ rows, row.id ≠ draft.id) (subtotal taxAmount total : Int) :
    retotaled draft.id subtotal taxAmount total (rows ++ [draft]) =
      rows ++ [{ draft with subtotal, taxAmount, total }] := by
  have hold : rows.map (fun row => if row.id = draft.id then
      { row with subtotal, taxAmount, total } else row) = rows := by
    refine (List.map_congr_left fun row hrow => ?_).trans (List.map_id rows)
    exact if_neg (hfresh row hrow)
  simp [retotaled, hold]

theorem Bill.invoice_organization (bill : Bill) :
    bill.invoice.organizationId = bill.draft.organizationId ∧
      bill.invoice.invoiceNumber = bill.draft.invoiceNumber := by
  unfold Bill.invoice
  split <;> exact ⟨rfl, rfl⟩

variable {bill : Bill}

theorem visible_totals (db : Db) (hfresh : ∀ row ∈ db.invoices, row.id ≠ bill.draft.id) :
    engine.visible { db with invoices := db.invoices ++ [bill.draft] }
        (bill.totals.toList.map fun t => .totals bill.draft.id t.1 t.2.1 t.2.2) =
      { db with invoices := db.invoices ++ [bill.invoice] } := by
  unfold Bill.invoice
  cases bill.totals with
  | none => rfl
  | some t =>
    rw [← retotaled_fresh hfresh t.1 t.2.1 t.2.2]
    rfl

def Bill.posting (bill : Bill) (debit : LedgerEntry) : Posting :=
  ⟨bill.period, bill.invoice, bill.items, debit, bill.next⟩

theorem visible_marked (debit : LedgerEntry) (db : Db)
    (hmarked : bill.period = none ∨ bill.marked = true) :
    engine.visible db (if bill.marked then
        bill.period.toList.map fun row => .invoiced row.id bill.draft.id else []) =
      { db with periods := (bill.posting debit).periodsAfter db.periods } := by
  have hid := bill.invoice_columns.1
  unfold Posting.periodsAfter Bill.posting
  simp only [hid]
  cases hperiod : bill.period with
  | none =>
    split
    · rfl
    · rfl
  | some row =>
    rw [hperiod] at hmarked
    rw [if_pos (hmarked.resolve_left nofun)]
    rfl

theorem visible_writes {db : Db} {debit : LedgerEntry} (hbill : bill.Sound)
    (hdebit : bill.debit = some debit) (hfresh : ∀ row ∈ db.invoices, row.id ≠ bill.draft.id) :
    engine.visible db bill.writes = (bill.posting debit).after db := by
  obtain ⟨-, -, hmarked⟩ := hbill.posted debit hdebit
  have hbucket : bill.bucket = bill.invoice.organizationId.getD 0 := by
    rw [bill.invoice_organization.1]
    exact hbill.bucket
  simp only [Bill.writes, Engine.visible_cons, Engine.visible_append, visible_items, hdebit]
  change engine.visible (engine.visible (engine.visible
    { ({ db with
        items := db.items ++ bill.items
        sequences := advanced bill.bucket (bill.next + 1) (seeded bill.bucket db.sequences) } : Db)
      with invoices := db.invoices ++ [bill.draft] } _) _) _ = _
  rw [visible_totals { db with
      items := db.items ++ bill.items
      sequences := advanced bill.bucket (bill.next + 1) (seeded bill.bucket db.sequences) } hfresh,
    visible_marked debit _ hmarked, hbucket]
  rfl

end Tables

section Invariant

/-- The bill is not in the tables yet. -/
structure Bill.Fresh (bill : Bill) (tick : Nat) (db : Db) : Prop where
  past : bill.draft.id < tick
  invoices : ∀ row ∈ db.invoices, row.id ≠ bill.draft.id
  items : ∀ row ∈ db.items, row.invoiceId ≠ bill.draft.id

/-- What a request knows is true. -/
structure Knows (oneOffs : Bool) (tick : Nat) (db : Db) (held : List (Nat × Key)) (i : Nat)
    (know : Know) (tx : Option (Tx Db Write)) : Prop where
  found : know ≠ .lost
  written : tx.map Tx.writes = know.written
  stored : ∀ id, know.known = some id → ∃ row ∈ db.periods, row.id = id
  locked : ∀ row, know.period = some row →
    row ∈ db.periods ∧ row.status = .pending ∧ (i, Key.period row.id) ∈ held
  paired : know.billing = some none → oneOffs = true
  sound : ∀ bill, know.bill = some bill → bill.Sound
  fresh : ∀ bill, know.bill = some bill → bill.Fresh tick db

/-- Invariant of the tables, the locks and what all requests know. -/
structure Guarded (oneOffs : Bool) (tick : Nat) (db : Db) (held : List (Nat × Key))
    (ghosts : Nat → Ghost Db Write Know) : Prop where
  locks : Sys.Exclusive held
  periods : ∀ row ∈ db.periods, row.id < tick
  invoices : ∀ row ∈ db.invoices, row.id < tick
  items : ∀ row ∈ db.items, row.invoiceId < tick
  knows : ∀ i know, (ghosts i).know = some know → Knows oneOffs tick db held i know (ghosts i).tx
  apart : ∀ i j b c, (ghosts i).know = some (.drafted b) → (ghosts j).know = some (.drafted c) →
    b.draft.id = c.draft.id → i = j

variable {oneOffs : Bool} {tick : Nat} {db db' : Db} {held held' : List (Nat × Key)}
  {ghosts : Nat → Ghost Db Write Know} {i : Nat}

variable {know : Know} {bill : Bill}

theorem know_drafted (h : know.bill = some bill) :
    know = .drafted bill := by
  cases know with
  | drafted b => exact congrArg Know.drafted (Option.some.inj h)
  | _ => nomatch h

variable {tx : Option (Tx Db Write)}

theorem Knows.bare (hfound : know ≠ .lost) (hwritten : tx.map Tx.writes = know.written)
    (hstored : ∀ id, know.known = some id → ∃ row ∈ db.periods, row.id = id)
    (hperiod : know.period = none) (hbilling : know.billing = none) (hbill : know.bill = none) :
    Knows oneOffs tick db held i know tx where
  found := hfound
  written := hwritten
  stored := hstored
  locked row hrow := by
    rw [hperiod] at hrow
    cases hrow
  paired hnone := by
    rw [hbilling] at hnone
    cases hnone
  sound bill hb := by
    rw [hbill] at hb
    cases hb
  fresh bill hb := by
    rw [hbill] at hb
    cases hb

variable {ghost : Ghost Db Write Know}

theorem Guarded.update (h : Guarded oneOffs tick db held ghosts) (hlocks : Sys.Exclusive held')
    (hperiods : ∀ row ∈ db'.periods, row.id < tick + 1)
    (hinvoices : ∀ row ∈ db'.invoices, row.id < tick + 1)
    (hitems : ∀ row ∈ db'.items, row.invoiceId < tick + 1)
    (hself : ∀ know, ghost.know = some know → Knows oneOffs (tick + 1) db' held' i know ghost.tx)
    (hother : ∀ j know, j ≠ i → (ghosts j).know = some know →
      Knows oneOffs (tick + 1) db' held' j know (ghosts j).tx)
    (hapart : ∀ j b c, j ≠ i → ghost.know = some (.drafted b) →
      (ghosts j).know = some (.drafted c) → b.draft.id ≠ c.draft.id) :
    Guarded oneOffs (tick + 1) db' held' (Function.update ghosts i ghost) where
  locks := hlocks
  periods := hperiods
  invoices := hinvoices
  items := hitems
  knows j know hknow := by
    by_cases hj : j = i
    · subst hj
      rw [Function.update_self] at hknow ⊢
      exact hself know hknow
    · rw [Function.update_of_ne hj] at hknow ⊢
      exact hother j know hj hknow
  apart j k b c hb hc he := by
    by_cases hj : j = i
    · by_cases hk : k = i
      · rw [hj, hk]
      · rw [hj, Function.update_self] at hb
        rw [Function.update_of_ne hk] at hc
        exact absurd he (hapart k b c hk hb hc)
    · rw [Function.update_of_ne hj] at hb
      by_cases hk : k = i
      · rw [hk, Function.update_self] at hc
        exact absurd he.symm (hapart j c b hj hc hb)
      · rw [Function.update_of_ne hk] at hc
        exact h.apart j k b c hb hc he

theorem Knows.later (h : Knows oneOffs tick db held i know tx)
    (hstored : ∀ row ∈ db.periods, ∃ row' ∈ db'.periods, row'.id = row.id)
    (hlocked : ∀ row ∈ db.periods, (i, Key.period row.id) ∈ held → row ∈ db'.periods)
    (hheld : ∀ k, (i, k) ∈ held → (i, k) ∈ held')
    (hfresh : ∀ bill, know.bill = some bill → bill.Fresh (tick + 1) db') :
    Knows oneOffs (tick + 1) db' held' i know tx where
  found := h.found
  written := h.written
  stored id hid := by
    obtain ⟨row, hrow, rfl⟩ := h.stored id hid
    exact hstored row hrow
  locked row hrow := by
    obtain ⟨hmem, hpending, hkey⟩ := h.locked row hrow
    exact ⟨hlocked row hmem hkey, hpending, hheld _ hkey⟩
  paired := h.paired
  sound := h.sound
  fresh := hfresh

theorem Bill.Fresh.next (h : bill.Fresh tick db) : bill.Fresh (tick + 1) db :=
  ⟨h.past.trans (Nat.lt_succ_self tick), h.invoices, h.items⟩

theorem Knows.still (h : Knows oneOffs tick db held i know tx)
    (hheld : ∀ k, (i, k) ∈ held → (i, k) ∈ held') :
    Knows oneOffs (tick + 1) db held' i know tx :=
  h.later (fun row hrow => ⟨row, hrow, rfl⟩) (fun _ hrow _ => hrow) hheld
    fun bill hbill => (h.fresh bill hbill).next

theorem Guarded.quiet (h : Guarded oneOffs tick db held ghosts) (hlocks : Sys.Exclusive held')
    (hheld : ∀ j k, j ≠ i → (j, k) ∈ held → (j, k) ∈ held')
    (hself : ∀ know, ghost.know = some know → Knows oneOffs (tick + 1) db held' i know ghost.tx)
    (hbill : ∀ b, ghost.know = some (.drafted b) → b.draft.id = tick ∨
      ∃ c, (ghosts i).know = some (.drafted c) ∧ c.draft.id = b.draft.id) :
    Guarded oneOffs (tick + 1) db held' (Function.update ghosts i ghost) := by
  refine h.update hlocks (fun row hrow => (h.periods row hrow).trans (Nat.lt_succ_self tick))
    (fun row hrow => (h.invoices row hrow).trans (Nat.lt_succ_self tick))
    (fun row hrow => (h.items row hrow).trans (Nat.lt_succ_self tick)) hself
    (fun j know hj hknow => (h.knows j know hknow).still fun k => hheld j k hj) ?_
  intro j b c hj hb hc he
  rcases hbill b hb with hnew | ⟨old, hold, hid⟩
  · have hpast := ((h.knows j _ hc).fresh c rfl).past
    omega
  · exact hj (h.apart j i c old hc hold (he.symm.trans hid.symm))

variable {rows : List Period} {row : Period}

theorem Posting.periodsAfter_id (posting : Posting) (hrow : row ∈ rows) :
    ∃ row' ∈ posting.periodsAfter rows, row'.id = row.id := by
  unfold periodsAfter
  split
  · exact ⟨row, hrow, rfl⟩
  · refine ⟨_, List.mem_map_of_mem hrow, ?_⟩
    split <;> rfl

theorem Posting.mem_periodsAfter {posting : Posting} (hrow : row ∈ rows)
    (hother : ∀ billed, posting.period = some billed → row.id ≠ billed.id) :
    row ∈ posting.periodsAfter rows := by
  unfold periodsAfter
  split
  · exact hrow
  · rename_i billed hbilled
    exact List.mem_map.mpr ⟨row, hrow, if_neg (hother billed hbilled)⟩

theorem Posting.of_mem_periodsAfter {posting : Posting} (hrow : row ∈ posting.periodsAfter rows) :
    row ∈ rows ∨ ∃ billed, posting.period = some billed ∧
      ∃ old ∈ rows, old.id = billed.id ∧ row = old.invoicedBy posting.invoice.id := by
  unfold periodsAfter at hrow
  split at hrow
  · exact Or.inl hrow
  · rename_i billed hbilled
    obtain ⟨old, hold, rfl⟩ := List.mem_map.mp hrow
    split
    · rename_i hid
      exact Or.inr ⟨billed, hbilled, old, hold, hid, rfl⟩
    · exact Or.inl hold

theorem Knows.valid {debit : LedgerEntry} (h : Knows oneOffs tick db held i (.drafted bill) tx)
    (hdebit : bill.debit = some debit) :
    (bill.posting debit).Valid db := by
  have hsound := h.sound bill rfl
  have hfresh := h.fresh bill rfl
  obtain ⟨hfoots, hdebits, -⟩ := hsound.posted debit hdebit
  have hid : (bill.posting debit).invoice.id = bill.draft.id := bill.invoice_columns.1
  refine ⟨hfoots, hdebits, ?_, ?_, ?_, ?_, ?_⟩
  · exact bill.invoice_organization.2.trans hsound.number
  · exact fun row hrow => ⟨(h.locked row hrow).1, (h.locked row hrow).2.1⟩
  · rw [hid]
    exact hfresh.invoices
  · rw [hid]
    exact hfresh.items
  · rw [hid]
    exact hsound.items

theorem Guarded.post (h : Guarded oneOffs tick db held ghosts)
    (hknow : (ghosts i).know = some (.drafted bill)) (debit : LedgerEntry) :
    Guarded oneOffs (tick + 1) ((bill.posting debit).after db) (Sys.releasedBy held i)
      (Function.update ghosts i ⟨some .finished, none⟩) := by
  have hself := h.knows i _ hknow
  have hpast := (hself.fresh bill rfl).past
  have hsound := hself.sound bill rfl
  have hid : (bill.posting debit).invoice.id = bill.draft.id := bill.invoice_columns.1
  refine h.update (Sys.exclusive_releasedBy h.locks) ?_ ?_ ?_ ?_ ?_ ?_
  · intro row hrow
    rcases Posting.of_mem_periodsAfter hrow with hrow | ⟨-, -, old, hold, -, rfl⟩
    · exact (h.periods row hrow).trans (Nat.lt_succ_self tick)
    · exact (h.periods old hold).trans (Nat.lt_succ_self tick)
  · intro row hrow
    rcases List.mem_append.mp hrow with hrow | hrow
    · exact (h.invoices row hrow).trans (Nat.lt_succ_self tick)
    · rw [List.mem_singleton.mp hrow, hid]
      exact hpast.trans (Nat.lt_succ_self tick)
  · intro row hrow
    rcases List.mem_append.mp hrow with hrow | hrow
    · exact (h.items row hrow).trans (Nat.lt_succ_self tick)
    · rw [hsound.items row hrow]
      exact hpast.trans (Nat.lt_succ_self tick)
  · intro know hfinished
    cases hfinished
    exact .bare nofun rfl (fun id hid => by cases hid) rfl rfl rfl
  · intro j know hj hother
    have hknows := h.knows j know hother
    refine hknows.later (fun row hrow => (bill.posting debit).periodsAfter_id hrow) ?_
      (fun k => Sys.mem_releasedBy_other hj) ?_
    · intro row hrow hkey
      refine Posting.mem_periodsAfter hrow fun billed hbilled he => hj ?_
      exact h.locks j i _ hkey (he ▸ (hself.locked billed hbilled).2.2)
    · intro other hbill
      have hne : bill.draft.id ≠ other.draft.id := fun he =>
        hj (h.apart i j bill other hknow (hother.trans (congrArg some (know_drafted hbill))) he).symm
      have hfresh := hknows.fresh other hbill
      refine ⟨hfresh.past.trans (Nat.lt_succ_self tick), ?_, ?_⟩
      · intro row hrow
        rcases List.mem_append.mp hrow with hrow | hrow
        · exact hfresh.invoices row hrow
        · rw [List.mem_singleton.mp hrow, hid]
          exact hne
      · intro row hrow
        rcases List.mem_append.mp hrow with hrow | hrow
        · exact hfresh.items row hrow
        · rw [hsound.items row hrow]
          exact hne
  · intro j b c hj hb
    nomatch hb

theorem Guarded.open (h : Guarded oneOffs tick db held ghosts) (hrow : row.id < tick + 1)
    (hself : ∀ know, ghost.know = some know →
      Knows oneOffs (tick + 1) { db with periods := db.periods ++ [row] } held i know ghost.tx)
    (hbill : ∀ b, ghost.know ≠ some (.drafted b)) :
    Guarded oneOffs (tick + 1) { db with periods := db.periods ++ [row] } held
      (Function.update ghosts i ghost) := by
  refine h.update h.locks (fun old hold => ?_)
    (fun row hrow => (h.invoices row hrow).trans (Nat.lt_succ_self tick))
    (fun row hrow => (h.items row hrow).trans (Nat.lt_succ_self tick)) hself ?_ ?_
  · rcases List.mem_append.mp hold with hold | hold
    · exact (h.periods old hold).trans (Nat.lt_succ_self tick)
    · rw [List.mem_singleton.mp hold]
      exact hrow
  · intro j know hj hknow
    have hknows := h.knows j know hknow
    refine hknows.later (fun old hold => ⟨old, List.mem_append_left _ hold, rfl⟩)
      (fun old hold _ => List.mem_append_left _ hold) (fun _ hk => hk) fun bill hb => ?_
    have hfresh := (hknows.fresh bill hb).next
    exact ⟨hfresh.past, hfresh.invoices, hfresh.items⟩
  · intro j b c hj hb
    exact absurd hb (hbill b)

theorem Knows.wrote {know' : Know} {tx' : Option (Tx Db Write)}
    (h : Knows oneOffs tick db held i know tx) (hfound : know' ≠ .lost)
    (hwritten : tx'.map Tx.writes = know'.written) (hknown : know'.known = none)
    (hperiod : know'.period = know.period) (hpaired : know'.billing = some none → oneOffs = true)
    (hheld : ∀ k, (i, k) ∈ held → (i, k) ∈ held')
    (hbill : ∀ bill, know'.bill = some bill → bill.Sound ∧ bill.Fresh (tick + 1) db) :
    Knows oneOffs (tick + 1) db held' i know' tx' where
  found := hfound
  written := hwritten
  stored id hid := by
    rw [hknown] at hid
    cases hid
  locked row hrow := by
    obtain ⟨hmem, hpending, hkey⟩ := h.locked row (hperiod ▸ hrow)
    exact ⟨hmem, hpending, hheld _ hkey⟩
  paired := hpaired
  sound bill hb := (hbill bill hb).1
  fresh bill hb := (hbill bill hb).2

/-- Writes of a statement of the transaction. -/
def stmtWrites (op : Stmt) (tick : Nat) (db : Db) (tx : Tx Db Write) : List Write :=
  (op.exec tick (engine.current db tx) (engine.snapshot db tx)).2

/-- Reply to a statement of the transaction. -/
def stmtReply (op : Stmt) (tick : Nat) (db : Db) (tx : Tx Db Write) : op.Res :=
  (op.exec tick (engine.current db tx) (engine.snapshot db tx)).1

variable {op : Stmt}

theorem Knows.drafted {tx : Tx Db Write} {learn : op.Res → Know}
    (h : Knows oneOffs tick db held i (.drafted bill) (some tx))
    (hk : learnDrafted bill op = some learn) (hheld : ∀ k, (i, k) ∈ held → (i, k) ∈ held') :
    ∃ bill', learn (stmtReply op tick db tx) = .drafted bill' ∧ bill'.draft = bill.draft ∧
      Knows oneOffs (tick + 1) db held' i (.drafted bill')
        (some { tx with writes := tx.writes ++ stmtWrites op tick db tx }) := by
  have hwritten : tx.writes = bill.writes := Option.some.inj h.written
  have hsound := h.sound bill rfl
  have hfresh := (h.fresh bill rfl).next
  have hpaired := h.paired
  cases op with
  | insertItem row =>
    simp only [learnDrafted, Option.ite_none_right_eq_some, Option.some.injEq] at hk
    obtain ⟨⟨hinvoice, htotals, hmarked, hdebit⟩, rfl⟩ := hk
    refine ⟨_, rfl, rfl, h.wrote nofun ?_ rfl rfl hpaired hheld fun b hb => ?_⟩
    · simp [stmtWrites, Stmt.exec, Know.written, hwritten, Bill.writes, htotals, hmarked, hdebit,
        stmtReply]
    · cases hb
      refine ⟨⟨hsound.number, hsound.bucket, fun item hitem => ?_, fun entry he => ?_⟩,
        ⟨hfresh.past, hfresh.invoices, hfresh.items⟩⟩
      · rcases List.mem_append.mp hitem with hitem | hitem
        · exact hsound.items item hitem
        · rw [List.mem_singleton.mp hitem]
          exact hinvoice
      · exact absurd (hdebit.symm.trans he) nofun
  | updateTotals invoiceId subtotal taxAmount total =>
    simp only [learnDrafted, Option.ite_none_right_eq_some, Option.some.injEq] at hk
    obtain ⟨⟨rfl, htotals, hmarked, hdebit⟩, rfl⟩ := hk
    refine ⟨_, rfl, rfl, h.wrote nofun ?_ rfl rfl hpaired hheld fun b hb => ?_⟩
    · simp [stmtWrites, Stmt.exec, Know.written, hwritten, Bill.writes, htotals, hmarked, hdebit]
    · cases hb
      refine ⟨⟨hsound.number, hsound.bucket, hsound.items, fun entry he => ?_⟩,
        ⟨hfresh.past, hfresh.invoices, hfresh.items⟩⟩
      exact absurd (hdebit.symm.trans he) nofun
  | markInvoiced periodId invoiceId =>
    simp only [learnDrafted, Option.ite_none_right_eq_some, Option.some.injEq] at hk
    obtain ⟨⟨hperiod, rfl, hmarked, hdebit⟩, rfl⟩ := hk
    obtain ⟨row, hrow, rfl⟩ := Option.map_eq_some_iff.mp hperiod
    refine ⟨_, rfl, rfl, h.wrote nofun ?_ rfl rfl hpaired hheld fun b hb => ?_⟩
    · simp [stmtWrites, Stmt.exec, Know.written, hwritten, Bill.writes, hrow, hmarked, hdebit]
    · cases hb
      refine ⟨⟨hsound.number, hsound.bucket, hsound.items, fun entry he => ?_⟩,
        ⟨hfresh.past, hfresh.invoices, hfresh.items⟩⟩
      exact absurd (hdebit.symm.trans he) nofun
  | insertEntry row =>
    simp only [learnDrafted, Option.ite_none_right_eq_some, Option.some.injEq] at hk
    obtain ⟨⟨hfoots, hdebits, hmarked, hdebit⟩, rfl⟩ := hk
    refine ⟨_, rfl, rfl, h.wrote nofun ?_ rfl rfl hpaired hheld fun b hb => ?_⟩
    · simp [stmtWrites, Stmt.exec, Know.written, hwritten, Bill.writes, hdebit, stmtReply]
    · cases hb
      refine ⟨⟨hsound.number, hsound.bucket, hsound.items, fun entry he => ?_⟩,
        ⟨hfresh.past, hfresh.invoices, hfresh.items⟩⟩
      obtain rfl := Option.some.inj he
      exact ⟨hfoots, ⟨hdebits.entryType, hdebits.amount, hdebits.referenceType,
        hdebits.referenceId, hdebits.clientId⟩, hmarked⟩
  | _ => nomatch hk

theorem Knows.locks {known : Nat} {tx : Tx Db Write}
    (h : Knows oneOffs tick db held i (.opened (some known)) (some tx))
    (hkeys : ∀ k ∈ Stmt.locks (.lockPeriod known) (engine.current db tx), (i, k) ∈ held') :
    Knows oneOffs (tick + 1) db held' i
        (learnLocked known (stmtReply (.lockPeriod known) tick db tx))
        (some { tx with writes := tx.writes ++ stmtWrites (.lockPeriod known) tick db tx }) ∧
      (learnLocked known (stmtReply (.lockPeriod known) tick db tx)).bill = none := by
  have hwritten : tx.writes = [] := Option.some.inj h.written
  have hcurrent : engine.current db tx = db := by rw [Engine.current, hwritten, Engine.visible_nil]
  obtain ⟨row, hrow, hid⟩ := h.stored known rfl
  have hsome : (db.periods.find? (·.id == known)).isSome :=
    List.find?_isSome.mpr ⟨row, hrow, beq_iff_eq.mpr hid⟩
  obtain ⟨locked, hlocked⟩ := Option.isSome_iff_exists.mp hsome
  have hmem := List.mem_of_find?_eq_some hlocked
  have hlockedId : locked.id = known := by simpa using List.find?_some hlocked
  have hreply : stmtReply (.lockPeriod known) tick db tx = some locked := by
    simp only [stmtReply, Stmt.exec, hcurrent, hlocked]
  have hnone : tx.writes ++ stmtWrites (.lockPeriod known) tick db tx = [] := by
    rw [hwritten]
    rfl
  rw [hreply, hnone, learnLocked, if_neg (not_ne_iff.mpr hlockedId)]
  split
  · rename_i hpending
    refine ⟨⟨(fun h => by cases h), rfl, (fun id hid => by cases hid), fun billed hbilled => ?_,
      (fun hnone => by cases hnone), (fun b hb => by cases hb), (fun b hb => by cases hb)⟩, rfl⟩
    obtain rfl := Option.some.inj hbilled
    refine ⟨hmem, hpending, hkeys _ ?_⟩
    have hany : db.periods.any (·.id == known) = true :=
      List.any_eq_true.mpr ⟨locked, hmem, beq_iff_eq.mpr hlockedId⟩
    simp [Stmt.locks, hcurrent, hany, hlockedId]
  · refine ⟨.bare (fun h => by cases h) rfl (fun id he => ?_) rfl rfl rfl, rfl⟩
    obtain rfl := Option.some.inj he
    exact ⟨locked, hmem, hlockedId⟩

theorem Knows.inserts {period : Option Period} {bucket next : Nat} {tx : Tx Db Write}
    (h : Knows oneOffs tick db held i (.numbered period bucket next) (some tx))
    (hinvoices : ∀ row ∈ db.invoices, row.id < tick) (hitems : ∀ row ∈ db.items, row.invoiceId < tick)
    {row : Invoice} (hnumber : row.invoiceNumber = invoiceNumberText next)
    (hbucket : bucket = row.organizationId.getD 0)
    (hheld : ∀ k, (i, k) ∈ held → (i, k) ∈ held') :
    ∃ know, learnInvoice period bucket next row (stmtReply (.insertInvoice row) tick db tx) = know ∧
      Knows oneOffs (tick + 1) db held' i know
        (some { tx with writes := tx.writes ++ stmtWrites (.insertInvoice row) tick db tx }) ∧
      ∀ b, know = .drafted b → b.draft.id = tick := by
  have hwritten : tx.writes = [.seed bucket, .advance bucket (next + 1)] :=
    Option.some.inj h.written
  have hpaired := h.paired
  refine ⟨_, rfl, ?_⟩
  by_cases haccepts : (engine.current db tx).acceptsInvoice row = true
  · have hreply : stmtReply (.insertInvoice row) tick db tx = some tick := by
      simp only [stmtReply, Stmt.exec, haccepts, if_true]
    have hwrites : stmtWrites (.insertInvoice row) tick db tx =
        [.invoice { row with id := tick }] := by
      simp only [stmtWrites, Stmt.exec, haccepts, if_true]
    rw [hreply, hwrites, hwritten]
    refine ⟨h.wrote nofun rfl rfl rfl hpaired hheld fun b hb => ?_, fun b hb => ?_⟩
    · obtain rfl := Option.some.inj hb
      refine ⟨⟨hnumber, hbucket, nofun, nofun⟩, ⟨Nat.lt_succ_self tick, ?_, ?_⟩⟩
      · exact fun old hold => Nat.ne_of_lt (hinvoices old hold)
      · exact fun old hold => Nat.ne_of_lt (hitems old hold)
    · cases hb
      rfl
  · have hreply : stmtReply (.insertInvoice row) tick db tx = none := by
      simp only [stmtReply, Stmt.exec, haccepts, if_false, Bool.false_eq_true]
    have hwrites : stmtWrites (.insertInvoice row) tick db tx = [] := by
      simp only [stmtWrites, Stmt.exec, haccepts, if_false, Bool.false_eq_true]
    have hknows : Knows oneOffs (tick + 1) db held' i (.numbered period bucket next)
        (some { tx with writes := tx.writes }) :=
      h.wrote nofun h.written rfl rfl hpaired hheld fun b hb => nomatch hb
    rw [hreply, hwrites, List.append_nil]
    exact ⟨hknows, fun b hb => nomatch hb⟩

theorem Knows.within {tx : Tx Db Write} {learn : op.Res → Know}
    (h : Knows oneOffs tick db held i know (some tx))
    (hinvoices : ∀ row ∈ db.invoices, row.id < tick)
    (hitems : ∀ row ∈ db.items, row.invoiceId < tick) (hk : learnOpen oneOffs know op = some learn)
    (hheld : ∀ k, (i, k) ∈ held → (i, k) ∈ held')
    (hkeys : ∀ k ∈ op.locks (engine.current db tx), (i, k) ∈ held') :
    ∃ know', learn (stmtReply op tick db tx) = know' ∧
      Knows oneOffs (tick + 1) db held' i know'
        (some { tx with writes := tx.writes ++ stmtWrites op tick db tx }) ∧
      ∀ b, know' = .drafted b → b.draft.id = tick ∨
        ∃ c, know = .drafted c ∧ c.draft.id = b.draft.id := by
  cases know with
  | opened known =>
    cases known with
    | some known =>
      cases op with
      | lockPeriod id =>
        simp only [learnOpen, Option.ite_none_right_eq_some, Option.some.injEq] at hk
        obtain ⟨rfl, rfl⟩ := hk
        obtain ⟨hknows, hbill⟩ := h.locks hkeys
        refine ⟨_, rfl, hknows, fun b hb => ?_⟩
        rw [hb] at hbill
        nomatch hbill
      | _ => nomatch hk
    | none =>
      have hwritten : tx.writes = [] := Option.some.inj h.written
      cases op with
      | seedSequence bucket =>
        simp only [learnOpen, Option.ite_none_right_eq_some, Option.some.injEq] at hk
        obtain ⟨hone, rfl⟩ := hk
        refine ⟨.seeded none bucket, rfl, h.wrote nofun ?_ rfl rfl (fun _ => hone) hheld
          (fun b hb => nomatch hb), fun b hb => nomatch hb⟩
        rw [hwritten]
        rfl
      | _ => nomatch hk
  | locked row =>
    have hwritten : tx.writes = [] := Option.some.inj h.written
    cases op with
    | seedSequence bucket =>
      simp only [learnOpen, Option.some.injEq] at hk
      obtain rfl := hk
      refine ⟨.seeded (some row) bucket, rfl, h.wrote nofun ?_ rfl rfl
        (fun hnone => nomatch hnone) hheld (fun b hb => nomatch hb), fun b hb => nomatch hb⟩
      rw [hwritten]
      rfl
    | _ => nomatch hk
  | seeded period bucket =>
    have hwritten : tx.writes = [.seed bucket] := Option.some.inj h.written
    cases op with
    | advanceSequence wanted =>
      simp only [learnOpen, Option.ite_none_right_eq_some, Option.some.injEq] at hk
      obtain ⟨rfl, rfl⟩ := hk
      refine ⟨.numbered period wanted (stmtReply (.advanceSequence wanted) tick db tx), rfl,
        h.wrote nofun ?_ rfl rfl h.paired hheld (fun b hb => nomatch hb), fun b hb => nomatch hb⟩
      rw [hwritten]
      rfl
    | _ => nomatch hk
  | numbered period bucket next =>
    cases op with
    | insertInvoice row =>
      simp only [learnOpen, Option.ite_none_right_eq_some, Option.some.injEq] at hk
      obtain ⟨⟨hnumber, hbucket⟩, rfl⟩ := hk
      obtain ⟨know', hlearn, hknows, hid⟩ := h.inserts hinvoices hitems hnumber hbucket hheld
      exact ⟨know', hlearn, hknows, fun b hb => Or.inl (hid b hb)⟩
    | _ => nomatch hk
  | drafted bill =>
    obtain ⟨bill', hlearn, hdraft, hknows⟩ := h.drafted hk hheld
    refine ⟨_, hlearn, hknows, fun b hb => ?_⟩
    cases hb
    exact Or.inr ⟨bill, rfl, by rw [hdraft]⟩
  | _ => nomatch hk

variable {known : Option Nat}

theorem pooled_change {learn : op.Res → Know} (hk : learnIdle known op = some learn)
    (hpast : ∀ row ∈ db.periods, row.id < tick) :
    engine.visible db (op.exec tick db db).2 = db ∨ ∃ row : Period, row.id = tick ∧ row.New db ∧
      engine.visible db (op.exec tick db db).2 =
        { db with periods := db.periods ++ [row] } := by
  cases op with
  | insertPeriod contractId periodStart periodEnd scheduledAt =>
    by_cases haccepts : db.acceptsPeriod contractId periodStart periodEnd = true
    · refine Or.inr ⟨⟨tick, contractId, periodStart, periodEnd, none, .pending, scheduledAt⟩, rfl,
        ⟨rfl, rfl, fun old hold => Nat.ne_of_lt (hpast old hold), fun old hold hc hs => ?_⟩, ?_⟩
      · have hold' := List.all_eq_true.mp haccepts old hold
        simp [hc, hs] at hold'
      · simp only [Stmt.exec, haccepts, if_true]
        rfl
    · refine Or.inl ?_
      simp only [Stmt.exec, haccepts, Bool.false_eq_true, if_false, Engine.visible_nil]
  | selectPending contractId => exact Or.inl rfl
  | selectLastInvoiced contractId => exact Or.inl rfl
  | selectPeriod id => exact Or.inl rfl
  | selectInvoice id => exact Or.inl rfl
  | _ => nomatch hk

theorem pooled_learn {learn : op.Res → Know} (hk : learnIdle known op = some learn) (tick : Nat)
    (db : Db) (hknown : ∀ id, known = some id → ∃ row ∈ db.periods, row.id = id) :
    ∃ known', learn (op.exec tick db db).1 = .idle known' ∧
      ∀ id, known' = some id → ∃ row ∈ db.periods, row.id = id := by
  cases op with
  | selectPending contractId =>
    obtain rfl := Option.some.inj hk
    refine ⟨_, rfl, fun id hid => ?_⟩
    obtain ⟨row, hrow, rfl⟩ := Option.map_eq_some_iff.mp hid
    exact ⟨row, (List.mem_filter.mp (mem_of_lastEnding hrow)).1, rfl⟩
  | selectPeriod wanted =>
    obtain rfl := Option.some.inj hk
    refine ⟨_, rfl, fun id hid => ?_⟩
    obtain ⟨row, hrow, rfl⟩ := Option.map_eq_some_iff.mp hid
    exact ⟨row, List.mem_of_find?_eq_some hrow, rfl⟩
  | selectLastInvoiced contractId =>
    obtain rfl := Option.some.inj hk
    exact ⟨known, rfl, hknown⟩
  | insertPeriod contractId periodStart periodEnd scheduledAt =>
    obtain rfl := Option.some.inj hk
    exact ⟨known, rfl, hknown⟩
  | selectInvoice id =>
    obtain rfl := Option.some.inj hk
    exact ⟨known, rfl, hknown⟩
  | _ => nomatch hk

theorem Guarded.pooled (h : Guarded oneOffs tick db held ghosts) {learn : op.Res → Know}
    (hi : ghosts i = ⟨some (.idle known), tx⟩) (hk : learnIdle known op = some learn) :
    Guarded oneOffs (tick + 1) (engine.visible db (op.exec tick db db).2) held
        (Function.update ghosts i ⟨some (learn (op.exec tick db db).1), tx⟩) ∧
      (engine.visible db (op.exec tick db db).2 = db ∨
        Opened db (engine.visible db (op.exec tick db db).2)) := by
  have hknows := h.knows i (.idle known) (by rw [hi])
  rw [hi] at hknows
  obtain ⟨known', hlearn, hstored⟩ := pooled_learn hk tick db hknows.stored
  rw [hlearn]
  rcases pooled_change hk h.periods with hsame | ⟨row, hid, hnew, hopened⟩
  · rw [hsame]
    refine ⟨?_, Or.inl rfl⟩
    refine h.quiet h.locks (fun _ _ _ hk => hk) (fun know hknow => ?_) (fun b hb => nomatch hb)
    cases hknow
    exact .bare nofun hknows.written hstored rfl rfl rfl
  · rw [hopened]
    refine ⟨?_, Or.inr ⟨row, hnew, rfl⟩⟩
    refine h.open (hid ▸ Nat.lt_succ_self tick) (fun know hknow => ?_) fun b hb => by cases hb
    cases hknow
    refine .bare nofun hknows.written (fun id hid => ?_) rfl rfl rfl
    obtain ⟨old, hold, he⟩ := hstored id hid
    exact ⟨old, List.mem_append_left _ hold, he⟩

theorem Guarded.inner (h : Guarded oneOffs tick db held ghosts) {learn : op.Res → Know}
    {tx : Tx Db Write} (hi : ghosts i = ⟨some know, some tx⟩)
    (hk : learnOpen oneOffs know op = some learn)
    (hfree : ∀ j k, (j, k) ∈ held → k ∈ op.locks (engine.current db tx) → j = i) :
    Guarded oneOffs (tick + 1) db (held ++ (op.locks (engine.current db tx)).map fun k => (i, k))
      (Function.update ghosts i ⟨some (learn (stmtReply op tick db tx)),
        some { tx with writes := tx.writes ++ stmtWrites op tick db tx }⟩) := by
  have hknows := h.knows i know (by rw [hi])
  rw [hi] at hknows
  have hheld : ∀ k, (i, k) ∈ held →
      (i, k) ∈ held ++ (op.locks (engine.current db tx)).map fun k => (i, k) :=
    fun k => List.mem_append_left _
  have hkeys : ∀ k ∈ op.locks (engine.current db tx),
      (i, k) ∈ held ++ (op.locks (engine.current db tx)).map fun k => (i, k) :=
    fun k hk => List.mem_append_right _ (List.mem_map_of_mem hk)
  obtain ⟨know', hlearn, hknows', hbill⟩ :=
    hknows.within h.invoices h.items hk hheld hkeys
  rw [hlearn]
  refine h.quiet (Sys.exclusive_locked h.locks hfree) (fun j k _ => List.mem_append_left _)
    (fun k hk => ?_) fun b hb => ?_
  · obtain rfl := Option.some.inj hk
    exact hknows'
  · rcases hbill b (Option.some.inj hb) with hnew | ⟨c, hc, he⟩
    · exact Or.inl hnew
    · exact Or.inr ⟨c, by rw [hi, hc], he⟩

theorem Guarded.released (h : Guarded oneOffs tick db held ghosts)
    (hself : ∀ know, ghost.know = some know →
      Knows oneOffs (tick + 1) db (Sys.releasedBy held i) i know ghost.tx)
    (hbill : ∀ b, ghost.know ≠ some (.drafted b)) :
    Guarded oneOffs (tick + 1) db (Sys.releasedBy held i) (Function.update ghosts i ghost) :=
  h.quiet (Sys.exclusive_releasedBy h.locks) (fun _ _ => Sys.mem_releasedBy_other) hself
    fun b hb => absurd hb (hbill b)

theorem rolledBack_idle {know' : Know} (hfound : know ≠ .lost)
    (hk : (discipline oneOffs).rolledBack know = some know') : know' = .idle none := by
  cases know with
  | lost => exact absurd rfl hfound
  | idle known => nomatch hk
  | finished => nomatch hk
  | _ => exact (Option.some.inj hk).symm

theorem sent_closed {via : Via} {learn : op.Res → Know} (hfound : know ≠ .lost)
    (hclosed : know.written = none) (hk : (discipline oneOffs).sent know via op = some learn) :
    (∃ known, know = .idle known ∧ learnIdle known op = some learn) ∨
      know = .finished ∧ (∀ r, learn r = .finished) ∧ ∀ tick db, (op.exec tick db db).2 = [] := by
  cases know with
  | lost => exact absurd rfl hfound
  | idle known =>
    cases via with
    | pool => exact Or.inl ⟨known, rfl, hk⟩
    | conn => nomatch hk
  | finished =>
    cases via with
    | pool =>
      refine Or.inr ⟨rfl, ?_⟩
      cases op with
      | selectInvoice id =>
        obtain rfl := Option.some.inj hk
        exact ⟨fun _ => rfl, fun _ _ => rfl⟩
      | _ => nomatch hk
    | conn => nomatch hk
  | _ => nomatch hclosed

theorem sent_open {via : Via} {learn : op.Res → Know} {writes : List Write}
    (hopen : know.written = some writes) (hk : (discipline oneOffs).sent know via op = some learn) :
    via = .conn ∧ learnOpen oneOffs know op = some learn := by
  cases know with
  | lost => nomatch hopen
  | idle known => nomatch hopen
  | finished => nomatch hopen
  | _ =>
    cases via with
    | pool => nomatch hk
    | conn => exact ⟨rfl, hk⟩

theorem Guarded.step (h : Guarded oneOffs tick db held ghosts) {ghost' : Ghost Db Write Know}
    (hmove : Disciplined engine (discipline oneOffs) i tick db held (ghosts i) db' held' ghost') :
    Guarded oneOffs (tick + 1) db' held' (Function.update ghosts i ghost') ∧
      (db' = db ∨ Opened db db' ∨ Posted oneOffs db db' ∧ ghost'.know = some .finished) := by
  generalize hi : ghosts i = ghost at hmove
  have hknows : ∀ know, ghost.know = some know → Knows oneOffs tick db held i know ghost.tx :=
    fun know hknow => hi ▸ h.knows i know (hi ▸ hknow)
  cases hmove with
  | idle =>
    refine ⟨h.quiet h.locks (fun _ _ _ hk => hk)
      (fun know hknow => (hknows know hknow).still fun _ hk => hk) fun b hb => ?_, Or.inl rfl⟩
    exact Or.inr ⟨b, hi ▸ hb, rfl⟩
  | abort => exact ⟨h.released (fun know hknow => nomatch hknow) (fun b hb => by cases hb), Or.inl rfl⟩
  | start know know' tx hk =>
    cases know with
    | idle known =>
      obtain rfl := Option.some.inj hk
      have hown := hknows _ rfl
      obtain rfl : tx = none := Option.map_eq_none_iff.mp hown.written
      refine ⟨h.released (fun know hknow => ?_) (fun b hb => by cases hb), Or.inl rfl⟩
      cases hknow
      exact .bare nofun rfl hown.stored rfl rfl rfl
    | lost => exact absurd rfl (hknows _ rfl).found
    | _ => nomatch hk
  | commit know know' tx hk =>
    cases know with
    | drafted bill =>
      simp only [discipline, Option.ite_none_right_eq_some, Option.some.injEq] at hk
      obtain ⟨hsome, rfl⟩ := hk
      obtain ⟨debit, hdebit⟩ := Option.isSome_iff_exists.mp hsome
      have hown := hknows _ rfl
      obtain ⟨tx, rfl, hwrites⟩ := Option.map_eq_some_iff.mp hown.written
      have hsettled : engine.settled db (some tx) = (bill.posting debit).after db := by
        rw [Engine.settled_some, hwrites]
        exact visible_writes (hown.sound bill rfl) hdebit (hown.fresh bill rfl).invoices
      rw [hsettled]
      refine ⟨h.post (by rw [hi]) debit, Or.inr (Or.inr ⟨⟨bill.posting debit,
        hown.valid hdebit, rfl, fun hnone => hown.paired ?_⟩, rfl⟩)⟩
      exact congrArg some hnone
    | lost => exact absurd rfl (hknows _ rfl).found
    | _ => nomatch hk
  | rollback know know' tx hk =>
    obtain rfl := rolledBack_idle (hknows _ rfl).found hk
    refine ⟨h.released (fun know hknow => ?_) (fun b hb => by cases hb), Or.inl rfl⟩
    cases hknow
    exact .bare nofun rfl (fun id hid => nomatch hid) rfl rfl rfl
  | call know query learn tx hk answer =>
    obtain rfl := Option.some.inj hk
    refine ⟨h.quiet h.locks (fun _ _ _ hk => hk)
      (fun know hknow => (hknows know hknow).still fun _ hk => hk) fun b hb => ?_, Or.inl rfl⟩
    exact Or.inr ⟨b, hi ▸ hb, rfl⟩
  | auto know via op learn tx hk hin hfree =>
    have hown := hknows know rfl
    cases tx with
    | none =>
      rcases sent_closed hown.found hown.written.symm hk with
        ⟨known, rfl, hidle⟩ | ⟨rfl, hlearn, hnone⟩
      · obtain ⟨hguarded, hchange⟩ := h.pooled hi hidle
        exact ⟨hguarded, hchange.imp_right Or.inl⟩
      · have hsame : engine.visible db (op.exec tick db db).2 = db := by rw [hnone]; rfl
        refine ⟨?_, Or.inl hsame⟩
        change Guarded oneOffs (tick + 1) (engine.visible db (op.exec tick db db).2) held
          (Function.update ghosts i ⟨some (learn (op.exec tick db db).1), none⟩)
        rw [hlearn, hsame]
        refine h.quiet h.locks (fun _ _ _ hk => hk) (fun know hknow => ?_) fun b hb => by
          cases hb
        obtain rfl := Option.some.inj hknow
        exact hown.still fun _ hk => hk
    | some tx =>
      obtain ⟨rfl, -⟩ := sent_open hown.written.symm hk
      nomatch hin
  | within know op learn tx hk hfree =>
    obtain ⟨-, hk⟩ := sent_open (hknows know rfl).written.symm hk
    exact ⟨h.inner hi hk hfree, Or.inl rfl⟩

end Invariant

end FireIsp.Invoicing
