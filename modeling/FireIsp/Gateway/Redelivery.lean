import Mathlib.Data.List.Nodup
import FireIsp.Gateway.Webhook

/-!
# Redelivered success events

A provider delivers an event of success until it is acknowledged.  The event is recorded before
the work, so only the delivery that records it can credit the payment.
-/

namespace FireIsp.Gateway

open Txn Transition

/-- What the world answers during one delivery. -/
abbrev World := (query : Query) → query.Answer

section Rules

variable {world : World} {db copy : Db} {work : Option Db} {caller : Caller} {point : Point}

theorem yields_attempt_pool {op : Stmt} {post : Option op.Res → Db → Option Db → Prop}
    (hraised : world (.raises caller point) = true → post none db work)
    (hsent : world (.raises caller point) = false → ∀ tick,
      post (some (exec tick db db op).1) (engine.visible db (exec tick db db op).2) work) :
    Yields engine world (attempt caller point .pool op) db work post := by
  refine yields_ask ?_
  cases hanswer : world (.raises caller point) with
  | true => exact fun _ => hraised hanswer
  | false => exact yields_pool fun tick _ => hsent hanswer tick

theorem yields_attempt_conn {op : Stmt} {post : Option op.Res → Db → Option Db → Prop}
    (hraised : world (.raises caller point) = true → post none db (some copy))
    (hsent : world (.raises caller point) = false → ∀ tick,
      post (some (exec tick copy copy op).1) db
        (some (engine.visible copy (exec tick copy copy op).2))) :
    Yields engine world (attempt caller point .conn op) db (some copy) post := by
  refine yields_ask ?_
  cases hanswer : world (.raises caller point) with
  | true => exact fun _ => hraised hanswer
  | false => exact yields_conn fun tick _ => hsent hanswer tick

theorem yields_attemptBegin {post : Bool → Db → Option Db → Prop}
    (hraised : world (.raises caller .begin) = true → post false db none)
    (hsent : world (.raises caller .begin) = false → post true db (some db)) :
    Yields engine world (attemptBegin caller) db none post := by
  refine yields_ask ?_
  cases hanswer : world (.raises caller .begin) with
  | true => exact fun _ => hraised hanswer
  | false => exact yields_start fun _ => hsent hanswer

theorem yields_attemptCommit {post : Option Unit → Db → Option Db → Prop}
    (hraised : world (.raises caller .commit) = true → post none db (some copy))
    (hsent : world (.raises caller .commit) = false → post (some ()) copy none) :
    Yields engine world (attemptCommit caller) db (some copy) post := by
  refine yields_ask ?_
  cases hanswer : world (.raises caller .commit) with
  | true => exact fun _ => hraised hanswer
  | false => exact yields_commit fun _ => hsent hanswer

theorem yields_attemptRollback {post : Bool → Db → Option Db → Prop}
    (h : ∀ returned, post returned db none) :
    Yields engine world (attemptRollback caller) db work post :=
  yields_ask (yields_rollback fun _ => h _)

theorem yields_rollbackReturn {post : Option Unit → Db → Option Db → Prop}
    (h : ∀ ended, post ended db none) :
    Yields engine world (rollbackReturn caller) db work post :=
  yields_bind (yields_attemptRollback fun _ => yields_pure (h _))

end Rules

def Db.credited (db : Db) (transactionId : Nat) : Bool :=
  db.ledger.any fun row => row.isOf transactionId && decide (row.entryType = .credit)

/-- The amounts are equal within the tolerance. -/
def World.near (world : World) (amount total : Int) : Bool :=
  if (amount - total).natAbs = 1 then world (.tolerated amount total) else decide (amount = total)

/-- What a payment settles. -/
def Db.choose (db : Db) (world : World) (tx : Transaction) : Choice :=
  match tx.invoiceId with
  | some invoiceId =>
    let invoice := db.invoiceOf invoiceId tx.clientId tx.organizationId
    ⟨invoice, true, invoice.any Invoice.payable⟩
  | none =>
    match db.oldestIssued tx.clientId tx.organizationId with
    | some invoice =>
      if world.near tx.amount invoice.total then ⟨some invoice, true, true⟩
      else ⟨none, false, false⟩
    | none => ⟨none, false, false⟩

/-- A reconciliation credits: there is an invoice, the amount fits, and nothing raises. -/
structure Reconciles (world : World) (db : Db) (tx : Transaction) : Prop where
  connect : world (.raises .reconcilePayment .connect) = false
  begin : world (.raises .reconcilePayment .begin) = false
  lockTransaction : world (.raises .reconcilePayment .lockTransaction) = false
  lockInvoice : world (.raises .reconcilePayment .lockInvoice) = false
  shouldCredit : (db.choose world tx).shouldCredit = true
  marks : (db.choose world tx).invoice.isSome = true → (db.choose world tx).markPaid = true →
    world (.raises .reconcilePayment .markPaid) = false ∧
      world (.raises .reconcilePayment .setSettled) = false
  insertEntry : world (.raises .reconcilePayment .insertEntry) = false
  fits : fitsLedger tx.amount = true
  commit : world (.raises .reconcilePayment .commit) = false

variable {world : World} {db : Db} {tx : Transaction}

/-- How a reconciliation ends: without a trace, or with the credit. -/
def Ended (world : World) (db : Db) (tx : Transaction) (ended : Option Unit) (db' : Db)
    (work' : Option Db) : Prop :=
  (ended = some () → work' = none) ∧
    (db' = db ∧ ¬Reconciles world db tx ∨
      ended = some () ∧ db'.events = db.events ∧ db'.credited tx.id = true ∧
        Reconciles world db tx)

theorem ended_none {work' : Option Db} (h : ¬Reconciles world db tx) :
    Ended world db tx none db work' :=
  ⟨nofun, Or.inl ⟨rfl, h⟩⟩

theorem ended_rolledBack {ended : Option Unit} (h : ¬Reconciles world db tx) :
    Ended world db tx ended db none :=
  ⟨fun _ => rfl, Or.inl ⟨rfl, h⟩⟩

theorem yields_withinTolerance {work : Option Db} {post : Bool → Db → Option Db → Prop}
    {amount total : Int} (h : post (world.near amount total) db work) :
    Yields engine world (withinTolerance amount total) db work post := by
  unfold withinTolerance
  unfold World.near at h
  split_ifs with hnear
  · rw [if_pos hnear] at h
    exact fun _ => h
  · rw [if_neg hnear] at h
    exact fun _ => h

theorem yields_chooseInvoice {copy : Db} {post : Option Choice → Db → Option Db → Prop}
    (hraised : world (.raises .reconcilePayment .lockInvoice) = true → post none db (some copy))
    (hsent : world (.raises .reconcilePayment .lockInvoice) = false →
      post (some (copy.choose world tx)) db (some copy)) :
    Yields engine world (chooseInvoice tx) db (some copy) post := by
  unfold chooseInvoice
  cases hlinked : tx.invoiceId with
  | some invoiceId =>
    refine yields_bind (yields_attempt_conn (fun h => yields_pure (hraised h)) fun h _ => ?_)
    refine yields_pure ?_
    have hchosen := hsent h
    rw [Db.choose, hlinked] at hchosen
    exact hchosen
  | none =>
    refine yields_bind (yields_attempt_conn (fun h => yields_pure (hraised h)) fun h _ => ?_)
    have hchosen := hsent h
    simp only [Db.choose, hlinked] at hchosen
    change Yields engine world
      (chooseOldest tx (some (copy.oldestIssued tx.clientId tx.organizationId))) db (some copy) _
    cases holdest : copy.oldestIssued tx.clientId tx.organizationId with
    | none =>
      rw [holdest] at hchosen
      exact yields_pure hchosen
    | some invoice =>
      rw [holdest] at hchosen
      exact yields_bind (yields_withinTolerance (yields_pure hchosen))

theorem yields_creditSettled {copy : Db} (hevents : copy.events = db.events)
    (hreconciles : world (.raises .reconcilePayment .insertEntry) = false →
      fitsLedger tx.amount = true → world (.raises .reconcilePayment .commit) = false →
      Reconciles world db tx) :
    Yields engine world (creditSettled tx (some ())) db (some copy) (Ended world db tx) := by
  refine yields_bind (yields_attempt_conn (fun hraised => ?_) fun hsent _ => ?_)
  · exact yields_pure (ended_none fun h => by simp [h.insertEntry] at hraised)
  · by_cases hfits : fitsLedger tx.amount = true
    · have hexec : ∀ tick, exec tick copy copy (.insertEntry tx.creditEntry) =
          (true, [.entry tx.creditEntry]) := fun tick => if_pos hfits
      rw [hexec, if_pos rfl]
      refine yields_attemptCommit (fun hraised => ?_) fun hcommit => ?_
      · exact ended_none fun h => by simp [h.commit] at hraised
      · refine ⟨fun _ => rfl, Or.inr ⟨rfl, hevents, ?_, hreconciles hsent hfits hcommit⟩⟩
        simp [Db.credited, Engine.visible, engine, Db.apply, Transaction.creditEntry,
          Transaction.entry, LedgerEntry.isOf]
    · have hexec : ∀ tick, exec tick copy copy (.insertEntry tx.creditEntry) = (false, []) :=
        fun tick => if_neg hfits
      rw [hexec, if_neg (by simp)]
      exact yields_pure (ended_none fun h => hfits h.fits)

theorem yields_settleChoice
    (hlocked : world (.raises .reconcilePayment .connect) = false ∧
      world (.raises .reconcilePayment .begin) = false ∧
      world (.raises .reconcilePayment .lockTransaction) = false ∧
      world (.raises .reconcilePayment .lockInvoice) = false) :
    Yields engine world (settleChoice tx (some (db.choose world tx))) db (some db)
      (Ended world db tx) := by
  obtain ⟨hconnect, hbegin, hlockTransaction, hlockInvoice⟩ := hlocked
  simp only [settleChoice]
  split_ifs with hcredit
  · refine yields_bind ?_
    unfold markSettled
    split
    · rename_i invoice hinvoice hmark
      have hsome : (db.choose world tx).invoice.isSome = true := by rw [hinvoice]; rfl
      refine yields_bind (yields_attempt_conn (fun hraised => ?_) fun hpaid _ => ?_)
      · exact yields_pure (yields_pure (ended_none fun h => by
          simp [(h.marks hsome hmark).1] at hraised))
      · refine yields_attempt_conn (fun hraised => ?_) fun hsettled _ => ?_
        · exact yields_pure (ended_none fun h => by simp [(h.marks hsome hmark).2] at hraised)
        · exact yields_creditSettled rfl fun hentry hfits hcommit =>
            ⟨hconnect, hbegin, hlockTransaction, hlockInvoice, hcredit,
              fun _ _ => ⟨hpaid, hsettled⟩, hentry, hfits, hcommit⟩
    · rename_i hnot
      refine yields_pure (yields_creditSettled rfl fun hentry hfits hcommit =>
        ⟨hconnect, hbegin, hlockTransaction, hlockInvoice, hcredit, fun hsome hmark => ?_, hentry,
          hfits, hcommit⟩)
      obtain ⟨invoice, hinvoice⟩ := Option.isSome_iff_exists.mp hsome
      exact absurd hmark (hnot invoice hinvoice)
  · exact yields_rollbackReturn fun ended => ended_rolledBack fun h => hcredit h.shouldCredit

theorem yields_reconcilePayment (tx : Transaction) (htx : db.transaction tx.id = some tx) :
    Yields engine world (reconcilePayment tx.id) db none fun _ db' work' =>
      work' = none ∧ db'.events = db.events ∧
        (db'.credited tx.id = true ↔ db.credited tx.id = true ∨ Reconciles world db tx) := by
  have hplain : ¬Reconciles world db tx →
      (db.credited tx.id = true ↔ db.credited tx.id = true ∨ Reconciles world db tx) := fun hnot =>
    (or_iff_left hnot).symm
  have hcaught : ∀ ended db' work', Ended world db tx ended db' work' →
      Yields engine world (caught .reconcilePayment ended) db' work' fun _ db' work' =>
        work' = none ∧ db'.events = db.events ∧
          (db'.credited tx.id = true ↔ db.credited tx.id = true ∨ Reconciles world db tx) := by
    rintro ended db' work' ⟨hwork, hended⟩
    cases ended with
    | none =>
      rcases hended with ⟨rfl, hnot⟩ | ⟨hsome, -⟩
      · exact yields_attemptRollback fun _ => ⟨rfl, rfl, hplain hnot⟩
      · cases hsome
    | some ended =>
      obtain rfl := hwork rfl
      rcases hended with ⟨rfl, hnot⟩ | ⟨-, hevents, hcredited, hyes⟩
      · exact yields_pure ⟨rfl, rfl, hplain hnot⟩
      · exact yields_pure ⟨rfl, hevents, iff_of_true hcredited (Or.inr hyes)⟩
  refine yields_ask ?_
  cases hconnect : world (.raises .reconcilePayment .connect) with
  | true => exact yields_pure ⟨rfl, rfl, hplain fun h => by simp [h.connect] at hconnect⟩
  | false =>
    refine yields_bind (yields_attemptBegin (fun hraised => ?_) fun hbegin => ?_)
    · have hnot : ¬Reconciles world db tx := fun h => by simp [h.begin] at hraised
      exact yields_bind (yields_pure (hcaught none db none (ended_none hnot)))
    · refine yields_bind (Yields.mono ?_ hcaught)
      refine yields_bind (yields_attempt_conn (fun hraised => ?_) fun hlock _ => ?_)
      · exact yields_pure (ended_none fun h => by simp [h.lockTransaction] at hraised)
      · change Yields engine world (reconcileLocked (some (db.transaction tx.id))) db (some db) _
        rw [htx]
        refine yields_bind (yields_chooseInvoice (fun hraised => ?_) fun hinvoice => ?_)
        · exact yields_pure (ended_none fun h => by simp [h.lockInvoice] at hraised)
        · exact yields_settleChoice ⟨hconnect, hbegin, hlock, hinvoice⟩

structure Event.Succeeds (event : Event) (gatewayRef : String) : Prop where
  payment : event.isSetup = false
  mapped : mapProviderEvent event.provider event.eventType event.payload =
    (some gatewayRef, some .succeeded)

def Db.referenced (db : Db) (event : Event) (gatewayRef : String) : Option Transaction :=
  db.transactions.find? fun row =>
    decide (row.gatewayReferenceId = gatewayRef) && row.isOf event.confined

/-- The transaction of the metadata. -/
def Db.named (db : Db) (event : Event) : Option Transaction :=
  (event.payload.transactionId.filter fun id => id ≠ 0).bind fun id =>
    (db.transaction id).filter (Transaction.isOf event.confined)

def Db.matched (db : Db) (event : Event) (gatewayRef : String) : Option Transaction :=
  (db.referenced event gatewayRef).or (db.named event)

def Db.recorded (db : Db) (event : Event) : Bool :=
  (db.event event.provider event.providerEventId (event.organizationId.getD 0)).isSome

/-- A recorded event of success is processed as far as the credit. -/
structure Processes (world : World) (db : Db) (event : Event) (gatewayRef : String)
    (tx : Transaction) : Prop where
  findByReference : world (.raises .handleWebhookEvent .findByReference) = false
  findById : db.referenced event gatewayRef = none →
    world (.raises .handleWebhookEvent .findById) = false
  setStatus : world (.raises .handleWebhookEvent .setStatus) = false
  markEvent : world (.raises .handleWebhookEvent .markEvent) = false
  reconciles : Reconciles world db tx

variable {event : Event} {gatewayRef : String}

theorem transaction_of_mem {row : Transaction}
    (hids : (db.transactions.map Transaction.id).Nodup) (hrow : row ∈ db.transactions) :
    db.transaction row.id = some row := by
  have hsome : (db.transaction row.id).isSome = true :=
    List.find?_isSome.mpr ⟨row, hrow, beq_self_eq_true row.id⟩
  obtain ⟨found, hfound⟩ := Option.isSome_iff_exists.mp hsome
  have hid : found.id = row.id := by simpa using List.find?_some hfound
  rw [hfound, List.inj_on_of_nodup_map hids (List.mem_of_find?_eq_some hfound) hrow hid]

theorem transaction_of_matched (hids : (db.transactions.map Transaction.id).Nodup)
    (hmatch : db.matched event gatewayRef = some tx) : db.transaction tx.id = some tx := by
  refine transaction_of_mem hids ?_
  unfold Db.matched at hmatch
  rw [Option.or_eq_some_iff] at hmatch
  rcases hmatch with hreference | ⟨-, hnamed⟩
  · exact List.mem_of_find?_eq_some hreference
  · obtain ⟨id, -, hid⟩ := Option.bind_eq_some_iff.mp hnamed
    exact List.mem_of_find?_eq_some (Option.filter_eq_some_iff.mp hid).1

theorem yields_matchTransaction {post : Option (Option Transaction) → Db → Option Db → Prop}
    (hmatch : db.matched event gatewayRef = some tx)
    (hraised : ¬Processes world db event gatewayRef tx → post none db none)
    (hfound : world (.raises .handleWebhookEvent .findByReference) = false →
      (db.referenced event gatewayRef = none →
        world (.raises .handleWebhookEvent .findById) = false) →
      post (some (some tx)) db none) :
    Yields engine world (matchTransaction event gatewayRef) db none post := by
  refine yields_bind (yields_attempt_pool (fun hanswer => ?_) fun hreference _ => ?_)
  · exact yields_pure (hraised fun h => by simp [h.findByReference] at hanswer)
  · change Yields engine world
      (matchMetadata event (some (db.referenced event gatewayRef))) db none post
    unfold Db.matched at hmatch
    cases hrow : db.referenced event gatewayRef with
    | some row =>
      rw [hrow, Option.some_or] at hmatch
      rw [hmatch]
      exact yields_pure (hfound hreference fun hnone => by simp [hrow] at hnone)
    | none =>
      rw [hrow, Option.none_or, Db.named] at hmatch
      simp only [matchMetadata]
      cases hid : event.payload.transactionId.filter fun id => id ≠ 0 with
      | none =>
        rw [hid] at hmatch
        cases hmatch
      | some id =>
        rw [hid, Option.bind_some] at hmatch
        refine yields_attempt_pool (fun hanswer => ?_) fun hanswer _ => ?_
        · exact hraised fun h => by simp [h.findById hrow] at hanswer
        · change post (some ((db.transaction id).filter (Transaction.isOf event.confined))) db none
          rw [hmatch]
          exact hfound hreference fun _ => hanswer

theorem transaction_setStatus (htx : db.transaction tx.id = some tx) (status : GatewayStatus) :
    (db.apply (.status tx.id status none)).transaction tx.id =
      some { tx with gatewayStatus := status } := by
  have hid : ∀ row : Transaction, ((if row.id = tx.id then
      { row with
        gatewayStatus := status
        gatewayReferenceId := (none : Option String).getD row.gatewayReferenceId }
      else row).id == tx.id) = (row.id == tx.id) := by
    intro row
    split_ifs <;> rfl
  simp only [Db.transaction, Db.apply, updated, List.find?_map] at htx ⊢
  rw [show ((fun row : Transaction => row.id == tx.id) ∘ fun row => if row.id = tx.id then
    { row with
      gatewayStatus := status
      gatewayReferenceId := (none : Option String).getD row.gatewayReferenceId }
    else row) = fun row => row.id == tx.id from funext hid, htx]
  simp

variable {db' : Db}

theorem reconciles_congr (hinvoices : db'.invoices = db.invoices) (status : GatewayStatus) :
    Reconciles world db' { tx with gatewayStatus := status } ↔ Reconciles world db tx := by
  have hchoose : db'.choose world { tx with gatewayStatus := status } = db.choose world tx := by
    simp only [Db.choose, Db.invoiceOf, Db.oldestIssued, hinvoices]
  constructor
  · rintro ⟨h₁, h₂, h₃, h₄, h₅, h₆, h₇, h₈, h₉⟩
    rw [hchoose] at h₅ h₆
    exact ⟨h₁, h₂, h₃, h₄, h₅, h₆, h₇, h₈, h₉⟩
  · rintro ⟨h₁, h₂, h₃, h₄, h₅, h₆, h₇, h₈, h₉⟩
    rw [← hchoose] at h₅ h₆
    exact ⟨h₁, h₂, h₃, h₄, h₅, h₆, h₇, h₈, h₉⟩

theorem recorded_markEvent (h : db.recorded event = true) (id : Nat) (status : EventStatus)
    (transactionId : Option Nat) :
    (db.apply (.eventStatus id status transactionId)).recorded event = true := by
  unfold Db.recorded Db.event at h ⊢
  rw [List.find?_isSome] at h ⊢
  obtain ⟨row, hrow, hevent⟩ := h
  refine ⟨_, List.mem_map_of_mem hrow, ?_⟩
  split_ifs
  · exact hevent
  · exact hevent

/-- What the processing of a recorded event of success leaves behind. -/
def Processed (world : World) (db : Db) (event : Event) (gatewayRef : String) (tx : Transaction)
    (db' : Db) (work' : Option Db) : Prop :=
  work' = none ∧ db'.recorded event = true ∧
    (db'.credited tx.id = true ↔
      db.credited tx.id = true ∨ Processes world db event gatewayRef tx)

theorem yields_linkEvent {linked : Db}
    (hrow : linked.transaction tx.id = some { tx with gatewayStatus := .succeeded })
    (hinvoices : linked.invoices = db.invoices) (hledger : linked.ledger = db.ledger)
    (hrecorded : linked.recorded event = true)
    (hprocesses : Reconciles world db tx ↔ Processes world db event gatewayRef tx) :
    Yields engine world (linkEvent tx.id .succeeded (some ())) linked none fun _ db' work' =>
      Processed world db event gatewayRef tx db' work' := by
  refine yields_bind (yields_bind (Yields.mono (yields_reconcilePayment
    { tx with gatewayStatus := .succeeded } hrow) ?_))
  rintro returned db' work' ⟨rfl, hevents, hcredited⟩
  have hprocessed : Processed world db event gatewayRef tx db' none := by
    refine ⟨rfl, ?_, hcredited.trans ?_⟩
    · rw [Db.recorded, Db.event, hevents]
      exact hrecorded
    · rw [reconciles_congr hinvoices, hprocesses, Db.credited, Db.credited, hledger]
  unfold cancelAfter
  split_ifs with hreturned
  · refine yields_bind (yields_attempt_pool (fun _ => ?_) fun _ _ => ?_)
    · exact yields_pure (yields_pure hprocessed)
    · exact yields_pure (yields_pure hprocessed)
  · exact yields_pure (yields_pure hprocessed)

theorem yields_processEvent (hsuccess : event.Succeeds gatewayRef)
    (hrecorded : db.recorded event = true) (htx : db.transaction tx.id = some tx)
    (hmatch : db.matched event gatewayRef = some tx) (id : Nat) :
    Yields engine world (processEvent event id) db none fun _ db' work' =>
      Processed world db event gatewayRef tx db' work' := by
  have hplain : ¬Processes world db event gatewayRef tx → ∀ db' : Db, db'.ledger = db.ledger →
      (db'.credited tx.id = true ↔
        db.credited tx.id = true ∨ Processes world db event gatewayRef tx) := by
    intro hnot db' hledger
    rw [or_iff_left hnot, Db.credited, Db.credited, hledger]
  unfold processEvent
  rw [if_neg (by rw [hsuccess.payment]; exact Bool.false_ne_true), hsuccess.mapped]
  refine yields_bind (yields_matchTransaction hmatch (fun hnot => ?_) fun hreference hid => ?_)
  · exact yields_pure ⟨rfl, hrecorded, hplain hnot db rfl⟩
  · refine yields_bind (yields_attempt_pool (fun hanswer => ?_) fun hset _ => ?_)
    · exact yields_pure ⟨rfl, hrecorded, hplain (fun h => by simp [h.setStatus] at hanswer) db rfl⟩
    · refine yields_bind (yields_attempt_pool (fun hanswer => ?_) fun hmark _ => ?_)
      · refine yields_pure ⟨rfl, hrecorded, hplain (fun h => ?_) _ rfl⟩
        simp [h.markEvent] at hanswer
      · refine yields_linkEvent (transaction_setStatus htx .succeeded) rfl rfl
          (recorded_markEvent hrecorded id .processed (some tx.id)) ?_
        exact ⟨fun h => ⟨hreference, hid, hset, hmark, h⟩, fun h => h.reconciles⟩

def World.records (world : World) : Bool :=
  !world (.raises .handleWebhookEvent .selectEvent) &&
    !world (.raises .handleWebhookEvent .insertEvent)

theorem yields_handleRecorded (hrecorded : db.recorded event = true) :
    Yields engine world (handleWebhookEvent event) db none fun _ db' _ => db' = db := by
  refine yields_bind (yields_attempt_pool (fun _ => yields_pure rfl) fun _ _ => ?_)
  obtain ⟨row, hrow⟩ := Option.isSome_iff_exists.mp hrecorded
  change Yields engine world (handleLooked event
    (some ((db.event event.provider event.providerEventId (event.organizationId.getD 0)).map
      WebhookEvent.id))) db none _
  rw [hrow]
  exact yields_pure rfl

theorem processes_congr (htransactions : db'.transactions = db.transactions)
    (hinvoices : db'.invoices = db.invoices) :
    Processes world db' event gatewayRef tx ↔ Processes world db event gatewayRef tx := by
  have hreferenced : db'.referenced event gatewayRef = db.referenced event gatewayRef := by
    rw [Db.referenced, Db.referenced, htransactions]
  have hreconciles : Reconciles world db' tx ↔ Reconciles world db tx :=
    reconciles_congr hinvoices tx.gatewayStatus
  constructor
  · rintro ⟨h₁, h₂, h₃, h₄, h₅⟩
    exact ⟨h₁, hreferenced ▸ h₂, h₃, h₄, hreconciles.mp h₅⟩
  · rintro ⟨h₁, h₂, h₃, h₄, h₅⟩
    exact ⟨h₁, hreferenced.symm ▸ h₂, h₃, h₄, hreconciles.mpr h₅⟩

theorem recorded_insertEvent (row : WebhookEvent) (hprovider : row.provider = event.provider)
    (hid : row.providerEventId = event.providerEventId)
    (horg : row.organizationId = event.organizationId) :
    (db.apply (.event row)).recorded event = true := by
  refine List.find?_isSome.mpr ⟨row, List.mem_append_right _ List.mem_cons_self, ?_⟩
  exact decide_eq_true ⟨hprovider, hid, congrArg (fun id => id.getD 0) horg⟩

theorem yields_rethrow {handled : Option Handled}
    (h : Processed world db event gatewayRef tx db' none) (id : Nat) :
    Yields engine world (rethrow id handled) db' none fun _ db' work' =>
      Processed world db event gatewayRef tx db' work' := by
  cases handled with
  | some handled => exact yields_pure h
  | none =>
    obtain ⟨-, hrecorded, hcredited⟩ := h
    refine yields_bind (yields_attempt_pool (fun _ => yields_pure ?_) fun _ _ => yields_pure ?_)
    · exact ⟨rfl, hrecorded, hcredited⟩
    · exact ⟨rfl, recorded_markEvent hrecorded id .failed none, hcredited⟩

/-- An unrecorded event is processed if it can be recorded, and leaves no trace otherwise. -/
def Delivered (world : World) (db : Db) (event : Event) (gatewayRef : String) (tx : Transaction)
    (handled : Handled) (db' : Db) (work' : Option Db) : Prop :=
  if world.records = true then Processed world db event gatewayRef tx db' work'
  else handled = .thrown ∧ db' = db

theorem delivered_thrown {work' : Option Db} (h : world.records = false) :
    Delivered world db event gatewayRef tx .thrown db work' := by
  unfold Delivered
  rw [h, if_neg Bool.false_ne_true]
  exact ⟨rfl, rfl⟩

theorem yields_handleNew (hsuccess : event.Succeeds gatewayRef)
    (hnew : db.recorded event = false) (htx : db.transaction tx.id = some tx)
    (hmatch : db.matched event gatewayRef = some tx) :
    Yields engine world (handleWebhookEvent event) db none
      (Delivered world db event gatewayRef tx) := by
  have hnone : db.event event.provider event.providerEventId (event.organizationId.getD 0) = none :=
    Option.not_isSome_iff_eq_none.mp (Bool.eq_false_iff.mp hnew)
  refine yields_bind (yields_attempt_pool (fun hanswer => ?_) fun hselect _ => ?_)
  · exact yields_pure (delivered_thrown (by simp [World.records, hanswer]))
  · change Yields engine world (handleLooked event
      (some ((db.event event.provider event.providerEventId (event.organizationId.getD 0)).map
        WebhookEvent.id))) db none _
    rw [hnone]
    refine yields_bind (yields_attempt_pool (fun hanswer => ?_) fun hinsert tick => ?_)
    · exact yields_pure (delivered_thrown (by simp [World.records, hanswer]))
    · let row : WebhookEvent :=
        { id := tick
          organizationId := event.organizationId
          provider := event.provider
          providerEventId := event.providerEventId
          eventType := event.eventType
          status := .processing
          transactionId := none }
      have hexec : exec tick db db (.insertEvent event.organizationId event.provider
          event.providerEventId event.eventType) = (some tick, [.event row]) :=
        if_neg (by rw [hnone]; exact Bool.false_ne_true)
      rw [hexec]
      refine yields_bind (Yields.mono (yields_processEvent hsuccess
        (recorded_insertEvent row rfl rfl rfl) htx hmatch tick) ?_)
      rintro handled db' work' ⟨rfl, hrecorded, hcredited⟩
      have hprocessed : Processed world db event gatewayRef tx db' none :=
        ⟨rfl, hrecorded, hcredited.trans (or_congr Iff.rfl (processes_congr rfl rfl))⟩
      refine Yields.mono (yields_rethrow hprocessed tick) ?_
      intro handled db' work' hprocessed
      unfold Delivered
      rw [if_pos (by simp [World.records, hselect, hinsert])]
      exact hprocessed

/-- An event delivered again and again until it is acknowledged. -/
structure Redelivery where
  db : Db
  ticks : Nat
  /-- A delivery was answered without an error. -/
  acknowledged : Bool

/-- The provider delivers the event, unless it was acknowledged. -/
def Redelivery.deliver (event : Event) (s : Redelivery) (world : World) : Redelivery :=
  if s.acknowledged then s
  else
    let o := alone engine (fun _ => world) (handleWebhookEvent event) s.ticks s.db none
    ⟨o.db, o.tick, decide (o.value ≠ .thrown)⟩

variable {s : Redelivery}

theorem Redelivery.deliver_recorded (h : s.db.recorded event = true) :
    (s.deliver event world).db = s.db := by
  unfold Redelivery.deliver
  split_ifs
  · rfl
  · exact yields_handleRecorded h s.ticks

theorem run_recorded (h : s.db.recorded event = true) (worlds : List World) :
    (run (Redelivery.deliver event) s worlds).db = s.db := by
  refine run_preserves (I := fun s' : Redelivery => s'.db = s.db) (fun s' world hdb => ?_) rfl worlds
  rw [Redelivery.deliver_recorded (hdb ▸ h), hdb]

theorem Redelivery.deliver_new (world : World) (hopen : s.acknowledged = false)
    (hsuccess : event.Succeeds gatewayRef) (hnew : s.db.recorded event = false)
    (htx : s.db.transaction tx.id = some tx) (hmatch : s.db.matched event gatewayRef = some tx) :
    (world.records = true ∧ (s.deliver event world).db.recorded event = true ∧
        ((s.deliver event world).db.credited tx.id = true ↔
          s.db.credited tx.id = true ∨ Processes world s.db event gatewayRef tx)) ∨
      (world.records = false ∧ (s.deliver event world).acknowledged = false ∧
        (s.deliver event world).db = s.db) := by
  have hdelivered : Delivered world s.db event gatewayRef tx _ _ _ :=
    yields_handleNew hsuccess hnew htx hmatch s.ticks
  unfold Delivered at hdelivered
  unfold Redelivery.deliver
  rw [if_neg (by rw [hopen]; exact Bool.false_ne_true)]
  cases hrecords : world.records with
  | true =>
    rw [if_pos hrecords] at hdelivered
    exact Or.inl ⟨rfl, hdelivered.2⟩
  | false =>
    rw [if_neg (by rw [hrecords]; exact Bool.false_ne_true)] at hdelivered
    exact Or.inr ⟨rfl, by simp [hdelivered.1], hdelivered.2⟩

/-- Redelivered until acknowledged, a success credits iff it was credited or is carried through. -/
theorem redelivered_credited_iff {s : Redelivery} {worlds : List World}
    (hids : (s.db.transactions.map Transaction.id).Nodup) (hsuccess : event.Succeeds gatewayRef)
    (hmatch : s.db.matched event gatewayRef = some tx) (hopen : s.acknowledged = false)
    (hacknowledged : (run (Redelivery.deliver event) s worlds).acknowledged = true) :
    (run (Redelivery.deliver event) s worlds).db.credited tx.id = true ↔
      s.db.credited tx.id = true ∨
        s.db.recorded event = false ∧
          ∃ world, worlds.find? World.records = some world ∧
            Processes world s.db event gatewayRef tx := by
  cases hrecorded : s.db.recorded event with
  | true =>
    rw [run_recorded hrecorded]
    simp
  | false =>
    have htx := transaction_of_matched hids hmatch
    induction worlds generalizing s with
    | nil => exact absurd (hopen.symm.trans hacknowledged) Bool.false_ne_true
    | cons world worlds ih =>
      rw [run_cons] at hacknowledged ⊢
      rcases Redelivery.deliver_new world hopen hsuccess hrecorded htx hmatch with
        ⟨hrecords, hafter, hcredited⟩ | ⟨hrecords, hunanswered, hdb⟩
      · rw [run_recorded hafter, hcredited, List.find?_cons_of_pos hrecords]
        simp
      · rw [List.find?_cons_of_neg (by simp [hrecords]), ← hdb]
        rw [← hdb] at hids hmatch hrecorded htx
        exact ih hids hmatch hunanswered hacknowledged hrecorded htx

/-- A world in which a statement raises if `raised` says so. -/
def World.raising (raised : Caller → Point → Bool) : World
  | .raises caller point => raised caller point
  | .tolerated .. => true
  | .otherwise => ()
  | .refundAtProvider .. => none

/-- A pending transaction for an issued invoice, not acknowledged yet. -/
def pendingDelivery : Redelivery where
  db :=
    { transactions := [⟨1, 3, 5, 8, 50000, "MXN", "pi_1", .pending, some 9, none⟩]
      gateways := [⟨5, .stripe⟩]
      invoices := [⟨9, some 3, 8, .issued, 50000, 0⟩]
      ledger := []
      events := []
      retries := [] }
  ticks := 1
  acknowledged := false

/-- Its payment has succeeded. -/
def succeededEvent : Event where
  provider := "stripe"
  providerEventId := "evt_1"
  eventType := "payment_intent.succeeded"
  payload := ⟨some "pi_1", none, none, none, false, none, some 50000, none⟩
  organizationId := none

/-- A first delivery that cannot record the event does not keep the second one from crediting. -/
theorem redelivered_credited_sample :
    (run (Redelivery.deliver succeededEvent) pendingDelivery
      [World.raising fun _ point => decide (point = .insertEvent),
        World.raising fun _ _ => false]).db.credited 1 = true := by
  have hsuccess : succeededEvent.Succeeds "pi_1" := ⟨by decide, by decide +kernel⟩
  have hmatch : pendingDelivery.db.matched succeededEvent "pi_1" =
      some ⟨1, 3, 5, 8, 50000, "MXN", "pi_1", .pending, some 9, none⟩ := by decide +kernel
  refine (redelivered_credited_iff (by decide) hsuccess hmatch rfl (by decide +kernel)).mpr
    (Or.inr ⟨by decide +kernel, World.raising fun _ _ => false, rfl, ?_⟩)
  exact ⟨rfl, fun _ => rfl, rfl, rfl,
    ⟨rfl, rfl, rfl, rfl, by decide +kernel, fun _ _ => ⟨rfl, rfl⟩, rfl, by decide, rfl⟩⟩

/-- A delivery that fails behind its record leaves a duplicate that is never credited. -/
theorem lost_after_insertEvent :
    succeededEvent.Succeeds "pi_1" ∧
      pendingDelivery.db.matched succeededEvent "pi_1" = pendingDelivery.db.transaction 1 ∧
      (pendingDelivery.deliver succeededEvent
        (World.raising fun _ point => decide (point = .setStatus))).acknowledged = false ∧
      (run (Redelivery.deliver succeededEvent) pendingDelivery
        [World.raising fun _ point => decide (point = .setStatus),
          World.raising fun _ _ => false]).acknowledged = true ∧
      (run (Redelivery.deliver succeededEvent) pendingDelivery
        [World.raising fun _ point => decide (point = .setStatus),
          World.raising fun _ _ => false]).db.credited 1 = false := by
  refine ⟨⟨?_, ?_⟩, ?_, ?_, ?_, ?_⟩ <;> decide +kernel

end FireIsp.Gateway
