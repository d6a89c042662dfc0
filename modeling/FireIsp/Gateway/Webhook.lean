import FireIsp.Gateway.Statements

/-!
# Webhook events and refunds

`handleWebhookEvent`, `reconcilePayment`, `reverseRefund` and `refund` of `paymentGatewayService`.
Every statement may raise, and does nothing then.
-/

namespace FireIsp.Gateway

open Txn

/-- Functions whose statements may raise. -/
inductive Caller
  | handleWebhookEvent
  | reconcilePayment
  | reverseRefund
  | refund
  deriving DecidableEq

/-- Where a function may raise. -/
inductive Point
  | connect
  | begin
  | commit
  | rollback
  | selectEvent
  | insertEvent
  | findByReference
  | findById
  | setStatus
  | markEvent
  | markFailed
  | lockTransaction
  | lockInvoice
  | markPaid
  | setSettled
  | insertEntry
  | selectCredit
  | selectDebit
  | reopen
  | selectRefundable
  | markRefunded
  | cancelRetries
  deriving DecidableEq

/-- Questions to the world outside the tables. -/
inductive Query
  | raises (caller : Caller) (point : Point)
  /-- `Math.abs(amount - total) <= 0.01` in floating point, for amounts one cent apart. -/
  | tolerated (amount total : Int)
  /-- Work on other tables whose failure is swallowed. -/
  | otherwise
  /-- The refund call of the provider: the reference it answers, if any, or `none` if it throws. -/
  | refundAtProvider (provider : Provider) (reference : String)

/-- Replies from outside. -/
@[reducible] def Query.Answer : Query → Type
  | .raises .. => Bool
  | .tolerated .. => Bool
  | .otherwise => Unit
  | .refundAtProvider .. => Option (Option String)

/-- Programs of the service. -/
abbrev Program := Prog Stmt Stmt.Res Query Query.Answer

/-- A statement that may raise. -/
def attempt (caller : Caller) (point : Point) (via : Via) (op : Stmt) :
    Program (Option op.Res) := do
  let raised ← Prog.ask (.raises caller point)
  if raised then pure none
  else
    let reply ← Prog.send via op
    pure (some reply)

/-- `conn.beginTransaction()`. -/
def attemptBegin (caller : Caller) : Program Bool := do
  let raised ← Prog.ask (.raises caller .begin)
  if raised then pure false
  else
    Prog.begin
    pure true

/-- `conn.commit()`. -/
def attemptCommit (caller : Caller) : Program (Option Unit) := do
  let raised ← Prog.ask (.raises caller .commit)
  if raised then pure none
  else
    Prog.commitNow
    pure (some ())

/-- `conn.rollback()`; the server rolls back even if the call raises. -/
def attemptRollback (caller : Caller) : Program Bool := do
  let raised ← Prog.ask (.raises caller .rollback)
  Prog.rollbackNow
  pure (!raised)

/-- `await conn.rollback(); return;`. -/
def rollbackReturn (caller : Caller) : Program (Option Unit) := do
  let rolledBack ← attemptRollback caller
  pure (if rolledBack then some () else none)

/-- The body of a `try` once `BEGIN` was sent. -/
def bodyIf (body : Program (Option Unit)) (began : Bool) : Program (Option Unit) :=
  if began then body else pure none

/-- The `catch` of a transaction: whether the function returns. -/
def caught (caller : Caller) : Option Unit → Program Bool
  | some () => pure true
  | none => attemptRollback caller

/-- A transaction whose errors are swallowed: whether the function returns. -/
def inTransaction (caller : Caller) (body : Program (Option Unit)) : Program Bool := do
  let raised ← Prog.ask (.raises caller .connect)
  if raised then pure false
  else
    let began ← attemptBegin caller
    let ended ← bodyIf body began
    caught caller ended

def withinTolerance (amount total : Int) : Program Bool :=
  if (amount - total).natAbs = 1 then Prog.ask (Query.tolerated amount total)
  else pure (decide (amount = total))

/-- What a payment settles. -/
structure Choice where
  invoice : Option Invoice
  shouldCredit : Bool
  markPaid : Bool

/-- `invoice.status === 'issued' || invoice.status === 'sent'`. -/
def Invoice.payable (row : Invoice) : Bool := decide (row.status = .issued ∨ row.status = .sent)

/-- The oldest issued invoice, if its total is near. -/
def chooseOldest (tx : Transaction) : Option (Option Invoice) → Program (Option Choice)
  | none => pure none
  | some none => pure (some ⟨none, false, false⟩)
  | some (some invoice) => do
      let near ← withinTolerance tx.amount invoice.total
      pure (some (if near then ⟨some invoice, true, true⟩ else ⟨none, false, false⟩))

/-- The invoice a payment settles: the one it is linked to, or the oldest issued one. -/
def chooseInvoice (tx : Transaction) : Program (Option Choice) :=
  match tx.invoiceId with
  | some invoiceId => do
      let linked ← attempt .reconcilePayment .lockInvoice .conn
        (.lockInvoice invoiceId tx.clientId tx.organizationId)
      pure (linked.map fun invoice => ⟨invoice, true, invoice.any Invoice.payable⟩)
  | none => do
      let oldest ← attempt .reconcilePayment .lockInvoice .conn
        (.lockOldest tx.clientId tx.organizationId)
      chooseOldest tx oldest

def Transaction.entry (row : Transaction) (entryType : EntryType) (description : String) :
    LedgerEntry where
  clientId := row.clientId
  organizationId := some row.organizationId
  entryType := entryType
  amount := row.amount
  currency := row.currency
  referenceType := "payment_transaction"
  referenceId := some row.id
  description := description ++ row.gatewayReferenceId

def Transaction.creditEntry (row : Transaction) : LedgerEntry :=
  row.entry .credit "Gateway payment "

def Transaction.debitEntry (row : Transaction) : LedgerEntry :=
  row.entry .debit "Refund reversal of gateway payment "

/-- Write a ledger entry and commit; an amount that does not fit raises. -/
def writeEntry (caller : Caller) (entry : LedgerEntry) : Program (Option Unit) := do
  let written ← attempt caller .insertEntry .conn (.insertEntry entry)
  if written = some true then attemptCommit caller else pure none

def recordSettled (tx : Transaction) (invoice : Invoice) : Option Unit → Program (Option Unit)
  | none => pure none
  | some () => attempt .reconcilePayment .setSettled .conn (.setSettled tx.id invoice.id)

def markSettled (tx : Transaction) (choice : Choice) : Program (Option Unit) :=
  match choice.invoice, choice.markPaid with
  | some invoice, true => do
      let marked ← attempt .reconcilePayment .markPaid .conn (.markPaid invoice.id)
      recordSettled tx invoice marked
  | _, _ => pure (some ())

/-- The payment is credited once its invoice is settled. -/
def creditSettled (tx : Transaction) : Option Unit → Program (Option Unit)
  | none => pure none
  | some () => writeEntry .reconcilePayment tx.creditEntry

/-- The choice is carried out. -/
def settleChoice (tx : Transaction) : Option Choice → Program (Option Unit)
  | none => pure none
  | some choice =>
    if choice.shouldCredit then do
      let settled ← markSettled tx choice
      creditSettled tx settled
    else rollbackReturn .reconcilePayment

def reconcileLocked : Option (Option Transaction) → Program (Option Unit)
  | none => pure none
  | some none => rollbackReturn .reconcilePayment
  | some (some tx) => do
      let choice ← chooseInvoice tx
      settleChoice tx choice

/-- `reconcilePayment`: whether it returns. -/
def reconcilePayment (transactionId : Nat) : Program Bool :=
  inTransaction .reconcilePayment do
    let locked ← attempt .reconcilePayment .lockTransaction .conn
      (.lockTransaction transactionId)
    reconcileLocked locked

/-- The debit is written once the invoice is open again. -/
def debitReopened (tx : Transaction) : Option Unit → Program (Option Unit)
  | none => pure none
  | some () => writeEntry .reverseRefund tx.debitEntry

/-- The invoice a payment has settled is open again. -/
def reopenSettled (tx : Transaction) : Program (Option Unit) :=
  match tx.settledInvoiceId with
  | some invoiceId => attempt .reverseRefund .reopen .conn (.reopen invoiceId)
  | none => pure (some ())

/-- A payment that was credited and not reversed yet is reversed. -/
def reverseCounted (tx : Transaction) : Option Bool → Option Bool → Program (Option Unit)
  | some credited, some reversed =>
    if credited = false ∨ reversed = true then attemptCommit .reverseRefund
    else do
      let reopened ← reopenSettled tx
      debitReopened tx reopened
  | _, _ => pure none

/-- The reversal is looked up once the credit was. -/
def reverseCredited (tx : Transaction) : Option Bool → Program (Option Unit)
  | none => pure none
  | some credited => do
      let reversed ← attempt .reverseRefund .selectDebit .conn (.selectEntry tx.id .debit)
      reverseCounted tx (some credited) reversed

def reverseLocked : Option (Option Transaction) → Program (Option Unit)
  | none => pure none
  | some none => rollbackReturn .reverseRefund
  | some (some tx) => do
      let credited ← attempt .reverseRefund .selectCredit .conn (.selectEntry tx.id .credit)
      reverseCredited tx credited

/-- `reverseRefund`: whether it returns. -/
def reverseRefund (transactionId : Nat) : Program Bool :=
  inTransaction .reverseRefund do
    let locked ← attempt .reverseRefund .lockTransaction .conn (.lockTransaction transactionId)
    reverseLocked locked

/-- `payload.data.object`, as far as it is read. -/
structure EventObject where
  id : Option String
  mode : Option String
  paymentStatus : Option String
  paymentIntent : Option String
  refunded : Bool
  amountRefunded : Option Int
  amount : Option Int
  transactionId : Option Nat

/-- A provider event and the route it came by. -/
structure Event where
  provider : String
  providerEventId : String
  eventType : String
  payload : EventObject
  organizationId : Option Nat

/-- `text || null`. -/
def truthy (text : Option String) : Option String := text.filter fun text => decide (text ≠ "")

def EventObject.fullyRefunded (obj : EventObject) : Bool :=
  obj.refunded || match obj.amountRefunded, obj.amount with
    | some refunded, some amount => decide (amount ≤ refunded)
    | _, _ => false

/-- `statusMap` of Stripe. -/
def stripeStatus (eventType : String) : Option GatewayStatus :=
  if eventType = "payment_intent.succeeded" then some .succeeded
  else if eventType = "payment_intent.payment_failed" then some .failed
  else if eventType = "charge.dispute.created" then some .disputed
  else none

/-- `statusMap` of Conekta. -/
def conektaStatus (eventType : String) : Option GatewayStatus :=
  if eventType = "order.paid" then some .succeeded
  else if eventType = "order.payment_failed" then some .failed
  else if eventType = "charge.refunded" then some .refunded
  else if eventType = "charge.chargeback.created" then some .disputed
  else none

/-- `eventType.startsWith('charge.')`. -/
def isChargeEvent (eventType : String) : Bool := "charge.".toList.isPrefixOf eventType.toList

def mapProviderEvent (provider eventType : String) (obj : EventObject) :
    Option String × Option GatewayStatus :=
  if provider = "stripe" then
    if eventType = "checkout.session.completed" then
      (truthy obj.id, if obj.paymentStatus = some "paid" then some .succeeded else none)
    else if eventType = "checkout.session.async_payment_succeeded" then
      (truthy obj.id, some .succeeded)
    else if eventType = "checkout.session.async_payment_failed" ∨
        eventType = "checkout.session.expired" then
      (truthy obj.id, some .failed)
    else if eventType = "charge.refunded" then
      ((truthy obj.paymentIntent).or (truthy obj.id),
        if obj.fullyRefunded then some .refunded else none)
    else
      (if isChargeEvent eventType then (truthy obj.paymentIntent).or (truthy obj.id)
        else truthy obj.id, stripeStatus eventType)
  else if provider = "conekta" then (truthy obj.id, conektaStatus eventType)
  else (none, none)

/-- What a call answers. -/
inductive Handled
  | duplicate (webhookEventId : Nat)
  | autopay
  | ignored
  | noMatch
  | processed (transactionId : Nat) (newStatus : GatewayStatus)
  | refunded (transactionId : Nat)
  | thrown
  deriving DecidableEq

/-- The tenant a match is confined to: `organizationId ?`. -/
def Event.confined (event : Event) : Option Nat := event.organizationId.filter fun id => id ≠ 0

/-- The fallback on the transaction id in the metadata. -/
def matchMetadata (event : Event) : Option (Option Transaction) →
    Program (Option (Option Transaction))
  | some none =>
    match event.payload.transactionId.filter fun id => id ≠ 0 with
    | some id => attempt .handleWebhookEvent .findById .pool (.findById id event.confined)
    | none => pure (some none)
  | found => pure found

def matchTransaction (event : Event) (gatewayRef : String) :
    Program (Option (Option Transaction)) := do
  let found ← attempt .handleWebhookEvent .findByReference .pool
    (.findByReference gatewayRef event.confined)
  matchMetadata event found

/-- The retries of a transaction are cancelled; a failure is swallowed. -/
def cancelAfter (transactionId : Nat) (returned : Bool) : Program Bool :=
  if returned then do
    let _ ← attempt .handleWebhookEvent .cancelRetries .pool
      (.cancelRetries (.ofTransaction transactionId))
    pure true
  else pure false

/-- What follows a new status: whether it returns. -/
def followUp (transactionId : Nat) : GatewayStatus → Program Bool
  | .succeeded => do
      let returned ← reconcilePayment transactionId
      cancelAfter transactionId returned
  | .refunded => reverseRefund transactionId
  | .disputed => do
      let _ ← Prog.ask .otherwise
      pure true
  | _ => pure true

/-- The answer once the follow-up has returned. -/
def answerFollowed (transactionId : Nat) (newStatus : GatewayStatus) (returned : Bool) :
    Program (Option Handled) :=
  pure (if returned then some (.processed transactionId newStatus) else none)

def linkEvent (transactionId : Nat) (newStatus : GatewayStatus) :
    Option Unit → Program (Option Handled)
  | none => pure none
  | some () => do
      let returned ← followUp transactionId newStatus
      answerFollowed transactionId newStatus returned

/-- The status of the matched transaction is set. -/
def recordStatus (webhookEventId transactionId : Nat) (newStatus : GatewayStatus) :
    Option Unit → Program (Option Handled)
  | none => pure none
  | some () => do
      let linked ← attempt .handleWebhookEvent .markEvent .pool
        (.markEvent webhookEventId .processed (some transactionId))
      linkEvent transactionId newStatus linked

def processMatched (webhookEventId : Nat) (newStatus : GatewayStatus) :
    Option (Option Transaction) → Program (Option Handled)
  | none => pure none
  | some none => do
      let marked ← attempt .handleWebhookEvent .markEvent .pool
        (.markEvent webhookEventId .failed none)
      pure (marked.map fun _ => .noMatch)
  | some (some tx) => do
      let set ← attempt .handleWebhookEvent .setStatus .pool (.setStatus tx.id newStatus)
      recordStatus webhookEventId tx.id newStatus set

/-- The event saves a card for automatic payments. -/
def Event.isSetup (event : Event) : Bool :=
  decide (event.provider = "stripe" ∧ event.eventType = "checkout.session.completed" ∧
    event.payload.mode = some "setup")

/-- The `try` block of `handleWebhookEvent`. -/
def processEvent (event : Event) (webhookEventId : Nat) : Program (Option Handled) :=
  if event.isSetup then do
    let _ ← Prog.ask .otherwise
    let marked ← attempt .handleWebhookEvent .markEvent .pool
      (.markEvent webhookEventId .processed none)
    pure (marked.map fun _ => .autopay)
  else
    match mapProviderEvent event.provider event.eventType event.payload with
    | (some gatewayRef, some newStatus) => do
        let matched ← matchTransaction event gatewayRef
        processMatched webhookEventId newStatus matched
    | _ => do
        let marked ← attempt .handleWebhookEvent .markEvent .pool
          (.markEvent webhookEventId .ignored none)
        pure (marked.map fun _ => .ignored)

/-- The `catch` block of `handleWebhookEvent`. -/
def rethrow (webhookEventId : Nat) : Option Handled → Program Handled
  | some handled => pure handled
  | none => do
      let _ ← attempt .handleWebhookEvent .markFailed .pool (.markEvent webhookEventId .failed none)
      pure .thrown

/-- A new event is processed; an event another delivery has just inserted raises. -/
def handleInserted (event : Event) : Option (Option Nat) → Program Handled
  | some (some webhookEventId) => do
      let handled ← processEvent event webhookEventId
      rethrow webhookEventId handled
  | _ => pure .thrown

/-- The deduplication of an event. -/
def handleLooked (event : Event) : Option (Option Nat) → Program Handled
  | none => pure .thrown
  | some (some webhookEventId) => pure (.duplicate webhookEventId)
  | some none => do
      let inserted ← attempt .handleWebhookEvent .insertEvent .pool
        (.insertEvent event.organizationId event.provider event.providerEventId event.eventType)
      handleInserted event inserted

def handleWebhookEvent (event : Event) : Program Handled := do
  let existing ← attempt .handleWebhookEvent .selectEvent .pool
    (.selectEvent event.provider event.providerEventId (event.organizationId.getD 0))
  handleLooked event existing

def answerReversed (transactionId : Nat) (returned : Bool) : Program Handled :=
  pure (if returned then .refunded transactionId else .thrown)

def refundMarked (transactionId : Nat) : Option Unit → Program Handled
  | none => pure .thrown
  | some () => do
      let returned ← reverseRefund transactionId
      answerReversed transactionId returned

def refundConfirmed (transactionId : Nat) : Option (Option String) → Program Handled
  | none => pure .thrown
  | some gatewayRefundRef => do
      let marked ← attempt .refund .markRefunded .pool (.markRefunded transactionId gatewayRefundRef)
      refundMarked transactionId marked

def refundAtProvider (row : Transaction) : Provider → Program (Option (Option String))
  | .stripe => Prog.ask (Query.refundAtProvider .stripe row.gatewayReferenceId)
  | .conekta => Prog.ask (Query.refundAtProvider .conekta row.gatewayReferenceId)
  | .manual => pure (some none)
  | .unsupported => pure none

def refundFound (transactionId : Nat) : Option (Option (Transaction × Provider)) → Program Handled
  | some (some (row, provider)) =>
    if row.gatewayStatus = .succeeded then do
      let confirmed ← refundAtProvider row provider
      refundConfirmed transactionId confirmed
    else pure .thrown
  | _ => pure .thrown

def refund (transactionId : Nat) : Program Handled := do
  let found ← attempt .refund .selectRefundable .pool (.selectRefundable transactionId)
  refundFound transactionId found

/-- Calls of the service. -/
inductive Call
  | deliver (event : Event)
  | refund (transactionId : Nat)

def Call.run : Call → Program Handled
  | .deliver event => handleWebhookEvent event
  | .refund transactionId => Gateway.refund transactionId

/-- Deliveries and refunds at once. -/
abbrev System := Sys Db Write Key Stmt Stmt.Res Query Query.Answer Handled

end FireIsp.Gateway
