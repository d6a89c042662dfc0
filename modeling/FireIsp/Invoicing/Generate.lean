import FireIsp.Invoicing.Statements

/-!
# Generating periods and invoices

`generateBillingPeriod` and `generateInvoice` of `billingService`, with the requests that call
them.  A statement that fails for any other reason than the ones below cuts its request off.
-/

namespace FireIsp.Invoicing

open Txn

/-- Reads of the clock and of tables the run does not write. -/
inductive Query
  | today
  | clientTax (clientId : Nat) (organizationId : Option Nat)
  /-- `resolveRegionRate`: id and rate of the narrowest region rule of a postal code. -/
  | regionRate (organizationId : Option Nat) (zipCode : String)
  /-- The `tax_rates` row of the tax resolver: id and rate. -/
  | taxRate (contractTaxRateId : Nat) (organizationId : Option Nat)
  | locale (organizationId : Nat)
  | currency (organizationId : Option Nat)
  | usage (contractId : Nat) (periodStart periodEnd : Int)
  | addons (contractId : Nat)

/-- Reply type of a read. -/
@[reducible] def Query.Answer : Query → Type
  | .today => Int
  | .clientTax .. => Option ClientTax
  | .regionRate .. => Option (Nat × Int)
  | .taxRate .. => Option (Nat × Int)
  | .locale _ => Option String
  | .currency _ => Option String
  | .usage .. => Option UsageRow
  | .addons _ => List Addon

/-- Why an invoice was not generated. -/
inductive Cause
  | duplicateNumber
  | badOveragePrice

/-- What the service throws. -/
inductive Failure
  | duplicateWindow
  | noPeriod
  | invoiceGeneration (contractId periodId : Nat) (cause : Cause)
  /-- `InvoiceGenerationError` of a one-off invoice. -/
  | oneOffGeneration (clientId : Nat) (cause : Cause)

/-- Requests of the invoice run. -/
abbrev Request := Prog Stmt Stmt.Res Query Query.Answer

/-- One pooled statement. -/
@[simp] def query (stmt : Stmt) : Request stmt.Res := Prog.send .pool stmt

/-- One statement on the service's own connection. -/
@[simp] def execute (stmt : Stmt) : Request stmt.Res := Prog.send .conn stmt

/-- One read of the clock or of another table. -/
@[simp] def ask (read : Query) : Request read.Answer := Prog.ask read

/-- `Math.round(a / b)`. -/
def roundDiv (a b : Int) : Int := (2 * a + b) / (2 * b)

/-- `Math.round(subtotal * rate * 100) / 100`. -/
def taxOn (subtotal rate : Int) : Int := roundDiv (subtotal * rate) 10000

def decimalText (places : Nat) (value : Int) : String :=
  (if value < 0 then "-" else "") ++ toString (value.natAbs / 10 ^ places) ++ "." ++
    Calendar.padded places (value.natAbs % 10 ^ places)

/-- A number of thousandths as the host language prints it. -/
def numberText (value : Int) : String :=
  let digits := ((decimalText 3 value).toList.reverse.dropWhile (· = '0')).dropWhile (· = '.')
  String.ofList digits.reverse

def invoiceNumberText (next : Nat) : String := "INV-" ++ Calendar.padded 6 next

def nextInvoiceNumber (organizationId : Option Nat) : Request String := do
  execute (.seedSequence (organizationId.getD 0))
  let next ← execute (.advanceSequence (organizationId.getD 0))
  return invoiceNumberText next

def isContractInTrial (contract : Contract) (plan : Plan) : Request Bool := do
  if plan.trialDays.getD 0 = 0 then return false
  else
    let now ← ask .today
    return decide (now < contract.startDate + plan.trialDays.getD 0)

def getLocale (organizationId : Nat) : Request String := do
  let locale ← ask (.locale organizationId)
  return match locale with
    | none => "global"
    | some locale => if locale = "" then "global" else locale

def getCurrency (organizationId : Option Nat) : Request String := do
  let currency ← ask (.currency organizationId)
  return match currency with
    | none => "MXN"
    | some currency => if currency = "" then "MXN" else currency

/-- `currency || Organization.getCurrency(orgId)`. -/
def currencyOr (currency : Option String) (organizationId : Option Nat) : Request String :=
  if currency.getD "" = "" then getCurrency organizationId else pure (currency.getD "")

/-- What `resolveTaxContext` finds. -/
structure TaxContext where
  rate : Int
  taxRateId : Option Nat

/-- The rate below the region rules: a configured one, else the safety net of Mexico. -/
def resolveDefaultRate (organizationId contractTaxRateId : Option Nat) (clientIsMx : Bool) :
    Request TaxContext := do
  let configured ← ask (.taxRate (contractTaxRateId.getD 0) organizationId)
  match configured with
  | some (id, rate) => return ⟨rate, some id⟩
  | none =>
    match organizationId with
    | none => return if clientIsMx then ⟨1600, none⟩ else ⟨0, none⟩
    | some org =>
      let locale ← getLocale org
      return if locale = "MX" then ⟨1600, none⟩ else ⟨0, none⟩

def resolveTaxContext (organizationId : Option Nat) (clientId : Nat)
    (contractTaxRateId : Option Nat) : Request TaxContext := do
  let client ← ask (.clientTax clientId organizationId)
  match client with
  | none => resolveDefaultRate organizationId contractTaxRateId false
  | some client =>
    if client.taxExempt then return ⟨0, none⟩
    else if contractTaxRateId.getD 0 ≠ 0 then
      resolveDefaultRate organizationId contractTaxRateId (client.locale = "MX")
    else
      let region ← ask (.regionRate organizationId client.zipCode)
      match region with
      | some (_, rate) => return ⟨rate, none⟩
      | none => resolveDefaultRate organizationId contractTaxRateId (client.locale = "MX")

/-- A charge above the data cap. -/
structure Overage where
  overageGb : Int
  amount : Int

def UsageRow.charge (row : UsageRow) : Overage :=
  if row.observedRows = 0 ∨ 0 < row.incompleteRows ∨ 0 < row.unverifiableSessionRows then ⟨0, 0⟩
  else
    match row.overageMode, row.dataCapGb, row.overagePricePerGb with
    | .perGb, some cap, some price =>
      -- GB above the cap times 100 * 2^30
      let excess : Int := 100 * row.bytesUsed - cap * 2 ^ 30
      if excess ≤ 0 then ⟨0, 0⟩
      else ⟨roundDiv (10 * excess) (2 ^ 30), roundDiv (excess * price) (10000 * 2 ^ 30)⟩
    | _, _, _ => ⟨0, 0⟩

def calculateOverageCharges (contractId : Nat) (periodStart periodEnd : Int) :
    Request Overage := do
  let usage ← ask (.usage contractId periodStart periodEnd)
  return match usage with
    | none => ⟨0, 0⟩
    | some row => row.charge

def generateBillingPeriod (contract : Contract) : Request (Except Failure Period) := do
  let existing ← query (.selectPending contract.id)
  match existing with
  | some row => return .ok row
  | none =>
    let lastPeriod ← query (.selectLastInvoiced contract.id)
    let periodStart := match lastPeriod with
      | some row => Calendar.setDate row.periodEnd ((Calendar.civil row.periodEnd).day + 1)
      | none => contract.startDate
    let monthLater := Calendar.setMonth periodStart ((Calendar.civil periodStart).month + 1)
    let periodEnd := Calendar.setDate monthLater ((Calendar.civil monthLater).day - 1)
    let billingDay := if contract.billingDay.getD 0 = 0 then 1 else contract.billingDay.getD 0
    let scheduledAt := Calendar.setDate periodStart billingDay
    let inserted ← query (.insertPeriod contract.id periodStart periodEnd scheduledAt)
    match inserted with
    | none => return .error .duplicateWindow
    | some id =>
      let stored ← query (.selectPeriod id)
      match stored with
      | none => return .error .noPeriod
      | some row => return .ok row

/-- The line of the plan. -/
def planItem (invoiceId : Nat) (period : Period) (plan : Plan) (price : Int) : Item where
  id := 0
  invoiceId
  description := plan.name ++ " — " ++ Calendar.isoDate period.periodStart ++ " to " ++
    Calendar.isoDate period.periodEnd
  quantity := 100
  unitPrice := price
  amount := price

/-- The line of the usage above the data cap. -/
def overageItem (invoiceId : Nat) (currency : String) (pricePerGb : Int) (overage : Overage) :
    Item where
  id := 0
  invoiceId
  description := "Data overage — " ++ numberText overage.overageGb ++ " GB @ " ++ currency ++ " " ++
    decimalText 4 pricePerGb ++ "/GB"
  quantity := roundDiv overage.overageGb 10
  unitPrice := roundDiv pricePerGb 100
  amount := overage.amount

/-- `addon.unit_price || addon.addon_price`. -/
def Addon.price (addon : Addon) : Int := addon.unitPrice.getD addon.addonPrice

/-- `addon.quantity || 1`. -/
def Addon.units (addon : Addon) : Nat :=
  if addon.quantity.getD 0 = 0 then 1 else addon.quantity.getD 0

/-- The line of an add-on. -/
def Addon.item (invoiceId : Nat) (addon : Addon) : Item where
  id := 0
  invoiceId
  description := addon.addonName
  quantity := 100 * addon.units
  unitPrice := addon.price
  amount := addon.price * addon.units

/-- The overage line and the new subtotal; `none` if the price is not a number. -/
def billOverage (invoiceId : Nat) (period : Period) (contract : Contract) (plan : Plan)
    (inTrial : Bool) (currency : String) (runningSubtotal : Int) : Request (Option Int) := do
  if inTrial ∨ plan.overageMode ≠ some .perGb then return some runningSubtotal
  else
    let overage ← calculateOverageCharges contract.id period.periodStart period.periodEnd
    if 0 < overage.overageGb then
      match plan.overagePricePerGb with
      | none => return none
      | some pricePerGb =>
        let _ ← execute (.insertItem (overageItem invoiceId currency pricePerGb overage))
        return some (runningSubtotal + overage.amount)
    else return some runningSubtotal

/-- The lines of the add-ons; the new running subtotal. -/
def billAddons (invoiceId : Nat) : List Addon → Int → Request Int
  | [], runningSubtotal => return runningSubtotal
  | addon :: rest, runningSubtotal => do
      let _ ← execute (.insertItem (addon.item invoiceId))
      billAddons invoiceId rest (runningSubtotal + addon.price * addon.units)

/-- Fold the extra lines into the stored totals; the total to post. -/
def foldTotals (invoiceId : Nat) (rate subtotal total runningSubtotal : Int) : Request Int := do
  if runningSubtotal ≠ subtotal then
    let newTotal := runningSubtotal + taxOn runningSubtotal rate
    execute (.updateTotals invoiceId runningSubtotal (taxOn runningSubtotal rate) newTotal)
    return newTotal
  else return total

/-- `Invoice.findById`, `null` for no id. -/
def findInvoice : Option Nat → Request (Option Invoice)
  | none => return none
  | some id => query (.selectInvoice id)

/-- Roll back and throw. -/
def abandon (contract : Contract) (period : Period) (cause : Cause) :
    Request (Except Failure (Option Invoice)) := do
  Prog.rollbackNow
  return .error (.invoiceGeneration contract.id period.id cause)

/-- The transaction once the invoice row is inserted. -/
def billInvoice (period : Period) (contract : Contract) (plan : Plan) (inTrial : Bool)
    (draft : Invoice) (invoiceId : Nat) : Request (Except Failure (Option Invoice)) := do
  let _ ← execute (.insertItem (planItem invoiceId period plan draft.subtotal))
  let running ← billOverage invoiceId period contract plan inTrial draft.currency draft.subtotal
  match running with
  | none => abandon contract period .badOveragePrice
  | some running =>
    let addons ← ask (.addons contract.id)
    let running ← billAddons invoiceId addons running
    let finalTotal ← foldTotals invoiceId draft.taxRate draft.subtotal draft.total running
    execute (.markInvoiced period.id invoiceId)
    let _ ← execute (.insertEntry {
      id := 0
      clientId := contract.clientId
      organizationId := draft.organizationId
      entryType := .debit
      amount := finalTotal
      currency := draft.currency
      referenceType := "invoice"
      referenceId := invoiceId
      description := "Invoice " ++ draft.invoiceNumber })
    Prog.commitNow
    return .ok (← findInvoice (some invoiceId))

/-- The transaction once the period row is locked and pending. -/
def billPeriod (period : Period) (contract : Contract) (plan : Plan)
    (organizationId : Option Nat) : Request (Except Failure (Option Invoice)) := do
  let inTrial ← isContractInTrial contract plan
  let price := if inTrial then plan.trialPrice.getD 0 else contract.priceOverride.getD plan.price
  let currency ← currencyOr plan.currency organizationId
  let tax ← resolveTaxContext organizationId contract.clientId contract.taxRateId
  let invoiceNumber ← nextInvoiceNumber organizationId
  let draft : Invoice := {
    id := 0
    organizationId
    clientId := contract.clientId
    contractId := some contract.id
    invoiceNumber
    subtotal := price
    taxAmount := taxOn price tax.rate
    total := price + taxOn price tax.rate
    currency
    taxRate := tax.rate
    taxRateId := tax.taxRateId
    dueDate := Calendar.setDate period.periodEnd ((Calendar.civil period.periodEnd).day + 15)
    status := .issued
    deletedAt := none }
  let inserted ← execute (.insertInvoice draft)
  match inserted with
  | none => abandon contract period .duplicateNumber
  | some invoiceId => billInvoice period contract plan inTrial draft invoiceId

/-- The transaction once the locking read has replied. -/
def billLocked (period : Period) (contract : Contract) (plan : Plan)
    (organizationId : Option Nat) (locked : Option Period) :
    Request (Except Failure (Option Invoice)) := do
  match locked.filter fun row => row.status != .pending with
  | some row =>
    Prog.rollbackNow
    return .ok (← findInvoice row.invoiceId)
  | none => billPeriod period contract plan organizationId

def generateInvoice (period : Period) (contract : Contract) (plan : Plan)
    (organizationId : Option Nat) : Request (Except Failure (Option Invoice)) := do
  Prog.begin
  let locked ← execute (.lockPeriod period.id)
  billLocked period contract plan organizationId locked

/-- Parameters of `createOneOffInvoice` with its own transaction and no inventory item. -/
structure OneOff where
  organizationId : Option Nat
  clientId : Nat
  contractId : Option Nat
  description : String
  amount : Int
  /-- Currency, the organization's when absent. -/
  currency : Option String

def OneOff.item (charge : OneOff) (invoiceId : Nat) : Item where
  id := 0
  invoiceId
  description := charge.description
  quantity := 100
  unitPrice := charge.amount
  amount := charge.amount

def createOneOffInvoice (charge : OneOff) : Request (Except Failure (Option Invoice)) := do
  let currency ← currencyOr charge.currency charge.organizationId
  Prog.begin
  let tax ← resolveTaxContext charge.organizationId charge.clientId none
  let invoiceNumber ← nextInvoiceNumber charge.organizationId
  let now ← ask .today
  let inserted ← execute (.insertInvoice {
    id := 0
    organizationId := charge.organizationId
    clientId := charge.clientId
    contractId := charge.contractId
    invoiceNumber
    subtotal := charge.amount
    taxAmount := taxOn charge.amount tax.rate
    total := charge.amount + taxOn charge.amount tax.rate
    currency
    taxRate := tax.rate
    taxRateId := tax.taxRateId
    dueDate := Calendar.setDate now ((Calendar.civil now).day + 15)
    status := .issued
    deletedAt := none })
  match inserted with
  | none =>
    Prog.rollbackNow
    return .error (.oneOffGeneration charge.clientId .duplicateNumber)
  | some invoiceId =>
    let _ ← execute (.insertItem (charge.item invoiceId))
    let _ ← execute (.insertEntry {
      id := 0
      clientId := charge.clientId
      organizationId := charge.organizationId
      entryType := .debit
      amount := charge.amount + taxOn charge.amount tax.rate
      currency
      referenceType := "invoice"
      referenceId := invoiceId
      description := "Invoice " ++ invoiceNumber })
    Prog.commitNow
    return .ok (← findInvoice (some invoiceId))

/-- What a request returns. -/
inductive Reply
  | period (row : Period)
  | invoice (row : Option Invoice)
  | skipped

/-- Requests of the invoice run. -/
inductive Call
  /-- `generatePeriod` of the billing controller. -/
  | period (contract : Contract)
  /-- `generateInvoice` of the billing controller and of the invoice routes. -/
  | invoice (contract : Contract) (plan : Plan) (organizationId : Option Nat)
  /-- One contract of `bulkGenerate`, or of `runAutoInvoice` when only due periods count. -/
  | scheduled (dueOnly : Bool) (contract : Contract) (plan : Plan) (organizationId : Option Nat)
  /-- `generateInvoice` on a stored period, as in a retry. -/
  | again (periodId : Nat) (contract : Contract) (plan : Plan) (organizationId : Option Nat)
  | oneOff (charge : OneOff)

/-- The invoice of a period that was read or has just been generated. -/
def replyInvoice (period : Period) (contract : Contract) (plan : Plan)
    (organizationId : Option Nat) : Request (Except Failure Reply) := do
  let invoice ← generateInvoice period contract plan organizationId
  return invoice.map .invoice

/-- Whether a scheduler takes a period. -/
def isDue (dueOnly : Bool) (period : Period) : Request Bool := do
  if dueOnly then
    let now ← ask .today
    return decide (period.scheduledAt ≤ now) && period.status == .pending
  else return period.status == .pending

def Call.run : Call → Request (Except Failure Reply)
  | .period contract => do
      let row ← generateBillingPeriod contract
      return row.map .period
  | .invoice contract plan organizationId => do
      match ← generateBillingPeriod contract with
      | .error e => return .error e
      | .ok row => replyInvoice row contract plan organizationId
  | .scheduled dueOnly contract plan organizationId => do
      match ← generateBillingPeriod contract with
      | .error e => return .error e
      | .ok row =>
        let due ← isDue dueOnly row
        if due then replyInvoice row contract plan organizationId
        else return .ok .skipped
  | .again periodId contract plan organizationId => do
      match ← query (.selectPeriod periodId) with
      | none => return .error .noPeriod
      | some row => replyInvoice row contract plan organizationId
  | .oneOff charge => do
      let invoice ← createOneOffInvoice charge
      return invoice.map .invoice

end FireIsp.Invoicing
