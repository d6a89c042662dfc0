import FireIsp.Billing.Schema
import FireIsp.Base.Text

/-!
# Converting an invoice

`stampInvoice` up to the XML it sends: the checks on the invoice, the document and concept rows it
writes, and the totals `buildCfdi40Xml` states. Money is a number of cents, a tax rate a number of
millionths.
-/

namespace FireIsp.Cfdi

open FireIsp.Billing (InvoiceStatus SatStatus)

structure AppError where
  status : Nat
  code : String

/-- Row of `invoices`. -/
structure Invoice where
  status : InvoiceStatus
  currency : String
  taxRate : Int
  subtotal : Int
  taxAmount : Int
  total : Int

/-- Live row of `invoice_items`. -/
structure Item where
  claveProdServ : Option String
  claveUnidad : Option String
  description : Option String
  quantity : Int
  unitPrice : Int
  amount : Int

/-- MX fiscal profile of the client. -/
structure Receptor where
  rfc : String
  razonSocial : String
  regimenFiscal : String
  codigoPostalFiscal : String
  usoCfdiDefault : Option String
  taxExempt : Bool

/-- What the transaction reads of the invoice once it holds the row lock. -/
structure StampRead where
  invoice : Option Invoice
  /-- `sat_status` of a draft or live CFDI of the invoice. -/
  existing : Option SatStatus
  receptor : Option Receptor
  items : List Item
  /-- `sat_forma_pago` of the latest live allocation. -/
  paidForma : Option String

/-- `opts`. -/
structure StampOptions where
  usoCfdi : Option String
  formaPago : Option String

/-- `STAMPABLE_STATUSES`. -/
def stampable (status : InvoiceStatus) : Bool :=
  status == .issued || status == .sent || status == .overdue || status == .paid

/-- `invoiceTaxFraction`, in millionths: a rate above 1 is a percentage. -/
def invoiceTaxFraction (taxRate : Int) : Int := if 10000 < taxRate then taxRate else 100 * taxRate

/-- What `resolveStampInputs` returns. -/
structure StampInputs where
  invoice : Invoice
  receptor : Receptor
  items : List Item
  formaPago : String
  metodoPago : String
  usoCfdi : String
  taxRate : Int
  clientExempt : Bool

/-- The profile is complete. -/
def Receptor.complete (receptor : Receptor) : Bool :=
  receptor.rfc != "" && receptor.razonSocial != "" && receptor.regimenFiscal != "" &&
    receptor.codigoPostalFiscal != ""

def resolveStampInputs (read : StampRead) (opts : StampOptions) : Except AppError StampInputs := do
  let some invoice := read.invoice | throw ⟨404, "NOT_FOUND"⟩
  if !stampable invoice.status then throw ⟨422, "INVOICE_NOT_STAMPABLE"⟩
  if invoice.currency ≠ "" ∧ invoice.currency ≠ "MXN" then
    throw ⟨422, "CFDI_UNSUPPORTED_CURRENCY"⟩
  if read.existing.isSome then throw ⟨409, "CFDI_EXISTS"⟩
  let some receptor := read.receptor | throw ⟨422, "CLIENT_MX_PROFILE_MISSING"⟩
  if !receptor.complete then throw ⟨422, "CLIENT_MX_PROFILE_MISSING"⟩
  if read.items.isEmpty then throw ⟨422, "NO_LINE_ITEMS"⟩
  let isPublico := receptor.rfc == "XAXX010101000"
  let isPaid := invoice.status == .paid
  let taxRate := invoiceTaxFraction invoice.taxRate
  pure {
    invoice := invoice
    receptor := receptor
    items := read.items
    formaPago := if isPaid || isPublico then
        (opts.formaPago.or read.paidForma).getD (if isPublico then "01" else "03")
      else "99"
    metodoPago := if isPaid || isPublico then "PUE" else "PPD"
    usoCfdi := (opts.usoCfdi.or receptor.usoCfdiDefault).getD "G03"
    taxRate := taxRate
    clientExempt := receptor.taxExempt && decide (taxRate = 0) }

inductive TipoFactor
  | tasa
  | exento
  deriving DecidableEq

/-- Row of `cfdi_concepto_impuestos`, a traslado of IVA. -/
structure Traslado where
  base : Int
  tipoFactor : TipoFactor
  /-- Rate, in millionths; `NULL` when exempt. -/
  tasaOCuota : Option Int
  /-- Tax; `NULL` when exempt. -/
  importe : Option Int
  deriving DecidableEq

/-- Row of `cfdi_conceptos`, with its tax. -/
structure Concepto where
  claveProdServ : String
  claveUnidad : String
  cantidad : Int
  descripcion : String
  valorUnitario : Int
  importe : Int
  objetoImp : String
  traslado : Option Traslado

/-- `Math.round(importe * taxRate * 100) / 100`. -/
def lineTax (importe taxRate : Int) : Int := (2 * (importe * taxRate) + 1000000) / 2000000

def concepto (inputs : StampInputs) (item : Item) (traslado : Option Traslado) : Concepto where
  claveProdServ := item.claveProdServ.getD "81161700"
  claveUnidad := item.claveUnidad.getD "E48"
  cantidad := item.quantity
  descripcion := item.description.getD ""
  valorUnitario := item.unitPrice
  importe := item.amount
  objetoImp := if 0 < inputs.taxRate ∨ inputs.clientExempt then "02" else "01"
  traslado := traslado

/-- The loop over the items, with the tax not yet given to a line; the last line takes it all. -/
def conceptos (inputs : StampInputs) : Int → List Item → List Concepto
  | _, [] => []
  | taxRemaining, item :: rest =>
    if 0 < inputs.taxRate then
      let tax := if rest.isEmpty then taxRemaining else lineTax item.amount inputs.taxRate
      concepto inputs item (some ⟨item.amount, .tasa, some inputs.taxRate, some tax⟩) ::
        conceptos inputs (taxRemaining - tax) rest
    else if inputs.clientExempt then
      concepto inputs item (some ⟨item.amount, .exento, none, none⟩) ::
        conceptos inputs taxRemaining rest
    else concepto inputs item none :: conceptos inputs taxRemaining rest

/-- A group of traslados at document level. -/
structure Grupo where
  tipoFactor : TipoFactor
  tasaOCuota : Option Int
  base : Int
  importe : Int

/-- A traslado added to the group of its key, or to a new group. -/
def addTraslado (traslado : Traslado) : List Grupo → List Grupo
  | [] => [⟨traslado.tipoFactor, traslado.tasaOCuota, traslado.base, traslado.importe.getD 0⟩]
  | grupo :: grupos =>
    if grupo.tipoFactor = traslado.tipoFactor ∧
        (traslado.tipoFactor = .exento ∨ grupo.tasaOCuota = traslado.tasaOCuota) then
      { grupo with
        base := grupo.base + traslado.base
        importe := grupo.importe + traslado.importe.getD 0 } :: grupos
    else grupo :: addTraslado traslado grupos

/-- `cfdi_documents` row and the XML built from it. -/
structure Comprobante where
  subTotal : Int
  totalImpuestos : Int
  total : Int
  formaPago : String
  metodoPago : String
  usoCfdi : String
  receptor : Receptor
  conceptos : List Concepto
  grupos : List Grupo
  /-- `TotalImpuestosTrasladados`, left out when every traslado is exempt. -/
  totalImpuestosTrasladados : Option Int

/-- `buildCfdi40Xml`: the groups of the traslados and their total. -/
def buildCfdi40Xml (inputs : StampInputs) (rows : List Concepto) : Comprobante :=
  let grupos := (rows.filterMap Concepto.traslado).foldl (fun grupos t => addTraslado t grupos) []
  let taxable := grupos.filter fun grupo => grupo.tipoFactor ≠ .exento
  { subTotal := inputs.invoice.subtotal
    totalImpuestos := inputs.invoice.taxAmount
    total := inputs.invoice.total
    formaPago := inputs.formaPago
    metodoPago := inputs.metodoPago
    usoCfdi := inputs.usoCfdi
    receptor := inputs.receptor
    conceptos := rows
    grupos := grupos
    totalImpuestosTrasladados :=
      if taxable.isEmpty then none else some (taxable.map Grupo.importe).sum }

/-- `stampInvoice`, up to the XML that is sent. -/
def stampInvoice (read : StampRead) (opts : StampOptions) : Except AppError Comprobante := do
  let inputs ← resolveStampInputs read opts
  pure (buildCfdi40Xml inputs (conceptos inputs inputs.invoice.taxAmount inputs.items))

def Traslado.tax (traslado : Traslado) : Int := traslado.importe.getD 0

/-- Summed tax of the groups that are not exempt. -/
def taxableTotal (grupos : List Grupo) : Int :=
  ((grupos.filter fun grupo => grupo.tipoFactor ≠ .exento).map Grupo.importe).sum

theorem taxableTotal_addTraslado (traslado : Traslado) (grupos : List Grupo) :
    taxableTotal (addTraslado traslado grupos) =
      taxableTotal grupos + if traslado.tipoFactor = .exento then 0 else traslado.tax := by
  induction grupos with
  | nil =>
    by_cases he : traslado.tipoFactor = .exento
    · simp [addTraslado, taxableTotal, he]
    · simp [addTraslado, taxableTotal, he, Traslado.tax]
  | cons grupo grupos ih =>
    simp only [taxableTotal] at ih ⊢
    by_cases hk : grupo.tipoFactor = traslado.tipoFactor ∧
        (traslado.tipoFactor = .exento ∨ grupo.tasaOCuota = traslado.tasaOCuota)
    · rw [addTraslado, if_pos hk]
      by_cases he : traslado.tipoFactor = .exento
      · simp [hk.1, he]
      · simp only [hk.1, he, ne_eq, not_false_eq_true, decide_true, List.filter_cons_of_pos,
          List.map_cons, List.sum_cons, if_false, Traslado.tax]
        omega
    · rw [addTraslado, if_neg hk]
      by_cases hg : grupo.tipoFactor = .exento
      · simpa [hg] using ih
      · simp only [hg, ne_eq, not_false_eq_true, decide_true, List.filter_cons_of_pos,
          List.map_cons, List.sum_cons]
        simp only [ne_eq] at ih
        omega

theorem taxableTotal_foldl (traslados : List Traslado) (grupos : List Grupo)
    (ht : ∀ t ∈ traslados, t.tipoFactor = .exento → t.tax = 0) :
    taxableTotal (traslados.foldl (fun grupos t => addTraslado t grupos) grupos) =
      taxableTotal grupos + (traslados.map Traslado.tax).sum := by
  induction traslados generalizing grupos with
  | nil => simp
  | cons t rest ih =>
    have hr := ih (addTraslado t grupos) fun u hu => ht u (List.mem_cons_of_mem t hu)
    have hh := ht t List.mem_cons_self
    rw [List.foldl_cons, hr, taxableTotal_addTraslado, List.map_cons, List.sum_cons]
    by_cases he : t.tipoFactor = .exento
    · rw [if_pos he, hh he]
      omega
    · rw [if_neg he]
      omega

def Comprobante.traslados (comprobante : Comprobante) : List Traslado :=
  comprobante.conceptos.filterMap Concepto.traslado

theorem buildCfdi40Xml_totalImpuestosTrasladados (inputs : StampInputs) (rows : List Concepto) :
    (buildCfdi40Xml inputs rows).totalImpuestosTrasladados.getD 0 =
      taxableTotal (buildCfdi40Xml inputs rows).grupos := by
  simp only [buildCfdi40Xml, taxableTotal]
  split
  · rename_i he
    rw [List.isEmpty_iff.mp he]
    rfl
  · rfl

theorem conceptos_importe (inputs : StampInputs) (taxRemaining : Int) (items : List Item) :
    (conceptos inputs taxRemaining items).map Concepto.importe = items.map Item.amount := by
  induction items generalizing taxRemaining with
  | nil => rfl
  | cons item rest ih =>
    rw [conceptos]
    by_cases hr : 0 < inputs.taxRate
    · rw [if_pos hr]
      exact congrArg (item.amount :: ·) (ih _)
    · rw [if_neg hr]
      by_cases he : inputs.clientExempt = true
      · rw [if_pos he]
        exact congrArg (item.amount :: ·) (ih _)
      · rw [if_neg he]
        exact congrArg (item.amount :: ·) (ih _)

theorem filterMap_concepto_some (inputs : StampInputs) (item : Item) (t : Traslado)
    (rows : List Concepto) :
    (concepto inputs item (some t) :: rows).filterMap Concepto.traslado =
      t :: rows.filterMap Concepto.traslado := rfl

theorem filterMap_concepto_none (inputs : StampInputs) (item : Item) (rows : List Concepto) :
    (concepto inputs item none :: rows).filterMap Concepto.traslado =
      rows.filterMap Concepto.traslado := rfl

/-- Line taxes as the loop writes them: rounded, and what remains on the last. -/
def lineTaxes (taxRate : Int) : Int → List Item → List Int
  | _, [] => []
  | taxRemaining, item :: rest =>
    let tax := if rest.isEmpty then taxRemaining else lineTax item.amount taxRate
    tax :: lineTaxes taxRate (taxRemaining - tax) rest

theorem conceptos_taxed (inputs : StampInputs) (taxRemaining : Int) (items : List Item)
    (hr : 0 < inputs.taxRate) :
    ((conceptos inputs taxRemaining items).filterMap Concepto.traslado).map Traslado.tax =
      lineTaxes inputs.taxRate taxRemaining items := by
  induction items generalizing taxRemaining with
  | nil => rfl
  | cons item rest ih =>
    simp only [conceptos, lineTaxes, if_pos hr, filterMap_concepto_some, List.map_cons, ih]
    rfl

theorem conceptos_untaxed (inputs : StampInputs) (taxRemaining : Int) (items : List Item)
    (hr : ¬ 0 < inputs.taxRate) :
    ∀ t ∈ (conceptos inputs taxRemaining items).filterMap Concepto.traslado,
      t.tax = 0 := by
  induction items generalizing taxRemaining with
  | nil => exact fun t ht => absurd ht List.not_mem_nil
  | cons item rest ih =>
    intro t ht
    rw [conceptos, if_neg hr] at ht
    by_cases he : inputs.clientExempt = true
    · simp only [if_pos he, filterMap_concepto_some, List.mem_cons] at ht
      rcases ht with rfl | ht
      · rfl
      · exact ih _ t ht
    · simp only [if_neg he, filterMap_concepto_none] at ht
      exact ih _ t ht

theorem conceptos_exento (inputs : StampInputs) (taxRemaining : Int) (items : List Item) :
    ∀ t ∈ (conceptos inputs taxRemaining items).filterMap Concepto.traslado,
      t.tipoFactor = .exento → t.tax = 0 := by
  by_cases hr : 0 < inputs.taxRate
  · induction items generalizing taxRemaining with
    | nil => exact fun t ht => absurd ht List.not_mem_nil
    | cons item rest ih =>
      intro t ht he
      simp only [conceptos, if_pos hr, filterMap_concepto_some, List.mem_cons] at ht
      rcases ht with rfl | ht
      · exact nomatch he
      · exact ih _ t ht he
  · intro t ht _
    exact conceptos_untaxed inputs taxRemaining items hr t ht

theorem lineTaxes_sum (taxRate taxRemaining : Int) {items : List Item} (hi : items ≠ []) :
    (lineTaxes taxRate taxRemaining items).sum = taxRemaining := by
  induction items generalizing taxRemaining with
  | nil => exact absurd rfl hi
  | cons item rest ih =>
    cases rest with
    | nil => simp [lineTaxes]
    | cons next rest =>
      have ht := ih (taxRemaining - lineTax item.amount taxRate) (List.cons_ne_nil _ _)
      rw [lineTaxes]
      simp only [List.isEmpty_cons, Bool.false_eq_true, if_false, List.sum_cons]
      omega

def roundedTax (taxRate : Int) (items : List Item) : Int :=
  (items.dropLast.map fun item => lineTax item.amount taxRate).sum

theorem lineTaxes_nonneg_iff (taxRate taxRemaining : Int) {items : List Item} (hi : items ≠ []) :
    (∀ tax ∈ lineTaxes taxRate taxRemaining items, 0 ≤ tax) ↔
      (∀ item ∈ items.dropLast, 0 ≤ lineTax item.amount taxRate) ∧
        roundedTax taxRate items ≤ taxRemaining := by
  induction items generalizing taxRemaining with
  | nil => exact absurd rfl hi
  | cons item rest ih =>
    cases rest with
    | nil => simp [lineTaxes, roundedTax]
    | cons next rest =>
      have ht := ih (taxRemaining - lineTax item.amount taxRate) (List.cons_ne_nil _ _)
      have hs : roundedTax taxRate (item :: next :: rest) =
          lineTax item.amount taxRate + roundedTax taxRate (next :: rest) := rfl
      rw [lineTaxes]
      simp only [List.isEmpty_cons, Bool.false_eq_true, if_false, List.forall_mem_cons,
        List.dropLast_cons_cons, ht, hs]
      constructor
      · rintro ⟨h0, hl, hle⟩
        exact ⟨⟨h0, hl⟩, by omega⟩
      · rintro ⟨⟨h0, hl⟩, hle⟩
        exact ⟨h0, hl, by omega⟩

/-- The figures of a stamped document agree with each other and with the invoice. -/
structure Foots (invoice : Invoice) (comprobante : Comprobante) : Prop where
  subTotal : comprobante.subTotal = (comprobante.conceptos.map Concepto.importe).sum
  /-- `TotalImpuestosTrasladados` is the sum of the concept taxes. -/
  traslados : comprobante.totalImpuestosTrasladados.getD 0 =
    (comprobante.traslados.map Traslado.tax).sum
  /-- `Total` is the subtotal and the taxes. -/
  total : comprobante.total =
    comprobante.subTotal + comprobante.totalImpuestosTrasladados.getD 0
  ofInvoice : comprobante.total = invoice.total
  nonneg : ∀ t ∈ comprobante.traslados, 0 ≤ t.tax

/-- The stored totals agree with the items, and rounding leaves the last line no debt. -/
def Reconciles (invoice : Invoice) (items : List Item) : Prop :=
  invoice.subtotal = (items.map Item.amount).sum ∧
    if 0 < invoiceTaxFraction invoice.taxRate then
      invoice.total = invoice.subtotal + invoice.taxAmount ∧
        (∀ item ∈ items.dropLast, 0 ≤ lineTax item.amount (invoiceTaxFraction invoice.taxRate)) ∧
        roundedTax (invoiceTaxFraction invoice.taxRate) items ≤ invoice.taxAmount
    else invoice.total = invoice.subtotal

theorem resolveStampInputs_ok {read : StampRead} {opts : StampOptions} {inputs : StampInputs}
    (hr : resolveStampInputs read opts = .ok inputs) :
    read.invoice = some inputs.invoice ∧ inputs.items = read.items ∧ read.items ≠ [] ∧
      inputs.taxRate = invoiceTaxFraction inputs.invoice.taxRate := by
  unfold resolveStampInputs at hr
  simp only [throw, throwThe, MonadExceptOf.throw, bind, Except.bind, pure, Except.pure] at hr
  cases hv : read.invoice with
  | none => simp only [hv, reduceCtorEq] at hr
  | some invoice =>
    cases hc : read.receptor with
    | none =>
      simp only [hv, hc] at hr
      split at hr
      · cases hr
      · split at hr
        · cases hr
        · split at hr <;> cases hr
    | some receptor =>
      simp only [hv, hc] at hr
      by_cases he : read.items.isEmpty = true
      · simp only [he, if_true] at hr
        (repeat' split at hr) <;> cases hr
      · have hi : read.items ≠ [] := fun h => he (List.isEmpty_iff.mpr h)
        (repeat' split at hr) <;> cases hr <;> exact ⟨rfl, rfl, hi, rfl⟩

/-- A complete profile of the general public. -/
def samplePublico : Receptor :=
  ⟨"XAXX010101000", "PUBLICO EN GENERAL", "616", "64000", none, false⟩

/-- Issued invoice of equal items at 16 %. -/
def sampleRead (amounts : List Int) (taxAmount : Int) : StampRead where
  invoice := some ⟨.issued, "MXN", 1600, amounts.sum, taxAmount, amounts.sum + taxAmount⟩
  existing := none
  receptor := some samplePublico
  items := amounts.map fun amount => ⟨none, none, none, 100, amount, amount⟩
  paidForma := none

end FireIsp.Cfdi
