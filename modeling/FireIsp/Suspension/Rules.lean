import FireIsp.Base.Table
import Mathlib.Algebra.Ring.Int.Defs

/-!
# Suspension rules

`evaluateRules` joins the contracts of an organization with their invoices, one row for each
invoice whose days overdue are in a window that begins with the threshold of the rule and is as
long as its grace period.
-/

namespace FireIsp.Suspension

inductive ContractStatus
  | pending | active | suspended | expired | cancelled | terminated
  deriving DecidableEq

inductive InvoiceStatus
  | draft | issued | sent | paid | overdue | cancelled | void
  deriving DecidableEq

structure Contract where
  id : Nat
  organizationId : Option Nat
  clientId : Nat
  status : ContractStatus
  deriving DecidableEq

structure Client where
  id : Nat
  suspensionExempt : Bool

/-- Row of `invoices`; days are counted from one epoch. -/
structure Invoice where
  id : Nat
  organizationId : Option Nat
  contractId : Option Nat
  dueDate : Int
  /-- In cents. -/
  total : Int
  status : InvoiceStatus
  deleted : Bool

inductive Action
  | autoSuspend | notifyOnly | autoDisconnect | softSuspend
  deriving DecidableEq

structure Rule where
  id : Nat
  organizationId : Nat
  daysPastDue : Nat
  gracePeriodDays : Nat
  action : Action
  isActive : Bool
  deleted : Bool
  deriving DecidableEq

/-- The tables of one instant, by their primary keys. -/
structure Tables where
  contracts : List Contract
  clients : List Client
  invoices : List Invoice
  rules : List Rule
  contractIds : Table.Keyed Contract.id contracts
  clientIds : Table.Keyed Client.id clients
  ruleIds : Table.Keyed Rule.id rules

/-- Row of the query: the contract, and what it selects of the invoice. -/
structure Hit where
  contract : Contract
  invoiceId : Nat
  dueDate : Int
  total : Int
  daysOverdue : Int

/-- `organization_id = ? AND is_active = TRUE AND deleted_at IS NULL`. -/
def Rule.evaluated (rule : Rule) (organizationId : Nat) : Bool :=
  decide (rule.organizationId = organizationId) && rule.isActive && !rule.deleted

/-- The conditions on the invoice of a row. -/
def Rule.hits (rule : Rule) (organizationId : Nat) (today : Int) (contract : Contract)
    (invoice : Invoice) : Bool :=
  decide (invoice.contractId = some contract.id ∧ invoice.organizationId = some organizationId ∧
    invoice.status = .issued ∧ rule.daysPastDue ≤ today - invoice.dueDate ∧
    today - invoice.dueDate < rule.daysPastDue + rule.gracePeriodDays)

/-- The conditions on the contract of a row and on its client. -/
def Contract.suspendable (contract : Contract) (organizationId : Nat) (client : Client) : Bool :=
  decide (client.id = contract.clientId ∧ contract.organizationId = some organizationId ∧
    contract.status = .active) && !client.suspensionExempt

/-- Contracts with invoices past the threshold of a rule. -/
def Tables.select (t : Tables) (organizationId : Nat) (today : Int) (rule : Rule) : List Hit :=
  t.contracts.flatMap fun contract =>
    ((t.clients.filter (contract.suspendable organizationId)).flatMap fun _ =>
      t.invoices.filter (rule.hits organizationId today contract)).map fun invoice =>
        ⟨contract, invoice.id, invoice.dueDate, invoice.total, today - invoice.dueDate⟩

def evaluateRules (t : Tables) (organizationId : Nat) (today : Int) : List (Rule × Hit) :=
  ((t.rules.filter (·.evaluated organizationId)).mergeSort fun a b =>
      a.daysPastDue ≤ b.daysPastDue).flatMap fun rule =>
    (t.select organizationId today rule).map fun hit => (rule, hit)

/-- The invoice is issued, still to be paid and not deleted. -/
def Invoice.unpaid (invoice : Invoice) : Prop :=
  invoice.status ∈ [InvoiceStatus.issued, .sent, .overdue] ∧ invoice.deleted = false

/-- The contract is active, its client not exempt, and an invoice overdue by the rule's days. -/
def Tables.Overdue (t : Tables) (organizationId : Nat) (today : Int) (rule : Rule)
    (contract : Contract) : Prop :=
  contract ∈ t.contracts ∧ (∃ client ∈ t.clients, contract.suspendable organizationId client) ∧
    ∃ invoice ∈ t.invoices, invoice.contractId = some contract.id ∧
      invoice.organizationId = some organizationId ∧ invoice.unpaid ∧
      rule.daysPastDue ≤ today - invoice.dueDate

/-- How often a contract is returned for a rule. -/
def timesReturned (t : Tables) (organizationId : Nat) (today : Int) (rule : Rule)
    (contract : Contract) : Nat :=
  (evaluateRules t organizationId today).countP fun result =>
    decide (result.1 = rule ∧ result.2.contract = contract)

theorem countP_flatMap_single {α β : Type} {l : List α} (hnodup : l.Nodup) {f : α → List β}
    {p : β → Bool} {a : α} (ha : a ∈ l) (h : ∀ b ∈ l, b ≠ a → (f b).countP p = 0) :
    (l.flatMap f).countP p = (f a).countP p := by
  induction l with
  | nil => cases ha
  | cons b l ih =>
    obtain ⟨hb, hnodup⟩ := List.nodup_cons.mp hnodup
    rw [List.flatMap_cons, List.countP_append]
    by_cases hab : a = b
    · subst hab
      have hrest : (l.flatMap f).countP p = 0 := by
        refine List.countP_eq_zero.mpr fun x hx => ?_
        obtain ⟨c, hc, hx⟩ := List.mem_flatMap.mp hx
        have hzero := h c (List.mem_cons_of_mem a hc) (fun heq => hb (heq ▸ hc))
        exact List.countP_eq_zero.mp hzero x hx
      rw [hrest, Nat.add_zero]
    · rw [h b List.mem_cons_self (Ne.symm hab), Nat.zero_add]
      exact ih hnodup ((List.mem_cons.mp ha).resolve_left hab) fun c hc =>
        h c (List.mem_cons_of_mem b hc)

theorem timesReturned_eq {t : Tables} {organizationId : Nat} {today : Int} {rule : Rule}
    {contract : Contract} (hrule : rule ∈ t.rules) (hevaluated : rule.evaluated organizationId)
    (hcontract : contract ∈ t.contracts)
    (hclient : ∃ client ∈ t.clients, contract.suspendable organizationId client) :
    timesReturned t organizationId today rule contract =
      t.invoices.countP (rule.hits organizationId today contract) := by
  have hperm := List.mergeSort_perm (t.rules.filter (·.evaluated organizationId)) fun a b =>
    decide (a.daysPastDue ≤ b.daysPastDue)
  have hrules : (t.rules.filter (·.evaluated organizationId)).Nodup :=
    (List.Nodup.of_map _ t.ruleIds).filter _
  obtain ⟨client, hclient, hsuspendable⟩ := hclient
  have hmem : client ∈ t.clients.filter (contract.suspendable organizationId) :=
    List.mem_filter.mpr ⟨hclient, hsuspendable⟩
  unfold timesReturned evaluateRules
  rw [countP_flatMap_single (hperm.nodup_iff.mpr hrules)
    (hperm.mem_iff.mpr (List.mem_filter.mpr ⟨hrule, hevaluated⟩)), List.countP_map]
  · unfold Tables.select
    rw [countP_flatMap_single (List.Nodup.of_map _ t.contractIds) hcontract, List.countP_map,
      countP_flatMap_single ((List.Nodup.of_map _ t.clientIds).filter _) hmem,
      List.countP_filter]
    · exact List.countP_congr fun invoice _ => by simp
    · intro other hother hne
      have hids : other.id = client.id := by
        simp only [Contract.suspendable, Bool.and_eq_true, decide_eq_true_eq] at hsuspendable
        have hkey := (List.mem_filter.mp hother).2
        simp only [Contract.suspendable, Bool.and_eq_true, decide_eq_true_eq] at hkey
        rw [hkey.1.1, hsuspendable.1.1]
      exact absurd (List.inj_on_of_nodup_map t.clientIds (List.mem_filter.mp hother).1 hclient hids) hne
    · intro other _ hne
      rw [List.countP_map]
      exact List.countP_eq_zero.mpr fun invoice _ => by simp [hne]
  · intro other _ hne
    rw [List.countP_map]
    exact List.countP_eq_zero.mpr fun hit _ => by simp [hne]

/-- An invoice due on day 0, and a rule of 30 days without grace. -/
def dueTables : Tables where
  contracts := [⟨1, some 1, 1, .active⟩]
  clients := [⟨1, false⟩]
  invoices := [⟨1, some 1, some 1, 0, 50000, .issued, false⟩]
  rules := [⟨1, 1, 30, 0, .autoSuspend, true, false⟩]
  contractIds := List.nodup_singleton _
  clientIds := List.nodup_singleton _
  ruleIds := List.nodup_singleton _

end FireIsp.Suspension
