import FireIsp.Lifecycle.Footprint

/-!
# The outcome of an order

The life of a service order without its tables: it is started once, with a contract or by creating
one, and then completed, with an invoice or without, or cancelled.  Transactions on the order are
disciplined: each ends with one such step.
-/

namespace FireIsp.Lifecycle

open Txn Throwing

/-- What has become of an order, with the contracts and invoices there are. -/
structure Outcome where
  status : OrderStatus
  contractId : Option Nat
  contracts : Nat
  invoices : Nat

/-- One step in the life of an order. -/
inductive Advance : Outcome → Outcome → Prop
  | started (s) (h : s.status = .new) : Advance s { s with status := .inProcess }
  | created (s) (contractId : Nat) (h : s.status = .new) (hnone : s.contractId = none) :
      Advance s { s with
        status := .inProcess
        contractId := some contractId
        contracts := s.contracts + 1 }
  | completed (s) (h : s.status = .inProcess) : Advance s { s with status := .done }
  | invoiced (s) (h : s.status = .inProcess) :
      Advance s { s with status := .done, invoices := s.invoices + 1 }
  | cancelled (s) (h : s.status.isOpen = true) : Advance s { s with status := .cancelled }

/-- What can become of an order from an earlier outcome on. -/
structure Settles (a b : Outcome) : Prop where
  contract : ∀ contractId, a.contractId = some contractId → b.contractId = some contractId
  terminal : a.status.isOpen = false → b = a
  fresh : b.status = .new → b = a
  contracts : b.contracts = a.contracts ∨
    b.contracts = a.contracts + 1 ∧ a.contractId = none ∧ b.contractId ≠ none
  invoices : b.invoices = a.invoices ∨ b.invoices = a.invoices + 1 ∧ b.status = .done

theorem Settles.refl (a : Outcome) : Settles a a :=
  ⟨fun _ h => h, fun _ => rfl, fun _ => rfl, Or.inl rfl, Or.inl rfl⟩

theorem Settles.step {a b c : Outcome} (h : Settles a b) (hstep : Advance b c) : Settles a c := by
  cases hstep with
  | started h' =>
    obtain rfl := h.fresh h'
    refine ⟨fun _ h => h, fun hclosed => ?_, nofun, Or.inl rfl, Or.inl rfl⟩
    rw [h'] at hclosed
    cases hclosed
  | created contractId h' hnone =>
    obtain rfl := h.fresh h'
    refine ⟨fun _ h => ?_, fun hclosed => ?_, nofun, Or.inr ⟨rfl, hnone, nofun⟩, Or.inl rfl⟩
    · rw [hnone] at h
      cases h
    · rw [h'] at hclosed
      cases hclosed
  | completed h' =>
    refine ⟨h.contract, fun hclosed => ?_, nofun, h.contracts, ?_⟩
    · obtain rfl := h.terminal hclosed
      rw [h'] at hclosed
      cases hclosed
    · exact h.invoices.imp id fun hinvoiced => ⟨hinvoiced.1, rfl⟩
  | invoiced h' =>
    refine ⟨h.contract, fun hclosed => ?_, nofun, h.contracts, ?_⟩
    · obtain rfl := h.terminal hclosed
      rw [h'] at hclosed
      cases hclosed
    · rcases h.invoices with hsame | ⟨-, hdone⟩
      · exact Or.inr ⟨congrArg (· + 1) hsame, rfl⟩
      · rw [h'] at hdone
        cases hdone
  | cancelled h' =>
    refine ⟨h.contract, fun hclosed => ?_, nofun, h.contracts, ?_⟩
    · obtain rfl := h.terminal hclosed
      rw [h'] at hclosed
      cases hclosed
    · refine h.invoices.imp id fun hinvoiced => ?_
      rw [hinvoiced.2] at h'
      cases h'

def Db.outcome (db : Db) (orderId : Nat) : Option Outcome :=
  (db.order orderId).map fun row =>
    ⟨row.status, row.contractId, db.contracts.length, db.invoices.length⟩

def Write.moves (orderId : Nat) : Write → Outcome → Outcome
  | .started id _ _ contractId, s =>
    if id = orderId then
      { s with status := .inProcess, contractId := contractId.or s.contractId }
    else s
  | .orderStatus id status, s => if id = orderId then { s with status } else s
  | .contract _, s => { s with contracts := s.contracts + 1 }
  | .invoice _, s => { s with invoices := s.invoices + 1 }
  | _, s => s

variable {o : Nat} {s : Outcome}

theorem id_of_order {db : Db} {row : Order} (h : db.order o = some row) : row.id = o := by
  unfold Db.order at h
  simpa using List.find?_some h

theorem find?_changed (id : Nat) {change : Order → Order} (hid : ∀ row, (change row).id = row.id)
    (rows : List Order) :
    (changed id change rows).find? (fun row => row.id == o) =
      (rows.find? fun row => row.id == o).map fun row => if row.id = id then change row else row := by
  have hkey : ((fun row : Order => row.id == o) ∘ fun row => if row.id = id then change row else row) =
      fun row => row.id == o := by
    ext row
    simp only [Function.comp_apply]
    split_ifs
    · rw [hid]
    · rfl
  rw [changed, List.find?_map, hkey]

theorem outcome_apply {db : Db} (w : Write) (h : db.outcome o = some s) :
    (db.apply w).outcome o = some (w.moves o s) := by
  obtain ⟨row, hrow, rfl⟩ := Option.map_eq_some_iff.mp h
  have hid := id_of_order hrow
  have hchanged : ∀ (id : Nat) (change : Order → Order), (∀ row, (change row).id = row.id) →
      (changed id change db.orders).find? (fun row => row.id == o) =
        some (if o = id then change row else row) := by
    intro id change hkeep
    rw [find?_changed id hkeep]
    change Option.map _ (db.order o) = _
    rw [hrow, ← hid]
    rfl
  cases w with
  | order new =>
    have hsame : (db.orders ++ [new]).find? (fun row => row.id == o) = some row := by
      rw [List.find?_append]
      exact congrArg (Option.or · _) hrow
    simp only [Db.outcome, Db.order, Db.apply, hsame, Write.moves, Option.map_some]
  | started id startedAt clientId contractId =>
    unfold Db.outcome Db.order Db.apply
    rw [hchanged]
    · by_cases hid : o = id
      · subst hid
        simp [Write.moves]
      · simp [Write.moves, hid, Ne.symm hid]
    · exact fun _ => rfl
  | orderStatus id status =>
    unfold Db.outcome Db.order Db.apply
    rw [hchanged]
    · by_cases hid : o = id
      · subst hid
        simp [Write.moves]
      · simp [Write.moves, hid, Ne.symm hid]
    · exact fun _ => rfl
  | orderAssigned id assignedTo =>
    unfold Db.outcome Db.order Db.apply
    rw [hchanged]
    · by_cases hid : o = id
      · subst hid
        simp [Write.moves]
      · simp [Write.moves, hid]
    · exact fun _ => rfl
  | contract new =>
    simp only [Db.outcome, Db.apply, Write.moves, List.length_append, List.length_singleton]
    change Option.map _ (db.order o) = _
    rw [hrow]
    rfl
  | invoice new =>
    simp only [Db.outcome, Db.apply, Write.moves, List.length_append, List.length_singleton]
    change Option.map _ (db.order o) = _
    rw [hrow]
    rfl
  | activated id =>
    refine Eq.trans ?_ h
    simp only [Db.outcome, Db.order, Db.apply, amended, List.length_map]
  | contractCancelled id cleanupPending =>
    refine Eq.trans ?_ h
    simp only [Db.outcome, Db.order, Db.apply, amended, List.length_map]
  | radius contractId status => exact h
  | workOrder new => exact h
  | visitsAssigned orderId assignedTo => exact h
  | visitsCancelled orderId => exact h
  | document new => exact h
  | documentsCancelled orderId organizationId => exact h

theorem outcome_visible {db : Db} {writes : List Write} (h : db.outcome o = some s) :
    (engine.visible db writes).outcome o =
      some (writes.foldl (fun s w => w.moves o s) s) := by
  induction writes generalizing db s with
  | nil => exact h
  | cons w writes ih => exact ih (outcome_apply w h)

/-- What a transaction has written of the order it holds. -/
inductive Progress
  | untouched
  | created (contractId : Nat)
  | invoiced
  deriving DecidableEq

inductive Know
  | idle
  /-- A transaction is open, the order is not locked. -/
  | begun
  | held (status : OrderStatus) (contractId : Option Nat) (progress : Progress)
  /-- The order is locked and has taken its step. -/
  | closed
  deriving DecidableEq

def Know.startable (link : Option Nat) : Know → Bool
  | .held .new _ .untouched => decide (link = none)
  | .held .new none (.created contractId) => decide (link = some contractId)
  | _ => false

/-- The order may be completed. -/
def Know.completable : Know → Bool
  | .held .inProcess _ .untouched => true
  | .held .inProcess _ .invoiced => true
  | _ => false

/-- The order may be cancelled. -/
def Know.cancellable : Know → Bool
  | .held status _ .untouched => status.isOpen
  | _ => false

/-- The order is locked. -/
def Know.holds : Know → Bool
  | .held .. => true
  | .closed => true
  | _ => false

/-- What the query of the locked row tells. -/
def Know.found : Option Order → Know
  | none => .begun
  | some row => .held row.status row.contractId .untouched

/-- What a statement that moves the order tells: whether it did. -/
def Know.moved (know : Know) (allowed : Bool) : Option (Bool → Know) :=
  if allowed then some fun moved => if moved then .closed else know else none

/-- An invoice of the order. -/
def Know.invoice : Know → Option (Nat → Know)
  | .held .inProcess contractId .untouched => some fun _ => .held .inProcess contractId .invoiced
  | _ => none

/-- A statement inside a transaction. -/
def Know.inside (o : Nat) (know : Know) : (op : Stmt) → Option (op.Res → Know)
  | .select true (.order id _ _) =>
    if id = o ∧ know = .begun then some Know.found else none
  | .startRow id _ link => know.moved (decide (id = o) && know.startable link)
  | .completeRow id => know.moved (decide (id = o) && know.completable)
  | .cancelRow id => know.moved (decide (id = o) && know.cancellable)
  | .insertContract _ =>
    if know = .held .new none .untouched then
      some fun contractId => .held .new none (.created contractId)
    else none
  | .insertInvoice _ => know.invoice
  | .insertOrder _ => none
  | .assignOrder .. => none
  | _ => if know.holds then some fun _ => know else none

/-- A statement; outside of transactions only queries are sent. -/
def Know.sent (o : Nat) (know : Know) : (via : Via) → (op : Stmt) → Option (op.Res → Know)
  | .conn, op => know.inside o op
  | .pool, .select false _ => if know = .idle then some fun _ => .idle else none
  | .pool, _ => none

/-- Calls on one order. -/
def discipline (o : Nat) : Discipline Know Stmt Stmt.Res Query Query.Answer where
  started := fun know => if know = .idle then some .begun else none
  committed := fun know => if know = .closed then some .idle else none
  rolledBack := fun _ => some .idle
  sent := fun know via op => know.sent o via op
  asked := fun know _ => some fun _ => know

end FireIsp.Lifecycle
