import FireIsp.Gateway.Redelivery
import FireIsp.Gateway.Discipline

/-!
# The book of a transaction

The ledger entries of one gateway transaction, its amount and its status, and what each write does
to them.
-/

namespace FireIsp.Gateway

open Txn

variable {t : Nat} {db : Db}

/-- The ledger entries of a transaction, oldest first. -/
def Db.book (db : Db) (t : Nat) : List (EntryType × Int) :=
  (db.ledger.filter (LedgerEntry.isOf t)).map fun row => (row.entryType, row.amount)

/-- The sign of an entry in the balance of the client. -/
def EntryType.signed (amount : Int) : EntryType → Int
  | .payment => amount
  | .topup => amount
  | .creditNote => amount
  | .adjustment => amount
  | .credit => amount
  | .invoice => -amount
  | .usageDeduction => -amount
  | .debit => -amount

/-- The net of the ledger entries of a transaction. -/
def Db.net (db : Db) (t : Nat) : Int := ((db.book t).map fun entry => entry.1.signed entry.2).sum

def Db.account (db : Db) (t : Nat) : Option (Int × GatewayStatus) :=
  (db.transaction t).map fun row => (row.amount, row.gatewayStatus)

def Db.refunded (db : Db) (t : Nat) : Bool :=
  (db.transaction t).any fun row => decide (row.gatewayStatus = .refunded)

/-- What a write adds to the book. -/
def Write.entries (t : Nat) : Write → List (EntryType × Int)
  | .entry row => if row.isOf t then [(row.entryType, row.amount)] else []
  | _ => []

/-- The status a write gives the transaction. -/
def Write.marks (t : Nat) : Write → Option GatewayStatus
  | .status id newStatus _ => if id = t then some newStatus else none
  | _ => none

theorem book_apply (w : Write) : (db.apply w).book t = db.book t ++ w.entries t := by
  cases w with
  | entry row =>
    simp only [Db.book, Db.apply, Write.entries, List.filter_append, List.map_append]
    congr 1
    by_cases hrow : row.isOf t = true
    · simp [hrow]
    · simp [hrow]
  | _ => exact (List.append_nil _).symm

theorem book_visible (writes : List Write) :
    (engine.visible db writes).book t = db.book t ++ writes.flatMap (Write.entries t) := by
  induction writes generalizing db with
  | nil => exact (List.append_nil _).symm
  | cons w writes ih =>
    rw [Engine.visible_cons, ih, List.flatMap_cons, ← List.append_assoc]
    exact congrArg (· ++ _) (book_apply w)

theorem account_updated {change : Transaction → Transaction}
    (hchange : ∀ row, (change row).id = row.id ∧ (change row).amount = row.amount) (id : Nat) :
    Db.account { db with transactions := updated id change db.transactions } t =
      (db.transaction t).map fun row =>
        (row.amount, if id = t then (change row).gatewayStatus else row.gatewayStatus) := by
  have hid : (fun row : Transaction => row.id == t) ∘
      (fun row => if row.id = id then change row else row) = fun row => row.id == t := by
    funext row
    simp only [Function.comp_apply]
    split_ifs
    · rw [(hchange row).1]
    · rfl
  simp only [Db.account, Db.transaction, updated, List.find?_map, hid, Option.map_map]
  cases hfound : db.transactions.find? fun row => row.id == t with
  | none => rfl
  | some row =>
    have hrow : row.id = t := by simpa using List.find?_some hfound
    simp only [Option.map_some, Function.comp_apply, hrow, eq_comm]
    split_ifs
    · rw [(hchange row).2]
    · rfl

theorem account_apply (w : Write) :
    (db.apply w).account t =
      (db.account t).map fun account => (account.1, (w.marks t).getD account.2) := by
  cases w with
  | status id status reference =>
    refine (account_updated (by exact fun _ => ⟨rfl, rfl⟩) id).trans ?_
    simp only [Db.account, Write.marks, Option.map_map]
    split_ifs <;> rfl
  | settled id invoiceId =>
    refine (account_updated (by exact fun _ => ⟨rfl, rfl⟩) id).trans ?_
    simp only [Db.account, Write.marks, Option.map_map, ite_self]
    rfl
  | _ => simp [Db.account, Db.apply, Db.transaction, Write.marks, Function.comp_def]

theorem account_visible {writes : List Write} (h : ∀ w ∈ writes, w.marks t = none) :
    (engine.visible db writes).account t = db.account t := by
  induction writes generalizing db with
  | nil => rfl
  | cons w writes ih =>
    rw [Engine.visible_cons, ih fun w hw => h w (List.mem_cons_of_mem _ hw)]
    refine (account_apply w).trans ?_
    rw [h w List.mem_cons_self]
    simp

theorem refunded_eq : db.refunded t = (db.account t).any fun account => account.2 = .refunded := by
  unfold Db.refunded Db.account
  cases db.transaction t <;> rfl

theorem spares_exec {op : Stmt} (h : op.spares t = true) (tick : Nat) (current seen : Db) :
    ∀ w ∈ (exec tick current seen op).2, w.entries t = [] ∧ w.marks t = none := by
  cases op with
  | insertEntry row =>
    have hrow : row.isOf t = false := by simpa [Stmt.spares] using h
    simp only [exec]
    split_ifs <;> simp [Write.entries, Write.marks, hrow]
  | setStatus id status =>
    have hid : id ≠ t := by simpa [Stmt.spares] using h
    simp [exec, Write.entries, Write.marks, hid]
  | markRefunded id reference =>
    have hid : id ≠ t := by simpa [Stmt.spares] using h
    simp [exec, Write.entries, Write.marks, hid]
  | insertEvent organizationId provider providerEventId eventType =>
    simp only [exec]
    split_ifs <;> simp [Write.entries, Write.marks]
  | reopen id =>
    simp only [exec]
    split_ifs <;> simp [Write.entries, Write.marks]
  | _ => simp [exec, Write.entries, Write.marks]

end FireIsp.Gateway
