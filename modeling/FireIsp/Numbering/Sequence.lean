import FireIsp.Base.Calendar
import FireIsp.Base.Text
import FireIsp.Base.Session

/-!
# Document numbers

`nextInvoiceNumber` and `nextQuoteNumber` of `billingService` and `nextOrderNumber` of
`lifecycleService`: three sequence tables of one shape, and transactions that draw numbers from
them for the documents they insert.
-/

namespace FireIsp.Numbering

open Txn

/-- Documents with a sequence of their own. -/
inductive Kind
  | invoice
  | quote
  | order
  deriving DecidableEq

/-- What the numbers of a kind start with. -/
def Kind.mark : Kind → String
  | .invoice => "INV-"
  | .quote => "QUO-"
  | .order => "SO-"

/-- Text of a number: the mark and at least six digits. -/
def Kind.text (kind : Kind) (next : Nat) : String := kind.mark ++ Calendar.padded 6 next

/-- Row of a sequence table. -/
structure Sequence where
  kind : Kind
  organizationId : Nat
  nextNumber : Nat

/-- Numbered row of `invoices`, `quotes` or `service_orders`. -/
structure Document where
  kind : Kind
  organizationId : Option Nat
  number : String
  active : Bool

/-- `orgId ?? 0`. -/
def Document.bucket (row : Document) : Nat := row.organizationId.getD 0

/-- Tables. -/
structure Db where
  sequences : List Sequence
  documents : List Document

/-- What one statement changes. -/
inductive Write
  | seed (kind : Kind) (bucket : Nat)
  | advance (kind : Kind) (bucket next : Nat)
  | document (row : Document)

/-- Rows a transaction can lock. -/
inductive Key
  | sequence (kind : Kind) (bucket : Nat)
  | number (kind : Kind) (organizationId : Nat) (number : String)
  deriving DecidableEq

/-- Statements. -/
inductive Stmt
  /-- `INSERT IGNORE INTO organization_…_sequences (organization_id, next_number)`. -/
  | seed (kind : Kind) (bucket : Nat)
  /-- `UPDATE … next_number = LAST_INSERT_ID(next_number) + 1` and `SELECT LAST_INSERT_ID()`. -/
  | advance (kind : Kind) (bucket : Nat)
  /-- `INSERT` of a document: whether the unique key of its number let it in. -/
  | insertDocument (row : Document)

/-- Reply type of a statement. -/
@[reducible] def Stmt.Res : Stmt → Type
  | .seed .. => Unit
  | .advance .. => Nat
  | .insertDocument _ => Bool

def Sequence.isOf (kind : Kind) (bucket : Nat) (row : Sequence) : Bool :=
  decide (row.kind = kind ∧ row.organizationId = bucket)

/-- Sequence row of a kind and an organization. -/
def Db.sequence (db : Db) (kind : Kind) (bucket : Nat) : Option Sequence :=
  db.sequences.find? (Sequence.isOf kind bucket)

/-- Change the tables. -/
def Db.apply (db : Db) : Write → Db
  | .seed kind bucket => { db with sequences := db.sequences ++ [⟨kind, bucket, 1⟩] }
  | .advance kind bucket next =>
    { db with sequences := db.sequences.map fun row =>
        if row.isOf kind bucket then { row with nextNumber := next } else row }
  | .document row => { db with documents := db.documents ++ [row] }

/-- No row breaks the unique key of a new document; deleted rows are not in it. -/
def Db.accepts (db : Db) (new : Document) : Bool :=
  db.documents.all fun row =>
    !(new.organizationId.isSome && row.organizationId == new.organizationId &&
      row.kind == new.kind && row.number == new.number && row.active && new.active)

/-- Reply and changes of a statement. -/
def exec (db : Db) : (op : Stmt) → op.Res × List Write
  | .seed kind bucket =>
    ((), if (db.sequence kind bucket).isSome then [] else [.seed kind bucket])
  | .advance kind bucket =>
    match db.sequence kind bucket with
    | some row => (row.nextNumber, [.advance kind bucket (row.nextNumber + 1)])
    | none => (0, [])
  | .insertDocument row => if db.accepts row then (true, [.document row]) else (false, [])

/-- Rows a statement locks; `INSERT IGNORE` waits for another insert of the same key. -/
def locks : Stmt → Db → List Key
  | .seed kind bucket, db =>
    if (db.sequence kind bucket).isSome then [] else [.sequence kind bucket]
  | .advance kind bucket, _ => [.sequence kind bucket]
  | .insertDocument row, _ =>
    match row.organizationId with
    | some id => [.number row.kind id row.number]
    | none => []

/-- The sequences as a transactional engine. -/
def engine : Engine Db Write Key Stmt Stmt.Res where
  apply := Db.apply
  exec := fun op _ current _ => exec current op
  locks := locks
  snapshots := fun _ => false

/-- Questions outside the tables. -/
inductive Query
  /-- Does the rest of the transaction go through, as far as the next number or `COMMIT`? -/
  | proceeds

/-- Replies from outside. -/
@[reducible] def Query.Answer : Query → Type
  | .proceeds => Bool

/-- Programs on the sequences. -/
abbrev Program := Prog Stmt Stmt.Res Query Query.Answer

/-- The body the three functions share. -/
def nextNumber (kind : Kind) (organizationId : Option Nat) : Program String := do
  let _ ← Prog.send .conn (Stmt.seed kind (organizationId.getD 0))
  let next ← Prog.send .conn (Stmt.advance kind (organizationId.getD 0))
  pure (kind.text next)

def nextInvoiceNumber (organizationId : Option Nat) : Program String :=
  nextNumber .invoice organizationId

def nextQuoteNumber (organizationId : Option Nat) : Program String :=
  nextNumber .quote organizationId

def nextOrderNumber (organizationId : Option Nat) : Program String :=
  nextNumber .order organizationId

/-- A document a transaction inserts under a number it draws. -/
structure Draft where
  kind : Kind
  organizationId : Option Nat

def Draft.next (draft : Draft) : Program String :=
  match draft.kind with
  | .invoice => nextInvoiceNumber draft.organizationId
  | .quote => nextQuoteNumber draft.organizationId
  | .order => nextOrderNumber draft.organizationId

def Draft.document (draft : Draft) (number : String) : Document :=
  ⟨draft.kind, draft.organizationId, number, true⟩

/-- Insert a document under its number, after whatever else the transaction does first. -/
def insertDocument (draft : Draft) (number : String) : Program Bool := do
  let proceeds ← Prog.ask .proceeds
  if proceeds then Prog.send .conn (Stmt.insertDocument (draft.document number)) else pure false

/-- Draw the numbers and insert the documents; a failure ends it. -/
def insertDrafts : List Draft → Program Bool
  | [] => Prog.ask .proceeds
  | draft :: drafts => do
      let number ← draft.next
      let inserted ← insertDocument draft number
      if inserted then insertDrafts drafts else pure false

/-- A transaction that inserts documents under numbers it draws, and commits or rolls back. -/
def transaction (drafts : List Draft) : Program Bool := do
  Prog.begin
  let inserted ← insertDrafts drafts
  if inserted then
    Prog.commitNow
    pure true
  else
    Prog.rollbackNow
    pure false

/-- Transactions on the sequences. -/
abbrev System := Sys Db Write Key Stmt Stmt.Res Query Query.Answer Bool

end FireIsp.Numbering
