import Mathlib.Data.List.Basic

/-!
# Request programs over a transactional store

A request handler is a tree of SQL statements, transaction brackets and calls to
the outside world.  The store is abstract: an `Engine` says what one statement
returns and which row versions it writes, given what the statement can see.  A
locking or modifying statement works on the current state; a consistent read works
on the snapshot its transaction fixed at its first consistent read.
-/

namespace Txn

/-- Connection a statement is sent on: a fresh pooled one, or the transaction's own. -/
inductive Via
  | pool
  | conn
  deriving DecidableEq

/-- A request handler, statement by statement. -/
inductive Prog (Op : Type) (Res : Op → Type) (Query : Type) (Answer : Query → Type)
    (A : Type) : Type
  | done (value : A)
  /-- `BEGIN` on the handler's connection. -/
  | start (next : Prog Op Res Query Answer A)
  /-- `COMMIT` on the handler's connection. -/
  | commit (next : Prog Op Res Query Answer A)
  /-- `ROLLBACK` on the handler's connection. -/
  | rollback (next : Prog Op Res Query Answer A)
  | stmt (via : Via) (op : Op) (next : Res op → Prog Op Res Query Answer A)
  | call (query : Query) (next : Answer query → Prog Op Res Query Answer A)

namespace Prog

variable {Op : Type} {Res : Op → Type} {Query : Type} {Answer : Query → Type} {A B C : Type}

/-- Sequential composition. -/
def bind : Prog Op Res Query Answer A → (A → Prog Op Res Query Answer B) →
    Prog Op Res Query Answer B
  | done value, f => f value
  | start next, f => start (next.bind f)
  | commit next, f => commit (next.bind f)
  | rollback next, f => rollback (next.bind f)
  | stmt via op next, f => stmt via op fun r => (next r).bind f
  | call query next, f => call query fun r => (next r).bind f

instance : Monad (Prog Op Res Query Answer) where
  pure := done
  bind := bind

/-- One statement as a program. -/
@[simp] def send (via : Via) (op : Op) : Prog Op Res Query Answer (Res op) := stmt via op done

@[simp] def ask (query : Query) : Prog Op Res Query Answer (Answer query) := call query done

/-- `BEGIN` as a program. -/
@[simp] def begin : Prog Op Res Query Answer Unit := start (done ())

/-- `COMMIT` as a program. -/
@[simp] def commitNow : Prog Op Res Query Answer Unit := commit (done ())

/-- `ROLLBACK` as a program. -/
@[simp] def rollbackNow : Prog Op Res Query Answer Unit := rollback (done ())

@[simp] theorem pure_eq (value : A) :
    (pure value : Prog Op Res Query Answer A) = done value := rfl

section Bind

variable (next : Prog Op Res Query Answer A) (f : A → Prog Op Res Query Answer B)

@[simp] theorem done_bind (value : A) : (done value >>= f) = f value := rfl

@[simp] theorem start_bind : (start next >>= f) = start (next >>= f) := rfl

@[simp] theorem commit_bind : (commit next >>= f) = commit (next >>= f) := rfl

@[simp] theorem rollback_bind : (rollback next >>= f) = rollback (next >>= f) := rfl

@[simp] theorem stmt_bind (via : Via) (op : Op) (next : Res op → Prog Op Res Query Answer A) :
    (stmt via op next >>= f) = stmt via op fun r => next r >>= f := rfl

@[simp] theorem call_bind (query : Query) (next : Answer query → Prog Op Res Query Answer A) :
    (call query next >>= f) = call query fun r => next r >>= f := rfl

theorem bind_done (p : Prog Op Res Query Answer A) : (p >>= done) = p := by
  induction p with
  | done value => rfl
  | start next ih => exact congrArg start ih
  | commit next ih => exact congrArg commit ih
  | rollback next ih => exact congrArg rollback ih
  | stmt via op next ih => exact congrArg (stmt via op) (funext ih)
  | call query next ih => exact congrArg (call query) (funext ih)

end Bind

/-- Every statement the program can ever send satisfies `allowed`. -/
def Uses (allowed : Op → Prop) : Prog Op Res Query Answer A → Prop
  | done _ => True
  | start next => next.Uses allowed
  | commit next => next.Uses allowed
  | rollback next => next.Uses allowed
  | stmt _ op next => allowed op ∧ ∀ r, (next r).Uses allowed
  | call _ next => ∀ r, (next r).Uses allowed

theorem Uses.bind {allowed : Op → Prop} {p : Prog Op Res Query Answer A}
    {f : A → Prog Op Res Query Answer B} (hp : p.Uses allowed)
    (hf : ∀ value, (f value).Uses allowed) : (p >>= f).Uses allowed := by
  induction p with
  | done value => exact hf value
  | start next ih => exact ih hp
  | commit next ih => exact ih hp
  | rollback next ih => exact ih hp
  | stmt via op next ih => exact ⟨hp.1, fun r => ih r (hp.2 r)⟩
  | call query next ih => exact fun r => ih r (hp r)

theorem Uses.mono {allowed allowed' : Op → Prop} (h : ∀ op, allowed op → allowed' op)
    {p : Prog Op Res Query Answer A} (hp : p.Uses allowed) : p.Uses allowed' := by
  induction p with
  | done value => trivial
  | start next ih => exact ih hp
  | commit next ih => exact ih hp
  | rollback next ih => exact ih hp
  | stmt via op next ih => exact ⟨h op hp.1, fun r => ih r (hp.2 r)⟩
  | call query next ih => exact fun r => ih r (hp r)

theorem uses_true (p : Prog Op Res Query Answer A) : p.Uses fun _ => True := by
  induction p with
  | done value => trivial
  | start next ih => exact ih
  | commit next ih => exact ih
  | rollback next ih => exact ih
  | stmt via op next ih => exact ⟨trivial, ih⟩
  | call query next ih => exact ih

theorem Uses.send {allowed : Op → Prop} {via : Via} {op : Op} (h : allowed op) :
    (Prog.send via op : Prog Op Res Query Answer (Res op)).Uses allowed :=
  ⟨h, fun _ => trivial⟩

end Prog

/-- Meaning of the statements of one schema. -/
structure Engine (σ W K Op : Type) (Res : Op → Type) where
  apply : σ → W → σ
  /-- Reply and row versions, from the tick, the current state and the one consistent reads see. -/
  exec : (op : Op) → Nat → σ → σ → Res op × List W
  locks : Op → σ → List K
  snapshots : Op → Bool

/-- An open transaction. -/
structure Tx (σ W : Type) where
  /-- Committed state fixed by the first consistent read. -/
  view : Option σ
  /-- Row versions written so far, oldest first. -/
  writes : List W

/-- The transaction right after `BEGIN`. -/
def Tx.empty {σ W : Type} : Tx σ W := ⟨none, []⟩

namespace Engine

variable {σ W K Op : Type} {Res : Op → Type} (E : Engine σ W K Op Res)

/-- A state with further row versions stored. -/
def visible (db : σ) (writes : List W) : σ := writes.foldl E.apply db

/-- Committed state once the open transaction, if any, has committed. -/
def settled (db : σ) : Option (Tx σ W) → σ
  | none => db
  | some tx => E.visible db tx.writes

/-- The transaction once `op` has fixed its snapshot, if it reads one. -/
def fix (op : Op) (db : σ) (tx : Tx σ W) : Tx σ W :=
  if E.snapshots op then { tx with view := some (tx.view.getD db) } else tx

/-- What a current read of the transaction sees. -/
def current (db : σ) (tx : Tx σ W) : σ := E.visible db tx.writes

/-- What a consistent read of the transaction sees. -/
def snapshot (db : σ) (tx : Tx σ W) : σ := E.visible (tx.view.getD db) tx.writes

/-- Reply, committed state and transaction after one statement. -/
structure Reply (σ W : Type) (A : Type) where
  value : A
  db : σ
  tx : Option (Tx σ W)

/-- One statement: inside the open transaction on its connection, else committed at once. -/
def perform (via : Via) (op : Op) (tick : Nat) (db : σ) (tx : Option (Tx σ W)) :
    Reply σ W (Res op) :=
  match via, tx with
  | .conn, some tx =>
    let fixed := E.fix op db tx
    let r := E.exec op tick (E.current db tx) (E.snapshot db fixed)
    ⟨r.1, db, some { fixed with writes := tx.writes ++ r.2 }⟩
  | _, tx =>
    let r := E.exec op tick db db
    ⟨r.1, E.visible db r.2, tx⟩

@[simp] theorem visible_nil (db : σ) : E.visible db [] = db := rfl

@[simp] theorem visible_cons (db : σ) (w : W) (writes : List W) :
    E.visible db (w :: writes) = E.visible (E.apply db w) writes := rfl

@[simp] theorem visible_append (db : σ) (first second : List W) :
    E.visible db (first ++ second) = E.visible (E.visible db first) second :=
  List.foldl_append

@[simp] theorem settled_none (db : σ) : E.settled db none = db := rfl

@[simp] theorem settled_some (db : σ) (tx : Tx σ W) :
    E.settled db (some tx) = E.visible db tx.writes := rfl

@[simp] theorem fix_writes (op : Op) (db : σ) (tx : Tx σ W) :
    (E.fix op db tx).writes = tx.writes := by
  unfold fix
  split <;> rfl

@[simp] theorem snapshot_fix (op : Op) (db : σ) (tx : Tx σ W) :
    E.snapshot db (E.fix op db tx) = E.snapshot db tx := by
  unfold snapshot fix
  split <;> rfl

theorem visible_invariant {I : σ → Prop} {writes : List W}
    (h : ∀ db, ∀ w ∈ writes, I db → I (E.apply db w)) {db : σ} (hdb : I db) :
    I (E.visible db writes) := by
  induction writes generalizing db with
  | nil => exact hdb
  | cons w writes ih =>
    exact ih (fun db w hw => h db w (List.mem_cons_of_mem _ hw))
      (h db w List.mem_cons_self hdb)

end Engine

end Txn
