import FireIsp.Base.Guard
import FireIsp.Gateway.Webhook

/-!
# What a call does with one transaction

A call credits the transaction under its lock, or sets it to refunded and then reverses the credit
under its lock; with any other transaction it does as it likes.
-/

namespace FireIsp.Gateway

open Txn

/-- What a call knows of the transaction between two statements. -/
inductive Know
  | idle
  | marked
  | begun (due : Bool)
  | locked (due : Bool) (amount : Int)
  /-- It has looked for the credit to be reversed. -/
  | counted (amount : Int) (credited : Bool)
  | judged (amount : Int) (credited debited : Bool)
  | credited
  | debited
  | reversed
  | failed

/-- The reversal is still to come. -/
def Know.owes : Know → Bool
  | .marked => true
  | .begun due => due
  | .locked due _ => due
  | .counted .. => true
  | .judged .. => true
  | .debited => true
  | _ => false

/-- Statements that leave the credit of the transaction alone are sent on this connection. -/
def Know.admits (via : Via) : Know → Bool
  | .idle => decide (via = .pool)
  | .marked => decide (via = .pool)
  | .reversed => decide (via = .pool)
  | .begun due => decide (via = .conn) && !due
  | .locked due _ => decide (via = .conn) && !due
  | .judged .. => decide (via = .conn)
  | _ => false

/-- The statement neither writes a ledger entry of the transaction nor sets its status. -/
def Stmt.spares (t : Nat) : Stmt → Bool
  | .insertEntry row => !row.isOf t
  | .setStatus id _ => decide (id ≠ t)
  | .markRefunded id _ => decide (id ≠ t)
  | _ => true

def LedgerEntry.isEntry (t : Nat) (entryType : EntryType) (amount : Int) (row : LedgerEntry) :
    Bool :=
  row.isOf t && decide (row.entryType = entryType ∧ row.amount = amount)

/-- What a call learns from a lock. -/
def locking (t : Nat) (due : Bool) (id : Nat) : Option Transaction → Know
  | some row =>
    if row.id ≠ id then .failed
    else if id = t then .locked due row.amount
    else .begun due
  | none => if id = t then .failed else .begun due

/-- What a call knows before it reverses a transaction. -/
def beforeReversal (t id : Nat) : Know := if id = t then .marked else .idle

/-- What a call knows once it has set a status. -/
def afterStatus (t id : Nat) (status : GatewayStatus) : Know :=
  if status = .refunded then beforeReversal t id else .idle

/-- Statements a call may send, and what it knows from the reply. -/
def sent (t : Nat) (know : Know) (via : Via) (op : Stmt) : Option (op.Res → Know) :=
  match know, via, op with
  | .failed, _, _ => some fun _ => .failed
  | .idle, .pool, .setStatus id status => some fun _ => afterStatus t id status
  | .idle, .pool, .markRefunded id _ => some fun _ => beforeReversal t id
  | .begun due, .conn, .lockTransaction id => some (locking t due id)
  | .locked true amount, .conn, .selectEntry id .credit =>
    if id = t then some fun credited => .counted amount credited else none
  | .counted amount credited, .conn, .selectEntry id .debit =>
    if id = t then some fun debited => .judged amount credited debited else none
  | .locked false amount, .conn, .insertEntry row =>
    if row.isEntry t .credit amount then
      some fun written => if written then .credited else .locked false amount
    else none
  | .judged amount true false, .conn, .insertEntry row =>
    if row.isEntry t .debit amount then
      some fun written => if written then .debited else .failed
    else none
  | know, via, op => if op.spares t && know.admits via then some fun _ => know else none

/-- What a statement that was sent is for. -/
inductive Sends (t : Nat) : Know → Via → (op : Stmt) → (op.Res → Know) → Prop
  | failed (via op) : Sends t .failed via op fun _ => .failed
  | status (id status) :
      Sends t .idle .pool (.setStatus id status) fun _ => afterStatus t id status
  | refunded (id reference) :
      Sends t .idle .pool (.markRefunded id reference) fun _ => beforeReversal t id
  | lock (due id) : Sends t (.begun due) .conn (.lockTransaction id) (locking t due id)
  | count (amount) :
      Sends t (.locked true amount) .conn (.selectEntry t .credit) fun found =>
        .counted amount found
  | judge (amount found) :
      Sends t (.counted amount found) .conn (.selectEntry t .debit) fun reversal =>
        .judged amount found reversal
  | credit (amount row) (hrow : row.isEntry t .credit amount = true) :
      Sends t (.locked false amount) .conn (.insertEntry row) fun written =>
        if written then .credited else .locked false amount
  | debit (amount row) (hrow : row.isEntry t .debit amount = true) :
      Sends t (.judged amount true false) .conn (.insertEntry row) fun written =>
        if written then .debited else .failed
  | spare (know via op) (hspares : op.spares t = true) (hadmits : know.admits via = true) :
      Sends t know via op fun _ => know

theorem sent_sends {t : Nat} {know : Know} {via : Via} {op : Stmt} {learn : op.Res → Know}
    (h : sent t know via op = some learn) : Sends t know via op learn := by
  unfold sent at h
  split at h
  · cases h
    exact .failed _ _
  · cases h
    exact .status _ _
  · cases h
    exact .refunded _ _
  · cases h
    exact .lock _ _
  · simp only [Option.ite_none_right_eq_some, Option.some.injEq] at h
    obtain ⟨rfl, rfl⟩ := h
    exact .count _
  · simp only [Option.ite_none_right_eq_some, Option.some.injEq] at h
    obtain ⟨rfl, rfl⟩ := h
    exact .judge _ _
  · simp only [Option.ite_none_right_eq_some, Option.some.injEq] at h
    obtain ⟨hrow, rfl⟩ := h
    exact .credit _ _ hrow
  · simp only [Option.ite_none_right_eq_some, Option.some.injEq] at h
    obtain ⟨hrow, rfl⟩ := h
    exact .debit _ _ hrow
  · simp only [Option.ite_none_right_eq_some, Option.some.injEq, Bool.and_eq_true] at h
    obtain ⟨⟨hspares, hadmits⟩, rfl⟩ := h
    exact .spare _ _ _ hspares hadmits

/-- What a call knows once a function has raised or not; a reversal that raises is given up. -/
def Know.heard (know : Know) (caller : Caller) (raised : Bool) : Know :=
  if caller = .reverseRefund ∧ raised = true ∧ know.owes = true then .reversed else know

/-- `BEGIN`. -/
def Know.started : Know → Option Know
  | .idle => some (.begun false)
  | .marked => some (.begun true)
  | .failed => some .failed
  | _ => none

/-- `COMMIT`. -/
def Know.committed : Know → Option Know
  | .begun false => some .idle
  | .credited => some .idle
  | .judged _ found reversal => if found = false ∨ reversal = true then some .reversed else none
  | .debited => some .reversed
  | .failed => some .failed
  | _ => none

/-- `ROLLBACK`. -/
def Know.rolledBack : Know → Option Know
  | .idle => some .idle
  | .begun false => some .idle
  | .locked false _ => some .idle
  | .credited => some .idle
  | .reversed => some .reversed
  | .failed => some .failed
  | _ => none

/-- The discipline of the calls. -/
def discipline (t : Nat) : Discipline Know Stmt Stmt.Res Query Query.Answer where
  started := Know.started
  committed := Know.committed
  rolledBack := Know.rolledBack
  sent := sent t
  asked
    | know, .raises caller _ => some (know.heard caller)
    | know, _ => some fun _ => know

variable {t : Nat} {know : Know}

/-- The program keeps to the discipline and ends with `post`. -/
abbrev Keeps (t : Nat) (know : Know) {A : Type} (p : Program A) (post : A → Know → Prop) : Prop :=
  p.Follows (discipline t) know post

theorem keeps_failed {A : Type} {post : A → Know → Prop} (h : ∀ value, post value .failed)
    (p : Program A) : Keeps t .failed p post := by
  induction p with
  | done value => exact h value
  | start next ih => exact ⟨_, rfl, ih⟩
  | commit next ih => exact ⟨_, rfl, ih⟩
  | rollback next ih => exact ⟨_, rfl, ih⟩
  | stmt via op next ih => exact ⟨fun _ => .failed, rfl, ih⟩
  | call query next ih =>
    refine ⟨fun _ => .failed, ?_, ih⟩
    cases query with
    | raises caller point =>
      refine congrArg some (funext fun raised => ?_)
      simp [Know.heard, Know.owes]
    | _ => rfl

theorem Know.heard_false (know : Know) (caller : Caller) : know.heard caller false = know :=
  if_neg (by simp)

variable {caller : Caller}

theorem keeps_attempt {point : Point} {via : Via} {op : Stmt} {post : Option op.Res → Know → Prop}
    {learn : op.Res → Know} (hsent : sent t know via op = some learn)
    (hraised : post none (know.heard caller true)) (hreply : ∀ r, post (some r) (learn r)) :
    Keeps t know (attempt caller point via op) post := by
  refine ⟨know.heard caller, rfl, fun raised => ?_⟩
  cases raised with
  | true => exact hraised
  | false =>
    rw [know.heard_false caller]
    exact ⟨learn, hsent, hreply⟩

variable {know' : Know}

theorem keeps_attemptBegin {post : Bool → Know → Prop} (hstarted : know.started = some know')
    (hraised : post false (know.heard caller true)) (hbegan : post true know') :
    Keeps t know (attemptBegin caller) post := by
  refine ⟨know.heard caller, rfl, fun raised => ?_⟩
  cases raised with
  | true => exact hraised
  | false =>
    rw [know.heard_false caller]
    exact ⟨know', hstarted, hbegan⟩

theorem keeps_attemptCommit {post : Option Unit → Know → Prop}
    (hcommitted : know.committed = some know') (hraised : post none (know.heard caller true))
    (hdone : post (some ()) know') :
    Keeps t know (attemptCommit caller) post := by
  refine ⟨know.heard caller, rfl, fun raised => ?_⟩
  cases raised with
  | true => exact hraised
  | false =>
    rw [know.heard_false caller]
    exact ⟨know', hcommitted, hdone⟩

theorem keeps_attemptRollback {post : Bool → Know → Prop} (howes : know.owes = false)
    (hrolledBack : know.rolledBack = some know') (hdone : ∀ returned, post returned know') :
    Keeps t know (attemptRollback caller) post := by
  refine ⟨know.heard caller, rfl, fun raised => ?_⟩
  have hheard : know.heard caller raised = know := if_neg (by simp [howes])
  rw [hheard]
  exact ⟨know', hrolledBack, hdone _⟩

/-- What a call knows when its part with the transaction is over. -/
def Over (last know : Know) : Prop := know = last ∨ know = .failed

def Body (last : Know) (ended : Option Unit) (know : Know) : Prop :=
  if ended = some () then Over last know
  else know.owes = false ∧ ∃ know', know.rolledBack = some know' ∧ Over last know'

variable {last : Know}

theorem body_none (howes : know.owes = false) (hrolledBack : know.rolledBack = some know')
    (hover : Over last know') :
    Body last none know :=
  ⟨howes, know', hrolledBack, hover⟩

theorem body_failed (ended : Option Unit) : Body last ended .failed := by
  cases ended with
  | none => exact body_none rfl rfl (Or.inr rfl)
  | some ended => exact Or.inr rfl

theorem keeps_inTransaction {body : Program (Option Unit)} (hstarted : know.started = some know')
    (hraised : Body last none (know.heard caller true))
    (hconnect : Over last (know.heard caller true)) (hbody : Keeps t know' body (Body last)) :
    Keeps t know (inTransaction caller body) fun _ know => Over last know := by
  have hcaught : ∀ ended know, Body last ended know →
      Keeps t know (caught caller ended) fun _ know => Over last know := by
    intro ended know hended
    cases ended with
    | none =>
      obtain ⟨howes, know'', hrolledBack, hover⟩ := hended
      exact keeps_attemptRollback howes hrolledBack fun _ => hover
    | some ended => exact hended
  refine ⟨know.heard caller, rfl, fun raised => ?_⟩
  cases raised with
  | true => exact hconnect
  | false =>
    rw [know.heard_false caller]
    have hbegin : Keeps t know (attemptBegin caller) fun began know =>
        Keeps t know (bodyIf body began) (Body last) :=
      keeps_attemptBegin hstarted hraised hbody
    change Keeps t know (attemptBegin caller >>= fun began =>
      bodyIf body began >>= fun ended => caught caller ended) _
    exact hbegin.bind fun began know hbegan => hbegan.bind hcaught

/-- A transaction of the reconciliation of `tx`. -/
def Reconciling (t : Nat) (tx : Transaction) (know : Know) : Prop :=
  tx.id ≠ t ∧ know = .begun false ∨ tx.id = t ∧ know = .locked false tx.amount

variable {tx : Transaction}

theorem Reconciling.body_none (h : Reconciling t tx know) :
    Body .idle none know := by
  rcases h with ⟨-, rfl⟩ | ⟨-, rfl⟩
  · exact Gateway.body_none rfl rfl (Or.inl rfl)
  · exact Gateway.body_none rfl rfl (Or.inl rfl)

theorem keeps_rollbackReturn (howes : know.owes = false)
    (hrolledBack : know.rolledBack = some know') (hover : Over last know')
    (hagain : Body last none know') : Keeps t know (rollbackReturn caller) (Body last) := by
  have hrollback : Keeps t know (attemptRollback caller) fun _ know => know = know' :=
    keeps_attemptRollback howes hrolledBack fun _ => rfl
  refine hrollback.bind fun returned know hknow => ?_
  subst hknow
  cases returned with
  | true => exact hover
  | false => exact hagain

theorem keeps_chooseInvoice (h : Reconciling t tx know) :
    Keeps t know (chooseInvoice tx) fun _ know => Reconciling t tx know := by
  have hheard : know.heard .reconcilePayment true = know := if_neg (by simp)
  have hlock : ∀ op : Stmt, sent t know .conn op = some (fun _ => know) →
      Keeps t know (attempt .reconcilePayment .lockInvoice .conn op)
        fun _ know => Reconciling t tx know :=
    fun op hsent => keeps_attempt hsent (hheard.symm ▸ h) fun _ => h
  unfold chooseInvoice
  split
  · refine (hlock _ ?_).bind fun _ know h => h
    rcases h with ⟨-, rfl⟩ | ⟨-, rfl⟩ <;> rfl
  · refine (hlock _ ?_).bind fun oldest know h => ?_
    · rcases h with ⟨-, rfl⟩ | ⟨-, rfl⟩ <;> rfl
    · rcases oldest with _ | _ | invoice
      · exact h
      · exact h
      · have hnear : Keeps t know (withinTolerance tx.amount invoice.total)
            fun _ know => Reconciling t tx know := by
          unfold withinTolerance
          split_ifs
          · exact ⟨fun _ => know, rfl, fun _ => h⟩
          · exact h
        exact hnear.bind fun _ know h => h

theorem keeps_markSettled {choice : Choice} (h : Reconciling t tx know) :
    Keeps t know (markSettled tx choice) fun _ know => Reconciling t tx know := by
  have hheard : know.heard .reconcilePayment true = know := if_neg (by simp)
  have hsend : ∀ (point : Point) (op : Stmt), sent t know .conn op = some (fun _ => know) →
      Keeps t know (attempt .reconcilePayment point .conn op)
        fun _ know' => know' = know :=
    fun point op hsent => keeps_attempt hsent hheard fun _ => rfl
  unfold markSettled
  split
  · refine (hsend .markPaid _ ?_).bind fun marked know' hknow => ?_
    · rcases h with ⟨-, rfl⟩ | ⟨-, rfl⟩ <;> rfl
    · subst hknow
      cases marked with
      | none => exact h
      | some marked =>
        refine (hsend .setSettled _ ?_).mono fun _ know hknow => hknow ▸ h
        rcases h with ⟨-, rfl⟩ | ⟨-, rfl⟩ <;> rfl
  · exact h

theorem isEntry_entry (tx : Transaction) (entryType : EntryType) (description : String) :
    (tx.entry entryType description).isEntry tx.id entryType tx.amount = true := by
  simp [LedgerEntry.isEntry, LedgerEntry.isOf, Transaction.entry]

theorem spares_entry (h : tx.id ≠ t) (entryType : EntryType) (description : String) :
    (Stmt.insertEntry (tx.entry entryType description)).spares t = true := by
  simp [Stmt.spares, LedgerEntry.isOf, Transaction.entry, h]

theorem keeps_creditSettled {settled : Option Unit} (h : Reconciling t tx know) :
    Keeps t know (creditSettled tx settled) (Body .idle) := by
  cases settled with
  | none => exact h.body_none
  | some settled =>
    have hinsert : Keeps t know
        (attempt .reconcilePayment .insertEntry .conn (.insertEntry tx.creditEntry))
        fun written know => Body .idle none know ∧
          (written = some true → know.committed = some .idle) := by
      have hheard : know.heard .reconcilePayment true = know := if_neg (by simp)
      rcases h with ⟨hid, rfl⟩ | ⟨rfl, rfl⟩
      · have hsent : sent t (.begun false) .conn (.insertEntry tx.creditEntry) =
            some fun _ => .begun false :=
          if_pos (by simp [Transaction.creditEntry, spares_entry hid, Know.admits])
        have hbody : Body .idle none (.begun false) := body_none rfl rfl (Or.inl rfl)
        exact keeps_attempt hsent ⟨hbody, nofun⟩ fun _ => ⟨hbody, fun _ => rfl⟩
      · have hsent : sent tx.id (.locked false tx.amount) .conn (.insertEntry tx.creditEntry) =
            some fun written => if written then .credited else .locked false tx.amount :=
          if_pos (isEntry_entry tx .credit _)
        refine keeps_attempt hsent ⟨body_none rfl rfl (Or.inl rfl), nofun⟩ fun written => ?_
        cases written with
        | true => exact ⟨body_none rfl rfl (Or.inl rfl), fun _ => rfl⟩
        | false => exact ⟨body_none rfl rfl (Or.inl rfl), fun hwritten => by cases hwritten⟩
    refine hinsert.bind fun written know hwritten => ?_
    split_ifs with hdone
    · have hheard : know.heard .reconcilePayment true = know := if_neg (by simp)
      exact keeps_attemptCommit (hwritten.2 hdone) (hheard.symm ▸ hwritten.1) (Or.inl rfl)
    · exact hwritten.1

/-- What a call knows once it has tried to lock a row. -/
inductive Locking (t : Nat) (caller : Caller) (due : Bool) (id : Nat) :
    Option (Option Transaction) → Know → Prop
  | failed (locked) : Locking t caller due id locked .failed
  | raised : Locking t caller due id none ((Know.begun due).heard caller true)
  | missing (hid : id ≠ t) : Locking t caller due id (some none) (.begun due)
  | other (row : Transaction) (hrow : row.id = id) (hid : row.id ≠ t) :
      Locking t caller due id (some (some row)) (.begun due)
  | own (row : Transaction) (hrow : row.id = id) (hid : row.id = t) :
      Locking t caller due id (some (some row)) (.locked due row.amount)

theorem keeps_lockTransaction {due : Bool} (id : Nat) :
    Keeps t (.begun due) (attempt caller .lockTransaction .conn (.lockTransaction id))
      (Locking t caller due id) := by
  refine keeps_attempt rfl .raised fun locked => ?_
  cases locked with
  | none =>
    simp only [locking]
    split_ifs with hid
    · exact .failed _
    · exact .missing hid
  | some row =>
    simp only [locking]
    split_ifs with hrow hid
    · exact .failed _
    · exact .own row (not_not.mp hrow) ((not_not.mp hrow).trans hid)
    · exact .other row (not_not.mp hrow) fun h => hid ((not_not.mp hrow).symm.trans h)

theorem keeps_settleChoice {choice : Option Choice} (h : Reconciling t tx know) :
    Keeps t know (settleChoice tx choice) (Body .idle) := by
  cases choice with
  | none => exact h.body_none
  | some choice =>
    simp only [settleChoice]
    split_ifs with hcredit
    · exact (keeps_markSettled h).bind fun settled know h => keeps_creditSettled h
    · have hagain : Body .idle none .idle := body_none rfl rfl (Or.inl rfl)
      rcases h with ⟨-, rfl⟩ | ⟨-, rfl⟩
      · exact keeps_rollbackReturn rfl rfl (Or.inl rfl) hagain
      · exact keeps_rollbackReturn rfl rfl (Or.inl rfl) hagain

theorem keeps_reconcilePayment (id : Nat) :
    Keeps t .idle (reconcilePayment id) fun _ know => Over .idle know := by
  refine keeps_inTransaction rfl (body_none rfl rfl (Or.inl rfl)) (Or.inl rfl) ?_
  have hchosen : ∀ (tx : Transaction) (know : Know), Reconciling t tx know →
      Keeps t know (reconcileLocked (some (some tx))) (Body .idle) := fun tx know h =>
    (keeps_chooseInvoice h).bind fun choice know h => keeps_settleChoice h
  refine (keeps_lockTransaction id).bind fun locked know hlocked => ?_
  cases hlocked with
  | failed => exact keeps_failed body_failed _
  | raised => exact body_none rfl rfl (Or.inl rfl)
  | missing => exact keeps_rollbackReturn rfl rfl (Or.inl rfl) (body_none rfl rfl (Or.inl rfl))
  | other row hrow hid => exact hchosen row _ (Or.inl ⟨hid, rfl⟩)
  | own row hrow hid => exact hchosen row _ (Or.inr ⟨hid, rfl⟩)

/-- A transaction of the reversal of `tx`, once it was counted. -/
def Reversing (t : Nat) (tx : Transaction) (credited reversed : Bool) (know : Know) : Prop :=
  tx.id ≠ t ∧ know = .begun false ∨ tx.id = t ∧ know = .judged tx.amount credited reversed

/-- What a call knows when the reversal of a transaction is over. -/
def afterReversal (t id : Nat) : Know := if id = t then .reversed else .idle

theorem Reversing.body_heard {credited reversed : Bool}
    (h : Reversing t tx credited reversed know) :
    Body (afterReversal t tx.id) none (know.heard .reverseRefund true) := by
  rcases h with ⟨hid, rfl⟩ | ⟨hid, rfl⟩
  · exact body_none rfl rfl (Or.inl (if_neg hid).symm)
  · exact body_none rfl rfl (Or.inl (if_pos hid).symm)

theorem keeps_writeDebit (h : Reversing t tx true false know) :
    Keeps t know (writeEntry .reverseRefund tx.debitEntry) (Body (afterReversal t tx.id)) := by
  have hinsert : Keeps t know
      (attempt .reverseRefund .insertEntry .conn (.insertEntry tx.debitEntry))
      fun written know => know = .failed ∨
        Body (afterReversal t tx.id) none (know.heard .reverseRefund true) ∧
          (written = some true → know.committed = some (afterReversal t tx.id)) ∧
          (written ≠ some true → Body (afterReversal t tx.id) none know) := by
    have hheard := h.body_heard
    rcases h with ⟨hid, rfl⟩ | ⟨rfl, rfl⟩
    · have hsent : sent t (.begun false) .conn (.insertEntry tx.debitEntry) =
          some fun _ => .begun false :=
        if_pos (by simp [Transaction.debitEntry, spares_entry hid, Know.admits])
      have hcommitted : (Know.begun false).committed = some (afterReversal t tx.id) :=
        congrArg some (if_neg hid).symm
      exact keeps_attempt hsent (Or.inr ⟨hheard, nofun, fun _ => hheard⟩) fun _ =>
        Or.inr ⟨hheard, fun _ => hcommitted, fun _ => hheard⟩
    · have hsent : sent tx.id (.judged tx.amount true false) .conn (.insertEntry tx.debitEntry) =
          some fun written => if written then .debited else .failed :=
        if_pos (isEntry_entry tx .debit _)
      have hcommitted : Know.debited.committed = some (afterReversal tx.id tx.id) :=
        congrArg some (if_pos rfl).symm
      refine keeps_attempt hsent (Or.inr ⟨hheard, nofun, fun _ => hheard⟩) fun written => ?_
      cases written with
      | true => exact Or.inr ⟨hheard, fun _ => hcommitted, fun h => absurd rfl h⟩
      | false => exact Or.inl rfl
  refine hinsert.bind fun written know hwritten => ?_
  rcases hwritten with rfl | ⟨hheard, hwritten, hnot⟩
  · exact keeps_failed body_failed _
  · split_ifs with hdone
    · exact keeps_attemptCommit (hwritten hdone) hheard (Or.inl rfl)
    · exact hnot hdone

theorem keeps_reopenSettled (h : Reversing t tx true false know) :
    Keeps t know (reopenSettled tx) fun reopened know =>
      if reopened = none then Body (afterReversal t tx.id) none know
      else Reversing t tx true false know := by
  unfold reopenSettled
  split
  · have hsent : ∀ id, sent t know .conn (.reopen id) = some fun _ => know := by
      rcases h with ⟨-, rfl⟩ | ⟨-, rfl⟩ <;> exact fun _ => rfl
    exact keeps_attempt (hsent _) h.body_heard fun _ => h
  · exact h

theorem keeps_reverseCounted {credited reversed : Bool}
    (h : Reversing t tx credited reversed know) :
    Keeps t know (reverseCounted tx (some credited) (some reversed))
      (Body (afterReversal t tx.id)) := by
  simp only [reverseCounted]
  split_ifs with hnothing
  · refine keeps_attemptCommit ?_ h.body_heard (Or.inl rfl)
    rcases h with ⟨hid, rfl⟩ | ⟨hid, rfl⟩
    · exact congrArg some (if_neg hid).symm
    · rw [Know.committed, if_pos hnothing, afterReversal, if_pos hid]
  · obtain ⟨rfl, rfl⟩ : credited = true ∧ reversed = false := by simpa using hnothing
    refine (keeps_reopenSettled h).bind fun reopened know hreopened => ?_
    cases reopened with
    | none => exact hreopened
    | some reopened => exact keeps_writeDebit hreopened

theorem keeps_reverseLocked
    (h : tx.id ≠ t ∧ know = .begun false ∨ tx.id = t ∧ know = .locked true tx.amount) :
    Keeps t know (reverseLocked (some (some tx))) (Body (afterReversal t tx.id)) := by
  rcases h with ⟨hid, rfl⟩ | ⟨rfl, rfl⟩
  · have hsent : ∀ entryType, sent t (.begun false) .conn (.selectEntry tx.id entryType) =
        some fun _ => .begun false := by
      intro entryType
      cases entryType <;> rfl
    have hheard : Body (afterReversal t tx.id) none (.begun false) :=
      body_none rfl rfl (Or.inl (if_neg hid).symm)
    have hselect : ∀ point entryType, Keeps t (.begun false)
        (attempt .reverseRefund point .conn (.selectEntry tx.id entryType))
        fun _ know => know = .begun false :=
      fun point entryType => keeps_attempt (hsent entryType) rfl fun _ => rfl
    refine (hselect .selectCredit .credit).bind fun credited know hknow => ?_
    subst hknow
    cases credited with
    | none => exact hheard
    | some credited =>
      refine (hselect .selectDebit .debit).bind fun reversed know hknow => ?_
      subst hknow
      cases reversed with
      | none => exact hheard
      | some reversed => exact keeps_reverseCounted (Or.inl ⟨hid, rfl⟩)
  · have hheard : Body (afterReversal tx.id tx.id) none .reversed :=
      body_none rfl rfl (Or.inl (if_pos rfl).symm)
    have hcredit : sent tx.id (.locked true tx.amount) .conn (.selectEntry tx.id .credit) =
        some fun credited => .counted tx.amount credited := if_pos rfl
    have hfirst : Keeps tx.id (.locked true tx.amount)
        (attempt .reverseRefund .selectCredit .conn (.selectEntry tx.id .credit))
        fun credited know => credited = none ∧ know = .reversed ∨
          ∃ found, credited = some found ∧ know = .counted tx.amount found :=
      keeps_attempt hcredit (Or.inl ⟨rfl, rfl⟩) fun found => Or.inr ⟨found, rfl, rfl⟩
    refine hfirst.bind fun credited know hcredited => ?_
    rcases hcredited with ⟨rfl, rfl⟩ | ⟨credited, rfl, rfl⟩
    · exact hheard
    · have hdebit : sent tx.id (.counted tx.amount credited) .conn (.selectEntry tx.id .debit) =
          some fun reversed => .judged tx.amount credited reversed := if_pos rfl
      have hsecond : Keeps tx.id (.counted tx.amount credited)
          (attempt .reverseRefund .selectDebit .conn (.selectEntry tx.id .debit))
          fun reversed know => reversed = none ∧ know = .reversed ∨
            ∃ found, reversed = some found ∧ know = .judged tx.amount credited found :=
        keeps_attempt hdebit (Or.inl ⟨rfl, rfl⟩) fun found => Or.inr ⟨found, rfl, rfl⟩
      refine hsecond.bind fun reversed know hreversed => ?_
      rcases hreversed with ⟨rfl, rfl⟩ | ⟨reversed, rfl, rfl⟩
      · exact hheard
      · exact keeps_reverseCounted (Or.inr ⟨rfl, rfl⟩)

theorem keeps_reverseRefund (id : Nat) :
    Keeps t (beforeReversal t id) (reverseRefund id) fun _ know =>
      Over (afterReversal t id) know := by
  by_cases hid : id = t
  · have hbefore : beforeReversal t id = .marked := if_pos hid
    have hafter : afterReversal t id = .reversed := if_pos hid
    rw [hbefore, hafter]
    refine keeps_inTransaction rfl (body_none rfl rfl (Or.inl rfl)) (Or.inl rfl) ?_
    refine (keeps_lockTransaction id).bind fun locked know hlocked => ?_
    cases hlocked with
    | failed => exact keeps_failed body_failed _
    | raised => exact body_none rfl rfl (Or.inl rfl)
    | missing hother => exact absurd hid hother
    | other row hrow hother => exact absurd (hrow.trans hid) hother
    | own row hrow hown =>
      rw [← hafter, ← hrow]
      exact keeps_reverseLocked (Or.inr ⟨hown, rfl⟩)
  · have hbefore : beforeReversal t id = .idle := if_neg hid
    have hafter : afterReversal t id = .idle := if_neg hid
    rw [hbefore, hafter]
    have hnone : Body .idle none .idle := body_none rfl rfl (Or.inl rfl)
    refine keeps_inTransaction rfl hnone (Or.inl rfl) ?_
    refine (keeps_lockTransaction id).bind fun locked know hlocked => ?_
    cases hlocked with
    | failed => exact keeps_failed body_failed _
    | raised => exact body_none rfl rfl (Or.inl rfl)
    | missing hother => exact keeps_rollbackReturn rfl rfl (Or.inl rfl) hnone
    | own row hrow hown => exact absurd (hrow.symm.trans hown) hid
    | other row hrow hother =>
      rw [← hafter, ← hrow]
      exact keeps_reverseLocked (Or.inl ⟨hother, rfl⟩)

/-- A call owes a reversal only if it throws, and answers a refund once nothing is left to reverse. -/
def Ends (t : Nat) (handled : Handled) (know : Know) : Prop :=
  (know.owes = true → handled = .thrown) ∧
    (handled = .refunded t ∨ handled = .processed t .refunded → know = .reversed ∨ know = .failed)

/-- What a call knows once it has followed a status up. -/
def afterFollowUp (t id : Nat) (status : GatewayStatus) : Know :=
  if status = .refunded then afterReversal t id else .idle

theorem keeps_followUp (id : Nat) (status : GatewayStatus) :
    Keeps t (afterStatus t id status) (followUp id status) fun _ know =>
      Over (afterFollowUp t id status) know := by
  cases status with
  | succeeded =>
    refine (keeps_reconcilePayment id).bind fun returned know hover => ?_
    rcases hover with rfl | rfl
    · unfold cancelAfter
      split_ifs
      · have hcancel : Keeps t .idle (attempt .handleWebhookEvent .cancelRetries .pool
            (.cancelRetries (.ofTransaction id))) fun _ know => know = .idle :=
          keeps_attempt rfl rfl fun _ => rfl
        exact hcancel.bind fun _ know hknow => Or.inl hknow
      · exact Or.inl rfl
    · exact keeps_failed (fun _ => Or.inr rfl) _
  | refunded => exact keeps_reverseRefund id
  | disputed => exact ⟨fun _ => .idle, rfl, fun _ => Or.inl rfl⟩
  | pending => exact Or.inl rfl
  | failed => exact Or.inl rfl
  | cancelled => exact Or.inl rfl

theorem ends_failed (handled : Handled) : Ends t handled .failed := ⟨nofun, fun _ => Or.inr rfl⟩

theorem ends_thrown (know : Know) : Ends t .thrown know := ⟨fun _ => rfl, by simp⟩

/-- How the `try` block of an event ends. -/
def Tried (t : Nat) (handled : Option Handled) (know : Know) : Prop :=
  Ends t (handled.getD .thrown) know ∧ (know.admits .pool = true ∨ know = .failed)

theorem tried_none (h : know.admits .pool = true) : Tried t none know :=
  ⟨ends_thrown know, Or.inl h⟩

theorem tried_failed (handled : Option Handled) : Tried t handled .failed :=
  ⟨ends_failed _, Or.inr rfl⟩

theorem tried_idle {handled : Handled}
    (h : handled ≠ .refunded t ∧ handled ≠ .processed t .refunded) :
    Tried t (some handled) .idle :=
  ⟨⟨nofun, fun hrefund => absurd hrefund (not_or.mpr h)⟩, Or.inl rfl⟩

theorem admits_afterStatus (id : Nat) (status : GatewayStatus) :
    (afterStatus t id status).admits .pool = true := by
  unfold afterStatus beforeReversal
  split_ifs <;> rfl

theorem keeps_linkEvent (id : Nat) (status : GatewayStatus) (linked : Option Unit) :
    Keeps t (afterStatus t id status) (linkEvent id status linked) (Tried t) := by
  cases linked with
  | none => exact tried_none (admits_afterStatus id status)
  | some linked =>
    refine (keeps_followUp id status).bind fun returned know hover => ?_
    rcases hover with rfl | rfl
    · cases returned with
      | false =>
        refine tried_none ?_
        unfold afterFollowUp afterReversal
        split_ifs <;> rfl
      | true =>
        change Tried t (some (.processed id status)) _
        by_cases hrefund : status = .refunded ∧ id = t
        · obtain ⟨rfl, rfl⟩ := hrefund
          have hknow : afterFollowUp id id .refunded = .reversed := by
            simp [afterFollowUp, afterReversal]
          rw [hknow]
          exact ⟨⟨nofun, fun _ => Or.inl rfl⟩, Or.inl rfl⟩
        · have hknow : afterFollowUp t id status = .idle := by
            unfold afterFollowUp afterReversal
            split_ifs with hstatus hid
            · exact absurd ⟨hstatus, hid⟩ hrefund
            · rfl
            · rfl
          rw [hknow]
          refine tried_idle ⟨nofun, fun heq => hrefund ?_⟩
          cases heq
          exact ⟨rfl, rfl⟩
    · exact tried_failed _

theorem keeps_processMatched (webhookEventId : Nat) (status : GatewayStatus)
    (matched : Option (Option Transaction)) :
    Keeps t .idle (processMatched webhookEventId status matched) (Tried t) := by
  rcases matched with _ | _ | tx
  · exact tried_none rfl
  · have hmark : Keeps t .idle (attempt .handleWebhookEvent .markEvent .pool
        (.markEvent webhookEventId .failed none)) fun _ know => know = .idle :=
      keeps_attempt rfl rfl fun _ => rfl
    refine hmark.bind fun marked know hknow => ?_
    subst hknow
    cases marked with
    | none => exact tried_none rfl
    | some marked => exact tried_idle ⟨nofun, nofun⟩
  · have hset : Keeps t .idle (attempt .handleWebhookEvent .setStatus .pool
        (.setStatus tx.id status)) fun set know =>
          if set = none then know = .idle else know = afterStatus t tx.id status :=
      keeps_attempt rfl rfl fun _ => rfl
    refine hset.bind fun set know hset => ?_
    cases set with
    | none => exact tried_none (by rw [show know = .idle from hset]; rfl)
    | some set =>
      obtain rfl : know = afterStatus t tx.id status := hset
      have hsent : sent t (afterStatus t tx.id status) .pool
          (.markEvent webhookEventId .processed (some tx.id)) =
            some fun _ => afterStatus t tx.id status := by
        unfold afterStatus beforeReversal
        split_ifs <;> rfl
      have hlink : Keeps t (afterStatus t tx.id status) (attempt .handleWebhookEvent .markEvent
          .pool (.markEvent webhookEventId .processed (some tx.id))) fun _ know =>
            know = afterStatus t tx.id status :=
        keeps_attempt hsent (if_neg (by simp)) fun _ => rfl
      refine hlink.bind fun linked know hknow => ?_
      subst hknow
      exact keeps_linkEvent tx.id status linked

theorem keeps_processEvent (event : Event) (webhookEventId : Nat) :
    Keeps t .idle (processEvent event webhookEventId) (Tried t) := by
  have hmark : ∀ (status : EventStatus) (handled : Handled), handled ≠ .refunded t →
      handled ≠ .processed t .refunded →
      Keeps t .idle (do
        let marked ← attempt .handleWebhookEvent .markEvent .pool
          (.markEvent webhookEventId status none)
        pure (marked.map fun _ => handled)) (Tried t) := by
    intro status handled hrefund hprocessed
    have hmarked : Keeps t .idle (attempt .handleWebhookEvent .markEvent .pool
        (.markEvent webhookEventId status none)) fun _ know => know = .idle :=
      keeps_attempt rfl rfl fun _ => rfl
    refine hmarked.bind fun marked know hknow => ?_
    subst hknow
    cases marked with
    | none => exact tried_none rfl
    | some marked => exact tried_idle ⟨hrefund, hprocessed⟩
  unfold processEvent
  split_ifs with hsetup
  · exact ⟨fun _ => .idle, rfl, fun _ => hmark .processed .autopay nofun nofun⟩
  · split
    · rename_i gatewayRef status hmapped
      have hfind : Keeps t .idle (attempt .handleWebhookEvent .findByReference .pool
          (.findByReference gatewayRef event.confined)) fun _ know => know = .idle :=
        keeps_attempt rfl rfl fun _ => rfl
      have hmatch : Keeps t .idle (matchTransaction event gatewayRef) fun _ know =>
          know = .idle := by
        refine hfind.bind fun found know hknow => ?_
        subst hknow
        unfold matchMetadata
        split
        · split
          · exact keeps_attempt rfl rfl fun _ => rfl
          · exact rfl
        · exact rfl
      refine hmatch.bind fun matched know hknow => ?_
      subst hknow
      exact keeps_processMatched webhookEventId status matched
    · exact hmark .ignored .ignored nofun nofun

theorem keeps_rethrow {handled : Option Handled} (webhookEventId : Nat)
    (h : Tried t handled know) : Keeps t know (rethrow webhookEventId handled) (Ends t) := by
  obtain ⟨hends, hadmits | rfl⟩ := h
  · cases handled with
    | some handled => exact hends
    | none =>
      have hsent : sent t know .pool (.markEvent webhookEventId .failed none) =
          some fun _ => know := by
        cases know <;> first | rfl | cases hadmits
      have hmark : Keeps t know (attempt .handleWebhookEvent .markFailed .pool
          (.markEvent webhookEventId .failed none)) fun _ _ => True :=
        keeps_attempt hsent trivial fun _ => trivial
      exact hmark.bind fun _ know _ => ends_thrown know
  · exact keeps_failed ends_failed _

theorem keeps_handleWebhookEvent (event : Event) :
    Keeps t .idle (handleWebhookEvent event) (Ends t) := by
  have hselect : Keeps t .idle (attempt .handleWebhookEvent .selectEvent .pool
      (.selectEvent event.provider event.providerEventId (event.organizationId.getD 0)))
      fun _ know => know = .idle :=
    keeps_attempt rfl rfl fun _ => rfl
  have hinsert : Keeps t .idle (attempt .handleWebhookEvent .insertEvent .pool
      (.insertEvent event.organizationId event.provider event.providerEventId event.eventType))
      fun _ know => know = .idle :=
    keeps_attempt rfl rfl fun _ => rfl
  refine hselect.bind fun existing know hknow => ?_
  subst hknow
  rcases existing with _ | _ | existing
  · exact ends_thrown _
  · refine hinsert.bind fun inserted know hknow => ?_
    subst hknow
    rcases inserted with _ | _ | webhookEventId
    · exact ends_thrown _
    · exact ends_thrown _
    · exact (keeps_processEvent event webhookEventId).bind fun handled know h =>
        keeps_rethrow webhookEventId h
  · exact ⟨nofun, by simp⟩

theorem ends_answerReversed (id : Nat) (returned : Bool) :
    Ends t (if returned then .refunded id else .thrown) (afterReversal t id) := by
  cases returned with
  | false => exact ends_thrown _
  | true =>
    change Ends t (.refunded id) _
    unfold afterReversal
    split_ifs with hid
    · exact ⟨nofun, fun _ => Or.inl rfl⟩
    · refine ⟨nofun, fun hrefund => ?_⟩
      rcases hrefund with heq | heq
      · cases heq
        exact absurd rfl hid
      · cases heq

theorem keeps_refund (id : Nat) : Keeps t .idle (refund id) (Ends t) := by
  have hselect : Keeps t .idle (attempt .refund .selectRefundable .pool (.selectRefundable id))
      fun _ know => know = .idle :=
    keeps_attempt rfl rfl fun _ => rfl
  have hmark : ∀ reference, Keeps t .idle (attempt .refund .markRefunded .pool
      (.markRefunded id reference)) fun marked know =>
        if marked = none then know = .idle else know = beforeReversal t id := fun reference =>
    keeps_attempt rfl rfl fun _ => rfl
  refine hselect.bind fun found know hknow => ?_
  subst hknow
  rcases found with _ | _ | ⟨row, provider⟩
  · exact ends_thrown _
  · exact ends_thrown _
  · simp only [refundFound]
    split_ifs with hsucceeded
    · have hprovider : Keeps t .idle (refundAtProvider row provider) fun _ know => know = .idle := by
        cases provider with
        | stripe => exact ⟨fun _ => .idle, rfl, fun _ => rfl⟩
        | conekta => exact ⟨fun _ => .idle, rfl, fun _ => rfl⟩
        | manual => exact rfl
        | unsupported => exact rfl
      refine hprovider.bind fun confirmed know hknow => ?_
      subst hknow
      cases confirmed with
      | none => exact ends_thrown _
      | some reference =>
        refine (hmark reference).bind fun marked know hmarked => ?_
        cases marked with
        | none => exact ends_thrown _
        | some marked =>
          obtain rfl : know = beforeReversal t id := hmarked
          refine (keeps_reverseRefund id).bind fun returned know hover => ?_
          rcases hover with rfl | rfl
          · exact ends_answerReversed id returned
          · exact ends_failed _
    · exact ends_thrown _

theorem keeps_run (call : Call) : Keeps t .idle call.run (Ends t) := by
  cases call with
  | deliver event => exact keeps_handleWebhookEvent event
  | refund transactionId => exact keeps_refund transactionId

end FireIsp.Gateway
