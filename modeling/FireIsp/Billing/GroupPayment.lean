import FireIsp.Base.Pour
import FireIsp.Billing.Balance
import FireIsp.Billing.Group

/-!
# Group payments conserve money

The settlement loop pours the paid amount over the open invoices of the group in their merged
order, the allocations it stores are those portions, and the ledger credits written after the
commit add up to the amount.
-/

namespace FireIsp.Billing

open Txn

variable (world : Nat → (e : Effect) → e.Answer)

section Embedding

/-- The same group tables over other books. -/
def GroupDb.withBooks (g : GroupDb) (books : Db) : GroupDb := { g with books }

@[simp] theorem GroupDb.withBooks_books (g : GroupDb) (books : Db) :
    (g.withBooks books).books = books := rfl

theorem visible_withBooks (g : GroupDb) (books : Db) (writes : List Write) :
    groupEngine.visible (g.withBooks books) writes =
      g.withBooks (engine.visible books writes) := by
  induction writes generalizing books with
  | nil => rfl
  | cons w writes ih =>
    rw [Engine.visible_cons, Engine.visible_cons]
    exact ih _

theorem alone_embed {A : Type} (p : Request A) (tick : Nat) (g : GroupDb) (db : Db)
    (work : Option Db) :
    alone groupEngine world (embed p) tick (g.withBooks db) (work.map g.withBooks) =
      ⟨(alone engine world p tick db work).value, (alone engine world p tick db work).tick,
        g.withBooks (alone engine world p tick db work).db,
        (alone engine world p tick db work).work.map g.withBooks⟩ := by
  induction p generalizing tick db work with
  | done value => rfl
  | start next ih =>
    cases work with
    | none => exact ih (tick + 1) db (some db)
    | some copy => exact ih (tick + 1) copy (some copy)
  | commit next ih =>
    cases work with
    | none => exact ih (tick + 1) db none
    | some copy => exact ih (tick + 1) copy none
  | rollback next ih => exact ih (tick + 1) db none
  | call e next ih => exact ih _ (tick + 1) db work
  | stmt via stmt next ih =>
    cases via with
    | pool =>
      rw [embed, alone_pool, alone_pool]
      have hstep := ih (stmt.exec tick db db).1 (tick + 1)
        (engine.visible db (stmt.exec tick db db).2) work
      rw [← visible_withBooks] at hstep
      exact hstep
    | conn =>
      cases work with
      | none =>
        have hstep := ih (stmt.exec tick db db).1 (tick + 1)
          (engine.visible db (stmt.exec tick db db).2) none
        rw [← visible_withBooks] at hstep
        exact hstep
      | some copy =>
        have hstep := ih (stmt.exec tick copy copy).1 (tick + 1) db
          (some (engine.visible copy (stmt.exec tick copy copy).2))
        rw [Option.map_some, ← visible_withBooks] at hstep
        exact hstep

theorem uses_embed {A : Type} {allowed : GroupStmt → Prop} {p : Request A}
    (h : p.Uses fun stmt => allowed (.billing stmt)) : (embed p).Uses allowed := by
  induction p with
  | done value => trivial
  | start next ih => exact ih h
  | commit next ih => exact ih h
  | rollback next ih => exact ih h
  | call e next ih => exact fun r => ih r (h r)
  | stmt via stmt next ih => exact ⟨h.1, fun r => ih r (h.2 r)⟩

end Embedding

section Loop

/-- Entry of the settlement summary for a portion. -/
def SettledInvoice.of (portion : OpenInvoice × Int) : SettledInvoice :=
  ⟨portion.1.invoice.id, portion.1.invoice.invoiceNumber, portion.1.invoice.clientId, portion.2⟩

/-- Columns of an allocation the statement sets. -/
def Allocation.content (row : Allocation) : Nat × Nat × Int × Option Nat :=
  (row.paymentId, row.invoiceId, row.amount, row.deletedAt)

/-- Columns of the allocation of a portion. -/
def portionContent (paymentId : Nat) (portion : OpenInvoice × Int) : Nat × Nat × Int × Option Nat :=
  (paymentId, portion.1.invoice.id, portion.2, none)

/-- The books of a transaction after its loop placed the portions. -/
structure Placed (paymentId : Nat) (portions : List (OpenInvoice × Int)) (books books' : Db) :
    Prop where
  allocations : ∃ new, books'.allocations = books.allocations ++ new ∧
    new.map Allocation.content = portions.map (portionContent paymentId)
  payments : books'.payments = books.payments
  ledger : books'.ledger = books.ledger

theorem Placed.nil (paymentId : Nat) (books : Db) : Placed paymentId [] books books :=
  ⟨⟨[], (List.append_nil _).symm, rfl⟩, rfl, rfl⟩

variable {paymentId : Nat} {books : Db}

theorem Placed.cons {portion : OpenInvoice × Int} {portions : List (OpenInvoice × Int)}
    {books₁ books' : Db} {new : Allocation}
    (hfirst : books₁.allocations = books.allocations ++ [new])
    (hnew : new.content = portionContent paymentId portion)
    (hpayments : books₁.payments = books.payments) (hledger : books₁.ledger = books.ledger)
    (hrest : Placed paymentId portions books₁ books') :
    Placed paymentId (portion :: portions) books books' := by
  obtain ⟨later, hlater, hcontent⟩ := hrest.allocations
  refine ⟨⟨new :: later, ?_, ?_⟩, hrest.payments.trans hpayments, hrest.ledger.trans hledger⟩
  · rw [hlater, hfirst, List.append_assoc]
    rfl
  · rw [List.map_cons, List.map_cons, hnew, hcontent]

theorem insertAllocation_ne_dup {db : Db} {invoiceId : Nat} {amount : Int} {tick : Nat}
    (hnew : ∀ row ∈ db.allocations, row.paymentId = paymentId → row.invoiceId ≠ invoiceId) :
    ((Stmt.insertAllocation paymentId invoiceId amount).exec tick db db).1 ≠ .error .dupEntry := by
  have hpair : pairTaken db ⟨tick, paymentId, invoiceId, amount, none⟩ = false := by
    rw [pairTaken, List.any_eq_false]
    intro row hrow hmatch
    simp only [Allocation.samePair, Bool.and_eq_true, beq_iff_eq] at hmatch
    exact hnew row hrow hmatch.2.1 hmatch.2.2
  simp only [Stmt.exec, hpair]
  split
  · intro h
    cases h
  · split
    · contradiction
    · split <;> simp

/-- Outcome of the loop: it was rolled back, or it placed the poured portions. -/
def Settling.Left (paymentId : Nat) (rows : List OpenInvoice) (progress : Settling) (tick : Nat)
    (g : GroupDb) (base books : Db) (o : Outcome (Except Refusal Settling) GroupDb) : Prop :=
  o.db = g.withBooks base ∧ tick ≤ o.tick ∧ ((∃ refusal, o.value = .error refusal ∧ o.work = none) ∨
    ∃ progress' books', o.value = .ok progress' ∧ o.work = some (g.withBooks books') ∧
      progress'.settled = progress.settled ++
        (Pour.pour OpenInvoice.due progress.remainder rows).map SettledInvoice.of ∧
      Placed paymentId (Pour.pour OpenInvoice.due progress.remainder rows) books books')

variable {g : GroupDb} {base : Db}

theorem Settling.Left.cons {tick tick' : Nat} {row : OpenInvoice} {rows : List OpenInvoice}
    {progress : Settling} {books₁ : Db} {new : Allocation}
    {o : Outcome (Except Refusal Settling) GroupDb} (progress₁ : Settling)
    (hremainder : ¬progress.remainder ≤ 0) (hdue : ¬row.due ≤ 0) (htick : tick ≤ tick')
    (hnew : new.content = portionContent paymentId (row, min progress.remainder row.due))
    (hallocations : books₁.allocations = books.allocations ++ [new])
    (hpayments : books₁.payments = books.payments) (hledger : books₁.ledger = books.ledger)
    (hleft : progress₁.remainder = progress.remainder - min progress.remainder row.due)
    (hsettled : progress₁.settled = progress.settled ++
      [SettledInvoice.of (row, min progress.remainder row.due)])
    (h : Settling.Left paymentId rows progress₁ tick' g base books₁ o) :
    Settling.Left paymentId (row :: rows) progress tick g base books o := by
  obtain ⟨hdb, hlater, hrest⟩ := h
  refine ⟨hdb, le_trans htick hlater, hrest.imp_right ?_⟩
  rintro ⟨progress', books', hvalue, hwork, hlist, hplaced⟩
  rw [hleft] at hlist hplaced
  rw [Pour.pour, if_neg hremainder, if_neg hdue]
  refine ⟨progress', books', hvalue, hwork, ?_, Placed.cons hallocations hnew hpayments hledger
    hplaced⟩
  rw [hlist, hsettled, List.append_assoc]
  rfl

theorem settleOldest_left (rows : List OpenInvoice) (progress : Settling) {tick : Nat}
    (hkeyed : books.WellKeyed) (hfresh : ∀ row ∈ books.allocations, row.id < tick)
    (hnodup : (rows.map fun row => row.invoice.id).Nodup)
    (hnew : ∀ allocation ∈ books.allocations, allocation.paymentId = paymentId →
      ∀ row ∈ rows, allocation.invoiceId ≠ row.invoice.id) :
    Settling.Left paymentId rows progress tick g base books
      (alone groupEngine world (settleOldest paymentId rows progress) tick (g.withBooks base)
        (some (g.withBooks books))) := by
  induction rows generalizing progress tick books with
  | nil =>
    exact ⟨rfl, le_refl _, Or.inr ⟨progress, books, rfl, rfl, (List.append_nil _).symm,
      Placed.nil _ _⟩⟩
  | cons row rows ih =>
    obtain ⟨hnotMem, hnodup'⟩ := List.nodup_cons.mp hnodup
    have hnew' : ∀ allocation ∈ books.allocations, allocation.paymentId = paymentId →
        ∀ row ∈ rows, allocation.invoiceId ≠ row.invoice.id := fun a ha hp r hr =>
      hnew a ha hp r (List.mem_cons_of_mem _ hr)
    by_cases hremainder : progress.remainder ≤ 0
    · rw [settleOldest, if_pos hremainder]
      refine ⟨rfl, le_refl _, Or.inr ⟨progress, books, rfl, rfl, ?_⟩⟩
      rw [Pour.pour_of_nonpos hremainder]
      exact ⟨(List.append_nil _).symm, Placed.nil _ _⟩
    by_cases hdue : row.due ≤ 0
    · rw [settleOldest, if_neg hremainder, if_pos hdue]
      have hrest := ih progress hkeyed hfresh hnodup' hnew'
      unfold Settling.Left at hrest ⊢
      rwa [Pour.pour, if_neg hremainder, if_pos hdue]
    rw [settleOldest, if_neg hremainder, if_neg hdue]
    simp only [groupExecute]
    rw [alone_send_conn]
    have hexec : groupEngine.exec (.billing (.insertAllocation paymentId row.invoice.id
        (min progress.remainder row.due))) tick (g.withBooks books) (g.withBooks books) =
      (Stmt.insertAllocation paymentId row.invoice.id
        (min progress.remainder row.due)).exec tick books books := rfl
    rcases insertAllocation_cases paymentId row.invoice.id (min progress.remainder row.due)
        tick books with ⟨e, hinsert⟩ | ⟨hinsert, -, -⟩
    · rw [hexec, hinsert]
      cases e with
      | overAllocation => exact ⟨rfl, Nat.le_add_right tick 2, Or.inl ⟨_, rfl, rfl⟩⟩
      | dupEntry =>
        refine (insertAllocation_ne_dup (fun a ha hp => ?_) (congrArg Prod.fst hinsert)).elim
        exact hnew a ha hp row List.mem_cons_self
      | foreignKey => exact ⟨rfl, Nat.le_add_right tick 2, Or.inl ⟨_, rfl, rfl⟩⟩
    · rw [hexec, hinsert]
      set new : Allocation :=
        ⟨tick, paymentId, row.invoice.id, min progress.remainder row.due, none⟩ with hnewRow
      have hfreshId : new.id ∉ books.allocations.map Allocation.id := fun h => by
        obtain ⟨old, hold, hid⟩ := List.mem_map.mp h
        exact absurd (hfresh old hold) (by rw [hid, hnewRow]; exact lt_irrefl tick)
      have happend : (books.apply (.allocation new)).allocations = books.allocations ++ [new] :=
        Table.put_fresh hfreshId
      obtain ⟨paid, tick', hle, hrun⟩ :=
        alone_finalize_conn world row.invoice (tick + 1) base (books.apply (.allocation new))
      obtain ⟨hallocations, hpayments, hledger, hkeyed'⟩ :=
        finalized_other (hkeyed.apply (.allocation new)) row.invoice (tick + 2)
      have hembed : alone groupEngine world (embed (finalizeIfFullyPaid .conn row.invoice))
          (tick + 1) (g.withBooks base)
          (some (groupEngine.visible (g.withBooks books) [.allocation new])) =
        ⟨paid, tick', g.withBooks base, some (g.withBooks
          ((books.apply (.allocation new)).finalized row.invoice (tick + 2)))⟩ := by
        have h := alone_embed world (finalizeIfFullyPaid .conn row.invoice) (tick + 1) g base
          (some (books.apply (.allocation new)))
        rw [hrun] at h
        exact h
      have hsame := hallocations.trans happend
      dsimp only
      rw [alone_bind, hembed]
      refine Settling.Left.cons ⟨_, _, if paid then progress.justPaid ++ [row.invoice]
        else progress.justPaid⟩ hremainder hdue (Nat.le_of_succ_le hle) rfl hsame hpayments hledger
        rfl rfl ?_
      refine ih _ hkeyed' (fun a ha => ?_) hnodup' fun a ha hp r hr => ?_
      · rw [hsame] at ha
        rcases List.mem_append.mp ha with hold | hlast
        · exact lt_trans (hfresh a hold) hle
        · rw [List.mem_singleton.mp hlast]
          exact hle
      · rw [hsame] at ha
        rcases List.mem_append.mp ha with hold | hlast
        · exact hnew' a hold hp r hr
        · rw [List.mem_singleton.mp hlast]
          exact fun e => hnotMem (List.mem_map.mpr ⟨r, hr, e.symm⟩)

end Loop

section Credits

theorem addCredit_sum (clientId : Nat) (amount : Int) (credits : List (Nat × Int)) :
    ((addCredit clientId amount credits).map Prod.snd).sum =
      (credits.map Prod.snd).sum + amount := by
  induction credits with
  | nil => simp [addCredit]
  | cons credit credits ih =>
    obtain ⟨other, total⟩ := credit
    rw [addCredit]
    split
    · simp only [List.map_cons, List.sum_cons]
      omega
    · simp only [List.map_cons, List.sum_cons, ih]
      omega

theorem addCredit_pos {clientId : Nat} {amount : Int} {credits : List (Nat × Int)}
    (h : ∀ credit ∈ credits, 0 < credit.2) (hamount : 0 < amount) :
    ∀ credit ∈ addCredit clientId amount credits, 0 < credit.2 := by
  induction credits with
  | nil =>
    intro credit hcredit
    rw [List.mem_singleton.mp hcredit]
    exact hamount
  | cons first credits ih =>
    obtain ⟨other, total⟩ := first
    have hfirst : 0 < total := h _ List.mem_cons_self
    have hrest := ih fun credit hcredit => h credit (List.mem_cons_of_mem _ hcredit)
    intro credit hcredit
    rw [addCredit] at hcredit
    split at hcredit
    · rcases List.mem_cons.mp hcredit with rfl | hmem
      · exact Int.add_pos hfirst hamount
      · exact h credit (List.mem_cons_of_mem _ hmem)
    · rcases List.mem_cons.mp hcredit with rfl | hmem
      · exact hfirst
      · exact hrest credit hmem

theorem foldl_addCredit (settled : List SettledInvoice) (credits : List (Nat × Int))
    (hsettled : ∀ row ∈ settled, 0 < row.amount) (hcredits : ∀ credit ∈ credits, 0 < credit.2) :
    let all := settled.foldl (fun byClient row => addCredit row.clientId row.amount byClient) credits
    (all.map Prod.snd).sum = (credits.map Prod.snd).sum + settledTotal settled ∧
      ∀ credit ∈ all, 0 < credit.2 := by
  induction settled generalizing credits with
  | nil => exact ⟨(Int.add_zero _).symm, hcredits⟩
  | cons row settled ih =>
    obtain ⟨hsum, hpos⟩ := ih (addCredit row.clientId row.amount credits)
      (fun row hrow => hsettled row (List.mem_cons_of_mem _ hrow))
      (addCredit_pos hcredits (hsettled row List.mem_cons_self))
    refine ⟨?_, hpos⟩
    rw [List.foldl_cons, hsum, addCredit_sum, settledTotal, settledTotal, List.map_cons,
      List.sum_cons]
    omega

theorem creditsByClient_spec {settled : List SettledInvoice} {primaryId : Nat} {remainder : Int}
    (hsettled : ∀ row ∈ settled, 0 < row.amount) (hremainder : 0 ≤ remainder) :
    ((creditsByClient settled primaryId remainder).map Prod.snd).sum =
        settledTotal settled + remainder ∧
      ∀ credit ∈ creditsByClient settled primaryId remainder, 0 < credit.2 := by
  obtain ⟨hsum, hpos⟩ := foldl_addCredit settled [] hsettled nofun
  unfold creditsByClient
  dsimp only
  split
  · rename_i hleft
    refine ⟨?_, addCredit_pos hpos hleft⟩
    rw [addCredit_sum, hsum]
    simp
  · refine ⟨?_, hpos⟩
    rw [hsum, show remainder = 0 by omega]
    simp

structure Credited (paymentId : Nat) (credits : List (Nat × Int)) (rows : List LedgerEntry) :
    Prop where
  amounts : (rows.map fun row => (row.clientId, row.amount)) = credits
  reference : ∀ row ∈ rows, row.isCredit = true ∧ row.referenceType = "payment" ∧
    row.referenceId = paymentId

theorem alone_writeGroupLedgerCredits (org paymentId : Nat) (currency : String)
    (credits : List (Nat × Int)) (tick : Nat) (g : GroupDb) (books : Db)
    (hfresh : ∀ row ∈ books.ledger, row.id < tick) (hpos : ∀ credit ∈ credits, 0 < credit.2) :
    ∃ rows tick', alone groupEngine world (writeGroupLedgerCredits org paymentId currency credits)
        tick (g.withBooks books) none =
      ⟨(), tick', g.withBooks { books with ledger := books.ledger ++ rows }, none⟩ ∧
      Credited paymentId credits rows := by
  induction credits generalizing tick books with
  | nil =>
    refine ⟨[], tick, ?_, ⟨rfl, nofun⟩⟩
    rw [List.append_nil]
    rfl
  | cons credit credits ih =>
    obtain ⟨clientId, amount⟩ := credit
    have hamount : 0 < amount := hpos _ List.mem_cons_self
    set row : LedgerEntry := ⟨tick, clientId, org, true, amount, 0, 0, currency, "payment",
      paymentId, "Group payment " ++ toString paymentId⟩ with hrow
    have hfreshId : row.id ∉ books.ledger.map LedgerEntry.id := fun h => by
      obtain ⟨old, hold, hid⟩ := List.mem_map.mp h
      exact absurd (hfresh old hold) (by rw [hid, hrow]; exact lt_irrefl tick)
    have hput : Table.put LedgerEntry.id row books.ledger = books.ledger ++ [row] :=
      Table.put_fresh hfreshId
    have hfresh' : ∀ old ∈ books.ledger ++ [row], old.id < tick + 1 := fun old hold => by
      rcases List.mem_append.mp hold with hmem | hlast
      · exact Nat.lt_succ_of_lt (hfresh old hmem)
      · rw [List.mem_singleton.mp hlast]
        exact Nat.lt_succ_self tick
    obtain ⟨rows, tick', hrun, hcredited⟩ := ih (tick + 1)
      { books with ledger := books.ledger ++ [row] } hfresh'
      fun credit hcredit => hpos credit (List.mem_cons_of_mem _ hcredit)
    refine ⟨row :: rows, tick', ?_, ⟨?_, ?_⟩⟩
    · have hvisible : groupEngine.visible (g.withBooks books) [.ledger row] =
          g.withBooks { books with ledger := books.ledger ++ [row] } := by
        rw [← hput]
        rfl
      rw [List.append_assoc, List.singleton_append, ← hvisible] at hrun
      rw [writeGroupLedgerCredits, if_neg (not_le.mpr hamount)]
      simp only [groupQuery]
      rw [alone_send_pool]
      exact hrun
    · rw [List.map_cons, hcredited.amounts]
    · intro entry hentry
      rcases List.mem_cons.mp hentry with rfl | hmem
      · exact ⟨rfl, rfl, rfl⟩
      · exact hcredited.reference entry hmem

end Credits

section Settlements

structure GroupDb.Sound (tick : Nat) (g : GroupDb) : Prop where
  keyed : g.books.WellKeyed
  clients : Table.Keyed Client.id g.clients
  allocations : ∀ row ∈ g.books.allocations, row.id < tick ∧ row.paymentId < tick
  payments : ∀ row ∈ g.books.payments, row.id < tick
  ledger : ∀ row ∈ g.books.ledger, row.id < tick

theorem GroupDb.Sound.later {tick tick' : Nat} {g : GroupDb} (h : g.Sound tick)
    (hle : tick ≤ tick') : g.Sound tick' :=
  ⟨h.keyed, h.clients, fun row hrow => ⟨lt_of_lt_of_le (h.allocations row hrow).1 hle,
    lt_of_lt_of_le (h.allocations row hrow).2 hle⟩,
    fun row hrow => lt_of_lt_of_le (h.payments row hrow) hle,
    fun row hrow => lt_of_lt_of_le (h.ledger row hrow) hle⟩

/-- The tables after a settlement that spread `amount` over portions. -/
structure GroupDb.Spent (g g' : GroupDb) (portions : List (OpenInvoice × Int))
    (referenceNumber : Option String) (org : Nat) (result : Settlement) : Prop where
  payments : g'.books.payments = g.books.payments ++ [⟨result.paymentId, org, result.clientId,
    result.amount, result.currency, referenceNumber, none⟩]
  allocations : ∃ new, g'.books.allocations = g.books.allocations ++ new ∧
    new.map Allocation.content = portions.map (portionContent result.paymentId)
  ledger : ∃ rows, g'.books.ledger = g.books.ledger ++ rows ∧
    Credited result.paymentId (creditsByClient (portions.map SettledInvoice.of) result.clientId
      result.unallocatedCredit) rows
  settledInvoices : result.settledInvoices = portions.map SettledInvoice.of
  allocatedTotal : result.allocatedTotal = Pour.poured portions
  unallocatedCredit : result.unallocatedCredit = result.amount - result.allocatedTotal

theorem settledTotal_of (portions : List (OpenInvoice × Int)) :
    settledTotal (portions.map SettledInvoice.of) = Pour.poured portions := by
  rw [settledTotal, List.map_map]
  rfl

variable {g : GroupDb} {tick : Nat}

theorem alone_afterSettlement (org paymentId : Nat) (justPaid : List Invoice)
    (settled : List SettledInvoice) (result : Settlement) (tick : Nat) (g : GroupDb) :
    let o := alone groupEngine world (embed (reconnectAll justPaid) >>= fun _ =>
      generateGroupReps org paymentId settled >>= fun _ =>
        (return Except.ok result : GroupRequest (Except Refusal Settlement))) tick g none
    o.value = .ok result ∧ o.db = g := by
  have hreps : (generateGroupReps org paymentId settled).Uses fun _ => False := by
    induction settled with
    | nil => trivial
    | cons row settled ih => exact fun _ => ih
  have huses : (embed (reconnectAll justPaid) >>= fun _ =>
      generateGroupReps org paymentId settled >>= fun _ =>
        (return Except.ok result : GroupRequest (Except Refusal Settlement))).Uses fun _ => False :=
    (uses_embed (uses_reconnectAll justPaid)).bind fun _ => hreps.bind fun _ => trivial
  refine ⟨?_, alone_unchanged (fun _ h => h.elim) huses tick g⟩
  rw [alone_bind, alone_bind]
  rfl

theorem settleGroup_spent (hsound : g.Sound tick) (org primaryId : Nat) {rows : List OpenInvoice}
    (hnodup : (rows.map fun row => row.invoice.id).Nodup) {amount : Int} (hamount : 0 < amount)
    (currency : String) (referenceNumber : Option String) :
    let o := alone groupEngine world
      (settleGroup org primaryId rows amount currency referenceNumber) tick g (some g)
    (∃ refusal, o.value = .error refusal ∧ o.db = g) ∨
    ∃ result, o.value = .ok result ∧ result.amount = amount ∧ result.clientId = primaryId ∧
      g.Spent o.db (Pour.pour OpenInvoice.due amount rows) referenceNumber org result := by
  intro o
  have ho : o = alone groupEngine world
    (settleGroup org primaryId rows amount currency referenceNumber) tick g (some g) := rfl
  clear_value o
  unfold settleGroup at ho
  simp only [groupExecute] at ho
  rw [alone_send_conn] at ho
  set payment : Payment := ⟨tick, org, primaryId, amount, currency, referenceNumber, none⟩
    with hpayment
  set books := g.books.apply (.payment payment) with hbooks
  have hfreshId : payment.id ∉ g.books.payments.map Payment.id := fun h => by
    obtain ⟨old, hold, hid⟩ := List.mem_map.mp h
    exact absurd (hsound.payments old hold) (by rw [hid, hpayment]; exact lt_irrefl tick)
  have happend : books.payments = g.books.payments ++ [payment] := Table.put_fresh hfreshId
  have hloop : Settling.Left tick rows ⟨amount, [], []⟩ (tick + 1) g g.books books
      (alone groupEngine world (settleOldest tick rows ⟨amount, [], []⟩) (tick + 1) g
        (some (g.withBooks books))) :=
    settleOldest_left world rows ⟨amount, [], []⟩ (hsound.keyed.apply _)
      (fun row hrow => Nat.lt_succ_of_lt (hsound.allocations row hrow).1) hnodup
      fun row hrow hid => absurd (hsound.allocations row hrow).2 (by rw [hid]; exact lt_irrefl tick)
  obtain ⟨hdb, htick, hleft⟩ := hloop
  change o = alone groupEngine world (settleOldest tick rows ⟨amount, [], []⟩ >>= _) (tick + 1) g
    (some (g.withBooks books)) at ho
  rw [alone_bind] at ho
  rcases hleft with ⟨refusal, hvalue, hwork⟩ | ⟨progress, books', hvalue, hwork, hsettled, hplaced⟩
  · rw [hvalue, hwork, hdb] at ho
    exact Or.inl ⟨refusal, by rw [ho]; rfl, by rw [ho]; rfl⟩
  · rw [hvalue, hwork, hdb] at ho
    rw [List.nil_append] at hsettled
    have htotal : settledTotal progress.settled = Pour.poured
        (Pour.pour OpenInvoice.due amount rows) := by rw [hsettled, settledTotal_of]
    have hpositive : ∀ row ∈ progress.settled, 0 < row.amount := fun row hrow => by
      rw [hsettled] at hrow
      obtain ⟨portion, hportion, rfl⟩ := List.mem_map.mp hrow
      exact (Pour.of_mem_pour hportion).2.1
    have hremainder : 0 ≤ amount - settledTotal progress.settled := by
      have hle : Pour.poured (Pour.pour OpenInvoice.due amount rows) ≤ amount :=
        Pour.poured_le hamount.le
      omega
    have hcredits : ∀ credit ∈ creditsByClient progress.settled primaryId
        (amount - settledTotal progress.settled), 0 < credit.2 :=
      (creditsByClient_spec hpositive hremainder).2
    obtain ⟨ledgerRows, tick', hledger, hcredited⟩ := alone_writeGroupLedgerCredits world org tick
      currency (creditsByClient progress.settled primaryId
        (amount - settledTotal progress.settled))
      ((alone groupEngine world (settleOldest tick rows ⟨amount, [], []⟩) (tick + 1) g
        (some (g.withBooks books))).tick + 1) g books'
      (fun row hrow => lt_of_lt_of_le (hsound.ledger row (hplaced.ledger ▸ hrow)) (by omega)) hcredits
    set result : Settlement := ⟨tick, primaryId, amount, currency, settledTotal progress.settled,
      amount - settledTotal progress.settled, progress.settled, progress.justPaid.length⟩
    change o = alone groupEngine world (writeGroupLedgerCredits org tick currency
      (creditsByClient progress.settled primaryId (amount - settledTotal progress.settled)) >>=
        fun _ => embed (reconnectAll progress.justPaid) >>= fun _ =>
          generateGroupReps org tick progress.settled >>= fun _ =>
            (return Except.ok result : GroupRequest (Except Refusal Settlement))) (_ + 1)
      (g.withBooks books') none at ho
    rw [alone_bind, hledger] at ho
    obtain ⟨hresult, hafter⟩ := alone_afterSettlement world org tick progress.justPaid
      progress.settled result tick'
      (g.withBooks { books' with ledger := books'.ledger ++ ledgerRows })
    refine Or.inr ⟨result, by rw [ho]; exact hresult, rfl, rfl, ?_⟩
    have hdb' : o.db = g.withBooks { books' with ledger := books'.ledger ++ ledgerRows } := by
      rw [ho]
      exact hafter
    rw [hdb']
    exact ⟨hplaced.payments.trans happend, hplaced.allocations,
      ⟨ledgerRows, congrArg (· ++ ledgerRows) hplaced.ledger, hsettled ▸ hcredited⟩, hsettled,
      htotal, rfl⟩

theorem alone_gatherOpen (org : Nat) (memberIds : List Nat) (tick : Nat) (g : GroupDb) :
    ∃ tick', tick ≤ tick' ∧ alone groupEngine world (gatherOpen org memberIds) tick g (some g) =
      ⟨memberIds.flatMap (g.openInvoices g org), tick', g, some g⟩ := by
  induction memberIds generalizing tick with
  | nil => exact ⟨tick, le_refl tick, rfl⟩
  | cons memberId memberIds ih =>
    obtain ⟨tick', hle, hrest⟩ := ih (tick + 1)
    refine ⟨tick', Nat.le_of_succ_le hle, ?_⟩
    rw [gatherOpen]
    simp only [groupExecute]
    rw [alone_send_conn]
    have hvisible : groupEngine.visible g (groupEngine.exec (.openInvoices org memberId) tick g
      g).2 = g := rfl
    rw [hvisible, alone_bind, hrest]
    rfl

/-- Open invoices of the group that the payment is asked to settle, oldest first. -/
def GroupDb.selectedRows (g : GroupDb) (org groupId : Nat) (opts : PayOptions) :
    List OpenInvoice :=
  (((g.members groupId org).flatMap (g.openInvoices g org)).insertionSort openedBefore).filter
    fun row => opts.wants row.invoice.id

theorem payOpen_cases (org primaryId : Nat) (opts : PayOptions) (rows : List OpenInvoice)
    (tick : Nat) (g : GroupDb) :
    let o := alone groupEngine world (payOpen org primaryId opts rows) tick g (some g)
    (∃ refusal, o.value = .error refusal ∧ o.db = g) ∨
    ∃ amount currency tick', 0 < amount ∧ (∀ a, opts.amount = some a → amount = a) ∧ tick ≤ tick' ∧
      o = alone groupEngine world
        (settleGroup org primaryId rows amount currency opts.referenceNumber) tick' g (some g) := by
  intro o
  have ho : o = alone groupEngine world (payOpen org primaryId opts rows) tick g (some g) := rfl
  clear_value o
  unfold payOpen at ho
  by_cases hmixed : 1 < (payableCurrencies rows).length
  · rw [if_pos hmixed] at ho
    exact Or.inl ⟨_, by rw [ho]; rfl, by rw [ho]; rfl⟩
  rw [if_neg hmixed, alone_bind] at ho
  have hcurrency : ∃ currency tick', tick ≤ tick' ∧
      alone groupEngine world (payCurrency org rows) tick g (some g) =
        ⟨currency, tick', g, some g⟩ := by
    unfold payCurrency
    split
    · exact ⟨_, tick, le_refl tick, rfl⟩
    · exact ⟨_, tick + 1, Nat.le_succ tick, rfl⟩
  obtain ⟨currency, tick', hle, hrun⟩ := hcurrency
  rw [hrun] at ho
  dsimp only at ho
  by_cases hamount : 0 < opts.amount.getD (payableTotal rows)
  · rw [if_neg (not_not.mpr hamount)] at ho
    exact Or.inr ⟨_, currency, tick', hamount, fun a ha => by rw [ha]; rfl, hle, ho⟩
  · rw [if_pos hamount] at ho
    exact Or.inl ⟨_, by rw [ho]; rfl, by rw [ho]; rfl⟩

theorem loadSharedGroup_cases (org groupId tick : Nat) (g : GroupDb) :
    ∃ tick', tick ≤ tick' ∧
      ((∃ refusal, alone groupEngine world (loadSharedGroup org groupId) tick g none =
        ⟨.error refusal, tick', g, none⟩) ∨
      ∃ primaryId, alone groupEngine world (loadSharedGroup org groupId) tick g none =
        ⟨.ok (primaryId, g.members groupId org), tick', g, none⟩) := by
  unfold loadSharedGroup
  simp only [groupQuery]
  rw [alone_send_pool]
  have hgroup : groupEngine.visible g (groupEngine.exec (.selectGroup groupId org) tick g g).2 =
      g := rfl
  rw [hgroup]
  cases (groupEngine.exec (.selectGroup groupId org) tick g g).1 with
  | none => exact ⟨tick + 1, Nat.le_succ tick, Or.inl ⟨_, rfl⟩⟩
  | some group =>
    dsimp only
    split
    · exact ⟨tick + 1, Nat.le_succ tick, Or.inl ⟨_, rfl⟩⟩
    · split
      · exact ⟨tick + 1, Nat.le_succ tick, Or.inl ⟨_, rfl⟩⟩
      · rw [alone_send_pool]
        have hmembers : groupEngine.visible g
            (groupEngine.exec (.selectMembers groupId org) (tick + 1) g g).2 = g := rfl
        have hids : (groupEngine.exec (.selectMembers groupId org) (tick + 1) g g).1 =
            g.members groupId org := rfl
        rw [hmembers, hids]
        split
        · exact ⟨tick + 2, by omega, Or.inl ⟨_, rfl⟩⟩
        · exact ⟨tick + 2, by omega, Or.inr ⟨_, rfl⟩⟩

theorem payGroup_cases (org groupId : Nat) (opts : PayOptions) (tick : Nat) (g : GroupDb) :
    let o := alone groupEngine world (payGroup org groupId opts) tick g none
    (∃ refusal, o.value = .error refusal ∧ o.db = g) ∨
    ∃ primaryId amount currency tick', 0 < amount ∧ (∀ a, opts.amount = some a → amount = a) ∧
      tick ≤ tick' ∧ o = alone groupEngine world (settleGroup org primaryId
        (g.selectedRows org groupId opts) amount currency opts.referenceNumber) tick' g
          (some g) := by
  intro o
  have ho : o = alone groupEngine world (payGroup org groupId opts) tick g none := rfl
  clear_value o
  unfold payGroup at ho
  rw [alone_bind] at ho
  obtain ⟨tick₁, hle₁, ⟨refusal, hrun⟩ | ⟨primaryId, hrun⟩⟩ :=
    loadSharedGroup_cases world org groupId tick g
  · rw [hrun] at ho
    exact Or.inl ⟨refusal, by rw [ho]; rfl, by rw [ho]; rfl⟩
  rw [hrun] at ho
  dsimp only at ho
  split at ho
  · exact Or.inl ⟨_, by rw [ho]; rfl, by rw [ho]; rfl⟩
  · obtain ⟨tick₂, hle₂, hgather⟩ :=
      alone_gatherOpen world org (g.members groupId org) (tick₁ + 1) g
    change o = alone groupEngine world (gatherOpen org (g.members groupId org) >>= _) (tick₁ + 1) g
      (some g) at ho
    rw [alone_bind, hgather] at ho
    dsimp only at ho
    split at ho
    · exact Or.inl ⟨_, by rw [ho]; rfl, by rw [ho]; rfl⟩
    · rcases payOpen_cases world org primaryId opts (g.selectedRows org groupId opts) tick₂ g with
        ⟨refusal, hvalue, hdb⟩ | ⟨amount, currency, tick₃, hamount, hopts, hle₃, hsettle⟩
      · exact Or.inl ⟨refusal, by rw [ho]; exact hvalue, by rw [ho]; exact hdb⟩
      · exact Or.inr ⟨primaryId, amount, currency, tick₃, hamount, hopts, by omega,
          ho.trans hsettle⟩

end Settlements

section Selection

variable {g : GroupDb} {tick org groupId : Nat} {opts : PayOptions}

/-- An open invoice of the group that the payment is asked to settle. -/
structure GroupDb.Selected (g : GroupDb) (org groupId : Nat) (opts : PayOptions)
    (invoice : Invoice) : Prop where
  mem : invoice ∈ g.books.invoices
  member : invoice.clientId ∈ g.members groupId org
  organizationId : invoice.organizationId = org
  live : invoice.live = true
  payable : invoice.status.payable = true
  wanted : opts.wants invoice.id = true

/-- What the live allocations of an invoice leave open. -/
def GroupDb.balanceDue (g : GroupDb) (invoice : Invoice) : Int :=
  invoice.total - allocatedTo invoice.id g.books.allocations

theorem mem_selectedRows {row : OpenInvoice} :
    row ∈ g.selectedRows org groupId opts ↔
      g.Selected org groupId opts row.invoice ∧
        row = ⟨row.invoice, g.balanceDue row.invoice, g.invoiceCurrency row.invoice.id⟩ := by
  have hopen : ∀ clientId, row ∈ g.openInvoices g org clientId ↔
      row.invoice ∈ payableInvoices org clientId none g.books.invoices ∧
        row = ⟨row.invoice, g.balanceDue row.invoice, g.invoiceCurrency row.invoice.id⟩ := by
    intro clientId
    constructor
    · intro h
      obtain ⟨invoice, hinvoice, rfl⟩ := List.mem_map.mp h
      exact ⟨hinvoice, rfl⟩
    · rintro ⟨hinvoice, hrow⟩
      exact List.mem_map.mpr ⟨row.invoice, hinvoice, hrow.symm⟩
  rw [GroupDb.selectedRows, List.mem_filter, List.mem_insertionSort, List.mem_flatMap]
  constructor
  · rintro ⟨⟨clientId, hmember, hopened⟩, hwanted⟩
    obtain ⟨hinvoice, hrow⟩ := (hopen clientId).mp hopened
    obtain ⟨hmem, rfl, horg, hlive, hpayable⟩ := of_mem_payableInvoices hinvoice
    exact ⟨⟨hmem, hmember, horg, hlive, hpayable, hwanted⟩, hrow⟩
  · rintro ⟨h, hrow⟩
    refine ⟨⟨row.invoice.clientId, h.member, (hopen _).mpr ⟨?_, hrow⟩⟩, h.wanted⟩
    refine (List.mem_insertionSort issuedBefore).mpr (List.mem_filter.mpr ⟨h.mem, ?_⟩)
    simp [h.organizationId, h.live, h.payable]

instance : Std.Total openedBefore where
  total a b := by
    simp only [openedBefore, issuedBefore]
    omega

instance : IsTrans OpenInvoice openedBefore where
  trans a b c hab hbc := by
    simp only [openedBefore, issuedBefore] at *
    omega

theorem selectedRows_pairwise : (g.selectedRows org groupId opts).Pairwise openedBefore :=
  (List.pairwise_insertionSort openedBefore _).filter _

theorem members_nodup (hsound : g.Sound tick) : (g.members groupId org).Nodup := by
  have hids : ((g.clients.filter fun row => row.clientGroupId == some groupId &&
      row.deletedAt.isNone && row.organizationId == org).map Client.id).Nodup :=
    hsound.clients.sublist (List.Sublist.map _ List.filter_sublist)
  exact (List.perm_insertionSort _ _).nodup_iff.mpr hids

theorem selectedRows_nodup (hsound : g.Sound tick) :
    ((g.selectedRows org groupId opts).map fun row => row.invoice.id).Nodup := by
  have hopen : ∀ clientId, ((g.openInvoices g org clientId).map fun row => row.invoice.id).Nodup := by
    intro clientId
    have hids : (g.openInvoices g org clientId).map (fun row => row.invoice.id) =
        (payableInvoices org clientId none g.books.invoices).map Invoice.id := by
      rw [GroupDb.openInvoices, List.map_map]
      rfl
    rw [hids, payableInvoices, ((List.perm_insertionSort issuedBefore _).map _).nodup_iff]
    exact hsound.keyed.invoices.sublist (List.Sublist.map _ List.filter_sublist)
  -- invoices of two members are different, as each has one client
  have hgathered : (((g.members groupId org).flatMap (g.openInvoices g org)).map
      fun row => row.invoice.id).Nodup := by
    rw [List.map_flatMap, List.nodup_flatMap]
    refine ⟨fun clientId _ => hopen clientId, (members_nodup hsound).imp fun hne => ?_⟩
    intro id hfirst hsecond
    obtain ⟨row, hrow, rfl⟩ := List.mem_map.mp hfirst
    obtain ⟨row', hrow', hid⟩ := List.mem_map.mp hsecond
    obtain ⟨invoice, hinvoice, rfl⟩ := List.mem_map.mp hrow
    obtain ⟨invoice', hinvoice', rfl⟩ := List.mem_map.mp hrow'
    obtain ⟨hmem, hclient, -⟩ := of_mem_payableInvoices hinvoice
    obtain ⟨hmem', hclient', -⟩ := of_mem_payableInvoices hinvoice'
    have hsame : invoice' = invoice :=
      List.inj_on_of_nodup_map hsound.keyed.invoices hmem' hmem hid
    exact hne (by rw [← hclient, ← hclient', hsame])
  rw [GroupDb.selectedRows]
  refine List.Nodup.sublist (List.Sublist.map _ List.filter_sublist) ?_
  exact ((List.perm_insertionSort openedBefore _).map _).nodup_iff.mpr hgathered

/-- What a group payment leaves behind. -/
structure GroupDb.Paid (g g' : GroupDb) (org groupId : Nat) (opts : PayOptions)
    (result : Settlement) : Prop where
  amount : ∀ a, opts.amount = some a → result.amount = a
  payments : g'.books.payments = g.books.payments ++ [⟨result.paymentId, org, result.clientId,
    result.amount, result.currency, opts.referenceNumber, none⟩]
  /-- Allocations within what invoices owe, oldest first, that with the rest make up the amount. -/
  allocations : ∃ new, g'.books.allocations = g.books.allocations ++ new ∧
    (new.map Allocation.amount).sum + result.unallocatedCredit = result.amount ∧
    0 ≤ result.unallocatedCredit ∧
    ∀ row ∈ new, row.paymentId = result.paymentId ∧ row.live = true ∧ 0 < row.amount ∧
      ∃ invoice, g.Selected org groupId opts invoice ∧ row.invoiceId = invoice.id ∧
        row.amount ≤ g.balanceDue invoice ∧
        ∀ older, g.Selected org groupId opts older → issuedBefore older invoice →
          older.id ≠ invoice.id → older.total ≤ allocatedTo older.id g'.books.allocations
  ledger : ∃ credits, g'.books.ledger = g.books.ledger ++ credits ∧
    (credits.map LedgerEntry.amount).sum = result.amount ∧
    ∀ row ∈ credits, row.isCredit = true ∧ row.referenceType = "payment" ∧
      row.referenceId = result.paymentId

theorem allocated_append (side : Allocation → Nat) (id : Nat) (rows new : List Allocation) :
    allocated side id (rows ++ new) = allocated side id rows + allocated side id new := by
  simp only [allocated, sumAmounts, List.map_append, List.sum_append]

theorem amount_le_allocated {side : Allocation → Nat} {new : List Allocation}
    (hnonneg : ∀ row ∈ new, 0 ≤ row.amount) {row : Allocation} (hrow : row ∈ new)
    (hlive : row.live = true) : row.amount ≤ allocated side (side row) new := by
  have hweight : liveWeight side (side row) row = row.amount := by simp [liveWeight, hlive]
  rw [allocated_eq_total, ← hweight]
  refine List.single_le_sum (fun w hw => ?_) _ (List.mem_map_of_mem hrow)
  obtain ⟨other, hother, rfl⟩ := List.mem_map.mp hw
  exact liveWeight_nonneg hnonneg other hother

theorem allocated_nonneg {side : Allocation → Nat} {id : Nat} {new : List Allocation}
    (hnonneg : ∀ row ∈ new, 0 ≤ row.amount) : 0 ≤ allocated side id new := by
  rw [allocated_eq_total]
  refine List.sum_nonneg fun w hw => ?_
  obtain ⟨other, hother, rfl⟩ := List.mem_map.mp hw
  exact liveWeight_nonneg hnonneg other hother

theorem served_older {amount portion : Int} {row : OpenInvoice} {older : Invoice}
    (hserved : (row, portion) ∈ Pour.pour OpenInvoice.due amount (g.selectedRows org groupId opts))
    (holder : g.Selected org groupId opts older) (hbefore : issuedBefore older row.invoice)
    (hne : older.id ≠ row.invoice.id) (hdue : 0 < g.balanceDue older) :
    (⟨older, g.balanceDue older, g.invoiceCurrency older.id⟩, g.balanceDue older) ∈
      Pour.pour OpenInvoice.due amount (g.selectedRows org groupId opts) := by
  set olderRow : OpenInvoice := ⟨older, g.balanceDue older, g.invoiceCurrency older.id⟩
    with hrow
  have hmem : olderRow ∈ g.selectedRows org groupId opts := mem_selectedRows.mpr ⟨holder, rfl⟩
  have hahead : ¬openedBefore row olderRow := fun h => by
    have hback : issuedBefore row.invoice older := h
    simp only [issuedBefore] at hback hbefore
    omega
  have holderDue : olderRow.due = g.balanceDue older := max_eq_right hdue.le
  have hfull := Pour.served_before (fun _ => (Std.Total.total _ _).elim id id)
    selectedRows_pairwise hserved hmem hahead (holderDue ▸ hdue)
  rwa [holderDue] at hfull

theorem GroupDb.Spent.paid {g' : GroupDb} {amount : Int} {result : Settlement}
    (hspent : g.Spent g' (Pour.pour OpenInvoice.due amount (g.selectedRows org groupId opts))
      opts.referenceNumber org result) (hamount : 0 < amount) (hresult : result.amount = amount)
    (hopts : ∀ a, opts.amount = some a → amount = a) : g.Paid g' org groupId opts result := by
  set portions := Pour.pour OpenInvoice.due amount (g.selectedRows org groupId opts)
    with hportions
  obtain ⟨new, hnew, hcontent⟩ := hspent.allocations
  obtain ⟨rows, hrows, hcredited⟩ := hspent.ledger
  have hpoured : Pour.poured portions ≤ amount := Pour.poured_le hamount.le
  have hleft : result.unallocatedCredit = amount - Pour.poured portions := by
    rw [hspent.unallocatedCredit, hspent.allocatedTotal, hresult]
  -- every stored row is a portion, and every portion a stored row
  have hrow : ∀ row ∈ new, ∃ portion ∈ portions, row.content =
      portionContent result.paymentId portion := fun row h => by
    have hmem : row.content ∈ portions.map (portionContent result.paymentId) :=
      hcontent ▸ List.mem_map_of_mem h
    obtain ⟨portion, hportion, heq⟩ := List.mem_map.mp hmem
    exact ⟨portion, hportion, heq.symm⟩
  have hstored : ∀ portion ∈ portions, ∃ row ∈ new, row.content =
      portionContent result.paymentId portion := fun portion h => by
    have hmem : portionContent result.paymentId portion ∈ new.map Allocation.content :=
      hcontent ▸ List.mem_map_of_mem h
    exact List.mem_map.mp hmem
  have hnonneg : ∀ row ∈ new, 0 ≤ row.amount := fun row h => by
    obtain ⟨portion, hportion, heq⟩ := hrow row h
    have hamount : row.amount = portion.2 := congrArg (fun c => c.2.2.1) heq
    exact hamount ▸ (Pour.of_mem_pour hportion).2.1.le
  refine ⟨fun a ha => hresult.trans (hopts a ha), hspent.payments, ⟨new, hnew, ?_, ?_, ?_⟩,
    ⟨rows, hrows, ?_, hcredited.reference⟩⟩
  · have hsum := congrArg (fun l => (l.map fun c => c.2.2.1).sum) hcontent
    simp only [List.map_map] at hsum
    have hmade : (new.map Allocation.amount).sum = Pour.poured portions := hsum
    omega
  · omega
  · intro row h
    obtain ⟨portion, hportion, heq⟩ := hrow row h
    obtain ⟨hselected, hpositive, hwithin⟩ := Pour.of_mem_pour hportion
    obtain ⟨hinvoice, hopen⟩ := mem_selectedRows.mp hselected
    have hpayment : row.paymentId = result.paymentId := congrArg (fun c => c.1) heq
    have hinvoiceId : row.invoiceId = portion.1.invoice.id := congrArg (fun c => c.2.1) heq
    have hportionAmount : row.amount = portion.2 := congrArg (fun c => c.2.2.1) heq
    have hdeleted : row.deletedAt = none := congrArg (fun c => c.2.2.2) heq
    have hdue : portion.1.due = max 0 (g.balanceDue portion.1.invoice) := by rw [hopen]; rfl
    refine ⟨hpayment, by rw [Allocation.live, hdeleted]; rfl, by omega, portion.1.invoice, hinvoice,
      hinvoiceId, by omega, fun older holder hbefore hne => ?_⟩
    rw [hnew, allocatedTo, allocated_append]
    by_cases howes : 0 < g.balanceDue older
    · obtain ⟨full, hfull, hfullContent⟩ :=
        hstored _ (served_older hportion holder hbefore hne howes)
      have hto : full.invoiceId = older.id := congrArg (fun c => c.2.1) hfullContent
      have hall : full.amount = g.balanceDue older := congrArg (fun c => c.2.2.1) hfullContent
      have hfullDeleted : full.deletedAt = none := congrArg (fun c => c.2.2.2) hfullContent
      have hfullLive : full.live = true := by rw [Allocation.live, hfullDeleted]; rfl
      have hplaced : full.amount ≤ allocated Allocation.invoiceId full.invoiceId new :=
        amount_le_allocated hnonneg hfull hfullLive
      rw [hto, hall, GroupDb.balanceDue, allocatedTo] at hplaced
      omega
    · have hmore : 0 ≤ allocated Allocation.invoiceId older.id new := allocated_nonneg hnonneg
      rw [GroupDb.balanceDue, allocatedTo] at howes
      omega
  · have hamounts := congrArg (fun l => (l.map Prod.snd).sum) hcredited.amounts
    simp only [List.map_map] at hamounts
    have hcredits : (rows.map LedgerEntry.amount).sum =
        ((creditsByClient (portions.map SettledInvoice.of) result.clientId
          result.unallocatedCredit).map Prod.snd).sum := hamounts
    have hpositive : ∀ row ∈ portions.map SettledInvoice.of, 0 < row.amount := fun row h => by
      obtain ⟨portion, hportion, rfl⟩ := List.mem_map.mp h
      exact (Pour.of_mem_pour hportion).2.1
    rw [hcredits, (creditsByClient_spec hpositive (by omega)).1, settledTotal_of]
    omega

/-- A group payment conserves its money and settles oldest first, or is refused as a whole. -/
theorem payGroup_paid (world : Nat → (e : Effect) → e.Answer) {g : GroupDb} {tick : Nat}
    (hsound : g.Sound tick) (org groupId : Nat) (opts : PayOptions) :
    let o := alone groupEngine world (payGroup org groupId opts) tick g none
    (∃ refusal, o.value = .error refusal ∧ o.db = g) ∨
    ∃ result, o.value = .ok result ∧ g.Paid o.db org groupId opts result := by
  intro o
  rcases payGroup_cases world org groupId opts tick g with
    hrefused | ⟨primaryId, amount, currency, tick', hamount, hopts, hle, hsettle⟩
  · exact Or.inl hrefused
  have hnodup : ((g.selectedRows org groupId opts).map fun row => row.invoice.id).Nodup :=
    selectedRows_nodup hsound
  rcases settleGroup_spent world (hsound.later hle) org primaryId hnodup hamount currency
      opts.referenceNumber with hrefused | ⟨result, hvalue, hresult, -, hspent⟩
  · rw [← hsettle] at hrefused
    exact Or.inl hrefused
  · rw [← hsettle] at hvalue hspent
    exact Or.inr ⟨result, hvalue, hspent.paid hamount hresult hopts⟩

/-- A shared group of two clients with one open invoice each. -/
def sampleGroup : GroupDb where
  books := {
    payments := []
    invoices := [⟨1, 1, 2, none, "B-1", 1, 10000, .overdue, none, none⟩,
      ⟨2, 1, 1, none, "B-2", 2, 5000, .issued, none, none⟩]
    allocations := []
    ledger := []
    cfdis := [] }
  groups := [⟨7, 1, .shared, some 1, none⟩]
  clients := [⟨1, 1, some 7, none⟩, ⟨2, 1, some 7, none⟩]
  invoiceCurrency := fun _ => "MXN"
  getCurrency := fun _ => "MXN"

theorem sampleGroup_sound : sampleGroup.Sound 10 :=
  ⟨⟨by decide, by decide, by decide⟩, by decide, nofun, nofun, nofun⟩

/-- A payment over both invoices of the sample that leaves the younger one partly open. -/
theorem payGroup_paid_sample :
    let o := alone groupEngine quietWorld (payGroup 1 7 ⟨some 12000, none, none⟩) 10 sampleGroup none
    (∃ refusal, o.value = .error refusal ∧ o.db = sampleGroup) ∨
    ∃ result, o.value = .ok result ∧
      sampleGroup.Paid o.db 1 7 ⟨some 12000, none, none⟩ result :=
  payGroup_paid quietWorld sampleGroup_sound 1 7 ⟨some 12000, none, none⟩

/-- A payment of the younger invoice alone goes through and leaves the older one open. -/
theorem payGroup_skips_older :
    let o := alone groupEngine quietWorld (payGroup 1 7 ⟨none, none, some [2]⟩) 10 sampleGroup none
    (∃ result, o.value = .ok result) ∧
    (∃ row ∈ o.db.books.allocations, row.invoiceId = 2 ∧ row.live = true ∧ row.amount = 5000) ∧
    ∃ older ∈ sampleGroup.books.invoices, ∃ younger ∈ sampleGroup.books.invoices, younger.id = 2 ∧
      issuedBefore older younger ∧ older.id ≠ younger.id ∧
      sampleGroup.Selected 1 7 ⟨none, none, none⟩ older ∧
      allocatedTo older.id o.db.books.allocations < older.total := by
  refine ⟨⟨_, rfl⟩, ⟨⟨16, 15, 2, 5000, none⟩, by decide, rfl, rfl, rfl⟩,
    ⟨1, 1, 2, none, "B-1", 1, 10000, .overdue, none, none⟩, by decide,
    ⟨2, 1, 1, none, "B-2", 2, 5000, .issued, none, none⟩, by decide, rfl, by decide, by decide,
    ⟨by decide, by decide, rfl, rfl, rfl, rfl⟩, by decide⟩

end Selection

end FireIsp.Billing
