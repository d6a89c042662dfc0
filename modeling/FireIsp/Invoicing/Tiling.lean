import FireIsp.Invoicing.Generate
import Mathlib.Order.Monotone.Basic

/-!
# Periods of a contract, one after the other

Calls of `generateBillingPeriod` for one contract, with its periods invoiced between them.  The periods
follow each other without gaps; whether one begins in every month depends on the day of the start.
-/

namespace FireIsp.Invoicing

open Txn Calendar

/-- What happens to the periods of a contract. -/
inductive PeriodEvent
  /-- `generateBillingPeriod` is called. -/
  | generate
  | invoice (periodId invoiceId : Nat)

variable (contract : Contract) (world : Nat → (read : Query) → read.Answer)

/-- The clock and the tables after an event. -/
def PeriodEvent.happens (s : Nat × Db) : PeriodEvent → Nat × Db
  | generate =>
    let left := alone engine world (generateBillingPeriod contract) s.1 s.2 none
    (left.tick, left.db)
  | invoice periodId invoiceId => (s.1 + 1, s.2.apply (.invoiced periodId invoiceId))

/-- The clock and the tables after some events. -/
def history (s : Nat × Db) (events : List PeriodEvent) : Nat × Db :=
  Transition.run (PeriodEvent.happens contract world) s events

/-- Periods of a contract, in the order they were generated in. -/
def Db.periodsOf (db : Db) (contractId : Nat) : List Period :=
  db.periods.filter fun row => row.contractId == contractId

def startMonths (rows : List Period) : List Int := rows.map fun row => monthIndex row.periodStart

/-- The periods cover the time from a date on, one of them begins in every month. -/
structure Tiling (start : Int) (rows : List Period) : Prop where
  first : ∀ row ∈ rows.head?, row.periodStart = start
  proper : ∀ row ∈ rows, row.periodStart ≤ row.periodEnd
  contiguous : ∀ i, (h : i + 1 < rows.length) →
    (rows.get ⟨i + 1, h⟩).periodStart = (rows.get ⟨i, Nat.lt_of_succ_lt h⟩).periodEnd + 1
  disjoint : rows.Pairwise fun a b => a.periodEnd < b.periodStart
  monthly : ∀ month, monthIndex start ≤ month → (∃ later ∈ startMonths rows, month ≤ later) →
    (startMonths rows).count month = 1

def nextStart (date : Int) : Int := setMonth date ((civil date).month + 1)

/-- The start of a period, by its number. -/
def startAt (start : Int) (k : Nat) : Int := nextStart^[k] start

theorem startAt_succ (start : Int) (k : Nat) : startAt start (k + 1) = nextStart (startAt start k) :=
  Function.iterate_succ_apply' nextStart k start

theorem monthIndex_lt_nextStart (date : Int) : monthIndex date < monthIndex (nextStart date) := by
  rw [nextStart]
  rcases monthIndex_setMonth_succ date with ⟨hmonth, -⟩ | ⟨hmonth, -⟩ <;> omega

theorem lt_nextStart (date : Int) : date < nextStart date := by
  have hmonth := monthIndex_lt_nextStart date
  by_contra hle
  have hmono := monthIndex_mono (Int.not_lt.mp hle)
  omega

variable {i j : Nat}

theorem startAt_lt (start : Int) (h : i < j) : startAt start i < startAt start j := by
  refine strictMono_nat_of_lt_succ (fun k => ?_) h
  rw [startAt_succ]
  exact lt_nextStart _

theorem startMonth_lt (start : Int) (h : i < j) :
    monthIndex (startAt start i) < monthIndex (startAt start j) := by
  refine @strictMono_nat_of_lt_succ _ _ (fun k => monthIndex (startAt start k)) (fun k => ?_) _ _ h
  rw [startAt_succ]
  exact monthIndex_lt_nextStart _

theorem startAt_le (start : Int) (h : i ≤ j) : startAt start i ≤ startAt start j := by
  rcases Nat.lt_or_eq_of_le h with hlt | rfl
  · exact (startAt_lt start hlt).le
  · exact Int.le_refl _

/-- The periods of a contract are the first ones of its sequence, and none is skipped. -/
structure Generated (start : Int) (rows : List Period) : Prop where
  windows : ∀ i, (h : i < rows.length) → (rows.get ⟨i, h⟩).periodStart = startAt start i ∧
    (rows.get ⟨i, h⟩).periodEnd = startAt start (i + 1) - 1
  statuses : ∀ row ∈ rows, row.status ≠ .skipped

variable {contract world} {start : Int} {rows : List Period}

theorem Generated.ends (h : Generated start rows) :
    rows.Pairwise fun a b => a.periodEnd < b.periodEnd := by
  refine List.pairwise_iff_get.mpr fun i j hij => ?_
  rw [(h.windows i i.isLt).2, (h.windows j j.isLt).2]
  have hmono := startAt_lt start (Nat.succ_lt_succ hij)
  exact Int.sub_lt_sub_right hmono 1

theorem lastEnding_getLast? (h : rows.Pairwise fun a b => a.periodEnd < b.periodEnd) :
    lastEnding rows = rows.getLast? := by
  induction rows with
  | nil => rfl
  | cons row rows ih =>
    obtain ⟨hrow, hrows⟩ := List.pairwise_cons.mp h
    rw [lastEnding, ih hrows, List.getLast?_cons]
    cases hlast : rows.getLast? with
    | none => rfl
    | some best => exact if_pos (hrow best (List.mem_of_getLast? hlast))

theorem lastEnding_eq_none (h : lastEnding rows = none) : rows = [] := by
  cases rows with
  | nil => rfl
  | cons row rows =>
    rw [lastEnding] at h
    split at h
    · cases h
    · split_ifs at h

theorem Generated.getLast (h : Generated start rows) {last : Period}
    (hlast : rows.getLast? = some last) : last.periodEnd = startAt start rows.length - 1 := by
  rw [List.getLast?_eq_getElem?] at hlast
  obtain ⟨hlength, rfl⟩ := List.getElem?_eq_some_iff.mp hlast
  have hend := (h.windows (rows.length - 1) hlength).2
  rwa [Nat.sub_add_cancel (Nat.lt_of_le_of_lt (Nat.zero_le _) (by omega))] at hend

theorem Generated.snoc (h : Generated start rows) {row : Period}
    (hstart : row.periodStart = startAt start rows.length)
    (hend : row.periodEnd = startAt start (rows.length + 1) - 1) (hstatus : row.status ≠ .skipped) :
    Generated start (rows ++ [row]) := by
  refine ⟨fun i hi => ?_, fun other hother => ?_⟩
  · rw [List.length_append, List.length_singleton] at hi
    simp only [List.get_eq_getElem]
    rcases Nat.lt_succ_iff_lt_or_eq.mp hi with hold | rfl
    · rw [List.getElem_append_left hold]
      exact h.windows i hold
    · rw [List.getElem_concat_length rfl]
      exact ⟨hstart, hend⟩
  · rcases List.mem_append.mp hother with hold | hnew
    · exact h.statuses other hold
    · rwa [List.mem_singleton.mp hnew]

theorem lastPeriod_invoiced {db : Db} (h : Generated start (db.periodsOf contract.id))
    (hpending : db.lastPeriod contract.id .pending = none) :
    db.lastPeriod contract.id .invoiced = (db.periodsOf contract.id).getLast? := by
  have hnone := lastEnding_eq_none hpending
  have hall : (db.periods.filter fun row => row.contractId == contract.id && row.status == .invoiced) =
      db.periodsOf contract.id := by
    refine List.filter_congr fun row hrow => ?_
    cases hcontract : row.contractId == contract.id with
    | false => rfl
    | true =>
      have hmem : row ∈ db.periodsOf contract.id := List.mem_filter.mpr ⟨hrow, hcontract⟩
      have hskipped := h.statuses row hmem
      have hpending : ¬(row.contractId == contract.id && row.status == .pending) = true :=
        List.filter_eq_nil_iff.mp hnone row hrow
      rw [hcontract] at hpending
      cases hstatus : row.status with
      | pending => rw [hstatus] at hpending; exact absurd rfl hpending
      | invoiced => rfl
      | skipped => exact absurd hstatus hskipped
  rw [Db.lastPeriod, hall, lastEnding_getLast? h.ends]

/-- What a call inserts. -/
def newPeriod (contract : Contract) (tick : Nat) (periodStart : Int) : Period where
  id := tick
  contractId := contract.id
  periodStart
  periodEnd := nextStart periodStart - 1
  invoiceId := none
  status := .pending
  scheduledAt := setDate periodStart
    (if contract.billingDay.getD 0 = 0 then 1 else contract.billingDay.getD 0 : Nat)

/-- What a call does once it knows the window. -/
def insertNext (contract : Contract) (periodStart periodEnd scheduledAt : Int) :
    Request (Except Failure Period) := do
  let inserted ← query (.insertPeriod contract.id periodStart periodEnd scheduledAt)
  match inserted with
  | none => return .error .duplicateWindow
  | some id =>
    let stored ← query (.selectPeriod id)
    match stored with
    | none => return .error .noPeriod
    | some row => return .ok row

theorem insertNext_db {tick : Nat} {db : Db} {periodStart periodEnd scheduledAt : Int}
    (h : db.acceptsPeriod contract.id periodStart periodEnd = true) :
    (alone engine world (insertNext contract periodStart periodEnd scheduledAt) tick db none).db =
      db.apply (.period ⟨tick, contract.id, periodStart, periodEnd, none, .pending, scheduledAt⟩) := by
  have hexec : engine.exec (.insertPeriod contract.id periodStart periodEnd scheduledAt) tick db db =
      (some tick, [.period ⟨tick, contract.id, periodStart, periodEnd, none, .pending,
        scheduledAt⟩]) := if_pos h
  simp only [insertNext, query, alone_send_pool, hexec]
  split <;> rfl

/-- The start of a period after the last invoiced one. -/
def startAfter (contract : Contract) : Option Period → Int
  | some row => setDate row.periodEnd ((civil row.periodEnd).day + 1)
  | none => contract.startDate

theorem generateBillingPeriod_eq : generateBillingPeriod contract = (do
    let existing ← query (.selectPending contract.id)
    match existing with
    | some row => return .ok row
    | none =>
      let lastPeriod ← query (.selectLastInvoiced contract.id)
      let periodStart := startAfter contract lastPeriod
      insertNext contract periodStart
        (setDate (nextStart periodStart) ((civil (nextStart periodStart)).day - 1))
        (newPeriod contract 0 periodStart).scheduledAt) := by
  refine congrArg (query (.selectPending contract.id) >>= ·) (funext fun existing => ?_)
  cases existing with
  | some row => rfl
  | none =>
    refine congrArg (query (.selectLastInvoiced contract.id) >>= ·) (funext fun lastPeriod => ?_)
    cases lastPeriod <;> rfl

variable {s : Nat × Db}

theorem generate_none {periodStart : Int} (hpending : s.2.lastPeriod contract.id .pending = none)
    (hstart : startAfter contract (s.2.lastPeriod contract.id .invoiced) = periodStart)
    (haccepts : s.2.acceptsPeriod contract.id periodStart (nextStart periodStart - 1) = true) :
    (PeriodEvent.generate.happens contract world s).2 =
      s.2.apply (.period (newPeriod contract (s.1 + 2) periodStart)) := by
  have hread : ∀ tick, engine.exec (.selectPending contract.id) tick s.2 s.2 = (none, []) := fun _ =>
    congrArg (fun row => (row, [])) hpending
  have hend : setDate (nextStart periodStart) ((civil (nextStart periodStart)).day - 1) =
      nextStart periodStart - 1 := setDate_day (nextStart periodStart) (-1)
  have hlast : ∀ tick, engine.exec (.selectLastInvoiced contract.id) tick s.2 s.2 =
      (s.2.lastPeriod contract.id .invoiced, []) := fun _ => rfl
  have hvisible : engine.visible s.2 [] = s.2 := rfl
  simp only [PeriodEvent.happens, generateBillingPeriod_eq, query, alone_send_pool, hread, hvisible,
    hlast]
  rw [hstart, hend, insertNext_db haccepts]
  rfl

theorem generate_some {row : Period} (h : s.2.lastPeriod contract.id .pending = some row) :
    (PeriodEvent.generate.happens contract world s).2 = s.2 := by
  have hread : ∀ tick, engine.exec (.selectPending contract.id) tick s.2 s.2 = (some row, []) :=
    fun _ => congrArg (fun row => (row, [])) h
  simp only [PeriodEvent.happens, generateBillingPeriod, query, alone_send_pool, hread]
  rfl

theorem Generated.generate (h : Generated contract.startDate (s.2.periodsOf contract.id)) :
    Generated contract.startDate
      ((PeriodEvent.generate.happens contract world s).2.periodsOf contract.id) := by
  cases hpending : s.2.lastPeriod contract.id .pending with
  | some row => rwa [generate_some hpending]
  | none =>
    have hstart : startAfter contract (s.2.lastPeriod contract.id .invoiced) =
        startAt contract.startDate (s.2.periodsOf contract.id).length := by
      rw [lastPeriod_invoiced h hpending]
      cases hlast : (s.2.periodsOf contract.id).getLast? with
      | none =>
        rw [List.getLast?_eq_none_iff.mp hlast]
        rfl
      | some last =>
        have hend := h.getLast hlast
        have hnext := setDate_day last.periodEnd 1
        exact hnext.trans (by omega)
    have haccepts : s.2.acceptsPeriod contract.id
        (startAt contract.startDate (s.2.periodsOf contract.id).length)
        (nextStart (startAt contract.startDate (s.2.periodsOf contract.id).length) - 1) = true := by
      refine List.all_eq_true.mpr fun row hrow => ?_
      cases hcontract : row.contractId == contract.id with
      | false => rfl
      | true =>
        have hmem : row ∈ s.2.periodsOf contract.id := List.mem_filter.mpr ⟨hrow, hcontract⟩
        obtain ⟨i, rfl⟩ := List.mem_iff_get.mp hmem
        have hbefore := startAt_lt contract.startDate i.isLt
        have hne : ((s.2.periodsOf contract.id).get i).periodStart ≠
            startAt contract.startDate (s.2.periodsOf contract.id).length := by
          rw [(h.windows i i.isLt).1]
          exact Int.ne_of_lt hbefore
        rw [beq_false_of_ne hne]
        rfl
    have hrows : (PeriodEvent.generate.happens contract world s).2.periodsOf contract.id =
        s.2.periodsOf contract.id ++ [newPeriod contract (s.1 + 2)
          (startAt contract.startDate (s.2.periodsOf contract.id).length)] := by
      rw [generate_none hpending hstart haccepts]
      simp only [Db.periodsOf, Db.apply, List.filter_append]
      congr 1
      exact List.filter_cons_of_pos (beq_self_eq_true contract.id)
    rw [hrows]
    refine h.snoc rfl ?_ (by rintro ⟨⟩)
    rw [startAt_succ]
    rfl

theorem Generated.invoice (periodId invoiceId : Nat)
    (h : Generated start (s.2.periodsOf contract.id)) :
    Generated start
      (((PeriodEvent.invoice periodId invoiceId).happens contract world s).2.periodsOf contract.id) := by
  let change := fun row : Period => if row.id = periodId then row.invoicedBy invoiceId else row
  have hcontract : ∀ row, (change row).contractId = row.contractId := fun row => by
    simp only [change]
    split <;> rfl
  have hrows : ((PeriodEvent.invoice periodId invoiceId).happens contract world s).2.periodsOf
      contract.id = (s.2.periodsOf contract.id).map change := by
    simp only [PeriodEvent.happens, Db.periodsOf, Db.apply, invoicedPeriods]
    rw [List.filter_map]
    congr 1
    refine List.filter_congr fun row _ => ?_
    rw [Function.comp_apply, hcontract]
  rw [hrows]
  constructor
  · intro i hi
    rw [List.length_map] at hi
    obtain ⟨hwindow, hend⟩ := h.windows i hi
    simp only [List.get_eq_getElem, List.getElem_map] at hwindow hend ⊢
    simp only [change]
    split
    · exact ⟨hwindow, hend⟩
    · exact ⟨hwindow, hend⟩
  · intro row hrow
    obtain ⟨old, hold, rfl⟩ := List.mem_map.mp hrow
    simp only [change]
    split
    · rintro ⟨⟩
    · exact h.statuses old hold

theorem Generated.history (hnew : s.2.periodsOf contract.id = []) (events : List PeriodEvent) :
    Generated contract.startDate ((history contract world s events).2.periodsOf contract.id) := by
  have hinit : Generated contract.startDate (s.2.periodsOf contract.id) := by
    rw [hnew]
    exact ⟨fun _ hi => absurd hi (Nat.not_lt_zero _), fun _ hrow => absurd hrow List.not_mem_nil⟩
  clear hnew
  induction events generalizing s with
  | nil => exact hinit
  | cons event events ih =>
    refine ih ?_
    cases event with
    | generate => exact hinit.generate
    | invoice periodId invoiceId => exact hinit.invoice periodId invoiceId

theorem Generated.mem_startMonths (h : Generated start rows) {month : Int} :
    month ∈ startMonths rows ↔ ∃ k < rows.length, monthIndex (startAt start k) = month := by
  rw [startMonths, List.mem_map]
  constructor
  · rintro ⟨row, hrow, rfl⟩
    obtain ⟨k, rfl⟩ := List.mem_iff_get.mp hrow
    exact ⟨k, k.isLt, by rw [(h.windows k k.isLt).1]⟩
  · rintro ⟨k, hk, rfl⟩
    exact ⟨rows.get ⟨k, hk⟩, List.get_mem rows ⟨k, hk⟩, by rw [(h.windows k hk).1]⟩

theorem Generated.nodup_startMonths (h : Generated start rows) : (startMonths rows).Nodup := by
  refine List.pairwise_map.mpr (List.pairwise_iff_get.mpr fun i j hij => ?_)
  rw [(h.windows i i.isLt).1, (h.windows j j.isLt).1]
  exact Int.ne_of_lt (startMonth_lt start hij)

theorem startAt_regular {n : Nat}
    (h : ∀ j : Nat, 0 < j → j < n → (civil start).day ≤ daysIn (monthIndex start + j)) {k : Nat}
    (hk : k < n) : monthIndex (startAt start k) = monthIndex start + k ∧
      (civil (startAt start k)).day = (civil start).day := by
  induction k with
  | zero => exact ⟨(Int.add_zero _).symm, rfl⟩
  | succ k ih =>
    obtain ⟨hmonth, hday⟩ := ih (Nat.lt_of_succ_lt hk)
    have hfits := h (k + 1) (Nat.succ_pos k) hk
    have hsame : monthIndex start + ((k + 1 : Nat) : Int) = monthIndex (startAt start k) + 1 := by
      omega
    rw [hsame] at hfits ⊢
    rw [startAt_succ, nextStart]
    rcases monthIndex_setMonth_succ (startAt start k) with ⟨hnext, hsameDay, -⟩ | ⟨-, hlong⟩
    · exact ⟨hnext, hsameDay.trans hday⟩
    · omega

theorem startAt_monthly {n : Nat}
    (h : ∀ month, monthIndex start ≤ month →
      (∃ k < n, month ≤ monthIndex (startAt start k)) → ∃ k < n, monthIndex (startAt start k) = month)
    {k : Nat} (hk : k < n) : monthIndex (startAt start k) = monthIndex start + k ∧
      (civil (startAt start k)).day = (civil start).day ∧
      (0 < k → (civil start).day ≤ daysIn (monthIndex start + k)) := by
  induction k with
  | zero => exact ⟨(Int.add_zero _).symm, rfl, fun hpos => absurd hpos (Nat.lt_irrefl 0)⟩
  | succ k ih =>
    obtain ⟨hmonth, hday, -⟩ := ih (Nat.lt_of_succ_lt hk)
    have hsame : monthIndex start + ((k + 1 : Nat) : Int) = monthIndex (startAt start k) + 1 := by
      omega
    rw [hsame]
    have hstep := startAt_succ start k
    rw [nextStart] at hstep
    rcases monthIndex_setMonth_succ (startAt start k) with ⟨hnext, hsameDay, hfits⟩ | ⟨hnext, -⟩
    · rw [hstep]
      exact ⟨hnext, hsameDay.trans hday, fun _ => hday ▸ hfits⟩
    · -- the month after the `k`-th start is skipped
      rw [← hstep] at hnext
      obtain ⟨i, -, hi⟩ := h (monthIndex (startAt start k) + 1) (by omega) ⟨k + 1, hk, by omega⟩
      rcases Nat.lt_or_ge k i with hlater | hearlier
      · have hmono : monthIndex (startAt start (k + 1)) ≤ monthIndex (startAt start i) :=
          monthIndex_mono (startAt_le start (Nat.succ_le_of_lt hlater))
        omega
      · have hmono : monthIndex (startAt start i) ≤ monthIndex (startAt start k) :=
          monthIndex_mono (startAt_le start hearlier)
        omega

/-- Periods tile; one begins in every month iff later months have the first day. -/
theorem tiling_iff (contract : Contract) (world : Nat → (read : Query) → read.Answer) {s : Nat × Db}
    (hnew : s.2.periodsOf contract.id = []) (events : List PeriodEvent) :
    Tiling contract.startDate ((history contract world s events).2.periodsOf contract.id) ↔
      ∀ j : Nat, 0 < j →
        j < ((history contract world s events).2.periodsOf contract.id).length →
        (civil contract.startDate).day ≤ daysIn (monthIndex contract.startDate + j) := by
  have hrows := @Generated.history contract world s hnew events
  generalize (history contract world s events).2.periodsOf contract.id = rows at hrows
  constructor
  · intro htiling j hpos hj
    have hmonths : ∀ month, monthIndex contract.startDate ≤ month →
        (∃ k < rows.length, month ≤ monthIndex (startAt contract.startDate k)) →
        ∃ k < rows.length, monthIndex (startAt contract.startDate k) = month := by
      rintro month hfrom ⟨k, hk, hto⟩
      have hcount := htiling.monthly month hfrom ⟨_, hrows.mem_startMonths.mpr ⟨k, hk, rfl⟩, hto⟩
      exact hrows.mem_startMonths.mp (List.count_pos_iff.mp (by omega))
    exact (startAt_monthly hmonths hj).2.2 hpos
  · intro hfits
    refine ⟨?_, ?_, ?_, ?_, ?_⟩
    · intro row hhead
      rw [List.head?_eq_getElem?] at hhead
      obtain ⟨hlength, rfl⟩ := List.getElem?_eq_some_iff.mp hhead
      exact (hrows.windows 0 hlength).1
    · intro row hrow
      obtain ⟨k, rfl⟩ := List.mem_iff_get.mp hrow
      obtain ⟨hstart, hend⟩ := hrows.windows k k.isLt
      have hlt := startAt_lt contract.startDate (Nat.lt_succ_self k)
      rw [hstart, hend]
      exact Int.le_sub_one_of_lt hlt
    · intro i hi
      rw [(hrows.windows (i + 1) hi).1, (hrows.windows i (Nat.lt_of_succ_lt hi)).2, Int.sub_add_cancel]
    · refine List.pairwise_iff_get.mpr fun i j hij => ?_
      rw [(hrows.windows i i.isLt).2, (hrows.windows j j.isLt).1]
      have hmono := startAt_le contract.startDate (Nat.succ_le_of_lt hij)
      exact Int.sub_one_lt_of_le hmono
    · rintro month hfrom ⟨later, hlater, hto⟩
      obtain ⟨k, hk, rfl⟩ := hrows.mem_startMonths.mp hlater
      have hregular := (startAt_regular hfits hk).1
      have hindex : (month - monthIndex contract.startDate).toNat < rows.length := by omega
      refine List.count_eq_one_of_mem hrows.nodup_startMonths (hrows.mem_startMonths.mpr
        ⟨(month - monthIndex contract.startDate).toNat, hindex, ?_⟩)
      rw [(startAt_regular hfits hindex).1]
      omega

/-- A contract that starts on 2026-01-31. -/
def januaryContract : Contract where
  id := 1
  clientId := 1
  startDate := dayNumber ⟨2026, 0, 31⟩
  billingDay := none
  priceOverride := none
  taxRateId := none

def quietWorld : Nat → (read : Query) → read.Answer := fun _ read =>
  match read with
  | .today => (0 : Int)
  | .clientTax .. | .regionRate .. | .taxRate .. | .locale _ | .currency _ | .usage .. => none
  | .addons _ => []

def januaryPeriods : List Period :=
  (history januaryContract quietWorld (1, ⟨[], [], [], [], []⟩)
    [.generate, .invoice 3 1, .generate]).2.periodsOf 1

/-- They begin in January and in March. -/
theorem not_tiling_january : ¬Tiling januaryContract.startDate januaryPeriods := by
  intro h
  have hcount := h.monthly (12 * 2026 + 1) (by decide +kernel)
    ⟨12 * 2026 + 2, by decide +kernel, by decide⟩
  have hnone : (startMonths januaryPeriods).count (12 * 2026 + 1) = 0 := by decide +kernel
  omega

/-- After one period there is no month to miss. -/
theorem tiling_iff_january :
    Tiling januaryContract.startDate ((history januaryContract quietWorld
        (1, ⟨[], [], [], [], []⟩) [.generate]).2.periodsOf 1) ↔
      ∀ j : Nat, 0 < j →
        j < ((history januaryContract quietWorld (1, ⟨[], [], [], [], []⟩) [.generate]).2.periodsOf
          1).length →
        (civil januaryContract.startDate).day ≤ daysIn (monthIndex januaryContract.startDate + j) :=
  tiling_iff januaryContract quietWorld rfl [.generate]

end FireIsp.Invoicing
