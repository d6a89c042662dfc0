import FireIsp.Invoicing.Posting

/-!
# Windows are invoiced once

Runs of the invoice requests.  Every step leaves the tables as they are, adds a billing period
or posts a whole bill, and a request that fails has posted nothing.  Over a run no contract has
a window twice, and every generated invoice belongs to one billing period.
-/

namespace FireIsp.Invoicing

open Txn

/-- Requests about to start on tables whose ids were given out. -/
structure Ready (oneOffs : Bool) (s : System) : Prop where
  held : s.held = []
  periods : ∀ row ∈ s.db.periods, row.id < s.tick
  invoices : ∀ row ∈ s.db.invoices, row.id < s.tick
  items : ∀ row ∈ s.db.items, row.invoiceId < s.tick
  closed : ∀ i, (s.sessions i).tx = none
  calls : ∀ i p, (s.sessions i).prog = some p →
    ∃ call : Call, p = call.run ∧ (oneOffs = true ∨ ∀ charge, call ≠ .oneOff charge)

/-- The tables keep the invariant and the requests the discipline. -/
abbrev Runs (oneOffs : Bool) (s : System) : Prop :=
  s.KeptTo (discipline oneOffs) Ended (Guarded oneOffs)

variable {oneOffs : Bool} {s : System}

theorem Ready.runs (hs : Ready oneOffs s) : Runs oneOffs s := by
  refine ⟨fun _ => ⟨some (.idle none), none⟩, ⟨?_, hs.periods, hs.invoices, hs.items, ?_, ?_⟩, ?_⟩
  · rw [hs.held]
    exact fun _ _ _ h => nomatch h
  · intro i know hknow
    cases hknow
    exact .bare nofun rfl (fun id hid => nomatch hid) rfl rfl rfl
  · exact fun i j b c hb => nomatch hb
  · refine fun i => ⟨hs.closed i, fun p hp => ?_⟩
    obtain ⟨call, rfl, hcall⟩ := hs.calls i p hp
    exact ⟨_, rfl, follows_run call hcall⟩

theorem Runs.run (hs : Runs oneOffs s) (labels : List (Label Query.Answer)) :
    Runs oneOffs (Transition.run (Sys.step engine) s labels) :=
  Sys.run_keptTo (fun _ _ _ _ _ _ _ _ hinv hmove => (Guarded.step hinv hmove).1) hs labels

theorem Runs.change (hs : Runs oneOffs s) (l : Label Query.Answer) :
    Change oneOffs s.db (s.step engine l).db := by
  obtain ⟨ghosts, hinv, htrack⟩ := hs
  obtain ⟨ghost', hmove, -⟩ := Sys.step_disciplined (E := engine) htrack l
  exact (Guarded.step hinv hmove).2.imp_right (Or.imp_right And.left)

/-- A session that has committed. -/
def Committed (oneOffs : Bool) (i : Nat) (s : System) : Prop :=
  s.KeptTo (discipline oneOffs) Ended fun tick db held ghosts =>
    Guarded oneOffs tick db held ghosts ∧
      ((ghosts i).know = some .finished ∨ (ghosts i).know = none)

theorem Posted.ne {before after : Db} (h : Posted oneOffs before after) :
    after ≠ before ∧ ¬Opened before after := by
  obtain ⟨posting, -, rfl, -⟩ := h
  have hlength : (posting.after before).invoices.length = before.invoices.length + 1 := by
    simp [Posting.after]
  constructor
  · intro he
    rw [he] at hlength
    omega
  · rintro ⟨row, -, he⟩
    rw [he] at hlength
    exact absurd hlength (Nat.ne_of_lt (Nat.lt_succ_self _))

theorem committed_disciplined {i tick : Nat} {db db' : Db} {held held' : List (Nat × Key)}
    {ghost ghost' : Ghost Db Write Know}
    (hmove : Disciplined engine (discipline oneOffs) i tick db held ghost db' held' ghost')
    (h : ghost.know = some .finished ∨ ghost.know = none) :
    ghost'.know = some .finished ∨ ghost'.know = none := by
  cases hmove with
  | idle => exact h
  | abort => exact Or.inr rfl
  | start know know' tx hk =>
    obtain rfl : know = .finished := Option.some.inj (h.resolve_right nofun)
    nomatch hk
  | commit know know' tx hk =>
    obtain rfl : know = .finished := Option.some.inj (h.resolve_right nofun)
    nomatch hk
  | rollback know know' tx hk =>
    obtain rfl : know = .finished := Option.some.inj (h.resolve_right nofun)
    nomatch hk
  | auto know via op learn tx hk hin hfree =>
    obtain rfl : know = .finished := Option.some.inj (h.resolve_right nofun)
    have hfound : Know.finished ≠ .lost := nofun
    rcases sent_closed hfound rfl hk with ⟨known, he, -⟩ | ⟨-, hlearn, -⟩
    · nomatch he
    · exact Or.inl (congrArg some (hlearn _))
  | within know op learn tx hk hfree =>
    obtain rfl : know = .finished := Option.some.inj (h.resolve_right nofun)
    nomatch hk
  | call know query learn tx hk answer =>
    obtain rfl := Option.some.inj hk
    exact h

theorem Committed.run {i : Nat} (hs : Committed oneOffs i s)
    (labels : List (Label Query.Answer)) :
    Committed oneOffs i (Transition.run (Sys.step engine) s labels) := by
  refine Sys.run_keptTo (fun j tick db held ghosts db' held' ghost' hinv hmove => ?_) hs labels
  refine ⟨(Guarded.step hinv.1 hmove).1, ?_⟩
  by_cases hj : j = i
  · subst hj
    rw [Function.update_self]
    exact committed_disciplined hmove hinv.2
  · rw [Function.update_of_ne (Ne.symm hj)]
    exact hinv.2

theorem Committed.no_error {i : Nat} (hs : Committed oneOffs i s) (e : Failure) :
    (s.sessions i).prog ≠ some (.done (.error e)) := by
  obtain ⟨ghosts, ⟨-, hknow⟩, htrack⟩ := hs
  intro hprog
  obtain ⟨know, hk, hended⟩ := (htrack i).follows _ hprog
  rcases hknow with hfinished | hnone
  · obtain rfl : know = .finished := Option.some.inj (hk.symm.trans hfinished)
    rcases hended with ⟨known, he⟩ | ⟨-, reply, he⟩ | he
    · nomatch he
    · nomatch he
    · nomatch he
  · rw [hnone] at hk
    nomatch hk

theorem Runs.posted (hs : Runs oneOffs s) {l : Label Query.Answer}
    (h : Posted oneOffs s.db (s.step engine l).db) :
    Committed oneOffs l.session (s.step engine l) := by
  obtain ⟨ghosts, hinv, htrack⟩ := hs
  obtain ⟨ghost', hmove, htrack'⟩ := Sys.step_disciplined (E := engine) htrack l
  obtain ⟨hinv', hchange⟩ := Guarded.step hinv hmove
  refine ⟨Function.update ghosts l.session ghost', ⟨?_, Or.inl ?_⟩, htrack'⟩
  · rw [Sys.step_tick]
    exact hinv'
  · rw [Function.update_self]
    exact ((hchange.resolve_left h.ne.1).resolve_left h.ne.2).2

/-- Keys and references of the tables hold. -/
structure Db.Sound (db : Db) : Prop where
  periods : Table.Keyed Period.id db.periods
  invoices : Table.Keyed Invoice.id db.invoices
  /-- `uq_billing_periods_contract_period`. -/
  windows : ∀ p ∈ db.periods, ∀ q ∈ db.periods, p.contractId = q.contractId →
    p.periodStart = q.periodStart → p = q
  references : ∀ p ∈ db.periods, ∀ n, p.invoiceId = some n → ∃ invoice ∈ db.invoices, invoice.id = n
  invoiced : ∀ p ∈ db.periods, p.status = .invoiced → p.invoiceId ≠ none

/-- Every invoice that is not in `base` belongs to exactly one billing period. -/
structure Db.InvoicedOnce (base db : Db) : Prop where
  billed : ∀ invoice ∈ db.invoices, invoice ∉ base.invoices →
    ∃ p ∈ db.periods, p.status = .invoiced ∧ p.invoiceId = some invoice.id
  once : ∀ invoice ∈ db.invoices, invoice ∉ base.invoices → ∀ p ∈ db.periods, ∀ q ∈ db.periods,
    p.invoiceId = some invoice.id → q.invoiceId = some invoice.id → p = q

/-- No billing period has two invoices. -/
def Db.SingleInvoice (db : Db) : Prop :=
  ∀ p ∈ db.periods, ∀ a ∈ db.invoices, ∀ b ∈ db.invoices,
    p.invoiceId = some a.id → p.invoiceId = some b.id → a = b

/-- A step that marks a period invoiced also adds its invoice; other periods stay. -/
structure MarksWithInvoice (before after : Db) : Prop where
  marked : ∀ p ∈ after.periods, p.status = .invoiced → p ∈ before.periods ∨
    ∃ old ∈ before.periods, old.status = .pending ∧ ∃ invoice ∈ after.invoices,
      (∀ other ∈ before.invoices, other.id ≠ invoice.id) ∧ p = old.invoicedBy invoice.id
  settled : ∀ p ∈ before.periods, p.status ≠ .pending → p ∈ after.periods

section Once

variable {base before after : Db}

theorem map_id_invoicedPeriods (periodId invoiceId : Nat) (rows : List Period) :
    (invoicedPeriods periodId invoiceId rows).map Period.id = rows.map Period.id := by
  rw [invoicedPeriods, List.map_map]
  refine List.map_congr_left fun row _ => ?_
  change (if row.id = periodId then row.invoicedBy invoiceId else row).id = row.id
  split <;> rfl

theorem mem_invoicedPeriods (h : before.Sound) {billed : Period} (hbilled : billed ∈ before.periods)
    {invoiceId : Nat} {p : Period} :
    p ∈ invoicedPeriods billed.id invoiceId before.periods ↔
      p = billed.invoicedBy invoiceId ∨ p ∈ before.periods ∧ p.id ≠ billed.id := by
  constructor
  · intro hp
    obtain ⟨old, hold, rfl⟩ := List.mem_map.mp hp
    split
    · rename_i hid
      obtain rfl := List.inj_on_of_nodup_map h.periods hold hbilled hid
      exact Or.inl rfl
    · rename_i hid
      exact Or.inr ⟨hold, hid⟩
  · rintro (rfl | ⟨hp, hid⟩)
    · exact List.mem_map.mpr ⟨billed, hbilled, if_pos rfl⟩
    · exact List.mem_map.mpr ⟨p, hp, if_neg hid⟩

theorem Db.Sound.opened (h : before.Sound) {row : Period} (hnew : row.New before) :
    ({ before with periods := before.periods ++ [row] } : Db).Sound where
  periods := by
    have hkeyed : Table.Keyed Period.id (before.periods ++ [row]) := by
      rw [Table.Keyed, List.map_append]
      refine List.nodup_append.mpr ⟨h.periods, List.nodup_singleton _, fun a ha b hb => ?_⟩
      obtain ⟨old, hold, rfl⟩ := List.mem_map.mp ha
      rw [List.mem_singleton.mp hb]
      exact hnew.fresh old hold
    exact hkeyed
  invoices := h.invoices
  windows p hp q hq hcontract hstart := by
    rcases List.mem_append.mp hp with hpold | hpnew
    · rcases List.mem_append.mp hq with hqold | hqnew
      · exact h.windows p hpold q hqold hcontract hstart
      · rw [List.mem_singleton.mp hqnew] at hcontract hstart
        exact absurd hstart (hnew.window p hpold hcontract)
    · rw [List.mem_singleton.mp hpnew] at hcontract hstart ⊢
      rcases List.mem_append.mp hq with hqold | hqnew
      · exact absurd hstart.symm (hnew.window q hqold hcontract.symm)
      · exact (List.mem_singleton.mp hqnew).symm
  references p hp n hn := by
    rcases List.mem_append.mp hp with hp | hp
    · exact h.references p hp n hn
    · rw [List.mem_singleton.mp hp, hnew.invoiceId] at hn
      cases hn
  invoiced p hp hstatus := by
    rcases List.mem_append.mp hp with hp | hp
    · exact h.invoiced p hp hstatus
    · rw [List.mem_singleton.mp hp, hnew.pending] at hstatus
      cases hstatus

variable {posting : Posting} {billed : Period}

theorem Posting.mem_periods (h : before.Sound) (hvalid : posting.Valid before)
    (hbilled : posting.period = some billed) {p : Period} :
    p ∈ (posting.after before).periods ↔
      p = billed.invoicedBy posting.invoice.id ∨ p ∈ before.periods ∧ p.id ≠ billed.id := by
  have hmem := (hvalid.pending billed hbilled).1
  have hafter : (posting.after before).periods =
      invoicedPeriods billed.id posting.invoice.id before.periods := by
    simp only [Posting.after, Posting.periodsAfter, hbilled]
  rw [hafter]
  exact mem_invoicedPeriods h hmem

theorem Db.Sound.posted (h : before.Sound) (hvalid : posting.Valid before)
    (hbilled : posting.period = some billed) : (posting.after before).Sound where
  periods := by
    have hids : ((posting.after before).periods).map Period.id = before.periods.map Period.id := by
      simp only [Posting.after, Posting.periodsAfter, hbilled]
      exact map_id_invoicedPeriods _ _ _
    rw [Table.Keyed, hids]
    exact h.periods
  invoices := by
    have hkeyed : Table.Keyed Invoice.id (before.invoices ++ [posting.invoice]) := by
      rw [Table.Keyed, List.map_append]
      refine List.nodup_append.mpr ⟨h.invoices, List.nodup_singleton _, fun a ha b hb => ?_⟩
      obtain ⟨old, hold, rfl⟩ := List.mem_map.mp ha
      rw [List.mem_singleton.mp hb]
      exact hvalid.fresh old hold
    exact hkeyed
  windows p hp q hq hcontract hstart := by
    have hmem := (hvalid.pending billed hbilled).1
    rcases (Posting.mem_periods h hvalid hbilled).mp hp with rfl | ⟨hp, hpid⟩
    · rcases (Posting.mem_periods h hvalid hbilled).mp hq with rfl | ⟨hq, hqid⟩
      · rfl
      · obtain rfl := h.windows billed hmem q hq hcontract hstart
        exact absurd rfl hqid
    · rcases (Posting.mem_periods h hvalid hbilled).mp hq with rfl | ⟨hq, hqid⟩
      · obtain rfl := h.windows p hp billed hmem hcontract hstart
        exact absurd rfl hpid
      · exact h.windows p hp q hq hcontract hstart
  references p hp n hn := by
    rcases (Posting.mem_periods h hvalid hbilled).mp hp with rfl | ⟨hp, -⟩
    · exact ⟨posting.invoice, List.mem_append_right _ List.mem_cons_self, Option.some.inj hn⟩
    · obtain ⟨invoice, hinvoice, hid⟩ := h.references p hp n hn
      exact ⟨invoice, List.mem_append_left _ hinvoice, hid⟩
  invoiced p hp hstatus := by
    rcases (Posting.mem_periods h hvalid hbilled).mp hp with rfl | ⟨hp, -⟩
    · intro h
      cases h
    · exact h.invoiced p hp hstatus

theorem Posted.bills (hchange : Posted false before after) : ∃ (posting : Posting)
    (billed : Period), posting.Valid before ∧ posting.period = some billed ∧ after = posting.after before := by
  obtain ⟨posting, hvalid, hafter, hperiod⟩ := hchange
  cases hbilled : posting.period with
  | none => exact absurd (hperiod hbilled) Bool.false_ne_true
  | some billed => exact ⟨posting, billed, hvalid, hbilled, hafter⟩

theorem Change.sound (hchange : Change false before after) (h : before.Sound) : after.Sound := by
  rcases hchange with rfl | ⟨row, hnew, rfl⟩ | hposted
  · exact h
  · exact h.opened hnew
  · obtain ⟨posting, billed, hvalid, hbilled, rfl⟩ := Posted.bills hposted
    exact h.posted hvalid hbilled

theorem Change.marks (hchange : Change false before after) (h : before.Sound) :
    MarksWithInvoice before after := by
  rcases hchange with rfl | ⟨row, hnew, rfl⟩ | hposted
  · exact ⟨fun p hp _ => Or.inl hp, fun p hp _ => hp⟩
  · refine ⟨fun p hp hstatus => ?_, fun p hp _ => List.mem_append_left _ hp⟩
    rcases List.mem_append.mp hp with hp | hp
    · exact Or.inl hp
    · rw [List.mem_singleton.mp hp, hnew.pending] at hstatus
      cases hstatus
  · obtain ⟨posting, billed, hvalid, hbilled, rfl⟩ := Posted.bills hposted
    obtain ⟨hmem, hpending⟩ := hvalid.pending billed hbilled
    refine ⟨fun p hp hstatus => ?_, fun p hp hstatus => ?_⟩
    · rcases (Posting.mem_periods h hvalid hbilled).mp hp with rfl | ⟨hp, -⟩
      · exact Or.inr ⟨billed, hmem, hpending, posting.invoice,
          List.mem_append_right _ List.mem_cons_self, hvalid.fresh, rfl⟩
      · exact Or.inl hp
    · refine (Posting.mem_periods h hvalid hbilled).mpr (Or.inr ⟨hp, fun hid => hstatus ?_⟩)
      rw [List.inj_on_of_nodup_map h.periods hp hmem hid, hpending]

theorem Change.invoicedOnce (hchange : Change false before after) (h : before.Sound)
    (honce : base.InvoicedOnce before) : base.InvoicedOnce after := by
  rcases hchange with rfl | ⟨row, hnew, rfl⟩ | hposted
  · exact honce
  · refine ⟨fun invoice hinvoice hbase => ?_, fun invoice hinvoice hbase p hp q hq hpi hqi => ?_⟩
    · obtain ⟨p, hp, hstatus⟩ := honce.billed invoice hinvoice hbase
      exact ⟨p, List.mem_append_left _ hp, hstatus⟩
    · have hold : ∀ x ∈ before.periods ++ [row], x.invoiceId = some invoice.id →
          x ∈ before.periods := by
        intro x hx hxi
        rcases List.mem_append.mp hx with hx | hx
        · exact hx
        · rw [List.mem_singleton.mp hx, hnew.invoiceId] at hxi
          cases hxi
      exact honce.once invoice hinvoice hbase p (hold p hp hpi) q (hold q hq hqi) hpi hqi
  · obtain ⟨posting, billed, hvalid, hbilled, rfl⟩ := Posted.bills hposted
    obtain ⟨hmem, hpending⟩ := hvalid.pending billed hbilled
    have hperiods := fun {p : Period} => Posting.mem_periods (p := p) h hvalid hbilled
    -- no stored period refers to the new invoice
    have hunused : ∀ x ∈ before.periods, x.invoiceId ≠ some posting.invoice.id := by
      intro x hx hxi
      obtain ⟨invoice, hinvoice, hid⟩ := h.references x hx _ hxi
      exact hvalid.fresh invoice hinvoice hid
    refine ⟨fun invoice hinvoice hbase => ?_, fun invoice hinvoice hbase p hp q hq hpi hqi => ?_⟩
    · rcases List.mem_append.mp hinvoice with hinvoice | hinvoice
      · obtain ⟨p, hp, hstatus, hpi⟩ := honce.billed invoice hinvoice hbase
        refine ⟨p, hperiods.mpr (Or.inr ⟨hp, fun hid => ?_⟩), hstatus, hpi⟩
        rw [List.inj_on_of_nodup_map h.periods hp hmem hid, hpending] at hstatus
        cases hstatus
      · obtain rfl := List.mem_singleton.mp hinvoice
        exact ⟨_, hperiods.mpr (Or.inl rfl), rfl, rfl⟩
    · rcases List.mem_append.mp hinvoice with hinvoice | hinvoice
      · have hne : posting.invoice.id ≠ invoice.id := fun he => hvalid.fresh _ hinvoice he.symm
        have hold : ∀ x ∈ (posting.after before).periods, x.invoiceId = some invoice.id →
            x ∈ before.periods := by
          intro x hx hxi
          rcases hperiods.mp hx with rfl | ⟨hx, -⟩
          · exact absurd (Option.some.inj hxi) hne
          · exact hx
        exact honce.once invoice hinvoice hbase p (hold p hp hpi) q (hold q hq hqi) hpi hqi
      · obtain rfl := List.mem_singleton.mp hinvoice
        have hnew : ∀ x ∈ (posting.after before).periods, x.invoiceId = some posting.invoice.id →
            x = billed.invoicedBy posting.invoice.id := by
          intro x hx hxi
          rcases hperiods.mp hx with rfl | ⟨hx, -⟩
          · rfl
          · exact absurd hxi (hunused x hx)
        rw [hnew p hp hpi, hnew q hq hqi]

end Once

theorem Db.Sound.singleInvoice {db : Db} (h : db.Sound) : db.SingleInvoice := by
  intro p _ a ha b hb hpa hpb
  exact List.inj_on_of_nodup_map h.invoices ha hb (Option.some.inj (hpa.symm.trans hpb))

/-- What holds along every run that starts from sound tables. -/
structure Windowed (base : Db) (s : System) : Prop where
  runs : Runs false s
  sound : s.db.Sound
  once : base.InvoicedOnce s.db

theorem Windowed.step {base : Db} (hs : Windowed base s) (l : Label Query.Answer) :
    Windowed base (s.step engine l) :=
  ⟨hs.runs.run [l], (hs.runs.change l).sound hs.sound,
    (hs.runs.change l).invoicedOnce hs.sound hs.once⟩

/-- A window, a period and an invoice belong together once, and stay so. -/
theorem windows_invoiced_once (hs : Ready false s) (hdb : s.db.Sound)
    (labels : List (Label Query.Answer)) :
    (Transition.run (Sys.step engine) s labels).db.Sound ∧
    (Transition.run (Sys.step engine) s labels).db.SingleInvoice ∧
    s.db.InvoicedOnce (Transition.run (Sys.step engine) s labels).db ∧
    ∀ l, MarksWithInvoice (Transition.run (Sys.step engine) s labels).db
      ((Transition.run (Sys.step engine) s labels).step engine l).db := by
  have hstart : Windowed s.db s := ⟨hs.runs, hdb, ⟨fun invoice hinvoice hbase =>
    absurd hinvoice hbase, fun invoice hinvoice hbase => absurd hinvoice hbase⟩⟩
  have hrun : Windowed s.db (Transition.run (Sys.step engine) s labels) :=
    Transition.run_preserves (fun _ l h => h.step l) hstart labels
  exact ⟨hrun.sound, hrun.sound.singleInvoice, hrun.once,
    fun l => (hrun.runs.change l).marks hrun.sound⟩

/-- What the other tables hold in the sample. -/
def sampleAnswers : (read : Query) → read.Answer
  | .today => 20500
  | .clientTax .. => some ⟨false, "MX", "21000"⟩
  | .regionRate .. => none
  | .taxRate .. => some (3, 1600)
  | .locale _ => some "MX"
  | .currency _ => some "MXN"
  | .usage .. => some ⟨some 10000, .perGb, some 125000, 128861194677, 0, 30, 0⟩
  | .addons _ => [⟨"Static address", some 5000, 6000, some 2⟩]

/-- A contract with one invoiced window. -/
def sampleDb : Db where
  periods := [⟨1, 7, 20454, 20484, some 2, .invoiced, 20458⟩]
  invoices := [⟨2, some 1, 3, some 7, "INV-000001", 50000, 8000, 58000, "MXN", 1600, some 3, 20499,
    .paid, none⟩]
  items := [⟨3, 2, "Basic", 100, 50000, 50000⟩]
  ledger := [⟨4, 3, some 1, .debit, 58000, "MXN", "invoice", 2, "Invoice INV-000001"⟩]
  sequences := [⟨1, 2⟩]

/-- Two requests invoice the next window of the contract. -/
def sampleCall : Call :=
  .invoice ⟨7, 3, 20454, some 5, none, none⟩
    ⟨"Basic", 50000, some "MXN", none, none, some .perGb, some 125000⟩ (some 1)

/-- The sample tables with two requests. -/
def sampleSystem : System where
  db := sampleDb
  tick := 5
  held := []
  sessions i := ⟨if i < 2 then some sampleCall.run else none, none⟩
  calls := []

theorem sampleSystem_ready : Ready false sampleSystem := by
  refine ⟨rfl, by decide, by decide, by decide, fun _ => rfl, fun i p hp => ?_⟩
  change (if i < 2 then some sampleCall.run else none) = some p at hp
  split at hp
  · exact ⟨sampleCall, (Option.some.inj hp).symm, Or.inr nofun⟩
  · nomatch hp

theorem sampleDb_sound : sampleDb.Sound := by
  refine ⟨by decide, by decide, by decide, ?_, by decide⟩
  intro p hp n hn
  obtain rfl := List.mem_singleton.mp hp
  exact ⟨_, List.mem_cons_self, Option.some.inj hn⟩

/-- Both requests in turn, statement by statement. -/
def sampleRun : List (Label Query.Answer) :=
  (List.replicate 30 [.step 0 sampleAnswers, .step 1 sampleAnswers]).flatten

/-- A sample run invoices its window once. -/
theorem windows_invoiced_once_sample :
    sampleDb.InvoicedOnce (Transition.run (Sys.step engine) sampleSystem sampleRun).db :=
  (windows_invoiced_once sampleSystem_ready sampleDb_sound sampleRun).2.2.1

example : ((Transition.run (Sys.step engine) sampleSystem sampleRun).db.invoices.map
    fun row => (row.invoiceNumber, row.subtotal, row.taxAmount, row.total)) =
      [("INV-000001", 50000, 8000, 58000), ("INV-000002", 85014, 13602, 98616)] := by
  decide +kernel

end FireIsp.Invoicing
