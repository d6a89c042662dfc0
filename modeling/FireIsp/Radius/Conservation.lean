import FireIsp.Radius.Delivery

/-!
# Usage conservation

Over any run the usage recorded for a session is the difference of its last and first counters,
as long as the counters do not decrease; and a usage row that received an estimate across a
counter reset, a missing baseline or a month boundary never becomes complete again.
-/

namespace FireIsp.Radius

open Transition

variable {env : Env} {directory : Directory} {state : State} {o : Observation}
  {field : UsageField} {rows : List UsageRow}

/-- Usage of a lifecycle over all days. -/
def sessionTotal (rows : List UsageRow) (sessionInstanceId : Nat) (field : UsageField) : Nat :=
  ((rows.filter fun row => row.sessionInstanceId = sessionInstanceId).map fun row =>
    row.deltas.get field).sum

def UsageRow.share (row : UsageRow) (sessionInstanceId : Nat) (field : UsageField) : Nat :=
  if row.sessionInstanceId = sessionInstanceId then row.deltas.get field else 0

theorem sessionTotal_cons (row : UsageRow) (rows : List UsageRow) (i : Nat) :
    sessionTotal (row :: rows) i field = row.share i field + sessionTotal rows i field := by
  by_cases h : row.sessionInstanceId = i <;> simp [sessionTotal, UsageRow.share, h]

theorem sessionTotal_append (row : UsageRow) (rows : List UsageRow) (i : Nat) :
    sessionTotal (rows ++ [row]) i field = sessionTotal rows i field + row.share i field := by
  induction rows with
  | nil => rw [List.nil_append, sessionTotal_cons, Nat.add_comm]
  | cons first rows ih =>
    rw [List.cons_append, sessionTotal_cons, sessionTotal_cons, ih, Nat.add_assoc]

variable {new : UsageRow}

theorem share_merge {old : UsageRow} (h : old.key = new.key) (i : Nat) :
    (old.merge new).share i field = old.share i field + new.share i field := by
  have hinstance : old.sessionInstanceId = new.sessionInstanceId := congrArg (fun key => key.2.2) h
  simp only [UsageRow.share, UsageRow.merge, PerField.get_of, hinstance]
  split <;> simp

theorem sessionTotal_upsert (rows : List UsageRow) (new : UsageRow) (i : Nat) :
    sessionTotal (upsertUsage rows new) i field =
      sessionTotal rows i field + new.share i field := by
  unfold upsertUsage
  split
  · exact sessionTotal_append new rows i
  · rename_i old hfind
    have hkey : old.key = new.key := key_of_find hfind
    have hmerged : (old.merge new).key = new.key := hkey
    induction rows with
    | nil => cases hfind
    | cons first rows ih =>
      by_cases hfirst : first.key = new.key
      · rw [List.find?_cons_of_pos (by simpa using hfirst)] at hfind
        obtain rfl := Option.some.inj hfind
        rw [Table.put, if_pos (hfirst.trans hmerged.symm), sessionTotal_cons, sessionTotal_cons,
          share_merge hkey]
        omega
      · rw [List.find?_cons_of_neg (by simpa using hfirst)] at hfind
        rw [Table.put, if_neg (fun e => hfirst (e.trans hmerged)), sessionTotal_cons,
          sessionTotal_cons, ih hfind]
        omega

theorem sessionTotal_record (rows : List UsageRow) (subject : Subject) (eventAt : Nat)
    (usage : Usage) (i : Nat) :
    sessionTotal (recordUsageDelta rows subject eventAt usage) i field =
      sessionTotal rows i field +
        if subject.sessionInstanceId = i then usage.deltas.get field else 0 := by
  unfold recordUsageDelta usageUpserts
  cases hidle : usage.idle with
  | true =>
    have hzero : usage.deltas.get field = 0 := by
      simp only [Usage.idle, Bool.and_eq_true, List.all_eq_true, beq_iff_eq] at hidle
      exact hidle.1 field (mem_usageFields field)
    simp [hzero]
  | false =>
    have hboundary : ∀ previous, (usageRow subject (utcDate previous) (.of fun _ => 0) false
        (some .utcMonthBoundaryEstimate) 1 previous).share i field = 0 := by
      intro previous
      simp [UsageRow.share, usageRow]
    rw [if_neg Bool.false_ne_true, List.foldl_append, List.foldl_cons, List.foldl_nil,
      sessionTotal_upsert]
    have hshare : (usageRow subject (utcDate eventAt) usage.deltas usage.rowComplete
        usage.anomalyReason usage.anomalyCount eventAt).share i field =
        if subject.sessionInstanceId = i then usage.deltas.get field else 0 := rfl
    rw [hshare]
    split
    · rw [List.foldl_cons, List.foldl_nil, sessionTotal_upsert, hboundary]
      simp
    · rfl

/-! ## Counters a session takes -/

/-- The lifecycle a packet opens or updates takes its counters. -/
def Plan.takenBy (nextId : Nat) : Plan → Option Nat
  | .ignore _ => none
  | .enrich _ => none
  | .openSession _ _ => some nextId
  | .correctFinal row => some row.instanceId
  | .closeOutOfOrder _ => none
  | .accept row => some row.instanceId
  | .insertLate => some nextId

def takenCounters (env : Env) (directory : Directory) (state : State) (packet : Int × Attrs) :
    Option (Nat × Counters) :=
  match observe env directory packet.1 packet.2 with
  | .error _ => none
  | .ok o =>
    match plan env state.logs o with
    | .error _ => none
    | .ok decision => (decision.takenBy state.nextId).map fun i => (i, o.counters)

/-- Tables, and the counters taken so far. -/
structure Metered where
  state : State
  taken : List (Nat × Counters)

def meter (env : Env) (directory : Directory) (m : Metered) (packet : Int × Attrs) : Metered where
  state := ingest env directory m.state packet
  taken := m.taken ++ (takenCounters env directory m.state packet).toList

/-- Values a lifecycle has taken of a counter, oldest first; an absent counter takes none. -/
def reports (taken : List (Nat × Counters)) (sessionInstanceId : Nat) (field : UsageField) :
    List Nat :=
  taken.filterMap fun report => if report.1 = sessionInstanceId then report.2.get field else none

theorem reports_append (history : List (Nat × Counters)) (i j : Nat) (counters : Counters) :
    reports (history ++ [(j, counters)]) i field =
      reports history i field ++ if j = i then (counters.get field).toList else [] := by
  by_cases h : j = i
  · cases hvalue : counters.get field <;> simp [reports, h, hvalue]
  · simp [reports, h]

/-- Every counter taken so far is accounted for in the usage of its lifecycle. -/
structure Counted (field : UsageField) (first : Nat) (m : Metered) : Prop extends
    Sound m.state where
  started : first ≤ m.state.nextId
  known : ∀ report ∈ m.taken, report.1 < m.state.nextId
  last : ∀ row ∈ m.state.logs, first ≤ row.instanceId →
    row.usageLast.get field = (reports m.taken row.instanceId field).getLast?
  total : ∀ i, first ≤ i → (reports m.taken i field).Pairwise (· ≤ ·) →
    sessionTotal m.state.usage i field + (reports m.taken i field).head?.getD 0 =
      (reports m.taken i field).getLast?.getD 0

/-- Every row stores the counters of a row of the same lifecycle. -/
def SameMeters (logs logs' : List Log) : Prop :=
  ∀ row' ∈ logs', ∃ row ∈ logs, row.instanceId = row'.instanceId ∧ row.usageLast = row'.usageLast

variable {row : Log}

theorem sameMeters_put {logs : List Log} {old : Log} (hold : old ∈ logs)
    (hinstance : old.instanceId = row.instanceId) (husage : old.usageLast = row.usageLast) :
    SameMeters logs (Table.put Log.id row logs) := by
  intro row' hrow'
  rcases Table.mem_of_mem_put hrow' with rfl | hmem
  · exact ⟨old, hold, hinstance, husage⟩
  · exact ⟨row', hmem, rfl, rfl⟩

theorem sameMeters_closed {closing : Option (Log × String)}
    (hclosing : ∀ row cause, closing = some (row, cause) → row ∈ state.logs) :
    SameMeters state.logs ((state.closeDuplicate o closing).closeMoved env o).logs := by
  have hduplicate : SameMeters state.logs (state.closeDuplicate o closing).logs := by
    cases closing with
    | none => exact fun row hrow => ⟨row, hrow, rfl, rfl⟩
    | some pair => exact sameMeters_put (hclosing pair.1 pair.2 rfl) rfl rfl
  unfold State.closeMoved
  cases hmoved : movedRow env (state.closeDuplicate o closing).logs o with
  | none => exact hduplicate
  | some row =>
    intro row' hrow'
    have hmove : SameMeters (state.closeDuplicate o closing).logs
        (Table.put Log.id (row.close o "Session-Moved") (state.closeDuplicate o closing).logs) :=
      sameMeters_put (movedRow_spec hmoved).1 rfl rfl
    obtain ⟨middle, hmiddle, hinstance, husage⟩ := hmove row' hrow'
    obtain ⟨first, hfirst, hinstance', husage'⟩ := hduplicate middle hmiddle
    exact ⟨first, hfirst, hinstance'.trans hinstance, husage'.trans husage⟩

theorem total_grows {values : List Nat} {next : Option Nat} {total : Nat}
    (h : total + values.head?.getD 0 = values.getLast?.getD 0)
    (hle : (values ++ next.toList).Pairwise (· ≤ ·)) :
    total + fieldDelta false values.getLast? next + (values ++ next.toList).head?.getD 0 =
      (values ++ next.toList).getLast?.getD 0 := by
  cases next with
  | none => simpa [fieldDelta] using h
  | some next =>
    cases values with
    | nil => simpa [fieldDelta] using h
    | cons first rest =>
      obtain ⟨prior, hprior⟩ : ∃ prior, (first :: rest).getLast? = some prior :=
        ⟨_, List.getLast?_eq_some_getLast (List.cons_ne_nil _ _)⟩
      have hmem : prior ∈ first :: rest := List.mem_of_getLast? hprior
      have hnext : prior ≤ next :=
        (List.pairwise_append.mp hle).2.2 prior hmem next List.mem_cons_self
      rw [hprior] at h ⊢
      have hnot : ¬next < prior := Nat.not_lt.mpr hnext
      have hend : ((first :: rest) ++ (some next).toList).getLast? = some next :=
        List.getLast?_concat
      rw [hend]
      simp only [Option.getD_some, List.head?_cons] at h
      simp only [fieldDelta, Bool.false_eq_true, if_false, hnot, Option.getD_some,
        List.cons_append, List.head?_cons]
      omega

variable {first : Nat} {m : Metered}

theorem Counted.skip (h : Counted field first m) {next : State} (hsound : Sound next)
    (hnext : next.nextId = m.state.nextId) (husage : next.usage = m.state.usage)
    (hlogs : SameMeters m.state.logs next.logs) :
    Counted field first ⟨next, m.taken⟩ where
  toSound := hsound
  started := hnext ▸ h.started
  known := by
    intro report hreport
    exact hnext ▸ h.known report hreport
  last := by
    intro row hrow hfirst
    obtain ⟨old, hold, hinstance, hlast⟩ := hlogs row hrow
    have hstored := h.last old hold (hinstance ▸ hfirst)
    rw [hinstance, hlast] at hstored
    exact hstored
  total := by
    rw [husage]
    exact h.total

variable {usage : Usage}

theorem Counted.open (h : Counted field first m) {next : State}
    (hlogs : SameMeters m.state.logs next.logs) (hnext : next.nextId = m.state.nextId)
    (husage : next.usage = m.state.usage) (hinstance : row.instanceId = m.state.nextId)
    (hlast : row.usageLast = o.counters) (hdeltas : usage.deltas.get field = 0)
    (hsound : Sound (next.insertLog row o usage)) :
    Counted field first
      ⟨next.insertLog row o usage, m.taken ++ [(m.state.nextId, o.counters)]⟩ where
  toSound := hsound
  started := Nat.le_succ_of_le (hnext ▸ h.started)
  known := by
    intro report hreport
    rw [State.insertLog_nextId, hnext]
    rcases List.mem_append.mp hreport with hreport | hreport
    · exact Nat.lt_succ_of_lt (h.known report hreport)
    · rw [List.mem_singleton.mp hreport]
      exact Nat.lt_succ_self _
  last := by
    intro row' hrow' hfirst
    rcases List.mem_append.mp hrow' with hrow' | hrow'
    · obtain ⟨old, hold, hsame, hstored⟩ := hlogs row' hrow'
      have hne : m.state.nextId ≠ row'.instanceId := by
        have hlt := (h.fresh old hold).2
        omega
      have hold' := h.last old hold (hsame ▸ hfirst)
      rw [hsame, hstored] at hold'
      rw [reports_append, if_neg hne, List.append_nil]
      exact hold'
    · rw [List.mem_singleton.mp hrow', hinstance, hlast]
      have hnone : reports m.taken m.state.nextId field = [] := by
        refine List.filterMap_eq_nil_iff.mpr fun report hreport => ?_
        have hlt := h.known report hreport
        exact if_neg (by omega)
      rw [reports_append, hnone, if_pos rfl, List.nil_append]
      cases o.counters.get field <;> rfl
  total := by
    intro i hi hle
    have hadd : sessionTotal (next.insertLog row o usage).usage i field =
        sessionTotal m.state.usage i field := by
      change sessionTotal (recordUsageDelta next.usage row.subject o.observedEventAt usage) i field
        = _
      rw [sessionTotal_record, hdeltas, husage]
      simp
    rw [hadd]
    rw [reports_append] at hle ⊢
    have hbefore := h.total i hi (List.pairwise_append.mp hle).1
    by_cases hsame : m.state.nextId = i
    · subst hsame
      have hnone : reports m.taken m.state.nextId field = [] := by
        refine List.filterMap_eq_nil_iff.mpr fun report hreport => ?_
        have hlt := h.known report hreport
        exact if_neg (by omega)
      rw [hnone] at hbefore ⊢
      rw [if_pos rfl, List.nil_append]
      cases o.counters.get field with
      | none => exact hbefore
      | some value => simpa using hbefore
    · rwa [if_neg hsame, List.append_nil]

theorem Counted.update (h : Counted field first m) {next : Log} (hrow : row ∈ m.state.logs)
    (hid : next.id = row.id) (hinstance : next.instanceId = row.instanceId)
    (hlast : next.usageLast = nextUsageLast row.usageLast o.counters)
    (hsound : Sound ((m.state.putLog next).record row o (row.usageSince o))) :
    Counted field first ⟨(m.state.putLog next).record row o (row.usageSince o),
      m.taken ++ [(row.instanceId, o.counters)]⟩ where
  toSound := hsound
  started := h.started
  known := by
    intro report hreport
    rcases List.mem_append.mp hreport with hreport | hreport
    · exact h.known report hreport
    · rw [List.mem_singleton.mp hreport]
      exact (h.fresh row hrow).2
  last := by
    intro row' hrow' hfirst
    rcases (Table.mem_put h.ids).mp hrow' with rfl | ⟨hmem, hne⟩
    · have hold := h.last row hrow (hinstance ▸ hfirst)
      rw [hinstance, hlast, reports_append, if_pos rfl, List.getLast?_append, ← hold]
      simp only [nextUsageLast, PerField.get_of]
      cases o.counters.get field <;> rfl
    · have hother : row.instanceId ≠ row'.instanceId := by
        intro hsame
        have heq : row = row' := List.inj_on_of_nodup_map h.instances hrow hmem hsame
        rw [← heq, hid] at hne
        exact hne rfl
      rw [reports_append, if_neg hother, List.append_nil]
      exact h.last row' hmem hfirst
  total := by
    intro i hi hle
    have hadd : sessionTotal ((m.state.putLog next).record row o (row.usageSince o)).usage i
        field = sessionTotal m.state.usage i field +
          if row.instanceId = i then (row.usageSince o).deltas.get field else 0 :=
      sessionTotal_record _ _ _ _ _
    rw [hadd]
    rw [reports_append] at hle ⊢
    have hbefore := h.total i hi (List.pairwise_append.mp hle).1
    by_cases hsame : row.instanceId = i
    · subst hsame
      rw [if_pos rfl] at hle ⊢
      rw [if_pos rfl]
      have hdelta : (row.usageSince o).deltas.get field =
          fieldDelta false (row.usageLast.get field) (o.counters.get field) :=
        PerField.get_of _ _
      rw [hdelta, h.last row hrow hi]
      exact total_grows hbefore hle
    · rw [if_neg hsame, if_neg hsame, List.append_nil]
      exact hbefore

theorem baseline_deltas (previous current : Counters) (previousEventAt : Option Nat)
    (eventAt : Nat) (priorComplete : Bool) (reason : Option AnomalyReason) :
    (calculateUsageDelta previous current previousEventAt eventAt priorComplete reason
      true).deltas.get field = 0 :=
  PerField.get_of _ _

theorem Counted.meter (h : Counted field first m) (packet : Int × Attrs) :
    Counted field first (meter env directory m packet) := by
  cases hobserve : observe env directory packet.1 packet.2 with
  | error invalid =>
    have hsame : FireIsp.Radius.meter env directory m packet = m := by
      simp only [FireIsp.Radius.meter, takenCounters, hobserve, ingest_invalid hobserve,
        Option.toList_none, List.append_nil]
    rwa [hsame]
  | ok o =>
    cases hplan : plan env m.state.logs o with
    | error invalid =>
      have hsame : FireIsp.Radius.meter env directory m packet = m := by
        simp only [FireIsp.Radius.meter, takenCounters, hobserve, hplan,
          ingest_observe hobserve, State.take, Option.toList_none, List.append_nil]
      rwa [hsame]
    | ok decision =>
      have hstep : FireIsp.Radius.meter env directory m packet =
          ⟨(perform env m.state o decision).2, m.taken ++
            ((decision.takenBy m.state.nextId).map fun i => (i, o.counters)).toList⟩ := by
        simp only [FireIsp.Radius.meter, takenCounters, hobserve, hplan,
          ingest_observe hobserve, State.take_plan hplan]
      have hsound := h.toSound.perform hplan
      have hrow : ∀ row, decision.row = some row → row ∈ m.state.logs := fun row hrow =>
        currentRow_mem (plan_row hplan hrow)
      rw [hstep]
      cases decision with
      | ignore row =>
        change Counted field first ⟨_, m.taken ++ []⟩
        rw [List.append_nil]
        exact h.skip h.toSound rfl rfl fun row hrow => ⟨row, hrow, rfl, rfl⟩
      | enrich row =>
        change Counted field first ⟨_, m.taken ++ []⟩
        rw [List.append_nil]
        exact h.skip hsound rfl rfl (sameMeters_put (hrow row rfl) rfl rfl)
      | closeOutOfOrder row =>
        change Counted field first ⟨_, m.taken ++ []⟩
        rw [List.append_nil]
        exact h.skip hsound rfl rfl (sameMeters_put (hrow row rfl) rfl rfl)
      | openSession closing stationMove =>
        refine h.open (sameMeters_closed fun row cause hclosing => ?_) ?_ ?_ rfl rfl
          (baseline_deltas _ _ _ _ _ _) hsound
        · subst hclosing
          exact hrow row rfl
        · rw [State.closeMoved_nextId, State.closeDuplicate_nextId]
        · rw [State.closeMoved_usage, State.closeDuplicate_usage]
      | insertLate =>
        exact h.open (fun row hrow => ⟨row, hrow, rfl, rfl⟩) rfl rfl rfl rfl
          (baseline_deltas _ _ _ _ _ _) hsound
      | correctFinal row => exact h.update (hrow row rfl) rfl rfl rfl hsound
      | accept row => exact h.update (hrow row rfl) rfl rfl rfl hsound

/-! ## Rows that hold an estimate -/

def Incomplete (key : Nat × Nat × Nat) (rows : List UsageRow) : Prop :=
  (∃ row ∈ rows, row.key = key) ∧ ∀ row ∈ rows, row.key = key → row.isComplete = false

variable {key : Nat × Nat × Nat}

theorem Incomplete.upsert (h : Incomplete key rows) (new : UsageRow) :
    Incomplete key (upsertUsage rows new) := by
  obtain ⟨⟨row, hrow, hkey⟩, hall⟩ := h
  unfold upsertUsage
  cases hfind : rows.find? fun row => row.key == new.key with
  | none =>
    refine ⟨⟨row, List.mem_append_left _ hrow, hkey⟩, fun other hother hsame => ?_⟩
    rcases List.mem_append.mp hother with hother | hother
    · exact hall other hother hsame
    · have hnot := List.find?_eq_none.mp hfind row hrow
      rw [List.mem_singleton.mp hother] at hsame
      simp [hkey, hsame] at hnot
  | some old =>
    have holdKey : old.key = new.key := key_of_find hfind
    have hold : old ∈ rows := List.mem_of_find?_eq_some hfind
    refine ⟨?_, fun other hother hsame => ?_⟩
    · by_cases hsame : row.key = new.key
      · exact ⟨old.merge new, Table.mem_put_self _ _, holdKey.trans (hsame.symm.trans hkey)⟩
      · have hmap : key ∈ (Table.put UsageRow.key (old.merge new) rows).map UsageRow.key := by
          have hstored : key ∈ rows.map UsageRow.key := List.mem_map.mpr ⟨row, hrow, hkey⟩
          rw [Table.map_key_put]
          split
          · exact hstored
          · exact List.mem_append_left _ hstored
        obtain ⟨other, hother, hotherKey⟩ := List.mem_map.mp hmap
        exact ⟨other, hother, hotherKey⟩
    · rcases Table.mem_of_mem_put hother with rfl | hother
      · have hincomplete := hall old hold hsame
        simp [UsageRow.merge, hincomplete]
      · exact hall other hother hsame

theorem incomplete_upsert_self (h : Table.Keyed UsageRow.key rows) (hnew : new.isComplete = false) :
    Incomplete new.key (upsertUsage rows new) := by
  unfold upsertUsage
  cases hfind : rows.find? fun row => row.key == new.key with
  | none =>
    refine ⟨⟨new, List.mem_append_right _ List.mem_cons_self, rfl⟩, fun other hother hsame => ?_⟩
    rcases List.mem_append.mp hother with hother | hother
    · have hnot := List.find?_eq_none.mp hfind other hother
      simp [hsame] at hnot
    · rw [List.mem_singleton.mp hother]
      exact hnew
  | some old =>
    have hkey : old.key = new.key := key_of_find hfind
    refine ⟨⟨old.merge new, Table.mem_put_self _ _, hkey⟩, fun other hother hsame => ?_⟩
    rcases (Table.mem_put h).mp hother with rfl | ⟨-, hne⟩
    · simp [UsageRow.merge, hnew]
    · exact absurd (hsame.trans hkey.symm) hne

theorem Incomplete.upserts (h : Incomplete key rows) (news : List UsageRow) :
    Incomplete key (news.foldl upsertUsage rows) := by
  induction news generalizing rows with
  | nil => exact h
  | cons new news ih => exact ih (h.upsert new)

theorem Incomplete.record (h : Incomplete key rows) (subject : Subject) (eventAt : Nat)
    (usage : Usage) :
    Incomplete key (recordUsageDelta rows subject eventAt usage) :=
  h.upserts (usageUpserts subject eventAt usage)

theorem incomplete_recorded (h : Table.Keyed UsageRow.key rows) {subject : Subject} {eventAt : Nat}
    (hmem : new ∈ usageUpserts subject eventAt usage) (hnew : new.isComplete = false) :
    Incomplete new.key (recordUsageDelta rows subject eventAt usage) := by
  unfold recordUsageDelta
  generalize usageUpserts subject eventAt usage = upserts at hmem
  induction upserts generalizing rows with
  | nil => cases hmem
  | cons first upserts ih =>
    rcases List.mem_cons.mp hmem with rfl | hmem
    · exact (incomplete_upsert_self h hnew).upserts upserts
    · exact ih (keyed_upsertUsage h first) hmem

/-- The interval ends in another calendar month, or a counter was reset or has no baseline. -/
def Log.estimates (row : Log) (o : Observation) : Bool :=
  counterReset false row.usageLast o.counters || crosses utcMonth (some row.lastAt) o.observedEventAt

/-- Usage rows with an estimate: of an opening, a reset, or both sides of a month boundary. -/
def Plan.estimates (nextId : Nat) (o : Observation) : Plan → List (Nat × Nat × Nat)
  | .openSession _ _ =>
    if startHasCumulativeUsage o.counters then
      [(o.organizationId, utcDate o.observedEventAt, nextId)]
    else []
  | .insertLate => [(o.organizationId, utcDate o.observedEventAt, nextId)]
  | .correctFinal row | .accept row =>
    (if row.estimates o then
      [(row.organizationId, utcDate o.observedEventAt, row.instanceId)]
    else []) ++
    (if crosses utcMonth (some row.lastAt) o.observedEventAt then
      [(row.organizationId, utcDate row.lastAt, row.instanceId)]
    else [])
  | .ignore _ | .enrich _ | .closeOutOfOrder _ => []

/-- Keys of the usage rows that receive an estimate from a packet. -/
def estimatedKeys (env : Env) (directory : Directory) (state : State) (packet : Int × Attrs) :
    List (Nat × Nat × Nat) :=
  match observe env directory packet.1 packet.2 with
  | .error _ => []
  | .ok o =>
    match plan env state.logs o with
    | .error _ => []
    | .ok decision => decision.estimates state.nextId o

theorem estimate_recorded (previous current : Counters) (previousEventAt : Option Nat)
    (eventAt : Nat) (priorComplete : Bool) (reason : Option AnomalyReason) (baseline : Bool)
    (h : reason.isSome = true ∨ counterReset baseline previous current = true ∨
      crosses utcMonth previousEventAt eventAt = true) :
    (calculateUsageDelta previous current previousEventAt eventAt priorComplete reason
      baseline).idle = false ∧
    (calculateUsageDelta previous current previousEventAt eventAt priorComplete reason
      baseline).rowComplete = false := by
  have hreason : (calculateUsageDelta previous current previousEventAt eventAt priorComplete
      reason baseline).anomalyReason.isNone = false := by
    simp only [calculateUsageDelta]
    cases reason with
    | some reason => rfl
    | none =>
      rcases h with h | h | h
      · cases h
      · simp [h]
      · simp only [h, if_true]
        split <;> rfl
  refine ⟨by simp [Usage.idle, hreason], ?_⟩
  simp only [calculateUsageDelta]
  rcases h with h | h | h
  · cases reason with
    | none => cases h
    | some reason => simp
  · simp [h]
  · simp [h]

theorem usageSince_recorded (h : row.estimates o = true) :
    (row.usageSince o).idle = false ∧ (row.usageSince o).rowComplete = false := by
  simp only [Log.estimates, Bool.or_eq_true] at h
  exact estimate_recorded _ _ _ _ _ none _ (Or.inr h)

theorem day_upserted (subject : Subject) (eventAt : Nat) (h : usage.idle = false) :
    usageRow subject (utcDate eventAt) usage.deltas usage.rowComplete usage.anomalyReason
      usage.anomalyCount eventAt ∈ usageUpserts subject eventAt usage := by
  simp [usageUpserts, h]

theorem estimates_incomplete (h : Sound state) {decision : Plan}
    (hkey : key ∈ decision.estimates state.nextId o) :
    Incomplete key (perform env state o decision).2.usage := by
  have hupdate : ∀ row : Log,
      key ∈ (Plan.accept row).estimates state.nextId o →
      Incomplete key (recordUsageDelta state.usage row.subject o.observedEventAt
        (row.usageSince o)) := by
    intro row hkey
    rcases List.mem_append.mp hkey with hkey | hkey
    · split at hkey
      · rename_i hestimate
        obtain rfl := List.mem_singleton.mp hkey
        obtain ⟨hidle, hcomplete⟩ := usageSince_recorded hestimate
        exact incomplete_recorded h.daily (day_upserted _ _ hidle) hcomplete
      · cases hkey
    · split at hkey
      · rename_i hcross
        obtain rfl := List.mem_singleton.mp hkey
        have hestimate : row.estimates o = true := by simp [Log.estimates, hcross]
        have hnot : (row.usageSince o).idle = false := (usageSince_recorded hestimate).1
        have hmem : usageRow row.subject (utcDate row.lastAt) (.of fun _ => 0) false
            (some .utcMonthBoundaryEstimate) 1 row.lastAt ∈
            usageUpserts row.subject o.observedEventAt (row.usageSince o) := by
          have hmonth : (row.usageSince o).crossesUtcMonthBoundary = true := hcross
          have hprevious : (row.usageSince o).previousEventAt = some row.lastAt := rfl
          simp only [usageUpserts, hnot, Bool.false_eq_true, if_false, hmonth, hprevious]
          exact List.mem_append_left _ List.mem_cons_self
        exact incomplete_recorded h.daily hmem rfl
      · cases hkey
  cases decision with
  | ignore row => cases hkey
  | enrich row => cases hkey
  | closeOutOfOrder row => cases hkey
  | accept row => exact hupdate row hkey
  | correctFinal row => exact hupdate row hkey
  | insertLate =>
    obtain rfl := List.mem_singleton.mp hkey
    obtain ⟨hidle, hcomplete⟩ : (lateUsage o).idle = false ∧ (lateUsage o).rowComplete = false :=
      estimate_recorded _ _ _ _ _ _ _ (Or.inl rfl)
    exact incomplete_recorded h.daily (day_upserted _ _ hidle) hcomplete
  | openSession closing stationMove =>
    simp only [Plan.estimates] at hkey
    split at hkey
    · rename_i husage
      obtain rfl := List.mem_singleton.mp hkey
      obtain ⟨hidle, hcomplete⟩ : (startUsage o).idle = false ∧
          (startUsage o).rowComplete = false :=
        estimate_recorded _ _ _ _ _ _ _ (Or.inl (by rw [husage]; rfl))
      have hday := day_upserted (startLog state.nextId o).subject o.observedEventAt hidle
      have hrow : Incomplete (o.organizationId, utcDate o.observedEventAt, state.nextId)
          (recordUsageDelta state.usage (startLog state.nextId o).subject o.observedEventAt
            (startUsage o)) := incomplete_recorded h.daily hday hcomplete
      simpa only [perform, State.insertLog, State.record, State.closeMoved_usage,
        State.closeDuplicate_usage] using hrow
    · cases hkey

theorem Incomplete.perform (h : Incomplete key state.usage) (decision : Plan) :
    Incomplete key (perform env state o decision).2.usage := by
  cases decision with
  | ignore row => exact h
  | enrich row => exact h
  | closeOutOfOrder row => exact h
  | accept row => exact h.record row.subject o.observedEventAt (row.usageSince o)
  | correctFinal row => exact h.record row.subject o.observedEventAt (row.usageSince o)
  | insertLate => exact h.record _ o.observedEventAt (lateUsage o)
  | openSession closing stationMove =>
    have hrow := h.record (startLog state.nextId o).subject o.observedEventAt (startUsage o)
    simpa only [FireIsp.Radius.perform, State.insertLog, State.record, State.closeMoved_usage,
      State.closeDuplicate_usage] using hrow

theorem Incomplete.ingest (h : Incomplete key state.usage) (packet : Int × Attrs) :
    Incomplete key (ingest env directory state packet).usage := by
  cases hobserve : observe env directory packet.1 packet.2 with
  | error invalid => rwa [ingest_invalid hobserve]
  | ok o =>
    rw [ingest_observe hobserve]
    unfold State.take
    split
    · exact h.perform _
    · exact h

theorem ingest_incomplete (h : Sound state) {packet : Int × Attrs}
    (hkey : key ∈ estimatedKeys env directory state packet) :
    Incomplete key (ingest env directory state packet).usage := by
  unfold estimatedKeys at hkey
  cases hobserve : observe env directory packet.1 packet.2 with
  | error invalid =>
    rw [hobserve] at hkey
    cases hkey
  | ok o =>
    simp only [hobserve] at hkey
    rw [ingest_observe hobserve]
    cases hplan : plan env state.logs o with
    | error invalid =>
      rw [hplan] at hkey
      cases hkey
    | ok decision =>
      simp only [hplan] at hkey
      rw [State.take_plan hplan]
      exact estimates_incomplete h hkey

theorem state_meter {packets : List (Int × Attrs)} :
    (run (meter env directory) m packets).state = run (ingest env directory) m.state packets := by
  induction packets generalizing m with
  | nil => rfl
  | cons packet packets ih => exact ih

/-- A session's days add up to its last value less its first, and estimates stay incomplete. -/
theorem usage_conserved (env : Env) (directory : Directory) {state : State} (hsound : Sound state)
    (packets : List (Int × Attrs)) :
    (∀ i field, state.nextId ≤ i →
      (reports (run (meter env directory) ⟨state, []⟩ packets).taken i field).Pairwise (· ≤ ·) →
      sessionTotal (run (ingest env directory) state packets).usage i field +
          (reports (run (meter env directory) ⟨state, []⟩ packets).taken i field).head?.getD 0 =
        (reports (run (meter env directory) ⟨state, []⟩ packets).taken i field).getLast?.getD 0) ∧
    ∀ before packet after, packets = before ++ packet :: after →
      ∀ key ∈ estimatedKeys env directory (run (ingest env directory) state before) packet,
        Incomplete key (run (ingest env directory) state packets).usage := by
  constructor
  · intro i field hi hle
    have hinit : Counted field state.nextId ⟨state, []⟩ := by
      refine ⟨hsound, Nat.le_refl _, fun report hreport => absurd hreport List.not_mem_nil,
        fun row hrow hfirst => ?_, fun i hi _ => ?_⟩
      · have hlt := (hsound.fresh row hrow).2
        omega
      · have hnone : (state.usage.filter fun row => row.sessionInstanceId = i) = [] := by
          refine List.filter_eq_nil_iff.mpr fun row hrow => ?_
          have hlt := hsound.recorded row hrow
          have hne : row.sessionInstanceId ≠ i := by omega
          simpa using hne
        simp [sessionTotal, hnone, reports]
    have hend : Counted field state.nextId (run (meter env directory) ⟨state, []⟩ packets) :=
      run_preserves (fun m packet h => h.meter packet) hinit packets
    have htotal := hend.total i hi hle
    rwa [state_meter] at htotal
  · rintro before packet after rfl key hkey
    have hbefore : Sound (run (ingest env directory) state before) :=
      run_preserves (fun s packet h => h.ingest packet) hsound before
    have hmarked := ingest_incomplete hbefore hkey
    rw [run_append, run_cons]
    exact run_preserves (I := fun s : State => Incomplete key s.usage)
      (fun s packet h => h.ingest packet) hmarked after

/-- A session of 300 octets is recorded with 300 octets. -/
theorem usage_conserved_sample :
    sessionTotal (run (ingest plainEnv plainDirectory) emptyState samplePackets).usage 1
      .bytesIn = 300 := by
  have htidy : Tidy plainEnv emptyState := emptyState_tidy
  have htotal := (usage_conserved plainEnv plainDirectory htidy.toSound samplePackets).1 1 .bytesIn
    (by decide) (by decide)
  have hfirst : (reports (run (meter plainEnv plainDirectory) ⟨emptyState, []⟩ samplePackets).taken
      1 .bytesIn).head?.getD 0 = 0 := by decide
  have hlast : (reports (run (meter plainEnv plainDirectory) ⟨emptyState, []⟩ samplePackets).taken
      1 .bytesIn).getLast?.getD 0 = 300 := by decide
  rwa [hfirst, hlast] at htotal

/-- Key of the usage row that receives the usage of an interval across midnight. -/
def midnightKeys (env : Env) (directory : Directory) (state : State) (packet : Int × Attrs) :
    List (Nat × Nat × Nat) :=
  match observe env directory packet.1 packet.2 with
  | .error _ => []
  | .ok o =>
    match plan env state.logs o with
    | .ok (.accept row) | .ok (.correctFinal row) =>
      if crosses utcDate (some row.lastAt) o.observedEventAt then
        [(row.organizationId, utcDate o.observedEventAt, row.instanceId)]
      else []
    | _ => []

/-- An interval across midnight inside a month leaves the row of its day complete. -/
theorem midnight_stays_complete :
    ¬∀ (env : Env) (directory : Directory) (state : State) (packets : List (Int × Attrs)),
      Sound state → ∀ before packet after, packets = before ++ packet :: after →
        ∀ key ∈ midnightKeys env directory (run (ingest env directory) state before) packet,
          Incomplete key (run (ingest env directory) state packets).usage := by
  intro h
  have htidy : Tidy plainEnv emptyState := emptyState_tidy
  have hincomplete := h plainEnv plainDirectory emptyState
    [samplePacket "Start" 1770073200 0, samplePacket "Interim-Update" 1770080400 100]
    htidy.toSound [samplePacket "Start" 1770073200 0]
    (samplePacket "Interim-Update" 1770080400 100) [] rfl (1, 20487, 1) (by decide)
  have hcomplete : ∃ row ∈ (run (ingest plainEnv plainDirectory) emptyState
      [samplePacket "Start" 1770073200 0, samplePacket "Interim-Update" 1770080400 100]).usage,
      row.key = (1, 20487, 1) ∧ row.isComplete = true := by decide
  obtain ⟨row, hrow, hkey, htrue⟩ := hcomplete
  rw [hincomplete.2 row hrow hkey] at htrue
  cases htrue

end FireIsp.Radius
