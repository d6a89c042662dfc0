import FireIsp.Radius.Ingest

/-!
# Session rows

What holds of the accounting tables after any packets: ids are distinct and belong to stored rows.
Each plan works on the current row of its session, and writes keep ids and lifecycles in place.
-/

namespace FireIsp.Radius

variable {env : Env} {directory : Directory} {state : State} {logs : List Log} {o : Observation}

/-- Rows and lifecycles are told apart by ids handed out so far. -/
structure Sound (state : State) : Prop where
  ids : Table.Keyed Log.id state.logs
  instances : Table.Keyed Log.instanceId state.logs
  fresh : ∀ row ∈ state.logs, row.id < state.nextId ∧ row.instanceId < state.nextId
  recorded : ∀ row ∈ state.usage, row.sessionInstanceId < state.nextId
  daily : Table.Keyed UsageRow.key state.usage

@[simp] theorem State.putLog_logs (row : Log) :
    (state.putLog row).logs = Table.put Log.id row state.logs := rfl

@[simp] theorem State.putLog_usage (row : Log) : (state.putLog row).usage = state.usage := rfl

@[simp] theorem State.putLog_nextId (row : Log) : (state.putLog row).nextId = state.nextId := rfl

@[simp] theorem State.record_logs (row : Log) (usage : Usage) :
    (state.record row o usage).logs = state.logs := rfl

@[simp] theorem State.record_nextId (row : Log) (usage : Usage) :
    (state.record row o usage).nextId = state.nextId := rfl

@[simp] theorem State.insertLog_logs (row : Log) (usage : Usage) :
    (state.insertLog row o usage).logs = state.logs ++ [row] := rfl

@[simp] theorem State.insertLog_nextId (row : Log) (usage : Usage) :
    (state.insertLog row o usage).nextId = state.nextId + 1 := rfl

@[simp] theorem State.closeMoved_usage : (state.closeMoved env o).usage = state.usage := by
  unfold State.closeMoved
  split <;> rfl

@[simp] theorem State.closeMoved_nextId : (state.closeMoved env o).nextId = state.nextId := by
  unfold State.closeMoved
  split <;> rfl

@[simp] theorem State.closeDuplicate_usage (closing : Option (Log × String)) :
    (state.closeDuplicate o closing).usage = state.usage := by
  unfold State.closeDuplicate
  split <;> rfl

@[simp] theorem State.closeDuplicate_nextId (closing : Option (Log × String)) :
    (state.closeDuplicate o closing).nextId = state.nextId := by
  unfold State.closeDuplicate
  split <;> rfl

theorem currentRow_mem {row : Log} (h : currentRow env logs o = some row) : row ∈ logs := by
  unfold currentRow at h
  split at h
  · rename_i found hfound
    obtain rfl := Option.some.inj h
    exact (List.mem_filter.mp (Table.newest_spec hfound).1).1
  · exact (List.mem_filter.mp (Table.newest_spec h).1).1

theorem movedRow_spec {row : Log} (h : movedRow env logs o = some row) :
    row ∈ logs ∧ row.isOpen ∧ ∀ id ∈ row.acctSessionId, ¬env.same id o.acctSessionId := by
  have hopen : openRow env logs o = some row := (Option.filter_eq_some_iff.mp h).1
  obtain ⟨hmem, hrow⟩ := List.mem_filter.mp (Table.newest_spec hopen).1
  simp only [Bool.and_eq_true, Option.all_eq_true, Bool.not_eq_true', decide_eq_false_iff_not]
    at hrow
  exact ⟨hmem, hrow.1.2, hrow.2⟩

def Plan.row : Plan → Option Log
  | .ignore row => some row
  | .enrich row => some row
  | .openSession closing _ => closing.map Prod.fst
  | .correctFinal row => some row
  | .closeOutOfOrder row => some row
  | .accept row => some row
  | .insertLate => none

variable {decision : Plan}

theorem plan_row {row : Log} (h : plan env logs o = .ok decision) (hrow : decision.row = some row) :
    currentRow env logs o = some row := by
  have hstart : planStart env logs o = .ok decision → currentRow env logs o = some row := by
    intro h
    unfold planStart at h
    cases hcurrent : currentRow env logs o with
    | none =>
      rw [hcurrent] at h
      cases h
      cases hrow
    | some duplicate =>
      simp only [hcurrent] at h
      split_ifs at h <;> cases h <;> cases hrow <;> rfl
  have hupdate : planUpdate env logs o = .ok decision → currentRow env logs o = some row := by
    intro h
    unfold planUpdate at h
    cases hlive : liveRow env logs o with
    | none =>
      rw [hlive] at h
      cases h
      cases hrow
    | some current =>
      have hcurrent := (Option.filter_eq_some_iff.mp hlive).1
      simp only [hlive] at h
      split_ifs at h <;> cases h <;> cases hrow <;> exact hcurrent
  unfold plan at h
  cases htype : o.eventType with
  | start => exact hstart (by simpa only [htype] using h)
  | stop => exact hupdate (by simpa only [htype] using h)
  | interimUpdate => exact hupdate (by simpa only [htype] using h)

variable {rows : List UsageRow}

theorem key_of_find {new old : UsageRow}
    (h : rows.find? (fun row => row.key == new.key) = some old) : old.key = new.key := by
  simpa using List.find?_some h

theorem mem_upsertUsage {new row : UsageRow} (h : row ∈ upsertUsage rows new) :
    row ∈ rows ∨ row.key = new.key := by
  unfold upsertUsage at h
  split at h
  · rcases List.mem_append.mp h with h | h
    · exact Or.inl h
    · rw [List.mem_singleton.mp h]
      exact Or.inr rfl
  · rename_i old hfind
    rcases Table.mem_of_mem_put h with h | h
    · have hkey : old.key = new.key := key_of_find hfind
      rw [h]
      exact Or.inr hkey
    · exact Or.inl h

theorem keyed_upsertUsage (h : Table.Keyed UsageRow.key rows) (new : UsageRow) :
    Table.Keyed UsageRow.key (upsertUsage rows new) := by
  unfold upsertUsage
  split
  · rename_i hnone
    have hfresh : new.key ∉ rows.map UsageRow.key := by
      intro hmem
      obtain ⟨row, hrow, hkey⟩ := List.mem_map.mp hmem
      have hnot := List.find?_eq_none.mp hnone row hrow
      simp [hkey] at hnot
    have hkeyed : Table.Keyed UsageRow.key (Table.put UsageRow.key new rows) := Table.keyed_put h
    rwa [Table.put_fresh hfresh] at hkeyed
  · exact Table.keyed_put h

theorem keyed_recordUsageDelta (h : Table.Keyed UsageRow.key rows) (subject : Subject)
    (eventAt : Nat) (usage : Usage) :
    Table.Keyed UsageRow.key (recordUsageDelta rows subject eventAt usage) := by
  unfold recordUsageDelta
  generalize usageUpserts subject eventAt usage = upserts
  induction upserts generalizing rows with
  | nil => exact h
  | cons new upserts ih => exact ih (keyed_upsertUsage h new)

theorem mem_recordUsageDelta {subject : Subject} {eventAt : Nat} {usage : Usage} {row : UsageRow}
    (h : row ∈ recordUsageDelta rows subject eventAt usage) :
    row ∈ rows ∨ row.sessionInstanceId = subject.sessionInstanceId := by
  have hupserts : ∀ new ∈ usageUpserts subject eventAt usage,
      new.sessionInstanceId = subject.sessionInstanceId := by
    intro new hnew
    unfold usageUpserts at hnew
    split at hnew
    · cases hnew
    · rcases List.mem_append.mp hnew with hnew | hnew
      · split at hnew
        · rw [List.mem_singleton.mp hnew]
          rfl
        · cases hnew
      · rw [List.mem_singleton.mp hnew]
        rfl
  unfold recordUsageDelta at h
  generalize usageUpserts subject eventAt usage = upserts at h hupserts
  induction upserts generalizing rows with
  | nil => exact Or.inl h
  | cons new upserts ih =>
    have hrest := ih h fun x hx => hupserts x (List.mem_cons_of_mem _ hx)
    rcases hrest with hmem | hinstance
    · rcases mem_upsertUsage hmem with hmem | hkey
      · exact Or.inl hmem
      · have hnew := hupserts new List.mem_cons_self
        have hsame : row.sessionInstanceId = new.sessionInstanceId :=
          congrArg (fun key => key.2.2) hkey
        exact Or.inr (hsame.trans hnew)
    · exact Or.inr hinstance

theorem Sound.putLog (h : Sound state) {old row : Log} (hold : old ∈ state.logs)
    (hid : old.id = row.id) (hinstance : old.instanceId = row.instanceId) :
    Sound (state.putLog row) where
  ids := Table.keyed_put h.ids
  instances := by
    unfold Table.Keyed
    rw [State.putLog_logs, Table.map_put h.ids hold hid hinstance]
    exact h.instances
  fresh := by
    intro other hother
    rcases Table.mem_of_mem_put hother with rfl | hother
    · rw [← hid, ← hinstance]
      exact h.fresh old hold
    · exact h.fresh other hother
  recorded := h.recorded
  daily := h.daily

theorem Sound.record (h : Sound state) {row : Log} (hrow : row.instanceId < state.nextId)
    (usage : Usage) : Sound (state.record row o usage) where
  ids := h.ids
  instances := h.instances
  fresh := h.fresh
  recorded := by
    intro other hother
    rcases mem_recordUsageDelta hother with hother | hinstance
    · exact h.recorded other hother
    · rw [hinstance]
      exact hrow
  daily := keyed_recordUsageDelta h.daily row.subject o.observedEventAt usage

theorem Sound.insertLog (h : Sound state) {row : Log} (hid : row.id = state.nextId)
    (hinstance : row.instanceId = state.nextId) (usage : Usage) :
    Sound (state.insertLog row o usage) := by
  have hnew : Sound { state with nextId := state.nextId + 1, logs := state.logs ++ [row] } := by
    refine ⟨?_, ?_, ?_, ?_, h.daily⟩
    · have hfresh : row.id ∉ state.logs.map Log.id := by
        intro hmem
        obtain ⟨other, hother, hsame⟩ := List.mem_map.mp hmem
        have hlt := (h.fresh other hother).1
        omega
      have hkeyed : Table.Keyed Log.id (Table.put Log.id row state.logs) := Table.keyed_put h.ids
      rwa [Table.put_fresh hfresh] at hkeyed
    · have hfresh : row.instanceId ∉ state.logs.map Log.instanceId := by
        intro hmem
        obtain ⟨other, hother, hsame⟩ := List.mem_map.mp hmem
        have hlt := (h.fresh other hother).2
        omega
      have hkeyed : Table.Keyed Log.instanceId (Table.put Log.instanceId row state.logs) :=
        Table.keyed_put h.instances
      rwa [Table.put_fresh hfresh] at hkeyed
    · intro other hother
      rcases List.mem_append.mp hother with hother | hother
      · have hlt := h.fresh other hother
        exact ⟨Nat.lt_succ_of_lt hlt.1, Nat.lt_succ_of_lt hlt.2⟩
      · rw [List.mem_singleton.mp hother, hid, hinstance]
        exact ⟨Nat.lt_succ_self _, Nat.lt_succ_self _⟩
    · intro other hother
      exact Nat.lt_succ_of_lt (h.recorded other hother)
  have hlt : row.instanceId < state.nextId + 1 := by
    rw [hinstance]
    exact Nat.lt_succ_self _
  exact hnew.record hlt usage

theorem Sound.closeMoved (h : Sound state) : Sound (state.closeMoved env o) := by
  unfold State.closeMoved
  cases hmoved : movedRow env state.logs o with
  | none => exact h
  | some row =>
    have hput : Sound (state.putLog (row.close o "Session-Moved")) :=
      h.putLog (movedRow_spec hmoved).1 rfl rfl
    exact ⟨hput.ids, hput.instances, hput.fresh, hput.recorded, hput.daily⟩

theorem Sound.closeDuplicate (h : Sound state) {closing : Option (Log × String)}
    (hclosing : ∀ row cause, closing = some (row, cause) → row ∈ state.logs) :
    Sound (state.closeDuplicate o closing) := by
  cases closing with
  | none => exact h
  | some pair => exact h.putLog (hclosing pair.1 pair.2 rfl) rfl rfl

theorem Sound.perform (h : Sound state) (hplan : plan env state.logs o = .ok decision) :
    Sound (perform env state o decision).2 := by
  have hrow : ∀ row, decision.row = some row → row ∈ state.logs := fun row hrow =>
    currentRow_mem (plan_row hplan hrow)
  cases decision with
  | ignore row => exact h
  | enrich row => exact h.putLog (hrow row rfl) rfl rfl
  | openSession closing stationMove =>
    have hclosed : Sound (state.closeDuplicate o closing) := h.closeDuplicate (by
      rintro row cause rfl
      exact hrow row rfl)
    have hmoved : Sound ((state.closeDuplicate o closing).closeMoved env o) :=
      hclosed.closeMoved
    refine hmoved.insertLog ?_ ?_ (startUsage o)
    · simp only [State.closeMoved_nextId, State.closeDuplicate_nextId]
      rfl
    · simp only [State.closeMoved_nextId, State.closeDuplicate_nextId]
      rfl
  | correctFinal row =>
    have hput : Sound (state.putLog (row.correctFinal o)) := h.putLog (hrow row rfl) rfl rfl
    exact hput.record (h.fresh row (hrow row rfl)).2 (row.usageSince o)
  | closeOutOfOrder row => exact h.putLog (hrow row rfl) rfl rfl
  | accept row =>
    have hput : Sound (state.putLog (row.accept o)) := h.putLog (hrow row rfl) rfl rfl
    exact hput.record (h.fresh row (hrow row rfl)).2 (row.usageSince o)
  | insertLate => exact h.insertLog rfl rfl (lateUsage o)

/-- The tables after an observation; a refused one leaves them as they were. -/
def State.take (env : Env) (state : State) (o : Observation) : State :=
  match plan env state.logs o with
  | .ok decision => (perform env state o decision).2
  | .error _ => state

theorem State.take_plan (h : plan env state.logs o = .ok decision) :
    state.take env o = (perform env state o decision).2 := by
  simp only [State.take, h]

theorem ingest_observe {packet : Int × Attrs}
    (h : observe env directory packet.1 packet.2 = .ok o) :
    ingest env directory state packet = state.take env o := by
  simp only [ingest, ingestAccounting, h, State.take, bind, Except.bind]
  cases plan env state.logs o with
  | error invalid => rfl
  | ok decision => rfl

theorem ingest_invalid {packet : Int × Attrs} {invalid : Invalid}
    (h : observe env directory packet.1 packet.2 = .error invalid) :
    ingest env directory state packet = state := by
  simp only [ingest, ingestAccounting, h, bind, Except.bind]

theorem Sound.take (h : Sound state) (o : Observation) : Sound (state.take env o) := by
  unfold State.take
  split
  · rename_i decision hplan
    exact h.perform hplan
  · exact h

theorem Sound.ingest (h : Sound state) (packet : Int × Attrs) :
    Sound (ingest env directory state packet) := by
  cases hobserve : observe env directory packet.1 packet.2 with
  | error invalid => rwa [ingest_invalid hobserve]
  | ok o =>
    rw [ingest_observe hobserve]
    exact h.take o

end FireIsp.Radius
