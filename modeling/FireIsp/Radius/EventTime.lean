import FireIsp.Radius.Delivery

/-!
# Time of the last accounting

Packets in any order. A row that stays open moves forward, and a stopped row stays at its time. The
packet that stops a row may take it back: a Stop older than the row closes it at its own time.
-/

namespace FireIsp.Radius

open Transition

variable {env : Env} {directory : Directory} {state : State} {logs : List Log} {o : Observation}

/-- Every row before is related to the row of its id after. -/
def Follows (R : Log → Log → Prop) (before after : List Log) : Prop :=
  ∀ row ∈ before, ∃ other ∈ after, other.id = row.id ∧ R row other

/-- An open row moves forward as long as it stays open, and a stopped row stays at its time. -/
def Onward (row other : Log) : Prop :=
  (row.isOpen = true → other.isOpen = true → row.lastAt ≤ other.lastAt) ∧
    (row.isOpen = false → other.isOpen = false ∧ other.lastAt = row.lastAt)

/-- A row goes back only when it is closed, by a Start or by a Stop older than it. -/
def Advanced (o : Observation) (row other : Log) : Prop :=
  Onward row other ∧ (other.lastAt < row.lastAt → row.isOpen = true ∧ other.isOpen = false ∧
    (o.eventType = .start ∨ o.eventType = .stop ∧ other = row.closeOutOfOrder o))

/-- The row is untouched or closed. -/
def Ended (row other : Log) : Prop := other = row ∨ row.isOpen = true ∧ other.isOpen = false

variable {R : Log → Log → Prop}

theorem Follows.mono {S : Log → Log → Prop} {before after : List Log} (h : Follows R before after)
    (hle : ∀ row other, R row other → S row other) : Follows S before after := by
  intro row hrow
  obtain ⟨other, hother, hid, hr⟩ := h row hrow
  exact ⟨other, hother, hid, hle row other hr⟩

theorem Follows.trans (htrans : ∀ a b c, R a b → R b c → R a c) {before middle after : List Log}
    (h : Follows R before middle) (h' : Follows R middle after) :
    Follows R before after := by
  intro row hrow
  obtain ⟨next, hnext, hid, hr⟩ := h row hrow
  obtain ⟨last, hlast, hid', hr'⟩ := h' next hnext
  exact ⟨last, hlast, hid'.trans hid, htrans row next last hr hr'⟩

theorem Follows.refl (hrefl : ∀ row, R row row) (logs : List Log) :
    Follows R logs logs :=
  fun row hrow => ⟨row, hrow, rfl, hrefl row⟩

variable {row : Log}

theorem Follows.put (hrefl : ∀ row, R row row) {old : Log} (hids : Table.Keyed Log.id logs)
    (hold : old ∈ logs) (hid : row.id = old.id) (h : R old row) :
    Follows R logs (Table.put Log.id row logs) := by
  intro other hother
  by_cases hsame : other.id = row.id
  · obtain rfl : other = old := List.inj_on_of_nodup_map hids hother hold (hsame.trans hid)
    exact ⟨row, Table.mem_put_self row logs, hid, h⟩
  · exact ⟨other, (Table.mem_put hids).mpr (Or.inr ⟨hother, hsame⟩), rfl, hrefl other⟩

theorem Follows.append (hrefl : ∀ row, R row row) (logs : List Log) (row : Log) :
    Follows R logs (logs ++ [row]) :=
  fun other hother => ⟨other, List.mem_append_left _ hother, rfl, hrefl other⟩

theorem Onward.refl (row : Log) : Onward row row :=
  ⟨fun _ _ => Nat.le_refl _, fun h => ⟨h, rfl⟩⟩

theorem Onward.trans (a b c : Log) (h : Onward a b) (h' : Onward b c) : Onward a c := by
  constructor
  · intro ha hc
    cases hb : b.isOpen with
    | true => exact (h.1 ha hb).trans (h'.1 hb hc)
    | false => exact absurd hc (by simp [(h'.2 hb).1])
  · intro ha
    obtain ⟨hb, hab⟩ := h.2 ha
    obtain ⟨hc, hbc⟩ := h'.2 hb
    exact ⟨hc, hbc.trans hab⟩

variable {other : Log}

theorem Advanced.of_le (hopen : row.isOpen = true) (hle : row.lastAt ≤ other.lastAt) :
    Advanced o row other :=
  ⟨⟨fun _ _ => hle, fun hclosed => absurd hopen (by simp [hclosed])⟩, fun hlt => by omega⟩

theorem Advanced.of_stay (hsame : other.isOpen = row.isOpen) (hlast : other.lastAt = row.lastAt) :
    Advanced o row other :=
  ⟨⟨fun _ _ => hlast.ge, fun hclosed => ⟨hsame.trans hclosed, hlast⟩⟩, fun hlt => by omega⟩

theorem Advanced.of_closed (hopen : row.isOpen = true) (hclosed : other.isOpen = false)
    (h : o.eventType = .start ∨ o.eventType = .stop ∧ other = row.closeOutOfOrder o) :
    Advanced o row other :=
  ⟨⟨fun _ hother => absurd hother (by simp [hclosed]), fun hrow => absurd hopen (by simp [hrow])⟩,
    fun _ => ⟨hopen, hclosed, h⟩⟩

theorem Advanced.refl (row : Log) : Advanced o row row := .of_stay rfl rfl

theorem Ended.trans (a b c : Log) (h : Ended a b) (h' : Ended b c) : Ended a c := by
  rcases h with rfl | ⟨ha, hb⟩
  · exact h'
  · rcases h' with rfl | ⟨hb', -⟩
    · exact Or.inr ⟨ha, hb⟩
    · exact absurd hb' (by simp [hb])

theorem isOpen_of_new (h : (staleOpenSession env row o || newOpenLifecycle row o) = true) :
    row.isOpen = true := by
  simp only [staleOpenSession, newOpenLifecycle, identityChanged, distinctLaterStart,
    Bool.or_eq_true, Bool.and_eq_true] at h
  tauto

/-- Open rows are rewritten, none forward and later than the packet; only a Start opens. -/
def Plan.InTime (o : Observation) : Plan → Prop
  | .enrich row | .accept row => row.isOpen = true ∧ row.lastAt ≤ o.observedEventAt
  | .openSession closing _ => o.eventType = .start ∧ ∀ pair ∈ closing, pair.1.isOpen = true
  | .closeOutOfOrder row => o.eventType = .stop ∧ row.isOpen = true
  | .ignore _ | .correctFinal _ | .insertLate => True

theorem plan_inTime {decision : Plan} (h : plan env logs o = .ok decision) :
    decision.InTime o := by
  have hupdate : planUpdate env logs o = .ok decision → decision.InTime o := by
    intro h
    unfold planUpdate at h
    cases hlive : liveRow env logs o with
    | none =>
      rw [hlive] at h
      cases h
      trivial
    | some current =>
      simp only [hlive, Bool.not_eq_true'] at h
      split_ifs at h with hclosed <;> cases h <;>
        simp_all only [Plan.InTime, Bool.not_eq_false, not_lt, and_self]
  unfold plan at h
  cases htype : o.eventType with
  | start =>
    simp only [htype, planStart] at h
    cases hcurrent : currentRow env logs o with
    | none =>
      rw [hcurrent] at h
      cases h
      exact ⟨htype, fun pair hpair => by cases hpair⟩
    | some duplicate =>
      simp only [hcurrent] at h
      split_ifs at h with hconflict hreplay henriched hearly hnew <;> cases h
      · simp only [identityEnriched, Bool.and_eq_true] at henriched
        exact ⟨henriched.1, not_lt.mp hearly⟩
      · trivial
      · exact ⟨htype, fun pair hpair => Option.some.inj hpair ▸ isOpen_of_new hnew⟩
      · exact ⟨htype, fun pair hpair => Option.some.inj hpair ▸ isOpen_of_new hnew⟩
      · exact ⟨htype, fun pair hpair => by cases hpair⟩
  | stop => exact hupdate (by simpa only [htype] using h)
  | interimUpdate => exact hupdate (by simpa only [htype] using h)

theorem closeMoved_ended (h : Sound state) :
    Follows Ended state.logs (state.closeMoved env o).logs := by
  have hrefl : ∀ row, Ended row row := fun row => Or.inl rfl
  unfold State.closeMoved
  cases hmoved : movedRow env state.logs o with
  | none => exact .refl hrefl state.logs
  | some row =>
    obtain ⟨hmem, hopen, -⟩ := movedRow_spec hmoved
    exact .put hrefl h.ids hmem rfl (Or.inr ⟨hopen, rfl⟩)

theorem perform_advanced (h : Sound state) {decision : Plan}
    (hplan : plan env state.logs o = .ok decision) :
    Follows (Advanced o) state.logs (perform env state o decision).2.logs := by
  have hmem : ∀ row, decision.row = some row → row ∈ state.logs := fun row hrow =>
    currentRow_mem (plan_row hplan hrow)
  have htime := plan_inTime hplan
  have hrefl : ∀ row, Advanced o row row := .refl
  cases decision with
  | ignore row => exact .refl hrefl state.logs
  | enrich row => exact .put hrefl h.ids (hmem row rfl) rfl (.of_le htime.1 htime.2)
  | accept row => exact .put hrefl h.ids (hmem row rfl) rfl (.of_le htime.1 htime.2)
  | correctFinal row => exact .put hrefl h.ids (hmem row rfl) rfl (.of_stay rfl rfl)
  | insertLate => exact .append hrefl _ _
  | closeOutOfOrder row =>
    exact .put hrefl h.ids (hmem row rfl) rfl
      (.of_closed htime.2 rfl (Or.inr ⟨htime.1, rfl⟩))
  | openSession closing stationMove =>
    have hended : Follows Ended state.logs
        ((state.closeDuplicate o closing).closeMoved env o).logs := by
      refine Follows.trans Ended.trans ?_ (closeMoved_ended (h.closeDuplicate fun row cause heq => ?_))
      · cases closing with
        | none => exact .refl (fun row => Or.inl rfl) state.logs
        | some pair =>
          exact .put (fun row => Or.inl rfl) h.ids (hmem pair.1 rfl) rfl
            (Or.inr ⟨htime.2 pair rfl, rfl⟩)
      · subst heq
        exact hmem row rfl
    have hinserted := hended.trans Ended.trans (Follows.append (fun row => Or.inl rfl) _
      (startLog state.nextId o))
    refine hinserted.mono fun row other hrow => ?_
    rcases hrow with rfl | ⟨hrow, hother⟩
    · exact hrefl other
    · exact .of_closed hrow hother (Or.inl htime.1)

theorem ingest_advanced (h : Sound state) {packet : Int × Attrs}
    (hobserve : observe env directory packet.1 packet.2 = .ok o) :
    Follows (Advanced o) state.logs (ingest env directory state packet).logs := by
  rw [ingest_observe hobserve]
  unfold State.take
  split
  · rename_i decision hplan
    exact perform_advanced h hplan
  · exact .refl Advanced.refl state.logs

theorem run_onward (h : Sound state) (packets : List (Int × Attrs)) :
    Follows Onward state.logs (run (ingest env directory) state packets).logs := by
  induction packets generalizing state with
  | nil => exact .refl Onward.refl state.logs
  | cons packet packets ih =>
    refine Follows.trans Onward.trans ?_ (ih (h.ingest packet))
    cases hobserve : observe env directory packet.1 packet.2 with
    | error invalid =>
      rw [ingest_invalid hobserve]
      exact .refl Onward.refl state.logs
    | ok o => exact (ingest_advanced h hobserve).mono fun row other => And.left

theorem ingest_outOfOrder {packet : Int × Attrs}
    (hobserve : observe env directory packet.1 packet.2 = .ok o)
    (hrow : currentRow env state.logs o = some row) (hopen : row.isOpen = true)
    (htype : o.eventType = .stop) (hlt : o.observedEventAt < row.lastAt) :
    row.closeOutOfOrder o ∈ (ingest env directory state packet).logs := by
  have hlive : liveRow env state.logs o = some row := by
    rw [liveRow, hrow, Option.filter_some, if_pos (by simp [hopen])]
  have hplan : plan env state.logs o = .ok (.closeOutOfOrder row) := by
    simp [plan, htype, planUpdate, hlive, hopen, hlt]
  rw [ingest_observe hobserve, State.take_plan hplan]
  exact Table.mem_put_self _ _

/-- A row moves forward while open and stays once stopped, but for the packet that closes it. -/
theorem accounting_time (env : Env) (directory : Directory) {state : State} (h : Sound state)
    (packets : List (Int × Attrs)) :
    (∀ later, Follows Onward (run (ingest env directory) state packets).logs
      (run (ingest env directory) state (packets ++ later)).logs) ∧
    ∀ packet o, observe env directory packet.1 packet.2 = .ok o →
      Follows (Advanced o) (run (ingest env directory) state packets).logs
        (run (ingest env directory) state (packets ++ [packet])).logs ∧
      ∀ row, currentRow env (run (ingest env directory) state packets).logs o = some row →
        row.isOpen = true → o.eventType = .stop → o.observedEventAt < row.lastAt →
        row.closeOutOfOrder o ∈ (run (ingest env directory) state (packets ++ [packet])).logs := by
  have hsound : Sound (run (ingest env directory) state packets) :=
    run_preserves (fun _ packet h => h.ingest packet) h packets
  constructor
  · intro later
    rw [run_append]
    exact run_onward hsound later
  · intro packet o hobserve
    rw [run_append, run_cons, run_nil]
    exact ⟨ingest_advanced hsound hobserve, fun row hrow hopen htype hlt =>
      ingest_outOfOrder hobserve hrow hopen htype hlt⟩

/-- A Stop ten seconds before the start of its session. -/
def earlyStop : Int × Attrs := samplePacket "Stop" 1769999990 0

theorem accounting_time_sample :
    Follows Onward (run (ingest plainEnv plainDirectory) emptyState samplePackets).logs
      (run (ingest plainEnv plainDirectory) emptyState (samplePackets ++ [earlyStop])).logs :=
  (accounting_time plainEnv plainDirectory (@emptyState_tidy plainEnv).toSound samplePackets).1
    [earlyStop]

/-- The early Stop takes the time of the last accounting back, and closes the session. -/
theorem early_stop_closes :
    ¬∀ (env : Env) (directory : Directory) (state : State) (packets : List (Int × Attrs))
      (packet : Int × Attrs), Sound state →
      Follows (fun row other => row.lastAt ≤ other.lastAt ∧
          ¬(∃ o ∈ (observe env directory packet.1 packet.2).toOption,
            o.eventType = .stop ∧ o.observedEventAt < row.eventAt ∧ row.isOpen ∧ !other.isOpen))
        (run (ingest env directory) state packets).logs
        (run (ingest env directory) state (packets ++ [packet])).logs := by
  intro h
  have hrun := h plainEnv plainDirectory emptyState [samplePacket "Start" 1770000000 0] earlyStop
    (@emptyState_tidy plainEnv).toSound
  exact absurd hrun (by unfold Follows; decide)

end FireIsp.Radius
