import FireIsp.Radius.EventTime

/-!
# One open row a session

Packets in any order, with or without an event time of their own. A Start that takes over an open
session at a time before an earlier, stopped one leaves a row that is open but not current; a run
without such a Start keeps one open row a session. Whatever is sent, a stopped row stays stopped
at its time.
-/

namespace FireIsp.Radius

open Transition

variable {env : Env} {directory : Directory} {state : State} {logs : List Log} {o : Observation}

def OneOpen (env : Env) (logs : List Log) : Prop :=
  ∀ row ∈ logs, ∀ other ∈ logs, row.isOpen → other.isOpen →
    other.sessionKey env = row.sessionKey env → other.id = row.id

/-- Every row that is stopped before is stopped after, at the same time. -/
def StopsStay (before after : List Log) : Prop :=
  ∀ row ∈ before, row.isOpen = false →
    ∃ other ∈ after, other.id = row.id ∧ other.isOpen = false ∧ other.lastAt = row.lastAt

/-- A Start without a time of its own that comes before a stopped row of the session. -/
def Backdated (env : Env) (logs : List Log) (o : Observation) : Prop :=
  o.eventType = .start ∧ o.hasExplicitEventTimestamp = false ∧
    (∃ open_ ∈ currentRow env logs o, identityChanged open_ o) ∧
    ∃ stopped ∈ logs, stopped.sessionKey env = o.sessionKey env ∧ stopped.isOpen = false ∧
      o.observedEventAt < stopped.lastAt

def Dated (env : Env) (directory : Directory) (state : State) (packet : Int × Attrs) : Prop :=
  ∀ o, observe env directory packet.1 packet.2 = .ok o → ¬Backdated env state.logs o

theorem Tidy.oneOpen (h : Tidy env state) : OneOpen env state.logs := by
  intro row hrow other hother hopen hopen' hkey
  rw [top_unique (h.openFirst row hrow hopen) (h.openFirst other hother hopen') hkey]

structure Stopped (env : Env) (old row : Log) : Prop where
  id : row.id = old.id
  instanceId : row.instanceId = old.instanceId
  acctSessionId : row.acctSessionId = old.acctSessionId
  key : row.sessionKey env = old.sessionKey env
  closed : row.isOpen = false

theorem Tidy.stop (h : Tidy env state) {old row : Log} (hold : old ∈ state.logs)
    (hopen : old.isOpen = true) (hstopped : Stopped env old row) :
    Tidy env (state.putLog row) where
  toSound := h.toSound.putLog hold hstopped.id.symm hstopped.instanceId.symm
  named := by
    intro other hother
    rcases Table.mem_of_mem_put hother with rfl | hother
    · rw [hstopped.acctSessionId]
      exact h.named old hold
    · exact h.named other hother
  openFirst := by
    intro other hother hopen'
    rcases (Table.mem_put h.ids).mp hother with rfl | ⟨hmem, hid⟩
    · rw [hstopped.closed] at hopen'
      cases hopen'
    · have htop := h.openFirst other hmem hopen'
      have hne : other ≠ old := fun e => hid (by rw [e, hstopped.id])
      have hkey : row.sessionKey env ≠ other.sessionKey env := fun e =>
        hne (top_unique (h.openFirst old hold hopen) htop (e.symm.trans hstopped.key))
      refine ⟨hother, fun third hthird hne' hsame => ?_⟩
      rcases (Table.mem_put h.ids).mp hthird with rfl | ⟨hthird, -⟩
      · exact absurd hsame hkey
      · exact htop.2 third hthird hne' hsame

theorem Tidy.closeMoved (h : Tidy env state) : Tidy env (state.closeMoved env o) := by
  unfold State.closeMoved
  cases hmoved : movedRow env state.logs o with
  | none => exact h
  | some row =>
    obtain ⟨hmem, hopen, -⟩ := movedRow_spec hmoved
    have hput : Tidy env (state.putLog (row.close o "Session-Moved")) :=
      h.stop hmem hopen ⟨rfl, rfl, rfl, rfl, rfl⟩
    exact ⟨⟨hput.ids, hput.instances, hput.fresh, hput.recorded, hput.daily⟩, hput.named,
      hput.openFirst⟩

theorem Tidy.openSession (h : Tidy env state) {closing : Option (Log × String)}
    {stationMove : Bool}
    (hclosing : ∀ row cause, closing = some (row, cause) → row ∈ state.logs ∧ row.isOpen = true)
    (hsession : ∀ row ∈ state.logs, row.sessionKey env = o.sessionKey env →
      (∃ cause, closing = some (row, cause)) ∨
        row.isOpen = false ∧ row.lastAt ≤ o.observedEventAt) :
    Tidy env (perform env state o (.openSession closing stationMove)).2 := by
  have hclosed : Tidy env (state.closeDuplicate o closing) ∧
      ∀ other ∈ (state.closeDuplicate o closing).logs, other.sessionKey env = o.sessionKey env →
        other.isOpen = false ∧ other.lastAt ≤ o.observedEventAt := by
    cases closing with
    | none =>
      refine ⟨h, fun other hother hkey => ?_⟩
      rcases hsession other hother hkey with ⟨cause, hcause⟩ | hrow
      · cases hcause
      · exact hrow
    | some pair =>
      obtain ⟨row, cause⟩ := pair
      obtain ⟨hmem, hopen⟩ := hclosing row cause rfl
      refine ⟨h.stop hmem hopen ⟨rfl, rfl, rfl, rfl, rfl⟩, fun other hother hkey => ?_⟩
      rcases (Table.mem_put h.ids).mp hother with rfl | ⟨hother, hid⟩
      · exact ⟨rfl, Nat.le_refl _⟩
      · rcases hsession other hother hkey with ⟨cause', hcause⟩ | hrow
        · cases hcause
          exact absurd rfl hid
        · exact hrow
  obtain ⟨htidy, hrows⟩ := hclosed
  refine htidy.closeMoved.insertLog ?_ ?_ rfl (fun other hother hkey => ?_) (startUsage o)
  · simp only [State.closeMoved_nextId, State.closeDuplicate_nextId]
    rfl
  · simp only [State.closeMoved_nextId, State.closeDuplicate_nextId]
    rfl
  · exact hrows other (mem_closeMoved htidy.ids hother hkey) hkey

theorem later_of_le {row next : Log} (hid : next.id = row.id)
    (hinstance : next.instanceId = row.instanceId)
    (hname : next.acctSessionId = row.acctSessionId)
    (hkey : next.sessionKey env = row.sessionKey env) (hlast : next.lastAt = o.observedEventAt)
    (hle : row.lastAt ≤ o.observedEventAt) : Later env row next :=
  ⟨hid, hinstance, hname, hkey, by rw [hlast]; exact hle⟩

theorem Tidy.takeOver (h : Tidy env state) {duplicate : Log} {cause : String}
    {stationMove : Bool} (hcurrent : currentRow env state.logs o = some duplicate)
    (hopen : duplicate.isOpen = true)
    (hstopped : ∀ row ∈ state.logs, row.sessionKey env = o.sessionKey env → row.isOpen = false →
      row.lastAt ≤ o.observedEventAt) :
    Tidy env (perform env state o (.openSession (some (duplicate, cause)) stationMove)).2 := by
  obtain ⟨htop, hkey⟩ := h.top_of_currentRow hcurrent
  refine h.openSession (fun row cause' hrow => ?_) fun row hrow hsame => ?_
  · cases hrow
    exact ⟨htop.1, hopen⟩
  · cases hrowOpen : row.isOpen with
    | false => exact Or.inr ⟨rfl, hstopped row hrow hsame hrowOpen⟩
    | true =>
      have heq := top_unique htop (h.openFirst row hrow hrowOpen) (hsame.trans hkey.symm)
      exact Or.inl ⟨cause, by rw [heq]⟩

theorem stopped_le (h : Tidy env state) {duplicate : Log} (htype : o.eventType = .start)
    (hdated : ¬Backdated env state.logs o) (hcurrent : currentRow env state.logs o = some duplicate)
    (hconflict : ¬(identityChanged duplicate o && o.hasExplicitEventTimestamp &&
      decide (o.observedEventAt < duplicate.lastAt)) = true)
    (hnew : (staleOpenSession env duplicate o || newOpenLifecycle duplicate o) = true) :
    duplicate.isOpen = true ∧ ∀ row ∈ state.logs, row.sessionKey env = o.sessionKey env →
      row.isOpen = false → row.lastAt ≤ o.observedEventAt := by
  obtain ⟨htop, hkey⟩ := h.top_of_currentRow hcurrent
  refine ⟨isOpen_of_new hnew, fun row hrow hsame hstopped => ?_⟩
  have hle : row.lastAt ≤ duplicate.lastAt := htop.last_le hrow (hsame.trans hkey.symm)
  by_cases hchanged : identityChanged duplicate o = true
  · cases hexplicit : o.hasExplicitEventTimestamp with
    | false =>
      by_contra hlt
      exact hdated ⟨htype, hexplicit, ⟨duplicate, hcurrent, hchanged⟩,
        row, hrow, hsame, hstopped, Nat.lt_of_not_le hlt⟩
    | true =>
      simp only [hchanged, hexplicit, Bool.and_self, Bool.true_and, decide_eq_true_eq]
        at hconflict
      omega
  · simp only [staleOpenSession, newOpenLifecycle, distinctLaterStart, Bool.not_eq_true]
      at hnew hchanged
    simp only [hchanged, Bool.false_or, Bool.or_eq_true, Bool.and_eq_true,
      decide_eq_true_eq] at hnew
    omega

theorem Tidy.take_start (h : Tidy env state) (htype : o.eventType = .start)
    (hdated : ¬Backdated env state.logs o) : Tidy env (state.take env o) := by
  unfold State.take plan
  simp only [htype]
  unfold planStart
  cases hcurrent : currentRow env state.logs o with
  | none =>
    have hnone := no_row_of_currentRow hcurrent
    refine h.openSession (fun row cause hrow => ?_) fun row hrow hkey =>
      absurd hkey (hnone row hrow)
    cases hrow
  | some duplicate =>
    obtain ⟨htop, hkey⟩ := h.top_of_currentRow hcurrent
    dsimp only
    split_ifs with hconflict hreplay henriched hearly hnew hchanged
    · exact h
    · exact h
    · have hle := Nat.le_of_not_lt hearly
      exact h.putLog htop (later_of_le rfl rfl rfl rfl rfl hle)
    · exact h
    · obtain ⟨hopen, hstopped⟩ := stopped_le h htype hdated hcurrent hconflict hnew
      exact h.takeOver hcurrent hopen hstopped
    · obtain ⟨hopen, hstopped⟩ := stopped_le h htype hdated hcurrent hconflict hnew
      exact h.takeOver hcurrent hopen hstopped
    · -- neither a replay nor a takeover: the current row is stopped, and earlier
      have hclosed : duplicate.isOpen = false ∧ duplicate.lastAt < o.observedEventAt := by
        simp only [isReplay, Bool.or_eq_true, Bool.and_eq_true, Bool.not_eq_true',
          decide_eq_true_eq] at hreplay hnew
        cases hopen : duplicate.isOpen with
        | false =>
          simp only [hopen, true_and, not_or, Nat.not_le] at hreplay
          exact ⟨rfl, hreplay.2⟩
        | true =>
          simp only [hopen, true_and] at hreplay
          simp only [not_or, Bool.not_eq_true] at hreplay hnew
          exact absurd hnew hreplay.1
      refine h.openSession (fun row cause hrow => ?_) fun row hrow hsame => Or.inr ?_
      · cases hrow
      · have hle := htop.last_le hrow (hsame.trans hkey.symm)
        refine ⟨Bool.eq_false_iff.mpr fun hopen => ?_, by omega⟩
        rw [top_unique htop (h.openFirst row hrow hopen) (hsame.trans hkey.symm),
          hclosed.1] at hopen
        cases hopen

theorem Tidy.take_update (h : Tidy env state) (htype : o.eventType ≠ .start) :
    Tidy env (state.take env o) := by
  have hplan : plan env state.logs o = planUpdate env state.logs o := by
    unfold plan
    cases hkind : o.eventType with
    | start => exact absurd hkind htype
    | interimUpdate => rfl
    | stop => rfl
  unfold State.take
  rw [hplan]
  unfold planUpdate
  cases hlive : liveRow env state.logs o with
  | none =>
    -- the session has no row, or a stopped one whose id is in use again
    refine h.insertLog rfl rfl rfl (fun other hother hkey => ?_) (lateUsage o)
    cases hcurrent : currentRow env state.logs o with
    | none => exact absurd hkey (no_row_of_currentRow hcurrent other hother)
    | some row =>
      obtain ⟨htop, hrowKey⟩ := h.top_of_currentRow hcurrent
      have hreused := Option.filter_eq_none_iff.mp hlive row hcurrent
      simp only [Bool.or_eq_true, Bool.not_eq_true', not_or, Bool.not_eq_true,
        Bool.not_eq_false, isLaterReusedLifecycle, Bool.and_eq_true,
        decide_eq_true_eq] at hreused
      have hle := htop.last_le hother (hkey.trans hrowKey.symm)
      refine ⟨Bool.eq_false_iff.mpr fun hopen => ?_, ?_⟩
      · rw [top_unique htop (h.openFirst other hother hopen) (hkey.trans hrowKey.symm),
          hreused.1] at hopen
        cases hopen
      · change other.lastAt ≤ o.observedEventAt
        omega
  | some current =>
    have hcurrent := (Option.filter_eq_some_iff.mp hlive).1
    obtain ⟨htop, hkey⟩ := h.top_of_currentRow hcurrent
    have hid := (h.fresh current htop.1).2
    dsimp only
    split_ifs with hclosed hfinal hearly hstop hip hprefix hreplay
    · have hlater : Later env current (current.correctFinal o) :=
        ⟨rfl, rfl, rfl, rfl, Nat.le_refl _⟩
      exact (h.putLog htop hlater).record hid (current.usageSince o)
    · exact h
    · have hopen : current.isOpen = true := by simpa using hclosed
      exact h.stop htop.1 hopen ⟨rfl, rfl, rfl, rfl, rfl⟩
    · exact h
    · exact h
    · exact h
    · exact h
    · have hlater : Later env current (current.accept o) :=
        later_of_le rfl rfl rfl rfl rfl (Nat.le_of_not_lt hearly)
      exact (h.putLog htop hlater).record hid (current.usageSince o)

theorem Tidy.ingest (h : Tidy env state) {packet : Int × Attrs}
    (hdated : Dated env directory state packet) : Tidy env (ingest env directory state packet) := by
  cases hobserve : observe env directory packet.1 packet.2 with
  | error invalid => rwa [ingest_invalid hobserve]
  | ok o =>
    rw [ingest_observe hobserve]
    by_cases htype : o.eventType = .start
    · exact h.take_start htype (hdated o hobserve)
    · exact h.take_update htype

theorem run_stopsStay (h : Sound state) (packets : List (Int × Attrs)) :
    StopsStay state.logs (run (ingest env directory) state packets).logs := by
  intro row hrow hclosed
  obtain ⟨other, hother, hid, honward⟩ := run_onward h packets row hrow
  exact ⟨other, hother, hid, honward.2 hclosed⟩

/-- Without backdated Starts a session has at most one open row, and stops stay. -/
theorem sessions_open_once (env : Env) (directory : Directory) {state : State}
    (htidy : Tidy env state) (earlier later : List (Int × Attrs))
    (hdated : Along (ingest env directory) (Dated env directory) state (earlier ++ later)) :
    OneOpen env (run (ingest env directory) state (earlier ++ later)).logs ∧
      StopsStay (run (ingest env directory) state earlier).logs
        (run (ingest env directory) state (earlier ++ later)).logs := by
  have hstep : ∀ state packet, Tidy env state → Dated env directory state packet →
      Tidy env (ingest env directory state packet) := fun state packet htidy hpacket =>
    htidy.ingest hpacket
  constructor
  · exact (run_invariant hstep htidy hdated).oneOpen
  · have hearlier : Tidy env (run (ingest env directory) state earlier) :=
      run_invariant hstep htidy (along_append.mp hdated).1
    rw [run_append]
    exact run_stopsStay hearlier.toSound later

theorem dated_of_explicit {packet : Int × Attrs} (h : packet.2.eventTimestamp.isSome) :
    Dated env directory state packet := by
  intro o hobserve hback
  have hexplicit := observe_explicit hobserve
  rw [h, hback.2.1] at hexplicit
  cases hexplicit

/-- A session in order, a late report and a new session under the same id. -/
theorem sessions_open_once_sample :
    OneOpen plainEnv (run (ingest plainEnv plainDirectory) emptyState (samplePackets ++
        [samplePacket "Interim-Update" 1770000060 100, samplePacket "Start" 1770000600 0])).logs ∧
      StopsStay (run (ingest plainEnv plainDirectory) emptyState samplePackets).logs
        (run (ingest plainEnv plainDirectory) emptyState (samplePackets ++
          [samplePacket "Interim-Update" 1770000060 100, samplePacket "Start" 1770000600 0])).logs :=
  sessions_open_once plainEnv plainDirectory emptyState_tidy samplePackets _
    ⟨dated_of_explicit rfl, dated_of_explicit rfl, dated_of_explicit rfl, dated_of_explicit rfl,
      dated_of_explicit rfl, dated_of_explicit rfl, trivial⟩

/-- A Start from another address, received 15 s after a session began. -/
def delayedStart (seconds received : Nat) (address : String) : Int × Attrs :=
  (received * 1000, { (samplePacket "Start" seconds 0).2 with
    callingStationId := some address
    eventTimestamp := none
    acctDelayTime := some (received - seconds) })

/-- A delayed Start leaves a row open before a stop, and the next Start opens one more. -/
theorem sessions_open_twice :
    ¬∀ (env : Env) (directory : Directory) (state : State) (packets : List (Int × Attrs)),
      Tidy env state → OneOpen env (run (ingest env directory) state packets).logs := by
  intro h
  have hopen := h plainEnv plainDirectory emptyState
    [samplePacket "Start" 1770000000 0, samplePacket "Stop" 1770000010 0,
      delayedStart 1770000020 1770000020 "A", delayedStart 1770000005 1770000025 "B",
      delayedStart 1770000030 1770000030 "B"] emptyState_tidy
  revert hopen
  unfold OneOpen
  decide +kernel

end FireIsp.Radius
