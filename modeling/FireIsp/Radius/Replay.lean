import FireIsp.Base.Run
import FireIsp.Radius.Settled

/-!
# Redelivered packets

Packets that arrive in order keep every earlier packet settled, so that redelivering any of them,
any number of times and in any order, leaves the tables as they are.
-/

namespace FireIsp.Radius

variable {env : Env} {directory : Directory} {state : State} {logs : List Log} {row : Log}
  {o p : Observation} {sent : List Observation}

structure Kept (env : Env) (state : State) (sent : List Observation) : Prop extends
    Tidy env state where
  settled : ∀ p ∈ sent, ∃ row, Top env state.logs row ∧ row.sessionKey env = p.sessionKey env ∧
    Settled row p

theorem Kept.of_tables (h : Kept env state sent) {other : State}
    (hnext : other.nextId = state.nextId) (hlogs : other.logs = state.logs)
    (husage : other.usage = state.usage) : Kept env other sent := by
  obtain ⟨nextId, logs, usage, macMoves⟩ := other
  simp only at hnext hlogs husage
  subst hnext hlogs husage
  exact ⟨⟨⟨h.ids, h.instances, h.fresh, h.recorded, h.daily⟩, h.named, h.openFirst⟩, h.settled⟩

theorem Kept.add (h : Kept env state sent) (htop : Top env state.logs row)
    (hkey : row.sessionKey env = o.sessionKey env) (hsettled : Settled row o) :
    Kept env state (sent ++ [o]) := by
  refine ⟨h.toTidy, fun p hp => ?_⟩
  rcases List.mem_append.mp hp with hp | hp
  · exact h.settled p hp
  · rw [List.mem_singleton.mp hp]
    exact ⟨row, htop, hkey, hsettled⟩

theorem Kept.settled_by (h : Kept env state sent) (htop : Top env state.logs row) (hp : p ∈ sent)
    (hkey : p.sessionKey env = row.sessionKey env) : Settled row p := by
  obtain ⟨other, hother, hotherKey, hsettled⟩ := h.settled p hp
  rwa [← top_unique htop hother (hotherKey.trans hkey)]

theorem Kept.putLog (h : Kept env state sent) {old : Log} (hold : Top env state.logs old)
    (hlater : Later env old row)
    (hsettled : ∀ p ∈ sent, p.sessionKey env = old.sessionKey env → Settled old p →
      Settled row p) : Kept env (state.putLog row) sent := by
  refine ⟨h.toTidy.putLog hold hlater, fun p hp => ?_⟩
  by_cases hkey : p.sessionKey env = old.sessionKey env
  · have hrow := hsettled p hp hkey (h.settled_by hold hp hkey)
    exact ⟨row, top_put_self h.ids hold hlater, hlater.key.trans hkey.symm, hrow⟩
  · obtain ⟨other, htop, hother, hsettled'⟩ := h.settled p hp
    have hne : other.sessionKey env ≠ row.sessionKey env := fun e =>
      hkey (hother.symm.trans (e.trans hlater.key))
    exact ⟨other, top_put_other h.ids hold.1 hlater htop hne, hother, hsettled'⟩

theorem Kept.insertLog (h : Kept env state sent) (hid : row.id = state.nextId)
    (hinstance : row.instanceId = state.nextId) (hnamed : row.acctSessionId.isSome)
    (hkey : row.sessionKey env = o.sessionKey env)
    (hclosed : ∀ other ∈ state.logs, other.sessionKey env = o.sessionKey env →
      other.isOpen = false ∧ other.lastAt ≤ row.lastAt)
    (hsent : ∀ p ∈ sent, p.sessionKey env = o.sessionKey env → Settled row p)
    (hnew : Settled row o) (usage : Usage) :
    Kept env (state.insertLog row o usage) (sent ++ [o]) := by
  have htop : Top env (state.logs ++ [row]) row := by
    refine top_append_self (fun other hother => ?_) fun other hother hsame =>
      (hclosed other hother (hsame.trans hkey)).2
    rw [hid]
    exact (h.fresh other hother).1
  have hinserted : Kept env (state.insertLog row o usage) sent := by
    refine ⟨h.toTidy.insertLog hid hinstance hnamed (fun other hother hsame =>
      hclosed other hother (hsame.trans hkey)) usage, fun p hp => ?_⟩
    by_cases hsame : p.sessionKey env = o.sessionKey env
    · exact ⟨row, htop, hkey.trans hsame.symm, hsent p hp hsame⟩
    · obtain ⟨other, hother, hotherKey, hsettled⟩ := h.settled p hp
      have hne : other.sessionKey env ≠ row.sessionKey env := fun e =>
        hsame (hotherKey.symm.trans (e.trans hkey))
      exact ⟨other, top_append_other hother hne, hotherKey, hsettled⟩
  exact hinserted.add htop hkey hnew

theorem Kept.record (h : Kept env state sent) (hrow : row.instanceId < state.nextId)
    (usage : Usage) : Kept env (state.record row o usage) sent :=
  ⟨h.toTidy.record hrow usage, h.settled⟩

theorem later_close (cause : String) (hlast : row.lastAt ≤ o.observedEventAt) :
    Later env row (row.close o cause) :=
  ⟨rfl, rfl, rfl, rfl, hlast⟩

theorem Kept.close (h : Kept env state sent) (hrow : row ∈ state.logs)
    (hopen : row.isOpen = true) (hlast : row.lastAt ≤ o.observedEventAt) (cause : String) :
    Kept env (state.putLog (row.close o cause)) sent :=
  h.putLog (h.openFirst row hrow hopen) (later_close cause hlast) fun _ _ _ hsettled =>
    hsettled.close hopen rfl hlast

/-! ## Packets in order -/

/-- A Start may open a session: its time is exact, and the moved session has no later evidence. -/
def OpensInOrder (env : Env) (logs : List Log) (o : Observation) : Prop :=
  o.observedEventAt ≤ toSeconds o.observedEventAt ∧
    ∀ row ∈ movedRow env logs o, row.lastAt ≤ o.observedEventAt

instance (env : Env) (logs : List Log) (o : Observation) : Decidable (OpensInOrder env logs o) :=
  inferInstanceAs (Decidable (_ ∧ _))

/-- No Stop of the session was sent, and every packet of it is earlier. -/
def Reopens (env : Env) (sent : List Observation) (o : Observation) : Prop :=
  ∀ p ∈ sent, p.sessionKey env = o.sessionKey env →
    p.eventType ≠ .stop ∧ p.observedEventAt < o.observedEventAt

instance (env : Env) (sent : List Observation) (o : Observation) : Decidable (Reopens env sent o) :=
  inferInstanceAs (Decidable (∀ p ∈ sent, _ → _))

/-- A Start in order: behind the open session's evidence, a replay, or a later session. -/
def StartInOrder (env : Env) (logs : List Log) (sent : List Observation) (o : Observation) :
    Option Log → Prop
  | none => OpensInOrder env logs o
  | some row =>
    if row.isOpen then
      o.observedEventAt < row.lastAt ∨
        (o.observedEventAt = row.lastAt ∧ o.observedEventAt ≤ row.eventAt ∧
          identityChanged row o = false) ∨
        (row.lastAt < o.observedEventAt ∧ row.eventAt < o.observedEventAt ∧
          OpensInOrder env logs o)
    else o.observedEventAt ≤ row.lastAt ∨ (Reopens env sent o ∧ OpensInOrder env logs o)

instance (env : Env) (logs : List Log) (sent : List Observation) (o : Observation) :
    ∀ current, Decidable (StartInOrder env logs sent o current)
  | none => inferInstanceAs (Decidable (OpensInOrder env logs o))
  | some row => by
      rw [StartInOrder]
      infer_instance

/-- An Interim-Update behind the evidence, or later with the session's addresses. -/
def InterimInOrder (env : Env) (sent : List Observation) (o : Observation) : Option Log → Prop
  | none => True
  | some row =>
    if row.isOpen then
      o.observedEventAt < row.lastAt ∨
        (sameAddress row o = true ∧ (row.lastAt < o.observedEventAt ∨
          (o.observedEventAt = row.lastAt ∧
            (row.eventType = .start ∨ sameReport row o = true))))
    else isLaterReusedLifecycle row o = true → Reopens env sent o

instance (env : Env) (sent : List Observation) (o : Observation) :
    ∀ current, Decidable (InterimInOrder env sent o current)
  | none => isTrue trivial
  | some row => by
      rw [InterimInOrder]
      infer_instance

def FinalInOrder (env : Env) (sent : List Observation) (row : Log) (o : Observation) : Prop :=
  ∀ p ∈ sent, p.sessionKey env = o.sessionKey env → p.eventType = .stop →
    ¬startsLater row p ∧ (row.lastAt ≤ p.observedEventAt → Superseded p o)

instance (env : Env) (sent : List Observation) (row : Log) (o : Observation) :
    Decidable (FinalInOrder env sent row o) :=
  inferInstanceAs (Decidable (∀ p ∈ sent, _ → _ → _))

/-- A Stop that is not behind the evidence, or is later than its session's packets. -/
def StopInOrder (env : Env) (sent : List Observation) (o : Observation) : Option Log → Prop
  | none => True
  | some row =>
    if row.isOpen then row.lastAt ≤ o.observedEventAt ∧ sameAddress row o = true
    else if isLaterReusedLifecycle row o then
      ∀ p ∈ sent, p.sessionKey env = o.sessionKey env → p.observedEventAt < o.observedEventAt
    else correctedFinal row o = true → row.lastAt ≤ o.observedEventAt →
      FinalInOrder env sent row o

instance (env : Env) (sent : List Observation) (o : Observation) :
    ∀ current, Decidable (StopInOrder env sent o current)
  | none => isTrue trivial
  | some row => by
      rw [StopInOrder]
      infer_instance

def ObservedInOrder (env : Env) (logs : List Log) (sent : List Observation) (o : Observation) :
    Prop :=
  o ∈ sent ∨
    match o.eventType with
    | .start => StartInOrder env logs sent o (currentRow env logs o)
    | .interimUpdate => InterimInOrder env sent o (currentRow env logs o)
    | .stop => StopInOrder env sent o (currentRow env logs o)

instance (env : Env) (logs : List Log) (sent : List Observation) (o : Observation) :
    Decidable (ObservedInOrder env logs sent o) :=
  have : Decidable (match o.eventType with
      | .start => StartInOrder env logs sent o (currentRow env logs o)
      | .interimUpdate => InterimInOrder env sent o (currentRow env logs o)
      | .stop => StopInOrder env sent o (currentRow env logs o)) :=
    match o.eventType with
    | .start => inferInstanceAs (Decidable (StartInOrder _ _ _ _ _))
    | .interimUpdate => inferInstanceAs (Decidable (InterimInOrder _ _ _ _))
    | .stop => inferInstanceAs (Decidable (StopInOrder _ _ _ _))
  inferInstanceAs (Decidable (_ ∨ _))

/-! ## Every packet in order stays settled -/

theorem Kept.take_settled (h : Kept env state sent) (htop : Top env state.logs row)
    (hkey : row.sessionKey env = o.sessionKey env) (hexplicit : o.hasExplicitEventTimestamp = true)
    (hsettled : Settled row o) : Kept env (state.take env o) (sent ++ [o]) := by
  rw [FireIsp.Radius.take_settled (currentRow_of_top htop hkey) hexplicit hsettled]
  exact h.add htop hkey hsettled

theorem session_not_moved {row : Log} (hkey : row.sessionKey env = o.sessionKey env) :
    (row.acctSessionId.all fun id => !decide (env.same id o.acctSessionId)) = false := by
  have hname : row.acctSessionId.map env.collate = some (env.collate o.acctSessionId) :=
    congrArg (fun key => key.2.2.2) hkey
  obtain ⟨id, hid, hsame⟩ := Option.map_eq_some_iff.mp hname
  rw [hid]
  simp [Env.same, hsame]

theorem movedRow_put {old row : Log} (hids : Table.Keyed Log.id logs) (hold : old ∈ logs)
    (hlater : Later env old row) (hkey : old.sessionKey env = o.sessionKey env) :
    movedRow env (Table.put Log.id row logs) o = movedRow env logs o := by
  have hrow := session_not_moved (hlater.key.trans hkey)
  have hold' := session_not_moved hkey
  unfold movedRow openRow
  rw [Table.filter_put]
  · simp only [hrow, Bool.and_false]
  · intro other hother hid
    have hsame : other = old :=
      List.inj_on_of_nodup_map hids hother hold (hid.trans hlater.id)
    simp only [hsame, hold', Bool.and_false]

theorem Kept.closeMoved (h : Kept env state sent)
    (hmoved : ∀ row ∈ movedRow env state.logs o, row.lastAt ≤ o.observedEventAt) :
    Kept env (state.closeMoved env o) sent := by
  unfold State.closeMoved
  cases hrow : movedRow env state.logs o with
  | none => exact h
  | some row =>
    obtain ⟨hmem, hopen, -⟩ := movedRow_spec hrow
    exact (h.close hmem hopen (hmoved row hrow) "Session-Moved").of_tables rfl rfl rfl

theorem mem_closeMoved {other : Log} (hids : Table.Keyed Log.id state.logs)
    (hother : other ∈ (state.closeMoved env o).logs)
    (hkey : other.sessionKey env = o.sessionKey env) : other ∈ state.logs := by
  unfold State.closeMoved at hother
  cases hmoved : movedRow env state.logs o with
  | none =>
    rw [hmoved] at hother
    exact hother
  | some row =>
    rw [hmoved] at hother
    rcases (Table.mem_put hids).mp hother with rfl | ⟨hmem, -⟩
    · have hnot := session_not_moved hkey
      have hnone := (movedRow_spec hmoved).2.2
      have hall : (row.acctSessionId.all fun id => !decide (env.same id o.acctSessionId)) =
          true := by
        simp only [Option.all_eq_true, Bool.not_eq_true', decide_eq_false_iff_not]
        exact hnone
      change (row.acctSessionId.all fun id => !decide (env.same id o.acctSessionId)) =
        false at hnot
      rw [hall] at hnot
      cases hnot
    · exact hmem

theorem Kept.openSession (h : Kept env state sent) (htype : o.eventType = .start)
    {closing : Option (Log × String)} {stationMove : Bool}
    (hclosing : ∀ row cause, closing = some (row, cause) → row ∈ state.logs ∧ row.isOpen = true ∧
      row.sessionKey env = o.sessionKey env)
    (hsession : ∀ row ∈ state.logs, row.sessionKey env = o.sessionKey env →
      row.lastAt ≤ o.observedEventAt ∧ (row.isOpen = true → ∃ cause, closing = some (row, cause)))
    (hsent : Reopens env sent o) (horder : OpensInOrder env state.logs o) :
    Kept env (perform env state o (.openSession closing stationMove)).2 (sent ++ [o]) := by
  have hclosed : Kept env (state.closeDuplicate o closing) sent ∧
      movedRow env (state.closeDuplicate o closing).logs o = movedRow env state.logs o ∧
      ∀ other ∈ (state.closeDuplicate o closing).logs, other.sessionKey env = o.sessionKey env →
        other.isOpen = false ∧ other.lastAt ≤ o.observedEventAt := by
    cases closing with
    | none =>
      refine ⟨h, rfl, fun other hother hkey => ?_⟩
      obtain ⟨hlast, hnone⟩ := hsession other hother hkey
      refine ⟨Bool.eq_false_iff.mpr fun hopen => ?_, hlast⟩
      obtain ⟨cause, hcause⟩ := hnone hopen
      cases hcause
    | some pair =>
      obtain ⟨row, cause⟩ := pair
      obtain ⟨hmem, hopen, hkey⟩ := hclosing row cause rfl
      have hlast := (hsession row hmem hkey).1
      refine ⟨h.close hmem hopen hlast cause,
        movedRow_put h.ids hmem (later_close cause hlast) hkey, fun other hother hsame => ?_⟩
      rcases (Table.mem_put h.ids).mp hother with rfl | ⟨hother, hid⟩
      · exact ⟨rfl, Nat.le_refl _⟩
      · obtain ⟨hle, hnone⟩ := hsession other hother hsame
        refine ⟨Bool.eq_false_iff.mpr fun hopen' => ?_, hle⟩
        obtain ⟨cause', hcause⟩ := hnone hopen'
        cases hcause
        exact hid rfl
  obtain ⟨hkept, hmoved, hrows⟩ := hclosed
  have hclosedMoved : Kept env ((state.closeDuplicate o closing).closeMoved env o) sent := by
    refine hkept.closeMoved fun row hrow => ?_
    rw [hmoved] at hrow
    exact horder.2 row hrow
  refine hclosedMoved.insertLog ?_ ?_ rfl rfl (fun other hother hkey => ?_) (fun p hp hkey => ?_)
    (settled_startLog htype horder.1) (startUsage o)
  · simp only [State.closeMoved_nextId, State.closeDuplicate_nextId]
    rfl
  · simp only [State.closeMoved_nextId, State.closeDuplicate_nextId]
    rfl
  · exact hrows other (mem_closeMoved hkept.ids hother hkey) hkey
  · obtain ⟨hkind, hlt⟩ := hsent p hp hkey
    exact settled_of_lt hkind hlt

theorem Kept.take_start (h : Kept env state sent) (htype : o.eventType = .start)
    (hexplicit : o.hasExplicitEventTimestamp = true)
    (horder : StartInOrder env state.logs sent o (currentRow env state.logs o)) :
    Kept env (state.take env o) (sent ++ [o]) := by
  have hplan : plan env state.logs o = planStart env state.logs o := by simp only [plan, htype]
  cases hcurrent : currentRow env state.logs o with
  | none =>
    have hnone := no_row_of_currentRow hcurrent
    rw [hcurrent] at horder
    have hstart : plan env state.logs o = .ok (.openSession none false) := by
      rw [hplan]
      simp only [planStart, hcurrent]
    rw [State.take_plan hstart]
    refine h.openSession htype (by rintro _ _ ⟨⟩)
      (fun row hrow hkey => absurd hkey (hnone row hrow)) (fun p hp hkey => ?_) horder
    obtain ⟨row, htop, hrow, -⟩ := h.settled p hp
    exact absurd (hrow.trans hkey) (hnone row htop.1)
  | some row =>
    obtain ⟨htop, hkey⟩ := h.top_of_currentRow hcurrent
    rw [hcurrent] at horder
    cases hopen : row.isOpen with
    | false =>
      simp only [StartInOrder, hopen, Bool.false_eq_true, if_false] at horder
      by_cases hle : o.observedEventAt ≤ row.lastAt
      · refine h.take_settled htop hkey hexplicit ?_
        simp only [Settled, htype, hopen, Bool.false_eq_true, if_false]
        exact hle
      · obtain ⟨hsent, hopens⟩ := horder.resolve_left hle
        have hstart : plan env state.logs o = .ok (.openSession none false) := by
          rw [hplan]
          simp [planStart, hcurrent, identityChanged, isReplay, staleOpenSession,
            newOpenLifecycle, distinctLaterStart, hopen, hle]
        rw [State.take_plan hstart]
        refine h.openSession htype (by rintro _ _ ⟨⟩) (fun other hother hsame => ?_) hsent
          hopens
        refine ⟨(htop.last_le hother (hsame.trans hkey.symm)).trans (by omega), fun hother' => ?_⟩
        have hsame' := top_unique htop (h.openFirst other hother hother')
          (hsame.trans hkey.symm)
        rw [hsame', hopen] at hother'
        cases hother'
    | true =>
      simp only [StartInOrder, hopen, if_true] at horder
      rcases horder with hlt | ⟨hat, hle, hchanged⟩ | ⟨hlt, hlater, hopens⟩
      · exact h.take_settled htop hkey hexplicit (settled_of_lt (by simp [htype]) hlt)
      · cases henriched : identityEnriched row o with
        | false =>
          refine h.take_settled htop hkey hexplicit ?_
          simp only [Settled, htype, hopen, if_true]
          exact Or.inr ⟨hat, hle, hchanged, henriched⟩
        | true =>
          have hreplay : isReplay env row o = true :=
            isReplay_of_open hopen (Nat.le_of_eq hat) hchanged (Or.inr hle)
          have hnot : ¬o.observedEventAt < row.lastAt := by omega
          have henrich : plan env state.logs o = .ok (.enrich row) := by
            rw [hplan]
            simp [planStart, hcurrent, hchanged, hreplay, henriched, hnot]
          rw [State.take_plan henrich]
          have hnext : Later env row (row.enrich o) :=
            ⟨rfl, rfl, rfl, rfl, Nat.le_of_eq hat.symm⟩
          exact (h.putLog htop hnext fun p _ _ hsettled =>
            hsettled.enrich hopen hat).add (top_put_self h.ids htop hnext) hkey
              (settled_enriched htype hopen hle hchanged)
      · have hdistinct : distinctLaterStart row o = true := by
          simp only [distinctLaterStart, hopen, hexplicit, Bool.true_and, decide_eq_true_eq]
          omega
        have hnew : newOpenLifecycle row o = true := by simp [newOpenLifecycle, hdistinct]
        have hreplay : isReplay env row o = false := by simp [isReplay, hopen, hnew]
        have hnot : ¬o.observedEventAt < row.lastAt := by omega
        have hstart : ∃ cause stationMove, plan env state.logs o =
            .ok (.openSession (some (row, cause)) stationMove) := by
          rw [hplan]
          simp [planStart, hcurrent, hnew, hreplay, hnot]
        obtain ⟨cause, stationMove, hstart⟩ := hstart
        rw [State.take_plan hstart]
        refine h.openSession htype (fun other cause' hother => ?_)
          (fun other hother hsame => ?_) (fun p hp hsame => ?_) hopens
        · cases hother
          exact ⟨htop.1, hopen, hkey⟩
        · refine ⟨(htop.last_le hother (hsame.trans hkey.symm)).trans (by omega),
            fun hother' => ⟨cause, ?_⟩⟩
          rw [top_unique htop (h.openFirst other hother hother') (hsame.trans hkey.symm)]
        · obtain ⟨hkind, hle⟩ :=
            (h.settled_by htop hp (hsame.trans hkey.symm)).of_open hopen
          exact ⟨hkind, by omega⟩

theorem Kept.accept (h : Kept env state sent) (htop : Top env state.logs row)
    (hkey : row.sessionKey env = o.sessionKey env) (htype : o.eventType ≠ .start)
    (hlast : row.lastAt ≤ o.observedEventAt)
    (hsettled : ∀ p, Settled row p → Settled (row.accept o) p) :
    Kept env (perform env state o (.accept row)).2 (sent ++ [o]) := by
  have hnext : Later env row (row.accept o) := ⟨rfl, rfl, rfl, rfl, hlast⟩
  have hput := h.putLog htop hnext fun p _ _ => hsettled p
  exact (hput.record (h.fresh row htop.1).2 (row.usageSince o)).add
    (top_put_self h.ids htop hnext) hkey (settled_accepted htype)

theorem Kept.insertLate (h : Kept env state sent) (htype : o.eventType ≠ .start)
    (hsession : ∀ row ∈ state.logs, row.sessionKey env = o.sessionKey env →
      row.isOpen = false ∧ row.lastAt ≤ o.observedEventAt)
    (hsent : ∀ p ∈ sent, p.sessionKey env = o.sessionKey env →
      p.observedEventAt < o.observedEventAt ∧ (p.eventType = .stop → o.eventType = .stop)) :
    Kept env (perform env state o .insertLate).2 (sent ++ [o]) := by
  refine h.insertLog rfl rfl rfl rfl hsession (fun p hp hkey => ?_) (settled_lateLog htype)
    (lateUsage o)
  obtain ⟨hlt, hstop⟩ := hsent p hp hkey
  by_cases hkind : p.eventType = .stop
  · have hclosed : (lateLog state.nextId o).isOpen = false := by
      simp [Log.isOpen, lateLog, newLog, hstop hkind]
    exact settled_of_lt_closed hclosed hlt
  · exact settled_of_lt hkind hlt

theorem Kept.take_first (h : Kept env state sent) (htype : o.eventType ≠ .start)
    (hplan : plan env state.logs o = planUpdate env state.logs o)
    (hcurrent : currentRow env state.logs o = none) :
    Kept env (state.take env o) (sent ++ [o]) := by
  have hnone := no_row_of_currentRow hcurrent
  have hlate : plan env state.logs o = .ok .insertLate := by
    rw [hplan]
    simp only [planUpdate, liveRow, hcurrent, Option.filter_none]
  rw [State.take_plan hlate]
  refine h.insertLate htype (fun row hrow hkey => absurd hkey (hnone row hrow))
    fun p hp hkey => ?_
  obtain ⟨row, htop, hrow, -⟩ := h.settled p hp
  exact absurd (hrow.trans hkey) (hnone row htop.1)

theorem Kept.take_reused (h : Kept env state sent) (htype : o.eventType ≠ .start)
    (hplan : plan env state.logs o = planUpdate env state.logs o)
    (hcurrent : currentRow env state.logs o = some row) (hopen : row.isOpen = false)
    (hreused : isLaterReusedLifecycle row o = true)
    (hsent : ∀ p ∈ sent, p.sessionKey env = o.sessionKey env →
      p.observedEventAt < o.observedEventAt ∧ (p.eventType = .stop → o.eventType = .stop)) :
    Kept env (state.take env o) (sent ++ [o]) := by
  obtain ⟨htop, hkey⟩ := h.top_of_currentRow hcurrent
  have hlate : plan env state.logs o = .ok .insertLate := by
    rw [hplan]
    simp only [planUpdate, liveRow, hcurrent, Option.filter_some, hopen, hreused, Bool.not_true,
      Bool.or_false, Bool.false_eq_true, if_false]
  rw [State.take_plan hlate]
  have hlt : row.lastAt < o.observedEventAt := by
    simp only [isLaterReusedLifecycle, Bool.and_eq_true, decide_eq_true_eq] at hreused
    exact hreused.2.1
  refine h.insertLate htype (fun other hother hsame => ?_) hsent
  refine ⟨Bool.eq_false_iff.mpr fun hother' => ?_, ?_⟩
  · have hsame' := top_unique htop (h.openFirst other hother hother') (hsame.trans hkey.symm)
    rw [hsame', hopen] at hother'
    cases hother'
  · exact (htop.last_le hother (hsame.trans hkey.symm)).trans (Nat.le_of_lt hlt)

theorem plan_open (hcurrent : currentRow env logs o = some row) (hopen : row.isOpen = true)
    (hplan : plan env logs o = planUpdate env logs o) (hlast : row.lastAt ≤ o.observedEventAt)
    (haddress : sameAddress row o = true) :
    plan env logs o = .ok (if exactReplay row o then .ignore row else .accept row) := by
  have hnot : ¬o.observedEventAt < row.lastAt := by omega
  simp only [sameAddress, Bool.and_eq_true, Bool.not_eq_true'] at haddress
  rw [hplan]
  simp only [planUpdate, liveRow, hcurrent, Option.filter_some, hopen, Bool.true_or, if_true,
    Bool.not_true, Bool.false_eq_true, if_false, hnot, haddress.1, haddress.2]
  split <;> rfl

theorem Kept.take_interim (h : Kept env state sent) (htype : o.eventType = .interimUpdate)
    (hexplicit : o.hasExplicitEventTimestamp = true)
    (horder : InterimInOrder env sent o (currentRow env state.logs o)) :
    Kept env (state.take env o) (sent ++ [o]) := by
  have hplan : plan env state.logs o = planUpdate env state.logs o := by simp only [plan, htype]
  have hkind : o.eventType ≠ .start := by simp [htype]
  cases hcurrent : currentRow env state.logs o with
  | none => exact h.take_first hkind hplan hcurrent
  | some row =>
    obtain ⟨htop, hkey⟩ := h.top_of_currentRow hcurrent
    rw [hcurrent] at horder
    cases hopen : row.isOpen with
    | false =>
      simp only [InterimInOrder, hopen, Bool.false_eq_true, if_false] at horder
      cases hreused : isLaterReusedLifecycle row o with
      | false =>
        refine h.take_settled htop hkey hexplicit ?_
        simp only [Settled, htype, hopen, Bool.false_eq_true, if_false]
        exact hreused
      | true =>
        refine h.take_reused hkind hplan hcurrent hopen hreused fun p hp hsame => ?_
        obtain ⟨hstop, hlt⟩ := horder hreused p hp hsame
        exact ⟨hlt, fun e => absurd e hstop⟩
    | true =>
      simp only [InterimInOrder, hopen, if_true] at horder
      rcases horder with hlt | ⟨haddress, htime⟩
      · exact h.take_settled htop hkey hexplicit (settled_of_lt (by simp [htype]) hlt)
      · have hlast : row.lastAt ≤ o.observedEventAt := by omega
        have hopenPlan := plan_open hcurrent hopen hplan hlast haddress
        cases hreplay : exactReplay row o with
        | true =>
          refine h.take_settled htop hkey hexplicit ?_
          simp only [Settled, htype, hopen, if_true]
          exact Or.inr hreplay
        | false =>
          rw [hreplay, if_neg Bool.false_ne_true] at hopenPlan
          rw [State.take_plan hopenPlan]
          refine h.accept htop hkey hkind hlast fun p hp => ?_
          rcases htime with hlt | ⟨hat, hreport⟩
          · exact hp.accept hopen (Or.inl hlt)
          · exact hp.report hopen htype hat haddress hreport

theorem Kept.take_stop (h : Kept env state sent) (htype : o.eventType = .stop)
    (hexplicit : o.hasExplicitEventTimestamp = true)
    (horder : StopInOrder env sent o (currentRow env state.logs o)) :
    Kept env (state.take env o) (sent ++ [o]) := by
  have hplan : plan env state.logs o = planUpdate env state.logs o := by simp only [plan, htype]
  have hkind : o.eventType ≠ .start := by simp [htype]
  cases hcurrent : currentRow env state.logs o with
  | none => exact h.take_first hkind hplan hcurrent
  | some row =>
    obtain ⟨htop, hkey⟩ := h.top_of_currentRow hcurrent
    rw [hcurrent] at horder
    cases hopen : row.isOpen with
    | true =>
      simp only [StopInOrder, hopen, if_true] at horder
      obtain ⟨hlast, haddress⟩ := horder
      have hreplay : exactReplay row o = false := by
        have hother : row.eventType ≠ .stop := by simpa [Log.isOpen] using hopen
        simp [exactReplay, htype, hother]
      have hopenPlan := plan_open hcurrent hopen hplan hlast haddress
      rw [hreplay, if_neg Bool.false_ne_true] at hopenPlan
      rw [State.take_plan hopenPlan]
      exact h.accept htop hkey hkind hlast fun p hp =>
        hp.accept hopen (Or.inr ⟨hlast, htype⟩)
    | false =>
      simp only [StopInOrder, hopen, Bool.false_eq_true, if_false] at horder
      cases hreused : isLaterReusedLifecycle row o with
      | true =>
        rw [hreused, if_pos rfl] at horder
        exact h.take_reused hkind hplan hcurrent hopen hreused fun p hp hsame =>
          ⟨horder p hp hsame, fun _ => htype⟩
      | false =>
        rw [hreused, if_neg Bool.false_ne_true] at horder
        by_cases hfinal : correctedFinal row o = true ∧ row.lastAt ≤ o.observedEventAt
        · have hcorrect : plan env state.logs o = .ok (.correctFinal row) := by
            rw [hplan]
            simp only [planUpdate, liveRow, hcurrent, Option.filter_some, hopen, hreused,
              Bool.not_false, Bool.or_true, if_true, hfinal.1, hfinal.2, decide_true,
              Bool.and_self]
          have hnext : Later env row (row.correctFinal o) :=
            ⟨rfl, rfl, rfl, rfl, Nat.le_refl _⟩
          have hput := h.putLog htop hnext fun p hp hsame hsettled =>
            hsettled.correctFinal hopen fun hstop =>
              horder hfinal.1 hfinal.2 p hp (hsame.trans hkey) hstop
          rw [State.take_plan hcorrect]
          exact (hput.record (h.fresh row htop.1).2 (row.usageSince o)).add
            (top_put_self h.ids htop hnext) hkey
            (settled_corrected htype hopen hexplicit hreused)
        · refine h.take_settled htop hkey hexplicit ?_
          simp only [Settled, htype]
          refine ⟨hopen, hreused, ?_⟩
          by_cases hcorrected : correctedFinal row o = true
          · have hnot : ¬row.lastAt ≤ o.observedEventAt := fun hle =>
              hfinal ⟨hcorrected, hle⟩
            exact Or.inr (by omega)
          · exact Or.inl (by simpa using hcorrected)

theorem Kept.take (h : Kept env state sent) (hexplicit : o.hasExplicitEventTimestamp = true)
    (horder : ObservedInOrder env state.logs sent o) :
    Kept env (state.take env o) (sent ++ [o]) := by
  rcases horder with hsent | horder
  · obtain ⟨row, htop, hkey, hsettled⟩ := h.settled o hsent
    exact h.take_settled htop hkey hexplicit hsettled
  · cases htype : o.eventType with
    | start => exact h.take_start htype hexplicit (by simpa only [htype] using horder)
    | interimUpdate => exact h.take_interim htype hexplicit (by simpa only [htype] using horder)
    | stop => exact h.take_stop htype hexplicit (by simpa only [htype] using horder)

end FireIsp.Radius
