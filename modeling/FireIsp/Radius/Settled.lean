import FireIsp.Radius.Current

/-!
# Settled observations

An observation is settled by the current row of its session when the row has accounted for it:
taking it changes nothing. Each way the row moves on keeps the observations settled that the row
has left behind it.
-/

namespace FireIsp.Radius

variable {env : Env} {directory : Directory} {state : State} {logs : List Log}
  {row next : Log} {o p : Observation}

def Settled (row : Log) (p : Observation) : Prop :=
  match p.eventType with
  | .start =>
    if row.isOpen then
      p.observedEventAt < row.lastAt ∨
        (p.observedEventAt = row.lastAt ∧ p.observedEventAt ≤ row.eventAt ∧
          identityChanged row p = false ∧ identityEnriched row p = false)
    else p.observedEventAt ≤ row.lastAt
  | .interimUpdate =>
    if row.isOpen then p.observedEventAt < row.lastAt ∨ exactReplay row p = true
    else isLaterReusedLifecycle row p = false
  | .stop => row.isOpen = false ∧ isLaterReusedLifecycle row p = false ∧
      (correctedFinal row p = false ∨ p.observedEventAt < row.lastAt)

theorem isReplay_of_open (hopen : row.isOpen = true) (hlast : p.observedEventAt ≤ row.lastAt)
    (hchanged : identityChanged row p = false)
    (hsame : p.observedEventAt < row.lastAt ∨ p.observedEventAt ≤ row.eventAt) :
    isReplay env row p = true := by
  have hstale : staleOpenSession env row p = false := by
    have hnot : ¬row.lastAt + env.liveness < p.observedEventAt := by omega
    simp [staleOpenSession, hnot]
  have hlater : distinctLaterStart row p = false := by
    have hnot : ¬(row.eventAt < p.observedEventAt ∧ row.lastAt ≤ p.observedEventAt) := by omega
    simp only [distinctLaterStart, decide_eq_false hnot, Bool.and_false]
  simp [isReplay, newOpenLifecycle, hopen, hstale, hchanged, hlater]

theorem planStart_settled (hrow : currentRow env logs p = some row)
    (hexplicit : p.hasExplicitEventTimestamp = true) (htype : p.eventType = .start)
    (h : Settled row p) :
    planStart env logs p = .ok (.ignore row) ∨ ∃ invalid, planStart env logs p = .error invalid := by
  simp only [Settled, htype] at h
  simp only [planStart, hrow, hexplicit, Bool.and_true]
  cases hopen : row.isOpen with
  | false =>
    rw [if_neg (by simp [hopen])] at h
    have hchanged : identityChanged row p = false := by simp [identityChanged, hopen]
    have henriched : identityEnriched row p = false := by simp [identityEnriched, hopen]
    have hreplay : isReplay env row p = true := by simp [isReplay, hopen, h]
    left
    simp [hchanged, henriched, hreplay]
  | true =>
    rw [if_pos hopen] at h
    cases hchanged : identityChanged row p with
    | true =>
      have hlt : p.observedEventAt < row.lastAt := by
        rcases h with hlt | ⟨-, -, hsame, -⟩
        · exact hlt
        · rw [hchanged] at hsame
          cases hsame
      right
      simp [hlt]
    | false =>
      have hlast : p.observedEventAt ≤ row.lastAt := by omega
      have hreplay : isReplay env row p = true :=
        isReplay_of_open hopen hlast hchanged (h.imp_right fun h => h.2.1)
      rcases h with hlt | ⟨-, -, -, henriched⟩
      · cases henriched : identityEnriched row p with
        | true =>
          right
          simp [hreplay, hlt]
        | false =>
          left
          simp [hreplay]
      · left
        simp [hreplay, henriched]

theorem planUpdate_settled (hrow : currentRow env logs p = some row)
    (hexplicit : p.hasExplicitEventTimestamp = true) (htype : p.eventType ≠ .start)
    (h : Settled row p) : planUpdate env logs p = .ok (.ignore row) ∨
      ∃ invalid, planUpdate env logs p = .error invalid := by
  have hlive : row.isOpen = true ∨ isLaterReusedLifecycle row p = false := by
    cases hopen : row.isOpen with
    | true => exact Or.inl rfl
    | false =>
      right
      unfold Settled at h
      split at h
      · rename_i hstart
        exact absurd hstart htype
      · rwa [if_neg (by simp [hopen])] at h
      · exact h.2.1
  have hcurrent : liveRow env logs p = some row := by
    rw [liveRow, hrow, Option.filter_some, if_pos (by simpa using hlive)]
  simp only [planUpdate, hcurrent, hexplicit, Bool.not_true, Bool.false_or]
  cases hopen : row.isOpen with
  | false =>
    left
    have hfinal : (correctedFinal row p && decide (row.lastAt ≤ p.observedEventAt)) = false := by
      unfold Settled at h
      split at h
      · rename_i hstart
        exact absurd hstart htype
      · rename_i hinterim
        simp [correctedFinal, hinterim]
      · rcases h.2.2 with hfinal | hlt
        · simp [hfinal]
        · have hnot : ¬row.lastAt ≤ p.observedEventAt := by omega
          simp [hnot]
    simp [hfinal]
  | true =>
    simp only [Bool.not_true, Bool.false_eq_true, if_false]
    have hinterim : p.eventType = .interimUpdate := by
      cases hkind : p.eventType with
      | start => exact absurd hkind htype
      | interimUpdate => rfl
      | stop =>
        simp only [Settled, hkind, hopen] at h
        exact absurd h.1 (by decide)
    simp only [Settled, hinterim, hopen, if_true] at h
    by_cases hlt : p.observedEventAt < row.lastAt
    · left
      simp [hlt, hinterim]
    · have hreplay : exactReplay row p = true := h.resolve_left hlt
      simp only [hlt, if_false, hreplay, if_true]
      split_ifs
      · exact Or.inr ⟨_, rfl⟩
      · exact Or.inr ⟨_, rfl⟩
      · exact Or.inl rfl

theorem take_settled (hrow : currentRow env state.logs p = some row)
    (hexplicit : p.hasExplicitEventTimestamp = true) (h : Settled row p) :
    state.take env p = state := by
  have hplan : plan env state.logs p = .ok (.ignore row) ∨
      ∃ invalid, plan env state.logs p = .error invalid := by
    unfold plan
    cases htype : p.eventType with
    | start => exact planStart_settled hrow hexplicit htype h
    | stop => exact planUpdate_settled hrow hexplicit (by simp [htype]) h
    | interimUpdate => exact planUpdate_settled hrow hexplicit (by simp [htype]) h
  unfold State.take
  rcases hplan with hplan | ⟨invalid, hplan⟩
  · rw [hplan]
    rfl
  · rw [hplan]

theorem Settled.of_open (hopen : row.isOpen = true) (h : Settled row p) :
    p.eventType ≠ .stop ∧ p.observedEventAt ≤ row.lastAt := by
  unfold Settled at h
  split at h
  · rename_i hstart
    rw [if_pos hopen] at h
    exact ⟨by simp [hstart], by omega⟩
  · rename_i hinterim
    rw [if_pos hopen] at h
    refine ⟨by simp [hinterim], ?_⟩
    rcases h with hlt | hreplay
    · exact Nat.le_of_lt hlt
    · simp only [exactReplay, Bool.and_eq_true, decide_eq_true_eq] at hreplay
      omega
  · rw [hopen] at h
    exact absurd h.1 (by decide)

theorem settled_of_le (hclosed : row.isOpen = false) (htype : p.eventType ≠ .stop)
    (hlast : p.observedEventAt ≤ row.lastAt) : Settled row p := by
  have hreused : isLaterReusedLifecycle row p = false := by
    have hnot : ¬row.lastAt < p.observedEventAt := by omega
    simp [isLaterReusedLifecycle, hnot]
  unfold Settled
  split
  · rw [if_neg (by simp [hclosed])]
    exact hlast
  · rw [if_neg (by simp [hclosed])]
    exact hreused
  · rename_i hstop
    exact absurd hstop htype

theorem settled_of_lt (htype : p.eventType ≠ .stop) (hlast : p.observedEventAt < row.lastAt) :
    Settled row p := by
  cases hopen : row.isOpen with
  | false => exact settled_of_le hopen htype (Nat.le_of_lt hlast)
  | true =>
    unfold Settled
    split
    · rw [if_pos hopen]
      exact Or.inl hlast
    · rw [if_pos hopen]
      exact Or.inl hlast
    · rename_i hstop
      exact absurd hstop htype

theorem settled_of_lt_closed (hclosed : row.isOpen = false)
    (hlast : p.observedEventAt < row.lastAt) : Settled row p := by
  by_cases htype : p.eventType = .stop
  · have hnot : ¬row.lastAt < p.observedEventAt := by omega
    simp only [Settled, htype]
    exact ⟨hclosed, by simp [isLaterReusedLifecycle, hnot], Or.inr hlast⟩
  · exact settled_of_lt htype hlast

theorem Settled.close (hopen : row.isOpen = true) (h : Settled row p)
    (hclosed : next.isOpen = false) (hlast : row.lastAt ≤ next.lastAt) : Settled next p := by
  obtain ⟨htype, hle⟩ := h.of_open hopen
  exact settled_of_le hclosed htype (hle.trans hlast)

variable {stored sent : Option String}

theorem stored_of_same (hchanged : changed stored sent = false)
    (henriched : enriched stored sent = false) : sent = none ∨ stored = sent := by
  cases stored with
  | none =>
    cases sent with
    | none => exact Or.inl rfl
    | some value => cases henriched
  | some old =>
    cases sent with
    | none => exact Or.inl rfl
    | some value =>
      right
      simpa [changed] using hchanged

theorem stored_of_identity (hopen : row.isOpen = true)
    (hchanged : identityChanged row p = false) (henriched : identityEnriched row p = false) :
    (p.framedIp = none ∨ row.framedIp = p.framedIp) ∧
      (p.framedIpv6Prefix = none ∨ row.framedIpv6Prefix = p.framedIpv6Prefix) ∧
      (p.callingStationId = none ∨ row.callingStationId = p.callingStationId) := by
  simp only [identityChanged, hopen, Bool.true_and, Bool.or_eq_false_iff] at hchanged
  simp only [identityEnriched, hopen, Bool.true_and, Bool.or_eq_false_iff] at henriched
  exact ⟨stored_of_same hchanged.1.1 henriched.1.1, stored_of_same hchanged.1.2 henriched.1.2,
    stored_of_same hchanged.2 henriched.2⟩

theorem same_of_stored (h : sent = none ∨ stored = sent) :
    changed stored sent = false ∧ enriched stored sent = false := by
  rcases h with rfl | rfl
  · simp [changed, enriched]
  · cases stored <;> simp [changed, enriched]

theorem settled_start (htype : p.eventType = .start) (hopen : row.isOpen = true)
    (hlast : p.observedEventAt = row.lastAt) (hat : p.observedEventAt ≤ row.eventAt)
    (hip : p.framedIp = none ∨ row.framedIp = p.framedIp)
    (hnet : p.framedIpv6Prefix = none ∨ row.framedIpv6Prefix = p.framedIpv6Prefix)
    (hstation : p.callingStationId = none ∨ row.callingStationId = p.callingStationId) :
    Settled row p := by
  simp only [Settled, htype, if_pos hopen]
  refine Or.inr ⟨hlast, hat, ?_, ?_⟩
  · simp [identityChanged, (same_of_stored hip).1, (same_of_stored hnet).1,
      (same_of_stored hstation).1]
  · simp [identityEnriched, (same_of_stored hip).2, (same_of_stored hnet).2,
      (same_of_stored hstation).2]

theorem Settled.keep_start (h : Settled row p) (htype : p.eventType = .start)
    (hopen : row.isOpen = true) (hnext : next.isOpen = true) (hlast : next.lastAt = row.lastAt)
    (hat : next.eventAt = row.eventAt)
    (hip : row.framedIp = p.framedIp → next.framedIp = p.framedIp ∨ p.framedIp = none)
    (hnet : row.framedIpv6Prefix = p.framedIpv6Prefix →
      next.framedIpv6Prefix = p.framedIpv6Prefix ∨ p.framedIpv6Prefix = none)
    (hstation : row.callingStationId = p.callingStationId →
      next.callingStationId = p.callingStationId ∨ p.callingStationId = none) :
    Settled next p := by
  simp only [Settled, htype, if_pos hopen] at h
  rcases h with hlt | ⟨heq, hle, hchanged, henriched⟩
  · exact settled_of_lt (by simp [htype]) (by omega)
  · obtain ⟨hip', hnet', hstation'⟩ := stored_of_identity hopen hchanged henriched
    refine settled_start htype hnext (by omega) (by omega) ?_ ?_ ?_
    · exact hip'.elim Or.inl fun e => (hip e).symm
    · exact hnet'.elim Or.inl fun e => (hnet e).symm
    · exact hstation'.elim Or.inl fun e => (hstation e).symm

theorem or_stored (other : Option String) (h : stored = sent) :
    stored.or other = sent ∨ sent = none := by
  cases stored with
  | none => exact Or.inr h.symm
  | some value => exact Or.inl h

theorem Settled.enrich (h : Settled row p) (hopen : row.isOpen = true)
    (hlast : o.observedEventAt = row.lastAt) : Settled (row.enrich o) p := by
  have hlast' : (row.enrich o).lastAt = row.lastAt := hlast
  cases htype : p.eventType with
  | start =>
    exact h.keep_start htype hopen hopen hlast' rfl (or_stored o.framedIp)
      (or_stored o.framedIpv6Prefix) (or_stored o.callingStationId)
  | stop => exact absurd htype (h.of_open hopen).1
  | interimUpdate =>
    simp only [Settled, htype, if_pos hopen] at h
    rcases h with hlt | hreplay
    · exact settled_of_lt (by simp [htype]) (by omega)
    · have hopen' : (row.enrich o).isOpen = true := hopen
      simp only [Settled, htype, if_pos hopen']
      right
      simp only [exactReplay, Bool.and_eq_true, Bool.or_eq_true, decide_eq_true_eq] at hreplay ⊢
      obtain ⟨⟨⟨⟨⟨hat, hkind⟩, hcounters⟩, hcause⟩, hip⟩, hnet⟩ := hreplay
      refine ⟨⟨⟨⟨⟨hat.trans hlast'.symm, hkind⟩, hcounters⟩, hcause⟩, ?_⟩, ?_⟩
      · rcases hip with hip | hip
        · exact Or.inl hip
        · exact (or_stored o.framedIp hip).symm.imp_left fun e => by simp [e]
      · rcases hnet with hnet | hnet
        · exact Or.inl hnet
        · exact (or_stored o.framedIpv6Prefix hnet).symm.imp_left fun e => by simp [e]

theorem settled_enriched (htype : o.eventType = .start) (hopen : row.isOpen = true)
    (hat : o.observedEventAt ≤ row.eventAt) (hchanged : identityChanged row o = false) :
    Settled (row.enrich o) o := by
  have hstored : ∀ stored sent : Option String, changed stored sent = false →
      sent = none ∨ stored.or sent = sent := by
    intro stored sent hsame
    cases stored with
    | none => exact Or.inr rfl
    | some value =>
      cases sent with
      | none => exact Or.inl rfl
      | some other =>
        right
        simpa [changed] using hsame
  simp only [identityChanged, hopen, Bool.true_and, Bool.or_eq_false_iff] at hchanged
  exact settled_start htype hopen rfl hat (hstored _ _ hchanged.1.1) (hstored _ _ hchanged.1.2)
    (hstored _ _ hchanged.2)

/-- The observation repeats the counters and the cause of the row. -/
def sameReport (row : Log) (o : Observation) : Bool :=
  (usageFields.all fun field =>
    (o.counters.get field).all fun value => (row.usageLast.get field).getD 0 == value) &&
    decide (row.terminateCause = o.terminateCause)

/-- The addresses sent do not differ from those stored. -/
def sameAddress (row : Log) (o : Observation) : Bool :=
  !changed row.framedIp o.framedIp && !changed row.framedIpv6Prefix o.framedIpv6Prefix

@[simp] theorem nextUsageLast_get (previous current : Counters) (field : UsageField) :
    (nextUsageLast previous current).get field =
      (current.get field).or (previous.get field) := by
  simp [nextUsageLast]

theorem sent_or_stored {wanted : Option String} (hsame : changed stored sent = false)
    (h : stored = wanted) :
    sent.or stored = wanted ∨ wanted = none := by
  subst h
  cases stored with
  | none => exact Or.inr rfl
  | some value =>
    left
    cases sent with
    | none => rfl
    | some other =>
      have heq : value = other := by simpa [changed] using hsame
      rw [heq]
      rfl

theorem accepted_get (previous current : Counters) (field : UsageField) :
    ∀ value ∈ current.get field, ((nextUsageLast previous current).get field).getD 0 = value := by
  intro value hvalue
  rw [nextUsageLast_get, hvalue]
  rfl

theorem Settled.accept (h : Settled row p) (hopen : row.isOpen = true)
    (hlast : row.lastAt < o.observedEventAt ∨
      (row.lastAt ≤ o.observedEventAt ∧ o.eventType = .stop)) : Settled (row.accept o) p := by
  have hlast' : (row.accept o).lastAt = o.observedEventAt := rfl
  rcases hlast with hlt | ⟨hle, hstop⟩
  · obtain ⟨htype, hp⟩ := h.of_open hopen
    exact settled_of_lt htype (by omega)
  · have hclosed : (row.accept o).isOpen = false := by simp [Log.isOpen, Log.accept, hstop]
    exact h.close hopen hclosed (by omega)

theorem Settled.report (h : Settled row p) (hopen : row.isOpen = true)
    (htype : o.eventType = .interimUpdate) (hlast : o.observedEventAt = row.lastAt)
    (haddress : sameAddress row o = true)
    (hreport : row.eventType = .start ∨ sameReport row o = true) : Settled (row.accept o) p := by
  have hlast' : (row.accept o).lastAt = row.lastAt := hlast
  have hopen' : (row.accept o).isOpen = true := by simp [Log.isOpen, Log.accept, htype]
  simp only [sameAddress, Bool.and_eq_true, Bool.not_eq_true'] at haddress
  obtain ⟨hip, hnet⟩ := haddress
  cases hkind : p.eventType with
  | start =>
    exact h.keep_start hkind hopen hopen' hlast' rfl (sent_or_stored hip)
      (sent_or_stored hnet) Or.inl
  | stop => exact absurd hkind (h.of_open hopen).1
  | interimUpdate =>
    simp only [Settled, hkind, if_pos hopen] at h
    rcases h with hlt | hreplay
    · exact settled_of_lt (by simp [hkind]) (by omega)
    · simp only [Settled, hkind, if_pos hopen']
      right
      simp only [exactReplay, Bool.and_eq_true, Bool.or_eq_true, decide_eq_true_eq,
        List.all_eq_true, Option.all_eq_true, beq_iff_eq] at hreplay ⊢
      obtain ⟨⟨⟨⟨⟨hat, hrow⟩, hcounters⟩, hcause⟩, hpip⟩, hpprefix⟩ := hreplay
      have hsame : sameReport row o = true := by
        refine hreport.resolve_left fun hstart => ?_
        rw [hstart, hkind] at hrow
        cases hrow
      simp only [sameReport, Bool.and_eq_true, decide_eq_true_eq, List.all_eq_true,
        Option.all_eq_true, beq_iff_eq] at hsame
      refine ⟨⟨⟨⟨⟨hat.trans hlast'.symm, htype.trans hkind.symm⟩, fun field hfield value hvalue =>
        ?_⟩, hsame.2.symm.trans hcause⟩, ?_⟩, ?_⟩
      · have hstored := hcounters field hfield value hvalue
        change ((nextUsageLast row.usageLast o.counters).get field).getD 0 = value
        rw [nextUsageLast_get]
        cases hnew : o.counters.get field with
        | none => exact hstored
        | some new => exact (hsame.1 field hfield new hnew).symm.trans hstored
      · rcases hpip with hpip | hpip
        · exact Or.inl hpip
        · exact (sent_or_stored hip hpip).symm.imp_left fun e => by simp [e]
      · rcases hpprefix with hpprefix | hpprefix
        · exact Or.inl hpprefix
        · exact (sent_or_stored hnet hpprefix).symm.imp_left fun e => by simp [e]

theorem settled_stop (htype : o.eventType = .stop) (hclosed : row.isOpen = false)
    (hcounters : ∀ field, ∀ value ∈ o.counters.get field,
      (row.usageLast.get field).getD 0 = value)
    (hcause : o.terminateCause = none ∨ row.terminateCause = o.terminateCause)
    (hreused : isLaterReusedLifecycle row o = false) : Settled row o := by
  simp only [Settled, htype]
  refine ⟨hclosed, hreused, Or.inl ?_⟩
  simp only [correctedFinal, Bool.and_eq_false_iff, Bool.or_eq_false_iff]
  right
  constructor
  · refine List.any_eq_false.mpr fun field _ => ?_
    cases hvalue : o.counters.get field with
    | none => simp
    | some value =>
      have hstored := hcounters field value hvalue
      simp [hstored]
  · rcases hcause with hcause | hcause <;> simp [hcause]

theorem settled_accepted (htype : o.eventType ≠ .start) : Settled (row.accept o) o := by
  have hlast : (row.accept o).lastAt = o.observedEventAt := rfl
  cases hkind : o.eventType with
  | start => exact absurd hkind htype
  | stop =>
    have hclosed : (row.accept o).isOpen = false := by simp [Log.isOpen, Log.accept, hkind]
    refine settled_stop hkind hclosed (accepted_get row.usageLast o.counters) (Or.inr rfl) ?_
    simp [isLaterReusedLifecycle, hlast]
  | interimUpdate =>
    have hopen : (row.accept o).isOpen = true := by simp [Log.isOpen, Log.accept, hkind]
    simp only [Settled, hkind, if_pos hopen]
    right
    simp only [exactReplay, Bool.and_eq_true, Bool.or_eq_true, decide_eq_true_eq,
      List.all_eq_true, Option.all_eq_true, beq_iff_eq]
    refine ⟨⟨⟨⟨⟨hlast.symm, rfl⟩, fun field _ => accepted_get row.usageLast o.counters field⟩,
      rfl⟩, ?_⟩, ?_⟩
    · cases hip : o.framedIp <;> simp [Log.accept, hip]
    · cases hnet : o.framedIpv6Prefix <;> simp [Log.accept, hnet]

theorem settled_startLog {id : Nat} (htype : o.eventType = .start)
    (hseconds : o.observedEventAt ≤ toSeconds o.observedEventAt) : Settled (startLog id o) o :=
  settled_start htype (by simp [Log.isOpen, startLog, newLog, htype]) rfl hseconds (Or.inr rfl)
    (Or.inr rfl) (Or.inr rfl)

theorem settled_lateLog {id : Nat} (htype : o.eventType ≠ .start) : Settled (lateLog id o) o := by
  have hlast : (lateLog id o).lastAt = o.observedEventAt := rfl
  have hcounters : ∀ field, ∀ value ∈ o.counters.get field,
      ((lateLog id o).usageLast.get field).getD 0 = value := by
    intro field value hvalue
    change (o.counters.get field).getD 0 = value
    rw [hvalue]
    rfl
  cases hkind : o.eventType with
  | start => exact absurd hkind htype
  | stop =>
    have hclosed : (lateLog id o).isOpen = false := by
      simp [Log.isOpen, lateLog, newLog, hkind]
    refine settled_stop hkind hclosed hcounters (Or.inr rfl) ?_
    simp [isLaterReusedLifecycle, hlast]
  | interimUpdate =>
    have hopen : (lateLog id o).isOpen = true := by simp [Log.isOpen, lateLog, newLog, hkind]
    simp only [Settled, hkind, if_pos hopen]
    right
    simp only [exactReplay, Bool.and_eq_true, Bool.or_eq_true, decide_eq_true_eq,
      List.all_eq_true, Option.all_eq_true, beq_iff_eq]
    exact ⟨⟨⟨⟨⟨hlast.symm, rfl⟩, fun field _ => hcounters field⟩, rfl⟩, Or.inr rfl⟩,
      Or.inr rfl⟩

/-- The event and the session it would report start after the stop of the row. -/
def startsLater (row : Log) (o : Observation) : Prop :=
  row.lastAt < o.observedEventAt ∧
    row.lastAt + o.counters.duration.getD 0 * 1000 ≤ o.observedEventAt

/-- A Stop is superseded by another: no counter is larger, and the cause is the same. -/
def Superseded (p o : Observation) : Prop :=
  (∀ field, ∀ old ∈ p.counters.get field, ∀ new ∈ o.counters.get field, old ≤ new) ∧
    (p.terminateCause = none ∨ o.terminateCause = none ∨ p.terminateCause = o.terminateCause)

instance (row : Log) (o : Observation) : Decidable (startsLater row o) :=
  inferInstanceAs (Decidable (_ ∧ _))

instance (p o : Observation) : Decidable (Superseded p o) := inferInstanceAs (Decidable (_ ∧ _))

theorem Settled.correctFinal (h : Settled row p) (hclosed : row.isOpen = false)
    (hother : p.eventType = .stop →
      ¬startsLater row p ∧ (row.lastAt ≤ p.observedEventAt → Superseded p o)) :
    Settled (row.correctFinal o) p := by
  have hlast : (row.correctFinal o).lastAt = row.lastAt := rfl
  have hclosed' : (row.correctFinal o).isOpen = false := hclosed
  cases hkind : p.eventType with
  | start =>
    simp only [Settled, hkind, hclosed, hclosed', Bool.false_eq_true, if_false] at h ⊢
    omega
  | interimUpdate =>
    have hpayload : ∀ r : Log, sameStopPayload r p = false := by simp [sameStopPayload, hkind]
    simp only [Settled, hkind, hclosed, hclosed', Bool.false_eq_true, if_false,
      isLaterReusedLifecycle, hpayload, hlast] at h ⊢
    exact h
  | stop =>
    obtain ⟨hlater, hsuperseded⟩ := hother hkind
    simp only [Settled, hkind] at h ⊢
    obtain ⟨-, -, hfinal⟩ := h
    refine ⟨hclosed', ?_, ?_⟩
    · have hnot : ¬(row.lastAt < p.observedEventAt ∧
          row.lastAt + p.counters.duration.getD 0 * 1000 ≤ p.observedEventAt) := hlater
      simp only [isLaterReusedLifecycle, hlast, decide_eq_false hnot, Bool.and_false]
    · by_cases hlt : p.observedEventAt < row.lastAt
      · exact Or.inr hlt
      · left
        obtain ⟨hcounters, hcauses⟩ := hsuperseded (by omega)
        have hnone : correctedFinal row p = false := hfinal.resolve_right hlt
        simp only [correctedFinal, hkind, decide_true, Bool.true_and, Bool.or_eq_false_iff,
          List.any_eq_false] at hnone ⊢
        refine ⟨fun field hfield => ?_, ?_⟩
        · have hstored := hnone.1 field hfield
          change ¬(p.counters.get field).any (fun value =>
            decide (((nextUsageLast row.usageLast o.counters).get field).getD 0 < value)) = true
          rw [nextUsageLast_get]
          cases hp : p.counters.get field with
          | none => simp
          | some old =>
            rw [hp] at hstored
            cases ho : o.counters.get field with
            | none => exact hstored
            | some new =>
              have hnot : ¬new < old := Nat.not_lt.mpr (hcounters field old hp new ho)
              simp [hnot]
        · have hstored := hnone.2
          change (p.terminateCause.isSome &&
            decide (p.terminateCause ≠ o.terminateCause.or row.terminateCause)) = false
          rcases hcauses with hcause | hcause | hcause
          · simp [hcause]
          · rw [hcause]
            exact hstored
          · rw [← hcause]
            cases p.terminateCause <;> simp

theorem settled_corrected (htype : o.eventType = .stop) (hclosed : row.isOpen = false)
    (hexplicit : o.hasExplicitEventTimestamp = true)
    (hreused : isLaterReusedLifecycle row o = false) : Settled (row.correctFinal o) o := by
  have hcounters : ∀ field, ∀ value ∈ o.counters.get field,
      ((row.correctFinal o).usageLast.get field).getD 0 = value :=
    accepted_get row.usageLast o.counters
  have hcause : o.terminateCause = none ∨
      (row.correctFinal o).terminateCause = o.terminateCause := by
    cases hcause : o.terminateCause <;> simp [Log.correctFinal, hcause]
  refine settled_stop htype hclosed hcounters hcause ?_
  simp only [isLaterReusedLifecycle, hexplicit, Bool.true_and, Bool.and_eq_false_iff,
    Bool.not_eq_false'] at hreused ⊢
  rcases hreused with hsame | hlater
  · left
    simp only [sameStopPayload, Bool.and_eq_true, List.all_eq_true, sameFinalNumber,
      Option.all_eq_true, beq_iff_eq] at hsame ⊢
    refine ⟨⟨⟨⟨hsame.1.1.1.1, fun field _ value hvalue => (hcounters field value hvalue).symm⟩, ?_⟩,
      hsame.1.2⟩, hsame.2⟩
    cases hvalue : o.terminateCause <;> simp [sameFinalText, Log.correctFinal, hvalue]
  · exact Or.inr hlater

end FireIsp.Radius
