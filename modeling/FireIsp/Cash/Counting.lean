import FireIsp.Cash.Reconciliation

/-!
# When each payment is counted once

The sums of closed sessions, over runs in which what is recorded during a session falls into its
window, and nothing else does.
-/

namespace FireIsp.Cash

variable {s s' : State} {now : Nat}

/-- Closed sessions expect their agents' cash payments, and each one is counted exactly once. -/
def Reconciled (s : State) : Prop :=
  ∀ session ∈ s.sessions, session.status ≠ .opened →
    session.expectedTotal = some (total session.due) ∧
    ∀ p ∈ s.payments, p.paymentMethod = .cash → p.during = some session.id →
      (s.sessions.filter fun other => p.id ∈ other.counted).length = 1

/-- Time goes on, sessions begin after the days of earlier payments, and payments keep to their day. -/
def Fits (s : State) (timed : Nat × Call) : Prop :=
  s.clock ≤ timed.1 ∧
  match timed.2 with
  | .start organizationId agentUserId _ =>
    ∀ p ∈ s.payments, p.organizationId = some organizationId → p.paymentMethod = .cash →
      p.recordedBy = some agentUserId → midnight p.paymentDate < timed.1
  | .record userId payment =>
    payment.paymentMethod = .cash → ∀ organizationId,
      payment.organizationId = some organizationId →
      ∀ session, s.openSessionOf organizationId userId = some session →
        payment.attributed = true ∧ session.openedAt ≤ midnight payment.paymentDate ∧
          midnight payment.paymentDate ≤ timed.1
  | .delete paymentId _ =>
    ∀ p ∈ s.payments, p.id = paymentId → p.paymentMethod = .cash →
      ∀ session ∈ s.sessions, p.during = some session.id → session.status ≠ .opened
  | .finish _ _ _ => True

/-- What holds of every state of such a run. -/
structure Sound (s : State) : Prop where
  sessionsKeyed : Table.Keyed CashSession.id s.sessions
  sessionsBelow : ∀ session ∈ s.sessions, session.id < s.sessions.length
  sessionsLive : ∀ session ∈ s.sessions, session.deletedAt = none
  paymentsKeyed : Table.Keyed Payment.id s.payments
  paymentsBelow : ∀ p ∈ s.payments, p.id < s.payments.length
  oneOpen : ∀ a ∈ s.sessions, ∀ b ∈ s.sessions, a.status = .opened → b.status = .opened →
    a.organizationId = b.organizationId → a.agentUserId = b.agentUserId → a = b
  during : ∀ p ∈ s.payments, ∀ id, p.during = some id → id < s.sessions.length
  recorded : ∀ p ∈ s.payments, ∀ session ∈ s.sessions, p.during = some session.id →
    p.organizationId = some session.organizationId ∧ p.recorder = session.agentUserId
  /-- The cash payments that an open session will count are those its agent recorded during it. -/
  fits : ∀ p ∈ s.payments, p.paymentMethod = .cash → ∀ session ∈ s.sessions,
    session.status = .opened → p.organizationId = some session.organizationId →
    (p.recordedBy = some session.agentUserId ∧ session.openedAt ≤ midnight p.paymentDate ↔
      p.recorder = session.agentUserId ∧ p.during = some session.id)
  current : ∀ p ∈ s.payments, p.paymentMethod = .cash → ∀ session ∈ s.sessions,
    session.status = .opened → p.during = some session.id →
    p.deletedAt = none ∧ midnight p.paymentDate ≤ s.clock
  /-- A closed session expects what was due, and has counted what was recorded during it. -/
  expected : ∀ session ∈ s.sessions, session.status ≠ .opened →
    session.expectedTotal = some (total session.due) ∧
    ∀ p ∈ s.payments, p.paymentMethod = .cash → p.during = some session.id →
      p.id ∈ session.counted
  counted : ∀ session ∈ s.sessions, ∀ id ∈ session.counted,
    ∃ p ∈ s.payments, p.id = id ∧ p.during = some session.id

variable {session : CashSession}

theorem countedPayments_eq (h : Sound s) (hmem : session ∈ s.sessions)
    (hopen : session.status = .opened) (hnow : s.clock ≤ now) :
    countedPayments now session s = duePayments session s := by
  refine List.filter_congr fun p hp => ?_
  by_cases hcash : p.organizationId = some session.organizationId ∧ p.paymentMethod = .cash
  · have hfits := h.fits p hp hcash.2 session hmem hopen hcash.1
    have hcurrent := h.current p hp hcash.2 session hmem hopen
    rw [Bool.eq_iff_iff]
    simp only [hcash.1, hcash.2, decide_true, Bool.true_and, Bool.and_eq_true, decide_eq_true_eq,
      Payment.live, Option.isNone_iff_eq_none]
    constructor
    · rintro ⟨hby, hafter, -⟩
      obtain ⟨hrecorder, hduring⟩ := hfits.mp ⟨hby, hafter⟩
      exact ⟨⟨hrecorder, hduring⟩, (hcurrent hduring).1⟩
    · rintro ⟨⟨hrecorder, hduring⟩, -⟩
      obtain ⟨hby, hafter⟩ := hfits.mpr ⟨hrecorder, hduring⟩
      exact ⟨hby, hafter, (hcurrent hduring).2.trans hnow⟩
  · rw [not_and_or] at hcash
    rcases hcash with horg | hcash
    · simp [horg]
    · simp [hcash]

theorem length_filter_eq_one {α : Type} [DecidableEq α] {l : List α} {p : α → Bool} {a : α}
    (hl : l.Nodup) (ha : a ∈ l) (hp : ∀ b ∈ l, p b = true ↔ b = a) : (l.filter p).length = 1 := by
  have hsame : l.filter p = l.filter fun b => b = a :=
    List.filter_congr fun b hb => by rw [Bool.eq_iff_iff, hp b hb, decide_eq_true_eq]
  rw [hsame, List.filter_eq, List.length_replicate, List.count_eq_one_of_mem hl ha]

theorem Sound.reconciled (h : Sound s) : Reconciled s := by
  intro session hmem hclosed
  obtain ⟨hexpected, hcounted⟩ := h.expected session hmem hclosed
  refine ⟨hexpected, fun p hp hcash hfor => ?_⟩
  refine length_filter_eq_one h.sessionsKeyed.of_map hmem fun other hother => ?_
  rw [decide_eq_true_eq]
  constructor
  · intro hin
    obtain ⟨q, hq, hid, hduring⟩ := h.counted other hother _ hin
    obtain rfl := List.inj_on_of_nodup_map h.paymentsKeyed hq hp hid
    exact List.inj_on_of_nodup_map h.sessionsKeyed hother hmem
      (Option.some.inj (hduring.symm.trans hfor))
  · rintro rfl
    exact hcounted p hp hcash hfor

theorem Sound.tick (h : Sound s) (hnow : s.clock ≤ now) : Sound (s.tick now) :=
  { h with
    current := fun p hp hcash session hmem hopen hduring =>
      (h.current p hp hcash session hmem hopen hduring).imp_right fun hle => hle.trans hnow }

variable {organizationId : Nat}

theorem openSessionOf_eq_some {agentUserId : Nat}
    (h : s.openSessionOf organizationId agentUserId = some session) :
    session ∈ s.sessions ∧ session.organizationId = organizationId ∧
      session.agentUserId = agentUserId ∧ session.status = .opened := by
  have hfound := List.find?_some h
  simp only [CashSession.isOpenOf, Bool.and_eq_true, decide_eq_true_eq] at hfound
  exact ⟨List.mem_of_find?_eq_some h, hfound.1.1.1, hfound.1.1.2, hfound.1.2⟩

theorem Sound.openSessionOf (h : Sound s) (hmem : session ∈ s.sessions)
    (hopen : session.status = .opened) :
    s.openSessionOf session.organizationId session.agentUserId = some session := by
  cases hfound : s.openSessionOf session.organizationId session.agentUserId with
  | none =>
    have hnot := List.find?_eq_none.mp hfound session hmem
    simp [CashSession.isOpenOf, hopen, h.sessionsLive session hmem] at hnot
  | some other =>
    obtain ⟨hother, horg, hagent, hopen'⟩ := openSessionOf_eq_some hfound
    rw [h.oneOpen other hother session hmem hopen' hopen horg hagent]

theorem keyed_append {ρ : Type} {key : ρ → Nat} {rows : List ρ} (row : ρ)
    (hkeyed : Table.Keyed key rows) (hbelow : ∀ old ∈ rows, key old < rows.length)
    (hrow : key row = rows.length) :
    Table.Keyed key (rows ++ [row]) ∧ ∀ old ∈ rows ++ [row], key old < (rows ++ [row]).length := by
  constructor
  · have hfresh : key row ∉ rows.map key := by
      intro hmem
      obtain ⟨old, hold, hkey⟩ := List.mem_map.mp hmem
      have hlt := hbelow old hold
      omega
    rw [← Table.put_fresh hfresh]
    exact Table.keyed_put hkeyed
  · intro old hold
    rw [List.length_append, List.length_singleton]
    rcases List.mem_append.mp hold with hold | hold
    · have hlt := hbelow old hold
      omega
    · rw [List.mem_singleton.mp hold]
      omega

theorem Sound.start (h : Sound s) {agentUserId : Nat} {notes : Option String}
    (hfits : ∀ p ∈ s.payments, p.organizationId = some organizationId → p.paymentMethod = .cash →
      p.recordedBy = some agentUserId → midnight p.paymentDate < now)
    (hcall : openSession now organizationId agentUserId notes s = .ok s') : Sound s' := by
  unfold openSession at hcall
  split_ifs at hcall with hfree
  obtain rfl := Except.ok.inj hcall
  rw [Option.isSome_iff_ne_none, not_not] at hfree
  have hnobody : ∀ session ∈ s.sessions, session.status = .opened →
      session.organizationId = organizationId → session.agentUserId = agentUserId → False := by
    intro session hmem hopen horg hagent
    have hfound := h.openSessionOf hmem hopen
    rw [horg, hagent, hfree] at hfound
    exact nomatch hfound
  have hnew : ∀ session ∈ s.sessions ++ [newSession now organizationId agentUserId notes s],
      session ∈ s.sessions ∨ session = newSession now organizationId agentUserId notes s := by
    simp
  have hunused : ∀ p ∈ s.payments, p.during ≠ some s.sessions.length :=
    fun p hp hduring => absurd (h.during p hp _ hduring) (lt_irrefl _)
  have hkeys := keyed_append (newSession now organizationId agentUserId notes s)
    h.sessionsKeyed h.sessionsBelow rfl
  refine
    { sessionsKeyed := hkeys.1
      sessionsBelow := hkeys.2
      sessionsLive := fun session hmem => ?_
      paymentsKeyed := h.paymentsKeyed
      paymentsBelow := h.paymentsBelow
      oneOpen := fun a ha b hb hopen hopen' horg hagent => ?_
      during := fun p hp id hduring => ?_
      recorded := fun p hp session hmem hduring => ?_
      fits := fun p hp hcash session hmem hopen horg => ?_
      current := fun p hp hcash session hmem hopen hduring => ?_
      expected := fun session hmem hclosed => ?_
      counted := fun session hmem id hid => ?_ }
  · rcases hnew session hmem with hmem | rfl
    · exact h.sessionsLive session hmem
    · rfl
  · rcases hnew a ha with ha | rfl <;> rcases hnew b hb with hb | rfl
    · exact h.oneOpen a ha b hb hopen hopen' horg hagent
    · exact (hnobody a ha hopen horg hagent).elim
    · exact (hnobody b hb hopen' horg.symm hagent.symm).elim
    · rfl
  · rw [List.length_append]
    exact Nat.lt_add_right _ (h.during p hp id hduring)
  · rcases hnew session hmem with hmem | rfl
    · exact h.recorded p hp session hmem hduring
    · exact (hunused p hp hduring).elim
  · rcases hnew session hmem with hmem | rfl
    · exact h.fits p hp hcash session hmem hopen horg
    · refine iff_of_false (fun hby => ?_) fun hduring => hunused p hp hduring.2
      have hbefore := hfits p hp horg hcash hby.1
      have hafter : now ≤ midnight p.paymentDate := hby.2
      omega
  · rcases hnew session hmem with hmem | rfl
    · exact h.current p hp hcash session hmem hopen hduring
    · exact (hunused p hp hduring).elim
  · rcases hnew session hmem with hmem | rfl
    · exact h.expected session hmem hclosed
    · exact absurd rfl hclosed
  · rcases hnew session hmem with hmem | rfl
    · exact h.counted session hmem id hid
    · exact absurd hid List.not_mem_nil

theorem Sound.record (h : Sound s) {userId : Nat} {payment : NewPayment}
    (hfits : payment.paymentMethod = .cash → ∀ organizationId,
      payment.organizationId = some organizationId →
      ∀ session, s.openSessionOf organizationId userId = some session →
        payment.attributed = true ∧ session.openedAt ≤ midnight payment.paymentDate ∧
          midnight payment.paymentDate ≤ s.clock) : Sound (insertPayment userId payment s) := by
  have hduring : ∀ id, (newRow userId payment s).during = some id → ∃ organizationId session,
      payment.organizationId = some organizationId ∧
      s.openSessionOf organizationId userId = some session ∧ session.id = id := by
    intro id hid
    obtain ⟨session, hsession, hid⟩ := Option.map_eq_some_iff.mp hid
    obtain ⟨organizationId, horg, hfound⟩ := Option.bind_eq_some_iff.mp hsession
    exact ⟨organizationId, session, horg, hfound, hid⟩
  have hnew : ∀ p ∈ s.payments ++ [newRow userId payment s],
      p ∈ s.payments ∨ p = newRow userId payment s := by
    simp
  have hrecorded : ∀ session ∈ s.sessions, (newRow userId payment s).during = some session.id →
      payment.organizationId = some session.organizationId ∧ userId = session.agentUserId ∧
      s.openSessionOf session.organizationId userId = some session := by
    intro session hmem hid
    obtain ⟨organizationId, other, horg, hfound, hid⟩ := hduring session.id hid
    obtain ⟨hother, horg', hagent, -⟩ := openSessionOf_eq_some hfound
    obtain rfl := List.inj_on_of_nodup_map h.sessionsKeyed hother hmem hid
    rw [← horg'] at horg hfound
    exact ⟨horg, hagent.symm, hfound⟩
  have hkeys := keyed_append (newRow userId payment s) h.paymentsKeyed h.paymentsBelow rfl
  refine
    { h with
      paymentsKeyed := hkeys.1
      paymentsBelow := hkeys.2
      during := fun p hp id hid => ?_
      recorded := fun p hp session hmem hid => ?_
      fits := fun p hp hcash session hmem hopen horg => ?_
      current := fun p hp hcash session hmem hopen hid => ?_
      expected := fun session hmem hclosed => ⟨(h.expected session hmem hclosed).1,
        fun p hp hcash hid => ?_⟩
      counted := fun session hmem id hid => ?_ }
  · rcases hnew p hp with hp | rfl
    · exact h.during p hp id hid
    · obtain ⟨organizationId, session, -, hfound, rfl⟩ := hduring id hid
      exact h.sessionsBelow session (openSessionOf_eq_some hfound).1
  · rcases hnew p hp with hp | rfl
    · exact h.recorded p hp session hmem hid
    · obtain ⟨horg, hagent, -⟩ := hrecorded session hmem hid
      exact ⟨horg, hagent⟩
  · rcases hnew p hp with hp | rfl
    · exact h.fits p hp hcash session hmem hopen horg
    constructor
    · rintro ⟨hby, -⟩
      have hagent : userId = session.agentUserId := by
        have hby' : (if payment.attributed = true then some userId else none) =
          some session.agentUserId := hby
        split_ifs at hby'
        exact Option.some.inj hby'
      refine ⟨hagent, ?_⟩
      have hfound := h.openSessionOf hmem hopen
      rw [← hagent] at hfound
      change (payment.organizationId.bind _).map _ = _
      rw [show payment.organizationId = some session.organizationId from horg, Option.bind_some,
        hfound, Option.map_some]
    · rintro ⟨hagent, hid⟩
      obtain ⟨horg', -, hfound⟩ := hrecorded session hmem hid
      obtain ⟨hattributed, hafter, -⟩ := hfits hcash _ horg' session hfound
      exact ⟨(if_pos hattributed).trans (congrArg some hagent), hafter⟩
  · rcases hnew p hp with hp | rfl
    · exact h.current p hp hcash session hmem hopen hid
    · obtain ⟨horg, -, hfound⟩ := hrecorded session hmem hid
      exact ⟨rfl, (hfits hcash _ horg session hfound).2.2⟩
  · rcases hnew p hp with hp | rfl
    · exact (h.expected session hmem hclosed).2 p hp hcash hid
    · obtain ⟨-, -, hfound⟩ := hrecorded session hmem hid
      exact absurd (openSessionOf_eq_some hfound).2.2.2 hclosed
  · obtain ⟨p, hp, hid, hfor⟩ := h.counted session hmem id hid
    exact ⟨p, List.mem_append_left _ hp, hid, hfor⟩

theorem Sound.delete (h : Sound s) {paymentId : Nat}
    (hfits : ∀ p ∈ s.payments, p.id = paymentId → p.paymentMethod = .cash →
      ∀ session ∈ s.sessions, p.during = some session.id → session.status ≠ .opened)
    (hcall : deletePayment now paymentId organizationId s = .ok s') : Sound s' := by
  unfold deletePayment at hcall
  split_ifs at hcall
  obtain rfl := Except.ok.inj hcall
  let gone : Payment → Payment := fun p =>
    if decide (p.id = paymentId) && p.live && decide (p.organizationId = some organizationId)
    then { p with deletedAt := some now } else p
  have hcolumns : ∀ p, (gone p).id = p.id ∧ (gone p).during = p.during ∧
      (gone p).paymentMethod = p.paymentMethod ∧ (gone p).organizationId = p.organizationId ∧
      (gone p).recordedBy = p.recordedBy ∧ (gone p).recorder = p.recorder ∧
      (gone p).paymentDate = p.paymentDate := by
    intro p
    dsimp only [gone]
    split_ifs <;> exact ⟨rfl, rfl, rfl, rfl, rfl, rfl, rfl⟩
  have hids : (s.payments.map gone).map Payment.id = s.payments.map Payment.id := by
    rw [List.map_map]
    exact List.map_congr_left fun p _ => (hcolumns p).1
  refine
    { h with
      paymentsKeyed := ?_
      paymentsBelow := fun p hp => ?_
      during := fun p hp id hid => ?_
      recorded := fun p hp session hmem hid => ?_
      fits := fun p hp hcash session hmem hopen horg => ?_
      current := fun p hp hcash session hmem hopen hid => ?_
      expected := fun session hmem hclosed => ⟨(h.expected session hmem hclosed).1,
        fun p hp hcash hid => ?_⟩
      counted := fun session hmem id hid => ?_ }
  · change ((s.payments.map gone).map Payment.id).Nodup
    rw [hids]
    exact h.paymentsKeyed
  · obtain ⟨old, hold, rfl⟩ := List.mem_map.mp hp
    rw [List.length_map]
    exact (hcolumns old).1.trans_lt (h.paymentsBelow old hold)
  · obtain ⟨old, hold, rfl⟩ := List.mem_map.mp hp
    exact h.during old hold id ((hcolumns old).2.1.symm.trans hid)
  · obtain ⟨old, hold, rfl⟩ := List.mem_map.mp hp
    change (gone old).organizationId = _ ∧ (gone old).recorder = _
    change (gone old).during = _ at hid
    obtain ⟨-, hduring, -, horganization, -, hrecorder, -⟩ := hcolumns old
    rw [hduring] at hid
    rw [horganization, hrecorder]
    exact h.recorded old hold session hmem hid
  · obtain ⟨old, hold, rfl⟩ := List.mem_map.mp hp
    change (gone old).paymentMethod = _ at hcash
    change (gone old).organizationId = _ at horg
    change (gone old).recordedBy = _ ∧ session.openedAt ≤ midnight (gone old).paymentDate ↔
      (gone old).recorder = _ ∧ (gone old).during = _
    obtain ⟨-, hduring, hmethod, horganization, hby, hrecorder, hdate⟩ := hcolumns old
    rw [hmethod] at hcash
    rw [horganization] at horg
    rw [hby, hdate, hrecorder, hduring]
    exact h.fits old hold hcash session hmem hopen horg
  · obtain ⟨old, hold, rfl⟩ := List.mem_map.mp hp
    change (gone old).paymentMethod = _ at hcash
    change (gone old).during = _ at hid
    change (gone old).deletedAt = none ∧ midnight (gone old).paymentDate ≤ s.clock
    obtain ⟨-, hduring, hmethod, -, -, -, hdate⟩ := hcolumns old
    rw [hmethod] at hcash
    rw [hduring] at hid
    have hkept : gone old = old := by
      dsimp only [gone]
      refine if_neg fun hgone => ?_
      simp only [Bool.and_eq_true, decide_eq_true_eq] at hgone
      exact hfits old hold hgone.1.1 hcash session hmem hid hopen
    rw [hkept]
    exact h.current old hold hcash session hmem hopen hid
  · obtain ⟨old, hold, rfl⟩ := List.mem_map.mp hp
    change (gone old).paymentMethod = _ at hcash
    change (gone old).during = _ at hid
    change (gone old).id ∈ _
    obtain ⟨hid', hduring, hmethod, -⟩ := hcolumns old
    rw [hmethod] at hcash
    rw [hduring] at hid
    rw [hid']
    exact (h.expected session hmem hclosed).2 old hold hcash hid
  · obtain ⟨p, hp, hpid, hfor⟩ := h.counted session hmem id hid
    exact ⟨gone p, List.mem_map_of_mem hp, (hcolumns p).1.trans hpid, (hcolumns p).2.1.trans hfor⟩

theorem Sound.finish (h : Sound s) {sessionId : Nat} {countedTotal : Int} (hnow : s.clock ≤ now)
    (hcall : closeSession now sessionId organizationId countedTotal s = .ok s') : Sound s' := by
  unfold closeSession at hcall
  split at hcall
  · exact nomatch hcall
  rename_i session hfound
  split_ifs at hcall with hstatus
  obtain rfl := Except.ok.inj hcall
  rw [not_not] at hstatus
  have hmem := List.mem_of_find?_eq_some hfound
  have hid : session.id = sessionId := by
    have hfits := List.find?_some hfound
    simp only [Bool.and_eq_true, decide_eq_true_eq] at hfits
    exact hfits.1.1
  have hclose : ∀ x : CashSession, (x.close now countedTotal s).id = x.id := fun _ => rfl
  have hrow : ∀ x ∈ Table.modify CashSession.id sessionId (CashSession.close now countedTotal s)
      s.sessions, x = session.close now countedTotal s ∨ x ∈ s.sessions := by
    intro x hx
    obtain ⟨old, hold, rfl⟩ := List.mem_map.mp hx
    split_ifs with hold'
    · obtain rfl := List.inj_on_of_nodup_map h.sessionsKeyed hold hmem (hold'.trans hid.symm)
      exact Or.inl rfl
    · exact Or.inr hold
  have hopened : ∀ x ∈ Table.modify CashSession.id sessionId (CashSession.close now countedTotal s)
      s.sessions, x.status = .opened → x ∈ s.sessions := by
    intro x hx hopen
    rcases hrow x hx with rfl | hx
    · exact nomatch hopen
    · exact hx
  have hlength : (Table.modify CashSession.id sessionId (CashSession.close now countedTotal s)
      s.sessions).length = s.sessions.length := List.length_map _
  have hcounted := countedPayments_eq h hmem hstatus hnow
  refine
    { paymentsKeyed := h.paymentsKeyed
      paymentsBelow := h.paymentsBelow
      sessionsKeyed := Table.keyed_modify h.sessionsKeyed hclose
      sessionsBelow := fun x hx => ?_
      sessionsLive := fun x hx => ?_
      oneOpen := fun a ha b hb hopen hopen' => ?_
      during := fun p hp id hduring => ?_
      recorded := fun p hp x hx hduring => ?_
      fits := fun p hp hcash x hx hopen => h.fits p hp hcash x (hopened x hx hopen) hopen
      current := fun p hp hcash x hx hopen => h.current p hp hcash x (hopened x hx hopen) hopen
      expected := fun x hx hclosed => ?_
      counted := fun x hx id hin => ?_ }
  · change x.id < (Table.modify CashSession.id sessionId _ s.sessions).length
    rw [hlength]
    rcases hrow x hx with rfl | hx
    · exact h.sessionsBelow session hmem
    · exact h.sessionsBelow x hx
  · rcases hrow x hx with rfl | hx
    · exact h.sessionsLive session hmem
    · exact h.sessionsLive x hx
  · exact h.oneOpen a (hopened a ha hopen) b (hopened b hb hopen') hopen hopen'
  · change id < (Table.modify CashSession.id sessionId _ s.sessions).length
    rw [hlength]
    exact h.during p hp id hduring
  · rcases hrow x hx with rfl | hx
    · exact h.recorded p hp session hmem hduring
    · exact h.recorded p hp x hx hduring
  · rcases hrow x hx with rfl | hx
    · refine ⟨congrArg (fun payments => some (total payments)) hcounted,
        fun p hp hcash hfor => ?_⟩
      change p.id ∈ (countedPayments now session s).map Payment.id
      rw [hcounted]
      refine List.mem_map_of_mem (List.mem_filter.mpr ⟨hp, ?_⟩)
      obtain ⟨horg, hrecorder⟩ := h.recorded p hp session hmem hfor
      obtain ⟨hlive, -⟩ := h.current p hp hcash session hmem hstatus hfor
      have hduring : p.during = some session.id := hfor
      simp [horg, hcash, hrecorder, hduring, Payment.live, hlive]
    · exact h.expected x hx hclosed
  · rcases hrow x hx with rfl | hx
    · obtain ⟨p, hp, rfl⟩ := List.mem_map.mp hin
      rw [hcounted] at hp
      obtain ⟨hp, hdue⟩ := List.mem_filter.mp hp
      simp only [Bool.and_eq_true, decide_eq_true_eq] at hdue
      exact ⟨p, hp, rfl, hdue.1.2⟩
    · exact h.counted x hx id hin

theorem Sound.step (h : Sound s) (timed : Nat × Call) (hfits : Fits s timed) :
    Sound (step s timed) := by
  obtain ⟨now, call⟩ := timed
  obtain ⟨hnow, hfits⟩ := hfits
  have htick : Sound (s.tick now) := h.tick hnow
  unfold Cash.step
  cases hcall : call.perform now (s.tick now) with
  | error failure => exact htick
  | ok s' =>
    change Sound s'
    cases call with
    | start organizationId agentUserId notes => exact htick.start hfits hcall
    | record userId payment =>
      obtain rfl := Except.ok.inj hcall
      exact htick.record hfits
    | delete paymentId organizationId => exact htick.delete hfits hcall
    | finish sessionId organizationId countedTotal => exact htick.finish (le_refl _) hcall

theorem sound_nil (clock : Nat) : Sound ⟨[], [], clock⟩ := by
  constructor <;> simp [Table.Keyed]

/-- Runs of calls that fit are reconciled. -/
theorem reconciled_of_fits (clock : Nat) (calls : List (Nat × Call))
    (hfits : Transition.Along step Fits ⟨[], [], clock⟩ calls) :
    Reconciled (Transition.run step ⟨[], [], clock⟩ calls) :=
  (Transition.run_invariant (fun _ timed h hfits => h.step timed hfits) (sound_nil clock)
    hfits).reconciled

/-- A payment at nine, dated that day, in a session of the evening before. -/
def nightShift : List (Nat × Call) :=
  [(72000, .start 1 7 none),
   (118800, .record 7 { groupPayment 118800 1 25000 (some .cash) with attributed := true }),
   (126000, .finish 0 1 25000)]

/-- The payment of the second day is counted. -/
theorem reconciled_nightShift :
    Reconciled (Transition.run step ⟨[], [], 0⟩ nightShift) := by
  refine reconciled_of_fits 0 nightShift ⟨⟨by decide, ?_⟩, ⟨by decide, ?_⟩, ⟨by decide, trivial⟩,
    trivial⟩
  · exact fun p hp => nomatch hp
  · intro _ organizationId horg session hfound
    obtain rfl := Option.some.inj horg
    obtain rfl := Option.some.inj hfound
    decide

/-- A session from ten to noon, with a cash payment at eleven. -/
def dayShift : List (Nat × Call) :=
  [(36000, .start 1 7 none),
   (39600, .record 7 (postPayment 39600 1 10000 (some .cash) none)),
   (43200, .finish 0 1 10000)]

theorem not_reconciled_dayShift :
    ¬ Reconciled (Transition.run step ⟨[], [], 0⟩ dayShift) := by
  intro h
  have hclosed := (h _ (List.mem_singleton.mpr rfl) (by decide)).1
  exact absurd hclosed (by decide)

end FireIsp.Cash
