import FireIsp.Trap.Discipline

/-!
# Trap forwarding claims are exclusive and bounded

Every claim of a delivery counts one attempt, or one recovery of the last one, so there are at most
`max_attempts + 1` of them, and a delivery at its end is not changed any more.
-/

namespace FireIsp.Trap

open Txn

def Delivery.load (row : Delivery) : Nat := row.attemptNumber + row.recoveryCount

/-- `chk_stfd_attempts`. -/
structure Delivery.Sound (row : Delivery) : Prop where
  attempt_le : row.attemptNumber ≤ row.maxAttempts
  recovery_le : row.recoveryCount ≤ maxAmbiguousRecoveries

variable {clock : Nat → Nat} {now tick : Nat} {db : Db} {op : Stmt} {row : Delivery}
  {sends : List Nat}

theorem claim_eq (row : Delivery) (uuid now : Nat) :
    row.claim uuid now = { row with
      claimToken := some ⟨row.mark, uuid⟩
      recoveryCount := row.recoveryCount + if row.mark = .R then 1 else 0
      attemptNumber := row.attemptNumber + if row.mark = .F ∨ row.mark = .S then 1 else 0
      status := if row.mark = .X then .deadLetter else .processing
      lockedAt := if row.mark = .X then none else some now
      nextAttemptAt := none } := by
  simp only [Delivery.claim, Delivery.left, Option.map_some, Option.some.injEq]

theorem mark_cases (row : Delivery) :
    row.mark = .F ∧ row.status ≠ .processing ∨
      row.mark = .S ∧ row.status = .processing ∧ row.attemptNumber < row.maxAttempts ∨
      row.mark = .R ∧ row.status = .processing ∧ row.recoveryCount < maxAmbiguousRecoveries ∨
      row.mark = .X ∧ row.status = .processing ∧ row.maxAttempts ≤ row.attemptNumber ∧
        maxAmbiguousRecoveries ≤ row.recoveryCount := by
  unfold Delivery.mark
  split_ifs with hexhausted hlast hprocessing
  · exact Or.inr (Or.inr (Or.inr ⟨rfl, hexhausted⟩))
  · refine Or.inr (Or.inr (Or.inl ⟨rfl, hlast.1, Nat.lt_of_not_le fun hle => ?_⟩))
    exact hexhausted ⟨hlast.1, hlast.2, hle⟩
  · refine Or.inr (Or.inl ⟨rfl, hprocessing, Nat.lt_of_not_le fun hle => ?_⟩)
    exact hlast ⟨hprocessing, hle⟩
  · exact Or.inl ⟨rfl, hprocessing⟩

theorem ready_cases (h : row.ready now = true) :
    row.waiting = true ∧ row.attemptNumber < row.maxAttempts ∨ row.status = .processing := by
  simp only [Delivery.ready, Delivery.stale, Bool.and_eq_true, Bool.or_eq_true,
    decide_eq_true_eq] at h
  rcases h with hwaiting | hstale
  · exact Or.inl hwaiting.1
  · exact Or.inr hstale.1

theorem Delivery.Sound.claim (h : row.Sound) (hready : row.ready now = true) (uuid : Nat) :
    (row.claim uuid now).Sound ∧
      (row.claim uuid now).load =
        row.load + if (row.claim uuid now).holder = some uuid then 1 else 0 := by
  obtain ⟨hattempt, hrecovery⟩ := h
  rcases mark_cases row with ⟨hmark, hstatus⟩ | ⟨hmark, hstatus, hlt⟩ | ⟨hmark, hstatus, hlt⟩ |
    ⟨hmark, hstatus, hle⟩
  · have hlt : row.attemptNumber < row.maxAttempts :=
      (ready_cases hready).elim (fun hwaiting => hwaiting.2) fun hprocessing =>
        absurd hprocessing hstatus
    constructor
    · constructor <;> simp [claim_eq, hmark] <;> omega
    · simp [claim_eq, hmark, Delivery.load, Delivery.holder]
      omega
  · constructor
    · constructor <;> simp [claim_eq, hmark] <;> omega
    · simp [claim_eq, hmark, Delivery.load, Delivery.holder]
      omega
  · constructor
    · constructor <;> simp [claim_eq, hmark] <;> omega
    · simp [claim_eq, hmark, Delivery.load, Delivery.holder]
      omega
  · constructor
    · constructor <;> simp [claim_eq, hmark] <;> omega
    · simp [claim_eq, hmark, Delivery.load, Delivery.holder]

structure Counts (row row' : Delivery) (claims : Nat) : Prop where
  sound : row'.Sound
  load : row'.load = row.load + claims
  maxAttempts : row'.maxAttempts = row.maxAttempts

def Delivery.ended (row : Delivery) : Prop :=
  row.status = .success ∨ row.status = .deadLetter ∨ row.status = .cancelled

instance (row : Delivery) : Decidable row.ended := inferInstanceAs (Decidable (_ ∨ _ ∨ _))

/-- What one step may do to the row; `holds` are the claims of its session. -/
inductive Change (holds : Nat → Prop) (now tick : Nat) (row : Delivery) : Delivery → Prop
  | kept : Change holds now tick row row
  | claimed (hready : row.ready now = true) (hrevoked : row.revokedAt = none) :
      Change holds now tick row (row.claim tick now)
  /-- The session that holds the row writes its outcome. -/
  | settled (token : Token) (outcome : Outcome) (hprocessing : row.status = .processing)
      (htoken : row.claimToken = some token) (hholds : holds token.uuid) :
      Change holds now tick row (row.settle outcome now)
  | cancelled (hopen : row.isOpen now = true) : Change holds now tick row row.cancel
  | revoked (hprocessing : row.status = .processing) :
      Change holds now tick row (row.revoke now)

/-- The ways of a status. -/
inductive Moves : Status → Status → Prop
  | stays (status : Status) : Moves status status
  | claimed (status : Status)
      (h : status = .pending ∨ status = .retrying ∨ status = .processing) :
      Moves status .processing
  | buried : Moves .processing .deadLetter
  | settled (verdict : Verdict) : Moves .processing verdict.status
  | cancelled (status : Status)
      (h : status = .pending ∨ status = .retrying ∨ status = .processing) :
      Moves status .cancelled

theorem status_of_isOpen (h : row.isOpen now = true) :
    row.status = .pending ∨ row.status = .retrying ∨ row.status = .processing := by
  simp only [Delivery.isOpen, Delivery.waiting, Delivery.stale, Bool.or_eq_true,
    Bool.and_eq_true, decide_eq_true_eq] at h
  rcases h with (hpending | hretrying) | hstale
  · exact Or.inl hpending
  · exact Or.inr (Or.inl hretrying)
  · exact Or.inr (Or.inr hstale.1)

variable {holds : Nat → Prop} {row' : Delivery}

theorem Change.moves (h : Change holds now tick row row') : Moves row.status row'.status := by
  cases h with
  | kept => exact .stays _
  | revoked hprocessing => exact .stays _
  | cancelled hopen => exact .cancelled _ (status_of_isOpen hopen)
  | settled token outcome hprocessing htoken hholds =>
    rw [hprocessing]
    exact .settled outcome.verdict
  | claimed hready hrevoked =>
    have hopen : row.isOpen now = true := by
      simp only [Delivery.ready, Delivery.isOpen, Bool.or_eq_true, Bool.and_eq_true] at hready ⊢
      exact hready.imp_left fun hwaiting => hwaiting.1.1
    rw [claim_eq]
    dsimp only
    split_ifs with hmark
    · rcases mark_cases row with h | h | h | h
      · rw [hmark] at h
        cases h.1
      · rw [hmark] at h
        cases h.1
      · rw [hmark] at h
        cases h.1
      · rw [h.2.1]
        exact .buried
    · exact .claimed _ (status_of_isOpen hopen)

theorem Change.counts (h : Change holds now tick row row') (hsound : row.Sound)
    (hfresh : row.holder ≠ some tick) :
    Counts row row' (if row'.holder = some tick then 1 else 0) := by
  cases h with
  | kept =>
    rw [if_neg hfresh]
    exact ⟨hsound, rfl, rfl⟩
  | revoked hprocessing =>
    have hsame : (row.revoke now).holder ≠ some tick := hfresh
    rw [if_neg hsame]
    exact ⟨⟨hsound.attempt_le, hsound.recovery_le⟩, rfl, rfl⟩
  | cancelled hopen =>
    have hnone : row.cancel.holder = none := rfl
    rw [hnone, if_neg nofun]
    exact ⟨⟨hsound.attempt_le, hsound.recovery_le⟩, rfl, rfl⟩
  | settled token outcome hprocessing htoken hholds =>
    have hnone : (row.settle outcome now).holder = none := by
      unfold Delivery.holder
      split_ifs <;> rfl
    rw [hnone, if_neg nofun]
    exact ⟨⟨hsound.attempt_le, hsound.recovery_le⟩, rfl, rfl⟩
  | claimed hready hrevoked =>
    obtain ⟨hsound', hload⟩ := hsound.claim hready tick
    exact ⟨hsound', hload, by rw [claim_eq]⟩

theorem Change.ended (h : Change holds now tick row row') (hended : row.ended) : row' = row := by
  have hstatus : row.status ≠ .processing ∧ row.waiting = false := by
    rcases hended with h | h | h <;> simp [h, Delivery.waiting]
  cases h with
  | kept => rfl
  | settled token outcome hprocessing htoken hholds => exact absurd hprocessing hstatus.1
  | revoked hprocessing => exact absurd hprocessing hstatus.1
  | cancelled hopen => simp [Delivery.isOpen, Delivery.stale, hstatus] at hopen
  | claimed hready hrevoked =>
    rcases ready_cases hready with hwaiting | hprocessing
    · rw [hstatus.2] at hwaiting
      cases hwaiting.1
    · exact absurd hprocessing hstatus.1

variable {past claims : List Nat} {i : Nat}

theorem change_of_cause {db' : Db}
    (h : Lease.Cause lease (engine clock) kind past claims i tick db db') :
    Change (fun uuid => past[uuid]? = some i ∧ uuid ∈ claims) (clock tick) tick db.delivery
      db'.delivery := by
  cases h with
  | kept _ hrow =>
    change db'.delivery = db.delivery at hrow
    rw [hrow]
    exact .kept
  | opened op hkind hfree =>
    have heffect := exec_effect clock tick db op
    generalize ((engine clock).visible db ((engine clock).exec op tick db db).2).sends = sends
      at heffect
    generalize ((engine clock).visible db ((engine clock).exec op tick db db).2).delivery = row
      at heffect
    cases heffect with
    | kept => exact .kept
    | sent uuid => exact .kept
    | claimed organizationId hready hrevoked => exact .claimed hready hrevoked
    | cancelled _ _ hopen => exact .cancelled hopen
    | revoked _ _ hprocessing => exact .revoked hprocessing
    | settled token outcome hprocessing htoken =>
      rcases hkind with hkind | ⟨granted, hkind⟩ <;> cases hkind
  | settled op token hkind hholder hclaim hown =>
    have heffect := exec_effect clock tick db op
    generalize ((engine clock).visible db ((engine clock).exec op tick db db).2).sends = sends
      at heffect
    generalize ((engine clock).visible db ((engine clock).exec op tick db db).2).delivery = row
      at heffect
    cases heffect with
    | kept => exact .kept
    | sent uuid => exact .kept
    | claimed organizationId hready hrevoked => cases hkind
    | cancelled _ hkind' hopen => exact .cancelled hopen
    | revoked _ hkind' hprocessing => exact .revoked hprocessing
    | settled current outcome hprocessing htoken =>
      cases hkind
      exact .settled current outcome hprocessing htoken ⟨hown, hclaim⟩

variable {s : System}

theorem run_counts (clock : Nat → Nat) (h : Lease.Reached lease kind past claims s)
    (hsound : s.db.delivery.Sound) (labels : List (Label Query.Answer)) :
    Counts s.db.delivery (Transition.run (Sys.step (engine clock)) s labels).db.delivery
      (Lease.claimed lease (engine clock) s labels).length := by
  induction labels generalizing past claims s with
  | nil => exact ⟨hsound, rfl, rfl⟩
  | cons l labels ih =>
    obtain ⟨hstep, hcause⟩ := h.step (lease_lawful clock) l
    obtain ⟨ghosts, hinv, -⟩ := h
    have hfresh : s.db.delivery.holder ≠ some s.tick := fun hnew =>
      Nat.lt_irrefl _ (hinv.claims_lt _ (hinv.holder _ hnew))
    have hcounts := (change_of_cause hcause).counts hsound hfresh
    obtain ⟨hsound', hload, hmax⟩ := ih hstep hcounts.sound
    refine ⟨hsound', ?_, hmax.trans hcounts.maxAttempts⟩
    change _ = s.db.delivery.load + (lease.taken s.tick (s.step (engine clock) l).db ++
      Lease.claimed lease (engine clock) (s.step (engine clock) l) labels).length
    rw [Transition.run_cons, hload, hcounts.load, List.length_append, Nat.add_assoc]
    unfold Lease.taken
    change _ = _ + ((if (s.step (engine clock) l).db.delivery.holder = some s.tick then [s.tick]
      else []).length + _)
    split_ifs <;> rfl

theorem run_ended (clock : Nat → Nat) (h : Lease.Reached lease kind past claims s)
    (hended : s.db.delivery.ended) (labels : List (Label Query.Answer)) :
    (Transition.run (Sys.step (engine clock)) s labels).db.delivery = s.db.delivery ∧
      Lease.claimed lease (engine clock) s labels = [] := by
  induction labels generalizing past claims s with
  | nil => exact ⟨rfl, rfl⟩
  | cons l labels ih =>
    obtain ⟨hstep, hcause⟩ := h.step (lease_lawful clock) l
    obtain ⟨ghosts, hinv, -⟩ := h
    have hsame := (change_of_cause hcause).ended hended
    have hfresh : (s.step (engine clock) l).db.delivery.holder ≠ some s.tick := by
      rw [hsame]
      exact fun hnew => Nat.lt_irrefl _ (hinv.claims_lt _ (hinv.holder _ hnew))
    obtain ⟨hrun, hnone⟩ := ih hstep (hsame ▸ hended)
    refine ⟨hrun.trans hsame, ?_⟩
    rw [Lease.claimed, hnone, List.append_nil]
    exact Lease.taken_eq_nil hfresh

/-- Calls that have not started, on a delivery that was just queued. -/
structure Ready (calls : Nat → Call) (s : System) : Prop where
  tick : s.tick = 0
  sessions : ∀ i, s.sessions i = ⟨some (calls i).run, none⟩
  pending : s.db.delivery.status = .pending
  attempt : s.db.delivery.attemptNumber = 0
  recovery : s.db.delivery.recoveryCount = 0
  unclaimed : s.db.delivery.claimToken = none
  sends : s.db.sends = []

variable {calls : Nat → Call}

theorem Ready.reached (h : Ready calls s) : Lease.Reached lease kind [] [] s := by
  refine .start h.tick ?_ h.sends fun i => ⟨_, h.sessions i, keeps_run (calls i)⟩
  change s.db.delivery.holder = none
  rw [Delivery.holder, h.unclaimed]
  exact ite_self _

theorem Ready.sound (h : Ready calls s) : s.db.delivery.Sound := by
  constructor
  · rw [h.attempt]
    exact Nat.zero_le _
  · rw [h.recovery]
    exact Nat.zero_le _

/-- However calls go, sends are of claims, at most `max_attempts + 1`, and an end is final. -/
theorem forwarding_bounded (clock : Nat → Nat) {calls : Nat → Call} {s : System}
    (h : Ready calls s) (first labels : List (Label Query.Answer)) :
    let s₁ := Transition.run (Sys.step (engine clock)) s first
    let s₂ := Transition.run (Sys.step (engine clock)) s₁ labels
    let claims := Lease.claimed lease (engine clock) s first
    (∀ l : Label Query.Answer,
      Moves s₁.db.delivery.status (s₁.step (engine clock) l).db.delivery.status ∧
      Change (fun uuid => (first.map Label.session)[uuid]? = some l.session ∧ uuid ∈ claims)
        (clock s₁.tick) s₁.tick s₁.db.delivery (s₁.step (engine clock) l).db.delivery) ∧
    (∀ uuid ∈ claims, s₁.db.delivery.holder ≠ some uuid → ∀ l : Label Query.Answer,
      (first.map Label.session)[uuid]? = some l.session →
      (s₁.step (engine clock) l).db.delivery = s₁.db.delivery) ∧
    s₁.db.sends.Nodup ∧ (∀ uuid ∈ s₁.db.sends, uuid ∈ claims) ∧
    s₁.db.sends.length ≤ s.db.delivery.maxAttempts + 1 ∧
    (s₁.db.delivery.ended → s₂.db.delivery = s₁.db.delivery ∧
      Lease.claimed lease (engine clock) s₁ labels = []) := by
  intro s₁ s₂ claims
  have h₁ : Lease.Reached lease kind (first.map Label.session) claims s₁ :=
    h.reached.run (lease_lawful clock) first
  have hchange := fun l => change_of_cause (h₁.step (lease_lawful clock) l).2
  have hcounts := run_counts clock h.reached h.sound first
  have hsends : s₁.db.sends.length ≤ claims.length := h₁.acts_le
  have hload : claims.length = s₁.db.delivery.load := by
    have hstart : s.db.delivery.load = 0 := by rw [Delivery.load, h.attempt, h.recovery]
    have hcount := hcounts.load
    rw [hstart, Nat.zero_add] at hcount
    exact hcount.symm
  have hbound : s₁.db.delivery.load ≤ s.db.delivery.maxAttempts + 1 := by
    rw [← hcounts.maxAttempts]
    exact Nat.add_le_add hcounts.sound.attempt_le hcounts.sound.recovery_le
  obtain ⟨ghosts, hinv, -⟩ := id h₁
  refine ⟨fun l => ⟨(hchange l).moves, hchange l⟩, fun uuid hclaim hlost l hown => ?_, hinv.nodup,
    hinv.acts, Nat.le_trans (Nat.le_trans hsends (Nat.le_of_eq hload)) hbound, fun hended => run_ended clock h₁ hended labels⟩
  exact h₁.superseded (lease_lawful clock) hclaim hlost hown

/-- A delivery just queued. -/
def sampleDelivery : Delivery where
  organizationId := 1
  organizationEpoch := 0
  ruleId := some 1
  target := .url "https://example.test/traps"
  source := some (1, "192.0.2.1")
  isTest := false
  status := .pending
  attemptNumber := 0
  maxAttempts := 4
  recoveryCount := 0
  httpStatusCode := none
  responseTimeMs := none
  nextAttemptAt := none
  lockedAt := none
  claimToken := none
  revokedAt := none
  deliveredAt := none

def sampleRule : Rule where
  id := 1
  matchTrapType := none
  matchSourceIp := none
  matchOidPrefix := none
  forwardToUrl := some "https://example.test/traps"
  forwardToEmail := none
  forwardToWebhookId := none
  isActive := true
  reviewed := true
  deleted := false

/-- Workers on the delivery. -/
def sampleCalls : Nat → Call := fun _ => .attempt true true none

/-- The workers before their first step. -/
def sampleSystem : System where
  db := ⟨sampleDelivery, some sampleRule, none, some ⟨true, false, 0⟩, []⟩
  tick := 0
  held := []
  sessions := fun i => ⟨some (sampleCalls i).run, none⟩
  calls := []

theorem sampleSystem_ready : Ready sampleCalls sampleSystem :=
  ⟨rfl, fun _ => rfl, rfl, rfl, rfl, rfl, rfl⟩

/-- The destination answers 200. -/
def accepts : (query : Query) → query.Answer
  | .readiness => .ready
  | .raises => false
  | .testable _ => .bound
  | .lockSharedDeviceByIp .. => .bound
  | .prepares => true
  | .reply => .answered 200 30
  | .nextAttemptAt attempt => attempt
  | .queued => some true

/-- A worker that claims, stalls, and is overtaken by another one once its claim is stale. -/
def overtaken : List (Label Query.Answer) :=
  List.replicate 8 (.step 0 accepts) ++ List.replicate 11 (.step 1 accepts)

/-- The overtaken worker sends the trap after the delivery has succeeded. -/
theorem forwarding_bounded_sample :
    let s₁ := Transition.run (Sys.step (engine fun tick => 100 * tick)) sampleSystem overtaken
    let s₂ := s₁.step (engine fun tick => 100 * tick) (.step 0 accepts)
    s₁.db.delivery.status = .success ∧ s₁.db.sends = [10] ∧ s₂.db.sends = [10, 2] ∧
      Lease.claimed lease (engine fun tick => 100 * tick) s₁ [.step 0 accepts] = [] :=
  ⟨by decide +kernel, by decide +kernel, by decide +kernel,
    ((forwarding_bounded _ sampleSystem_ready overtaken [.step 0 accepts]).2.2.2.2.2
      (by decide +kernel)).2⟩

/-- A trap may be sent after its delivery has succeeded. -/
theorem sent_after_success :
    ¬∀ (clock : Nat → Nat) (calls : Nat → Call) (s : System)
      (first labels : List (Label Query.Answer)), Ready calls s →
      (Transition.run (Sys.step (engine clock)) s first).db.delivery.ended →
      (Transition.run (Sys.step (engine clock)) s (first ++ labels)).db.sends =
        (Transition.run (Sys.step (engine clock)) s first).db.sends := by
  intro h
  have heq := h (fun tick => 100 * tick) sampleCalls sampleSystem overtaken [.step 0 accepts]
    sampleSystem_ready (by decide +kernel)
  revert heq
  decide +kernel

end FireIsp.Trap
