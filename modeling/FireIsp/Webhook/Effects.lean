import FireIsp.Webhook.Delivery

/-!
# What one statement does to a delivery

A delivery is claimed, settled, given up or reset, and an attempt is recorded.  What is counted of
it rises by one with every claim, and a delivery at its end is not claimed.
-/

namespace FireIsp.Webhook

open Txn

/-- Statements that only a redelivery sends. -/
def Stmt.redelivers : Stmt → Bool
  | .buryReserved => true
  | .buryRedelivery => true
  | .reset => true
  | _ => false

/-- What a statement at a time and tick does to the tables. -/
inductive Effect (now tick : Nat) (db : Db) : Stmt → Db → Prop
  | kept (op) : Effect now tick db op db
  | claimed (organizationId epoch) (h : db.delivery.claimable db.webhook epoch now = true) :
      Effect now tick db (.claim organizationId epoch)
        { db with delivery := db.delivery.claim db.webhook tick now }
  /-- The outcome of the current claim is written. -/
  | settled (token outcome) (hprocessing : db.delivery.status = .processing)
      (htoken : db.delivery.claimToken = some token) :
      Effect now tick db (.settle token outcome)
        { db with delivery := db.delivery.settle outcome now }
  | posted (token) :
      Effect now tick db (.post token) { db with attempts := db.attempts ++ [token] }
  | buried (op row) (hop : op.harmless = true)
      (hrow : row = db.delivery.bury ∨
        row = { db.delivery with status := .deadLetter, nextRetryAt := none })
      (h : op.redelivers = true ∨ db.delivery.waiting = true ∨ db.delivery.stale now = true) :
      Effect now tick db op { db with delivery := row }
  | reset (h : db.delivery.status = .deadLetter) :
      Effect now tick db .reset { db with delivery := db.delivery.reset now }

variable {clock : Nat → Nat} {now tick : Nat} {db db' : Db} {op : Stmt}

theorem effect_buryIf {condition : Bool} (hop : op.harmless = true)
    (h : condition = true → db.delivery.waiting = true ∨ db.delivery.stale now = true) :
    Effect now tick db op ((engine clock).visible db (db.buryIf condition)) := by
  unfold Db.buryIf
  split_ifs with hcondition
  · exact .buried op _ hop (Or.inl rfl) (Or.inr (h hcondition))
  · exact .kept op

theorem exec_effect (clock : Nat → Nat) (tick : Nat) (db : Db) (op : Stmt) :
    Effect (clock tick) tick db op
      ((engine clock).visible db ((engine clock).exec op tick db db).2) := by
  have hor : ∀ {waiting stale : Bool}, (waiting || stale) = true → waiting = true ∨ stale = true :=
    fun h => by simpa using h
  cases op with
  | organizationState => exact .kept _
  | buryInactive organizationId =>
    refine effect_buryIf rfl fun h => ?_
    rw [Bool.and_eq_true] at h
    exact hor h.2
  | claim organizationId epoch =>
    simp only [engine, exec]
    split_ifs with hclaim
    · exact .claimed organizationId epoch hclaim.2
    · exact .kept _
  | buryOtherEpoch organizationId epoch =>
    refine effect_buryIf rfl fun h => ?_
    rw [Bool.and_eq_true] at h
    exact hor h.2
  | selectClaimed organizationId token => exact .kept _
  | settle token outcome =>
    simp only [engine, exec]
    split_ifs with hmatch
    · exact .settled token outcome hmatch.1 hmatch.2
    · exact .kept _
  | post token => exact .posted token
  | sweepRevoked organizationId excluded =>
    refine effect_buryIf rfl fun h => ?_
    simp only [Delivery.revoked, Bool.and_eq_true, Bool.or_eq_true] at h
    rcases h.2 with hwaiting | hstale
    · exact Or.inl hwaiting.2
    · exact Or.inr hstale.1
  | sweepExhausted organizationId excluded =>
    refine effect_buryIf rfl fun h => ?_
    rw [Bool.and_eq_true, Bool.and_eq_true] at h
    exact Or.inr h.1.2
  | sweepRedirected organizationId excluded =>
    refine effect_buryIf rfl fun h => ?_
    rw [Bool.and_eq_true, Bool.and_eq_true] at h
    exact Or.inl h.1.2
  | selectDue organizationId excluded => exact .kept _
  | selectDeadLetter organizationId => exact .kept _
  | buryReserved =>
    simp only [engine, exec]
    split_ifs with hstatus
    · exact .buried _ _ rfl (Or.inr rfl) (Or.inl rfl)
    · exact .kept _
  | buryRedelivery => exact .buried _ _ rfl (Or.inl rfl) (Or.inl rfl)
  | reset =>
    simp only [engine, exec]
    split_ifs with hstatus
    · exact .reset hstatus
    · exact .kept _

namespace Effect

theorem webhook (h : Effect now tick db op db') : db'.webhook = db.webhook := by
  cases h <;> rfl

theorem attempt_of_token (h : Effect now tick db op db') {token : Nat} (htoken : token < tick)
    (hclaim : db'.delivery.claimToken = some token) :
    db.delivery.claimToken = some token ∧
      db'.delivery.attemptNumber = db.delivery.attemptNumber := by
  cases h with
  | kept => exact ⟨hclaim, rfl⟩
  | claimed organizationId epoch h =>
    obtain rfl : tick = token := Option.some.inj hclaim
    exact absurd htoken (Nat.lt_irrefl _)
  | settled token' outcome hprocessing hcurrent => cases hclaim
  | posted token' => exact ⟨hclaim, rfl⟩
  | reset h => cases hclaim
  | buried op row hop hrow h =>
    rcases hrow with rfl | rfl
    · cases hclaim
    · exact ⟨hclaim, rfl⟩

theorem token_lt (h : Effect now tick db op db')
    (hlt : ∀ token, db.delivery.claimToken = some token → token < tick) (token : Nat)
    (hclaim : db'.delivery.claimToken = some token) : token < tick + 1 := by
  by_contra hnot
  cases h with
  | kept => exact hnot (Nat.lt_succ_of_lt (hlt token hclaim))
  | claimed organizationId epoch h =>
    obtain rfl : tick = token := Option.some.inj hclaim
    exact hnot (Nat.lt_succ_self _)
  | settled token' outcome hprocessing hcurrent => cases hclaim
  | posted token' => exact hnot (Nat.lt_succ_of_lt (hlt token hclaim))
  | reset h => cases hclaim
  | buried op row hop hrow h =>
    rcases hrow with rfl | rfl
    · cases hclaim
    · exact hnot (Nat.lt_succ_of_lt (hlt token hclaim))

theorem attempts (h : Effect now tick db op db') :
    db'.attempts = db.attempts ∨
      ∃ token, op = .post token ∧ db'.attempts = db.attempts ++ [token] := by
  cases h with
  | posted token => exact Or.inr ⟨token, rfl, rfl⟩
  | kept => exact Or.inl rfl
  | claimed organizationId epoch h => exact Or.inl rfl
  | settled token outcome hprocessing hcurrent => exact Or.inl rfl
  | buried op row hop hrow h => exact Or.inl rfl
  | reset h => exact Or.inl rfl

end Effect

def Delivery.load (row : Delivery) : Nat := row.attemptNumber + row.recoveryCount

/-- Counters of the row. -/
structure Sound (db : Db) : Prop where
  attempt_le : db.delivery.attemptNumber ≤ db.webhook.maxAttempts
  recovery_le : db.delivery.recoveryCount ≤ 1
  waiting : db.delivery.waiting = true → db.delivery.attemptNumber < db.webhook.maxAttempts

theorem Sound.load_le (h : Sound db) : db.delivery.load ≤ db.webhook.maxAttempts + 1 :=
  Nat.add_le_add h.attempt_le h.recovery_le

theorem claimable_cases {row : Delivery} {webhook : Registration} {epoch : Nat}
    (h : row.claimable webhook epoch now = true) :
    row.waiting = true ∨ row.status = .processing ∧
      (row.attemptNumber < webhook.maxAttempts ∨ row.recoveryCount < 1) := by
  simp only [Delivery.claimable, Delivery.stale, Delivery.waiting, Bool.and_eq_true,
    Bool.or_eq_true, decide_eq_true_eq] at h ⊢
  rcases h.2 with (hpending | hretrying) | hstale
  · exact Or.inl (Or.inl hpending)
  · exact Or.inl (Or.inr hretrying.1)
  · exact Or.inr ⟨hstale.1.1, hstale.2⟩

theorem waiting_not_processing {row : Delivery} (h : row.waiting = true) :
    row.status ≠ .processing := by
  intro hprocessing
  simp [Delivery.waiting, hprocessing] at h

theorem Sound.claim (h : Sound db) {epoch : Nat}
    (hclaim : db.delivery.claimable db.webhook epoch now = true) :
    Sound { db with delivery := db.delivery.claim db.webhook tick now } ∧
      (db.delivery.claim db.webhook tick now).load = db.delivery.load + 1 := by
  have hattempt := h.attempt_le
  have hrecovery := h.recovery_le
  have hcases := claimable_cases hclaim
  have hcount : (db.delivery.claim db.webhook tick now).attemptNumber ≤ db.webhook.maxAttempts ∧
      (db.delivery.claim db.webhook tick now).recoveryCount ≤ 1 ∧
      (db.delivery.claim db.webhook tick now).load = db.delivery.load + 1 := by
    simp only [Delivery.claim, Delivery.load]
    rcases hcases with hwaiting | ⟨hprocessing, hleft⟩
    · have hlt := h.waiting hwaiting
      simp only [waiting_not_processing hwaiting, false_and, if_false, hlt, if_true]
      omega
    · by_cases hlt : db.delivery.attemptNumber < db.webhook.maxAttempts
      · simp only [hlt, Nat.not_le_of_lt hlt, and_false, if_false, if_true]
        omega
      · simp only [hlt, hprocessing, Nat.le_of_not_lt hlt, and_self, if_false, if_true]
        omega
  refine ⟨⟨hcount.1, hcount.2.1, fun hwaiting => ?_⟩, hcount.2.2⟩
  exact absurd rfl (waiting_not_processing hwaiting)

theorem Sound.effect (h : Sound db) (heffect : Effect now tick db op db')
    (hsettle : ∀ token outcome, op = .settle token outcome →
      db.delivery.claimToken = some token →
      allowed db.delivery.attemptNumber db.webhook.maxAttempts outcome = true) : Sound db' := by
  cases heffect with
  | kept => exact h
  | claimed organizationId epoch hclaim => exact (h.claim hclaim).1
  | posted token => exact ⟨h.attempt_le, h.recovery_le, h.waiting⟩
  | reset hdead =>
    exact ⟨Nat.zero_le _, Nat.zero_le _, fun _ => Nat.succ_pos _⟩
  | buried op row hop hrow hcondition =>
    rcases hrow with rfl | rfl
    · exact ⟨h.attempt_le, h.recovery_le, fun hwaiting => by cases hwaiting⟩
    · exact ⟨h.attempt_le, h.recovery_le, fun hwaiting => by cases hwaiting⟩
  | settled token outcome hprocessing htoken =>
    have hallowed := hsettle token outcome rfl htoken
    refine ⟨h.attempt_le, h.recovery_le, fun hwaiting => ?_⟩
    simp only [allowed, Delivery.settle, Delivery.waiting, decide_eq_true_eq] at hallowed hwaiting
    rcases hallowed with hsuccess | hdead | hretry
    · simp [hsuccess] at hwaiting
    · simp [hdead] at hwaiting
    · exact hretry.2

/-- The row is redelivered by hand. -/
def Redelivered (db db' : Db) : Prop :=
  db.delivery.status = .deadLetter ∧ db'.delivery.status = .retrying

instance (db db' : Db) : Decidable (Redelivered db db') :=
  inferInstanceAs (Decidable (_ ∧ _))

def claimTaken (tick : Nat) (db' : Db) : List Nat :=
  if db'.delivery.claimToken = some tick then [tick] else []

theorem mem_claimTaken (h : db'.delivery.claimToken = some tick) : tick ∈ claimTaken tick db' := by
  rw [claimTaken, if_pos h]
  exact List.mem_singleton_self tick

theorem eq_of_mem_claimTaken {token : Nat} (h : token ∈ claimTaken tick db') : token = tick := by
  unfold claimTaken at h
  split_ifs at h
  · exact List.mem_singleton.mp h
  · cases h

theorem claimTaken_of_lt (hlt : ∀ token, db'.delivery.claimToken = some token → token < tick) :
    claimTaken tick db' = [] :=
  if_neg fun h => Nat.lt_irrefl tick (hlt tick h)

theorem Effect.load (heffect : Effect now tick db op db') (h : Sound db)
    (hlt : ∀ token, db.delivery.claimToken = some token → token < tick)
    (hkept : ¬Redelivered db db') :
    db'.delivery.load = db.delivery.load + (claimTaken tick db').length := by
  cases heffect with
  | kept =>
    rw [claimTaken_of_lt hlt]
    rfl
  | claimed organizationId epoch hclaim =>
    have hnew : claimTaken tick { db with delivery := db.delivery.claim db.webhook tick now } =
        [tick] := if_pos rfl
    rw [hnew]
    exact (h.claim hclaim).2
  | posted token =>
    have hnone : claimTaken tick { db with attempts := db.attempts ++ [token] } = [] :=
      claimTaken_of_lt hlt
    rw [hnone]
    rfl
  | settled token outcome hprocessing htoken =>
    rw [claimTaken_of_lt fun token' htoken' => by cases htoken']
    rfl
  | reset hdead => exact absurd ⟨hdead, rfl⟩ hkept
  | buried op row hop hrow hcondition =>
    rcases hrow with rfl | rfl
    · rw [claimTaken_of_lt fun token' htoken' => by cases htoken']
      rfl
    · have hnone : claimTaken tick { db with delivery :=
          { db.delivery with status := .deadLetter, nextRetryAt := none } } = [] :=
        claimTaken_of_lt hlt
      rw [hnone]
      rfl

def Delivery.ended (row : Delivery) : Prop := row.status = .success ∨ row.status = .deadLetter

instance (row : Delivery) : Decidable row.ended := inferInstanceAs (Decidable (_ ∨ _))

theorem Effect.ended (heffect : Effect now tick db op db') (h : db.delivery.ended)
    (hlt : ∀ token, db.delivery.claimToken = some token → token < tick)
    (hkept : ¬Redelivered db db') :
    db'.delivery.ended ∧ claimTaken tick db' = [] := by
  have hopen : db.delivery.status ≠ .processing ∧ db.delivery.waiting = false := by
    rcases h with h | h <;> simp [h, Delivery.waiting]
  cases heffect with
  | kept => exact ⟨h, claimTaken_of_lt hlt⟩
  | posted token => exact ⟨h, claimTaken_of_lt hlt⟩
  | settled token outcome hprocessing htoken => exact absurd hprocessing hopen.1
  | reset hdead => exact absurd ⟨hdead, rfl⟩ hkept
  | claimed organizationId epoch hclaim =>
    rcases claimable_cases hclaim with hwaiting | ⟨hprocessing, -⟩
    · rw [hopen.2] at hwaiting
      cases hwaiting
    · exact absurd hprocessing hopen.1
  | buried op row hop hrow hcondition =>
    rcases hrow with rfl | rfl
    · exact ⟨Or.inr rfl, claimTaken_of_lt fun token' htoken' => by cases htoken'⟩
    · exact ⟨Or.inr rfl, claimTaken_of_lt hlt⟩

end FireIsp.Webhook
