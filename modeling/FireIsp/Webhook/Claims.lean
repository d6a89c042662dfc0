import Mathlib.Data.List.Nodup
import Mathlib.Data.List.Perm.Subperm
import FireIsp.Webhook.Effects

/-!
# Claims are exclusive and bounded

Workers, sweeps and redeliveries run on one delivery in any order, and are cut off anywhere.  An
outcome is written by the session that took the current claim, a claim makes at most one attempt,
and between two redeliveries there are at most two claims more than retries.
-/

namespace FireIsp.Webhook

open Txn Transition

variable {clock : Nat → Nat}

/-- What a session knows is true: its claim is its own, and its attempt is recorded first. -/
def Knows (worker : Bool) (past taken : List Nat) (db : Db) (i : Nat) : Know → Prop
  | .claimed token => worker = true ∧ past[token]? = some i ∧ token ∈ taken ∧ token ∉ db.attempts
  | .read token attempt maxAttempts posted =>
    worker = true ∧ past[token]? = some i ∧ token ∈ taken ∧
      (posted = false → token ∉ db.attempts) ∧
      (db.delivery.claimToken = some token →
        attempt = db.delivery.attemptNumber ∧ maxAttempts = db.webhook.maxAttempts)
  | .other => worker = false
  | _ => worker = true

/-- Invariant of the sessions: `past` are the sessions that took a step, `taken` the claims. -/
structure Guarded (calls : Nat → Call) (past taken : List Nat) (tick : Nat) (db : Db)
    (ghosts : Nat → Ghost Db Write Know) : Prop where
  ticks : tick = past.length
  sound : Sound db
  token_lt : ∀ token, db.delivery.claimToken = some token → token < tick
  nodup : db.attempts.Nodup
  attempts : ∀ token ∈ db.attempts, token ∈ taken
  taken_lt : ∀ token ∈ taken, token < tick
  tx : ∀ i, (ghosts i).tx = none
  knows : ∀ i know, (ghosts i).know = some know →
    Knows (calls i).isWorker past taken db i know

variable {worker : Bool} {db db' : Db} {i now : Nat} {know : Know} {op : Stmt}

theorem Knows.other {past taken new : List Nat} {j : Nat} (h : Knows worker past taken db j know)
    (heffect : Effect now past.length db op db')
    (hpost : ∀ token, op = .post token → past[token]? ≠ some j) :
    Knows worker (past ++ [i]) (taken ++ new) db' j know := by
  have hpast : ∀ {token}, past[token]? = some j → (past ++ [i])[token]? = some j := fun hown => by
    rw [List.getElem?_append_left (List.getElem?_eq_some_iff.mp hown).1]
    exact hown
  have hattempts : ∀ {token}, past[token]? = some j → token ∉ db.attempts →
      token ∉ db'.attempts := by
    intro token hown hnot hmem
    rcases heffect.attempts with heq | ⟨token', hop, heq⟩
    · exact hnot (heq ▸ hmem)
    · rw [heq, List.mem_append, List.mem_singleton] at hmem
      rcases hmem with hmem | rfl
      · exact hnot hmem
      · exact hpost _ hop hown
  cases know with
  | claimed token =>
    obtain ⟨hworker, hown, htaken, hnot⟩ := h
    exact ⟨hworker, hpast hown, List.mem_append_left _ htaken, hattempts hown hnot⟩
  | read token attempt maxAttempts posted =>
    obtain ⟨hworker, hown, htaken, hnot, hrow⟩ := h
    refine ⟨hworker, hpast hown, List.mem_append_left _ htaken,
      fun hposted => hattempts hown (hnot hposted), fun hclaim => ?_⟩
    obtain ⟨hclaim', hattempt⟩ :=
      heffect.attempt_of_token (List.getElem?_eq_some_iff.mp hown).1 hclaim
    rw [hattempt, heffect.webhook]
    exact hrow hclaim'
  | idle => exact h
  | inactive => exact h
  | seen epoch => exact h
  | missed epoch => exact h
  | finished => exact h
  | other => exact h

theorem Knows.settle {past taken : List Nat} {token : Nat} {outcome : Outcome} {learn : Bool → Know}
    (h : Knows worker past taken db i know) (hsent : sent know (.settle token outcome) = some learn)
    (htoken : db.delivery.claimToken = some token) :
    worker = true ∧ past[token]? = some i ∧ token ∈ taken ∧
      allowed db.delivery.attemptNumber db.webhook.maxAttempts outcome = true := by
  cases know with
  | read token' attempt maxAttempts posted =>
    have hsame : token = token' ∧ allowed attempt maxAttempts outcome = true := by
      cases posted <;> simp only [sent] at hsent <;> split_ifs at hsent with hallowed <;>
        exact hallowed
    obtain ⟨rfl, hallowed⟩ := hsame
    obtain ⟨hworker, hown, htaken, -, hrow⟩ := h
    obtain ⟨rfl, rfl⟩ := hrow htoken
    exact ⟨hworker, hown, htaken, hallowed⟩
  | idle => cases hsent
  | inactive => cases hsent
  | seen epoch => cases hsent
  | missed epoch => cases hsent
  | claimed token' => cases hsent
  | finished => cases hsent
  | other => cases hsent

theorem Knows.post {past taken : List Nat} {token : Nat} {learn : Unit → Know}
    (h : Knows worker past taken db i know) (hsent : sent know (.post token) = some learn) :
    past[token]? = some i ∧ token ∈ taken ∧ token ∉ db.attempts := by
  cases know with
  | read token' attempt maxAttempts posted =>
    cases posted with
    | true => cases hsent
    | false =>
      simp only [sent] at hsent
      split_ifs at hsent with hsame
      subst hsame
      obtain ⟨-, hown, htaken, hnot, -⟩ := h
      exact ⟨hown, htaken, hnot rfl⟩
  | idle => cases hsent
  | inactive => cases hsent
  | seen epoch => cases hsent
  | missed epoch => cases hsent
  | claimed token' => cases hsent
  | finished => cases hsent
  | other => cases hsent

theorem Knows.sent {past taken : List Nat} {learn : op.Res → Know}
    (h : Knows worker past taken db i know) (hsent : Webhook.sent know op = some learn)
    (hfresh : past.length ∉ db.attempts)
    (hdb : db' = (engine clock).visible db ((engine clock).exec op past.length db db).2) :
    Knows worker (past ++ [i]) (taken ++ claimTaken past.length db') db' i
      (learn ((engine clock).exec op past.length db db).1) := by
  cases know with
  | idle =>
    cases op with
    | organizationState =>
      obtain rfl := Option.some.inj hsent
      change Knows worker _ _ _ i (if db.webhook.organizationActive then _ else _)
      split_ifs
      · exact h
      · exact h
    | _ => cases hsent
  | inactive =>
    cases op with
    | buryInactive organizationId =>
      obtain rfl := Option.some.inj hsent
      exact h
    | _ => cases hsent
  | seen epoch =>
    cases op with
    | claim organizationId epoch' =>
      simp only [Webhook.sent] at hsent
      split_ifs at hsent with hepoch
      obtain rfl := Option.some.inj hsent
      simp only [engine, exec] at hdb ⊢
      split_ifs at hdb ⊢ with hclaim
      · subst hdb
        exact ⟨h, List.getElem?_concat_length, List.mem_append_right _ (mem_claimTaken rfl),
          hfresh⟩
      · exact h
    | _ => cases hsent
  | missed epoch =>
    cases op with
    | buryOtherEpoch organizationId epoch' =>
      simp only [Webhook.sent] at hsent
      split_ifs at hsent with hepoch
      obtain rfl := Option.some.inj hsent
      exact h
    | _ => cases hsent
  | claimed token =>
    cases op with
    | selectClaimed organizationId token' =>
      simp only [Webhook.sent] at hsent
      split_ifs at hsent with hsame
      obtain rfl := Option.some.inj hsent
      obtain rfl : db' = db := hdb
      obtain ⟨hworker, hown, htaken, hnot⟩ := h
      simp only [engine, exec]
      split_ifs with hrow
      · refine ⟨hworker, ?_, List.mem_append_left _ htaken, fun _ => hnot, fun _ => ⟨rfl, rfl⟩⟩
        rw [List.getElem?_append_left (List.getElem?_eq_some_iff.mp hown).1]
        exact hown
      · exact hworker
    | _ => cases hsent
  | read token attempt maxAttempts posted =>
    obtain ⟨hworker, hown, htaken, hnot, hrow⟩ := h
    have hpast : (past ++ [i])[token]? = some i := by
      rw [List.getElem?_append_left (List.getElem?_eq_some_iff.mp hown).1]
      exact hown
    cases op with
    | organizationState =>
      obtain rfl : (fun _ => Know.read token attempt maxAttempts posted) = learn := by
        cases posted <;> exact Option.some.inj hsent
      obtain rfl : db' = db := hdb
      exact ⟨hworker, hpast, List.mem_append_left _ htaken, hnot, hrow⟩
    | settle token' outcome =>
      have hover : learn = fun _ => .finished := by
        cases posted <;> simp only [Webhook.sent] at hsent <;> split_ifs at hsent <;>
          exact (Option.some.inj hsent).symm
      subst hover
      exact hworker
    | post token' =>
      cases posted with
      | true => cases hsent
      | false =>
        simp only [Webhook.sent] at hsent
        split_ifs at hsent with hsame
        obtain rfl := Option.some.inj hsent
        subst hdb
        exact ⟨hworker, hpast, List.mem_append_left _ htaken, (fun h => by cases h), hrow⟩
    | _ => cases posted <;> cases hsent
  | finished => cases hsent
  | other =>
    simp only [Webhook.sent] at hsent
    split_ifs at hsent with hharmless
    obtain rfl := Option.some.inj hsent
    exact h

/-- What one step may do to the row: claim, settle its claim, give up a stale row, or reset. -/
inductive Change (worker : Bool) (holds : Nat → Prop) (now tick : Nat) (webhook : Registration)
    (row : Delivery) : Delivery → Prop
  | kept : Change worker holds now tick webhook row row
  | claimed (epoch : Nat) (hworker : worker = true)
      (h : row.claimable webhook epoch now = true) :
      Change worker holds now tick webhook row (row.claim webhook tick now)
  /-- The outcome of the current claim is written. -/
  | settled (token : Nat) (outcome : Outcome) (hworker : worker = true)
      (hprocessing : row.status = .processing) (htoken : row.claimToken = some token)
      (hholds : holds token) :
      Change worker holds now tick webhook row (row.settle outcome now)
  | buried (row' : Delivery)
      (hrow : row' = row.bury ∨ row' = { row with status := .deadLetter, nextRetryAt := none })
      (h : worker = false ∨ row.waiting = true ∨ row.stale now = true) :
      Change worker holds now tick webhook row row'
  | reset (hworker : worker = false) (h : row.status = .deadLetter) :
      Change worker holds now tick webhook row (row.reset now)

theorem sent_redelivers {learn : op.Res → Know} (hsent : sent know op = some learn)
    (hop : op.redelivers = true) : know = .other := by
  cases know with
  | other => rfl
  | read token attempt maxAttempts posted => cases op <;> cases hop <;> cases posted <;> cases hsent
  | _ => cases op <;> cases hop <;> cases hsent

variable {tick : Nat}

theorem Knows.change {past taken : List Nat} {learn : op.Res → Know}
    (h : Knows worker past taken db i know) (hsent : Webhook.sent know op = some learn)
    (heffect : Effect now tick db op db') :
    Change worker (fun token => past[token]? = some i ∧ token ∈ taken) now tick db.webhook
      db.delivery db'.delivery := by
  have hother : op.redelivers = true → worker = false := by
    intro hop
    rw [sent_redelivers hsent hop] at h
    exact h
  cases heffect with
  | kept => exact .kept
  | posted token => exact .kept
  | claimed organizationId epoch hclaim =>
    refine .claimed epoch ?_ hclaim
    cases know with
    | seen epoch' => exact h
    | read token attempt maxAttempts posted => cases posted <;> cases hsent
    | _ => cases hsent
  | settled token outcome hprocessing htoken =>
    obtain ⟨hworker, hown, htaken, -⟩ := h.settle hsent htoken
    exact .settled token outcome hworker hprocessing htoken ⟨hown, htaken⟩
  | buried op row hop hrow hcondition =>
    exact .buried row hrow (hcondition.imp_left hother)
  | reset hdead => exact .reset (hother rfl) hdead

theorem Guarded.effect {calls : Nat → Call} {past taken : List Nat}
    {ghosts : Nat → Ghost Db Write Know} {ghost : Ghost Db Write Know}
    (h : Guarded calls past taken tick db ghosts) (heffect : Effect now tick db op db')
    (hsettle : ∀ token outcome, op = .settle token outcome → db.delivery.claimToken = some token →
      allowed db.delivery.attemptNumber db.webhook.maxAttempts outcome = true)
    (hpost : ∀ token, op = .post token →
      past[token]? = some i ∧ token ∈ taken ∧ token ∉ db.attempts) (htx : ghost.tx = none)
    (hknows : ∀ know, ghost.know = some know → Knows (calls i).isWorker (past ++ [i])
      (taken ++ claimTaken tick db') db' i know) :
    Guarded calls (past ++ [i]) (taken ++ claimTaken tick db') (tick + 1) db'
      (Function.update ghosts i ghost) where
  ticks := by rw [h.ticks, List.length_append, List.length_singleton]
  sound := h.sound.effect heffect hsettle
  token_lt := heffect.token_lt h.token_lt
  nodup := by
    rcases heffect.attempts with heq | ⟨token, hop, heq⟩
    · rw [heq]
      exact h.nodup
    · obtain ⟨-, -, hnot⟩ := hpost token hop
      rw [heq, ← List.concat_eq_append]
      exact h.nodup.concat hnot
  attempts := by
    intro token hmem
    rcases heffect.attempts with heq | ⟨token', hop, heq⟩
    · exact List.mem_append_left _ (h.attempts token (heq ▸ hmem))
    · rw [heq, List.mem_append, List.mem_singleton] at hmem
      rcases hmem with hmem | rfl
      · exact List.mem_append_left _ (h.attempts token hmem)
      · exact List.mem_append_left _ (hpost _ hop).2.1
  taken_lt := by
    intro token hmem
    rw [List.mem_append] at hmem
    rcases hmem with hmem | hmem
    · exact Nat.lt_succ_of_lt (h.taken_lt token hmem)
    · rw [eq_of_mem_claimTaken hmem]
      exact Nat.lt_succ_self tick
  tx := by
    intro j
    by_cases hj : j = i
    · subst hj
      rw [Function.update_self]
      exact htx
    · rw [Function.update_of_ne hj]
      exact h.tx j
  knows := by
    intro j know hknow
    by_cases hj : j = i
    · subst hj
      rw [Function.update_self] at hknow
      exact hknows know hknow
    · rw [Function.update_of_ne hj] at hknow
      refine (h.knows j know hknow).other (h.ticks ▸ heffect) fun token hop hown => hj ?_
      exact Option.some.inj (hown.symm.trans (hpost token hop).1)

theorem Guarded.step {calls : Nat → Call} {past taken : List Nat} {held held' : List (Nat × Empty)}
    {ghosts : Nat → Ghost Db Write Know} {ghost' : Ghost Db Write Know}
    (h : Guarded calls past taken tick db ghosts)
    (hstep : Disciplined (engine clock) discipline i tick db held (ghosts i) db' held' ghost') :
    Guarded calls (past ++ [i]) (taken ++ claimTaken tick db') (tick + 1) db'
        (Function.update ghosts i ghost') ∧
      (∃ op, Effect (clock tick) tick db op db') ∧
        Change (calls i).isWorker (fun token => past[token]? = some i ∧ token ∈ taken)
          (clock tick) tick db.webhook db.delivery db'.delivery := by
  have hkept : Effect (clock tick) tick db .organizationState db := .kept _
  have hstill : ∀ ghost : Ghost Db Write Know, ghost.tx = none →
      (∀ know, ghost.know = some know → Knows (calls i).isWorker past taken db i know) →
      Guarded calls (past ++ [i]) (taken ++ claimTaken tick db) (tick + 1) db
          (Function.update ghosts i ghost) ∧
        (∃ op, Effect (clock tick) tick db op db) ∧
          Change (calls i).isWorker (fun token => past[token]? = some i ∧ token ∈ taken)
            (clock tick) tick db.webhook db.delivery db.delivery := by
    intro ghost htx hknows
    refine ⟨h.effect hkept (fun _ _ hop => by cases hop) (fun _ hop => by cases hop) htx ?_,
      ⟨_, hkept⟩, .kept⟩
    exact fun know hknow =>
      (hknows know hknow).other (h.ticks ▸ hkept) fun _ hop => by cases hop
  have htx := h.tx i
  have hknows := h.knows i
  generalize ghosts i = ghost at hstep htx hknows
  cases hstep with
  | idle => exact hstill _ htx hknows
  | abort => exact hstill _ rfl fun know hknow => by cases hknow
  | start know know' tx hk => cases hk
  | commit know know' tx hk => cases hk
  | rollback know know' tx hk => cases hk
  | within know op learn tx hk hfree => cases htx
  | call know query learn tx hk answer =>
    obtain rfl := Option.some.inj hk
    exact hstill _ htx hknows
  | auto know via op learn tx hk hin hfree =>
    have hknow := hknows know rfl
    have heffect := exec_effect clock tick db op
    refine ⟨h.effect heffect ?_ ?_ htx ?_, ⟨op, heffect⟩, hknow.change hk heffect⟩
    · rintro token outcome rfl htoken
      exact (hknow.settle hk htoken).2.2.2
    · rintro token rfl
      exact hknow.post hk
    · intro know' hknow'
      obtain rfl := Option.some.inj hknow'
      have hticks := h.ticks
      subst hticks
      exact hknow.sent hk (fun hmem => Nat.lt_irrefl _ (h.taken_lt _ (h.attempts _ hmem))) rfl

/-- Every session keeps to the discipline, and what the sessions know is true. -/
def Reached (calls : Nat → Call) (past taken : List Nat) (s : System) : Prop :=
  ∃ ghosts, Guarded calls past taken s.tick s.db ghosts ∧
    ∀ i, TracksTo discipline (fun _ _ => True) (s.sessions i) (ghosts i)

/-- Tokens of the claims a run takes. -/
def claimsTaken (clock : Nat → Nat) : System → List (Label Query.Answer) → List Nat
  | _, [] => []
  | s, l :: labels =>
    claimTaken s.tick (s.step (engine clock) l).db ++
      claimsTaken clock (s.step (engine clock) l) labels

def NotRedelivered (clock : Nat → Nat) (s : System) (l : Label Query.Answer) : Prop :=
  ¬Redelivered s.db (s.step (engine clock) l).db

instance (s : System) (l : Label Query.Answer) : Decidable (NotRedelivered clock s l) :=
  inferInstanceAs (Decidable (¬_))

variable {calls : Nat → Call} {past taken : List Nat} {s : System}

theorem Reached.step (clock : Nat → Nat) (h : Reached calls past taken s)
    (l : Label Query.Answer) :
    Reached calls (past ++ [l.session]) (taken ++ claimTaken s.tick (s.step (engine clock) l).db)
        (s.step (engine clock) l) ∧
      (∃ op, Effect (clock s.tick) s.tick s.db op (s.step (engine clock) l).db) ∧
        Change (calls l.session).isWorker
          (fun token => past[token]? = some l.session ∧ token ∈ taken) (clock s.tick) s.tick
          s.db.webhook s.db.delivery (s.step (engine clock) l).db.delivery := by
  obtain ⟨ghosts, hguarded, htracks⟩ := h
  obtain ⟨ghost', hd, htracks'⟩ := Sys.step_disciplined (E := engine clock) htracks l
  obtain ⟨hguarded', heffect, hchange⟩ := hguarded.step hd
  refine ⟨⟨Function.update ghosts l.session ghost', ?_, htracks'⟩, heffect, hchange⟩
  rw [Sys.step_tick]
  exact hguarded'

theorem Reached.run (clock : Nat → Nat) (h : Reached calls past taken s)
    (labels : List (Label Query.Answer)) :
    Reached calls (past ++ labels.map Label.session) (taken ++ claimsTaken clock s labels)
      (Transition.run (Sys.step (engine clock)) s labels) := by
  induction labels generalizing past taken s with
  | nil =>
    rw [List.map_nil, claimsTaken, List.append_nil, List.append_nil]
    exact h
  | cons l labels ih =>
    have hrun := ih (h.step clock l).1
    rw [List.append_assoc, List.append_assoc] at hrun
    exact hrun

theorem Reached.webhook (clock : Nat → Nat) (h : Reached calls past taken s)
    (labels : List (Label Query.Answer)) :
    (Transition.run (Sys.step (engine clock)) s labels).db.webhook = s.db.webhook := by
  induction labels generalizing past taken s with
  | nil => rfl
  | cons l labels ih =>
    obtain ⟨hstep, ⟨op, heffect⟩, -⟩ := h.step clock l
    exact (ih hstep).trans heffect.webhook

variable {labels : List (Label Query.Answer)}

theorem Reached.load (h : Reached calls past taken s)
    (hlabels : Along (Sys.step (engine clock)) (NotRedelivered clock) s labels) :
    (Transition.run (Sys.step (engine clock)) s labels).db.delivery.load =
      s.db.delivery.load + (claimsTaken clock s labels).length := by
  induction labels generalizing past taken s with
  | nil => rfl
  | cons l labels ih =>
    obtain ⟨hstep, ⟨op, heffect⟩, -⟩ := h.step clock l
    obtain ⟨ghosts, hguarded, -⟩ := h
    rw [run_cons, ih hstep hlabels.2, heffect.load hguarded.sound hguarded.token_lt hlabels.1,
      claimsTaken, List.length_append, Nat.add_assoc]

theorem Reached.ended (h : Reached calls past taken s)
    (hlabels : Along (Sys.step (engine clock)) (NotRedelivered clock) s labels)
    (hended : s.db.delivery.ended) : claimsTaken clock s labels = [] := by
  induction labels generalizing past taken s with
  | nil => rfl
  | cons l labels ih =>
    obtain ⟨hstep, ⟨op, heffect⟩, -⟩ := h.step clock l
    obtain ⟨ghosts, hguarded, -⟩ := h
    obtain ⟨hended', hnone⟩ := heffect.ended hended hguarded.token_lt hlabels.1
    rw [claimsTaken, hnone, List.nil_append]
    exact ih hstep hlabels.2 hended'

theorem Reached.attempts_since (clock : Nat → Nat) (h : Reached calls past taken s)
    (labels : List (Label Query.Answer)) :
    ((Transition.run (Sys.step (engine clock)) s labels).db.attempts.filter
      fun token => decide (s.tick ≤ token)).length ≤ (claimsTaken clock s labels).length := by
  obtain ⟨ghosts', hguarded', -⟩ := h.run clock labels
  obtain ⟨ghosts, hguarded, -⟩ := h
  refine (List.subperm_of_subset (hguarded'.nodup.filter _) fun token hmem => ?_).length_le
  rw [List.mem_filter, decide_eq_true_eq] at hmem
  have htaken := hguarded'.attempts token hmem.1
  rw [List.mem_append] at htaken
  refine htaken.resolve_left fun hearlier => ?_
  exact Nat.not_lt_of_le hmem.2 (hguarded.taken_lt token hearlier)

theorem Reached.claims_le (h : Reached calls past taken s)
    (hlabels : Along (Sys.step (engine clock)) (NotRedelivered clock) s labels) :
    (claimsTaken clock s labels).length ≤ s.db.webhook.maxRetries.getD 5 + 2 := by
  have hload := h.load hlabels
  have hwebhook := h.webhook clock labels
  obtain ⟨ghosts, hguarded, -⟩ := h.run clock labels
  have hle := hguarded.sound.load_le
  rw [hwebhook] at hle
  unfold Registration.maxAttempts at hle
  omega

/-- Calls that have not started, on a delivery that was just enqueued. -/
structure Ready (calls : Nat → Call) (s : System) : Prop where
  tick : s.tick = 0
  sessions : ∀ i, s.sessions i = ⟨some (calls i).run, none⟩
  pending : s.db.delivery.status = .pending
  attempt : s.db.delivery.attemptNumber = 0
  recovery : s.db.delivery.recoveryCount = 0
  unclaimed : s.db.delivery.claimToken = none
  attempts : s.db.attempts = []

theorem Ready.reached (h : Ready calls s) : Reached calls [] [] s := by
  refine ⟨fun i => ⟨some (calls i).know, none⟩, ?_, fun i => ?_⟩
  · refine ⟨h.tick, ⟨?_, ?_, fun _ => ?_⟩, fun token htoken => ?_, ?_, ?_, ?_, fun i => rfl,
      fun i know hknow => ?_⟩
    · rw [h.attempt]
      exact Nat.zero_le _
    · rw [h.recovery]
      exact Nat.zero_le _
    · rw [h.attempt]
      exact Nat.succ_pos _
    · rw [h.unclaimed] at htoken
      cases htoken
    · rw [h.attempts]
      exact List.nodup_nil
    · rw [h.attempts]
      exact fun token hmem => by cases hmem
    · exact fun token hmem => by cases hmem
    · obtain rfl := Option.some.inj hknow
      cases hcall : calls i <;> rfl
  · refine ⟨by rw [h.sessions], fun p hp => ⟨_, rfl, ?_⟩⟩
    rw [h.sessions] at hp
    obtain rfl := Option.some.inj hp
    exact keeps_run (calls i)

/-- Only the claiming worker writes an outcome, within `max_retries + 2` claims a redelivery. -/
theorem deliveries_bounded (clock : Nat → Nat) {calls : Nat → Call} {s : System}
    (h : Ready calls s) (first labels : List (Label Query.Answer)) :
    let s₁ := Transition.run (Sys.step (engine clock)) s first
    let s₂ := Transition.run (Sys.step (engine clock)) s₁ labels
    (∀ l : Label Query.Answer, Change (calls l.session).isWorker
        (fun token => (first.map Label.session)[token]? = some l.session ∧
          token ∈ claimsTaken clock s first)
        (clock s₁.tick) s₁.tick s₁.db.webhook s₁.db.delivery
        (s₁.step (engine clock) l).db.delivery) ∧
      s₁.db.attempts.Nodup ∧ (∀ token ∈ s₁.db.attempts, token ∈ claimsTaken clock s first) ∧
      (Along (Sys.step (engine clock)) (NotRedelivered clock) s₁ labels →
        (claimsTaken clock s₁ labels).length ≤ s₁.db.webhook.maxRetries.getD 5 + 2 ∧
        (s₂.db.attempts.filter fun token => decide (s₁.tick ≤ token)).length ≤
          (claimsTaken clock s₁ labels).length ∧
        (s₁.db.delivery.ended → claimsTaken clock s₁ labels = [])) := by
  intro s₁ s₂
  have h₁ : Reached calls (first.map Label.session) (claimsTaken clock s first) s₁ :=
    h.reached.run clock first
  have hsteps := fun l => (h₁.step clock l).2.2
  obtain ⟨ghosts, hguarded, -⟩ := id h₁
  exact ⟨hsteps, hguarded.nodup, hguarded.attempts, fun hlabels =>
    ⟨h₁.claims_le hlabels, h₁.attempts_since clock labels, h₁.ended hlabels⟩⟩

/-- A delivery just enqueued. -/
def sampleDelivery : Delivery where
  organizationEpoch := 1
  eventName := "invoice.created"
  targetUrl := some "https://example.test/hook"
  httpStatusCode := none
  responseTimeMs := none
  attemptNumber := 0
  recoveryCount := 0
  status := .pending
  nextRetryAt := none
  lockedAt := none
  claimToken := none
  revokedAt := none
  deliveredAt := none
  createdAt := 0

def sampleRegistration : Registration where
  id := 1
  organizationId := 1
  url := "https://example.test/hook"
  isActive := true
  deleted := false
  maxRetries := some 3
  organizationActive := true
  epoch := 1

/-- Workers on the delivery. -/
def sampleCalls : Nat → Call := fun _ => .deliver true 1

/-- The workers before their first step. -/
def sampleSystem : System where
  db := ⟨sampleRegistration, sampleDelivery, []⟩
  tick := 0
  held := []
  sessions := fun i => ⟨some (sampleCalls i).run, none⟩
  calls := []

theorem sampleSystem_ready : Ready sampleCalls sampleSystem :=
  ⟨rfl, fun _ => rfl, rfl, rfl, rfl, rfl, rfl⟩

def accepts : (query : Query) → query.Answer
  | .succeeds => true
  | .reply => .answered 200 30
  | .nextRetryAt attempt => attempt
  | .amongFirst => true
  | .queued => true
  | .safeUrl _ => true

/-- A worker that claims, stalls, and is overtaken by another one once its claim is stale. -/
def overtaken : List (Label Query.Answer) :=
  List.replicate 4 (.step 0 accepts) ++ List.replicate 7 (.step 1 accepts)

/-- The overtaken worker makes its attempt after the delivery has succeeded. -/
theorem deliveries_bounded_sample :
    let s₁ := Transition.run (Sys.step (engine fun tick => 100 * tick)) sampleSystem overtaken
    let s₂ := s₁.step (engine fun tick => 100 * tick) (.step 0 accepts)
    s₁.db.delivery.status = .success ∧ s₁.db.attempts = [5] ∧ s₂.db.attempts = [5, 1] ∧
      claimsTaken (fun tick => 100 * tick) s₁ [.step 0 accepts] = [] := by
  refine ⟨by decide +kernel, by decide +kernel, by decide +kernel, ?_⟩
  exact ((deliveries_bounded _ sampleSystem_ready overtaken [.step 0 accepts]).2.2.2
    (by decide +kernel)).2.2 (by decide +kernel)

/-- An attempt may be made after the delivery has succeeded, without a redelivery. -/
theorem attempted_after_success :
    ¬∀ (clock : Nat → Nat) (calls : Nat → Call) (s : System)
      (first labels : List (Label Query.Answer)), Ready calls s →
      Along (Sys.step (engine clock)) (NotRedelivered clock)
        (Transition.run (Sys.step (engine clock)) s first) labels →
      (Transition.run (Sys.step (engine clock)) s first).db.delivery.ended →
      (Transition.run (Sys.step (engine clock)) s (first ++ labels)).db.attempts =
        (Transition.run (Sys.step (engine clock)) s first).db.attempts := by
  intro h
  have heq := h (fun tick => 100 * tick) sampleCalls sampleSystem overtaken [.step 0 accepts]
    sampleSystem_ready (by decide +kernel) (by decide +kernel)
  revert heq
  decide +kernel

end FireIsp.Webhook
