import FireIsp.Base.Run
import Mathlib.Data.Finset.Basic
import Mathlib.Data.List.Nodup
import Mathlib.Logic.Function.Basic

/-!
# The job queue of one process

`InProcessQueue`: jobs wait in a list, a drain starts as many as may run, and each one that has ended
asks for the next drain.  A drain, the call of a handler and the end of a job each run to their end
before anything else does; what was answered, accepted and called is kept as a history.
-/

namespace FireIsp.Jobs

/-- Bounds of a queue. -/
structure Config where
  maxConcurrency : Option Int
  maxPending : Nat
  trapForwardingCapacity : Nat
  ten_le_maxPending : 10 ≤ maxPending
  ten_le_trapForwardingCapacity : 10 ≤ trapForwardingCapacity

/-- `Math.max(10, Math.min(most, parsed || otherwise))` -/
def capacityOf (most otherwise : Nat) (parsed : Option Int) : Nat :=
  let value := (parsed.filter fun n => n ≠ 0).getD otherwise
  (max 10 (min (most : Int) value)).toNat

theorem ten_le_capacityOf (most otherwise : Nat) (parsed : Option Int) :
    10 ≤ capacityOf most otherwise parsed := by
  unfold capacityOf
  dsimp only
  omega

/-- The bounds, from what `parseInt` makes of the environment. -/
def Config.ofEnv (concurrency maxPending localCapacity : Option Int) : Config where
  maxConcurrency := concurrency
  maxPending := capacityOf 10000 1000 maxPending
  trapForwardingCapacity := capacityOf 1000 100 localCapacity
  ten_le_maxPending := ten_le_capacityOf _ _ _
  ten_le_trapForwardingCapacity := ten_le_capacityOf _ _ _

/-- A job; handlers and what they are called with may be anything. -/
structure Job (H D : Type) where
  id : String
  name : String
  data : D
  /-- The handler that was registered when it was added. -/
  handler : H

/-- What `add` answers. -/
inductive Answer
  | noHandler (name : String)
  | queued (id name : String) (deduplicated : Bool)
  | durablePending (name : String)
  | capacityReached (name : String)

/-- The queue, the jobs it has started, and its history. -/
structure Queue (H D : Type) where
  handlers : String → Option H
  running : Nat
  pending : List (Job H D)
  activeByName : String → Option Nat
  knownJobIds : Finset String
  drainScheduled : Bool
  /-- Jobs that were started and whose handlers are about to be called. -/
  starting : List (Job H D)
  /-- Jobs whose handlers were called and have not ended. -/
  executing : List (Job H D)
  answers : List Answer
  accepted : List (Job H D)
  invoked : List (Job H D)

/-- What happens. -/
inductive Event (H D : Type)
  | process (name : String) (handler : H)
  | add (name : String) (data : D) (jobId : Option String) (drawn : String)
  | immediate
  | invokes
  | settles (index : Nat)

namespace Queue

variable {H D : Type}

def new : Queue H D where
  handlers _ := none
  running := 0
  pending := []
  activeByName _ := none
  knownJobIds := ∅
  drainScheduled := false
  starting := []
  executing := []
  answers := []
  accepted := []
  invoked := []

/-- Jobs that run. -/
def active (q : Queue H D) : List (Job H D) := q.executing ++ q.starting

def scheduleDrain (q : Queue H D) : Queue H D := { q with drainScheduled := true }

/-- Something is answered. -/
def answer (q : Queue H D) (a : Answer) : Queue H D := { q with answers := q.answers ++ [a] }

def pendingForName (q : Queue H D) (name : String) : Nat :=
  q.pending.foldl (fun count job => count + if job.name = name then 1 else 0)
    ((q.activeByName name).getD 0)

def full (config : Config) (q : Queue H D) (name : String) : Bool :=
  let capacity :=
    if name = "trap-forwarding-delivery" then config.trapForwardingCapacity else config.maxPending
  config.maxPending ≤ q.pending.length || capacity ≤ q.pendingForName name

def overflow (name : String) : Answer :=
  if name = "trap-forwarding-delivery" ∨ name = "webhook-delivery" then .durablePending name
  else .capacityReached name

/-- A job is added to the list. -/
def push (q : Queue H D) (job : Job H D) : Queue H D :=
  { q with
    knownJobIds := insert job.id q.knownJobIds
    pending := q.pending ++ [job]
    accepted := q.accepted ++ [job] }

def add (config : Config) (q : Queue H D) (name : String) (data : D) (jobId : Option String)
    (drawn : String) : Queue H D :=
  match q.handlers name with
  | none => q.answer (.noHandler name)
  | some handler =>
    let requestedJobId := jobId.filter fun id => id ≠ ""
    if requestedJobId.any fun id => id ∈ q.knownJobIds then
      q.answer (.queued (requestedJobId.getD "") name true)
    else if q.full config name then q.answer (overflow name)
    else
      let id := requestedJobId.getD drawn
      ((q.push ⟨id, name, data, handler⟩).scheduleDrain).answer (.queued id name false)

/-- A job is started. -/
def launch (q : Queue H D) (job : Job H D) : Queue H D :=
  { q with
    running := q.running + 1
    activeByName := Function.update q.activeByName job.name
      (some ((q.activeByName job.name).getD 0 + 1))
    starting := q.starting ++ [job] }

/-- The loop of `drain` over the jobs that wait. -/
def drainFrom (config : Config) (q : Queue H D) : List (Job H D) → Queue H D
  | [] => { q with pending := [] }
  | job :: rest =>
    if config.maxConcurrency.any fun most => (q.running : Int) < most then
      drainFrom config (q.launch job) rest
    else { q with pending := job :: rest }

def drain (config : Config) (q : Queue H D) : Queue H D := drainFrom config q q.pending

/-- What follows the end of a job. -/
def finish (q : Queue H D) (job : Job H D) : Queue H D :=
  let remaining := ((q.activeByName job.name).getD 1 : Int) - 1
  ({ q with
    knownJobIds := q.knownJobIds.erase job.id
    running := q.running - 1
    activeByName := Function.update q.activeByName job.name
      (if 0 < remaining then some remaining.toNat else none) } : Queue H D).scheduleDrain

def step (config : Config) (q : Queue H D) : Event H D → Queue H D
  | .process name handler => { q with handlers := Function.update q.handlers name (some handler) }
  | .add name data jobId drawn => q.add config name data jobId drawn
  | .immediate =>
    if q.drainScheduled then ({ q with drainScheduled := false } : Queue H D).drain config else q
  | .invokes =>
    match q.starting with
    | [] => q
    | job :: rest =>
      { q with
        starting := rest
        executing := q.executing ++ [job]
        invoked := q.invoked ++ [job] }
  | .settles index =>
    match q.executing[index]? with
    | none => q
    | some job => ({ q with executing := q.executing.eraseIdx index } : Queue H D).finish job

end Queue

end FireIsp.Jobs

/-!
## Every accepted job runs once

The jobs that were accepted are those whose handlers were called, those that are about to be, and
those that wait, in this order.  If at least one job may run, none is left when nothing more happens.
-/

namespace FireIsp.Jobs

open Transition

/-- The id and the name of the job that an answer accepts. -/
def Answer.accepted : Answer → Option (String × String)
  | .queued id name false => some (id, name)
  | _ => none

/-- A job may be started beside those that run. -/
def Config.admits (config : Config) (running : Nat) : Bool :=
  config.maxConcurrency.any fun most => (running : Int) < most

/-- The number of jobs that may run. -/
def Config.slots (config : Config) : Nat := (config.maxConcurrency.getD 0).toNat

theorem Config.admits_iff {config : Config} {running : Nat} :
    config.admits running = true ↔ running < config.slots := by
  unfold Config.admits Config.slots
  cases config.maxConcurrency with
  | none => exact ⟨nofun, fun h => absurd h (Nat.not_lt_zero running)⟩
  | some most =>
    simp only [Option.any_some, decide_eq_true_eq, Option.getD_some]
    omega

namespace Queue

variable {H D : Type} {config : Config} {q : Queue H D} {job : Job H D}

/-- Jobs that run or wait. -/
def live (q : Queue H D) : List (Job H D) := q.active ++ q.pending

/-- How many jobs of a name run. -/
def activeOf (q : Queue H D) (name : String) : Nat := q.active.countP fun job => job.name = name

/-- What holds of a queue at any time. -/
structure Sound (config : Config) (q : Queue H D) : Prop where
  /-- What was accepted was called, is about to be, or waits, in this order. -/
  split : q.accepted = q.invoked ++ q.starting ++ q.pending
  answered : q.answers.filterMap Answer.accepted = q.accepted.map fun job => (job.id, job.name)
  running : q.running = q.active.length
  bounded : q.active.length ≤ config.slots
  counted : ∀ name, q.activeByName name = if q.activeOf name = 0 then none else some (q.activeOf name)
  known : ∀ id, id ∈ q.knownJobIds ↔ id ∈ q.live.map Job.id
  distinct : (q.live.map Job.id).Nodup

/-- Jobs wait only for a drain or for others to end. -/
def Awake (config : Config) (q : Queue H D) : Prop :=
  q.pending = [] ∨ q.drainScheduled = true ∨ config.slots ≤ q.running

/-- Nothing more happens by itself. -/
def Quiet (q : Queue H D) : Prop :=
  q.drainScheduled = false ∧ q.starting = [] ∧ q.executing = []

def DrawsFresh (q : Queue H D) : Event H D → Prop
  | .add _ _ _ drawn => drawn ∉ q.knownJobIds
  | _ => True

theorem sound_new (config : Config) : Sound config (new : Queue H D) where
  split := rfl
  answered := rfl
  running := rfl
  bounded := Nat.zero_le _
  counted _ := rfl
  known id := by simp [new, live, active]
  distinct := List.nodup_nil

theorem Sound.answer (h : q.Sound config) {a : Answer} (ha : a.accepted = none) :
    (q.answer a).Sound config :=
  { h with
    answered := by
      change (q.answers ++ [a]).filterMap Answer.accepted = _
      rw [List.filterMap_append, List.filterMap_cons_none ha, List.filterMap_nil, List.append_nil]
      exact h.answered }

theorem Sound.push (h : q.Sound config) (hid : job.id ∉ q.knownJobIds) :
    (((q.push job).scheduleDrain).answer (.queued job.id job.name false)).Sound config where
  split := by
    change q.accepted ++ [job] = q.invoked ++ q.starting ++ (q.pending ++ [job])
    rw [h.split, List.append_assoc _ q.pending]
  answered := by
    change (q.answers ++ [Answer.queued job.id job.name false]).filterMap Answer.accepted =
      (q.accepted ++ [job]).map fun job => (job.id, job.name)
    rw [List.filterMap_append, h.answered, List.map_append]
    rfl
  running := h.running
  bounded := h.bounded
  counted := h.counted
  known id := by
    change id ∈ insert job.id q.knownJobIds ↔
      id ∈ (q.active ++ (q.pending ++ [job])).map Job.id
    rw [Finset.mem_insert, h.known, ← List.append_assoc, List.map_append, List.mem_append]
    exact Or.comm.trans (or_congr_right List.mem_singleton.symm)
  distinct := by
    change ((q.active ++ (q.pending ++ [job])).map Job.id).Nodup
    rw [← List.append_assoc, List.map_append]
    refine List.nodup_append.mpr ⟨h.distinct, List.nodup_singleton _, fun a ha b hb => ?_⟩
    obtain rfl := List.mem_singleton.mp hb
    rintro rfl
    exact hid ((h.known _).mpr ha)

theorem Sound.add (h : q.Sound config) {name : String} {data : D} {jobId : Option String}
    {drawn : String} (hdrawn : drawn ∉ q.knownJobIds) :
    (q.add config name data jobId drawn).Sound config := by
  unfold Queue.add
  cases q.handlers name with
  | none => exact h.answer rfl
  | some handler =>
    dsimp only
    split_ifs with hknown hfull
    · exact h.answer rfl
    · refine h.answer ?_
      unfold overflow
      split_ifs <;> rfl
    · refine h.push ?_
      cases hrequested : jobId.filter fun id => id ≠ "" with
      | none => exact hdrawn
      | some id =>
        rw [hrequested] at hknown
        exact fun hid => hknown (decide_eq_true hid)

theorem Sound.launch {rest : List (Job H D)}
    (h : ({ q with pending := job :: rest } : Queue H D).Sound config)
    (hfree : config.admits q.running = true) :
    ({ q.launch job with pending := rest } : Queue H D).Sound config := by
  have hactive : ({ q.launch job with pending := rest } : Queue H D).active = q.active ++ [job] :=
    (List.append_assoc _ _ _).symm
  have hlive : ({ q.launch job with pending := rest } : Queue H D).live =
      ({ q with pending := job :: rest } : Queue H D).live := by
    unfold live
    rw [hactive, List.append_assoc]
    rfl
  refine ⟨?_, h.answered, ?_, ?_, fun name => ?_, fun id => ?_, ?_⟩
  · have hsplit := h.split
    change q.accepted = q.invoked ++ (q.starting ++ [job]) ++ rest
    rw [← List.append_assoc, List.append_assoc _ [job]]
    exact hsplit
  · rw [hactive, List.length_append]
    exact congrArg (· + 1) h.running
  · rw [hactive, List.length_append]
    have hrunning : q.running = q.active.length := h.running
    have hlt := Config.admits_iff.mp hfree
    simp only [List.length_singleton]
    omega
  · have hcount : ({ q.launch job with pending := rest } : Queue H D).activeOf name =
        q.activeOf name + if job.name = name then 1 else 0 := by
      unfold activeOf
      rw [hactive, List.countP_append, List.countP_singleton]
      simp only [decide_eq_true_eq]
    have hold : q.activeByName job.name =
        if q.activeOf job.name = 0 then none else some (q.activeOf job.name) := h.counted job.name
    rw [hcount]
    change Function.update q.activeByName job.name _ name = _
    by_cases hname : name = job.name
    · subst hname
      rw [Function.update_self, if_pos rfl, if_neg (Nat.succ_ne_zero _), hold]
      split_ifs with hzero
      · rw [hzero]
        rfl
      · rfl
    · rw [Function.update_of_ne hname, if_neg (Ne.symm hname), Nat.add_zero]
      exact h.counted name
  · rw [hlive]
    exact h.known id
  · rw [hlive]
    exact h.distinct

theorem Sound.drainFrom {jobs : List (Job H D)}
    (h : ({ q with pending := jobs } : Queue H D).Sound config) :
    (q.drainFrom config jobs).Sound config ∧
      ((q.drainFrom config jobs).pending = [] ∨
        config.slots ≤ (q.drainFrom config jobs).running) := by
  induction jobs generalizing q with
  | nil => exact ⟨h, Or.inl rfl⟩
  | cons job rest ih =>
    unfold Queue.drainFrom
    split_ifs with hfree
    · exact ih (h.launch hfree)
    · exact ⟨h, Or.inr (not_lt.mp fun hlt => hfree (Config.admits_iff.mpr hlt))⟩

theorem Sound.drain (h : q.Sound config) : (q.drain config).Sound config ∧
    ((q.drain config).pending = [] ∨ config.slots ≤ (q.drain config).running) :=
  Sound.drainFrom (q := q) h

theorem Sound.invokes (h : q.Sound config) {rest : List (Job H D)}
    (hstarting : q.starting = job :: rest) :
    ({ q with
      starting := rest
      executing := q.executing ++ [job]
      invoked := q.invoked ++ [job] } : Queue H D).Sound config := by
  have hactive : q.executing ++ [job] ++ rest = q.active := by
    unfold active
    rw [hstarting, List.append_assoc]
    rfl
  have hsplit := h.split
  refine ⟨?_, h.answered, ?_, ?_, fun name => ?_, fun id => ?_, ?_⟩
  · change q.accepted = q.invoked ++ [job] ++ rest ++ q.pending
    rw [hsplit, hstarting, List.append_assoc q.invoked [job]]
    rfl
  · change q.running = (q.executing ++ [job] ++ rest).length
    rw [hactive]
    exact h.running
  · change (q.executing ++ [job] ++ rest).length ≤ _
    rw [hactive]
    exact h.bounded
  · have hcounted := h.counted name
    unfold activeOf at hcounted ⊢
    rw [← hactive] at hcounted
    exact hcounted
  · have hknown := h.known id
    unfold live at hknown ⊢
    rw [← hactive] at hknown
    exact hknown
  · have hdistinct := h.distinct
    unfold live at hdistinct ⊢
    rw [← hactive] at hdistinct
    exact hdistinct

theorem Sound.finish (h : q.Sound config) {index : Nat} (hjob : q.executing[index]? = some job) :
    (({ q with executing := q.executing.eraseIdx index } : Queue H D).finish job).Sound config := by
  obtain ⟨hlt, hget⟩ := List.getElem?_eq_some_iff.mp hjob
  have hperm : (job :: (q.executing.eraseIdx index ++ q.starting)).Perm q.active := by
    have herase := (List.getElem_cons_eraseIdx_perm hlt).append_right q.starting
    rwa [hget] at herase
  have hlive : (job.id :: (q.executing.eraseIdx index ++ q.starting ++ q.pending).map Job.id).Perm
      (q.live.map Job.id) := (hperm.append_right q.pending).map Job.id
  have hlength : q.active.length = (q.executing.eraseIdx index ++ q.starting).length + 1 :=
    hperm.length_eq.symm
  have hdistinct := List.nodup_cons.mp (hlive.nodup_iff.mpr h.distinct)
  refine ⟨h.split, h.answered, ?_, ?_, fun name => ?_, fun id => ?_, hdistinct.2⟩
  · change q.running - 1 = (q.executing.eraseIdx index ++ q.starting).length
    rw [h.running, hlength, Nat.add_sub_cancel]
  · have hbounded := h.bounded
    rw [hlength] at hbounded
    exact (Nat.le_succ _).trans hbounded
  · have hcount : q.activeOf name =
        (q.executing.eraseIdx index ++ q.starting).countP (fun job => job.name = name) +
          if job.name = name then 1 else 0 := by
      have hsame := hperm.countP_eq fun job => decide (job.name = name)
      rw [List.countP_cons] at hsame
      simp only [decide_eq_true_eq] at hsame
      exact hsame.symm
    have hcounted := h.counted name
    unfold activeOf
    change Function.update q.activeByName job.name _ name = if List.countP _
      (q.executing.eraseIdx index ++ q.starting) = 0 then none else some (List.countP _
        (q.executing.eraseIdx index ++ q.starting))
    generalize (q.executing.eraseIdx index ++ q.starting).countP (fun job => job.name = name) = count
      at hcount
    rw [hcount] at hcounted
    by_cases hname : name = job.name
    · subst hname
      rw [if_pos rfl, if_neg (Nat.succ_ne_zero _)] at hcounted
      rw [Function.update_self, hcounted]
      simp only [Option.getD_some]
      split_ifs <;> first | omega | rfl | (congr 1; omega)
    · rw [if_neg (Ne.symm hname), Nat.add_zero] at hcounted
      rw [Function.update_of_ne hname]
      exact hcounted
  · change id ∈ q.knownJobIds.erase job.id ↔ id ∈
      (q.executing.eraseIdx index ++ q.starting ++ q.pending).map Job.id
    rw [Finset.mem_erase, h.known, ← hlive.mem_iff, List.mem_cons]
    constructor
    · rintro ⟨hne, heq | hmem⟩
      · exact absurd heq hne
      · exact hmem
    · intro hmem
      exact ⟨fun heq => hdistinct.1 (heq ▸ hmem), Or.inr hmem⟩

theorem Sound.step (h : q.Sound config) {event : Event H D} (hfresh : q.DrawsFresh event) :
    (q.step config event).Sound config := by
  cases event with
  | process name handler => exact { h with }
  | add name data jobId drawn => exact h.add hfresh
  | immediate =>
    unfold Queue.step
    dsimp only
    split_ifs
    · have hidle : ({ q with drainScheduled := false } : Queue H D).Sound config := { h with }
      exact hidle.drain.1
    · exact h
  | invokes =>
    unfold Queue.step
    dsimp only
    cases hstarting : q.starting with
    | nil => exact h
    | cons job rest => exact h.invokes hstarting
  | settles index =>
    unfold Queue.step
    dsimp only
    cases hjob : q.executing[index]? with
    | none => exact h
    | some job => exact h.finish hjob

theorem Awake.step (h : q.Awake config) (hsound : q.Sound config) (event : Event H D) :
    (q.step config event).Awake config := by
  cases event with
  | process name handler => exact h
  | add name data jobId drawn =>
    unfold Queue.step Queue.add
    dsimp only
    cases q.handlers name with
    | none => exact h
    | some handler =>
      dsimp only
      split_ifs
      · exact h
      · exact h
      · exact Or.inr (Or.inl rfl)
  | immediate =>
    unfold Queue.step
    dsimp only
    split_ifs
    · have hidle : ({ q with drainScheduled := false } : Queue H D).Sound config := { hsound with }
      obtain ⟨-, hnone | hfull⟩ := hidle.drain
      · exact Or.inl hnone
      · exact Or.inr (Or.inr hfull)
    · exact h
  | invokes =>
    unfold Queue.step
    dsimp only
    cases q.starting with
    | nil => exact h
    | cons job rest => exact h
  | settles index =>
    unfold Queue.step
    dsimp only
    cases q.executing[index]? with
    | none => exact h
    | some job => exact Or.inr (Or.inl rfl)

theorem Sound.invoked_of_quiet (h : q.Sound config) (hawake : q.Awake config)
    (hslots : 0 < config.slots) (hquiet : q.Quiet) : q.invoked = q.accepted := by
  obtain ⟨hdrain, hstarting, hexecuting⟩ := hquiet
  have hnone : q.pending = [] := by
    rcases hawake with hnone | hscheduled | hfull
    · exact hnone
    · rw [hdrain] at hscheduled
      exact nomatch hscheduled
    · have hrunning := h.running
      unfold active at hrunning
      rw [hstarting, hexecuting] at hrunning
      simp only [List.append_nil, List.length_nil] at hrunning
      omega
  rw [h.split, hstarting, hnone, List.append_nil, List.append_nil]

/-- Something happens by itself. -/
def Turns (q : Queue H D) : Event H D → Prop
  | .immediate => q.drainScheduled = true
  | .invokes => q.starting ≠ []
  | .settles index => index < q.executing.length
  | _ => False

/-- An upper bound on what happens by itself. -/
def work (q : Queue H D) : Nat :=
  4 * q.pending.length + 3 * q.starting.length + 2 * q.executing.length + q.drainScheduled.toNat

theorem work_drainFrom (q : Queue H D) (jobs : List (Job H D)) :
    (q.drainFrom config jobs).work ≤ ({ q with pending := jobs } : Queue H D).work := by
  induction jobs generalizing q with
  | nil => exact le_refl _
  | cons job rest ih =>
    unfold drainFrom
    split_ifs
    · refine (ih _).trans ?_
      simp only [work, launch, List.length_append, List.length_cons, List.length_nil]
      omega
    · exact le_refl _

theorem Turns.work_lt {event : Event H D} (h : q.Turns event) :
    (q.step config event).work < q.work := by
  cases event with
  | process name handler => exact h.elim
  | add name data jobId drawn => exact h.elim
  | immediate =>
    have hscheduled : q.drainScheduled = true := h
    unfold step
    rw [if_pos hscheduled]
    refine (work_drainFrom _ _).trans_lt ?_
    simp only [work, hscheduled, Bool.toNat_true, Bool.toNat_false]
    omega
  | invokes =>
    unfold step
    cases hstarting : q.starting with
    | nil => exact absurd hstarting h
    | cons job rest =>
      simp only [work, hstarting, List.length_append, List.length_cons, List.length_nil]
      omega
  | settles index =>
    have hlt : index < q.executing.length := h
    unfold step
    dsimp only
    rw [List.getElem?_eq_getElem hlt]
    simp only [work, finish, scheduleDrain, Bool.toNat_true, List.length_eraseIdx_of_lt hlt]
    omega

theorem length_le_work {turns : List (Event H D)}
    (h : Along (step config) (fun q event => q.Turns event) q turns) : turns.length ≤ q.work := by
  induction turns generalizing q with
  | nil => exact Nat.zero_le _
  | cons event turns ih =>
    have hlt : (q.step config event).work < q.work := h.1.work_lt
    have hrest := ih h.2
    rw [List.length_cons]
    omega

end Queue

/-- At least one job may run. -/
def Config.Runs (config : Config) : Prop := ∃ most ∈ config.maxConcurrency, 0 < most

theorem Config.slots_pos {config : Config} : 0 < config.slots ↔ config.Runs := by
  unfold Config.slots Config.Runs
  cases config.maxConcurrency with
  | none => exact ⟨fun h => absurd h (lt_irrefl 0), fun ⟨_, hmost, _⟩ => nomatch hmost⟩
  | some most =>
    rw [Option.getD_some]
    constructor
    · intro h
      exact ⟨most, rfl, by omega⟩
    · rintro ⟨most', hmost, hpos⟩
      obtain rfl := Option.some.inj hmost
      omega

/-- What is said of the jobs at any time. -/
structure Queue.Orderly {H D : Type} (config : Config) (q : Queue H D) : Prop where
  answered : q.answers.filterMap Answer.accepted = q.accepted.map fun job => (job.id, job.name)
  /-- Handlers are called in the order the jobs were accepted in, and not twice. -/
  inOrder : q.invoked <+: q.accepted
  bounded : (q.active.length : Int) ≤ max 0 (config.maxConcurrency.getD 0)
  /-- Jobs that run or wait have different ids. -/
  distinct : ((q.active ++ q.pending).map Job.id).Nodup
  counted : ∀ name, (q.activeByName name).getD 0 = q.active.countP fun job => job.name = name

theorem Queue.Sound.orderly {H D : Type} {config : Config} {q : Queue H D} (h : q.Sound config) :
    q.Orderly config where
  answered := h.answered
  inOrder := by
    rw [h.split, List.append_assoc]
    exact List.prefix_append _ _
  bounded := by
    have hbounded := h.bounded
    unfold Config.slots at hbounded
    omega
  distinct := h.distinct
  counted name := by
    rw [h.counted]
    unfold Queue.activeOf
    split_ifs with hzero
    · exact hzero.symm
    · rfl

theorem Queue.sound_run {H D : Type} {config : Config} {events : List (Event H D)}
    (h : Along (Queue.step config) Queue.DrawsFresh Queue.new events) :
    let q := run (Queue.step config) Queue.new events
    q.Sound config ∧ q.Awake config :=
  run_invariant (I := fun q => q.Sound config ∧ q.Awake config)
    (fun _ event hq hfresh => ⟨hq.1.step hfresh, hq.2.step hq.1 event⟩)
    ⟨Queue.sound_new config, Or.inl rfl⟩ h

/-- A job that is accepted by a queue that may run none. -/
def oneJob {H D : Type} (handler : H) (data : D) : List (Event H D) :=
  [.process "sms-send" handler, .add "sms-send" data none "local-1", .immediate]

theorem Queue.add_of_room {H D : Type} {config : Config} {q : Queue H D} {name drawn : String}
    {handler : H} {data : D} (hhandler : q.handlers name = some handler)
    (hroom : q.full config name = false) :
    q.add config name data none drawn =
      ((q.push ⟨drawn, name, data, handler⟩).scheduleDrain).answer (.queued drawn name false) := by
  unfold Queue.add
  rw [hhandler]
  refine (if_neg Bool.false_ne_true).trans (if_neg ?_)
  rw [hroom]
  exact Bool.false_ne_true

theorem waits_oneJob {H D : Type} {config : Config} (hnone : config.admits 0 = false) (handler : H)
    (data : D) :
    Along (Queue.step config) Queue.DrawsFresh Queue.new (oneJob handler data) ∧
      let q := run (Queue.step config) Queue.new (oneJob handler data)
      q.Quiet ∧ q.invoked ≠ q.accepted := by
  have hten := config.ten_le_maxPending
  have hroom : (Queue.step config Queue.new (.process "sms-send" handler) : Queue H D).full config
      "sms-send" = false := by
    unfold Queue.full Queue.pendingForName
    simp only [Queue.step, Queue.new, List.length_nil, List.foldl_nil, Option.getD_none,
      Nat.le_zero_eq, String.reduceEq, if_false, Bool.or_eq_false_iff, decide_eq_false_iff_not]
    omega
  refine ⟨⟨trivial, Finset.notMem_empty _, trivial, trivial⟩, ?_⟩
  have hhandler : (Queue.step config Queue.new (.process "sms-send" handler) : Queue H D).handlers
      "sms-send" = some handler := by simp only [Queue.step, Function.update_self]
  have hadd : Queue.step config (Queue.step config Queue.new (.process "sms-send" handler))
      (.add "sms-send" data none "local-1") = _ := Queue.add_of_room hhandler hroom
  have hdrain : ∀ q : Queue H D, q.running = 0 → q.drainFrom config [⟨"local-1", "sms-send", data,
      handler⟩] = { q with pending := [⟨"local-1", "sms-send", data, handler⟩] } := by
    intro q hrunning
    unfold Queue.drainFrom
    refine if_neg fun hfree => ?_
    rw [hrunning] at hfree
    exact Bool.false_ne_true (hnone.symm.trans hfree)
  have hrun : run (Queue.step config) Queue.new (oneJob handler data) =
      Queue.step config (Queue.step config (Queue.step config Queue.new
        (.process "sms-send" handler)) (.add "sms-send" data none "local-1")) .immediate := rfl
  rw [hrun, hadd]
  have hstep := hdrain { ((Queue.step config Queue.new (.process "sms-send" handler)).push
    ⟨"local-1", "sms-send", data, handler⟩).scheduleDrain.answer (.queued "local-1" "sms-send" false)
      with drainScheduled := false } rfl
  intro q
  have hq : q = _ := hstep
  rw [hq]
  exact ⟨⟨rfl, rfl, rfl⟩, nofun⟩

/-- Handlers are called in order and within bounds, and all of them iff a job may run. -/
theorem invoked_once (H D : Type) [Inhabited H] [Inhabited D] (config : Config) :
    (∀ events : List (Event H D), Along (Queue.step config) Queue.DrawsFresh Queue.new events →
      (run (Queue.step config) Queue.new events).Orderly config) ∧
    (∀ (q : Queue H D) (turns : List (Event H D)),
      Along (Queue.step config) (fun q event => q.Turns event) q turns → turns.length ≤ q.work) ∧
    ((∀ events : List (Event H D), Along (Queue.step config) Queue.DrawsFresh Queue.new events →
      let q := run (Queue.step config) Queue.new events
      q.Quiet → q.invoked = q.accepted) ↔ config.Runs) := by
  refine ⟨fun events h => (Queue.sound_run h).1.orderly, fun q turns => Queue.length_le_work,
    fun h => ?_, fun hruns events h => ?_⟩
  · by_contra hnone
    have hadmits : config.admits 0 = false :=
      Bool.eq_false_iff.mpr fun hfree => hnone (Config.slots_pos.mp (Config.admits_iff.mp hfree))
    obtain ⟨hfresh, hquiet, hne⟩ := waits_oneJob hadmits (default : H) (default : D)
    exact hne (h _ hfresh hquiet)
  · obtain ⟨hsound, hawake⟩ := Queue.sound_run h
    exact hsound.invoked_of_quiet hawake (Config.slots_pos.mpr hruns)

/-- With a bound of zero a job is accepted, and its handler is never called. -/
theorem invoked_once_fails :
    ¬∀ (config : Config) (events : List (Event Unit Unit)),
      Along (Queue.step config) Queue.DrawsFresh Queue.new events →
      let q := run (Queue.step config) Queue.new events
      q.Quiet → q.invoked = q.accepted := by
  intro h
  have hnone : (Config.ofEnv (some 0) (some 1000) (some 100)).admits 0 = false := rfl
  obtain ⟨hfresh, hquiet, hne⟩ := waits_oneJob hnone () ()
  exact hne (h _ _ hfresh hquiet)

/-- How many jobs of a name may run or wait. -/
def Config.capacity (config : Config) (name : String) : Nat :=
  if name = "trap-forwarding-delivery" then config.trapForwardingCapacity else config.maxPending

namespace Queue

variable {H D : Type} {config : Config} {q : Queue H D} {job : Job H D}

/-- How many jobs of a name run or wait. -/
def liveOf (q : Queue H D) (name : String) : Nat := q.live.countP fun job => job.name = name

/-- No more jobs wait, and no more of a name run or wait, than may. -/
structure Fits (config : Config) (q : Queue H D) : Prop where
  pending : q.pending.length ≤ config.maxPending
  live : ∀ name, q.liveOf name ≤ config.capacity name

theorem Sound.pendingForName_eq (h : q.Sound config) (name : String) :
    q.pendingForName name = q.liveOf name := by
  have hfold : ∀ (jobs : List (Job H D)) (n : Nat),
      jobs.foldl (fun count job => count + if job.name = name then 1 else 0) n =
        n + jobs.countP fun job => job.name = name := by
    intro jobs
    induction jobs with
    | nil => exact fun n => rfl
    | cons job jobs ih =>
      intro n
      rw [List.foldl_cons, ih, List.countP_cons, Nat.add_assoc]
      simp only [decide_eq_true_eq, Nat.add_comm]
  rw [pendingForName, hfold, liveOf, live, List.countP_append, h.orderly.counted]

theorem Sound.full_iff (h : q.Sound config) (name : String) : q.full config name = true ↔
    config.maxPending ≤ q.pending.length ∨ config.capacity name ≤ q.liveOf name := by
  simp only [full, h.pendingForName_eq, Bool.or_eq_true, decide_eq_true_eq, Config.capacity]

theorem Fits.add (h : q.Fits config) (hsound : q.Sound config) (name : String) (data : D)
    (jobId : Option String) (drawn : String) :
    (q.add config name data jobId drawn).Fits config := by
  unfold Queue.add
  cases q.handlers name with
  | none => exact ⟨h.pending, h.live⟩
  | some handler =>
    dsimp only
    split_ifs with hknown hfull
    · exact ⟨h.pending, h.live⟩
    · exact ⟨h.pending, h.live⟩
    · rw [hsound.full_iff, not_or, Nat.not_le, Nat.not_le] at hfull
      refine ⟨?_, fun other => ?_⟩
      · simp only [Queue.answer, scheduleDrain, push, List.length_append, List.length_singleton]
        exact hfull.1
      · have hlive := h.live other
        change (q.active ++ (q.pending ++ [_])).countP _ ≤ _
        rw [← List.append_assoc, List.countP_append, List.countP_singleton]
        simp only [decide_eq_true_eq]
        split_ifs with hname
        · exact hname ▸ hfull.2
        · exact hlive

theorem Fits.drainFrom {jobs : List (Job H D)}
    (h : ({ q with pending := jobs } : Queue H D).Fits config) :
    (q.drainFrom config jobs).Fits config := by
  induction jobs generalizing q with
  | nil => exact h
  | cons job rest ih =>
    unfold Queue.drainFrom
    split_ifs with hfree
    · refine ih ⟨(Nat.le_succ _).trans h.pending, fun name => ?_⟩
      have hlive := h.live name
      simp only [liveOf, Queue.live, active, launch, List.append_assoc] at hlive ⊢
      exact hlive
    · exact h

theorem Fits.step (h : q.Fits config) (hsound : q.Sound config) (event : Event H D) :
    (q.step config event).Fits config := by
  cases event with
  | process name handler => exact ⟨h.pending, h.live⟩
  | add name data jobId drawn => exact h.add hsound name data jobId drawn
  | immediate =>
    unfold Queue.step
    dsimp only
    split_ifs
    · exact Fits.drainFrom (q := { q with drainScheduled := false }) ⟨h.pending, h.live⟩
    · exact h
  | invokes =>
    unfold Queue.step
    dsimp only
    cases hstarting : q.starting with
    | nil => exact h
    | cons job rest =>
      refine ⟨h.pending, fun name => ?_⟩
      have hlive := h.live name
      simp only [liveOf, Queue.live, active, hstarting, List.append_assoc] at hlive ⊢
      exact hlive
  | settles index =>
    unfold Queue.step
    dsimp only
    cases q.executing[index]? with
    | none => exact h
    | some job =>
      refine ⟨h.pending, fun name => le_trans (List.Sublist.countP_le ?_) (h.live name)⟩
      exact ((List.eraseIdx_sublist _ _).append_right _).append_right _

/-- Whatever is added, no more jobs wait and no more of a name run or wait than may, and a queue
refuses a job for its capacity only when it has come to one of the two. -/
theorem capacity_kept {events : List (Event H D)}
    (h : Along (Queue.step config) DrawsFresh new events) :
    let q := run (Queue.step config) new events
    q.pending.length ≤ config.maxPending ∧ (∀ name, q.liveOf name ≤ config.capacity name) ∧
      ∀ name, q.full config name = true ↔
        q.pending.length = config.maxPending ∨ q.liveOf name = config.capacity name := by
  obtain ⟨hsound, hfits⟩ := run_invariant (I := fun q => q.Sound config ∧ q.Fits config)
    (fun _ event hq hfresh => ⟨hq.1.step hfresh, hq.2.step hq.1 event⟩)
    ⟨sound_new config, Nat.zero_le _, fun _ => Nat.zero_le _⟩ h
  refine ⟨hfits.pending, hfits.live, fun name => (hsound.full_iff name).trans ?_⟩
  have hpending := hfits.pending
  have hlive := hfits.live name
  omega

theorem capacity_kept_sample :
    let q := run (Queue.step (.ofEnv (some 5) none none)) new (oneJob () ())
    q.pending.length ≤ 1000 ∧ q.liveOf "trap-forwarding-delivery" ≤ 100 :=
  have h := @capacity_kept Unit Unit (.ofEnv (some 5) none none) (oneJob () ())
    ⟨trivial, Finset.notMem_empty _, trivial, trivial⟩
  ⟨h.1, h.2.1 "trap-forwarding-delivery"⟩

end Queue

end FireIsp.Jobs
