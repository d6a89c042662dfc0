import FireIsp.Base.Run
import FireIsp.Cache.Memory
import Mathlib.Data.List.Nodup
import Mathlib.Logic.Function.Basic

/-!
# The scheduler of one process

Without Redis each tick of a task takes a lock in the cache, runs the task and deletes the lock.  A
tick comes to its run, or to none, before anything else happens; the run ends at any time.
-/

namespace FireIsp.Tasks

/-- An enabled row of `scheduled_tasks`. -/
structure Task where
  id : Nat
  taskName : String
  organizationId : Option Nat
  cronExpression : String
  deriving DecidableEq

/-- What is kept in the cache. -/
inductive Key
  | lock (taskName : String)
  | other (key : String)
  deriving DecidableEq

/-- A row that was scheduled. -/
structure Cron where
  task : Task
  stopped : Bool

/-- A run of a row. -/
structure Run where
  id : Nat
  task : Task

/-- The scheduler, its cache and its runs; a lock holds the number of its run. -/
structure Scheduler where
  clock : Nat
  cache : Cache.Memory Key (Option Nat)
  crons : List Cron
  jobs : String → Option Nat
  next : Nat
  going : List Run

/-- What happens. -/
inductive Event
  | start (tasks : List Task)
  | tick (job : Nat)
  | ends (run : Nat)
  | stop
  | elapse (milliseconds : Nat)
  | get (key : String)
  | set (key : String) (ttlSeconds : Nat)
  | del (key : String)

namespace Scheduler

/-- A scheduler that has not started. -/
def new (maxSize : Nat) : Scheduler where
  clock := 0
  cache := ⟨maxSize, []⟩
  crons := []
  jobs _ := none
  next := 0
  going := []

/-- The lifetime of a lock. -/
def ttlSeconds : Nat := 300

def schedule (valid : String → Bool) (s : Scheduler) (task : Task) : Scheduler :=
  if valid task.cronExpression then
    { s with
      crons := s.crons ++ [⟨task, false⟩]
      jobs := Function.update s.jobs task.taskName (some s.crons.length) }
  else s

/-- `acquireLock`, and the run if it was acquired. -/
def runTask (s : Scheduler) (task : Task) : Scheduler :=
  let (existing, cache) := s.cache.get s.clock (.lock task.taskName)
  if existing.isSome then { s with cache := cache }
  else
    { s with
      cache := cache.set s.clock (.lock task.taskName) (some s.next) ttlSeconds
      next := s.next + 1
      going := s.going ++ [⟨s.next, task⟩] }

/-- A row that was scheduled ticks, unless it was stopped. -/
def tick (s : Scheduler) (job : Nat) : Scheduler :=
  match s.crons[job]? with
  | none => s
  | some cron => if cron.stopped then s else s.runTask cron.task

/-- A run ends, and `releaseLock`. -/
def ends (s : Scheduler) (run : Nat) : Scheduler :=
  match s.going.find? fun u => u.id = run with
  | none => s
  | some u =>
    { s with
      cache := s.cache.del (.lock u.task.taskName)
      going := s.going.filter fun u => u.id ≠ run }

/-- `stop` stops the jobs it knows. -/
def stop (s : Scheduler) : Scheduler :=
  { s with
    crons := s.crons.mapIdx fun job cron =>
      if s.jobs cron.task.taskName = some job then { cron with stopped := true } else cron
    jobs := fun _ => none }

def step (valid : String → Bool) (s : Scheduler) : Event → Scheduler
  | .start tasks => tasks.foldl (schedule valid) s
  | .tick job => s.tick job
  | .ends run => s.ends run
  | .stop => s.stop
  | .elapse milliseconds => { s with clock := s.clock + milliseconds }
  | .get key => { s with cache := (s.cache.get s.clock (.other key)).2 }
  | .set key ttlSeconds => { s with cache := s.cache.set s.clock (.other key) none ttlSeconds }
  | .del key => { s with cache := s.cache.del (.other key) }

end Scheduler

end FireIsp.Tasks

/-!
## Runs of the rows

A lock belongs to a run that goes on, unless the run outlived it.  Where no tick meets a run of
another row of the same name, or one that outlived its lock, every row runs once at a time.
-/

namespace FireIsp.Tasks

open Transition Cache

namespace Scheduler

variable {valid : String → Bool} {s : Scheduler} {task : Task}

def ticking (s : Scheduler) (job : Nat) : Option Task :=
  s.crons[job]?.bind fun cron => if cron.stopped then none else some cron.task

def locked (s : Scheduler) (taskName : String) : Bool :=
  (s.cache.lookup (.lock taskName)).any fun entry => !entry.ended s.clock

/-- A tick meets no run of another row of its name, nor one that outlived its lock. -/
def Met (s : Scheduler) : Event → Prop
  | .tick job =>
    ∀ task ∈ s.ticking job, ∀ u ∈ s.going,
      u.task.id = task.id ∨ u.task.taskName = task.taskName →
        u.task.id = task.id ∧ s.locked task.taskName = true
  | .stop => s.crons.Pairwise fun a b =>
    a.stopped = false → b.stopped = false → a.task.taskName ≠ b.task.taskName
  | _ => True

/-- A tick starts one run if none goes on, and locks are released by their own runs. -/
def Kept (valid : String → Bool) (s : Scheduler) : Event → Prop
  | .tick job =>
    match s.ticking job with
    | none => (s.tick job).going = s.going
    | some task =>
      if ∃ u ∈ s.going, u.task.id = task.id then (s.tick job).going = s.going
      else (s.tick job).going = s.going ++ [⟨s.next, task⟩]
  | .ends run =>
    ∀ u ∈ s.going, u.id = run → ∀ entry ∈ s.cache.lookup (.lock u.task.taskName),
      entry.value = some run
  | .stop =>
    ∀ later, ∀ job < s.crons.length,
      ((run (step valid) s.stop later).tick job).going = (run (step valid) s.stop later).going
  | _ => True

instance (s : Scheduler) : DecidablePred s.Met
  | .start _ => isTrue trivial
  | .tick job => inferInstanceAs (Decidable (∀ task ∈ s.ticking job, _))
  | .ends _ => isTrue trivial
  | .stop => inferInstanceAs (Decidable (List.Pairwise _ _))
  | .elapse _ => isTrue trivial
  | .get _ => isTrue trivial
  | .set _ _ => isTrue trivial
  | .del _ => isTrue trivial

/-- What holds of a scheduler. -/
structure Sound (s : Scheduler) : Prop where
  held : ∀ taskName entry, s.cache.lookup (.lock taskName) = some entry →
    ∃ u ∈ s.going, u.task.taskName = taskName ∧ entry.value = some u.id
  past : ∀ u ∈ s.going, u.id < s.next
  numbered : (s.going.map Run.id).Nodup
  rows : (s.going.map fun u => u.task.id).Nodup
  names : (s.going.map fun u => u.task.taskName).Nodup
  known : ∀ job task, s.ticking job = some task →
    ∃ last other, s.jobs task.taskName = some last ∧ s.ticking last = some other ∧
      other.taskName = task.taskName

theorem sound_new (maxSize : Nat) : (new maxSize).Sound where
  held _ _ h := nomatch h
  past _ h := nomatch h
  numbered := List.nodup_nil
  rows := List.nodup_nil
  names := List.nodup_nil
  known _ _ h := nomatch h

theorem Sound.cached (h : s.Sound) {cache : Memory Key (Option Nat)} {clock : Nat}
    (hcache : ∀ taskName entry, cache.lookup (.lock taskName) = some entry →
      s.cache.lookup (.lock taskName) = some entry) :
    ({ s with cache := cache, clock := clock } : Scheduler).Sound :=
  { h with held := fun taskName entry hentry => h.held taskName entry (hcache taskName entry hentry) }

theorem ticking_schedule (hvalid : valid task.cronExpression = true) (job : Nat) :
    (s.schedule valid task).ticking job =
      if job = s.crons.length then some task else s.ticking job := by
  unfold schedule ticking
  rw [if_pos hvalid]
  dsimp only
  rw [List.getElem?_append]
  split_ifs with hlt heq heq
  · omega
  · rfl
  · subst heq
    rw [Nat.sub_self]
    rfl
  · rw [List.getElem?_eq_none (by simp only [List.length_singleton]; omega),
      List.getElem?_eq_none (by omega)]

theorem Sound.schedule (h : s.Sound) (task : Task) : (s.schedule valid task).Sound := by
  by_cases hvalid : valid task.cronExpression = true
  · have hjobs : (s.schedule valid task).jobs =
        Function.update s.jobs task.taskName (some s.crons.length) := by
      unfold Scheduler.schedule
      rw [if_pos hvalid]
    have hknown : ∀ job row, (s.schedule valid task).ticking job = some row →
        ∃ last other, (s.schedule valid task).jobs row.taskName = some last ∧
          (s.schedule valid task).ticking last = some other ∧ other.taskName = row.taskName := by
      intro job row hrow
      rw [hjobs]
      by_cases hname : row.taskName = task.taskName
      · refine ⟨s.crons.length, task, ?_, ?_, hname.symm⟩
        · rw [hname, Function.update_self]
        · rw [ticking_schedule hvalid, if_pos rfl]
      · rw [ticking_schedule hvalid] at hrow
        split_ifs at hrow with hjob
        · exact absurd (congrArg Task.taskName (Option.some.inj hrow)).symm hname
        · obtain ⟨last, other, hlast, hother, hsame⟩ := h.known job row hrow
          refine ⟨last, other, ?_, ?_, hsame⟩
          · rw [Function.update_of_ne hname, hlast]
          · rw [ticking_schedule hvalid, if_neg, hother]
            rintro rfl
            unfold ticking at hother
            rw [List.getElem?_eq_none (Nat.le_refl _)] at hother
            exact nomatch hother
    unfold Scheduler.schedule at hknown ⊢
    rw [if_pos hvalid] at hknown ⊢
    exact { h with known := hknown }
  · unfold Scheduler.schedule
    rw [if_neg hvalid]
    exact h

theorem Sound.start (h : s.Sound) (tasks : List Task) :
    (tasks.foldl (Scheduler.schedule valid) s).Sound := by
  induction tasks generalizing s with
  | nil => exact h
  | cons task tasks ih => exact ih (h.schedule task)

theorem isSome_get (s : Scheduler) (taskName : String) :
    (s.cache.get s.clock (.lock taskName)).1.isSome = s.locked taskName := by
  rw [Memory.get_fst]
  unfold locked
  cases s.cache.lookup (.lock taskName) with
  | none => rfl
  | some entry =>
    rw [Option.bind_some, Option.any_some]
    cases entry.ended s.clock <;> rfl

theorem nodup_map_concat {α β : Type} {f : α → β} {l : List α} {a : α} (h : (l.map f).Nodup)
    (hnew : ∀ b ∈ l, f b ≠ f a) : ((l ++ [a]).map f).Nodup := by
  rw [List.map_append, List.map_singleton, List.nodup_append]
  refine ⟨h, List.nodup_singleton _, fun x hx y hy => ?_⟩
  obtain ⟨b, hb, rfl⟩ := List.mem_map.mp hx
  rw [List.mem_singleton.mp hy]
  exact hnew b hb

theorem Sound.launch (h : s.Sound) {cache : Memory Key (Option Nat)}
    (hcache : ∀ taskName entry, taskName ≠ task.taskName →
      cache.lookup (.lock taskName) = some entry → s.cache.lookup (.lock taskName) = some entry)
    (hlock : ∀ entry, cache.lookup (.lock task.taskName) = some entry → entry.value = some s.next)
    (hrow : ∀ u ∈ s.going, u.task.id ≠ task.id)
    (hname : ∀ u ∈ s.going, u.task.taskName ≠ task.taskName) :
    ({ s with
        cache := cache
        next := s.next + 1
        going := s.going ++ [⟨s.next, task⟩] } : Scheduler).Sound := by
  refine { h with
    held := fun taskName entry hentry => ?_
    past := fun u hu => ?_
    numbered := nodup_map_concat h.numbered fun u hu => Nat.ne_of_lt (h.past u hu)
    rows := nodup_map_concat h.rows hrow
    names := nodup_map_concat h.names hname }
  · by_cases heq : taskName = task.taskName
    · subst heq
      exact ⟨⟨s.next, task⟩, List.mem_append_right _ List.mem_cons_self, rfl, hlock entry hentry⟩
    · obtain ⟨u, hu, hheld⟩ := h.held taskName entry (hcache taskName entry heq hentry)
      exact ⟨u, List.mem_append_left _ hu, hheld⟩
  · rcases List.mem_append.mp hu with hold | hnew
    · exact Nat.lt_succ_of_lt (h.past u hold)
    · rw [List.mem_singleton.mp hnew]
      exact Nat.lt_succ_self s.next

theorem Sound.runTask (h : s.Sound)
    (hmet : ∀ u ∈ s.going, u.task.id = task.id ∨ u.task.taskName = task.taskName →
      u.task.id = task.id ∧ s.locked task.taskName = true) :
    (s.runTask task).Sound ∧
      (s.runTask task).going =
        if ∃ u ∈ s.going, u.task.id = task.id then s.going else s.going ++ [⟨s.next, task⟩] := by
  have hlocked : s.locked task.taskName = true ↔ ∃ u ∈ s.going, u.task.id = task.id := by
    constructor
    · intro hheld
      obtain ⟨entry, hentry, -⟩ := (Option.any_eq_true _ _).mp hheld
      obtain ⟨u, hu, hname, -⟩ := h.held _ _ hentry
      exact ⟨u, hu, (hmet u hu (.inr hname)).1⟩
    · rintro ⟨u, hu, hid⟩
      exact (hmet u hu (.inl hid)).2
  unfold Scheduler.runTask
  dsimp only
  rw [isSome_get]
  by_cases hheld : s.locked task.taskName = true
  · rw [if_pos hheld, if_pos (hlocked.mp hheld)]
    exact ⟨h.cached fun _ _ hentry => Memory.lookup_get hentry, rfl⟩
  · rw [if_neg hheld, if_neg (mt hlocked.mpr hheld)]
    refine ⟨h.launch ?_ ?_ ?_ ?_, rfl⟩
    · intro taskName entry hne hentry
      have hkey : Key.lock taskName ≠ .lock task.taskName := fun heq => hne (Key.lock.inj heq)
      exact Memory.lookup_get (Memory.lookup_set_other hkey hentry)
    · intro entry hentry
      rw [Memory.lookup_set_self] at hentry
      rw [← Option.some.inj hentry]
    · exact fun u hu hid => hheld (hmet u hu (.inl hid)).2
    · exact fun u hu hname => hheld (hmet u hu (.inr hname)).2

theorem tick_eq (s : Scheduler) (job : Nat) :
    s.tick job = match s.ticking job with
      | none => s
      | some task => s.runTask task := by
  unfold tick ticking
  cases s.crons[job]? with
  | none => rfl
  | some cron =>
    dsimp only [Option.bind_some]
    cases cron.stopped <;> rfl

theorem Sound.tick (h : s.Sound) {job : Nat} (hmet : s.Met (.tick job)) :
    (s.tick job).Sound ∧ s.Kept valid (.tick job) := by
  unfold Kept
  dsimp only
  rw [tick_eq]
  cases hticking : s.ticking job with
  | none => exact ⟨h, rfl⟩
  | some task =>
    obtain ⟨hsound, hgoing⟩ := h.runTask (hmet task hticking)
    refine ⟨hsound, ?_⟩
    dsimp only
    rw [hgoing]
    split_ifs <;> rfl

theorem Sound.own (h : s.Sound) {u : Run} (hu : u ∈ s.going) {entry : Entry (Option Nat)}
    (hentry : s.cache.lookup (.lock u.task.taskName) = some entry) : entry.value = some u.id := by
  obtain ⟨holder, hholder, hname, hvalue⟩ := h.held _ _ hentry
  rw [hvalue, List.inj_on_of_nodup_map h.names hholder hu hname]

theorem Sound.ends (h : s.Sound) (run : Nat) : (s.ends run).Sound := by
  unfold Scheduler.ends
  cases hfound : s.going.find? fun u => u.id = run with
  | none => exact h
  | some u =>
    have hu := List.mem_of_find?_eq_some hfound
    have hid : u.id = run := by simpa using List.find?_some hfound
    have hsub : (s.going.filter fun u => u.id ≠ run).Sublist s.going := List.filter_sublist
    refine { h with
      held := fun taskName entry hentry => ?_
      past := fun v hv => h.past v (hsub.subset hv)
      numbered := h.numbered.sublist (hsub.map _)
      rows := h.rows.sublist (hsub.map _)
      names := h.names.sublist (hsub.map _) }
    by_cases hname : taskName = u.task.taskName
    · rw [hname, Memory.lookup_del_self] at hentry
      exact nomatch hentry
    · rw [Memory.lookup_del_other (fun heq => hname (Key.lock.inj heq))] at hentry
      obtain ⟨holder, hholder, hheld, hvalue⟩ := h.held _ _ hentry
      refine ⟨holder, List.mem_filter.mpr ⟨hholder, decide_eq_true fun heq => ?_⟩, hheld, hvalue⟩
      have hsame := List.inj_on_of_nodup_map h.numbered hholder hu (heq.trans hid.symm)
      exact hname (hheld.symm.trans (congrArg (fun u => u.task.taskName) hsame))

theorem ticking_congr {t : Scheduler} (h : t.crons = s.crons) (job : Nat) :
    t.ticking job = s.ticking job := by
  unfold ticking
  rw [h]

theorem crons_tick (s : Scheduler) (job : Nat) : (s.tick job).crons = s.crons := by
  rw [tick_eq]
  cases s.ticking job with
  | none => rfl
  | some task =>
    dsimp only
    unfold Scheduler.runTask
    dsimp only
    split_ifs <;> rfl

theorem crons_ends (s : Scheduler) (run : Nat) : (s.ends run).crons = s.crons := by
  unfold Scheduler.ends
  cases s.going.find? fun u => u.id = run <;> rfl

theorem ticking_stop (s : Scheduler) (job : Nat) :
    s.stop.ticking job = (s.ticking job).bind fun task =>
      if s.jobs task.taskName = some job then none else some task := by
  unfold ticking stop
  rw [List.getElem?_mapIdx]
  cases s.crons[job]? with
  | none => rfl
  | some cron =>
    dsimp only [Option.map_some, Option.bind_some]
    split_ifs <;> simp_all

/-- The first jobs do not tick. -/
structure Quiet (jobs : Nat) (s : Scheduler) : Prop where
  within : jobs ≤ s.crons.length
  silent : ∀ job < jobs, s.ticking job = none

variable {jobs : Nat}

theorem Quiet.congr (h : Quiet jobs s) {t : Scheduler} (hcrons : t.crons = s.crons) :
    Quiet jobs t :=
  ⟨by rw [hcrons]; exact h.within, fun job hjob => by rw [ticking_congr hcrons, h.silent job hjob]⟩

theorem Quiet.schedule (h : Quiet jobs s) (task : Task) : Quiet jobs (s.schedule valid task) := by
  by_cases hvalid : valid task.cronExpression = true
  · have hlength : (s.schedule valid task).crons.length = s.crons.length + 1 := by
      unfold Scheduler.schedule
      rw [if_pos hvalid]
      exact List.length_append
    have hwithin := h.within
    refine ⟨by omega, fun job hjob => ?_⟩
    rw [ticking_schedule hvalid, if_neg (by omega), h.silent job hjob]
  · unfold Scheduler.schedule
    rw [if_neg hvalid]
    exact h

theorem Quiet.step (h : Quiet jobs s) (event : Event) : Quiet jobs (s.step valid event) := by
  cases event with
  | start tasks =>
    unfold Scheduler.step
    dsimp only
    induction tasks generalizing s with
    | nil => exact h
    | cons task tasks ih => exact ih (h.schedule task)
  | tick job => exact h.congr (crons_tick s job)
  | ends run => exact h.congr (crons_ends s run)
  | stop =>
    refine ⟨?_, fun job hjob => ?_⟩
    · exact Nat.le_trans h.within (Nat.le_of_eq List.length_mapIdx.symm)
    · exact (ticking_stop s job).trans (by rw [h.silent job hjob]; rfl)
  | _ => exact h.congr rfl

theorem Sound.silent_stop (h : s.Sound) (hmet : s.Met .stop) (job : Nat) :
    s.stop.ticking job = none := by
  have hlive : ∀ {job : Nat} {task : Task}, s.ticking job = some task →
      ∃ hjob : job < s.crons.length, s.crons[job].stopped = false ∧ s.crons[job].task = task := by
    intro job task hjob
    obtain ⟨cron, hcron, htask⟩ := Option.bind_eq_some_iff.mp hjob
    obtain ⟨hlt, rfl⟩ := List.getElem?_eq_some_iff.mp hcron
    split_ifs at htask with hstopped
    exact ⟨hlt, Bool.not_eq_true _ ▸ hstopped, Option.some.inj htask⟩
  rw [ticking_stop]
  cases hticking : s.ticking job with
  | none => rfl
  | some task =>
    obtain ⟨last, other, hlast, hother, hname⟩ := h.known job task hticking
    obtain ⟨hjob, hgoes, htask⟩ := hlive hticking
    obtain ⟨hlt, hgoes', hother⟩ := hlive hother
    have hapart := List.pairwise_iff_getElem.mp hmet
    have hsame : last = job := by
      rcases Nat.lt_trichotomy last job with hbefore | heq | hafter
      · refine absurd ?_ (hapart last job hlt hjob hbefore hgoes' hgoes)
        rw [hother, htask, hname]
      · exact heq
      · refine absurd ?_ (hapart job last hjob hlt hafter hgoes hgoes')
        rw [hother, htask, hname]
    rw [Option.bind_some, if_pos (hsame ▸ hlast)]

theorem Sound.step (h : s.Sound) {event : Event} (hmet : s.Met event) :
    (s.step valid event).Sound := by
  cases event with
  | start tasks => exact h.start tasks
  | tick job =>
    have htick : (s.tick job).Sound ∧ s.Kept valid (.tick job) := h.tick hmet
    exact htick.1
  | ends run => exact h.ends run
  | stop =>
    have hsilent := h.silent_stop hmet
    exact { h with known := fun job task hticking => nomatch (hsilent job).symm.trans hticking }
  | elapse milliseconds => exact h.cached fun _ _ hentry => hentry
  | get key => exact h.cached fun _ _ hentry => Memory.lookup_get hentry
  | set key ttlSeconds =>
    exact h.cached fun _ _ hentry => Memory.lookup_set_other Key.noConfusion hentry
  | del key => exact h.cached fun _ _ hentry => Memory.lookup_del hentry

theorem Sound.kept (h : s.Sound) {event : Event} (hmet : s.Met event) : s.Kept valid event := by
  cases event with
  | tick job => exact (h.tick hmet).2
  | ends run =>
    rintro u hu rfl entry hentry
    exact h.own hu hentry
  | stop =>
    intro later job hjob
    have hstop : Quiet s.crons.length s.stop :=
      ⟨Nat.le_of_eq List.length_mapIdx.symm, fun job _ => h.silent_stop hmet job⟩
    have hquiet : Quiet s.crons.length (run (Scheduler.step valid) s.stop later) :=
      run_preserves (fun _ event hquiet => hquiet.step event) hstop later
    rw [tick_eq, hquiet.silent job hjob]
  | _ => trivial

/-- Rows run once at a time and for every tick, where names and locks do not collide. -/
theorem runs_once (valid : String → Bool) (maxSize : Nat) (events : List Event)
    (h : Along (step valid) Met (new maxSize) events) :
    Along (step valid) (Kept valid) (new maxSize) events ∧
      ((run (step valid) (new maxSize) events).going.map fun u => u.task.id).Nodup := by
  have hstep : ∀ (s : Scheduler) event, s.Sound → s.Met event → (s.step valid event).Sound :=
    fun _ _ hs hmet => hs.step hmet
  have hsound := run_invariant hstep (sound_new maxSize) h
  exact ⟨h.kept hstep (fun _ _ hs hmet => hs.kept hmet) (sound_new maxSize), hsound.rows⟩

/-- Two rows of one organization. -/
def rowsSample : List Task := [⟨1, "billing", some 1, "0 2 * * *"⟩, ⟨2, "backup", some 1, "0 3 * * *"⟩]

/-- A row ticks while it runs and after it ran, and the scheduler stops. -/
def eventsSample : List Event :=
  [.start rowsSample, .tick 0, .elapse 60000, .tick 0, .tick 1, .ends 0, .tick 0, .stop, .tick 1]

theorem runs_once_sample :
    Along (step fun _ => true) (Kept fun _ => true) (new 1000) eventsSample ∧
      ((run (step fun _ => true) (new 1000) eventsSample).going.map fun u => u.task.id).Nodup :=
  runs_once (fun _ => true) 1000 eventsSample (by decide)

/-- Of two organizations' rows of one name the second one does not run while the first one does. -/
theorem runs_once_fails :
    ¬Along (step fun _ => true) (Kept fun _ => true) (new 1000)
      [.start [⟨1, "billing", some 1, "0 2 * * *"⟩, ⟨2, "billing", some 2, "0 2 * * *"⟩],
        .tick 0, .tick 1] := by
  intro h
  have hsecond := h.2.2.1
  exact nomatch hsecond

end Scheduler

end FireIsp.Tasks
