import FireIsp.Base.Run
import Mathlib.Data.List.Induction

/-!
# Calls through a circuit breaker

A breaker counts failures that follow each other and keeps the time of the last one.  From `threshold`
failures on it is open; when `resetMs` have passed since the last one it lets calls through.  Any number
of calls may be running; what happened since the breaker opened is kept beside it.
-/

namespace FireIsp.Circuit

/-- What a breaker is created with. -/
structure Options where
  name : String
  threshold : Nat := 5
  resetMs : Nat := 60000

/-- `state` -/
inductive Status
  | closed
  | opened
  | halfOpen

/-- The variables of a breaker. -/
structure Breaker where
  failures : Nat
  lastFailure : Nat
  status : Status

/-- What `getState` returns. -/
structure Report where
  name : String
  status : Status
  failures : Nat
  threshold : Nat
  resetMs : Nat
  lastFailure : Nat

namespace Breaker

/-- `createCircuitBreaker` -/
def new : Breaker := ⟨0, 0, .closed⟩

def isOpen (o : Options) (now : Nat) (b : Breaker) : Bool × Breaker :=
  if b.failures < o.threshold then (false, { b with status := .closed })
  else if o.resetMs + b.lastFailure < now then (false, { b with status := .halfOpen })
  else (true, { b with status := .opened })

def recordSuccess (b : Breaker) : Breaker := { b with failures := 0, status := .closed }

def recordFailure (o : Options) (now : Nat) (b : Breaker) : Breaker where
  failures := b.failures + 1
  lastFailure := now
  status := if o.threshold ≤ b.failures + 1 then .opened else b.status

def getState (o : Options) (now : Nat) (b : Breaker) : Report × Breaker :=
  let b := (b.isOpen o now).2
  (⟨o.name, b.status, b.failures, o.threshold, o.resetMs, b.lastFailure⟩, b)

end Breaker

/-- What a call is refused with. -/
def refusal (o : Options) : String :=
  o.name ++ " circuit breaker is open — too many consecutive failures"

/-- A wrapped call that has not ended. -/
structure Running where
  id : Nat
  startedAt : Nat

/-- What happened since the breaker opened. -/
structure Opening where
  /-- Number of calls that were started before it. -/
  before : Nat
  /-- When calls were started since, the last one first. -/
  probes : List Nat

/-- A breaker and its calls. -/
structure System where
  now : Nat
  breaker : Breaker
  next : Nat
  running : List Running
  /-- The opening after which no call has been started that succeeded. -/
  opening : Option Opening

/-- What happens. -/
inductive Event
  | call
  | succeeds (id : Nat)
  | fails (id : Nat)
  | getState
  | elapse (milliseconds : Nat)

namespace System

/-- A breaker that was created just now. -/
def new (now : Nat) : System := ⟨now, .new, 0, [], none⟩

/-- `call`, up to the wrapped function: its number, or what the call is refused with. -/
def call (o : Options) (s : System) : Except String Nat × System :=
  match s.breaker.isOpen o s.now with
  | (true, b) => (.error (refusal o), { s with breaker := b })
  | (false, b) =>
    (.ok s.next,
      { s with
        breaker := b
        next := s.next + 1
        running := ⟨s.next, s.now⟩ :: s.running
        opening := s.opening.map fun opening =>
          { opening with probes := s.now :: opening.probes } })

/-- The wrapped function of a call returns; a call started since the breaker opened ends the opening. -/
def succeeds (s : System) (id : Nat) : System :=
  if ∃ r ∈ s.running, r.id = id then
    { s with
      breaker := s.breaker.recordSuccess
      running := s.running.filter fun r => r.id ≠ id
      opening := s.opening.filter fun opening => decide (id < opening.before) }
  else s

/-- The wrapped function of a call throws; the breaker opens when its count comes to the threshold. -/
def fails (o : Options) (s : System) (id : Nat) : System :=
  if ∃ r ∈ s.running, r.id = id then
    { s with
      breaker := s.breaker.recordFailure o s.now
      running := s.running.filter fun r => r.id ≠ id
      opening :=
        match s.opening with
        | some opening => some opening
        | none => if o.threshold ≤ s.breaker.failures + 1 then some ⟨s.next, []⟩ else none }
  else s

def step (o : Options) (s : System) : Event → System
  | .call => (s.call o).2
  | .succeeds id => s.succeeds id
  | .fails id => s.fails o id
  | .getState => { s with breaker := (s.breaker.getState o s.now).2 }
  | .elapse milliseconds => { s with now := s.now + milliseconds }

end System

end FireIsp.Circuit

/-!
## One probe in each cooldown

While a breaker is open at most one wrapped call is started in each cooldown, and no call from before
closes it, as long as no call comes in behind the cooldown while a probe is running that was started
less than a cooldown before, and none from before the opening returns.  Where one of the two happens,
one of the two fails.
-/

namespace FireIsp.Circuit

open Transition

namespace System

variable {o : Options} {s : System}

/-- Any two starts are further apart than the cooldown. -/
def Spaced (resetMs : Nat) (probes : List Nat) : Prop :=
  probes.Pairwise fun later earlier => earlier + resetMs < later

instance (resetMs : Nat) (probes : List Nat) : Decidable (Spaced resetMs probes) :=
  inferInstanceAs (Decidable (probes.Pairwise _))

/-- Until a later call succeeds the breaker stays open, with one call started in each cooldown. -/
def Single (o : Options) (s : System) : Prop :=
  ∀ opening ∈ s.opening, o.threshold ≤ s.breaker.failures ∧ Spaced o.resetMs opening.probes

instance (o : Options) (s : System) : Decidable (Single o s) :=
  inferInstanceAs (Decidable (∀ opening ∈ s.opening, _))

/-- Behind the cooldown a call meets no running probe, and what returns was started since opening. -/
def Alone (o : Options) (s : System) : Event → Prop
  | .call => ∀ opening ∈ s.opening, o.resetMs + s.breaker.lastFailure < s.now →
      ∀ r ∈ s.running, opening.before ≤ r.id → r.startedAt + o.resetMs < s.now
  | .succeeds id => ∀ opening ∈ s.opening, (∃ r ∈ s.running, r.id = id) → opening.before ≤ id
  | _ => True

instance (o : Options) (s : System) (event : Event) : Decidable (Alone o s event) := by
  cases event <;> unfold Alone <;> infer_instance

/-- What is known of an opening: each probe is running, or ended before the last failure. -/
structure Known (o : Options) (s : System) (opening : Opening) : Prop where
  past : opening.before ≤ s.next
  reached : o.threshold ≤ s.breaker.failures
  /-- Probes are further apart than the cooldown. -/
  spaced : Spaced o.resetMs opening.probes
  ended : ∀ probe ∈ opening.probes, probe ≤ s.breaker.lastFailure ∨
    ∃ r ∈ s.running, opening.before ≤ r.id ∧ r.startedAt = probe
  listed : ∀ r ∈ s.running, opening.before ≤ r.id → r.startedAt ∈ opening.probes

/-- What holds of a breaker and its calls. -/
structure Inv (o : Options) (s : System) : Prop where
  failed : s.breaker.lastFailure ≤ s.now
  started : ∀ r ∈ s.running, r.startedAt ≤ s.now ∧ r.id < s.next
  known : ∀ opening ∈ s.opening, Known o s opening

theorem inv_new (o : Options) (now : Nat) : Inv o (new now) where
  failed := Nat.zero_le now
  started := nofun
  known := nofun

theorem Inv.single (h : Inv o s) : Single o s := by
  intro opening hopening
  exact ⟨(h.known opening hopening).reached, (h.known opening hopening).spaced⟩

theorem Inv.status (h : Inv o s) (status : Status) :
    Inv o { s with breaker := { s.breaker with status } } where
  failed := h.failed
  started := h.started
  known opening hopening :=
    ⟨(h.known opening hopening).past, (h.known opening hopening).reached,
      (h.known opening hopening).spaced, (h.known opening hopening).ended,
      (h.known opening hopening).listed⟩

theorem isOpen_cases (o : Options) (now : Nat) (b : Breaker) :
    (∃ status, (b.isOpen o now).2 = { b with status }) ∧
      ((b.isOpen o now).1 = false ↔
        b.failures < o.threshold ∨ o.resetMs + b.lastFailure < now) := by
  unfold Breaker.isOpen
  split_ifs with hlow hcool
  · exact ⟨⟨_, rfl⟩, by simp [hlow]⟩
  · exact ⟨⟨_, rfl⟩, by simp [hcool]⟩
  · exact ⟨⟨_, rfl⟩, by simp [hlow, hcool]⟩

theorem call_cases (o : Options) (s : System) : ∃ status,
    (s.step o .call = { s with breaker := { s.breaker with status } } ∧
      ¬(s.breaker.failures < o.threshold ∨ o.resetMs + s.breaker.lastFailure < s.now)) ∨
    (s.step o .call =
        { s with
          breaker := { s.breaker with status }
          next := s.next + 1
          running := ⟨s.next, s.now⟩ :: s.running
          opening := s.opening.map fun opening =>
            { opening with probes := s.now :: opening.probes } } ∧
      (s.breaker.failures < o.threshold ∨ o.resetMs + s.breaker.lastFailure < s.now)) := by
  obtain ⟨⟨status, hstatus⟩, hopen⟩ := isOpen_cases o s.now s.breaker
  refine ⟨status, ?_⟩
  simp only [step, call]
  cases hcase : s.breaker.isOpen o s.now with
  | mk refused b =>
    rw [hcase] at hstatus hopen
    obtain rfl := hstatus
    cases refused with
    | true => exact .inl ⟨rfl, mt hopen.mpr (by simp)⟩
    | false => exact .inr ⟨rfl, hopen.mp rfl⟩

theorem Inv.call (h : Inv o s) (halone : Alone o s .call) : Inv o (s.step o .call) := by
  obtain ⟨status, ⟨hstep, -⟩ | ⟨hstep, hopen⟩⟩ := call_cases o s
  · rw [hstep]
    exact h.status status
  · rw [hstep]
    refine ⟨h.failed, ?_, ?_⟩
    · intro r hr
      rcases List.mem_cons.mp hr with rfl | hr
      · exact ⟨Nat.le_refl _, Nat.lt_succ_self _⟩
      · obtain ⟨htime, hid⟩ := h.started r hr
        exact ⟨htime, by simp only; omega⟩
    · rintro _ hopening
      obtain ⟨opening, hold, rfl⟩ := Option.map_eq_some_iff.mp hopening
      have hknown := h.known opening hold
      have hpast := hknown.past
      have hcool : o.resetMs + s.breaker.lastFailure < s.now := by
        have hreached := hknown.reached
        omega
      refine ⟨Nat.le_succ_of_le hpast, hknown.reached, List.pairwise_cons.mpr ⟨fun probe hprobe => ?_, hknown.spaced⟩, ?_, ?_⟩
      · -- A probe has failed, and the cooldown counts from there, or it is running.
        rcases hknown.ended probe hprobe with hended | ⟨r, hr, hid, rfl⟩
        · omega
        · exact halone opening hold hcool r hr hid
      · intro probe hprobe
        rcases List.mem_cons.mp hprobe with rfl | hprobe
        · exact .inr ⟨⟨s.next, s.now⟩, List.mem_cons_self, hpast, rfl⟩
        · rcases hknown.ended probe hprobe with hended | ⟨r, hr, hid, htime⟩
          · exact .inl hended
          · exact .inr ⟨r, List.mem_cons_of_mem _ hr, hid, htime⟩
      · intro r hr hid
        rcases List.mem_cons.mp hr with rfl | hr
        · exact List.mem_cons_self
        · exact List.mem_cons_of_mem _ (hknown.listed r hr hid)

theorem Inv.succeeds (h : Inv o s) {id : Nat} (halone : Alone o s (.succeeds id)) :
    Inv o (s.step o (.succeeds id)) := by
  simp only [step, System.succeeds]
  split_ifs with hrunning
  · refine ⟨h.failed, fun r hr => h.started r (List.mem_of_mem_filter hr), fun opening hopening => ?_⟩
    obtain ⟨hold, hstale⟩ := Option.filter_eq_some_iff.mp hopening
    have hsince := halone opening hold hrunning
    have hbefore := of_decide_eq_true hstale
    omega
  · exact h

theorem Inv.fails (h : Inv o s) (id : Nat) : Inv o (s.step o (.fails id)) := by
  simp only [step, System.fails]
  by_cases hrunning : ∃ r ∈ s.running, r.id = id
  · rw [if_pos hrunning]
    refine ⟨Nat.le_refl _, fun r hr => h.started r (List.mem_of_mem_filter hr),
      fun opening hopening => ?_⟩
    cases hold : s.opening with
    | none =>
      simp only [hold] at hopening
      by_cases hreached : o.threshold ≤ s.breaker.failures + 1
      · rw [if_pos hreached] at hopening
        obtain rfl := Option.some.inj hopening
        refine ⟨Nat.le_refl _, hreached, List.Pairwise.nil, nofun, fun r hr hid => ?_⟩
        have hless := (h.started r (List.mem_of_mem_filter hr)).2
        simp only at hid
        omega
      · rw [if_neg hreached] at hopening
        exact nomatch hopening
    | some known =>
      simp only [hold] at hopening
      obtain rfl := Option.some.inj hopening
      have hknown := h.known known hold
      have hreached := hknown.reached
      refine ⟨hknown.past, Nat.le_succ_of_le hreached, hknown.spaced,
        fun probe hprobe => .inl ?_, fun r hr hid => hknown.listed r (List.mem_of_mem_filter hr) hid⟩
      -- Whatever probe failed now, it was started before.
      have hfailed := h.failed
      simp only [Breaker.recordFailure]
      rcases hknown.ended probe hprobe with hended | ⟨r, hr, -, rfl⟩
      · omega
      · exact (h.started r hr).1
  · rw [if_neg hrunning]
    exact h

theorem Inv.step (h : Inv o s) {event : Event} (halone : Alone o s event) :
    Inv o (s.step o event) := by
  cases event with
  | call => exact h.call halone
  | succeeds id => exact h.succeeds halone
  | fails id => exact h.fails id
  | getState =>
    obtain ⟨⟨status, hstatus⟩, -⟩ := isOpen_cases o s.now s.breaker
    simp only [System.step, Breaker.getState, hstatus]
    exact h.status status
  | elapse milliseconds =>
    have hfailed := h.failed
    refine ⟨by simp only [System.step]; omega, fun r hr => ?_, fun opening hopening => ?_⟩
    · obtain ⟨htime, hid⟩ := h.started r hr
      exact ⟨by simp only [System.step]; omega, hid⟩
    · have hknown := h.known opening hopening
      exact ⟨hknown.past, hknown.reached, hknown.spaced, hknown.ended, hknown.listed⟩

theorem Inv.alone (h : Inv o s) (hthreshold : 0 < o.threshold) {event : Event}
    (hsingle : Single o (s.step o event)) : Alone o s event := by
  cases event with
  | call =>
    intro opening hopening hcool r hr hid
    obtain ⟨status, ⟨-, hrefused⟩ | ⟨hstep, -⟩⟩ := call_cases o s
    · exact absurd (.inr hcool) hrefused
    · rw [hstep] at hsingle
      have hnow := (hsingle _ (Option.map_eq_some_iff.mpr ⟨opening, hopening, rfl⟩)).2
      exact (List.pairwise_cons.mp hnow).1 _ ((h.known opening hopening).listed r hr hid)
  | succeeds id =>
    intro opening hopening hrunning
    by_contra hbefore
    rw [System.step, System.succeeds, if_pos hrunning] at hsingle
    have hstays := (hsingle opening (Option.filter_eq_some_iff.mpr
      ⟨hopening, decide_eq_true (Nat.lt_of_not_le hbefore)⟩)).1
    have hzero : o.threshold ≤ 0 := hstays
    omega
  | fails id => trivial
  | getState => trivial
  | elapse milliseconds => trivial

/-- A breaker lets one call start in each cooldown exactly in runs of calls that are `Alone`. -/
theorem single_probe (o : Options) (now : Nat) (events : List Event) :
    (Along (step o) (Alone o) (new now) events →
      ∀ ahead, ahead <+: events → Single o (run (step o) (new now) ahead)) ∧
    (0 < o.threshold → (∀ ahead, ahead <+: events → Single o (run (step o) (new now) ahead)) →
      Along (step o) (Alone o) (new now) events) := by
  have hstep : ∀ s event, Inv o s → Alone o s event → Inv o (s.step o event) :=
    fun _ _ h halone => h.step halone
  constructor
  · rintro h ahead ⟨rest, rfl⟩
    exact (run_invariant hstep (inv_new o now) (along_append.mp h).1).single
  · intro hthreshold hsingle
    induction events using List.reverseRecOn with
    | nil => trivial
    | append_singleton events event ih =>
      have hbefore := ih fun ahead hahead => hsingle ahead (hahead.trans (List.prefix_append _ _))
      have hinv := run_invariant hstep (inv_new o now) hbefore
      have hlast := hsingle (events ++ [event]) (List.prefix_refl _)
      rw [run_append] at hlast
      exact along_append.mpr ⟨hbefore, hinv.alone hthreshold hlast, trivial⟩

/-- A breaker that opens at the second failure, with a cooldown of 100 milliseconds. -/
def sampleOptions : Options := { name := "PAC", threshold := 2, resetMs := 100 }

/-- The breaker opens; a probe fails, and the next one returns. -/
def probesInTurn : List Event :=
  [.call, .fails 0, .call, .fails 1, .call, .elapse 101, .call, .fails 2, .call, .elapse 101, .call,
    .succeeds 3, .call]

theorem single_probe_sample :
    (∀ ahead, ahead <+: probesInTurn →
      Single sampleOptions (run (step sampleOptions) (new 5000) ahead)) ∧
      Along (step sampleOptions) (Alone sampleOptions) (new 5000) probesInTurn :=
  have hsingle := (single_probe sampleOptions 5000 probesInTurn).1 (by decide)
  ⟨hsingle, (single_probe sampleOptions 5000 probesInTurn).2 (by decide) hsingle⟩

/-- Two calls come in behind the cooldown. -/
def probesAtOnce : List Event := [.call, .fails 0, .call, .fails 1, .elapse 101, .call, .call]

/-- Two of three calls fail, and then the third one returns. -/
def closedFromBefore : List Event := [.call, .call, .call, .fails 0, .fails 1, .succeeds 2]

/-- Behind the cooldown two calls are started at once, and a call from before closes the breaker. -/
theorem single_probe_fails :
    ¬Single sampleOptions (run (step sampleOptions) (new 5000) probesAtOnce) ∧
      ¬Single sampleOptions (run (step sampleOptions) (new 5000) closedFromBefore) := by
  decide

/-- How calls ended, the last one first: when one failed, and nothing when it returned. -/
def ended (s : System) : Event → List (Option Nat)
  | .succeeds id => if ∃ r ∈ s.running, r.id = id then [none] else []
  | .fails id => if ∃ r ∈ s.running, r.id = id then [some s.now] else []
  | _ => []

/-- A step, with what ended kept beside the system. -/
def observe (o : Options) (p : System × List (Option Nat)) (event : Event) :
    System × List (Option Nat) :=
  (p.1.step o event, p.1.ended event ++ p.2)

/-- Failures that no call has returned since. -/
def inRow (ends : List (Option Nat)) : Nat := (ends.takeWhile Option.isSome).length

/-- When a call failed last. -/
def failedLast (ends : List (Option Nat)) : Nat := (ends.findSome? id).getD 0

/-- The counter and the time of a breaker are those of the calls that ended. -/
theorem counts_step {ends : List (Option Nat)} {event : Event}
    (h : s.breaker.failures = inRow ends ∧ s.breaker.lastFailure = failedLast ends) :
    (s.step o event).breaker.failures = inRow (s.ended event ++ ends) ∧
      (s.step o event).breaker.lastFailure = failedLast (s.ended event ++ ends) := by
  cases event with
  | call =>
    obtain ⟨status, ⟨hstep, -⟩ | ⟨hstep, -⟩⟩ := call_cases o s
    · rw [hstep]
      exact h
    · rw [hstep]
      exact h
  | succeeds id =>
    simp only [step, System.succeeds, ended]
    split_ifs
    · exact ⟨rfl, h.2⟩
    · exact h
  | fails id =>
    simp only [step, System.fails, ended]
    by_cases hrunning : ∃ r ∈ s.running, r.id = id
    · rw [if_pos hrunning, if_pos hrunning]
      exact ⟨congrArg (· + 1) h.1, rfl⟩
    · rw [if_neg hrunning, if_neg hrunning]
      exact h
  | getState =>
    obtain ⟨⟨status, hstatus⟩, -⟩ := isOpen_cases o s.now s.breaker
    simp only [step, Breaker.getState, hstatus]
    exact h
  | elapse milliseconds => exact h

/-- After any run a call is refused exactly when `threshold` calls or more have failed since the last
one that returned, and the cooldown of the last failure is not over. -/
theorem refused_iff (o : Options) (now : Nat) (events : List Event) :
    let (s, ends) := run (observe o) (new now, []) events
    ((s.call o).1 = .error (refusal o) ↔
      o.threshold ≤ inRow ends ∧ s.now ≤ o.resetMs + failedLast ends) ∧
    (s.breaker.getState o s.now).1.failures = inRow ends ∧
    (s.breaker.getState o s.now).1.lastFailure = failedLast ends := by
  have hcounts := @run_preserves _ _ (observe o) (new now, [])
    (fun p => p.1.breaker.failures = inRow p.2 ∧ p.1.breaker.lastFailure = failedLast p.2)
    (fun _ _ h => counts_step h) ⟨rfl, rfl⟩ events
  generalize run (observe o) (new now, []) events = p at hcounts
  obtain ⟨s, ends⟩ := p
  obtain ⟨hfailures, hlast⟩ := hcounts
  dsimp only at hfailures hlast ⊢
  obtain ⟨⟨status, hstatus⟩, hopen⟩ := isOpen_cases o s.now s.breaker
  refine ⟨?_, ?_, ?_⟩
  · rw [← hfailures, ← hlast]
    simp only [call]
    cases hcase : s.breaker.isOpen o s.now with
    | mk refused b =>
      rw [hcase] at hopen
      cases refused <;> simp at hopen ⊢ <;> omega
  · simp only [Breaker.getState, hstatus, hfailures]
  · simp only [Breaker.getState, hstatus, hlast]

end System

end FireIsp.Circuit
