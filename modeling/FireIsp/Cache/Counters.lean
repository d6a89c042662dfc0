import FireIsp.Cache.Memory

/-!
# Counters in the cache

`incrementFixedWindow` and `decrementFixedWindow` keep the counters of the rate limiters among the
other entries.  A new counter drives nothing out, and a new entry may drive out a counter.
-/

namespace FireIsp.Cache

variable {K B : Type}

/-- A value: a count, or anything else. -/
inductive Value (B : Type)
  | count (n : Nat)
  | other (value : B)
  deriving DecidableEq

/-- What is counted from a value that is no count. -/
structure Arithmetic (B : Type) where
  /-- `Number(value || 0) + 1` -/
  plusOne : B → Value B
  /-- `Math.max(0, Number(value || 0) - 1)` -/
  minusOne : B → Value B

def Value.plusOne (N : Arithmetic B) : Value B → Value B
  | .count n => .count (n + 1)
  | .other value => N.plusOne value

def Value.minusOne (N : Arithmetic B) : Value B → Value B
  | .count n => .count (n - 1)
  | .other value => N.minusOne value

def Value.within (limit : Nat) : Value B → Bool
  | .count n => n ≤ limit
  | .other _ => false

variable [DecidableEq K]

/-- `incrementFixedWindow`: `count` and `resetAt`. -/
def Memory.incrementFixedWindow (N : Arithmetic B) (cache : Memory K (Value B)) (now : Nat) (key : K)
    (windowMs : Nat) : (Value B × Nat) × Memory K (Value B) :=
  let opened : (Value B × Nat) × Memory K (Value B) :=
    ((.count 1, now + windowMs), cache.put key ⟨.count 1, now + windowMs⟩)
  match cache.lookup key with
  | none => opened
  | some entry =>
    if entry.expiresAt ≤ now then opened
    else
      ((entry.value.plusOne N, entry.expiresAt),
        cache.put key ⟨entry.value.plusOne N, entry.expiresAt⟩)

/-- `decrementFixedWindow` -/
def Memory.decrementFixedWindow (N : Arithmetic B) (cache : Memory K (Value B)) (now : Nat) (key : K) :
    Memory K (Value B) :=
  match cache.lookup key with
  | none => cache
  | some entry =>
    if entry.expiresAt ≤ now then cache
    else cache.put key ⟨entry.value.minusOne N, entry.expiresAt⟩

/-- The operations. -/
inductive Op (K B : Type)
  | get (key : K)
  | set (key : K) (value : Value B) (ttlSeconds : Nat)
  | del (key : K)
  | increment (key : K) (windowMs : Nat)
  | decrement (key : K)

/-- An operation at some time. -/
def Memory.step (N : Arithmetic B) (cache : Memory K (Value B)) (now : Nat) :
    Op K B → Memory K (Value B)
  | .get key => (cache.get now key).2
  | .set key value ttlSeconds => cache.set now key value ttlSeconds
  | .del key => cache.del key
  | .increment key windowMs => (cache.incrementFixedWindow N now key windowMs).2
  | .decrement key => cache.decrementFixedWindow N now key

/-- The window of a counter: what was done in it, and how often the count was within a ceiling. -/
structure Window where
  resetAt : Nat
  increments : Nat
  decrements : Nat
  admitted : Nat

def Window.incremented (within : Bool) (window : Window) : Window :=
  { window with
    increments := window.increments + 1
    admitted := window.admitted + if within then 1 else 0 }

/-- A decrement counts while there is something to take away. -/
def Window.decremented (window : Window) : Window :=
  if window.decrements < window.increments then
    { window with decrements := window.decrements + 1 }
  else window

/-- The window of a key that is running at some time. -/
def running (now : Nat) (window : Option Window) : Option Window :=
  window.filter fun window => now < window.resetAt

/-- What an operation does in the window of a key. -/
def watch (N : Arithmetic B) (limit : Nat) (key : K) (cache : Memory K (Value B)) (now : Nat)
    (window : Option Window) : Op K B → Option Window
  | .increment other windowMs =>
    if other = key then
      let count := (cache.incrementFixedWindow N now key windowMs).1.1
      some (((running now window).getD ⟨now + windowMs, 0, 0, 0⟩).incremented (count.within limit))
    else window
  | .decrement other =>
    if other = key then
      if (running now window).isSome then window.map Window.decremented else window
    else window
  | _ => window

/-- A run: the cache, and the last window of a key. -/
def after (N : Arithmetic B) (limit : Nat) (key : K) :
    Memory K (Value B) × Option Window → List (Nat × Op K B) → Memory K (Value B) × Option Window :=
  List.foldl fun state event =>
    (state.1.step N event.1 event.2, watch N limit key state.1 event.1 state.2 event.2)

/-- A counter that is new finds room. -/
def Op.Roomy (cache : Memory K (Value B)) : Op K B → Prop
  | .increment key _ => cache.Fits key
  | _ => True

/-- The operation neither writes nor deletes a counter, nor drives it out while it is running. -/
def Op.Spares (key : K) (cache : Memory K (Value B)) (now : Nat) : Op K B → Prop
  | .set other _ _ =>
    other ≠ key ∧ (cache.Fits other ∨
      ∀ oldest ∈ cache.store.head?, oldest.1 = key → oldest.2.expiresAt ≤ now)
  | .del other => other ≠ key
  | _ => True

/-- Every operation of a run meets a condition on the cache before it. -/
def Steps (N : Arithmetic B) (p : Memory K (Value B) → Nat → Op K B → Prop) :
    Memory K (Value B) → List (Nat × Op K B) → Prop
  | _, [] => True
  | cache, event :: events =>
    p cache event.1 event.2 ∧ Steps N p (cache.step N event.1 event.2) events

namespace Memory

variable {N : Arithmetic B} {cache : Memory K (Value B)} {key other : K} {now : Nat}

section Size

variable {V : Type}

theorem length_put_le (cache : Memory K V) (key : K) (entry : Entry V) :
    (cache.put key entry).store.length ≤ cache.store.length + 1 ∧
      (cache.lookup key ≠ none → (cache.put key entry).store.length = cache.store.length) := by
  unfold put
  cases cache.lookup key with
  | none => exact ⟨by simp, fun h => absurd rfl h⟩
  | some old => simp

theorem length_del_lt {cache : Memory K V} {key : K} {entry : Entry V}
    (h : (key, entry) ∈ cache.store) : (cache.del key).store.length < cache.store.length :=
  List.length_filter_lt_length_iff_exists.mpr ⟨_, h, by simp⟩

theorem length_del_le (cache : Memory K V) (key : K) :
    (cache.del key).store.length ≤ cache.store.length := List.length_filter_le _ _

theorem length_put_of_fits {cache : Memory K V} {key : K} {entry : Entry V} (h : cache.Fits key)
    (hsize : cache.store.length ≤ cache.maxSize) :
    (cache.put key entry).store.length ≤ cache.maxSize := by
  have hput := length_put_le cache key entry
  rcases h with hroom | hthere
  · omega
  · rw [hput.2 hthere]
    exact hsize

theorem maxSize_put (cache : Memory K V) (key : K) (entry : Entry V) :
    (cache.put key entry).maxSize = cache.maxSize := by
  unfold put
  split <;> rfl

theorem fits_of_lookup {cache : Memory K V} {key : K} {entry : Entry V}
    (h : cache.lookup key = some entry) : cache.Fits key :=
  Or.inr (by rw [h]; exact Option.some_ne_none entry)

theorem maxSize_step (N : Arithmetic B) (cache : Memory K (Value B)) (now : Nat) (op : Op K B) :
    (cache.step N now op).maxSize = cache.maxSize := by
  cases op with
  | get key =>
    simp only [step, get]
    split
    · rfl
    · split_ifs
      · rfl
      · exact maxSize_put _ _ _
  | set key value ttlSeconds =>
    refine (maxSize_put _ _ _).trans ?_
    unfold evict
    split_ifs
    · split <;> rfl
    · rfl
  | del key => rfl
  | increment key windowMs =>
    simp only [step, incrementFixedWindow]
    split
    · exact maxSize_put _ _ _
    · split_ifs <;> exact maxSize_put _ _ _
  | decrement key =>
    simp only [step, decrementFixedWindow]
    split
    · rfl
    · split_ifs
      · rfl
      · exact maxSize_put _ _ _

theorem evict_of_fits {cache : Memory K V} {key : K} (h : cache.Fits key) :
    cache.evict key = cache := by
  unfold evict
  rw [if_neg]
  rintro ⟨hfull, hnone⟩
  rcases h with hroom | hthere
  · omega
  · exact hthere hnone

theorem evict_of_full {cache : Memory K V} {key : K} (hpos : 0 < cache.maxSize)
    (h : ¬cache.Fits key) :
    ∃ oldest ∈ cache.store.head?, cache.evict key = cache.del oldest.1 := by
  obtain ⟨hfull, hnone⟩ := not_or.mp h
  unfold evict
  rw [if_pos ⟨Nat.le_of_not_lt hfull, not_not.mp hnone⟩]
  cases hstore : cache.store with
  | nil =>
    rw [hstore, List.length_nil] at hfull
    exact absurd hpos hfull
  | cons oldest rest => exact ⟨oldest, rfl, rfl⟩

theorem length_step_le {op : Op K B} (hpos : 0 < cache.maxSize)
    (hsize : cache.store.length ≤ cache.maxSize) (h : op.Roomy cache) :
    (cache.step N now op).store.length ≤ cache.maxSize := by
  cases op with
  | get key =>
    simp only [step, get]
    split
    · exact hsize
    · rename_i entry hlookup
      have hdel := length_del_lt (mem_of_lookup hlookup)
      have hput := (length_put_le (cache.del key) key entry).1
      split_ifs <;> dsimp only <;> omega
  | set key value ttlSeconds =>
    simp only [step, set]
    generalize (⟨value, _⟩ : Entry (Value B)) = entry
    by_cases hfits : cache.Fits key
    · rw [evict_of_fits hfits]
      exact length_put_of_fits hfits hsize
    · obtain ⟨oldest, holdest, hevict⟩ := evict_of_full hpos hfits
      have hdel := length_del_lt (List.mem_of_mem_head? holdest)
      have hput := (length_put_le (cache.del oldest.1) key entry).1
      rw [hevict]
      omega
  | del key => exact Nat.le_trans (length_del_le cache key) hsize
  | increment key windowMs =>
    simp only [step, incrementFixedWindow]
    split
    · exact length_put_of_fits h hsize
    · split_ifs <;> exact length_put_of_fits h hsize
  | decrement key =>
    simp only [step, decrementFixedWindow]
    split
    · exact hsize
    · rename_i entry hlookup
      split_ifs
      · exact hsize
      · exact length_put_of_fits (fits_of_lookup hlookup) hsize

end Size

end Memory

section Counted

variable {N : Arithmetic B} {cache : Memory K (Value B)} {key other : K} {now limit : Nat}
  {window : Option Window}

/-- What the cache holds for a window. -/
def Window.entry (window : Window) : Entry (Value B) :=
  ⟨.count (window.increments - window.decrements), window.resetAt⟩

/-- No more was taken away than counted, nor admitted than the ceiling and what was taken away. -/
def Window.Fair (limit : Nat) (window : Window) : Prop :=
  window.decrements ≤ window.increments ∧
    window.admitted ≤ min (window.increments - window.decrements) limit + window.decrements

/-- The cache holds the running window of a key, and no other one. -/
structure Counted (limit : Nat) (key : K) (now : Nat) (cache : Memory K (Value B))
    (window : Option Window) : Prop where
  held : ∀ w ∈ window, now < w.resetAt → cache.lookup key = some w.entry
  only : ∀ entry ∈ cache.lookup key, now < entry.expiresAt → ∃ w ∈ window, entry = w.entry
  fair : ∀ w ∈ window, w.Fair limit

theorem Counted.later {soon : Nat} (h : Counted limit key now cache window) (hle : now ≤ soon) :
    Counted limit key soon cache window :=
  ⟨fun w hw hlt => h.held w hw (Nat.lt_of_le_of_lt hle hlt),
    fun entry hentry hlt => h.only entry hentry (Nat.lt_of_le_of_lt hle hlt), h.fair⟩

theorem Counted.of_lookup {cache' : Memory K (Value B)} (h : Counted limit key now cache window)
    (hold : ∀ entry, cache'.lookup key = some entry → cache.lookup key = some entry)
    (hkeep : ∀ entry, cache.lookup key = some entry → now < entry.expiresAt →
      cache'.lookup key = some entry) : Counted limit key now cache' window :=
  ⟨fun w hw hlt => hkeep _ (h.held w hw hlt) hlt,
    fun entry hentry hlt => h.only entry (hold entry hentry) hlt, h.fair⟩

theorem Counted.ended (h : Counted limit key now cache window) (hrunning : running now window = none)
    {entry : Entry (Value B)} (hlookup : cache.lookup key = some entry) : entry.expiresAt ≤ now := by
  by_contra hlive
  obtain ⟨w, rfl, rfl⟩ := h.only entry hlookup (Nat.lt_of_not_le hlive)
  have hkeep : running now (some w) = some w :=
    Option.filter_some_pos (decide_eq_true (Nat.lt_of_not_le hlive))
  rw [hkeep] at hrunning
  cases hrunning

theorem Counted.increment (h : Counted limit key now cache window) (windowMs : Nat) :
    ∃ opened : Window, (running now window).getD ⟨now + windowMs, 0, 0, 0⟩ = opened ∧
      opened.Fair limit ∧
      cache.incrementFixedWindow N now key windowMs =
        ((.count (opened.increments - opened.decrements + 1), opened.resetAt),
          cache.put key ⟨.count (opened.increments - opened.decrements + 1), opened.resetAt⟩) := by
  refine ⟨_, rfl, ?_⟩
  cases hrunning : running now window with
  | none =>
    refine ⟨⟨Nat.le_refl 0, Nat.zero_le _⟩, ?_⟩
    unfold Memory.incrementFixedWindow
    cases hlookup : cache.lookup key with
    | none => rfl
    | some entry =>
      simp only [if_pos (h.ended hrunning hlookup)]
      rfl
  | some w =>
    obtain ⟨hw, hlive⟩ := Option.filter_eq_some_iff.mp hrunning
    have hlive' : now < w.resetAt := of_decide_eq_true hlive
    refine ⟨h.fair w hw, ?_⟩
    unfold Memory.incrementFixedWindow
    rw [h.held w hw hlive']
    exact if_neg (Nat.not_le.mpr hlive')

variable {w : Window}

theorem Counted.of_entry (hlookup : cache.lookup key = some w.entry) (hfair : w.Fair limit) :
    Counted limit key now cache (some w) := by
  refine ⟨fun w' hw _ => ?_, fun entry hentry _ => ⟨w, rfl, ?_⟩, fun w' hw => ?_⟩
  · exact Option.some.inj hw ▸ hlookup
  · exact Option.some.inj (hentry.symm.trans hlookup)
  · exact Option.some.inj hw ▸ hfair

theorem fair_incremented (h : w.Fair limit) :
    (w.incremented ((Value.count (w.increments - w.decrements + 1) : Value B).within limit)).Fair
      limit := by
  obtain ⟨hle, hadmitted⟩ := h
  simp only [Window.Fair, Window.incremented, Value.within, decide_eq_true_eq]
  split_ifs <;> omega

theorem fair_decremented (h : w.Fair limit) : w.decremented.Fair limit := by
  obtain ⟨hle, hadmitted⟩ := h
  unfold Window.decremented
  split_ifs with hless
  · refine ⟨hless, ?_⟩
    dsimp only
    omega
  · exact ⟨hle, hadmitted⟩

theorem lookup_set {value : Value B} {ttlSeconds : Nat} {entry : Entry (Value B)}
    (hpos : 0 < cache.maxSize) (hspares : (Op.set other value ttlSeconds).Spares key cache now)
    (hentry : cache.lookup key = some entry) (hlive : now < entry.expiresAt) :
    (cache.set now other value ttlSeconds).lookup key = some entry := by
  obtain ⟨hne, hspares⟩ := hspares
  refine (Memory.lookup_put_other (Ne.symm hne)).trans ?_
  by_cases hfits : cache.Fits other
  · rwa [Memory.evict_of_fits hfits]
  · obtain ⟨oldest, holdest, hevict⟩ := Memory.evict_of_full hpos hfits
    rw [hevict, Memory.lookup_del_other, hentry]
    intro hkey
    have hended := hspares.resolve_left hfits oldest holdest hkey.symm
    have hfirst : cache.lookup key = some oldest.2 := by
      obtain ⟨rest, hstore⟩ := List.head?_eq_some_iff.mp holdest
      simp [Memory.lookup, hstore, hkey]
    rw [hentry] at hfirst
    cases hfirst
    omega

theorem Counted.step {op : Op K B} (h : Counted limit key now cache window)
    (hpos : 0 < cache.maxSize) (hspares : op.Spares key cache now) :
    Counted limit key now (cache.step N now op) (watch N limit key cache now window op) := by
  cases op with
  | get other =>
    refine h.of_lookup (fun entry hentry => Memory.lookup_get hentry) fun entry hentry hlive => ?_
    refine (Memory.lookup_get_other fun hkey found hfound => ?_).trans hentry
    obtain rfl := Option.some.inj ((hkey ▸ hentry).symm.trans hfound)
    exact Bool.and_eq_false_iff.mpr (Or.inr (decide_eq_false (by omega)))
  | set other value ttlSeconds =>
    exact h.of_lookup (fun entry hentry => Memory.lookup_set_other (Ne.symm hspares.1) hentry)
      fun entry hentry hlive => lookup_set hpos hspares hentry hlive
  | del other =>
    refine h.of_lookup (fun entry hentry => Memory.lookup_del hentry) fun entry hentry _ => ?_
    exact (Memory.lookup_del_other (Ne.symm hspares)).trans hentry
  | increment other windowMs =>
    by_cases hkey : other = key
    · subst hkey
      obtain ⟨opened, hopened, hfair, hincrement⟩ :=
        @Counted.increment K B _ N cache other now limit window h windowMs
      simp only [Memory.step, watch, hincrement, hopened, if_true]
      refine .of_entry (Memory.lookup_put_self.trans ?_) (fair_incremented hfair)
      rw [← Nat.sub_add_comm hfair.1]
      rfl
    · have hsame : (cache.step N now (.increment other windowMs)).lookup key = cache.lookup key := by
        simp only [Memory.step, Memory.incrementFixedWindow]
        split
        · exact Memory.lookup_put_other (Ne.symm hkey)
        · split_ifs <;> exact Memory.lookup_put_other (Ne.symm hkey)
      rw [watch, if_neg hkey]
      exact h.of_lookup (fun entry hentry => hsame ▸ hentry) fun entry hentry _ => hsame ▸ hentry
  | decrement other =>
    by_cases hkey : other = key
    · subst hkey
      cases hrunning : running now window with
      | none =>
        have hsame : cache.step N now (.decrement other) = cache := by
          simp only [Memory.step, Memory.decrementFixedWindow]
          cases hlookup : cache.lookup other with
          | none => rfl
          | some entry => exact if_pos (h.ended hrunning hlookup)
        rw [hsame, watch, if_pos rfl, hrunning, Option.isSome_none, if_neg Bool.false_ne_true]
        exact h
      | some w =>
        obtain ⟨hw, hlive⟩ := Option.filter_eq_some_iff.mp hrunning
        have hlive' : now < w.resetAt := of_decide_eq_true hlive
        obtain rfl := hw
        simp only [Memory.step, Memory.decrementFixedWindow, h.held w rfl hlive', watch,
          hrunning, Option.isSome_some, if_true, Option.map_some, Window.entry,
          if_neg (Nat.not_le.mpr hlive')]
        refine .of_entry (Memory.lookup_put_self.trans ?_) (fair_decremented (h.fair w rfl))
        have hle := (h.fair w rfl).1
        simp only [Window.entry, Window.decremented, Value.minusOne]
        split_ifs
        · rfl
        · have hzero : w.increments - w.decrements = 0 := by omega
          rw [hzero]
    · have hsame : (cache.step N now (.decrement other)).lookup key = cache.lookup key := by
        simp only [Memory.step, Memory.decrementFixedWindow]
        split
        · rfl
        · split_ifs
          · rfl
          · exact Memory.lookup_put_other (Ne.symm hkey)
      rw [watch, if_neg hkey]
      exact h.of_lookup (fun entry hentry => hsame ▸ hentry) fun entry hentry _ => hsame ▸ hentry

theorem Counted.after {events : List (Nat × Op K B)} {last : Nat}
    (h : Counted limit key last cache window) (hpos : 0 < cache.maxSize)
    (hclock : (events.map Prod.fst).Pairwise (· ≤ ·)) (hlast : ∀ event ∈ events, last ≤ event.1)
    (hsteps : Steps N (Op.Spares key) cache events) (hle : last ≤ now)
    (hnow : ∀ event ∈ events, event.1 ≤ now) :
    Counted limit key now (after N limit key (cache, window) events).1
      (after N limit key (cache, window) events).2 := by
  induction events generalizing cache window last with
  | nil => exact h.later hle
  | cons event events ih =>
    obtain ⟨hspares, hsteps⟩ := hsteps
    obtain ⟨hfirst, hclock⟩ := List.pairwise_cons.mp hclock
    have hstep := (h.later (hlast event List.mem_cons_self)).step (N := N) hpos hspares
    refine ih hstep ?_ hclock ?_ hsteps (hnow event List.mem_cons_self) ?_
    · rwa [Memory.maxSize_step]
    · exact fun next hnext => hfirst _ (List.mem_map_of_mem hnext)
    · exact fun next hnext => hnow next (List.mem_cons_of_mem event hnext)

theorem length_after_le {events : List (Nat × Op K B)} (hpos : 0 < cache.maxSize)
    (hsize : cache.store.length ≤ cache.maxSize)
    (hsteps : Steps N (fun cache _ op => op.Roomy cache) cache events) :
    (after N limit key (cache, window) events).1.store.length ≤ cache.maxSize := by
  induction events generalizing cache window with
  | nil => exact hsize
  | cons event events ih =>
    have hstep : (cache.step N event.1 event.2).store.length ≤ cache.maxSize :=
      Memory.length_step_le hpos hsize hsteps.1
    have hmax := Memory.maxSize_step N cache event.1 event.2
    have hrest := @ih (cache.step N event.1 event.2)
      (watch N limit key cache event.1 window event.2) (hmax ▸ hpos) (hmax ▸ hstep) hsteps.2
    exact hmax ▸ hrest

end Counted

/-- With room the cache keeps its size, kept counters are exact, and limiters admit their ceiling. -/
theorem counters_spec (N : Arithmetic B) {maxSize : Nat} (hpos : 0 < maxSize)
    {events : List (Nat × Op K B)} (hclock : (events.map Prod.fst).Pairwise (· ≤ ·)) (key : K)
    (limit : Nat) :
    let state := after N limit key (⟨maxSize, []⟩, none) events
    (Steps N (fun cache _ op => op.Roomy cache) ⟨maxSize, []⟩ events →
        state.1.store.length ≤ maxSize) ∧
      (Steps N (Op.Spares key) ⟨maxSize, []⟩ events →
        ∀ now windowMs, (∀ event ∈ events, event.1 ≤ now) →
          (state.1.incrementFixedWindow N now key windowMs).1 =
              (match running now state.2 with
                | some w => (.count (w.increments - w.decrements + 1), w.resetAt)
                | none => (.count 1, now + windowMs)) ∧
            ∀ w ∈ state.2, w.admitted ≤ limit + w.decrements) := by
  intro state
  refine ⟨fun hsteps => length_after_le hpos (Nat.zero_le _) hsteps, ?_⟩
  intro hsteps now windowMs hnow
  have hnew : Counted limit key 0 (⟨maxSize, []⟩ : Memory K (Value B)) none :=
    ⟨fun w hw => absurd hw (Option.not_mem_none w), fun entry hentry => (by cases hentry),
      fun w hw => absurd hw (Option.not_mem_none w)⟩
  have hcounted : Counted limit key now state.1 state.2 :=
    hnew.after hpos hclock (fun event _ => Nat.zero_le _) hsteps (Nat.zero_le now) hnow
  obtain ⟨opened, hopened, -, hincrement⟩ := hcounted.increment (N := N) windowMs
  refine ⟨?_, fun w hw => ?_⟩
  · rw [hincrement, ← hopened]
    cases running now state.2 <;> rfl
  · have hfair := (hcounted.fair w hw).2
    omega

/-- Objects, of which a counter takes the number 0. -/
def objects : Arithmetic Unit := ⟨fun _ => .count 1, fun _ => .count 0⟩

/-- Between two increments of a key another one is set. -/
def shared : List (Nat × Op Nat Unit) :=
  [(0, .increment 1 60), (1, .set 2 (.other ()) 0), (2, .increment 1 60)]

theorem counters_spec_two :
    ((after objects 5 1 (⟨2, []⟩, none) shared).1.incrementFixedWindow objects 3 1 60).1 =
      (.count 3, 60) :=
  ((@counters_spec Nat Unit _ objects 2 (by decide) shared (by decide) 1 5).2
    ⟨trivial, ⟨by decide, Or.inl (Or.inl (by decide))⟩, trivial, trivial⟩ 3 60 (by decide)).1

theorem not_counted_one :
    ¬(after objects 5 1 (⟨1, []⟩, none) [(0, .increment 1 60), (0, .increment 2 60)]).1.store.length
        ≤ 1 ∧
      ((after objects 5 1 (⟨1, []⟩, none) shared).1.incrementFixedWindow objects 3 1 60).1 ≠
        (.count 3, 60) := by
  decide

end FireIsp.Cache
