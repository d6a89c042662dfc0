import Mathlib.Data.List.Induction

/-!
# The cache of one process

`MemoryCache`: a map in the order its keys were last used in.  Where it is full a new key drives out
the oldest one.  Keys and values may be anything.
-/

namespace FireIsp.Cache

structure Entry (V : Type) where
  value : V
  /-- When it ends, in milliseconds; 0 is never. -/
  expiresAt : Nat

def Entry.ended {V : Type} (now : Nat) (entry : Entry V) : Bool :=
  entry.expiresAt ≠ 0 && entry.expiresAt < now

theorem Entry.ended_mono {V : Type} {entry : Entry V} {now later : Nat} (hle : now ≤ later)
    (h : entry.ended later = false) : entry.ended now = false := by
  unfold Entry.ended at h ⊢
  simp only [Bool.and_eq_false_iff, decide_eq_false_iff_not, Nat.not_lt] at h ⊢
  exact h.imp_right fun hafter => Nat.le_trans hle hafter

/-- The cache. -/
structure Memory (K V : Type) where
  maxSize : Nat
  store : List (K × Entry V)

namespace Memory

variable {K V : Type} [DecidableEq K]

/-- The entry of a key, whether it has ended or not. -/
def lookup (cache : Memory K V) (key : K) : Option (Entry V) :=
  (cache.store.find? fun entry => entry.1 = key).map Prod.snd

def del (cache : Memory K V) (key : K) : Memory K V :=
  { cache with store := cache.store.filter fun entry => entry.1 ≠ key }

/-- A key is written, in its place if it is there. -/
def put (cache : Memory K V) (key : K) (entry : Entry V) : Memory K V :=
  match cache.lookup key with
  | none => { cache with store := cache.store ++ [(key, entry)] }
  | some _ =>
    { cache with store := cache.store.map fun old => if old.1 = key then (key, entry) else old }

def get (cache : Memory K V) (now : Nat) (key : K) : Option V × Memory K V :=
  match cache.lookup key with
  | none => (none, cache)
  | some entry =>
    if entry.ended now then (none, cache.del key)
    else (some entry.value, (cache.del key).put key entry)

/-- The oldest key is driven out. -/
def evict (cache : Memory K V) (key : K) : Memory K V :=
  if cache.maxSize ≤ cache.store.length ∧ cache.lookup key = none then
    match cache.store with
    | [] => cache
    | oldest :: _ => cache.del oldest.1
  else cache

def set (cache : Memory K V) (now : Nat) (key : K) (value : V) (ttlSeconds : Nat) : Memory K V :=
  (cache.evict key).put key ⟨value, if ttlSeconds = 0 then 0 else now + ttlSeconds * 1000⟩

variable {cache : Memory K V} {key other : K} {entry : Entry V} {now ttlSeconds : Nat} {value : V}

theorem lookup_del_self : (cache.del key).lookup key = none := by
  unfold lookup del
  rw [Option.map_eq_none_iff, List.find?_eq_none]
  intro entry hentry
  have hne := of_decide_eq_true (List.mem_filter.mp hentry).2
  exact fun heq => hne (of_decide_eq_true heq)

theorem lookup_del_other (h : other ≠ key) : (cache.del key).lookup other = cache.lookup other := by
  unfold lookup del
  rw [List.find?_filter]
  congr 2
  funext entry
  by_cases heq : entry.1 = other
  · simp [heq, h]
  · simp [heq]

theorem lookup_put_self : (cache.put key entry).lookup key = some entry := by
  unfold put
  cases hlookup : cache.lookup key with
  | none =>
    have hnone := Option.map_eq_none_iff.mp hlookup
    unfold lookup
    dsimp only
    rw [List.find?_append, hnone, Option.none_or, List.find?_singleton, if_pos (decide_eq_true rfl)]
    rfl
  | some old =>
    obtain ⟨found, hfound, -⟩ := Option.map_eq_some_iff.mp hlookup
    unfold lookup
    dsimp only
    rw [List.find?_map]
    have hsame : ((fun entry : K × Entry V => decide (entry.1 = key)) ∘ fun old =>
        if old.1 = key then (key, entry) else old) = fun entry => decide (entry.1 = key) := by
      funext old
      by_cases heq : old.1 = key <;> simp [heq]
    rw [hsame, hfound]
    have hfit := List.find?_some hfound
    have hkey : found.1 = key := of_decide_eq_true hfit
    simp [hkey]

theorem lookup_put_other (h : other ≠ key) : (cache.put key entry).lookup other = cache.lookup other := by
  unfold put
  cases hlookup : cache.lookup key with
  | none =>
    unfold lookup
    dsimp only
    rw [List.find?_append, List.find?_singleton, if_neg (by simpa using Ne.symm h), Option.or_none]
  | some old =>
    unfold lookup
    dsimp only
    rw [List.find?_map]
    have hsame : ((fun entry : K × Entry V => decide (entry.1 = other)) ∘ fun old =>
        if old.1 = key then (key, entry) else old) = fun entry => decide (entry.1 = other) := by
      funext old
      by_cases heq : old.1 = key
      · simp [heq, Ne.symm h]
      · simp [heq]
    rw [hsame, Option.map_map]
    cases hfound : cache.store.find? fun entry => entry.1 = other with
    | none => rfl
    | some found =>
      have hfit := List.find?_some hfound
      have hkey : found.1 = other := of_decide_eq_true hfit
      simp [hkey, h]

theorem get_fst : (cache.get now key).1 =
    (cache.lookup key).bind fun entry => if entry.ended now then none else some entry.value := by
  unfold get
  cases cache.lookup key with
  | none => rfl
  | some entry =>
    dsimp only [Option.bind_some]
    split_ifs <;> rfl

theorem lookup_del (h : (cache.del key).lookup other = some entry) :
    cache.lookup other = some entry := by
  by_cases hkey : other = key
  · rw [hkey, lookup_del_self] at h
    exact nomatch h
  · rwa [lookup_del_other hkey] at h

theorem lookup_get (h : (cache.get now key).2.lookup other = some entry) :
    cache.lookup other = some entry := by
  unfold get at h
  cases hlookup : cache.lookup key with
  | none =>
    rw [hlookup] at h
    exact h
  | some found =>
    rw [hlookup] at h
    dsimp only at h
    split_ifs at h with hended
    · exact lookup_del h
    · by_cases hkey : other = key
      · rw [hkey, lookup_put_self] at h
        rw [hkey, hlookup, h]
      · rwa [lookup_put_other hkey, lookup_del_other hkey] at h

theorem lookup_evict (h : (cache.evict key).lookup other = some entry) :
    cache.lookup other = some entry := by
  unfold evict at h
  split_ifs at h with hfull
  · split at h
    · exact h
    · exact lookup_del h
  · exact h

theorem lookup_set_self : (cache.set now key value ttlSeconds).lookup key =
    some ⟨value, if ttlSeconds = 0 then 0 else now + ttlSeconds * 1000⟩ := lookup_put_self

theorem lookup_set_other (hkey : other ≠ key)
    (h : (cache.set now key value ttlSeconds).lookup other = some entry) :
    cache.lookup other = some entry := by
  unfold set at h
  rw [lookup_put_other hkey] at h
  exact lookup_evict h

theorem lookup_get_other (h : other = key → ∀ entry ∈ cache.lookup key, entry.ended now = false) :
    (cache.get now key).2.lookup other = cache.lookup other := by
  unfold get
  cases hlookup : cache.lookup key with
  | none => rfl
  | some entry =>
    dsimp only
    by_cases hkey : other = key
    · rw [h hkey entry hlookup, if_neg nofun, hkey, lookup_put_self, hlookup]
    · split_ifs
      · exact lookup_del_other hkey
      · rw [lookup_put_other hkey, lookup_del_other hkey]

theorem lookup_get_ended (hlookup : cache.lookup key = some entry) (h : entry.ended now = true) :
    (cache.get now key).2.lookup key = none := by
  unfold get
  rw [hlookup]
  dsimp only
  rw [if_pos h]
  exact lookup_del_self

/-- Setting a key drives no other one out. -/
def Fits (cache : Memory K V) (key : K) : Prop :=
  cache.store.length < cache.maxSize ∨ cache.lookup key ≠ none

instance [DecidableEq V] (cache : Memory K V) (key : K) : Decidable (cache.Fits key) :=
  inferInstanceAs (Decidable (_ ∨ _))

theorem lookup_set_of_fits (hfits : cache.Fits key) (hkey : other ≠ key) :
    (cache.set now key value ttlSeconds).lookup other = cache.lookup other := by
  have hevict : cache.evict key = cache := by
    unfold evict
    rw [if_neg]
    rintro ⟨hfull, hnone⟩
    rcases hfits with hroom | hthere
    · omega
    · exact hthere hnone
  unfold set
  rw [hevict, lookup_put_other hkey]

theorem mem_of_lookup (h : cache.lookup key = some entry) : (key, entry) ∈ cache.store := by
  obtain ⟨found, hfound, rfl⟩ := Option.map_eq_some_iff.mp h
  have hfit := List.find?_some hfound
  have hkey : found.1 = key := of_decide_eq_true hfit
  exact hkey ▸ List.mem_of_find?_eq_some hfound

/-- A call of the cache, at a time. -/
inductive Use (K V : Type)
  | get (now : Nat) (key : K)
  | set (now : Nat) (key : K) (value : V) (ttlSeconds : Nat)
  | del (key : K)

def use (cache : Memory K V) : Use K V → Memory K V
  | .get now key => (cache.get now key).2
  | .set now key value ttlSeconds => cache.set now key value ttlSeconds
  | .del key => cache.del key

/-- What was set under a key last, unless it was deleted. -/
def written (key : K) : Option (Entry V) → Use K V → Option (Entry V)
  | last, .get _ _ => last
  | last, .set now other value ttlSeconds =>
    if other = key then some ⟨value, if ttlSeconds = 0 then 0 else now + ttlSeconds * 1000⟩ else last
  | last, .del other => if other = key then none else last

/-- Whatever was driven out, a cache returns under a key only what was set last, before it ends. -/
theorem get_written (maxSize : Nat) (uses : List (Use K V)) {now : Nat} {key : K} {value : V}
    (h : ((uses.foldl use ⟨maxSize, []⟩).get now key).1 = some value) :
    ∃ entry, uses.foldl (written key) none = some entry ∧ entry.value = value ∧
      entry.ended now = false := by
  have hlookup : ∀ entry, (uses.foldl use ⟨maxSize, []⟩).lookup key = some entry →
      uses.foldl (written key) none = some entry := by
    clear h
    induction uses using List.reverseRecOn with
    | nil => exact fun entry hentry => nomatch hentry
    | append_singleton uses last ih =>
      intro entry hentry
      rw [List.foldl_append] at hentry ⊢
      cases last with
      | get time other => exact ih entry (lookup_get hentry)
      | set time other value ttlSeconds =>
        by_cases hkey : other = key
        · subst hkey
          exact (if_pos rfl).trans (lookup_set_self.symm.trans hentry)
        · exact (if_neg hkey).trans (ih entry (lookup_set_other (Ne.symm hkey) hentry))
      | del other =>
        by_cases hkey : other = key
        · subst hkey
          exact nomatch lookup_del_self.symm.trans hentry
        · exact (if_neg hkey).trans (ih entry (lookup_del hentry))
  rw [get_fst] at h
  obtain ⟨entry, hentry, hvalue⟩ := Option.bind_eq_some_iff.mp h
  rw [Option.ite_none_left_eq_some, Option.some.injEq, Bool.not_eq_true] at hvalue
  exact ⟨entry, hlookup entry hentry, hvalue.2, hvalue.1⟩

theorem get_written_sample :
    ∃ entry, [Use.set 0 "a" 1 5, .set 1 "b" 2 0, .get 2 "a"].foldl (written "a") none = some entry ∧
      entry.value = 1 ∧ entry.ended 3 = false :=
  get_written 2 [.set 0 "a" 1 5, .set 1 "b" 2 0, .get 2 "a"] (by decide)

end Memory

end FireIsp.Cache
