import FireIsp.Base.Run
import FireIsp.Base.Table
import FireIsp.Base.TokenBucket

/-!
# Admission of SNMP traps

The ingress boundary of the trap receiver: one bucket for each of the sources heard last, and a budget
for all of them.  The array of buckets is fixed, so a source beyond it takes over the bucket that was
used least recently.
-/

namespace FireIsp.Trap

open TokenBucket

/-- Limits the environment configures. -/
structure IngressLimits where
  ratePerSecond : ℕ
  rateBurst : ℕ
  ratePerMinute : ℕ
  rateMinuteBurst : ℕ
  sourceRatePerMinute : ℕ
  sourceRateBurst : ℕ
  maxInFlight : ℕ

/-- `SOURCE_RATE_BUCKETS`. -/
def sourceRateBucketCount : ℕ := 256

def IngressLimits.secondFlow (limits : IngressLimits) : Flow :=
  ⟨limits.rateBurst, limits.ratePerSecond, 1000⟩

def IngressLimits.minuteFlow (limits : IngressLimits) : Flow :=
  ⟨limits.rateMinuteBurst, limits.ratePerMinute, 60000⟩

def IngressLimits.sourceFlow (limits : IngressLimits) : Flow :=
  ⟨limits.sourceRateBurst, limits.sourceRatePerMinute, 60000⟩

/-- Entry of `sourceRateBuckets`. -/
structure SourceBucket (Address : Type) where
  /-- Index in the array. -/
  slot : ℕ
  key : Option Address
  budget : TokenBucket
  lastUsed : ℕ
  deriving DecidableEq

/-- The receiver as the UDP callback sees it. -/
structure Ingress (Address : Type) where
  accepting : Bool
  inFlight : ℕ
  rate : TokenBucket
  minuteRate : TokenBucket
  sourceRateBuckets : List (SourceBucket Address)
  sourceRateSequence : ℕ
  acceptedTotal : ℕ
  droppedSourceRateTotal : ℕ
  droppedRateTotal : ℕ
  droppedOverloadTotal : ℕ

/-- The receiver once its module is loaded. -/
def Ingress.loaded (Address : Type) (limits : IngressLimits) (now : Int) : Ingress Address where
  accepting := false
  inFlight := 0
  rate := ⟨limits.rateBurst, now⟩
  minuteRate := ⟨limits.rateMinuteBurst, now⟩
  sourceRateBuckets := (List.range sourceRateBucketCount).map fun slot =>
    ⟨slot, none, ⟨limits.sourceRateBurst, now⟩, 0⟩
  sourceRateSequence := 0
  acceptedTotal := 0
  droppedSourceRateTotal := 0
  droppedRateTotal := 0
  droppedOverloadTotal := 0

variable {Address : Type} [DecidableEq Address]

def leastRecent (buckets : List (SourceBucket Address)) : Option (SourceBucket Address) :=
  buckets.head?.map fun first =>
    buckets.foldl (fun oldest entry => if entry.lastUsed < oldest.lastUsed then entry else oldest) first

/-- The bucket of a source: its own, else a free one or the one used least recently, made its own. -/
def selectBucket (limits : IngressLimits) (source : Address) (now : Int)
    (buckets : List (SourceBucket Address)) : Option (SourceBucket Address) :=
  match buckets.find? fun entry => entry.key = some source with
  | some bucket => some bucket
  | none =>
    ((buckets.find? fun entry => entry.key = none).or (leastRecent buckets)).map fun bucket =>
      { bucket with key := some source, budget := ⟨limits.sourceRateBurst, now⟩ }

def consumeSourceRateToken (limits : IngressLimits) (source : Address) (now : Int)
    (s : Ingress Address) : Bool × Ingress Address :=
  match selectBucket limits source now s.sourceRateBuckets with
  | none => (false, s)
  | some bucket =>
    let budget := bucket.budget.refill limits.sourceFlow now
    (decide (1 ≤ budget.tokens),
      { s with
        sourceRateSequence := s.sourceRateSequence + 1
        sourceRateBuckets := Table.put SourceBucket.slot
          { bucket with
            lastUsed := s.sourceRateSequence + 1
            budget := if 1 ≤ budget.tokens then budget.spend else budget } s.sourceRateBuckets })

def refillRateBudget (limits : IngressLimits) (now : Int) (s : Ingress Address) : Ingress Address :=
  { s with
    rate := s.rate.refill limits.secondFlow now
    minuteRate := s.minuteRate.refill limits.minuteFlow now }

def consumeRateToken (limits : IngressLimits) (now : Int) (s : Ingress Address) :
    Bool × Ingress Address :=
  let s := refillRateBudget limits now s
  if s.rate.tokens < 1 ∨ s.minuteRate.tokens < 1 then (false, s)
  else (true, { s with rate := s.rate.spend, minuteRate := s.minuteRate.spend })

def acceptInboundTrap (limits : IngressLimits) (source : Address) (now : Int) (s : Ingress Address) :
    Bool × Ingress Address :=
  if !s.accepting then (false, s)
  else
    match consumeSourceRateToken limits source now s with
    | (false, s) => (false, { s with droppedSourceRateTotal := s.droppedSourceRateTotal + 1 })
    | (true, s) =>
      match consumeRateToken limits now s with
      | (false, s) => (false, { s with droppedRateTotal := s.droppedRateTotal + 1 })
      | (true, s) =>
        if limits.maxInFlight ≤ s.inFlight then
          (false, { s with droppedOverloadTotal := s.droppedOverloadTotal + 1 })
        else
          (true, { s with acceptedTotal := s.acceptedTotal + 1, inFlight := s.inFlight + 1 })

/-- What happens at the boundary. -/
inductive IngressEvent (Address : Type)
  | datagram (source : Address) (now : Int)
  /-- A task leaves `inFlight`. -/
  | settled
  /-- The receiver is started or stopped. -/
  | accepting (on : Bool)

/-- One event, and whether a datagram was admitted. -/
def Ingress.step (limits : IngressLimits) (s : Ingress Address) :
    IngressEvent Address → Bool × Ingress Address
  | .datagram source now => acceptInboundTrap limits source now s
  | .settled => (false, { s with inFlight := s.inFlight - 1 })
  | .accepting on => (false, { s with accepting := on })

/-- The state after some events. -/
def Ingress.after (limits : IngressLimits) : Ingress Address → List (IngressEvent Address) → Ingress Address :=
  Transition.run fun s event => (s.step limits event).2

def IngressEvent.isFrom (p : Address → Bool) : IngressEvent Address → Bool
  | .datagram source _ => p source
  | _ => false

/-- Admitted datagrams of the sources that satisfy `p`. -/
def admitted (limits : IngressLimits) (p : Address → Bool) : Ingress Address →
    List (IngressEvent Address) → ℕ
  | _, [] => 0
  | s, event :: events =>
    (if (s.step limits event).1 && event.isFrom p then 1 else 0) +
      admitted limits p (s.step limits event).2 events

/-- Arrival times. -/
def arrivals : List (IngressEvent Address) → List Int :=
  List.filterMap fun
    | .datagram _ now => some now
    | _ => none

/-- Fewer than `SOURCE_RATE_BUCKETS` other sources send between two datagrams of a source. -/
def Spaced (source : Address) : Bool → Option (List Address) → List (IngressEvent Address) → Prop
  | _, _, [] => True
  | listening, others, .settled :: events => Spaced source listening others events
  | _, others, .accepting on :: events => Spaced source on others events
  | false, others, .datagram _ _ :: events => Spaced source false others events
  | true, others, .datagram sender _ :: events =>
    if sender = source then
      (∀ list, others = some list → list.dedup.length < sourceRateBucketCount) ∧
        Spaced source true (some []) events
    else Spaced source true (others.map (sender :: ·)) events

variable {limits : IngressLimits} {source : Address} {start now last stop : Int} {s : Ingress Address}

omit [DecidableEq Address] in
theorem consumeRateToken_minuteRate (limits : IngressLimits) (now : Int) (s : Ingress Address) :
    ((consumeRateToken limits now s).1 = false ∧
        (consumeRateToken limits now s).2.minuteRate = s.minuteRate.refill limits.minuteFlow now) ∨
      (1 ≤ (s.minuteRate.refill limits.minuteFlow now).tokens ∧
        (consumeRateToken limits now s).2.minuteRate =
          (s.minuteRate.refill limits.minuteFlow now).spend) := by
  unfold consumeRateToken
  simp only []
  split
  · exact .inl ⟨rfl, rfl⟩
  · rename_i hthere
    exact .inr ⟨not_lt.mp (not_or.mp hthere).2, rfl⟩

theorem step_minuteRate (limits : IngressLimits) (s : Ingress Address) (event : IngressEvent Address) :
    ((s.step limits event).1 = false ∧ (s.step limits event).2.minuteRate = s.minuteRate) ∨
      ∃ sender now, event = .datagram sender now ∧
        (((s.step limits event).1 = false ∧
            (s.step limits event).2.minuteRate = s.minuteRate.refill limits.minuteFlow now) ∨
          (1 ≤ (s.minuteRate.refill limits.minuteFlow now).tokens ∧
            (s.step limits event).2.minuteRate =
              (s.minuteRate.refill limits.minuteFlow now).spend)) := by
  cases event with
  | settled => exact .inl ⟨rfl, rfl⟩
  | accepting on => exact .inl ⟨rfl, rfl⟩
  | datagram sender now =>
    have hkept : (consumeSourceRateToken limits sender now s).2.minuteRate = s.minuteRate := by
      unfold consumeSourceRateToken
      split <;> rfl
    simp only [Ingress.step, acceptInboundTrap]
    split
    · exact .inl ⟨rfl, rfl⟩
    · generalize consumeSourceRateToken limits sender now s = spent at hkept ⊢
      obtain ⟨granted, s'⟩ := spent
      cases granted with
      | false => exact .inl ⟨rfl, hkept⟩
      | true =>
        have hrate := consumeRateToken_minuteRate limits now s'
        rw [show s'.minuteRate = s.minuteRate from hkept] at hrate
        refine .inr ⟨sender, now, rfl, ?_⟩
        simp only []
        generalize consumeRateToken limits now s' = taken at hrate ⊢
        obtain ⟨allowed, s''⟩ := taken
        cases allowed with
        | false => exact hrate.imp_left fun h => ⟨rfl, h.2⟩
        | true =>
          rcases hrate with ⟨hdenied, -⟩ | ⟨htoken, hspent⟩
          · cases hdenied
          · simp only []
            split <;> exact .inr ⟨htoken, hspent⟩

omit [DecidableEq Address] in
theorem arrivals_cons (event : IngressEvent Address) (events : List (IngressEvent Address)) :
    arrivals (event :: events) = arrivals [event] ++ arrivals events := by
  cases event <;> rfl

variable {given : ℕ}

theorem admitted_all_le {events : List (IngressEvent Address)}
    (hcovered : Covered limits.minuteFlow start given s.minuteRate)
    (hlast : s.minuteRate.refilledAt ≤ last) (hclock : (last :: arrivals events).Pairwise (· ≤ ·))
    (hwindow : ∀ t ∈ arrivals events, start ≤ t ∧ t ≤ stop) (p : Address → Bool)
    (hgiven : (given : ℚ) ≤ limits.rateMinuteBurst + limits.minuteFlow.inflow start stop) :
    ((given + admitted limits p s events : ℕ) : ℚ) ≤
      limits.rateMinuteBurst + limits.minuteFlow.inflow start stop := by
  induction events generalizing s given last with
  | nil => exact hgiven
  | cons event events ih =>
    rw [arrivals_cons] at hclock hwindow
    have hrest : ∀ t ∈ arrivals events, start ≤ t ∧ t ≤ stop := fun t ht =>
      hwindow t (List.mem_append_right _ ht)
    rw [admitted]
    rcases step_minuteRate limits s event with ⟨hdenied, hsame⟩ | ⟨sender, now, rfl, hspent⟩
    · rw [hdenied, Bool.false_and, if_neg Bool.false_ne_true, Nat.zero_add]
      refine ih (hsame ▸ hcovered) (hsame ▸ hlast) (hclock.sublist ?_) hrest hgiven
      exact List.cons_sublist_cons.mpr (List.sublist_append_right _ _)
    · have htail : (last :: now :: arrivals events).Pairwise (· ≤ ·) := hclock
      obtain ⟨hfirst, hsorted⟩ := List.pairwise_cons.mp htail
      obtain ⟨hfrom, hto⟩ := hwindow now (List.mem_append_left _ List.mem_cons_self)
      obtain ⟨hfilled, hpresent⟩ := hcovered.refill hfrom
        (hlast.trans (hfirst now List.mem_cons_self))
      rcases hspent with ⟨hdenied, hafter⟩ | ⟨htoken, hafter⟩
      · rw [hdenied, Bool.false_and, if_neg Bool.false_ne_true, Nat.zero_add]
        exact ih (hafter ▸ hfilled) (hafter ▸ hpresent.le) hsorted hrest hgiven
      · have hspend := hfilled.spend htoken (hpresent.symm ▸ hfrom)
        have hnext := ih (hafter ▸ hspend) (hafter ▸ hpresent.le) hsorted hrest
          (hspend.given_le (hfrom.trans hto) (hpresent.le.trans hto))
        refine le_trans (Nat.cast_le.mpr ?_) hnext
        split <;> omega

/-- The array of buckets: one for each index, no two for one source or used at one time. -/
structure Tidy (limits : IngressLimits) (last : Int) (buckets : List (SourceBucket Address))
    (sequence : ℕ) : Prop where
  slots : buckets.map SourceBucket.slot = List.range sourceRateBucketCount
  keys : ∀ a ∈ buckets, ∀ b ∈ buckets, a.key ≠ none → a.key = b.key → a = b
  used : ∀ a ∈ buckets, a.lastUsed ≤ sequence ∧ (a.key ≠ none → 0 < a.lastUsed)
  distinct : ∀ a ∈ buckets, ∀ b ∈ buckets, 0 < a.lastUsed → a.lastUsed = b.lastUsed → a = b
  budgets : ∀ a ∈ buckets, Level limits.sourceFlow last a.budget

omit [DecidableEq Address] in
theorem foldl_oldest (buckets : List (SourceBucket Address)) (first : SourceBucket Address) :
    let oldest := buckets.foldl
      (fun oldest entry => if entry.lastUsed < oldest.lastUsed then entry else oldest) first
    (oldest = first ∨ oldest ∈ buckets) ∧ oldest.lastUsed ≤ first.lastUsed ∧
      ∀ a ∈ buckets, oldest.lastUsed ≤ a.lastUsed := by
  induction buckets generalizing first with
  | nil => exact ⟨.inl rfl, le_refl _, fun a ha => absurd ha List.not_mem_nil⟩
  | cons next rest ih =>
    rw [List.foldl_cons]
    by_cases hless : next.lastUsed < first.lastUsed
    · rw [if_pos hless]
      obtain ⟨hmem, hle, hall⟩ := ih next
      exact ⟨.inr (List.mem_cons.mpr hmem), hle.trans hless.le, List.forall_mem_cons.mpr ⟨hle, hall⟩⟩
    · rw [if_neg hless]
      obtain ⟨hmem, hle, hall⟩ := ih first
      exact ⟨hmem.imp_right (List.mem_cons_of_mem next), hle,
        List.forall_mem_cons.mpr ⟨hle.trans (not_lt.mp hless), hall⟩⟩

variable {buckets : List (SourceBucket Address)}

omit [DecidableEq Address] in
theorem leastRecent_spec (h : buckets ≠ []) :
    ∃ oldest ∈ buckets, leastRecent buckets = some oldest ∧
      ∀ a ∈ buckets, oldest.lastUsed ≤ a.lastUsed := by
  obtain ⟨first, rest, rfl⟩ := List.exists_cons_of_ne_nil h
  obtain ⟨hmem, -, hall⟩ := foldl_oldest (first :: rest) first
  refine ⟨_, hmem.elim (fun heq => ?_) id, rfl, hall⟩
  rw [heq]
  exact List.mem_cons_self

theorem selectBucket_spec (h : buckets ≠ []) :
    ∃ old ∈ buckets, ∃ budget, selectBucket limits source now buckets =
        some { old with key := some source, budget } ∧
      ((old.key = some source ∧ budget = old.budget) ∨
        (∀ a ∈ buckets, a.key ≠ some source) ∧ budget = ⟨limits.sourceRateBurst, now⟩ ∧
          (old.key = none ∨ ∀ a ∈ buckets, a.key ≠ none ∧ old.lastUsed ≤ a.lastUsed)) := by
  unfold selectBucket
  cases hown : buckets.find? fun entry => entry.key = some source with
  | some old =>
    have hkey : old.key = some source := by simpa using List.find?_some hown
    refine ⟨old, List.mem_of_find?_eq_some hown, old.budget, ?_, .inl ⟨hkey, rfl⟩⟩
    rw [← hkey]
  | none =>
    have hnone : ∀ a ∈ buckets, a.key ≠ some source := fun a ha => by
      simpa using List.find?_eq_none.mp hown a ha
    cases hfree : buckets.find? fun entry => entry.key = none with
    | some old =>
      have hkey : old.key = none := by simpa using List.find?_some hfree
      exact ⟨old, List.mem_of_find?_eq_some hfree, _, rfl, .inr ⟨hnone, rfl, .inl hkey⟩⟩
    | none =>
      obtain ⟨oldest, hmem, hoption, hleast⟩ := leastRecent_spec h
      refine ⟨oldest, hmem, _, by rw [hoption]; rfl, .inr ⟨hnone, rfl, .inr fun a ha => ?_⟩⟩
      exact ⟨by simpa using List.find?_eq_none.mp hfree a ha, hleast a ha⟩

/-- The bucket as the datagram of a source leaves it. -/
def SourceBucket.used (limits : IngressLimits) (source : Address) (now : Int) (sequence : ℕ)
    (old : SourceBucket Address) (budget : TokenBucket) : SourceBucket Address :=
  ⟨old.slot, some source, if 1 ≤ (budget.refill limits.sourceFlow now).tokens then
    (budget.refill limits.sourceFlow now).spend else budget.refill limits.sourceFlow now, sequence + 1⟩

structure Spends (limits : IngressLimits) (source : Address) (now : Int)
    (buckets : List (SourceBucket Address)) (old : SourceBucket Address) (budget : TokenBucket) :
    Prop where
  mem : old ∈ buckets
  own : old.key = some source → budget = old.budget
  fresh : old.key ≠ some source → budget = ⟨limits.sourceRateBurst, now⟩ ∧
    ∀ a ∈ buckets, a.key ≠ some source
  oldest : old.key ≠ some source → old.key ≠ none →
    ∀ a ∈ buckets, a.key ≠ none ∧ old.lastUsed ≤ a.lastUsed

theorem acceptInboundTrap_kept (haccepting : s.accepting = true) :
    (acceptInboundTrap limits source now s).2.sourceRateBuckets =
        (consumeSourceRateToken limits source now s).2.sourceRateBuckets ∧
      (acceptInboundTrap limits source now s).2.sourceRateSequence =
        (consumeSourceRateToken limits source now s).2.sourceRateSequence ∧
      (acceptInboundTrap limits source now s).2.accepting =
        (consumeSourceRateToken limits source now s).2.accepting ∧
      ((acceptInboundTrap limits source now s).1 = true →
        (consumeSourceRateToken limits source now s).1 = true) := by
  simp only [acceptInboundTrap, haccepting, Bool.not_true, Bool.false_eq_true, if_false]
  generalize consumeSourceRateToken limits source now s = spent
  obtain ⟨granted, s'⟩ := spent
  cases granted with
  | false => exact ⟨rfl, rfl, rfl, id⟩
  | true =>
    have htaken : (consumeRateToken limits now s').2.sourceRateBuckets = s'.sourceRateBuckets ∧
        (consumeRateToken limits now s').2.sourceRateSequence = s'.sourceRateSequence ∧
        (consumeRateToken limits now s').2.accepting = s'.accepting := by
      unfold consumeRateToken
      simp only []
      split <;> exact ⟨rfl, rfl, rfl⟩
    simp only []
    generalize consumeRateToken limits now s' = taken at htaken ⊢
    obtain ⟨allowed, s''⟩ := taken
    cases allowed with
    | false => exact ⟨htaken.1, htaken.2.1, htaken.2.2, fun _ => trivial⟩
    | true =>
      simp only []
      split <;> exact ⟨htaken.1, htaken.2.1, htaken.2.2, fun _ => trivial⟩

theorem acceptInboundTrap_spec (htidy : Tidy limits last s.sourceRateBuckets s.sourceRateSequence)
    (haccepting : s.accepting = true) :
    ∃ old budget, Spends limits source now s.sourceRateBuckets old budget ∧
      (acceptInboundTrap limits source now s).2.sourceRateBuckets = Table.put SourceBucket.slot
        (old.used limits source now s.sourceRateSequence budget) s.sourceRateBuckets ∧
      (acceptInboundTrap limits source now s).2.sourceRateSequence = s.sourceRateSequence + 1 ∧
      (acceptInboundTrap limits source now s).2.accepting = true ∧
      ((acceptInboundTrap limits source now s).1 = true →
        1 ≤ (budget.refill limits.sourceFlow now).tokens) := by
  have hne : s.sourceRateBuckets ≠ [] := fun hnil => by
    have hslots := htidy.slots
    rw [hnil] at hslots
    cases hslots
  obtain ⟨old, hmem, budget, hselect, hchoice⟩ := @selectBucket_spec _ _ limits source now _ hne
  obtain ⟨hbuckets, hsequence, hlistens, hgranted⟩ :=
    @acceptInboundTrap_kept _ _ limits source now s haccepting
  simp only [consumeSourceRateToken, hselect] at hbuckets hsequence hlistens hgranted
  refine ⟨old, budget, ⟨hmem, fun hown => ?_, fun hother => ?_, fun hother hkey => ?_⟩, hbuckets,
    hsequence, hlistens.trans haccepting, fun h => of_decide_eq_true (hgranted h)⟩
  · exact hchoice.elim And.right fun hfresh => absurd hown (hfresh.1 old hmem)
  · exact hchoice.elim (fun hown => absurd hown.1 hother) fun hfresh => ⟨hfresh.2.1, hfresh.1⟩
  · exact hchoice.elim (fun hown => absurd hown.1 hother) fun hfresh =>
      hfresh.2.2.elim (fun hfree => absurd hfree hkey) id

variable {sequence : ℕ}

omit [DecidableEq Address] in
theorem Tidy.keyed (h : Tidy limits last buckets sequence) :
    Table.Keyed SourceBucket.slot buckets := by
  rw [Table.Keyed, h.slots]
  exact List.nodup_range

variable {old : SourceBucket Address} {budget : TokenBucket}

theorem Spends.level (h : Tidy limits last buckets sequence) (hlast : last ≤ now)
    (hspends : Spends limits source now buckets old budget) :
    Level limits.sourceFlow now budget := by
  by_cases hown : old.key = some source
  · rw [hspends.own hown]
    have hlevel := h.budgets old hspends.mem
    exact ⟨hlevel.nonneg, hlevel.le, hlevel.past.trans hlast⟩
  · rw [(hspends.fresh hown).1]
    exact ⟨Nat.cast_nonneg _, le_refl _, le_refl _⟩

theorem Tidy.used_put (h : Tidy limits last buckets sequence) (hlast : last ≤ now)
    (hspends : Spends limits source now buckets old budget) :
    Tidy limits now (Table.put SourceBucket.slot (old.used limits source now sequence budget) buckets)
      (sequence + 1) := by
  have hmem : ∀ {a}, a ∈ Table.put SourceBucket.slot (old.used limits source now sequence budget)
      buckets ↔ a = old.used limits source now sequence budget ∨ a ∈ buckets ∧ a.slot ≠ old.slot :=
    fun {a} => Table.mem_put h.keyed
  have hsource : ∀ a ∈ buckets, a.slot ≠ old.slot → a.key ≠ some source := by
    intro a ha hslot hkey
    by_cases hown : old.key = some source
    · exact hslot (congrArg SourceBucket.slot
        (h.keys a ha old hspends.mem (hkey ▸ Option.some_ne_none _) (hkey.trans hown.symm)))
    · exact (hspends.fresh hown).2 a ha hkey
  refine ⟨?_, ?_, ?_, ?_, ?_⟩
  · rw [Table.map_key_put, if_pos]
    · exact h.slots
    · exact List.mem_map.mpr ⟨old, hspends.mem, rfl⟩
  · intro a ha b hb hkey heq
    rcases hmem.mp ha with rfl | ⟨ha, haslot⟩ <;> rcases hmem.mp hb with rfl | ⟨hb, hbslot⟩
    · rfl
    · exact absurd heq.symm (hsource b hb hbslot)
    · exact absurd heq (hsource a ha haslot)
    · exact h.keys a ha b hb hkey heq
  · intro a ha
    rcases hmem.mp ha with rfl | ⟨ha, -⟩
    · exact ⟨le_refl _, fun _ => Nat.succ_pos _⟩
    · exact ⟨(h.used a ha).1.trans (Nat.le_succ _), (h.used a ha).2⟩
  · intro a ha b hb hpos heq
    rcases hmem.mp ha with rfl | ⟨ha, haslot⟩ <;> rcases hmem.mp hb with rfl | ⟨hb, hbslot⟩
    · rfl
    · exact absurd heq.symm (Nat.ne_of_lt (Nat.lt_succ_of_le (h.used b hb).1))
    · exact absurd heq (Nat.ne_of_lt (Nat.lt_succ_of_le (h.used a ha).1))
    · exact h.distinct a ha b hb hpos heq
  · intro a ha
    rcases hmem.mp ha with rfl | ⟨ha, -⟩
    · have hlevel := (hspends.level h hlast).refill (le_refl now)
      simp only [SourceBucket.used]
      split
      · exact hlevel.spend ‹_›
      · exact hlevel
    · have hlevel := h.budgets a ha
      exact ⟨hlevel.nonneg, hlevel.le, hlevel.past.trans hlast⟩

/-- The bucket of a source and what it has given out, while the sources heard since are `seen`. -/
def Held (limits : IngressLimits) (source : Address) (start : Int) (given : ℕ) (seen : List Address)
    (buckets : List (SourceBucket Address)) : Prop :=
  ∃ b ∈ buckets, b.key = some source ∧ Covered limits.sourceFlow start given b.budget ∧
    ∀ a ∈ buckets, b.lastUsed < a.lastUsed → ∃ x ∈ seen, a.key = some x

theorem takenOver_after (h : Tidy limits last buckets sequence) {sender : Address}
    {b : SourceBucket Address} (hmem : b ∈ buckets) (hkey : b.key ≠ none)
    (hfresh : ∀ a ∈ buckets, a.key ≠ some sender)
    (hleast : ∀ a ∈ buckets, a.key ≠ none ∧ b.lastUsed ≤ a.lastUsed) {seen : List Address}
    (hseen : ∀ a ∈ buckets, b.lastUsed < a.lastUsed → ∃ x ∈ seen, a.key = some x) :
    sourceRateBucketCount ≤ (sender :: seen).dedup.length := by
  have hnodup : buckets.Nodup := List.Nodup.of_map _ h.keyed
  have hlength : buckets.length = sourceRateBucketCount := by
    rw [← List.length_map (f := SourceBucket.slot), h.slots, List.length_range]
  have hkeys : (some sender :: (buckets.erase b).map SourceBucket.key).Nodup := by
    refine List.nodup_cons.mpr ⟨fun hmem => ?_, (hnodup.erase b).map_on fun x hx y hy heq => ?_⟩
    · obtain ⟨a, ha, hkey⟩ := List.mem_map.mp hmem
      exact hfresh a (List.mem_of_mem_erase ha) hkey
    · exact h.keys x (List.mem_of_mem_erase hx) y (List.mem_of_mem_erase hy)
        (hleast x (List.mem_of_mem_erase hx)).1 heq
  have hsubset : some sender :: (buckets.erase b).map SourceBucket.key ⊆
      (sender :: seen).dedup.map some := by
    intro key hkeyIn
    rcases List.mem_cons.mp hkeyIn with rfl | hother
    · exact List.mem_map_of_mem (List.mem_dedup.mpr List.mem_cons_self)
    · obtain ⟨a, ha, rfl⟩ := List.mem_map.mp hother
      obtain ⟨hne, ha⟩ := (hnodup.mem_erase_iff).mp ha
      have hlater : b.lastUsed < a.lastUsed := lt_of_le_of_ne (hleast a ha).2 fun heq =>
        hne (h.distinct b hmem a ha ((h.used b hmem).2 hkey) heq).symm
      obtain ⟨x, hx, hxa⟩ := hseen a ha hlater
      rw [hxa]
      exact List.mem_map_of_mem (List.mem_dedup.mpr (List.mem_cons_of_mem _ hx))
  have hle := (List.subperm_of_subset hkeys hsubset).length_le
  rw [List.length_cons, List.length_map, List.length_map, List.length_erase_of_mem hmem,
    hlength] at hle
  exact hle

theorem Held.other {sender : Address} {seen : List Address} (h : Tidy limits last buckets sequence)
    (hne : sender ≠ source) (hheld : Held limits source start given seen buckets)
    (hspends : Spends limits sender now buckets old budget)
    (hfew : (sender :: seen).dedup.length < sourceRateBucketCount) :
    Held limits source start given (sender :: seen)
      (Table.put SourceBucket.slot (old.used limits sender now sequence budget) buckets) := by
  obtain ⟨b, hb, hkey, hcovered, hseen⟩ := hheld
  have hsome : b.key ≠ none := hkey ▸ Option.some_ne_none source
  have hslot : b.slot ≠ old.slot := by
    intro heq
    obtain rfl := List.inj_on_of_nodup_map h.keyed hb hspends.mem heq
    have hother : b.key ≠ some sender := fun hown => hne (Option.some.inj (hown.symm.trans hkey))
    exact absurd (takenOver_after h hb hsome (hspends.fresh hother).2 (hspends.oldest hother hsome) hseen)
      (not_le.mpr hfew)
  refine ⟨b, (Table.mem_put h.keyed).mpr (.inr ⟨hb, hslot⟩), hkey, hcovered, fun a ha hlater => ?_⟩
  rcases (Table.mem_put h.keyed).mp ha with rfl | ⟨ha, -⟩
  · exact ⟨sender, List.mem_cons_self, rfl⟩
  · obtain ⟨x, hx, hxa⟩ := hseen a ha hlater
    exact ⟨x, List.mem_cons_of_mem _ hx, hxa⟩

theorem Spends.covered (h : Tidy limits last buckets sequence) (hlast : last ≤ now)
    (hspends : Spends limits source now buckets old budget) {others : Option (List Address)}
    (hnone : others = none → given = 0)
    (hheld : ∀ seen, others = some seen → Held limits source start given seen buckets) :
    Covered limits.sourceFlow start given budget := by
  cases others with
  | none =>
    rw [hnone rfl]
    exact (hspends.level h hlast).covered start
  | some seen =>
    obtain ⟨b, hb, hkey, hcovered, -⟩ := hheld seen rfl
    have hown : old.key = some source := by
      by_contra hother
      exact (hspends.fresh hother).2 b hb hkey
    rwa [hspends.own hown, h.keys old hspends.mem b hb (hown ▸ Option.some_ne_none _)
      (hown.trans hkey.symm)]

omit [DecidableEq Address] in
theorem covered_used (h : Covered limits.sourceFlow start given budget) (hstart : start ≤ now)
    (hpast : budget.refilledAt ≤ now) (old : SourceBucket Address) (sequence : ℕ) :
    Covered limits.sourceFlow start
        (given + if 1 ≤ (budget.refill limits.sourceFlow now).tokens then 1 else 0)
        (old.used limits source now sequence budget).budget ∧
      (old.used limits source now sequence budget).budget.refilledAt = now := by
  obtain ⟨hfilled, hpresent⟩ := h.refill hstart hpast
  simp only [SourceBucket.used]
  split
  · exact ⟨hfilled.spend ‹_› (hpresent.symm ▸ hstart), hpresent⟩
  · exact ⟨hfilled, hpresent⟩

theorem admitted_source_le {events : List (IngressEvent Address)} {others : Option (List Address)}
    (htidy : Tidy limits last s.sourceRateBuckets s.sourceRateSequence)
    (hnone : others = none → given = 0)
    (hheld : ∀ seen, others = some seen → seen.dedup.length < sourceRateBucketCount →
      Held limits source start given seen s.sourceRateBuckets)
    (hclock : (last :: arrivals events).Pairwise (· ≤ ·))
    (hwindow : ∀ t ∈ arrivals events, start ≤ t ∧ t ≤ stop)
    (hspaced : Spaced source s.accepting others events)
    (hgiven : (given : ℚ) ≤ limits.sourceRateBurst + limits.sourceFlow.inflow start stop) :
    ((given + admitted limits (· = source) s events : ℕ) : ℚ) ≤
      limits.sourceRateBurst + limits.sourceFlow.inflow start stop := by
  induction events generalizing s given last others with
  | nil => exact hgiven
  | cons event events ih =>
    cases event with
    | settled =>
      rw [admitted, Ingress.step, Bool.false_and, if_neg Bool.false_ne_true, Nat.zero_add]
      exact ih htidy hnone hheld hclock hwindow hspaced hgiven
    | accepting on =>
      rw [admitted, Ingress.step, Bool.false_and, if_neg Bool.false_ne_true, Nat.zero_add]
      exact ih htidy hnone hheld hclock hwindow hspaced hgiven
    | datagram sender now =>
      have hclock' : (last :: now :: arrivals events).Pairwise (· ≤ ·) := hclock
      obtain ⟨hfirst, hsorted⟩ := List.pairwise_cons.mp hclock'
      obtain ⟨hnow, hrest⟩ := List.forall_mem_cons.mp hwindow
      have hlast := hfirst now List.mem_cons_self
      cases haccepting : s.accepting with
      | false =>
        rw [haccepting] at hspaced
        have hstep : s.step limits (.datagram sender now) = (false, s) := by
          simp [Ingress.step, acceptInboundTrap, haccepting]
        rw [admitted, hstep, Bool.false_and, if_neg Bool.false_ne_true, Nat.zero_add]
        refine ih htidy hnone hheld (hclock'.sublist (List.cons_sublist_cons.mpr
          (List.sublist_cons_self _ _))) hrest ?_ hgiven
        rw [haccepting]
        exact hspaced
      | true =>
        rw [haccepting] at hspaced
        obtain ⟨old, budget, hspends, hbuckets, hsequence, hlistens, hgranted⟩ :=
          @acceptInboundTrap_spec _ _ limits sender now last s htidy haccepting
        have htidy' := htidy.used_put hlast hspends
        rw [← hbuckets, ← hsequence] at htidy'
        rw [admitted, Ingress.step]
        by_cases hsource : sender = source
        · subst hsource
          rw [Spaced, if_pos rfl] at hspaced
          have hcovered := hspends.covered htidy hlast hnone fun seen hseen =>
            hheld seen hseen (hspaced.1 seen hseen)
          obtain ⟨hafter, hpresent⟩ := @covered_used _ _ sender _ _ _ _ hcovered hnow.1
            (hspends.level htidy hlast).past old s.sourceRateSequence
          have hheld' : ∀ seen, some [] = some seen → seen.dedup.length < sourceRateBucketCount →
              Held limits sender start (given +
                  if 1 ≤ (budget.refill limits.sourceFlow now).tokens then 1 else 0) seen
                (acceptInboundTrap limits sender now s).2.sourceRateBuckets := by
            intro seen hseen _
            rw [hbuckets]
            refine ⟨_, (Table.mem_put htidy.keyed).mpr (.inl rfl), rfl, hafter, fun a ha hlater => ?_⟩
            rcases (Table.mem_put htidy.keyed).mp ha with rfl | ⟨ha, -⟩
            · exact absurd hlater (lt_irrefl _)
            · exact absurd ((htidy.used a ha).1.trans (Nat.le_succ _)) (not_le.mpr hlater)
          have hnext := ih htidy' (fun h => absurd h (Option.some_ne_none _)) hheld' hsorted hrest
            (hlistens.symm ▸ hspaced.2)
            (hafter.given_le (hnow.1.trans hnow.2) (hpresent.le.trans hnow.2))
          refine le_trans (Nat.cast_le.mpr ?_) hnext
          rw [← Nat.add_assoc]
          refine Nat.add_le_add_right (Nat.add_le_add_left ?_ _) _
          split
          · rw [if_pos (hgranted (Bool.and_eq_true_iff.mp ‹_›).1)]
          · exact Nat.zero_le _
        · rw [Spaced, if_neg hsource] at hspaced
          have hnot : (IngressEvent.datagram sender now).isFrom (· = source) = false :=
            decide_eq_false hsource
          rw [hnot, Bool.and_false, if_neg Bool.false_ne_true, Nat.zero_add]
          refine ih htidy' (fun h => hnone (Option.map_eq_none_iff.mp h)) ?_ hsorted hrest
            (hlistens.symm ▸ hspaced) hgiven
          intro seen hseen hfew
          obtain ⟨seen, rfl, rfl⟩ := Option.map_eq_some_iff.mp hseen
          have hfewer : seen.dedup.length < sourceRateBucketCount :=
            lt_of_le_of_lt (List.subperm_of_subset (List.nodup_dedup seen) fun x hx =>
              List.mem_dedup.mpr (List.mem_cons_of_mem _ (List.mem_dedup.mp hx))).length_le hfew
          rw [hbuckets]
          exact (hheld seen rfl hfewer).other htidy hsource hspends hfew

/-- A receiver whose buckets were last filled up in the past. -/
structure Ingress.Ready (limits : IngressLimits) (last : Int) (s : Ingress Address) : Prop where
  tidy : Tidy limits last s.sourceRateBuckets s.sourceRateSequence
  minute : Level limits.minuteFlow last s.minuteRate

omit [DecidableEq Address] in
theorem ready_loaded (limits : IngressLimits) (now : Int) :
    (Ingress.loaded Address limits now).Ready limits now := by
  refine ⟨⟨?_, ?_, ?_, ?_, ?_⟩, Nat.cast_nonneg _, le_refl _, le_refl _⟩
  · rw [Ingress.loaded, List.map_map]
    exact List.map_id _
  all_goals simp only [Ingress.loaded, List.forall_mem_map]
  · exact fun _ _ _ _ hkey => absurd rfl hkey
  · exact fun _ _ => ⟨le_refl _, fun hkey => absurd rfl hkey⟩
  · exact fun _ _ _ _ hpos => absurd hpos (lt_irrefl 0)
  · exact fun _ _ => ⟨Nat.cast_nonneg _, le_refl _, le_refl _⟩

theorem Ingress.Ready.step (h : s.Ready limits last) {event : IngressEvent Address}
    (hlast : ∀ t ∈ arrivals [event], last ≤ t) :
    (s.step limits event).2.Ready limits ((arrivals [event]).headD last) := by
  cases event with
  | settled => exact ⟨h.tidy, h.minute⟩
  | accepting on => exact ⟨h.tidy, h.minute⟩
  | datagram sender now =>
    have hnow : last ≤ now := hlast now List.mem_cons_self
    refine ⟨?_, ?_⟩
    · cases haccepting : s.accepting with
      | false =>
        simp only [Ingress.step, acceptInboundTrap, haccepting, Bool.not_false, if_true]
        exact ⟨h.tidy.slots, h.tidy.keys, h.tidy.used, h.tidy.distinct, fun a ha =>
          ⟨(h.tidy.budgets a ha).nonneg, (h.tidy.budgets a ha).le,
            (h.tidy.budgets a ha).past.trans hnow⟩⟩
      | true =>
        obtain ⟨old, budget, hspends, hbuckets, hsequence, -⟩ :=
          @acceptInboundTrap_spec _ _ limits sender now last s h.tidy haccepting
        simp only [Ingress.step]
        rw [hbuckets, hsequence]
        exact h.tidy.used_put hnow hspends
    · rcases step_minuteRate limits s (.datagram sender now) with
        ⟨-, hsame⟩ | ⟨sender', now', heq, hspent⟩
      · rw [hsame]
        exact ⟨h.minute.nonneg, h.minute.le, h.minute.past.trans hnow⟩
      · obtain ⟨rfl, rfl⟩ : sender = sender' ∧ now = now' := by
          injection heq with h₁ h₂
          exact ⟨h₁, h₂⟩
        have hfilled := h.minute.refill hnow
        rcases hspent with ⟨-, hafter⟩ | ⟨htoken, hafter⟩
        · exact hafter ▸ hfilled
        · exact hafter ▸ hfilled.spend htoken

theorem Ingress.Ready.after {before window : List (IngressEvent Address)} (h : s.Ready limits last)
    (hclock : (last :: arrivals (before ++ window)).Pairwise (· ≤ ·)) :
    ∃ last', (s.after limits before).Ready limits last' ∧
      (last' :: arrivals window).Pairwise (· ≤ ·) := by
  induction before generalizing s last with
  | nil => exact ⟨last, h, hclock⟩
  | cons event before ih =>
    rw [List.cons_append, arrivals_cons] at hclock
    refine ih (h.step fun t ht => ?_) ?_
    · exact (List.pairwise_cons.mp hclock).1 t (List.mem_append_left _ ht)
    · cases event with
      | datagram sender now => exact (List.pairwise_cons.mp hclock).2
      | _ => exact hclock

/-- No more traps are admitted than burst and inflow allow, in total and of spaced sources. -/
theorem admitted_le (limits : IngressLimits) (loaded : Int) {before window : List (IngressEvent Address)}
    (hclock : (loaded :: arrivals (before ++ window)).Pairwise (· ≤ ·))
    (hwindow : ∀ t ∈ arrivals window, start ≤ t ∧ t ≤ stop) (hspan : start ≤ stop) :
    let s := (Ingress.loaded Address limits loaded).after limits before
    (admitted limits (fun _ => true) s window : ℚ) ≤
        limits.rateMinuteBurst + ((stop - start : Int) : ℚ) / 60000 * limits.ratePerMinute ∧
      ∀ source, Spaced source s.accepting none window →
        (admitted limits (· = source) s window : ℚ) ≤
          limits.sourceRateBurst + ((stop - start : Int) : ℚ) / 60000 * limits.sourceRatePerMinute := by
  intro s
  obtain ⟨last, hready, hsorted⟩ := (ready_loaded limits loaded).after hclock
  have hzero : ∀ flow : Flow, ((0 : ℕ) : ℚ) ≤ flow.burst + flow.inflow start stop := fun flow =>
    (add_nonneg (Nat.cast_nonneg _) (inflow_nonneg flow hspan)).trans_eq' Nat.cast_zero.symm
  constructor
  · have hall := admitted_all_le (hready.minute.covered start) hready.minute.past hsorted hwindow
      (fun _ => true) (hzero limits.minuteFlow)
    rwa [Nat.zero_add] at hall
  · intro source hspaced
    have hof := admitted_source_le hready.tidy (fun _ => rfl) (fun seen hseen => by cases hseen)
      hsorted hwindow hspaced (hzero limits.sourceFlow)
    rwa [Nat.zero_add] at hof

/-- Limits within the range of the environment, with a burst of one trap for a source. -/
def floodLimits : IngressLimits where
  ratePerSecond := 1000
  rateBurst := 2000
  ratePerMinute := 6000
  rateMinuteBurst := 12000
  sourceRatePerMinute := 1
  sourceRateBurst := 1
  maxInFlight := 128

/-- One source before and after 256 others, all at one time. -/
def flood : List (IngressEvent ℕ) :=
  .datagram 0 0 :: (List.range 256).flatMap (fun i => [.settled, .datagram (i + 1) 0]) ++
    [.settled, .datagram 0 0]

/-- A source whose bucket was taken over starts with a full burst again. -/
theorem flood_exceeds :
    (floodLimits.sourceRateBurst + ((0 - 0 : Int) : ℚ) / 60000 * floodLimits.sourceRatePerMinute : ℚ) <
      admitted floodLimits (· = 0)
        ((Ingress.loaded ℕ floodLimits 0).after floodLimits [.accepting true]) flood := by
  have htwo : admitted floodLimits (· = 0)
      ((Ingress.loaded ℕ floodLimits 0).after floodLimits [.accepting true]) flood = 2 := by
    decide +kernel
  rw [htwo]
  norm_num [floodLimits]

/-- Ten sources that send twice each. -/
theorem admitted_le_sample :
    let events : List (IngressEvent ℕ) :=
      (List.range 20).map fun i => .datagram (i % 10) i
    let s := (Ingress.loaded ℕ floodLimits 0).after floodLimits [.accepting true]
    (admitted floodLimits (fun _ => true) s events : ℚ) ≤
        floodLimits.rateMinuteBurst + ((20 - 0 : Int) : ℚ) / 60000 * floodLimits.ratePerMinute ∧
      ∀ source, Spaced source s.accepting none events →
        (admitted floodLimits (· = source) s events : ℚ) ≤
          floodLimits.sourceRateBurst +
            ((20 - 0 : Int) : ℚ) / 60000 * floodLimits.sourceRatePerMinute :=
  admitted_le floodLimits 0 (by decide) (by decide) (by decide)

end FireIsp.Trap
