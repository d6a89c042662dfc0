import FireIsp.Base.Run
import Mathlib.Data.List.Pairwise

/-!
# Stamping providers

The provider loop of `stamp`: circuit breakers, up to three attempts with each provider, and
fail-over to the next one while a provider is unreachable. An attempt with any other error leaves
open whether the provider registered the document.
-/

namespace FireIsp.Cfdi

open Transition

/-- `makeBreaker`. -/
structure Breaker where
  failures : Nat
  /-- Time of the latest failure, in milliseconds. -/
  lastFailure : Nat

/-- A breaker of a provider not called yet. -/
def Breaker.fresh : Breaker := ⟨0, 0⟩

/-- `isOpen`: five failures, and no probe is due yet. -/
def Breaker.isOpen (breaker : Breaker) (now : Nat) : Bool :=
  decide (5 ≤ breaker.failures) && !decide (breaker.lastFailure + 60000 < now)

def Breaker.recordSuccess (breaker : Breaker) : Breaker := { breaker with failures := 0 }

def Breaker.recordFailure (breaker : Breaker) (now : Nat) : Breaker :=
  ⟨breaker.failures + 1, now⟩

/-- Breakers of the process. -/
structure Breakers where
  circuit : Breaker
  /-- `providerBreakers`, by provider id. -/
  provider : Nat → Breaker

def Breakers.put (breakers : Breakers) (pac : Nat) (breaker : Breaker) : Breakers :=
  { breakers with provider := fun id => if id = pac then breaker else breakers.provider id }

/-- How a call to a provider ends. -/
inductive Outcome
  | stamped (uuid : String)
  /-- No connection was established: `isUnreachable`. -/
  | unreachable
  | ambiguous
  deriving DecidableEq

/-- A call that sent the document to a provider. -/
structure Call where
  pac : Nat
  outcome : Outcome

/-- What one `stamp` call meets. -/
structure Attempt where
  startAt : Nat
  /-- `xml_content` of the document, if the document exists. -/
  xmlContent : Option (Option String)
  invoiceTerminal : Bool
  /-- Active providers of the environment, in order. -/
  pacs : List Nat
  distinct : pacs.Nodup
  lookedAt : Nat → Nat
  /-- Whether `sealXmlForProvider` returns for a provider. -/
  seals : Nat → Bool
  outcome : Nat → Nat → Outcome
  failedAt : Nat → Nat
  /-- Time the failure of the call is recorded. -/
  endAt : Nat

/-- The document is refused before any provider is looked at. -/
def Attempt.refused (attempt : Attempt) : Bool :=
  (attempt.xmlContent.bind id).isNone || attempt.invoiceTerminal || attempt.pacs.isEmpty

/-- Attempts with one provider, from the given one on: repeated while it is unreachable. -/
def tries (outcome : Nat → Outcome) : Nat → Nat → List Outcome
  | 0, _ => []
  | left + 1, attempt =>
    outcome attempt :: if outcome attempt = .unreachable then tries outcome left (attempt + 1)
      else []

/-- The attempts with a provider: `MAX_RETRIES` at most. -/
def Attempt.tries (attempt : Attempt) (pac : Nat) : List Outcome :=
  FireIsp.Cfdi.tries (attempt.outcome pac) 3 1

/-- Result of the provider loop. -/
inductive Result
  | stamped (uuid : String)
  | failed
  | thrown
  deriving DecidableEq

/-- Breakers, calls and result of the provider loop. -/
structure Offered where
  breakers : Breakers
  calls : List Call
  result : Result

/-- `for (const pac of pacs)`. -/
def offer (attempt : Attempt) : List Nat → Breakers → Offered
  | [], breakers => ⟨breakers, [], .failed⟩
  | pac :: rest, breakers =>
    if (breakers.provider pac).isOpen (attempt.lookedAt pac) then offer attempt rest breakers
    else if !attempt.seals pac then ⟨breakers, [], .thrown⟩
    else
      let calls := (attempt.tries pac).map fun outcome => ⟨pac, outcome⟩
      let failed := breakers.put pac
        ((breakers.provider pac).recordFailure (attempt.failedAt pac))
      match (attempt.tries pac).getLast? with
      | some (.stamped uuid) =>
        ⟨{ breakers.put pac (breakers.provider pac).recordSuccess with
            circuit := breakers.circuit.recordSuccess }, calls, .stamped uuid⟩
      | some .unreachable =>
        let offered := offer attempt rest failed
        { offered with calls := calls ++ offered.calls }
      | _ => ⟨failed, calls, .failed⟩

/-- The process, and the calls that sent the document so far. -/
structure Stamping where
  breakers : Breakers
  /-- Calls made for the document, oldest first. -/
  calls : List Call

def stamp (s : Stamping) (attempt : Attempt) : Stamping :=
  if s.breakers.circuit.isOpen attempt.startAt || attempt.refused then s
  else
    let offered := offer attempt attempt.pacs s.breakers
    let breakers :=
      if offered.result = .failed then
        { offered.breakers with
          circuit := offered.breakers.circuit.recordFailure attempt.endAt }
      else offered.breakers
    ⟨breakers, s.calls ++ offered.calls⟩

/-- After an ambiguous call the document goes to no other provider. -/
def Confined (calls : List Call) : Prop :=
  calls.Pairwise fun earlier later => earlier.outcome = .ambiguous → later.pac = earlier.pac

instance (calls : List Call) : Decidable (Confined calls) :=
  inferInstanceAs (Decidable (List.Pairwise _ _))

/-- A provider is reached if its breaker and sealing let it, and those before it are passed over. -/
def Reaches (attempt : Attempt) (breakers : Breakers) (pacs : List Nat) (pac : Nat) : Prop :=
  ∃ before after, pacs = before ++ pac :: after ∧
    (breakers.provider pac).isOpen (attempt.lookedAt pac) = false ∧ attempt.seals pac = true ∧
    ∀ earlier ∈ before, (breakers.provider earlier).isOpen (attempt.lookedAt earlier) = true ∨
      (attempt.seals earlier = true ∧ ∀ k, 1 ≤ k → k ≤ 3 →
        attempt.outcome earlier k = .unreachable)

def StaysWithProvider (s : Stamping) (attempt : Attempt) : Prop :=
  ∀ earlier ∈ s.calls, earlier.outcome = .ambiguous →
    s.breakers.circuit.isOpen attempt.startAt = false → attempt.refused = false →
      ∀ pac, Reaches attempt s.breakers attempt.pacs pac → pac = earlier.pac

theorem tries_three (outcome : Nat → Outcome) :
    (tries outcome 3 1).getLast? = some .unreachable ↔
      ∀ k, 1 ≤ k → k ≤ 3 → outcome k = .unreachable := by
  have hthree : (∀ k, 1 ≤ k → k ≤ 3 → outcome k = .unreachable) ↔
      outcome 1 = .unreachable ∧ outcome 2 = .unreachable ∧ outcome 3 = .unreachable := by
    constructor
    · intro h
      exact ⟨h 1 (by omega) (by omega), h 2 (by omega) (by omega), h 3 (by omega) (by omega)⟩
    · rintro ⟨h1, h2, h3⟩ k hk hk'
      obtain rfl | rfl | rfl : k = 1 ∨ k = 2 ∨ k = 3 := by omega
      · exact h1
      · exact h2
      · exact h3
  rw [hthree]
  simp only [tries]
  by_cases h1 : outcome 1 = .unreachable
  · by_cases h2 : outcome 2 = .unreachable
    · by_cases h3 : outcome 3 = .unreachable <;> simp [h1, h2, h3]
    · simp [h1, h2]
  · simp [h1]

theorem tries_pairwise (outcome : Nat → Outcome) (left attempt : Nat) :
    ∀ earlier ∈ tries outcome left attempt,
      earlier = .unreachable ∨ (tries outcome left attempt).getLast? = some earlier := by
  induction left generalizing attempt with
  | zero => exact fun earlier h => absurd h List.not_mem_nil
  | succ left ih =>
    intro earlier hearlier
    by_cases h : outcome attempt = .unreachable
    · simp only [tries, h, if_true] at hearlier ⊢
      rcases List.mem_cons.mp hearlier with rfl | hrest
      · exact Or.inl rfl
      · refine (ih (attempt + 1) earlier hrest).imp_right fun hlast => ?_
        rw [List.getLast?_cons, hlast]
        rfl
    · simp only [tries, h, if_false, List.mem_singleton] at hearlier ⊢
      rw [hearlier]
      exact Or.inr rfl

theorem tries_ne_nil (attempt : Attempt) (pac : Nat) : attempt.tries pac ≠ [] :=
  List.cons_ne_nil _ _

variable {attempt : Attempt} {breakers : Breakers}

def PassedOver (attempt : Attempt) (breakers : Breakers) (pac : Nat) : Prop :=
  (breakers.provider pac).isOpen (attempt.lookedAt pac) = true ∨
    (attempt.seals pac = true ∧ ∀ k, 1 ≤ k → k ≤ 3 → attempt.outcome pac k = .unreachable)

theorem reaches_cons {first pac : Nat} {rest : List Nat} :
    Reaches attempt breakers (first :: rest) pac ↔
      (pac = first ∧ (breakers.provider first).isOpen (attempt.lookedAt first) = false ∧
        attempt.seals first = true) ∨
      (PassedOver attempt breakers first ∧ Reaches attempt breakers rest pac) := by
  constructor
  · rintro ⟨before, after, hsplit, hclosed, hseals, hbefore⟩
    cases before with
    | nil =>
      obtain ⟨rfl, -⟩ := List.cons_eq_cons.mp hsplit
      exact Or.inl ⟨rfl, hclosed, hseals⟩
    | cons head before =>
      obtain ⟨rfl, hrest⟩ := List.cons_eq_cons.mp hsplit
      exact Or.inr ⟨hbefore first List.mem_cons_self, before, after, hrest, hclosed, hseals,
        fun earlier hearlier => hbefore earlier (List.mem_cons_of_mem _ hearlier)⟩
  · rintro (⟨rfl, hclosed, hseals⟩ | ⟨hfirst, before, after, rfl, hclosed, hseals, hbefore⟩)
    · exact ⟨[], rest, rfl, hclosed, hseals, fun earlier h => absurd h List.not_mem_nil⟩
    · refine ⟨first :: before, after, rfl, hclosed, hseals, fun earlier hearlier => ?_⟩
      rcases List.mem_cons.mp hearlier with rfl | hearlier
      · exact hfirst
      · exact hbefore earlier hearlier

theorem reaches_congr {breakers' : Breakers} {pacs : List Nat} {pac : Nat}
    (h : ∀ p ∈ pacs, breakers.provider p = breakers'.provider p) :
    Reaches attempt breakers pacs pac ↔ Reaches attempt breakers' pacs pac := by
  induction pacs with
  | nil =>
    constructor <;> rintro ⟨before, after, hsplit, -⟩ <;> cases before <;> cases hsplit
  | cons first rest ih =>
    have hrest := ih fun p hp => h p (List.mem_cons_of_mem _ hp)
    rw [reaches_cons, reaches_cons, hrest, PassedOver, PassedOver, h first List.mem_cons_self]

theorem offer_reaches {pacs : List Nat} (hdistinct : pacs.Nodup) (pac : Nat) :
    (∃ call ∈ (offer attempt pacs breakers).calls, call.pac = pac) ↔
      Reaches attempt breakers pacs pac := by
  induction pacs generalizing breakers with
  | nil =>
    constructor
    · rintro ⟨call, hcall, -⟩
      exact absurd hcall List.not_mem_nil
    · rintro ⟨before, after, hsplit, -⟩
      cases before <;> cases hsplit
  | cons first rest ih =>
    obtain ⟨hnew, hrest⟩ := List.nodup_cons.mp hdistinct
    have hfirstCalls : ∀ outcomes : List Outcome, outcomes ≠ [] →
        ((∃ call ∈ outcomes.map fun outcome => (⟨first, outcome⟩ : Call), call.pac = pac) ↔
          pac = first) := by
      intro outcomes hne
      obtain ⟨outcome, outcomes, rfl⟩ := List.exists_cons_of_ne_nil hne
      constructor
      · rintro ⟨call, hcall, rfl⟩
        obtain ⟨_, _, rfl⟩ := List.mem_map.mp hcall
        rfl
      · rintro rfl
        exact ⟨⟨pac, outcome⟩, List.mem_cons_self, rfl⟩
    have hcalled := hfirstCalls (attempt.tries first) (tries_ne_nil attempt first)
    rw [reaches_cons, PassedOver]
    cases hopen : (breakers.provider first).isOpen (attempt.lookedAt first) with
    | true =>
      simp only [offer, hopen, if_true]
      rw [ih hrest]
      simp
    | false =>
      cases hseals : attempt.seals first with
      | false => simp [offer, hopen, hseals]
      | true =>
        have hlast : (attempt.tries first).getLast? = some .unreachable ↔ _ :=
          tries_three (attempt.outcome first)
        simp only [offer, hopen, hseals, Bool.false_eq_true, if_false, Bool.not_true]
        cases hend : (attempt.tries first).getLast? with
        | none => exact absurd (List.getLast?_eq_none_iff.mp hend) (tries_ne_nil _ _)
        | some outcome =>
          rw [hend] at hlast
          cases outcome with
          | stamped uuid =>
            have hnot : ¬∀ k, 1 ≤ k → k ≤ 3 → attempt.outcome first k = .unreachable :=
              fun hall => Outcome.noConfusion (Option.some.inj (hlast.mpr hall))
            simp only [hcalled, hnot, and_false, or_false, false_and, and_true]
          | ambiguous =>
            have hnot : ¬∀ k, 1 ≤ k → k ≤ 3 → attempt.outcome first k = .unreachable :=
              fun hall => Outcome.noConfusion (Option.some.inj (hlast.mpr hall))
            simp only [hcalled, hnot, and_false, or_false, false_and, and_true]
          | unreachable =>
            have hall := hlast.mp rfl
            have hothers : ∀ p ∈ rest, (breakers.put first
                ((breakers.provider first).recordFailure
                  (attempt.failedAt first))).provider p = breakers.provider p := by
              intro p hp
              have hne : p ≠ first := fun e => hnew (e ▸ hp)
              simp only [Breakers.put, if_neg hne]
            have hmore : (∃ call ∈ (offer attempt rest (breakers.put first
                ((breakers.provider first).recordFailure
                  (attempt.failedAt first)))).calls, call.pac = pac) ↔ _ := ih hrest
            rw [reaches_congr hothers] at hmore
            rw [← hmore, ← hcalled]
            simp only [List.mem_append, or_and_right, exists_or, and_true, true_and,
              false_or]
            exact or_congr_right (and_iff_right hall).symm

theorem offer_confined (pacs : List Nat) : Confined (offer attempt pacs breakers).calls := by
  induction pacs generalizing breakers with
  | nil => exact List.Pairwise.nil
  | cons first rest ih =>
    have hfirst : Confined ((attempt.tries first).map fun outcome => ⟨first, outcome⟩) := by
      refine List.pairwise_map.mpr (List.pairwise_of_forall fun _ _ _ => rfl)
    simp only [offer]
    split
    · exact ih
    · split
      · exact List.Pairwise.nil
      · split
        · exact hfirst
        · rename_i hend
          refine List.pairwise_append.mpr ⟨hfirst, ih, ?_⟩
          intro earlier hearlier later hlater hambiguous
          obtain ⟨outcome, houtcome, rfl⟩ := List.mem_map.mp hearlier
          rcases tries_pairwise (attempt.outcome first) 3 1 outcome houtcome with h | h
          · rw [h] at hambiguous
            cases hambiguous
          · change (attempt.tries first).getLast? = _ at h
            rw [hend] at h
            rw [← Option.some.inj h] at hambiguous
            cases hambiguous
        · exact hfirst

theorem stamp_confined (s : Stamping) (attempt : Attempt) :
    Confined (stamp s attempt).calls ↔ Confined s.calls ∧ StaysWithProvider s attempt := by
  unfold stamp
  by_cases hstop : (s.breakers.circuit.isOpen attempt.startAt || attempt.refused) = true
  · rw [if_pos hstop]
    refine (and_iff_left fun earlier _ _ hclosed hrefused => ?_).symm
    rw [hclosed, hrefused] at hstop
    cases hstop
  · rw [if_neg hstop]
    have hgo := Bool.or_eq_false_iff.mp (Bool.eq_false_iff.mpr hstop)
    change Confined (s.calls ++ (offer attempt attempt.pacs s.breakers).calls) ↔ _
    unfold Confined
    rw [List.pairwise_append]
    constructor
    · rintro ⟨hbefore, -, hcross⟩
      refine ⟨hbefore, fun earlier hearlier hambiguous _ _ pac hpac => ?_⟩
      obtain ⟨later, hlater, rfl⟩ := (offer_reaches attempt.distinct pac).mpr hpac
      exact hcross earlier hearlier later hlater hambiguous
    · rintro ⟨hbefore, hstays⟩
      refine ⟨hbefore, offer_confined attempt.pacs, fun earlier hearlier later hlater hambiguous =>
        ?_⟩
      exact hstays earlier hearlier hambiguous hgo.1 hgo.2 later.pac
        ((offer_reaches attempt.distinct later.pac).mp ⟨later, hlater, rfl⟩)

/-- What happens to a document and the process. -/
inductive Event
  | stamp (attempt : Attempt)
  /-- Other documents, or a restart, leave the breakers in some state. -/
  | others (breakers : Breakers)

def Stamping.step (s : Stamping) : Event → Stamping
  | .stamp attempt => FireIsp.Cfdi.stamp s attempt
  | .others breakers => { s with breakers := breakers }

/-- The event is no call to `stamp`, or one that stays with the provider of an ambiguous call. -/
def Event.Stays (s : Stamping) : Event → Prop
  | .stamp attempt => StaysWithProvider s attempt
  | .others _ => True

/-- Documents stay with an ambiguous provider iff every call stays with it. -/
theorem stamps_confined_iff (breakers : Breakers) (events : List Event) :
    Confined (run Stamping.step ⟨breakers, []⟩ events).calls ↔
      Along Stamping.step Event.Stays ⟨breakers, []⟩ events := by
  have hgeneral : ∀ (events : List Event) (s : Stamping),
      Confined (run Stamping.step s events).calls ↔
        Confined s.calls ∧ Along Stamping.step Event.Stays s events := by
    intro events
    induction events with
    | nil => exact fun s => (and_iff_left trivial).symm
    | cons event events ih =>
      intro s
      rw [run_cons, ih, along_cons]
      cases event with
      | stamp attempt =>
        change Confined (stamp s attempt).calls ∧ _ ↔ _
        rw [stamp_confined, and_assoc]
        rfl
      | others breakers => exact and_congr_right fun _ => (and_iff_right trivial).symm
  rw [hgeneral]
  exact and_iff_right List.Pairwise.nil

/-- An attempt that meets the given provider list and outcomes, with nothing else in its way. -/
def plainAttempt (pacs : List Nat) (distinct : pacs.Nodup)
    (outcome : Nat → Nat → Outcome) : Attempt where
  startAt := 0
  xmlContent := some (some "xml")
  invoiceTerminal := false
  pacs := pacs
  distinct := distinct
  lookedAt := fun _ => 0
  seals := fun _ => true
  outcome := outcome
  failedAt := fun _ => 0
  endAt := 0

/-- The first provider times out, is unreachable on the retry, and the second gets the document. -/
theorem ambiguous_then_other :
    ¬∀ (breakers : Breakers) (events : List Event),
      Confined (run Stamping.step ⟨breakers, []⟩ events).calls := by
  intro h
  have hconfined := h ⟨.fresh, fun _ => .fresh⟩
    [.stamp (plainAttempt [1, 2] (by decide) fun _ _ => .ambiguous),
      .stamp (plainAttempt [1, 2] (by decide) fun pac _ =>
        if pac = 1 then .unreachable else .stamped "uuid")]
  revert hconfined
  decide

end FireIsp.Cfdi
