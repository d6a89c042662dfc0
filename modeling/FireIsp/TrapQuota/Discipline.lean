import FireIsp.TrapQuota.Books

/-!
# What a trap's transaction knows

The transaction of a trap moves the quota only while it holds both rows, within the limits it has
read, and it commits only once it owes nothing.
-/

namespace FireIsp.TrapQuota

open Txn Throwing

/-- What the transaction of a trap knows of the quota. -/
inductive Know
  | idle
  | begun
  /-- It holds the rows of an organization, ahead by deliveries, and by others at the savepoint. -/
  | held (organizationId deliveries : Nat) (saved : Option Nat)
  | seen (organizationId : Nat) (global organization : Usage)
  | counted (organizationId : Nat)
  deriving DecidableEq

/-- The rows are locked. -/
def Know.holds (know : Know) : Bool := decide (know ≠ .idle ∧ know ≠ .begun)

/-- What is known once the rows were selected. -/
def Know.found (organizationId : Nat) : Option (Usage × Usage) → Know
  | none => .held organizationId 0 none
  | some rows => .seen organizationId rows.1 rows.2

/-- The rows of an organization that were read satisfy a condition. -/
def Know.reads (organizationId : Nat) (condition : Usage → Usage → Prop)
    [∀ global organization, Decidable (condition global organization)] : Know → Bool
  | .seen id global organization =>
    decide (id = organizationId ∧ condition global organization)
  | _ => false

/-- `SAVEPOINT`. -/
def Know.saving : Know → Option Know
  | .held organizationId deliveries none => some (.held organizationId deliveries (some deliveries))
  | _ => none

/-- `RELEASE SAVEPOINT`. -/
def Know.releasing : Know → Option Know
  | .held organizationId deliveries (some _) => some (.held organizationId deliveries none)
  | _ => none

/-- `ROLLBACK TO SAVEPOINT`. -/
def Know.restoring : Know → Option Know
  | .held organizationId _ (some saved) => some (.held organizationId saved (some saved))
  | _ => none

def Know.creating (organizationId : Nat) (trapId : Option Nat) : Know → Option (Option Nat → Know)
  | .held id (deliveries + 1) saved =>
    if id = organizationId ∧ trapId.isSome then
      some fun inserted => inserted.elim (.held id (deliveries + 1) saved) fun _ =>
        .held id deliveries saved
    else none
  | _ => none

variable (limits : Limits)

/-- What a statement of the transaction teaches. -/
def Know.sent (know : Know) : (op : Stmt) → Option (op.Res → Know)
  | .insertUsage organizationId =>
    if know = .begun then some fun _ => .held organizationId 0 none else none
  | .selectUsage organizationId =>
    if know = .held organizationId 0 none then some (Know.found organizationId) else none
  | .countDropped organizationId =>
    if know.reads organizationId fun _ _ => True then
      some fun _ => .held organizationId 0 none
    else none
  | .countTrap organizationId storedBytes _ =>
    if know.reads organizationId (Admits limits storedBytes) then
      some fun _ => .counted organizationId
    else none
  | .insertTrap organizationId =>
    if know = .counted organizationId then some fun _ => .held organizationId 0 none else none
  | .reserve organizationId allowed _ =>
    if know.reads organizationId (Leaves limits allowed) then
      some fun _ => .held organizationId allowed none
    else none
  | .savepoint => know.saving.map fun know' _ => know'
  | .release => know.releasing.map fun know' _ => know'
  | .rollbackTo => know.restoring.map fun know' _ => know'
  | .insertDelivery organizationId _ trapId => know.creating organizationId trapId
  | .selectDelivery .. => if know.holds then some fun _ => know else none
  | .refund organizationId count =>
    if know = .held organizationId count none then some fun _ => .held organizationId 0 none
    else none

/-- A transaction may be committed. -/
def Know.settled : Know → Bool
  | .held _ 0 none => true
  | _ => false

/-- The discipline of a trap's transaction. -/
def discipline : Discipline Know Stmt Stmt.Res Query Query.Answer where
  started := fun know => if know = .idle then some .begun else none
  committed := fun know => if know.settled then some .idle else none
  rolledBack := fun _ => some .idle
  sent := fun know via op => match via with
    | .conn => know.sent limits op
    | .pool => none
  asked := fun know _ => some fun _ => know

/-- The program keeps to the discipline, and ends in one of two ways. -/
def Keeps {A : Type} (know : Know) (p : Body A) (post : A → Know → Prop) (failed : Know → Prop) :
    Prop :=
  p.run.Follows (discipline limits) know (Either post fun _ => failed)

variable {limits} {know : Know} {A B : Type} {post : A → Know → Prop} {failed : Know → Prop}
  {organizationId : Nat}

theorem Keeps.bind {p : Body A} {f : A → Body B} {post₂ : B → Know → Prop}
    (hp : Keeps limits know p post failed)
    (hf : ∀ value know, post value know → Keeps limits know (f value) post₂ failed) :
    Keeps limits know (p >>= f) post₂ failed :=
  follows_bind hp hf

theorem Keeps.mono {p : Body A} {post' : A → Know → Prop} (hp : Keeps limits know p post failed)
    (h : ∀ value know, post value know → post' value know) :
    Keeps limits know p post' failed := by
  refine Prog.Follows.mono hp fun returned know hend => ?_
  cases returned with
  | ok value => exact h value know hend
  | error error => exact hend

theorem keeps_pure {value : A} (h : post value know) :
    Keeps limits know (pure value) post failed := h

theorem keeps_asked (query : Query) :
    Keeps limits know (asked query) (fun _ know' => know' = know) failed :=
  follows_lift ⟨_, rfl, fun _ => rfl⟩

theorem keeps_refuseIf {condition : Prop} [Decidable condition] {error : Refusal}
    (hfailed : failed know) : Keeps limits know (refuseIf condition error)
      (fun _ know' => know' = know ∧ ¬condition) failed :=
  follows_refuseIf (fun _ => hfailed) fun h => ⟨rfl, h⟩

theorem keeps_orThrow {found : Option A} {error : Refusal} (hfailed : failed know) :
    Keeps limits know (orThrow found error) (fun row know' => found = some row ∧ know' = know)
      failed :=
  follows_orThrow hfailed fun _ hrow => ⟨hrow, rfl⟩

theorem keeps_sent {op : Stmt} {learn : op.Res → Know} (hsent : know.sent limits op = some learn) :
    Keeps limits know (sent op) (fun reply know' => know' = learn reply) failed :=
  follows_lift ⟨learn, hsent, fun _ => rfl⟩

theorem keeps_statement {op : Stmt} {learn : op.Res → Know}
    (hsent : know.sent limits op = some learn) (hfailed : failed know) :
    Keeps limits know (statement op) (fun reply know' => know' = learn reply) failed := by
  refine (keeps_asked _).bind fun raised know' hknow => ?_
  subst hknow
  refine (keeps_refuseIf hfailed).bind fun _ know' hknow => ?_
  obtain ⟨rfl, -⟩ := hknow
  exact keeps_sent hsent

theorem keeps_bracket {call : Bracket} (hfailed : failed know) :
    Keeps limits know (bracket call) (fun _ know' => know' = know) failed := by
  refine (keeps_asked _).bind fun raised know' hknow => ?_
  subst hknow
  exact (keeps_refuseIf hfailed).mono fun _ _ h => h.1

section Sent

variable {global organization : Usage}

theorem sent_insertUsage : Know.sent limits .begun (.insertUsage organizationId) =
    some fun _ => .held organizationId 0 none := rfl

theorem sent_selectUsage : Know.sent limits (.held organizationId 0 none)
    (.selectUsage organizationId) = some (Know.found organizationId) := if_pos rfl

theorem sent_countDropped : Know.sent limits (.seen organizationId global organization)
    (.countDropped organizationId) = some fun _ => .held organizationId 0 none :=
  if_pos (decide_eq_true ⟨rfl, trivial⟩)

theorem sent_countTrap {bytes metadataOnly : Nat} (h : Admits limits bytes global organization) :
    Know.sent limits (.seen organizationId global organization)
      (.countTrap organizationId bytes metadataOnly) = some fun _ => .counted organizationId :=
  if_pos (decide_eq_true ⟨rfl, h⟩)

theorem sent_insertTrap : Know.sent limits (.counted organizationId) (.insertTrap organizationId) =
    some fun _ => .held organizationId 0 none := if_pos rfl

theorem sent_reserve {allowed skipped : Nat} (h : Leaves limits allowed global organization) :
    Know.sent limits (.seen organizationId global organization)
      (.reserve organizationId allowed skipped) =
        some fun _ => .held organizationId allowed none :=
  if_pos (decide_eq_true ⟨rfl, h⟩)

theorem sent_insertDelivery {deliveries : Nat} {saved : Option Nat} (ruleId trapId : Nat) :
    Know.sent limits (.held organizationId (deliveries + 1) saved)
      (.insertDelivery organizationId ruleId (some trapId)) = some fun inserted =>
        inserted.elim (.held organizationId (deliveries + 1) saved) fun _ =>
          .held organizationId deliveries saved :=
  if_pos ⟨rfl, rfl⟩

theorem sent_selectDelivery {id deliveries : Nat} {saved : Option Nat} (ruleId : Nat)
    (trapId : Option Nat) : Know.sent limits (.held id deliveries saved)
      (.selectDelivery organizationId ruleId trapId) = some fun _ => .held id deliveries saved := rfl

theorem sent_refund {count : Nat} : Know.sent limits (.held organizationId count none)
    (.refund organizationId count) = some fun _ => .held organizationId 0 none := if_pos rfl

end Sent

theorem keeps_commitNow (hsettled : know.settled = true) :
    Keeps limits know (lift Prog.commitNow) (fun _ know => know = .idle) failed :=
  follows_lift ⟨.idle, if_pos hsettled, rfl⟩

theorem keeps_rollbackNow :
    Keeps limits know (lift Prog.rollbackNow) (fun _ know => know = .idle) failed :=
  follows_lift ⟨.idle, rfl, rfl⟩

/-- The part of a transaction whose failure rolls it back. -/
abbrev Commits (limits : Limits) (know : Know) (p : Body A) (post : A → Know → Prop) : Prop :=
  Keeps limits know p post fun _ => True

theorem keeps_reserveFrom (requestedBytes : Nat) (global organization : Usage) :
    Commits limits (.seen organizationId global organization)
      (reserveFrom limits organizationId requestedBytes global organization)
      fun reservation know => know = if reservation.accepted then .counted organizationId
        else .held organizationId 0 none := by
  unfold reserveFrom
  split_ifs with hfull
  · refine (keeps_statement sent_countDropped trivial).bind fun _ know hknow => ?_
    exact hknow
  · rw [not_or, Nat.not_le, Nat.not_le] at hfull
    have hadmits : Admits limits (if fits limits organization global requestedBytes then
        requestedBytes else 0) global organization := by
      refine ⟨hfull.1, hfull.2, ?_⟩
      split_ifs with hfits
      · exact of_decide_eq_true hfits
      · exact Or.inl rfl
    refine (keeps_statement (sent_countTrap hadmits) trivial).bind fun _ know hknow => ?_
    exact hknow

theorem keeps_reserveTrapIngestUsage (requestedVarbindBytes : Nat) :
    Commits limits .begun (reserveTrapIngestUsage limits organizationId requestedVarbindBytes)
      fun reservation know => know = if reservation.accepted then .counted organizationId
        else .held organizationId 0 none := by
  refine (keeps_refuseIf trivial).bind fun _ know hknow => ?_
  obtain ⟨rfl, -⟩ := hknow
  refine (keeps_statement sent_insertUsage trivial).bind fun _ know hknow => ?_
  subst hknow
  refine (keeps_statement sent_selectUsage trivial).bind fun rows know hknow => ?_
  subst hknow
  refine (keeps_orThrow trivial).bind fun usage know hknow => ?_
  obtain ⟨rfl, rfl⟩ := hknow
  exact keeps_reserveFrom _ usage.1 usage.2

theorem keeps_reserveTrapForwardingUsage (requested : Nat) :
    Commits limits (.held organizationId 0 none)
      (reserveTrapForwardingUsage limits organizationId requested) fun quota know =>
        know = .held organizationId quota.allowedCount none ∧
          quota.allowedCount ≤ min 100 requested := by
  refine (keeps_refuseIf trivial).bind fun _ know hknow => ?_
  obtain ⟨rfl, -⟩ := hknow
  split_ifs with hzero
  · exact ⟨rfl, Nat.zero_le _⟩
  · refine (keeps_statement sent_selectUsage trivial).bind fun rows know hknow => ?_
    subst hknow
    refine (keeps_orThrow trivial).bind fun usage know hknow => ?_
    obtain ⟨rfl, rfl⟩ := hknow
    have hleaves : Leaves limits (allowedOf limits (min 100 requested) usage.1 usage.2)
        usage.1 usage.2 := by
      unfold Leaves allowedOf
      omega
    refine (keeps_statement (sent_reserve hleaves) trivial).bind fun _ know hknow => ?_
    exact ⟨hknow, Nat.min_le_left _ _⟩

theorem keeps_refundTrapForwardingUsage {count : Nat} (hcount : count ≤ 100) :
    Commits limits (.held organizationId count none)
      (refundTrapForwardingUsage organizationId count) fun _ know =>
        know = .held organizationId 0 none := by
  refine (keeps_refuseIf trivial).bind fun _ know hknow => ?_
  obtain ⟨rfl, -⟩ := hknow
  rw [Nat.min_eq_right hcount]
  split_ifs with hzero
  · subst hzero
    exact keeps_pure rfl
  · exact keeps_statement sent_refund trivial

/-- A failure inside a savepoint leaves it open. -/
def Unfinished (organizationId saved : Nat) (know : Know) : Prop :=
  ∃ deliveries, know = .held organizationId deliveries (some saved)

variable {deliveries : Nat}

theorem keeps_duplicateOf {saved : Nat} (ruleId : Nat) (trapId : Option Nat) :
    Keeps limits (.held organizationId deliveries (some saved))
      (duplicateOf organizationId ruleId trapId)
      (fun delivery know => delivery.2 = false ∧
        know = .held organizationId deliveries (some saved)) (Unfinished organizationId saved) := by
  refine (keeps_refuseIf ⟨_, rfl⟩).bind fun _ know hknow => ?_
  obtain ⟨rfl, -⟩ := hknow
  refine (keeps_statement (sent_selectDelivery ruleId trapId) ⟨_, rfl⟩).bind fun found know hknow => ?_
  subst hknow
  refine (keeps_orThrow ⟨_, rfl⟩).bind fun id know hknow => ?_
  exact ⟨rfl, hknow.2⟩

theorem keeps_insertDelivery {saved : Nat} (ruleId trapId : Nat) :
    Keeps limits (.held organizationId (deliveries + 1) (some saved))
      (insertDelivery organizationId ruleId (some trapId))
      (fun delivery know => know = .held organizationId
        (if delivery.2 then deliveries else deliveries + 1) (some saved))
      (Unfinished organizationId saved) := by
  refine (keeps_statement (sent_insertDelivery ruleId trapId) ⟨_, rfl⟩).bind
    fun inserted know hknow => ?_
  subst hknow
  cases inserted with
  | none =>
    refine (keeps_duplicateOf ruleId (some trapId)).mono fun delivery know hknow => ?_
    rw [hknow.1, hknow.2]
    rfl
  | some id =>
    refine (keeps_asked _).bind fun _ know hknow => ?_
    exact hknow

theorem keeps_persistRule (ruleId trapId : Nat) :
    Commits limits (.held organizationId (deliveries + 1) none)
      (persistRule organizationId ruleId (some trapId)) fun created know =>
        created.length ≤ 1 ∧
          know = .held organizationId (deliveries + 1 - created.length) none := by
  refine (keeps_sent rfl).bind fun _ know hknow => ?_
  subst hknow
  have htried : Commits limits (.held organizationId (deliveries + 1) (some (deliveries + 1)))
      (attempted (insertDelivery organizationId ruleId (some trapId)))
      (Either (fun delivery know => know = .held organizationId
        (if delivery.2 then deliveries else deliveries + 1) (some (deliveries + 1)))
        fun _ => Unfinished organizationId (deliveries + 1)) :=
    follows_attempted (keeps_insertDelivery ruleId trapId)
  refine htried.bind fun tried know hknow => ?_
  cases tried with
  | ok delivery =>
    obtain rfl := hknow
    refine (keeps_sent rfl).bind fun _ know hknow => ?_
    subst hknow
    cases delivery.2 with
    | false => exact keeps_pure ⟨Nat.zero_le 1, rfl⟩
    | true => exact keeps_pure ⟨Nat.le_refl 1, rfl⟩
  | error error =>
    obtain ⟨owed, rfl⟩ := hknow
    refine (keeps_sent rfl).bind fun _ know hknow => ?_
    subst hknow
    refine (keeps_sent rfl).bind fun _ know hknow => ?_
    exact keeps_pure ⟨Nat.zero_le 1, hknow⟩

theorem keeps_persistRules (trapId : Nat) {ruleIds : List Nat}
    (hroom : ruleIds.length ≤ deliveries) :
    Commits limits (.held organizationId deliveries none)
      (persistRules organizationId (some trapId) ruleIds) fun created know =>
        created.length ≤ ruleIds.length ∧
          know = .held organizationId (deliveries - created.length) none := by
  induction ruleIds generalizing deliveries with
  | nil => exact ⟨Nat.zero_le _, rfl⟩
  | cons ruleId ruleIds ih =>
    obtain ⟨deliveries, rfl⟩ : ∃ n, deliveries = n + 1 :=
      ⟨deliveries - 1, by rw [List.length_cons] at hroom; omega⟩
    refine (keeps_persistRule ruleId trapId).bind fun created know hknow => ?_
    obtain ⟨hcreated, rfl⟩ := hknow
    rw [List.length_cons] at hroom
    refine (ih (by omega)).bind fun others know hknow => ?_
    obtain ⟨hothers, rfl⟩ := hknow
    refine keeps_pure ⟨?_, ?_⟩
    · rw [List.length_append, List.length_cons]
      omega
    · rw [List.length_append, Nat.sub_sub]

theorem keeps_resolveRule (ruleId : Nat) :
    Commits limits (.held organizationId 0 none) (resolveRule ruleId) fun _ know =>
      know = .held organizationId 0 none := by
  refine (keeps_sent rfl).bind fun _ know hknow => ?_
  subst hknow
  refine (keeps_asked _).bind fun resolution know hknow => ?_
  subst hknow
  cases resolution with
  | found => exact (keeps_sent rfl).bind fun _ know hknow => keeps_pure hknow
  | missing => exact (keeps_sent rfl).bind fun _ know hknow => keeps_pure hknow
  | raised =>
    refine (keeps_sent rfl).bind fun _ know hknow => ?_
    subst hknow
    exact (keeps_sent rfl).bind fun _ know hknow => keeps_pure hknow

theorem keeps_resolveRules (ruleIds : List Nat) :
    Commits limits (.held organizationId 0 none) (resolveRules ruleIds) fun _ know =>
      know = .held organizationId 0 none := by
  induction ruleIds with
  | nil => exact keeps_pure rfl
  | cons ruleId ruleIds ih =>
    refine (keeps_resolveRule ruleId).bind fun found know hknow => ?_
    subst hknow
    exact ih.bind fun others know hknow => keeps_pure hknow

theorem keeps_prepareTrapDeliveries (trapId : Nat) :
    Commits limits (.held organizationId 0 none)
      (prepareTrapDeliveries limits organizationId trapId) fun _ know =>
        know = .held organizationId 0 none := by
  refine (keeps_asked _).bind fun owner know hknow => ?_
  subst hknow
  refine (keeps_orThrow trivial).bind fun active know hknow => ?_
  obtain ⟨-, rfl⟩ := hknow
  split_ifs with hactive
  · exact keeps_pure rfl
  · refine (keeps_asked _).bind fun rules know hknow => ?_
    subst hknow
    refine (keeps_orThrow trivial).bind fun matching know hknow => ?_
    obtain ⟨-, rfl⟩ := hknow
    refine (keeps_resolveRules _).bind fun resolvedRules know hknow => ?_
    subst hknow
    refine (keeps_reserveTrapForwardingUsage _).bind fun quota know hknow => ?_
    obtain ⟨rfl, hallowed⟩ := hknow
    have hlength : (resolvedRules.take quota.allowedCount).length = quota.allowedCount := by
      rw [List.length_take]
      omega
    refine (keeps_persistRules trapId hlength.le).bind fun created know hknow => ?_
    obtain ⟨hcreated, rfl⟩ := hknow
    rw [hlength]
    refine (keeps_refundTrapForwardingUsage (by omega)).bind fun _ know hknow => ?_
    exact keeps_pure hknow

/-- A trap that is not attributed has written nothing, and another one owes nothing. -/
def Finished (outcome : Outcome) (know : Know) : Prop :=
  outcome = .unattributed ∨ know.settled = true

theorem keeps_storeTrap (requestedVarbindBytes : Nat) :
    Commits limits .begun (storeTrap limits organizationId requestedVarbindBytes) Finished := by
  refine (keeps_asked _).bind fun attribution know hknow => ?_
  subst hknow
  refine (keeps_orThrow trivial).bind fun attributed know hknow => ?_
  obtain ⟨-, rfl⟩ := hknow
  split_ifs with hsource
  · exact keeps_pure (Or.inl rfl)
  · refine (keeps_reserveTrapIngestUsage _).bind fun reservation know hknow => ?_
    subst hknow
    obtain ⟨accepted, storeVarbinds⟩ := reservation
    cases accepted with
    | false => exact keeps_pure (Or.inr rfl)
    | true =>
      refine (keeps_statement sent_insertTrap trivial).bind fun trapId know hknow => ?_
      subst hknow
      refine (keeps_prepareTrapDeliveries trapId).bind fun deliveryIds know hknow => ?_
      subst hknow
      exact keeps_pure (Or.inr rfl)

theorem keeps_committing (requestedVarbindBytes : Nat) :
    Commits limits .idle (committing limits organizationId requestedVarbindBytes) fun _ know =>
      know = .idle := by
  refine (keeps_bracket trivial).bind fun _ know hknow => ?_
  subst hknow
  have hbegin : Commits limits .idle (lift Prog.begin) fun _ know => know = .begun :=
    follows_lift ⟨.begun, rfl, rfl⟩
  refine hbegin.bind fun _ know hknow => ?_
  subst hknow
  refine (keeps_storeTrap _).bind fun outcome know hfinished => ?_
  have hcommit : know.settled = true → Commits limits know
      (bracket .commit >>= fun _ => lift Prog.commitNow >>= fun _ => pure outcome)
      fun _ know => know = .idle := fun hsettled => by
    refine (keeps_bracket trivial).bind fun _ know' hknow => ?_
    subst hknow
    exact (keeps_commitNow hsettled).bind fun _ know hknow => hknow
  cases outcome with
  | unattributed =>
    refine (keeps_bracket trivial).bind fun _ know' hknow => ?_
    exact keeps_rollbackNow.bind fun _ know hknow => hknow
  | dropped => exact hcommit (hfinished.resolve_left nofun)
  | stored trapId deliveryIds => exact hcommit (hfinished.resolve_left nofun)

theorem keeps_persistAndDispatch (requestedVarbindBytes : Nat) :
    Commits limits .idle (persistAndDispatch limits organizationId requestedVarbindBytes)
      fun _ _ => True := by
  refine (keeps_bracket trivial).bind fun _ know hknow => ?_
  subst hknow
  have htried : Commits limits .idle
      (attempted (committing limits organizationId requestedVarbindBytes))
      (Either (fun _ know => know = .idle) fun _ _ => True) :=
    follows_attempted (keeps_committing requestedVarbindBytes)
  refine htried.bind fun tried know hknow => ?_
  have hsettle : Commits limits know (settle tried) fun _ _ => True := by
    cases tried with
    | ok outcome => exact keeps_pure trivial
    | error error => exact keeps_rollbackNow.bind fun _ _ _ => follows_throw trivial
  refine hsettle.bind fun outcome know _ => ?_
  exact (keeps_asked _).bind fun _ know _ => keeps_pure trivial

end FireIsp.TrapQuota
