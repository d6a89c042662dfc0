import FireIsp.Inventory.Calls
import FireIsp.Inventory.Unit

/-!
# The calls know their units

Every call keeps to the discipline of any unit: what it commits moves the stock of the unit as it
moves the unit.
-/

namespace FireIsp.Inventory

open Txn Txn.Throwing
open Txn.Client (Inside Between Indifferent Keeps Trusts keeps_asked keeps_checked keeps_orThrow
  keeps_pure keeps_refuseIf keeps_statement inTransaction)

variable {unitId v : Nat} {facts facts' : Facts} {A B : Type}

namespace Facts

/-- Nothing was written for the unit. -/
structure Calm (facts : Facts) : Prop where
  opened : facts.opened = true
  inStock : facts.inStock.written = none
  owned : facts.owned.written = none
  moved : facts.moved = 0

theorem calm_begun (item : Option (Option Nat)) : (begun item).Calm := ⟨rfl, rfl, rfl, rfl⟩

theorem Calm.lawful (h : facts.Calm) : facts.Lawful := by
  refine Or.inl ⟨h.moved, ?_, ?_⟩
  · rw [h.inStock]
    exact nofun
  · rw [h.owned]
    exact nofun

variable {row : CpeDevice}

theorem named_eq_some (h : facts.named row = some facts') :
    (facts.item = none ∨ facts.item = some row.inventoryItemId) ∧
      facts' = { facts with item := some row.inventoryItemId } := by
  obtain ⟨hitem, hsome⟩ := Option.ite_none_right_eq_some.mp h
  exact ⟨hitem, (Option.some.inj hsome).symm⟩

theorem observed_eq_some (h : facts.observed row = some facts') :
    (facts.item = none ∨ facts.item = some row.inventoryItemId) ∧
      facts.inStock.observe row.columns.inStock = some facts'.inStock ∧
      facts.owned.observe row.columns.owned = some facts'.owned ∧
      facts' = { facts with
        item := some row.inventoryItemId
        inStock := facts'.inStock
        owned := facts'.owned } := by
  unfold observed at h
  obtain ⟨named, hnamed, h⟩ := Option.bind_eq_some_iff.mp h
  obtain ⟨inStock, hstock, h⟩ := Option.bind_eq_some_iff.mp h
  obtain ⟨owned, howned, h⟩ := Option.bind_eq_some_iff.mp h
  obtain ⟨hitem, rfl⟩ := named_eq_some hnamed
  obtain rfl := Option.some.inj h
  exact ⟨hitem, hstock, howned, rfl⟩

theorem found_eq_some {id : Nat} {current : Bool}
    (h : facts.found unitId id current (some row) = some facts') :
    row.id = id ∧ (id ≠ unitId → facts' = facts) ∧
      (id = unitId → current = true → facts.observed row = some facts') ∧
      (id = unitId → current = false → facts.named row = some facts') := by
  unfold found at h
  simp only at h
  split_ifs at h with hid hunit hcurrent
  · exact ⟨not_not.mp hid, fun _ => (Option.some.inj h).symm, fun heq => absurd heq hunit,
      fun heq => absurd heq hunit⟩
  · exact ⟨not_not.mp hid, fun hne => absurd (not_not.mp hunit) hne, fun _ _ => h,
      fun _ hnot => by rw [hcurrent] at hnot; cases hnot⟩
  · exact ⟨not_not.mp hid, fun hne => absurd (not_not.mp hunit) hne,
      fun _ htrue => absurd htrue hcurrent, fun _ _ => h⟩

theorem Calm.found {id : Nat} {current : Bool} {reply : Option CpeDevice} (h : facts.Calm)
    (hfound : facts.found unitId id current reply = some facts') : facts'.Calm := by
  cases reply with
  | none =>
    obtain rfl := Option.some.inj hfound
    exact h
  | some row =>
    obtain ⟨-, hother, hcurrent, hnamed⟩ := found_eq_some hfound
    by_cases hid : id = unitId
    · cases current with
      | false =>
        obtain ⟨-, rfl⟩ := named_eq_some (hnamed hid rfl)
        exact ⟨h.opened, h.inStock, h.owned, h.moved⟩
      | true =>
        obtain ⟨-, hstock, howned, heq⟩ := observed_eq_some (hcurrent hid rfl)
        rw [heq]
        exact ⟨h.opened, (Column.written_of_observe hstock).trans h.inStock,
          (Column.written_of_observe howned).trans h.owned, h.moved⟩
    · rw [hother hid]
      exact h

theorem changed_eq {change : Change} (hstock : change.inStock = none) (howned : change.owned = none)
    (htouched : facts.touched = true) : facts.changed change = facts := by
  unfold changed Column.write
  rw [hstock, howned, Option.none_or, Option.none_or]
  split_ifs
  · cases facts
    cases htouched
    rfl
  · rfl

end Facts

/-- Between transactions. -/
def Idle (know : Know) : Prop := know = none ∨ ∃ item, know = some (Facts.idle item)

/-- Nothing was written for the unit. -/
def Still (know : Know) : Prop := ∀ facts, know = some facts → facts.Calm

theorem still_none : Still none := fun _ h => nomatch h

/-- Queries, links and assignments. -/
def Stmt.Links (op : Stmt) : Prop :=
  op.Reads ∨ ∃ id change, op = .updateUnit id change ∧ change.Plain

theorem idle_found {item : Option (Option Nat)} {id : Nat} (reply : Option CpeDevice) :
    Idle ((Facts.idle item).found unitId id false reply) := by
  cases hfound : (Facts.idle item).found unitId id false reply with
  | none => exact Or.inl rfl
  | some facts =>
    cases reply with
    | none => exact Or.inr ⟨item, hfound.symm⟩
    | some row =>
      obtain ⟨-, hother, -, hnamed⟩ := Facts.found_eq_some hfound
      by_cases hid : id = unitId
      · obtain ⟨-, rfl⟩ := Facts.named_eq_some (hnamed hid rfl)
        exact Or.inr ⟨_, rfl⟩
      · rw [hother hid]
        exact Or.inr ⟨_, rfl⟩

theorem idle_sent {know : Know} {op : Stmt} (hknow : Idle know)
    (hop : ∀ item, know = some (Facts.idle item) → op.Reads ∨
      ∃ id change, op = .updateUnit id change ∧ (id = unitId → item = some none ∨ change.Plain)) :
    ∃ learn, (unitDiscipline unitId).sent know .pool op = some learn ∧ ∀ reply, Idle (learn reply) := by
  rcases hknow with rfl | ⟨item, rfl⟩
  · exact ⟨_, rfl, fun _ => Or.inl rfl⟩
  · rcases hop item rfl with hread | ⟨id, change, rfl, hplain⟩
    · cases op with
      | unit locking id scope =>
        cases locking with
        | true => exact hread.elim
        | false => exact ⟨_, rfl, fun reply => idle_found reply⟩
      | order id orgId => exact ⟨_, rfl, fun _ => Or.inr ⟨item, rfl⟩⟩
      | outstanding contractId => exact ⟨_, rfl, fun _ => Or.inr ⟨item, rfl⟩⟩
      | _ => exact hread.elim
    · have hsent : (Facts.idle item).sent unitId (.updateUnit id change) =
          some fun _ => some (Facts.idle item) := by
        by_cases hid : id = unitId
        · subst hid
          exact Facts.sent_update (hplain rfl)
        · exact Facts.sent_update_other hid
      exact ⟨_, hsent, fun _ => Or.inr ⟨item, rfl⟩⟩

theorem unit_indifferent :
    Indifferent (unitDiscipline unitId) Idle Still Stmt.Links Stmt.SparesUnits where
  silent := unitDiscipline_silent
  started := fun know hknow => by
    rcases hknow with rfl | ⟨item, rfl⟩
    · exact ⟨none, rfl, still_none⟩
    · refine ⟨_, rfl, fun facts hfacts => ?_⟩
      obtain rfl := Option.some.inj hfacts
      exact Facts.calm_begun item
  committed := fun know hknow => by
    cases know with
    | none => exact ⟨none, rfl, Or.inl rfl⟩
    | some facts =>
      have hcalm := hknow facts rfl
      exact ⟨_, if_pos ⟨hcalm.opened, hcalm.lawful⟩, Or.inr ⟨_, rfl⟩⟩
  rolledBack := fun know => by
    cases know with
    | none => exact ⟨none, rfl, Or.inl rfl⟩
    | some facts => exact ⟨_, rfl, Or.inr ⟨_, rfl⟩⟩
  pool := fun know op hknow hop => idle_sent hknow fun item _ => hop.imp id fun h => by
    obtain ⟨id, change, rfl, hplain⟩ := h
    exact ⟨id, change, rfl, fun _ => Or.inr hplain⟩
  conn := fun know op hknow hop => by
    cases know with
    | none => exact ⟨_, rfl, fun _ => still_none⟩
    | some facts =>
      have hcalm := hknow facts rfl
      have hsent : ∃ learn, facts.sent unitId op = some learn ∧ ∀ reply, Still (learn reply) := by
        have hsame : Still (some facts) := fun facts' h => Option.some.inj h ▸ hcalm
        have hstocked : ∀ itemId found, Still (some (facts.stockedAt itemId found)) := by
          intro itemId found facts' h
          obtain rfl := Option.some.inj h
          cases found with
          | none => exact hcalm
          | some stockId => exact ⟨hcalm.opened, hcalm.inStock, hcalm.owned, hcalm.moved⟩
        cases op with
        | unit locking id scope =>
          refine ⟨_, if_neg fun h => ?_, fun reply facts' h => hcalm.found h⟩
          rw [hcalm.opened] at h
          cases h.2
        | pickupUnit id contractId orgId =>
          refine ⟨_, if_pos hcalm.opened, fun reply facts' h => ?_⟩
          exact hcalm.found (Option.ite_none_left_eq_some.mp h).2
        | insertUnit orgId serialNumber itemId origin =>
          refine ⟨_, if_pos hcalm.opened, fun (id : Nat) => ?_⟩
          by_cases hid : id = unitId
          · intro facts' h
            simp only [if_pos hid] at h
            obtain ⟨-, hsome⟩ := Option.ite_none_right_eq_some.mp h
            obtain rfl := Option.some.inj hsome
            exact ⟨hcalm.opened, rfl, rfl, hcalm.moved⟩
          · simp only [if_neg hid]
            exact hsame
        | updateUnit id change => exact hop.elim
        | greatestStock itemId orgId =>
          exact ⟨_, if_pos hcalm.opened, fun found => hstocked itemId found⟩
        | insertStock itemId warehouseId quantity reason =>
          exact ⟨_, if_pos ⟨hcalm.opened, hop unitId⟩, fun id => hstocked itemId (some id)⟩
        | addStock id quantity reason =>
          exact ⟨_, Facts.sent_add_other hcalm.opened (hop unitId), fun _ => hsame⟩
        | _ => exact ⟨_, rfl, fun _ => hsame⟩
      obtain ⟨learn, hlearn, hkept⟩ := hsent
      exact ⟨learn, (if_pos hcalm.opened).trans hlearn, hkept⟩
  asked := fun _ _ => rfl

/-- A part of a transaction, whose failure rolls it back. -/
abbrev Commits (unitId : Nat) (facts : Facts) (p : Body A) (post : A → Facts → Prop) : Prop :=
  Trusts (unitDiscipline unitId) none (some facts) p
    (fun value know => ∃ facts, know = some facts ∧ post value facts) fun _ => True

section Commits

variable {post post' : A → Facts → Prop} {post₂ : B → Facts → Prop}

variable {p : Body A}

theorem Commits.bind {f : A → Body B} (hp : Commits unitId facts p post)
    (hf : ∀ value facts, post value facts → Commits unitId facts (f value) post₂) :
    Commits unitId facts (p >>= f) post₂ := by
  refine Trusts.bind unitDiscipline_lost hp fun value know hvalue => ?_
  obtain ⟨facts, rfl, hpost⟩ := hvalue
  exact hf value facts hpost

theorem Commits.mono (hp : Commits unitId facts p post)
    (h : ∀ value facts, post value facts → post' value facts) : Commits unitId facts p post' :=
  Trusts.mono hp (fun value _ ⟨facts, hknow, hpost⟩ => ⟨facts, hknow, h value facts hpost⟩)
    fun _ h => h

theorem commits_pure {value : A} (h : post value facts) :
    Commits unitId facts (pure value) post :=
  Keeps.trusts (keeps_pure ⟨facts, rfl, h⟩)

theorem commits_refuseIf {condition : Prop} [Decidable condition] {error : Refusal} :
    Commits unitId facts (refuseIf condition error) fun _ facts' => facts' = facts ∧ ¬condition :=
  Keeps.trusts ((keeps_refuseIf trivial).mono (fun _ _ ⟨hknow, h⟩ => ⟨facts, hknow, rfl, h⟩)
    fun _ h => h)

theorem commits_orThrow {found : Option A} {error : Refusal} :
    Commits unitId facts (orThrow found error) fun row facts' =>
      found = some row ∧ facts' = facts :=
  Keeps.trusts ((keeps_orThrow trivial).mono (fun _ _ ⟨hrow, hknow⟩ => ⟨facts, hknow, hrow, rfl⟩)
    fun _ h => h)

theorem commits_checked {value : Except Refusal A} :
    Commits unitId facts (checked value) fun returned facts' =>
      value = .ok returned ∧ facts' = facts :=
  Keeps.trusts ((keeps_checked trivial).mono (fun _ _ ⟨hvalue, hknow⟩ => ⟨facts, hknow, hvalue, rfl⟩)
    fun _ h => h)

theorem commits_asked (query : Query) :
    Commits unitId facts (asked query) fun _ facts' => facts' = facts :=
  Keeps.trusts ((keeps_asked rfl).mono (fun _ _ hknow => ⟨facts, hknow, rfl⟩) fun _ h => h)

theorem commits_proceeds : Commits unitId facts proceeds fun _ facts' => facts' = facts := by
  refine (commits_asked _).bind fun _ facts hfacts => ?_
  subst hfacts
  exact commits_refuseIf.mono fun _ _ h => h.1

theorem commits_statement {op : Stmt} {learn : op.Res → Know} {post : op.Res → Facts → Prop}
    (hopened : facts.opened = true) (hsent : facts.sent unitId op = some learn)
    (hlearn : ∀ reply facts', learn reply = some facts' → post reply facts') :
    Commits unitId facts (statement .conn op) post := by
  refine Client.trusts_statement unitDiscipline_silent ((if_pos hopened).trans hsent) trivial
    fun reply => ?_
  cases hreply : learn reply with
  | none => exact Or.inl rfl
  | some facts' => exact Or.inr ⟨facts', rfl, hlearn reply facts' hreply⟩

theorem commits_calm (hp : p.run.Within (Inside Stmt.SparesUnits)) (hcalm : facts.Calm) :
    Commits unitId facts p fun _ facts' => facts'.Calm := by
  have hstill : Still (some facts) := fun facts' h => Option.some.inj h ▸ hcalm
  refine (unit_indifferent.keeps_inside hp hstill).mono (fun _ know hknow => ?_)
    fun _ _ => Or.inr trivial
  cases know with
  | none => exact Or.inl rfl
  | some facts' => exact Or.inr ⟨facts', rfl, hknow facts' rfl⟩

theorem commits_elsewhere (hopened : facts.opened = true) :
    Commits unitId facts (statement .conn .elsewhere) fun _ facts' => facts' = facts :=
  commits_statement hopened rfl fun _ _ h => (Option.some.inj h).symm

theorem commits_lookedUp (hopened : facts.opened = true) (query : Query) :
    Commits unitId facts (lookedUp query) fun _ facts' => facts' = facts := by
  refine (commits_elsewhere hopened).bind fun _ facts h => ?_
  subst h
  exact commits_asked query

theorem commits_unit (hopened : facts.opened = true) (locking : Bool) (scope : UnitScope) :
    Commits unitId facts (statement .conn (.unit locking v scope)) fun reply facts' =>
      facts.found unitId v (locking || facts.touched) reply = some facts' :=
  commits_statement hopened (if_neg fun h => by rw [hopened] at h; cases h.2) fun _ _ h => h

theorem commits_update (hopened : facts.opened = true) (change : Change)
    (hitem : v = unitId → facts.item ≠ none) :
    Commits unitId facts (statement .conn (.updateUnit v change)) fun _ facts' =>
      facts' = if v = unitId then facts.changed change else facts := by
  by_cases hv : v = unitId
  · subst hv
    have hadmits : facts.Admits change := by
      unfold Facts.Admits
      rw [if_pos hopened]
      exact hitem rfl
    refine commits_statement hopened (Facts.sent_update hadmits) fun _ facts' h => ?_
    rw [if_pos rfl]
    exact (Option.some.inj h).symm
  · refine commits_statement hopened (Facts.sent_update_other hv) fun _ facts' h => ?_
    rw [if_neg hv]
    exact (Option.some.inj h).symm

theorem commits_update_again (hopened : facts.opened = true) (change : Change)
    (hstock : change.inStock = none) (howned : change.owned = none)
    (hitem : v = unitId → facts.item ≠ none ∧ facts.touched = true) :
    Commits unitId facts (statement .conn (.updateUnit v change)) fun _ facts' =>
      facts' = facts := by
  refine (commits_update hopened change fun hv => (hitem hv).1).mono fun _ facts' h => ?_
  rw [h]
  split_ifs with hv
  · exact Facts.changed_eq hstock howned (hitem hv).2
  · rfl

end Commits

/-- A unit was put somewhere, and the rest of what is known stays. -/
structure Turned (toState : LifecycleState) (facts facts' : Facts) : Prop where
  opened : facts'.opened = true
  item : facts'.item ≠ none ∧ (facts.item = none ∨ facts'.item = facts.item)
  touched : facts'.touched = true
  written : facts'.inStock.written = some (decide (toState = .inStock))
  committed : ∀ value, facts.inStock.committed = some value →
    facts'.inStock.committed = some value
  owned : facts'.owned.written = facts.owned.written
  had : ∀ value, facts.owned.committed = some value → facts'.owned.committed = some value
  moved : facts'.moved = facts.moved
  assigned : toState = .assigned → facts.touched = true →
    facts.inStock.written ≠ some false ∧
      (facts.inStock.written = none → facts'.inStock.committed = some true)

theorem inStock_of_assigned {fromState : LifecycleState}
    (h : assertTransitionAllowed fromState .assigned = .ok ()) : fromState = .inStock := by
  cases fromState <;> first | rfl | cases h

theorem reads_of_found {row : CpeDevice} (hopened : facts.opened = true)
    (hfound : facts.found unitId unitId facts.touched (some row) = some facts') :
    facts'.opened = true ∧ facts'.item ≠ none ∧
      (facts.item = none ∨ facts'.item = facts.item) ∧ facts'.touched = facts.touched ∧
      facts'.inStock.written = facts.inStock.written ∧
      (∀ value, facts.inStock.committed = some value →
        facts'.inStock.committed = some value) ∧
      facts'.owned.written = facts.owned.written ∧
      (∀ value, facts.owned.committed = some value → facts'.owned.committed = some value) ∧
      facts'.moved = facts.moved ∧
      (facts.touched = true →
        facts.inStock.observe row.columns.inStock = some facts'.inStock) := by
  obtain ⟨-, -, hcurrent, hnamed⟩ := Facts.found_eq_some hfound
  cases htouched : facts.touched with
  | false =>
    obtain ⟨hitem, rfl⟩ := Facts.named_eq_some (hnamed rfl htouched)
    exact ⟨hopened, nofun, hitem.imp id Eq.symm, htouched, rfl, fun _ h => h, rfl, fun _ h => h, rfl,
      nofun⟩
  | true =>
    obtain ⟨hitem, hstock, howned, heq⟩ := Facts.observed_eq_some (hcurrent rfl htouched)
    rw [heq]
    exact ⟨hopened, nofun, hitem.imp id Eq.symm, htouched, Column.written_of_observe hstock,
      fun _ => Column.committed_of_observe hstock, Column.written_of_observe howned,
      fun _ => Column.committed_of_observe howned, rfl, fun _ => hstock⟩

theorem commits_transition (hopened : facts.opened = true) (toState : LifecycleState) :
    Commits unitId facts (transitionLifecycleState .conn v toState) fun _ facts' =>
      (v = unitId → Turned toState facts facts') ∧ (v ≠ unitId → facts' = facts) := by
  refine (commits_unit hopened false .any).bind fun found facts₁ hfound => ?_
  refine commits_orThrow.bind fun row facts₁ h => ?_
  obtain ⟨rfl, rfl⟩ := h
  refine commits_checked.bind fun _ facts₁ h => ?_
  obtain ⟨hallowed, rfl⟩ := h
  by_cases hv : v = unitId
  · subst hv
    obtain ⟨hopened₁, hsome, hitem, htouched, hwritten, hcommitted, howned, hhad, hmoved, hseen⟩ :=
      reads_of_found hopened hfound
    refine (commits_update hopened₁ _ fun _ => hsome).bind fun _ facts₂ h => ?_
    have hchanged : facts₂ = { facts₁ with
        touched := true
        inStock := ⟨facts₁.inStock.committed, some (decide (toState = .inStock))⟩ } := by
      rw [h, if_pos rfl]
      unfold Facts.changed
      rw [if_pos hopened₁]
      rfl
    refine commits_proceeds.bind fun _ facts₂ h => ?_
    obtain rfl := h
    have hturned : Turned toState facts facts₂ := by
      rw [hchanged]
      refine ⟨hopened₁, ⟨hsome, hitem⟩, rfl, rfl, hcommitted, howned, hhad, hmoved,
        fun hassigned htouched => ?_⟩
      subst hassigned
      have hin : row.columns.inStock = true := decide_eq_true (inStock_of_assigned hallowed)
      have hobserve := hseen htouched
      rw [hin] at hobserve
      constructor
      · intro hfalse
        have hvalue := Column.value_of_observe hobserve hfalse
        cases hvalue
      · intro hnone
        have hknown := Column.known_of_observe hobserve hnone
        exact hknown
    refine (commits_unit hturned.opened false .any).mono fun reply facts₃ hreply => ⟨fun _ => ?_,
      fun hne => absurd rfl hne⟩
    cases reply with
    | none =>
      obtain rfl := Option.some.inj hreply
      exact hturned
    | some row =>
      obtain ⟨hopened₃, hsome₃, hitem₃, htouched₃, hwritten₃, hcommitted₃, howned₃, hhad₃, hmoved₃,
        -⟩ := reads_of_found hturned.opened hreply
      have hitem' := hitem₃.resolve_left hturned.item.1
      refine ⟨hopened₃, ⟨hsome₃, ?_⟩, htouched₃.trans hturned.touched,
        hwritten₃.trans hturned.written, fun value h => hcommitted₃ value (hturned.committed value h),
        howned₃.trans hturned.owned, fun value h => hhad₃ value (hturned.had value h),
        hmoved₃.trans hturned.moved, fun hassigned htouched => ?_⟩
      · rw [hitem']
        exact hturned.item.2
      · obtain ⟨hfalse, hknown⟩ := hturned.assigned hassigned htouched
        exact ⟨hfalse, fun hnone => hcommitted₃ true (hknown hnone)⟩
  · have hsame : ∀ {facts₁ : Facts} {current reply},
        facts.found unitId v current reply = some facts₁ → facts₁ = facts := by
      intro facts₁ current reply hfound
      cases reply with
      | none => exact (Option.some.inj hfound).symm
      | some row => exact (Facts.found_eq_some hfound).2.1 hv
    obtain rfl := hsame hfound
    refine (commits_update hopened _ fun h => absurd h hv).bind fun _ facts₂ h => ?_
    rw [if_neg hv] at h
    subst h
    refine commits_proceeds.bind fun _ _ h => ?_
    subst h
    exact (commits_unit hopened false .any).mono fun reply facts₃ hreply =>
      ⟨fun h => absurd h hv, fun _ => hsame hreply⟩

theorem commits_moveStock (hopened : facts.opened = true) (orgId itemId : Nat) {quantity : Int}
    (hquantity : quantity = 1 ∨ quantity = -1)
    (hunit : v = unitId → facts.item = some (some itemId) ∧ facts.moved = 0) :
    Commits unitId facts (moveStock orgId itemId quantity (.unit v)) fun _ facts' =>
      ∃ stocked, facts' = { facts with
        moved := if v = unitId then quantity else facts.moved, stocked := stocked } := by
  have hrow : Commits unitId facts (resolveOrCreateStockRow orgId itemId) fun stockId facts' =>
      facts' = { facts with stocked := some (stockId, itemId) } := by
    have hfind : Commits unitId facts (statement .conn (.greatestStock itemId orgId))
        fun found facts' => facts' = facts.stockedAt itemId found :=
      commits_statement hopened (if_pos hopened) fun found facts' h => (Option.some.inj h).symm
    refine hfind.bind fun found facts₁ h => ?_
    cases found with
    | some stockId => exact commits_pure h
    | none =>
      obtain rfl : facts₁ = facts := h
      refine (commits_lookedUp hopened _).bind fun found facts₂ h => ?_
      subst h
      refine commits_orThrow.bind fun warehouseId facts₂ h => ?_
      obtain ⟨-, rfl⟩ := h
      exact commits_statement hopened (if_pos ⟨hopened, nofun⟩) fun stockId facts' h =>
        (Option.some.inj h).symm
  refine hrow.bind fun stockId facts₁ h => ?_
  subst h
  have hadd : Commits unitId { facts with stocked := some (stockId, itemId) }
      (statement .conn (.addStock stockId quantity (.unit v))) fun _ facts' =>
        facts' = { facts with
          moved := if v = unitId then quantity else facts.moved
          stocked := some (stockId, itemId) } := by
    by_cases hv : v = unitId
    · subst hv
      obtain ⟨hitem, hmoved⟩ := hunit rfl
      have hmoves : Facts.Moves { facts with stocked := some (stockId, itemId) } stockId quantity := by
        refine ⟨hmoved, ?_, ?_, ?_⟩
        · rcases hquantity with rfl | rfl
          · exact Or.inl rfl
          · exact Or.inr rfl
        · rw [hitem]
          rfl
        · rw [hitem]
          rfl
      refine commits_statement hopened (Facts.sent_add hopened hmoves) fun _ facts' h => ?_
      rw [← Option.some.inj h, if_pos rfl, roundHalf_int]
    · have hother : (Reason.unit v) ≠ .unit unitId := fun h => hv (Reason.unit.inj h)
      refine commits_statement hopened (Facts.sent_add_other hopened hother) fun _ facts' h => ?_
      rw [← Option.some.inj h, if_neg hv]
  refine hadd.bind fun _ facts₁ h => ?_
  exact commits_proceeds.mono fun _ facts' h' => ⟨_, h'.trans h⟩

end FireIsp.Inventory
