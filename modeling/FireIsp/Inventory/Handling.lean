import FireIsp.Inventory.UnitCalls

/-!
# Units are handled lawfully

The transactions that install a unit, undo its install, pick it up or swap it move its stock as the
discipline of the unit wants it.
-/

namespace FireIsp.Inventory

open Txn Txn.Throwing
open Txn.Client (Inside Between Indifferent Keeps Trusts keeps_pure inTransaction)

variable {unitId v : Nat} {facts facts' : Facts}

theorem commits_bridge (hopened : facts.opened = true) (unit : CpeDevice)
    (hitem : unit.id = unitId → facts.item ≠ none ∧ facts.touched = true) :
    Commits unitId facts (bridgeUnitToDevice unit) fun _ facts' => facts' = facts := by
  have hname : Commits unitId facts (nameOf unit) fun _ facts' => facts' = facts := by
    unfold nameOf
    split_ifs
    · exact commits_elsewhere hopened
    · exact commits_pure rfl
  unfold bridgeUnitToDevice
  split_ifs
  · exact commits_pure rfl
  · refine hname.bind fun _ facts h => ?_
    subst h
    refine commits_proceeds.bind fun _ facts h => ?_
    subst h
    refine (commits_asked _).bind fun deviceId facts h => ?_
    subst h
    exact commits_update_again hopened _ rfl rfl hitem

theorem commits_unbridge (hopened : facts.opened = true) (unit : CpeDevice)
    (hitem : unit.id = unitId → facts.item ≠ none ∧ facts.touched = true) :
    Commits unitId facts (unbridgeUnit unit) fun _ facts' => facts' = facts := by
  unfold unbridgeUnit
  split_ifs
  · refine commits_proceeds.bind fun _ facts h => ?_
    subst h
    exact commits_update_again hopened _ rfl rfl hitem
  · exact commits_pure rfl

/-- A unit that is locked by a transaction that has not changed it. -/
structure Locked (unit : CpeDevice) (facts : Facts) : Prop where
  item : facts.item = some unit.inventoryItemId
  inStock : facts.inStock.committed = some unit.columns.inStock
  owned : facts.owned.committed = some unit.columns.owned

theorem locked_of_found {id : Nat} {row : CpeDevice} (hcalm : facts.Calm)
    (hfound : facts.found unitId id true (some row) = some facts') :
    row.id = id ∧ facts'.Calm ∧ (row.id = unitId → Locked row facts') := by
  obtain ⟨hid, -, hcurrent, -⟩ := Facts.found_eq_some hfound
  refine ⟨hid, hcalm.found hfound, fun hunit => ?_⟩
  obtain ⟨hitem, hstock, howned, heq⟩ := Facts.observed_eq_some (hcurrent (hid ▸ hunit) rfl)
  exact ⟨by rw [heq], Column.known_of_observe hstock hcalm.inStock,
    Column.known_of_observe howned hcalm.owned⟩

theorem commits_lock (hcalm : facts.Calm) (scope : UnitScope) :
    Commits unitId facts (statement .conn (.unit true v scope)) fun reply facts' =>
      ∀ row, reply = some row → row.id = v ∧ facts'.Calm ∧ (row.id = unitId → Locked row facts') :=
  (commits_unit hcalm.opened true scope).mono fun reply facts' h row hrow => by
    subst hrow
    exact locked_of_found hcalm h

structure Ready (unitId : Nat) (unit : CpeDevice) (facts : Facts) : Prop where
  calm : facts.Calm
  item : unit.id = unitId → facts.item = some unit.inventoryItemId
  inStock : unit.id = unitId → facts.inStock.committed = some true

theorem commits_pickedUnit (hcalm : facts.Calm) (options : InstallOptions) (cpeDeviceId : Nat) :
    Commits unitId facts (pickedUnit options cpeDeviceId) (Ready unitId) := by
  refine (commits_lock hcalm _).bind fun found facts₁ hfound => ?_
  refine commits_orThrow.bind fun unit facts₁ h => ?_
  obtain ⟨rfl, rfl⟩ := h
  obtain ⟨hid, hcalm₁, hlocked⟩ := hfound unit rfl
  refine commits_refuseIf.bind fun _ facts₁ h => ?_
  obtain ⟨rfl, hstate⟩ := h
  refine commits_refuseIf.bind fun _ facts₁ h => ?_
  obtain ⟨rfl, -⟩ := h
  have hin : unit.columns.inStock = true := decide_eq_true (not_not.mp hstate)
  refine commits_pure ⟨hcalm₁, fun hunit => (hlocked hunit).item, fun hunit => ?_⟩
  rw [← hin]
  exact (hlocked hunit).inStock

theorem commits_insertUnit (hcalm : facts.Calm) (orgId : Nat) (serialNumber : String)
    (itemId : Nat) (origin : Origin) :
    Commits unitId facts (statement .conn (.insertUnit orgId serialNumber itemId origin))
      fun (id : Nat) facts' => facts'.Calm ∧
        (id = unitId → facts'.inStock.committed = some true) := by
  refine commits_statement hcalm.opened (if_pos hcalm.opened) fun (id : Nat) facts' h => ?_
  by_cases hid : id = unitId
  · simp only [if_pos hid] at h
    obtain ⟨-, hsome⟩ := Option.ite_none_right_eq_some.mp h
    obtain rfl := Option.some.inj hsome
    exact ⟨⟨hcalm.opened, rfl, rfl, hcalm.moved⟩, fun _ => rfl⟩
  · simp only [if_neg hid] at h
    obtain rfl := Option.some.inj h
    exact ⟨hcalm, fun h => absurd h hid⟩

theorem commits_typedUnit (hcalm : facts.Calm) (options : InstallOptions) (newSerial : String) :
    Commits unitId facts (typedUnit options newSerial) (Ready unitId) := by
  have hspare : ∀ op : Stmt, op.SparesUnits → op.Handles → op.SparesUnits := fun _ h _ => h
  refine commits_orThrow.bind fun itemId facts₁ h => ?_
  obtain ⟨-, rfl⟩ := h
  refine (commits_calm (inside_loadItem hspare _ _) hcalm).bind fun _ facts₁ hcalm => ?_
  refine (commits_calm (inside_assertUntracked hspare _ _) hcalm).bind fun _ facts₂ hcalm => ?_
  refine commits_refuseIf.bind fun _ facts₃ h => ?_
  obtain ⟨rfl, -⟩ := h
  refine (commits_calm (inside_assertSerialNotTaken hspare _ _) hcalm).bind
    fun _ facts₄ hcalm => ?_
  refine (commits_insertUnit hcalm _ _ _ _).bind fun id facts₅ h => ?_
  obtain ⟨hcalm, hborn⟩ := h
  refine (commits_unit hcalm.opened true .any).bind fun found facts₆ hfound => ?_
  refine commits_orThrow.mono fun unit facts₇ h => ?_
  obtain ⟨rfl, rfl⟩ := h
  obtain ⟨hid, hcalm', hlocked⟩ := locked_of_found hcalm hfound
  refine ⟨hcalm', fun hunit => (hlocked hunit).item, fun hunit => ?_⟩
  obtain ⟨-, -, hcurrent, -⟩ := Facts.found_eq_some hfound
  obtain ⟨-, hstock, -, -⟩ := Facts.observed_eq_some (hcurrent (hid ▸ hunit) rfl)
  exact Column.committed_of_observe hstock (hborn (hid ▸ hunit))

theorem commits_unitToInstall (hcalm : facts.Calm) (options : InstallOptions) :
    Commits unitId facts (unitToInstall options) (Ready unitId) := by
  unfold unitToInstall
  split
  · exact commits_pickedUnit hcalm options _
  · exact commits_typedUnit hcalm options _
  · exact Keeps.trusts (Client.keeps_throw trivial)

theorem commits_loadItem (hopened : facts.opened = true) (itemId orgId : Nat) :
    Commits unitId facts (loadItem itemId orgId) fun _ facts' => facts' = facts := by
  have hread : Commits unitId facts (statement .conn (.item itemId orgId))
      fun _ facts' => facts' = facts :=
    commits_statement hopened rfl fun _ _ h => (Option.some.inj h).symm
  refine hread.bind fun found facts h => ?_
  subst h
  exact commits_orThrow.mono fun _ _ h => h.2

def Taken (unitId : Nat) (unit : CpeDevice) (quantity : Int) (facts facts' : Facts) : Prop :=
  ∃ stocked, facts' = { facts with
    moved := if unit.id = unitId then quantity else facts.moved, stocked := stocked }

theorem taken_none {unit : CpeDevice} (hmoved : unit.id = unitId → facts.moved = 0) :
    Taken unitId unit 0 facts facts := by
  refine ⟨facts.stocked, ?_⟩
  split_ifs with hunit
  · rw [← hmoved hunit]
  · rfl

theorem commits_takeInstalled (hopened : facts.opened = true) (options : InstallOptions)
    (unit : CpeDevice) (hunit : unit.id = unitId →
      facts.item = some unit.inventoryItemId ∧ facts.touched = true ∧ facts.moved = 0) :
    Commits unitId facts (takeInstalled options unit) fun _ => Taken unitId unit (-1) facts := by
  refine commits_orThrow.bind fun itemId facts h => ?_
  obtain ⟨hitem, rfl⟩ := h
  have hknown : unit.id = unitId → facts.item = some (some itemId) ∧ facts.moved = 0 :=
    fun h => ⟨(hunit h).1.trans (congrArg some hitem), (hunit h).2.2⟩
  unfold takeOfItem
  split
  · exact commits_moveStock hopened _ _ (Or.inr rfl) hknown
  · refine (commits_loadItem hopened _ _).bind fun item facts₁ h => ?_
    subst h
    refine commits_orThrow.bind fun amount facts₁ h => ?_
    obtain ⟨-, rfl⟩ := h
    refine (commits_elsewhere hopened).bind fun _ facts₁ h => ?_
    subst h
    refine commits_proceeds.bind fun _ facts₁ h => ?_
    subst h
    refine (commits_asked _).bind fun invoiceId facts₁ h => ?_
    subst h
    refine (commits_moveStock hopened _ _ (Or.inr rfl) hknown).bind fun _ facts₂ h => ?_
    obtain ⟨stocked, hmoved⟩ := h
    have hopened₂ : facts₂.opened = true := by rw [hmoved]; exact hopened
    have hitem₂ : unit.id = unitId → facts₂.item ≠ none ∧ facts₂.touched = true := fun h => by
      rw [hmoved]
      exact ⟨(hknown h).1 ▸ Option.some_ne_none _, (hunit h).2.1⟩
    refine commits_proceeds.bind fun _ facts₃ h => ?_
    subst h
    exact (commits_update_again hopened₂ _ rfl rfl hitem₂).mono
      fun _ facts' h => ⟨stocked, h.trans hmoved⟩

theorem commits_installLocked (hcalm : facts.Calm) (options : InstallOptions) :
    Commits unitId facts (installLocked options) fun _ facts' =>
      facts'.opened = true ∧ facts'.Lawful := by
  refine (commits_lookedUp hcalm.opened _).bind fun contract facts₁ h => ?_
  subst h
  refine commits_orThrow.bind fun clientId facts₁ h => ?_
  obtain ⟨-, rfl⟩ := h
  refine (commits_calm (inside_assertServiceOrder (fun _ h _ => h) _) hcalm).bind
    fun _ facts₁ hcalm => ?_
  refine (commits_unitToInstall hcalm options).bind fun unit facts₂ hready => ?_
  refine (commits_update hready.calm.opened _ fun h => ?_).bind fun _ facts₃ hassigned => ?_
  · exact hready.item h ▸ Option.some_ne_none _
  by_cases hunit : unit.id = unitId
  · have hchanged : facts₃ = { facts₂ with
        touched := true
        inStock := ⟨some true, none⟩
        owned := ⟨facts₂.owned.committed, some true⟩ } := by
      have hstock : facts₂.inStock = ⟨some true, none⟩ := by
        rw [← hready.inStock hunit, ← hready.calm.inStock]
      rw [hassigned, if_pos hunit]
      unfold Facts.changed
      rw [if_pos hready.calm.opened, hstock]
      rfl
    have hopened₃ : facts₃.opened = true := by rw [hchanged]; exact hready.calm.opened
    refine (commits_transition hopened₃ .assigned).bind fun _ facts₄ h => ?_
    have hturned := h.1 hunit
    have hitem₄ : facts₄.item = some unit.inventoryItemId := by
      have hitem₃ : facts₃.item = some unit.inventoryItemId := by
        rw [hchanged]
        exact hready.item hunit
      rw [hturned.item.2.resolve_left (by rw [hitem₃]; exact Option.some_ne_none _), hitem₃]
    have hmoved₄ : facts₄.moved = 0 := by
      rw [hturned.moved, hchanged]
      exact hready.calm.moved
    refine (commits_bridge hturned.opened unit fun _ => ⟨hturned.item.1, hturned.touched⟩).bind
      fun _ facts₅ h => ?_
    subst h
    refine (commits_takeInstalled hturned.opened options unit fun _ =>
      ⟨hitem₄, hturned.touched, hmoved₄⟩).bind fun _ facts₆ h => ?_
    obtain ⟨stocked, rfl⟩ := h
    refine commits_pure ⟨hturned.opened, Or.inr (Or.inr (Or.inl ⟨if_pos hunit, ?_⟩))⟩
    have hcommitted := hturned.committed true (by rw [hchanged])
    have hwritten := hturned.written
    rw [show facts₅.inStock = ⟨facts₅.inStock.committed, facts₅.inStock.written⟩ from rfl,
      hcommitted, hwritten]
    rfl
  · rw [if_neg hunit] at hassigned
    subst hassigned
    refine (commits_transition hready.calm.opened .assigned).bind fun _ facts₄ h => ?_
    obtain rfl := h.2 hunit
    refine (commits_bridge hready.calm.opened unit fun h => absurd h hunit).bind
      fun _ facts₅ h => ?_
    subst h
    refine (commits_takeInstalled hready.calm.opened options unit fun h => absurd h hunit).bind
      fun _ facts₆ h => ?_
    obtain ⟨stocked, rfl⟩ := h
    refine commits_pure ⟨hready.calm.opened, Facts.Calm.lawful ?_⟩
    exact ⟨hready.calm.opened, hready.calm.inStock, hready.calm.owned,
      (if_neg hunit).trans hready.calm.moved⟩

theorem Turned.unassigned {toState : LifecycleState} {unit : CpeDevice}
    (h : Turned toState facts facts') (hlocked : Locked unit facts) (clearsInvoice : Bool) :
    (facts'.changed (.unassign clearsInvoice)).opened = true ∧
      (facts'.changed (.unassign clearsInvoice)).item = some unit.inventoryItemId ∧
      (facts'.changed (.unassign clearsInvoice)).touched = true ∧
      (facts'.changed (.unassign clearsInvoice)).inStock.written =
        some (decide (toState = .inStock)) ∧
      (facts'.changed (.unassign clearsInvoice)).owned = ⟨some unit.columns.owned, some false⟩ ∧
      (facts'.changed (.unassign clearsInvoice)).moved = facts.moved := by
  have hitem : facts'.item = some unit.inventoryItemId := by
    rw [h.item.2.resolve_left (by rw [hlocked.item]; exact Option.some_ne_none _), hlocked.item]
  have hhad := h.had _ hlocked.owned
  unfold Facts.changed
  rw [if_pos h.opened]
  refine ⟨h.opened, hitem, rfl, h.written, ?_, h.moved⟩
  rw [← hhad]
  rfl

theorem commits_restoreUninstalled (hcalm : facts.Calm) (orgId : Nat) (unit : CpeDevice)
    (hlocked : unit.id = unitId → Locked unit facts) :
    Commits unitId facts (restoreUninstalled orgId unit) fun _ facts' => ∃ quantity,
      Taken unitId unit quantity facts facts' ∧
        (quantity = 1 ∧ unit.columns.owned = true ∨
          quantity = 0 ∧ (unit.inventoryItemId = none ∨ unit.columns.owned = false)) := by
  unfold restoreUninstalled
  split
  · rename_i itemId owner hitem howner
    refine (commits_moveStock hcalm.opened _ _ (Or.inl rfl) fun hunit =>
      ⟨(hlocked hunit).item.trans (congrArg some hitem), hcalm.moved⟩).mono
        fun _ facts' h => ⟨1, h, Or.inl ⟨rfl, ?_⟩⟩
    unfold Columns.owned
    rw [howner]
    rfl
  · rename_i hnone
    refine commits_pure ⟨0, taken_none fun _ => hcalm.moved, Or.inr ⟨rfl, ?_⟩⟩
    cases hitem : unit.inventoryItemId with
    | none => exact Or.inl rfl
    | some itemId =>
      right
      unfold Columns.owned
      cases howner : unit.columns.ownership with
      | none => rfl
      | some owner => exact (hnone itemId owner hitem howner).elim

theorem commits_uninstallLocked (hcalm : facts.Calm) (orgId cpeDeviceId : Nat) :
    Commits unitId facts (uninstallLocked orgId cpeDeviceId) fun _ facts' =>
      facts'.opened = true ∧ facts'.Lawful := by
  refine (commits_lock hcalm _).bind fun found facts₁ hfound => ?_
  refine commits_orThrow.bind fun unit facts₁ h => ?_
  obtain ⟨rfl, rfl⟩ := h
  obtain ⟨-, hcalm₁, hlocked⟩ := hfound unit rfl
  refine commits_refuseIf.bind fun _ facts₁ h => ?_
  obtain ⟨rfl, -⟩ := h
  refine (commits_restoreUninstalled hcalm₁ orgId unit hlocked).bind fun _ facts₂ h => ?_
  obtain ⟨quantity, ⟨stocked, hmoved⟩, hquantity⟩ := h
  have hopened₂ : facts₂.opened = true := by rw [hmoved]; exact hcalm₁.opened
  refine (commits_transition hopened₂ .inStock).bind fun _ facts₃ h => ?_
  by_cases hunit : unit.id = unitId
  · have hturned := h.1 hunit
    have hlocked₂ : Locked unit facts₂ := by
      rw [hmoved]
      exact ⟨(hlocked hunit).item, (hlocked hunit).inStock, (hlocked hunit).owned⟩
    obtain ⟨hopened, hitem, htouched, -, howned, hmoved₃⟩ :=
      hturned.unassigned hlocked₂ true
    refine (commits_update hturned.opened _ fun _ => hturned.item.1).bind fun _ facts₄ h => ?_
    rw [if_pos hunit] at h
    rw [← h] at hopened hitem htouched howned hmoved₃
    refine (commits_unbridge hopened unit fun _ =>
      ⟨hitem ▸ Option.some_ne_none _, htouched⟩).mono fun _ facts₅ h => ?_
    subst h
    have hquantity₂ : facts₂.moved = quantity := by rw [hmoved]; exact if_pos hunit
    rw [hquantity₂] at hmoved₃
    refine ⟨hopened, ?_⟩
    rcases hquantity with ⟨rfl, hown⟩ | ⟨rfl, hnone | hown⟩
    · rw [hown] at howned
      exact Or.inr (Or.inr (Or.inr (Or.inl ⟨hmoved₃, howned⟩)))
    · rw [hnone] at hitem
      exact Or.inr (Or.inl ⟨hmoved₃, hitem⟩)
    · rw [hown] at howned
      exact Or.inr (Or.inr (Or.inr (Or.inr ⟨hmoved₃, howned⟩)))
  · obtain rfl := h.2 hunit
    refine (commits_update hopened₂ _ fun h => absurd h hunit).bind fun _ facts₄ h => ?_
    rw [if_neg hunit] at h
    subst h
    refine (commits_unbridge hopened₂ unit fun h => absurd h hunit).mono fun _ facts₅ h => ?_
    subst h
    have hcalm₅ : facts₅.Calm := by
      rw [hmoved]
      exact ⟨hcalm₁.opened, hcalm₁.inStock, hcalm₁.owned, (if_neg hunit).trans hcalm₁.moved⟩
    exact ⟨hopened₂, hcalm₅.lawful⟩

theorem commits_pickupUnit (hcalm : facts.Calm) (contractId orgId : Nat) :
    Commits unitId facts (statement .conn (.pickupUnit v contractId orgId)) fun reply facts' =>
      ∀ row, reply = some row → row.id = v ∧ facts'.Calm ∧
        (row.id = unitId → Locked row facts') ∧ row.columns.owned = true := by
  refine commits_statement hcalm.opened (if_pos hcalm.opened) fun reply facts' h row hrow => ?_
  subst hrow
  obtain ⟨hany, hfound⟩ := Option.ite_none_left_eq_some.mp h
  obtain ⟨hid, hcalm', hlocked⟩ := locked_of_found hcalm hfound
  refine ⟨hid, hcalm', hlocked, ?_⟩
  have hout : row.isOutstanding contractId = true := by
    cases hout : row.isOutstanding contractId with
    | true => rfl
    | false =>
      refine absurd ?_ hany
      change (!row.isOutstanding contractId) = true
      rw [hout]
      rfl
  obtain ⟨-, hrented, -⟩ := of_decide_eq_true hout
  unfold Columns.owned
  rw [hrented]
  rfl

theorem commits_restorePicked (hopened : facts.opened = true) (orgId : Nat)
    (disposition : Disposition) (unit : CpeDevice) (hunit : unit.id = unitId →
      facts.item = some unit.inventoryItemId ∧ facts.moved = 0) :
    Commits unitId facts (restorePicked orgId disposition unit) fun _ facts' => ∃ quantity,
      Taken unitId unit quantity facts facts' ∧ (quantity = 1 ∨
        quantity = 0 ∧ (disposition = .rma ∨ unit.inventoryItemId = none)) := by
  have hsame : Taken unitId unit 0 facts facts := taken_none fun h => (hunit h).2
  cases disposition with
  | rma => exact commits_pure ⟨0, hsame, Or.inr ⟨rfl, Or.inl rfl⟩⟩
  | returned =>
    unfold restorePicked
    split
    · rename_i itemId _ hsome
      exact (commits_moveStock hopened _ itemId (Or.inl rfl) fun h =>
        ⟨(hunit h).1.trans (congrArg some hsome), (hunit h).2⟩).mono
          fun _ facts' h => ⟨1, h, Or.inl rfl⟩
    · rename_i hnot
      refine commits_pure ⟨0, hsame, Or.inr ⟨rfl, Or.inr ?_⟩⟩
      cases hnone : unit.inventoryItemId with
      | none => rfl
      | some itemId => exact (hnot itemId rfl hnone).elim

theorem commits_pickupLocked (hcalm : facts.Calm) (orgId contractId cpeDeviceId : Nat)
    (disposition : Disposition) :
    Commits unitId facts (pickupLocked orgId contractId cpeDeviceId disposition) fun _ facts' =>
      facts'.opened = true ∧ facts'.Lawful := by
  refine (commits_pickupUnit hcalm _ _).bind fun found facts₁ hfound => ?_
  refine commits_orThrow.bind fun unit facts₁ h => ?_
  obtain ⟨rfl, rfl⟩ := h
  obtain ⟨-, hcalm₁, hlocked, hown⟩ := hfound unit rfl
  refine (commits_transition hcalm₁.opened disposition.toState).bind fun _ facts₂ h => ?_
  by_cases hunit : unit.id = unitId
  · have hturned := h.1 hunit
    obtain ⟨hopened, hitem, htouched, hwritten, howned, hmoved⟩ :=
      hturned.unassigned (hlocked hunit) false
    refine (commits_update hturned.opened _ fun _ => hturned.item.1).bind fun _ facts₃ h => ?_
    rw [if_pos hunit] at h
    rw [← h] at hopened hitem htouched hwritten howned hmoved
    rw [hown] at howned
    rw [hcalm₁.moved] at hmoved
    refine (commits_unbridge hopened unit fun _ =>
      ⟨hitem ▸ Option.some_ne_none _, htouched⟩).bind fun _ facts₄ h => ?_
    subst h
    refine (commits_restorePicked hopened orgId disposition unit fun _ => ⟨hitem, hmoved⟩).mono
      fun _ facts₅ h => ?_
    obtain ⟨quantity, ⟨stocked, rfl⟩, hquantity⟩ := h
    refine ⟨hopened, ?_⟩
    rcases hquantity with rfl | ⟨rfl, rfl | hnone⟩
    · exact Or.inr (Or.inr (Or.inr (Or.inl ⟨if_pos hunit, howned⟩)))
    · refine Or.inl ⟨if_pos hunit, ?_, ?_⟩
      · exact fun h => nomatch hwritten.symm.trans h
      · change facts₄.owned.written ≠ some true
        rw [howned]
        exact nofun
    · exact Or.inr (Or.inl ⟨if_pos hunit, hitem.trans (congrArg some hnone)⟩)
  · obtain rfl := h.2 hunit
    refine (commits_update hcalm₁.opened _ fun h => absurd h hunit).bind fun _ facts₃ h => ?_
    rw [if_neg hunit] at h
    subst h
    refine (commits_unbridge hcalm₁.opened unit fun h => absurd h hunit).bind fun _ facts₄ h => ?_
    subst h
    refine (commits_restorePicked hcalm₁.opened orgId disposition unit fun h =>
      absurd h hunit).mono fun _ facts₅ h => ?_
    obtain ⟨quantity, ⟨stocked, rfl⟩, -⟩ := h
    refine ⟨hcalm₁.opened, Facts.Calm.lawful ?_⟩
    exact ⟨hcalm₁.opened, hcalm₁.inStock, hcalm₁.owned, (if_neg hunit).trans hcalm₁.moved⟩

theorem item_of_found {id : Nat} {current : Bool} {row : CpeDevice}
    (hfound : facts.found unitId id current (some row) = some facts') :
    row.id = id ∧ (row.id = unitId → facts'.item = some row.inventoryItemId) ∧
      (∀ item, facts.item = some item → facts'.item = some item) := by
  obtain ⟨hid, hother, hcurrent, hnamed⟩ := Facts.found_eq_some hfound
  by_cases hunit : id = unitId
  · cases current with
    | false =>
      obtain ⟨hitem, rfl⟩ := Facts.named_eq_some (hnamed hunit rfl)
      refine ⟨hid, fun _ => rfl, fun item h => ?_⟩
      rw [h] at hitem
      exact (hitem.resolve_left (Option.some_ne_none _)).symm
    | true =>
      obtain ⟨hitem, -, -, heq⟩ := Facts.observed_eq_some (hcurrent hunit rfl)
      refine ⟨hid, fun _ => by rw [heq], fun item h => ?_⟩
      rw [h] at hitem
      rw [heq]
      exact (hitem.resolve_left (Option.some_ne_none _)).symm
  · rw [hother hunit]
    exact ⟨hid, fun h => absurd (hid.symm.trans h) hunit, fun _ h => h⟩

theorem commits_read (hcalm : facts.Calm) :
    Commits unitId facts (statement .conn (.unit false v .any)) fun reply facts' =>
      ∀ row, reply = some row → row.id = v ∧ facts'.Calm ∧
        (row.id = unitId → facts'.item = some row.inventoryItemId) ∧
        ∀ item, facts.item = some item → facts'.item = some item := by
  refine (commits_unit hcalm.opened false .any).mono fun reply facts' h row hrow => ?_
  subst hrow
  obtain ⟨hid, hitem, hkept⟩ := item_of_found h
  exact ⟨hid, hcalm.found h, hitem, hkept⟩

/-- A swap has changed the unit that is replaced, the unit that replaces it, or both. -/
structure Swapped (unitId oldId newId : Nat) (facts : Facts) : Prop where
  opened : facts.opened = true
  item : oldId = unitId ∨ newId = unitId → facts.item ≠ none ∧ facts.touched = true
  inStock : facts.inStock.written = none
  owned : newId ≠ unitId → facts.owned.written = none
  moved : facts.moved = 0

theorem swapped_of_calm {oldId newId : Nat} {subscriberId cpeProfileId contractId : Option Nat}
    {ownership : Option Ownership} (hcalm : facts.Calm)
    (hitem : oldId = unitId ∨ newId = unitId → facts.item ≠ none) :
    ∀ facts₁ facts₂ : Facts,
      facts₁ = (if newId = unitId then
        facts.changed (.inherit subscriberId cpeProfileId contractId ownership) else facts) →
      facts₂ = (if oldId = unitId then facts₁.changed .unlink else facts₁) →
      Swapped unitId oldId newId facts₂ ∧ facts₂.item = facts.item := by
  have hchanged : ∀ facts : Facts, facts.opened = true → facts.changed .unlink =
      { facts with touched := true } := by
    intro facts hopened
    unfold Facts.changed Column.write
    rw [if_pos hopened]
    rfl
  rintro facts₁ facts₂ rfl rfl
  by_cases hnew : newId = unitId
  · have hinherit : facts.changed (.inherit subscriberId cpeProfileId contractId ownership) =
        { facts with
          touched := true
          owned := ⟨facts.owned.committed, some ownership.isSome⟩ } := by
      unfold Facts.changed Column.write
      rw [if_pos hcalm.opened]
      rfl
    rw [if_pos hnew, hinherit]
    split_ifs with hold
    · rw [hchanged]
      · exact ⟨⟨hcalm.opened, fun h => ⟨hitem h, rfl⟩, hcalm.inStock, fun h => absurd hnew h,
          hcalm.moved⟩, rfl⟩
      · exact hcalm.opened
    · exact ⟨⟨hcalm.opened, fun h => ⟨hitem h, rfl⟩, hcalm.inStock, fun h => absurd hnew h,
        hcalm.moved⟩, rfl⟩
  · rw [if_neg hnew]
    split_ifs with hold
    · rw [hchanged]
      · exact ⟨⟨hcalm.opened, fun h => ⟨hitem h, rfl⟩, hcalm.inStock, fun _ => hcalm.owned,
          hcalm.moved⟩, rfl⟩
      · exact hcalm.opened
    · exact ⟨⟨hcalm.opened, fun h => absurd h (not_or.mpr ⟨hold, hnew⟩), hcalm.inStock,
        fun _ => hcalm.owned, hcalm.moved⟩, rfl⟩

theorem commits_swapTransitions {oldId newId : Nat} {post : Unit → Facts → Prop} {rest : Body Unit}
    (h : Swapped unitId oldId newId facts)
    (hrest : ∀ facts', facts'.opened = true → facts'.moved = 0 →
      (∀ item, facts.item = some item → facts'.item = some item) →
      (newId = unitId → facts'.inStock = ⟨some true, some false⟩) →
      (newId ≠ unitId → facts'.Lawful) → Commits unitId facts' rest post) :
    Commits unitId facts (do
      let _ ← transitionLifecycleState .conn oldId .returned
      let _ ← transitionLifecycleState .conn newId .assigned
      rest) post := by
  refine (commits_transition h.opened .returned).bind fun _ facts₁ hreturned => ?_
  by_cases hold : oldId = unitId
  · have hturned := hreturned.1 hold
    refine (commits_transition hturned.opened .assigned).bind fun _ facts₂ hassigned => ?_
    by_cases hnew : newId = unitId
    · have hnot := ((hassigned.1 hnew).assigned rfl hturned.touched).1
      exact absurd hturned.written hnot
    · obtain rfl := hassigned.2 hnew
      have hmoved := hturned.moved.trans h.moved
      refine hrest _ hturned.opened hmoved (fun item hitem => ?_) (fun h => absurd h hnew) fun _ => ?_
      · exact (hturned.item.2.resolve_left (hitem ▸ Option.some_ne_none _)).trans hitem
      · refine Or.inl ⟨hmoved, ?_, ?_⟩
        · rw [hturned.written]
          exact fun h => nomatch h
        · rw [hturned.owned, h.owned hnew]
          exact nofun
  · obtain rfl := hreturned.2 hold
    refine (commits_transition h.opened .assigned).bind fun _ facts₂ hassigned => ?_
    by_cases hnew : newId = unitId
    · have hturned := hassigned.1 hnew
      have hknown := (hturned.assigned rfl (h.item (Or.inr hnew)).2).2 h.inStock
      refine hrest _ hturned.opened (hturned.moved.trans h.moved) (fun item hitem => ?_) (fun _ => ?_)
        fun h => absurd hnew h
      · exact (hturned.item.2.resolve_left (hitem ▸ Option.some_ne_none _)).trans hitem
      · rw [show facts₂.inStock = ⟨facts₂.inStock.committed, facts₂.inStock.written⟩ from rfl,
          hknown, hturned.written]
        rfl
    · obtain rfl := hassigned.2 hnew
      have hcalm : facts₂.Calm := ⟨h.opened, h.inStock, h.owned hnew, h.moved⟩
      exact hrest _ h.opened h.moved (fun _ hitem => hitem) (fun h => absurd h hnew)
        fun _ => hcalm.lawful

theorem commits_swapLocked (hcalm : facts.Calm) (oldDeviceId newDeviceId orgId : Nat) :
    Commits unitId facts (swapLocked oldDeviceId newDeviceId orgId) fun _ facts' =>
      facts'.opened = true ∧ facts'.Lawful := by
  refine (commits_read hcalm).bind fun foundOld facts₁ hfoundOld => ?_
  refine commits_orThrow.bind fun old facts₁ h => ?_
  obtain ⟨rfl, rfl⟩ := h
  obtain ⟨rfl, hcalm₁, hold, -⟩ := hfoundOld old rfl
  refine (commits_read hcalm₁).bind fun foundNew facts₂ hfoundNew => ?_
  refine commits_orThrow.bind fun new facts₂ h => ?_
  obtain ⟨rfl, rfl⟩ := h
  obtain ⟨rfl, hcalm₂, hnew, hkept⟩ := hfoundNew new rfl
  have hitem : old.id = unitId ∨ new.id = unitId → facts₂.item ≠ none := by
    rintro (h | h)
    · rw [hkept _ (hold h)]
      exact Option.some_ne_none _
    · rw [hnew h]
      exact Option.some_ne_none _
  refine commits_refuseIf.bind fun _ facts₂ h => ?_
  obtain ⟨rfl, -⟩ := h
  refine commits_refuseIf.bind fun _ facts₂ h => ?_
  obtain ⟨rfl, -⟩ := h
  refine (commits_update hcalm₂.opened _ fun h => hitem (Or.inr h)).bind fun _ facts₃ hinherit => ?_
  have hopened₃ : facts₃.opened = true ∧ (old.id = unitId → facts₃.item ≠ none) := by
    rw [hinherit]
    unfold Facts.changed
    rw [if_pos hcalm₂.opened]
    split_ifs
    · exact ⟨hcalm₂.opened, fun h => hitem (Or.inl h)⟩
    · exact ⟨hcalm₂.opened, fun h => hitem (Or.inl h)⟩
  refine (commits_update hopened₃.1 _ hopened₃.2).bind fun _ facts₄ hunlink => ?_
  obtain ⟨hswapped, hitem₄⟩ := swapped_of_calm hcalm₂ hitem facts₃ facts₄ hinherit hunlink
  refine (commits_unbridge hswapped.opened old fun h => hswapped.item (Or.inl h)).bind
    fun _ facts₅ h => ?_
  subst h
  refine (commits_bridge hswapped.opened new fun h => hswapped.item (Or.inr h)).bind
    fun _ facts₆ h => ?_
  subst h
  refine commits_swapTransitions hswapped fun facts₇ hopened hmoved hitems htaken hlawful => ?_
  have hitem₇ : new.id = unitId → facts₇.item = some new.inventoryItemId :=
    fun h => hitems _ (hitem₄.trans (hnew h))
  unfold takeSwapIn
  split
  · rename_i hnone
    refine commits_pure ⟨hopened, ?_⟩
    by_cases hunit : new.id = unitId
    · exact Or.inr (Or.inl ⟨hmoved, (hitem₇ hunit).trans (congrArg some hnone)⟩)
    · exact hlawful hunit
  · rename_i itemId hsome
    refine (commits_moveStock hopened _ itemId (Or.inr rfl) fun h =>
      ⟨(hitem₇ h).trans (congrArg some hsome), hmoved⟩).mono fun _ facts₈ h => ?_
    obtain ⟨stocked, rfl⟩ := h
    refine ⟨hopened, ?_⟩
    by_cases hunit : new.id = unitId
    · exact Or.inr (Or.inr (Or.inl ⟨if_pos hunit, htaken hunit⟩))
    · rw [if_neg hunit]
      exact hlawful hunit

theorem keeps_lawful {A : Type} {know : Know} (hknow : Idle know) {body : Body A}
    (hbody : ∀ facts, facts.Calm → Commits unitId facts body fun _ facts' =>
      facts'.opened = true ∧ facts'.Lawful) :
    Keeps (unitDiscipline unitId) know (inTransaction body) (fun _ => Idle) Idle := by
  rcases hknow with rfl | ⟨item, rfl⟩
  · exact unitDiscipline_lost.keeps _ (fun _ => Or.inl rfl) (Or.inl rfl)
  · have htrusts : Trusts (unitDiscipline unitId) none (some (Facts.idle item))
        (inTransaction body) (fun _ => Idle) Idle := by
      refine Client.trusts_inTransaction unitDiscipline_silent unitDiscipline_lost rfl
        (fun know => rfl) (hbody _ (Facts.calm_begun item)) (fun value know h => ?_)
        (Or.inr ⟨item, rfl⟩) fun know => ?_
      · obtain ⟨facts, rfl, hlawful⟩ := h
        exact ⟨_, if_pos hlawful, Or.inr ⟨_, rfl⟩⟩
      · cases know with
        | none => exact Or.inl rfl
        | some facts => exact Or.inr (Or.inr ⟨none, rfl⟩)
    exact Client.Keeps.mono htrusts (fun _ _ h => h.elim Or.inl id) fun _ h => h.elim Or.inl id

/-- Between transactions; if this is the unit, it is known to be of no item. -/
def Loose (unitId cpeDeviceId : Nat) (know : Know) : Prop :=
  Idle know ∧ ∀ item, know = some (Facts.idle item) → cpeDeviceId = unitId → item = some none

section Calls

variable {know : Know} (hknow : Idle know)

include hknow

theorem keeps_links {A : Type} {p : Body A} (hp : p.run.Within (Between Stmt.Links)) :
    Keeps (unitDiscipline unitId) know p (fun _ => Idle) Idle :=
  unit_indifferent.keeps_between hp hknow

theorem keeps_readUnit (id : Nat) (scope : UnitScope) :
    Keeps (unitDiscipline unitId) know (statement .pool (.unit false id scope))
      (fun _ => Idle) Idle :=
  keeps_links hknow (between_read (fun _ h => Or.inl h) (.unit false id scope) trivial)

theorem keeps_installEquipment (options : InstallOptions) :
    Keeps (unitDiscipline unitId) know (installEquipment options) (fun _ => Idle) Idle := by
  refine (keeps_links hknow within_checked).bind fun _ know hknow => ?_
  refine (keeps_lawful hknow fun facts hcalm => commits_installLocked hcalm options).bind
    fun deviceId know hknow => ?_
  exact keeps_readUnit hknow _ _

theorem keeps_uninstallEquipment (orgId cpeDeviceId : Nat) :
    Keeps (unitDiscipline unitId) know (uninstallEquipment orgId cpeDeviceId)
      (fun _ => Idle) Idle := by
  refine (keeps_readUnit hknow _ _).bind fun _ know hknow => ?_
  refine (keeps_links hknow within_orThrow).bind fun unit know hknow => ?_
  refine (keeps_links hknow within_refuseIf).bind fun _ know hknow => ?_
  refine (keeps_links hknow (between_assertContractLive _ _)).bind fun _ know hknow => ?_
  refine (keeps_links hknow (between_voidSaleOf _ _)).bind fun _ know hknow => ?_
  refine (keeps_lawful hknow fun facts hcalm => commits_uninstallLocked hcalm _ _).bind
    fun _ know hknow => ?_
  exact keeps_readUnit hknow _ _

theorem keeps_completePickupUnit (orgId workOrderId cpeDeviceId : Nat)
    (disposition : Disposition) :
    Keeps (unitDiscipline unitId) know
      (completePickupUnit orgId workOrderId cpeDeviceId disposition) (fun _ => Idle) Idle := by
  refine (keeps_links hknow (Client.within_asked _)).bind fun found know hknow => ?_
  refine (keeps_links hknow within_orThrow).bind fun contract know hknow => ?_
  refine (keeps_links hknow within_orThrow).bind fun contractId know hknow => ?_
  refine (keeps_lawful hknow fun facts hcalm =>
    commits_pickupLocked hcalm orgId contractId cpeDeviceId disposition).bind
      fun _ know hknow => ?_
  have hread : ∀ op : Stmt, op.Reads → op.Links := fun _ h => Or.inl h
  refine keeps_links hknow (within_bind (between_read hread (.outstanding _) trivial) fun _ =>
    within_bind ?_ fun _ => between_read hread (.unit false _ _) trivial)
  unfold completePickup
  split_ifs
  · exact within_proceeds
  · trivial

theorem keeps_swapDevice (oldDeviceId newDeviceId orgId : Nat) :
    Keeps (unitDiscipline unitId) know (swapDevice oldDeviceId newDeviceId orgId)
      (fun _ => Idle) Idle := by
  refine (keeps_lawful hknow fun facts hcalm => commits_swapLocked hcalm _ _ _).bind
    fun _ know hknow => ?_
  refine (keeps_readUnit hknow _ _).bind fun _ know hknow => ?_
  refine (keeps_readUnit hknow _ _).bind fun _ know hknow => ?_
  exact keeps_pure hknow

omit hknow in
theorem keeps_transitionLoose {cpeDeviceId : Nat} {toState : LifecycleState}
    (hloose : Loose unitId cpeDeviceId know) :
    Keeps (unitDiscipline unitId) know (transitionLifecycleState .pool cpeDeviceId toState)
      (fun _ => Idle) Idle := by
  have hread : ∀ know, Loose unitId cpeDeviceId know → ∃ learn, (unitDiscipline unitId).sent know .pool
      (.unit false cpeDeviceId .any) = some learn ∧ ∀ reply,
        Loose unitId cpeDeviceId (learn reply) := by
    rintro know ⟨rfl | ⟨item, rfl⟩, hitem⟩
    · exact ⟨_, rfl, fun _ => ⟨Or.inl rfl, nofun⟩⟩
    · refine ⟨_, rfl, fun reply => ⟨idle_found reply, fun item' h hunit => ?_⟩⟩
      have hnone := hitem item rfl hunit
      cases reply with
      | none =>
        rw [← hnone]
        exact congrArg Facts.item (Option.some.inj h).symm
      | some row =>
        obtain ⟨-, -, hkept⟩ := item_of_found h
        exact hkept none hnone
  have hwrite : ∀ know, Loose unitId cpeDeviceId know → ∃ learn, (unitDiscipline unitId).sent know .pool
      (.updateUnit cpeDeviceId (.state toState)) = some learn ∧ ∀ reply,
        Loose unitId cpeDeviceId (learn reply) := by
    rintro know ⟨rfl | ⟨item, rfl⟩, hitem⟩
    · exact ⟨_, rfl, fun _ => ⟨Or.inl rfl, nofun⟩⟩
    · refine ⟨fun _ => some (Facts.idle item), ?_, fun _ => ⟨Or.inr ⟨item, rfl⟩, hitem⟩⟩
      by_cases hunit : cpeDeviceId = unitId
      · subst hunit
        exact Facts.sent_update (Or.inl (hitem item rfl rfl))
      · exact Facts.sent_update_other hunit
  have hwithin : (transitionLifecycleState .pool cpeDeviceId toState).run.Within fun via op =>
      via = .pool ∧ (op = .unit false cpeDeviceId .any ∨
        op = .updateUnit cpeDeviceId (.state toState)) :=
    within_transitionLifecycleState ⟨rfl, Or.inl rfl⟩ ⟨rfl, Or.inr rfl⟩
  have hkeeps : Keeps (unitDiscipline unitId) know
      (transitionLifecycleState .pool cpeDeviceId toState)
      (fun _ => Loose unitId cpeDeviceId) (Loose unitId cpeDeviceId) := by
    refine Client.keeps_within_kept hwithin (fun know via op hkept hop => ?_)
      (fun know query hkept => ⟨_, rfl, fun _ => hkept⟩) hloose
    obtain ⟨rfl, rfl | rfl⟩ := hop
    · exact hread know hkept
    · exact hwrite know hkept
  exact hkeeps.mono (fun _ _ h => h.1) fun _ h => h.1

theorem keeps_transitionRoute (cpeDeviceId orgId : Nat) (toState : LifecycleState) :
    Keeps (unitDiscipline unitId) know (transitionRoute cpeDeviceId orgId toState)
      (fun _ => Idle) Idle := by
  have hread : ∀ op : Stmt, op.Reads → op.Links := fun _ h => Or.inl h
  by_cases hstate : toState = .inStock
  · subst hstate
    have hfirst : Keeps (unitDiscipline unitId) know
        (statement .pool (.unit false cpeDeviceId (.own orgId))) (fun found know => Idle know ∧
          ∀ row item, found = some row → know = some (Facts.idle item) →
            cpeDeviceId = unitId → item = some row.inventoryItemId) Idle := by
      rcases hknow with rfl | ⟨item, rfl⟩
      · exact (Client.keeps_statement unitDiscipline_silent rfl (Or.inl rfl)).mono
          (fun found know h => ⟨Or.inl h, fun _ _ _ hsome => by rw [h] at hsome; cases hsome⟩)
            fun _ h => h
      · refine (Client.keeps_statement unitDiscipline_silent rfl (Or.inr ⟨item, rfl⟩)).mono
          (fun found know h => ?_) fun _ h => h
        subst h
        refine ⟨idle_found found, fun row item' hrow h hunit => ?_⟩
        subst hrow
        obtain ⟨hid, hitem, -⟩ := item_of_found h
        exact hitem (hid.trans hunit)
    refine hfirst.bind fun found know hfound => ?_
    obtain ⟨hknow, hfound⟩ := hfound
    refine (Client.keeps_orThrow hknow).bind fun existing know' h => ?_
    obtain ⟨rfl, rfl⟩ := h
    refine (Client.keeps_refuseIf hknow).bind fun _ know h => ?_
    obtain ⟨rfl, hallowed⟩ := h
    refine keeps_transitionLoose ⟨hknow, fun item hsome hunit => ?_⟩
    rw [hfound existing item rfl hsome hunit]
    cases hitem : existing.inventoryItemId with
    | none => rfl
    | some itemId => exact absurd ⟨hitem ▸ rfl, Or.inr rfl⟩ hallowed
  · have hplain : Change.Plain (.state toState) :=
      ⟨fun h => hstate (of_decide_eq_true (Option.some.inj h)), nofun⟩
    exact keeps_links hknow (within_bind (between_read hread _ trivial) fun _ =>
      within_bind within_orThrow fun _ => within_bind within_refuseIf fun _ =>
        between_transitionLifecycleState hread _ (Or.inr ⟨_, _, rfl, hplain⟩))

theorem keeps_unit (call : Call) :
    Keeps (unitDiscipline unitId) know call.run (fun _ => Idle) Idle := by
  have hread : ∀ op : Stmt, op.Reads → op.Links := fun _ h => Or.inl h
  have hassign : ∀ id, Stmt.Links (.updateUnit id (.state .assigned)) :=
    fun id => Or.inr ⟨id, _, rfl, nofun, nofun⟩
  have hlink : ∀ id subscriberId, Stmt.Links (.updateUnit id (.subscriber subscriberId)) :=
    fun id _ => Or.inr ⟨id, _, rfl, nofun, nofun⟩
  have hanswered : ∀ {A : Type} {body : Body A},
      Keeps (unitDiscipline unitId) know body (fun _ => Idle) Idle →
        Keeps (unitDiscipline unitId) know (answered body) (fun _ => Idle) Idle :=
    fun hbody => hbody.bind fun _ know hknow => keeps_pure hknow
  cases call with
  | receive orgId poId request =>
    exact hanswered (keeps_receivePo unit_indifferent hread hknow (fun _ h => h) _ _ _)
  | register options =>
    exact hanswered (keeps_registerSerial unit_indifferent hread hknow (fun _ h _ => h) _)
  | install options => exact hanswered (keeps_installEquipment hknow options)
  | uninstall orgId cpeDeviceId => exact hanswered (keeps_uninstallEquipment hknow _ _)
  | pickup orgId workOrderId cpeDeviceId disposition =>
    exact hanswered (keeps_completePickupUnit hknow _ _ _ _)
  | swap oldDeviceId newDeviceId orgId => exact hanswered (keeps_swapDevice hknow _ _ _)
  | link cpeDeviceId subscriberId =>
    exact hanswered (keeps_links hknow (between_linkSubscriber hread hassign hlink _ _))
  | autoLink device => exact keeps_links hknow (between_tryAutoLinkSubscriber hread hassign hlink _)
  | transition cpeDeviceId orgId toState => exact hanswered (keeps_transitionRoute hknow _ _ _)
  | sell orgId lines =>
    exact unit_indifferent.keeps_inTransaction (inside_saleLocked (fun _ h _ => h) _ _) hknow

end Calls

end FireIsp.Inventory
