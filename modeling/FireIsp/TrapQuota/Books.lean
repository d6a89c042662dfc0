import FireIsp.Base.Table
import FireIsp.TrapQuota.Ingest

/-!
# Books of the quota

The usage rows agree with what is stored, keep within their limits, and the global row is the sum of
the others.  Inside a transaction they may be ahead of what is stored by what it still owes.
-/

namespace FireIsp.TrapQuota

/-- Counters of a usage row. -/
inductive Column
  | traps
  | bytes
  | deliveries
  | metadataOnly
  | dropped
  | skipped
  deriving DecidableEq

def Usage.get (row : Usage) : Column → Nat
  | .traps => row.trapCount
  | .bytes => row.varbindBytes
  | .deliveries => row.deliveryCount
  | .metadataOnly => row.metadataOnlyCount
  | .dropped => row.droppedTrapCount
  | .skipped => row.forwardingSkippedCount

def Tables.trapsOf (tables : Tables) (scope : Option Nat) : Nat :=
  (tables.traps.filter fun row => scope.all fun id => decide (row.organizationId = id)).length

/-- Forwarding rows created for traps, of an organization or all. -/
def Tables.realOf (tables : Tables) (scope : Option Nat) : Nat :=
  (tables.deliveries.filter fun row =>
    row.trapId.isSome && scope.all fun id => decide (row.organizationId = id)).length

/-- Sum of a counter over the organizations. -/
def orgTotal (column : Column) (rows : List Usage) : Int :=
  Table.total (fun row => if row.scope = none then 0 else (row.get column : Int)) rows

def Usage.Within (limits : Limits) (row : Usage) : Prop :=
  match row.scope with
  | none => row.trapCount ≤ limits.globalTraps ∧ row.varbindBytes ≤ limits.globalBytes ∧
      row.deliveryCount ≤ limits.globalDeliveries
  | some _ => row.trapCount ≤ limits.orgTraps ∧ row.varbindBytes ≤ limits.orgBytes ∧
      row.deliveryCount ≤ limits.orgDeliveries

/-- The rows of an organization and the global one are ahead by what a transaction owes. -/
structure Owing (limits : Limits) (organizationId traps deliveries : Nat) (tables : Tables) :
    Prop where
  keyed : Table.Keyed Usage.scope tables.usage
  traps : ∀ row ∈ tables.usage, row.trapCount =
    tables.trapsOf row.scope + if row.isOf organizationId then traps else 0
  deliveries : ∀ row ∈ tables.usage, row.deliveryCount =
    tables.realOf row.scope + if row.isOf organizationId then deliveries else 0
  within : ∀ row ∈ tables.usage, row.Within limits
  sums : ∀ row ∈ tables.usage, row.scope = none → ∀ column,
    (row.get column : Int) = orgTotal column tables.usage
  covered : ∀ scope, scope ∉ tables.usage.map Usage.scope →
    tables.trapsOf scope = 0 ∧ tables.realOf scope = 0
  first : none ∉ tables.usage.map Usage.scope → tables.usage = []

/-- The rows are exact. -/
def Exact (limits : Limits) (tables : Tables) : Prop := Owing limits 0 0 0 tables

variable {limits : Limits} {organizationId traps deliveries : Nat} {tables : Tables}

theorem Owing.exact (h : Owing limits organizationId 0 0 tables) : Exact limits tables := by
  refine ⟨h.keyed, fun row hrow => ?_, fun row hrow => ?_, h.within, h.sums, h.covered, h.first⟩
  · rw [h.traps row hrow, ite_self, ite_self]
  · rw [h.deliveries row hrow, ite_self, ite_self]

theorem Exact.owing (h : Exact limits tables) (organizationId : Nat) :
    Owing limits organizationId 0 0 tables := by
  refine ⟨h.keyed, fun row hrow => ?_, fun row hrow => ?_, h.within, h.sums, h.covered, h.first⟩
  · rw [h.traps row hrow, ite_self, ite_self]
  · rw [h.deliveries row hrow, ite_self, ite_self]

/-- The rows of an organization are there. -/
def Present (organizationId : Nat) (tables : Tables) : Prop :=
  none ∈ tables.usage.map Usage.scope ∧ some organizationId ∈ tables.usage.map Usage.scope

variable {change : Usage → Usage}

theorem orgTotal_update {column : Column} {delta : Int}
    (hkeyed : Table.Keyed Usage.scope tables.usage) (hpresent : Present organizationId tables)
    (hscope : ∀ row, (change row).scope = row.scope)
    (hdelta : ∀ row ∈ tables.usage, row.isOf organizationId = true →
      ((change row).get column : Int) = row.get column + delta) :
    orgTotal column (tables.update organizationId change).usage =
      orgTotal column tables.usage + delta := by
  obtain ⟨row, hrow, hkey⟩ := List.mem_map.mp hpresent.2
  have hmap : orgTotal column (tables.update organizationId change).usage =
      Table.total (fun row => if row.scope = none then 0 else
        ((if row.isOf organizationId then change row else row).get column : Int)) tables.usage := by
    unfold orgTotal Table.total Tables.update
    rw [List.map_map]
    refine congrArg List.sum (List.map_congr_left fun row hrow => ?_)
    simp only [Function.comp_apply]
    split_ifs <;> simp_all
  rw [hmap]
  refine Table.total_shift hkeyed hrow ?_ fun other hother hne => ?_
  · have hisOf : row.isOf organizationId = true := decide_eq_true (Or.inr hkey)
    simp only [hkey, hisOf, reduceCtorEq, if_false, if_true]
    exact hdelta row hrow hisOf
  · by_cases hnone : other.scope = none
    · simp only [hnone, if_true]
    · have hisOf : other.isOf organizationId = false :=
        decide_eq_false fun h => h.elim hnone fun h => hne (h.trans hkey.symm)
      simp only [hnone, hisOf, Bool.false_eq_true, if_false]

theorem scopes_update (hscope : ∀ row, (change row).scope = row.scope) :
    (tables.update organizationId change).usage.map Usage.scope =
      tables.usage.map Usage.scope := by
  unfold Tables.update
  rw [List.map_map]
  refine List.map_congr_left fun row _ => ?_
  simp only [Function.comp_apply]
  split_ifs
  · exact hscope row
  · rfl

variable {row : Usage}

theorem Usage.isOf_congr {row' : Usage} (h : row.scope = row'.scope) (organizationId : Nat) :
    row.isOf organizationId = row'.isOf organizationId := by
  unfold Usage.isOf
  rw [h]

theorem mem_update (hrow : row ∈ (tables.update organizationId change).usage) :
    ∃ old ∈ tables.usage, row = if old.isOf organizationId then change old else old := by
  obtain ⟨old, hold, rfl⟩ := List.mem_map.mp hrow
  exact ⟨old, hold, rfl⟩

/-- Both rows of an organization change in the same way. -/
structure Shifts (limits : Limits) (change : Usage → Usage) (row : Usage)
    (traps traps' deliveries deliveries' : Nat) (delta : Column → Int) : Prop where
  traps : (change row).trapCount + traps = row.trapCount + traps'
  deliveries : (change row).deliveryCount + deliveries = row.deliveryCount + deliveries'
  within : (change row).Within limits
  delta : ∀ column, ((change row).get column : Int) = row.get column + delta column

/-- A count that is ahead by what is owed stays so when rows of the organization are changed. -/
theorem owed_update {count : Usage → Nat} {actual : Option Nat → Nat} {owed owed' : Nat}
    (hcount : ∀ row ∈ tables.usage,
      count row = actual row.scope + if row.isOf organizationId then owed else 0)
    (hscope : ∀ row, (change row).scope = row.scope)
    (hshift : ∀ row ∈ tables.usage, row.isOf organizationId = true →
      count (change row) + owed = count row + owed') :
    ∀ row ∈ (tables.update organizationId change).usage,
      count row = actual row.scope + if row.isOf organizationId then owed' else 0 := by
  intro row hrow
  obtain ⟨old, hold, rfl⟩ := mem_update hrow
  have hbefore := hcount old hold
  by_cases hisOf : old.isOf organizationId = true
  · have hafter := hshift old hold hisOf
    simp only [hisOf, if_true, hscope, Usage.isOf_congr (hscope old)] at hbefore ⊢
    omega
  · simp only [hisOf, Bool.false_eq_true, if_false] at hbefore ⊢
    exact hbefore

theorem Owing.update {traps' deliveries' : Nat}
    (h : Owing limits organizationId traps deliveries tables) (delta : Column → Int)
    (hpresent : Present organizationId tables) (hscope : ∀ row, (change row).scope = row.scope)
    (hshifts : ∀ row ∈ tables.usage, row.isOf organizationId = true →
      Shifts limits change row traps traps' deliveries deliveries' delta) :
    Owing limits organizationId traps' deliveries' (tables.update organizationId change) := by
  have hscopes : (tables.update organizationId change).usage.map Usage.scope =
      tables.usage.map Usage.scope := scopes_update hscope
  have htotal : ∀ column, orgTotal column (tables.update organizationId change).usage =
      orgTotal column tables.usage + delta column := fun column =>
    orgTotal_update h.keyed hpresent hscope fun row hrow hisOf =>
      (hshifts row hrow hisOf).delta column
  refine ⟨by rw [Table.Keyed, hscopes]; exact h.keyed,
    owed_update h.traps hscope fun row hrow hisOf => (hshifts row hrow hisOf).traps,
    owed_update h.deliveries hscope fun row hrow hisOf => (hshifts row hrow hisOf).deliveries,
    fun row hrow => ?_, fun row hrow hnone column => ?_, by rw [hscopes]; exact h.covered,
    fun hfirst => ?_⟩
  · obtain ⟨old, hold, rfl⟩ := mem_update hrow
    by_cases hisOf : old.isOf organizationId = true
    · rw [if_pos hisOf]
      exact (hshifts old hold hisOf).within
    · rw [if_neg hisOf]
      exact h.within old hold
  · obtain ⟨old, hold, rfl⟩ := mem_update hrow
    have hold' : old.scope = none := by
      split_ifs at hnone with hisOf
      · exact (hscope old).symm.trans hnone
      · exact hnone
    have hisOf : old.isOf organizationId = true := decide_eq_true (Or.inl hold')
    rw [if_pos hisOf, htotal, (hshifts old hold hisOf).delta, h.sums old hold hold']
  · rw [hscopes] at hfirst
    exact absurd hpresent.1 hfirst

theorem Present.update (h : Present organizationId tables)
    (hscope : ∀ row, (change row).scope = row.scope) :
    Present organizationId (tables.update organizationId change) := by
  unfold Present
  rw [scopes_update hscope]
  exact h

/-- The varbinds fit, or there are none to store. -/
def Admits (limits : Limits) (bytes : Nat) (global organization : Usage) : Prop :=
  organization.trapCount < limits.orgTraps ∧ global.trapCount < limits.globalTraps ∧
    (bytes = 0 ∨ organization.varbindBytes + bytes ≤ limits.orgBytes ∧
      global.varbindBytes + bytes ≤ limits.globalBytes)

/-- The locked rows have room for the deliveries. -/
def Leaves (limits : Limits) (allowed : Nat) (global organization : Usage) : Prop :=
  allowed ≤ limits.orgDeliveries - organization.deliveryCount ∧
    allowed ≤ limits.globalDeliveries - global.deliveryCount

instance (bytes : Nat) (global organization : Usage) :
    Decidable (Admits limits bytes global organization) := inferInstanceAs (Decidable (_ ∧ _ ∧ _))

instance (allowed : Nat) (global organization : Usage) :
    Decidable (Leaves limits allowed global organization) := inferInstanceAs (Decidable (_ ∧ _))

variable {global organization : Usage}

theorem Owing.eq_found (h : Owing limits organizationId traps deliveries tables)
    (hglobal : tables.row none = some global)
    (horganization : tables.row (some organizationId) = some organization)
    (hrow : row ∈ tables.usage) (hisOf : row.isOf organizationId = true) :
    row = global ∧ row.scope = none ∨ row = organization ∧ row.scope = some organizationId := by
  have hfound : tables.row row.scope = some row :=
    Table.find?_eq_some h.keyed hrow (decide_eq_true rfl) fun x _ hx => of_decide_eq_true hx
  rcases of_decide_eq_true hisOf with hscope | hscope
  · rw [hscope, hglobal] at hfound
    exact Or.inl ⟨(Option.some.inj hfound).symm, hscope⟩
  · rw [hscope, horganization] at hfound
    exact Or.inr ⟨(Option.some.inj hfound).symm, hscope⟩

theorem Owing.dropped (h : Owing limits organizationId traps deliveries tables)
    (hpresent : Present organizationId tables) :
    Owing limits organizationId traps deliveries (tables.apply (.dropped organizationId)) :=
  h.update (fun column => if column = .dropped then 1 else 0) hpresent (fun _ => rfl)
    fun row hrow _ => ⟨rfl, rfl, h.within row hrow, fun column => by
      cases column <;> simp [Usage.get]⟩

theorem Owing.counted (h : Owing limits organizationId traps deliveries tables)
    (hpresent : Present organizationId tables) (hglobal : tables.row none = some global)
    (horganization : tables.row (some organizationId) = some organization) {bytes : Nat}
    (hadmits : Admits limits bytes global organization) (metadataOnly : Nat) :
    Owing limits organizationId (traps + 1) deliveries
      (tables.apply (.counted organizationId bytes metadataOnly)) := by
  obtain ⟨horgTraps, hglobalTraps, hbytes⟩ := hadmits
  refine h.update (fun column => match column with
    | .traps => 1
    | .bytes => bytes
    | .metadataOnly => metadataOnly
    | _ => 0) hpresent (fun _ => rfl) fun row hrow hisOf => ?_
  refine ⟨by change row.trapCount + 1 + traps = _; omega, rfl, ?_, fun column => ?_⟩
  · have hwithin := h.within row hrow
    rcases h.eq_found hglobal horganization hrow hisOf with ⟨rfl, hscope⟩ | ⟨rfl, hscope⟩ <;>
      simp only [Usage.Within, hscope] at hwithin ⊢ <;> omega
  · cases column <;> simp [Usage.get]

theorem Owing.reserved (h : Owing limits organizationId traps 0 tables)
    (hpresent : Present organizationId tables) (hglobal : tables.row none = some global)
    (horganization : tables.row (some organizationId) = some organization) {allowed : Nat}
    (hleaves : Leaves limits allowed global organization) (skipped : Nat) :
    Owing limits organizationId traps allowed
      (tables.apply (.reserved organizationId allowed skipped)) := by
  obtain ⟨horg, hall⟩ := hleaves
  refine h.update (fun column => match column with
    | .deliveries => allowed
    | .skipped => skipped
    | _ => 0) hpresent (fun _ => rfl) fun row hrow hisOf => ?_
  refine ⟨rfl, by change row.deliveryCount + allowed + 0 = _; omega, ?_, fun column => ?_⟩
  · have hwithin := h.within row hrow
    rcases h.eq_found hglobal horganization hrow hisOf with ⟨rfl, hscope⟩ | ⟨rfl, hscope⟩ <;>
      simp only [Usage.Within, hscope] at hwithin ⊢ <;> omega
  · cases column <;> simp [Usage.get]

theorem Owing.refunded (h : Owing limits organizationId traps deliveries tables)
    (hpresent : Present organizationId tables) :
    Owing limits organizationId traps 0 (tables.apply (.refunded organizationId deliveries)) := by
  have hle : ∀ row ∈ tables.usage, row.isOf organizationId = true →
      deliveries ≤ row.deliveryCount := fun row hrow hisOf => by
    have hcount := h.deliveries row hrow
    rw [if_pos hisOf] at hcount
    omega
  refine h.update (fun column => if column = .deliveries then -(deliveries : Int) else 0)
    hpresent (fun _ => rfl) fun row hrow hisOf => ?_
  have hle := hle row hrow hisOf
  refine ⟨rfl, by change row.deliveryCount - deliveries + deliveries = _; omega, ?_,
    fun column => ?_⟩
  · have hwithin := h.within row hrow
    cases hscope : row.scope <;> simp only [Usage.Within, hscope] at hwithin ⊢ <;> omega
  · cases column with
    | deliveries =>
      simp only [Usage.get, if_true]
      omega
    | _ => simp [Usage.get]

theorem isOf_iff_all :
    row.isOf organizationId = row.scope.all fun id => decide (organizationId = id) := by
  unfold Usage.isOf
  cases row.scope with
  | none => rfl
  | some id => simp [eq_comm]

theorem Owing.trap (h : Owing limits organizationId (traps + 1) deliveries tables)
    (hpresent : Present organizationId tables) (id : Nat) :
    Owing limits organizationId traps deliveries (tables.apply (.trap ⟨id, organizationId⟩)) := by
  have htraps : ∀ scope, (tables.apply (.trap ⟨id, organizationId⟩)).trapsOf scope =
      tables.trapsOf scope + if scope.all fun id => decide (organizationId = id) then 1 else 0 := by
    intro scope
    simp only [Tables.trapsOf, Tables.apply, List.filter_append, List.length_append,
      List.filter_cons, List.filter_nil]
    split_ifs <;> rfl
  refine ⟨h.keyed, fun row hrow => ?_, h.deliveries, h.within, h.sums, fun scope hscope => ?_,
    h.first⟩
  · have hcount := h.traps row hrow
    rw [htraps, isOf_iff_all] at *
    split_ifs at hcount ⊢ <;> omega
  · obtain ⟨hzero, hreal⟩ := h.covered scope hscope
    refine ⟨?_, hreal⟩
    rw [htraps, hzero]
    cases scope with
    | none => exact absurd hpresent.1 hscope
    | some other =>
      have hne : organizationId ≠ other := by
        rintro rfl
        exact hscope hpresent.2
      simp [hne]

theorem Owing.delivery (h : Owing limits organizationId traps (deliveries + 1) tables)
    (hpresent : Present organizationId tables) (id ruleId : Nat) {trapId : Option Nat}
    (htrap : trapId.isSome = true) :
    Owing limits organizationId traps deliveries
      (tables.apply (.delivery ⟨id, organizationId, ruleId, trapId⟩)) := by
  have hreal : ∀ scope,
      (tables.apply (.delivery ⟨id, organizationId, ruleId, trapId⟩)).realOf scope =
        tables.realOf scope +
          if scope.all fun id => decide (organizationId = id) then 1 else 0 := by
    intro scope
    simp only [Tables.realOf, Tables.apply, List.filter_append, List.length_append,
      List.filter_cons, List.filter_nil, htrap, Bool.true_and]
    split_ifs <;> rfl
  refine ⟨h.keyed, h.traps, fun row hrow => ?_, h.within, h.sums, fun scope hscope => ?_, h.first⟩
  · have hcount := h.deliveries row hrow
    rw [hreal, isOf_iff_all] at *
    split_ifs at hcount ⊢ <;> omega
  · obtain ⟨htraps, hzero⟩ := h.covered scope hscope
    refine ⟨htraps, ?_⟩
    rw [hreal, hzero]
    cases scope with
    | none => exact absurd hpresent.1 hscope
    | some other =>
      have hne : organizationId ≠ other := by
        rintro rfl
        exact hscope hpresent.2
      simp [hne]

theorem scopes_opened (scope : Option Nat) :
    (tables.apply (.opened scope)).usage.map Usage.scope =
      tables.usage.map Usage.scope ++ [scope] := by
  simp [Tables.apply]

theorem Exact.opened (h : Exact limits tables) {scope : Option Nat}
    (hmissing : scope ∉ tables.usage.map Usage.scope)
    (hglobal : scope = none ∨ none ∈ tables.usage.map Usage.scope) :
    Exact limits (tables.apply (.opened scope)) := by
  have hmem : ∀ {row}, row ∈ (tables.apply (.opened scope)).usage →
      row ∈ tables.usage ∨ row = ⟨scope, 0, 0, 0, 0, 0, 0⟩ := fun hrow => by
    simpa [Tables.apply] using hrow
  have htotal : ∀ column, orgTotal column (tables.apply (.opened scope)).usage =
      orgTotal column tables.usage := fun column => by
    have hnew : (if scope = none then 0 else
        ((⟨scope, 0, 0, 0, 0, 0, 0⟩ : Usage).get column : Int)) = 0 := by
      cases column <;> simp [Usage.get]
    simp [orgTotal, Table.total, Tables.apply, hnew]
  obtain ⟨hzeroTraps, hzeroReal⟩ := h.covered scope hmissing
  refine ⟨?_, fun row hrow => ?_, fun row hrow => ?_, fun row hrow => ?_,
    fun row hrow hnone column => ?_, fun other hother => ?_, fun hfirst => ?_⟩
  · rw [Table.Keyed, scopes_opened]
    exact List.Nodup.append h.keyed (List.nodup_singleton scope)
      fun x hx hx' => hmissing (List.mem_singleton.mp hx' ▸ hx)
  · rcases hmem hrow with hrow | rfl
    · exact h.traps row hrow
    · rw [ite_self]
      exact hzeroTraps.symm
  · rcases hmem hrow with hrow | rfl
    · exact h.deliveries row hrow
    · rw [ite_self]
      exact hzeroReal.symm
  · rcases hmem hrow with hrow | rfl
    · exact h.within row hrow
    · cases scope <;> simp [Usage.Within]
  · rw [htotal]
    rcases hmem hrow with hrow | rfl
    · exact h.sums row hrow hnone column
    · subst hnone
      rw [h.first hmissing]
      cases column <;> rfl
  · rw [scopes_opened, List.mem_append, not_or] at hother
    exact h.covered other hother.1
  · rw [scopes_opened, List.mem_append, List.mem_singleton, not_or] at hfirst
    rcases hglobal with rfl | hglobal
    · exact absurd rfl hfirst.2
    · exact absurd hglobal hfirst.1

theorem row_eq_none {scope : Option Nat} :
    tables.row scope = none ↔ scope ∉ tables.usage.map Usage.scope := by
  simp only [Tables.row, List.find?_eq_none, decide_eq_true_eq, List.mem_map, not_exists, not_and]

/-- The tables after several changes. -/
def Tables.applyAll (tables : Tables) (writes : List Write) : Tables :=
  writes.foldl Tables.apply tables

theorem Exact.missing (h : Exact limits tables) (scope : Option Nat)
    (hglobal : scope = none ∨ none ∈ tables.usage.map Usage.scope) :
    Exact limits (tables.applyAll (tables.missing scope)) ∧
      ∀ other, other ∈ (tables.applyAll (tables.missing scope)).usage.map Usage.scope ↔
        other ∈ tables.usage.map Usage.scope ∨ other = scope := by
  unfold Tables.missing
  split_ifs with hnone
  · refine ⟨h.opened (row_eq_none.mp hnone) hglobal, fun other => ?_⟩
    change other ∈ (tables.apply (.opened scope)).usage.map Usage.scope ↔ _
    rw [scopes_opened, List.mem_append, List.mem_singleton]
  · have hthere : scope ∈ tables.usage.map Usage.scope :=
      not_not.mp fun hmissing => hnone (row_eq_none.mpr hmissing)
    refine ⟨h, fun other => ⟨Or.inl, fun hother => ?_⟩⟩
    rcases hother with hother | rfl
    · exact hother
    · exact hthere

theorem missing_after_global (id : Nat) :
    (tables.applyAll (tables.missing none)).missing (some id) = tables.missing (some id) := by
  have hrow : (tables.applyAll (tables.missing none)).row (some id) = tables.row (some id) := by
    unfold Tables.missing
    split_ifs with hnone
    · simp [Tables.applyAll, Tables.apply, Tables.row, List.find?_append]
    · rfl
  change (if (tables.applyAll (tables.missing none)).row (some id) = none then _ else _) = _
  rw [hrow]
  rfl

theorem Exact.inserted (h : Exact limits tables) (id : Nat) :
    Exact limits (tables.applyAll (tables.missing none ++ tables.missing (some id))) ∧
      Present id (tables.applyAll (tables.missing none ++ tables.missing (some id))) := by
  obtain ⟨hexact, hscopes⟩ := h.missing none (Or.inl rfl)
  have hglobal : none ∈ (tables.applyAll (tables.missing none)).usage.map Usage.scope :=
    (hscopes none).mpr (Or.inr rfl)
  obtain ⟨hexact', hscopes'⟩ := hexact.missing (some id) (Or.inr hglobal)
  rw [missing_after_global] at hexact' hscopes'
  have hall : tables.applyAll (tables.missing none ++ tables.missing (some id)) =
      (tables.applyAll (tables.missing none)).applyAll (tables.missing (some id)) :=
    List.foldl_append
  rw [hall]
  exact ⟨hexact', (hscopes' none).mpr (Or.inl hglobal), (hscopes' (some id)).mpr (Or.inr rfl)⟩

end FireIsp.TrapQuota
