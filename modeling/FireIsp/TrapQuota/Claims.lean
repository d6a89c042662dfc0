import FireIsp.TrapQuota.Discipline

/-!
# Quotas are exact

While a transaction holds the rows of an organization, they are ahead of what is stored by what it
still owes; whoever commits owes nothing.
-/

namespace FireIsp.TrapQuota

open Txn

/-- The books of a transaction that holds the rows of an organization. -/
def Holds (limits : Limits) (organizationId traps deliveries : Nat) (tables : Tables) : Prop :=
  Owing limits organizationId traps deliveries tables ∧ Present organizationId tables

/-- A transaction sees what its call knows. -/
def Know.Fits (limits : Limits) (writes : List Write) (current : Db) : Know → Prop
  | .idle => False
  | .begun => writes = []
  | .held organizationId deliveries saved =>
    Holds limits organizationId 0 deliveries current.tables ∧
      ∀ kept, saved = some kept →
        ∃ tables, current.saved = some tables ∧ Holds limits organizationId 0 kept tables
  | .seen organizationId global organization =>
    Holds limits organizationId 0 0 current.tables ∧
      current.tables.row none = some global ∧
      current.tables.row (some organizationId) = some organization
  | .counted organizationId => Holds limits organizationId 1 0 current.tables

variable {limits : Limits} {organizationId traps deliveries : Nat} {tables : Tables}
  {writes : List Write} {current db db' : Db} {know know' : Know}

theorem tables_visible_opened (h : ∀ w ∈ writes, ∃ scope, w = .opened scope) (db : Db) :
    (engine.visible db writes).tables = db.tables.applyAll writes := by
  induction writes generalizing db with
  | nil => rfl
  | cons w writes ih =>
    obtain ⟨scope, rfl⟩ := h w List.mem_cons_self
    exact ih (fun w hw => h w (List.mem_cons_of_mem _ hw)) (db.apply (.opened scope))

theorem opened_of_mem_missing {w : Write} {scope : Option Nat} (h : w ∈ tables.missing scope) :
    ∃ scope, w = .opened scope := by
  unfold Tables.missing at h
  split_ifs at h
  · exact ⟨scope, List.mem_singleton.mp h⟩
  · exact absurd h List.not_mem_nil

theorem holds_inserted (h : Exact limits current.tables) (organizationId : Nat) (tick : Nat) :
    Holds limits organizationId 0 0
      (engine.visible current (exec tick current (.insertUsage organizationId)).2).tables := by
  have hopened : ∀ w ∈ (exec tick current (.insertUsage organizationId)).2,
      ∃ scope, w = .opened scope := fun w hw =>
    (List.mem_append.mp hw).elim opened_of_mem_missing opened_of_mem_missing
  rw [tables_visible_opened hopened]
  obtain ⟨hexact, hpresent⟩ := h.inserted organizationId
  exact ⟨hexact.owing organizationId, hpresent⟩

theorem Know.Fits.found (h : Know.Fits limits writes current (.held organizationId 0 none))
    (tick : Nat) : (Know.found organizationId
      (exec tick current (.selectUsage organizationId)).1).Fits limits writes current := by
  simp only [exec]
  cases hglobal : current.tables.row none with
  | none => exact h
  | some global =>
    cases horganization : current.tables.row (some organizationId) with
    | none => exact h
    | some organization => exact ⟨h.1, hglobal, horganization⟩

theorem Know.reads_iff {condition : Usage → Usage → Prop}
    [∀ global organization, Decidable (condition global organization)] :
    know.reads organizationId condition = true ↔
      ∃ global organization, know = .seen organizationId global organization ∧
        condition global organization := by
  constructor
  · intro h
    cases know with
    | seen id global organization =>
      obtain ⟨rfl, hcondition⟩ := of_decide_eq_true h
      exact ⟨global, organization, rfl, hcondition⟩
    | _ => cases h
  · rintro ⟨global, organization, rfl, hcondition⟩
    exact decide_eq_true ⟨rfl, hcondition⟩

theorem Know.Fits.created {learn : Option Nat → Know} {ruleId : Nat} {trapId : Option Nat}
    (h : know.Fits limits writes current) (hk : know.creating organizationId trapId = some learn)
    (tick : Nat) :
    (learn (exec tick current (.insertDelivery organizationId ruleId trapId)).1).Fits limits
      (writes ++ (exec tick current (.insertDelivery organizationId ruleId trapId)).2)
      (engine.visible current
        (exec tick current (.insertDelivery organizationId ruleId trapId)).2) := by
  unfold Know.creating at hk
  split at hk
  · rename_i id owed saved
    split_ifs at hk with hown
    obtain ⟨rfl, htrap⟩ := hown
    obtain rfl := Option.some.inj hk
    simp only [exec]
    cases current.tables.delivery id ruleId trapId with
    | some row => exact h
    | none => exact ⟨⟨h.1.1.delivery h.1.2 tick ruleId htrap, h.1.2⟩, h.2⟩
  · cases hk

theorem Know.Fits.sent {op : Stmt} {learn : op.Res → Know} (h : know.Fits limits writes current)
    (hk : know.sent limits op = some learn) (hbegun : know = .begun → Exact limits current.tables)
    (tick : Nat) :
    (learn (exec tick current op).1).Fits limits (writes ++ (exec tick current op).2)
      (engine.visible current (exec tick current op).2) := by
  cases op with
  | insertUsage organizationId =>
    obtain ⟨rfl, hlearn⟩ := Option.ite_none_right_eq_some.mp hk
    obtain rfl := Option.some.inj hlearn
    exact ⟨holds_inserted (hbegun rfl) organizationId tick, nofun⟩
  | selectUsage organizationId =>
    obtain ⟨rfl, hlearn⟩ := Option.ite_none_right_eq_some.mp hk
    obtain rfl := Option.some.inj hlearn
    change (Know.found _ _).Fits limits (writes ++ []) current
    rw [List.append_nil]
    exact h.found tick
  | countDropped organizationId =>
    obtain ⟨hreads, hlearn⟩ := Option.ite_none_right_eq_some.mp hk
    obtain rfl := Option.some.inj hlearn
    obtain ⟨global, organization, rfl, -⟩ := Know.reads_iff.mp hreads
    obtain ⟨⟨howing, hpresent⟩, -⟩ := h
    exact ⟨⟨howing.dropped hpresent, hpresent.update fun _ => rfl⟩, nofun⟩
  | countTrap organizationId storedBytes metadataOnly =>
    obtain ⟨hreads, hlearn⟩ := Option.ite_none_right_eq_some.mp hk
    obtain rfl := Option.some.inj hlearn
    obtain ⟨global, organization, rfl, hadmits⟩ := Know.reads_iff.mp hreads
    obtain ⟨⟨howing, hpresent⟩, hglobal, horganization⟩ := h
    exact ⟨howing.counted hpresent hglobal horganization hadmits metadataOnly,
      hpresent.update fun _ => rfl⟩
  | insertTrap organizationId =>
    obtain ⟨rfl, hlearn⟩ := Option.ite_none_right_eq_some.mp hk
    obtain rfl := Option.some.inj hlearn
    obtain ⟨howing, hpresent⟩ := h
    exact ⟨⟨howing.trap hpresent tick, hpresent⟩, nofun⟩
  | reserve organizationId allowed skipped =>
    obtain ⟨hreads, hlearn⟩ := Option.ite_none_right_eq_some.mp hk
    obtain rfl := Option.some.inj hlearn
    obtain ⟨global, organization, rfl, hleaves⟩ := Know.reads_iff.mp hreads
    obtain ⟨⟨howing, hpresent⟩, hglobal, horganization⟩ := h
    exact ⟨⟨howing.reserved hpresent hglobal horganization hleaves skipped,
      hpresent.update fun _ => rfl⟩, nofun⟩
  | savepoint =>
    obtain ⟨know', hsaving, rfl⟩ := Option.map_eq_some_iff.mp hk
    unfold Know.saving at hsaving
    split at hsaving
    · obtain rfl := Option.some.inj hsaving
      exact ⟨h.1, fun kept hkept => ⟨current.tables, rfl, Option.some.inj hkept ▸ h.1⟩⟩
    · cases hsaving
  | release =>
    obtain ⟨know', hreleasing, rfl⟩ := Option.map_eq_some_iff.mp hk
    unfold Know.releasing at hreleasing
    split at hreleasing
    · obtain rfl := Option.some.inj hreleasing
      exact ⟨h.1, nofun⟩
    · cases hreleasing
  | rollbackTo =>
    obtain ⟨know', hrestoring, rfl⟩ := Option.map_eq_some_iff.mp hk
    unfold Know.restoring at hrestoring
    split at hrestoring
    · obtain rfl := Option.some.inj hrestoring
      obtain ⟨tables, hsaved, hholds⟩ := h.2 _ rfl
      have hrestored : (engine.visible current [.restored]).tables = tables := by
        change current.saved.getD current.tables = tables
        rw [hsaved, Option.getD_some]
      refine ⟨?_, h.2⟩
      change Holds limits _ 0 _ (engine.visible current [.restored]).tables
      rw [hrestored]
      exact hholds
    · cases hrestoring
  | insertDelivery organizationId ruleId trapId => exact h.created hk tick
  | selectDelivery organizationId ruleId trapId =>
    obtain ⟨-, hlearn⟩ := Option.ite_none_right_eq_some.mp hk
    obtain rfl := Option.some.inj hlearn
    change know.Fits limits (writes ++ []) current
    rw [List.append_nil]
    exact h
  | refund organizationId count =>
    obtain ⟨rfl, hlearn⟩ := Option.ite_none_right_eq_some.mp hk
    obtain rfl := Option.some.inj hlearn
    obtain ⟨⟨howing, hpresent⟩, -⟩ := h
    exact ⟨⟨howing.refunded hpresent, hpresent.update fun _ => rfl⟩, nofun⟩

theorem holds_of_sent {op : Stmt} {learn : op.Res → Know} (hk : know.sent limits op = some learn) :
    know.holds = true ∨ none ∈ locks op := by
  cases op with
  | savepoint =>
    obtain ⟨know', hsaving, -⟩ := Option.map_eq_some_iff.mp hk
    cases know <;> first | exact Or.inl rfl | cases hsaving
  | release =>
    obtain ⟨know', hreleasing, -⟩ := Option.map_eq_some_iff.mp hk
    cases know <;> first | exact Or.inl rfl | cases hreleasing
  | rollbackTo =>
    obtain ⟨know', hrestoring, -⟩ := Option.map_eq_some_iff.mp hk
    cases know <;> first | exact Or.inl rfl | cases hrestoring
  | insertTrap organizationId =>
    obtain ⟨rfl, -⟩ := Option.ite_none_right_eq_some.mp hk
    exact Or.inl rfl
  | insertDelivery organizationId ruleId trapId =>
    cases know <;> first | exact Or.inl rfl | cases hk
  | selectDelivery organizationId ruleId trapId =>
    exact Or.inl (Option.ite_none_right_eq_some.mp hk).1
  | _ => exact Or.inr List.mem_cons_self

/-- What a call knows is true, and it holds the global row once it has written. -/
structure Sound (limits : Limits) (i : Nat) (db : Db) (held : List (Nat × Option Nat))
    (ghost : Ghost Db Write Know) : Prop where
  fits : ∀ tx know, ghost.tx = some tx → ghost.know = some know →
    know.Fits limits tx.writes (engine.visible db tx.writes)
  idle : ghost.tx = none → ∀ know, ghost.know = some know → know = .idle
  lock : ∀ know, ghost.know = some know → know.holds = true → (i, none) ∈ held

/-- The committed books are exact, and every call knows its own. -/
structure Inv (limits : Limits) (db : Db) (held : List (Nat × Option Nat))
    (ghosts : Nat → Ghost Db Write Know) : Prop where
  exclusive : Sys.Exclusive held
  exact : Exact limits db.tables
  sound : ∀ i, Sound limits i db held (ghosts i)

variable {i j : Nat} {held held' : List (Nat × Option Nat)} {ghost ghost' : Ghost Db Write Know}
  {ghosts : Nat → Ghost Db Write Know} {tx : Option (Tx Db Write)}

theorem Know.Fits.free (h : know.Fits limits writes current) (hholds : know.holds = false)
    (current' : Db) : know.Fits limits writes current' := by
  cases know <;> first | exact h | cases hholds

theorem Sound.moved (h : Sound limits i db held ghost) (hfree : (i, none) ∉ held) (db' : Db)
    (held' : List (Nat × Option Nat)) : Sound limits i db' held' ghost := by
  have hholds : ∀ know, ghost.know = some know → know.holds = false := fun know hknow =>
    Bool.eq_false_iff.mpr fun hholds => hfree (h.lock know hknow hholds)
  exact ⟨fun tx know htx hknow => (h.fits tx know htx hknow).free (hholds know hknow) _, h.idle,
    fun know hknow hheld => absurd hheld (by rw [hholds know hknow]; exact Bool.false_ne_true)⟩

theorem Sound.locks (h : Sound limits i db held ghost)
    (hheld : (i, none) ∈ held → (i, none) ∈ held') : Sound limits i db held' ghost :=
  ⟨h.fits, h.idle, fun know hknow hholds => hheld (h.lock know hknow hholds)⟩

theorem sound_cut : Sound limits i db held ⟨none, none⟩ := ⟨nofun, nofun, nofun⟩

theorem sound_idle : Sound limits i db held ⟨some .idle, none⟩ :=
  ⟨nofun, fun _ know hknow => (Option.some.inj hknow).symm, fun know hknow hholds => by
    obtain rfl := Option.some.inj hknow
    cases hholds⟩

theorem sound_begun : Sound limits i db held ⟨some .begun, some Tx.empty⟩ := by
  refine ⟨fun tx know htx hknow => ?_, nofun, fun know hknow hholds => ?_⟩
  · obtain rfl := Option.some.inj htx
    obtain rfl := Option.some.inj hknow
    rfl
  · obtain rfl := Option.some.inj hknow
    cases hholds

theorem Inv.quiet (h : Inv limits db held ghosts) (hexclusive : Sys.Exclusive held')
    (hother : ∀ j, j ≠ i → (j, none) ∈ held → (j, none) ∈ held')
    (hself : Sound limits i db held' ghost') :
    Inv limits db held' (Function.update ghosts i ghost') := by
  refine ⟨hexclusive, h.exact, fun j => ?_⟩
  by_cases hj : j = i
  · subst hj
    rw [Function.update_self]
    exact hself
  · rw [Function.update_of_ne hj]
    exact (h.sound j).locks (hother j hj)

theorem Know.Fits.settled (h : know.Fits limits writes current) (hsettled : know.settled = true) :
    Exact limits current.tables ∧ know.holds = true := by
  unfold Know.settled at hsettled
  split at hsettled
  · exact ⟨h.1.1.exact, rfl⟩
  · cases hsettled

theorem Inv.commit (h : Inv limits db held ghosts) (hsettled : know.settled = true)
    (hghost : ghosts i = ⟨some know, tx⟩) :
    Inv limits (engine.settled db tx) (Sys.releasedBy held i)
      (Function.update ghosts i ⟨some .idle, none⟩) := by
  have hself := h.sound i
  rw [hghost] at hself
  cases tx with
  | none =>
    obtain rfl := hself.idle rfl know rfl
    cases hsettled
  | some tx =>
    obtain ⟨hexact, hholds⟩ := (hself.fits tx know rfl rfl).settled hsettled
    have hlock := hself.lock know rfl hholds
    refine ⟨Sys.exclusive_releasedBy h.exclusive, hexact, fun j => ?_⟩
    by_cases hj : j = i
    · subst hj
      rw [Function.update_self]
      exact sound_idle
    · rw [Function.update_of_ne hj]
      have hfree : (j, none) ∉ held := fun hj' => hj (h.exclusive j i _ hj' hlock)
      exact (h.sound j).moved hfree _ _

theorem Inv.step {tick : Nat} (h : Inv limits db held ghosts)
    (hd : Disciplined engine (discipline limits) i tick db held (ghosts i) db' held' ghost') :
    Inv limits db' held' (Function.update ghosts i ghost') := by
  have hreleased : Sys.Exclusive (Sys.releasedBy held i) := Sys.exclusive_releasedBy h.exclusive
  have hother : ∀ j, j ≠ i → (j, none) ∈ held → (j, none) ∈ Sys.releasedBy held i :=
    fun j hj hheld => Sys.mem_releasedBy_other hj hheld
  have hself := h.sound i
  generalize hghost : ghosts i = ghost at hd hself
  cases hd with
  | idle => exact h.quiet h.exclusive (fun _ _ hheld => hheld) hself
  | abort => exact h.quiet hreleased hother sound_cut
  | start know know' tx hk =>
    obtain ⟨rfl, hlearn⟩ := Option.ite_none_right_eq_some.mp hk
    obtain rfl := Option.some.inj hlearn
    cases tx with
    | none => exact h.quiet hreleased hother sound_begun
    | some tx => exact (hself.fits tx .idle rfl rfl).elim
  | commit know know' tx hk =>
    obtain ⟨hsettled, hlearn⟩ := Option.ite_none_right_eq_some.mp hk
    obtain rfl := Option.some.inj hlearn
    exact h.commit hsettled hghost
  | rollback know know' tx hk =>
    obtain rfl := Option.some.inj hk
    exact h.quiet hreleased hother sound_idle
  | auto know via op learn tx hk hin hfree =>
    exfalso
    cases via with
    | pool => cases hk
    | conn =>
      cases tx with
      | some tx => cases hin
      | none =>
        obtain rfl := hself.idle rfl know rfl
        rcases holds_of_sent hk with hholds | hlock
        · cases hholds
        · cases op <;> cases hk
  | within know op learn tx hk hfree =>
    have hfits : know.Fits limits tx.writes (engine.visible db tx.writes) :=
      hself.fits tx know rfl rfl
    have hbegun : know = .begun → Exact limits (engine.visible db tx.writes).tables := by
      rintro rfl
      have hwrites : tx.writes = [] := hfits
      rw [hwrites]
      exact h.exact
    have hnext := hfits.sent hk hbegun tick
    refine h.quiet (Sys.exclusive_locked h.exclusive hfree)
      (fun _ _ hheld => List.mem_append_left _ hheld)
      ⟨fun tx' know' htx hknow => ?_, nofun, fun know' hknow hholds => ?_⟩
    · obtain rfl := Option.some.inj htx
      obtain rfl := Option.some.inj hknow
      rw [Engine.visible_append]
      exact hnext
    · rcases holds_of_sent hk with hself' | hlock
      · exact List.mem_append_left _ (hself.lock know rfl hself')
      · exact List.mem_append_right _ (List.mem_map.mpr ⟨none, hlock, rfl⟩)
  | call know query learn tx hk answer =>
    obtain rfl := Option.some.inj hk
    exact h.quiet h.exclusive (fun _ _ hheld => hheld) hself

/-- A trap that arrives. -/
structure Arrival where
  organizationId : Nat
  varbindBytes : Nat

/-- Traps arrive at the beginning of the day. -/
structure Dawn (limits : Limits) (arrivals : Nat → Arrival) (s : System) : Prop where
  usage : s.db.tables.usage = []
  traps : s.db.tables.traps = []
  deliveries : ∀ row ∈ s.db.tables.deliveries, row.trapId = none
  held : s.held = []
  sessions : ∀ i, s.sessions i = ⟨some (persistAndDispatch limits (arrivals i).organizationId
    (arrivals i).varbindBytes).run, none⟩

theorem Dawn.exact {arrivals : Nat → Arrival} {s : System} (h : Dawn limits arrivals s) :
    Exact limits s.db.tables := by
  have hreal : ∀ scope, s.db.tables.realOf scope = 0 := fun scope => by
    refine List.length_eq_zero_iff.mpr (List.filter_eq_nil_iff.mpr fun row hrow => ?_)
    rw [h.deliveries row hrow]
    exact Bool.false_ne_true
  have htraps : ∀ scope, s.db.tables.trapsOf scope = 0 := fun scope => by
    rw [Tables.trapsOf, h.traps]
    rfl
  have hempty : ∀ row, row ∉ s.db.tables.usage := fun row hrow => by
    rw [h.usage] at hrow
    exact List.not_mem_nil hrow
  refine ⟨?_, fun row hrow => (hempty row hrow).elim, fun row hrow => (hempty row hrow).elim,
    fun row hrow => (hempty row hrow).elim, fun row hrow => (hempty row hrow).elim,
    fun scope _ => ⟨htraps scope, hreal scope⟩, fun _ => h.usage⟩
  rw [h.usage]
  exact List.nodup_nil

/-- However traps interleave, the day's counters are exact and within their limits. -/
theorem quotas_exact {arrivals : Nat → Arrival} {s : System} (h : Dawn limits arrivals s)
    (labels : List (Label Query.Answer)) :
    let tables := (Transition.run (Sys.step engine) s labels).db.tables
    (∀ row ∈ tables.usage, row.trapCount = tables.trapsOf row.scope ∧
      row.deliveryCount = tables.realOf row.scope ∧ row.Within limits) ∧
    (∀ row ∈ tables.usage, row.scope = none → ∀ column,
      (row.get column : Int) = orgTotal column tables.usage) ∧
    ∀ scope, tables.row scope = none → tables.trapsOf scope = 0 ∧ tables.realOf scope = 0 := by
  intro tables
  have hkept : s.Kept (discipline limits) fun _ db held ghosts => Inv limits db held ghosts := by
    refine ⟨fun _ => ⟨some .idle, none⟩, ⟨?_, h.exact, fun i => sound_idle⟩, fun i => ?_⟩
    · rw [h.held]
      exact fun i j k hi => absurd hi List.not_mem_nil
    · rw [h.sessions i]
      refine ⟨rfl, fun p hp => ⟨.idle, rfl, ?_⟩⟩
      obtain rfl := Option.some.inj hp
      exact Prog.Follows.mono (keeps_persistAndDispatch _) fun _ _ _ => trivial
  obtain ⟨ghosts, hinv, -⟩ := Sys.run_kept (fun i tick db held ghosts db' held' ghost' hinv hd =>
    Inv.step hinv hd) hkept labels
  have hexact : Exact limits tables := hinv.exact
  refine ⟨fun row hrow => ⟨?_, ?_, hexact.within row hrow⟩, hexact.sums, fun scope hscope =>
    hexact.covered scope (row_eq_none.mp hscope)⟩
  · rw [hexact.traps row hrow, ite_self, Nat.add_zero]
  · rw [hexact.deliveries row hrow, ite_self, Nat.add_zero]

/-- Two deliveries a day. -/
def sampleLimits : Limits := ⟨2, 3, 100, 150, 2, 2⟩

/-- Traps of two organizations. -/
def sampleArrivals (i : Nat) : Arrival := ⟨i % 2 + 1, 60⟩

/-- The calls before they start. -/
def sampleSystem : System where
  db := ⟨⟨[], [], []⟩, none⟩
  tick := 0
  held := []
  sessions := fun i => ⟨some (persistAndDispatch sampleLimits (sampleArrivals i).organizationId
    (sampleArrivals i).varbindBytes).run, none⟩
  calls := []

/-- Two rules match, and the delivery of the first one cannot be inserted. -/
def sampleWorld : (query : Query) → query.Answer
  | .raises op => match op with
    | .insertDelivery _ ruleId _ => decide (ruleId = 1)
    | _ => false
  | .fails _ => false
  | .attributed => some true
  | .ownerActive _ => some true
  | .matching _ => some [1, 2]
  | .resolves _ => .found
  | .otherwise => ()

theorem sampleSystem_dawn : Dawn sampleLimits sampleArrivals sampleSystem :=
  ⟨rfl, rfl, nofun, rfl, fun _ => rfl⟩

/-- The delivery that fails is returned, and the second trap has room for one that fails again. -/
theorem quotas_exact_sample :
    let labels := [.step 0 sampleWorld, .step 0 sampleWorld] ++
      (List.replicate 80 [.step 0 sampleWorld, .step 1 sampleWorld]).flatten
    let tables := (Transition.run (Sys.step engine) sampleSystem labels).db.tables
    (tables.row none).map Usage.trapCount = some 2 ∧ tables.deliveries.length = 1 ∧
    (∀ row ∈ tables.usage, row.trapCount = tables.trapsOf row.scope ∧
      row.deliveryCount = tables.realOf row.scope ∧ row.Within sampleLimits) ∧
    (∀ row ∈ tables.usage, row.scope = none → ∀ column,
      (row.get column : Int) = orgTotal column tables.usage) ∧
    ∀ scope, tables.row scope = none → tables.trapsOf scope = 0 ∧ tables.realOf scope = 0 :=
  ⟨by decide +kernel, by decide +kernel, quotas_exact sampleSystem_dawn _⟩

end FireIsp.TrapQuota
