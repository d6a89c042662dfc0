import FireIsp.Inventory.Handling
import FireIsp.Inventory.Standing

/-!
# Stock is restored only if it was taken

Whatever is interleaved, every step takes a unit from one standing to the next, so the stock of a
unit is restored no more often than it was taken.
-/

namespace FireIsp.Inventory

open Txn

variable {unitId i j tick : Nat} {db db' : Db} {held held' : List (Nat × Key)} {facts facts' : Facts}
  {tx : Tx Db Write} {ghosts : Nat → Ghost Db Write Know} {ghost ghost' : Ghost Db Write Know}

theorem untracked_mono (h : unitRows.Older db db') (huntracked : untracked (db.device unitId) = true) :
    untracked (db'.device unitId) = true := by
  unfold untracked at huntracked ⊢
  cases hrow : db.device unitId with
  | none =>
    rw [hrow] at huntracked
    cases huntracked
  | some row =>
    rw [hrow] at huntracked
    obtain ⟨row', hrow', hsame⟩ := h unitId row hrow
    rw [show db'.device unitId = some row' from hrow', hsame]
    exact huntracked

theorem tracked_of_grown (h : unitRows.Older db db') (htracked : (!untracked (db'.device unitId)) = true) :
    (!untracked (db.device unitId)) = true := by
  cases huntracked : untracked (db.device unitId) with
  | false => rfl
  | true =>
    rw [untracked_mono h huntracked] at htracked
    cases htracked

theorem standing_visible (db : Db) (writes : List Write) :
    ((engine.visible db writes).standing unitId).taken = (db.standing unitId).taken +
        (movesFor unitId (writes.flatMap Write.moves)).countP
          (fun move => decide (move.delta = -1)) ∧
      ((engine.visible db writes).standing unitId).restored = (db.standing unitId).restored +
        (movesFor unitId (writes.flatMap Write.moves)).countP fun move =>
          decide (0 < move.delta) := by
  unfold Db.standing
  rw [moves_visible, movesFor_append]
  exact ⟨List.countP_append, List.countP_append⟩

theorem Facts.Fits.step (h : facts.Fits unitId i db held tx) (hlawful : facts.Lawful) :
    Standing.Step (db.standing unitId) ((engine.visible db tx.writes).standing unitId) := by
  have hgrow : unitRows.Older db (engine.visible db tx.writes) := Rows.older_visible db tx.writes
  obtain ⟨htaken, hrestored⟩ : _ ∧ ((engine.visible db tx.writes).standing unitId).restored = _ :=
    standing_visible db tx.writes
  have hknown : ∀ {itemId : Option Nat}, facts.item = some itemId →
      untracked ((engine.visible db tx.writes).device unitId) = itemId.isNone := fun hitem => by
    obtain ⟨row, hrow, rfl⟩ := h.item _ hitem
    unfold untracked
    rw [hrow]
    rfl
  have htracked : ∀ {itemId : Nat}, facts.item = some (some itemId) →
      untracked (db.device unitId) = false := fun hitem => by
    refine Bool.eq_false_iff.mpr fun huntracked => ?_
    have hcurrent := untracked_mono hgrow huntracked
    rw [hknown hitem] at hcurrent
    cases hcurrent
  rcases h.moved with ⟨hzero, hmoves⟩ | ⟨hone, itemId, hitem, hmoves⟩
  · rw [hmoves] at htaken hrestored
    rcases hlawful with ⟨-, hstock, howned⟩ | ⟨-, hitem⟩ | ⟨hmoved, -⟩ | ⟨hmoved, -⟩ | ⟨-, howned⟩
    · refine .kept (fun hin => ?_) (fun hown => ?_) htaken hrestored
      · obtain ⟨hthere, hplace⟩ := Bool.and_eq_true_iff.mp hin
        have hfits := h.inStock
        rw [hplace] at hfits
        exact Bool.and_eq_true_iff.mpr ⟨tracked_of_grown hgrow hthere, hfits.kept hstock⟩
      · obtain ⟨hthere, howner⟩ := Bool.and_eq_true_iff.mp hown
        have hfits := h.owned
        rw [howner] at hfits
        exact Bool.and_eq_true_iff.mpr ⟨tracked_of_grown hgrow hthere, hfits.kept howned⟩
    · have huntracked := hknown hitem
      refine .kept (fun hin => ?_) (fun hown => ?_) htaken hrestored
      · rw [Db.standing, huntracked] at hin
        cases hin
      · rw [Db.standing, huntracked] at hown
        cases hown
    · omega
    · omega
    · have hfits := h.owned
      rw [howned] at hfits
      have hbefore : ownerOf (db.device unitId) = false := hfits.1 false rfl
      have hafter : ownerOf ((engine.visible db tx.writes).device unitId) = false := hfits.2
      refine .undone ?_ ?_ htaken hrestored
      · rw [Db.standing, hbefore, Bool.and_false]
      · rw [Db.standing, hafter, Bool.and_false]
  · rw [hmoves] at htaken hrestored
    have hthere := htracked hitem
    have hcurrent := hknown hitem
    rcases hlawful with ⟨hmoved, -⟩ | ⟨hmoved, -⟩ | ⟨hmoved, hstock⟩ | ⟨hmoved, howned⟩ | ⟨hmoved, -⟩
    · omega
    · omega
    · have hfits := h.inStock
      rw [hstock] at hfits
      have hbefore : placeOf (db.device unitId) = true := hfits.1 true rfl
      have hafter : placeOf ((engine.visible db tx.writes).device unitId) = false := hfits.2
      rw [hmoved] at htaken hrestored
      refine .taken ?_ ?_ htaken hrestored
      · rw [Db.standing, hthere, hbefore]
        rfl
      · rw [Db.standing, hafter, Bool.and_false]
    · have hfits := h.owned
      rw [howned] at hfits
      have hbefore : ownerOf (db.device unitId) = true := hfits.1 true rfl
      have hafter : ownerOf ((engine.visible db tx.writes).device unitId) = false := hfits.2
      rw [hmoved] at htaken hrestored
      refine .restored ?_ ?_ htaken hrestored
      · rw [Db.standing, hthere, hbefore]
        rfl
      · rw [Db.standing, hafter, Bool.and_false]
    · omega

/-- What is known of the item of a unit between transactions. -/
def Named (unitId : Nat) (db : Db) (item : Option (Option Nat)) : Prop :=
  ∀ itemId, item = some itemId →
    ∃ row, db.device unitId = some row ∧ row.inventoryItemId = itemId

variable {item : Option (Option Nat)}

theorem Named.grown (h : Named unitId db item) (hgrow : unitRows.Older db db') :
    Named unitId db' item := by
  intro itemId hitem
  obtain ⟨row, hrow, rfl⟩ := h itemId hitem
  obtain ⟨row', hrow', hsame⟩ := hgrow unitId row hrow
  exact ⟨row', hrow', by rw [hsame]⟩

theorem Named.found (h : Named unitId db item) {id : Nat} {reply : Option CpeDevice}
    (hreply : ∀ row, reply = some row → db.device id = some row) :
    ∃ item', (Facts.idle item).found unitId id false reply = some (Facts.idle item') ∧
      Named unitId db item' := by
  cases reply with
  | none => exact ⟨item, rfl, h⟩
  | some row =>
    have hrow := hreply row rfl
    have hnot : ¬row.id ≠ id := not_not.mpr (id_of_device hrow)
    by_cases hunit : id = unitId
    · subst hunit
      have hitem : (Facts.idle item).item = none ∨
          (Facts.idle item).item = some row.inventoryItemId := by
        cases item with
        | none => exact Or.inl rfl
        | some itemId =>
          obtain ⟨row', hrow', rfl⟩ := h itemId rfl
          obtain rfl := Option.some.inj (hrow.symm.trans hrow')
          exact Or.inr rfl
      refine ⟨some row.inventoryItemId, ?_, fun itemId heq => ?_⟩
      · exact (if_neg hnot).trans ((if_neg (not_not.mpr rfl)).trans (if_pos hitem))
      · obtain rfl := Option.some.inj heq
        exact ⟨row, hrow, rfl⟩
    · exact ⟨item, (if_neg hnot).trans (if_pos hunit), h⟩

/-- A statement outside of transactions moves no stock, and takes the unit to its next standing. -/
theorem Named.auto (h : Named unitId db item) {op : Stmt} {learn : op.Res → Know}
    (hsent : (Facts.idle item).sent unitId op = some learn) (tick : Nat) :
    let out := engine.exec op tick db db
    Standing.Step (db.standing unitId) ((engine.visible db out.2).standing unitId) ∧
      ∃ item', learn out.1 = some (Facts.idle item') ∧
        Named unitId (engine.visible db out.2) item' := by
  intro out
  have hgrow : ∀ writes, unitRows.Older db (engine.visible db writes) :=
    fun writes => Rows.older_visible db writes
  have hquiet : ∀ writes : List Write, unitRows.Spares writes unitId →
      writes.flatMap Write.moves = [] → Standing.Step (db.standing unitId)
        ((engine.visible db writes).standing unitId) := by
    intro writes hspares hmoves
    have hrow : (engine.visible db writes).device unitId = db.device unitId :=
      Rows.row_of_spares hspares db
    have hsame : (engine.visible db writes).standing unitId = db.standing unitId := by
      unfold Db.standing
      rw [hrow, moves_visible, hmoves, List.append_nil]
    rw [hsame]
    exact .refl _
  have hnothing : Standing.Step (db.standing unitId) (db.standing unitId) := .refl _
  cases op with
  | unit locking id scope =>
    obtain ⟨hnot, hlearn⟩ := Option.ite_none_left_eq_some.mp hsent
    obtain rfl := Option.some.inj hlearn
    refine ⟨hnothing, ?_⟩
    have hlocking : locking = false := by
      cases locking with
      | false => rfl
      | true => exact absurd ⟨rfl, rfl⟩ hnot
    subst hlocking
    have hreply : ∀ row, out.1 = some row → db.device id = some row :=
      fun row hrow => (Option.filter_eq_some_iff.mp hrow).1
    exact h.found hreply
  | updateUnit id change =>
    by_cases hunit : id = unitId
    · subst hunit
      obtain ⟨hadmits, hlearn⟩ :=
        Option.ite_none_right_eq_some.mp ((if_neg (not_not.mpr rfl)).symm.trans hsent)
      obtain rfl := Option.some.inj hlearn
      refine ⟨?_, item, rfl, h.grown (hgrow _)⟩
      cases hrow : db.device id with
      | none =>
        have hwrites : out.2 = [] := by
          exact (written_updateUnit id change _ db db).trans (by rw [hrow, Option.elim_none])
        rw [hwrites]
        exact hnothing
      | some row =>
        have hwrites : out.2 = [.unit id (change.apply row.columns)] := by
          exact (written_updateUnit id change _ db db).trans (by rw [hrow, Option.elim_some])
        rw [hwrites]
        have hafter : (engine.visible db [.unit id (change.apply row.columns)]).device id =
            some { row with columns := change.apply row.columns } := by
          have hact := unitRows.row_apply db (.unit id (change.apply row.columns)) id
          rw [show unitRows.row db id = some row from hrow] at hact
          exact hact.trans (congrArg some (if_pos rfl))
        have hplain : (!untracked (some { row with
            columns := change.apply row.columns })) = true → change.Plain := by
          intro hthere
          rcases hadmits with hnone | hplain
          · obtain ⟨row', hrow', hitem⟩ := h none hnone
            obtain rfl := Option.some.inj (hrow.symm.trans hrow')
            change (!row.inventoryItemId.isNone) = true at hthere
            rw [hitem] at hthere
            cases hthere
          · exact hplain
        refine .kept (fun hin => ?_) (fun hown => ?_) rfl rfl
        · obtain ⟨hthere, hplace⟩ := Bool.and_eq_true_iff.mp hin
          rw [hafter] at hthere hplace
          refine Bool.and_eq_true_iff.mpr ⟨hrow ▸ hthere, ?_⟩
          have hfits : Column.Fits ⟨none, change.inStock⟩ row.columns.inStock true := by
            refine ⟨(fun _ h => by cases h), ?_⟩
            rw [← Change.inStock_apply]
            exact hplace.symm
          rw [hrow]
          exact hfits.kept (hplain hthere).1
        · obtain ⟨hthere, howner⟩ := Bool.and_eq_true_iff.mp hown
          rw [hafter] at hthere howner
          refine Bool.and_eq_true_iff.mpr ⟨hrow ▸ hthere, ?_⟩
          have hfits : Column.Fits ⟨none, change.owned⟩ row.columns.owned true := by
            refine ⟨(fun _ h => by cases h), ?_⟩
            rw [← Change.owned_apply]
            exact howner.symm
          rw [hrow]
          exact hfits.kept (hplain hthere).2
    · obtain rfl := Option.some.inj ((if_pos hunit).symm.trans hsent)
      refine ⟨hquiet _ (fun w hw d => ?_) ?_, item, rfl, h.grown (hgrow _)⟩
      · cases written_of_exec hw with
        | unit id change row hrow =>
          change d.map (fun row => if id = unitId then _ else row) = d
          simp only [if_neg hunit, Option.map_id']
      · refine List.flatMap_eq_nil_iff.mpr fun w hw => ?_
        cases written_of_exec hw
        rfl
  | insertUnit orgId serialNumber itemId origin => cases hsent
  | pickupUnit id contractId orgId => cases hsent
  | greatestStock itemId orgId => cases hsent
  | insertStock itemId warehouseId quantity reason =>
    rw [Facts.sent_insertStock_idle rfl] at hsent
    cases hsent
  | addStock id quantity reason => cases hsent
  | setReceived lineId target =>
    obtain rfl := Option.some.inj hsent
    refine ⟨hquiet _ (fun w hw d => ?_) rfl, item, rfl, h.grown (hgrow _)⟩
    obtain rfl := List.mem_singleton.mp hw
    rfl
  | setOrder id status =>
    obtain rfl := Option.some.inj hsent
    refine ⟨hquiet _ (fun w hw d => ?_) rfl, item, rfl, h.grown (hgrow _)⟩
    obtain rfl := List.mem_singleton.mp hw
    rfl
  | _ =>
    obtain rfl := Option.some.inj hsent
    exact ⟨hnothing, item, rfl, h⟩

structure Sound (unitId i : Nat) (db : Db) (held : List (Nat × Key)) (ghost : Ghost Db Write Know) :
    Prop where
  trusted : ghost.know ≠ some none
  idle : ∀ facts, ghost.know = some (some facts) → ghost.tx = none →
    ∃ item, facts = .idle item ∧ Named unitId db item
  opened : ∀ facts tx, ghost.know = some (some facts) → ghost.tx = some tx →
    facts.Fits unitId i db held tx

theorem sound_cut : Sound unitId i db held ⟨none, none⟩ :=
  ⟨(fun h => nomatch h), (fun _ hknow => nomatch hknow), fun _ _ hknow => nomatch hknow⟩

theorem sound_idle (h : Named unitId db item) :
    Sound unitId i db held ⟨some (some (.idle item)), none⟩ := by
  refine ⟨(fun h => nomatch h), fun facts hknow _ => ?_, fun _ _ _ htx => nomatch htx⟩
  obtain rfl := Option.some.inj (Option.some.inj hknow)
  exact ⟨item, rfl, h⟩

theorem sound_begun (h : Named unitId db item) :
    Sound unitId i db held ⟨some (some (.begun item)), some Tx.empty⟩ := by
  refine ⟨(fun h => nomatch h), (fun _ _ htx => nomatch htx), fun facts tx hknow htx => ?_⟩
  obtain rfl := Option.some.inj (Option.some.inj hknow)
  obtain rfl := Option.some.inj htx
  refine ⟨rfl, h, fun hknown => ?_, fun _ => ⟨fun w hw => absurd hw List.not_mem_nil, rfl, rfl⟩,
    (fun htouched => nomatch htouched), ⟨(fun _ hvalue => nomatch hvalue), rfl⟩,
    ⟨(fun _ hvalue => nomatch hvalue), rfl⟩, Or.inl ⟨rfl, rfl⟩,
    fun _ _ hstocked => nomatch hstocked⟩
  rcases hknown with htouched | hknown | hknown
  · cases htouched
  · exact absurd rfl hknown
  · exact absurd rfl hknown

/-- What holds for a unit in every interleaving. -/
structure UnitInv (unitId tick : Nat) (db : Db) (held : List (Nat × Key))
    (ghosts : Nat → Ghost Db Write Know) : Prop where
  units : unitRows.Grounded tick db held ghosts
  stock : stockRows.Grounded tick db held ghosts
  sound : ∀ i, Sound unitId i db held (ghosts i)

theorem UnitInv.update {D : Discipline Know Stmt Stmt.Res (Outside Stmt Query)
      (Outside.Answer Query.Answer)} (h : UnitInv unitId tick db held ghosts)
    (hd : Disciplined engine D i tick db held (ghosts i) db' held' ghost')
    (hothers : ∀ j, j ≠ i → Sound unitId j db' held' (ghosts j))
    (hself : Sound unitId i db' held' ghost') :
    UnitInv unitId (tick + 1) db' held' (Function.update ghosts i ghost') := by
  refine ⟨h.units.step hd, h.stock.step hd, fun j => ?_⟩
  by_cases hj : j = i
  · subst hj
    rw [Function.update_self]
    exact hself
  · rw [Function.update_of_ne hj]
    exact hothers j hj

theorem UnitInv.others_grown (h : UnitInv unitId tick db held ghosts)
    (hunits : unitRows.Older db db') (hstock : stockRows.Older db db')
    (hnewUnits : ∀ tx, (ghosts j).tx = some tx →
      ∀ n ∈ tx.writes.flatMap Write.bornUnit, n ∉ unitMinting.ids db')
    (hnewStock : ∀ tx, (ghosts j).tx = some tx →
      ∀ n ∈ tx.writes.flatMap Write.bornStock, n ∉ stockMinting.ids db')
    (hstays : ∀ tx, (ghosts j).tx = some tx →
      (j, Key.device unitId) ∈ held ∧ db.device unitId ≠ none ∨
        unitId ∈ tx.writes.flatMap Write.bornUnit → db'.device unitId = db.device unitId)
    (hheld : (j, Key.device unitId) ∈ held → (j, Key.device unitId) ∈ held') :
    Sound unitId j db' held' (ghosts j) := by
  have hself := h.sound j
  refine ⟨hself.trusted, fun facts hknow htx => ?_, fun facts tx hknow htx => ?_⟩
  · obtain ⟨item, heq, hnamed⟩ := hself.idle facts hknow htx
    exact ⟨item, heq, hnamed.grown hunits⟩
  · exact (hself.opened facts tx hknow htx).grown hunits hstock (hnewUnits tx htx)
      (hnewStock tx htx) (hstays tx htx) hheld

theorem UnitInv.others_same (h : UnitInv unitId tick db held ghosts)
    (hheld : (j, Key.device unitId) ∈ held → (j, Key.device unitId) ∈ held') :
    Sound unitId j db held' (ghosts j) := by
  refine h.others_grown (Rows.Older.refl db) (Rows.Older.refl db) (fun tx htx => ?_)
    (fun tx htx => ?_) (fun _ _ _ => rfl) hheld
  · exact h.units.born_new htx
  · exact h.stock.born_new htx

theorem UnitInv.others_settled (h : UnitInv unitId tick db held ghosts) (hj : j ≠ i)
    (htx : (ghosts i).tx = some tx) :
    Sound unitId j (engine.visible db tx.writes) (Sys.releasedBy held i) (ghosts j) := by
  refine h.others_grown (Rows.older_visible db tx.writes) (Rows.older_visible db tx.writes)
    (fun tx' htx' n hn => ?_) (fun tx' htx' n hn => ?_) (fun tx' htx' hown => ?_)
    fun hlock => Sys.mem_releasedBy_other hj hlock
  · obtain ⟨hnew, hother⟩ := h.units.fresh.pending_ne htx' htx hn
    rw [unitMinting.ids_visible, List.mem_append, not_or]
    exact ⟨hnew, fun hn' => hj (hother hn').symm⟩
  · obtain ⟨hnew, hother⟩ := h.stock.fresh.pending_ne htx' htx hn
    rw [stockMinting.ids_visible, List.mem_append, not_or]
    exact ⟨hnew, fun hn' => hj (hother hn').symm⟩
  · exact h.units.stays htx htx' hj hown

theorem born_not_auto {M : Minting engine} (h : M.Fresh tick db ghosts)
    (htx : (ghosts j).tx = some tx) (op : Stmt) :
    ∀ n ∈ tx.writes.flatMap M.born, n ∉ M.ids (engine.visible db (engine.exec op tick db db).2) := by
  intro n hn
  obtain ⟨owner, howner⟩ := h.pending
  obtain ⟨hlt, -, hnew⟩ := (howner j tx htx).2 n hn
  rw [M.ids_visible, List.mem_append, not_or]
  refine ⟨hnew, fun hn' => ?_⟩
  rcases M.born_exec op tick db db with hnone | hone
  · rw [hnone] at hn'
    exact absurd hn' List.not_mem_nil
  · rw [hone] at hn'
    exact absurd (List.mem_singleton.mp hn') (Nat.ne_of_lt hlt)

theorem UnitInv.others_auto (h : UnitInv unitId tick db held ghosts) (op : Stmt)
    (hfree : ∀ j k, (j, k) ∈ held → k ∉ engine.locks op db) :
    Sound unitId j (engine.visible db (engine.exec op tick db db).2) held (ghosts j) :=
  h.others_grown (Rows.older_visible db _) (Rows.older_visible db _)
    (fun _ htx => born_not_auto h.units.fresh htx op)
    (fun _ htx => born_not_auto h.stock.fresh htx op)
    (fun _ htx hown => h.units.stays_auto hfree htx hown) id

theorem UnitInv.step (h : UnitInv unitId tick db held ghosts)
    (hd : Disciplined engine (unitDiscipline unitId) i tick db held (ghosts i) db' held' ghost') :
    UnitInv unitId (tick + 1) db' held' (Function.update ghosts i ghost') ∧
      Standing.Step (db.standing unitId) (db'.standing unitId) := by
  have hmove := hd
  have hself := h.sound i
  have hreleased : ∀ j, j ≠ i → (j, Key.device unitId) ∈ held →
      (j, Key.device unitId) ∈ Sys.releasedBy held i :=
    fun j hj hlock => Sys.mem_releasedBy_other hj hlock
  generalize hghost : ghosts i = ghost at hd hself
  cases hd with
  | idle =>
    refine ⟨h.update hmove (fun j _ => h.sound j) hself, .refl _⟩
  | abort =>
    exact ⟨h.update hmove (fun j hj => h.others_same (hreleased j hj)) sound_cut, .refl _⟩
  | start know know' tx hk =>
    cases know with
    | none => exact absurd rfl hself.trusted
    | some facts =>
      obtain ⟨hclosed, hknow⟩ := Option.ite_none_right_eq_some.mp hk
      obtain rfl := Option.some.inj hknow
      cases tx with
      | some tx =>
        have hopened := (hself.opened facts tx rfl rfl).opened
        rw [hclosed] at hopened
        cases hopened
      | none =>
        obtain ⟨item, rfl, hnamed⟩ := hself.idle facts rfl rfl
        exact ⟨h.update hmove (fun j hj => h.others_same (hreleased j hj))
          (sound_begun hnamed), .refl _⟩
  | commit know know' tx hk =>
    cases know with
    | none => exact absurd rfl hself.trusted
    | some facts =>
      obtain ⟨⟨hopened, hlawful⟩, hknow⟩ := Option.ite_none_right_eq_some.mp hk
      obtain rfl := Option.some.inj hknow
      cases tx with
      | none =>
        obtain ⟨item, rfl, -⟩ := hself.idle facts rfl rfl
        cases hopened
      | some tx =>
        have hfits := hself.opened facts tx rfl rfl
        have htx : (ghosts i).tx = some tx := by rw [hghost]
        exact ⟨h.update hmove (fun j hj => h.others_settled hj htx) (sound_idle hfits.item),
          hfits.step hlawful⟩
  | rollback know know' tx hk =>
    cases know with
    | none => exact absurd rfl hself.trusted
    | some facts =>
      obtain rfl := Option.some.inj hk
      exact ⟨h.update hmove (fun j hj => h.others_same (hreleased j hj))
        (sound_idle fun _ hitem => nomatch hitem), .refl _⟩
  | auto know via op learn tx hk hin hfree =>
    cases know with
    | none => exact absurd rfl hself.trusted
    | some facts =>
      obtain ⟨hvia, hsent⟩ := Option.ite_none_right_eq_some.mp hk
      cases tx with
      | some tx =>
        have hopened := (hself.opened facts tx rfl rfl).opened
        cases via with
        | conn => cases hin
        | pool =>
          rw [hopened] at hvia
          cases hvia
      | none =>
        obtain ⟨item, rfl, hnamed⟩ := hself.idle facts rfl rfl
        obtain ⟨hstep, item', hlearn, hnamed'⟩ := hnamed.auto hsent tick
        refine ⟨h.update hmove (fun j _ => h.others_auto op hfree) ?_, hstep⟩
        rw [hlearn]
        exact sound_idle hnamed'
  | within know op learn tx hk hfree =>
    cases know with
    | none => exact absurd rfl hself.trusted
    | some facts =>
      obtain ⟨-, hsent⟩ := Option.ite_none_right_eq_some.mp hk
      have hfits := hself.opened facts tx rfl rfl
      have htx : (ghosts i).tx = some tx := by rw [hghost]
      obtain ⟨facts', hlearn, hfits'⟩ := hfits.sent h.units h.stock htx hsent
        fun key hkey => hkey.elim (fun hlock => List.mem_append_left _ hlock)
          fun hnew => List.mem_append_right held (List.mem_map.mpr ⟨key, hnew, rfl⟩)
      refine ⟨h.update hmove (fun j _ => h.others_same fun hlock =>
        List.mem_append_left _ hlock) ⟨fun hnone => ?_, (fun _ _ hnone => nomatch hnone),
          fun facts₂ tx₂ hknow₂ htx₂ => ?_⟩, .refl _⟩
      · rw [Engine.snapshot_fix] at hnone
        exact nomatch hlearn.symm.trans (Option.some.inj hnone)
      · rw [Engine.snapshot_fix] at hknow₂ htx₂
        obtain rfl := Option.some.inj (hlearn.symm.trans (Option.some.inj hknow₂))
        obtain rfl := Option.some.inj htx₂
        exact hfits'
  | call know query learn tx hk answer =>
    obtain rfl := Option.some.inj hk
    exact ⟨h.update hmove (fun j _ => h.sound j) hself, .refl _⟩

/-- The calls have not started: no unit of an item has left, and no stock has moved. -/
structure Opening (calls : Nat → Call) (s : System) : Prop where
  units : (s.db.devices.map CpeDevice.id).Nodup
  stock : (s.db.stock.map Stock.id).Nodup
  unitsBelow : ∀ n ∈ s.db.devices.map CpeDevice.id, n < s.tick
  stockBelow : ∀ n ∈ s.db.stock.map Stock.id, n < s.tick
  unowned : ∀ row ∈ s.db.devices, row.inventoryItemId ≠ none → row.columns.ownership = none
  moves : s.db.moves = []
  held : s.held = []
  sessions : ∀ i, s.sessions i = ⟨some (calls i).run.run, none⟩

theorem grounded_start {M : Minting engine} {Row : Type} (T : Rows engine M Row)
    (hkeyed : (M.ids db).Nodup) (hbelow : ∀ n ∈ M.ids db, n < tick)
    (hheld : held = []) (htx : ∀ i, (ghosts i).tx = none) : T.Grounded tick db held ghosts := by
  subst hheld
  refine ⟨fun i j k hi => absurd hi List.not_mem_nil, ⟨hkeyed, hbelow, ⟨id, fun i tx h => ?_⟩,
    fun i tx view h => ?_⟩, fun i tx h => ?_, fun i tx view h => ?_⟩
  all_goals
    rw [htx i] at h
    cases h

theorem Opening.kept {calls : Nat → Call} {s : System} (h : Opening calls s) (unitId : Nat) :
    s.Kept (unitDiscipline unitId) (UnitInv unitId) := by
  refine ⟨fun _ => ⟨some (some (.idle none)), none⟩, ⟨?_, ?_, fun i => ?_⟩, fun i => ?_⟩
  · exact grounded_start unitRows h.units h.unitsBelow h.held fun _ => rfl
  · exact grounded_start stockRows h.stock h.stockBelow h.held fun _ => rfl
  · exact sound_idle fun _ hitem => nomatch hitem
  · rw [h.sessions i]
    refine ⟨rfl, fun p hp => ⟨some (.idle none), rfl, ?_⟩⟩
    obtain rfl := Option.some.inj hp
    have hidle : Idle (some (.idle none)) := Or.inr ⟨none, rfl⟩
    exact Prog.Follows.mono (keeps_unit hidle (calls i)) fun _ _ _ => trivial

theorem kept_step {s : System} {unitId : Nat}
    (h : s.Kept (unitDiscipline unitId) (UnitInv unitId)) (l : Label (Outside.Answer Query.Answer)) :
    (s.step engine l).Kept (unitDiscipline unitId) (UnitInv unitId) ∧
      Standing.Step (s.db.standing unitId) ((s.step engine l).db.standing unitId) := by
  obtain ⟨ghosts, hinv, htracks⟩ := h
  obtain ⟨ghost', hd, htracks'⟩ := Sys.step_disciplined (E := engine)
    (fun i => tracksTo_true.mpr (htracks i)) l
  obtain ⟨hinv', hstep⟩ := hinv.step hd
  refine ⟨⟨_, ?_, fun i => tracksTo_true.mp (htracks' i)⟩, hstep⟩
  rw [Sys.step_tick]
  exact hinv'

/-- However calls interleave, the stock of a unit is restored no more often than taken. -/
theorem restored_le_taken {calls : Nat → Call} {s : System} (h : Opening calls s)
    (labels : List (Label (Outside.Answer Query.Answer))) (unitId : Nat) :
    let moves := movesFor unitId (Transition.run (Sys.step engine) s labels).db.moves
    moves.countP (fun move => decide (0 < move.delta)) ≤
      moves.countP fun move => decide (move.delta = -1) := by
  intro moves
  have hunowned : (s.db.standing unitId).owned = false := by
    unfold Db.standing untracked ownerOf
    cases hrow : s.db.device unitId with
    | none => rfl
    | some row =>
      cases hitem : row.inventoryItemId with
      | none => exact congrArg (fun item => !Option.isNone item && row.columns.owned) hitem
      | some itemId =>
        have hnone := h.unowned row (List.mem_of_find?_eq_some hrow) (hitem ▸ nofun)
        change (_ && row.columns.ownership.isSome) = false
        rw [hnone]
        exact Bool.and_false _
  have hcovered : (s.db.standing unitId).Covered := by
    unfold Standing.Covered
    rw [hunowned, Db.standing, h.moves]
    exact Nat.le_refl 0
  have hrun := Transition.run_preserves (I := fun s : System =>
      s.Kept (unitDiscipline unitId) (UnitInv unitId) ∧ (s.db.standing unitId).Covered)
    (fun s (l : Label (Outside.Answer Query.Answer)) hs => ⟨(kept_step hs.1 l).1, hs.2.step (kept_step hs.1 l).2⟩)
    ⟨h.kept unitId, hcovered⟩ labels
  exact (Nat.le_add_right _ _).trans hrun.2

/-- A unit of an item, in stock. -/
def sampleUnit : CpeDevice := ⟨1, some 1, "A1", some 1, Columns.fresh⟩

/-- The unit is installed, and its install is undone twice. -/
def sampleCalls : Nat → Call
  | 0 => .install ⟨1, 7, none, some 1, none, none, .rented⟩
  | _ => .uninstall 1 1

/-- The calls before they start. -/
def sampleSystem : System where
  db := ⟨[⟨1, some 1, true, none, none⟩], [sampleUnit], [⟨2, 1, 1, false, 1⟩], [], [], [], []⟩
  tick := 3
  held := []
  sessions := fun i => ⟨some (sampleCalls i).run.run, none⟩
  calls := []

/-- Nothing raises. -/
def sampleWorld : (query : Outside Stmt Query) → Outside.Answer Query.Answer query
  | .raises _ => false
  | .fails _ => false
  | .about query => match query with
    | .contract .. => some 3
    | .serviceOrderMatches .. => true
    | .contractEnded .. => false
    | .saleInvoice .. => none
    | .voids .. => true
    | .warehouseShared .. => true
    | .firstWarehouse _ => some 1
    | .insertsDevice => 9
    | .insertsInvoice _ => 9
    | .pickup .. => some (some 7)
    | .ownClient .. => some none
    | .bridgedClient .. => some none
    | .proceeds => true
    | .otherwise => ()

theorem sampleSystem_opening : Opening sampleCalls sampleSystem := by
  refine ⟨by decide, by decide, by decide, by decide, fun row hrow _ => ?_, rfl, rfl, fun _ => rfl⟩
  obtain rfl := List.mem_singleton.mp hrow
  rfl

/-- The stock that was taken for the install is restored once. -/
theorem restored_le_taken_sample :
    let labels := List.replicate 60 (.step 0 sampleWorld) ++
      (List.replicate 60 [.step 1 sampleWorld, .step 2 sampleWorld]).flatten
    let moves := movesFor 1 (Transition.run (Sys.step engine) sampleSystem labels).db.moves
    moves.map Move.delta = [-1, 1] ∧
    moves.countP (fun move => decide (0 < move.delta)) ≤
      moves.countP fun move => decide (move.delta = -1) :=
  ⟨by decide +kernel, restored_le_taken sampleSystem_opening _ _⟩

end FireIsp.Inventory
