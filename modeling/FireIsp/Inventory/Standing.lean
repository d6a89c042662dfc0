import FireIsp.Base.Table
import FireIsp.Inventory.Custody
import FireIsp.Inventory.Tables
import FireIsp.Inventory.Unit

/-!
# What a call knows of a unit is true

While a transaction has changed or locked a unit nobody else changes it.  So a commit moves the unit
and its stock as the call knows, and every step takes the unit from one standing to the next.
-/

namespace FireIsp.Inventory

open Txn

/-- The unit is in stock, or not registered yet. -/
def placeOf (found : Option CpeDevice) : Bool := found.elim true fun row => row.columns.inStock

/-- The unit has an owner. -/
def ownerOf (found : Option CpeDevice) : Bool := found.elim false fun row => row.columns.owned

/-- The unit is of no item: its stock is not counted. -/
def untracked (found : Option CpeDevice) : Bool :=
  found.any fun row => row.inventoryItemId.isNone

def movesFor (unitId : Nat) (moves : List Move) : List Move :=
  moves.filter fun move => decide (move.reason = .unit unitId)

def Write.moves : Write → List Move
  | .stock _ move => [move]
  | _ => []

/-- Where a unit stands: one of no item neither is in stock nor has an owner. -/
def Db.standing (db : Db) (unitId : Nat) : Standing where
  inStock := !untracked (db.device unitId) && placeOf (db.device unitId)
  owned := !untracked (db.device unitId) && ownerOf (db.device unitId)
  taken := (movesFor unitId db.moves).countP fun move => decide (move.delta = -1)
  restored := (movesFor unitId db.moves).countP fun move => decide (0 < move.delta)

variable {unitId i j tick : Nat} {db db' : Db} {held held' : List (Nat × Key)} {facts facts' : Facts}
  {tx : Tx Db Write} {writes : List Write}

theorem moves_visible (db : Db) (writes : List Write) :
    (engine.visible db writes).moves = db.moves ++ writes.flatMap Write.moves := by
  induction writes generalizing db with
  | nil => exact (List.append_nil _).symm
  | cons w writes ih =>
    have hw : (engine.apply db w).moves = db.moves ++ w.moves := by
      cases w <;> first | rfl | exact (List.append_nil _).symm
    rw [Engine.visible_cons, ih, hw, List.flatMap_cons, List.append_assoc]

theorem movesFor_append (unitId : Nat) (first second : List Move) :
    movesFor unitId (first ++ second) = movesFor unitId first ++ movesFor unitId second :=
  List.filter_append _ _

/-- What is known of a unit is true of what the transaction sees. -/
structure Facts.Fits (unitId i : Nat) (db : Db) (held : List (Nat × Key)) (tx : Tx Db Write)
    (facts : Facts) : Prop where
  opened : facts.opened = true
  item : ∀ item, facts.item = some item →
    ∃ row, (engine.visible db tx.writes).device unitId = some row ∧ row.inventoryItemId = item
  own : facts.touched = true ∨ facts.inStock.committed ≠ none ∨ facts.owned.committed ≠ none →
    (i, Key.device unitId) ∈ held ∧ db.device unitId ≠ none ∨
      unitId ∈ tx.writes.flatMap Write.bornUnit
  untouched : facts.touched = false → unitRows.Spares tx.writes unitId ∧
    facts.inStock.written = none ∧ facts.owned.written = none
  touched : facts.touched = true → ∀ row, (engine.snapshot db tx).device unitId = some row →
    (engine.visible db tx.writes).device unitId = some row
  inStock : facts.inStock.Fits (placeOf (db.device unitId))
    (placeOf ((engine.visible db tx.writes).device unitId))
  owned : facts.owned.Fits (ownerOf (db.device unitId))
    (ownerOf ((engine.visible db tx.writes).device unitId))
  moved : facts.moved = 0 ∧ movesFor unitId (tx.writes.flatMap Write.moves) = [] ∨
    (facts.moved = 1 ∨ facts.moved = -1) ∧ ∃ itemId, facts.item = some (some itemId) ∧
      movesFor unitId (tx.writes.flatMap Write.moves) = [⟨itemId, facts.moved, .unit unitId⟩]
  stocked : ∀ stockId itemId, facts.stocked = some (stockId, itemId) →
    ∃ row, (engine.visible db tx.writes).stockRow stockId = some row ∧ row.itemId = itemId

theorem Facts.Fits.grown (h : facts.Fits unitId i db held tx) (hunits : unitRows.Older db db')
    (hstock : stockRows.Older db db')
    (hnewUnits : ∀ n ∈ tx.writes.flatMap Write.bornUnit, n ∉ unitMinting.ids db')
    (hnewStock : ∀ n ∈ tx.writes.flatMap Write.bornStock, n ∉ stockMinting.ids db')
    (hstays : (i, Key.device unitId) ∈ held ∧ db.device unitId ≠ none ∨
      unitId ∈ tx.writes.flatMap Write.bornUnit → db'.device unitId = db.device unitId)
    (hheld : (i, Key.device unitId) ∈ held → (i, Key.device unitId) ∈ held') :
    facts.Fits unitId i db' held' tx := by
  have hcurrent : ∀ state : Db, (engine.visible state tx.writes).device unitId =
      unitRows.acts tx.writes unitId (state.device unitId) :=
    fun state => Rows.row_visible (T := unitRows) state tx.writes unitId
  have hcolumn : ∀ (column : Column) (value : Option CpeDevice → Bool),
      (facts.touched = true ∨ column.committed ≠ none →
        (i, Key.device unitId) ∈ held ∧ db.device unitId ≠ none ∨
          unitId ∈ tx.writes.flatMap Write.bornUnit) →
      (facts.touched = false → unitRows.Spares tx.writes unitId ∧ column.written = none) →
      column.Fits (value (db.device unitId))
        (value ((engine.visible db tx.writes).device unitId)) →
      column.Fits (value (db'.device unitId))
        (value ((engine.visible db' tx.writes).device unitId)) := by
    intro column value hown huntouched hfits
    by_cases hknown : facts.touched = true ∨ column.committed ≠ none
    · rw [hcurrent, hstays (hown hknown), ← hcurrent]
      exact hfits
    · rw [not_or, not_not, Bool.not_eq_true] at hknown
      obtain ⟨hspares, hwritten⟩ := huntouched hknown.1
      refine ⟨fun value h => ?_, ?_⟩
      · rw [hknown.2] at h
        cases h
      · rw [hwritten, Option.getD_none, hcurrent, Rows.acts_of_spares hspares]
  refine ⟨h.opened, fun item hitem => ?_, fun hknown => ?_, h.untouched, fun htouched row hrow => ?_,
    ?_, ?_, h.moved, fun stockId itemId hstocked => ?_⟩
  · obtain ⟨row, hrow, hrowItem⟩ := h.item item hitem
    obtain ⟨row', hrow', hsame⟩ := hunits.visible hnewUnits unitId row hrow
    exact ⟨row', hrow', by rw [← hrowItem, hsame]⟩
  · refine (h.own hknown).imp_left fun ⟨hlock, hrow⟩ => ⟨hheld hlock, ?_⟩
    obtain ⟨row, hrow⟩ := Option.ne_none_iff_exists'.mp hrow
    obtain ⟨row', hrow', -⟩ := hunits unitId row hrow
    exact fun hnone => Option.some_ne_none row' (hrow'.symm.trans hnone)
  · cases hv : tx.view with
    | none =>
      unfold Engine.snapshot at hrow
      rw [hv] at hrow
      exact hrow
    | some view =>
      have hold : (engine.snapshot db tx).device unitId = some row := by
        unfold Engine.snapshot at hrow ⊢
        rw [hv] at hrow ⊢
        exact hrow
      rw [hcurrent, hstays (h.own (Or.inl htouched)), ← hcurrent]
      exact h.touched htouched row hold
  · exact hcolumn facts.inStock placeOf
      (fun hknown => h.own (hknown.imp_right Or.inl))
      (fun hfalse => ⟨(h.untouched hfalse).1, (h.untouched hfalse).2.1⟩) h.inStock
  · exact hcolumn facts.owned ownerOf
      (fun hknown => h.own (hknown.imp_right Or.inr))
      (fun hfalse => ⟨(h.untouched hfalse).1, (h.untouched hfalse).2.2⟩) h.owned
  · obtain ⟨row, hrow, hrowItem⟩ := h.stocked stockId itemId hstocked
    obtain ⟨row', hrow', hsame⟩ := hstock.visible hnewStock stockId row hrow
    exact ⟨row', hrow', by rw [← hrowItem, hsame]⟩

section Within

/-- The transaction after a statement. -/
def next (op : Stmt) (db : Db) (tx : Tx Db Write) (writes : List Write) : Tx Db Write :=
  { engine.fix op db tx with writes := tx.writes ++ writes }

theorem visible_next (op : Stmt) (state : Db) :
    engine.visible state (next op db tx writes).writes =
      engine.visible (engine.visible state tx.writes) writes :=
  Engine.visible_append engine state tx.writes writes

theorem snapshot_next (op : Stmt) : engine.snapshot db (next op db tx writes) =
    engine.visible (engine.snapshot db tx) writes := by
  have hview : (next op db tx writes).view.getD db = tx.view.getD db := by
    unfold next Engine.fix
    split_ifs <;> rfl
  unfold Engine.snapshot
  rw [hview]
  exact visible_next op _

theorem Facts.Fits.quiet (h : facts.Fits unitId i db held tx) (op : Stmt)
    (hheld : (i, Key.device unitId) ∈ held → (i, Key.device unitId) ∈ held')
    (hspares : unitRows.Spares writes unitId)
    (hmoves : movesFor unitId (writes.flatMap Write.moves) = []) :
    facts.Fits unitId i db held' (next op db tx writes) := by
  have hcurrent : (engine.visible db (next op db tx writes).writes).device unitId =
      (engine.visible db tx.writes).device unitId := by
    rw [visible_next]
    exact Rows.row_of_spares hspares _
  have hmoved : movesFor unitId ((next op db tx writes).writes.flatMap Write.moves) =
      movesFor unitId (tx.writes.flatMap Write.moves) := by
    change movesFor unitId ((tx.writes ++ writes).flatMap Write.moves) = _
    rw [List.flatMap_append, movesFor_append, hmoves, List.append_nil]
  refine ⟨h.opened, fun item hitem => ?_, fun hknown => ?_, fun hfalse => ?_,
    fun htouched row hrow => ?_, ?_, ?_, ?_, fun stockId itemId hstocked => ?_⟩
  · rw [hcurrent]
    exact h.item item hitem
  · refine (h.own hknown).imp (fun ⟨hlock, hrow⟩ => ⟨hheld hlock, hrow⟩) fun hborn => ?_
    change unitId ∈ (tx.writes ++ writes).flatMap Write.bornUnit
    rw [List.flatMap_append]
    exact List.mem_append_left _ hborn
  · obtain ⟨hold, hwritten⟩ := h.untouched hfalse
    exact ⟨fun w hw => (List.mem_append.mp hw).elim (hold w) (hspares w), hwritten⟩
  · rw [snapshot_next] at hrow
    rw [hcurrent]
    exact h.touched htouched row ((Rows.row_of_spares hspares _).symm.trans hrow)
  · rw [hcurrent]
    exact h.inStock
  · rw [hcurrent]
    exact h.owned
  · rw [hmoved]
    exact h.moved
  · obtain ⟨row, hrow, hitem⟩ := h.stocked stockId itemId hstocked
    obtain ⟨row', hrow', hsame⟩ := Rows.older_visible (T := stockRows)
      (engine.visible db tx.writes) writes stockId row hrow
    rw [visible_next]
    exact ⟨row', hrow', by rw [← hitem, hsame]⟩

variable {itemId : Nat}

theorem Facts.Fits.stockedAt (h : facts.Fits unitId i db held tx) (found : Option Nat)
    (hfound : ∀ stockId, found = some stockId →
      ∃ row, (engine.visible db tx.writes).stockRow stockId = some row ∧ row.itemId = itemId) :
    (facts.stockedAt itemId found).Fits unitId i db held tx := by
  cases found with
  | none => exact h
  | some stockId =>
    refine ⟨h.opened, h.item, h.own, h.untouched, h.touched, h.inStock, h.owned, h.moved,
      fun stockId' itemId' heq => ?_⟩
    obtain ⟨rfl, rfl⟩ := Prod.mk.inj (Option.some.inj heq)
    exact hfound stockId rfl

variable {row : CpeDevice}

theorem Facts.Fits.named (h : facts.Fits unitId i db held tx) {seen : CpeDevice}
    (hrow : (engine.visible db tx.writes).device unitId = some row)
    (hseen : seen.inventoryItemId = row.inventoryItemId) :
    ∃ facts', facts.named seen = some facts' ∧ facts'.Fits unitId i db held tx := by
  have hitem : facts.item = none ∨ facts.item = some seen.inventoryItemId := by
    cases hitem : facts.item with
    | none => exact Or.inl rfl
    | some item =>
      obtain ⟨row', hrow', rfl⟩ := h.item item hitem
      obtain rfl := Option.some.inj (hrow.symm.trans hrow')
      exact Or.inr (congrArg some hseen.symm)
  refine ⟨_, if_pos hitem, h.opened, fun item heq => ?_, h.own, h.untouched, h.touched, h.inStock,
    h.owned, h.moved.imp_right fun ⟨hmoved, itemId, hsome, hmoves⟩ => ⟨hmoved, itemId, ?_, hmoves⟩,
    h.stocked⟩
  · obtain rfl := Option.some.inj heq
    exact ⟨row, hrow, hseen.symm⟩
  · rw [← hsome]
    exact (hitem.resolve_left (hsome ▸ Option.some_ne_none _)).symm

theorem Facts.Fits.observed (h : facts.Fits unitId i db held tx)
    (hrow : (engine.visible db tx.writes).device unitId = some row)
    (hown : (i, Key.device unitId) ∈ held ∧ db.device unitId ≠ none ∨
      unitId ∈ tx.writes.flatMap Write.bornUnit) :
    ∃ facts', facts.observed row = some facts' ∧ facts'.Fits unitId i db held tx := by
  obtain ⟨named, hnamed, hfits⟩ := h.named hrow rfl
  have hstock := hfits.inStock
  have howned := hfits.owned
  rw [hrow] at hstock howned
  obtain ⟨inStock, hseen, hinStock⟩ := hstock.observe
  obtain ⟨owned, hseen', howned'⟩ := howned.observe
  refine ⟨{ named with inStock := inStock, owned := owned }, ?_, hfits.opened, hfits.item,
    fun _ => hown, fun hfalse => ?_, hfits.touched, ?_, ?_, hfits.moved, hfits.stocked⟩
  · exact Option.bind_eq_some_iff.mpr ⟨named, hnamed, Option.bind_eq_some_iff.mpr
      ⟨inStock, hseen, Option.bind_eq_some_iff.mpr ⟨owned, hseen', rfl⟩⟩⟩
  · obtain ⟨hspares, hwritten, hwritten'⟩ := hfits.untouched hfalse
    exact ⟨hspares, (Column.written_of_observe hseen).trans hwritten,
      (Column.written_of_observe hseen').trans hwritten'⟩
  · rw [hrow]
    exact hinStock
  · rw [hrow]
    exact howned'

variable {Known : Type} {ghosts : Nat → Ghost Db Write Known}

theorem Facts.Fits.born (h : facts.Fits unitId i db held tx)
    (hg : unitRows.Grounded unitId db held ghosts) (htx : (ghosts i).tx = some tx) (op : Stmt)
    (row : CpeDevice) (mint : Mint) (hid : row.id = unitId)
    (hitem : row.inventoryItemId = some itemId) (hfresh : row.columns = Columns.fresh) :
    ∃ facts', facts.born itemId = some facts' ∧
      facts'.Fits unitId i db held' (next op db tx [.registers row mint]) := by
  have hnone : (engine.visible db tx.writes).device unitId = none :=
    (Rows.row_eq_none (T := unitRows)).mpr (hg.fresh.tick_new htx)
  have hdb : db.device unitId = none := by
    cases hdb : db.device unitId with
    | none => rfl
    | some old =>
      obtain ⟨new, hnew, -⟩ := Rows.older_visible (T := unitRows) db tx.writes unitId old hdb
      exact nomatch hnone.symm.trans hnew
  have hsnapshot : (engine.snapshot db tx).device unitId = none := by
    cases hseen : (engine.snapshot db tx).device unitId with
    | none => rfl
    | some old =>
      obtain ⟨new, hnew, -⟩ := hg.older_snapshot htx unitId old hseen
      exact nomatch hnone.symm.trans hnew
  have hadded : ∀ state : Db, state.device unitId = none →
      (engine.visible state [.registers row mint]).device unitId = some row := by
    intro state hstate
    have hact := unitRows.row_apply state (.registers row mint) unitId
    rw [show unitRows.row state unitId = none from hstate] at hact
    exact hact.trans (if_pos hid)
  have hunknown : facts.item = none := by
    cases hitem : facts.item with
    | none => rfl
    | some item =>
      obtain ⟨old, hold, -⟩ := h.item item hitem
      exact nomatch hnone.symm.trans hold
  have hcurrent : (engine.visible db (next op db tx [.registers row mint]).writes).device unitId =
      some row := by
    rw [visible_next]
    exact hadded _ hnone
  have hmoves : facts.moved = 0 ∧ movesFor unitId (tx.writes.flatMap Write.moves) = [] :=
    h.moved.resolve_right fun ⟨_, _, hsome, _⟩ => nomatch hunknown.symm.trans hsome
  refine ⟨_, if_pos hunknown, h.opened, fun item heq => ?_, fun _ => Or.inr ?_, nofun,
    fun _ seen hseen => ?_, ?_, ?_, Or.inl ⟨hmoves.1, ?_⟩, fun stockId itemId hstocked => ?_⟩
  · obtain rfl := Option.some.inj heq
    exact ⟨row, hcurrent, hitem⟩
  · change unitId ∈ (tx.writes ++ [Write.registers row mint]).flatMap Write.bornUnit
    rw [List.flatMap_append]
    exact List.mem_append_right _ (hid ▸ List.mem_singleton_self _)
  · rw [snapshot_next, hadded _ hsnapshot] at hseen
    rw [hcurrent, hseen]
  · rw [hdb, hcurrent]
    refine ⟨fun value heq => Option.some.inj heq, ?_⟩
    change row.columns.inStock = true
    rw [hfresh]
    rfl
  · rw [hdb, hcurrent]
    refine ⟨fun value heq => Option.some.inj heq, ?_⟩
    change row.columns.owned = false
    rw [hfresh]
    rfl
  · change movesFor unitId ((tx.writes ++ [Write.registers row mint]).flatMap Write.moves) = []
    rw [List.flatMap_append, movesFor_append, hmoves.2]
    rfl
  · obtain ⟨old, hold, heq⟩ := h.stocked stockId itemId hstocked
    rw [visible_next]
    exact ⟨old, hold, heq⟩

theorem Facts.Fits.changed (h : facts.Fits unitId i db held tx) {tick : Nat}
    (hg : unitRows.Grounded tick db held ghosts) (htx : (ghosts i).tx = some tx) (op : Stmt)
    (change : Change) (hrow : (engine.visible db tx.writes).device unitId = some row)
    (hheld : (i, Key.device unitId) ∈ held') :
    (facts.changed change).Fits unitId i db held'
      (next op db tx [.unit unitId (change.apply row.columns)]) := by
  have hchanged : facts.changed change = { facts with
      touched := true
      inStock := facts.inStock.write change.inStock
      owned := facts.owned.write change.owned } := if_pos h.opened
  have hwritten : ∀ (state : Db) (old : CpeDevice), state.device unitId = some old →
      (engine.visible state [.unit unitId (change.apply row.columns)]).device unitId =
        some { old with columns := change.apply row.columns } := by
    intro state old hold
    have hact := unitRows.row_apply state (.unit unitId (change.apply row.columns)) unitId
    rw [show unitRows.row state unitId = some old from hold] at hact
    exact hact.trans (congrArg some (if_pos rfl))
  have hcurrent : (engine.visible db
      (next op db tx [.unit unitId (change.apply row.columns)]).writes).device unitId =
        some { row with columns := change.apply row.columns } := by
    rw [visible_next]
    exact hwritten _ row hrow
  have hinStock := h.inStock.write change.inStock
  have howned := h.owned.write change.owned
  rw [hrow] at hinStock howned
  rw [hchanged]
  refine ⟨h.opened, fun item heq => ?_, fun _ => ?_, nofun, fun _ seen hseen => ?_, ?_, ?_, ?_,
    fun stockId itemId hstocked => ?_⟩
  · obtain ⟨old, hold, hitem⟩ := h.item item heq
    obtain rfl := Option.some.inj (hrow.symm.trans hold)
    exact ⟨_, hcurrent, hitem⟩
  · cases hdb : db.device unitId with
    | some old => exact Or.inl ⟨hheld, nofun⟩
    | none =>
      right
      change unitId ∈ (tx.writes ++ [_]).flatMap Write.bornUnit
      rw [List.flatMap_append]
      refine List.mem_append_left _ (Rows.acts_none (T := unitRows) (y := row) ?_)
      rw [← show unitRows.row db unitId = none from hdb, ← Rows.row_visible]
      exact hrow
  · rw [snapshot_next] at hseen
    cases hold : (engine.snapshot db tx).device unitId with
    | none =>
      have hact := unitRows.row_apply (engine.snapshot db tx)
        (.unit unitId (change.apply row.columns)) unitId
      rw [show unitRows.row (engine.snapshot db tx) unitId = none from hold] at hact
      exact nomatch hseen.symm.trans hact
    | some old =>
      obtain ⟨new, hnew, hsame⟩ := hg.older_snapshot htx unitId old hold
      obtain rfl := Option.some.inj (hrow.symm.trans hnew)
      rw [hwritten _ old hold] at hseen
      rw [hcurrent, ← hseen, hsame]
  · rw [hcurrent]
    change Column.Fits _ _ (change.apply row.columns).inStock
    rw [Change.inStock_apply]
    exact hinStock
  · rw [hcurrent]
    change Column.Fits _ _ (change.apply row.columns).owned
    rw [Change.owned_apply]
    exact howned
  · have hmoves : movesFor unitId ((next op db tx
        [.unit unitId (change.apply row.columns)]).writes.flatMap Write.moves) =
          movesFor unitId (tx.writes.flatMap Write.moves) := by
      change movesFor unitId ((tx.writes ++ [_]).flatMap Write.moves) = _
      rw [List.flatMap_append, movesFor_append]
      exact List.append_nil _
    rw [hmoves]
    exact h.moved
  · obtain ⟨old, hold, heq⟩ := h.stocked stockId itemId hstocked
    rw [visible_next]
    exact ⟨old, hold, heq⟩

theorem Facts.Fits.movesStock (h : facts.Fits unitId i db held tx) (op : Stmt) {stockId : Nat}
    {quantity : Rat} (hmoves : facts.Moves stockId quantity) {row : Stock}
    (hrow : (engine.visible db tx.writes).stockRow stockId = some row)
    (hheld : (i, Key.device unitId) ∈ held → (i, Key.device unitId) ∈ held') :
    Facts.Fits unitId i db held' (next op db tx [.stock stockId ⟨row.itemId,
      roundHalf (row.quantity + quantity) - row.quantity, .unit unitId⟩])
      { facts with moved := roundHalf quantity } := by
  obtain ⟨hmoved, hquantity, hitem, hstocked⟩ := hmoves
  obtain ⟨itemId, hitemId⟩ := Option.isSome_iff_exists.mp hitem
  have hsome : facts.item = some (some itemId) := Option.join_eq_some_iff.mp hitemId
  have hrowItem : row.itemId = itemId := by
    rw [hitemId, Option.map_some] at hstocked
    obtain ⟨row', hrow', heq⟩ := h.stocked stockId itemId hstocked
    obtain rfl := Option.some.inj (hrow.symm.trans hrow')
    exact heq
  have hwhole : ∃ n : Int, quantity = n ∧ (n = 1 ∨ n = -1) := by
    rcases hquantity with rfl | rfl
    · exact ⟨1, rfl, Or.inl rfl⟩
    · exact ⟨-1, rfl, Or.inr rfl⟩
  obtain ⟨n, rfl, hn⟩ := hwhole
  have hdelta : roundHalf ((row.quantity : Rat) + n) - row.quantity = n := by
    rw [← Int.cast_add, roundHalf_int]
    omega
  rw [hdelta, hrowItem, roundHalf_int]
  have hold : movesFor unitId (tx.writes.flatMap Write.moves) = [] := by
    rcases h.moved with ⟨-, hnil⟩ | ⟨hne, -⟩
    · exact hnil
    · omega
  have hcurrent : (engine.visible db (next op db tx [.stock stockId
      ⟨itemId, n, .unit unitId⟩]).writes).device unitId =
        (engine.visible db tx.writes).device unitId := by
    rw [visible_next]
    exact unitRows.row_apply _ (.stock stockId ⟨itemId, n, .unit unitId⟩) unitId
  refine ⟨h.opened, ?_, fun hknown => ?_, fun hfalse => ?_, fun htouched seen hseen => ?_, ?_, ?_,
    Or.inr ⟨hn, itemId, hsome, ?_⟩, fun stockId' itemId' hstocked' => ?_⟩
  · rw [hcurrent]
    exact h.item
  · refine (h.own hknown).imp (fun ⟨hlock, hdb⟩ => ⟨hheld hlock, hdb⟩) fun hborn => ?_
    change unitId ∈ (tx.writes ++ [_]).flatMap Write.bornUnit
    rw [List.flatMap_append]
    exact List.mem_append_left _ hborn
  · obtain ⟨hspares, hwritten⟩ := h.untouched hfalse
    refine ⟨fun w hw => ?_, hwritten⟩
    rcases List.mem_append.mp hw with hw | hw
    · exact hspares w hw
    · obtain rfl := List.mem_singleton.mp hw
      exact fun _ => rfl
  · rw [hcurrent]
    rw [snapshot_next] at hseen
    exact h.touched htouched seen
      ((unitRows.row_apply _ (.stock stockId ⟨itemId, n, .unit unitId⟩) unitId).symm.trans hseen)
  · rw [hcurrent]
    exact h.inStock
  · rw [hcurrent]
    exact h.owned
  · change movesFor unitId ((tx.writes ++ [_]).flatMap Write.moves) = _
    rw [List.flatMap_append, movesFor_append, hold, List.nil_append]
    exact List.filter_cons_of_pos (decide_eq_true rfl)
  · obtain ⟨old, hold', hitem'⟩ := h.stocked stockId' itemId' hstocked'
    obtain ⟨new, hnew, hsame⟩ := Rows.older_visible (T := stockRows)
      (engine.visible db tx.writes) [.stock stockId ⟨itemId, n, .unit unitId⟩] stockId' old hold'
    rw [visible_next]
    exact ⟨new, hnew, by rw [← hitem', hsame]⟩

theorem Facts.Fits.found (h : facts.Fits unitId i db held tx) {id : Nat} {current : Bool}
    {reply : Option CpeDevice} (hid : ∀ row, reply = some row → row.id = id)
    (hreply : id = unitId → ∀ seen, reply = some seen →
      ∃ row, (engine.visible db tx.writes).device unitId = some row ∧
        seen.inventoryItemId = row.inventoryItemId ∧ (current = true → seen = row ∧
          ((i, Key.device unitId) ∈ held ∧ db.device unitId ≠ none ∨
            unitId ∈ tx.writes.flatMap Write.bornUnit))) :
    ∃ facts', facts.found unitId id current reply = some facts' ∧
      facts'.Fits unitId i db held tx := by
  cases reply with
  | none => exact ⟨facts, rfl, h⟩
  | some seen =>
    have hnot : ¬seen.id ≠ id := not_not.mpr (hid seen rfl)
    by_cases hunit : id = unitId
    · obtain ⟨row, hrow, hitem, hcurrent⟩ := hreply hunit seen rfl
      have hfound : facts.found unitId id current (some seen) =
          if current then facts.observed seen else facts.named seen :=
        (if_neg hnot).trans (if_neg (not_not.mpr hunit))
      rw [hfound]
      cases current with
      | false => exact h.named hrow hitem
      | true =>
        obtain ⟨rfl, hown⟩ := hcurrent rfl
        exact h.observed hrow hown
    · exact ⟨facts, (if_neg hnot).trans (if_pos hunit), h⟩

variable {state : Db}

theorem id_of_device {id : Nat} (h : state.device id = some row) :
    row.id = id := by
  have hdec := List.find?_some h
  exact of_decide_eq_true hdec

theorem own_of_lock (hlock : (i, Key.device unitId) ∈ held)
    (hrow : (engine.visible db tx.writes).device unitId = some row) :
    (i, Key.device unitId) ∈ held ∧ db.device unitId ≠ none ∨
      unitId ∈ tx.writes.flatMap Write.bornUnit := by
  cases hdb : db.device unitId with
  | some old => exact Or.inl ⟨hlock, nofun⟩
  | none =>
    refine Or.inr (Rows.acts_none (T := unitRows) (y := row) ?_)
    rw [← show unitRows.row db unitId = none from hdb, ← Rows.row_visible]
    exact hrow

theorem item_of_greatest (hkeyed : (stockMinting.ids state).Nodup) {orgId stockId : Nat}
    (h : (if state.itemShared itemId orgId then
      (greatest (state.stock.filter fun row => decide (row.itemId = itemId))).map Stock.id
      else none) = some stockId) :
    ∃ row, state.stockRow stockId = some row ∧ row.itemId = itemId := by
  obtain ⟨-, h⟩ := Option.ite_none_right_eq_some.mp h
  obtain ⟨row, hgreatest, rfl⟩ := Option.map_eq_some_iff.mp h
  obtain ⟨hrow, hitem⟩ := List.mem_filter.mp (mem_of_greatest hgreatest)
  exact ⟨row, Table.find?_eq_some hkeyed hrow (decide_eq_true rfl) fun other _ hother =>
    (of_decide_eq_true hother), of_decide_eq_true hitem⟩

theorem stockRow_inserted {tick : Nat} {seen : Db} (h : state.stockRow tick = none)
    (warehouseId : Nat) (quantity : Rat) (reason : Reason) :
    ∃ row, (engine.visible state (engine.exec (.insertStock itemId warehouseId quantity reason) tick
      state seen).2).stockRow tick = some row ∧ row.itemId = itemId := by
  have hacts := Rows.row_visible (T := stockRows) state
    (engine.exec (.insertStock itemId warehouseId quantity reason) tick state seen).2 tick
  rw [show stockRows.row state tick = none from h] at hacts
  have hopens : Write.onStock (.opens ⟨tick, itemId, warehouseId, false, 0⟩) tick none =
      some ⟨tick, itemId, warehouseId, false, 0⟩ := if_pos rfl
  have hfills : Write.onStock (.stock tick ⟨itemId, roundHalf quantity, reason⟩) tick
      (some ⟨tick, itemId, warehouseId, false, 0⟩) =
        some ⟨tick, itemId, warehouseId, false, 0 + roundHalf quantity⟩ :=
    congrArg some (if_pos rfl)
  refine ⟨⟨tick, itemId, warehouseId, false, 0 + roundHalf quantity⟩, hacts.trans ?_, rfl⟩
  exact (congrArg (Write.onStock (.stock tick ⟨itemId, roundHalf quantity, reason⟩) tick)
    hopens).trans hfills

/-- What a statement teaches is true. -/
theorem Facts.Fits.sent {tick : Nat} (h : facts.Fits unitId i db held tx)
    (hunits : unitRows.Grounded tick db held ghosts)
    (hstock : stockRows.Grounded tick db held ghosts) (htx : (ghosts i).tx = some tx) {op : Stmt}
    {learn : op.Res → Know} (hsent : facts.sent unitId op = some learn) {held' : List (Nat × Key)}
    (hheld : ∀ key, (i, key) ∈ held ∨ key ∈ locks op → (i, key) ∈ held') :
    let out := engine.exec op tick (engine.visible db tx.writes) (engine.snapshot db tx)
    ∃ facts', learn out.1 = some facts' ∧
      facts'.Fits unitId i db held' (next op db tx out.2) := by
  have hkeep : (i, Key.device unitId) ∈ held → (i, Key.device unitId) ∈ held' :=
    fun hlock => hheld _ (Or.inl hlock)
  have hquiet : ∀ {writes : List Write}, unitRows.Spares writes unitId →
      movesFor unitId (writes.flatMap Write.moves) = [] →
        facts.Fits unitId i db held' (next op db tx writes) :=
    fun hspares hmoves => h.quiet op hkeep hspares hmoves
  have hnothing : facts.Fits unitId i db held' (next op db tx []) :=
    hquiet (fun w hw => absurd hw List.not_mem_nil) rfl
  have hcurrent : engine.visible db (next op db tx []).writes = engine.visible db tx.writes := by
    rw [visible_next]
    rfl
  have hborn : (next op db tx []).writes.flatMap Write.bornUnit =
      tx.writes.flatMap Write.bornUnit := by
    change (tx.writes ++ []).flatMap Write.bornUnit = _
    rw [List.append_nil]
  cases op with
  | unit locking id scope =>
    obtain ⟨-, hlearn⟩ := Option.ite_none_left_eq_some.mp hsent
    obtain rfl := Option.some.inj hlearn
    refine hnothing.found (fun row hrow => ?_) fun hunit seen hseen => ?_
    · obtain ⟨hrow, -⟩ := Option.filter_eq_some_iff.mp hrow
      exact id_of_device hrow
    · subst hunit
      obtain ⟨hseen, -⟩ := Option.filter_eq_some_iff.mp hseen
      rw [hcurrent, hborn]
      cases locking with
      | true =>
        exact ⟨seen, hseen, rfl, fun _ => ⟨rfl,
          own_of_lock (hheld _ (Or.inr (List.mem_singleton_self _))) hseen⟩⟩
      | false =>
        obtain ⟨row, hrow, hsame⟩ := hunits.older_snapshot htx id seen hseen
        refine ⟨row, hrow, by rw [hsame], fun htouched => ?_⟩
        have hsome := h.touched htouched seen hseen
        obtain rfl := Option.some.inj (hsome.symm.trans hrow)
        exact ⟨rfl, (h.own (Or.inl htouched)).imp_left fun hown => ⟨hkeep hown.1, hown.2⟩⟩
  | pickupUnit id contractId orgId =>
    obtain ⟨-, hlearn⟩ := Option.ite_none_right_eq_some.mp hsent
    obtain rfl := Option.some.inj hlearn
    let reply := ((engine.visible db tx.writes).device id).filter fun row =>
      row.isOutstanding contractId && sharedWith orgId row.organizationId
    have hout : ∀ row, reply = some row → (engine.visible db tx.writes).device id = some row ∧
        row.isOutstanding contractId = true := fun row hrow => by
      obtain ⟨hrow, hscope⟩ := Option.filter_eq_some_iff.mp hrow
      exact ⟨hrow, (Bool.and_eq_true_iff.mp hscope).1⟩
    have hany : ¬(reply.any fun row => !row.isOutstanding contractId) = true := by
      cases hreply : reply with
      | none => simp only [Option.any_none, Bool.false_eq_true, not_false_eq_true]
      | some row =>
        simp only [Option.any_some, (hout row hreply).2, Bool.not_true, Bool.false_eq_true,
          not_false_eq_true]
    have hfound : ∃ facts', facts.found unitId id true reply = some facts' ∧
        facts'.Fits unitId i db held' (next (.pickupUnit id contractId orgId) db tx []) := by
      refine hnothing.found (fun row hrow => id_of_device (hout row hrow).1)
        fun hunit seen hseen => ?_
      subst hunit
      rw [hcurrent, hborn]
      exact ⟨seen, (hout seen hseen).1, rfl, fun _ => ⟨rfl,
        own_of_lock (hheld _ (Or.inr (List.mem_singleton_self _))) (hout seen hseen).1⟩⟩
    obtain ⟨facts', hfound, hfits⟩ := hfound
    exact ⟨facts', (if_neg hany).trans hfound, hfits⟩
  | insertUnit orgId serialNumber itemId origin =>
    obtain ⟨-, hlearn⟩ := Option.ite_none_right_eq_some.mp hsent
    obtain rfl := Option.some.inj hlearn
    by_cases hunit : tick = unitId
    · subst hunit
      obtain ⟨facts', hborn, hfits⟩ := h.born hunits htx
        (.insertUnit orgId serialNumber itemId origin)
        ⟨tick, some orgId, serialNumber, some itemId, Columns.fresh⟩ ⟨tick, itemId, origin⟩
        rfl rfl rfl
      exact ⟨facts', (if_pos rfl).trans hborn, hfits⟩
    · refine ⟨facts, if_neg hunit, hquiet (fun w hw d => ?_) rfl⟩
      obtain rfl := List.mem_singleton.mp hw
      change d.or (if tick = unitId then _ else none) = d
      rw [if_neg hunit, Option.or_none]
  | updateUnit id change =>
    by_cases hunit : id = unitId
    · subst hunit
      obtain ⟨hadmits, hlearn⟩ :=
        Option.ite_none_right_eq_some.mp ((if_neg (not_not.mpr rfl)).symm.trans hsent)
      obtain rfl := Option.some.inj hlearn
      have hitem : facts.item ≠ none := by
        unfold Facts.Admits at hadmits
        rw [if_pos h.opened] at hadmits
        exact hadmits
      obtain ⟨item, hitem⟩ := Option.ne_none_iff_exists'.mp hitem
      obtain ⟨row, hrow, -⟩ := h.item item hitem
      have hwrites : (engine.exec (.updateUnit id change) tick (engine.visible db tx.writes)
          (engine.snapshot db tx)).2 = [.unit id (change.apply row.columns)] := by
        rw [written_updateUnit, hrow, Option.elim_some]
      refine ⟨_, rfl, ?_⟩
      rw [hwrites]
      exact h.changed hunits htx (.updateUnit id change) change hrow
        (hheld _ (Or.inr (List.mem_singleton_self _)))
    · obtain rfl := Option.some.inj ((if_pos hunit).symm.trans hsent)
      refine ⟨facts, rfl, hquiet (fun w hw d => ?_) ?_⟩
      · cases written_of_exec hw with
        | unit id change row hrow =>
          change d.map (fun row => if id = unitId then _ else row) = d
          simp only [if_neg hunit, Option.map_id']
      · refine List.filter_eq_nil_iff.mpr fun move hmove => ?_
        obtain ⟨w, hw, hmove⟩ := List.mem_flatMap.mp hmove
        cases written_of_exec hw with
        | unit id change row hrow => cases hmove
  | greatestStock itemId orgId =>
    obtain ⟨-, hlearn⟩ := Option.ite_none_right_eq_some.mp hsent
    obtain rfl := Option.some.inj hlearn
    refine ⟨_, rfl, hnothing.stockedAt _ fun stockId hfound => ?_⟩
    rw [hcurrent]
    obtain ⟨row, hrow, hitem⟩ := item_of_greatest (hstock.fresh.snapshot_keyed htx).1 hfound
    obtain ⟨row', hrow', hsame⟩ := hstock.older_snapshot htx stockId row hrow
    exact ⟨row', hrow', by rw [← hitem, hsame]⟩
  | insertStock itemId warehouseId quantity reason =>
    obtain ⟨⟨-, hreason⟩, hlearn⟩ := Option.ite_none_right_eq_some.mp hsent
    obtain rfl := Option.some.inj hlearn
    refine ⟨_, rfl, (hquiet (fun w hw d => ?_) ?_).stockedAt _ fun stockId hfound => ?_⟩
    · cases written_of_exec hw <;> rfl
    · exact List.filter_cons_of_neg (by rw [decide_eq_true_eq]; exact hreason)
    · obtain rfl := Option.some.inj hfound
      have hnone : (engine.visible db tx.writes).stockRow tick = none :=
        (Rows.row_eq_none (T := stockRows)).mpr (hstock.fresh.tick_new htx)
      rw [visible_next]
      exact stockRow_inserted hnone warehouseId quantity reason
  | addStock id quantity reason =>
    have hopened : ¬facts.opened = false := by rw [h.opened]; simp only [Bool.true_eq_false, not_false_eq_true]
    replace hsent := (if_neg hopened).symm.trans hsent
    by_cases hreason : reason = .unit unitId
    · subst hreason
      obtain ⟨hmoves, hlearn⟩ :=
        Option.ite_none_right_eq_some.mp ((if_neg (not_not.mpr rfl)).symm.trans hsent)
      obtain rfl := Option.some.inj hlearn
      have hfound : ∃ row, (engine.visible db tx.writes).stockRow id = some row := by
        obtain ⟨-, -, hitem, hstocked⟩ := hmoves
        obtain ⟨itemId, hitemId⟩ := Option.isSome_iff_exists.mp hitem
        rw [hitemId, Option.map_some] at hstocked
        obtain ⟨row, hrow, -⟩ := h.stocked id itemId hstocked
        exact ⟨row, hrow⟩
      obtain ⟨row, hrow⟩ := hfound
      have hwrites : (engine.exec (.addStock id quantity (.unit unitId)) tick
          (engine.visible db tx.writes) (engine.snapshot db tx)).2 = [.stock id ⟨row.itemId,
            roundHalf (row.quantity + quantity) - row.quantity, .unit unitId⟩] := by
        rw [written_addStock, hrow, Option.elim_some]
      refine ⟨_, rfl, ?_⟩
      rw [hwrites]
      exact h.movesStock (.addStock id quantity (.unit unitId)) hmoves hrow hkeep
    · obtain rfl := Option.some.inj ((if_pos hreason).symm.trans hsent)
      refine ⟨facts, rfl, hquiet (fun w hw d => ?_) ?_⟩
      · cases written_of_exec hw
        rfl
      · refine List.filter_eq_nil_iff.mpr fun move hmove => ?_
        obtain ⟨w, hw, hmove⟩ := List.mem_flatMap.mp hmove
        cases written_of_exec hw with
        | moves id quantity reason row hrow =>
          obtain rfl := List.mem_singleton.mp hmove
          rw [decide_eq_true_eq]
          exact hreason
  | setReceived lineId target =>
    obtain rfl := Option.some.inj hsent
    refine ⟨facts, rfl, hquiet (fun w hw d => ?_) rfl⟩
    obtain rfl := List.mem_singleton.mp hw
    rfl
  | setOrder id status =>
    obtain rfl := Option.some.inj hsent
    refine ⟨facts, rfl, hquiet (fun w hw d => ?_) rfl⟩
    obtain rfl := List.mem_singleton.mp hw
    rfl
  | _ =>
    obtain rfl := Option.some.inj hsent
    exact ⟨facts, rfl, hnothing⟩

end Within

end FireIsp.Inventory
