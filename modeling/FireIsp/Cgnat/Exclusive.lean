import FireIsp.Base.Discipline
import FireIsp.Cgnat.Ingest

/-!
# Exclusive ownership of public tuples

Batches interleaved statement by statement.  A binding is inserted only while its session
holds the lock of its public tuple and has just found no binding in the way; releases only
shorten intervals, under the lock of their row.  So in every committed state no two bindings
share a public port at a nominal instant.
-/

namespace FireIsp.Cgnat

open Txn Fallible

/-- The attribution tables with all requests on them. -/
abbrev System := Sys Db Write Key Stmt Stmt.Res Empty (fun _ => Empty)
  (Except Refusal (List Accepted))

def BindingRow.nominalEnd (row : BindingRow) : Int := row.releasedAt.getD maxTimestamp

/-- Both bindings hold a common public port at a common nominal instant. -/
def BindingRow.Collides (a b : BindingRow) : Prop :=
  a.tuple = b.tuple ∧ PortsMeet a.translation b.translation ∧
    a.allocatedAt < b.nominalEnd ∧ b.allocatedAt < a.nominalEnd

def Exclusive (rows : List BindingRow) : Prop :=
  ∀ a ∈ rows, ∀ b ∈ rows, a.id ≠ b.id → ¬a.Collides b

/-- The same allocation, still open or released since. -/
structure BindingRow.Within (row base : BindingRow) : Prop where
  id : row.id = base.id
  tuple : row.tuple = base.tuple
  translation : row.translation = base.translation
  allocatedAt : row.allocatedAt = base.allocatedAt
  releasedAt : row.releasedAt = base.releasedAt ∨
    base.releasedAt = none ∧ ∃ e ≤ maxTimestamp, row.releasedAt = some e

theorem BindingRow.Within.refl (row : BindingRow) : row.Within row :=
  ⟨rfl, rfl, rfl, rfl, Or.inl rfl⟩

variable {a b : BindingRow}

theorem BindingRow.Within.trans {c : BindingRow} (hab : a.Within b) (hbc : b.Within c) :
    a.Within c := by
  refine ⟨hab.id.trans hbc.id, hab.tuple.trans hbc.tuple, hab.translation.trans hbc.translation,
    hab.allocatedAt.trans hbc.allocatedAt, ?_⟩
  rcases hab.releasedAt with h | ⟨hb, e, he, ha⟩
  · rw [h]
    exact hbc.releasedAt
  · rcases hbc.releasedAt with h' | ⟨hc, -⟩
    · exact Or.inr ⟨h' ▸ hb, e, he, ha⟩
    · exact Or.inr ⟨hc, e, he, ha⟩

theorem BindingRow.Within.nominalEnd {row base : BindingRow} (h : row.Within base) :
    row.nominalEnd ≤ base.nominalEnd := by
  unfold BindingRow.nominalEnd
  rcases h.releasedAt with he | ⟨hb, e, he, hr⟩
  · rw [he]
  · rw [hb, hr]
    exact he

theorem BindingRow.Collides.of_within {a' b' : BindingRow} (h : a.Collides b) (ha : a.Within a')
    (hb : b.Within b') : a'.Collides b' := by
  obtain ⟨ht, hp, h1, h2⟩ := h
  refine ⟨by rw [← ha.tuple, ← hb.tuple, ht], by rw [← ha.translation, ← hb.translation]; exact hp,
    ?_, ?_⟩
  · rw [← ha.allocatedAt]
    exact h1.trans_le hb.nominalEnd
  · rw [← hb.allocatedAt]
    exact h2.trans_le ha.nominalEnd

theorem BindingRow.Collides.symm (h : a.Collides b) : b.Collides a :=
  ⟨h.1.symm, ⟨h.2.1.2, h.2.1.1⟩, h.2.2.2, h.2.2.1⟩

theorem BindingRow.Within.inTheWay {row base : BindingRow} {org : Nat} {binding : Binding}
    (h : row.Within base) (hw : row.inTheWay org binding = true) :
    base.inTheWay org binding = true := by
  simp only [BindingRow.inTheWay, Bool.and_eq_true, decide_eq_true_eq] at hw ⊢
  obtain ⟨⟨⟨ht, hp⟩, ha⟩, he⟩ := hw
  refine ⟨⟨⟨h.tuple ▸ ht, h.translation ▸ hp⟩, h.allocatedAt ▸ ha⟩, ?_⟩
  rcases h.releasedAt with hr | ⟨hb, -⟩
  · exact hr ▸ he
  · rw [hb]
    exact nofun

theorem Exclusive.of_within {base : List BindingRow} (hbase : Exclusive base)
    (ha : ∃ v ∈ base, a.Within v) (hb : ∃ v ∈ base, b.Within v) (hne : a.id ≠ b.id) :
    ¬a.Collides b := by
  obtain ⟨v, hv, hav⟩ := ha
  obtain ⟨w, hw, hbw⟩ := hb
  intro hc
  exact hbase v hv w hw (by rw [← hav.id, ← hbw.id]; exact hne) (hc.of_within hav hbw)

section Program

/-- What an ingest knows between two statements. -/
inductive Know
  | idle
  | opened
  | locked (key : TupleKey)
  /-- It holds the lock of the tuple of the record and no row is in its way. -/
  | clear (org : Nat) (binding : Binding)
  deriving DecidableEq

/-- The row is the open allocation of the record. -/
def Binding.Allocates (org : Nat) (binding : Binding) (row : BindingRow) : Prop :=
  row.tuple = binding.tuple org ∧ row.translation = binding.translation ∧
    row.allocatedAt = binding.allocatedAt ∧ row.releasedAt = none ∧ binding.releasedAt = none

instance (org : Nat) (binding : Binding) (row : BindingRow) :
    Decidable (binding.Allocates org row) := by
  unfold Binding.Allocates
  infer_instance

/-- What a statement of the transaction teaches. -/
def learn (know : Know) : (op : Stmt) → Option (op.Res → Know)
  | .insertTupleLock key => some fun _ => .locked key
  | .selectTupleLock key => some fun _ => .locked key
  | .selectOverlaps org binding => some fun rows =>
    if know = .locked (binding.tuple org) ∧ rows = [] then .clear org binding else .opened
  | .insertBinding row =>
    match know with
    | .clear org binding => if binding.Allocates org row then some fun _ => .opened else none
    | _ => none
  | .updateBinding _ _ release =>
    if release.releasedAt ≤ maxTimestamp then some fun _ => .opened else none
  | _ => some fun _ => .opened

/-- The discipline of an ingest. -/
def discipline : Discipline Know Stmt Stmt.Res Empty fun _ => Empty where
  started know := if know = .idle then some .opened else none
  committed know := if know = .idle then none else some .idle
  rolledBack know := if know = .idle then none else some .idle
  sent know via op := if know = .idle ∨ via = .pool then none else learn know op
  asked _ _ := none

/-- The transaction is open. -/
def Know.Open (know : Know) : Prop := know ≠ .idle

/-- A statement that neither inserts nor updates a binding. -/
def Stmt.KeepsBindings : Stmt → Prop
  | .insertBinding _ => False
  | .updateBinding .. => False
  | _ => True

variable {op : Stmt}

theorem learn_of_keeps (know : Know) (hop : op.KeepsBindings) :
    ∃ f, learn know op = some f ∧ ∀ r, (f r).Open := by
  cases op with
  | insertBinding row => exact hop.elim
  | updateBinding id org release => exact hop.elim
  | insertTupleLock key => exact ⟨_, rfl, nofun⟩
  | selectTupleLock key => exact ⟨_, rfl, nofun⟩
  | selectOverlaps org binding =>
    refine ⟨_, rfl, fun r => ?_⟩
    unfold Know.Open
    split <;> nofun
  | _ => exact ⟨_, rfl, nofun⟩

variable {know : Know}

theorem discipline_sent (hknow : know.Open) (op : Stmt) :
    discipline.sent know .conn op = learn know op := by
  have hnot : ¬(know = .idle ∨ Via.conn = .pool) := by
    rintro (h | h)
    · exact hknow h
    · nomatch h
  exact if_neg hnot

theorem follows_execute (hknow : know.Open) (hop : op.KeepsBindings) :
    (execute op).Follows discipline know fun _ k => k.Open := by
  obtain ⟨f, hf, ho⟩ := learn_of_keeps know hop
  exact ⟨f, (discipline_sent hknow op).trans hf, ho⟩

/-- The transaction stays open whatever is returned. -/
def Opens {A : Type} (p : Request A) : Prop :=
  ∀ know : Know, know.Open → p.Follows discipline know fun _ k => k.Open

theorem opens_pure {A : Type} (value : A) : Opens (pure value) := fun _ hknow => hknow

theorem opens_execute {A : Type} {f : op.Res → Request A} (hop : op.KeepsBindings)
    (hf : ∀ r, Opens (f r)) : Opens (execute op >>= f) :=
  fun _ hknow => (follows_execute hknow hop).bind fun r k hk => hf r k hk

theorem opens_bind {A B : Type} {p : Request A} {f : A → Request B} (hp : Opens p)
    (hf : ∀ r, Opens (f r)) : Opens (p >>= f) :=
  fun know hknow => (hp know hknow).bind fun r k hk => hf r k hk

theorem opens_resolveSession (org : Nat) (binding : Binding) :
    Opens (resolveSession org binding) := by
  refine opens_execute trivial fun rows => ?_
  split
  · split
    · refine opens_execute trivial fun evidence => ?_
      split
      · exact opens_pure _
      · exact opens_pure _
    · exact opens_pure _
  · exact opens_pure _

theorem follows_assertExclusive (hknow : know.Open) (org : Nat) (binding : Binding) :
    (assertExclusivePublicAllocation org binding).Follows discipline know fun r k =>
      k.Open ∧ (r = .ok () → k = .clear org binding) := by
  have hl : (Know.locked (binding.tuple org)).Open := nofun
  refine ⟨fun _ => .locked (binding.tuple org), discipline_sent hknow _, fun _ => ?_⟩
  refine ⟨fun _ => .locked (binding.tuple org), discipline_sent hl _, fun _ => ?_⟩
  refine ⟨_, discipline_sent hl _, fun rows => ?_⟩
  cases rows with
  | nil =>
    refine ⟨?_, fun _ => ?_⟩
    · exact fun h => by simp at h
    · exact if_pos ⟨rfl, rfl⟩
  | cons row rows =>
    refine ⟨?_, fun h => nomatch h⟩
    exact fun h => by simp at h

theorem opens_ingestAllocation (org : Nat) (config : ExporterConfig) {binding : Binding}
    (hopen : binding.releasedAt = none) (status : SequenceStatus) :
    Opens (ingestAllocation org config binding status) := by
  refine opens_execute trivial fun rows => ?_
  cases rows with
  | cons row rows => exact opens_pure _
  | nil =>
    refine opens_bind (opens_resolveSession org binding) fun session => ?_
    cases session with
    | error e => exact opens_pure _
    | ok session =>
      intro know hknow
      refine (follows_assertExclusive hknow org binding).bind fun r k hk => ?_
      cases r with
      | error e => exact hk.1
      | ok u =>
        have hclear := hk.2 rfl
        have hrow : binding.Allocates org (binding.row org config session status) :=
          ⟨rfl, rfl, rfl, rfl, hopen⟩
        refine ⟨fun _ => .opened, ?_, fun inserted => ?_⟩
        · rw [discipline_sent hk.1, hclear]
          exact if_pos hrow
        · cases inserted with
          | none => exact nofun
          | some id => exact nofun

theorem opens_ingestRelease (org : Nat) (config : ExporterConfig) (binding : Binding)
    {releasedAt : Int} (hrange : releasedAt ≤ maxTimestamp) (status : SequenceStatus) :
    Opens (ingestRelease org config binding releasedAt status) := by
  refine opens_execute trivial fun rows => ?_
  split
  · split
    · exact opens_pure _
    · split
      · exact opens_pure _
      · split
        · exact opens_pure _
        · refine opens_execute trivial fun covering => ?_
          split
          · exact opens_pure _
          · intro know hknow
            refine ⟨fun _ => .opened, ?_, fun affected => ?_⟩
            · rw [discipline_sent hknow]
              exact if_pos hrange
            · match affected with
              | 0 => exact nofun
              | 1 => exact nofun
              | _ + 2 => exact nofun
  · exact opens_pure _

theorem opens_ingestEvent (canonicalPayloadHash : Nat → Binding → String) (org token : Nat)
    {binding : Binding} (hwell : binding.WellFormed) :
    Opens (ingestEvent canonicalPayloadHash org token binding) := by
  refine opens_execute trivial fun configs => ?_
  split
  · split
    · exact opens_pure _
    · refine opens_execute trivial fun stored => ?_
      split
      · split
        · exact opens_pure _
        · split
          · exact opens_pure _
          · exact opens_pure _
      · refine opens_bind ?_ fun seen => opens_bind ?_ fun applied => ?_
        · unfold bootSeenBefore
          split
          · exact opens_execute trivial fun _ => opens_pure _
          · exact opens_pure _
        · unfold applyEvent
          split
          · rename_i releasedAt _ hreleased
            exact opens_ingestRelease org _ binding (hwell.inRange releasedAt hreleased) _
          · rename_i hother
            refine opens_ingestAllocation org _ ?_ _
            cases he : binding.eventType with
            | allocate => exact hwell.openAllocation he
            | release =>
              cases hr : binding.releasedAt with
              | none => rfl
              | some releasedAt => exact (hother releasedAt he hr).elim
        · cases applied with
          | error e => exact opens_pure _
          | ok bindingId =>
            refine opens_execute trivial fun inserted => ?_
            cases inserted with
            | none => exact opens_pure _
            | some id => exact opens_execute trivial fun _ => opens_pure _
  · exact opens_pure _

theorem opens_ingestEvents (canonicalPayloadHash : Nat → Binding → String) (org token : Nat)
    {bindings : List Binding} (hwell : ∀ binding ∈ bindings, binding.WellFormed) :
    Opens (ingestEvents canonicalPayloadHash org token bindings) := by
  induction bindings with
  | nil => exact opens_pure _
  | cons binding rest ih =>
    refine opens_bind (opens_ingestEvent canonicalPayloadHash org token
      (hwell binding List.mem_cons_self)) fun accepted => ?_
    cases accepted with
    | error e => exact opens_pure _
    | ok accepted =>
      refine opens_bind (ih fun b hb => hwell b (List.mem_cons_of_mem binding hb))
        fun others => ?_
      cases others with
      | error e => exact opens_pure _
      | ok others => exact opens_pure _

theorem follows_ingestBatch (canonicalPayloadHash : Nat → Binding → String) (settings : Settings)
    (now : Int) (org token : Nat) (records : List Record) :
    (ingestBatch canonicalPayloadHash settings now org token records).Follows discipline .idle
      fun _ _ => True := by
  unfold ingestBatch
  split
  · trivial
  · split
    · trivial
    · split
      · trivial
      · rename_i bindings hb
        have hwell : ∀ binding ∈ bindings, binding.WellFormed := fun binding hmem => by
          obtain ⟨record, -, hr⟩ := ok_of_mapM hb binding hmem
          exact (normalizeBinding_spec hr).1
        refine ⟨.opened, rfl, ?_⟩
        refine (opens_ingestEvents canonicalPayloadHash org token hwell .opened nofun).bind
          fun r k hk => ?_
        cases r with
        | error e => exact ⟨.idle, if_neg hk, trivial⟩
        | ok accepted =>
          have hreceipt := fun row : Receipt =>
            follows_execute hk (show (Stmt.insertReceipt row).KeepsBindings from trivial)
          exact (hreceipt _).bind fun _ k hk => ⟨.idle, if_neg hk, trivial⟩

end Program

section Writes

def bindingWrites (writes : List Write) : List BindingRow :=
  writes.filterMap fun
    | .binding row => some row
    | _ => none

/-- Binding rows a session has written and not committed. -/
def news (ghost : Ghost Db Write Know) : List BindingRow :=
  match ghost.tx with
  | none => []
  | some tx => bindingWrites tx.writes

/-- Bindings once the session commits. -/
def mine (db : Db) (ghost : Ghost Db Write Know) : List BindingRow :=
  Table.putAll BindingRow.id db.bindings (news ghost)

theorem visible_bindings (grace : Int) (db : Db) (writes : List Write) :
    ((engine grace).visible db writes).bindings =
      Table.putAll BindingRow.id db.bindings (bindingWrites writes) := by
  induction writes generalizing db with
  | nil => rfl
  | cons w writes ih =>
    rw [Engine.visible_cons, ih]
    cases w <;> rfl

theorem bindingWrites_exec {op : Stmt} (hop : op.KeepsBindings) (grace : Int) (tick : Nat)
    (now view : Db) : bindingWrites (exec grace op tick now view).2 = [] := by
  cases op with
  | insertBinding row => exact hop.elim
  | updateBinding id org release => exact hop.elim
  | insertEvent row =>
    simp only [exec]
    split <;> rfl
  | updateConfig id org advance =>
    simp only [exec]
    split <;> rfl
  | _ => rfl

theorem exec_insertBinding (grace : Int) (row : BindingRow) (tick : Nat) (now view : Db) :
    bindingWrites (exec grace (.insertBinding row) tick now view).2 = [] ∨
      bindingWrites (exec grace (.insertBinding row) tick now view).2 = [{ row with id := tick }] := by
  simp only [exec]
  split
  · exact Or.inr rfl
  · exact Or.inl rfl

theorem exec_updateBinding (grace : Int) (id org : Nat) (release : Release) (tick : Nat)
    (now view : Db) :
    bindingWrites (exec grace (.updateBinding id org release) tick now view).2 = [] ∨
      ∃ row ∈ now.bindings, row.id = id ∧ row.releasedAt = none ∧
        bindingWrites (exec grace (.updateBinding id org release) tick now view).2 =
          [row.released release] := by
  simp only [exec]
  split
  · exact Or.inl rfl
  · rename_i row hrow
    have hmem := List.mem_of_find?_eq_some hrow
    have hp := List.find?_some hrow
    simp only [decide_eq_true_eq] at hp
    exact Or.inr ⟨row, hmem, hp.1, hp.2.2.1, rfl⟩

theorem released_within {row : BindingRow} {release : Release} (hopen : row.releasedAt = none)
    (hrange : release.releasedAt ≤ maxTimestamp) : (row.released release).Within row :=
  ⟨rfl, rfl, rfl, rfl, Or.inr ⟨hopen, release.releasedAt, hrange, rfl⟩⟩

end Writes

section Invariant

/-- An uncommitted row is a shortened locked one, or new under the lock of its tuple. -/
def Claimed (db : Db) (held : List (Nat × Key)) (i : Nat) (row : BindingRow) : Prop :=
  (∃ base ∈ db.bindings, row.Within base ∧ (i, Key.binding row.id) ∈ held) ∨
    (row.id ∉ db.bindings.map BindingRow.id ∧ (i, Key.tuple row.tuple) ∈ held)

/-- What the knowledge of a session means. -/
def Knows (db : Db) (held : List (Nat × Key)) (i : Nat) (ghost : Ghost Db Write Know) :
    Know → Prop
  | .idle => ghost.tx = none
  | .opened => ghost.tx ≠ none
  | .locked key => ghost.tx ≠ none ∧ (i, Key.tuple key) ∈ held
  | .clear org binding => ghost.tx ≠ none ∧ (i, Key.tuple (binding.tuple org)) ∈ held ∧
      ∀ row ∈ mine db ghost, row.inTheWay org binding = false

/-- Exclusivity with transactions in flight. -/
structure Owned (tick : Nat) (db : Db) (held : List (Nat × Key))
    (ghosts : Nat → Ghost Db Write Know) : Prop where
  keyed : Table.Keyed BindingRow.id db.bindings
  below : ∀ row ∈ db.bindings, row.id < tick
  newsBelow : ∀ i, ∀ row ∈ news (ghosts i), row.id < tick
  locks : Sys.Exclusive held
  apart : ∀ i j, i ≠ j → ∀ a ∈ news (ghosts i), ∀ b ∈ news (ghosts j), a.id ≠ b.id
  claimed : ∀ i, ∀ row ∈ news (ghosts i), Claimed db held i row
  safe : Exclusive db.bindings
  safeIn : ∀ i, Exclusive (mine db (ghosts i))
  knows : ∀ i know, (ghosts i).know = some know → Knows db held i (ghosts i) know
  closed : ∀ i, (ghosts i).know = none → (ghosts i).tx = none

variable {tick : Nat} {db : Db} {held held' : List (Nat × Key)}
  {ghosts : Nat → Ghost Db Write Know} {i : Nat} {ghost : Ghost Db Write Know}

theorem mine_of_news_nil (hnews : news ghost = []) : mine db ghost = db.bindings := by
  rw [mine, hnews]
  rfl

variable {row : BindingRow}

theorem mem_mine_of_untouched (hkeyed : Table.Keyed BindingRow.id db.bindings)
    (hrow : row ∈ db.bindings) (hnot : ∀ new ∈ news ghost, new.id ≠ row.id) :
    row ∈ mine db ghost := by
  refine (Table.mem_putAll hkeyed).mpr (Or.inr ⟨hrow, fun hmem => ?_⟩)
  obtain ⟨new, hnew, hid⟩ := List.mem_map.mp hmem
  exact hnot new hnew hid

theorem mem_mine (hkeyed : Table.Keyed BindingRow.id db.bindings) (hrow : row ∈ mine db ghost) :
    row ∈ news ghost ∨ (row ∈ db.bindings ∧ ∀ new ∈ news ghost, new.id ≠ row.id) := by
  rcases (Table.mem_putAll hkeyed).mp hrow with h | ⟨hmem, hnot⟩
  · exact Or.inl (Table.mem_of_latest h).1
  · exact Or.inr ⟨hmem, fun new hnew e => hnot (e ▸ List.mem_map_of_mem hnew)⟩

theorem Claimed.mono (hheld : ∀ k, (i, k) ∈ held → (i, k) ∈ held') (h : Claimed db held i row) :
    Claimed db held' i row := by
  rcases h with ⟨base, hbase, hw, hk⟩ | ⟨hnew, hk⟩
  · exact Or.inl ⟨base, hbase, hw, hheld _ hk⟩
  · exact Or.inr ⟨hnew, hheld _ hk⟩

variable {know : Know}

theorem Knows.mono (hheld : ∀ k, (i, k) ∈ held → (i, k) ∈ held') (h : Knows db held i ghost know) :
    Knows db held' i ghost know := by
  cases know with
  | idle => exact h
  | opened => exact h
  | locked key => exact ⟨h.1, hheld _ h.2⟩
  | clear org binding => exact ⟨h.1, hheld _ h.2.1, h.2.2⟩

theorem Owned.update (h : Owned tick db held ghosts) (hlocks : Sys.Exclusive held')
    (hother : ∀ j k, j ≠ i → (j, k) ∈ held → (j, k) ∈ held')
    (hbelow : ∀ row ∈ news ghost, row.id < tick + 1)
    (hapart : ∀ j, j ≠ i → ∀ a ∈ news ghost, ∀ b ∈ news (ghosts j), a.id ≠ b.id)
    (hclaimed : ∀ row ∈ news ghost, Claimed db held' i row)
    (hsafe : Exclusive (mine db ghost))
    (hknows : ∀ know, ghost.know = some know → Knows db held' i ghost know)
    (hclosed : ghost.know = none → ghost.tx = none) :
    Owned (tick + 1) db held' (Function.update ghosts i ghost) where
  keyed := h.keyed
  below row hrow := Nat.lt_succ_of_lt (h.below row hrow)
  newsBelow j row hrow := by
    by_cases hj : j = i
    · subst hj
      rw [Function.update_self] at hrow
      exact hbelow row hrow
    · rw [Function.update_of_ne hj] at hrow
      exact Nat.lt_succ_of_lt (h.newsBelow j row hrow)
  locks := hlocks
  apart j k hjk a ha b hb := by
    by_cases hj : j = i
    · subst hj
      rw [Function.update_self] at ha
      rw [Function.update_of_ne (Ne.symm hjk)] at hb
      exact hapart k (Ne.symm hjk) a ha b hb
    · rw [Function.update_of_ne hj] at ha
      by_cases hk : k = i
      · subst hk
        rw [Function.update_self] at hb
        exact (hapart j hj b hb a ha).symm
      · rw [Function.update_of_ne hk] at hb
        exact h.apart j k hjk a ha b hb
  claimed j row hrow := by
    by_cases hj : j = i
    · subst hj
      rw [Function.update_self] at hrow
      exact hclaimed row hrow
    · rw [Function.update_of_ne hj] at hrow
      exact (h.claimed j row hrow).mono fun k => hother j k hj
  safe := h.safe
  safeIn j := by
    by_cases hj : j = i
    · subst hj
      rw [Function.update_self]
      exact hsafe
    · rw [Function.update_of_ne hj]
      exact h.safeIn j
  knows j know hknow := by
    by_cases hj : j = i
    · subst hj
      rw [Function.update_self] at hknow ⊢
      exact hknows know hknow
    · rw [Function.update_of_ne hj] at hknow ⊢
      exact (h.knows j know hknow).mono fun k => hother j k hj
  closed j hnone := by
    by_cases hj : j = i
    · subst hj
      rw [Function.update_self] at hnone ⊢
      exact hclosed hnone
    · rw [Function.update_of_ne hj] at hnone ⊢
      exact h.closed j hnone

theorem Owned.drop (h : Owned tick db held ghosts) (hnews : news ghost = [])
    (hknows : ∀ know, ghost.know = some know →
      Knows db (Sys.releasedBy held i) i ghost know)
    (hclosed : ghost.know = none → ghost.tx = none) :
    Owned (tick + 1) db (Sys.releasedBy held i) (Function.update ghosts i ghost) := by
  have hnone : ∀ row, row ∉ news ghost := fun row hrow => by
    rw [hnews] at hrow
    exact List.not_mem_nil hrow
  refine h.update (Sys.exclusive_releasedBy h.locks) (fun j k => Sys.mem_releasedBy_other)
    (fun row hrow => absurd hrow (hnone row)) (fun _ _ a ha => absurd ha (hnone a))
    (fun row hrow => absurd hrow (hnone row)) ?_ hknows hclosed
  rw [mine_of_news_nil hnews]
  exact h.safe

variable {db' : Db} {j : Nat}

theorem Owned.versions (h : Owned tick db held ghosts) (hij : i ≠ j)
    (hdb : db'.bindings = mine db (ghosts i)) {x : BindingRow} (hx : x ∈ mine db' (ghosts j)) :
    ((∃ v ∈ mine db (ghosts i), x.Within v) ∨ (j, Key.tuple x.tuple) ∈ held) ∧
      ((∃ v ∈ mine db (ghosts j), x.Within v) ∨ (i, Key.tuple x.tuple) ∈ held) := by
  have hkeyed' : Table.Keyed BindingRow.id db'.bindings := hdb ▸ Table.keyed_putAll h.keyed
  rcases (Table.mem_putAll hkeyed').mp hx with hlatest | ⟨hmem, hnot⟩
  · have hnew : x ∈ news (ghosts j) := (Table.mem_of_latest hlatest).1
    have hown : x ∈ mine db (ghosts j) := (Table.mem_putAll h.keyed).mpr (Or.inl hlatest)
    refine ⟨?_, Or.inl ⟨x, hown, .refl x⟩⟩
    rcases h.claimed j x hnew with ⟨base, hbase, hw, -⟩ | ⟨-, hlock⟩
    · refine Or.inl ⟨base, mem_mine_of_untouched h.keyed hbase fun other hother => ?_, hw⟩
      rw [← hw.id]
      exact h.apart i j hij other hother x hnew
    · exact Or.inr hlock
  · have huntouched : ∀ new ∈ news (ghosts j), new.id ≠ x.id := fun new hnew e =>
      hnot (e ▸ List.mem_map_of_mem hnew)
    rw [hdb] at hmem
    refine ⟨Or.inl ⟨x, hmem, .refl x⟩, ?_⟩
    rcases mem_mine h.keyed hmem with hnew | ⟨hold, -⟩
    · rcases h.claimed i x hnew with ⟨base, hbase, hw, -⟩ | ⟨-, hlock⟩
      · refine Or.inl ⟨base, mem_mine_of_untouched h.keyed hbase fun other hother => ?_, hw⟩
        rw [← hw.id]
        exact huntouched other hother
      · exact Or.inr hlock
    · exact Or.inl ⟨x, mem_mine_of_untouched h.keyed hold huntouched, .refl x⟩

theorem Owned.safe_after (h : Owned tick db held ghosts) (hij : i ≠ j)
    (hdb : db'.bindings = mine db (ghosts i)) : Exclusive (mine db' (ghosts j)) := by
  intro a ha b hb hne hc
  obtain ⟨hai, haj⟩ := h.versions hij hdb ha
  obtain ⟨hbi, hbj⟩ := h.versions hij hdb hb
  by_cases hlock : (j, Key.tuple a.tuple) ∈ held
  · have hfree : (i, Key.tuple a.tuple) ∉ held := fun hi => hij (h.locks i j _ hi hlock)
    exact (h.safeIn j).of_within (haj.resolve_right hfree)
      (hbj.resolve_right (hc.1 ▸ hfree)) hne hc
  · exact (h.safeIn i).of_within (hai.resolve_right hlock)
      (hbi.resolve_right (hc.1 ▸ hlock)) hne hc

theorem Owned.claimed_after (h : Owned tick db held ghosts) (hij : i ≠ j)
    (hdb : db'.bindings = mine db (ghosts i)) (hrow : row ∈ news (ghosts j)) :
    Claimed db' held j row := by
  rcases h.claimed j row hrow with ⟨base, hbase, hw, hlock⟩ | ⟨hnew, hlock⟩
  · refine Or.inl ⟨base, ?_, hw, hlock⟩
    rw [hdb]
    refine mem_mine_of_untouched h.keyed hbase fun other hother => ?_
    rw [← hw.id]
    exact h.apart i j hij other hother row hrow
  · refine Or.inr ⟨fun hmem => ?_, hlock⟩
    obtain ⟨other, hother, hid⟩ := List.mem_map.mp hmem
    rw [hdb] at hother
    rcases mem_mine h.keyed hother with hnews | ⟨hold, -⟩
    · exact h.apart i j hij other hnews row hrow hid
    · exact hnew (hid ▸ List.mem_map_of_mem hold)

theorem Owned.knows_after (h : Owned tick db held ghosts) (hij : i ≠ j)
    (hdb : db'.bindings = mine db (ghosts i)) (hknow : (ghosts j).know = some know) :
    Knows db' held j (ghosts j) know := by
  have hk := h.knows j know hknow
  cases know with
  | idle => exact hk
  | opened => exact hk
  | locked key => exact hk
  | clear org binding =>
    refine ⟨hk.1, hk.2.1, fun row hrow => ?_⟩
    by_contra hway
    rw [Bool.not_eq_false] at hway
    have htuple : row.tuple = binding.tuple org := by
      simp only [BindingRow.inTheWay, Bool.and_eq_true, decide_eq_true_eq] at hway
      exact hway.1.1.1
    have hfree : (i, Key.tuple row.tuple) ∉ held := fun hi =>
      hij (h.locks i j _ hi (htuple ▸ hk.2.1))
    obtain ⟨v, hv, hw⟩ := (h.versions hij hdb hrow).2.resolve_right hfree
    exact Bool.false_ne_true ((hk.2.2 v hv).symm.trans (hw.inTheWay hway))

theorem Owned.commit (h : Owned tick db held ghosts)
    (hdb : db'.bindings = mine db (ghosts i)) (hghost : ghost = ⟨some .idle, none⟩) :
    Owned (tick + 1) db' (Sys.releasedBy held i) (Function.update ghosts i ghost) := by
  have hkeyed' : Table.Keyed BindingRow.id db'.bindings := hdb ▸ Table.keyed_putAll h.keyed
  have hbelow' : ∀ row ∈ db'.bindings, row.id < tick := fun row hrow => by
    rw [hdb] at hrow
    rcases mem_mine h.keyed hrow with hnew | ⟨hold, -⟩
    · exact h.newsBelow i row hnew
    · exact h.below row hold
  have hafter : Owned tick db' held (Function.update ghosts i ⟨none, none⟩) :=
    { keyed := hkeyed'
      below := hbelow'
      newsBelow := fun j row hrow => by
        by_cases hj : j = i
        · subst hj
          rw [Function.update_self] at hrow
          exact absurd hrow List.not_mem_nil
        · rw [Function.update_of_ne hj] at hrow
          exact h.newsBelow j row hrow
      locks := h.locks
      apart := fun j k hjk a ha b hb => by
        by_cases hj : j = i
        · subst hj
          rw [Function.update_self] at ha
          exact absurd ha List.not_mem_nil
        · by_cases hk : k = i
          · subst hk
            rw [Function.update_self] at hb
            exact absurd hb List.not_mem_nil
          · rw [Function.update_of_ne hj] at ha
            rw [Function.update_of_ne hk] at hb
            exact h.apart j k hjk a ha b hb
      claimed := fun j row hrow => by
        by_cases hj : j = i
        · subst hj
          rw [Function.update_self] at hrow
          exact absurd hrow List.not_mem_nil
        · rw [Function.update_of_ne hj] at hrow
          exact h.claimed_after (Ne.symm hj) hdb hrow
      safe := hdb ▸ h.safeIn i
      safeIn := fun j => by
        by_cases hj : j = i
        · subst hj
          rw [Function.update_self, mine_of_news_nil rfl, hdb]
          exact h.safeIn j
        · rw [Function.update_of_ne hj]
          exact h.safe_after (Ne.symm hj) hdb
      knows := fun j know hknow => by
        by_cases hj : j = i
        · subst hj
          rw [Function.update_self] at hknow
          nomatch hknow
        · rw [Function.update_of_ne hj] at hknow ⊢
          exact h.knows_after (Ne.symm hj) hdb hknow
      closed := fun j hnone => by
        by_cases hj : j = i
        · subst hj
          rw [Function.update_self]
        · rw [Function.update_of_ne hj] at hnone ⊢
          exact h.closed j hnone }
  have hdrop : Owned (tick + 1) db' (Sys.releasedBy held i)
      (Function.update (Function.update ghosts i ⟨none, none⟩) i ghost) :=
    hafter.drop (by rw [hghost]; rfl)
    (fun know hknow => by rw [hghost] at hknow ⊢; cases hknow; rfl) (fun hnone => by rw [hghost])
  rwa [Function.update_idem] at hdrop

/-- The transaction after a statement. -/
def stepped (grace : Int) (op : Stmt) (tick : Nat) (db : Db) (tx : Tx Db Write) : Tx Db Write :=
  let E := engine grace
  { E.fix op db tx with
    writes := tx.writes ++ (exec grace op tick (E.current db tx) (E.snapshot db (E.fix op db tx))).2 }

theorem current_bindings (grace : Int) (db : Db) (know : Option Know) (tx : Tx Db Write) :
    ((engine grace).current db tx).bindings = mine db ⟨know, some tx⟩ :=
  visible_bindings grace db tx.writes

theorem news_stepped (grace : Int) (op : Stmt) (know : Option Know) (tx : Tx Db Write) :
    news ⟨know, some (stepped grace op tick db tx)⟩ = bindingWrites tx.writes ++
      bindingWrites (exec grace op tick ((engine grace).current db tx)
        ((engine grace).snapshot db ((engine grace).fix op db tx))).2 :=
  List.filterMap_append

variable {grace : Int} {op : Stmt} {tx : Tx Db Write}

theorem knows_learn {f : op.Res → Know} (hop : op.KeepsBindings) (hlearn : learn know op = some f)
    (hknows : Knows db held i ⟨some know, some tx⟩ know) {know' : Know}
    (hknow' : know' = f (exec grace op tick ((engine grace).current db tx)
      ((engine grace).snapshot db ((engine grace).fix op db tx))).1) :
    Knows db (held ++ ((engine grace).locks op ((engine grace).current db tx)).map fun k => (i, k))
      i ⟨some know', some (stepped grace op tick db tx)⟩ know' := by
  have hopen : ∀ k : Know, (⟨some k, some (stepped grace op tick db tx)⟩ :
      Ghost Db Write Know).tx ≠ none := fun _ => nofun
  have hlock : ∀ key, Key.tuple key ∈ (engine grace).locks op ((engine grace).current db tx) →
      (i, Key.tuple key) ∈ held ++
        ((engine grace).locks op ((engine grace).current db tx)).map fun k => (i, k) :=
    fun key hkey => List.mem_append_right _ (List.mem_map.mpr ⟨_, hkey, rfl⟩)
  cases op with
  | insertBinding row => exact hop.elim
  | updateBinding id org release => exact hop.elim
  | insertTupleLock key =>
    cases hlearn
    subst hknow'
    exact ⟨hopen _, hlock key List.mem_cons_self⟩
  | selectTupleLock key =>
    cases hlearn
    subst hknow'
    exact ⟨hopen _, hlock key List.mem_cons_self⟩
  | selectOverlaps org binding =>
    cases hlearn
    by_cases hcase : know = .locked (binding.tuple org) ∧
        (exec grace (.selectOverlaps org binding) tick ((engine grace).current db tx)
          ((engine grace).snapshot db ((engine grace).fix (.selectOverlaps org binding)
            db tx))).1 = []
    · obtain rfl : know' = .clear org binding := hknow'.trans (if_pos hcase)
      obtain ⟨rfl, hnone⟩ := hcase
      refine ⟨hopen _, List.mem_append_left _ hknows.2, fun row hrow => ?_⟩
      have hmine : mine db ⟨some (Know.clear org binding),
          some (stepped grace (.selectOverlaps org binding) tick db tx)⟩ =
            ((engine grace).current db tx).bindings := by
        rw [current_bindings grace db none, mine, news_stepped]
        exact congrArg _ (List.append_nil _)
      rw [hmine] at hrow
      have hfilter := List.take_eq_nil_iff.mp hnone
      rw [or_iff_right (by decide), List.filter_eq_nil_iff] at hfilter
      exact Bool.eq_false_iff.mpr (hfilter row hrow)
    · obtain rfl : know' = .opened := hknow'.trans (if_neg hcase)
      exact hopen _
  | _ =>
    cases hlearn
    subst hknow'
    exact hopen _

/-- Locks of a statement of session `i`. -/
abbrev withLocks (held : List (Nat × Key)) (i : Nat) (grace : Int) (op : Stmt) (db : Db)
    (tx : Tx Db Write) : List (Nat × Key) :=
  held ++ ((engine grace).locks op ((engine grace).current db tx)).map fun k => (i, k)

theorem Owned.quiet (h : Owned tick db held ghosts) {know' : Know}
    (hi : ghosts i = ⟨some know, some tx⟩)
    (hwrites : bindingWrites (exec grace op tick ((engine grace).current db tx)
      ((engine grace).snapshot db ((engine grace).fix op db tx))).2 = [])
    (hfree : ∀ j k, (j, k) ∈ held → k ∈ (engine grace).locks op ((engine grace).current db tx) →
      j = i) (hknows : Knows db (withLocks held i grace op db tx) i
      ⟨some know', some (stepped grace op tick db tx)⟩ know') :
    Owned (tick + 1) db (withLocks held i grace op db tx)
      (Function.update ghosts i ⟨some know', some (stepped grace op tick db tx)⟩) := by
  have hnews : ∀ k : Option Know, news ⟨k, some (stepped grace op tick db tx)⟩ =
      news (ghosts i) := fun k => by
    rw [news_stepped, hwrites, List.append_nil, hi]
    rfl
  have hmono : ∀ j k, (j, k) ∈ held → (j, k) ∈ withLocks held i grace op db tx :=
    fun j k => List.mem_append_left _
  refine h.update (Sys.exclusive_locked h.locks hfree) (fun j k _ => hmono j k) ?_ ?_ ?_ ?_ ?_ nofun
  · intro row hrow
    rw [hnews] at hrow
    exact Nat.lt_succ_of_lt (h.newsBelow i row hrow)
  · intro j hj a ha b hb
    rw [hnews] at ha
    exact h.apart i j (Ne.symm hj) a ha b hb
  · intro row hrow
    rw [hnews] at hrow
    exact (h.claimed i row hrow).mono fun k => hmono i k
  · rw [mine, hnews]
    exact h.safeIn i
  · rintro _ ⟨⟩
    exact hknows

theorem Owned.stores (h : Owned tick db held ghosts) (hi : ghosts i = ⟨some know, some tx⟩)
    (hwrites : bindingWrites (exec grace op tick ((engine grace).current db tx)
      ((engine grace).snapshot db ((engine grace).fix op db tx))).2 = [row])
    (hfree : ∀ j k, (j, k) ∈ held → k ∈ (engine grace).locks op ((engine grace).current db tx) →
      j = i) (hbelow : row.id < tick + 1)
    (hapart : ∀ j, j ≠ i → ∀ b ∈ news (ghosts j), row.id ≠ b.id)
    (hclaimed : Claimed db (withLocks held i grace op db tx) i row)
    (hsafe : Exclusive (Table.put BindingRow.id row (mine db (ghosts i)))) :
    Owned (tick + 1) db (withLocks held i grace op db tx)
      (Function.update ghosts i ⟨some .opened, some (stepped grace op tick db tx)⟩) := by
  have hnews : news ⟨some .opened, some (stepped grace op tick db tx)⟩ =
      news (ghosts i) ++ [row] := by
    rw [news_stepped, hwrites, hi]
    rfl
  have hmono : ∀ j k, (j, k) ∈ held → (j, k) ∈ withLocks held i grace op db tx :=
    fun j k => List.mem_append_left _
  refine h.update (Sys.exclusive_locked h.locks hfree) (fun j k _ => hmono j k) ?_ ?_ ?_ ?_ ?_ nofun
  · intro other hother
    rw [hnews] at hother
    rcases List.mem_append.mp hother with hold | hnew
    · exact Nat.lt_succ_of_lt (h.newsBelow i other hold)
    · exact List.mem_singleton.mp hnew ▸ hbelow
  · intro j hj a ha b hb
    rw [hnews] at ha
    rcases List.mem_append.mp ha with hold | hnew
    · exact h.apart i j (Ne.symm hj) a hold b hb
    · exact List.mem_singleton.mp hnew ▸ hapart j hj b hb
  · intro other hother
    rw [hnews] at hother
    rcases List.mem_append.mp hother with hold | hnew
    · exact (h.claimed i other hold).mono fun k => hmono i k
    · exact List.mem_singleton.mp hnew ▸ hclaimed
  · rw [mine, hnews]
    have hput : Table.putAll BindingRow.id db.bindings (news (ghosts i) ++ [row]) =
        Table.put BindingRow.id row (mine db (ghosts i)) := List.foldl_append
    rw [hput]
    exact hsafe
  · rintro _ ⟨⟩
    exact fun hnone => nomatch hnone

theorem collides_inTheWay {org : Nat} {binding : Binding} {other : BindingRow}
    (hrow : binding.Allocates org row) (hc : other.Collides row) :
    other.inTheWay org binding = true := by
  obtain ⟨ht, htr, ha, hr, hb⟩ := hrow
  obtain ⟨hct, hcp, hstart, hend⟩ := hc
  simp only [BindingRow.inTheWay, Bool.and_eq_true, decide_eq_true_eq]
  have hnominal : row.nominalEnd = binding.nominalEnd := by
    rw [BindingRow.nominalEnd, Binding.nominalEnd, hr, hb]
  refine ⟨⟨⟨hct.trans ht, htr ▸ hcp⟩, hnominal ▸ hstart⟩, fun e he => ?_⟩
  rw [BindingRow.nominalEnd, Option.mem_def.mp he] at hend
  rw [← ha]
  exact hend

theorem Owned.insert (h : Owned tick db held ghosts) {org : Nat} {binding : Binding}
    (hi : ghosts i = ⟨some (.clear org binding), some tx⟩) (hrow : binding.Allocates org row)
    (hfree : ∀ j k, (j, k) ∈ held →
      k ∈ (engine grace).locks (.insertBinding row) ((engine grace).current db tx) → j = i) :
    Owned (tick + 1) db (withLocks held i grace (.insertBinding row) db tx)
      (Function.update ghosts i
        ⟨some .opened, some (stepped grace (.insertBinding row) tick db tx)⟩) := by
  have hknows := h.knows i _ (by rw [hi])
  rcases exec_insertBinding grace row tick ((engine grace).current db tx)
      ((engine grace).snapshot db ((engine grace).fix (.insertBinding row) db tx)) with hw | hw
  · exact h.quiet hi hw hfree fun hnone => nomatch hnone
  · have hids : ∀ other ∈ mine db (ghosts i), other.id < tick := fun other hother => by
      rcases mem_mine h.keyed hother with hnew | ⟨hold, -⟩
      · exact h.newsBelow i other hnew
      · exact h.below other hold
    have hnew : binding.Allocates org { row with id := tick } := hrow
    refine h.stores hi hw hfree (Nat.lt_succ_self tick) ?_ ?_ ?_
    · exact fun j hj b hb => (h.newsBelow j b hb).ne'
    · refine Or.inr ⟨fun hmem => ?_, List.mem_append_left _ ?_⟩
      · obtain ⟨other, hother, hid⟩ := List.mem_map.mp hmem
        exact (h.below other hother).ne hid
      · exact hnew.1 ▸ hknows.2.1
    · have hclear : ∀ other ∈ mine db (ghosts i), ¬other.Collides { row with id := tick } :=
        fun other hother hc => Bool.false_ne_true
          ((hknows.2.2 other hother).symm.trans (collides_inTheWay hnew hc))
      intro a ha b hb hne hc
      rcases (Table.mem_put (Table.keyed_putAll h.keyed)).mp ha with rfl | ⟨ha, -⟩
      · rcases (Table.mem_put (Table.keyed_putAll h.keyed)).mp hb with rfl | ⟨hb, -⟩
        · exact hne rfl
        · exact hclear b hb hc.symm
      · rcases (Table.mem_put (Table.keyed_putAll h.keyed)).mp hb with rfl | ⟨hb, -⟩
        · exact hclear a ha hc
        · exact h.safeIn i a ha b hb hne hc

theorem Owned.release (h : Owned tick db held ghosts) {id org : Nat} {release : Release}
    (hi : ghosts i = ⟨some know, some tx⟩) (hrange : release.releasedAt ≤ maxTimestamp)
    (hfree : ∀ j k, (j, k) ∈ held → k ∈ (engine grace).locks (.updateBinding id org release)
      ((engine grace).current db tx) → j = i) :
    Owned (tick + 1) db (withLocks held i grace (.updateBinding id org release) db tx)
      (Function.update ghosts i
        ⟨some .opened, some (stepped grace (.updateBinding id org release) tick db tx)⟩) := by
  rcases exec_updateBinding grace id org release tick ((engine grace).current db tx)
      ((engine grace).snapshot db ((engine grace).fix (.updateBinding id org release) db tx)) with
    hw | ⟨row, hrow, hid, hopen, hw⟩
  · exact h.quiet hi hw hfree fun hnone => nomatch hnone
  · rw [current_bindings grace db (some know), ← hi] at hrow
    have hwithin := released_within hopen hrange
    have hlock : (i, Key.binding row.id) ∈
        withLocks held i grace (.updateBinding id org release) db tx :=
      List.mem_append_right _ (List.mem_map.mpr ⟨.binding id, List.mem_cons_self, by rw [hid]⟩)
    have hmono : ∀ k, (i, k) ∈ held →
        (i, k) ∈ withLocks held i grace (.updateBinding id org release) db tx :=
      fun k => List.mem_append_left _
    refine h.stores hi hw hfree ?_ ?_ ?_ ?_
    · rcases mem_mine h.keyed hrow with hnew | ⟨hold, -⟩
      · exact Nat.lt_succ_of_lt (h.newsBelow i row hnew)
      · exact Nat.lt_succ_of_lt (h.below row hold)
    · intro j hj b hb hreleased
      have hsame : row.id = b.id := hreleased
      rcases mem_mine h.keyed hrow with hnew | ⟨hold, -⟩
      · exact h.apart i j (Ne.symm hj) row hnew b hb hsame
      · rcases h.claimed j b hb with ⟨-, -, -, hheld⟩ | ⟨hfresh, -⟩
        · refine hj (hfree j _ hheld (List.mem_singleton.mpr ?_))
          rw [← hsame, ← hid]
        · exact hfresh (hsame ▸ List.mem_map_of_mem hold)
    · rcases mem_mine h.keyed hrow with hnew | ⟨hold, -⟩
      · rcases h.claimed i row hnew with ⟨base, hbase, hw, hheld⟩ | ⟨hfresh, hheld⟩
        · exact Or.inl ⟨base, hbase, hwithin.trans hw, hmono _ hheld⟩
        · exact Or.inr ⟨hfresh, hmono _ hheld⟩
      · exact Or.inl ⟨row, hold, hwithin, hlock⟩
    · have hversion : ∀ other ∈ Table.put BindingRow.id (row.released release)
          (mine db (ghosts i)), ∃ v ∈ mine db (ghosts i), other.Within v := fun other hother => by
        rcases (Table.mem_put (Table.keyed_putAll h.keyed)).mp hother with rfl | ⟨hold, -⟩
        · exact ⟨row, hrow, hwithin⟩
        · exact ⟨other, hold, .refl other⟩
      exact fun a ha b hb hne =>
        (h.safeIn i).of_within (hversion a ha) (hversion b hb) hne

theorem Owned.step (h : Owned tick db held ghosts) {db' : Db} {held' : List (Nat × Key)}
    {ghost' : Ghost Db Write Know}
    (hmove : Disciplined (engine grace) discipline i tick db held (ghosts i) db' held' ghost') :
    Owned (tick + 1) db' held' (Function.update ghosts i ghost') := by
  generalize hi : ghosts i = ghost at hmove
  cases hmove with
  | idle =>
    refine h.update h.locks (fun _ _ _ hk => hk) ?_ ?_ ?_ ?_ ?_ ?_
    · exact fun row hrow => Nat.lt_succ_of_lt (h.newsBelow i row (hi ▸ hrow))
    · exact fun j hj a ha => h.apart i j (Ne.symm hj) a (hi ▸ ha)
    · exact fun row hrow => h.claimed i row (hi ▸ hrow)
    · exact hi ▸ h.safeIn i
    · intro know hknow
      have hk := h.knows i know (hi ▸ hknow)
      exact hi ▸ hk
    · exact fun hnone => hi ▸ h.closed i (hi ▸ hnone)
  | abort => exact h.drop rfl (fun know hknow => nomatch hknow) fun _ => rfl
  | start know know' tx hk =>
    by_cases hidle : know = .idle
    · obtain rfl : tx = none := by
        have htx := h.knows i know (by rw [hi])
        rw [hi, hidle] at htx
        exact htx
      obtain rfl : Know.opened = know' := by
        simpa only [discipline, if_pos hidle, Option.some.injEq] using hk
      refine h.drop rfl (fun know hknow => ?_) nofun
      cases hknow
      exact fun hnone => nomatch hnone
    · simp only [discipline, if_neg hidle, reduceCtorEq] at hk
  | commit know know' tx hk =>
    by_cases hidle : know = .idle
    · simp only [discipline, if_pos hidle, reduceCtorEq] at hk
    · obtain rfl : Know.idle = know' := by
        simpa only [discipline, if_neg hidle, Option.some.injEq] using hk
      refine h.commit ?_ rfl
      rw [hi]
      cases tx with
      | none => rfl
      | some tx => exact visible_bindings grace db tx.writes
  | rollback know know' tx hk =>
    by_cases hidle : know = .idle
    · simp only [discipline, if_pos hidle, reduceCtorEq] at hk
    · obtain rfl : Know.idle = know' := by
        simpa only [discipline, if_neg hidle, Option.some.injEq] using hk
      refine h.drop rfl (fun know hknow => ?_) nofun
      cases hknow
      rfl
  | call know query learn tx hk answer => exact query.elim
  | auto know via op learn tx hk hin hfree =>
    by_cases hcase : know = .idle ∨ via = .pool
    · simp only [discipline, if_pos hcase, reduceCtorEq] at hk
    · have hknows := h.knows i know (by rw [hi])
      have htx : tx ≠ none := by
        rw [hi] at hknows
        cases know with
        | idle => exact absurd (Or.inl rfl) hcase
        | opened => exact hknows
        | locked key => exact hknows.1
        | clear org binding => exact hknows.1
      cases via with
      | pool => exact absurd (Or.inr rfl) hcase
      | conn =>
        cases tx with
        | none => exact absurd rfl htx
        | some tx => nomatch hin
  | within know op f tx hk hfree =>
    have hlearn : learn know op = some f := by
      by_cases hidle : know = .idle
      · have hnone : discipline.sent know .conn op = none := if_pos (Or.inl hidle)
        exact nomatch hnone.symm.trans hk
      · exact (discipline_sent hidle op).symm.trans hk
    have hknows : Knows db held i ⟨some know, some tx⟩ know := hi ▸ h.knows i know (by rw [hi])
    by_cases hop : op.KeepsBindings
    · exact h.quiet hi (bindingWrites_exec hop grace _ _ _) hfree
        (knows_learn hop hlearn hknows rfl)
    · cases op with
      | insertBinding row =>
        cases know with
        | clear org binding =>
          by_cases hrow : binding.Allocates org row
          · rw [learn, if_pos hrow, Option.some.injEq] at hlearn
            subst hlearn
            exact h.insert hi hrow hfree
          · rw [learn, if_neg hrow] at hlearn
            nomatch hlearn
        | _ => nomatch hlearn
      | updateBinding id org release =>
        by_cases hrange : release.releasedAt ≤ maxTimestamp
        · rw [learn, if_pos hrange, Option.some.injEq] at hlearn
          subst hlearn
          exact h.release hi hrange hfree
        · rw [learn, if_neg hrange] at hlearn
          nomatch hlearn
      | _ => exact absurd trivial hop

end Invariant

/-- Exclusive bindings, and batches about to be ingested. -/
structure Ready (canonicalPayloadHash : Nat → Binding → String) (s : System) : Prop where
  keyed : Table.Keyed BindingRow.id s.db.bindings
  below : ∀ row ∈ s.db.bindings, row.id < s.tick
  safe : Exclusive s.db.bindings
  held : s.held = []
  closed : ∀ i, (s.sessions i).tx = none
  batch : ∀ i p, (s.sessions i).prog = some p → ∃ settings now org token records,
    p = ingestBatch canonicalPayloadHash settings now org token records

/-- First instant the allocation may have started. -/
def BindingRow.widenedStart (row : BindingRow) : Int :=
  row.allocatedAt - uncertainty row.allocation.clockUncertaintyMs

/-- Last instant the allocation may have ended. -/
def BindingRow.widenedEnd (row : BindingRow) : Option Int :=
  row.releasedAt.map (· + uncertainty (row.release.bind EventMark.clockUncertaintyMs))

/-- Both bindings may hold a common public port at a common instant. -/
def BindingRow.MayCollide (a b : BindingRow) : Prop :=
  a.tuple = b.tuple ∧ PortsMeet a.translation b.translation ∧
    IntervalsMeet a.widenedStart a.widenedEnd b.widenedStart b.widenedEnd

instance (a b : BindingRow) : Decidable (a.MayCollide b) := by
  unfold BindingRow.MayCollide
  infer_instance

/-- However batches interleave, bindings of one tuple and port have disjoint intervals. -/
theorem run_exclusive (canonicalPayloadHash : Nat → Binding → String) (grace : Int) {s : System}
    (hs : Ready canonicalPayloadHash s) (labels : List (Label fun _ : Empty => Empty)) :
    Exclusive (Transition.run (Sys.step (engine grace)) s labels).db.bindings := by
  have hkept : s.Kept discipline fun tick db held ghosts => Owned tick db held ghosts := by
    refine ⟨fun _ => ⟨some .idle, none⟩, ?_, fun i => ⟨hs.closed i, fun p hp => ⟨.idle, rfl, ?_⟩⟩⟩
    · refine ⟨hs.keyed, hs.below, fun _ _ hrow => absurd hrow List.not_mem_nil, ?_,
        fun _ _ _ _ ha => absurd ha List.not_mem_nil,
        fun _ _ hrow => absurd hrow List.not_mem_nil, hs.safe, fun _ => hs.safe, ?_, nofun⟩
      · rw [hs.held]
        exact fun _ _ _ ha => absurd ha List.not_mem_nil
      · rintro i know ⟨⟩
        rfl
    · obtain ⟨settings, now, org, token, records, rfl⟩ := hs.batch i p hp
      exact follows_ingestBatch canonicalPayloadHash settings now org token records
  obtain ⟨ghosts, howned, -⟩ := Sys.run_kept
    (fun i tick db held ghosts db' held' ghost' hinv hmove => Owned.step hinv hmove) hkept labels
  exact howned.safe

/-- Declaration of one exporter. -/
def sampleConfig : ExporterConfig where
  id := 1
  organizationId := 1
  exporter := ⟨"e", "n", "p", "r"⟩
  exporterNasId := none
  exporterIp := none
  collectorApiTokenId := 5
  recoveryCollectorApiTokenId := none
  recoveryApproved := false
  publicIpv4Start := 134744064
  publicIpv4End := 134744319
  purposeReference := true
  tupleExclusivityConfirmed := true
  authoritativeBaselineConfirmed := true
  baselineReference := true
  baselineConfirmedAt := some 0
  collectionApprovedAt := some 0
  enabled := true
  retiredAt := none
  bindingReceived := false
  lastCorrectedDeviceAt := none
  coverageHorizonAt := none
  lastExporterBootId := none
  lastSequenceNumber := 0
  sequenceGapEvents := 0
  sequenceMissingRecords := 0
  outOfOrderEvents := 0
  reportedLostRecords := 0
  incompleteMetadataEvents := 0

/-- A session of one subscriber, with its start. -/
def sampleSession (id : Nat) (instanceId : String) (address : Nat) : AccessSession :=
  ⟨id, 1, true, some address, false, 0, none, some 1000000, some 1000000, some 7, some 8,
    some "u", some "s", some instanceId⟩

/-- The two sessions, and no binding yet. -/
def sampleDb : Db where
  configs := [sampleConfig]
  tupleLocks := []
  bindings := []
  events := []
  sessions := [sampleSession 1 "a" 10, sampleSession 2 "b" 11]
  evidence := [⟨1, 1, "a", false, some 10, 0, 0, some "h"⟩, ⟨2, 1, "b", false, some 11, 0, 0, some "h"⟩]
  receipts := []

/-- A record of the sample exporter about port 2000 of one address. -/
def sampleRecord (eventType key : String) (privateIpv4 : Nat) (allocatedAt : Int)
    (releasedAt : Option Int) (instanceId eventId : String) (sequenceNumber : Nat) : Record where
  eventType := eventType
  bindingKey := key
  bindingType := "single_port"
  privateIpv4 := privateIpv4
  privatePortStart := some 3000
  privatePortEnd := some 3000
  publicIpv4 := 134744072
  publicPortStart := some 2000
  publicPortEnd := some 2000
  protocol := "tcp"
  allocatedAt := allocatedAt
  releasedAt := releasedAt
  clientId := none
  contractId := none
  username := none
  radiusSessionId := none
  sessionInstanceId := instanceId
  exporterNasId := none
  exporterId := "e"
  exporterIp := none
  exporterBootId := "1"
  natInstanceId := "n"
  natPoolId := "p"
  natRealm := "r"
  eventId := eventId
  sequenceNumber := sequenceNumber
  deviceRecordedAt := releasedAt.getD allocatedAt
  clockOffsetMs := some 0
  clockUncertaintyMs := some 10
  recordsLostBefore := some 0

/-- One port is released and given to the next subscriber at the same instant. -/
def sampleRecords : List Record :=
  [sampleRecord "allocate" "x" 10 100 none "a" "1" 1,
    sampleRecord "release" "x" 10 100 (some 200) "a" "2" 2,
    sampleRecord "allocate" "y" 11 200 none "b" "3" 3]

/-- One session about to send a batch of the sample exporter. -/
def sampleSessions (records : List Record) (i : Nat) :
    Session Db Write Stmt Stmt.Res Empty (fun _ => Empty) (Except Refusal (List Accepted)) :=
  if i = 0 then
    ⟨some (ingestBatch (fun _ b => b.eventId) ⟨500, 300⟩ 1000000 1 5 records), none⟩
  else ⟨none, none⟩

/-- The sample tables with one session. -/
def sampleSystem (records : List Record) : System where
  db := sampleDb
  tick := 10
  held := []
  sessions := sampleSessions records
  calls := []

theorem ready_sampleSystem (records : List Record) :
    Ready (fun _ b => b.eventId) (sampleSystem records) := by
  refine ⟨List.nodup_nil, fun _ h => absurd h List.not_mem_nil,
    fun _ h => absurd h List.not_mem_nil, rfl, fun i => ?_, fun i p hp => ?_⟩
  · change (sampleSessions records i).tx = none
    unfold sampleSessions
    split <;> rfl
  · change (sampleSessions records i).prog = some p at hp
    unfold sampleSessions at hp
    split at hp
    · cases hp
      exact ⟨_, _, _, _, _, rfl⟩
    · nomatch hp

def sampleRun : List (Label fun _ : Empty => Empty) :=
  List.replicate 40 (.step 0 fun q => q.elim)

theorem run_exclusive_sample :
    Exclusive (Transition.run (Sys.step (engine 900000)) (sampleSystem sampleRecords)
      sampleRun).db.bindings :=
  run_exclusive (fun _ b => b.eventId) 900000 (ready_sampleSystem sampleRecords) sampleRun

/-- A port handed over at one instant belongs to both bindings within the clock uncertainty. -/
theorem handover_may_collide :
    Ready (fun _ b => b.eventId) (sampleSystem sampleRecords) ∧
      ∃ a ∈ (Transition.run (Sys.step (engine 900000)) (sampleSystem sampleRecords)
          sampleRun).db.bindings,
      ∃ b ∈ (Transition.run (Sys.step (engine 900000)) (sampleSystem sampleRecords)
          sampleRun).db.bindings,
        a.id ≠ b.id ∧ a.MayCollide b := by
  refine ⟨ready_sampleSystem sampleRecords, ?_⟩
  decide +kernel

end FireIsp.Cgnat
