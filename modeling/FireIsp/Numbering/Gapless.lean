import Mathlib.Data.List.Nodup
import FireIsp.Base.Discipline
import FireIsp.Numbering.Sequence

/-!
# Numbers are distinct and gapless

A transaction that advances a sequence holds its row until it ends, so the next number and the
documents numbered so far are seen by one transaction at a time.
-/

namespace FireIsp.Numbering

open Txn

theorem padded_injective (width : Nat) : Function.Injective (Calendar.padded width) := by
  intro m n h
  have hvalue : ∀ n, Numeral.digitsValue 10 (Calendar.padded width n).toList = n := by
    intro n
    rw [Calendar.padded, String.toList_append, String.toList_ofList, Numeral.digitsValue_zeros]
    change Numeral.digitsValue 10 (Nat.repr n).toList = n
    rw [Nat.toList_repr]
    exact Numeral.digitsValue_toDigits (by decide) (by decide) n
  rw [← hvalue m, ← hvalue n, h]

theorem Kind.text_injective (kind : Kind) : Function.Injective kind.text := by
  intro m n h
  refine padded_injective 6 ?_
  have hlist := congrArg String.toList h
  simp only [Kind.text, String.toList_append] at hlist
  exact String.toList_injective (List.append_cancel_left hlist)

/-- Sequence and kind a write is about. -/
def Write.slot : Write → Kind × Nat
  | .seed kind bucket => (kind, bucket)
  | .advance kind bucket _ => (kind, bucket)
  | .document row => (row.kind, row.bucket)

def Document.isOf (kind : Kind) (bucket : Nat) (row : Document) : Bool :=
  decide (row.kind = kind ∧ row.bucket = bucket)

/-- Numbers held by documents of a kind and organization, oldest first. -/
def Db.numbers (db : Db) (kind : Kind) (bucket : Nat) : List String :=
  (db.documents.filter (Document.isOf kind bucket)).map Document.number

def Db.next (db : Db) (kind : Kind) (bucket : Nat) : Nat :=
  ((db.sequence kind bucket).map Sequence.nextNumber).getD 1

/-- What the tables say of one kind and organization. -/
structure View where
  next : Option Nat
  numbers : List String

/-- The view of the tables. -/
def Db.view (db : Db) (kind : Kind) (bucket : Nat) : View :=
  ⟨(db.sequence kind bucket).map Sequence.nextNumber, db.numbers kind bucket⟩

/-- The view once a write of its kind and organization is stored. -/
def View.apply (view : View) : Write → View
  | .seed .. => { view with next := some (view.next.getD 1) }
  | .advance _ _ next => { view with next := view.next.map fun _ => next }
  | .document row => { view with numbers := view.numbers ++ [row.number] }

variable {kind : Kind} {bucket : Nat}

theorem sequence_seed (db : Db) (kind' : Kind) (bucket' : Nat) :
    (db.apply (.seed kind' bucket')).sequence kind bucket =
      (db.sequence kind bucket).or
        (if (kind', bucket') = (kind, bucket) then some ⟨kind', bucket', 1⟩ else none) := by
  simp only [Db.apply, Db.sequence, List.find?_append, List.find?_cons, List.find?_nil,
    Sequence.isOf, Prod.mk.injEq]
  by_cases hslot : kind' = kind ∧ bucket' = bucket
  · simp [hslot]
  · simp [hslot]

theorem sequence_advance (db : Db) (kind' : Kind) (bucket' next : Nat) :
    (db.apply (.advance kind' bucket' next)).sequence kind bucket =
      (db.sequence kind bucket).map fun row =>
        if (kind', bucket') = (kind, bucket) then { row with nextNumber := next } else row := by
  have hisOf : ∀ row : Sequence, Sequence.isOf kind bucket
      (if row.isOf kind' bucket' then { row with nextNumber := next } else row) =
        row.isOf kind bucket := by
    intro row
    split_ifs <;> rfl
  simp only [Db.apply, Db.sequence, List.find?_map]
  rw [show (Sequence.isOf kind bucket ∘ fun row => if row.isOf kind' bucket' then
    { row with nextNumber := next } else row) = Sequence.isOf kind bucket from funext hisOf]
  cases hrow : db.sequences.find? (Sequence.isOf kind bucket) with
  | none => rfl
  | some row =>
    have hslot := List.find?_some hrow
    simp only [Sequence.isOf, decide_eq_true_eq] at hslot
    obtain ⟨rfl, rfl⟩ := hslot
    simp only [Option.map_some, Sequence.isOf, decide_eq_true_eq, Prod.mk.injEq]
    simp only [eq_comm]

theorem numbers_document (db : Db) (row : Document) :
    (db.apply (.document row)).numbers kind bucket =
      db.numbers kind bucket ++
        if (row.kind, row.bucket) = (kind, bucket) then [row.number] else [] := by
  simp only [Db.numbers, Db.apply, List.filter_append, List.map_append, Document.isOf,
    List.filter_cons, List.filter_nil, Prod.mk.injEq, decide_eq_true_eq]
  split_ifs <;> rfl

variable {w : Write}

theorem view_apply_self (db : Db) (hslot : w.slot = (kind, bucket)) :
    (db.apply w).view kind bucket = (db.view kind bucket).apply w := by
  cases w with
  | seed kind' bucket' =>
    simp only [Write.slot] at hslot
    simp only [Db.view, sequence_seed, if_pos hslot, View.apply]
    cases hrow : db.sequence kind bucket <;> rfl
  | advance kind' bucket' next =>
    simp only [Write.slot] at hslot
    simp only [Db.view, sequence_advance, if_pos hslot, View.apply, Option.map_map]
    rfl
  | document row =>
    simp only [Write.slot] at hslot
    simp only [Db.view, numbers_document, if_pos hslot, View.apply]
    rfl

theorem view_apply_other (db : Db) (hslot : w.slot ≠ (kind, bucket)) :
    (db.apply w).view kind bucket = db.view kind bucket := by
  cases w with
  | seed kind' bucket' =>
    simp only [Write.slot] at hslot
    simp only [Db.view, sequence_seed, if_neg hslot, Option.or_none]
    rfl
  | advance kind' bucket' next =>
    simp only [Write.slot] at hslot
    simp only [Db.view, sequence_advance, if_neg hslot, Option.map_id']
    rfl
  | document row =>
    simp only [Write.slot] at hslot
    simp only [Db.view, numbers_document, if_neg hslot, List.append_nil]
    rfl

def View.applyAll (view : View) (slot : Kind × Nat) (writes : List Write) : View :=
  (writes.filter fun w => decide (w.slot = slot)).foldl View.apply view

theorem view_visible (db : Db) (writes : List Write) :
    (engine.visible db writes).view kind bucket =
      (db.view kind bucket).applyAll (kind, bucket) writes := by
  induction writes generalizing db with
  | nil => rfl
  | cons w writes ih =>
    rw [Engine.visible_cons, ih]
    change View.applyAll ((db.apply w).view kind bucket) _ _ = _
    unfold View.applyAll
    by_cases hslot : w.slot = (kind, bucket)
    · rw [view_apply_self db hslot, List.filter_cons_of_pos (by simpa using hslot)]
      rfl
    · rw [view_apply_other db hslot, List.filter_cons_of_neg (by simpa using hslot)]

theorem view_visible_single (db : Db) (hslot : w.slot = (kind, bucket)) :
    (engine.visible db [w]).view kind bucket = (db.view kind bucket).apply w :=
  view_apply_self db hslot

theorem view_visible_other (db : Db) {writes : List Write}
    (hother : ∀ w ∈ writes, w.slot ≠ (kind, bucket)) :
    (engine.visible db writes).view kind bucket = db.view kind bucket := by
  have hnone : (writes.filter fun w => decide (w.slot = (kind, bucket))) = [] := by
    simpa [List.filter_eq_nil_iff] using hother
  rw [view_visible, View.applyAll, hnone]
  rfl

theorem view_visible_isSome (db : Db) (writes : List Write)
    (h : (db.view kind bucket).next.isSome = true) :
    ((engine.visible db writes).view kind bucket).next.isSome = true := by
  refine Engine.visible_invariant engine
    (I := fun db : Db => (db.view kind bucket).next.isSome = true) ?_ h
  intro db w _ hdb
  change ((db.apply w).view kind bucket).next.isSome = true
  by_cases hslot : w.slot = (kind, bucket)
  · rw [view_apply_self db hslot]
    cases w with
    | seed kind' bucket' => rfl
    | advance kind' bucket' next => simpa [View.apply] using hdb
    | document row => exact hdb
  · rw [view_apply_other db hslot]
    exact hdb

/-- What a session knows between two statements. -/
inductive Know
  | idle
  | clear
  | seeded (kind : Kind) (bucket : Nat)
  | drawn (kind : Kind) (bucket next : Nat)
  | refused
  deriving DecidableEq

/-- Statements a session may send, and what it knows from the reply. -/
def sent : Know → (op : Stmt) → Option (op.Res → Know)
  | .clear, .seed kind bucket => some fun _ => .seeded kind bucket
  | .seeded kind bucket, .advance kind' bucket' =>
    if (kind', bucket') = (kind, bucket) then some fun next => .drawn kind bucket next else none
  | .drawn kind bucket next, .insertDocument row =>
    if (row.kind, row.bucket) = (kind, bucket) ∧ row.number = kind.text next then
      some fun inserted => if inserted then .clear else .refused
    else none
  | _, _ => none

/-- A transaction commits only once every number drawn is of a document. -/
def discipline : Discipline Know Stmt Stmt.Res Query Query.Answer where
  started := fun know => if know = .idle then some .clear else none
  committed := fun know => if know = .clear then some .idle else none
  rolledBack := fun _ => some .idle
  sent := fun know via op => if via = .conn then sent know op else none
  asked := fun know _ => some fun _ => know

theorem follows_next (draft : Draft) :
    draft.next.Follows discipline .clear fun number know => ∃ next,
      number = draft.kind.text next ∧ know = .drawn draft.kind (draft.organizationId.getD 0) next := by
  have hnext : draft.next = nextNumber draft.kind draft.organizationId := by
    unfold Draft.next
    cases draft.kind <;> rfl
  rw [hnext]
  exact ⟨_, rfl, fun _ => ⟨_, if_pos rfl, fun next => ⟨next, rfl, rfl⟩⟩⟩

theorem follows_insertDocument (draft : Draft) (next : Nat) :
    (insertDocument draft (draft.kind.text next)).Follows discipline
      (.drawn draft.kind (draft.organizationId.getD 0) next)
      fun inserted know => inserted = true → know = .clear := by
  refine ⟨fun _ => _, rfl, fun proceeds => ?_⟩
  cases proceeds with
  | false => exact fun h => by cases h
  | true =>
    refine ⟨_, if_pos ⟨rfl, rfl⟩, fun inserted => ?_⟩
    cases inserted with
    | false => exact fun h => by cases h
    | true => exact fun _ => rfl

theorem follows_insertDrafts (drafts : List Draft) :
    (insertDrafts drafts).Follows discipline .clear
      fun inserted know => inserted = true → know = .clear := by
  induction drafts with
  | nil => exact ⟨fun _ => .clear, rfl, fun _ _ => rfl⟩
  | cons draft drafts ih =>
    refine (follows_next draft).bind ?_
    rintro number know ⟨next, rfl, rfl⟩
    refine (follows_insertDocument draft next).bind fun inserted know hinserted => ?_
    cases inserted with
    | false => exact fun h => by cases h
    | true =>
      rw [hinserted rfl]
      exact ih

theorem follows_transaction (drafts : List Draft) :
    (transaction drafts).Follows discipline .idle fun _ know => know = .idle := by
  refine ⟨.clear, rfl, (follows_insertDrafts drafts).bind fun inserted know hinserted => ?_⟩
  cases inserted with
  | false => exact ⟨.idle, rfl, rfl⟩
  | true =>
    rw [hinserted rfl]
    exact ⟨.idle, rfl, rfl⟩

/-- Documents are numbered one after the other, and the sequence stands behind the last. -/
def Numbered (kind : Kind) (start view : View) (pending : Nat) : Prop :=
  ∃ count, view.next.getD 1 = start.next.getD 1 + count + pending ∧
    view.numbers = start.numbers ++ (List.range' (start.next.getD 1) count).map kind.text

/-- Numbers of a slot drawn for a document to come. -/
def Know.pending (kind : Kind) (bucket : Nat) : Know → Nat
  | .drawn kind' bucket' _ => if (kind', bucket') = (kind, bucket) then 1 else 0
  | _ => 0

/-- What an open transaction sees of one slot. -/
structure Sound (start db : Db) (held : List (Nat × Key)) (i : Nat) (know : Know)
    (tx : Tx Db Write) (kind : Kind) (bucket : Nat) : Prop where
  numbered : (i, Key.sequence kind bucket) ∈ held → know ≠ .refused →
    Numbered kind (start.view kind bucket) ((engine.current db tx).view kind bucket)
      (know.pending kind bucket)
  untouched : (i, Key.sequence kind bucket) ∉ held →
    (∀ w ∈ tx.writes, w.slot ≠ (kind, bucket)) ∧ know.pending kind bucket = 0
  seeded : know = .seeded kind bucket →
    ((engine.current db tx).view kind bucket).next.isSome = true
  drawn : ∀ next, know = .drawn kind bucket next →
    ((engine.current db tx).view kind bucket).next = some (next + 1)

/-- Invariant of the sessions, since a start. -/
structure Guarded (start : Db) (tick : Nat) (db : Db) (held : List (Nat × Key))
    (ghosts : Nat → Ghost Db Write Know) : Prop where
  exclusive : Sys.Exclusive held
  committed : ∀ kind bucket,
    Numbered kind (start.view kind bucket) (db.view kind bucket) 0
  closed : ∀ i, (ghosts i).tx = none → ∀ k, (i, k) ∉ held
  ended : ∀ i, (ghosts i).know = none → (ghosts i).tx = none
  idle : ∀ i know, (ghosts i).know = some know → (know = .idle ↔ (ghosts i).tx = none)
  sound : ∀ i know tx, (ghosts i).know = some know → (ghosts i).tx = some tx →
    ∀ kind bucket, Sound start db held i know tx kind bucket

variable {start db db' : Db} {held held' : List (Nat × Key)} {i : Nat} {know : Know}
  {tx : Tx Db Write}

theorem Sound.other (h : Sound start db held i know tx kind bucket)
    (hheld : (i, Key.sequence kind bucket) ∈ held' ↔ (i, Key.sequence kind bucket) ∈ held)
    (hview : (i, Key.sequence kind bucket) ∈ held → db'.view kind bucket = db.view kind bucket)
    (hrow : (db.view kind bucket).next.isSome = true → (db'.view kind bucket).next.isSome = true) :
    Sound start db' held' i know tx kind bucket := by
  have hcurrent : (i, Key.sequence kind bucket) ∈ held →
      (engine.current db' tx).view kind bucket = (engine.current db tx).view kind bucket := by
    intro hmem
    rw [Engine.current, view_visible, hview hmem, Engine.current, view_visible]
  refine ⟨fun hmem hknow => ?_, fun hmem => h.untouched fun hmem' => hmem (hheld.mpr hmem'),
    fun hknow => ?_, fun next hknow => ?_⟩
  · rw [hcurrent (hheld.mp hmem)]
    exact h.numbered (hheld.mp hmem) hknow
  · by_cases hmem : (i, Key.sequence kind bucket) ∈ held
    · rw [hcurrent hmem]
      exact h.seeded hknow
    · have hother := (h.untouched hmem).1
      have hseeded := h.seeded hknow
      rw [Engine.current, view_visible_other _ hother] at hseeded ⊢
      exact hrow hseeded
  · have hmem : (i, Key.sequence kind bucket) ∈ held := by
      by_contra hnot
      have hzero := (h.untouched hnot).2
      rw [hknow, Know.pending, if_pos rfl] at hzero
      cases hzero
    rw [hcurrent hmem]
    exact h.drawn next hknow

theorem Guarded.others {tick : Nat} {ghosts : Nat → Ghost Db Write Know}
    {ghost : Ghost Db Write Know} (h : Guarded start tick db held ghosts)
    (hexclusive : Sys.Exclusive held') (hheld : ∀ j k, j ≠ i → ((j, k) ∈ held' ↔ (j, k) ∈ held))
    (hcommitted : ∀ kind bucket, Numbered kind (start.view kind bucket) (db'.view kind bucket) 0)
    (hview : ∀ j kind bucket, j ≠ i → (j, Key.sequence kind bucket) ∈ held →
      db'.view kind bucket = db.view kind bucket)
    (hrow : ∀ kind bucket, (db.view kind bucket).next.isSome = true →
      (db'.view kind bucket).next.isSome = true) (hclosed : ghost.tx = none → ∀ k, (i, k) ∉ held')
    (hended : ghost.know = none → ghost.tx = none)
    (hidle : ∀ know, ghost.know = some know → (know = .idle ↔ ghost.tx = none))
    (hsound : ∀ know tx, ghost.know = some know → ghost.tx = some tx →
      ∀ kind bucket, Sound start db' held' i know tx kind bucket) :
    Guarded start (tick + 1) db' held' (Function.update ghosts i ghost) := by
  have hupdate : ∀ j, j ≠ i → Function.update ghosts i ghost j = ghosts j := fun j hj =>
    Function.update_of_ne hj _ _
  refine ⟨hexclusive, hcommitted, fun j => ?_, fun j => ?_, fun j => ?_, fun j => ?_⟩ <;>
    by_cases hj : j = i
  · subst hj
    rw [Function.update_self]
    exact hclosed
  · rw [hupdate j hj]
    exact fun htx k hmem => h.closed j htx k ((hheld j k hj).mp hmem)
  · subst hj
    rw [Function.update_self]
    exact hended
  · rw [hupdate j hj]
    exact h.ended j
  · subst hj
    rw [Function.update_self]
    exact hidle
  · rw [hupdate j hj]
    exact h.idle j
  · subst hj
    rw [Function.update_self]
    exact hsound
  · rw [hupdate j hj]
    exact fun know tx hknow htx kind bucket => (h.sound j know tx hknow htx kind bucket).other
      (hheld j _ hj) (hview j kind bucket hj) (hrow kind bucket)

/-- The transaction once it has sent a statement. -/
def sentTx (db : Db) (tx : Tx Db Write) (op : Stmt) : Tx Db Write :=
  { tx with writes := tx.writes ++ (exec (engine.current db tx) op).2 }

theorem current_sentTx (db : Db) (tx : Tx Db Write) (op : Stmt) :
    engine.current db (sentTx db tx op) =
      engine.visible (engine.current db tx) (exec (engine.current db tx) op).2 :=
  Engine.visible_append engine db tx.writes _

theorem Sound.view_numbered (h : Sound start db held i know tx kind bucket)
    (hcommitted : Numbered kind (start.view kind bucket) (db.view kind bucket) 0)
    (hknow : know ≠ .refused) :
    Numbered kind (start.view kind bucket) ((engine.current db tx).view kind bucket)
      (know.pending kind bucket) := by
  by_cases hmem : (i, Key.sequence kind bucket) ∈ held
  · exact h.numbered hmem hknow
  · obtain ⟨hother, hzero⟩ := h.untouched hmem
    rw [Engine.current, view_visible_other _ hother, hzero]
    exact hcommitted

variable {op : Stmt}

theorem Sound.elsewhere {know' : Know} (h : Sound start db held i know tx kind bucket)
    (hheld : (i, Key.sequence kind bucket) ∈ held' ↔ (i, Key.sequence kind bucket) ∈ held)
    (hwrites : ∀ w ∈ (exec (engine.current db tx) op).2, w.slot ≠ (kind, bucket))
    (hpending : know'.pending kind bucket = know.pending kind bucket) (hknow : know ≠ .refused)
    (hseeded : know' ≠ .seeded kind bucket) (hdrawn : ∀ next, know' ≠ .drawn kind bucket next) :
    Sound start db held' i know' (sentTx db tx op) kind bucket := by
  refine ⟨fun hmem _ => ?_, fun hmem => ?_, fun heq => absurd heq hseeded,
    fun next heq => absurd heq (hdrawn next)⟩
  · rw [current_sentTx, view_visible_other _ hwrites, hpending]
    exact h.numbered (hheld.mp hmem) hknow
  · obtain ⟨hother, hzero⟩ := h.untouched fun hmem' => hmem (hheld.mpr hmem')
    refine ⟨fun w hw => ?_, hpending.trans hzero⟩
    rcases List.mem_append.mp hw with hw | hw
    · exact hother w hw
    · exact hwrites w hw

theorem mem_locked {k : Key} {wanted : List Key} :
    (i, k) ∈ held ++ wanted.map (fun k => (i, k)) ↔ (i, k) ∈ held ∨ k ∈ wanted := by
  simp

theorem Sound.seed (h : ∀ kind bucket, Sound start db held i .clear tx kind bucket)
    (hcommitted : ∀ kind bucket, Numbered kind (start.view kind bucket) (db.view kind bucket) 0)
    (kind' : Kind) (bucket' : Nat) (kind : Kind) (bucket : Nat) :
    Sound start db (held ++ (locks (.seed kind' bucket') (engine.current db tx)).map fun k => (i, k))
      i (.seeded kind' bucket') (sentTx db tx (.seed kind' bucket')) kind bucket := by
  by_cases hslot : (kind', bucket') = (kind, bucket)
  · obtain ⟨rfl, rfl⟩ := Prod.mk.inj hslot
    have hnumbered := (h kind' bucket').view_numbered (hcommitted kind' bucket') nofun
    have huntouched := (h kind' bucket').untouched
    have hcurrent := current_sentTx db tx (.seed kind' bucket')
    cases hrow : ((engine.current db tx).sequence kind' bucket').isSome with
    | true =>
      have hlocks : locks (.seed kind' bucket') (engine.current db tx) = [] := if_pos hrow
      have hwrites : (exec (engine.current db tx) (.seed kind' bucket')).2 = [] := if_pos hrow
      have htx : sentTx db tx (.seed kind' bucket') = tx := by
        rw [sentTx, hwrites, List.append_nil]
      rw [hlocks, List.map_nil, List.append_nil, htx]
      refine ⟨fun _ _ => hnumbered, fun hmem => ⟨(huntouched hmem).1, rfl⟩, fun _ => ?_, nofun⟩
      rw [Db.view, Option.isSome_map]
      exact hrow
    | false =>
      have hnot : ¬((engine.current db tx).sequence kind' bucket').isSome = true := by
        rw [hrow]
        exact Bool.false_ne_true
      have hlocks : locks (.seed kind' bucket') (engine.current db tx) =
          [.sequence kind' bucket'] := if_neg hnot
      have hwrites : (exec (engine.current db tx) (.seed kind' bucket')).2 =
          [.seed kind' bucket'] := if_neg hnot
      have hview : (engine.current db (sentTx db tx (.seed kind' bucket'))).view kind' bucket' =
          ((engine.current db tx).view kind' bucket').apply (.seed kind' bucket') := by
        rw [hcurrent, hwrites]
        exact view_visible_single _ rfl
      refine ⟨fun _ _ => ?_, fun hmem => absurd (mem_locked.mpr (Or.inr ?_)) hmem, fun _ => ?_,
        nofun⟩
      · rw [hview]
        exact hnumbered
      · rw [hlocks]
        exact List.mem_singleton_self _
      · rw [hview]
        rfl
  · refine (h kind bucket).elsewhere ?_ ?_ rfl nofun ?_ nofun
    · rw [mem_locked, or_iff_left_iff_imp]
      intro hmem
      simp only [locks] at hmem
      split_ifs at hmem
      · cases hmem
      · obtain ⟨rfl, rfl⟩ := Key.sequence.inj (List.mem_singleton.mp hmem)
        exact absurd rfl hslot
    · intro w hw
      simp only [exec] at hw
      split_ifs at hw
      · cases hw
      · rw [List.mem_singleton.mp hw]
        exact hslot
    · intro heq
      obtain ⟨rfl, rfl⟩ := Know.seeded.inj heq
      exact hslot rfl

theorem Sound.advance {kind' : Kind} {bucket' : Nat}
    (h : ∀ kind bucket, Sound start db held i (.seeded kind' bucket') tx kind bucket)
    (hcommitted : ∀ kind bucket, Numbered kind (start.view kind bucket) (db.view kind bucket) 0)
    (kind : Kind) (bucket : Nat) :
    Sound start db
      (held ++ (locks (.advance kind' bucket') (engine.current db tx)).map fun k => (i, k)) i
      (.drawn kind' bucket' (exec (engine.current db tx) (.advance kind' bucket')).1)
      (sentTx db tx (.advance kind' bucket')) kind bucket := by
  have hseeded := (h kind' bucket').seeded rfl
  rw [Db.view, Option.isSome_map] at hseeded
  obtain ⟨row, hrow⟩ := Option.isSome_iff_exists.mp hseeded
  have hexec : exec (engine.current db tx) (.advance kind' bucket') =
      (row.nextNumber, [.advance kind' bucket' (row.nextNumber + 1)]) := by
    simp only [exec, hrow]
  by_cases hslot : (kind', bucket') = (kind, bucket)
  · obtain ⟨rfl, rfl⟩ := Prod.mk.inj hslot
    have hnumbered := (h kind' bucket').view_numbered (hcommitted kind' bucket') nofun
    have hnext : ((engine.current db tx).view kind' bucket').next = some row.nextNumber := by
      rw [Db.view, hrow]
      rfl
    have hview : (engine.current db (sentTx db tx (.advance kind' bucket'))).view kind' bucket' =
        ⟨some (row.nextNumber + 1), (engine.current db tx).numbers kind' bucket'⟩ := by
      rw [current_sentTx, hexec]
      refine (view_visible_single _ rfl).trans ?_
      rw [View.apply, hnext]
      rfl
    rw [hexec]
    refine ⟨fun _ _ => ?_, fun hmem => absurd (mem_locked.mpr (Or.inr ?_)) hmem, nofun,
      fun next hknow => ?_⟩
    · obtain ⟨count, hcount, hnumbers⟩ := hnumbered
      rw [hnext] at hcount
      rw [hview, Know.pending, if_pos rfl]
      exact ⟨count, congrArg (· + 1) hcount, hnumbers⟩
    · exact List.mem_singleton_self _
    · obtain ⟨-, -, rfl⟩ := Know.drawn.inj hknow
      rw [hview]
  · refine (h kind bucket).elsewhere ?_ ?_ ?_ nofun nofun ?_
    · rw [mem_locked, or_iff_left_iff_imp]
      intro hmem
      obtain ⟨rfl, rfl⟩ := Key.sequence.inj (List.mem_singleton.mp hmem)
      exact absurd rfl hslot
    · intro w hw
      rw [hexec] at hw
      rw [List.mem_singleton.mp hw]
      exact hslot
    · exact if_neg hslot
    · intro next heq
      obtain ⟨rfl, rfl, -⟩ := Know.drawn.inj heq
      exact hslot rfl

theorem Sound.insertDocument {kind' : Kind} {bucket' next : Nat} {row : Document}
    (h : ∀ kind bucket, Sound start db held i (.drawn kind' bucket' next) tx kind bucket)
    (hcommitted : ∀ kind bucket, Numbered kind (start.view kind bucket) (db.view kind bucket) 0)
    (hrow : (row.kind, row.bucket) = (kind', bucket') ∧ row.number = kind'.text next) (kind : Kind)
    (bucket : Nat) :
    Sound start db
      (held ++ (locks (.insertDocument row) (engine.current db tx)).map fun k => (i, k)) i
      (if (exec (engine.current db tx) (.insertDocument row)).1 then .clear else .refused)
      (sentTx db tx (.insertDocument row)) kind bucket := by
  have hheld : (i, Key.sequence kind bucket) ∈
      held ++ (locks (.insertDocument row) (engine.current db tx)).map (fun k => (i, k)) ↔
        (i, Key.sequence kind bucket) ∈ held := by
    rw [mem_locked, or_iff_left_iff_imp]
    intro hmem
    simp only [locks] at hmem
    split at hmem
    · cases List.mem_singleton.mp hmem
    · cases hmem
  cases haccepts : (engine.current db tx).accepts row with
  | false =>
    have hexec : exec (engine.current db tx) (.insertDocument row) = (false, []) :=
      if_neg (by rw [haccepts]; exact Bool.false_ne_true)
    have htx : sentTx db tx (.insertDocument row) = tx := by
      rw [sentTx, hexec, List.append_nil]
    rw [htx, hexec]
    refine ⟨fun _ hknow => absurd rfl hknow, fun hmem => ⟨?_, rfl⟩, nofun, nofun⟩
    exact ((h kind bucket).untouched fun hmem' => hmem (hheld.mpr hmem')).1
  | true =>
    have hexec : exec (engine.current db tx) (.insertDocument row) = (true, [.document row]) :=
      if_pos haccepts
    by_cases hslot : (kind', bucket') = (kind, bucket)
    · obtain ⟨rfl, rfl⟩ := Prod.mk.inj hslot
      obtain ⟨count, hcount, hnumbers⟩ :=
        (h kind' bucket').view_numbered (hcommitted kind' bucket') nofun
      have hnext := (h kind' bucket').drawn next rfl
      have hview : (engine.current db (sentTx db tx (.insertDocument row))).view kind' bucket' =
          ((engine.current db tx).view kind' bucket').apply (.document row) := by
        rw [current_sentTx, hexec]
        exact view_visible_single _ hrow.1
      rw [hexec]
      refine ⟨fun _ _ => ⟨count + 1, ?_, ?_⟩, fun hmem => ?_, nofun, nofun⟩
      · rw [hview]
        rw [Know.pending, if_pos rfl] at hcount
        exact hcount
      · rw [Know.pending, if_pos rfl, hnext, Option.getD_some] at hcount
        have hdrawn : next = (start.view kind' bucket').next.getD 1 + count := by omega
        rw [hview, View.apply, hnumbers, hrow.2, hdrawn, List.range'_concat, List.map_append,
          List.append_assoc, Nat.one_mul]
        rfl
      · have hzero := ((h kind' bucket').untouched fun hmem' => hmem (hheld.mpr hmem')).2
        rw [Know.pending, if_pos rfl] at hzero
        cases hzero
    · rw [hexec]
      refine (h kind bucket).elsewhere hheld ?_ (if_neg hslot).symm nofun nofun nofun
      intro w hw
      rw [hexec] at hw
      rw [List.mem_singleton.mp hw]
      exact fun heq => hslot (hrow.1.symm.trans heq)

theorem Sound.sent {learn : op.Res → Know}
    (h : ∀ kind bucket, Sound start db held i know tx kind bucket)
    (hcommitted : ∀ kind bucket, Numbered kind (start.view kind bucket) (db.view kind bucket) 0)
    (hsent : Numbering.sent know op = some learn) (kind : Kind) (bucket : Nat) :
    Sound start db (held ++ (locks op (engine.current db tx)).map fun k => (i, k)) i
      (learn (exec (engine.current db tx) op).1) (sentTx db tx op) kind bucket := by
  cases know with
  | clear =>
    cases op with
    | seed kind' bucket' =>
      obtain rfl := Option.some.inj hsent
      exact Sound.seed h hcommitted kind' bucket' kind bucket
    | _ => cases hsent
  | seeded kind' bucket' =>
    cases op with
    | advance kind'' bucket'' =>
      simp only [Numbering.sent] at hsent
      split_ifs at hsent with hslot
      obtain ⟨rfl, rfl⟩ := Prod.mk.inj hslot
      obtain rfl := Option.some.inj hsent
      exact Sound.advance h hcommitted kind bucket
    | _ => cases hsent
  | drawn kind' bucket' next =>
    cases op with
    | insertDocument row =>
      simp only [Numbering.sent] at hsent
      split_ifs at hsent with hrow
      obtain rfl := Option.some.inj hsent
      exact Sound.insertDocument h hcommitted hrow kind bucket
    | _ => cases hsent
  | idle => cases hsent
  | refused => cases hsent

theorem sent_ne_idle {learn : op.Res → Know} (hsent : sent know op = some learn) (reply : op.Res) :
    learn reply ≠ .idle := by
  cases know with
  | clear =>
    cases op with
    | seed kind bucket =>
      obtain rfl := Option.some.inj hsent
      exact nofun
    | _ => cases hsent
  | seeded kind bucket =>
    cases op with
    | advance kind' bucket' =>
      simp only [sent] at hsent
      split_ifs at hsent
      obtain rfl := Option.some.inj hsent
      exact nofun
    | _ => cases hsent
  | drawn kind bucket next =>
    cases op with
    | insertDocument row =>
      simp only [sent] at hsent
      split_ifs at hsent
      obtain rfl := Option.some.inj hsent
      cases reply <;> exact nofun
    | _ => cases hsent
  | idle => cases hsent
  | refused => cases hsent

theorem Guarded.step {tick : Nat} {ghosts : Nat → Ghost Db Write Know}
    {ghost' : Ghost Db Write Know} (h : Guarded start tick db held ghosts)
    (hstep : Disciplined engine discipline i tick db held (ghosts i) db' held' ghost') :
    Guarded start (tick + 1) db' held' (Function.update ghosts i ghost') := by
  have hreleased : ∀ j k, j ≠ i → ((j, k) ∈ Sys.releasedBy held i ↔ (j, k) ∈ held) :=
    fun j k hj => by rw [Sys.mem_releasedBy, and_iff_left hj]
  have hfree : ∀ k, (i, k) ∉ Sys.releasedBy held i := fun k hmem =>
    (Sys.mem_releasedBy.mp hmem).2 rfl
  have hexclusive := Sys.exclusive_releasedBy (i := i) h.exclusive
  have hclosed := h.closed i
  have hended := h.ended i
  have hidle := h.idle i
  have hsound := h.sound i
  generalize ghosts i = ghost at hstep hclosed hended hidle hsound
  cases hstep with
  | idle =>
    exact h.others h.exclusive (fun _ _ _ => Iff.rfl) h.committed (fun _ _ _ _ _ => rfl)
      (fun _ _ hrow => hrow) hclosed hended hidle hsound
  | abort =>
    exact h.others hexclusive hreleased h.committed (fun _ _ _ _ _ => rfl)
      (fun _ _ hrow => hrow) (fun _ => hfree) (fun _ => rfl) (fun know hknow => by cases hknow)
      (fun know tx hknow => by cases hknow)
  | start know know' tx hk =>
    simp only [discipline] at hk
    split_ifs at hk with hknow
    obtain rfl := Option.some.inj hk
    obtain rfl : tx = none := (hidle know rfl).mp hknow
    refine h.others hexclusive hreleased h.committed (fun _ _ _ _ _ => rfl)
      (fun _ _ hrow => hrow) (fun _ => hfree) (fun hknow' => by cases hknow')
      (fun know' hknow' => by simp [(Option.some.inj hknow').symm]) ?_
    intro know' tx' hknow' htx' kind bucket
    obtain rfl := Option.some.inj hknow'
    obtain rfl := Option.some.inj htx'
    exact ⟨fun hmem => absurd hmem (hfree _), fun _ => ⟨nofun, rfl⟩, nofun,
      nofun⟩
  | commit know know' tx hk =>
    simp only [discipline] at hk
    split_ifs at hk with hknow
    subst hknow
    obtain rfl := Option.some.inj hk
    cases tx with
    | none => cases (hidle .clear rfl).mpr rfl
    | some tx =>
      have hslot := hsound .clear tx rfl rfl
      refine h.others hexclusive hreleased
        (fun kind bucket => (hslot kind bucket).view_numbered (h.committed kind bucket) nofun)
        (fun j kind bucket hj hmem => ?_)
        (fun kind bucket hrow => view_visible_isSome db tx.writes hrow) (fun _ => hfree)
        (fun _ => rfl) (fun know' hknow' => by simp [(Option.some.inj hknow').symm])
        (fun know' tx' _ htx' => by cases htx')
      have hnot : (i, Key.sequence kind bucket) ∉ held := fun hmem' =>
        hj (h.exclusive j i _ hmem hmem')
      exact view_visible_other db ((hslot kind bucket).untouched hnot).1
  | rollback know know' tx hk =>
    obtain rfl := Option.some.inj hk
    exact h.others hexclusive hreleased h.committed (fun _ _ _ _ _ => rfl)
      (fun _ _ hrow => hrow) (fun _ => hfree) (fun _ => rfl)
      (fun know hknow => by simp [(Option.some.inj hknow).symm])
      (fun know tx _ htx => by cases htx)
  | auto know via op learn tx hk hin hwait =>
    simp only [discipline] at hk
    split_ifs at hk with hvia
    subst hvia
    cases tx with
    | some tx => cases hin
    | none =>
      obtain rfl := (hidle know rfl).mpr rfl
      cases hk
  | within know op learn tx hk hwait =>
    have hsent : sent know op = some learn := hk
    refine h.others (Sys.exclusive_locked h.exclusive hwait) (fun j k hj => ?_) h.committed
      (fun _ _ _ _ _ => rfl) (fun _ _ hrow => hrow) (fun htx => by cases htx)
      (fun hknow => by cases hknow) (fun know' hknow' => ?_) fun know' tx' hknow' htx' => ?_
    · simp only [List.mem_append, List.mem_map, Prod.mk.injEq, exists_eq_right_right,
        or_iff_left_iff_imp]
      rintro ⟨-, rfl⟩
      exact absurd rfl hj
    · obtain rfl := Option.some.inj hknow'
      exact iff_of_false (sent_ne_idle hsent _) nofun
    · obtain rfl := Option.some.inj hknow'
      obtain rfl := Option.some.inj htx'
      exact Sound.sent (hsound know tx rfl rfl) h.committed hsent
  | call know query learn tx hk answer =>
    obtain rfl := Option.some.inj hk
    exact h.others h.exclusive (fun _ _ _ => Iff.rfl) h.committed (fun _ _ _ _ _ => rfl)
      (fun _ _ hrow => hrow) hclosed (fun hknow => by cases hknow) hidle hsound

/-- Transactions that have not begun. -/
structure Ready (s : System) : Prop where
  sessions : ∀ i, ∃ drafts, s.sessions i = ⟨some (transaction drafts), none⟩
  held : s.held = []

theorem Ready.kept {s : System} (h : Ready s) :
    s.KeptTo discipline (fun _ know => know = .idle) (Guarded s.db) := by
  refine ⟨fun _ => ⟨some .idle, none⟩, ⟨?_, fun kind bucket => ⟨0, rfl, ?_⟩, fun i _ k => ?_,
    nofun, fun i know hknow => ?_, nofun⟩, fun i => ?_⟩
  · rw [h.held]
    exact fun i j k hmem => by cases hmem
  · exact (List.append_nil _).symm
  · rw [h.held]
    exact List.not_mem_nil
  · simp [(Option.some.inj hknow).symm]
  · obtain ⟨drafts, hsession⟩ := h.sessions i
    refine ⟨by rw [hsession], fun p hp => ⟨.idle, rfl, ?_⟩⟩
    rw [hsession] at hp
    obtain rfl := Option.some.inj hp
    exact follows_transaction drafts

/-- Numbers of committed documents are consecutive in commit order. -/
theorem numbers_gapless {s : System} (h : Ready s) (labels : List (Label Query.Answer))
    (kind : Kind) (bucket : Nat) :
    let s' := Transition.run (Sys.step engine) s labels
    ∃ count,
      s'.db.numbers kind bucket = s.db.numbers kind bucket ++
        (List.range' (s.db.next kind bucket) count).map kind.text ∧
      s'.db.next kind bucket = s.db.next kind bucket + count ∧
      ((List.range' (s.db.next kind bucket) count).map kind.text).Nodup := by
  intro s'
  have hstep : ∀ i tick db held ghosts db' held' ghost', Guarded s.db tick db held ghosts →
      Disciplined engine discipline i tick db held (ghosts i) db' held' ghost' →
      Guarded s.db (tick + 1) db' held' (Function.update ghosts i ghost') :=
    fun i tick db held ghosts db' held' ghost' hguarded hd => hguarded.step hd
  obtain ⟨ghosts, hguarded, -⟩ := Sys.run_keptTo hstep h.kept labels
  obtain ⟨count, hnext, hnumbers⟩ := hguarded.committed kind bucket
  exact ⟨count, hnumbers, hnext, (List.nodup_range' 1).map kind.text_injective⟩

/-- Two transactions: the first draws an invoice number, the second an invoice and a quote number. -/
def sampleSystem : System where
  db := ⟨[], []⟩
  tick := 0
  held := []
  sessions := fun i =>
    if i = 0 then ⟨some (transaction [⟨.invoice, some 7⟩]), none⟩
    else ⟨some (transaction [⟨.invoice, some 7⟩, ⟨.quote, some 7⟩]), none⟩
  calls := []

theorem sampleSystem_ready : Ready sampleSystem := by
  refine ⟨fun i => ?_, rfl⟩
  by_cases hi : i = 0
  · exact ⟨_, if_pos hi⟩
  · exact ⟨_, if_neg hi⟩

/-- The second transaction waits for the first one, which rolls back. -/
def sampleLabels : List (Label Query.Answer) :=
  [.step 0 fun _ => true, .step 0 fun _ => true, .step 1 fun _ => true, .step 1 fun _ => true,
    .step 0 fun _ => true, .step 0 fun _ => false, .step 0 fun _ => false] ++
    List.replicate 10 (.step 1 fun _ => true)

/-- The number of the transaction that rolled back is given to the next one. -/
theorem numbers_gapless_sample :
    let s' := Transition.run (Sys.step engine) sampleSystem sampleLabels
    s'.db.documents.map Document.number = ["INV-000001", "QUO-000001"] ∧
      ∃ count,
        s'.db.numbers .invoice 7 = sampleSystem.db.numbers .invoice 7 ++
          (List.range' (sampleSystem.db.next .invoice 7) count).map Kind.invoice.text ∧
        s'.db.next .invoice 7 = sampleSystem.db.next .invoice 7 + count ∧
        ((List.range' (sampleSystem.db.next .invoice 7) count).map Kind.invoice.text).Nodup :=
  ⟨by decide +kernel, numbers_gapless sampleSystem_ready sampleLabels .invoice 7⟩

end FireIsp.Numbering
