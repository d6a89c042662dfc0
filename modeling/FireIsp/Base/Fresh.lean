import Mathlib.Data.List.Nodup
import FireIsp.Base.Discipline

/-!
# Fresh ids

A statement that inserts a row gives it the tick as its id.  So no two rows of a table have the same
id, in the committed state, in what a transaction sees and in what its consistent reads see.
-/

namespace Txn

variable {σ W K Op : Type} {Res : Op → Type} {Query : Type} {Answer : Query → Type} {Know : Type}

/-- The ids of a table: a write adds those it stores, and a statement stores at most its tick. -/
structure Minting (E : Engine σ W K Op Res) where
  ids : σ → List Nat
  born : W → List Nat
  ids_apply : ∀ db w, ids (E.apply db w) = ids db ++ born w
  born_exec : ∀ op tick db seen, (E.exec op tick db seen).2.flatMap born = [] ∨
    (E.exec op tick db seen).2.flatMap born = [tick]

namespace Minting

variable {E : Engine σ W K Op Res} {D : Discipline Know Op Res Query Answer} (M : Minting E)

theorem ids_visible (db : σ) (writes : List W) :
    M.ids (E.visible db writes) = M.ids db ++ writes.flatMap M.born := by
  induction writes generalizing db with
  | nil => exact (List.append_nil _).symm
  | cons w writes ih =>
    rw [Engine.visible_cons, ih, M.ids_apply, List.flatMap_cons, List.append_assoc]

/-- Ids are given once. -/
structure Fresh (tick : Nat) (db : σ) (ghosts : Nat → Ghost σ W Know) : Prop where
  keyed : (M.ids db).Nodup
  below : ∀ n ∈ M.ids db, n < tick
  pending : ∃ owner : Nat → Nat, ∀ i tx, (ghosts i).tx = some tx →
    (tx.writes.flatMap M.born).Nodup ∧
      ∀ n ∈ tx.writes.flatMap M.born, n < tick ∧ owner n = i ∧ n ∉ M.ids db
  views : ∀ i tx view, (ghosts i).tx = some tx → tx.view = some view →
    (M.ids view).Nodup ∧ M.ids view ⊆ M.ids db

variable {M} {tick : Nat} {db db' : σ} {ghosts : Nat → Ghost σ W Know} {ghost' : Ghost σ W Know}
  {i : Nat} {held held' : List (Nat × K)}

theorem Fresh.update (h : M.Fresh tick db ghosts) (hkeyed : (M.ids db').Nodup)
    (hbelow : ∀ n ∈ M.ids db', n < tick + 1) (hgrow : M.ids db ⊆ M.ids db')
    (hothers : ∀ j tx, j ≠ i → (ghosts j).tx = some tx →
      ∀ n ∈ tx.writes.flatMap M.born, n ∉ M.ids db')
    (hself : ∀ tx, ghost'.tx = some tx → (tx.writes.flatMap M.born).Nodup ∧
      ∀ n ∈ tx.writes.flatMap M.born, n ∉ M.ids db' ∧
        (n = tick ∨ ∃ old, (ghosts i).tx = some old ∧ n ∈ old.writes.flatMap M.born))
    (hview : ∀ tx view, ghost'.tx = some tx → tx.view = some view →
      (M.ids view).Nodup ∧ M.ids view ⊆ M.ids db') :
    M.Fresh (tick + 1) db' (Function.update ghosts i ghost') := by
  obtain ⟨owner, howner⟩ := h.pending
  refine ⟨hkeyed, hbelow, ⟨Function.update owner tick i, fun j tx htx => ?_⟩,
    fun j tx view htx hv => ?_⟩
  · by_cases hj : j = i
    · subst hj
      rw [Function.update_self] at htx
      obtain ⟨hnodup, hmem⟩ := hself tx htx
      refine ⟨hnodup, fun n hn => ?_⟩
      obtain ⟨hnew, rfl | ⟨old, hold, hin⟩⟩ := hmem n hn
      · exact ⟨Nat.lt_succ_self n, Function.update_self _ _ _, hnew⟩
      · obtain ⟨hlt, hown, -⟩ := (howner j old hold).2 n hin
        refine ⟨Nat.lt_succ_of_lt hlt, ?_, hnew⟩
        rw [Function.update_of_ne (Nat.ne_of_lt hlt)]
        exact hown
    · rw [Function.update_of_ne hj] at htx
      obtain ⟨hnodup, hmem⟩ := howner j tx htx
      refine ⟨hnodup, fun n hn => ?_⟩
      obtain ⟨hlt, hown, -⟩ := hmem n hn
      refine ⟨Nat.lt_succ_of_lt hlt, ?_, hothers j tx hj htx n hn⟩
      rw [Function.update_of_ne (Nat.ne_of_lt hlt)]
      exact hown
  · by_cases hj : j = i
    · subst hj
      rw [Function.update_self] at htx
      exact hview tx view htx hv
    · rw [Function.update_of_ne hj] at htx
      obtain ⟨hnodup, hsub⟩ := h.views j tx view htx hv
      exact ⟨hnodup, List.Subset.trans hsub hgrow⟩

theorem Fresh.quiet (h : M.Fresh tick db ghosts)
    (hself : ∀ tx, ghost'.tx = some tx → (ghosts i).tx = some tx ∨ tx = Tx.empty) :
    M.Fresh (tick + 1) db (Function.update ghosts i ghost') := by
  obtain ⟨owner, howner⟩ := h.pending
  refine h.update h.keyed (fun n hn => Nat.lt_succ_of_lt (h.below n hn)) (fun _ hn => hn)
    (fun j tx _ htx n hn => ((howner j tx htx).2 n hn).2.2) (fun tx htx => ?_)
    fun tx view htx hv => ?_
  · rcases hself tx htx with hold | rfl
    · obtain ⟨hnodup, hmem⟩ := howner i tx hold
      exact ⟨hnodup, fun n hn => ⟨(hmem n hn).2.2, Or.inr ⟨tx, hold, hn⟩⟩⟩
    · exact ⟨List.nodup_nil, fun n hn => absurd hn List.not_mem_nil⟩
  · rcases hself tx htx with hold | rfl
    · exact h.views i tx view hold hv
    · cases hv

theorem Fresh.visible_keyed (h : M.Fresh tick db ghosts) {tx : Tx σ W}
    (htx : (ghosts i).tx = some tx) : (M.ids (E.visible db tx.writes)).Nodup := by
  obtain ⟨owner, howner⟩ := h.pending
  obtain ⟨hnodup, hmem⟩ := howner i tx htx
  rw [M.ids_visible]
  exact List.Nodup.append h.keyed hnodup fun n hn hn' => (hmem n hn').2.2 hn

theorem Fresh.snapshot_keyed (h : M.Fresh tick db ghosts) {tx : Tx σ W}
    (htx : (ghosts i).tx = some tx) : (M.ids (E.snapshot db tx)).Nodup ∧
      M.ids (E.snapshot db tx) ⊆ M.ids (E.visible db tx.writes) := by
  obtain ⟨owner, howner⟩ := h.pending
  obtain ⟨hnodup, hmem⟩ := howner i tx htx
  have hview : (M.ids (tx.view.getD db)).Nodup ∧ M.ids (tx.view.getD db) ⊆ M.ids db := by
    cases hv : tx.view with
    | none => exact ⟨h.keyed, fun _ hn => hn⟩
    | some view => exact h.views i tx view htx hv
  unfold Engine.snapshot
  rw [M.ids_visible, M.ids_visible]
  refine ⟨List.Nodup.append hview.1 hnodup fun n hn hn' => (hmem n hn').2.2 (hview.2 hn),
    fun n hn => ?_⟩
  rcases List.mem_append.mp hn with hn | hn
  · exact List.mem_append_left _ (hview.2 hn)
  · exact List.mem_append_right _ hn

theorem Fresh.pending_ne (h : M.Fresh tick db ghosts) {j n : Nat} {tx tx' : Tx σ W}
    (htx : (ghosts i).tx = some tx) (htx' : (ghosts j).tx = some tx')
    (hn : n ∈ tx.writes.flatMap M.born) : n ∉ M.ids db ∧
      (n ∈ tx'.writes.flatMap M.born → j = i) := by
  obtain ⟨owner, howner⟩ := h.pending
  obtain ⟨-, hown, hnew⟩ := (howner i tx htx).2 n hn
  exact ⟨hnew, fun hn' => ((howner j tx' htx').2 n hn').2.1.symm.trans hown⟩

theorem Fresh.tick_new (h : M.Fresh tick db ghosts) {tx : Tx σ W}
    (htx : (ghosts i).tx = some tx) : tick ∉ M.ids (E.visible db tx.writes) := by
  obtain ⟨owner, howner⟩ := h.pending
  rw [M.ids_visible, List.mem_append, not_or]
  exact ⟨fun hn => Nat.lt_irrefl _ (h.below _ hn),
    fun hn => Nat.lt_irrefl _ ((howner i tx htx).2 _ hn).1⟩

theorem Fresh.settled (h : M.Fresh tick db ghosts) {tx : Option (Tx σ W)}
    (htx : (ghosts i).tx = tx) (hself : ∀ tx, ghost'.tx = some tx → tx = Tx.empty) :
    M.Fresh (tick + 1) (E.settled db tx) (Function.update ghosts i ghost') := by
  cases tx with
  | none => exact h.quiet fun tx htx => Or.inr (hself tx htx)
  | some tx =>
    obtain ⟨owner, howner⟩ := h.pending
    have hids := M.ids_visible db tx.writes
    refine h.update (h.visible_keyed htx) (fun n hn => ?_) (fun n hn => ?_)
      (fun j other hj hother n hn => ?_) (fun new hnew => ?_) fun new view hnew hv => ?_
    · rw [Engine.settled_some, hids, List.mem_append] at hn
      exact Nat.lt_succ_of_lt (hn.elim (h.below n) fun hn => ((howner i tx htx).2 n hn).1)
    · rw [Engine.settled_some, hids]
      exact List.mem_append_left _ hn
    · rw [Engine.settled_some, hids, List.mem_append, not_or]
      obtain ⟨hnew, hne⟩ := h.pending_ne hother htx hn
      exact ⟨hnew, fun hn' => hj (hne hn').symm⟩
    · rw [hself new hnew]
      exact ⟨List.nodup_nil, fun n hn => absurd hn List.not_mem_nil⟩
    · rw [hself new hnew] at hv
      cases hv

theorem Fresh.step (h : M.Fresh tick db ghosts)
    (hd : Disciplined E D i tick db held (ghosts i) db' held' ghost') :
    M.Fresh (tick + 1) db' (Function.update ghosts i ghost') := by
  generalize hghost : ghosts i = ghost at hd
  obtain ⟨owner, howner⟩ := id h.pending
  cases hd with
  | idle => exact h.quiet fun tx htx => Or.inl (hghost ▸ htx)
  | abort => exact h.quiet fun tx htx => nomatch htx
  | start know know' tx hk =>
    exact h.settled (by rw [hghost]) fun tx htx => (Option.some.inj htx).symm
  | commit know know' tx hk => exact h.settled (by rw [hghost]) fun tx htx => nomatch htx
  | rollback know know' tx hk => exact h.quiet fun tx htx => nomatch htx
  | call know query learn tx hk answer => exact h.quiet fun tx htx => Or.inl (by rw [hghost, htx])
  | auto know via op learn tx hk hin hfree =>
    have hids := M.ids_visible db (E.exec op tick db db).2
    have hborn : ∀ n ∈ (E.exec op tick db db).2.flatMap M.born, n = tick := fun n hn => by
      rcases M.born_exec op tick db db with hnone | hone
      · rw [hnone] at hn
        exact absurd hn List.not_mem_nil
      · rw [hone] at hn
        exact List.mem_singleton.mp hn
    have hnodup : ((E.exec op tick db db).2.flatMap M.born).Nodup := by
      rcases M.born_exec op tick db db with hnone | hone
      · rw [hnone]
        exact List.nodup_nil
      · rw [hone]
        exact List.nodup_singleton tick
    have hnew : ∀ j tx, (ghosts j).tx = some tx → ∀ n ∈ tx.writes.flatMap M.born,
        n ∉ M.ids (E.visible db (E.exec op tick db db).2) := fun j tx htx n hn => by
      obtain ⟨hlt, -, hnot⟩ := (howner j tx htx).2 n hn
      rw [hids, List.mem_append, not_or]
      exact ⟨hnot, fun hn' => Nat.ne_of_lt hlt (hborn n hn')⟩
    refine h.update ?_ (fun n hn => ?_) (fun n hn => ?_)
      (fun j other _ hother => hnew j other hother) (fun new htx => ?_)
      fun new view htx hv => ?_
    · rw [hids]
      refine List.Nodup.append h.keyed hnodup fun n hn hn' => ?_
      exact Nat.lt_irrefl _ (hborn n hn' ▸ h.below n hn)
    · rw [hids, List.mem_append] at hn
      exact hn.elim (fun hn => Nat.lt_succ_of_lt (h.below n hn))
        fun hn => hborn n hn ▸ Nat.lt_succ_self tick
    · rw [hids]
      exact List.mem_append_left _ hn
    · have hold : (ghosts i).tx = some new := by rw [hghost]; exact htx
      exact ⟨(howner i new hold).1, fun n hn => ⟨hnew i new hold n hn, Or.inr ⟨new, hold, hn⟩⟩⟩
    · obtain ⟨hviewKeyed, hsub⟩ := h.views i new view (by rw [hghost]; exact htx) hv
      refine ⟨hviewKeyed, fun n hn => ?_⟩
      rw [hids]
      exact List.mem_append_left _ (hsub hn)
  | within know op learn tx hk hfree =>
    have hold : (ghosts i).tx = some tx := by rw [hghost]
    obtain ⟨hnodup, hmem⟩ := howner i tx hold
    refine h.update h.keyed (fun n hn => Nat.lt_succ_of_lt (h.below n hn)) (fun _ hn => hn)
      (fun j other _ hother n hn => ((howner j other hother).2 n hn).2.2)
      (fun new hnew => ?_) fun new view hnew hv => ?_
    · obtain rfl := Option.some.inj hnew
      simp only [List.flatMap_append]
      rcases M.born_exec op tick (E.current db tx) (E.snapshot db (E.fix op db tx)) with
        hnone | hone
      · rw [hnone, List.append_nil]
        exact ⟨hnodup, fun n hn => ⟨(hmem n hn).2.2, Or.inr ⟨tx, hold, hn⟩⟩⟩
      · rw [hone]
        refine ⟨List.Nodup.append hnodup (List.nodup_singleton tick) fun n hn hn' => ?_,
          fun n hn => ?_⟩
        · exact Nat.ne_of_lt (hmem n hn).1 (List.mem_singleton.mp hn')
        · rcases List.mem_append.mp hn with hn | hn
          · exact ⟨(hmem n hn).2.2, Or.inr ⟨tx, hold, hn⟩⟩
          · obtain rfl := List.mem_singleton.mp hn
            exact ⟨fun hn => Nat.lt_irrefl _ (h.below _ hn), Or.inl rfl⟩
    · obtain rfl := Option.some.inj hnew
      simp only [Engine.fix] at hv
      split_ifs at hv with hsnap
      · obtain rfl := Option.some.inj hv
        cases hview : tx.view with
        | none => exact ⟨h.keyed, fun _ hn => hn⟩
        | some old => exact h.views i tx old hold hview
      · exact h.views i tx view hold hv

end Minting

end Txn
