import FireIsp.Base.Fresh

/-!
# Versions of a row

A table whose rows are only added and replaced by further versions.  A row stays the same one
whatever is committed, what a consistent read sees is an older state of it, and nobody changes a row
another transaction has locked or has just added.
-/

namespace Txn

variable {σ W K Op : Type} {Res : Op → Type} {Query : Type} {Answer : Query → Type} {Know : Type}
  {Row : Type}

/-- A table of rows with ids: what each write does to a row, and what never changes of it. -/
structure Rows (E : Engine σ W K Op Res) (M : Minting E) (Row : Type) where
  row : σ → Nat → Option Row
  act : W → Nat → Option Row → Option Row
  Same : Row → Row → Prop
  key : Nat → K
  refl : ∀ row, Same row row
  symm : ∀ a b, Same a b → Same b a
  trans : ∀ a b c, Same a b → Same b c → Same a c
  row_apply : ∀ db w n, row (E.apply db w) n = act w n (row db n)
  act_some : ∀ w n a, ∃ b, act w n (some a) = some b ∧ Same a b
  act_none : ∀ w n b, act w n none = some b → n ∈ M.born w
  row_isSome : ∀ db n, (row db n).isSome = true ↔ n ∈ M.ids db
  locked : ∀ op tick db seen, ∀ w ∈ (E.exec op tick db seen).2, ∀ n, (∀ d, act w n d = d) ∨
    key n ∈ E.locks op db ∨ n ∈ (E.exec op tick db seen).2.flatMap M.born

namespace Rows

variable {E : Engine σ W K Op Res} {M : Minting E} (T : Rows E M Row)

/-- What several writes do to the row with an id. -/
def acts (writes : List W) (n : Nat) (d : Option Row) : Option Row :=
  writes.foldl (fun d w => T.act w n d) d

/-- The writes leave the row with this id. -/
def Spares (writes : List W) (n : Nat) : Prop := ∀ w ∈ writes, ∀ d, T.act w n d = d

/-- Every row of the first state is in the second one, as a version of it. -/
def Older (a b : σ) : Prop :=
  ∀ n x, T.row a n = some x → ∃ y, T.row b n = some y ∧ T.Same x y

variable {T} {db db' a b c : σ} {writes : List W} {n : Nat}

theorem acts_cons (w : W) (writes : List W) (n : Nat) (d : Option Row) :
    T.acts (w :: writes) n d = T.acts writes n (T.act w n d) := rfl

theorem row_visible (db : σ) (writes : List W) (n : Nat) :
    T.row (E.visible db writes) n = T.acts writes n (T.row db n) := by
  induction writes generalizing db with
  | nil => rfl
  | cons w writes ih =>
    rw [Engine.visible_cons, ih, T.row_apply, acts_cons]

theorem acts_some (writes : List W) (n : Nat) (x : Row) :
    ∃ y, T.acts writes n (some x) = some y ∧ T.Same x y := by
  induction writes generalizing x with
  | nil => exact ⟨x, rfl, T.refl x⟩
  | cons w writes ih =>
    obtain ⟨y, hy, hsame⟩ := T.act_some w n x
    obtain ⟨z, hz, hsame'⟩ := ih y
    refine ⟨z, ?_, T.trans _ _ _ hsame hsame'⟩
    rw [acts_cons, hy, hz]

theorem acts_none {y : Row} (h : T.acts writes n none = some y) : n ∈ writes.flatMap M.born := by
  induction writes with
  | nil => cases h
  | cons w writes ih =>
    rw [List.flatMap_cons, List.mem_append]
    cases hact : T.act w n none with
    | some x => exact Or.inl (T.act_none w n x hact)
    | none =>
      rw [acts_cons, hact] at h
      exact Or.inr (ih h)

theorem acts_of_spares (h : T.Spares writes n) (d : Option Row) : T.acts writes n d = d := by
  induction writes generalizing d with
  | nil => rfl
  | cons w writes ih =>
    rw [acts_cons, h w List.mem_cons_self, ih fun w hw => h w (List.mem_cons_of_mem _ hw)]

theorem row_of_spares (h : T.Spares writes n) (db : σ) :
    T.row (E.visible db writes) n = T.row db n :=
  (row_visible db writes n).trans (acts_of_spares h _)

theorem row_eq_none : T.row db n = none ↔ n ∉ M.ids db := by
  rw [← T.row_isSome, Bool.not_eq_true, Option.isSome_eq_false_iff, Option.isNone_iff_eq_none]

theorem Older.refl (a : σ) : T.Older a a := fun _ x h => ⟨x, h, T.refl x⟩

theorem Older.trans (h : T.Older a b) (h' : T.Older b c) : T.Older a c := by
  intro n x hx
  obtain ⟨y, hy, hsame⟩ := h n x hx
  obtain ⟨z, hz, hsame'⟩ := h' n y hy
  exact ⟨z, hz, T.trans _ _ _ hsame hsame'⟩

theorem older_visible (db : σ) (writes : List W) : T.Older db (E.visible db writes) := by
  intro n x hx
  rw [row_visible, hx]
  exact acts_some writes n x

theorem Older.visible (h : T.Older a b) (hnew : ∀ n ∈ writes.flatMap M.born, n ∉ M.ids b) :
    T.Older (E.visible a writes) (E.visible b writes) := by
  intro n x hx
  rw [row_visible] at hx ⊢
  cases ha : T.row a n with
  | some y =>
    obtain ⟨z, hz, hsame⟩ := h n y ha
    obtain ⟨y', hy', hsameY⟩ := acts_some (T := T) writes n y
    obtain ⟨z', hz', hsameZ⟩ := acts_some (T := T) writes n z
    rw [ha, hy'] at hx
    obtain rfl := Option.some.inj hx
    rw [hz, hz']
    exact ⟨z', rfl, T.trans _ _ _ (T.symm _ _ hsameY) (T.trans _ _ _ hsame hsameZ)⟩
  | none =>
    rw [ha] at hx
    have hb : T.row b n = none := row_eq_none.mpr (hnew n (acts_none hx))
    rw [hb]
    exact ⟨x, hx, T.refl x⟩

/-- What holds of the rows in every interleaving. -/
structure Grounded (T : Rows E M Row) (tick : Nat) (db : σ) (held : List (Nat × K))
    (ghosts : Nat → Ghost σ W Know) : Prop where
  exclusive : Sys.Exclusive held
  fresh : M.Fresh tick db ghosts
  owners : ∀ i tx, (ghosts i).tx = some tx → ∀ n, T.Spares tx.writes n ∨
    (i, T.key n) ∈ held ∨ n ∈ tx.writes.flatMap M.born
  views : ∀ i tx view, (ghosts i).tx = some tx → tx.view = some view → T.Older view db

variable {tick i j : Nat} {held held' : List (Nat × K)} {ghosts : Nat → Ghost σ W Know}
  {ghost' : Ghost σ W Know} {tx : Tx σ W}

theorem Grounded.born_new (h : T.Grounded tick db held ghosts) (htx : (ghosts i).tx = some tx) :
    ∀ n ∈ tx.writes.flatMap M.born, n ∉ M.ids db := by
  obtain ⟨owner, howner⟩ := h.fresh.pending
  exact fun n hn => ((howner i tx htx).2 n hn).2.2

theorem Grounded.older_snapshot (h : T.Grounded tick db held ghosts)
    (htx : (ghosts i).tx = some tx) :
    T.Older (E.snapshot db tx) (E.visible db tx.writes) := by
  refine Older.visible ?_ (h.born_new htx)
  cases hv : tx.view with
  | none => exact Older.refl db
  | some view => exact h.views i tx view htx hv

theorem Grounded.spares (h : T.Grounded tick db held ghosts) (htx : (ghosts i).tx = some tx)
    (hj : j ≠ i) (hlock : (j, T.key n) ∈ held) : T.row db n ≠ none → T.Spares tx.writes n := by
  intro hrow
  rcases h.owners i tx htx n with hspares | hlock' | hborn
  · exact hspares
  · exact absurd (h.exclusive j i _ hlock hlock') hj
  · exact absurd (row_eq_none.mpr (h.born_new htx n hborn)) hrow

theorem Grounded.stays (h : T.Grounded tick db held ghosts) (htx : (ghosts i).tx = some tx)
    {tx' : Tx σ W} (htx' : (ghosts j).tx = some tx') (hj : j ≠ i)
    (hown : (j, T.key n) ∈ held ∧ T.row db n ≠ none ∨ n ∈ tx'.writes.flatMap M.born) :
    T.row (E.visible db tx.writes) n = T.row db n := by
  rcases hown with ⟨hlock, hrow⟩ | hborn
  · exact row_of_spares (h.spares htx hj hlock hrow) db
  · obtain ⟨hnew, hother⟩ := h.fresh.pending_ne htx' htx hborn
    have hnone : T.row db n = none := row_eq_none.mpr hnew
    rw [row_visible, hnone]
    cases hacts : T.acts tx.writes n none with
    | none => rfl
    | some x => exact absurd (hother (acts_none hacts)).symm hj

theorem Grounded.stays_auto (h : T.Grounded tick db held ghosts) {op : Op}
    (hfree : ∀ j k, (j, k) ∈ held → k ∉ E.locks op db) {tx' : Tx σ W}
    (htx' : (ghosts j).tx = some tx')
    (hown : (j, T.key n) ∈ held ∧ T.row db n ≠ none ∨ n ∈ tx'.writes.flatMap M.born) :
    T.row (E.visible db (E.exec op tick db db).2) n = T.row db n := by
  have hborn : ∀ m ∈ (E.exec op tick db db).2.flatMap M.born, m = tick := fun m hm => by
    rcases M.born_exec op tick db db with hnone | hone
    · rw [hnone] at hm
      exact absurd hm List.not_mem_nil
    · rw [hone] at hm
      exact List.mem_singleton.mp hm
  rcases hown with ⟨hlock, hrow⟩ | hn
  · refine row_of_spares (fun w hw => ?_) db
    rcases T.locked op tick db db w hw n with hsame | hkey | hn
    · exact hsame
    · exact absurd hkey (hfree j _ hlock)
    · have hid : n ∈ M.ids db := (T.row_isSome db n).mp (Option.isSome_iff_ne_none.mpr hrow)
      exact absurd (hborn n hn ▸ h.fresh.below n hid) (Nat.lt_irrefl _)
  · obtain ⟨owner, howner⟩ := h.fresh.pending
    obtain ⟨hlt, -, hnew⟩ := (howner j tx' htx').2 n hn
    have hnone : T.row db n = none := row_eq_none.mpr hnew
    rw [row_visible, hnone]
    cases hacts : T.acts (E.exec op tick db db).2 n none with
    | none => rfl
    | some x => exact absurd (hborn n (acts_none hacts)) (Nat.ne_of_lt hlt)

theorem Grounded.update (h : T.Grounded tick db held ghosts)
    (hexclusive : Sys.Exclusive held')
    (hfresh : M.Fresh (tick + 1) db' (Function.update ghosts i ghost'))
    (hgrow : T.Older db db') (hheld : ∀ j k, j ≠ i → (j, k) ∈ held → (j, k) ∈ held')
    (howners : ∀ tx, ghost'.tx = some tx → ∀ n, T.Spares tx.writes n ∨
      (i, T.key n) ∈ held' ∨ n ∈ tx.writes.flatMap M.born)
    (hviews : ∀ tx view, ghost'.tx = some tx → tx.view = some view → T.Older view db') :
    T.Grounded (tick + 1) db' held' (Function.update ghosts i ghost') := by
  refine ⟨hexclusive, hfresh, fun j tx htx n => ?_, fun j tx view htx hv => ?_⟩
  · by_cases hj : j = i
    · subst hj
      rw [Function.update_self] at htx
      exact howners tx htx n
    · rw [Function.update_of_ne hj] at htx
      exact (h.owners j tx htx n).imp_right (Or.imp_left (hheld j _ hj))
  · by_cases hj : j = i
    · subst hj
      rw [Function.update_self] at htx
      exact hviews tx view htx hv
    · rw [Function.update_of_ne hj] at htx
      exact (h.views j tx view htx hv).trans hgrow

theorem Grounded.step {D : Discipline Know Op Res Query Answer}
    (h : T.Grounded tick db held ghosts)
    (hd : Disciplined E D i tick db held (ghosts i) db' held' ghost') :
    T.Grounded (tick + 1) db' held' (Function.update ghosts i ghost') := by
  have hfresh := h.fresh.step hd
  have hreleased : Sys.Exclusive (Sys.releasedBy held i) := Sys.exclusive_releasedBy h.exclusive
  have hother : ∀ j k, j ≠ i → (j, k) ∈ held → (j, k) ∈ Sys.releasedBy held i :=
    fun j k hj hk => Sys.mem_releasedBy_other hj hk
  generalize hghost : ghosts i = ghost at hd
  cases hd with
  | idle =>
    exact h.update h.exclusive hfresh (Older.refl db) (fun _ _ _ hk => hk)
      (fun tx htx => h.owners i tx (hghost ▸ htx))
      fun tx view htx hv => h.views i tx view (hghost ▸ htx) hv
  | abort => exact h.update hreleased hfresh (Older.refl db) hother nofun nofun
  | start know know' tx hk =>
    have hgrow : T.Older db (E.settled db tx) := by
      cases tx with
      | none => exact Older.refl db
      | some tx => exact older_visible db tx.writes
    refine h.update hreleased hfresh hgrow hother (fun tx htx n => ?_) fun tx view htx hv => ?_
    · obtain rfl := Option.some.inj htx
      exact Or.inl fun w hw => absurd hw List.not_mem_nil
    · obtain rfl := Option.some.inj htx
      cases hv
  | commit know know' tx hk =>
    have hgrow : T.Older db (E.settled db tx) := by
      cases tx with
      | none => exact Older.refl db
      | some tx => exact older_visible db tx.writes
    exact h.update hreleased hfresh hgrow hother nofun nofun
  | rollback know know' tx hk => exact h.update hreleased hfresh (Older.refl db) hother nofun nofun
  | call know query learn tx hk answer =>
    exact h.update h.exclusive hfresh (Older.refl db) (fun _ _ _ hk => hk)
      (fun tx htx => h.owners i tx (hghost ▸ htx))
      fun tx view htx hv => h.views i tx view (hghost ▸ htx) hv
  | auto know via op learn tx hk hin hfree =>
    have hgrow := older_visible (T := T) db (E.exec op tick db db).2
    exact h.update h.exclusive hfresh hgrow (fun _ _ _ hk => hk)
      (fun tx htx => h.owners i tx (hghost ▸ htx))
      fun tx view htx hv => (h.views i tx view (hghost ▸ htx) hv).trans hgrow
  | within know op learn tx hk hfree =>
    have hold : (ghosts i).tx = some tx := by rw [hghost]
    refine h.update (Sys.exclusive_locked h.exclusive hfree) hfresh (Older.refl db)
      (fun _ _ _ hk => List.mem_append_left _ hk) (fun new hnew n => ?_)
      fun new view hnew hv => ?_
    · obtain rfl := Option.some.inj hnew
      simp only [List.flatMap_append]
      have hlocked := T.locked op tick (E.current db tx) (E.snapshot db (E.fix op db tx))
      by_cases hnext : T.Spares (E.exec op tick (E.current db tx)
          (E.snapshot db (E.fix op db tx))).2 n
      · rcases h.owners i tx hold n with hspares | hlock | hborn
        · refine Or.inl fun w hw => ?_
          exact (List.mem_append.mp hw).elim (hspares w) (hnext w)
        · exact Or.inr (Or.inl (List.mem_append_left _ hlock))
        · exact Or.inr (Or.inr (List.mem_append_left _ hborn))
      · simp only [Spares, not_forall] at hnext
        obtain ⟨w, hw, d, hne⟩ := hnext
        rcases hlocked w hw n with hsame | hlock | hborn
        · exact absurd (hsame d) hne
        · exact Or.inr (Or.inl (List.mem_append_right _ (List.mem_map.mpr ⟨_, hlock, rfl⟩)))
        · exact Or.inr (Or.inr (List.mem_append_right _ hborn))
    · obtain rfl := Option.some.inj hnew
      simp only [Engine.fix] at hv
      split_ifs at hv with hsnap
      · obtain rfl := Option.some.inj hv
        cases hview : tx.view with
        | none => exact Older.refl db
        | some old => exact h.views i tx old hold hview
      · exact h.views i tx view hold hv

end Rows

end Txn
