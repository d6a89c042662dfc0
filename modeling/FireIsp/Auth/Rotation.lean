import FireIsp.Auth.Discipline
import FireIsp.Base.Fresh
import FireIsp.Base.Guard

/-!
# Sessions and their families

Rows of `user_sessions` are inserted with a token of their own and deleted once.  Who rotates a
session holds its row until the successor is committed, so in every interleaving a refresh token is
redeemed at most once, and a family has at most one session.
-/

namespace FireIsp.Auth

open Txn

variable {digest : Secret → Digest} {verifies same : String → String → Bool}

def minting (digest : Secret → Digest) (verifies same : String → String → Bool) :
    Minting (engine digest verifies same) where
  ids db := db.inserted.map UserSession.id
  born w := match w with
    | .inserted row => [row.id]
    | _ => []
  ids_apply db w := by
    cases w with
    | inserted row => exact List.map_append
    | _ => exact (List.append_nil _).symm
  born_exec op tick db seen := by
    cases op with
    | openSession => exact Or.inr rfl
    | replaceSession => exact Or.inr rfl
    | _ => exact Or.inl rfl

theorem mem_userSessions {db : Db} {row : UserSession} :
    row ∈ db.userSessions ↔ row ∈ db.inserted ∧ row.id ∉ db.deleted := by
  simp [Db.userSessions]

theorem mem_idsWhere {db : Db} {p : UserSession → Bool} {id : Nat} :
    id ∈ db.idsWhere p ↔ ∃ row ∈ db.userSessions, p row = true ∧ row.id = id := by
  simp [Db.idsWhere, and_assoc]

/-- Its token is its own. -/
def UserSession.Named (digest : Secret → Digest) (row : UserSession) : Prop :=
  row.tokenHash = digest (.token row.id)

/-- It is the successor of a session. -/
structure Succeeds (digest : Secret → Digest) (row new : UserSession) : Prop where
  named : new.Named digest
  user : new.userId = row.userId
  family : new.tokenFamily = row.tokenFamily
  origin : new.origin = row.origin

/-- How far a session has come, from what it knows. -/
def Stage (digest : Secret → Digest) (db : Db) (held : List (Nat × Nat)) (i : Nat)
    (tx : Option (Tx Db Write)) : Know → Prop
  | .found row => tx = none ∧ row ∈ db.inserted
  | .begun row => tx = some Tx.empty ∧ row ∈ db.inserted
  | .missed => True
  | .claimed row => row ∈ db.userSessions ∧ (i, row.id) ∈ held ∧
      ∃ ids, tx = some ⟨none, [.deleted ids]⟩ ∧ ∀ id, id ∈ ids ↔ id = row.id
  | .replaced row => row ∈ db.userSessions ∧ (i, row.id) ∈ held ∧
      ∃ ids new, tx = some ⟨none, [.deleted ids, .inserted new]⟩ ∧ (∀ id, id ∈ ids ↔ id = row.id) ∧
        Succeeds digest row new
  | .redeemed row => tx = none ∧ row ∈ db.inserted ∧ row.id ∈ db.deleted
  | _ => tx = none

/-- How far a session has come; one that was cut off has no transaction. -/
def Placed (digest : Secret → Digest) (db : Db) (held : List (Nat × Nat)) (i : Nat)
    (ghost : Ghost Db Write Know) : Prop :=
  match ghost.know with
  | none => ghost.tx = none
  | some know => Stage digest db held i ghost.tx know

/-- What holds of the sessions in every interleaving. -/
structure SessionsInv (digest : Secret → Digest) (verifies same : String → String → Bool)
    (tick : Nat) (db : Db) (held : List (Nat × Nat)) (ghosts : Nat → Ghost Db Write Know) :
    Prop where
  exclusive : Sys.Exclusive held
  fresh : (minting digest verifies same).Fresh tick db ghosts
  named : ∀ row ∈ db.inserted, row.Named digest
  families : ∀ row ∈ db.inserted, ∀ family ∈ row.tokenFamily, family < tick
  single : ∀ a ∈ db.userSessions, ∀ b ∈ db.userSessions, ∀ family,
    a.tokenFamily = some family → b.tokenFamily = some family → a = b
  placed : ∀ i, Placed digest db held i (ghosts i)
  once : ∀ i j row row', (ghosts i).know = some (.redeemed row) →
    (ghosts j).know = some (.redeemed row') → row.id = row'.id → i = j

variable {tick i j : Nat} {db db' : Db} {held held' : List (Nat × Nat)} {know know' : Know}
  {ghosts : Nat → Ghost Db Write Know} {ghost ghost' : Ghost Db Write Know}
  {tx : Option (Tx Db Write)}

theorem SessionsInv.eq (h : SessionsInv digest verifies same tick db held ghosts)
    {a b : UserSession} (ha : a ∈ db.inserted) (hb : b ∈ db.inserted) (hid : a.id = b.id) : a = b :=
  List.inj_on_of_nodup_map h.fresh.keyed ha hb hid

/-- The tables grow, and what a session has locked stays. -/
structure Grows (i : Nat) (db : Db) (held : List (Nat × Nat)) (db' : Db)
    (held' : List (Nat × Nat)) : Prop where
  inserted : ∀ row ∈ db.inserted, row ∈ db'.inserted
  deleted : ∀ id ∈ db.deleted, id ∈ db'.deleted
  kept : ∀ id, (i, id) ∈ held → id ∉ db.deleted → id ∉ db'.deleted
  held : ∀ id, (i, id) ∈ held → (i, id) ∈ held'

theorem Stage.grows (h : Stage digest db held i tx know) (hg : Grows i db held db' held') :
    Stage digest db' held' i tx know := by
  have hlive : ∀ row, row ∈ db.userSessions → (i, row.id) ∈ held → row ∈ db'.userSessions := by
    intro row hrow hlock
    obtain ⟨hin, hnot⟩ := mem_userSessions.mp hrow
    exact mem_userSessions.mpr ⟨hg.inserted row hin, hg.kept _ hlock hnot⟩
  cases know with
  | found row => exact ⟨h.1, hg.inserted row h.2⟩
  | begun row => exact ⟨h.1, hg.inserted row h.2⟩
  | claimed row => exact ⟨hlive row h.1 h.2.1, hg.held _ h.2.1, h.2.2⟩
  | replaced row => exact ⟨hlive row h.1 h.2.1, hg.held _ h.2.1, h.2.2⟩
  | redeemed row => exact ⟨h.1, hg.inserted row h.2.1, hg.deleted _ h.2.2⟩
  | _ => exact h

theorem Placed.grows (h : Placed digest db held i ghost) (hg : Grows i db held db' held') :
    Placed digest db' held' i ghost := by
  unfold Placed at h ⊢
  cases hknow : ghost.know with
  | none =>
    rw [hknow] at h
    exact h
  | some know =>
    rw [hknow] at h
    exact Stage.grows h hg

theorem placed_some : Placed digest db held i ⟨some know, tx⟩ ↔ Stage digest db held i tx know :=
  Iff.rfl

theorem SessionsInv.update (h : SessionsInv digest verifies same tick db held ghosts)
    (hexclusive : Sys.Exclusive held')
    (hfresh : (minting digest verifies same).Fresh (tick + 1) db'
      (Function.update ghosts i ghost'))
    (hnamed : ∀ row ∈ db'.inserted, row.Named digest)
    (hfamilies : ∀ row ∈ db'.inserted, ∀ family ∈ row.tokenFamily, family < tick + 1)
    (hsingle : ∀ a ∈ db'.userSessions, ∀ b ∈ db'.userSessions, ∀ family,
      a.tokenFamily = some family → b.tokenFamily = some family → a = b)
    (hgrows : ∀ j, j ≠ i → Grows j db held db' held')
    (hself : Placed digest db' held' i ghost')
    (honce : ∀ row, ghost'.know = some (.redeemed row) →
      (ghosts i).know = some (.redeemed row) ∨ row.id ∉ db.deleted) :
    SessionsInv digest verifies same (tick + 1) db' held' (Function.update ghosts i ghost') := by
  refine ⟨hexclusive, hfresh, hnamed, hfamilies, hsingle, fun j => ?_,
    fun j k row row' hj hk hid => ?_⟩
  · by_cases hj : j = i
    · subst hj
      rw [Function.update_self]
      exact hself
    · rw [Function.update_of_ne hj]
      exact (h.placed j).grows (hgrows j hj)
  · have hdead : ∀ k row, (ghosts k).know = some (.redeemed row) → row.id ∈ db.deleted := by
      intro k row hk
      have hplaced := h.placed k
      unfold Placed at hplaced
      rw [hk] at hplaced
      exact hplaced.2.2
    by_cases hji : j = i <;> by_cases hki : k = i
    · exact hji.trans hki.symm
    · subst hji
      rw [Function.update_self] at hj
      rw [Function.update_of_ne hki] at hk
      rcases honce row hj with hold | hnew
      · exact h.once _ _ _ _ hold hk hid
      · exact absurd (hid ▸ hdead k row' hk) hnew
    · subst hki
      rw [Function.update_self] at hk
      rw [Function.update_of_ne hji] at hj
      rcases honce row' hk with hold | hnew
      · exact h.once _ _ _ _ hj hold hid
      · exact absurd (hid ▸ hdead j row hj) hnew
    · rw [Function.update_of_ne hji] at hj
      rw [Function.update_of_ne hki] at hk
      exact h.once _ _ _ _ hj hk hid

/-- The rows a statement inserts. -/
def news (digest : Secret → Digest) (tick : Nat) (db : Db) : Stmt → List UserSession
  | .openSession userId origin => [newSession digest tick db userId (some tick) origin]
  | .replaceSession userId tokenFamily origin =>
    [newSession digest tick db userId tokenFamily origin]
  | _ => []

theorem visible_exec (digest : Secret → Digest) (verifies same : String → String → Bool)
    (tick : Nat) (db : Db) (op : Stmt) :
    let db' := (engine digest verifies same).visible db (exec digest verifies same tick db op).2
    db'.inserted = db.inserted ++ news digest tick db op ∧
      db'.deleted = db.deleted ++ locks op db := by
  cases op with
  | openSession => exact ⟨rfl, (List.append_nil _).symm⟩
  | replaceSession => exact ⟨rfl, (List.append_nil _).symm⟩
  | deleteSession => exact ⟨(List.append_nil _).symm, rfl⟩
  | deleteByHash => exact ⟨(List.append_nil _).symm, rfl⟩
  | deleteSessionsOf => exact ⟨(List.append_nil _).symm, rfl⟩
  | _ => exact ⟨(List.append_nil _).symm, (List.append_nil _).symm⟩

variable {op : Stmt}

theorem grows_exec (digest : Secret → Digest) (verifies same : String → String → Bool) (tick : Nat)
    (hfree : ∀ j k, (j, k) ∈ held → k ∉ locks op db) (j : Nat) :
    Grows j db held
      ((engine digest verifies same).visible db (exec digest verifies same tick db op).2) held := by
  obtain ⟨hinserted, hdeleted⟩ := visible_exec digest verifies same tick db op
  refine ⟨fun row hrow => ?_, fun id hid => ?_, fun id hlock hid => ?_, fun _ hlock => hlock⟩
  · rw [hinserted]
    exact List.mem_append_left _ hrow
  · rw [hdeleted]
    exact List.mem_append_left _ hid
  · rw [hdeleted, List.mem_append, not_or]
    exact ⟨hid, hfree j id hlock⟩

theorem Stage.closed (h : Stage digest db held i tx know) (hclosed : know.isOpen = false) :
    tx = none := by
  cases know with
  | begun row => exact nomatch hclosed
  | missed => exact nomatch hclosed
  | claimed row => exact nomatch hclosed
  | replaced row => exact nomatch hclosed
  | found row => exact h.1
  | redeemed row => exact h.1
  | _ => exact h

theorem Stage.taught {reply : op.Res} (ht : Taught know op reply know')
    (hreply : reply = (exec digest verifies same tick db op).1)
    (hgrows : ∀ row ∈ db.inserted, row ∈ db'.inserted) (h : Stage digest db' held i none know) :
    Stage digest db' held i none know' ∧ ∀ row, know' = .redeemed row → know = .redeemed row := by
  cases ht with
  | same => exact ⟨h, fun _ heq => heq⟩
  | timed now =>
    cases know <;> exact ⟨h, fun _ heq => by first | exact heq | exact nomatch heq⟩
  | read email user => exact ⟨rfl, fun _ heq => nomatch heq⟩
  | found tokenHash row =>
    have hrow := (mem_userSessions.mp (Table.mem_of_search hreply.symm)).1
    exact ⟨⟨rfl, hgrows _ hrow⟩, fun _ heq => nomatch heq⟩
  | owned tokenHash userId row =>
    have hrow := (mem_userSessions.mp (Table.mem_of_search hreply.symm)).1
    exact ⟨⟨rfl, hgrows _ hrow⟩, fun _ heq => nomatch heq⟩
  | reset userId tokenHash passwordHash setAt => exact ⟨rfl, fun _ heq => nomatch heq⟩
  | set userId passwordHash setAt => exact ⟨rfl, fun _ heq => nomatch heq⟩
  | revoked userId setAt tokenHash hknow => exact ⟨rfl, fun _ heq => nomatch heq⟩
  | spent userId backupCodes codeHash hcode => exact ⟨rfl, fun _ heq => nomatch heq⟩

theorem Grows.unchanged (hheld : ∀ id, (i, id) ∈ held → (i, id) ∈ held') : Grows i db held db held' :=
  ⟨fun _ h => h, fun _ h => h, fun _ _ h => h, hheld⟩

theorem SessionsInv.quiet (h : SessionsInv digest verifies same tick db held ghosts)
    (hexclusive : Sys.Exclusive held')
    (hfresh : (minting digest verifies same).Fresh (tick + 1) db
      (Function.update ghosts i ghost'))
    (hheld : ∀ j, j ≠ i → ∀ id, (j, id) ∈ held → (j, id) ∈ held')
    (hself : Placed digest db held' i ghost')
    (honce : ∀ row, ghost'.know = some (.redeemed row) → (ghosts i).know = some (.redeemed row)) :
    SessionsInv digest verifies same (tick + 1) db held' (Function.update ghosts i ghost') :=
  h.update hexclusive hfresh h.named
    (fun row hrow family hfamily => Nat.lt_succ_of_lt (h.families row hrow family hfamily)) h.single
    (fun j hj => Grows.unchanged (hheld j hj)) hself fun row hrow => Or.inl (honce row hrow)

theorem mem_rotated {ids : List Nat} {row new other : UserSession}
    (hids : ∀ id, id ∈ ids ↔ id = row.id)
    (h : other ∈ Db.userSessions
      { db with inserted := db.inserted ++ [new], deleted := db.deleted ++ ids }) :
    other ∈ db.userSessions ∧ other.id ≠ row.id ∨ other = new := by
  obtain ⟨hin, hnot⟩ := mem_userSessions.mp h
  simp only [List.mem_append, not_or, List.mem_singleton] at hin hnot
  rcases hin with hin | rfl
  · exact Or.inl ⟨mem_userSessions.mpr ⟨hin, hnot.1⟩, fun heq => hnot.2 ((hids _).mpr heq)⟩
  · exact Or.inr rfl

theorem SessionsInv.commit (h : SessionsInv digest verifies same tick db held ghosts)
    {row new : UserSession} {ids : List Nat} (hrow : row ∈ db.userSessions)
    (hlock : (i, row.id) ∈ held) (hids : ∀ id, id ∈ ids ↔ id = row.id)
    (hnew : Succeeds digest row new)
    (hfresh : (minting digest verifies same).Fresh (tick + 1)
      { db with inserted := db.inserted ++ [new], deleted := db.deleted ++ ids }
      (Function.update ghosts i ⟨some (.redeemed row), none⟩)) :
    SessionsInv digest verifies same (tick + 1)
      { db with inserted := db.inserted ++ [new], deleted := db.deleted ++ ids }
      (Sys.releasedBy held i) (Function.update ghosts i ⟨some (.redeemed row), none⟩) := by
  obtain ⟨hin, hnot⟩ := mem_userSessions.mp hrow
  have hinserted : ∀ other ∈ db.inserted ++ [new], other ∈ db.inserted ∨ other = new := by
    intro other hother
    simpa using hother
  refine h.update (Sys.exclusive_releasedBy h.exclusive) hfresh (fun other hother => ?_)
    (fun other hother family hfamily => ?_) (fun a ha b hb family hfa hfb => ?_) (fun j hj => ?_)
    ⟨rfl, List.mem_append_left _ hin, List.mem_append_right _ ((hids _).mpr rfl)⟩
    fun other hother => ?_
  · rcases hinserted other hother with hother | rfl
    · exact h.named other hother
    · exact hnew.named
  · rcases hinserted other hother with hother | rfl
    · exact Nat.lt_succ_of_lt (h.families other hother family hfamily)
    · rw [hnew.family] at hfamily
      exact Nat.lt_succ_of_lt (h.families row hin family hfamily)
  · have hgone : ∀ other ∈ db.userSessions, other.id ≠ row.id →
        other.tokenFamily = some family → new.tokenFamily ≠ some family := by
      intro other hother hne hfo hfn
      rw [hnew.family] at hfn
      exact hne (congrArg UserSession.id (h.single other hother row hrow family hfo hfn))
    rcases mem_rotated hids ha with ⟨ha, hane⟩ | haeq <;>
      rcases mem_rotated hids hb with ⟨hb, hbne⟩ | hbeq
    · exact h.single a ha b hb family hfa hfb
    · exact absurd (hbeq ▸ hfb) (hgone a ha hane hfa)
    · exact absurd (haeq ▸ hfa) (hgone b hb hbne hfb)
    · rw [haeq, hbeq]
  · refine ⟨fun other hother => List.mem_append_left _ hother,
      fun id hid => List.mem_append_left _ hid, fun id hlock' hid => ?_,
      fun id hlock' => Sys.mem_releasedBy_other hj hlock'⟩
    rw [List.mem_append, not_or]
    refine ⟨hid, fun hmem => ?_⟩
    obtain rfl := (hids id).mp hmem
    exact hj (h.exclusive j i _ hlock' hlock)
  · obtain rfl : row = other := by
      have heq := Option.some.inj hother
      injection heq
    exact Or.inr hnot

theorem SessionsInv.auto (h : SessionsInv digest verifies same tick db held ghosts)
    {learn : op.Res → Know} (hghost : ghosts i = ⟨some know, tx⟩)
    (hsent : know.outside op = some learn) (hclosed : know.isOpen = false)
    (hfree : ∀ j k, (j, k) ∈ held → k ∉ locks op db)
    (hfresh : (minting digest verifies same).Fresh (tick + 1)
      ((engine digest verifies same).visible db (exec digest verifies same tick db op).2)
      (Function.update ghosts i ⟨some (learn (exec digest verifies same tick db op).1), tx⟩)) :
    SessionsInv digest verifies same (tick + 1)
      ((engine digest verifies same).visible db (exec digest verifies same tick db op).2) held
      (Function.update ghosts i ⟨some (learn (exec digest verifies same tick db op).1), tx⟩) := by
  obtain ⟨hinserted, hdeleted⟩ := visible_exec digest verifies same tick db op
  have hgrows := fun j => grows_exec digest verifies same tick hfree j
  have hstage : Stage digest db held i tx know := placed_some.mp (hghost ▸ h.placed i)
  obtain rfl := hstage.closed hclosed
  obtain ⟨hlearnt, honce⟩ := (hstage.grows (hgrows i)).taught
    (taught_of_outside hsent (exec digest verifies same tick db op).1) rfl (hgrows i).inserted
  -- A row that is new was inserted by a login.
  have hnews : ∀ row ∈ news digest tick db op,
      row.Named digest ∧ row.tokenFamily = some tick := by
    intro row hrow
    cases op with
    | openSession userId origin =>
      obtain rfl := List.mem_singleton.mp hrow
      exact ⟨rfl, rfl⟩
    | replaceSession => exact nomatch hsent
    | _ => exact absurd hrow List.not_mem_nil
  have hrows : ∀ row ∈ ((engine digest verifies same).visible db
      (exec digest verifies same tick db op).2).inserted,
      row ∈ db.inserted ∨ row ∈ news digest tick db op := by
    intro row hrow
    rw [hinserted] at hrow
    exact List.mem_append.mp hrow
  have hlive : ∀ row ∈ ((engine digest verifies same).visible db
      (exec digest verifies same tick db op).2).userSessions, row ∈ db.inserted →
      row ∈ db.userSessions := by
    intro row hrow hin
    obtain ⟨-, hnot⟩ := mem_userSessions.mp hrow
    rw [hdeleted, List.mem_append, not_or] at hnot
    exact mem_userSessions.mpr ⟨hin, hnot.1⟩
  have hnewest : ∀ a ∈ news digest tick db op, ∀ b ∈ news digest tick db op, a = b := by
    intro a ha b hb
    cases op with
    | openSession userId origin =>
      rw [List.mem_singleton.mp ha, List.mem_singleton.mp hb]
    | replaceSession => exact nomatch hsent
    | _ => exact absurd ha List.not_mem_nil
  refine h.update h.exclusive hfresh (fun row hrow => ?_) (fun row hrow family hfamily => ?_)
    (fun a ha b hb family hfa hfb => ?_) (fun j _ => hgrows j) hlearnt fun row hrow => ?_
  · rcases hrows row hrow with hold | hnew
    · exact h.named row hold
    · exact (hnews row hnew).1
  · rcases hrows row hrow with hold | hnew
    · exact Nat.lt_succ_of_lt (h.families row hold family hfamily)
    · rw [(hnews row hnew).2] at hfamily
      rw [← Option.mem_some.mp hfamily]
      exact Nat.lt_succ_self tick
  · rcases hrows a (mem_userSessions.mp ha).1 with holda | hnewa <;>
      rcases hrows b (mem_userSessions.mp hb).1 with holdb | hnewb
    · exact h.single a (hlive a ha holda) b (hlive b hb holdb) family hfa hfb
    · rw [(hnews b hnewb).2] at hfb
      obtain rfl := Option.some.inj hfb
      exact absurd (h.families a holda tick hfa) (lt_irrefl _)
    · rw [(hnews a hnewa).2] at hfa
      obtain rfl := Option.some.inj hfa
      exact absurd (h.families b holdb tick hfb) (lt_irrefl _)
    · exact hnewest a hnewa b hnewb
  · rw [hghost]
    exact Or.inl (congrArg some (honce row (Option.some.inj hrow)))

theorem Stage.within {learn : op.Res → Know} {tx : Tx Db Write}
    (h : Stage digest db held i (some tx) know) (hsent : know.inside op = some learn)
    (hkeyed : ∀ a ∈ db.inserted, ∀ b ∈ db.inserted, a.id = b.id → a = b) :
    let current := (engine digest verifies same).current db tx
    Stage digest db (held ++ (locks op current).map fun k => (i, k)) i
      (some { tx with writes := tx.writes ++ (exec digest verifies same tick current op).2 })
      (learn (exec digest verifies same tick current op).1) := by
  intro current
  cases know with
  | begun row =>
    obtain ⟨htx, hrow⟩ := h
    obtain rfl := Option.some.inj htx
    cases op with
    | deleteSession sessionId =>
      obtain ⟨rfl, hlearn⟩ := Option.ite_none_right_eq_some.mp hsent
      obtain rfl := Option.some.inj hlearn
      change Stage digest db (held ++ (db.idsWhere fun other => other.id = row.id).map
        fun k => (i, k)) i (some ⟨none, [.deleted (db.idsWhere fun other => other.id = row.id)]⟩)
        (if !(db.idsWhere fun other => other.id = row.id).isEmpty then .claimed row else .missed)
      generalize hfound : (db.idsWhere fun other => other.id = row.id) = found
      have hid : ∀ id ∈ found, id = row.id := by
        intro id hid
        rw [← hfound] at hid
        obtain ⟨other, -, hother, rfl⟩ := mem_idsWhere.mp hid
        exact of_decide_eq_true hother
      split_ifs with hthere
      · rw [Bool.not_eq_true', List.isEmpty_eq_false_iff] at hthere
        obtain ⟨id, hmem⟩ := List.exists_mem_of_ne_nil found hthere
        obtain rfl := hid id hmem
        have hlive := hmem
        rw [← hfound] at hlive
        obtain ⟨other, hother, -, heq⟩ := mem_idsWhere.mp hlive
        obtain rfl := hkeyed other (mem_userSessions.mp hother).1 row hrow heq
        refine ⟨hother, List.mem_append_right _ (List.mem_map.mpr ⟨_, hmem, rfl⟩), found, rfl,
          fun id => ⟨hid id, ?_⟩⟩
        rintro rfl
        exact hmem
      · trivial
    | _ => exact nomatch hsent
  | claimed row =>
    obtain ⟨hrow, hlock, ids, htx, hids⟩ := h
    obtain rfl := Option.some.inj htx
    cases op with
    | replaceSession userId tokenFamily origin =>
      obtain ⟨⟨rfl, rfl, rfl⟩, hlearn⟩ := Option.ite_none_right_eq_some.mp hsent
      obtain rfl := Option.some.inj hlearn
      exact ⟨hrow, List.mem_append_left _ hlock, ids, _, rfl, hids, rfl, rfl, rfl, rfl⟩
    | _ => exact nomatch hsent
  | _ => cases op <;> exact nomatch hsent

theorem Placed.outside {via : Via} {learn : op.Res → Know}
    (h : Placed digest db held i ⟨some know, tx⟩) (hin : Sys.inside via tx = false)
    (hk : tracking.sent know via op = some learn) :
    know.isOpen = false ∧ know.outside op = some learn := by
  cases via with
  | pool =>
    obtain ⟨hclosed, hsent⟩ := Option.ite_none_left_eq_some.mp hk
    exact ⟨Bool.not_eq_true _ ▸ hclosed, hsent⟩
  | conn =>
    cases tx with
    | some tx => exact nomatch hin
    | none =>
      have hstage := placed_some.mp h
      cases know with
      | begun row => exact nomatch hstage.1
      | claimed row =>
        obtain ⟨-, -, ids, htx, -⟩ := hstage
        exact nomatch htx
      | _ => cases op <;> exact nomatch hk

theorem SessionsInv.step (h : SessionsInv digest verifies same tick db held ghosts)
    (hd : Disciplined (engine digest verifies same) tracking i tick db held (ghosts i) db' held'
      ghost') :
    SessionsInv digest verifies same (tick + 1) db' held' (Function.update ghosts i ghost') := by
  have hfresh := h.fresh.step hd
  have hexclusive := hd.exclusive h.exclusive
  have hheld : ∀ j, j ≠ i → ∀ id, (j, id) ∈ held → (j, id) ∈ held' :=
    fun j hj id hid => hd.held_other hj hid
  have hplaced := h.placed i
  generalize hghost : ghosts i = ghost at hd hplaced
  cases hd with
  | idle =>
    exact h.quiet hexclusive hfresh hheld hplaced fun row hrow => by rw [hghost, hrow]
  | abort => exact h.quiet hexclusive hfresh hheld rfl nofun
  | start know know' tx hk =>
    cases know with
    | found row =>
      obtain rfl := Option.some.inj hk
      obtain ⟨rfl, hrow⟩ := placed_some.mp hplaced
      exact h.quiet hexclusive hfresh hheld ⟨rfl, hrow⟩ nofun
    | _ => exact nomatch hk
  | commit know know' tx hk =>
    cases know with
    | replaced row =>
      obtain rfl := Option.some.inj hk
      obtain ⟨hrow, hlock, ids, new, rfl, hids, hnew⟩ := placed_some.mp hplaced
      exact h.commit hrow hlock hids hnew hfresh
    | _ => exact nomatch hk
  | rollback know know' tx hk =>
    obtain rfl := Option.some.inj hk
    exact h.quiet hexclusive hfresh hheld rfl nofun
  | call know query learn tx hk answer =>
    obtain rfl := Option.some.inj hk
    exact h.quiet hexclusive hfresh hheld hplaced fun row hrow => by rw [hghost, hrow]
  | auto know via op learn tx hk hin hfree =>
    obtain ⟨hclosed, hsent⟩ := hplaced.outside hin hk
    exact h.auto hghost hsent hclosed hfree hfresh
  | within know op learn tx hk hfree =>
    refine h.quiet hexclusive hfresh hheld (Stage.within (placed_some.mp hplaced) hk
      fun a ha b hb hid => h.eq ha hb hid) fun row hrow => ?_
    exact nomatch (isOpen_of_inside hk _).symm.trans
      (congrArg Know.isOpen (Option.some.inj hrow))

end FireIsp.Auth
