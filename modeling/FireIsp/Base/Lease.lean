import Mathlib.Data.List.Nodup
import Mathlib.Data.List.Perm.Subperm
import FireIsp.Base.Discipline

/-!
# Leases

Workers claim one row with a token, act on it outside the store at most once under their claim, and
write its outcome by the token.  A claim may be lost to another worker at any time.  A token is
named after the tick its claim is taken at.
-/

namespace Txn

variable {σ ρ W K Op : Type} {Res : Op → Type} {Query : Type} {Answer : Query → Type} {A : Type}

/-- What a lease consists of. -/
structure Lease (σ ρ : Type) where
  row : σ → ρ
  holder : ρ → Option Nat
  /-- Acts outside the store, by the token of their claim, oldest first. -/
  acts : σ → List Nat

namespace Lease

/-- What a statement is to a lease. -/
inductive Kind (R : Type)
  | looks
  /-- It may change the row and take it from its holder. -/
  | changes
  /-- It may claim the row; the reply is the token. -/
  | claims (granted : R → Option Nat)
  /-- It reads the row by a token; the reply says whether the row may be acted on. -/
  | reads (token : Nat) (found : R → Bool)
  | settles (token : Nat)
  | acts (token : Nat)

/-- What a session knows of its claim. -/
inductive Stage
  | free
  | claimed (token : Nat)
  /-- It has read the row it claimed, and may have acted on it. -/
  | working (token : Nat) (acted : Bool)
  | finished

/-- What a session may send, and what it knows then. -/
def Stage.sent {R : Type} : Stage → Kind R → Option (R → Stage)
  | .finished, .looks => some fun _ => .finished
  | .free, .looks => some fun _ => .free
  | .free, .changes => some fun _ => .free
  | .free, .claims granted => some fun reply => (granted reply).elim .finished .claimed
  | .claimed token, .reads token' found =>
    if token' = token then some fun reply => if found reply then .working token false else .finished
    else none
  | .working token acted, .looks => some fun _ => .working token acted
  | .working token _, .settles token' => if token' = token then some fun _ => .finished else none
  | .working token false, .acts token' =>
    if token' = token then some fun _ => .working token true else none
  | _, _ => none

/-- A worker claims once, acts once, and writes one outcome; no session opens a transaction. -/
def discipline (kind : (op : Op) → Kind (Res op)) : Discipline Stage Op Res Query Answer where
  started := fun _ => none
  committed := fun _ => none
  rolledBack := fun _ => none
  sent := fun stage _ op => stage.sent (kind op)
  asked := fun stage _ => some fun _ => stage

/-- Statements do to a lease what their kind says. -/
structure Lawful (L : Lease σ ρ) (E : Engine σ W K Op Res) (kind : (op : Op) → Kind (Res op)) :
    Prop where
  looks : ∀ op tick db, kind op = .looks →
    E.visible db (E.exec op tick db db).2 = db
  changes : ∀ op tick db, kind op = .changes →
    L.acts (E.visible db (E.exec op tick db db).2) = L.acts db ∧
      (L.holder (L.row (E.visible db (E.exec op tick db db).2)) = L.holder (L.row db) ∨
        L.holder (L.row (E.visible db (E.exec op tick db db).2)) = none)
  missed : ∀ op tick db granted, kind op = .claims granted →
    granted (E.exec op tick db db).1 = none → E.visible db (E.exec op tick db db).2 = db
  granted : ∀ op tick db granted token, kind op = .claims granted →
    granted (E.exec op tick db db).1 = some token → token = tick ∧
      L.acts (E.visible db (E.exec op tick db db).2) = L.acts db ∧
      (L.holder (L.row (E.visible db (E.exec op tick db db).2)) = some tick ∨
        L.holder (L.row (E.visible db (E.exec op tick db db).2)) = none)
  reads : ∀ op tick db token found, kind op = .reads token found →
    E.visible db (E.exec op tick db db).2 = db ∧
      (found (E.exec op tick db db).1 = true → L.holder (L.row db) = some token)
  settles : ∀ op tick db token, kind op = .settles token →
    E.visible db (E.exec op tick db db).2 = db ∨ L.holder (L.row db) = some token ∧
      L.acts (E.visible db (E.exec op tick db db).2) = L.acts db ∧
      L.holder (L.row (E.visible db (E.exec op tick db db).2)) = none
  acting : ∀ op tick db token, kind op = .acts token →
    L.row (E.visible db (E.exec op tick db db).2) = L.row db ∧
      L.acts (E.visible db (E.exec op tick db db).2) = L.acts db ++ [token]

section Sent

variable {R : Type} {stage : Stage} {learn : R → Stage} {token : Nat} {granted : R → Option Nat}
  {found : R → Bool}

theorem learn_of_looks (h : stage.sent (.looks : Kind R) = some learn) (reply : R) :
    learn reply = stage := by
  cases stage <;> cases h <;> rfl

theorem free_of_changes (h : stage.sent (.changes : Kind R) = some learn) :
    stage = .free ∧ ∀ reply, learn reply = .free := by
  cases stage <;> cases h
  exact ⟨rfl, fun _ => rfl⟩

theorem free_of_claims (h : stage.sent (.claims granted) = some learn) :
    stage = .free ∧ ∀ reply, learn reply = (granted reply).elim .finished .claimed := by
  cases stage <;> cases h
  exact ⟨rfl, fun _ => rfl⟩

theorem claimed_of_reads (h : stage.sent (.reads token found) = some learn) :
    stage = .claimed token ∧
      ∀ reply, learn reply = if found reply then .working token false else .finished := by
  cases stage with
  | claimed token' =>
    obtain ⟨rfl, hlearn⟩ := Option.ite_none_right_eq_some.mp h
    obtain rfl := Option.some.inj hlearn
    exact ⟨rfl, fun _ => rfl⟩
  | free => cases h
  | working token' acted => cases acted <;> cases h
  | finished => cases h

theorem working_of_settles (h : stage.sent (.settles token : Kind R) = some learn) :
    ∃ acted, stage = .working token acted ∧ ∀ reply, learn reply = .finished := by
  cases stage with
  | working token' acted =>
    have h' : (if token = token' then some fun _ => Stage.finished else none) = some learn := by
      cases acted <;> exact h
    obtain ⟨rfl, hlearn⟩ := Option.ite_none_right_eq_some.mp h'
    obtain rfl := Option.some.inj hlearn
    exact ⟨acted, rfl, fun _ => rfl⟩
  | free => cases h
  | claimed token' => cases h
  | finished => cases h

theorem working_of_acts (h : stage.sent (.acts token : Kind R) = some learn) :
    stage = .working token false ∧ ∀ reply, learn reply = .working token true := by
  cases stage with
  | working token' acted =>
    cases acted with
    | true => cases h
    | false =>
      obtain ⟨rfl, hlearn⟩ := Option.ite_none_right_eq_some.mp h
      obtain rfl := Option.some.inj hlearn
      exact ⟨rfl, fun _ => rfl⟩
  | free => cases h
  | claimed token' => cases h
  | finished => cases h

end Sent

variable {L : Lease σ ρ} {E : Engine σ W K Op Res} {kind : (op : Op) → Kind (Res op)}
  {past held : List Nat} {tick i : Nat} {db db' : σ}

def taken (L : Lease σ ρ) (tick : Nat) (db' : σ) : List Nat :=
  if L.holder (L.row db') = some tick then [tick] else []

theorem eq_of_mem_taken {token : Nat} (h : token ∈ L.taken tick db') : token = tick := by
  unfold taken at h
  split_ifs at h
  · exact List.mem_singleton.mp h
  · cases h

theorem holder_of_mem_taken {token : Nat} (h : token ∈ L.taken tick db') :
    L.holder (L.row db') = some tick := by
  by_contra hnot
  rw [taken, if_neg hnot] at h
  cases h

theorem mem_taken (h : L.holder (L.row db') = some tick) : tick ∈ L.taken tick db' := by
  rw [taken, if_pos h]
  exact List.mem_singleton_self tick

theorem taken_eq_nil (h : L.holder (L.row db') ≠ some tick) : L.taken tick db' = [] := if_neg h

/-- What a session knows is true: `past` are the sessions that took a step, `claims` the claims. -/
def Stage.Fits (L : Lease σ ρ) (past claims : List Nat) (db : σ) (i : Nat) : Stage → Prop
  | .free => ∀ token ∈ claims, past[token]? ≠ some i
  | .claimed token => past[token]? = some i ∧ token ∉ L.acts db
  | .working token acted =>
    past[token]? = some i ∧ token ∈ claims ∧ (acted = false → token ∉ L.acts db)
  | .finished => True

/-- Acts are of claims, each the only one of its claim. -/
structure Inv (L : Lease σ ρ) (past claims : List Nat) (tick : Nat) (db : σ)
    (ghosts : Nat → Ghost σ W Stage) : Prop where
  ticks : tick = past.length
  holder : ∀ token, L.holder (L.row db) = some token → token ∈ claims
  claims_lt : ∀ token ∈ claims, token < tick
  claims_nodup : claims.Nodup
  once : ∀ token ∈ claims, ∀ token' ∈ claims, past[token]? = past[token']? → token = token'
  acts : ∀ token ∈ L.acts db, token ∈ claims
  nodup : (L.acts db).Nodup
  tx : ∀ i, (ghosts i).tx = none
  fits : ∀ i stage, (ghosts i).know = some stage → stage.Fits L past claims db i

/-- What may change the row. -/
inductive Cause (L : Lease σ ρ) (E : Engine σ W K Op Res) (kind : (op : Op) → Kind (Res op))
    (past claims : List Nat) (i tick : Nat) (db : σ) : σ → Prop
  | kept (db' : σ) (h : L.row db' = L.row db) : Cause L E kind past claims i tick db db'
  | opened (op) (hkind : kind op = .changes ∨ ∃ granted, kind op = .claims granted)
      (hfree : ∀ token ∈ claims, past[token]? ≠ some i) :
      Cause L E kind past claims i tick db (E.visible db (E.exec op tick db db).2)
  | settled (op token) (hkind : kind op = .settles token)
      (hholder : L.holder (L.row db) = some token) (hclaim : token ∈ claims)
      (hown : past[token]? = some i) :
      Cause L E kind past claims i tick db (E.visible db (E.exec op tick db db).2)

theorem own_append {token j : Nat} (h : past[token]? = some j) : (past ++ [i])[token]? = some j := by
  rw [List.getElem?_append_left (List.getElem?_eq_some_iff.mp h).1]
  exact h

theorem own_of_append {token j : Nat} (hlt : token < past.length)
    (h : (past ++ [i])[token]? = some j) : past[token]? = some j := by
  rwa [List.getElem?_append_left hlt] at h

theorem Stage.Fits.other {claims : List Nat} {j : Nat} {stage : Stage} (hj : j ≠ i)
    (h : stage.Fits L past claims db j) (hlt : ∀ token ∈ claims, token < past.length)
    (hacts : ∀ token ∈ L.acts db', token ∈ L.acts db ∨ past[token]? = some i) :
    stage.Fits L (past ++ [i]) (claims ++ L.taken past.length db') db' j := by
  have hnot : ∀ token, past[token]? = some j → token ∉ L.acts db → token ∉ L.acts db' := by
    intro token hown hnot hmem
    rcases hacts token hmem with hold | hnew
    · exact hnot hold
    · exact hj (Option.some.inj (hown.symm.trans hnew))
  cases stage with
  | free =>
    intro token hmem hown
    rcases List.mem_append.mp hmem with hold | hnew
    · exact h token hold (own_of_append (hlt token hold) hown)
    · obtain rfl := eq_of_mem_taken hnew
      rw [List.getElem?_concat_length] at hown
      exact hj (Option.some.inj hown).symm
  | claimed token => exact ⟨own_append h.1, hnot token h.1 h.2⟩
  | working token acted =>
    obtain ⟨hown, hclaim, hfresh⟩ := h
    exact ⟨own_append hown, List.mem_append_left _ hclaim,
      fun hacted => hnot token hown (hfresh hacted)⟩
  | finished => trivial

variable {ghosts : Nat → Ghost σ W Stage} {ghost' : Ghost σ W Stage}

/-- A step that claims for its tick only, and acts once under its own claim, keeps the invariant. -/
theorem Inv.advance {claims : List Nat} (h : Inv L past claims tick db ghosts)
    (hholder : ∀ token, L.holder (L.row db') = some token → token = tick ∨ token ∈ claims)
    (hfirst : L.holder (L.row db') = some tick → ∀ token ∈ claims, past[token]? ≠ some i)
    (hacts : L.acts db' = L.acts db ∨ ∃ token, L.acts db' = L.acts db ++ [token] ∧
      past[token]? = some i ∧ token ∈ claims ∧ token ∉ L.acts db) (htx : ghost'.tx = none)
    (hself : ∀ stage, ghost'.know = some stage →
      stage.Fits L (past ++ [i]) (claims ++ L.taken tick db') db' i) :
    Inv L (past ++ [i]) (claims ++ L.taken tick db') (tick + 1) db'
      (Function.update ghosts i ghost') := by
  have hticks := h.ticks
  have hearlier : ∀ token ∈ claims, (past ++ [i])[token]? = past[token]? := fun token hmem =>
    List.getElem?_append_left (hticks ▸ h.claims_lt token hmem)
  have hnow : (past ++ [i])[tick]? = some i := by
    rw [hticks]
    exact List.getElem?_concat_length
  refine ⟨?_, fun token htoken => ?_, fun token hmem => ?_, ?_, fun token hmem token' hmem' heq => ?_,
    fun token hmem => ?_, ?_, fun j => ?_, fun j stage hstage => ?_⟩
  · rw [hticks, List.length_append, List.length_singleton]
  · rcases hholder token htoken with rfl | hold
    · exact List.mem_append_right _ (mem_taken htoken)
    · exact List.mem_append_left _ hold
  · rcases List.mem_append.mp hmem with hold | hnew
    · exact Nat.lt_succ_of_lt (h.claims_lt token hold)
    · rw [eq_of_mem_taken hnew]
      exact Nat.lt_succ_self tick
  · refine h.claims_nodup.append ?_ fun token hold hnew => ?_
    · unfold taken
      split_ifs
      · exact List.nodup_singleton tick
      · exact List.nodup_nil
    · obtain rfl := eq_of_mem_taken hnew
      exact Nat.lt_irrefl _ (h.claims_lt _ hold)
  · rcases List.mem_append.mp hmem with hold | hnew <;>
      rcases List.mem_append.mp hmem' with hold' | hnew'
    · rw [hearlier token hold, hearlier token' hold'] at heq
      exact h.once token hold token' hold' heq
    · rw [hearlier token hold, eq_of_mem_taken hnew', hnow] at heq
      exact absurd heq (hfirst (holder_of_mem_taken hnew') token hold)
    · rw [hearlier token' hold', eq_of_mem_taken hnew, hnow] at heq
      exact absurd heq.symm (hfirst (holder_of_mem_taken hnew) token' hold')
    · rw [eq_of_mem_taken hnew, eq_of_mem_taken hnew']
  · rcases hacts with hsame | ⟨new, hnew, -, hclaim, -⟩
    · exact List.mem_append_left _ (h.acts token (hsame ▸ hmem))
    · rw [hnew, List.mem_append, List.mem_singleton] at hmem
      rcases hmem with hold | rfl
      · exact List.mem_append_left _ (h.acts token hold)
      · exact List.mem_append_left _ hclaim
  · rcases hacts with hsame | ⟨new, hnew, -, -, hfresh⟩
    · rw [hsame]
      exact h.nodup
    · rw [hnew, ← List.concat_eq_append]
      exact h.nodup.concat hfresh
  · by_cases hj : j = i
    · rw [hj, Function.update_self]
      exact htx
    · rw [Function.update_of_ne hj]
      exact h.tx j
  · by_cases hj : j = i
    · subst hj
      rw [Function.update_self] at hstage
      exact hself stage hstage
    · rw [Function.update_of_ne hj] at hstage
      subst hticks
      refine (h.fits j stage hstage).other hj h.claims_lt fun token hmem => ?_
      rcases hacts with hsame | ⟨new, hnew, hown, -, -⟩
      · exact Or.inl (hsame ▸ hmem)
      · rw [hnew, List.mem_append, List.mem_singleton] at hmem
        rcases hmem with hold | rfl
        · exact Or.inl hold
        · exact Or.inr hown

theorem Inv.still {claims : List Nat} (h : Inv L past claims tick db ghosts)
    (hholder : ∀ token, L.holder (L.row db') = some token → L.holder (L.row db) = some token)
    (hacts : L.acts db' = L.acts db) (htx : ghost'.tx = none)
    (hself : ∀ stage, ghost'.know = some stage → stage = .finished ∨
      (ghosts i).know = some stage ∨ ∃ token, stage = .working token false ∧
        (ghosts i).know = some (.claimed token) ∧ L.holder (L.row db) = some token) :
    Inv L (past ++ [i]) (claims ++ L.taken tick db') (tick + 1) db'
      (Function.update ghosts i ghost') := by
  have hnew : L.holder (L.row db') ≠ some tick := fun hnew =>
    Nat.lt_irrefl _ (h.claims_lt _ (h.holder _ (hholder _ hnew)))
  have hnone : L.taken tick db' = [] := taken_eq_nil hnew
  refine h.advance (fun token htoken => Or.inr (h.holder token (hholder token htoken)))
    (fun hclaim => absurd hclaim hnew) (Or.inl hacts) htx fun stage hstage => ?_
  rw [hnone, List.append_nil]
  rcases hself stage hstage with rfl | hold | ⟨token, rfl, hclaimed, hheld⟩
  · trivial
  · have hfits := h.fits i stage hold
    cases stage with
    | free =>
      intro token hmem hown
      refine hfits token hmem (own_of_append ?_ hown)
      rw [← h.ticks]
      exact h.claims_lt token hmem
    | claimed token => exact ⟨own_append hfits.1, hacts ▸ hfits.2⟩
    | working token acted =>
      exact ⟨own_append hfits.1, hfits.2.1, fun hacted => hacts ▸ hfits.2.2 hacted⟩
    | finished => trivial
  · obtain ⟨hown, hfresh⟩ := h.fits i _ hclaimed
    exact ⟨own_append hown, h.holder token hheld, fun _ => hacts ▸ hfresh⟩

theorem Inv.sent {claims : List Nat} {stage : Stage} {op : Op} {learn : Res op → Stage}
    (hlaw : L.Lawful E kind) (h : Inv L past claims tick db ghosts)
    (hghost : ghosts i = ⟨some stage, none⟩) (hsent : stage.sent (kind op) = some learn) :
    Inv L (past ++ [i]) (claims ++ L.taken tick (E.visible db (E.exec op tick db db).2)) (tick + 1)
        (E.visible db (E.exec op tick db db).2)
        (Function.update ghosts i ⟨some (learn (E.exec op tick db db).1), none⟩) ∧
      Cause L E kind past claims i tick db (E.visible db (E.exec op tick db db).2) := by
  have hknow : (ghosts i).know = some stage := by rw [hghost]
  have hfits := h.fits i stage hknow
  cases hkind : kind op with
  | looks =>
    rw [hkind] at hsent
    rw [hlaw.looks op tick db hkind, learn_of_looks hsent]
    refine ⟨h.still (fun _ => id) rfl rfl fun stage' hstage' => ?_, .kept db rfl⟩
    exact Or.inr (Or.inl (hknow.trans hstage'))
  | changes =>
    rw [hkind] at hsent
    obtain ⟨rfl, hlearn⟩ := free_of_changes hsent
    obtain ⟨hacts, hholder⟩ := hlaw.changes op tick db hkind
    rw [hlearn]
    refine ⟨h.still (fun token htoken => ?_) hacts rfl fun stage' hstage' => ?_,
      .opened op (Or.inl hkind) hfits⟩
    · rcases hholder with hsame | hnone
      · exact hsame ▸ htoken
      · cases hnone.symm.trans htoken
    · exact Or.inr (Or.inl (hknow.trans hstage'))
  | claims granted =>
    rw [hkind] at hsent
    obtain ⟨rfl, hlearn⟩ := free_of_claims hsent
    refine ⟨?_, .opened op (Or.inr ⟨granted, hkind⟩) hfits⟩
    rw [hlearn]
    cases hreply : granted (E.exec op tick db db).1 with
    | none =>
      rw [hlaw.missed op tick db granted hkind hreply]
      exact h.still (fun _ => id) rfl rfl fun stage' hstage' =>
        Or.inl (Option.some.inj hstage').symm
    | some token =>
      obtain ⟨rfl, hacts, hholder⟩ := hlaw.granted op tick db granted token hkind hreply
      refine h.advance (fun token' htoken => ?_) (fun _ => hfits) (Or.inl hacts) rfl
        fun stage' hstage' => ?_
      · rcases hholder with hnew | hnone
        · exact Or.inl (Option.some.inj (htoken.symm.trans hnew))
        · cases hnone.symm.trans htoken
      · obtain rfl := Option.some.inj hstage'
        refine ⟨?_, fun hmem => ?_⟩
        · rw [h.ticks]
          exact List.getElem?_concat_length
        · rw [hacts] at hmem
          exact Nat.lt_irrefl _ (h.claims_lt _ (h.acts _ hmem))
  | reads token found =>
    rw [hkind] at hsent
    obtain ⟨rfl, hlearn⟩ := claimed_of_reads hsent
    obtain ⟨hdb, hfound⟩ := hlaw.reads op tick db token found hkind
    rw [hdb, hlearn]
    refine ⟨h.still (fun _ => id) rfl rfl fun stage' hstage' => ?_, .kept db rfl⟩
    obtain rfl := Option.some.inj hstage'
    split_ifs with hreply
    · exact Or.inr (Or.inr ⟨token, rfl, hknow, hfound hreply⟩)
    · exact Or.inl rfl
  | settles token =>
    rw [hkind] at hsent
    obtain ⟨acted, rfl, hlearn⟩ := working_of_settles hsent
    rw [hlearn]
    rcases hlaw.settles op tick db token hkind with hdb | ⟨hheld, hacts, hnone⟩
    · rw [hdb]
      exact ⟨h.still (fun _ => id) rfl rfl fun stage' hstage' =>
        Or.inl (Option.some.inj hstage').symm, .kept db rfl⟩
    · refine ⟨h.still (fun token' htoken => ?_) hacts rfl fun stage' hstage' =>
        Or.inl (Option.some.inj hstage').symm, .settled op token hkind hheld hfits.2.1 hfits.1⟩
      cases hnone.symm.trans htoken
  | acts token =>
    rw [hkind] at hsent
    obtain ⟨rfl, hlearn⟩ := working_of_acts hsent
    obtain ⟨hown, hclaim, hfresh⟩ := hfits
    obtain ⟨hrow, hacts⟩ := hlaw.acting op tick db token hkind
    rw [hlearn]
    refine ⟨h.advance (fun token' htoken => ?_) (fun hnew => ?_)
      (Or.inr ⟨token, hacts, hown, hclaim, hfresh rfl⟩) rfl fun stage' hstage' => ?_,
      .kept _ hrow⟩
    · rw [hrow] at htoken
      exact Or.inr (h.holder token' htoken)
    · rw [hrow] at hnew
      exact absurd (h.claims_lt _ (h.holder _ hnew)) (Nat.lt_irrefl _)
    · obtain rfl := Option.some.inj hstage'
      exact ⟨own_append hown, List.mem_append_left _ hclaim, nofun⟩

theorem Inv.step {claims : List Nat} {locks locks' : List (Nat × K)} (hlaw : L.Lawful E kind)
    (h : Inv L past claims tick db ghosts)
    (hstep : Disciplined E (discipline kind : Discipline Stage Op Res Query Answer) i tick db
      locks (ghosts i) db' locks' ghost') :
    Inv L (past ++ [i]) (claims ++ L.taken tick db') (tick + 1) db'
        (Function.update ghosts i ghost') ∧ Cause L E kind past claims i tick db db' := by
  have htx := h.tx i
  generalize hghost : ghosts i = ghost at hstep htx
  cases hstep with
  | idle =>
    exact ⟨h.still (fun _ => id) rfl htx fun stage hstage =>
      Or.inr (Or.inl (by rw [hghost]; exact hstage)), .kept db rfl⟩
  | abort =>
    refine ⟨h.still (fun _ => id) rfl rfl fun stage hstage => ?_, .kept db rfl⟩
    cases hstage
  | start know know' tx hk => cases hk
  | commit know know' tx hk => cases hk
  | rollback know know' tx hk => cases hk
  | within know op learn tx hk hfree => cases htx
  | auto know via op learn tx hk hin hfree =>
    obtain rfl : tx = none := htx
    exact h.sent hlaw hghost hk
  | call know query learn tx hk answer =>
    obtain rfl := Option.some.inj hk
    exact ⟨h.still (fun _ => id) rfl htx fun stage hstage =>
      Or.inr (Or.inl (by rw [hghost]; exact hstage)), .kept db rfl⟩

/-- Every session keeps to the discipline, and the invariant holds. -/
def Reached (L : Lease σ ρ) (kind : (op : Op) → Kind (Res op)) (past claims : List Nat)
    (s : Sys σ W K Op Res Query Answer A) : Prop :=
  ∃ ghosts, Inv L past claims s.tick s.db ghosts ∧
    ∀ i, TracksTo (discipline kind) (fun _ _ => True) (s.sessions i) (ghosts i)

variable {claims : List Nat} {s : Sys σ W K Op Res Query Answer A}

theorem Reached.acts_le (h : Reached L kind past claims s) :
    (L.acts s.db).length ≤ claims.length := by
  obtain ⟨ghosts, hinv, -⟩ := h
  exact (List.subperm_of_subset hinv.nodup hinv.acts).length_le

theorem Reached.start (htick : s.tick = 0) (hholder : L.holder (L.row s.db) = none)
    (hacts : L.acts s.db = []) (hsessions : ∀ i, ∃ p, s.sessions i = ⟨some p, none⟩ ∧
      p.Follows (discipline kind) .free fun _ _ => True) : Reached L kind [] [] s := by
  refine ⟨fun _ => ⟨some .free, none⟩, ⟨htick, fun token htoken => ?_, nofun, List.nodup_nil,
    nofun, fun token hmem => ?_, ?_, fun _ => rfl, fun i stage hstage => ?_⟩, fun i => ?_⟩
  · rw [hholder] at htoken
    cases htoken
  · rw [hacts] at hmem
    cases hmem
  · rw [hacts]
    exact List.nodup_nil
  · obtain rfl := Option.some.inj hstage
    exact nofun
  · obtain ⟨p, hsess, hp⟩ := hsessions i
    rw [hsess]
    exact ⟨rfl, fun p' hp' => ⟨.free, rfl, Option.some.inj hp' ▸ hp⟩⟩

variable [DecidableEq K]

/-- Tokens of the claims a run takes. -/
def claimed (L : Lease σ ρ) (E : Engine σ W K Op Res) :
    Sys σ W K Op Res Query Answer A → List (Label Answer) → List Nat
  | _, [] => []
  | s, l :: labels => L.taken s.tick (s.step E l).db ++ claimed L E (s.step E l) labels

theorem Reached.step (hlaw : L.Lawful E kind) (h : Reached L kind past claims s)
    (l : Label Answer) :
    Reached L kind (past ++ [l.session]) (claims ++ L.taken s.tick (s.step E l).db) (s.step E l) ∧
      Cause L E kind past claims l.session s.tick s.db (s.step E l).db := by
  obtain ⟨ghosts, hinv, htracks⟩ := h
  obtain ⟨ghost', hd, htracks'⟩ := Sys.step_disciplined (E := E) htracks l
  obtain ⟨hinv', hcause⟩ := hinv.step hlaw hd
  refine ⟨⟨_, ?_, htracks'⟩, hcause⟩
  rw [Sys.step_tick]
  exact hinv'

theorem Reached.run (hlaw : L.Lawful E kind) (h : Reached L kind past claims s)
    (labels : List (Label Answer)) :
    Reached L kind (past ++ labels.map Label.session) (claims ++ claimed L E s labels)
      (Transition.run (Sys.step E) s labels) := by
  induction labels generalizing past claims s with
  | nil =>
    rw [List.map_nil, claimed, List.append_nil, List.append_nil]
    exact h
  | cons l labels ih =>
    have hrun := ih (h.step hlaw l).1
    rw [List.append_assoc, List.append_assoc] at hrun
    exact hrun

theorem Reached.superseded (hlaw : L.Lawful E kind) (h : Reached L kind past claims s)
    {token : Nat} (hclaim : token ∈ claims) (hlost : L.holder (L.row s.db) ≠ some token)
    {l : Label Answer} (hown : past[token]? = some l.session) :
    L.row (s.step E l).db = L.row s.db := by
  have hcause := (h.step hlaw l).2
  obtain ⟨ghosts, hinv, -⟩ := h
  generalize (s.step E l).db = db' at hcause
  cases hcause with
  | kept _ hrow => exact hrow
  | opened op hkind hfree => exact absurd hown (hfree token hclaim)
  | settled op token' hkind hholder hclaim' hown' =>
    have hsame := hinv.once token hclaim token' hclaim' (hown.trans hown'.symm)
    exact absurd (hsame ▸ hholder) hlost

end Lease

end Txn
