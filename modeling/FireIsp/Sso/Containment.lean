import FireIsp.Sso.Login

/-!
# What a single sign-on login changes outside its organization

A login is contained when its session is one of an active user, and what determines permissions in
every other organization is as before.
-/

namespace FireIsp.Sso

variable {same : String → String → Bool} {allowlist : List Nat} {orgId : Nat} {profile : Profile}
  {cfg : SsoConfig} {mappings : List GroupMapping} {draw : Draw} {db db' : Db} {u : User}
  {role : SsoRole} {tokens : Tokens}

/-- What a login adds: a session of an active user, and nothing outside its organization. -/
structure Contained (allowlist : List Nat) (orgId : Nat) (db db' : Db) : Prop where
  active : ∃ session u, db'.sessions = db.sessions ++ [session] ∧
    db'.user session.userId = some u ∧ u.status = .active
  memberships : (db'.memberships.filter fun m => m.organizationId ≠ orgId) =
    db.memberships.filter fun m => m.organizationId ≠ orgId
  /-- What determines permissions in other organizations is as before. -/
  standing : ∀ organizationId, organizationId ≠ orgId → ∀ userId,
    db'.standing allowlist userId organizationId = db.standing allowlist userId organizationId

/-- The account is active, and is let into no other organization with its old or new role. -/
def Confined (same : String → String → Bool) (allowlist : List Nat) (orgId : Nat)
    (profile : Profile) (cfg : SsoConfig) (mappings : List GroupMapping) (draw : Draw) (db : Db) :
    Prop :=
  let change := granted same (effectiveRole profile cfg mappings) db
  match findByEmail same profile.email db with
  | some u =>
    u.status = .active ∧ (change u = u ∨ ∀ organizationId, organizationId ≠ orgId →
      db.reaches allowlist u organizationId = false ∧
      db.reaches allowlist (change u) organizationId = false)
  | none =>
    ∀ organizationId, organizationId ≠ orgId →
      db.reaches allowlist (change (provisioned same orgId profile draw db)) organizationId = false

/-- Which account logs in, and the state in which it is known. -/
inductive Enters (same : String → String → Bool) (orgId : Nat) (profile : Profile) (draw : Draw)
    (db : Db) : User → Db → Prop
  | found {u : User} (h : findByEmail same profile.email db = some u) :
      Enters same orgId profile draw db u db
  | created (h : findByEmail same profile.email db = none) :
      Enters same orgId profile draw db (provisioned same orgId profile draw db)
        (insertUser same orgId profile draw db)

theorem login_ok (h : login same orgId profile cfg mappings draw db = .ok (tokens, db')) :
    ∃ u before, ∃ hu : u.id ∈ before.users.map User.id, Enters same orgId profile draw db u before ∧
      mintTokens u orgId draw
        (admitted same orgId u.id (effectiveRole profile cfg mappings) before hu) =
          (tokens, db') := by
  unfold login findOrCreateSsoUser at h
  dsimp only at h
  split at h
  · exact nomatch h
  split at h
  · rename_i u hfound
    exact ⟨u, db, _, .found hfound, Except.ok.inj h⟩
  · rename_i hfound
    split at h
    · exact ⟨_, _, _, .created hfound, Except.ok.inj h⟩
    · exact nomatch h

theorem granted_congr (h : db'.roles = db.roles) (u : User) :
    granted same role db' u = granted same role db u := by
  unfold granted targetGroup Db.group
  rw [h]

theorem reaches_congr {organizationId : Nat} (horganizations : db'.organizations = db.organizations)
    (hroles : db'.roles = db.roles)
    (hmembership : db'.membership u.id organizationId = db.membership u.id organizationId) :
    db'.reaches allowlist u organizationId = db.reaches allowlist u organizationId := by
  unfold Db.reaches hasGlobalAccess isSuperAdminAccount Db.group
  rw [horganizations, hroles, hmembership]

theorem memberships_admitted (same : String → String → Bool) (orgId : Nat) (role : SsoRole)
    (hu : u.id ∈ db.users.map User.id) :
    ((admitted same orgId u.id role db hu).memberships.filter fun m => m.organizationId ≠ orgId) =
      db.memberships.filter fun m => m.organizationId ≠ orgId := by
  change (upsertMembership orgId u.id role.orgRole db hu).memberships.filter _ = _
  unfold upsertMembership
  dsimp only
  split_ifs
  · induction db.memberships with
    | nil => rfl
    | cons m rows ih =>
      rw [List.map_cons, List.filter_cons, List.filter_cons, ih]
      by_cases hm : m.isLiveOf orgId u.id = true
      · have horg : m.organizationId = orgId := by
          simp only [Membership.isLiveOf, Bool.and_eq_true, decide_eq_true_eq] at hm
          exact hm.1.1
        simp [hm, horg]
      · simp [hm]
  · simp

/-- What a completed login has done, given the account and the row it leaves of it. -/
structure Effect (orgId : Nat) (draw : Draw) (db db' : Db) (u after : User) : Prop where
  organizations : db'.organizations = db.organizations
  roles : db'.roles = db.roles
  rolePermissions : db'.rolePermissions = db.rolePermissions
  memberships : (db'.memberships.filter fun m => m.organizationId ≠ orgId) =
    db.memberships.filter fun m => m.organizationId ≠ orgId
  sessions : ∃ session, db'.sessions = db.sessions ++ [session] ∧ session.userId = u.id
  self : db'.user u.id = some after
  others : ∀ id, id ≠ u.id → db'.user id = db.user id

/-- The account after a login. -/
def afterLogin (same : String → String → Bool) (role : SsoRole) (draw : Draw) (db : Db)
    (u : User) : User := (granted same role db u).loggedIn draw.now

theorem user_mintTokens {before : Db} {u : User} (hu : u.id ∈ before.users.map User.id)
    (h : mintTokens u orgId draw (admitted same orgId u.id role before hu) = (tokens, db'))
    (id : Nat) : db'.user id =
      if id = u.id then (before.user id).map (afterLogin same role draw before)
      else before.user id := by
  have hroles : (upsertMembership orgId u.id role.orgRole before hu).roles = before.roles := rfl
  obtain rfl := congrArg Prod.snd h
  change Table.find User.id id (Table.modify User.id u.id (User.loggedIn draw.now)
    (Table.modify User.id u.id (granted same role (upsertMembership orgId u.id role.orgRole before
      hu)) before.users)) = _
  rw [Table.find_modify (User.loggedIn_id draw.now), Table.find_modify (granted_id same role _)]
  split_ifs
  · rw [Option.map_map]
    exact congrArg (fun f => Option.map f (before.user id))
      (funext fun x => congrArg (User.loggedIn draw.now) (granted_congr hroles x))
  · rfl

theorem login_effect (h : login same orgId profile cfg mappings draw db = .ok (tokens, db')) :
    ∃ u before, Enters same orgId profile draw db u before ∧ Effect orgId draw db db' u
      (afterLogin same (effectiveRole profile cfg mappings) draw db u) := by
  obtain ⟨u, before, hu, henters, hmint⟩ := login_ok h
  have huser := user_mintTokens hu hmint
  have hmemberships := memberships_admitted same orgId (effectiveRole profile cfg mappings) hu
  obtain rfl := congrArg Prod.snd hmint
  refine ⟨u, before, henters, ?_⟩
  cases henters with
  | found hfound =>
    refine ⟨rfl, rfl, rfl, hmemberships, ⟨_, rfl, rfl⟩, ?_, fun id hid => ?_⟩
    · rw [huser, if_pos rfl, Db.user_eq_some.mpr ⟨List.mem_of_find?_eq_some hfound, rfl⟩]
      rfl
    · rw [huser, if_neg hid]
  | created hfound =>
    have hinsert : ∀ id, (insertUser same orgId profile draw db).user id =
        (db.user id).or (Table.find User.id id [provisioned same orgId profile draw db]) :=
      fun id => Table.find_append id _ _
    refine ⟨rfl, rfl, rfl, hmemberships, ⟨_, rfl, rfl⟩, ?_, fun id hid => ?_⟩
    · have hnew : db.user (provisioned same orgId profile draw db).id = none :=
        Db.user_eq_none (le_refl _)
      rw [huser, if_pos rfl, hinsert, hnew, Option.none_or, Table.find_singleton, if_pos rfl]
      rfl
    · rw [huser, if_neg hid, hinsert, Table.find_singleton, if_neg (Ne.symm hid), Option.or_none]

section

variable {after : User} {organizationId : Nat}

theorem Effect.membership (h : Effect orgId draw db db' u after) (hother : organizationId ≠ orgId)
    (userId : Nat) : db'.membership userId organizationId = db.membership userId organizationId := by
  have hfind : ∀ db : Db, db.membership userId organizationId =
      (db.memberships.filter fun m => m.organizationId ≠ orgId).find? fun m =>
        decide (m.userId = userId) && decide (m.organizationId = organizationId) && m.live := by
    intro db
    rw [List.find?_filter]
    refine congrArg (fun p => db.memberships.find? p) (funext fun m => ?_)
    by_cases hm : m.organizationId = organizationId
    · simp [hm, hother]
    · simp [hm]
  rw [hfind, hfind, h.memberships]

theorem Effect.reaches (h : Effect orgId draw db db' u after) (hother : organizationId ≠ orgId)
    (x : User) : db'.reaches allowlist x organizationId = db.reaches allowlist x organizationId :=
  reaches_congr h.organizations h.roles (h.membership hother _)

theorem Effect.standing_other (h : Effect orgId draw db db' u after)
    (hother : organizationId ≠ orgId) {id : Nat} (hid : id ≠ u.id) :
    db'.standing allowlist id organizationId = db.standing allowlist id organizationId := by
  unfold Db.standing
  rw [h.others id hid]
  cases db.user id with
  | none => rfl
  | some x => simp only [Option.filter, h.reaches hother, h.membership hother]

theorem Effect.standing_self (h : Effect orgId draw db db' u after)
    (hother : organizationId ≠ orgId) (hid : after.id = u.id) :
    db'.standing allowlist u.id organizationId =
      if db.reaches allowlist after organizationId then
        some ⟨after.role, after.groupId,
          (db.membership u.id organizationId).map Membership.role⟩
      else none := by
  unfold Db.standing
  rw [h.self]
  by_cases hreaches : db.reaches allowlist after organizationId = true
  · simp [Option.filter, h.reaches hother, hreaches, h.membership hother, hid]
  · simp [Option.filter, h.reaches hother, hreaches]

end

theorem Db.standing_of_user (hu : db.user u.id = some u) (organizationId : Nat) :
    db.standing allowlist u.id organizationId =
      if db.reaches allowlist u organizationId then
        some ⟨u.role, u.groupId, (db.membership u.id organizationId).map Membership.role⟩
      else none := by
  unfold Db.standing
  rw [hu]
  by_cases hreaches : db.reaches allowlist u organizationId = true <;>
    simp [Option.filter, hreaches]

theorem granted_eq (same : String → String → Bool) (role : SsoRole) (db : Db) (u : User) :
    granted same role db u =
      { u with
        role := (granted same role db u).role
        groupId := (granted same role db u).groupId } := by
  unfold granted
  split
  · rfl
  · split_ifs <;> rfl

theorem reaches_afterLogin (organizationId : Nat) :
    db.reaches allowlist (afterLogin same role draw db u) organizationId =
      db.reaches allowlist (granted same role db u) organizationId := rfl

theorem ite_some_eq_iff {α : Type} {before after : Bool} {x y : α} (h : y ≠ x) :
    (if after then some y else none) = (if before then some x else none) ↔
      before = false ∧ after = false := by
  cases before <;> cases after <;> simp [h]

theorem standing_self_iff (hu : db.user u.id = some u)
    (h : Effect orgId draw db db' u (afterLogin same role draw db u)) :
    (∀ organizationId, organizationId ≠ orgId → db'.standing allowlist u.id organizationId =
      db.standing allowlist u.id organizationId) ↔
    granted same role db u = u ∨ ∀ organizationId, organizationId ≠ orgId →
      db.reaches allowlist u organizationId = false ∧
      db.reaches allowlist (granted same role db u) organizationId = false := by
  have hafter : ∀ organizationId, organizationId ≠ orgId →
      db'.standing allowlist u.id organizationId =
        if db.reaches allowlist (granted same role db u) organizationId then
          some ⟨(granted same role db u).role, (granted same role db u).groupId,
            (db.membership u.id organizationId).map Membership.role⟩
        else none :=
    fun organizationId hother => h.standing_self hother (granted_id same role db u)
  by_cases hkept : granted same role db u = u
  · refine iff_of_true (fun organizationId hother => ?_) (Or.inl hkept)
    rw [hafter organizationId hother, hkept, Db.standing_of_user hu]
  · rw [or_iff_right hkept]
    refine forall_congr' fun organizationId => forall_congr' fun hother => ?_
    rw [hafter organizationId hother, Db.standing_of_user hu]
    refine ite_some_eq_iff fun heq => hkept ?_
    injection heq with hrole hgroup
    rw [granted_eq, hrole, hgroup]

theorem active_session_iff {after : User} (h : Effect orgId draw db db' u after) :
    (∃ session u, db'.sessions = db.sessions ++ [session] ∧
      db'.user session.userId = some u ∧ u.status = .active) ↔ after.status = .active := by
  obtain ⟨session, hsessions, hid⟩ := h.sessions
  constructor
  · rintro ⟨session', x, hsessions', hx, hactive⟩
    rw [hsessions] at hsessions'
    obtain rfl : session = session' := by simpa using hsessions'
    rw [hid, h.self] at hx
    rwa [Option.some.inj hx]
  · intro hactive
    exact ⟨session, after, hsessions, hid ▸ h.self, hactive⟩

/-- A completed login is contained exactly when the account is confined to the organization. -/
theorem login_contained_iff
    (h : login same orgId profile cfg mappings draw db = .ok (tokens, db')) :
    Contained allowlist orgId db db' ↔
      Confined same allowlist orgId profile cfg mappings draw db := by
  obtain ⟨u, before, henters, heffect⟩ := login_effect h
  have hsplit : Contained allowlist orgId db db' ↔
      (afterLogin same (effectiveRole profile cfg mappings) draw db u).status = .active ∧
      ∀ organizationId, organizationId ≠ orgId → db'.standing allowlist u.id organizationId =
        db.standing allowlist u.id organizationId := by
    refine ⟨fun hcontained => ⟨(active_session_iff heffect).mp hcontained.active,
      fun organizationId hother => hcontained.standing _ hother _⟩, ?_⟩
    rintro ⟨hactive, hself⟩
    refine ⟨(active_session_iff heffect).mpr hactive, heffect.memberships, ?_⟩
    intro organizationId hother id
    by_cases hid : id = u.id
    · rw [hid]
      exact hself organizationId hother
    · exact heffect.standing_other hother hid
  have hstatus : (afterLogin same (effectiveRole profile cfg mappings) draw db u).status =
      u.status := by
    rw [afterLogin, granted_eq]
    rfl
  rw [hsplit, hstatus]
  unfold Confined
  cases henters with
  | found hfound =>
    have hu : db.user u.id = some u :=
      Db.user_eq_some.mpr ⟨List.mem_of_find?_eq_some hfound, rfl⟩
    rw [hfound, standing_self_iff hu heffect]
  | created hfound =>
    have hnew : db.user (provisioned same orgId profile draw db).id = none :=
      Db.user_eq_none (le_refl _)
    have hactive : (provisioned same orgId profile draw db).status = .active := rfl
    rw [hfound]
    dsimp only
    rw [and_iff_right hactive]
    refine forall_congr' fun organizationId => forall_congr' fun hother => ?_
    rw [heffect.standing_self hother (granted_id same _ db _), reaches_afterLogin]
    unfold Db.standing
    rw [hnew]
    simp

/-- An inactive support agent of the second organization, an administrator of the first. -/
def sample : Db where
  organizations := [⟨1, "one", .active, none⟩, ⟨2, "two", .active, none⟩]
  roles := [⟨1, "admin", some .admin, true, none⟩, ⟨2, "support", some .support, true, none⟩]
  rolePermissions := []
  users :=
    [⟨1, some 2, "Ana", "A", "ana@two", "-", .support, some 2, .inactive, false, none, none⟩,
      ⟨2, some 1, "Bo", "B", "bo@one", "-", .admin, some 1, .active, false, none, none⟩]
  memberships := [⟨2, 1, .support, none⟩]
  sessions := []
  nextUserId := 3
  keyed := by decide
  below := by decide
  owned := by decide

/-- A configuration of the first organization that makes everyone an administrator. -/
def sampleConfig : SsoConfig := ⟨true, some .admin⟩

/-- What a login takes from outside. -/
def sampleDraw : Draw := ⟨"hash", "token", "digest", "family", 100, 900, 604800⟩

/-- An account of the first organization alone keeps what it has. -/
theorem login_contained_bo :
    ∃ tokens db', login (fun a b => a = b) 1 ⟨"bo@one", "Bo", "B", []⟩ sampleConfig [] sampleDraw
        sample = .ok (tokens, db') ∧
      (Contained [] 1 sample db' ↔
        Confined (fun a b => a = b) [] 1 ⟨"bo@one", "Bo", "B", []⟩ sampleConfig [] sampleDraw
          sample) ∧
      Confined (fun a b => a = b) [] 1 ⟨"bo@one", "Bo", "B", []⟩ sampleConfig [] sampleDraw
        sample :=
  ⟨_, _, rfl, login_contained_iff rfl, rfl, Or.inl rfl⟩

/-- A provider asserts another organization's agent, who becomes an administrator everywhere. -/
theorem login_not_contained :
    ∃ tokens db', login (fun a b => a = b) 1 ⟨"ana@two", "Ana", "A", []⟩ sampleConfig []
        sampleDraw sample = .ok (tokens, db') ∧
      ¬Contained [] 1 sample db' ∧
      (db'.user 1).map User.status = some .inactive ∧
      sample.standing [] 1 2 = some ⟨.support, some 2, some .support⟩ ∧
      db'.standing [] 1 2 = some ⟨.admin, some 1, some .support⟩ := by
  refine ⟨_, _, rfl, fun hcontained => ?_, rfl, rfl, rfl⟩
  obtain ⟨session, u, hsessions, hu, hactive⟩ := hcontained.active
  obtain rfl := (List.cons.inj hsessions).1
  obtain rfl := Option.some.inj hu
  exact absurd hactive (by decide)

end FireIsp.Sso
