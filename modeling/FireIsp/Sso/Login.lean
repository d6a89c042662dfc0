import FireIsp.Sso.Principal

/-!
# A single sign-on login

`findOrCreateSsoUser` and `mintTokens` of `ssoService`.  `same` is the collation of the
database.
-/

namespace FireIsp.Sso

/-- Roles an SSO configuration can name. -/
inductive SsoRole
  | admin
  | manager
  | technician
  | billing
  | readonly

/-- The membership role of that name. -/
def SsoRole.orgRole : SsoRole → OrgRole
  | .admin => .admin
  | .manager => .manager
  | .technician => .technician
  | .billing => .billing
  | .readonly => .readonly

/-- Profile the identity provider asserts. -/
structure Profile where
  email : String
  firstName : String
  lastName : String
  groups : List String

/-- Row of `organization_sso_configs`. -/
structure SsoConfig where
  autoProvision : Bool
  defaultRole : Option SsoRole

/-- Row of `organization_sso_group_mappings`. -/
structure GroupMapping where
  idpGroup : String
  fireispRole : SsoRole

/-- The errors of a login. -/
inductive SsoError
  | unauthorized (message : String)

/-- What a login takes from outside: random values, the clock and the lifetimes of tokens. -/
structure Draw where
  randomPassword : String
  refreshTokenValue : String
  refreshHash : String
  family : String
  now : Nat
  accessSeconds : Nat
  refreshSeconds : Nat

/-- `SELECT * FROM users WHERE email = ? AND deleted_at IS NULL` -/
def findByEmail (same : String → String → Bool) (email : String) (db : Db) : Option User :=
  db.users.find? fun u => same u.email email && u.live

/-- `SELECT id FROM roles WHERE name = 'support' AND deleted_at IS NULL LIMIT 1` -/
def supportGroup (same : String → String → Bool) (db : Db) : Option Nat :=
  (db.roles.find? fun r => same r.name "support" && r.live).map Role.id

def provisioned (same : String → String → Bool) (orgId : Nat) (profile : Profile) (draw : Draw)
    (db : Db) : User where
  id := db.nextUserId
  organizationId := some orgId
  firstName := profile.firstName
  lastName := profile.lastName
  email := profile.email
  passwordHash := draw.randomPassword
  role := .support
  groupId := supportGroup same db
  status := .active
  isInstallOperator := false
  lastLoginAt := none
  deletedAt := none

/-- `INSERT INTO users` -/
def insertUser (same : String → String → Bool) (orgId : Nat) (profile : Profile) (draw : Draw)
    (db : Db) : Db :=
  { db with
    users := db.users ++ [provisioned same orgId profile draw db]
    nextUserId := db.nextUserId + 1
    keyed := by
      have hbelow := db.below
      have hkeyed := db.keyed
      unfold Table.Keyed at hkeyed ⊢
      rw [List.map_append, List.nodup_append]
      refine ⟨hkeyed, by simp, fun a ha b hb => ?_⟩
      obtain ⟨u, hu, rfl⟩ := List.mem_map.mp ha
      obtain rfl : b = db.nextUserId := by simpa [provisioned] using hb
      exact (hbelow u hu).ne
    below := by
      intro u hu
      rcases List.mem_append.mp hu with hu | hu
      · exact Nat.lt_succ_of_lt (db.below u hu)
      · obtain rfl := List.mem_singleton.mp hu
        exact Nat.lt_succ_self _
    owned := by
      intro m hm
      rw [List.map_append]
      exact List.mem_append_left _ (db.owned m hm) }

def effectiveRole (profile : Profile) (cfg : SsoConfig) (mappings : List GroupMapping) : SsoRole :=
  let orgRole := cfg.defaultRole.getD .readonly
  if 0 < profile.groups.length ∧ 0 < mappings.length then
    ((profile.groups.findSome? fun group =>
      mappings.find? fun m => m.idpGroup = group).map GroupMapping.fireispRole).getD orgRole
  else orgRole

/-- `ON DUPLICATE KEY UPDATE`: the live membership, as `active_flag` is part of the key. -/
def Membership.isLiveOf (orgId userId : Nat) (m : Membership) : Bool :=
  decide (m.organizationId = orgId) && decide (m.userId = userId) && m.live

/-- `INSERT INTO organization_users … ON DUPLICATE KEY UPDATE` -/
def upsertMembership (orgId userId : Nat) (role : OrgRole) (db : Db)
    (hu : userId ∈ db.users.map User.id) : Db :=
  { db with
    memberships :=
      if db.memberships.any (Membership.isLiveOf orgId userId) then
        db.memberships.map fun m =>
          if m.isLiveOf orgId userId then { m with role := role, deletedAt := none } else m
      else db.memberships ++ [⟨orgId, userId, role, none⟩]
    owned := by
      intro m hm
      split_ifs at hm
      · obtain ⟨m', hm', rfl⟩ := List.mem_map.mp hm
        have howned := db.owned m' hm'
        split_ifs <;> exact howned
      · rcases List.mem_append.mp hm with hm | hm
        · exact db.owned m hm
        · obtain rfl := List.mem_singleton.mp hm
          exact hu }

def targetGroup (same : String → String → Bool) (role : SsoRole) (db : Db) : Option Role :=
  db.roles.find? fun r => same r.name role.orgRole.name && r.isSystem && r.live

/-- The columns the mapped role gives a user, unless the user's group is a custom one. -/
def granted (same : String → String → Bool) (role : SsoRole) (db : Db) (u : User) : User :=
  match targetGroup same role db with
  | none => u
  | some target =>
    if (db.group u).all Role.isSystem then
      { u with
        groupId := some target.id
        role := target.kind.getD u.role }
    else u

theorem granted_id (same : String → String → Bool) (role : SsoRole) (db : Db) (u : User) :
    (granted same role db u).id = u.id := by
  unfold granted
  split
  · rfl
  · split_ifs <;> rfl

/-- `UPDATE users … SET u.group_id = target.id, u.role = COALESCE(target.kind, u.role)` -/
def syncGroup (same : String → String → Bool) (role : SsoRole) (userId : Nat) (db : Db) : Db :=
  { db with
    users := Table.modify User.id userId (granted same role db) db.users
    keyed := Table.keyed_modify db.keyed (granted_id same role db)
    owned := by
      rw [Table.map_key_modify (granted_id same role db)]
      exact db.owned
    below := by
      intro u hu
      obtain ⟨u', hu', rfl⟩ := List.mem_map.mp hu
      have hbelow := db.below u' hu'
      split_ifs
      · exact (granted_id same role db u').trans_lt hbelow
      · exact hbelow }

/-- `findOrCreateSsoUser`, once the user is known. -/
def admitted (same : String → String → Bool) (orgId userId : Nat) (role : SsoRole) (db : Db)
    (hu : userId ∈ db.users.map User.id) : Db :=
  syncGroup same role userId (upsertMembership orgId userId role.orgRole db hu)

def findOrCreateSsoUser (same : String → String → Bool) (orgId : Nat) (profile : Profile)
    (cfg : SsoConfig) (mappings : List GroupMapping) (draw : Draw) (db : Db) :
    Except SsoError (User × SsoRole × Db) :=
  let orgRole := effectiveRole profile cfg mappings
  if profile.email = "" then
    .error (.unauthorized "IdP did not provide an email address — cannot authenticate user")
  else
    match h : findByEmail same profile.email db with
    | some user =>
      .ok (user, orgRole, admitted same orgId user.id orgRole db
        (List.mem_map_of_mem (List.mem_of_find?_eq_some h)))
    | none =>
      if cfg.autoProvision then
        .ok (provisioned same orgId profile draw db, orgRole,
          admitted same orgId db.nextUserId orgRole (insertUser same orgId profile draw db)
            (by simp [insertUser, provisioned]))
      else
        .error (.unauthorized
          "User not found and auto-provisioning is disabled for this organization")

structure AccessToken where
  sub : Nat
  email : String
  role : Persona
  orgId : Nat

/-- What a login returns. -/
structure Tokens where
  accessToken : AccessToken
  refreshToken : String
  expiresIn : Nat
  user : User
  organizations : List (Organization × OrgRole)

/-- `INSERT INTO user_sessions` -/
def insertSession (session : UserSession) (db : Db) : Db :=
  { db with sessions := db.sessions ++ [session] }

/-- The row after a login. -/
def User.loggedIn (now : Nat) (u : User) : User := { u with lastLoginAt := some now }

theorem User.loggedIn_id (now : Nat) (u : User) : (u.loggedIn now).id = u.id := rfl

/-- `UPDATE users SET last_login_at = NOW() WHERE id = ?` -/
def touchLastLogin (userId now : Nat) (db : Db) : Db :=
  { db with
    users := Table.modify User.id userId (User.loggedIn now) db.users
    keyed := Table.keyed_modify db.keyed (User.loggedIn_id now)
    owned := by
      rw [Table.map_key_modify (User.loggedIn_id now)]
      exact db.owned
    below := by
      intro u hu
      obtain ⟨u', hu', rfl⟩ := List.mem_map.mp hu
      have hbelow := db.below u' hu'
      split_ifs <;> exact hbelow }

def organizationsOf (userId : Nat) (db : Db) : List (Organization × OrgRole) :=
  (db.memberships.filter fun m => decide (m.userId = userId) && m.live).flatMap fun m =>
    (db.organizations.filter fun o => decide (o.id = m.organizationId) && o.deletedAt.isNone).map
      fun o => (o, m.role)

def mintTokens (user : User) (orgId : Nat) (draw : Draw) (db : Db) : Tokens × Db :=
  let session : UserSession :=
    { userId := user.id
      tokenHash := draw.refreshHash
      tokenFamily := draw.family
      expiresAt := draw.now + draw.refreshSeconds }
  let db := touchLastLogin user.id draw.now (insertSession session db)
  ({ accessToken := { sub := user.id, email := user.email, role := user.role, orgId := orgId }
     refreshToken := draw.refreshTokenValue
     expiresIn := draw.accessSeconds
     user := user
     organizations := organizationsOf user.id db }, db)

/-- A login: the user is found or created, then gets a session. -/
def login (same : String → String → Bool) (orgId : Nat) (profile : Profile) (cfg : SsoConfig)
    (mappings : List GroupMapping) (draw : Draw) (db : Db) : Except SsoError (Tokens × Db) := do
  let (user, _, db) ← findOrCreateSsoUser same orgId profile cfg mappings draw db
  return mintTokens user orgId draw db

end FireIsp.Sso
