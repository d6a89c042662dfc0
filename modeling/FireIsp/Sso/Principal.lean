import FireIsp.Base.Table

/-!
# Users, groups and memberships

The control-plane tables that decide who may do what in which organization.
-/

namespace FireIsp.Sso

/-- `users.role`, and `roles.kind`. -/
inductive Persona
  | admin
  | billing
  | support
  | technician
  | readonly
  deriving DecidableEq

/-- `users.status`, and `organizations.status`. -/
inductive Status
  | active
  | inactive
  deriving DecidableEq

/-- `organization_users.role`. -/
inductive OrgRole
  | owner
  | admin
  | manager
  | technician
  | billing
  | readonly
  | support

/-- The text of a membership role. -/
def OrgRole.name : OrgRole → String
  | .owner => "owner"
  | .admin => "admin"
  | .manager => "manager"
  | .technician => "technician"
  | .billing => "billing"
  | .readonly => "readonly"
  | .support => "support"

/-- Row of `organizations`. -/
structure Organization where
  id : Nat
  name : String
  status : Status
  deletedAt : Option Nat

/-- Row of `roles`: a user group. -/
structure Role where
  id : Nat
  name : String
  kind : Option Persona
  isSystem : Bool
  deletedAt : Option Nat

/-- Row of `users`. -/
structure User where
  id : Nat
  organizationId : Option Nat
  firstName : String
  lastName : String
  email : String
  passwordHash : String
  role : Persona
  groupId : Option Nat
  status : Status
  isInstallOperator : Bool
  lastLoginAt : Option Nat
  deletedAt : Option Nat
  deriving DecidableEq

/-- Row of `organization_users`. -/
structure Membership where
  organizationId : Nat
  userId : Nat
  role : OrgRole
  deletedAt : Option Nat

/-- Row of `user_sessions`. -/
structure UserSession where
  userId : Nat
  tokenHash : String
  tokenFamily : String
  expiresAt : Nat

def Role.live (r : Role) : Bool := r.deletedAt.isNone

def User.live (u : User) : Bool := u.deletedAt.isNone

def Membership.live (m : Membership) : Bool := m.deletedAt.isNone

/-- The tables, with the keys and references their constraints keep. -/
structure Db where
  organizations : List Organization
  roles : List Role
  /-- `role_permissions` with the slugs of `permissions`. -/
  rolePermissions : List (Nat × String)
  users : List User
  memberships : List Membership
  sessions : List UserSession
  /-- `AUTO_INCREMENT` of `users`. -/
  nextUserId : Nat
  keyed : Table.Keyed User.id users
  below : ∀ u ∈ users, u.id < nextUserId
  owned : ∀ m ∈ memberships, m.userId ∈ users.map User.id

/-- The row of a user. -/
def Db.user (db : Db) (id : Nat) : Option User := Table.find User.id id db.users

def Db.group (db : Db) (u : User) : Option Role :=
  db.roles.find? fun r => decide (u.groupId = some r.id) && r.live

def Db.membership (db : Db) (userId organizationId : Nat) : Option Membership :=
  db.memberships.find? fun m =>
    decide (m.userId = userId) && decide (m.organizationId = organizationId) && m.live

theorem Db.user_eq_none {db : Db} {id : Nat} (h : db.nextUserId ≤ id) : db.user id = none := by
  refine List.find?_eq_none.mpr fun u hu heq => ?_
  have hid : u.id = id := by simpa using heq
  have hbelow := db.below u hu
  omega

theorem Db.user_eq_some {db : Db} {id : Nat} {u : User} :
    db.user id = some u ↔ u ∈ db.users ∧ u.id = id := Table.find_eq_some db.keyed

end FireIsp.Sso

/-!
## Who may act in an organization

`resolveOrgPrincipal`, `isInstallOperatorUser` and `User.getPermissions`.  `allowlist` is
`INSTALL_OPERATOR_USER_IDS`, `same` the collation of the database.
-/

namespace FireIsp.Sso

def isInstallOperatorUser (allowlist : List Nat) (u : User) : Bool :=
  if 0 < allowlist.length then allowlist.contains u.id
  else decide (u.role = .admin) && u.isInstallOperator

/-- Member of the built-in group `super_admin`. -/
def isSuperAdminAccount (db : Db) (u : User) : Bool :=
  (db.group u).any fun r => decide (r.name = "super_admin") && r.isSystem

/-- The account acts in every organization. -/
def hasGlobalAccess (allowlist : List Nat) (db : Db) (u : User) : Bool :=
  isInstallOperatorUser allowlist u || isSuperAdminAccount db u

/-- A user is let in at home, with a live membership, or if the account acts everywhere. -/
def Db.reaches (allowlist : List Nat) (db : Db) (u : User) (organizationId : Nat) : Bool :=
  db.organizations.any (fun o => o.id = organizationId) &&
    (decide (u.organizationId = some organizationId) ||
      (db.membership u.id organizationId).isSome || hasGlobalAccess allowlist db u)

/-- What determines a user's permissions in an organization. -/
structure Standing where
  role : Persona
  groupId : Option Nat
  membership : Option OrgRole

/-- What determines the permissions of a user in an organization, for those who are let into it. -/
def Db.standing (allowlist : List Nat) (db : Db) (userId organizationId : Nat) : Option Standing :=
  ((db.user userId).filter fun u => db.reaches allowlist u organizationId).map fun u =>
    { role := u.role
      groupId := u.groupId
      membership := (db.membership u.id organizationId).map Membership.role }

section

variable {allowlist : List Nat} {db : Db} {u : User} {organization : Organization}

end

end FireIsp.Sso
