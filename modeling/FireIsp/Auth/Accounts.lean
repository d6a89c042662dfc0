import FireIsp.Auth.Statements

/-!
# Rows of accounts

What a statement does to the users, to the clock, and to the comparisons.
-/

namespace FireIsp.Auth

open Txn

variable {db : Db}

theorem mem_of_user {userId : Nat} {user : User} (h : db.user userId = some user) :
    user ∈ db.users ∧ user.id = userId := by
  have hid := List.find?_some h
  exact ⟨List.mem_of_find?_eq_some h, of_decide_eq_true hid⟩

/-- What a statement writes to the users. -/
def updateOf (digest : Secret → Digest) (tick : Nat) (db : Db) : Stmt → Option (Nat × Update)
  | .storeAttempts userId attempts => some (userId, .attempts attempts)
  | .lockAccount userId attempts =>
    some (userId, .locked attempts (db.clock + lockoutMinutes * 60))
  | .clearAttempts userId => some (userId, .cleared)
  | .storeResetToken userId =>
    some (userId, .resetToken (digest (.token tick)) (db.clock + 3600))
  | .resetPassword userId _ passwordHash => some (userId, .reset passwordHash tick)
  | .storePassword userId passwordHash => some (userId, .password passwordHash tick)
  | .spendCode userId backupCodes codeHash => some (userId, .codes (backupCodes.erase codeHash))
  | .replaceCodes userId => some (userId, .codes ((backupCodesOf tick).map digest))
  | .enableTotp userId => some (userId, .enabled ((backupCodesOf tick).map digest))
  | .storeSecret userId secret => some (userId, .secret secret)
  | .disableTotp userId => some (userId, .disabled)
  | _ => none

theorem users_exec (digest : Secret → Digest) (verifies same : String → String → Bool) (tick : Nat)
    (db : Db) (op : Stmt) :
    ((engine digest verifies same).visible db (exec digest verifies same tick db op).2).users =
      match updateOf digest tick db op with
      | some (userId, update) =>
        Table.modify User.id userId (fun user => user.update update) db.users
      | none => db.users := by
  cases op <;> rfl

theorem mem_modify {userId : Nat} {update : Update} {user : User} {users : List User}
    (h : user ∈ Table.modify User.id userId (fun user => user.update update) users) :
    ∃ old ∈ users, user.id = old.id ∧
      (old.id ≠ userId ∧ user = old ∨ old.id = userId ∧ user = old.update update) := by
  obtain ⟨old, hold, rfl⟩ := List.mem_map.mp h
  refine ⟨old, hold, ?_, ?_⟩
  · dsimp only
    split_ifs
    · exact old.id_update update
    · rfl
  · dsimp only
    split_ifs with hid
    · exact Or.inr ⟨hid, rfl⟩
    · exact Or.inl ⟨hid, rfl⟩

theorem user_exec (digest : Secret → Digest) (verifies same : String → String → Bool) (tick : Nat)
    (db : Db) (op : Stmt) (account : Nat) :
    ((engine digest verifies same).visible db (exec digest verifies same tick db op).2).user account =
      match updateOf digest tick db op with
      | some (userId, update) =>
        if account = userId then (db.user account).map fun user => user.update update
        else db.user account
      | none => db.user account := by
  unfold Db.user
  rw [users_exec]
  split
  · exact Table.find_modify (fun user => user.id_update _) db.users
  · rfl

theorem clock_exec (digest : Secret → Digest) (verifies same : String → String → Bool) (tick : Nat)
    (db : Db) (op : Stmt) :
    db.clock ≤
      ((engine digest verifies same).visible db (exec digest verifies same tick db op).2).clock := by
  cases op with
  | elapse seconds => exact Nat.le_add_right db.clock seconds
  | _ => exact le_refl db.clock

theorem compared_exec (digest : Secret → Digest) (verifies same : String → String → Bool)
    (tick : Nat) (db : Db) (op : Stmt) :
    ((engine digest verifies same).visible db (exec digest verifies same tick db op).2).compared =
      match op with
      | .compare _ user => db.compared ++ [user.id]
      | _ => db.compared := by
  cases op <;> rfl

end FireIsp.Auth
