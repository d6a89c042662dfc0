import Mathlib.Data.Bool.Basic

/-!
# Custody of a unit

A unit of stock is taken when it leaves and restored when it comes back.  What a transaction may do
to its place, its owner and its stock at once keeps the books of the unit, whatever the history.
-/

namespace FireIsp.Inventory

/-- Where a unit stands, and how often its stock was moved. -/
structure Standing where
  inStock : Bool
  owned : Bool
  taken : Nat
  restored : Nat

namespace Standing

/-- Stock is restored for the owner a unit has lost, taken when it leaves, and not moved else. -/
inductive Step : Standing → Standing → Prop
  /-- It is not put in stock, and gets no owner. -/
  | kept {a b : Standing} (hstock : b.inStock = true → a.inStock = true)
      (howned : b.owned = true → a.owned = true) (htaken : b.taken = a.taken)
      (hrestored : b.restored = a.restored) : Step a b
  | taken {a b : Standing} (hin : a.inStock = true) (hout : b.inStock = false)
      (htaken : b.taken = a.taken + 1) (hrestored : b.restored = a.restored) : Step a b
  | restored {a b : Standing} (howned : a.owned = true) (hfree : b.owned = false)
      (htaken : b.taken = a.taken) (hrestored : b.restored = a.restored + 1) : Step a b
  | undone {a b : Standing} (hfree : a.owned = false) (hfree' : b.owned = false)
      (htaken : b.taken = a.taken) (hrestored : b.restored = a.restored) : Step a b

theorem Step.refl (a : Standing) : Step a a := .kept id id rfl rfl

variable {a b : Standing}

/-- Stock was taken for every time it was restored, and for the owner. -/
def Covered (a : Standing) : Prop := a.restored + a.owned.toNat ≤ a.taken

theorem Covered.step (h : a.Covered) (hstep : Step a b) : b.Covered := by
  unfold Covered at h ⊢
  cases hstep with
  | kept hstock howned htaken hrestored =>
    have hle : b.owned.toNat ≤ a.owned.toNat := Bool.toNat_le_toNat howned
    omega
  | taken hin hout htaken hrestored =>
    have hle := Bool.toNat_le b.owned
    omega
  | restored howned hfree htaken hrestored =>
    rw [howned, Bool.toNat_true] at h
    rw [hfree, Bool.toNat_false]
    omega
  | undone hfree hfree' htaken hrestored =>
    rw [hfree, Bool.toNat_false] at h
    rw [hfree', Bool.toNat_false]
    omega

end Standing

end FireIsp.Inventory
