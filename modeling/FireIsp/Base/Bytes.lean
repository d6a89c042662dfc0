import Mathlib.Data.List.Basic

/-!
# Byte buffers

Numbers in network order, and copying one buffer into another: what does not fit is left out.
-/

namespace Bytes

/-- A number in two bytes, the higher one first. -/
def uint16 (n : Nat) : List UInt8 := [UInt8.ofNat (n / 256), UInt8.ofNat (n % 256)]

/-- A number in four bytes, the highest one first. -/
def uint32 (n : Nat) : List UInt8 := uint16 (n / 65536) ++ uint16 (n % 65536)

/-- The number in the first two bytes. -/
def readUInt16 : List UInt8 → Nat
  | high :: low :: _ => high.toNat * 256 + low.toNat
  | _ => 0

/-- `source.copy(target, start)` -/
def copy (source target : List UInt8) (start : Nat) : List UInt8 :=
  target.take start ++ source.take (target.length - start) ++ target.drop (start + source.length)

@[simp] theorem length_uint32 (n : Nat) : (uint32 n).length = 4 := rfl

theorem readUInt16_uint16 {n : Nat} (h : n < 65536) (rest : List UInt8) :
    readUInt16 (uint16 n ++ rest) = n := by
  have hhigh : (UInt8.ofNat (n / 256)).toNat = n / 256 := by
    rw [UInt8.toNat_ofNat']
    omega
  have hlow : (UInt8.ofNat (n % 256)).toNat = n % 256 := by
    rw [UInt8.toNat_ofNat']
    omega
  simp only [uint16, List.cons_append, readUInt16, hhigh, hlow]
  omega

theorem uint16_readUInt16 (high low : UInt8) (rest : List UInt8) :
    readUInt16 (high :: low :: rest) < 65536 ∧
      uint16 (readUInt16 (high :: low :: rest)) = [high, low] := by
  have hhigh := high.toNat_lt
  have hlow := low.toNat_lt
  have hdiv : (high.toNat * 256 + low.toNat) / 256 = high.toNat := by omega
  have hmod : (high.toNat * 256 + low.toNat) % 256 = low.toNat := by omega
  rw [readUInt16, uint16, hdiv, hmod, UInt8.ofNat_toNat, UInt8.ofNat_toNat]
  exact ⟨by omega, rfl⟩

theorem copy_append {source old : List UInt8} (before after : List UInt8)
    (h : old.length = source.length) :
    copy source (before ++ old ++ after) before.length = before ++ source ++ after := by
  have htake : (before ++ old ++ after).take before.length = before := by
    rw [List.append_assoc, List.take_left]
  have hdrop : (before ++ old ++ after).drop (before.length + source.length) = after := by
    rw [← h, ← List.length_append, List.drop_left]
  have hfit : source.length ≤ (before ++ old ++ after).length - before.length := by
    rw [List.length_append, List.length_append]
    omega
  rw [copy, htake, hdrop, List.take_of_length_le hfit]

end Bytes
