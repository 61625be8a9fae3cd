import Mathlib.Data.List.GetD
import Mathlib.Data.Nat.ModEq
import Mathlib.Tactic.Common

/-! Tables of 64-bit words and their little-endian byte image.

Entry `i` of a table occupies bytes `8 * i .. 8 * i + 7`, least significant
byte first. Words are read back from any byte-addressed source.
-/

set_option autoImplicit false

namespace BdevUbi.Library

/-- Byte `j` of the little-endian representation of `value`. -/
def leByte (value j : Nat) : UInt8 := UInt8.ofNat (value / 256 ^ j % 256)

def leValue (byte : Nat → UInt8) : Nat → Nat
  | 0 => 0
  | n + 1 => leValue byte n + (byte n).toNat * 256 ^ n

theorem toNat_leByte (value j : Nat) : (leByte value j).toNat = value / 256 ^ j % 256 := by
  have small : value / 256 ^ j % 256 < 2 ^ 8 := Nat.mod_lt _ (by decide)
  rw [leByte, UInt8.toNat_ofNat', Nat.mod_eq_of_lt small]

theorem leValue_leByte (value n : Nat) : leValue (leByte value) n = value % 256 ^ n := by
  induction n with
  | zero => simp [leValue, Nat.mod_one]
  | succ n ih =>
    rw [leValue, ih, toNat_leByte, Nat.mod_pow_succ, Nat.mul_comm]

theorem leValue_congr {first second : Nat → UInt8} {n : Nat}
    (same : ∀ j, j < n → first j = second j) : leValue first n = leValue second n := by
  induction n with
  | zero => rfl
  | succ n ih =>
    rw [leValue, leValue, ih (fun j below => same j (by omega)), same n (by omega)]

theorem leValue_lt (byte : Nat → UInt8) (n : Nat) : leValue byte n < 256 ^ n := by
  induction n with
  | zero => simp [leValue]
  | succ n ih =>
    have digit : (byte n).toNat + 1 ≤ 256 := (byte n).toNat_lt
    calc leValue byte n + (byte n).toNat * 256 ^ n
        < 256 ^ n + (byte n).toNat * 256 ^ n := Nat.add_lt_add_right ih _
      _ = ((byte n).toNat + 1) * 256 ^ n := by rw [Nat.succ_mul, Nat.add_comm]
      _ ≤ 256 * 256 ^ n := Nat.mul_le_mul_right _ digit
      _ = 256 ^ (n + 1) := by rw [Nat.pow_succ, Nat.mul_comm]

/-- The bytes of a value are the bytes it was made of. -/
theorem leByte_leValue (byte : Nat → UInt8) {n j : Nat} (below : j < n) : leByte (leValue byte n) j = byte j := by
  induction n with
  | zero => omega
  | succ n ih =>
    have small := leValue_lt byte n
    have digit : (byte n).toNat < 256 := (byte n).toNat_lt
    by_cases last : j = n
    · subst last
      rw [leByte, leValue, Nat.add_mul_div_right _ _ (Nat.pow_pos (by decide)), Nat.div_eq_of_lt small, Nat.zero_add,
        Nat.mod_eq_of_lt digit, UInt8.ofNat_toNat]
    · have shorter : j < n := by omega
      have split : (byte n).toNat * 256 ^ n = 256 ^ j * (256 * ((byte n).toNat * 256 ^ (n - j - 1))) := by
        have power : 256 ^ n = 256 ^ j * (256 * 256 ^ (n - j - 1)) := by
          rw [← Nat.pow_succ', ← Nat.pow_add]
          congr 1
          omega
        rw [power]
        ac_rfl
      have value := ih shorter
      unfold leByte at value ⊢
      rw [leValue, split, Nat.add_mul_div_left _ _ (Nat.pow_pos (by decide)), Nat.add_mul_mod_self_left]
      exact value
def wordAt (byte : Nat → UInt8) (i : Nat) : UInt64 := UInt64.ofNat (leValue (fun j => byte (8 * i + j)) 8)

/-- Byte `k` of the image of a table of `n` words; zero past the table. -/
def tableByte {n : Nat} (table : Fin n → UInt64) (k : Nat) : UInt8 :=
  if inside : k / 8 < n then leByte (table ⟨k / 8, inside⟩).toNat (k % 8) else 0

@[irreducible] def tableBytes {n : Nat} (table : Fin n → UInt64) : List UInt8 := (List.range (8 * n)).map (tableByte table)

@[simp] theorem length_tableBytes {n : Nat} (table : Fin n → UInt64) : (tableBytes table).length = 8 * n := by
  simp [tableBytes]

theorem getD_tableBytes {n : Nat} (table : Fin n → UInt64) {k : Nat} (inside : k < 8 * n) :
    (tableBytes table).getD k 0 = tableByte table k := by
  simp [tableBytes, List.getD, inside]

theorem tableByte_entry {n : Nat} (table : Fin n → UInt64) (i : Fin n) {j : Nat} (below : j < 8) :
    tableByte table (8 * i + j) = leByte (table i).toNat j := by
  have quotient : (8 * i.val + j) / 8 = i.val := by omega
  have remainder : (8 * i.val + j) % 8 = j := by omega
  simp [tableByte, quotient, remainder]

/-- Reading a word back from a table's image gives the entry. -/
theorem wordAt_tableByte {n : Nat} (table : Fin n → UInt64) (i : Fin n) :
    wordAt (tableByte table) i = table i := by
  have bytes : leValue (fun j => tableByte table (8 * i + j)) 8 = leValue (leByte (table i).toNat) 8 :=
    leValue_congr fun j below => tableByte_entry table i below
  have small : (table i).toNat < 256 ^ 8 := (table i).toNat_lt
  rw [wordAt, bytes, leValue_leByte, Nat.mod_eq_of_lt small, UInt64.ofNat_toNat]

/-- The bytes of a word are the bytes it was read from. -/
theorem leByte_wordAt (byte : Nat → UInt8) (i : Nat) {j : Nat} (below : j < 8) :
    leByte (wordAt byte i).toNat j = byte (8 * i + j) := by
  have small : leValue (fun j => byte (8 * i + j)) 8 < 2 ^ 64 := leValue_lt _ 8
  rw [wordAt, UInt64.toNat_ofNat', Nat.mod_eq_of_lt small, leByte_leValue _ below]

theorem wordAt_congr {first second : Nat → UInt8} {i : Nat}
    (same : ∀ j, j < 8 → first (8 * i + j) = second (8 * i + j)) : wordAt first i = wordAt second i := by
  rw [wordAt, wordAt, leValue_congr same]

end BdevUbi.Library
