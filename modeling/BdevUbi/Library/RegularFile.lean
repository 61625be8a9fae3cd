import Mathlib.Algebra.Ring.Nat
import Mathlib.Data.List.GetD
import Mathlib.Order.MinMax
import Mathlib.Tactic.Common

/-! Regular files as byte-addressed arrays, and the buffers that reads fill.

A descriptor's position is kept by its owner; a file is only its size and its
bytes. A transfer names the offset it starts at and moves a list of bytes.
-/

set_option autoImplicit false

namespace BdevUbi.Library

/-- Offsets are signed 64-bit numbers, so no byte lies at or past this one. -/
@[irreducible] def offsetLimit : Nat := 2 ^ 63

/-- Bytes past the end are kept zero: a write behind the end leaves a hole, and
a hole reads as zeros. -/
structure RegularFile where
  size : Nat
  byte : Nat → UInt8
  bounded : size ≤ offsetLimit
  hole : ∀ i, size ≤ i → byte i = 0

namespace RegularFile

def empty : RegularFile where
  size := 0
  byte := fun _ => 0
  bounded := Nat.zero_le _
  hole := fun _ _ => rfl

def constant (size : Nat) (value : UInt8) (bounded : size ≤ offsetLimit) : RegularFile where
  size := size
  byte := fun i => if i < size then value else 0
  bounded := bounded
  hole := fun _ past => if_neg (Nat.not_lt.mpr past)

/-- Store `data` at `pos`, as far as the offset range goes; an empty transfer does
not extend the file. -/
def write (file : RegularFile) (pos : Nat) (data : List UInt8) : RegularFile where
  size := if data = [] ∨ offsetLimit ≤ pos then file.size else max file.size (min (pos + data.length) offsetLimit)
  byte := fun i =>
    if pos ≤ i ∧ i < pos + data.length ∧ i < offsetLimit then data.getD (i - pos) 0 else file.byte i
  bounded := by
    split
    · exact file.bounded
    · exact max_le file.bounded (min_le_right _ _)
  hole := by
    intro i past
    split at past
    · rename_i nothing
      rw [if_neg (by rcases nothing with rfl | beyond <;> simp <;> omega)]
      exact file.hole i past
    · have old : file.size ≤ i := le_trans (le_max_left _ _) past
      have new : min (pos + data.length) offsetLimit ≤ i := le_trans (le_max_right _ _) past
      rw [if_neg (by omega)]
      exact file.hole i old

/-- The bytes a read of `count` bytes at `pos` transfers; it stops at the end. -/
def pread (file : RegularFile) (pos count : Nat) : List UInt8 :=
  (List.range (min count (file.size - pos))).map fun i => file.byte (pos + i)

/-- `data` is stored at `pos`, inside the file. -/
def Holds (file : RegularFile) (pos : Nat) (data : List UInt8) : Prop :=
  pos + data.length ≤ file.size ∧ ∀ j, j < data.length → file.byte (pos + j) = data.getD j 0

/-- What a system call makes of a transfer. A short one moves at most the given
number of bytes; POSIX allows any. -/
inductive Transfer where
  | failed
  | short (limit : Nat)
  | full
  deriving DecidableEq, Repr

/-- write(2) at `pos`: the file and the number of bytes moved, or an error. No
transfer can start at the end of the offset range (EFBIG) or cross it. -/
def sysWrite (file : RegularFile) (pos : Nat) (data : List UInt8) (transfer : Transfer) : Option (RegularFile × Nat) :=
  if offsetLimit ≤ pos then none
  else
    match transfer with
    | .failed => none
    | .short limit => some (file.write pos (data.take limit), min (min limit data.length) (offsetLimit - pos))
    | .full => some (file.write pos data, min data.length (offsetLimit - pos))

/-- read(2) at `pos`: the bytes moved, or an error. -/
def sysRead (file : RegularFile) (pos count : Nat) : Transfer → Option (List UInt8)
  | .failed => none
  | .short limit => some ((file.pread pos count).take limit)
  | .full => some (file.pread pos count)

/-! ## Writing -/

theorem sysWrite_full (file : RegularFile) {pos : Nat} {data : List UInt8} (nonempty : data ≠ [])
    (fits : pos + data.length ≤ offsetLimit) :
    file.sysWrite pos data .full = some (file.write pos data, data.length) := by
  have length := List.length_pos_iff.mpr nonempty
  have inside : ¬ offsetLimit ≤ pos := by omega
  simp only [sysWrite, inside, ↓reduceIte, Option.some.injEq, Prod.mk.injEq, true_and]
  omega

theorem sysWrite_failed (file : RegularFile) (pos : Nat) (data : List UInt8) : file.sysWrite pos data .failed = none := by
  unfold sysWrite
  split <;> rfl

theorem sysWrite_bounded {file file' : RegularFile} {pos n : Nat} {data : List UInt8} {transfer : Transfer}
    (written : file.sysWrite pos data transfer = some (file', n)) : pos + n ≤ offsetLimit := by
  unfold sysWrite at written
  split at written
  · cases written
  · cases transfer with
    | failed => cases written
    | short limit =>
      cases written
      omega
    | full =>
      cases written
      omega

theorem write_size_le (file : RegularFile) (pos : Nat) (data : List UInt8) :
    file.size ≤ (file.write pos data).size := by
  simp only [write]
  split
  · exact le_rfl
  · exact le_max_left _ _

theorem write_byte_of_apart (file : RegularFile) {pos i : Nat} {data : List UInt8}
    (apart : i < pos ∨ pos + data.length ≤ i) : (file.write pos data).byte i = file.byte i := by
  simp only [write]
  rw [if_neg (by omega)]

theorem write_holds (file : RegularFile) {pos : Nat} {data : List UInt8} (nonempty : data ≠ [])
    (fits : pos + data.length ≤ offsetLimit) : (file.write pos data).Holds pos data := by
  have length := List.length_pos_iff.mpr nonempty
  refine ⟨?_, ?_⟩
  · have room : ¬ (data = [] ∨ offsetLimit ≤ pos) := by
      rintro (none | beyond)
      · exact nonempty none
      · omega
    simp only [write, room, ↓reduceIte, min_eq_left fits]
    exact le_max_right _ _
  · intro j inside
    simp only [write]
    rw [if_pos (by omega), Nat.add_sub_cancel_left]

/-- A write leaves every region it does not touch as it was. -/
theorem Holds.write {file : RegularFile} {pos other : Nat} {data kept : List UInt8} (held : file.Holds other kept)
    (apart : other + kept.length ≤ pos ∨ pos + data.length ≤ other) : (file.write pos data).Holds other kept := by
  obtain ⟨inside, bytes⟩ := held
  refine ⟨le_trans inside (write_size_le file pos data), ?_⟩
  intro j below
  rw [write_byte_of_apart file (by omega)]
  exact bytes j below

/-! ## Reading -/

@[simp] theorem length_pread (file : RegularFile) (pos count : Nat) :
    (file.pread pos count).length = min count (file.size - pos) := by
  simp [pread]

theorem getD_pread (file : RegularFile) {pos count j : Nat} (inside : j < count)
    (stored : pos + j < file.size) : (file.pread pos count).getD j 0 = file.byte (pos + j) := by
  have below : j < min count (file.size - pos) := by omega
  simp [pread, List.getD, below]

theorem pread_holds {file : RegularFile} {pos : Nat} {data : List UInt8} (held : file.Holds pos data)
    (off count : Nat) (inside : off + count ≤ data.length) :
    file.pread (pos + off) count = (data.drop off).take count := by
  obtain ⟨stored, bytes⟩ := held
  apply List.ext_getElem
  · simp only [length_pread, List.length_take, List.length_drop]
    omega
  · intro j left right
    simp only [length_pread] at left
    have value := bytes (off + j) (by omega)
    rw [List.getD_eq_getElem _ _ (by omega)] at value
    simp only [pread, List.getElem_map, List.getElem_range, List.getElem_take, List.getElem_drop]
    rw [Nat.add_assoc]
    exact value

/-- A stored region reads the same after a write elsewhere. -/
theorem pread_write_of_apart (file : RegularFile) {pos count other : Nat} {data : List UInt8}
    (stored : pos + count ≤ file.size) (apart : pos + count ≤ other ∨ other + data.length ≤ pos) :
    (file.write other data).pread pos count = file.pread pos count := by
  have larger := write_size_le file other data
  have whole : min count ((file.write other data).size - pos) = min count (file.size - pos) := by omega
  rw [pread, pread, whole]
  apply List.map_congr_left
  intro i below
  rw [List.mem_range] at below
  exact write_byte_of_apart file (by omega)

end RegularFile

/-! ## Buffers -/

/-- A transfer overwrites the front of its buffer and leaves the rest alone. -/
def fill (data buffer : List UInt8) : List UInt8 := data ++ buffer.drop data.length

/-- A vectored transfer fills its buffers one after the other. -/
def scatter : List UInt8 → List (List UInt8) → List (List UInt8)
  | _, [] => []
  | data, v :: vs => fill (data.take v.length) v :: scatter (data.drop v.length) vs

@[simp] theorem fill_nil (buffer : List UInt8) : fill [] buffer = buffer := rfl

theorem length_fill {data buffer : List UInt8} (fits : data.length ≤ buffer.length) :
    (fill data buffer).length = buffer.length := by
  simp only [fill, List.length_append, List.length_drop]
  omega

theorem fill_of_length {data buffer : List UInt8} (full : data.length = buffer.length) :
    fill data buffer = data := by
  simp [fill, full]

theorem getD_fill_of_lt {data buffer : List UInt8} {j : Nat} (inside : j < data.length) :
    (fill data buffer).getD j 0 = data.getD j 0 := by
  simp only [fill, List.getD, List.getElem?_append_left inside]

theorem flatten_scatter (data : List UInt8) (buffers : List (List UInt8))
    (fits : data.length ≤ buffers.flatten.length) :
    (scatter data buffers).flatten = fill data buffers.flatten := by
  induction buffers generalizing data with
  | nil =>
    have none : data = [] := List.eq_nil_of_length_eq_zero (by simpa using fits)
    simp [scatter, fill, none]
  | cons v vs ih =>
    simp only [List.flatten_cons, List.length_append] at fits
    have rest : (data.drop v.length).length ≤ vs.flatten.length := by
      simp only [List.length_drop]; omega
    simp only [scatter, List.flatten_cons, ih _ rest]
    by_cases short : data.length ≤ v.length
    · have whole : data.take v.length = data := List.take_of_length_le short
      have none : data.drop v.length = [] := List.drop_eq_nil_of_le short
      rw [whole, none, fill_nil]
      simp only [fill, List.drop_append_of_le_length short, List.append_assoc]
    · have long : v.length ≤ data.length := by omega
      have taken : (data.take v.length).length = v.length := by simp [long]
      rw [fill_of_length taken]
      simp only [fill, List.length_drop]
      rw [← List.append_assoc, List.take_append_drop, List.drop_append]
      simp [List.drop_eq_nil_of_le long]

theorem map_length_scatter (data : List UInt8) (buffers : List (List UInt8)) :
    (scatter data buffers).map List.length = buffers.map List.length := by
  induction buffers generalizing data with
  | nil => rfl
  | cons v vs ih =>
    have fits : (data.take v.length).length ≤ v.length := by simp
    simp only [scatter, List.map_cons, length_fill fits, ih]

end BdevUbi.Library
