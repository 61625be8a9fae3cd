import Mathlib.Data.List.GetD
import Mathlib.Data.List.OfFn
import Mathlib.Data.List.TakeWhile
import Mathlib.Tactic.Common

/-! Strings that end at their first zero byte, arrays that hold them, and the copies of the
C library.

A copy is the list of the bytes that it stores, each with its index in the destination. An
array has a fixed length; once a byte was stored outside it there is nothing to say of it.
-/

set_option autoImplicit false

namespace BdevUbi.Library

structure CString where
  bytes : List UInt8
  nonzero : ∀ byte ∈ bytes, byte ≠ 0
  deriving DecidableEq, Repr

namespace CString

def empty : CString := ⟨[], fun _ member => by cases member⟩

/-- The first bytes of a string. -/
def take (src : CString) (n : Nat) : CString := ⟨src.bytes.take n, fun byte member => src.nonzero byte (List.mem_of_mem_take member)⟩

/-- One character for each byte. -/
def text (src : CString) : String := String.ofList (src.bytes.map fun byte => Char.ofNat byte.toNat)

theorem eq_of_bytes {first second : CString} (same : first.bytes = second.bytes) : first = second := by
  cases first
  cases second
  cases same
  rfl

theorem take_of_lt {src : CString} {n : Nat} (short : src.bytes.length < n + 1) : src.take n = src :=
  eq_of_bytes (List.take_of_length_le (by omega))

/-- A string that is cut is another string. -/
theorem take_ne {src : CString} {n : Nat} (long : n < src.bytes.length) : src.take n ≠ src := by
  intro same
  have length := congrArg (fun string => string.bytes.length) same
  simp only [take, List.length_take] at length
  omega

theorem text_eq_empty_iff {src : CString} : src.text = "" ↔ src = empty := by
  rw [text, String.ofList_eq_empty_iff, List.map_eq_nil_iff]
  exact ⟨fun none => eq_of_bytes none, fun same => congrArg bytes same⟩

end CString

/-! ## Copies -/

/-- The bytes of a string and then zeros, up to a count. -/
def copyStores (src : CString) (count : Nat) : List (Nat × UInt8) := (List.range count).map fun i => (i, src.bytes.getD i 0)

/-- Up to the terminator and with it, wherever that is. -/
def strcpy (src : CString) : List (Nat × UInt8) := copyStores src (src.bytes.length + 1)

/-- As many bytes as are asked for: cut off, or filled up with zeros. -/
def strncpy (src : CString) (n : Nat) : List (Nat × UInt8) := copyStores src n

theorem index_lt_of_mem_copyStores {src : CString} {count : Nat} {store : Nat × UInt8} (member : store ∈ copyStores src count) :
    store.1 < count := by
  obtain ⟨i, below, rfl⟩ := List.mem_map.mp member
  exact List.mem_range.mp below

/-- The terminator is stored behind the string's last byte. -/
theorem terminator_mem_strcpy (src : CString) : (src.bytes.length, 0) ∈ strcpy src := by
  refine List.mem_map.mpr ⟨src.bytes.length, List.mem_range.mpr (Nat.lt_succ_self _), ?_⟩
  rw [List.getD_eq_default _ _ (Nat.le_refl _)]

/-- `char [n]`. -/
abbrev CharArray (n : Nat) := Fin n → UInt8

namespace CharArray

variable {n : Nat}

/-- What calloc gives. -/
def zero : CharArray n := fun _ => 0

def store (array : CharArray n) : List (Nat × UInt8) → Option (CharArray n)
  | [] => some array
  | (i, byte) :: rest => if inside : i < n then store (Function.update array ⟨i, inside⟩ byte) rest else none

/-- The string that starts at the first byte; none if no byte of the array ends it. -/
def string (array : CharArray n) : Option CString :=
  let bytes := (List.ofFn array).takeWhile (· ≠ 0)
  if bytes.length < n then some ⟨bytes, fun byte member => by simpa using List.mem_takeWhile_imp member⟩ else none

theorem store_append (array : CharArray n) (first second : List (Nat × UInt8)) :
    array.store (first ++ second) = (array.store first).bind fun after => after.store second := by
  induction first generalizing array with
  | nil => rfl
  | cons entry rest ih =>
    simp only [List.cons_append, store]
    split
    · exact ih _
    · rfl

/-- What has a result stored nothing outside the array. -/
theorem index_lt_of_store {array after : CharArray n} {stores : List (Nat × UInt8)} (stored : array.store stores = some after)
    {entry : Nat × UInt8} (member : entry ∈ stores) : entry.1 < n := by
  induction stores generalizing array with
  | nil => cases member
  | cons first rest ih =>
    simp only [store] at stored
    split at stored
    · rename_i inside
      rcases List.mem_cons.mp member with rfl | later
      · exact inside
      · exact ih stored later
    · cases stored

/-- A copy that has room replaces the front of the array and leaves the rest. -/
theorem store_copyStores (array : CharArray n) (src : CString) {count : Nat} (fits : count ≤ n) :
    array.store (copyStores src count) = some fun i => if i.val < count then src.bytes.getD i.val 0 else array i := by
  induction count with
  | zero => simp [copyStores, store]
  | succ count ih =>
    have last : copyStores src (count + 1) = copyStores src count ++ [(count, src.bytes.getD count 0)] := by
      simp [copyStores, List.range_succ]
    have room : count < n := by omega
    rw [last, store_append, ih (by omega), Option.bind_some]
    simp only [store, room, ↓reduceDIte, Option.some.injEq]
    funext i
    by_cases here : i = ⟨count, room⟩
    · subst here
      simp
    · have different : i.val ≠ count := fun same => here (Fin.ext same)
      have before : i.val < count + 1 ↔ i.val < count := by omega
      simp only [Function.update_of_ne here, before]

/-- An array with a string's bytes and a zero behind them holds that string. -/
theorem string_eq {array : CharArray n} {src : CString} (fits : src.bytes.length < n)
    (same : ∀ i : Fin n, i.val ≤ src.bytes.length → array i = src.bytes.getD i.val 0) : array.string = some src := by
  have nonzero : ∀ byte ∈ src.bytes, decide (byte ≠ 0) = true := fun byte member => decide_eq_true (src.nonzero byte member)
  have whole : List.ofFn array = src.bytes ++ 0 :: (List.ofFn array).drop (src.bytes.length + 1) := by
    apply List.ext_getElem?
    intro i
    rcases Nat.lt_trichotomy i src.bytes.length with before | rfl | after
    · rw [List.getElem?_append_left before, List.getElem?_ofFn, dif_pos (by omega), same ⟨i, by omega⟩ (by simp only; omega)]
      simp [List.getD, List.getElem?_eq_getElem before]
    · rw [List.getElem?_append_right (Nat.le_refl _), List.getElem?_ofFn, dif_pos fits, same ⟨_, fits⟩ (Nat.le_refl _)]
      simp
    · rw [List.getElem?_append_right (by omega), List.getElem?_cons, if_neg (by omega), List.getElem?_drop]
      congr 1
      omega
  have bytes : (List.ofFn array).takeWhile (· ≠ 0) = src.bytes := by
    rw [whole, List.takeWhile_append_of_pos nonzero, List.takeWhile_cons_of_neg (by simp), List.append_nil]
  simp only [string, bytes, fits, ↓reduceIte]

/-- A string that fits is there after `strcpy`. -/
theorem string_of_strcpy {array after : CharArray n} {src : CString} (stored : array.store (strcpy src) = some after) :
    after.string = some src := by
  have fits : src.bytes.length < n := index_lt_of_store stored (terminator_mem_strcpy src)
  rw [strcpy, store_copyStores array src (Nat.succ_le_of_lt fits)] at stored
  cases stored
  refine string_eq fits ?_
  intro i below
  rw [if_pos (by omega)]

theorem store_strcpy (array : CharArray n) {src : CString} (fits : src.bytes.length < n) :
    ∃ after, array.store (strcpy src) = some after ∧ after.string = some src := by
  have stored := store_copyStores array src (Nat.succ_le_of_lt fits)
  exact ⟨_, stored, string_of_strcpy stored⟩

/-- `strncpy` over the whole array and a zero at its end leave the string, cut to fit. -/
theorem store_strncpy (array : CharArray n) (positive : 0 < n) (src : CString) :
    ∃ after, array.store (strncpy src n ++ [(n - 1, 0)]) = some after ∧ after.string = some (src.take (n - 1)) := by
  have last : n - 1 < n := by omega
  rw [store_append, strncpy, store_copyStores array src (Nat.le_refl _), Option.bind_some]
  simp only [store, last, ↓reduceDIte]
  refine ⟨_, rfl, string_eq ?_ ?_⟩
  · simp only [CString.take, List.length_take]
    omega
  · intro i below
    simp only [CString.take, List.length_take] at below
    by_cases here : i = ⟨n - 1, last⟩
    · subst here
      rw [Function.update_self]
      simp [CString.take]
    · have different : i.val ≠ n - 1 := fun same => here (Fin.ext same)
      have inside := i.isLt
      rw [Function.update_of_ne here, if_pos inside]
      simp only [CString.take, List.getD]
      rw [List.getElem?_take_of_lt (by omega)]

end CharArray

end BdevUbi.Library
