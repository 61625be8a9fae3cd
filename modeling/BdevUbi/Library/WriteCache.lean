import Mathlib.Tactic.Common

/-! A store that acknowledges writes before they are persistent.

The store is the list of the writes it has acknowledged, oldest first. Any of them may be
persisted at any time, in any order, and a crash loses the others. What a reader finds at
an address is the last write to it that is left.
-/

set_option autoImplicit false

namespace BdevUbi.Library

structure CachedWrite (Address Value : Type) where
  address : Address
  value : Value
  persisted : Bool
  deriving DecidableEq, Repr

abbrev WriteCache (Address Value : Type) := List (CachedWrite Address Value)

namespace WriteCache

variable {Address Value : Type}

def acknowledge (log : WriteCache Address Value) (address : Address) (value : Value) : WriteCache Address Value :=
  log ++ [⟨address, value, false⟩]

def persist (log : WriteCache Address Value) (position : Nat) : WriteCache Address Value :=
  log.modify position fun write => { write with persisted := true }

def crash (log : WriteCache Address Value) : WriteCache Address Value := log.filter fun write => write.persisted

/-- What was written to the address, oldest first. -/
def values [DecidableEq Address] (log : WriteCache Address Value) (address : Address) : List Value :=
  log.filterMap fun write => if write.address = address then some write.value else none

def read [DecidableEq Address] (log : WriteCache Address Value) (address : Address) : Option Value :=
  (log.values address).getLast?

/-- The write to the address at the position is persisted, or one that came after it. -/
def Persisted (log : WriteCache Address Value) (position : Nat) (address : Address) : Prop :=
  ∃ write ∈ log.drop position, write.address = address ∧ write.persisted = true

section
variable {log : WriteCache Address Value} {position : Nat} {address : Address}

theorem Persisted.acknowledge (persisted : log.Persisted position address) (other : Address) (value : Value) :
    (log.acknowledge other value).Persisted position address := by
  obtain ⟨write, member, same, kept⟩ := persisted
  refine ⟨write, ?_, same, kept⟩
  rw [WriteCache.acknowledge, List.drop_append]
  exact List.mem_append_left _ member

theorem Persisted.persist (persisted : log.Persisted position address) (other : Nat) :
    (log.persist other).Persisted position address := by
  obtain ⟨write, member, same, kept⟩ := persisted
  obtain ⟨i, found⟩ := List.mem_iff_getElem?.mp member
  rw [List.getElem?_drop] at found
  -- the entry is still where it was, and as it was or persisted once more
  refine ⟨{ write with persisted := true }, ?_, same, rfl⟩
  apply List.mem_of_getElem? (i := i)
  rw [List.getElem?_drop, WriteCache.persist, List.getElem?_modify, found]
  by_cases here : other = position + i
  · simp [here]
  · simp [here, ← kept]

variable [DecidableEq Address]

theorem values_append (first second : WriteCache Address Value) :
    WriteCache.values (first ++ second) address = first.values address ++ second.values address :=
  List.filterMap_append

theorem values_crash_subset : log.crash.values address ⊆ log.values address := by
  intro value member
  obtain ⟨write, left, same⟩ := List.mem_filterMap.mp member
  exact List.mem_filterMap.mpr ⟨write, (List.mem_filter.mp left).1, same⟩

/-- After a crash a persisted write is found, or one to the same address that came after it. -/
theorem read_crash (persisted : log.Persisted position address) :
    ∃ value ∈ WriteCache.values (log.drop position) address, log.crash.read address = some value := by
  obtain ⟨write, member, same, kept⟩ := persisted
  have left : write ∈ WriteCache.crash (log.drop position) := List.mem_filter.mpr ⟨member, kept⟩
  have shown : write.value ∈ (WriteCache.crash (log.drop position)).values address :=
    List.mem_filterMap.mpr ⟨write, left, if_pos same⟩
  have split : log.crash = WriteCache.crash (log.take position) ++ WriteCache.crash (log.drop position) := by
    rw [WriteCache.crash, WriteCache.crash, WriteCache.crash, ← List.filter_append, List.take_append_drop]
  have some : ∃ value, (WriteCache.crash (log.drop position)).read address = some value :=
    ⟨_, List.getLast?_eq_some_getLast (List.ne_nil_of_mem shown)⟩
  obtain ⟨value, last⟩ := some
  refine ⟨value, values_crash_subset (List.mem_of_getLast? last), ?_⟩
  rw [WriteCache.read] at last ⊢
  rw [split, values_append, List.getLast?_append, last, Option.some_or]

end

end WriteCache

end BdevUbi.Library
