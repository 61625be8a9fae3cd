import Mathlib.Data.List.Basic
import Mathlib.Tactic.Common

/-! Stores made of layers, values that are overwritten in part, and the log of what
was written.

A layer has a value for some keys only; the layers of a store are listed with the
newest first, and a key has the value of the first layer that knows it.
-/

set_option autoImplicit false

namespace BdevUbi.Library

section
variable {K V : Type}

def lookup (layers : List (K → Option V)) (k : K) : Option V := layers.findSome? fun layer => layer k

theorem lookup_cons (layer : K → Option V) (layers : List (K → Option V)) (k : K) :
    lookup (layer :: layers) k = (layer k).or (lookup layers k) := by
  simp only [lookup, List.findSome?_cons]
  cases layer k <;> rfl

/-- An empty layer on top hides nothing. -/
theorem lookup_empty (layers : List (K → Option V)) : lookup ((fun _ => none) :: layers) = lookup layers := by
  funext k
  rw [lookup_cons, Option.none_or]

theorem lookup_update [DecidableEq K] (layer : K → Option V) (layers : List (K → Option V)) (k : K) (v : V) (other : K) :
    lookup (Function.update layer k (some v) :: layers) other =
      if other = k then some v else lookup (layer :: layers) other := by
  rw [lookup_cons, lookup_cons]
  by_cases same : other = k
  · subst same
    rw [Function.update_self, if_pos rfl, Option.some_or]
  · rw [Function.update_of_ne same, if_neg same]

/-! ## Overwriting in part -/

/-- The values at `off` and after it are replaced, the others stay. -/
def patch (old : Nat → V) (off : Nat) (values : List V) (j : Nat) : V :=
  if off ≤ j then values[j - off]?.getD (old j) else old j

theorem some_patch (old : Nat → V) (off : Nat) (values : List V) (j : Nat) :
    some (patch old off values j) =
      if off ≤ j ∧ j < off + values.length then values[j - off]? else some (old j) := by
  unfold patch
  by_cases after : off ≤ j
  · rw [if_pos after]
    by_cases below : j < off + values.length
    · rw [if_pos ⟨after, below⟩, List.getElem?_eq_getElem (by omega), Option.getD_some]
    · rw [if_neg (fun both => below both.2), List.getElem?_eq_none (by omega), Option.getD_none]
  · rw [if_neg after, if_neg (fun both => after both.1)]

/-- A range of values is replaced by the first ones of another store. -/
def blit (dst : Nat → V) (pos count : Nat) (src : Nat → V) (i : Nat) : V :=
  if pos ≤ i ∧ i < pos + count then src (i - pos) else dst i

theorem blit_inside {dst src : Nat → V} {pos count i : Nat} (after : pos ≤ i) (before : i < pos + count) :
    blit dst pos count src i = src (i - pos) := if_pos ⟨after, before⟩

theorem blit_outside {dst src : Nat → V} {pos count i : Nat} (outside : i < pos ∨ pos + count ≤ i) :
    blit dst pos count src i = dst i := if_neg (by omega)

/-- The value an entry of a log has for an address, if it covers it. -/
def entryAt (entry : Nat × List V) (address : Nat) : Option V :=
  if entry.1 ≤ address then entry.2[address - entry.1]? else none

/-- The last value written to an address, in a log that has the oldest entry first. -/
def lastWritten (log : List (Nat × List V)) (address : Nat) : Option V :=
  log.reverse.findSome? fun entry => entryAt entry address

theorem lastWritten_snoc (log : List (Nat × List V)) (entry : Nat × List V) (address : Nat) :
    lastWritten (log ++ [entry]) address = (entryAt entry address).or (lastWritten log address) := by
  simp only [lastWritten, List.reverse_append, List.reverse_singleton, List.singleton_append, List.findSome?_cons]
  cases entryAt entry address <;> rfl

/-- The last entry counts for the range it covers, and for no other address. -/
theorem lastWritten_range (log : List (Nat × List V)) (start : Nat) (values : List V) (address : Nat) :
    lastWritten (log ++ [(start, values)]) address =
      if start ≤ address ∧ address < start + values.length then values[address - start]? else lastWritten log address := by
  rw [lastWritten_snoc]
  simp only [entryAt]
  by_cases after : start ≤ address
  · rw [if_pos after]
    by_cases below : address < start + values.length
    · rw [if_pos ⟨after, below⟩, List.getElem?_eq_getElem (by omega), Option.some_or]
    · rw [if_neg (fun both => below both.2), List.getElem?_eq_none (by omega), Option.none_or]
  · rw [if_neg after, if_neg (fun both => after both.1), Option.none_or]

end

end BdevUbi.Library
