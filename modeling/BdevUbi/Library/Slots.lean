import Mathlib.Algebra.BigOperators.Group.Finset.Piecewise
import Mathlib.Algebra.Order.BigOperators.Group.Finset
import Mathlib.Tactic.Common

/-! A table of slots that are empty or hold an entry, and the weight of all its entries.

The slots in use are the first `n`; what the others hold does not count.
-/

set_option autoImplicit false

namespace BdevUbi.Library

variable {Entry : Type}

/-- The weights of the entries, added up. -/
def load (n : Nat) (weight : Entry → Nat) (slots : Nat → Option Entry) : Nat :=
  ∑ i ∈ Finset.range n, (slots i).elim 0 weight

/-- The number of slots that hold an entry. -/
def busy (n : Nat) (slots : Nat → Option Entry) : Nat := load n (fun _ => 1) slots

section
variable {n i : Nat}

/-- A change of one slot changes its own weight and no other. -/
theorem load_update (inside : i < n) (weight : Entry → Nat) (slots : Nat → Option Entry) (entry : Option Entry) :
    load n weight (Function.update slots i entry) + (slots i).elim 0 weight =
      load n weight slots + entry.elim 0 weight := by
  have member : i ∈ Finset.range n := Finset.mem_range.mpr inside
  have others : ∑ j ∈ (Finset.range n).erase i, (Function.update slots i entry j).elim 0 weight =
      ∑ j ∈ (Finset.range n).erase i, (slots j).elim 0 weight := by
    apply Finset.sum_congr rfl
    intro j inErase
    rw [Function.update_of_ne (Finset.ne_of_mem_erase inErase)]
  unfold load
  rw [← Finset.add_sum_erase _ (fun j => (Function.update slots i entry j).elim 0 weight) member,
    ← Finset.add_sum_erase _ (fun j => (slots j).elim 0 weight) member, others, Function.update_self]
  omega

theorem load_empty (weight : Entry → Nat) : load n weight (fun _ => none) = 0 := Finset.sum_eq_zero fun _ _ => rfl

/-- An entry weighs no more than the table. -/
theorem weight_le_load (inside : i < n) (weight : Entry → Nat) {slots : Nat → Option Entry} {entry : Entry} (held : slots i = some entry) :
    weight entry ≤ load n weight slots := by
  have member : i ∈ Finset.range n := Finset.mem_range.mpr inside
  have single := Finset.single_le_sum (f := fun j => (slots j).elim 0 weight) (fun _ _ => Nat.zero_le _) member
  simp only [held, Option.elim_some] at single
  exact single

/-- A slot that was empty is taken. -/
theorem busy_take (inside : i < n) {slots : Nat → Option Entry} (free : slots i = none) (entry : Entry) :
    busy n (Function.update slots i (some entry)) = busy n slots + 1 := by
  have changed := load_update inside (fun _ => 1) slots (some entry)
  rw [free] at changed
  exact changed

/-- A slot that held an entry is given back. -/
theorem busy_release (inside : i < n) {slots : Nat → Option Entry} {entry : Entry} (held : slots i = some entry) :
    busy n (Function.update slots i none) + 1 = busy n slots := by
  have changed := load_update inside (fun _ => 1) slots none
  rw [held] at changed
  exact changed

theorem busy_replace (inside : i < n) {slots : Nat → Option Entry} {entry : Entry} (held : slots i = some entry) (next : Entry) :
    busy n (Function.update slots i (some next)) = busy n slots := by
  have changed := load_update inside (fun _ => 1) slots (some next)
  rw [held] at changed
  exact Nat.add_right_cancel changed

theorem busy_update_le (inside : i < n) (slots : Nat → Option Entry) (entry : Option Entry) :
    busy n (Function.update slots i entry) ≤ busy n slots + 1 := by
  have changed := load_update inside (fun _ => 1) slots entry
  have one : entry.elim 0 (fun _ => 1) ≤ 1 := by
    cases entry with
    | none => exact Nat.zero_le _
    | some entry => exact Nat.le_refl _
  unfold busy
  omega

theorem busy_eq_zero_iff {slots : Nat → Option Entry} : busy n slots = 0 ↔ ∀ i, i < n → slots i = none := by
  constructor
  · intro idle i inside
    cases held : slots i with
    | none => rfl
    | some entry =>
      have one : 1 ≤ busy n slots := weight_le_load inside (fun _ => 1) held
      omega
  · intro empty
    unfold busy load
    apply Finset.sum_eq_zero
    intro i member
    rw [empty i (Finset.mem_range.mp member)]
    rfl

end

end BdevUbi.Library
