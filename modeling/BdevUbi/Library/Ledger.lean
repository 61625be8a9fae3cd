import Mathlib.Data.Finset.Basic

/-! A ledger of handles: what is held, and what was given back without being held.
-/

set_option autoImplicit false

namespace BdevUbi.Library

structure Ledger (α : Type) where
  held : Finset α
  strays : Finset α
  deriving DecidableEq

namespace Ledger

/-- Nothing is held, and nothing was given back that was not held. -/
def empty {α : Type} : Ledger α := ⟨∅, ∅⟩

variable {α : Type} [DecidableEq α]

def take (l : Ledger α) (a : α) : Ledger α := { l with held := insert a l.held }

def give (l : Ledger α) (a : α) : Ledger α :=
  if a ∈ l.held then { l with held := l.held.erase a } else { l with strays := insert a l.strays }

section
variable {l : Ledger α} {a : α}

theorem give_of_mem (present : a ∈ l.held) : l.give a = ⟨l.held.erase a, l.strays⟩ := if_pos present

/-- A stray is not forgotten. -/
theorem strays_subset_give : l.strays ⊆ (l.give a).strays := by
  unfold give
  split
  · exact Finset.Subset.refl _
  · exact Finset.subset_insert a l.strays

theorem stray_of_notMem (absent : a ∉ l.held) : a ∈ (l.give a).strays := by
  unfold give
  rw [if_neg absent]
  exact Finset.mem_insert_self a l.strays

/-- Where nothing is held, whatever is given back is a stray. -/
theorem strays_give_of_empty (gone : l.held = ∅) : (l.give a).strays.Nonempty := by
  refine ⟨a, stray_of_notMem ?_⟩
  rw [gone]
  exact Finset.notMem_empty a

end

end Ledger

end BdevUbi.Library
