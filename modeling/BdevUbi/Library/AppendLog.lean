import Mathlib.Tactic.Common

/-! An append-only log of keys and the place of each key's last entry.

An entry that is superseded stays where it is. Entries of one size behind one another are
regions of a file, and no two of these meet.
-/

set_option autoImplicit false

namespace BdevUbi.Library

section
variable {Key : Type} [DecidableEq Key]

/-- The place of the key's last entry, in a log that has the oldest entry first. -/
def lastPlace : List Key → Key → Option Nat
  | [], _ => none
  | entry :: rest, key =>
    match lastPlace rest key with
    | some place => some (place + 1)
    | none => if entry = key then some 0 else none

theorem lastPlace_snoc (log : List Key) (entry key : Key) :
    lastPlace (log ++ [entry]) key = if entry = key then some log.length else lastPlace log key := by
  induction log with
  | nil => rfl
  | cons first rest ih =>
    simp only [List.cons_append, lastPlace, ih, List.length_cons]
    by_cases same : entry = key
    · simp only [same, ↓reduceIte]
    · simp only [same, ↓reduceIte]

/-- At its last place stands the key itself. -/
theorem getElem?_lastPlace {log : List Key} {key : Key} {place : Nat} (found : lastPlace log key = some place) :
    log[place]? = some key := by
  induction log generalizing place with
  | nil => cases found
  | cons first rest ih =>
    simp only [lastPlace] at found
    split at found
    · rename_i before later
      cases found
      exact ih later
    · split at found
      · rename_i same
        cases found
        exact congrArg some same
      · cases found

theorem lastPlace_lt {log : List Key} {key : Key} {place : Nat} (found : lastPlace log key = some place) :
    place < log.length :=
  (List.getElem?_eq_some_iff.mp (getElem?_lastPlace found)).1

/-- Different keys have different last places. -/
theorem lastPlace_inj {log : List Key} {first second : Key} {place : Nat} (left : lastPlace log first = some place)
    (right : lastPlace log second = some place) : first = second :=
  Option.some.inj ((getElem?_lastPlace left).symm.trans (getElem?_lastPlace right))

theorem lastPlace_eq_none_iff {log : List Key} {key : Key} : lastPlace log key = none ↔ key ∉ log := by
  induction log with
  | nil => simp [lastPlace]
  | cons first rest ih =>
    simp only [lastPlace, List.mem_cons, not_or, ← ih]
    cases lastPlace rest key with
    | some place => simp
    | none => simp [eq_comm]

end

/-- Regions of one size at different places do not meet. -/
theorem regions_apart (base size : Nat) {first second : Nat} (different : first ≠ second) :
    base + first * size + size ≤ base + second * size ∨ base + second * size + size ≤ base + first * size := by
  have behind {j k : Nat} (below : j < k) : base + j * size + size ≤ base + k * size := by
    have room := Nat.mul_le_mul_right size (Nat.succ_le_of_lt below)
    rw [Nat.succ_mul] at room
    omega
  rcases Nat.lt_or_gt_of_ne different with before | after
  · exact Or.inl (behind before)
  · exact Or.inr (behind after)

end BdevUbi.Library
