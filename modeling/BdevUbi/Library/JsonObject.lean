import Mathlib.Tactic.Common

/-! JSON objects and the tables that decode them.

A table has one decoder for each field; a field that is not optional must be there, and
an optional one that is absent leaves what the output holds already. A name that the table
does not know, and a name that comes twice, are errors.
-/

set_option autoImplicit false

namespace BdevUbi.Library

inductive Json where
  | string (text : String)
  | bool (value : Bool)
  | number (value : Nat)
  | object (fields : List (String × Json))

/-- The member of an object; the first one of that name. -/
def Json.member (name : String) : Json → Option Json
  | .object fields => (fields.find? fun field => field.1 = name).map Prod.snd
  | _ => none

variable {Output : Type}

structure Decoder (Output : Type) where
  name : String
  decode : Json → Output → Option Output
  optional : Bool

def decodeField (decoders : List (Decoder Output)) (output : Output) (field : String × Json) : Option Output :=
  (decoders.find? fun decoder => decoder.name = field.1).bind fun decoder => decoder.decode field.2 output

def decodeObject (decoders : List (Decoder Output)) (output : Output) : Json → Option Output
  | .object fields =>
    if (fields.map Prod.fst).Nodup ∧ ∀ decoder ∈ decoders, decoder.optional = true ∨ decoder.name ∈ fields.map Prod.fst then
      fields.foldlM (decodeField decoders) output
    else none
  | _ => none

section
variable {decoders : List (Decoder Output)} {fields : List (String × Json)} {output output' : Output}

theorem decodeObject_missing {decoder : Decoder Output} (member : decoder ∈ decoders) (required : decoder.optional = false)
    (absent : decoder.name ∉ fields.map Prod.fst) : decodeObject decoders output (.object fields) = none := by
  refine if_neg fun complete => ?_
  cases complete.2 decoder member with
  | inl optional => cases required.symm.trans optional
  | inr present => exact absent present

theorem decodeField_some {field : String × Json} (decoded : decodeField decoders output field = some output') :
    ∃ decoder ∈ decoders, decoder.name = field.1 ∧ decoder.decode field.2 output = some output' := by
  obtain ⟨decoder, found, stored⟩ := Option.bind_eq_some_iff.mp decoded
  exact ⟨decoder, List.mem_of_find?_eq_some found, by simpa using List.find?_some found, stored⟩

/-- A part of the output that only the decoder of an absent field would change keeps its
value. -/
theorem decodeObject_absent {Part : Type} {part : Output → Part} {name : String}
    (others : ∀ decoder ∈ decoders, decoder.name ≠ name →
      ∀ json output output', decoder.decode json output = some output' → part output' = part output)
    (absent : name ∉ fields.map Prod.fst) (decoded : decodeObject decoders output (.object fields) = some output') :
    part output' = part output := by
  simp only [decodeObject] at decoded
  split at decoded
  · rename_i complete
    clear complete
    induction fields generalizing output with
    | nil =>
      cases decoded
      rfl
    | cons field rest ih =>
      rw [List.foldlM_cons] at decoded
      obtain ⟨middle, first, later⟩ := Option.bind_eq_some_iff.mp decoded
      obtain ⟨decoder, member, same, stored⟩ := decodeField_some first
      have different : decoder.name ≠ name := fun equal => absent (by simp [← same, equal])
      have kept := others decoder member different _ _ _ stored
      exact (ih (fun present => absent (by simp at present ⊢; exact .inr present)) later).trans kept
  · cases decoded

end

end BdevUbi.Library
