import Mathlib.Data.Nat.Bitwise
import BdevUbi.Library.CString

/-! The flags of the files of a copy.

`strsep` leaves a zero in place of every comma that it comes to, so a second look at the same
flags ends with the first of them. `dd_run` looks twice when it sets up its ring.
-/

set_option autoImplicit false

namespace BdevUbi.Dd
open BdevUbi.Library

def einval : Int := 22

/-- The bytes of a literal, without its terminator. -/
def literal (text : String) : List UInt8 := text.toList.map fun char => UInt8.ofNat char.toNat

/-! The values of the flags are those of x86-64. -/

def oAppend : Nat := 0x400

def oDirect : Nat := 0x4000

def oDirectory : Nat := 0x10000

def gFlags : List (List UInt8 × Nat) :=
  [(literal "append", oAppend), (literal "direct", oDirect), (literal "directory", oDirectory), (literal "dsync", 0x1000),
    (literal "noatime", 0x40000), (literal "noctty", 0x100), (literal "nofollow", 0x20000), (literal "nonblock", 0x800),
    (literal "sync", 0x101000)]

def flagOf (token : List UInt8) : Option Nat := (gFlags.find? fun flag => flag.1 = token).map Prod.snd

def comma : UInt8 := 44

/-- The loop of `parse_flags`, byte by byte: at a comma and at the end `strsep` has a token, and a
comma becomes a zero. An unknown token ends the loop. With the flags come the bytes as they are left. -/
def parseFrom (token : List UInt8) (flags : Nat) : List UInt8 → Option Nat × List UInt8
  | [] => ((flagOf token).map (flags ||| ·), [])
  | byte :: rest =>
    if byte = comma then
      match flagOf token with
      | none => (none, 0 :: rest)
      | some flag =>
        let parsed := parseFrom [] (flags ||| flag) rest
        (parsed.1, 0 :: parsed.2)
    else
      let parsed := parseFrom (token ++ [byte]) flags rest
      (parsed.1, byte :: parsed.2)

structure ParsedFlags where
  flags : Nat
  -- the calls of `dd_exit`
  exits : List Int
  -- what a reader finds at the same place now
  after : CString
  deriving DecidableEq, Repr

def parseFlags (fileFlags : CString) : ParsedFlags :=
  let parsed := parseFrom [] 0 fileFlags.bytes
  { flags := parsed.1.getD 0
    exits := if parsed.1 = none then [-einval] else []
    after := ⟨parsed.2.takeWhile (· ≠ 0), fun byte member => by simpa using List.mem_takeWhile_imp member⟩ }

/-- The flags of a file that were parsed before, as the set up of the ring sees them; NULL has none. -/
def parseAgain (fileFlags : Option CString) : Nat :=
  match fileFlags with
  | none => 0
  | some fileFlags => (parseFlags (parseFlags fileFlags).after).flags

/-- Whether the ring is set up with `IORING_SETUP_IOPOLL` in place of `IORING_SETUP_SQPOLL`; the last two are `dd_is_blk`
of the files. -/
def ddIopoll (inputFileFlags outputFileFlags : Option CString) (inputBlk outputBlk : Bool) : Bool :=
  parseAgain inputFileFlags &&& parseAgain outputFileFlags &&& oDirect != 0 && inputBlk && outputBlk

/-! ## The second look -/

/-- The first of the flags. -/
def firstToken (fileFlags : CString) : List UInt8 := fileFlags.bytes.takeWhile (· ≠ comma)

/-- What is left to read ends where the first comma was. -/
theorem parseFrom_after {bytes : List UInt8} (nonzero : ∀ byte ∈ bytes, byte ≠ 0) (token : List UInt8) (flags : Nat) :
    (parseFrom token flags bytes).2.takeWhile (· ≠ 0) = bytes.takeWhile (· ≠ comma) := by
  induction bytes generalizing token flags with
  | nil => rfl
  | cons byte rest ih =>
    have here : byte ≠ 0 := nonzero byte List.mem_cons_self
    have later := ih fun byte member => nonzero byte (List.mem_cons_of_mem _ member)
    by_cases separator : byte = comma
    · have ends : ((parseFrom token flags (byte :: rest)).2).takeWhile (· ≠ 0) = [] := by
        simp only [parseFrom, separator, ↓reduceIte]
        split <;> rfl
      rw [ends, List.takeWhile_cons_of_neg (by simp [separator])]
    · simp only [parseFrom, separator, ↓reduceIte]
      rw [List.takeWhile_cons_of_pos (by simp [here]), List.takeWhile_cons_of_pos (by simp [separator]), later]

theorem parseFrom_single {bytes : List UInt8} (single : comma ∉ bytes) (token : List UInt8) (flags : Nat) :
    (parseFrom token flags bytes).1 = (flagOf (token ++ bytes)).map (flags ||| ·) := by
  induction bytes generalizing token with
  | nil =>
    rw [List.append_nil]
    rfl
  | cons byte rest ih =>
    have other : byte ≠ comma := fun same => single (same ▸ List.mem_cons_self)
    have later := ih (fun member => single (List.mem_cons_of_mem _ member)) (token ++ [byte])
    simp only [parseFrom, other, ↓reduceIte]
    rw [later, List.append_assoc, List.singleton_append]

/-- The first flag of known ones is known. -/
theorem flagOf_first {bytes token : List UInt8} {flags : Nat} (known : (parseFrom token flags bytes).1 ≠ none) :
    flagOf (token ++ bytes.takeWhile (· ≠ comma)) ≠ none := by
  induction bytes generalizing token with
  | nil =>
    intro unknown
    rw [List.takeWhile_nil, List.append_nil] at unknown
    exact known (by rw [parseFrom, unknown]; rfl)
  | cons byte rest ih =>
    by_cases separator : byte = comma
    · rw [List.takeWhile_cons_of_neg (by simp [separator]), List.append_nil]
      intro unknown
      refine known ?_
      simp only [parseFrom, separator, ↓reduceIte, unknown]
    · have next : flagOf ((token ++ [byte]) ++ rest.takeWhile (· ≠ comma)) ≠ none :=
        ih (by simpa only [parseFrom, separator, ↓reduceIte] using known)
      rw [List.takeWhile_cons_of_pos (by simp [separator])]
      rwa [List.append_assoc, List.singleton_append] at next

/-- The second call finds the first token alone. -/
theorem parseFrom_again (fileFlags : CString) :
    (parseFrom [] 0 (parseFlags fileFlags).after.bytes).1 = (flagOf (firstToken fileFlags)).map (0 ||| ·) := by
  have left : (parseFlags fileFlags).after.bytes = firstToken fileFlags := parseFrom_after fileFlags.nonzero [] 0
  have single : comma ∉ firstToken fileFlags := fun member => by simpa using List.mem_takeWhile_imp member
  rw [left, parseFrom_single single, List.nil_append]

theorem parseAgain_eq (fileFlags : CString) : parseAgain (some fileFlags) = (flagOf (firstToken fileFlags)).getD 0 := by
  have again : parseAgain (some fileFlags) = (parseFrom [] 0 (parseFlags fileFlags).after.bytes).1.getD 0 := rfl
  rw [again, parseFrom_again]
  cases flagOf (firstToken fileFlags) with
  | none => rfl
  | some flag => exact Nat.zero_or flag

theorem oDirect_iff (flags : Nat) : flags &&& oDirect ≠ 0 ↔ flags.testBit 14 = true := by
  have bit : flags &&& oDirect = (flags.testBit 14).toNat * 2 ^ 14 := Nat.and_two_pow flags 14
  rw [bit]
  cases flags.testBit 14 with
  | false => decide
  | true => decide

/-- One flag stands for direct I/O, and no other has its bit. -/
theorem direct_iff (token : List UInt8) : ((flagOf token).getD 0).testBit 14 = true ↔ token = literal "direct" := by
  have only : ∀ flag ∈ gFlags, flag.2.testBit 14 = true → flag.1 = literal "direct" := by decide
  constructor
  · intro direct
    cases found : gFlags.find? fun flag => flag.1 = token with
    | none =>
      rw [flagOf, found] at direct
      cases direct
    | some flag =>
      rw [flagOf, found] at direct
      have same : flag.1 = token := by simpa using List.find?_some found
      rw [← same]
      exact only flag (List.mem_of_find?_eq_some found) direct
  · rintro rfl
    decide

/-- The ring polls for the completions of a copy between two block devices if and only if direct I/O is the first
flag of both: after another flag it goes unnoticed. -/
theorem iopoll_iff (inputFileFlags outputFileFlags : Option CString) (inputBlk outputBlk : Bool) :
    ddIopoll inputFileFlags outputFileFlags inputBlk outputBlk = true ↔
      inputBlk = true ∧ outputBlk = true ∧
        ∃ input output, inputFileFlags = some input ∧ outputFileFlags = some output ∧
          firstToken input = literal "direct" ∧ firstToken output = literal "direct" := by
  have bit (flags : Option CString) : (parseAgain flags).testBit 14 = true ↔
      ∃ fileFlags, flags = some fileFlags ∧ firstToken fileFlags = literal "direct" := by
    cases flags with
    | none =>
      constructor
      · intro direct
        cases direct
      · rintro ⟨_, absent, _⟩
        cases absent
    | some fileFlags =>
      rw [parseAgain_eq, direct_iff]
      constructor
      · exact fun first => ⟨fileFlags, rfl, first⟩
      · rintro ⟨_, same, first⟩
        cases same
        exact first
  have both : ddIopoll inputFileFlags outputFileFlags inputBlk outputBlk = true ↔
      ((parseAgain inputFileFlags).testBit 14 = true ∧ (parseAgain outputFileFlags).testBit 14 = true) ∧
        inputBlk = true ∧ outputBlk = true := by
    have common := oDirect_iff (parseAgain inputFileFlags &&& parseAgain outputFileFlags)
    rw [Nat.testBit_and, Bool.and_eq_true] at common
    rw [← common]
    simp only [ddIopoll, Bool.and_eq_true, bne_iff_ne, and_assoc]
  rw [both, bit, bit]
  constructor
  · rintro ⟨⟨⟨input, hasInput, first⟩, output, hasOutput, second⟩, inputBlock, outputBlock⟩
    exact ⟨inputBlock, outputBlock, input, output, hasInput, hasOutput, first, second⟩
  · rintro ⟨inputBlock, outputBlock, input, output, hasInput, hasOutput, first, second⟩
    exact ⟨⟨⟨input, hasInput, first⟩, output, hasOutput, second⟩, inputBlock, outputBlock⟩

/-- The order of the flags decides. -/
example :
    ddIopoll (some ⟨literal "direct,sync", by simp [literal]⟩) (some ⟨literal "direct", by simp [literal]⟩) true true = true ∧
    ddIopoll (some ⟨literal "sync,direct", by simp [literal]⟩) (some ⟨literal "direct", by simp [literal]⟩) true true = false := by
  decide

end BdevUbi.Dd
