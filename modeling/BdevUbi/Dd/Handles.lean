import Mathlib.Data.Fintype.EquivFin
import BdevUbi.Library.Ledger
import BdevUbi.Dd.Launch

/-! The handles of the targets of `spdk_dd`: the file descriptors, bdev descriptors and channels that
`dd_run` opens and every call of `dd_exit` closes. `g_job` starts as zeros, so that a target that was not
opened yet is a file with the descriptor 0 for `dd_exit`; and `dd_exit` leaves the handles in `g_job` as they
were. The descriptor of the ring is none of them: `dd_exit` leaves it to `dd_free`.
-/

set_option autoImplicit false

namespace BdevUbi.Dd
open BdevUbi.Library

/-! ## Model -/

inductive Side where
  | input
  | output
  deriving DecidableEq, Repr

inductive Handle where
  | file (fd : Nat)
  | desc (side : Side)
  | channel (side : Side)
  deriving DecidableEq, Repr

/-- `type`, `u` and `open` of a `dd_target`. -/
structure DdHandles where
  type : DdTargetType
  fd : Int
  ch : Bool
  opened : Bool
  deriving DecidableEq, Repr

def DdHandles.zero : DdHandles := ⟨.file, 0, false, false⟩

structure DdProcess where
  ledger : Ledger Handle
  input : DdHandles
  output : DdHandles

def DdProcess.start : DdProcess := ⟨.empty, .zero, .zero⟩

/-- `close`; -1 is no descriptor. -/
def closeFile (fd : Int) (l : Ledger Handle) : Ledger Handle := if 0 ≤ fd then l.give (.file fd.toNat) else l

def ddCleanupBdev (side : Side) (target : DdHandles) (l : Ledger Handle) : Ledger Handle :=
  (if target.ch then l.give (.channel side) else l).give (.desc side)

def DdHandles.release (side : Side) (target : DdHandles) (l : Ledger Handle) : Ledger Handle :=
  match target.type with
  | .file => closeFile target.fd l
  | .bdev => if target.opened then ddCleanupBdev side target l else l

namespace DdProcess

/-- What `dd_exit` does with the targets. -/
def exit (p : DdProcess) : DdProcess :=
  { p with ledger := p.output.release .output (p.input.release .input p.ledger) }

def target (p : DdProcess) : Side → DdHandles
  | .input => p.input
  | .output => p.output

def setTarget (p : DdProcess) (target : DdHandles) : Side → DdProcess
  | .input => { p with input := target }
  | .output => { p with output := target }

def take (p : DdProcess) (handle : Handle) : DdProcess := { p with ledger := p.ledger.take handle }

/-- `parse_flags`, which calls `dd_exit` for an unknown flag. -/
def parse (p : DdProcess) (fileFlags : Option CString) : DdProcess :=
  match fileFlags with
  | none => p
  | some fileFlags => exit^[(parseFlags fileFlags).exits.length] p

end DdProcess

section
variable (others : Finset Nat)

/-- A descriptor that is not in use; the others are those that were open before `dd_run`. -/
def Free (l : Ledger Handle) (fd : Nat) : Prop := .file fd ∉ l.held ∧ (fd ∈ others → .file fd ∈ l.strays)

instance (l : Ledger Handle) (fd : Nat) : Decidable (Free others l fd) := inferInstanceAs (Decidable (_ ∧ _))

def Handle.number : Handle → Nat
  | .file fd => fd
  | _ => 0

theorem exists_free (l : Ledger Handle) : ∃ fd, Free others l fd := by
  obtain ⟨fd, absent⟩ := Infinite.exists_notMem_finset (others ∪ l.held.image Handle.number)
  rw [Finset.notMem_union] at absent
  exact ⟨fd, fun held => absent.2 (Finset.mem_image_of_mem Handle.number held), fun other => absurd other absent.1⟩

/-- `open` takes the lowest one. -/
def lowestFree (l : Ledger Handle) : Nat := Nat.find (exists_free others l)

/-- `dd_open_file` and `dd_open_bdev`, with the flags parsed before; `succeeds` is what they return, and a bdev may have
been refused for want of a channel, with its descriptor closed again. -/
def ddOpenHandles (side : Side) (file bdev : Option String) (fileFlags : Option CString) (succeeds noChannel : Bool) (p : DdProcess) :
    DdProcess :=
  match file, bdev with
  | some _, _ =>
    let p := p.parse fileFlags
    if succeeds then
      let fd := lowestFree others p.ledger
      (p.take (.file fd)).setTarget { p.target side with type := .file, fd := fd } side
    else p.setTarget { p.target side with type := .file, fd := -1 } side
  | none, some _ =>
    if succeeds then
      ((p.take (.desc side)).take (.channel side)).setTarget { p.target side with type := .bdev, ch := true, opened := true } side
    else if noChannel then p.setTarget { p.target side with type := .bdev, ch := false, opened := true } side
    else p.setTarget { p.target side with type := .bdev } side
  | none, none => p

end

/-- The two checks of `--skip` and `--count` against an input bdev. -/
def InputFits (opts : SpdkDdOpts) (input : DdTarget) : Prop :=
  ¬ (opts.inputBdev.isSome ∧ input.totalSize < u64 (opts.inputOffset * opts.unit)) ∧
  ¬ (opts.count ≠ 0 ∧ opts.inputBdev.isSome ∧
    input.totalSize < u64 (u64 (opts.count * opts.unit) + u64 (opts.inputOffset * opts.unit)))

instance (opts : SpdkDdOpts) (input : DdTarget) : Decidable (InputFits opts input) := inferInstanceAs (Decidable (_ ∧ _))

/-- The same calls, with a ring that is set up. -/
def DdEnv.ringFine (env : DdEnv) : DdEnv := { env with queueInit := fun _ _ => 0, registerFiles := 0, registerBuffers := 0 }

/-- Where the ring is set up, the flags are parsed once more, as the first call has left them. -/
def ddRingHandles (opts : SpdkDdOpts) (env : DdEnv) (p : DdProcess) : DdProcess :=
  if opts.inputFile.isNone ∧ opts.outputFile.isNone then p
  else if env.uring = false ∨ opts.aio = true then p
  else
    (p.parse (opts.inputFileFlags.map fun flags => (parseFlags flags).after)).parse
      (opts.outputFileFlags.map fun flags => (parseFlags flags).after)

section
variable (opts : SpdkDdOpts) (env : DdEnv) (noChannel : String → Bool) (others : Finset Nat)

def ddOpenInput : Except Errno (DdTarget × Nat) :=
  ddOpen opts env opts.inputFile opts.inputBdev opts.inputFileFlags opts.inputOffset true opts.queueDepth

def ddOpenOutput (depth : Nat) : Except Errno (DdTarget × Nat) :=
  ddOpen opts env opts.outputFile opts.outputBdev opts.outputFileFlags opts.outputOffset false depth

def ddInputHandles : DdProcess :=
  ddOpenHandles others .input opts.inputFile opts.inputBdev opts.inputFileFlags (ddOpenInput opts env).isOk
    (opts.inputBdev.any noChannel) .start

def ddOutputHandles (depth : Nat) (p : DdProcess) : DdProcess :=
  ddOpenHandles others .output opts.outputFile opts.outputBdev opts.outputFileFlags (ddOpenOutput opts env depth).isOk
    (opts.outputBdev.any noChannel) p

/-- Behind the output. `dd_run` has come to the ring if only the ring can still be refused. -/
def ddRestHandles (p : DdProcess) : DdProcess :=
  let p := if (ddRun opts env.ringFine).isOk then ddRingHandles opts env p else p
  if (ddRun opts env).isOk then p else p.exit

/-- `dd_run` with its handles; which way it goes is as in `ddRun`. -/
def ddRunHandles : DdProcess :=
  let p := ddInputHandles opts env noChannel others
  match ddOpenInput opts env with
  | .error _ => p.exit
  | .ok (input, depth) =>
    if ¬ InputFits opts input then p.exit
    else ddRestHandles opts env (ddOutputHandles opts env noChannel others depth p)

end

/-! ## A stray is not forgotten -/

section
variable {l : Ledger Handle} {p : DdProcess}

theorem strays_closeFile (fd : Int) : l.strays ⊆ (closeFile fd l).strays := by
  unfold closeFile
  split
  · exact Ledger.strays_subset_give
  · exact Finset.Subset.refl _

theorem strays_release (side : Side) (target : DdHandles) : l.strays ⊆ (target.release side l).strays := by
  unfold DdHandles.release
  cases target.type with
  | file => exact strays_closeFile target.fd
  | bdev =>
    simp only
    split
    · unfold ddCleanupBdev
      split
      · exact Ledger.strays_subset_give.trans Ledger.strays_subset_give
      · exact Ledger.strays_subset_give
    · exact Finset.Subset.refl _

theorem strays_exit : p.ledger.strays ⊆ p.exit.ledger.strays :=
  (strays_release .input p.input).trans (strays_release .output p.output)

theorem strays_exits (k : Nat) : p.ledger.strays ⊆ (DdProcess.exit^[k] p).ledger.strays := by
  induction k generalizing p with
  | zero => exact Finset.Subset.refl _
  | succ k ih =>
    rw [Function.iterate_succ_apply]
    exact strays_exit.trans ih

theorem strays_parse (fileFlags : Option CString) : p.ledger.strays ⊆ (p.parse fileFlags).ledger.strays := by
  cases fileFlags with
  | none => exact Finset.Subset.refl _
  | some fileFlags => exact strays_exits _

@[simp] theorem ledger_setTarget (target : DdHandles) (side : Side) : (p.setTarget target side).ledger = p.ledger := by
  cases side <;> rfl

theorem strays_open (others : Finset Nat) (side : Side) (file bdev : Option String) (fileFlags : Option CString) (succeeds noChannel : Bool) :
    p.ledger.strays ⊆ (ddOpenHandles others side file bdev fileFlags succeeds noChannel p).ledger.strays := by
  unfold ddOpenHandles
  cases file with
  | none =>
    cases bdev with
    | none => exact Finset.Subset.refl _
    | some name =>
      simp only
      split
      · rw [ledger_setTarget]
        exact Finset.Subset.refl _
      · split
        · rw [ledger_setTarget]
        · rw [ledger_setTarget]
  | some name =>
    simp only
    split
    · rw [ledger_setTarget]
      exact strays_parse fileFlags
    · rw [ledger_setTarget]
      exact strays_parse fileFlags

theorem strays_ring (opts : SpdkDdOpts) (env : DdEnv) : p.ledger.strays ⊆ (ddRingHandles opts env p).ledger.strays := by
  unfold ddRingHandles
  split
  · exact Finset.Subset.refl _
  · split
    · exact Finset.Subset.refl _
    · exact (strays_parse _).trans (strays_parse _)

end

/-! ## Flags -/

/-- `parse_flags` knows all the flags. -/
def Known (fileFlags : Option CString) : Prop := ∀ flags, fileFlags = some flags → (parseFlags flags).exits = []

section
variable {p : DdProcess} {fileFlags : Option CString}

theorem parse_known (known : Known fileFlags) : p.parse fileFlags = p := by
  cases fileFlags with
  | none => rfl
  | some flags =>
    unfold DdProcess.parse
    simp only [known flags rfl, List.length_nil, Function.iterate_zero, id]

theorem parse_unknown (unknown : ¬ Known fileFlags) : p.parse fileFlags = p.exit := by
  cases fileFlags with
  | none => exact absurd (fun _ none => by cases none) unknown
  | some flags =>
    have failed : (parseFrom [] 0 flags.bytes).1 = none := by
      by_contra parsed
      refine unknown fun other same => ?_
      cases same
      exact if_neg parsed
    have exits : (parseFlags flags).exits = [-einval] := if_pos failed
    unfold DdProcess.parse
    simp only [exits, List.length_singleton, Function.iterate_one]

theorem known_after (known : Known fileFlags) : Known (fileFlags.map fun flags => (parseFlags flags).after) := by
  cases fileFlags with
  | none => exact fun _ none => by cases none
  | some flags =>
    intro after same
    cases same
    have parsed : (parseFrom [] 0 flags.bytes).1 ≠ none := by
      intro failed
      have exits := known flags rfl
      rw [parseFlags, if_pos failed] at exits
      cases exits
    refine if_neg ?_
    rw [parseFrom_again]
    intro failed
    exact flagOf_first parsed (Option.map_eq_none_iff.mp failed)

end

/-! ## Targets -/

/-- What a target comes to that was opened, or could not be, without a descriptor that is closed already; with it go the
handles that it has taken. -/
inductive Attempt (side : Side) (p : DdProcess) : Bool → DdHandles → Finset Handle → Prop where
  | file (fd : Nat) : .file fd ∉ p.ledger.held → Attempt side p true { p.target side with type := .file, fd := fd } {.file fd}
  | noFile : Attempt side p false { p.target side with type := .file, fd := -1 } ∅
  | bdev : Attempt side p true { p.target side with type := .bdev, ch := true, opened := true } {.channel side, .desc side}
  | noBdev : (p.target side).opened = false → Attempt side p false { p.target side with type := .bdev } ∅

section
variable {side : Side} {p : DdProcess} {l : Ledger Handle} {target : DdHandles} {own : Finset Handle} {succeeds : Bool}

theorem release_file {fd : Nat} (type : target.type = .file) (number : target.fd = fd) : target.release side l = l.give (.file fd) := by
  unfold DdHandles.release closeFile
  rw [type, number]
  simp

theorem release_bdev (type : target.type = .bdev) (ch : target.ch = true) (opened : target.opened = true) :
    target.release side l = (l.give (.channel side)).give (.desc side) := by
  unfold DdHandles.release ddCleanupBdev
  rw [type, ch, opened]
  rfl

/-- `dd_exit` gives back what the target has taken. -/
theorem Attempt.release (attempt : Attempt side p succeeds target own) (held : own ⊆ l.held) :
    target.release side l = ⟨l.held \ own, l.strays⟩ := by
  cases attempt with
  | file fd free =>
    rw [release_file rfl rfl, Ledger.give_of_mem (held (Finset.mem_singleton_self _)), Finset.sdiff_singleton_eq_erase]
  | noFile =>
    rw [Finset.sdiff_empty]
    rfl
  | bdev =>
    have channel : Handle.channel side ∈ l.held := held (Finset.mem_insert_self _ _)
    have desc : Handle.desc side ∈ l.held.erase (.channel side) :=
      Finset.mem_erase.mpr ⟨(fun same => by cases same), held (Finset.mem_insert_of_mem (Finset.mem_singleton_self _))⟩
    rw [release_bdev rfl rfl rfl, Ledger.give_of_mem channel, Ledger.give_of_mem desc, Finset.sdiff_insert,
      Finset.sdiff_singleton_eq_erase, Finset.erase_right_comm]
  | noBdev closed =>
    unfold DdHandles.release
    simp only [closed, Finset.sdiff_empty, Bool.false_eq_true, ↓reduceIte]

/-- Once more it gives back what is not held. -/
theorem Attempt.again (attempt : Attempt side p true target own) (gone : l.held = ∅) : (target.release side l).strays.Nonempty := by
  cases attempt with
  | file fd free =>
    rw [release_file rfl rfl]
    exact Ledger.strays_give_of_empty gone
  | bdev =>
    rw [release_bdev rfl rfl rfl]
    exact (Ledger.strays_give_of_empty gone).mono Ledger.strays_subset_give

/-- A target that was not opened yet makes `dd_exit` close the descriptor 0. -/
theorem zero_release (gone : l.held = ∅) : (DdHandles.zero.release side l).strays.Nonempty := by
  have closes : DdHandles.zero.release side l = l.give (.file 0) := release_file rfl rfl
  rw [closes]
  exact Ledger.strays_give_of_empty gone

/-- And one without a channel to close its descriptor again. -/
theorem noChannel_release (gone : l.held = ∅) :
    (DdHandles.release side { target with type := .bdev, ch := false, opened := true } l).strays.Nonempty := by
  change (l.give (.desc side)).strays.Nonempty
  exact Ledger.strays_give_of_empty gone

theorem Attempt.disjoint {q : DdProcess} {target' : DdHandles} {own' : Finset Handle} {succeeds' : Bool}
    (attempt : Attempt .input p succeeds target own) (attempt' : Attempt .output q succeeds' target' own') (held : q.ledger.held = own) :
    Disjoint own own' := by
  cases attempt' with
  | file fd free =>
    rw [held] at free
    exact Finset.disjoint_singleton_right.mpr free
  | noFile => exact Finset.disjoint_empty_right _
  | bdev =>
    cases attempt with
    | file fd free => simp
    | noFile => exact Finset.disjoint_empty_left _
    | bdev => simp
    | noBdev closed => exact Finset.disjoint_empty_left _
  | noBdev closed => exact Finset.disjoint_empty_right _

/-- The state of a target after it was tried. -/
def DdProcess.tried (p : DdProcess) (side : Side) (target : DdHandles) (own : Finset Handle) : DdProcess :=
  { p.setTarget target side with ledger := ⟨own ∪ p.ledger.held, p.ledger.strays⟩ }

theorem ddOpenHandles_cases (others : Finset Nat) (side : Side) (succeeds noChannel : Bool) {file bdev : Option String}
    {fileFlags : Option CString} (known : Known fileFlags) (one : OneTarget file bdev) (closed : (p.target side).opened = false) :
    (∃ target own, Attempt side p succeeds target own ∧ (succeeds = false → bdev.isSome → noChannel = false) ∧
      ddOpenHandles others side file bdev fileFlags succeeds noChannel p = p.tried side target own) ∨
    (succeeds = false ∧ bdev.isSome ∧ noChannel = true ∧
      ddOpenHandles others side file bdev fileFlags succeeds noChannel p =
        p.setTarget { p.target side with type := .bdev, ch := false, opened := true } side) := by
  rcases one with ⟨name, rfl, rfl⟩ | ⟨name, rfl, rfl⟩
  · left
    unfold ddOpenHandles
    simp only [parse_known known]
    cases succeeds with
    | true =>
      refine ⟨_, _, .file (lowestFree others p.ledger) (Nat.find_spec (exists_free others p.ledger)).1, (fun failed => by cases failed), ?_⟩
      cases side <;> rfl
    | false =>
      refine ⟨_, _, .noFile, (fun _ some => by cases some), ?_⟩
      unfold DdProcess.tried
      rw [Finset.empty_union]
      cases side <;> rfl
  · unfold ddOpenHandles
    cases succeeds with
    | true =>
      left
      refine ⟨_, _, .bdev, (fun failed => by cases failed), ?_⟩
      unfold DdProcess.tried
      rw [Finset.insert_union, Finset.singleton_union]
      cases side <;> rfl
    | false =>
      cases noChannel with
      | true =>
        right
        exact ⟨rfl, rfl, rfl, rfl⟩
      | false =>
        left
        refine ⟨_, _, .noBdev closed, (fun _ _ => rfl), ?_⟩
        unfold DdProcess.tried
        rw [Finset.empty_union]
        cases side <;> rfl

end
/-! ## Ways through `dd_run` -/

/-- No flag is unknown, the input could be opened and its checks have passed, and the output was not refused a channel. -/
structure Orderly (opts : SpdkDdOpts) (env : DdEnv) (noChannel : String → Bool) : Prop where
  inputFlags : Known opts.inputFileFlags
  outputFlags : Known opts.outputFileFlags
  input : ∃ input depth, ddOpenInput opts env = .ok (input, depth) ∧ InputFits opts input
  channel : ∀ name errno, opts.outputBdev = some name → env.openBdev name = .error errno → noChannel name = false

/-- Both targets were tried, the input with success, and nothing but their handles was touched. -/
structure DdProcess.Tried (p : DdProcess) (succeeds : Bool) : Prop where
  tried : ∃ q own own', Attempt .input .start true p.input own ∧ Attempt .output q succeeds p.output own' ∧ q.ledger.held = own ∧
    p.ledger = ⟨own' ∪ own, ∅⟩

section
variable {p : DdProcess} {succeeds : Bool}

/-- The first `dd_exit` gives back everything. -/
theorem DdProcess.Tried.exit (tried : p.Tried succeeds) : p.exit.ledger = .empty := by
  obtain ⟨q, own, own', input, output, held, ledger⟩ := tried.tried
  have apart := input.disjoint output held
  have first := input.release (l := p.ledger) (by rw [ledger]; exact Finset.subset_union_right)
  have rest : (own' ∪ own) \ own = own' := by
    rw [Finset.union_sdiff_right]
    exact Finset.sdiff_eq_self_of_disjoint apart.symm
  rw [ledger] at first
  simp only [rest] at first
  change p.output.release .output (p.input.release .input p.ledger) = .empty
  rw [ledger, first, output.release (Finset.Subset.refl _), Finset.sdiff_self]
  rfl

/-- Every other one closes what is closed already. -/
theorem DdProcess.Tried.exits (tried : p.Tried succeeds) (k : Nat) : (DdProcess.exit^[k + 2] p).ledger.strays.Nonempty := by
  obtain ⟨q, own, own', input, -⟩ := tried.tried
  rw [Function.iterate_add_apply]
  have gone : p.exit.ledger.held = ∅ := by
    rw [tried.exit]
    rfl
  have again : p.exit.exit.ledger.strays.Nonempty := (input.again gone).mono (strays_release .output p.output)
  exact again.mono (strays_exits k)

/-- If the output was not tried, the descriptor 0 is closed in its place. -/
theorem strays_exit_zero (zero : p.output = .zero) (gone : (p.input.release .input p.ledger).held = ∅) :
    p.exit.ledger.strays.Nonempty := by
  change (p.output.release .output (p.input.release .input p.ledger)).strays.Nonempty
  rw [zero]
  exact zero_release gone

theorem strays_open_unknown {others : Finset Nat} {side : Side} {name : String} {bdev : Option String} {fileFlags : Option CString}
    {noChannel : Bool} (unknown : ¬ Known fileFlags) (strays : p.exit.ledger.strays.Nonempty) :
    (ddOpenHandles others side (some name) bdev fileFlags succeeds noChannel p).ledger.strays.Nonempty := by
  unfold ddOpenHandles
  simp only [parse_unknown unknown]
  split
  · rw [ledger_setTarget]
    exact strays
  · rw [ledger_setTarget]
    exact strays

end

section
variable {opts : SpdkDdOpts} {env : DdEnv} {noChannel : String → Bool} {others : Finset Nat}

theorem ring_known (inputFlags : Known opts.inputFileFlags) (outputFlags : Known opts.outputFileFlags) (p : DdProcess) :
    ddRingHandles opts env p = p := by
  unfold ddRingHandles
  rw [parse_known (known_after inputFlags), parse_known (known_after outputFlags)]
  simp only [ite_self]

theorem strays_rest (p : DdProcess) : p.ledger.strays ⊆ (ddRestHandles opts env p).ledger.strays := by
  have ring : p.ledger.strays ⊆ (if (ddRun opts env.ringFine).isOk then ddRingHandles opts env p else p).ledger.strays := by
    split
    · exact strays_ring opts env
    · exact Finset.Subset.refl _
  unfold ddRestHandles
  simp only
  split
  · exact ring
  · exact ring.trans strays_exit

theorem rest_known (inputFlags : Known opts.inputFileFlags) (outputFlags : Known opts.outputFileFlags) (p : DdProcess) :
    ddRestHandles opts env p = if (ddRun opts env).isOk then p else p.exit := by
  unfold ddRestHandles
  rw [ring_known inputFlags outputFlags, ite_self]

theorem ddRunHandles_refused (refused : ¬ ∃ input depth, ddOpenInput opts env = .ok (input, depth) ∧ InputFits opts input) :
    ddRunHandles opts env noChannel others = (ddInputHandles opts env noChannel others).exit := by
  unfold ddRunHandles
  split
  · rfl
  · rename_i input depth opened
    exact if_pos fun fits => refused ⟨input, depth, opened, fits⟩

theorem ddRunHandles_tried {input : DdTarget} {depth : Nat} (opened : ddOpenInput opts env = .ok (input, depth)) (fits : InputFits opts input) :
    ddRunHandles opts env noChannel others =
      ddRestHandles opts env (ddOutputHandles opts env noChannel others depth (ddInputHandles opts env noChannel others)) := by
  unfold ddRunHandles
  simp only [opened]
  exact if_neg (not_not.mpr fits)

theorem strays_input : (ddInputHandles opts env noChannel others).ledger.strays ⊆ (ddRunHandles opts env noChannel others).ledger.strays := by
  by_cases stands : ∃ input depth, ddOpenInput opts env = .ok (input, depth) ∧ InputFits opts input
  · obtain ⟨input, depth, opened, fits⟩ := stands
    rw [ddRunHandles_tried opened fits]
    exact (strays_open others .output _ _ _ _ _).trans (strays_rest _)
  · rw [ddRunHandles_refused stands]
    exact strays_exit

/-- After an input that could be opened, or not. -/
theorem input_cases (accepted : opts.Accepted) (known : Known opts.inputFileFlags) :
    (∃ target own, Attempt .input .start (ddOpenInput opts env).isOk target own ∧
      ddInputHandles opts env noChannel others = DdProcess.start.tried .input target own) ∨
    ((ddOpenInput opts env).isOk = false ∧ (ddInputHandles opts env noChannel others).exit.ledger.strays.Nonempty) := by
  rcases ddOpenHandles_cases (p := .start) others .input (ddOpenInput opts env).isOk (opts.inputBdev.any noChannel) known accepted.input rfl
    with ⟨target, own, attempt, -, same⟩ | ⟨failed, -, -, same⟩
  · exact Or.inl ⟨target, own, attempt, same⟩
  · refine Or.inr ⟨failed, ?_⟩
    unfold ddInputHandles
    rw [same]
    exact (noChannel_release (l := .empty) rfl).mono (strays_release .output _)

theorem tried_release {target : DdHandles} {own : Finset Handle} {succeeds : Bool} (attempt : Attempt .input .start succeeds target own) :
    ((DdProcess.start.tried .input target own).input.release .input (DdProcess.start.tried .input target own).ledger).held = ∅ := by
  have released := attempt.release (l := (DdProcess.start.tried .input target own).ledger) Finset.subset_union_left
  change (target.release .input _).held = ∅
  rw [released]
  change (own ∪ ∅) \ own = ∅
  rw [Finset.union_empty, Finset.sdiff_self]

end
section
variable {opts : SpdkDdOpts} {env : DdEnv} {noChannel : String → Bool} {others : Finset Nat}

/-- An unknown flag of the input makes `parse_flags` call `dd_exit` before anything is open. -/
theorem strays_unknown_input (accepted : opts.Accepted) (unknown : ¬ Known opts.inputFileFlags) :
    (ddRunHandles opts env noChannel others).ledger.strays.Nonempty := by
  refine Finset.Nonempty.mono strays_input ?_
  unfold ddInputHandles
  cases file : opts.inputFile with
  | none => exact absurd (fun _ some => by rw [accepted.inputFlags file] at some; cases some) unknown
  | some name => exact strays_open_unknown unknown (strays_exit_zero rfl rfl)

/-- An input that is refused leaves the output as it was, and `dd_exit` closes the descriptor 0. -/
theorem strays_refused_input (accepted : opts.Accepted) (known : Known opts.inputFileFlags)
    (refused : ¬ ∃ input depth, ddOpenInput opts env = .ok (input, depth) ∧ InputFits opts input) :
    (ddRunHandles opts env noChannel others).ledger.strays.Nonempty := by
  rw [ddRunHandles_refused refused]
  rcases input_cases accepted known with ⟨target, own, attempt, same⟩ | ⟨-, strays⟩
  · rw [same]
    exact strays_exit_zero rfl (tried_release attempt)
  · exact strays

theorem strays_unknown_output (accepted : opts.Accepted) (known : Known opts.inputFileFlags) (unknown : ¬ Known opts.outputFileFlags)
    {input : DdTarget} {depth : Nat} (opened : ddOpenInput opts env = .ok (input, depth)) (fits : InputFits opts input) :
    (ddRunHandles opts env noChannel others).ledger.strays.Nonempty := by
  rw [ddRunHandles_tried opened fits]
  refine Finset.Nonempty.mono (strays_rest _) ?_
  rcases input_cases accepted known with ⟨target, own, attempt, same⟩ | ⟨failed, -⟩
  · unfold ddOutputHandles
    rw [same]
    cases file : opts.outputFile with
    | none => exact absurd (fun _ some => by rw [accepted.outputFlags file] at some; cases some) unknown
    | some name => exact strays_open_unknown unknown (strays_exit_zero rfl (tried_release attempt))
  · rw [opened] at failed
    cases failed

/-- If the flags are known and the input stands, the output decides. -/
theorem output_cases (accepted : opts.Accepted) (inputFlags : Known opts.inputFileFlags) (outputFlags : Known opts.outputFileFlags)
    {input : DdTarget} {depth : Nat} (opened : ddOpenInput opts env = .ok (input, depth)) (fits : InputFits opts input) :
    (∃ p : DdProcess, p.Tried (ddOpenOutput opts env depth).isOk ∧
      ((ddOpenOutput opts env depth).isOk = false → opts.outputBdev.isSome → opts.outputBdev.any noChannel = false) ∧
      ddRunHandles opts env noChannel others = if (ddRun opts env).isOk then p else p.exit) ∨
    ((ddOpenOutput opts env depth).isOk = false ∧ opts.outputBdev.any noChannel = true ∧ ∃ p : DdProcess,
      p.exit.ledger.strays.Nonempty ∧ ddRunHandles opts env noChannel others = if (ddRun opts env).isOk then p else p.exit) := by
  have ends {p q : DdProcess} (same : p = q) :
      (if (ddRun opts env).isOk then p else p.exit) = if (ddRun opts env).isOk then q else q.exit := by rw [same]
  rw [ddRunHandles_tried opened fits, rest_known inputFlags outputFlags]
  rcases input_cases accepted inputFlags with ⟨target, own, attempt, same⟩ | ⟨failed, -⟩
  · rw [opened] at attempt
    rw [same]
    rcases ddOpenHandles_cases (p := DdProcess.start.tried .input target own) others .output (ddOpenOutput opts env depth).isOk
      (opts.outputBdev.any noChannel) outputFlags accepted.output rfl with ⟨target', own', attempt', channel, same'⟩ | ⟨failed, -, refused, same'⟩
    · refine Or.inl ⟨_, ⟨⟨_, own, own', ?_, attempt', Finset.union_empty own, ?_⟩⟩, channel, ends same'⟩
      · exact attempt
      · change Ledger.mk (own' ∪ (own ∪ ∅)) ∅ = _
        rw [Finset.union_empty]
    · refine Or.inr ⟨failed, refused, _, ?_, ends same'⟩
      exact noChannel_release (tried_release attempt)
  · rw [opened] at failed
    cases failed

/-- An output bdev is opened as the bdev layer has it. -/
theorem openOutput_isOk (accepted : opts.Accepted) {name : String} (bdev : opts.outputBdev = some name) (depth : Nat) :
    (ddOpenOutput opts env depth).isOk = (env.openBdev name).isOk := by
  have file : opts.outputFile = none := by
    rcases accepted.output with ⟨_, _, none⟩ | ⟨_, file, _⟩
    · rw [bdev] at none
      cases none
    · exact file
  unfold ddOpenOutput ddOpen
  rw [file, bdev]
  cases opened : env.openBdev name with
  | error errno =>
    simp only [ddOpenBdev, opened]
    rfl
  | ok found =>
    simp only [ddOpenBdev, opened]
    rfl

/-- Without an output `dd_run` sends nothing off. -/
theorem not_isOk {input : DdTarget} {depth : Nat} (opened : ddOpenInput opts env = .ok (input, depth))
    (failed : (ddOpenOutput opts env depth).isOk = false) : (ddRun opts env).isOk = false := by
  cases ran : ddRun opts env with
  | error rc => rfl
  | ok c =>
    obtain ⟨depth', openedInput, openedOutput⟩ := (ddRun_cases ran).opened
    have same : (Except.ok (input, depth) : Except Errno (DdTarget × Nat)) = .ok (c.input, depth') := opened.symm.trans openedInput
    cases same
    unfold ddOpenOutput at failed
    rw [openedOutput] at failed
    cases failed

/-- `dd_run` leaves strays, or it does what it should with both targets. -/
theorem orderly_or_strays (env : DdEnv) (noChannel : String → Bool) (others : Finset Nat) (accepted : opts.Accepted) :
    (Orderly opts env noChannel ∧ ∃ (p : DdProcess) (depth : Nat), p.Tried (ddOpenOutput opts env depth).isOk ∧
      (∃ input, ddOpenInput opts env = .ok (input, depth)) ∧
      ddRunHandles opts env noChannel others = if (ddRun opts env).isOk then p else p.exit) ∨
    (¬ Orderly opts env noChannel ∧ (ddRunHandles opts env noChannel others).ledger.strays.Nonempty) := by
  by_cases inputFlags : Known opts.inputFileFlags
  case neg => exact Or.inr ⟨fun orderly => inputFlags orderly.inputFlags, strays_unknown_input accepted inputFlags⟩
  by_cases stands : ∃ input depth, ddOpenInput opts env = .ok (input, depth) ∧ InputFits opts input
  case neg => exact Or.inr ⟨fun orderly => stands orderly.input, strays_refused_input accepted inputFlags stands⟩
  obtain ⟨input, depth, opened, fits⟩ := stands
  by_cases outputFlags : Known opts.outputFileFlags
  case neg =>
    exact Or.inr ⟨fun orderly => outputFlags orderly.outputFlags, strays_unknown_output accepted inputFlags outputFlags opened fits⟩
  rcases output_cases accepted inputFlags outputFlags opened fits with ⟨p, tried, channel, same⟩ | ⟨failed, refused, p, strays, same⟩
  · refine Or.inl ⟨⟨inputFlags, outputFlags, ⟨input, depth, opened, fits⟩, ?_⟩, p, depth, tried, ⟨input, opened⟩, same⟩
    intro name errno bdev error
    have failed : (ddOpenOutput opts env depth).isOk = false := by
      rw [openOutput_isOk accepted bdev, error]
      rfl
    have none := channel failed (by rw [bdev]; rfl)
    rwa [bdev] at none
  · right
    obtain ⟨name, bdev, without⟩ := (Option.any_eq_true _ _).mp refused
    cases error : env.openBdev name with
    | ok found =>
      rw [openOutput_isOk accepted bdev, error] at failed
      cases failed
    | error errno =>
      constructor
      · intro orderly
        have channel := orderly.channel name errno bdev error
        rw [without] at channel
        cases channel
      · rw [same, not_isOk opened failed]
        exact strays

theorem ne_empty_of_strays {l : Ledger Handle} (strays : l.strays.Nonempty) : l ≠ .empty := by
  intro empty
  rw [empty] at strays
  exact Finset.not_nonempty_empty strays

end

/-- A command that is refused after the checks of `main` has given back all the handles of its targets, and closed
nothing else, if and only if no flag is unknown, the refusal comes after the input was opened and checked, and it is not for want of
a channel of the output. Otherwise the descriptor 0 is closed, or the descriptor of a bdev twice. -/
theorem refused_returns_iff (opts : SpdkDdOpts) (env : DdEnv) (noChannel : String → Bool) (others : Finset Nat)
    (accepted : mainRefuses opts = none) (rc : Int) (refused : ddRun opts env = .error rc) :
    (ddRunHandles opts env noChannel others).ledger = .empty ↔ Orderly opts env noChannel := by
  rcases orderly_or_strays env noChannel others (mainRefuses_none accepted) with ⟨orderly, p, depth, tried, -, same⟩ | ⟨disorderly, strays⟩
  · have ended : ddRunHandles opts env noChannel others = p.exit := by
      rw [same, refused]
      rfl
    rw [ended]
    exact ⟨fun _ => orderly, fun _ => tried.exit⟩
  · exact ⟨fun empty => absurd empty (ne_empty_of_strays strays), fun orderly => absurd orderly disorderly⟩

/-- Without the input file. -/
def missingEnv : DdEnv := { sixBytesEnv with openFile := fun _ _ => .error enxio }

theorem missing_refused :
    ddRun sixBytesOpts missingEnv = .error (-6) ∧
    .file 0 ∈ (ddRunHandles sixBytesOpts missingEnv (fun _ => false) {0, 1, 2}).ledger.strays ∧
    (ddRunHandles sixBytesOpts missingEnv (fun _ => false) {0, 1, 2}).ledger ≠ .empty := by
  have refused : ddRun sixBytesOpts missingEnv = .error (-6) := rfl
  refine ⟨refused, by decide, ?_⟩
  rw [Ne, refused_returns_iff sixBytesOpts missingEnv (fun _ => false) {0, 1, 2} (by decide) (-6) refused]
  intro orderly
  obtain ⟨input, depth, opened, -⟩ := orderly.input
  cases opened

/-! ## The handles of a copy -/

/-- A target that can be used. -/
def DdHandles.Held (side : Side) (target : DdHandles) (l : Ledger Handle) : Prop :=
  match target.type with
  | .file => ∃ fd : Nat, target.fd = fd ∧ .file fd ∈ l.held
  | .bdev => .desc side ∈ l.held ∧ .channel side ∈ l.held

structure DdProcess.Open (p : DdProcess) : Prop where
  strays : p.ledger.strays = ∅
  input : p.input.Held .input p.ledger
  output : p.output.Held .output p.ledger

section
variable {side : Side} {p q : DdProcess} {l : Ledger Handle} {target : DdHandles} {own : Finset Handle}

theorem Attempt.held (attempt : Attempt side p true target own) (held : own ⊆ l.held) : target.Held side l := by
  cases attempt with
  | file fd free => exact ⟨fd, rfl, held (Finset.mem_singleton_self _)⟩
  | bdev => exact ⟨held (Finset.mem_insert_of_mem (Finset.mem_singleton_self _)), held (Finset.mem_insert_self _ _)⟩

theorem DdProcess.Tried.open (tried : p.Tried true) : p.Open := by
  obtain ⟨q, own, own', input, output, held, ledger⟩ := tried.tried
  refine ⟨?_, input.held ?_, output.held ?_⟩
  · rw [ledger]
  · rw [ledger]
    exact Finset.subset_union_right
  · rw [ledger]
    exact Finset.subset_union_left

end

section
variable {opts : SpdkDdOpts} {env : DdEnv} {noChannel : String → Bool} {others : Finset Nat} {c : DdSetup}

theorem Launched.inputFits (launched : Launched opts env c) : InputFits opts c.input := by
  have start : c.readRegionStart = u64 (opts.inputOffset * opts.unit) := by
    unfold DdSetup.readRegionStart
    rw [launched.skip, launched.unit]
  constructor
  · rintro ⟨bdev, less⟩
    rw [← start] at less
    exact Nat.not_le_of_lt less (launched.input bdev).1
  · rintro ⟨some, bdev, less⟩
    rw [← start] at less
    exact Nat.not_le_of_lt less ((launched.input bdev).2 some)

/-- Of a copy that was sent off, only the flags are in question. -/
theorem launched_handles (noChannel : String → Bool) (others : Finset Nat) (accepted : opts.Accepted) (launched : ddRun opts env = .ok c) :
    (Known opts.inputFileFlags ∧ Known opts.outputFileFlags ∧ (ddRunHandles opts env noChannel others).Tried true) ∨
    (¬ (Known opts.inputFileFlags ∧ Known opts.outputFileFlags) ∧ (ddRunHandles opts env noChannel others).ledger.strays.Nonempty) := by
  have ok : (ddRun opts env).isOk = true := by
    rw [launched]
    rfl
  obtain ⟨depth, openedInput, openedOutput⟩ := (ddRun_cases launched).opened
  rcases orderly_or_strays env noChannel others accepted with ⟨orderly, p, depth', tried, ⟨input, opened⟩, same⟩ | ⟨disorderly, strays⟩
  · refine Or.inl ⟨orderly.inputFlags, orderly.outputFlags, ?_⟩
    have succeeds : (ddOpenOutput opts env depth').isOk = true := by
      by_contra failed
      rw [not_isOk opened (Bool.eq_false_of_not_eq_true failed)] at ok
      cases ok
    rw [same, if_pos ok, ← succeeds]
    exact tried
  · refine Or.inr ⟨fun known => disorderly ⟨known.1, known.2, ⟨c.input, depth, openedInput, ?_⟩, ?_⟩, strays⟩
    · exact (ddRun_cases launched).inputFits
    · intro name errno bdev error
      have succeeds : (ddOpenOutput opts env depth).isOk = _ := openOutput_isOk accepted bdev depth
      unfold ddOpenOutput at succeeds
      rw [openedOutput, error] at succeeds
      cases succeeds

/-- The handles are given back by one call of `dd_exit`, not by more. -/
theorem returned_iff (noChannel : String → Bool) (others : Finset Nat) (accepted : opts.Accepted) (launched : ddRun opts env = .ok c)
    {k : Nat} (positive : 0 < k) :
    (DdProcess.exit^[k] (ddRunHandles opts env noChannel others)).ledger = .empty ↔
      (Known opts.inputFileFlags ∧ Known opts.outputFileFlags) ∧ k = 1 := by
  rcases launched_handles noChannel others accepted launched with ⟨inputFlags, outputFlags, tried⟩ | ⟨unknown, strays⟩
  · constructor
    · intro empty
      refine ⟨⟨inputFlags, outputFlags⟩, ?_⟩
      by_contra more
      obtain ⟨rest, rfl⟩ : ∃ rest, k = rest + 2 := ⟨k - 2, by omega⟩
      exact ne_empty_of_strays (tried.exits rest) empty
    · rintro ⟨-, rfl⟩
      exact tried.exit
  · constructor
    · exact fun empty => absurd empty (ne_empty_of_strays (strays.mono (strays_exits k)))
    · exact fun known => absurd known.1 unknown

end

theorem DdJob.Exact.quiet {n : Nat} {s : DdJob} (exact : s.Exact n) (none : s.outstanding = 0) (id : Nat) : s.flight id = .none := by
  by_contra held
  have idle : busy n s.flight = 0 := exact.counted.trans none
  exact held (busy_eq_zero_iff.mp idle id (exact.inside id held))

/-- While a request is in flight, both targets of a copy without an unknown flag are open. When a copy has ended, all the
handles of its targets were given back once and nothing else was closed if and only if no flag was unknown, and the loop of
`dd_run` had left a request in flight or has only one io: each other io of a loop that leaves none closes the handles again. -/
theorem returned_once_iff (opts : SpdkDdOpts) (env : DdEnv) (noChannel : String → Bool) (others : Finset Nat) (c : DdSetup)
    (accepted : mainRefuses opts = none) (launched : ddRun opts env = .ok c) (direct : c.Direct) (o : Nat → Outcomes)
    (buf : Nat → Nat → UInt8) (output : Nat → UInt8) (size : Nat) (events : List DdEvent)
    (polls : ∀ event ∈ events, AioPolls c event) :
    Always (ddStep c)
      (fun s =>
        ((∃ id, s.flight id ≠ none) → Known opts.inputFileFlags ∧ Known opts.outputFileFlags →
          (DdProcess.exit^[s.exits] (ddRunHandles opts env noChannel others)).Open) ∧
        (0 < s.exits →
          ((DdProcess.exit^[s.exits] (ddRunHandles opts env noChannel others)).ledger = .empty ↔
            (Known opts.inputFileFlags ∧ Known opts.outputFileFlags) ∧
              (0 < (ddRunning c o buf output size).outstanding ∨ c.queueDepth = 1))))
      (ddRunning c o buf output size) events := by
  have options := mainRefuses_none accepted
  have unit : 0 < c.ioUnitSize := by
    rw [(ddRun_cases launched).unit]
    exact options.unit
  apply (balanced_always c direct unit o buf output size events polls).mono
  intro s balanced
  constructor
  · rintro ⟨id, busy⟩ known
    have running : 0 < s.outstanding := Nat.pos_of_ne_zero fun none => busy (balanced.exact.quiet none id)
    rw [(balanced.running running).1]
    rcases launched_handles noChannel others options launched with ⟨-, -, tried⟩ | ⟨unknown, -⟩
    · exact tried.open
    · exact absurd known unknown
  · intro ended
    have finished : s.outstanding = 0 := by
      by_contra running
      exact Nat.ne_of_gt ended (balanced.running (Nat.pos_of_ne_zero running)).1
    rw [returned_iff noChannel others options launched ended, balanced.finished finished]
    by_cases left : 0 < (ddRunning c o buf output size).outstanding
    · rw [if_pos left]
      exact and_congr_right fun _ => ⟨fun _ => Or.inl left, fun _ => rfl⟩
    · rw [if_neg left]
      exact and_congr_right fun _ => (or_iff_right left).symm

/-- The six bytes, with standard input, output and error open. -/
theorem sixBytes_returned_once :
    ∃ final, run (ddStep sixBytes) sixBytesRunning sixBytesEvents = some final ∧ final.exits = 1 ∧
      (DdProcess.exit^[1] (ddRunHandles sixBytesOpts sixBytesEnv (fun _ => false) {0, 1, 2})).ledger = .empty := by
  have ends : (run (ddStep sixBytes) sixBytesRunning sixBytesEvents).map DdJob.exits = some 1 := by decide
  obtain ⟨final, ran, exits⟩ := Option.map_eq_some_iff.mp ends
  have known : Known none := fun _ none => by cases none
  have returned := (returned_once_iff sixBytesOpts sixBytesEnv (fun _ => false) {0, 1, 2} sixBytes (by decide) rfl
    (fun sparse => by cases sparse) (fun _ => .fine) (fun _ _ => 0) (fun _ => 255) 8 sixBytesEvents sixBytes_polls).final ran
  rw [exits] at returned
  exact ⟨final, ran, exits, (returned.2 Nat.one_pos).mpr ⟨⟨known, known⟩, Or.inl (by decide)⟩⟩

/-- By AIO, with a kernel that takes no request: both ios of the loop call `dd_exit`. -/
example :
    (ddRunning { sixBytes with uring := false } (fun _ => { Outcomes.fine with submit := .refused (-enomem) }) (fun _ _ => 0)
      (fun _ => 255) 8).exits = 2 := by
  decide

end BdevUbi.Dd
