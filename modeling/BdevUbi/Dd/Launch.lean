import BdevUbi.Dd.Contents
import BdevUbi.Dd.Ending
import BdevUbi.Dd.Setup

/-! What the checks of `main` and `dd_run` are good for, and what they leave open. -/

set_option autoImplicit false

namespace BdevUbi.Dd
open BdevUbi.Library

/-! ## Options that were accepted -/

/-- One target, a file or a bdev. -/
def OneTarget (file bdev : Option String) : Prop := (∃ name, file = some name ∧ bdev = none) ∨ ∃ name, file = none ∧ bdev = some name

theorem oneTarget_of {file bdev : Option String} (both : ¬ (file.isSome ∧ bdev.isSome)) (neither : ¬ (file = none ∧ bdev = none)) :
    OneTarget file bdev := by
  cases file with
  | none =>
    cases bdev with
    | none => exact absurd ⟨rfl, rfl⟩ neither
    | some name => exact Or.inr ⟨name, rfl, rfl⟩
  | some name =>
    cases bdev with
    | none => exact Or.inl ⟨name, rfl, rfl⟩
    | some other => exact absurd ⟨rfl, rfl⟩ both

structure SpdkDdOpts.Accepted (opts : SpdkDdOpts) : Prop where
  input : OneTarget opts.inputFile opts.inputBdev
  output : OneTarget opts.outputFile opts.outputBdev
  unit : 0 < opts.unit
  inputFlags : opts.inputFile = none → opts.inputFileFlags = none
  outputFlags : opts.outputFile = none → opts.outputFileFlags = none

theorem mainRefuses_none {opts : SpdkDdOpts} (accepted : mainRefuses opts = none) : opts.Accepted := by
  unfold mainRefuses at accepted
  split at accepted
  · cases accepted
  rename_i bothInputs
  split at accepted
  · cases accepted
  rename_i bothOutputs
  split at accepted
  · cases accepted
  rename_i noInput
  split at accepted
  · cases accepted
  rename_i noOutput
  split at accepted
  · cases accepted
  rename_i unit
  split at accepted
  · cases accepted
  split at accepted
  · cases accepted
  rename_i outputFlags
  split at accepted
  · cases accepted
  rename_i inputFlags
  refine ⟨oneTarget_of bothInputs noInput, oneTarget_of bothOutputs noOutput, ?_, ?_, ?_⟩
  · unfold SpdkDdOpts.unit
    omega
  · intro file
    exact Option.not_isSome_iff_eq_none.mp fun flags => inputFlags ⟨file, flags⟩
  · intro file
    exact Option.not_isSome_iff_eq_none.mp fun flags => outputFlags ⟨file, flags⟩

section
variable {opts : SpdkDdOpts} {env : DdEnv} {c : DdSetup}

/-- A target that was opened. -/
theorem ddOpen_file {name : String} {flags : Option CString} {bdev : Option String} {skip depth depth' : Nat} {input : Bool}
    {target : DdTarget} (opened : ddOpen opts env (some name) bdev flags skip input depth = .ok (target, depth')) :
    target.type = .file ∧ 0 < target.blockSize ∧ target.totalSize < 2 ^ 64 ∧
      depth' = ddCountDepth opts (if input then ddQueueDepth opts target.totalSize skip depth else depth) := by
  simp only [ddOpen, ddOpenFile, Except.map] at opened
  split at opened
  · cases opened
  · rename_i found _
    cases opened
    refine ⟨rfl, Nat.lt_of_lt_of_le Nat.one_pos (Nat.le_max_right _ _), ?_, rfl⟩
    simp only
    split
    · exact Nat.mod_lt _ (Nat.two_pow_pos 64)
    · exact Nat.lt_trans found.small (by decide)

theorem ddOpen_bdev {name : String} {flags : Option CString} {skip depth depth' : Nat} {input : Bool}
    {target : DdTarget} (opened : ddOpen opts env none (some name) flags skip input depth = .ok (target, depth')) :
    target.type = .bdev ∧ 0 < target.blockSize ∧ target.totalSize < 2 ^ 63 ∧ target.totalSize % target.blockSize = 0 ∧
      depth' = ddCountDepth opts (ddQueueDepth opts target.totalSize skip depth) := by
  simp only [ddOpen, ddOpenBdev] at opened
  cases found : env.openBdev name with
  | error errno =>
    rw [found] at opened
    cases opened
  | ok sizes =>
    rw [found] at opened
    cases opened
    obtain ⟨block, small⟩ := env.blocks name sizes found
    have total : u64 (sizes.size * sizes.blockSize) = sizes.size * sizes.blockSize :=
      u64_of_lt (Nat.lt_trans small (by decide))
    refine ⟨rfl, block, ?_, ?_, rfl⟩
    · simp only [total]
      exact small
    · simp only [total]
      exact Nat.mul_mod_left _ _

/-- The conditions on a copy without seeks that the program does not check: a unit is some blocks of the
output, the regions lie below 2^64, and an input file that is copied to its end is not skipped beyond it. -/
structure SpdkDdOpts.Plain (opts : SpdkDdOpts) (c : DdSetup) : Prop where
  plain : opts.sparse = false
  whole : opts.unit % c.output.blockSize = 0
  read : opts.inputOffset * opts.unit + opts.count * opts.unit < 2 ^ 64
  write : opts.outputOffset * opts.unit + c.blocks c.copySize < 2 ^ 64
  reach : opts.inputBdev = none → opts.count = 0 → opts.inputOffset * opts.unit ≤ c.input.totalSize

theorem Launched.readRegionStart (launched : Launched opts env c) (small : opts.inputOffset * opts.unit < 2 ^ 64) :
    c.readRegionStart = opts.inputOffset * opts.unit := by
  unfold DdSetup.readRegionStart
  rw [launched.unit, launched.skip]
  exact u64_of_lt small

theorem Launched.writeRegionStart (launched : Launched opts env c) (small : opts.outputOffset * opts.unit < 2 ^ 64) :
    c.writeRegionStart = opts.outputOffset * opts.unit := by
  unfold DdSetup.writeRegionStart
  rw [launched.unit, launched.seek]
  exact u64_of_lt small

theorem Launched.inputSize (launched : Launched opts env c) (accepted : opts.Accepted) : c.input.totalSize < 2 ^ 64 := by
  obtain ⟨depth, opened, _⟩ := launched.opened
  rcases accepted.input with ⟨name, file, bdev⟩ | ⟨name, file, bdev⟩
  · rw [file] at opened
    exact (ddOpen_file opened).2.2.1
  · rw [file, bdev] at opened
    exact Nat.lt_trans (ddOpen_bdev opened).2.2.1 (by decide)

theorem Launched.outputBlock (launched : Launched opts env c) (accepted : opts.Accepted) : 0 < c.output.blockSize := by
  obtain ⟨depth, _, opened⟩ := launched.opened
  rcases accepted.output with ⟨name, file, bdev⟩ | ⟨name, file, bdev⟩
  · rw [file] at opened
    exact (ddOpen_file opened).2.1
  · rw [file, bdev] at opened
    exact (ddOpen_bdev opened).2.1

/-- The size of the copy, when the input is not skipped beyond its end. -/
theorem Launched.copySize (launched : Launched opts env c) (accepted : opts.Accepted)
    (read : opts.inputOffset * opts.unit + opts.count * opts.unit < 2 ^ 64)
    (reach : opts.inputBdev = none → opts.count = 0 → opts.inputOffset * opts.unit ≤ c.input.totalSize) :
    c.copySize = (if opts.count ≠ 0 then opts.count * opts.unit else c.input.totalSize - opts.inputOffset * opts.unit) ∧
      c.readRegionStart + c.copySize < 2 ^ 64 ∧ (opts.count = 0 → opts.inputOffset * opts.unit ≤ c.input.totalSize) := by
  have start := launched.readRegionStart (Nat.lt_of_le_of_lt (Nat.le_add_right _ _) read)
  have total := launched.inputSize accepted
  have size := launched.size
  by_cases some : opts.count ≠ 0
  · rw [if_pos some, u64_of_lt (by omega)] at size
    rw [if_pos some, start, size]
    exact ⟨rfl, read, fun none => absurd none some⟩
  · have fits : opts.inputOffset * opts.unit ≤ c.input.totalSize := by
      rcases accepted.input with ⟨name, _, bdev⟩ | ⟨name, _, bdev⟩
      · exact reach bdev (not_not.mp some)
      · have checked := (launched.input (by rw [bdev]; rfl)).1
        rw [start] at checked
        exact checked
    rw [if_neg some, start, sub64_of_le fits total] at size
    rw [if_neg some, start, size]
    exact ⟨rfl, by omega, fun _ => fits⟩

theorem Launched.regular (launched : Launched opts env c) (accepted : opts.Accepted) (plain : opts.Plain c) : c.Regular := by
  refine ⟨launched.outputBlock accepted, ?_, (launched.copySize accepted plain.read plain.reach).2.1, ?_, ?_⟩
  · rw [launched.unit]
    exact plain.whole
  · rw [launched.writeRegionStart (Nat.lt_of_le_of_lt (Nat.le_add_right _ _) plain.write)]
    exact plain.write
  · intro sparse
    rw [launched.sparse, plain.plain] at sparse
    cases sparse

theorem Launched.direct (launched : Launched opts env c) (plain : opts.sparse = false) : c.Direct :=
  direct_of_plain (launched.sparse.trans plain)

end

/-- From the command line to the end: what `main` and `dd_run` have let pass, and the conditions they do not check, are
enough for a copy that ends without an error and an interrupt to have moved every byte it was asked for. -/
theorem command_copies (opts : SpdkDdOpts) (env : DdEnv) (c : DdSetup) (accepted : mainRefuses opts = none)
    (launched : ddRun opts env = .ok c) (plain : opts.Plain c) (apart : c.Apart) (o : Nat → Outcomes) (buf : Nat → Nat → UInt8)
    (output : Nat → UInt8) (size : Nat) (events : List DdEvent)
    (seen : Guarded (ddStep c) (Seen c) (ddRunning c o buf output size) events) :
    c.copySize = (if opts.count ≠ 0 then opts.count * opts.unit else c.input.totalSize - opts.inputOffset * opts.unit) ∧
    Always (ddStep c)
      (fun s => .exit 0 ∈ s.acts → s.interrupt = true ∨
        ∀ i, i < c.copySize →
          s.output (opts.outputOffset * opts.unit + i) = (env.source c.input.grain).byte (opts.inputOffset * opts.unit + i))
      (ddRunning c o buf output size) events := by
  have options := mainRefuses_none accepted
  have known := ddRun_cases launched
  have regular := known.regular options plain
  have unit : 0 < c.ioUnitSize := by
    rw [known.unit]
    exact options.unit
  refine ⟨(known.copySize options plain.read plain.reach).1, ?_⟩
  refine (sound_always regular apart unit o buf output size seen).mono ?_
  intro s sound finished
  refine (sound.filled.ended finished).imp_right ?_
  intro copied i within
  have value := copied i within
  have dense : ¬ c.sparse = true := by
    rw [known.sparse, plain.plain]
    decide
  have same := value.resolve_right fun hole => dense hole.1
  rw [known.writeRegionStart (Nat.lt_of_le_of_lt (Nat.le_add_right _ _) plain.write),
    known.readRegionStart (Nat.lt_of_le_of_lt (Nat.le_add_right _ _) plain.read), known.source] at same
  exact same

/-- The six bytes, from the command line on. -/
def sixBytesOpts : SpdkDdOpts := { gOpts with inputFile := some "in", outputBdev := some "out", ioUnitSize := 4 }

def twoBlocks : Found := ⟨4, 2, by decide⟩

def sixBytesEnv : DdEnv where
  openFile := fun _ _ => .ok ⟨0, 6, by decide⟩
  openBdev := fun _ => .ok twoBlocks
  blocks := by
    intro name found opened
    cases opened
    decide
  isBlk := fun _ => false
  same := fun a b => a == b
  alike := fun _ => beq_self_eq_true _
  source := fun grain => .plain grain fun i => UInt8.ofNat (i + 1)
  calloc := true
  spdkMalloc := true
  uring := true
  queueInit := fun entries _ => if entries = 0 then -einval else 0
  registerFiles := 0
  registerBuffers := 0
  ioSetup := fun events => if events = 0 then -einval else 0

theorem sixBytes_launched : ddRun sixBytesOpts sixBytesEnv = .ok sixBytes := rfl

theorem sixBytes_plain : sixBytesOpts.Plain sixBytes :=
  ⟨rfl, by decide, by decide, by decide, fun _ _ => by decide⟩

theorem sixBytes_command_copies :
    sixBytes.copySize = 6 - 0 * 4 ∧
    Always (ddStep sixBytes)
      (fun s => .exit 0 ∈ s.acts → s.interrupt = true ∨ ∀ i, i < 6 → s.output (0 * 4 + i) = UInt8.ofNat (0 * 4 + i + 1))
      sixBytesRunning sixBytesEvents :=
  command_copies sixBytesOpts sixBytesEnv sixBytes (by decide) sixBytes_launched sixBytes_plain sixBytes_apart _ _ _ _ _ (by decide +kernel)

/-! ## The depth of the queue -/

section
variable {opts : SpdkDdOpts} {env : DdEnv} {c : DdSetup}

/-- A queue has no place when none was asked for, or when exactly one unit more is skipped than the target has. -/
theorem ddQueueDepth_eq_zero_iff {totalSize skip depth : Nat} (total : totalSize < 2 ^ 64) (small : skip < 2 ^ 64) :
    ddQueueDepth opts totalSize skip depth = 0 ↔ depth = 0 ∨ skip = u64 (totalSize / opts.unit + 1) := by
  have bound : totalSize / opts.unit < 2 ^ 64 := Nat.lt_of_le_of_lt (Nat.div_le_self _ _) total
  unfold ddQueueDepth sub64 u64
  generalize totalSize / opts.unit = units at bound ⊢
  rw [Nat.mod_eq_of_lt small]
  omega

theorem ddCountDepth_eq_zero_iff {depth : Nat} : ddCountDepth opts depth = 0 ↔ depth = 0 := by
  unfold ddCountDepth
  split
  · rename_i some
    omega
  · exact Iff.rfl

/-- A bdev has all the units that are skipped. -/
theorem le_units {total offset unit : Nat} (positive : 0 < unit) (small : total < 2 ^ 63) (fits : offset * unit ≤ total) :
    offset ≠ u64 (total / unit + 1) := by
  have below := (Nat.le_div_iff_mul_le positive).mpr fits
  have bound : total / unit ≤ total := Nat.div_le_self _ _
  rw [u64_of_lt (by omega)]
  omega

/-- The checks of a bdev keep the queue from being empty, those of a file do not. -/
theorem Launched.depth_eq_zero_iff (launched : Launched opts env c) (accepted : opts.Accepted) (plain : opts.Plain c) :
    c.queueDepth = 0 ↔
      opts.queueDepth = 0 ∨ (opts.inputFile.isSome ∧ opts.inputOffset = u64 (c.input.totalSize / opts.unit + 1)) := by
  obtain ⟨depth, openedInput, openedOutput⟩ := launched.opened
  have unit := accepted.unit
  have readSmall : opts.inputOffset * opts.unit < 2 ^ 64 := Nat.lt_of_le_of_lt (Nat.le_add_right _ _) plain.read
  have writeSmall : opts.outputOffset * opts.unit < 2 ^ 64 := Nat.lt_of_le_of_lt (Nat.le_add_right _ _) plain.write
  have skip : opts.inputOffset < 2 ^ 64 := Nat.lt_of_le_of_lt (Nat.le_mul_of_pos_right _ unit) readSmall
  have seek : opts.outputOffset < 2 ^ 64 := Nat.lt_of_le_of_lt (Nat.le_mul_of_pos_right _ unit) writeSmall
  have input : depth = 0 ↔
      opts.queueDepth = 0 ∨ (opts.inputFile.isSome ∧ opts.inputOffset = u64 (c.input.totalSize / opts.unit + 1)) := by
    rcases accepted.input with ⟨name, file, bdev⟩ | ⟨name, file, bdev⟩
    · rw [file] at openedInput
      obtain ⟨_, _, total, depthIs⟩ := ddOpen_file openedInput
      rw [depthIs, ddCountDepth_eq_zero_iff, if_pos rfl, ddQueueDepth_eq_zero_iff total skip, file]
      simp
    · rw [file, bdev] at openedInput
      obtain ⟨_, _, total, _, depthIs⟩ := ddOpen_bdev openedInput
      have fits := (launched.input (by rw [bdev]; rfl)).1
      rw [launched.readRegionStart readSmall] at fits
      have inside := le_units unit total fits
      rw [depthIs, ddCountDepth_eq_zero_iff, ddQueueDepth_eq_zero_iff (Nat.lt_trans total (by decide)) skip, file]
      simp [inside]
  rw [← input]
  rcases accepted.output with ⟨name, file, bdev⟩ | ⟨name, file, bdev⟩
  · rw [file] at openedOutput
    obtain ⟨_, _, _, depthIs⟩ := ddOpen_file openedOutput
    rw [depthIs, ddCountDepth_eq_zero_iff]
    simp
  · rw [file, bdev] at openedOutput
    obtain ⟨_, _, total, _, depthIs⟩ := ddOpen_bdev openedOutput
    have fits := (launched.output file (by rw [bdev]; rfl)).1
    rw [launched.writeRegionStart writeSmall] at fits
    have inside := le_units unit total fits
    rw [depthIs, ddCountDepth_eq_zero_iff, ddQueueDepth_eq_zero_iff (Nat.lt_trans total (by decide)) seek]
    simp [inside]

/-- Nothing is in flight, and the job has not ended. -/
def DdJob.Unstarted (s : DdJob) : Prop := (∀ id, s.flight id = none) ∧ s.exits = 0

/-- Without a poller there is nothing that could end a job without requests. -/
theorem unstarted_step (pollerless : c.Pollerless) (s : DdJob) (event : DdEvent) (s' : DdJob) (unstarted : s.Unstarted)
    (stepped : ddStep c s event = some s') : s'.Unstarted := by
  obtain ⟨idle, running⟩ := unstarted
  have absent {id : Nat} {flight : Flight} (held : s.flight id = some flight) : False := by
    rw [idle id] at held
    cases held
  cases ddStep_cases stepped with
  | performed held => exact (absent held).elim
  | again held => exact (absent held).elim
  | advanced held => exact (absent held).elim
  | soughtData held => exact (absent held).elim
  | soughtHole held => exact (absent held).elim
  | pollFailed => exact ⟨idle, running⟩
  | pollEnded _ _ _ poller => exact absurd pollerless poller
  | status => exact ⟨idle, (exits_showProgress s false).trans running⟩
  | interrupted => exact ⟨idle, running⟩

theorem kept_start (direct : c.Direct) (buf : Nat → Nat → UInt8) (output : Nat → UInt8) (size k : Nat) :
    (ddStart c (fun _ => .fine) (.fresh c buf output size) k).Lossless := by
  induction k with
  | zero =>
    intro id flight held
    cases held
  | succ k ih => exact ih.takes (ddTargetSeek_takes direct k _)

end

/-- `io_getevents` fails if there is no context, and else it does not. -/
def ContextPolls (c : DdSetup) : DdEvent → Prop
  | .pollFailed _ => c.uring = true ∨ c.aioContext = false
  | _ => True

theorem AioPolls.context {c : DdSetup} {event : DdEvent} (polls : AioPolls c event) : ContextPolls c event := by
  cases event with
  | pollFailed => exact Or.inl polls
  | perform => trivial
  | complete => trivial
  | statusPoller => trivial
  | finish => trivial

section
variable {opts : SpdkDdOpts} {env : DdEnv} {c : DdSetup}

theorem Launched.pollerless_iff (launched : Launched opts env c) (accepted : opts.Accepted) :
    c.Pollerless ↔ opts.inputFile = none ∧ opts.outputFile = none := by
  obtain ⟨depth, openedInput, openedOutput⟩ := launched.opened
  have input : c.input.type = .bdev ↔ opts.inputFile = none := by
    rcases accepted.input with ⟨name, file, bdev⟩ | ⟨name, file, bdev⟩
    · rw [file] at openedInput
      rw [(ddOpen_file openedInput).1, file]
      simp
    · rw [file, bdev] at openedInput
      rw [(ddOpen_bdev openedInput).1, file]
      simp
  have output : c.output.type = .bdev ↔ opts.outputFile = none := by
    rcases accepted.output with ⟨name, file, bdev⟩ | ⟨name, file, bdev⟩
    · rw [file] at openedOutput
      rw [(ddOpen_file openedOutput).1, file]
      simp
    · rw [file, bdev] at openedOutput
      rw [(ddOpen_bdev openedOutput).1, file]
      simp
  exact and_congr input output

/-- A copy with a file whose queue is empty was set up by AIO, and has no context. -/
theorem Launched.no_context (launched : Launched opts env c) (kernel : env.Kernel) (poller : ¬ (opts.inputFile = none ∧ opts.outputFile = none))
    (empty : c.queueDepth = 0) : c.uring = false ∧ c.aioContext = false := by
  have ring := launched.ring
  have file : ¬ (opts.inputFile.isNone ∧ opts.outputFile.isNone) := fun none =>
    poller ⟨Option.isNone_iff_eq_none.mp none.1, Option.isNone_iff_eq_none.mp none.2⟩
  constructor
  · rw [launched.uring]
    by_contra uring
    have asked : ¬ (env.uring = false ∨ opts.aio = true) := by
      rintro (without | aio)
      · simp [without] at uring
      · simp [aio] at uring
    simp only [ddRing, empty, Nat.zero_mul, Nat.zero_mod, if_neg file, if_neg asked, if_pos (kernel.ring _)] at ring
    exact kernel.ring _ ring
  · rw [launched.aioContext, empty]
    exact beq_eq_false_iff_ne.mpr kernel.context

end

/-- A copy that was let pass never ends, whatever happens, if and only if it is one between bdevs and `--qd 0` was given. With
a file, a queue without a place is refused by the ring, or its poller ends the job for want of a context. -/
theorem never_ends_iff (opts : SpdkDdOpts) (env : DdEnv) (c : DdSetup) (accepted : mainRefuses opts = none)
    (launched : ddRun opts env = .ok c) (kernel : env.Kernel) (plain : opts.Plain c) :
    (∀ o buf output size events, (∀ event ∈ events, ContextPolls c event) →
      Always (ddStep c) (fun s => s.exits = 0) (ddRunning c o buf output size) events) ↔
      opts.inputFile = none ∧ opts.outputFile = none ∧ opts.queueDepth = 0 := by
  have options := mainRefuses_none accepted
  have known := ddRun_cases launched
  have direct := known.direct plain.plain
  have empty := known.depth_eq_zero_iff options plain
  have pollerless := known.pollerless_iff options
  constructor
  · intro never
    by_cases none : c.queueDepth = 0
    · by_cases bdevs : opts.inputFile = .none ∧ opts.outputFile = .none
      · have zero := (empty.mp none).resolve_right fun file => by
          rw [bdevs.1] at file
          cases file.1
        exact ⟨bdevs.1, bdevs.2, zero⟩
      · obtain ⟨aio, context⟩ := known.no_context kernel bdevs none
        have polled := never (fun _ => .fine) (fun _ _ => 0) (fun _ => 0) 0 [.pollFailed (-einval)] fun event member => by
          rw [List.mem_singleton.mp member]
          exact Or.inr context
        have fresh : ddRunning c (fun _ => .fine) (fun _ _ => 0) (fun _ => 0) 0 = .fresh c (fun _ _ => 0) (fun _ => 0) 0 := by
          unfold ddRunning
          rw [none]
          rfl
        have poller : ¬ c.Pollerless := fun bdev => bdevs (pollerless.mp bdev)
        have failed : ¬ (0 : Int) ≤ -einval := by decide
        have step : ddStep c (.fresh c (fun _ _ => 0) (fun _ => 0) 0) (.pollFailed (-einval)) =
            some (ddExit (-einval) (.fresh c (fun _ _ => 0) (fun _ => 0) 0)) := by
          simp only [ddStep, DdJob.exits, DdJob.fresh, List.countP_nil, Nat.lt_irrefl, failed, aio, Bool.false_eq_true, false_and,
            poller, or_self, ↓reduceIte]
        rw [fresh] at polled
        have running : (ddExit (-einval) (.fresh c (fun _ _ => 0) (fun _ => 0) 0)).exits = 0 := polled.2 _ step
        rw [exits_exit] at running
        cases running
    · exfalso
      have unit : 0 < c.ioUnitSize := by
        rw [known.unit]
        exact options.unit
      have regular := known.regular options plain
      have balanced := (balanced_always c direct unit (fun _ => .fine) (fun _ _ => 0) (fun _ => 0) 0 [] fun _ member => by cases member).head
      have ongoing : (ddRunning c (fun _ => .fine) (fun _ _ => 0) (fun _ => 0) 0).Ongoing c (fun _ => 0) _ :=
        ⟨steady_start regular _ _ _ _, balanced, kept_start direct _ _ _ _⟩
      obtain ⟨more, final, polls, ran, ended⟩ := ongoing.reaches regular direct (last_pos c (Nat.pos_of_ne_zero none) _)
      exact Nat.ne_of_gt ended ((never _ _ _ _ more fun event member => (polls event member).context).final ran)
  · rintro ⟨input, output, zero⟩ o buf before size events _
    have none := empty.mpr (Or.inl zero)
    have start : (ddRunning c o buf before size).Unstarted := by
      unfold ddRunning
      rw [none]
      exact ⟨fun _ => rfl, rfl⟩
    have invariant := always_of_invariant (unstarted_step (pollerless.mpr ⟨input, output⟩)) start events
    exact invariant.mono fun s unstarted => unstarted.2

/-- `--ib in --ob out --bs 4 --qd 0`. -/
def idleOpts : SpdkDdOpts := { gOpts with inputBdev := some "in", outputBdev := some "out", ioUnitSize := 4, queueDepth := 0 }

def idleCopy : DdSetup where
  input := ⟨.bdev, 4, 8⟩
  output := ⟨.bdev, 4, 8⟩
  inputOffset := 0
  outputOffset := 0
  ioUnitSize := 4
  copySize := 8
  queueDepth := 0
  uring := true
  aioContext := false
  sparse := false
  source := .plain 4 fun i => UInt8.ofNat (i + 1)
  shared := false
  append := false

theorem idleCopy_never_ends :
    ddRun idleOpts sixBytesEnv = .ok idleCopy ∧
    ∀ o buf output size events, (∀ event ∈ events, ContextPolls idleCopy event) →
      Always (ddStep idleCopy) (fun s => s.exits = 0) (ddRunning idleCopy o buf output size) events := by
  have plain : idleOpts.Plain idleCopy := ⟨rfl, by decide, by decide, by decide, fun none => by cases none⟩
  have kernel : sixBytesEnv.Kernel := ⟨by decide, by decide⟩
  have pass : ddRun idleOpts sixBytesEnv = .ok idleCopy := rfl
  exact ⟨pass, (never_ends_iff idleOpts sixBytesEnv idleCopy (by decide) pass kernel plain).mpr ⟨rfl, rfl, rfl⟩⟩

end BdevUbi.Dd
