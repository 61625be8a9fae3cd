import BdevUbi.Dd.Flags
import BdevUbi.Dd.Regions

/-! From the command line to the first request: the checks of `main`, and `dd_run` up to the
loop that sends the ios off.
-/

set_option autoImplicit false

namespace BdevUbi.Dd
open BdevUbi.Library

def enomem : Int := 12

/-! ## The options -/

/-- `struct spdk_dd_opts`. -/
structure SpdkDdOpts where
  inputFile : Option String
  outputFile : Option String
  inputFileFlags : Option CString
  outputFileFlags : Option CString
  inputBdev : Option String
  outputBdev : Option String
  inputOffset : Nat
  outputOffset : Nat
  ioUnitSize : Int
  ioUnitCount : Int
  queueDepth : Nat
  aio : Bool
  sparse : Bool
  deriving DecidableEq, Repr

/-- `g_opts` before the command line is read. -/
def gOpts : SpdkDdOpts where
  inputFile := none
  outputFile := none
  inputFileFlags := none
  outputFileFlags := none
  inputBdev := none
  outputBdev := none
  inputOffset := 0
  outputOffset := 0
  ioUnitSize := 4096
  ioUnitCount := 0
  queueDepth := 2
  aio := false
  sparse := false

/-- The checks of `main`; with a message it returns EINVAL. -/
def mainRefuses (opts : SpdkDdOpts) : Option String :=
  if opts.inputFile.isSome ∧ opts.inputBdev.isSome then some "You may specify either --if or --ib, but not both."
  else if opts.outputFile.isSome ∧ opts.outputBdev.isSome then some "You may specify either --of or --ob, but not both."
  else if opts.inputFile = none ∧ opts.inputBdev = none then some "You must specify either --if or --ib"
  else if opts.outputFile = none ∧ opts.outputBdev = none then some "You must specify either --of or --ob"
  else if opts.ioUnitSize ≤ 0 then some "Invalid --bs value"
  else if opts.ioUnitCount < 0 then some "Invalid --count value"
  else if opts.outputFile = none ∧ opts.outputFileFlags.isSome then some "--oflags may be used only with --of"
  else if opts.inputFile = none ∧ opts.inputFileFlags.isSome then some "--iflags may be used only with --if"
  else none

namespace SpdkDdOpts

/-- The size of a unit, which `main` has found positive. -/
def unit (opts : SpdkDdOpts) : Nat := opts.ioUnitSize.toNat

/-- The number of units, which `main` has found not negative. -/
def count (opts : SpdkDdOpts) : Nat := opts.ioUnitCount.toNat

end SpdkDdOpts

/-! ## Targets -/

/-- What `spdk_fd_get_blocklen` and `spdk_fd_get_size` say of a file, and the sizes of a bdev. -/
structure Found where
  blockSize : Nat
  -- in bytes for a file, in blocks for a bdev
  size : Nat
  small : size < 2 ^ 63
  deriving DecidableEq, Repr

/-- What a target is called. -/
abbrev TargetName := DdTargetType × String

def targetName (file bdev : Option String) : Option TargetName :=
  match file, bdev with
  | some name, _ => some (.file, name)
  | none, some name => some (.bdev, name)
  | none, none => none

/-- The calls of `dd_run`, with their results. A bdev has blocks, and no more than a file can have bytes. -/
structure DdEnv where
  openFile : String → Nat → Except Errno Found
  openBdev : String → Except Errno Found
  blocks : ∀ name found, openBdev name = .ok found → 0 < found.blockSize ∧ found.size * found.blockSize < 2 ^ 63
  -- `dd_is_blk`
  isBlk : String → Bool
  -- two names of one target, or of what it is stored on
  same : TargetName → TargetName → Bool
  alike : ∀ name, same name name = true
  -- the contents of the input, as a seek in these steps sees them
  source : (grain : Nat) → Source grain
  calloc : Bool
  spdkMalloc : Bool
  -- built with SPDK_CONFIG_URING
  uring : Bool
  -- `io_uring_queue_init`, with so many entries and with IOPOLL or without
  queueInit : Nat → Bool → Int
  registerFiles : Int
  registerBuffers : Int
  -- for so many events
  ioSetup : Nat → Int

/-- The kernel makes no ring without entries, and no context for no events. -/
structure DdEnv.Kernel (env : DdEnv) : Prop where
  ring : ∀ iopoll, env.queueInit 0 iopoll ≠ 0
  context : env.ioSetup 0 ≠ 0

def oRdwr : Nat := 0x2

def oCreat : Nat := 0x40

def oTrunc : Nat := 0x200

section
variable (opts : SpdkDdOpts) (env : DdEnv)

/-- The queue is not deeper than the units that are left, counted in 64 bits; a target that is written to in
a file has no say in this. -/
def ddQueueDepth (totalSize skip depth : Nat) : Nat := min depth (u64 (sub64 (totalSize / opts.unit) skip + 1))

/-- Nor than the units that were asked for. -/
def ddCountDepth (depth : Nat) : Nat := if opts.count ≠ 0 then min depth opts.count else depth

/-- The target, and `g_opts.queue_depth` then. -/
def ddOpenFile (name : String) (flags skip : Nat) (input : Bool) (depth : Nat) : Except Errno (DdTarget × Nat) :=
  let flags := flags ||| oRdwr
  let flags := if input = false ∧ flags &&& oDirectory = 0 then flags ||| oCreat else flags
  let flags := if input = false ∧ flags &&& oAppend = 0 then flags ||| oTrunc else flags
  (env.openFile name flags).map fun found =>
    let totalSize := if found.size = 0 then u64 (opts.unit * opts.count) else found.size
    let depth := if input then ddQueueDepth opts totalSize skip depth else depth
    (⟨.file, max found.blockSize 1, totalSize⟩, ddCountDepth opts depth)

def ddOpenBdev (name : String) (skip depth : Nat) : Except Errno (DdTarget × Nat) :=
  (env.openBdev name).map fun found =>
    let totalSize := u64 (found.size * found.blockSize)
    (⟨.bdev, found.blockSize, totalSize⟩, ddCountDepth opts (ddQueueDepth opts totalSize skip depth))

def fileFlagsOf (fileFlags : Option CString) : Nat := fileFlags.elim 0 fun flags => (parseFlags flags).flags

/-- Without a target, which `main` has ruled out, it stays as it was: zeros. -/
def ddOpen (file : Option String) (bdev : Option String) (fileFlags : Option CString) (skip : Nat) (input : Bool) (depth : Nat) :
    Except Errno (DdTarget × Nat) :=
  match file, bdev with
  | some name, _ => ddOpenFile opts env name (fileFlagsOf fileFlags) skip input depth
  | none, some name => ddOpenBdev opts env name skip depth
  | none, none => .ok (⟨.file, 0, 0⟩, depth)

/-- The ring, for a copy with a file; 0 if there is nothing to complain of. The number of its entries is a `uint32_t`. What
`io_setup` says is not looked at. -/
def ddRing (depth : Nat) : Int :=
  let entries := depth * 2 % 2 ^ 32
  let iopoll := ddIopoll opts.inputFileFlags opts.outputFileFlags (opts.inputFile.any env.isBlk) (opts.outputFile.any env.isBlk)
  if opts.inputFile.isNone ∧ opts.outputFile.isNone then 0
  else if env.uring = false ∨ opts.aio = true then 0
  else if env.queueInit entries iopoll ≠ 0 then env.queueInit entries iopoll
  else if env.registerFiles ≠ 0 then env.registerFiles
  else env.registerBuffers

/-- Whether the input and the output are one. -/
def ddShared : Bool :=
  match targetName opts.inputFile opts.inputBdev, targetName opts.outputFile opts.outputBdev with
  | some input, some output => env.same input output
  | _, _ => false

/-- Whether a write to the output goes to its end; a block device takes no notice of O_APPEND. -/
def ddAppends : Bool := opts.outputFile.any (fun name => !env.isBlk name) && fileFlagsOf opts.outputFileFlags &&& oAppend != 0

/-- The job that is sent off, or the code of `dd_exit`. That `parse_flags` may have called `dd_exit` before changes nothing here. -/
def ddRun : Except Int DdSetup :=
  match ddOpen opts env opts.inputFile opts.inputBdev opts.inputFileFlags opts.inputOffset true opts.queueDepth with
  | .error errno => .error (-errno.code)
  | .ok (input, depth) =>
    let writeSize := u64 (opts.count * opts.unit)
    let inputPos := u64 (opts.inputOffset * opts.unit)
    if opts.inputBdev.isSome ∧ input.totalSize < inputPos then .error (-enospc)
    else if opts.count ≠ 0 ∧ opts.inputBdev.isSome ∧ input.totalSize < u64 (writeSize + inputPos) then .error (-enospc)
    else
      let copySize := if opts.count ≠ 0 then writeSize else sub64 input.totalSize inputPos
      let outputPos := u64 (opts.outputOffset * opts.unit)
      match ddOpen opts env opts.outputFile opts.outputBdev opts.outputFileFlags opts.outputOffset false depth with
      | .error errno => .error (-errno.code)
      | .ok (output, depth) =>
        let bdev := opts.outputFile = none ∧ opts.outputBdev.isSome
        if bdev ∧ output.totalSize < outputPos then .error (-enospc)
        else if bdev ∧ opts.count ≠ 0 ∧ output.totalSize < u64 (writeSize + outputPos) then .error (-enospc)
        else if opts.unit < output.blockSize ∨ opts.unit < input.blockSize then .error (-einval)
        else if opts.inputBdev.isSome ∧ opts.unit % input.blockSize ≠ 0 then .error (-einval)
        else if env.calloc = false ∨ depth ≠ 0 ∧ env.spdkMalloc = false then .error (-enomem)
        else if ddRing opts env depth ≠ 0 then .error (ddRing opts env depth)
        else
          .ok
            { input := input
              output := output
              inputOffset := opts.inputOffset
              outputOffset := opts.outputOffset
              ioUnitSize := opts.unit
              copySize := copySize
              queueDepth := depth
              uring := env.uring && !opts.aio
              aioContext := env.ioSetup depth == 0
              sparse := opts.sparse
              source := env.source input.grain
              shared := ddShared opts env
              append := ddAppends opts env }

end

/-- What is known of a job that was sent off. -/
structure Launched (opts : SpdkDdOpts) (env : DdEnv) (c : DdSetup) : Prop where
  opened : ∃ depth,
    ddOpen opts env opts.inputFile opts.inputBdev opts.inputFileFlags opts.inputOffset true opts.queueDepth = .ok (c.input, depth) ∧
    ddOpen opts env opts.outputFile opts.outputBdev opts.outputFileFlags opts.outputOffset false depth = .ok (c.output, c.queueDepth)
  unit : c.ioUnitSize = opts.unit
  skip : c.inputOffset = opts.inputOffset
  seek : c.outputOffset = opts.outputOffset
  sparse : c.sparse = opts.sparse
  source : ∀ i, c.source.byte i = (env.source c.input.grain).byte i
  size : c.copySize = if opts.count ≠ 0 then u64 (opts.count * opts.unit) else sub64 c.input.totalSize c.readRegionStart
  input : opts.inputBdev.isSome → c.readRegionStart ≤ c.input.totalSize ∧
    (opts.count ≠ 0 → u64 (u64 (opts.count * opts.unit) + c.readRegionStart) ≤ c.input.totalSize)
  output : opts.outputFile = none → opts.outputBdev.isSome → c.writeRegionStart ≤ c.output.totalSize ∧
    (opts.count ≠ 0 → u64 (u64 (opts.count * opts.unit) + c.writeRegionStart) ≤ c.output.totalSize)
  blocks : c.output.blockSize ≤ opts.unit ∧ c.input.blockSize ≤ opts.unit
  whole : opts.inputBdev.isSome → opts.unit % c.input.blockSize = 0
  ring : ddRing opts env c.queueDepth = 0
  uring : c.uring = (env.uring && !opts.aio)
  aioContext : c.aioContext = (env.ioSetup c.queueDepth == 0)
  append : c.append = ddAppends opts env

theorem ddRun_cases {opts : SpdkDdOpts} {env : DdEnv} {c : DdSetup} (ran : ddRun opts env = .ok c) : Launched opts env c := by
  unfold ddRun at ran
  split at ran
  · cases ran
  rename_i input depth openedInput
  simp only at ran
  split at ran
  · cases ran
  rename_i skipFits
  split at ran
  · cases ran
  rename_i countFits
  split at ran
  · cases ran
  rename_i output depth' openedOutput
  split at ran
  · cases ran
  rename_i seekFits
  split at ran
  · cases ran
  rename_i countFits'
  split at ran
  · cases ran
  rename_i blocks
  split at ran
  · cases ran
  rename_i whole
  split at ran
  · cases ran
  split at ran
  · cases ran
  rename_i ring
  cases ran
  refine ⟨⟨depth, openedInput, openedOutput⟩, rfl, rfl, rfl, rfl, fun _ => rfl, rfl, ?_, ?_, ?_, ?_, not_not.mp ring, rfl, rfl, rfl⟩
  · intro bdev
    exact ⟨Nat.not_lt.mp fun less => skipFits ⟨bdev, less⟩, fun some => Nat.not_lt.mp fun less => countFits ⟨some, bdev, less⟩⟩
  · intro file bdev
    exact ⟨Nat.not_lt.mp fun less => seekFits ⟨⟨file, bdev⟩, less⟩,
      fun some => Nat.not_lt.mp fun less => countFits' ⟨⟨file, bdev⟩, some, less⟩⟩
  · exact ⟨Nat.not_lt.mp fun less => blocks (Or.inl less), Nat.not_lt.mp fun less => blocks (Or.inr less)⟩
  · intro bdev
    by_contra rest
    exact whole ⟨bdev, rest⟩

end BdevUbi.Dd
