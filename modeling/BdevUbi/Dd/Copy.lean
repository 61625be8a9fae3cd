import BdevUbi.Device.Geometry
import BdevUbi.Library.Layers
import BdevUbi.Library.Slots
import BdevUbi.Library.Transitions

/-! `spdk_dd`, from the first request on: the units of a copy in flight, and the functions
that move each of them from one request to the next.

A unit is an io with its buffer. The kernel or the bdev layer carries a request out, and a
poller or a callback sees that later; requests of different ios are carried out and seen in
any order. A call that may fail has its outcome in the event in which it is made.
-/

set_option autoImplicit false

namespace BdevUbi.Dd
open BdevUbi.Library BdevUbi.Device

/-- `uint64_t` values. -/
def u64 (n : Nat) : Nat := n % 2 ^ 64

/-- The difference of two `uint64_t` values. -/
def sub64 (a b : Nat) : Nat := u64 (a + (2 ^ 64 - u64 b))

/-- `SPDK_CEIL_DIV`. -/
def ceilDiv (x y : Nat) : Nat := (x + y - 1) / y

def eagain : Int := 11

def enospc : Int := 28

inductive DdSubmitType where
  | populate
  | read
  | write
  deriving DecidableEq, Repr

inductive DdTargetType where
  | file
  | bdev
  deriving DecidableEq, Repr

structure DdTarget where
  type : DdTargetType
  blockSize : Nat
  totalSize : Nat
  deriving DecidableEq, Repr

/-- What a position of a seek counts. -/
def DdTarget.grain (target : DdTarget) : Nat :=
  match target.type with
  | .file => 1
  | .bdev => target.blockSize

/-- The input, which nobody writes to: its bytes, and the next data and the next hole from a
position on. Holes read as zeros, and data that was found is followed by a hole behind it at the
earliest. -/
structure Source (grain : Nat) where
  byte : Nat → UInt8
  nextData : Nat → Option Nat
  nextHole : Nat → Option Nat
  after : ∀ start next, nextData start = some next → start ≤ next
  hole : ∀ start next, nextData start = some next → ∀ i, start * grain ≤ i → i < next * grain → byte i = 0
  rest : ∀ start, nextData start = none → ∀ i, start * grain ≤ i → byte i = 0
  data : ∀ start next, nextData start = some next → ∀ behind, nextHole next = some behind → next < behind

/-- What `dd_run` has settled when the first request is made. -/
structure DdSetup where
  input : DdTarget
  output : DdTarget
  inputOffset : Nat
  outputOffset : Nat
  ioUnitSize : Nat
  copySize : Nat
  queueDepth : Nat
  -- built with io_uring, and not told to use AIO
  uring : Bool
  -- what `io_setup` was to make, for a copy that uses AIO
  aioContext : Bool
  sparse : Bool
  source : Source input.grain
  -- the output is the input
  shared : Bool
  -- the output is a regular file with O_APPEND
  append : Bool

namespace DdSetup

def readRegionStart (c : DdSetup) : Nat := u64 (c.inputOffset * c.ioUnitSize)

/-- Also `g_job.output.pos`, which never moves. -/
def writeRegionStart (c : DdSetup) : Nat := u64 (c.outputOffset * c.ioUnitSize)

/-- Whole blocks of the output. -/
def blocks (c : DdSetup) (length : Nat) : Nat := ceilDiv length c.output.blockSize * c.output.blockSize

end DdSetup

structure DdIo where
  offset : Nat
  length : Nat
  type : DdSubmitType
  buf : Nat → UInt8

/-- A request to the kernel or to the bdev layer. -/
inductive DdRequest where
  | transfer (type : DdSubmitType) (length offset : Nat)
  | seekData (start : Nat)
  | seekHole (start : Nat)
  deriving DecidableEq, Repr

inductive Flight where
  | submitted (request : DdRequest)
  | transferred (type : DdSubmitType) (res : Int)
  | soughtData (next : Option Nat)
  | soughtHole (next : Option Nat)
  -- not taken, and nobody was told
  | lost
  deriving DecidableEq, Repr

inductive DdAct where
  | exit (rc : Int)
  | showProgress (finish : Bool) (totalBytes : Nat)
  | assertFailed
  deriving DecidableEq, Repr

def DdAct.isExit : DdAct → Bool
  | .exit _ => true
  | _ => false

/-- `g_job`, `g_error` and `g_interrupt`, and around them the requests in flight, the output
and what was done so far. -/
structure DdJob where
  ios : Nat → DdIo
  inputPos : Nat
  outstanding : Nat
  seekQueue : List Nat
  totalBytes : Nat
  incrementalBytes : Nat
  error : Int
  interrupt : Bool
  flight : Nat → Option Flight
  output : Nat → UInt8
  outputSize : Nat
  acts : List DdAct

inductive Submission where
  | accepted
  | refused (rc : Int)
  deriving DecidableEq, Repr

def Submission.rc : Submission → Int
  | .accepted => 0
  | .refused rc => rc

/-- `errno` after a call that failed. -/
structure Errno where
  code : Int
  positive : 0 < code
  deriving DecidableEq, Repr

def enxio : Errno := ⟨6, by decide⟩

/-- The outcomes of the calls that one event can make. -/
structure Outcomes where
  submit : Submission
  seek : Submission
  seekData : Option Errno
  seekHole : Option Errno
  seekEnd : Option Errno
  ftruncate : Option Errno
  deriving DecidableEq, Repr

def Outcomes.fine : Outcomes := ⟨.accepted, .accepted, none, none, none, none⟩

namespace DdJob

def setIo (s : DdJob) (id : Nat) (io : DdIo) : DdJob := { s with ios := Function.update s.ios id io }

def setFlight (s : DdJob) (id : Nat) (flight : Option Flight) : DdJob := { s with flight := Function.update s.flight id flight }

/-- `assert(g_job.outstanding > 0); g_job.outstanding--`. -/
def complete (s : DdJob) : DdJob :=
  if 0 < s.outstanding then { s with outstanding := s.outstanding - 1 } else { s with acts := s.acts ++ [.assertFailed] }

/-- How often `dd_exit` was called. -/
def exits (s : DdJob) : Nat := s.acts.countP DdAct.isExit

/-- Nothing new is started. -/
def Stopping (s : DdJob) : Prop := s.error ≠ 0 ∨ s.interrupt = true

instance (s : DdJob) : Decidable s.Stopping := inferInstanceAs (Decidable (_ ∨ _))

end DdJob

def ddExit (rc : Int) (s : DdJob) : DdJob := { s with acts := s.acts ++ [.exit rc] }

def ddShowProgress (finish : Bool) (s : DdJob) : DdJob :=
  let totalBytes := u64 (s.totalBytes + s.incrementalBytes)
  { s with totalBytes := totalBytes, incrementalBytes := 0, acts := s.acts ++ [.showProgress finish totalBytes] }

/-- The last line of a job without an error. -/
def ddShowEnd (s : DdJob) : DdJob := if s.error = 0 then ddShowProgress true s else s

/-- The branch of most functions for a job that goes no further: the last one ends it. -/
def ddStop (s : DdJob) : DdJob := if s.outstanding = 0 then ddExit s.error (ddShowEnd s) else s

/-- The branch behind `rc != 0`. -/
def ddRefused (rc : Int) (s : DdJob) : DdJob :=
  let s := { s.complete with error := rc }
  if s.outstanding = 0 then ddExit rc s else s

/-- What takes the requests to a target. -/
inductive Carrier where
  | uring
  | aio
  | bdev
  deriving DecidableEq, Repr

/-- Hand a request over. `dd_uring_submit` has no result, and `-errno` may be 0 after
`io_submit`, which does not set it; a bdev has taken the request if its result is 0. -/
def ddSubmit (carrier : Carrier) (id : Nat) (request : DdRequest) (submission : Submission) (s : DdJob) : DdJob :=
  match submission, carrier with
  | .accepted, _ => s.setFlight id (some (.submitted request))
  | .refused _, .uring => s.setFlight id (some .lost)
  | .refused rc, .aio => if rc = 0 then s.setFlight id (some .lost) else ddRefused rc s
  | .refused rc, .bdev => if rc = 0 then s.setFlight id (some (.submitted request)) else ddRefused rc s

/-! ## The functions of the ios -/

section
variable (c : DdSetup) (o : Outcomes)

def DdSetup.carrier (target : DdTarget) : Carrier :=
  match target.type with
  | .file => if c.uring then .uring else .aio
  | .bdev => .bdev

def ddTargetWrite (id : Nat) (s : DdJob) : DdJob :=
  let io := s.ios id
  let length := c.blocks io.length
  let readOffset := sub64 io.offset c.readRegionStart
  let writeOffset := u64 (c.writeRegionStart + readOffset)
  if s.Stopping then ddStop s
  else
    ddSubmit (c.carrier c.output) id (.transfer .write length writeOffset) o.submit
      { s.setIo id { io with type := .write } with
        incrementalBytes := u64 (s.incrementalBytes + io.length)
        outstanding := s.outstanding + 1 }

/-- A job that stops here shows no last line. -/
def ddTargetRead (id : Nat) (s : DdJob) : DdJob :=
  let io := s.ios id
  if s.Stopping then (if s.outstanding = 0 then ddExit s.error s else s)
  else
    ddSubmit (c.carrier c.input) id (.transfer .read io.length io.offset) o.submit
      { s.setIo id { io with type := .read } with outstanding := s.outstanding + 1 }

/-- Take the next part of the input; where it does not fill its last block of the output, the
block is read from there first. -/
def ddTargetPopulateBuffer (id : Nat) (s : DdJob) : DdJob :=
  let readOffset := sub64 s.inputPos c.readRegionStart
  let writeOffset := u64 (c.writeRegionStart + readOffset)
  let io := { s.ios id with offset := s.inputPos, length := min (s.ios id).length (sub64 c.copySize readOffset) }
  let s := s.setIo id io
  if io.length = 0 ∨ s.Stopping then ddStop s
  else
    let s := { s with inputPos := u64 (s.inputPos + io.length) }
    if io.length % c.output.blockSize = 0 then ddTargetRead c o id s
    else
      ddSubmit (c.carrier c.output) id (.transfer .populate (c.blocks io.length) writeOffset) o.submit
        { s.setIo id { io with type := .populate } with outstanding := s.outstanding + 1 }

/-- A file is made as long as a copy without its holes would be. The errno is not negated here. -/
def ddFinalizeOutput (s : DdJob) : DdJob :=
  if 0 < s.outstanding then s
  else
    let size := u64 (c.copySize + c.writeRegionStart)
    let s :=
      match c.output.type, o.seekEnd, o.ftruncate with
      | .file, some errno, _ => { s with error := errno.code }
      | .file, none, failed =>
        if s.outputSize < size then
          match failed with
          | some errno => { s with error := errno.code }
          | none => { s with outputSize := size }
        else s
      | .bdev, _, _ => s
    ddExit s.error (ddShowEnd s)

/-- The position of the next data, unless this io ends here. ENXIO is no error: there is no
more data. Another error is forgotten if something is outstanding. -/
def ddFileSeekData (s : DdJob) : DdJob × Option Nat :=
  match o.seekData with
  | some errno => (if s.outstanding = 0 then ddExit errno.code { s with error := errno.code } else s, none)
  | none =>
    match c.source.nextData s.inputPos with
    | none => (ddFinalizeOutput c o s, none)
    | some next => (s, some next)

/-- Without a hole behind the position the error is ENXIO. -/
def ddFileSeekHole (s : DdJob) : DdJob × Option Nat :=
  match o.seekHole, c.source.nextHole s.inputPos with
  | none, some next => (s, some next)
  | failed, _ =>
    let errno := failed.getD enxio
    (if s.outstanding = 0 then ddExit errno.code { s with error := errno.code } else s, none)

/-- The branch of `dd_target_seek` for files. -/
def ddFileSeek (id : Nat) (s : DdJob) : DdJob :=
  match ddFileSeekData c o s with
  | (s, none) => s
  | (s, some data) =>
    let s := if s.inputPos < data then { s with inputPos := data } else s
    match ddFileSeekHole c o s with
    | (s, none) => s
    | (s, some hole) =>
      let length := if s.inputPos < hole then min c.ioUnitSize (hole - s.inputPos) else c.ioUnitSize
      ddTargetPopulateBuffer c o id (s.setIo id { s.ios id with length := length })

/-- The next part of the input: where the last one ended, or where a seek finds data. The
seeks of a bdev wait for each other in a queue whose first is in flight. -/
def ddTargetSeek (id : Nat) (s : DdJob) : DdJob :=
  if c.sparse = false then ddTargetPopulateBuffer c o id s
  else if sub64 c.copySize (sub64 s.inputPos c.readRegionStart) = 0 ∨ s.Stopping then ddStop s
  else
    match c.input.type with
    | .file => ddFileSeek c o id s
    | .bdev =>
      let queued := { s with seekQueue := s.seekQueue ++ [id] }
      if s.seekQueue = [] then
        ddSubmit .bdev id (.seekData (s.inputPos / c.input.blockSize)) o.seek { queued with outstanding := s.outstanding + 1 }
      else queued

/-- A job that stops here keeps the seek in `outstanding`. -/
def ddBdevSeekDataDone (id : Nat) (next : Option Nat) (s : DdJob) : DdJob :=
  let dequeued := s.seekQueue.tail
  if s.Stopping then ddStop { s with seekQueue := dequeued }
  else
    let s := s.complete
    match next with
    | none => ddFinalizeOutput c o { s with seekQueue := dequeued }
    | some block =>
      let pos := u64 (block * c.input.blockSize)
      ddSubmit .bdev id (.seekHole (pos / c.input.blockSize)) o.seek
        { s with
          inputPos := pos
          outstanding := s.outstanding + 1
          seekQueue := if o.seek.rc ≠ 0 then dequeued else s.seekQueue }

/-- A job that stops here keeps the seek in `outstanding`. The first io of the queue takes
its turn if the input has not come to its end. -/
def ddBdevSeekHoleDone (id : Nat) (next : Option Nat) (s : DdJob) : DdJob :=
  let s := { s with seekQueue := s.seekQueue.tail }
  if s.Stopping then ddStop s
  else
    let s := s.complete
    let length :=
      match next with
      | none => c.ioUnitSize
      | some block => min c.ioUnitSize (sub64 (u64 (block * c.input.blockSize)) s.inputPos)
    let s := ddTargetPopulateBuffer c o id (s.setIo id { s.ios id with length := length })
    match s.seekQueue with
    | [] => s
    | first :: _ =>
      if s.inputPos < c.input.totalSize then
        ddSubmit .bdev first (.seekData (s.inputPos / c.input.blockSize)) o.seek { s with outstanding := s.outstanding + 1 }
      else s

/-- `dd_complete_poll`, and the callbacks of the three transfers of a bdev. -/
def ddAdvance (type : DdSubmitType) (id : Nat) (s : DdJob) : DdJob :=
  let s := s.complete
  match type with
  | .populate => ddTargetRead c o id s
  | .read => ddTargetWrite c o id s
  | .write => ddTargetSeek c o id s

/-- An iteration of `dd_uring_poll`; a completion with EAGAIN stays where it is. -/
def ddUringPoll (id : Nat) (res : Int) (s : DdJob) : DdJob :=
  if res = -eagain then s
  else
    let s := if res < 0 then { s with error := res } else s
    ddAdvance c o (s.ios id).type id (s.setFlight id none)

/-- An iteration of `dd_aio_poll`: what was moved is compared with the io's length, not with
the request's. -/
def ddAioPoll (id : Nat) (res : Int) (s : DdJob) : DdJob :=
  let s := if res ≠ (s.ios id).length then { s with error := -enospc } else s
  ddAdvance c o (s.ios id).type id (s.setFlight id none)

end

/-! ## Runs -/

inductive DdEvent where
  -- the kernel or the bdev layer carries a request out, and has moved this many bytes if it is one that moves bytes
  | perform (id : Nat) (res : Int)
  -- a poller or a callback comes to it
  | complete (id : Nat) (o : Outcomes)
  | pollFailed (rc : Int)
  | statusPoller
  -- `dd_finish`
  | finish
  deriving DecidableEq, Repr

section
variable (c : DdSetup)

/-- What a read of the input finds; the bytes of the source are those of an input that is not
the output. -/
def DdJob.inputByte (s : DdJob) : Nat → UInt8 := if c.shared then s.output else c.source.byte

/-- Where the bytes of a write go: a file with O_APPEND has them at its end, whatever the offset. -/
def DdJob.landing (s : DdJob) (offset : Nat) : Nat := if c.append then s.outputSize else offset

/-- The bytes that a transfer moves, and where to. -/
def DdJob.move (s : DdJob) (id : Nat) (type : DdSubmitType) (count offset : Nat) : DdJob :=
  let io := s.ios id
  match type with
  | .populate => s.setIo id { io with buf := blit io.buf 0 count fun i => s.output (offset + i) }
  | .read => s.setIo id { io with buf := blit io.buf 0 count fun i => s.inputByte c (offset + i) }
  | .write =>
    let offset := s.landing c offset
    { s with
      output := blit s.output offset count io.buf
      outputSize := if count = 0 then s.outputSize else max s.outputSize (offset + count) }

def DdSetup.targetOf : DdSubmitType → DdTarget
  | .read => c.input
  | _ => c.output

def ddPerform (s : DdJob) (id : Nat) (res : Int) : DdRequest → Option DdJob
  | .transfer type length offset =>
    if res ≤ length then some ((s.move c id type res.toNat offset).setFlight id (some (.transferred type res))) else none
  | .seekData start => some (s.setFlight id (some (.soughtData (c.source.nextData start))))
  | .seekHole start => some (s.setFlight id (some (.soughtHole (c.source.nextHole start))))

/-- The callbacks of a bdev do not look at their `success`. The pollers are gone after `dd_exit`. -/
def ddComplete (s : DdJob) (id : Nat) (o : Outcomes) : Flight → Option DdJob
  | .transferred type res =>
    match (c.targetOf type).type with
    | .bdev => some (ddAdvance c o type id (s.setFlight id none))
    | .file =>
      if 0 < s.exits then none
      else some (if c.uring then ddUringPoll c o id res s else ddAioPoll c o id res s)
  | .soughtData next => some (ddBdevSeekDataDone c o id next (s.setFlight id none))
  | .soughtHole next => some (ddBdevSeekHoleDone c o id next (s.setFlight id none))
  | _ => none

/-- Only a copy with a file has a poller for its requests. -/
def DdSetup.Pollerless : Prop := c.input.type = .bdev ∧ c.output.type = .bdev

instance : Decidable c.Pollerless := inferInstanceAs (Decidable (_ ∧ _))

def ddStep (s : DdJob) : DdEvent → Option DdJob
  | .perform id res =>
    match s.flight id with
    | some (.submitted request) => ddPerform c s id res request
    | _ => none
  | .complete id o => (s.flight id).bind (ddComplete c s id o)
  | .pollFailed rc =>
    if 0 < s.exits ∨ 0 ≤ rc ∨ c.uring = true ∧ rc = -eagain ∨ c.Pollerless then none
    else some (if c.uring then { s with error := rc } else ddExit rc s)
  | .statusPoller => if 0 < s.exits then none else some (ddShowProgress false s)
  | .finish => some { s with interrupt := true }

/-- The job before the first request; the buffers are as they were allocated. -/
def DdJob.fresh (buf : Nat → Nat → UInt8) (output : Nat → UInt8) (outputSize : Nat) : DdJob where
  ios := fun id => ⟨0, c.ioUnitSize, .populate, buf id⟩
  inputPos := c.readRegionStart
  outstanding := 0
  seekQueue := []
  totalBytes := 0
  incrementalBytes := 0
  error := 0
  interrupt := false
  flight := fun _ => none
  output := output
  outputSize := outputSize
  acts := []

/-- The loop at the end of `dd_run`: every io is sent off. -/
def ddStart (o : Nat → Outcomes) (s : DdJob) : Nat → DdJob
  | 0 => s
  | n + 1 => ddTargetSeek c (o n) n (ddStart o s n)

/-- The job as `dd_run` leaves it to the pollers. -/
def ddRunning (o : Nat → Outcomes) (buf : Nat → Nat → UInt8) (output : Nat → UInt8) (size : Nat) : DdJob :=
  ddStart c o (.fresh c buf output size) c.queueDepth

end

/-! ## A small copy -/

/-- An input without holes. -/
def Source.plain (grain : Nat) (byte : Nat → UInt8) : Source grain where
  byte := byte
  nextData := some
  nextHole := fun _ => none
  after := fun _ _ found => Nat.le_of_eq (Option.some.inj found)
  hole := by
    intro start next found i first last
    cases found
    omega
  rest := fun _ none => by cases none
  data := fun _ _ _ _ found => by cases found

/-- Six bytes of a file to a bdev with blocks of four: the second part does not fill its block. -/
def sixBytes : DdSetup where
  input := ⟨.file, 1, 6⟩
  output := ⟨.bdev, 4, 8⟩
  inputOffset := 0
  outputOffset := 0
  ioUnitSize := 4
  copySize := 6
  queueDepth := 2
  uring := true
  aioContext := true
  sparse := false
  source := .plain 1 fun i => UInt8.ofNat (i + 1)
  shared := false
  append := false

def sixBytesRunning : DdJob := ddRunning sixBytes (fun _ => .fine) (fun _ _ => 0) (fun _ => 255) 8

/-- All transfers of both parts, one after the other or side by side. -/
def sixBytesEvents : List DdEvent :=
  [.perform 0 4, .complete 0 .fine, .perform 1 4, .complete 1 .fine, .perform 0 4, .complete 0 .fine, .perform 1 2,
    .complete 1 .fine, .perform 1 4, .complete 1 .fine]

end BdevUbi.Dd
