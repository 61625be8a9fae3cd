import BdevUbi.Dd.Queue

/-! The parts of the input that the ios of a copy have.

Each io in flight has a part of the input, and the parts lie before the position of the next
one. In a regular copy every part but the last ends with a block of the output.
-/

set_option autoImplicit false

namespace BdevUbi.Dd
open BdevUbi.Library

/-! ## Blocks and 64 bits -/

theorem u64_of_lt {n : Nat} (small : n < 2 ^ 64) : u64 n = n := Nat.mod_eq_of_lt small

theorem sub64_of_le {a b : Nat} (le : b ≤ a) (small : a < 2 ^ 64) : sub64 a b = a - b := by
  unfold sub64 u64
  omega

section
variable {c : DdSetup}

theorem blocks_of_whole {length : Nat} (block : 0 < c.output.blockSize) (whole : length % c.output.blockSize = 0) :
    c.blocks length = length := by
  obtain ⟨k, rfl⟩ := Nat.dvd_of_mod_eq_zero whole
  have count : (c.output.blockSize * k + c.output.blockSize - 1) / c.output.blockSize = k := by
    rw [Nat.add_sub_assoc block, Nat.mul_add_div block, Nat.div_eq_of_lt (by omega), Nat.add_zero]
  unfold DdSetup.blocks ceilDiv
  rw [count, Nat.mul_comm]

theorem le_blocks (block : 0 < c.output.blockSize) (length : Nat) : length ≤ c.blocks length := by
  have parts := Nat.div_add_mod (length + c.output.blockSize - 1) c.output.blockSize
  have rest := Nat.mod_lt (length + c.output.blockSize - 1) block
  unfold DdSetup.blocks ceilDiv
  rw [Nat.mul_comm]
  omega

theorem blocks_mono {first second : Nat} (le : first ≤ second) : c.blocks first ≤ c.blocks second := by
  unfold DdSetup.blocks ceilDiv
  exact Nat.mul_le_mul_right _ (Nat.div_le_div_right (by omega))

/-- Whole blocks in front stay whole blocks. -/
theorem blocks_add (block : 0 < c.output.blockSize) {offset : Nat} (whole : offset % c.output.blockSize = 0) (length : Nat) :
    c.blocks (offset + length) = offset + c.blocks length := by
  obtain ⟨k, rfl⟩ := Nat.dvd_of_mod_eq_zero whole
  have count : (c.output.blockSize * k + length + c.output.blockSize - 1) / c.output.blockSize =
      k + (length + c.output.blockSize - 1) / c.output.blockSize := by
    rw [Nat.add_assoc, Nat.add_sub_assoc (by omega), Nat.mul_add_div block]
  unfold DdSetup.blocks ceilDiv
  rw [count, Nat.add_mul, Nat.mul_comm c.output.blockSize k]

end

/-! ## Regular copies -/

namespace DdSetup

/-- A position of the input that lies in the region that is copied, or at its end. -/
def InRegion (c : DdSetup) (pos : Nat) : Prop := c.readRegionStart ≤ pos ∧ pos ≤ c.readRegionStart + c.copySize

/-- The conditions on a seek: the data and the holes of the region begin with a block of the
output, a block of the input is one of the region too, and no hole reaches over the end of the
region to data behind it. -/
structure Seekable (c : DdSetup) : Prop where
  grain : 0 < c.input.grain
  unit : c.input.grain ∣ c.ioUnitSize
  start : c.input.grain ∣ c.readRegionStart
  size : c.input.grain ∣ c.copySize
  data : ∀ first next, c.source.nextData first = some next → c.InRegion (first * c.input.grain) →
    next * c.input.grain ≤ c.readRegionStart + c.copySize ∧
      (next * c.input.grain - c.readRegionStart) % c.output.blockSize = 0
  hole : ∀ first next, c.source.nextHole first = some next → c.InRegion (first * c.input.grain) →
    next * c.input.grain < 2 ^ 64 ∧ (next * c.input.grain - c.readRegionStart) % c.output.blockSize = 0

/-- A unit is some blocks of the output, and both regions lie below 2^64. -/
structure Regular (c : DdSetup) : Prop where
  block : 0 < c.output.blockSize
  unit : c.ioUnitSize % c.output.blockSize = 0
  read : c.readRegionStart + c.copySize < 2 ^ 64
  write : c.writeRegionStart + c.blocks c.copySize < 2 ^ 64
  seeks : c.sparse = true → c.Seekable

end DdSetup

/-- The part of the input that an io has, before the position `pos`. -/
structure Part (c : DdSetup) (io : DdIo) (pos : Nat) : Prop where
  start : c.readRegionStart ≤ io.offset
  aligned : (io.offset - c.readRegionStart) % c.output.blockSize = 0
  some : 0 < io.length
  finish : io.offset + io.length ≤ pos
  whole : io.length % c.output.blockSize = 0 ∨ io.offset + io.length = c.readRegionStart + c.copySize

/-- The place of a part in the output. -/
def DdSetup.place (c : DdSetup) (io : DdIo) : Nat := c.writeRegionStart + (io.offset - c.readRegionStart)

/-- What is known of a request from the io that made it. -/
def FlightAt (c : DdSetup) (io : DdIo) (pos : Nat) : Flight → Prop
  | .submitted (.transfer .read length offset) => Part c io pos ∧ io.type = .read ∧ length = io.length ∧ offset = io.offset
  | .submitted (.transfer type length offset) =>
    Part c io pos ∧ io.type = type ∧ length = c.blocks io.length ∧ offset = c.place io
  | .submitted (.seekData start) => start * c.input.grain = pos
  | .submitted (.seekHole start) => start * c.input.grain = pos ∧ ∃ first, c.source.nextData first = some start
  | .transferred type _ => Part c io pos ∧ io.type = type
  | .soughtData next => ∃ start, start * c.input.grain = pos ∧ next = c.source.nextData start
  | .soughtHole next =>
    ∃ start, start * c.input.grain = pos ∧ (∃ first, c.source.nextData first = some start) ∧ next = c.source.nextHole start
  | .lost => True

/-- A length that leaves the next part at the begin of a block, if there is one. -/
def DdJob.Divides (c : DdSetup) (s : DdJob) (length : Nat) : Prop :=
  length % c.output.blockSize = 0 ∨ s.inputPos = c.readRegionStart + c.copySize ∨ s.Stopping

/-- The job keeps to its regions; `before` is the output as it was. -/
structure DdJob.Placed (c : DdSetup) (before : Nat → UInt8) (s : DdJob) : Prop where
  region : c.InRegion s.inputPos
  aligned : (s.inputPos - c.readRegionStart) % c.output.blockSize = 0 ∨ s.inputPos = c.readRegionStart + c.copySize
  grain : c.sparse = true → c.input.grain ∣ s.inputPos
  lengths : ∀ id, (s.ios id).length ≤ c.ioUnitSize ∧ s.Divides c (s.ios id).length
  flights : ∀ id flight, s.flight id = some flight → FlightAt c (s.ios id) s.inputPos flight
  around : c.append = false → ∀ a, a < c.writeRegionStart ∨ c.writeRegionStart + c.blocks c.copySize ≤ a → s.output a = before a

section
variable {c : DdSetup} {before : Nat → UInt8} {o : Outcomes} {id : Nat} {s s' s'' : DdJob}

theorem Part.mono {io : DdIo} {pos pos' : Nat} (part : Part c io pos) (le : pos ≤ pos') : Part c io pos' :=
  ⟨part.start, part.aligned, part.some, Nat.le_trans part.finish le, part.whole⟩

/-- Neither the type nor the buffer is part of it. -/
theorem Part.congr {io io' : DdIo} {pos : Nat} (part : Part c io pos) (offset : io'.offset = io.offset)
    (length : io'.length = io.length) : Part c io' pos := by
  constructor
  · rw [offset]
    exact part.start
  · rw [offset]
    exact part.aligned
  · rw [length]
    exact part.some
  · rw [offset, length]
    exact part.finish
  · rw [offset, length]
    exact part.whole

/-- A part has its place in the region of the output. -/
theorem Part.place_le {io : DdIo} {pos : Nat} (part : Part c io pos) (block : 0 < c.output.blockSize)
    (region : pos ≤ c.readRegionStart + c.copySize) :
    c.place io + c.blocks io.length ≤ c.writeRegionStart + c.blocks c.copySize := by
  have finish := part.finish
  have start := part.start
  have blocks := blocks_add block part.aligned io.length
  have whole : c.blocks (io.offset - c.readRegionStart + io.length) ≤ c.blocks c.copySize := blocks_mono (by omega)
  unfold DdSetup.place
  omega

/-- The place is the offset that the functions compute. -/
theorem Part.place_eq {io : DdIo} {pos : Nat} (part : Part c io pos) (regular : c.Regular)
    (region : pos ≤ c.readRegionStart + c.copySize) :
    u64 (c.writeRegionStart + sub64 io.offset c.readRegionStart) = c.place io := by
  have read := regular.read
  have write := regular.write
  have finish := part.finish
  have le := part.place_le regular.block region
  have more := le_blocks regular.block io.length
  rw [sub64_of_le part.start (by omega)]
  unfold DdSetup.place at le ⊢
  exact u64_of_lt (by omega)

/-- A transfer does not mind that the position moves on. -/
theorem FlightAt.mono {io : DdIo} {pos pos' : Nat} {flight : Flight} (known : FlightAt c io pos flight) (le : pos ≤ pos')
    (moves : flight.moves = true) : FlightAt c io pos' flight := by
  cases flight with
  | submitted request =>
    cases request with
    | transfer type length offset =>
      cases type with
      | read => exact ⟨known.1.mono le, known.2⟩
      | populate => exact ⟨known.1.mono le, known.2⟩
      | write => exact ⟨known.1.mono le, known.2⟩
    | seekData start => cases moves
    | seekHole start => cases moves
  | transferred type res => exact ⟨known.1.mono le, known.2⟩
  | soughtData next => cases moves
  | soughtHole next => cases moves
  | lost => trivial

theorem claim_length (read : c.readRegionStart + c.copySize < 2 ^ 64) (region : c.InRegion s.inputPos) (id : Nat) :
    (s.claim c id).length = min (s.ios id).length (c.readRegionStart + c.copySize - s.inputPos) := by
  obtain ⟨start, finish⟩ := region
  have inside : sub64 s.inputPos c.readRegionStart = s.inputPos - c.readRegionStart := sub64_of_le start (by omega)
  simp only [DdJob.claim]
  rw [inside, sub64_of_le (by omega) (by omega)]
  omega

/-- The part that an io takes, if it takes one. -/
theorem claim_part (regular : c.Regular) (placed : s.Placed c before) (running : ¬ s.Stopping)
    (some : (s.claim c id).length ≠ 0) :
    Part c (s.claim c id) (s.inputPos + (s.claim c id).length) ∧
      (s.inputPos - c.readRegionStart) % c.output.blockSize = 0 ∧
      s.inputPos + (s.claim c id).length ≤ c.readRegionStart + c.copySize ∧ (s.claim c id).length ≤ c.ioUnitSize := by
  have length := claim_length regular.read placed.region id
  obtain ⟨start, finish⟩ := placed.region
  have aligned : (s.inputPos - c.readRegionStart) % c.output.blockSize = 0 := by
    rcases placed.aligned with whole | last
    · exact whole
    · omega
  have unit := (placed.lengths id).1
  refine ⟨⟨start, aligned, Nat.pos_of_ne_zero some, Nat.le_refl _, ?_⟩, aligned, by omega, by omega⟩
  rcases (placed.lengths id).2 with whole | last | stopping
  · by_cases cut : (s.ios id).length ≤ c.readRegionStart + c.copySize - s.inputPos
    · left
      rw [length, Nat.min_eq_left cut]
      exact whole
    · right
      simp only [DdJob.claim] at length ⊢
      omega
  · omega
  · exact absurd stopping running

/-- What a job is known by here. -/
theorem DdJob.Placed.same (placed : s.Placed c before) (ios : s'.ios = s.ios) (pos : s'.inputPos = s.inputPos)
    (flight : s'.flight = s.flight) (output : s'.output = s.output)
    (stopping : s.Stopping → s'.Stopping) : s'.Placed c before := by
  constructor
  · rw [pos]
    exact placed.region
  · rw [pos]
    exact placed.aligned
  · rw [pos]
    exact placed.grain
  · intro id
    rw [ios]
    refine ⟨(placed.lengths id).1, ?_⟩
    unfold DdJob.Divides
    rw [pos]
    exact (placed.lengths id).2.imp_right (Or.imp_right stopping)
  · rw [ios, pos, flight]
    exact placed.flights
  · rw [output]
    exact placed.around

theorem DdJob.Placed.stopped (placed : s.Placed c before) (stopped : Stopped s s') : s'.Placed c before := by
  obtain ⟨ios, flight, output, pos, _, stopping⟩ := stopped.frame
  exact placed.same ios pos flight output stopping

/-- The position moves on, when no seek is in flight. -/
theorem DdJob.Placed.forward (placed : s.Placed c before) (noSeek : s.NoSeek) {pos : Nat} (le : s.inputPos ≤ pos)
    (region : pos ≤ c.readRegionStart + c.copySize)
    (aligned : (pos - c.readRegionStart) % c.output.blockSize = 0 ∨ pos = c.readRegionStart + c.copySize)
    (grain : c.sparse = true → c.input.grain ∣ pos) : ({ s with inputPos := pos } : DdJob).Placed c before := by
  constructor
  · exact ⟨Nat.le_trans placed.region.1 le, region⟩
  · exact aligned
  · exact grain
  · intro id
    refine ⟨(placed.lengths id).1, ?_⟩
    rcases (placed.lengths id).2 with whole | last | stopping
    · exact Or.inl whole
    · exact Or.inr (Or.inl (Nat.le_antisymm region (Nat.le_trans (Nat.le_of_eq last.symm) le)))
    · exact Or.inr (Or.inr stopping)
  · intro id flight held
    exact (placed.flights id flight held).mono le (noSeek id flight held)
  · exact placed.around

/-- An idle io is written to. -/
theorem DdJob.Placed.setIo (placed : s.Placed c before) (idle : s.flight id = none) (io : DdIo) (unit : io.length ≤ c.ioUnitSize)
    (divides : s.Divides c io.length) : (s.setIo id io).Placed c before := by
  constructor
  · exact placed.region
  · exact placed.aligned
  · exact placed.grain
  · intro other
    by_cases same : other = id
    · rw [same]
      simp only [DdJob.setIo, Function.update_self]
      exact ⟨unit, divides⟩
    · simp only [DdJob.setIo, Function.update_of_ne same]
      exact placed.lengths other
  · intro other flight held
    by_cases same : other = id
    · rw [same] at held
      have none : s.flight id = some flight := held
      rw [idle] at none
      cases none
    · simp only [DdJob.setIo, Function.update_of_ne same]
      exact placed.flights other flight held
  · exact placed.around

/-- A request is known from the io, and nothing else is in doubt. -/
theorem DdJob.Placed.submitted {request : DdRequest} (placed : s'.Placed c before)
    (known : FlightAt c (s'.ios id) s'.inputPos (.submitted request)) (submitted : Submitted s s' id request s'') :
    s''.Placed c before := by
  obtain ⟨ios, output, pos, _, others, own, stopping⟩ := submitted.frame
  constructor
  · rw [pos]
    exact placed.region
  · rw [pos]
    exact placed.aligned
  · rw [pos]
    exact placed.grain
  · intro other
    rw [ios]
    refine ⟨(placed.lengths other).1, ?_⟩
    unfold DdJob.Divides
    rw [pos]
    exact (placed.lengths other).2.imp_right (Or.imp_right stopping)
  · intro other flight held
    rw [ios, pos]
    by_cases same : other = id
    · rw [same] at held ⊢
      rcases own with ⟨taken, _⟩ | ⟨lost, _⟩ | refused
      · rw [taken] at held
        cases held
        exact known
      · rw [lost] at held
        cases held
        trivial
      · exact placed.flights id flight (refused ▸ held)
    · exact placed.flights other flight (others other same ▸ held)
  · rw [output]
    exact placed.around

end

end BdevUbi.Dd
