import BdevUbi.Dd.Parts

/-! Where a copy reads and writes.

Every function keeps the parts of the ios where they belong. So no request leaves the two
regions, and what lies around the region of the output stays as it is if the bytes go there.
-/

set_option autoImplicit false

namespace BdevUbi.Dd
open BdevUbi.Library

/-! ## The functions -/

section
variable {c : DdSetup} {before : Nat → UInt8} {o : Outcomes} {id : Nat} {s s' s'' : DdJob}

/-- The job once an idle io has taken its part. -/
theorem DdJob.Placed.claimed (regular : c.Regular) (placed : s.Placed c before) (noSeek : s.NoSeek) (idle : s.flight id = none)
    (grain : c.sparse = true → c.input.grain ∣ (s.ios id).length) (running : ¬ s.Stopping)
    (some : (s.claim c id).length ≠ 0) : (s.claimed c id).Placed c before := by
  obtain ⟨part, aligned, region, unit⟩ := claim_part regular placed running some
  have length := claim_length regular.read placed.region id
  have read := regular.read
  have start := placed.region.1
  have pos : u64 (s.inputPos + (s.claim c id).length) = s.inputPos + (s.claim c id).length := u64_of_lt (by omega)
  have finish : (s.inputPos + (s.claim c id).length - c.readRegionStart) % c.output.blockSize = 0 ∨
      s.inputPos + (s.claim c id).length = c.readRegionStart + c.copySize := by
    rcases part.whole with whole | last
    · left
      rw [Nat.add_comm, Nat.add_sub_assoc start, Nat.add_mod, whole, aligned]
      rfl
    · exact Or.inr last
  have dvd (sparse : c.sparse = true) : c.input.grain ∣ s.inputPos + (s.claim c id).length := by
    have seekable := regular.seeks sparse
    have here := placed.grain sparse
    apply Nat.dvd_add here
    rw [length]
    rcases Nat.le_total (s.ios id).length (c.readRegionStart + c.copySize - s.inputPos) with le | le
    · rw [Nat.min_eq_left le]
      exact grain sparse
    · rw [Nat.min_eq_right le]
      exact Nat.dvd_sub (Nat.dvd_add seekable.start seekable.size) here
  have forward := placed.forward noSeek (Nat.le_add_right _ (s.claim c id).length) region finish dvd
  have divides : ({ s with inputPos := s.inputPos + (s.claim c id).length } : DdJob).Divides c (s.claim c id).length := by
    rcases part.whole with whole | last
    · exact Or.inl whole
    · exact Or.inr (Or.inl last)
  unfold DdJob.claimed
  rw [pos]
  exact forward.setIo idle _ unit divides

theorem DdJob.Placed.requested (placed : s.Placed c before) (id : Nat) (idle : s.flight id = none) (type : DdSubmitType) :
    (s.requested id (s.ios id) type).Placed c before :=
  (placed.setIo idle { s.ios id with type := type } (placed.lengths id).1 (placed.lengths id).2).same rfl rfl rfl rfl
    fun stopping => stopping

theorem Populated.placed (populated : Populated c id s s') (regular : c.Regular) (placed : s.Placed c before) (noSeek : s.NoSeek)
    (idle : s.flight id = none) (grain : c.sparse = true → c.input.grain ∣ (s.ios id).length) : s'.Placed c before := by
  have taken (some : (s.claim c id).length ≠ 0) (running : ¬ s.Stopping) (type : DdSubmitType) :
      ((s.claimed c id).requested id (s.claim c id) type).Placed c before ∧
        ((s.claimed c id).requested id (s.claim c id) type).ios id = { s.claim c id with type := type } ∧
        Part c { s.claim c id with type := type } ((s.claimed c id).requested id (s.claim c id) type).inputPos := by
    have claimed := placed.claimed regular noSeek idle grain running some
    have requested := claimed.requested id idle type
    have own : (s.claimed c id).ios id = s.claim c id := Function.update_self ..
    obtain ⟨part, _, region, _⟩ := claim_part regular placed running some
    have read := regular.read
    have pos : (s.claimed c id).inputPos = s.inputPos + (s.claim c id).length := u64_of_lt (by omega)
    rw [own] at requested
    refine ⟨requested, Function.update_self .., ?_⟩
    have same : ((s.claimed c id).requested id (s.claim c id) type).inputPos = s.inputPos + (s.claim c id).length := pos
    rw [same]
    exact part.congr rfl rfl
  cases populated with
  | stopped finished stopped =>
    have length := claim_length regular.read placed.region id
    have unit := (placed.lengths id).1
    have divides : s.Divides c (s.claim c id).length := by
      rcases finished with none | stops
      · left
        rw [none]
        exact Nat.zero_mod _
      · exact Or.inr (Or.inr stops)
    exact (placed.setIo idle _ (by omega) divides).stopped stopped
  | whole some running _ submitted =>
    obtain ⟨requested, own, part⟩ := taken some running .read
    refine requested.submitted ?_ submitted
    rw [own]
    exact ⟨part, rfl, rfl, rfl⟩
  | part some running _ submitted =>
    obtain ⟨requested, own, part⟩ := taken some running .populate
    refine requested.submitted ?_ submitted
    rw [own]
    exact ⟨part, rfl, rfl, part.place_eq regular requested.region.2⟩

/-- The io whose buffer was filled goes on. -/
theorem ReadOn.placed (read : ReadOn id s s') (placed : s.Placed c before) (idle : s.flight id = none)
    (part : Part c (s.ios id) s.inputPos) : s'.Placed c before := by
  cases read with
  | stopped _ stopped => exact placed.stopped stopped
  | asked _ submitted =>
    refine (placed.requested id idle .read).submitted ?_ submitted
    have own : (s.requested id (s.ios id) .read).ios id = { s.ios id with type := .read } := Function.update_self ..
    rw [own]
    exact ⟨part.congr rfl rfl, rfl, rfl, rfl⟩

theorem Written.placed (written : Written c id s s') (regular : c.Regular) (placed : s.Placed c before) (idle : s.flight id = none)
    (part : Part c (s.ios id) s.inputPos) : s'.Placed c before := by
  cases written with
  | stopped _ stopped => exact placed.stopped stopped
  | asked _ submitted =>
    have writing : (s.writing id).Placed c before :=
      (placed.requested id idle .write).same rfl rfl rfl rfl fun stopping => stopping
    refine writing.submitted ?_ submitted
    have own : (s.writing id).ios id = { s.ios id with type := .write } := Function.update_self ..
    rw [own]
    exact ⟨part.congr rfl rfl, rfl, rfl, part.place_eq regular placed.region.2⟩

theorem Finalized.placed (finalized : Finalized c s s') (placed : s.Placed c before) : s'.Placed c before := by
  cases finalized with
  | waits => exact placed
  | failed errno =>
    exact placed.same rfl rfl rfl rfl fun _ => Or.inl (Int.ne_of_gt errno.positive)
  | @sized size _ _ _ _ stopped =>
    have sized : ({ s with outputSize := size } : DdJob).Placed c before :=
      placed.same rfl rfl rfl rfl fun stopping => stopping
    exact sized.stopped stopped

/-! ## Seeks -/

/-- The position of the next data, from a position of the region. -/
theorem sought_data (seekable : c.Seekable) (region : c.InRegion s.inputPos) {start next : Nat}
    (here : start * c.input.grain = s.inputPos) (found : c.source.nextData start = some next) :
    s.inputPos ≤ next * c.input.grain ∧ next * c.input.grain ≤ c.readRegionStart + c.copySize ∧
      (next * c.input.grain - c.readRegionStart) % c.output.blockSize = 0 := by
  have data := seekable.data start next found (here ▸ region)
  refine ⟨?_, data⟩
  rw [← here]
  exact Nat.mul_le_mul_right _ (c.source.after start next found)

/-- A unit, or what is left of one before the next hole. -/
theorem sought_length (regular : c.Regular) (seekable : c.Seekable) {start next : Nat} (region : c.InRegion (start * c.input.grain))
    (aligned : (start * c.input.grain - c.readRegionStart) % c.output.blockSize = 0)
    (found : c.source.nextHole start = some next) (after : start < next) :
    min c.ioUnitSize (next * c.input.grain - start * c.input.grain) % c.output.blockSize = 0 := by
  have hole := seekable.hole start next found region
  have le : start * c.input.grain ≤ next * c.input.grain := Nat.mul_le_mul_right _ (Nat.le_of_lt after)
  have split : next * c.input.grain - start * c.input.grain =
      (next * c.input.grain - c.readRegionStart) - (start * c.input.grain - c.readRegionStart) := by
    have first := region.1
    omega
  have between : (next * c.input.grain - start * c.input.grain) % c.output.blockSize = 0 := by
    rw [split]
    exact Nat.mod_eq_zero_of_dvd (Nat.dvd_sub (Nat.dvd_of_mod_eq_zero hole.2) (Nat.dvd_of_mod_eq_zero aligned))
  rcases Nat.le_total c.ioUnitSize (next * c.input.grain - start * c.input.grain) with short | short
  · rw [Nat.min_eq_left short]
    exact regular.unit
  · rw [Nat.min_eq_right short]
    exact between

theorem grain_file (file : c.input.type = .file) : c.input.grain = 1 := by
  unfold DdTarget.grain
  rw [file]

theorem grain_bdev (bdev : c.input.type = .bdev) : c.input.grain = c.input.blockSize := by
  unfold DdTarget.grain
  rw [bdev]

/-- A file is read on where the next data is. -/
theorem DdJob.Placed.fileForward (regular : c.Regular) (sparse : c.sparse = true) (file : c.input.type = .file)
    (placed : s.Placed c before) (noSeek : s.NoSeek) {pos : Nat}
    (moved : pos = s.inputPos ∨ c.source.nextData s.inputPos = some pos) :
    ({ s with inputPos := pos } : DdJob).Placed c before := by
  have one := grain_file file
  have here : s.inputPos * c.input.grain = s.inputPos := by rw [one, Nat.mul_one]
  rcases moved with rfl | found
  · exact placed
  · obtain ⟨le, region, aligned⟩ := sought_data (regular.seeks sparse) placed.region here found
    rw [one, Nat.mul_one] at le region aligned
    exact placed.forward noSeek le region (Or.inl aligned) fun _ => one ▸ Nat.one_dvd _

/-- The io of a file with the length that it is to read at most. -/
theorem DdJob.Placed.aim (regular : c.Regular) (sparse : c.sparse = true) (file : c.input.type = .file)
    (placed : s.Placed c before) (noSeek : s.NoSeek) (idle : s.flight id = none) {pos length : Nat}
    (found : c.source.nextData s.inputPos = some pos) (unit : length ≤ c.ioUnitSize)
    (shape : length = c.ioUnitSize ∨
      (∃ hole, c.source.nextHole pos = some hole ∧ pos < hole ∧ length = min c.ioUnitSize (hole - pos))) :
    (s.aim id pos length).Placed c before := by
  have one := grain_file file
  have here : s.inputPos * c.input.grain = s.inputPos := by rw [one, Nat.mul_one]
  have moved := placed.fileForward regular sparse file noSeek (Or.inr found)
  have whole : length % c.output.blockSize = 0 := by
    rcases shape with rfl | ⟨hole, behind, after, rfl⟩
    · exact regular.unit
    · obtain ⟨_, _, aligned⟩ := sought_data (regular.seeks sparse) placed.region here found
      have region : c.InRegion (pos * c.input.grain) := by
        rw [one, Nat.mul_one]
        exact moved.region
      have lengths := sought_length regular (regular.seeks sparse) region aligned behind after
      rw [one, Nat.mul_one, Nat.mul_one] at lengths
      exact lengths
  exact moved.setIo idle _ unit (Or.inl whole)

theorem FileSought.placed (sought : FileSought c o id s s') (regular : c.Regular) (sparse : c.sparse = true)
    (file : c.input.type = .file) (placed : s.Placed c before) (noSeek : s.NoSeek) (idle : s.flight id = none) :
    s'.Placed c before := by
  cases sought with
  | waits moved => exact placed.fileForward regular sparse file noSeek moved
  | ended errno moved =>
    exact (placed.fileForward regular sparse file noSeek moved).same rfl rfl rfl rfl
      fun _ => Or.inl (Int.ne_of_gt errno.positive)
  | noData => exact (ddFinalizeOutput_cases c o s).placed placed
  | found found unit shape =>
    have aimed := placed.aim regular sparse file noSeek idle found unit shape
    exact (ddTargetPopulateBuffer_cases c o id _).placed regular aimed noSeek idle
      fun _ => grain_file file ▸ Nat.one_dvd _

/-- The block at the position. -/
theorem DdJob.Placed.block (placed : s.Placed c before) (sparse : c.sparse = true) (bdev : c.input.type = .bdev) :
    s.inputPos / c.input.blockSize * c.input.grain = s.inputPos := by
  have here := placed.grain sparse
  unfold DdTarget.grain at here ⊢
  rw [bdev] at here ⊢
  exact Nat.div_mul_cancel here

/-- The io that has written its part goes on. -/
theorem Sought.placed (sought : Sought c o id s s') (regular : c.Regular) (placed : s.Placed c before) (lined : s.Lined c)
    (idle : s.flight id = none) : s'.Placed c before := by
  cases sought with
  | plain plain =>
    have sparse : c.sparse = true → False := by
      intro sparse
      rw [plain] at sparse
      cases sparse
    exact (ddTargetPopulateBuffer_cases c o id s).placed regular placed
      (lined.noSeek_of_direct fun s => (sparse s).elim) idle fun s => (sparse s).elim
  | stopped _ _ stopped => exact placed.stopped stopped
  | file sparse _ _ file sought => exact sought.placed regular sparse file placed (lined.noSeek_of_direct fun _ => file) idle
  | asked sparse _ _ bdev _ submitted =>
    have first : ({ s with seekQueue := [id], outstanding := s.outstanding + 1 } : DdJob).Placed c before :=
      placed.same rfl rfl rfl rfl fun stopping => stopping
    refine DdJob.Placed.submitted first ?_ submitted
    exact placed.block sparse bdev
  | queued => exact placed.same rfl rfl rfl rfl fun stopping => stopping

theorem DdJob.Placed.land (placed : s.Placed c before) (id : Nat) {error : Int} (stopping : s.error ≠ 0 → error ≠ 0) :
    (({ s with error := error } : DdJob).setFlight id none).Placed c before := by
  refine ⟨placed.region, placed.aligned, placed.grain, ?_, ?_, placed.around⟩
  · intro other
    refine ⟨(placed.lengths other).1, ?_⟩
    exact (placed.lengths other).2.imp_right (Or.imp_right (Or.imp_left stopping))
  · intro other flight held
    exact placed.flights other flight (held_setFlight id other held)

theorem DdJob.Placed.complete (placed : s.Placed c before) : s.complete.Placed c before := by
  unfold DdJob.complete
  split
  · exact placed.same rfl rfl rfl rfl fun stopping => stopping
  · exact placed.same rfl rfl rfl rfl fun stopping => stopping

/-- The position of a block, as a callback computes it. -/
theorem sought_block (regular : c.Regular) (sparse : c.sparse = true) (bdev : c.input.type = .bdev) (region : c.InRegion s.inputPos)
    {start block : Nat} (here : start * c.input.grain = s.inputPos) (found : c.source.nextData start = some block) :
    u64 (block * c.input.blockSize) = block * c.input.grain := by
  have read := regular.read
  have finish := (sought_data (regular.seeks sparse) region here found).2.1
  rw [← grain_bdev bdev]
  exact u64_of_lt (by omega)

theorem DataSought.placed {next : Option Nat} (sought : DataSought c o id s next s') (regular : c.Regular)
    (placed : s.Placed c before) (noSeek : s.NoSeek) (indirect : ¬ c.Direct)
    (known : FlightAt c (s.ios id) s.inputPos (.soughtData next)) : s'.Placed c before := by
  have queued {t : DdJob} (placed : t.Placed c before) (queue : List Nat) :
      ({ t with seekQueue := queue } : DdJob).Placed c before :=
    placed.same rfl rfl rfl rfl fun stopping => stopping
  cases sought with
  | stopping _ stopped => exact (queued placed _).stopped stopped
  | noData => exact (ddFinalizeOutput_cases c o _).placed (queued placed.complete _)
  | @found block queue _ _ _ submitted =>
    obtain ⟨sparse, bdev⟩ := DdSetup.bdev_of_not_direct indirect
    obtain ⟨start, here, found⟩ := known
    have seekable := regular.seeks sparse
    obtain ⟨le, region, aligned⟩ := sought_data seekable placed.region here found.symm
    have grain := grain_bdev bdev
    have positive : 0 < c.input.blockSize := grain ▸ seekable.grain
    have pos := sought_block regular sparse bdev placed.region here found.symm
    have index : block * c.input.grain / c.input.blockSize = block := by
      rw [grain]
      exact Nat.mul_div_cancel _ positive
    rw [pos, index] at submitted
    have moved := placed.complete.forward noSeek.complete
      ((complete_frame s).2.2.1 ▸ le) region (Or.inl aligned) fun _ => Nat.dvd_mul_left _ _
    have counted : ({ s.complete with
        inputPos := block * c.input.grain, seekQueue := queue, outstanding := s.complete.outstanding + 1 } : DdJob).Placed c before :=
      (queued moved queue).same rfl rfl rfl rfl fun stopping => stopping
    refine DdJob.Placed.submitted counted ?_ submitted
    exact ⟨rfl, start, found.symm⟩

/-- The part that ends at a hole, or the whole unit. -/
theorem partLength_placed (regular : c.Regular) (sparse : c.sparse = true) (bdev : c.input.type = .bdev)
    (placed : s.Placed c before) {next : Option Nat} (io : DdIo) (known : FlightAt c io s.inputPos (.soughtHole next)) :
    c.partLength s.inputPos next ≤ c.ioUnitSize ∧ c.input.grain ∣ c.partLength s.inputPos next ∧
      s.Divides c (c.partLength s.inputPos next) ∧ (0 < c.ioUnitSize → 0 < c.partLength s.inputPos next) := by
  have seekable := regular.seeks sparse
  have grain := grain_bdev bdev
  obtain ⟨start, here, ⟨first, data⟩, found⟩ := known
  cases next with
  | none => exact ⟨Nat.le_refl _, seekable.unit, Or.inl regular.unit, fun unit => unit⟩
  | some block =>
    have region : c.InRegion (start * c.input.grain) := here ▸ placed.region
    have after := c.source.data first start data block found.symm
    have small := (seekable.hole start block found.symm region).1
    have le : start * c.input.grain ≤ block * c.input.grain := Nat.mul_le_mul_right _ (Nat.le_of_lt after)
    have length : c.partLength s.inputPos (some block) = min c.ioUnitSize (block * c.input.grain - start * c.input.grain) := by
      simp only [DdSetup.partLength]
      rw [← grain, u64_of_lt small, ← here, sub64_of_le le small]
    rw [length]
    refine ⟨Nat.min_le_left _ _, ?_, ?_, ?_⟩
    · rcases Nat.le_total c.ioUnitSize (block * c.input.grain - start * c.input.grain) with short | short
      · rw [Nat.min_eq_left short]
        exact seekable.unit
      · rw [Nat.min_eq_right short]
        exact Nat.dvd_sub (Nat.dvd_mul_left _ _) (Nat.dvd_mul_left _ _)
    · rcases placed.aligned with aligned | last
      · exact Or.inl (sought_length regular seekable region (here ▸ aligned) found.symm after)
      · exact Or.inr (Or.inl last)
    · intro unit
      have more : start * c.input.grain < block * c.input.grain := Nat.mul_lt_mul_of_pos_right after seekable.grain
      omega

theorem atHole_flight (c : DdSetup) (id : Nat) (next : Option Nat) (s : DdJob) : (s.atHole c id next).flight = s.flight :=
  (complete_frame s.dequeue).2.1

/-- The io that has found the end of its data. -/
theorem DdJob.Placed.atHole (regular : c.Regular) (placed : s.Placed c before) (idle : s.flight id = none) (indirect : ¬ c.Direct)
    {next : Option Nat} (known : FlightAt c (s.ios id) s.inputPos (.soughtHole next)) :
    (s.atHole c id next).Placed c before ∧ c.input.grain ∣ ((s.atHole c id next).ios id).length ∧
      (0 < c.ioUnitSize → 0 < ((s.atHole c id next).ios id).length) := by
  obtain ⟨sparse, bdev⟩ := DdSetup.bdev_of_not_direct indirect
  have dequeued : s.dequeue.Placed c before := placed.same rfl rfl rfl rfl fun stopping => stopping
  obtain ⟨_, flight, pos, _⟩ := complete_frame s.dequeue
  have idleThen : s.dequeue.complete.flight id = none := flight ▸ idle
  obtain ⟨unit, whole, divides, positive⟩ :=
    partLength_placed regular sparse bdev dequeued.complete (s.ios id) (pos ▸ known)
  refine ⟨dequeued.complete.setIo idleThen _ unit divides, ?_⟩
  simp only [DdJob.atHole, DdJob.setIo, Function.update_self]
  exact ⟨whole, positive⟩

theorem HoleSought.placed {next : Option Nat} (sought : HoleSought c o id s next s') (regular : c.Regular)
    (placed : s.Placed c before) (noSeek : s.NoSeek) (idle : s.flight id = none) (indirect : ¬ c.Direct)
    (known : FlightAt c (s.ios id) s.inputPos (.soughtHole next)) : s'.Placed c before := by
  obtain ⟨sparse, bdev⟩ := DdSetup.bdev_of_not_direct indirect
  have done : (s.holeDone c o id next).Placed c before := by
    obtain ⟨aimed, whole, _⟩ := placed.atHole regular idle indirect known
    have flight := atHole_flight c id next s
    have noSeekThen : (s.atHole c id next).NoSeek := by
      unfold DdJob.NoSeek
      rw [flight]
      exact noSeek
    exact (ddTargetPopulateBuffer_cases c o id _).placed regular aimed noSeekThen (flight ▸ idle) fun _ => whole
  cases sought with
  | stopping _ stopped =>
    have dequeued : s.dequeue.Placed c before := placed.same rfl rfl rfl rfl fun stopping => stopping
    exact dequeued.stopped stopped
  | last => exact done
  | turn _ _ submitted =>
    have counted : ({ s.holeDone c o id next with outstanding := (s.holeDone c o id next).outstanding + 1 } : DdJob).Placed c before :=
      done.same rfl rfl rfl rfl fun stopping => stopping
    refine DdJob.Placed.submitted counted ?_ submitted
    exact done.block sparse bdev

/-! ## Every run -/

/-- The buffer is not part of what is known. -/
theorem FlightAt.congr {io io' : DdIo} {pos : Nat} {flight : Flight} (known : FlightAt c io pos flight)
    (offset : io'.offset = io.offset) (length : io'.length = io.length) (type : io'.type = io.type) : FlightAt c io' pos flight := by
  have place : c.place io' = c.place io := by
    unfold DdSetup.place
    rw [offset]
  cases flight with
  | submitted request =>
    cases request with
    | transfer kind count start =>
      cases kind with
      | read => exact ⟨known.1.congr offset length, type.trans known.2.1, length ▸ known.2.2.1, offset ▸ known.2.2.2⟩
      | populate => exact ⟨known.1.congr offset length, type.trans known.2.1, length ▸ known.2.2.1, place ▸ known.2.2.2⟩
      | write => exact ⟨known.1.congr offset length, type.trans known.2.1, length ▸ known.2.2.1, place ▸ known.2.2.2⟩
    | seekData start => exact known
    | seekHole start => exact known
  | transferred kind res => exact ⟨known.1.congr offset length, type.trans known.2⟩
  | soughtData next => exact known
  | soughtHole next => exact known
  | lost => trivial

/-- A write goes where it is sent, if the output is not one that is appended to. -/
theorem move_output (sent : c.append = false) (s : DdJob) (id count start : Nat) :
    (s.move c id .write count start).output = blit s.output start count (s.ios id).buf := by
  simp only [DdJob.move, DdJob.landing, sent, Bool.false_eq_true, ↓reduceIte]

/-- The bytes of a transfer change a buffer, or the output inside its region if they go where they are sent. -/
theorem DdJob.Placed.move (placed : s.Placed c before) (id : Nat) {type : DdSubmitType} {count start : Nat}
    (inside : type = .write → c.writeRegionStart ≤ start ∧ start + count ≤ c.writeRegionStart + c.blocks c.copySize) :
    (s.move c id type count start).Placed c before := by
  have filled (buf : Nat → UInt8) : (s.setIo id { s.ios id with buf := buf }).Placed c before := by
    have same (other : Nat) : ((s.setIo id { s.ios id with buf := buf }).ios other).offset = (s.ios other).offset ∧
        ((s.setIo id { s.ios id with buf := buf }).ios other).length = (s.ios other).length ∧
        ((s.setIo id { s.ios id with buf := buf }).ios other).type = (s.ios other).type := by
      by_cases same : other = id
      · rw [same]
        simp only [DdJob.setIo, Function.update_self, and_self]
      · simp only [DdJob.setIo, Function.update_of_ne same, and_self]
    refine ⟨placed.region, placed.aligned, placed.grain, ?_, ?_, placed.around⟩
    · intro other
      rw [(same other).2.1]
      exact placed.lengths other
    · intro other flight held
      exact (placed.flights other flight held).congr (same other).1 (same other).2.1 (same other).2.2
  cases type with
  | populate => exact filled _
  | read => exact filled _
  | write =>
    refine ⟨placed.region, placed.aligned, placed.grain, placed.lengths, placed.flights, ?_⟩
    intro sent a outside
    obtain ⟨first, last⟩ := inside rfl
    have kept : blit s.output start count (s.ios id).buf a = s.output a := blit_outside (by omega)
    rw [move_output sent]
    exact kept.trans (placed.around sent a outside)

theorem DdJob.Placed.setFlight (placed : s.Placed c before) {flight : Flight} (known : FlightAt c (s.ios id) s.inputPos flight) :
    (s.setFlight id (some flight)).Placed c before := by
  refine ⟨placed.region, placed.aligned, placed.grain, placed.lengths, ?_, placed.around⟩
  intro other flight' held
  rcases held_update held with old | ⟨same, new⟩
  · exact placed.flights other flight' old
  · cases new
    exact same ▸ known

theorem ddPerform_placed (regular : c.Regular) (placed : s.Placed c before) {request : DdRequest} {res : Int}
    (held : s.flight id = some (.submitted request)) (performed : ddPerform c s id res request = some s') : s'.Placed c before := by
  have known := placed.flights id _ held
  cases request with
  | transfer type length start =>
    simp only [ddPerform] at performed
    split at performed
    · rename_i fits
      cases performed
      have part : Part c (s.ios id) s.inputPos ∧ (s.ios id).type = type := by
        cases type with
        | read => exact ⟨known.1, known.2.1⟩
        | populate => exact ⟨known.1, known.2.1⟩
        | write => exact ⟨known.1, known.2.1⟩
      have inside : type = .write → c.writeRegionStart ≤ start ∧ start + res.toNat ≤ c.writeRegionStart + c.blocks c.copySize := by
        rintro rfl
        obtain ⟨part, _, rfl, rfl⟩ := known
        have le := part.place_le regular.block placed.region.2
        refine ⟨Nat.le_add_right _ _, ?_⟩
        omega
      have moved := placed.move id inside
      refine moved.setFlight ?_
      have io : ∀ buf, FlightAt c { s.ios id with buf := buf } s.inputPos (.transferred type res) := fun buf =>
        ⟨part.1.congr rfl rfl, part.2⟩
      cases type with
      | populate =>
        simp only [DdJob.move, DdJob.setIo, Function.update_self]
        exact io _
      | read =>
        simp only [DdJob.move, DdJob.setIo, Function.update_self]
        exact io _
      | write => exact ⟨part.1, part.2⟩
    · cases performed
  | seekData start =>
    cases performed
    exact placed.setFlight ⟨start, known, rfl⟩
  | seekHole start =>
    cases performed
    exact placed.setFlight ⟨start, known.1, known.2, rfl⟩

theorem typeOf_eq {type : DdSubmitType} (same : (s.ios id).type = type) : c.typeOf s id type = type := by
  unfold DdSetup.typeOf
  split
  · rfl
  · exact same

theorem placed_step (regular : c.Regular) {event : DdEvent} (placed : s.Placed c before) (lined : s.Lined c)
    (stepped : ddStep c s event = some s') :
    s'.Placed c before := by
  cases ddStep_cases stepped with
  | performed held performed => exact ddPerform_placed regular placed held performed
  | again => exact placed
  | @advanced id o type res held =>
    obtain ⟨part, same⟩ := placed.flights id _ held
    rw [typeOf_eq same]
    have landed := (placed.land id (errorAfter_ne c s id type res)).complete
    have frame := complete_frame (({ s with error := c.errorAfter s id type res } : DdJob).setFlight id none)
    have idle : (({ s with error := c.errorAfter s id type res } : DdJob).setFlight id none).complete.flight id = none := by
      rw [frame.2.1]
      exact Function.update_self ..
    have here : Part c ((({ s with error := c.errorAfter s id type res } : DdJob).setFlight id none).complete.ios id)
        (({ s with error := c.errorAfter s id type res } : DdJob).setFlight id none).complete.inputPos := by
      rw [frame.1, frame.2.2.1]
      exact part
    cases type with
    | populate => exact (ddTargetRead_cases c o id _).placed landed idle here
    | read => exact (ddTargetWrite_cases c o id _).placed regular landed idle here
    | write => exact (ddTargetSeek_cases c o id _).placed regular landed (lined.land id _).complete idle
  | soughtData held sought =>
    obtain ⟨indirect, _⟩ := lined.seeking _ _ held rfl
    exact sought.placed regular (placed.land _ fun failed => failed) (lined.noSeek held rfl) indirect (placed.flights _ _ held)
  | soughtHole held sought =>
    obtain ⟨indirect, _⟩ := lined.seeking _ _ held rfl
    exact sought.placed regular (placed.land _ fun failed => failed) (lined.noSeek held rfl) (Function.update_self ..) indirect
      (placed.flights _ _ held)
  | pollFailed _ failed => exact placed.same rfl rfl rfl rfl fun _ => Or.inl (Int.ne_of_lt failed)
  | pollEnded => exact placed.same rfl rfl rfl rfl fun stopping => stopping
  | status => exact placed.same rfl rfl rfl rfl fun stopping => stopping
  | interrupted => exact placed.same rfl rfl rfl rfl fun _ => Or.inr rfl

theorem placed_fresh (regular : c.Regular) (buf : Nat → Nat → UInt8) (before : Nat → UInt8) (size : Nat) :
    (DdJob.fresh c buf before size).Placed c before := by
  constructor
  · exact ⟨Nat.le_refl _, Nat.le_add_right _ _⟩
  · left
    simp [DdJob.fresh]
  · exact fun sparse => (regular.seeks sparse).start
  · exact fun _ => ⟨Nat.le_refl _, Or.inl regular.unit⟩
  · intro _ _ held
    cases held
  · intro _ _ _
    rfl

theorem placed_start (regular : c.Regular) (o : Nat → Outcomes) (buf : Nat → Nat → UInt8) (before : Nat → UInt8) (size k : Nat) :
    (ddStart c o (.fresh c buf before size) k).Placed c before := by
  induction k with
  | zero => exact placed_fresh regular buf before size
  | succ k ih =>
    have idle := (start_idle c o buf before size k).1
    exact (ddTargetSeek_cases c (o k) k _).placed regular ih (lined_start c o buf before size k) idle

end

/-- The bytes of a transfer: a part of the region that it belongs to, and no more than a buffer holds. -/
def DdSetup.Inside (c : DdSetup) : DdSubmitType → Nat → Nat → Prop
  | .read, length, offset =>
    c.readRegionStart ≤ offset ∧ offset + length ≤ c.readRegionStart + c.copySize ∧ length ≤ c.ioUnitSize
  | _, length, offset =>
    c.writeRegionStart ≤ offset ∧ offset + length ≤ c.writeRegionStart + c.blocks c.copySize ∧ length ≤ c.ioUnitSize

theorem DdJob.Placed.inside {c : DdSetup} {before : Nat → UInt8} {s : DdJob} (regular : c.Regular) (placed : s.Placed c before)
    {id length offset : Nat} {type : DdSubmitType} (held : s.flight id = some (.submitted (.transfer type length offset))) :
    c.Inside type length offset := by
  have known := placed.flights id _ held
  have unit := (placed.lengths id).1
  have region := placed.region.2
  have whole : c.blocks (s.ios id).length ≤ c.ioUnitSize := by
    rw [← blocks_of_whole regular.block regular.unit]
    exact blocks_mono unit
  cases type with
  | read =>
    obtain ⟨part, _, rfl, rfl⟩ := known
    exact ⟨part.start, Nat.le_trans part.finish region, unit⟩
  | populate =>
    obtain ⟨part, _, rfl, rfl⟩ := known
    exact ⟨Nat.le_add_right _ _, part.place_le regular.block region, whole⟩
  | write =>
    obtain ⟨part, _, rfl, rfl⟩ := known
    exact ⟨Nat.le_add_right _ _, part.place_le regular.block region, whole⟩

/-- A regular copy, sparse or not, reads and writes inside its regions only, with requests that
fit the buffers, whatever the kernel answers, and the output around its region stays as it is, unless
it was opened to be appended to. -/
theorem stays_in_regions (c : DdSetup) (regular : c.Regular) (o : Nat → Outcomes) (buf : Nat → Nat → UInt8)
    (output : Nat → UInt8) (size : Nat) (events : List DdEvent) :
    Always (ddStep c)
      (fun s =>
        (c.append = false →
          ∀ a, a < c.writeRegionStart ∨ c.writeRegionStart + c.blocks c.copySize ≤ a → s.output a = output a) ∧
        ∀ id type length offset, s.flight id = some (.submitted (.transfer type length offset)) → c.Inside type length offset)
      (ddRunning c o buf output size) events := by
  have start : (ddRunning c o buf output size).Placed c output ∧ (ddRunning c o buf output size).Lined c :=
    ⟨placed_start regular o buf output size c.queueDepth, lined_start c o buf output size c.queueDepth⟩
  have preserved (s : DdJob) (event : DdEvent) (s' : DdJob) (sound : s.Placed c output ∧ s.Lined c)
      (stepped : ddStep c s event = some s') : s'.Placed c output ∧ s'.Lined c :=
    ⟨placed_step regular sound.1 sound.2 stepped, lined_step s event s' sound.2 stepped⟩
  refine (always_of_invariant preserved start events).mono ?_
  rintro s ⟨placed, _⟩
  exact ⟨placed.around, fun _ _ _ _ held => placed.inside regular held⟩

theorem sixBytes_regular : sixBytes.Regular :=
  ⟨by decide, by decide, by decide, by decide, fun sparse => by cases sparse⟩

theorem sixBytes_stays_in_regions :
    Always (ddStep sixBytes)
      (fun s =>
        (∀ a, a < sixBytes.writeRegionStart ∨ sixBytes.writeRegionStart + 8 ≤ a → s.output a = 255) ∧
        ∀ id type length offset, s.flight id = some (.submitted (.transfer type length offset)) →
          sixBytes.Inside type length offset)
      sixBytesRunning sixBytesEvents :=
  (stays_in_regions sixBytes sixBytes_regular _ _ _ _ _).mono fun _ inside => ⟨inside.1 rfl, inside.2⟩

end BdevUbi.Dd
