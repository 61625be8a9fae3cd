import BdevUbi.Dd.Regions

/-! What the buffers of a copy hold.

A buffer is filled from the output, then from the input, and then it is written; at each of
these stages more of it is right. The input before the position is copied, or with an io that
is in flight, or it is a hole.
-/

set_option autoImplicit false

namespace BdevUbi.Dd
open BdevUbi.Library

/-! ## The right bytes -/

section
variable (c : DdSetup) (before : Nat → UInt8)

/-- The bytes that the region of the output is to have, with the rest of its last block. -/
def DdSetup.value (i : Nat) : UInt8 :=
  if i < c.copySize then c.source.byte (c.readRegionStart + i) else before (c.writeRegionStart + i)

/-- The bytes of a buffer from `first` on are right. -/
def DdIo.Right (io : DdIo) (first : Nat) : Prop :=
  ∀ j, first ≤ j → j < c.blocks io.length → io.buf j = c.value before (io.offset - c.readRegionStart + j)

/-- A byte of the input is copied; a sparse copy may leave a hole alone. -/
def DdSetup.Copied (output : Nat → UInt8) (i : Nat) : Prop :=
  output (c.writeRegionStart + i) = c.source.byte (c.readRegionStart + i) ∨
    (c.sparse = true ∧ c.source.byte (c.readRegionStart + i) = 0 ∧
      output (c.writeRegionStart + i) = before (c.writeRegionStart + i))

/-- The output is not the input, and a write goes where it is sent. -/
structure DdSetup.Apart : Prop where
  shared : c.shared = false
  append : c.append = false

/-- A poller makes an error of this result. -/
def DdSetup.Notices (io : DdIo) (type : DdSubmitType) (res : Int) : Prop :=
  (c.targetOf type).type = .file ∧ if c.uring then res < 0 else res ≠ io.length

instance (io : DdIo) (type : DdSubmitType) (res : Int) : Decidable (c.Notices io type res) :=
  inferInstanceAs (Decidable (_ ∧ _))

/-- What a request in flight knows of its buffer and of the output. -/
def Stage (output : Nat → UInt8) (io : DdIo) : Flight → Prop
  | .submitted (.transfer .read _ _) => io.Right c before io.length
  | .submitted (.transfer .write _ _) => io.Right c before 0
  | .transferred .populate res => c.Notices io .populate res ∨ io.Right c before io.length
  | .transferred .read res => c.Notices io .read res ∨ io.Right c before 0
  | .transferred .write res =>
    c.Notices io .write res ∨
      ∀ j, j < c.blocks io.length → output (c.place io + j) = c.value before (io.offset - c.readRegionStart + j)
  | _ => True

/-- A byte of the input belongs to the part of an io. -/
def DdSetup.Within (io : DdIo) (i : Nat) : Prop := io.offset ≤ c.readRegionStart + i ∧ c.readRegionStart + i < io.offset + io.length

/-- Nothing is left to be read but a hole. -/
def DdJob.AtEnd (s : DdJob) : Prop :=
  ∀ i, s.inputPos ≤ c.readRegionStart + i → i < c.copySize → c.sparse = true ∧ c.source.byte (c.readRegionStart + i) = 0

/-- The job and its output; `own` is an io that has a part and is between two requests. -/
structure DdJob.Filled (own : Option Nat) (s : DdJob) : Prop where
  ahead : ∀ i, s.inputPos ≤ c.readRegionStart + i → s.output (c.writeRegionStart + i) = before (c.writeRegionStart + i)
  stages : ∀ id flight, s.flight id = some flight → Stage c before s.output (s.ios id) flight
  lengths : c.sparse = false → ∀ id,
    (s.ios id).length = c.ioUnitSize ∨ s.inputPos = c.readRegionStart + c.copySize ∨ s.Stopping
  taken : s.Stopping ∨ ∀ i, c.readRegionStart + i < s.inputPos → c.Copied before s.output i ∨
    ∃ id, (own = some id ∨ ∃ flight, s.flight id = some flight ∧ flight.moves = true) ∧ c.Within (s.ios id) i
  ended : .exit 0 ∈ s.acts → s.interrupt = true ∨ ∀ i, i < c.copySize → c.Copied before s.output i

end

section
variable {c : DdSetup} {before : Nat → UInt8} {o : Outcomes} {own : Option Nat} {id : Nat} {s s' s'' : DdJob}

theorem DdIo.Right.congr {io io' : DdIo} {first : Nat} (right : io.Right c before first) (offset : io'.offset = io.offset)
    (length : io'.length = io.length) (buf : io'.buf = io.buf) : io'.Right c before first := by
  unfold DdIo.Right
  rw [offset, length, buf]
  exact right

theorem DdJob.Filled.same (filled : s.Filled c before own) (ios : s'.ios = s.ios) (pos : s'.inputPos = s.inputPos)
    (flight : s'.flight = s.flight) (output : s'.output = s.output) (stopping : s.Stopping → s'.Stopping)
    (interrupt : s.interrupt = true → s'.interrupt = true) (acts : .exit 0 ∈ s'.acts → .exit 0 ∈ s.acts) :
    s'.Filled c before own := by
  constructor
  · rw [pos, output]
    exact filled.ahead
  · rw [flight, output, ios]
    exact filled.stages
  · intro plain id
    rw [ios, pos]
    exact (filled.lengths plain id).imp_right (Or.imp_right stopping)
  · rw [pos, output, flight, ios]
    exact filled.taken.imp_left stopping
  · intro finished
    rw [output]
    exact (filled.ended (acts finished)).imp_left interrupt

/-- The last one to give up ends the job; if nothing was left to be read, all is copied. -/
theorem DdJob.Filled.stopped (filled : s.Filled c before none) (quiet : s.outstanding = 0 → ∀ id, s.flight id = none)
    (finished : s.Stopping ∨ s.AtEnd c) (stopped : Stopped s s') : s'.Filled c before none := by
  have all (none : s.outstanding = 0) (fine : s.error = 0) :
      s.interrupt = true ∨ ∀ i, i < c.copySize → c.Copied before s.output i := by
    have interrupted (stopping : s.Stopping) : s.interrupt = true := by
      rcases stopping with failed | interrupted
      · exact absurd fine failed
      · exact interrupted
    rcases finished with stopping | rest
    · exact Or.inl (interrupted stopping)
    rcases filled.taken with stopping | taken
    · exact Or.inl (interrupted stopping)
    right
    intro i inside
    by_cases read : c.readRegionStart + i < s.inputPos
    · rcases taken i read with copied | ⟨id, free | ⟨flight, held, _⟩, _⟩
      · exact copied
      · cases free
      · rw [quiet none id] at held
        cases held
    · obtain ⟨sparse, hole⟩ := rest i (Nat.not_lt.mp read) inside
      exact Or.inr ⟨sparse, hole, filled.ahead i (Nat.not_lt.mp read)⟩
  cases stopped with
  | waits => exact filled
  | ended none =>
    refine ⟨filled.ahead, filled.stages, filled.lengths, filled.taken, ?_⟩
    intro finished
    rcases mem_exit finished with old | fine
    · exact filled.ended old
    · exact all none fine
  | shown none fine =>
    refine ⟨filled.ahead, filled.stages, filled.lengths, filled.taken, ?_⟩
    intro _
    exact all none fine

/-- The position moves over a hole. -/
theorem DdJob.Filled.forward (filled : s.Filled c before none) (sparse : c.sparse = true) {pos : Nat} (le : s.inputPos ≤ pos)
    (hole : ∀ i, s.inputPos ≤ c.readRegionStart + i → c.readRegionStart + i < pos → c.source.byte (c.readRegionStart + i) = 0) :
    ({ s with inputPos := pos } : DdJob).Filled c before none := by
  refine ⟨fun i after => filled.ahead i (Nat.le_trans le after), filled.stages, ?_, ?_, filled.ended⟩
  · intro plain
    rw [sparse] at plain
    cases plain
  · refine filled.taken.imp_right ?_
    intro taken i read
    by_cases old : c.readRegionStart + i < s.inputPos
    · exact taken i old
    · exact Or.inl (Or.inr ⟨sparse, hole i (Nat.not_lt.mp old) read, filled.ahead i (Nat.not_lt.mp old)⟩)

/-- An idle io is written to. -/
theorem DdJob.Filled.setIo (filled : s.Filled c before none) (idle : s.flight id = none) {io : DdIo}
    (length : c.sparse = false → io.length = c.ioUnitSize ∨ s.inputPos = c.readRegionStart + c.copySize ∨ s.Stopping) :
    (s.setIo id io).Filled c before none := by
  have other {id' : Nat} {flight : Flight} (held : s.flight id' = some flight) : (s.setIo id io).ios id' = s.ios id' := by
    apply Function.update_of_ne
    rintro rfl
    rw [idle] at held
    cases held
  refine ⟨filled.ahead, ?_, ?_, ?_, filled.ended⟩
  · intro id' flight held
    rw [other held]
    exact filled.stages id' flight held
  · intro plain id'
    by_cases same : id' = id
    · rw [same]
      simp only [DdJob.setIo, Function.update_self]
      exact length plain
    · simp only [DdJob.setIo, Function.update_of_ne same]
      exact filled.lengths plain id'
  · refine filled.taken.imp_right ?_
    intro taken i read
    rcases taken i read with copied | ⟨id', free | ⟨flight, held, moves⟩, within⟩
    · exact Or.inl copied
    · cases free
    · exact Or.inr ⟨id', Or.inr ⟨flight, held, moves⟩, (other held).symm ▸ within⟩

/-- A part is given up when the job stops, or when it is copied. -/
theorem DdJob.Filled.drop (filled : s.Filled c before (some id))
    (finished : s.Stopping ∨ ∀ i, c.Within (s.ios id) i → c.Copied before s.output i) : s.Filled c before none := by
  refine ⟨filled.ahead, filled.stages, filled.lengths, ?_, filled.ended⟩
  rcases finished with stopping | copied
  · exact Or.inl stopping
  · refine filled.taken.imp_right ?_
    intro taken i read
    rcases taken i read with old | ⟨id', free | held, within⟩
    · exact Or.inl old
    · cases free
      exact Or.inl (copied i within)
    · exact Or.inr ⟨id', Or.inr held, within⟩

/-- The io with the part has its next request, or the job stops. -/
theorem DdJob.Filled.submitted {request : DdRequest} (filled : s'.Filled c before own)
    (free : own = none ∨ own = some id ∧ request.moves = true) (idle : s'.flight id = none)
    (stage : Stage c before s'.output (s'.ios id) (.submitted request)) (submitted : Submitted s s' id request s'') :
    s''.Filled c before none := by
  -- the request is on its way, or nobody was told that it is not
  have started (flight : Flight) (here : Stage c before s'.output (s'.ios id) flight)
      (moves : own = some id → flight.moves = true) : (s'.setFlight id (some flight)).Filled c before none := by
    refine ⟨filled.ahead, ?_, filled.lengths, ?_, filled.ended⟩
    · intro other flight' held
      rcases held_update held with old | ⟨same, new⟩
      · exact filled.stages other flight' old
      · cases new
        exact same ▸ here
    · refine filled.taken.imp_right ?_
      intro taken i read
      rcases taken i read with copied | ⟨other, claimed | ⟨flight', held, seen⟩, within⟩
      · exact Or.inl copied
      · rcases free with none | ⟨mine, _⟩
        · rw [none] at claimed
          cases claimed
        · have same : id = other := Option.some.inj (mine.symm.trans claimed)
          refine Or.inr ⟨id, Or.inr ⟨flight, Function.update_self .., moves mine⟩, ?_⟩
          rw [same]
          exact within
      · have different : other ≠ id := by
          rintro rfl
          rw [idle] at held
          cases held
        exact Or.inr ⟨other, Or.inr ⟨flight', (Function.update_of_ne different _ _).trans held, seen⟩, within⟩
  have given {rc : Int} (failed : rc ≠ 0) :
      ({ s' with outstanding := s.outstanding, error := rc } : DdJob).Filled c before none := by
    refine ⟨filled.ahead, filled.stages, ?_, Or.inl (Or.inl failed), filled.ended⟩
    exact fun _ _ => Or.inr (Or.inr (Or.inl failed))
  cases submitted with
  | taken =>
    refine started _ stage ?_
    intro mine
    rcases free with none | ⟨_, moves⟩
    · rw [none] at mine
      cases mine
    · exact moves
  | lost => exact started .lost trivial fun _ => rfl
  | refused failed => exact given failed
  | ended failed =>
    refine (given failed).same rfl rfl rfl rfl (fun stopping => stopping) (fun interrupt => interrupt) ?_
    exact fun finished => (mem_exit finished).resolve_right failed

/-- The io between two requests keeps its part. -/
theorem DdJob.Filled.setOwn (filled : s.Filled c before (some id)) (idle : s.flight id = none) (io : DdIo)
    (offset : io.offset = (s.ios id).offset) (length : io.length = (s.ios id).length) :
    (s.setIo id io).Filled c before (some id) := by
  refine ⟨filled.ahead, ?_, ?_, ?_, filled.ended⟩
  · intro other flight held
    have different : other ≠ id := by
      rintro rfl
      have none : s.flight other = some flight := held
      rw [idle] at none
      cases none
    simp only [DdJob.setIo, Function.update_of_ne different]
    exact filled.stages other flight held
  · intro plain other
    by_cases same : other = id
    · rw [same]
      simp only [DdJob.setIo, Function.update_self, length]
      exact filled.lengths plain id
    · simp only [DdJob.setIo, Function.update_of_ne same]
      exact filled.lengths plain other
  · refine filled.taken.imp_right ?_
    intro taken i read
    rcases taken i read with copied | ⟨other, held, within⟩
    · exact Or.inl copied
    · refine Or.inr ⟨other, held, ?_⟩
      by_cases same : other = id
      · rw [same] at within ⊢
        simp only [DdJob.setIo, Function.update_self, DdSetup.Within, offset, length]
        exact within
      · simp only [DdJob.setIo, Function.update_of_ne same]
        exact within

/-! ## The functions -/

/-- The io that takes a part has it before its first request. -/
theorem DdJob.Filled.claimed (regular : c.Regular) (placed : s.Placed c before) (filled : s.Filled c before none)
    (idle : s.flight id = none) (running : ¬ s.Stopping) (part : (s.claim c id).length ≠ 0) (type : DdSubmitType) :
    ((s.claimed c id).requested id (s.claim c id) type).Filled c before (some id) := by
  obtain ⟨_, _, region, _⟩ := claim_part regular placed running part
  have length := claim_length regular.read placed.region id
  have read := regular.read
  have pos : ((s.claimed c id).requested id (s.claim c id) type).inputPos = s.inputPos + (s.claim c id).length :=
    u64_of_lt (by omega)
  have own : ((s.claimed c id).requested id (s.claim c id) type).ios id = { s.claim c id with type := type } :=
    Function.update_self ..
  have other {id' : Nat} (different : id' ≠ id) : ((s.claimed c id).requested id (s.claim c id) type).ios id' = s.ios id' := by
    simp only [DdJob.requested, DdJob.claimed, DdJob.setIo, Function.update_of_ne different]
  have apart {id' : Nat} {flight : Flight} (held : s.flight id' = some flight) : id' ≠ id := by
    rintro rfl
    rw [idle] at held
    cases held
  refine ⟨?_, ?_, ?_, ?_, filled.ended⟩
  · intro i after
    rw [pos] at after
    exact filled.ahead i (Nat.le_trans (Nat.le_add_right _ _) after)
  · intro id' flight held
    rw [other (apart held)]
    exact filled.stages id' flight held
  · intro plain id'
    rw [pos]
    have unit (id' : Nat) : (s.ios id').length = c.ioUnitSize := by
      rcases filled.lengths plain id' with unit | last | stopping
      · exact unit
      · omega
      · exact absurd stopping running
    by_cases same : id' = id
    · rw [same, own]
      have here := unit id
      simp only
      omega
    · rw [other same]
      exact Or.inl (unit id')
  · right
    intro i before'
    rw [pos] at before'
    by_cases old : c.readRegionStart + i < s.inputPos
    · rcases filled.taken with stopping | taken
      · exact absurd stopping running
      rcases taken i old with copied | ⟨id', free | held, within⟩
      · exact Or.inl copied
      · cases free
      · obtain ⟨flight, held, moves⟩ := held
        refine Or.inr ⟨id', Or.inr ⟨flight, held, moves⟩, ?_⟩
        rw [other (apart held)]
        exact within
    · refine Or.inr ⟨id, Or.inl rfl, ?_⟩
      rw [own]
      exact ⟨Nat.not_lt.mp old, before'⟩

/-- Nothing is left to be read. -/
theorem atEnd_of_pos (last : s.inputPos = c.readRegionStart + c.copySize) : s.AtEnd c := by
  intro i after inside
  omega

theorem Populated.filled (populated : Populated c id s s') (regular : c.Regular) (placed : s.Placed c before)
    (filled : s.Filled c before none) (idle : s.flight id = none) (quiet : s.outstanding = 0 → ∀ id, s.flight id = none)
    (positive : 0 < (s.ios id).length ∨ s.inputPos = c.readRegionStart + c.copySize ∨ s.Stopping) : s'.Filled c before none := by
  have own (type : DdSubmitType) : ((s.claimed c id).requested id (s.claim c id) type).ios id =
      { s.claim c id with type := type } := Function.update_self ..
  cases populated with
  | stopped finished stopped =>
    have length := claim_length regular.read placed.region id
    have last : s.inputPos = c.readRegionStart + c.copySize ∨ s.Stopping := by
      rcases finished with none | stopping
      · rcases positive with positive | rest
        · have region := placed.region.2
          left
          omega
        · exact rest
      · exact Or.inr stopping
    have kept : (s.setIo id (s.claim c id)).Filled c before none := filled.setIo idle fun _ => Or.inr last
    refine DdJob.Filled.stopped kept quiet ?_ stopped
    rcases last with last | stopping
    · exact Or.inr (atEnd_of_pos last)
    · exact Or.inl stopping
  | whole some running whole submitted =>
    refine DdJob.Filled.submitted (filled.claimed regular placed idle running some .read) (Or.inr ⟨rfl, rfl⟩) idle ?_ submitted
    rw [own]
    -- whole blocks have no rest
    intro j first last
    simp only [blocks_of_whole regular.block whole] at last
    exact absurd last (Nat.not_lt.mpr first)
  | part some running _ submitted =>
    refine DdJob.Filled.submitted (filled.claimed regular placed idle running some .populate) (Or.inr ⟨rfl, rfl⟩) idle ?_ submitted
    trivial

theorem ReadOn.filled (read : ReadOn id s s') (filled : s.Filled c before (some id)) (idle : s.flight id = none)
    (quiet : s.outstanding = 0 → ∀ id, s.flight id = none)
    (right : s.Stopping ∨ (s.ios id).Right c before (s.ios id).length) : s'.Filled c before none := by
  cases read with
  | stopped stopping stopped => exact (filled.drop (Or.inl stopping)).stopped quiet (Or.inl stopping) stopped
  | asked running submitted =>
    have requested : (s.requested id (s.ios id) .read).Filled c before (some id) :=
      (filled.setOwn idle { s.ios id with type := .read } rfl rfl).same rfl rfl rfl rfl (fun stopping => stopping)
        (fun interrupt => interrupt) fun finished => finished
    refine requested.submitted (Or.inr ⟨rfl, rfl⟩) idle ?_ submitted
    have own : (s.requested id (s.ios id) .read).ios id = { s.ios id with type := .read } := Function.update_self ..
    rw [own]
    exact (right.resolve_left running).congr rfl rfl rfl

theorem Written.filled (written : Written c id s s') (filled : s.Filled c before (some id)) (idle : s.flight id = none)
    (quiet : s.outstanding = 0 → ∀ id, s.flight id = none)
    (right : s.Stopping ∨ (s.ios id).Right c before 0) : s'.Filled c before none := by
  cases written with
  | stopped stopping stopped => exact (filled.drop (Or.inl stopping)).stopped quiet (Or.inl stopping) stopped
  | asked running submitted =>
    have writing : (s.writing id).Filled c before (some id) :=
      (filled.setOwn idle { s.ios id with type := .write } rfl rfl).same rfl rfl rfl rfl (fun stopping => stopping)
        (fun interrupt => interrupt) fun finished => finished
    refine writing.submitted (Or.inr ⟨rfl, rfl⟩) idle ?_ submitted
    have own : (s.writing id).ios id = { s.ios id with type := .write } := Function.update_self ..
    rw [own]
    exact (right.resolve_left running).congr rfl rfl rfl

/-- An error that ends the job. -/
theorem DdJob.Filled.failed (filled : s.Filled c before none) {rc : Int} (failed : rc ≠ 0) :
    (ddExit rc { s with error := rc }).Filled c before none := by
  refine filled.same rfl rfl rfl rfl (fun _ => Or.inl failed) (fun interrupt => interrupt) ?_
  exact fun finished => (mem_exit finished).resolve_right failed

theorem Finalized.filled (finalized : Finalized c s s') (filled : s.Filled c before none)
    (quiet : s.outstanding = 0 → ∀ id, s.flight id = none) (rest : s.AtEnd c) : s'.Filled c before none := by
  cases finalized with
  | waits => exact filled
  | failed errno => exact filled.failed (Int.ne_of_gt errno.positive)
  | @sized size _ _ _ _ stopped =>
    have sized : ({ s with outputSize := size } : DdJob).Filled c before none :=
      filled.same rfl rfl rfl rfl (fun stopping => stopping) (fun interrupt => interrupt) fun finished => finished
    exact sized.stopped quiet (Or.inr rest) stopped

/-- What is left of the region, as the functions compute it. -/
theorem remaining_eq (regular : c.Regular) (region : c.InRegion s.inputPos) :
    sub64 c.copySize (sub64 s.inputPos c.readRegionStart) = c.readRegionStart + c.copySize - s.inputPos := by
  have read := regular.read
  obtain ⟨start, finish⟩ := region
  rw [sub64_of_le start (by omega), sub64_of_le (by omega) (by omega)]
  omega

/-- A search that finds data passes a hole, and one that finds none has passed all. -/
theorem sought_hole {start next : Nat} (here : start * c.input.grain = s.inputPos) (found : c.source.nextData start = some next)
    (i : Nat) (after : s.inputPos ≤ c.readRegionStart + i) (inside : c.readRegionStart + i < next * c.input.grain) :
    c.source.byte (c.readRegionStart + i) = 0 :=
  c.source.hole start next found _ (here ▸ after) inside

theorem sought_rest {start : Nat} (sparse : c.sparse = true) (here : start * c.input.grain = s.inputPos)
    (none : c.source.nextData start = none) : s.AtEnd c :=
  fun _ after _ => ⟨sparse, c.source.rest start none _ (here ▸ after)⟩

theorem FileSought.filled (sought : FileSought c o id s s') (regular : c.Regular) (unit : 0 < c.ioUnitSize) (sparse : c.sparse = true)
    (file : c.input.type = .file) (placed : s.Placed c before) (lined : s.Lined c) (filled : s.Filled c before none)
    (idle : s.flight id = none) (quiet : s.outstanding = 0 → ∀ id, s.flight id = none) : s'.Filled c before none := by
  have one := grain_file file
  have here : s.inputPos * c.input.grain = s.inputPos := by rw [one, Nat.mul_one]
  have forward (pos : Nat) (moved : pos = s.inputPos ∨ c.source.nextData s.inputPos = some pos) :
      ({ s with inputPos := pos } : DdJob).Filled c before none := by
    rcases moved with rfl | found
    · exact filled
    · refine filled.forward sparse (c.source.after _ _ found) ?_
      intro i after inside
      refine sought_hole here found i after ?_
      rw [one, Nat.mul_one]
      exact inside
  cases sought with
  | waits moved => exact forward _ moved
  | ended errno moved => exact (forward _ moved).failed (Int.ne_of_gt errno.positive)
  | noData none => exact (ddFinalizeOutput_cases c o s).filled filled quiet (sought_rest sparse here none)
  | @found pos length found short shape =>
    have aimed := placed.aim regular sparse file (lined.noSeek_of_direct fun _ => file) idle found short shape
    have plain : c.sparse = false → (s.aim id pos length).inputPos = c.readRegionStart + c.copySize := by
      intro plain
      rw [sparse] at plain
      cases plain
    have kept : (s.aim id pos length).Filled c before none :=
      (forward pos (Or.inr found)).setIo idle fun other => Or.inr (Or.inl (plain other))
    refine (ddTargetPopulateBuffer_cases c o id _).filled regular aimed kept idle quiet ?_
    left
    simp only [DdJob.aim, DdJob.setIo, Function.update_self]
    rcases shape with rfl | ⟨hole, _, after, rfl⟩
    · exact unit
    · omega

theorem Sought.filled (sought : Sought c o id s s') (regular : c.Regular) (unit : 0 < c.ioUnitSize) (placed : s.Placed c before)
    (lined : s.Lined c) (filled : s.Filled c before none) (idle : s.flight id = none)
    (quiet : s.outstanding = 0 → ∀ id, s.flight id = none) : s'.Filled c before none := by
  cases sought with
  | plain plain =>
    refine (ddTargetPopulateBuffer_cases c o id s).filled regular placed filled idle quiet ?_
    refine (filled.lengths plain id).imp_left ?_
    intro length
    rw [length]
    exact unit
  | stopped _ finished stopped =>
    refine filled.stopped quiet ?_ stopped
    rcases finished with none | stopping
    · rw [remaining_eq regular placed.region] at none
      have region := placed.region.2
      exact Or.inr (atEnd_of_pos (by omega))
    · exact Or.inl stopping
  | file sparse _ _ file sought => exact sought.filled regular unit sparse file placed lined filled idle quiet
  | asked _ _ _ _ _ submitted =>
    have first : ({ s with seekQueue := [id], outstanding := s.outstanding + 1 } : DdJob).Filled c before none :=
      filled.same rfl rfl rfl rfl (fun stopping => stopping) (fun interrupt => interrupt) fun finished => finished
    refine DdJob.Filled.submitted first (Or.inl rfl) idle ?_ submitted
    trivial
  | queued => exact filled.same rfl rfl rfl rfl (fun stopping => stopping) (fun interrupt => interrupt) fun finished => finished

theorem complete_output (s : DdJob) : s.complete.output = s.output := by
  unfold DdJob.complete
  split <;> rfl

theorem DdJob.Filled.complete (filled : s.Filled c before own) : s.complete.Filled c before own := by
  unfold DdJob.complete
  split
  · exact filled.same rfl rfl rfl rfl (fun stopping => stopping) (fun interrupt => interrupt) fun finished => finished
  · refine filled.same rfl rfl rfl rfl (fun stopping => stopping) (fun interrupt => interrupt) ?_
    intro finished
    simpa using finished

theorem DdJob.Covered.quiet {n : Nat} (covered : s.Covered n) (finished : s.outstanding = 0) (id : Nat) : s.flight id = none := by
  by_contra held
  have inside := covered.inside id held
  have counted := covered.counted
  exact held (busy_eq_zero_iff.mp (by omega) id inside)

/-- A job that stops while a seek is over, and still counted. -/
theorem DdJob.Filled.stopping {n : Nat} (filled : s.Filled c before none) (landed : s.Landed n) (stopping : s.Stopping)
    (stopped : Stopped s.dequeue s') : s'.Filled c before none := by
  have kept : s.dequeue.Filled c before none :=
    filled.same rfl rfl rfl rfl (fun stopping => stopping) (fun interrupt => interrupt) fun finished => finished
  refine kept.stopped ?_ (Or.inl stopping) stopped
  exact landed.dequeue.covered.quiet

theorem DataSought.filled {n : Nat} {next : Option Nat} (sought : DataSought c o id s next s') (regular : c.Regular)
    (placed : s.Placed c before) (filled : s.Filled c before none) (landed : s.Landed n) (idle : s.flight id = none)
    (indirect : ¬ c.Direct) (known : FlightAt c (s.ios id) s.inputPos (.soughtData next)) : s'.Filled c before none := by
  obtain ⟨sparse, bdev⟩ := DdSetup.bdev_of_not_direct indirect
  obtain ⟨start, here, found⟩ := known
  have pos := (complete_frame s).2.2.1
  have hereThen : start * c.input.grain = s.complete.inputPos := here.trans pos.symm
  cases sought with
  | stopping stopping stopped => exact filled.stopping landed stopping stopped
  | noData =>
    have kept : ({ s.complete with seekQueue := s.seekQueue.tail } : DdJob).Filled c before none :=
      filled.complete.same rfl rfl rfl rfl (fun stopping => stopping) (fun interrupt => interrupt) fun finished => finished
    exact (ddFinalizeOutput_cases c o _).filled kept landed.complete.quiet (sought_rest sparse hereThen found.symm)
  | @found block queue _ _ _ submitted =>
    rw [sought_block regular sparse bdev placed.region here found.symm] at submitted
    have after := (sought_data (regular.seeks sparse) placed.region here found.symm).1
    have moved := filled.complete.forward sparse (pos ▸ after) (sought_hole hereThen found.symm)
    have counted : ({ s.complete with
        inputPos := block * c.input.grain, seekQueue := queue, outstanding := s.complete.outstanding + 1 } : DdJob).Filled c before none :=
      moved.same rfl rfl rfl rfl (fun stopping => stopping) (fun interrupt => interrupt) fun finished => finished
    have idleThen : s.complete.flight id = none := (complete_frame s).2.1 ▸ idle
    refine DdJob.Filled.submitted counted (Or.inl rfl) idleThen ?_ submitted
    trivial

theorem HoleSought.filled {n : Nat} {next : Option Nat} (sought : HoleSought c o id s next s') (regular : c.Regular)
    (unit : 0 < c.ioUnitSize) (placed : s.Placed c before) (lined : s.Lined c) (filled : s.Filled c before none) (landed : s.Landed n)
    (noSeek : s.NoSeek) (idle : s.flight id = none) (indirect : ¬ c.Direct) (head : s.seekQueue.head? = some id)
    (known : FlightAt c (s.ios id) s.inputPos (.soughtHole next)) : s'.Filled c before none := by
  have done : (s.holeDone c o id next).Filled c before none := by
    obtain ⟨aimed, _, positive⟩ := placed.atHole regular idle indirect known
    have kept : s.dequeue.Filled c before none :=
      filled.same rfl rfl rfl rfl (fun stopping => stopping) (fun interrupt => interrupt) fun finished => finished
    have idleThen : s.dequeue.complete.flight id = none := (complete_frame s.dequeue).2.1 ▸ idle
    refine (ddTargetPopulateBuffer_cases c o id _).filled regular aimed (kept.complete.setIo idleThen ?_) idleThen
      landed.dequeue.complete.quiet (Or.inl (positive unit))
    intro plain
    rw [(DdSetup.bdev_of_not_direct indirect).1] at plain
    cases plain
  cases sought with
  | stopping stopping stopped => exact filled.stopping landed stopping stopped
  | last => exact done
  | turn _ queue submitted =>
    have counted : ({ s.holeDone c o id next with outstanding := (s.holeDone c o id next).outstanding + 1 } : DdJob).Filled c before none :=
      done.same rfl rfl rfl rfl (fun stopping => stopping) (fun interrupt => interrupt) fun finished => finished
    have free := holeDone_idle lined noSeek head next queue
    refine DdJob.Filled.submitted counted (Or.inl rfl) free ?_ submitted
    trivial

end

end BdevUbi.Dd
