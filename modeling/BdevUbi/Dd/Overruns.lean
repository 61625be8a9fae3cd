import BdevUbi.Dd.Regions

/-! Copies that leave their buffers or their regions.

`dd_run` does not ask for a unit of whole blocks of the output, though a request to the output
is one. And a search for data may find it behind the region.
-/

set_option autoImplicit false

namespace BdevUbi.Dd
open BdevUbi.Library

/-! ## The first request -/

/-- The ios that are sent off later leave the first one alone. -/
theorem ddStart_first (c : DdSetup) (o : Nat → Outcomes) (s : DdJob) (k : Nat) :
    (ddStart c o s (k + 1)).flight 0 = (ddTargetSeek c (o 0) 0 s).flight 0 := by
  induction k with
  | zero => rfl
  | succ k ih =>
    have different : 0 ≠ k + 1 := (Nat.succ_ne_zero k).symm
    rw [← ih]
    rcases (ddTargetSeek_cases c (o (k + 1)) (k + 1) (ddStart c o s (k + 1))).handled.started with ⟨same, _⟩ | ⟨_, started, _⟩
    · exact congrFun same 0
    · exact (congrFun started 0).trans (Function.update_of_ne different _ _)

theorem ddRunning_first (c : DdSetup) (depth : 0 < c.queueDepth) (o : Nat → Outcomes) (buf : Nat → Nat → UInt8)
    (output : Nat → UInt8) (size : Nat) :
    (ddRunning c o buf output size).flight 0 = (ddTargetSeek c (o 0) 0 (.fresh c buf output size)).flight 0 := by
  obtain ⟨k, more⟩ := Nat.exists_eq_add_one.mpr depth
  unfold ddRunning
  rw [more]
  exact ddStart_first c o _ k

section
variable {c : DdSetup} {o : Outcomes} {id : Nat} {s : DdJob}

theorem ddSubmit_accepted (carrier : Carrier) (id : Nat) (request : DdRequest) (s : DdJob) :
    (ddSubmit carrier id request .accepted s).flight id = some (.submitted request) := by
  cases carrier <;> exact Function.update_self ..

/-- The first request for the part that an io takes. -/
def DdJob.opening (c : DdSetup) (id : Nat) (s : DdJob) : DdRequest :=
  let length := (s.claim c id).length
  if length % c.output.blockSize = 0 then .transfer .read length s.inputPos
  else .transfer .populate (c.blocks length) (u64 (c.writeRegionStart + sub64 s.inputPos c.readRegionStart))

theorem populate_opens (id : Nat) (accepted : o.submit = .accepted) (running : ¬ s.Stopping) (some : (s.claim c id).length ≠ 0) :
    (ddTargetPopulateBuffer c o id s).flight id = .some (.submitted (s.opening c id)) := by
  have finished : ¬ ((s.claim c id).length = 0 ∨ s.Stopping) := fun either => either.elim some running
  rw [ddTargetPopulateBuffer_eq]
  simp only [finished, ↓reduceIte, DdJob.opening, accepted]
  by_cases whole : (s.claim c id).length % c.output.blockSize = 0
  · have still : ¬ (s.claimed c id).Stopping := running
    have own : (s.claimed c id).ios id = s.claim c id := Function.update_self ..
    have taken := ddSubmit_accepted (c.carrier c.input) id (.transfer .read (s.claim c id).length s.inputPos)
      ((s.claimed c id).requested id (s.claim c id) .read)
    have read : ddTargetRead c o id (s.claimed c id) = ddSubmit (c.carrier c.input) id
        (.transfer .read (s.claim c id).length s.inputPos) .accepted ((s.claimed c id).requested id (s.claim c id) .read) := by
      simp only [ddTargetRead, still, ↓reduceIte, own, accepted]
      rfl
    simp only [whole, ↓reduceIte]
    rw [← read] at taken
    exact taken
  · simp only [whole, ↓reduceIte]
    exact ddSubmit_accepted ..

theorem fresh_running (c : DdSetup) (buf : Nat → Nat → UInt8) (output : Nat → UInt8) (size : Nat) :
    ¬ (DdJob.fresh c buf output size).Stopping := by
  rintro (failed | stopped)
  · exact failed rfl
  · cases stopped

end

/-! ## Buffers -/

/-- The bytes of the longest part. -/
def DdSetup.longest (c : DdSetup) : Nat := min c.ioUnitSize c.copySize

/-- A request is for no more than the longest part, in whole blocks. -/
def Flight.Fits (c : DdSetup) : Flight → Prop
  | .submitted (.transfer _ length _) => length ≤ c.blocks c.longest
  | _ => True

structure DdJob.Fits (c : DdSetup) (s : DdJob) : Prop where
  region : c.InRegion s.inputPos
  lengths : ∀ id, (s.ios id).length ≤ c.ioUnitSize
  parts : ∀ id, s.flight id ≠ none → (s.ios id).length ≤ c.longest
  requests : ∀ id flight, s.flight id = some flight → flight.Fits c

section
variable {c : DdSetup} {o : Outcomes} {id : Nat} {s s' s'' : DdJob}

theorem DdJob.Fits.same (fits : s.Fits c) (ios : s'.ios = s.ios) (pos : s'.inputPos = s.inputPos) (flight : s'.flight = s.flight) :
    s'.Fits c := by
  constructor
  · rw [pos]
    exact fits.region
  · rw [ios]
    exact fits.lengths
  · rw [ios, flight]
    exact fits.parts
  · rw [flight]
    exact fits.requests

theorem DdJob.Fits.stopped (fits : s.Fits c) (stopped : Stopped s s') : s'.Fits c := by
  obtain ⟨ios, flight, _, pos, _, _⟩ := stopped.frame
  exact fits.same ios pos flight

/-- An idle io is written to, and the position may move on. -/
theorem DdJob.Fits.setIo (fits : s.Fits c) (idle : s.flight id = none) (io : DdIo) (unit : io.length ≤ c.ioUnitSize) (pos : Nat)
    (region : c.InRegion pos) : ({ s.setIo id io with inputPos := pos } : DdJob).Fits c := by
  refine ⟨region, ?_, ?_, fits.requests⟩
  · intro other
    by_cases same : other = id
    · simp only [same, DdJob.setIo, Function.update_self]
      exact unit
    · simp only [DdJob.setIo, Function.update_of_ne same]
      exact fits.lengths other
  · intro other held
    have different : other ≠ id := by
      rintro rfl
      exact held idle
    simp only [DdJob.setIo, Function.update_of_ne different]
    exact fits.parts other held

theorem DdJob.Fits.setFlight (fits : s.Fits c) (id : Nat) (flight : Flight) (part : (s.ios id).length ≤ c.longest) (request : flight.Fits c) :
    (s.setFlight id (some flight)).Fits c := by
  refine ⟨fits.region, fits.lengths, ?_, ?_⟩
  · intro other held
    by_cases same : other = id
    · rw [same]
      exact part
    · simp only [DdJob.setFlight, Function.update_of_ne same] at held
      exact fits.parts other held
  · intro other flight' held
    rcases held_update held with old | ⟨_, new⟩
    · exact fits.requests other flight' old
    · cases new
      exact request

theorem DdJob.Fits.submitted {request : DdRequest} (fits : s'.Fits c) (part : (s'.ios id).length ≤ c.longest)
    (submitted : Submitted s s' id request s'') (known : (Flight.submitted request).Fits c) : s''.Fits c := by
  cases submitted with
  | taken => exact fits.setFlight id _ part known
  | lost => exact fits.setFlight id _ part trivial
  | refused => exact fits.same rfl rfl rfl
  | ended => exact fits.same rfl rfl rfl

theorem Populated.fits (populated : Populated c id s s') (block : 0 < c.output.blockSize)
    (read : c.readRegionStart + c.copySize < 2 ^ 64) (fits : s.Fits c) (idle : s.flight id = none) : s'.Fits c := by
  have length := claim_length read fits.region id
  have unit := fits.lengths id
  obtain ⟨start, finish⟩ := fits.region
  have longest : (s.claim c id).length ≤ c.longest := by
    unfold DdSetup.longest
    omega
  have claimed (type : DdSubmitType) : ((s.claimed c id).requested id (s.claim c id) type).Fits c := by
    have pos : u64 (s.inputPos + (s.claim c id).length) = s.inputPos + (s.claim c id).length := u64_of_lt (by omega)
    have taken := fits.setIo idle (s.claim c id) (by omega) (u64 (s.inputPos + (s.claim c id).length))
      (by rw [pos]; exact ⟨by omega, by omega⟩)
    have still : ({ s.setIo id (s.claim c id) with inputPos := u64 (s.inputPos + (s.claim c id).length) } : DdJob).flight id = none :=
      idle
    have requested := taken.setIo still { s.claim c id with type := type } (by simp only; omega) _ taken.region
    exact requested.same rfl rfl rfl
  have io (type : DdSubmitType) : (((s.claimed c id).requested id (s.claim c id) type).ios id).length ≤ c.longest := by
    simp only [DdJob.requested, DdJob.setIo, Function.update_self]
    exact longest
  cases populated with
  | stopped _ stopped =>
    have kept := fits.setIo idle (s.claim c id) (by omega) _ fits.region
    exact (kept.same rfl rfl rfl).stopped stopped
  | whole _ _ _ submitted =>
    exact (claimed .read).submitted (io .read) submitted (Nat.le_trans longest (le_blocks block c.longest))
  | part _ _ _ submitted => exact (claimed .populate).submitted (io .populate) submitted (blocks_mono longest)

theorem DdJob.Fits.requested (fits : s.Fits c) (idle : s.flight id = none) (type : DdSubmitType) :
    (s.requested id (s.ios id) type).Fits c ∧
      ((s.requested id (s.ios id) type).ios id).length = (s.ios id).length := by
  have changed := fits.setIo idle { s.ios id with type := type } (fits.lengths id) _ fits.region
  refine ⟨changed.same rfl rfl rfl, ?_⟩
  simp only [DdJob.requested, DdJob.setIo, Function.update_self]

theorem ReadOn.fits (read : ReadOn id s s') (block : 0 < c.output.blockSize) (fits : s.Fits c) (idle : s.flight id = none)
    (part : (s.ios id).length ≤ c.longest) : s'.Fits c := by
  cases read with
  | stopped _ stopped => exact fits.stopped stopped
  | asked _ submitted =>
    obtain ⟨requested, same⟩ := fits.requested idle .read
    exact requested.submitted (same ▸ part) submitted (Nat.le_trans part (le_blocks block c.longest))

theorem Written.fits (written : Written c id s s') (fits : s.Fits c) (idle : s.flight id = none)
    (part : (s.ios id).length ≤ c.longest) : s'.Fits c := by
  cases written with
  | stopped _ stopped => exact fits.stopped stopped
  | asked _ submitted =>
    obtain ⟨requested, same⟩ := fits.requested idle .write
    have writing : (s.writing id).Fits c := requested.same rfl rfl rfl
    exact writing.submitted (same ▸ part) submitted (blocks_mono part)

theorem Sought.fits (sought : Sought c o id s s') (plain : c.sparse = false) (block : 0 < c.output.blockSize)
    (read : c.readRegionStart + c.copySize < 2 ^ 64) (fits : s.Fits c) (idle : s.flight id = none) : s'.Fits c := by
  have dense (sparse : c.sparse = true) : False := by
    rw [plain] at sparse
    cases sparse
  cases sought with
  | plain => exact (ddTargetPopulateBuffer_cases c o id s).fits block read fits idle
  | stopped sparse => exact (dense sparse).elim
  | file sparse => exact (dense sparse).elim
  | asked sparse => exact (dense sparse).elim
  | queued sparse => exact (dense sparse).elim

theorem DdJob.Fits.land (fits : s.Fits c) (id : Nat) (error : Int) :
    (({ s with error := error } : DdJob).setFlight id none).Fits c := by
  refine ⟨fits.region, fits.lengths, ?_, fun other flight held => fits.requests other flight (held_setFlight id other held)⟩
  intro other held
  obtain ⟨flight, held⟩ := Option.ne_none_iff_exists'.mp held
  have kept : s.flight other = some flight := held_setFlight id other held
  exact fits.parts other (by rw [kept]; exact Option.some_ne_none _)

theorem DdJob.Fits.complete (fits : s.Fits c) : s.complete.Fits c := by
  obtain ⟨ios, flight, pos, _⟩ := complete_frame s
  exact fits.same ios pos flight

theorem ddPerform_fits (fits : s.Fits c) {request : DdRequest} {res : Int} (held : s.flight id = some (.submitted request))
    (moves : request.moves = true) (performed : ddPerform c s id res request = some s') : s'.Fits c := by
  have part := fits.parts id (by rw [held]; exact Option.some_ne_none _)
  cases request with
  | seekData => cases moves
  | seekHole => cases moves
  | transfer type length start =>
    obtain ⟨ios, flight, pos, _⟩ := ddPerform_transfer performed
    have landed := fits.setFlight id (.transferred type res) part trivial
    constructor
    · rw [pos]
      exact fits.region
    · intro other
      rw [(ios other).1]
      exact fits.lengths other
    · intro other
      rw [(ios other).1, flight]
      exact landed.parts other
    · rw [flight]
      exact landed.requests

theorem fits_step (plain : c.sparse = false) (block : 0 < c.output.blockSize) (read : c.readRegionStart + c.copySize < 2 ^ 64)
    (s : DdJob) (event : DdEvent) (s' : DdJob) (sound : s.Fits c ∧ s.Lined c) (stepped : ddStep c s event = some s') :
    s'.Fits c ∧ s'.Lined c := by
  obtain ⟨fits, lined⟩ := sound
  have direct := direct_of_plain plain
  refine ⟨?_, lined_step s event s' lined stepped⟩
  cases ddStep_cases stepped with
  | performed held performed => exact ddPerform_fits fits held (lined.noSeek_of_direct direct _ _ held) performed
  | again => exact fits
  | @advanced id o type res held =>
    have part := fits.parts id (by rw [held]; exact Option.some_ne_none _)
    have landed := (fits.land id (c.errorAfter s id type res)).complete
    obtain ⟨ios, flight, _, _⟩ := complete_frame (({ s with error := c.errorAfter s id type res } : DdJob).setFlight id none)
    have idle : (({ s with error := c.errorAfter s id type res } : DdJob).setFlight id none).complete.flight id = none := by
      rw [flight]
      exact Function.update_self ..
    have partThen : ((({ s with error := c.errorAfter s id type res } : DdJob).setFlight id none).complete.ios id).length ≤
        c.longest := by
      rw [ios]
      exact part
    -- the type that the io goes on with does not matter here
    cases c.typeOf s id type with
    | populate => exact (ddTargetRead_cases c o id _).fits block landed idle partThen
    | read => exact (ddTargetWrite_cases c o id _).fits landed idle partThen
    | write => exact (ddTargetSeek_cases c o id _).fits plain block read landed idle
  | soughtData held =>
    obtain ⟨indirect, _⟩ := lined.seeking _ _ held rfl
    exact absurd direct indirect
  | soughtHole held =>
    obtain ⟨indirect, _⟩ := lined.seeking _ _ held rfl
    exact absurd direct indirect
  | pollFailed => exact fits.same rfl rfl rfl
  | pollEnded => exact fits.same rfl rfl rfl
  | status => exact fits.same rfl rfl rfl
  | interrupted => exact fits.same rfl rfl rfl

theorem fits_start (plain : c.sparse = false) (block : 0 < c.output.blockSize) (read : c.readRegionStart + c.copySize < 2 ^ 64)
    (o : Nat → Outcomes) (buf : Nat → Nat → UInt8) (output : Nat → UInt8) (size k : Nat) :
    (ddStart c o (.fresh c buf output size) k).Fits c := by
  induction k with
  | zero =>
    refine ⟨⟨Nat.le_refl _, Nat.le_add_right _ _⟩, fun _ => Nat.le_refl _, ?_, ?_⟩
    · intro _ held
      exact absurd rfl held
    · intro _ _ held
      cases held
  | succ k ih => exact (ddTargetSeek_cases c (o k) k _).fits plain block read ih (start_idle c o buf output size k).1

/-- The first request, if all goes well, is for the longest part, and in whole blocks if it does not fill its last one. -/
theorem plain_first (plain : c.sparse = false) (read : c.readRegionStart + c.copySize < 2 ^ 64) (buf : Nat → Nat → UInt8)
    (output : Nat → UInt8) (size : Nat) (rest : c.longest % c.output.blockSize ≠ 0) :
    ∃ offset, (ddTargetSeek c .fine 0 (.fresh c buf output size)).flight 0 =
      some (.submitted (.transfer .populate (c.blocks c.longest) offset)) := by
  have region : c.InRegion (DdJob.fresh c buf output size).inputPos := ⟨Nat.le_refl _, Nat.le_add_right _ _⟩
  have length : ((DdJob.fresh c buf output size).claim c 0).length = c.longest := by
    have start : (DdJob.fresh c buf output size).inputPos = c.readRegionStart := rfl
    rw [claim_length read region, start, Nat.add_sub_cancel_left]
    rfl
  have some : c.longest ≠ 0 := by
    intro none
    rw [none] at rest
    exact rest (Nat.zero_mod _)
  have opens := populate_opens (c := c) (o := .fine) 0 rfl (fresh_running c buf output size) (length ▸ some)
  unfold ddTargetSeek
  rw [if_pos plain]
  simp only [DdJob.opening, length, rest, ↓reduceIte] at opens
  exact ⟨_, opens⟩

end

/-- No request of a copy that does not skip holes is for more bytes than a buffer has, if and only if
the longest part in whole blocks of the output is not. The check of the unit in `dd_run` is not enough. -/
theorem buffers_hold_iff (c : DdSetup) (plain : c.sparse = false) (block : 0 < c.output.blockSize)
    (read : c.readRegionStart + c.copySize < 2 ^ 64) (depth : 0 < c.queueDepth) :
    (∀ o buf output size events,
      Always (ddStep c)
        (fun s => ∀ id type length offset, s.flight id = some (.submitted (.transfer type length offset)) → length ≤ c.ioUnitSize)
        (ddRunning c o buf output size) events) ↔
      c.blocks (min c.ioUnitSize c.copySize) ≤ c.ioUnitSize := by
  constructor
  · intro always
    by_cases rest : c.longest % c.output.blockSize = 0
    · have whole : c.blocks c.longest = c.longest := blocks_of_whole block rest
      exact Nat.le_trans (Nat.le_of_eq whole) (Nat.min_le_left _ _)
    · obtain ⟨offset, first⟩ := plain_first plain read (fun _ _ => 0) (fun _ => 0) 0 rest
      rw [← ddRunning_first c depth (fun _ => .fine)] at first
      exact always _ _ _ _ [] 0 .populate _ offset first
  · intro enough o buf output size events
    have start : (ddRunning c o buf output size).Fits c ∧ (ddRunning c o buf output size).Lined c :=
      ⟨fits_start plain block read o buf output size c.queueDepth, lined_start c o buf output size c.queueDepth⟩
    refine (always_of_invariant (fits_step plain block read) start events).mono ?_
    intro s sound id type length offset held
    exact Nat.le_trans (sound.1.requests id _ held) enough

/-- Units of six bytes: the blocks of four do not fit the buffers, unless no more than four bytes are copied. -/
theorem sixBytes_buffers_hold_iff :
    ¬ (∀ o buf output size events,
      Always (ddStep { sixBytes with ioUnitSize := 6 })
        (fun s => ∀ id type length offset, s.flight id = some (.submitted (.transfer type length offset)) → length ≤ 6)
        (ddRunning { sixBytes with ioUnitSize := 6 } o buf output size) events) := by
  intro always
  have enough := (buffers_hold_iff { sixBytes with ioUnitSize := 6 } rfl (by decide) (by decide) (by decide)).mp always
  exact absurd enough (by decide)

/-! ## Data behind the region -/

section
variable {c : DdSetup} {o : Outcomes} {id : Nat} {s s' : DdJob}

/-- The hole behind the data, in 64 bits. The data of a bdev may reach its end; a file has a hole there. -/
def DdSetup.HoleAfter (c : DdSetup) (next : Nat) : Prop :=
  match c.source.nextHole next with
  | some hole => hole * c.input.grain < 2 ^ 64
  | none => c.input.type = .bdev

/-- The data that a seek finds first lies behind the region, in 64 bits. -/
structure DdSetup.DataBehind (c : DdSetup) : Prop where
  sparse : c.sparse = true
  block : 0 < c.output.blockSize
  unit : 0 < c.ioUnitSize
  depth : 0 < c.queueDepth
  size : 0 < c.copySize
  search : ∃ first next, first * c.input.grain = c.readRegionStart ∧ c.source.nextData first = some next ∧
    c.readRegionStart + c.copySize < next * c.input.grain ∧ next * c.input.grain < 2 ^ 64 ∧
    c.writeRegionStart + (next * c.input.grain - c.readRegionStart) < 2 ^ 64 ∧ c.HoleAfter next

/-- There is always more of the copy left behind the region, by the arithmetic of 64 bits. -/
theorem claim_behind (behind : c.readRegionStart + c.copySize < s.inputPos) (small : s.inputPos < 2 ^ 64)
    (some : 0 < (s.ios id).length) : 0 < (s.claim c id).length := by
  have past : sub64 s.inputPos c.readRegionStart = s.inputPos - c.readRegionStart := sub64_of_le (by omega) small
  have left : 0 < sub64 c.copySize (s.inputPos - c.readRegionStart) := by
    unfold sub64 u64
    omega
  simp only [DdJob.claim]
  rw [past]
  exact Nat.lt_min.mpr ⟨some, left⟩

theorem opening_outside (id : Nat) (block : 0 < c.output.blockSize) (behind : c.readRegionStart + c.copySize < s.inputPos)
    (small : s.inputPos < 2 ^ 64) (place : c.writeRegionStart + (s.inputPos - c.readRegionStart) < 2 ^ 64)
    (some : 0 < (s.claim c id).length) :
    ∃ type length offset, s.opening c id = .transfer type length offset ∧ ¬ c.Inside type length offset := by
  unfold DdJob.opening
  simp only
  split
  · refine ⟨_, _, _, rfl, ?_⟩
    rintro ⟨_, finish, _⟩
    omega
  · refine ⟨_, _, _, rfl, ?_⟩
    rintro ⟨_, finish, _⟩
    rw [sub64_of_le (by omega) small, u64_of_lt place] at finish
    -- the blocks of the part are one at the least, those of the region less than one more than its bytes
    have more : c.output.blockSize ≤ c.blocks (s.claim c id).length := by
      have one : 0 < ceilDiv (s.claim c id).length c.output.blockSize := Nat.div_pos (by omega) block
      exact Nat.le_mul_of_pos_left _ one
    have less : c.blocks c.copySize < c.copySize + c.output.blockSize := by
      have floor := Nat.div_mul_le_self (c.copySize + c.output.blockSize - 1) c.output.blockSize
      unfold DdSetup.blocks ceilDiv
      omega
    omega

theorem remaining_fresh (small : c.copySize < 2 ^ 64) : sub64 c.copySize (sub64 c.readRegionStart c.readRegionStart) = c.copySize := by
  have start : c.readRegionStart < 2 ^ 64 := Nat.mod_lt _ (Nat.two_pow_pos 64)
  rw [sub64_of_le (Nat.le_refl _) start, Nat.sub_self, sub64_of_le (Nat.zero_le _) small, Nat.sub_zero]

/-- The first io of a file goes on at the data. -/
theorem fileSeek_opens (id : Nat) (running : ¬ s.Stopping) (unit : 0 < c.ioUnitSize) {next hole : Nat} (found : c.source.nextData s.inputPos = some next)
    (finish : c.source.nextHole next = some hole) (behind : c.readRegionStart + c.copySize < next) (small : hole < 2 ^ 64) :
    (ddFileSeek c .fine id s).flight id = some (.submitted ((s.aim id next (min c.ioUnitSize (hole - next))).opening c id)) ∧
      0 < ((s.aim id next (min c.ioUnitSize (hole - next))).claim c id).length := by
  have after := c.source.data _ _ found _ finish
  have ahead := c.source.after _ _ found
  have pos : (if s.inputPos < next then { s with inputPos := next } else s) = ({ s with inputPos := next } : DdJob) := by
    split
    · rfl
    · have same : next = s.inputPos := by omega
      rw [same]
  have seek : ddFileSeek c .fine id s = ddTargetPopulateBuffer c .fine id (s.aim id next (min c.ioUnitSize (hole - next))) := by
    simp only [ddFileSeek, ddFileSeekData, ddFileSeekHole, Outcomes.fine, found, pos, finish, after, ↓reduceIte]
    rfl
  rw [seek]
  have length : 0 < ((s.aim id next (min c.ioUnitSize (hole - next))).ios id).length := by
    simp only [DdJob.aim, DdJob.setIo, Function.update_self]
    omega
  have claim : 0 < ((s.aim id next (min c.ioUnitSize (hole - next))).claim c id).length :=
    claim_behind (s := s.aim id next (min c.ioUnitSize (hole - next))) behind (Nat.lt_trans after small) length
  exact ⟨populate_opens id rfl running (Nat.ne_of_gt claim), claim⟩

/-- The first io seeks for all ios, which wait in the queue behind it. -/
structure DdJob.Seeking (c : DdSetup) (s : DdJob) : Prop where
  asked : s.flight 0 = some (.submitted (.seekData (c.readRegionStart / c.input.blockSize)))
  pos : s.inputPos = c.readRegionStart
  queue : s.seekQueue.head? = some 0
  running : ¬ s.Stopping

/-- The branches of `dd_target_seek` for a sparse copy that goes on. -/
theorem fileSeek_eq (sparse : c.sparse = true) (file : c.input.type = .file) (running : ¬ s.Stopping)
    (left : sub64 c.copySize (sub64 s.inputPos c.readRegionStart) ≠ 0) : ddTargetSeek c o id s = ddFileSeek c o id s := by
  have finished : ¬ (sub64 c.copySize (sub64 s.inputPos c.readRegionStart) = 0 ∨ s.Stopping) := fun either => either.elim left running
  unfold ddTargetSeek
  rw [if_neg (by rw [sparse]; decide), if_neg finished]
  simp only [file]

theorem bdevSeek_eq (id : Nat) (sparse : c.sparse = true) (bdev : c.input.type = .bdev) (running : ¬ s.Stopping)
    (left : sub64 c.copySize (sub64 s.inputPos c.readRegionStart) ≠ 0) :
    ddTargetSeek c o id s =
      if s.seekQueue = [] then
        ddSubmit .bdev id (.seekData (s.inputPos / c.input.blockSize)) o.seek
          { s with seekQueue := s.seekQueue ++ [id], outstanding := s.outstanding + 1 }
      else { s with seekQueue := s.seekQueue ++ [id] } := by
  have finished : ¬ (sub64 c.copySize (sub64 s.inputPos c.readRegionStart) = 0 ∨ s.Stopping) := fun either => either.elim left running
  unfold ddTargetSeek
  rw [if_neg (by rw [sparse]; decide), if_neg finished]
  simp only [bdev]

theorem seeking_start (sparse : c.sparse = true) (bdev : c.input.type = .bdev) (some : 0 < c.copySize) (small : c.copySize < 2 ^ 64)
    (buf : Nat → Nat → UInt8) (output : Nat → UInt8) (size k : Nat) :
    (ddStart c (fun _ => .fine) (.fresh c buf output size) (k + 1)).Seeking c := by
  have left : sub64 c.copySize (sub64 c.readRegionStart c.readRegionStart) ≠ 0 := by
    rw [remaining_fresh small]
    exact Nat.ne_of_gt some
  induction k with
  | zero =>
    have running := fresh_running c buf output size
    have free : (DdJob.fresh c buf output size).seekQueue = [] := rfl
    have first := bdevSeek_eq (o := .fine) 0 sparse bdev running left
    simp only [ddStart]
    rw [first, if_pos free]
    exact ⟨ddSubmit_accepted .bdev 0 _ _, rfl, rfl, running⟩
  | succ k ih =>
    have next : ddStart c (fun _ => .fine) (.fresh c buf output size) (k + 1 + 1) =
        ddTargetSeek c .fine (k + 1) (ddStart c (fun _ => .fine) (.fresh c buf output size) (k + 1)) := rfl
    rw [next]
    generalize ddStart c (fun _ => .fine) (.fresh c buf output size) (k + 1) = s at ih ⊢
    obtain ⟨rest, queue⟩ := List.head?_eq_some_iff.mp ih.queue
    have busy : s.seekQueue ≠ [] := by
      rw [queue]
      exact List.cons_ne_nil _ _
    rw [bdevSeek_eq (k + 1) sparse bdev ih.running (ih.pos ▸ left), if_neg busy]
    refine ⟨ih.asked, ih.pos, ?_, ih.running⟩
    simp only [queue, List.cons_append, List.head?_cons]

theorem setFlight_setFlight (s : DdJob) (id : Nat) (first second : Option Flight) :
    (s.setFlight id first).setFlight id second = s.setFlight id second := by
  unfold DdJob.setFlight
  simp only [Function.update_idem]

/-- A seek is carried out and comes back. -/
theorem run_seekData {start : Nat} (held : s.flight id = some (.submitted (.seekData start))) :
    run (ddStep c) s [.perform id 0, .complete id o] =
      some (ddBdevSeekDataDone c o id (c.source.nextData start) (s.setFlight id none)) := by
  have back : (s.setFlight id (some (.soughtData (c.source.nextData start)))).flight id = some (.soughtData (c.source.nextData start)) :=
    Function.update_self ..
  simp only [run, ddStep, held, ddPerform, Option.bind_some, back, ddComplete, setFlight_setFlight]

theorem run_seekHole {start : Nat} (held : s.flight id = some (.submitted (.seekHole start))) :
    run (ddStep c) s [.perform id 0, .complete id o] =
      some (ddBdevSeekHoleDone c o id (c.source.nextHole start) (s.setFlight id none)) := by
  have back : (s.setFlight id (some (.soughtHole (c.source.nextHole start)))).flight id = some (.soughtHole (c.source.nextHole start)) :=
    Function.update_self ..
  simp only [run, ddStep, held, ddPerform, Option.bind_some, back, ddComplete, setFlight_setFlight]

/-- The position after the data was found, and the seek for the hole behind it. -/
theorem dataDone_asks (id block : Nat) (running : ¬ s.Stopping) (grain : 0 < c.input.blockSize) (small : block * c.input.blockSize < 2 ^ 64) :
    (ddBdevSeekDataDone c .fine id (some block) s).flight id = some (.submitted (.seekHole block)) ∧
      (ddBdevSeekDataDone c .fine id (some block) s).inputPos = block * c.input.blockSize ∧
      (ddBdevSeekDataDone c .fine id (some block) s).seekQueue = s.seekQueue ∧
      ¬ (ddBdevSeekDataDone c .fine id (some block) s).Stopping := by
  have accepted : ¬ Outcomes.fine.seek.rc ≠ 0 := fun failed => failed rfl
  have queue := complete_queue s
  have still := (complete_frame s).2.2.2
  simp only [ddBdevSeekDataDone, running, ↓reduceIte, accepted, u64_of_lt small, Nat.mul_div_cancel _ grain]
  refine ⟨ddSubmit_accepted .bdev id _ _, rfl, queue, ?_⟩
  exact fun stops => running (still.mp stops)

/-- The io that found a part behind the region takes it, though other ios have their turn then. -/
theorem holeDone_opens (running : ¬ s.Stopping) (head : s.seekQueue.head? = some id) (once : s.seekQueue.Nodup) {next : Option Nat}
    (some : 0 < ((s.atHole c id next).claim c id).length) :
    (ddBdevSeekHoleDone c .fine id next s).flight id = .some (.submitted ((s.atHole c id next).opening c id)) := by
  have still : ¬ (s.atHole c id next).Stopping := fun stops => running ((complete_frame s.dequeue).2.2.2.mp stops)
  have opens : (s.holeDone c .fine id next).flight id = .some (.submitted ((s.atHole c id next).opening c id)) :=
    populate_opens id rfl still (Nat.ne_of_gt some)
  have queue : (s.holeDone c .fine id next).seekQueue = s.seekQueue.tail := by
    have here := (ddTargetPopulateBuffer_cases c .fine id (s.atHole c id next)).local.queue
    exact here.trans (complete_queue s.dequeue)
  rw [ddBdevSeekHoleDone_eq, if_neg running]
  split
  · exact opens
  · rename_i first rest waiting
    split
    · have other : id ≠ first := by
        rintro rfl
        obtain ⟨_, shape⟩ := List.head?_eq_some_iff.mp head
        rw [queue, shape, List.tail_cons] at waiting
        rw [shape, waiting] at once
        exact (List.nodup_cons.mp once).1 List.mem_cons_self
      exact (Function.update_of_ne other _ _).trans opens
    · exact opens

/-- The part that begins with the data is not empty. -/
theorem partLength_pos (bdev : c.input.type = .bdev) (grain : 0 < c.input.blockSize) (unit : 0 < c.ioUnitSize) {first next : Nat}
    (found : c.source.nextData first = some next) (after : c.HoleAfter next) :
    0 < c.partLength (next * c.input.blockSize) (c.source.nextHole next) := by
  unfold DdSetup.HoleAfter at after
  cases finish : c.source.nextHole next with
  | none => exact unit
  | some hole =>
    rw [finish] at after
    have small : hole * c.input.blockSize < 2 ^ 64 := by
      rw [← grain_bdev bdev]
      exact after
    have less : next * c.input.blockSize < hole * c.input.blockSize :=
      Nat.mul_lt_mul_of_pos_right (c.source.data _ _ found _ finish) grain
    simp only [DdSetup.partLength]
    rw [u64_of_lt small, sub64_of_le (Nat.le_of_lt less) small]
    omega

/-- The first io of a bdev goes on at the data, when the two seeks are over. -/
theorem bdevSeek_opens (seeking : s.Seeking c) (once : s.seekQueue.Nodup) (grain : 0 < c.input.blockSize) {next : Nat}
    (found : c.source.nextData (c.readRegionStart / c.input.blockSize) = some next)
    (behind : c.readRegionStart + c.copySize < next * c.input.blockSize) (small : next * c.input.blockSize < 2 ^ 64)
    (some : 0 < c.partLength (next * c.input.blockSize) (c.source.nextHole next)) :
    ∃ (s' t : DdJob), run (ddStep c) s ([.perform 0 0, .complete 0 .fine] ++ [.perform 0 0, .complete 0 .fine]) = .some s' ∧
      s'.flight 0 = .some (.submitted (t.opening c 0)) ∧ t.inputPos = next * c.input.blockSize ∧ 0 < (t.claim c 0).length := by
  have first := run_seekData (c := c) (o := .fine) seeking.asked
  rw [found] at first
  have asks := dataDone_asks (c := c) (s := s.setFlight 0 none) 0 next seeking.running grain small
  generalize ddBdevSeekDataDone c .fine 0 (.some next) (s.setFlight 0 none) = t at first asks
  obtain ⟨asked, pos, queue, running⟩ := asks
  have second := run_seekHole (c := c) (o := .fine) asked
  have here : (t.setFlight 0 none).dequeue.complete.inputPos = next * c.input.blockSize := (complete_frame _).2.2.1.trans pos
  have length : 0 < (((t.setFlight 0 none).atHole c 0 (c.source.nextHole next)).ios 0).length := by
    simp only [DdJob.atHole, DdJob.setIo, Function.update_self, here]
    exact some
  have position : ((t.setFlight 0 none).atHole c 0 (c.source.nextHole next)).inputPos = next * c.input.blockSize := here
  have claim := claim_behind (position ▸ behind) (position ▸ small) length
  have head : (t.setFlight 0 none).seekQueue.head? = .some 0 := (congrArg List.head? queue).trans seeking.queue
  have opens := holeDone_opens (s := t.setFlight 0 none) running head (queue ▸ once) claim
  exact ⟨_, _, run_append.mpr ⟨t, first, second⟩, opens, position, claim⟩

end

/-- A sparse copy whose first data lies behind its region, in a file or a bdev, goes on there: it has a run
with a request that is not inside the regions. -/
theorem sparse_leaves_regions (c : DdSetup) (behind : c.DataBehind) (buf : Nat → Nat → UInt8) (output : Nat → UInt8) (size : Nat) :
    ∃ events s type length offset, run (ddStep c) (ddRunning c (fun _ => .fine) buf output size) events = some s ∧
      s.flight 0 = some (.submitted (.transfer type length offset)) ∧ ¬ c.Inside type length offset := by
  obtain ⟨first, next, start, found, past, small, place, after⟩ := behind.search
  have size64 : c.copySize < 2 ^ 64 := by omega
  have outside {events : List DdEvent} {s t : DdJob}
      (ran : run (ddStep c) (ddRunning c (fun _ => .fine) buf output size) events = some s)
      (opens : s.flight 0 = .some (.submitted (t.opening c 0))) (pos : t.inputPos = next * c.input.grain)
      (some : 0 < (t.claim c 0).length) :
      ∃ events s type length offset, run (ddStep c) (ddRunning c (fun _ => .fine) buf output size) events = .some s ∧
        s.flight 0 = .some (.submitted (.transfer type length offset)) ∧ ¬ c.Inside type length offset := by
    obtain ⟨type, length, offset, same, outside⟩ :=
      opening_outside 0 behind.block (pos ▸ past) (pos ▸ small) (pos ▸ place) some
    exact ⟨events, s, type, length, offset, ran, same ▸ opens, outside⟩
  cases type : c.input.type with
  | file =>
    have one := grain_file type
    obtain ⟨hole, finish, below⟩ : ∃ hole, c.source.nextHole next = some hole ∧ hole < 2 ^ 64 := by
      unfold DdSetup.HoleAfter at after
      cases finish : c.source.nextHole next with
      | none =>
        rw [finish, type] at after
        cases after
      | some hole =>
        rw [finish] at after
        have below : hole * c.input.grain < 2 ^ 64 := after
        rw [one, Nat.mul_one] at below
        exact ⟨hole, rfl, below⟩
    rw [one, Nat.mul_one] at start past small outside
    have here : c.source.nextData (DdJob.fresh c buf output size).inputPos = some next := by
      rw [start] at found
      exact found
    obtain ⟨opens, claim⟩ := fileSeek_opens 0 (fresh_running c buf output size) behind.unit here finish past below
    have ran : run (ddStep c) (ddRunning c (fun _ => .fine) buf output size) [] = some (ddRunning c (fun _ => .fine) buf output size) := rfl
    refine outside ran ?_ rfl claim
    rw [ddRunning_first c behind.depth, fileSeek_eq behind.sparse type (fresh_running c buf output size) ?_]
    · exact opens
    · exact (remaining_fresh size64).symm ▸ Nat.ne_of_gt behind.size
  | bdev =>
    have blocks := grain_bdev type
    rw [blocks] at start past small outside
    have grain : 0 < c.input.blockSize := by
      refine Nat.pos_of_ne_zero fun zero => ?_
      rw [zero, Nat.mul_zero] at past
      omega
    have some := partLength_pos type grain behind.unit found after
    have here : c.source.nextData (c.readRegionStart / c.input.blockSize) = .some next := by
      rw [← start, Nat.mul_div_cancel _ grain]
      exact found
    obtain ⟨k, more⟩ := Nat.exists_eq_add_one.mpr behind.depth
    have seeking : (ddRunning c (fun _ => .fine) buf output size).Seeking c := by
      unfold ddRunning
      rw [more]
      exact seeking_start behind.sparse type behind.size size64 buf output size k
    have once := (lined_start c (fun _ => .fine) buf output size c.queueDepth).once
    obtain ⟨s, t, ran, opens, pos, claim⟩ := bdevSeek_opens seeking once grain here past small some
    exact outside ran opens pos claim

/-- Four blocks of four bytes, the first two a hole; the data behind it reaches the end. -/
def Source.late : Source 4 where
  byte := fun i => if 8 ≤ i ∧ i < 16 then 1 else 0
  nextData := fun start => if start < 4 then some (max start 2) else none
  nextHole := fun start => if start < 2 then some start else none
  after := by
    intro start next found
    split at found
    · cases found
      exact Nat.le_max_left _ _
    · cases found
  hole := by
    intro start next found i first last
    split at found
    · cases found
      rw [if_neg (by omega)]
    · cases found
  rest := by
    intro start none i first
    split at none
    · cases none
    · rw [if_neg (by omega)]
  data := by
    intro start next found behind hole
    split at found
    · cases found
      rw [if_neg (by omega)] at hole
      cases hole
    · cases found

/-- A sparse copy of the first block, which is in the hole: `--sparse --count 1`. -/
def lateCopy : DdSetup where
  input := ⟨.bdev, 4, 16⟩
  output := ⟨.bdev, 4, 16⟩
  inputOffset := 0
  outputOffset := 0
  ioUnitSize := 4
  copySize := 4
  queueDepth := 1
  uring := true
  aioContext := true
  sparse := true
  source := .late
  shared := false
  append := false

theorem lateCopy_leaves_regions :
    ∃ events s type length offset,
      run (ddStep lateCopy) (ddRunning lateCopy (fun _ => .fine) (fun _ _ => 0) (fun _ => 255) 16) events = some s ∧
      s.flight 0 = some (.submitted (.transfer type length offset)) ∧ ¬ lateCopy.Inside type length offset :=
  sparse_leaves_regions lateCopy
    ⟨rfl, by decide, by decide, by decide, by decide, 0, 2, by decide, by decide, by decide, by decide, by decide, rfl⟩ _ _ _

end BdevUbi.Dd
