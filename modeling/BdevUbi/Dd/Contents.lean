import BdevUbi.Dd.Stages

/-! What a copy leaves in the output: a job that ends without an error has copied all of its
region, unless a transfer fell short and nobody looked.
-/

set_option autoImplicit false

namespace BdevUbi.Dd
open BdevUbi.Library

/-! ## Requests that are carried out -/

section
variable {c : DdSetup} {before : Nat → UInt8} {id : Nat} {s s' : DdJob}

/-- A request is carried out for an io, with its buffer. -/
theorem DdJob.Filled.performed (filled : s.Filled c before none) {old : Flight} (held : s.flight id = some old) (flight : Flight) (io : DdIo)
    (moves : old.moves = flight.moves) (offset : io.offset = (s.ios id).offset) (length : io.length = (s.ios id).length)
    (stage : Stage c before s.output io flight) : ((s.setIo id io).setFlight id (some flight)).Filled c before none := by
  refine ⟨filled.ahead, ?_, ?_, ?_, filled.ended⟩
  · intro other flight' held'
    by_cases same : other = id
    · rw [same] at held' ⊢
      simp only [DdJob.setFlight, DdJob.setIo, Function.update_self, Option.some.injEq] at held' ⊢
      exact held' ▸ stage
    · simp only [DdJob.setFlight, DdJob.setIo, Function.update_of_ne same] at held' ⊢
      exact filled.stages other flight' held'
  · intro plain other
    by_cases same : other = id
    · rw [same]
      simp only [DdJob.setFlight, DdJob.setIo, Function.update_self, length]
      exact filled.lengths plain id
    · simp only [DdJob.setFlight, DdJob.setIo, Function.update_of_ne same]
      exact filled.lengths plain other
  · refine filled.taken.imp_right ?_
    intro taken i read
    rcases taken i read with copied | ⟨other, free | ⟨flight', held', seen⟩, within⟩
    · exact Or.inl copied
    · cases free
    · refine Or.inr ⟨other, Or.inr ?_, ?_⟩
      · by_cases same : other = id
        · rw [same, held] at held'
          cases held'
          refine ⟨flight, ?_, moves ▸ seen⟩
          simp only [DdJob.setFlight, same, Function.update_self]
        · refine ⟨flight', ?_, seen⟩
          simp only [DdJob.setFlight, DdJob.setIo, Function.update_of_ne same]
          exact held'
      · by_cases same : other = id
        · rw [same] at within ⊢
          simp only [DdJob.setFlight, DdJob.setIo, Function.update_self, DdSetup.Within, offset, length]
          exact within
        · simp only [DdJob.setFlight, DdJob.setIo, Function.update_of_ne same]
          exact within

theorem value_inside {i : Nat} (inside : i < c.copySize) : c.value before i = c.source.byte (c.readRegionStart + i) := if_pos inside

theorem value_outside {i : Nat} (outside : c.copySize ≤ i) : c.value before i = before (c.writeRegionStart + i) :=
  if_neg (Nat.not_lt.mpr outside)

/-- The rest of the last block lies behind the region. -/
theorem Part.rest {io : DdIo} {pos j : Nat} (part : Part c io pos) (block : 0 < c.output.blockSize) (first : io.length ≤ j)
    (last : j < c.blocks io.length) : c.copySize ≤ io.offset - c.readRegionStart + j := by
  have start := part.start
  rcases part.whole with whole | finish
  · rw [blocks_of_whole block whole] at last
    omega
  · omega

/-- A byte of the region after a write whose buffer is right. -/
theorem blit_right {io : DdIo} (right : io.Right c before 0) (output : Nat → UInt8) {count : Nat} (short : count ≤ c.blocks io.length)
    (i : Nat) :
    (io.offset - c.readRegionStart ≤ i ∧ i < io.offset - c.readRegionStart + count ∧
      blit output (c.place io) count io.buf (c.writeRegionStart + i) = c.value before i) ∨
    (¬ (io.offset - c.readRegionStart ≤ i ∧ i < io.offset - c.readRegionStart + count) ∧
      blit output (c.place io) count io.buf (c.writeRegionStart + i) = output (c.writeRegionStart + i)) := by
  have place : c.place io = c.writeRegionStart + (io.offset - c.readRegionStart) := rfl
  by_cases inside : io.offset - c.readRegionStart ≤ i ∧ i < io.offset - c.readRegionStart + count
  · left
    refine ⟨inside.1, inside.2, ?_⟩
    rw [blit_inside (by omega) (by omega), right _ (Nat.zero_le _) (by omega)]
    congr 1
    omega
  · exact Or.inr ⟨inside, blit_outside (by omega)⟩

/-- What is copied stays copied. -/
theorem copied_mono {output output' : Nat → UInt8} {i : Nat} (inside : i < c.copySize) (copied : c.Copied before output i)
    (changed : output' (c.writeRegionStart + i) = c.value before i ∨
      output' (c.writeRegionStart + i) = output (c.writeRegionStart + i)) : c.Copied before output' i := by
  rcases changed with right | same
  · left
    rw [right, value_inside inside]
  · unfold DdSetup.Copied
    rw [same]
    exact copied

/-- Only a write that was carried out knows of the output. -/
theorem Stage.mono {output output' : Nat → UInt8} {io : DdIo} {flight : Flight} (stage : Stage c before output io flight)
    (kept : ∀ j, output (c.place io + j) = c.value before (io.offset - c.readRegionStart + j) →
      output' (c.place io + j) = c.value before (io.offset - c.readRegionStart + j)) : Stage c before output' io flight := by
  cases flight with
  | submitted request =>
    cases request with
    | transfer type length start => cases type <;> exact stage
    | seekData start => exact stage
    | seekHole start => exact stage
  | transferred type res =>
    cases type with
    | populate => exact stage
    | read => exact stage
    | write => exact stage.imp_right fun right j inside => kept j (right j inside)
  | soughtData next => exact stage
  | soughtHole next => exact stage
  | lost => exact stage

/-- A write whose buffer is right. -/
theorem DdJob.Filled.written (regular : c.Regular) (apart : c.Apart) (placed : s.Placed c before) (filled : s.Filled c before none)
    {length start : Nat} {res : Int} (held : s.flight id = some (.submitted (.transfer .write length start))) (fits : res ≤ length)
    (seen : res = length ∨ c.Notices (s.ios id) .write res) :
    ((s.move c id .write res.toNat start).setFlight id (some (.transferred .write res))).Filled c before none := by
  obtain ⟨part, _, rfl, rfl⟩ := placed.flights id _ held
  have right : (s.ios id).Right c before 0 := filled.stages id _ held
  have bytes := blit_right right s.output (Int.toNat_le.mpr fits)
  have moved := move_output apart.append s id res.toNat (c.place (s.ios id))
  have changed (i : Nat) : (s.move c id .write res.toNat (c.place (s.ios id))).output (c.writeRegionStart + i) = c.value before i ∨
      (s.move c id .write res.toNat (c.place (s.ios id))).output (c.writeRegionStart + i) = s.output (c.writeRegionStart + i) := by
    rw [moved]
    rcases bytes i with ⟨_, _, new⟩ | ⟨_, same⟩
    · exact Or.inl new
    · exact Or.inr same
  refine ⟨?_, ?_, filled.lengths, ?_, ?_⟩
  · intro i after
    have after : s.inputPos ≤ c.readRegionStart + i := after
    have old := filled.ahead i after
    refine (congrFun moved _).trans ?_
    rcases bytes i with ⟨first, last, new⟩ | ⟨_, same⟩
    · have finish := part.finish
      have begins := part.start
      have rest := part.rest (j := i - ((s.ios id).offset - c.readRegionStart)) regular.block (by omega) (by omega)
      exact new.trans (value_outside (by omega))
    · exact same.trans old
  · intro other flight held'
    by_cases same : other = id
    · rw [same] at held' ⊢
      simp only [DdJob.setFlight, Function.update_self, Option.some.injEq] at held'
      rw [← held']
      rcases seen with full | noticed
      · right
        intro j inside
        have inside : j < c.blocks (s.ios id).length := inside
        refine (congrFun moved _).trans ?_
        rcases bytes ((s.ios id).offset - c.readRegionStart + j) with ⟨_, _, new⟩ | ⟨outside, _⟩
        · rw [← Nat.add_assoc] at new
          exact new
        · omega
      · exact Or.inl noticed
    · simp only [DdJob.setFlight, Function.update_of_ne same] at held'
      refine (filled.stages other flight held').mono ?_
      intro j right'
      have same := changed ((s.ios other).offset - c.readRegionStart + j)
      rw [← Nat.add_assoc] at same
      rcases same with new | old
      · exact new
      · exact old.trans right'
  · refine filled.taken.imp_right ?_
    intro taken i read
    have read : c.readRegionStart + i < s.inputPos := read
    have region := placed.region.2
    rcases taken i read with copied | ⟨other, free | ⟨flight, held', moves⟩, within⟩
    · exact Or.inl (copied_mono (by omega) copied (changed i))
    · cases free
    · refine Or.inr ⟨other, Or.inr ?_, within⟩
      by_cases same : other = id
      · refine ⟨.transferred .write res, ?_, rfl⟩
        rw [same]
        exact Function.update_self ..
      · exact ⟨flight, (Function.update_of_ne same _ _).trans held', moves⟩
  · intro finished
    refine (filled.ended finished).imp_right ?_
    intro all i inside
    exact copied_mono inside (all i inside) (changed i)

theorem inputByte_of_apart (apart : c.Apart) (s : DdJob) : s.inputByte c = c.source.byte := by
  simp only [DdJob.inputByte, apart.shared, Bool.false_eq_true, ↓reduceIte]

theorem ddPerform_filled (regular : c.Regular) (apart : c.Apart) (placed : s.Placed c before) (filled : s.Filled c before none) {request : DdRequest}
    {res : Int} (held : s.flight id = some (.submitted request)) (performed : ddPerform c s id res request = some s')
    (seen : ∀ type length start, request = .transfer type length start → res = length ∨ c.Notices (s.ios id) type res) :
    s'.Filled c before none := by
  cases request with
  | transfer type length start =>
    simp only [ddPerform] at performed
    split at performed
    · rename_i fits
      cases performed
      have carried := seen type length start rfl
      cases type with
      | populate =>
        obtain ⟨part, _, rfl, rfl⟩ := placed.flights id _ held
        refine filled.performed held _ _ rfl rfl rfl ?_
        rcases carried with full | noticed
        · right
          intro j first last
          have first : (s.ios id).length ≤ j := first
          have last : j < c.blocks (s.ios id).length := last
          have rest := part.rest regular.block first last
          have region := placed.region.2
          have old := filled.ahead ((s.ios id).offset - c.readRegionStart + j) (by omega)
          have moved : j < 0 + res.toNat := by omega
          have byte : blit (s.ios id).buf 0 res.toNat (fun i => s.output (c.place (s.ios id) + i)) j =
              s.output (c.writeRegionStart + ((s.ios id).offset - c.readRegionStart + j)) := by
            rw [blit_inside (Nat.zero_le _) moved, Nat.sub_zero, ← Nat.add_assoc]
            rfl
          exact byte.trans (old.trans (value_outside rest).symm)
        · exact Or.inl noticed
      | read =>
        obtain ⟨part, _, rfl, rfl⟩ := placed.flights id _ held
        have tail : (s.ios id).Right c before (s.ios id).length := filled.stages id _ held
        refine filled.performed held _ _ rfl rfl rfl ?_
        rw [inputByte_of_apart apart]
        rcases carried with full | noticed
        · right
          intro j _ last
          have last : j < c.blocks (s.ios id).length := last
          by_cases inside : j < (s.ios id).length
          · have start := part.start
            have finish := part.finish
            have region := placed.region.2
            have moved : j < 0 + res.toNat := by omega
            have byte : blit (s.ios id).buf 0 res.toNat (fun i => c.source.byte ((s.ios id).offset + i)) j =
                c.source.byte (c.readRegionStart + ((s.ios id).offset - c.readRegionStart + j)) := by
              rw [blit_inside (Nat.zero_le _) moved, Nat.sub_zero, ← Nat.add_assoc, Nat.add_sub_cancel' start]
            exact byte.trans (value_inside (by omega)).symm
          · have byte : blit (s.ios id).buf 0 res.toNat (fun i => c.source.byte ((s.ios id).offset + i)) j =
                (s.ios id).buf j := blit_outside (by omega)
            exact byte.trans (tail j (by omega) last)
        · exact Or.inl noticed
      | write => exact filled.written regular apart placed held fits carried
    · cases performed
  | seekData start =>
    cases performed
    have performed := filled.performed held (.soughtData (c.source.nextData start)) (s.ios id) rfl rfl rfl trivial
    simpa only [DdJob.setIo, Function.update_eq_self] using performed
  | seekHole start =>
    cases performed
    have performed := filled.performed held (.soughtHole (c.source.nextHole start)) (s.ios id) rfl rfl rfl trivial
    simpa only [DdJob.setIo, Function.update_eq_self] using performed

/-! ## Every run -/

/-- A request is over; a transfer leaves its part to its io. -/
theorem DdJob.Filled.land (filled : s.Filled c before none) {flight : Flight} (held : s.flight id = some flight) {error : Int}
    (stopping : s.error ≠ 0 → error ≠ 0) :
    (({ s with error := error } : DdJob).setFlight id none).Filled c before (if flight.moves then some id else none) := by
  refine ⟨filled.ahead, fun other flight' held' => filled.stages other flight' (held_setFlight id other held'), ?_, ?_, filled.ended⟩
  · intro plain other
    exact (filled.lengths plain other).imp_right (Or.imp_right (Or.imp_left stopping))
  · rcases filled.taken with stops | taken
    · exact Or.inl (stops.imp_left stopping)
    right
    intro i read
    rcases taken i read with copied | ⟨other, free | ⟨flight', held', moves⟩, within⟩
    · exact Or.inl copied
    · cases free
    · refine Or.inr ⟨other, ?_, within⟩
      by_cases same : other = id
      · rw [same, held] at held'
        cases held'
        rw [moves, same]
        exact Or.inl rfl
      · exact Or.inr ⟨flight', (Function.update_of_ne same _ _).trans held', moves⟩

/-- A result that a poller notices stops the job. -/
theorem errorAfter_notices {type : DdSubmitType} {res : Int} (noticed : c.Notices (s.ios id) type res) :
    c.errorAfter s id type res ≠ 0 := by
  obtain ⟨file, failed⟩ := noticed
  unfold DdSetup.errorAfter
  rw [file]
  simp only
  cases uring : c.uring with
  | true =>
    rw [uring] at failed
    simp only [↓reduceIte] at failed ⊢
    rw [if_pos failed]
    omega
  | false =>
    rw [uring] at failed
    simp only [Bool.false_eq_true, ↓reduceIte] at failed ⊢
    rw [if_pos failed]
    decide

/-- Every transfer moves all its bytes, or a poller makes an error of it. For the callbacks of
a bdev every transfer is a success, and for the poller of io_uring a short one. -/
def Seen (c : DdSetup) (s : DdJob) : DdEvent → Prop
  | .perform id res =>
    match s.flight id with
    | some (.submitted (.transfer type length _)) => res = length ∨ c.Notices (s.ios id) type res
    | _ => True
  | _ => True

instance (c : DdSetup) (s : DdJob) (event : DdEvent) : Decidable (Seen c s event) := by
  unfold Seen
  split
  · split <;> infer_instance
  · infer_instance

/-- All that is known of a run. -/
structure DdJob.Sound (c : DdSetup) (before : Nat → UInt8) (s : DdJob) : Prop where
  covered : s.Covered c.queueDepth
  lined : s.Lined c
  placed : s.Placed c before
  filled : s.Filled c before none

theorem ddAdvance_filled (regular : c.Regular) (unit : 0 < c.ioUnitSize) (sound : s.Sound c before) {type : DdSubmitType} {res : Int}
    (held : s.flight id = some (.transferred type res)) (o : Outcomes) :
    (ddAdvance c o type id (({ s with error := c.errorAfter s id type res } : DdJob).setFlight id none)).Filled c before none := by
  obtain ⟨part, _⟩ := sound.placed.flights id _ held
  have stage := sound.filled.stages id _ held
  have landed := (sound.covered.land held (c.errorAfter s id type res)).complete
  have filled := (sound.filled.land held (errorAfter_ne c s id type res)).complete
  have placed := (sound.placed.land id (errorAfter_ne c s id type res)).complete
  have lined := (sound.lined.land id (c.errorAfter s id type res)).complete
  have frame := complete_frame (({ s with error := c.errorAfter s id type res } : DdJob).setFlight id none)
  have stops (noticed : c.Notices (s.ios id) type res) :
      (({ s with error := c.errorAfter s id type res } : DdJob).setFlight id none).complete.Stopping :=
    frame.2.2.2.mpr (Or.inl (errorAfter_notices noticed))
  have idle : (({ s with error := c.errorAfter s id type res } : DdJob).setFlight id none).complete.flight id = none := by
    rw [frame.2.1]
    exact Function.update_self ..
  have ios : (({ s with error := c.errorAfter s id type res } : DdJob).setFlight id none).complete.ios id = s.ios id := by
    rw [frame.1]
    rfl
  cases type with
  | populate =>
    refine (ddTargetRead_cases c o id _).filled filled idle landed.quiet ?_
    rw [ios]
    exact stage.imp_left stops
  | read =>
    refine (ddTargetWrite_cases c o id _).filled filled idle landed.quiet ?_
    rw [ios]
    exact stage.imp_left stops
  | write =>
    refine (ddTargetSeek_cases c o id _).filled regular unit placed lined (filled.drop ?_) idle landed.quiet
    refine stage.imp stops ?_
    intro right i within
    rw [ios] at within
    obtain ⟨first, last⟩ := within
    have start := part.start
    have finish := part.finish
    have region := sound.placed.region.2
    have more := le_blocks regular.block (s.ios id).length
    have written := right (c.readRegionStart + i - (s.ios id).offset) (by omega)
    have place : c.place (s.ios id) + (c.readRegionStart + i - (s.ios id).offset) = c.writeRegionStart + i := by
      unfold DdSetup.place
      omega
    have index : (s.ios id).offset - c.readRegionStart + (c.readRegionStart + i - (s.ios id).offset) = i := by omega
    rw [place, index, value_inside (by omega)] at written
    left
    rw [complete_output]
    exact written

theorem sound_step (regular : c.Regular) (apart : c.Apart) (unit : 0 < c.ioUnitSize) (s : DdJob) (event : DdEvent) (s' : DdJob) (sound : s.Sound c before)
    (seen : Seen c s event) (stepped : ddStep c s event = some s') : s'.Sound c before := by
  refine ⟨covered_step s event s' sound.covered stepped, lined_step s event s' sound.lined stepped,
    placed_step regular sound.placed sound.lined stepped, ?_⟩
  have filled := sound.filled
  cases ddStep_cases stepped with
  | performed held performed =>
    refine ddPerform_filled regular apart sound.placed filled held performed ?_
    rintro type length start rfl
    simpa only [Seen, held] using seen
  | again => exact filled
  | @advanced id o type res held =>
    rw [typeOf_eq (sound.placed.flights id _ held).2]
    exact ddAdvance_filled regular unit sound held o
  | soughtData held sought =>
    obtain ⟨indirect, _⟩ := sound.lined.seeking _ _ held rfl
    exact sought.filled regular (sound.placed.land _ fun failed => failed) (filled.land held fun failed => failed)
      (sound.covered.land held s.error) (Function.update_self ..) indirect (sound.placed.flights _ _ held)
  | soughtHole held sought =>
    obtain ⟨indirect, head⟩ := sound.lined.seeking _ _ held rfl
    exact sought.filled regular unit (sound.placed.land _ fun failed => failed) (sound.lined.land _ s.error)
      (filled.land held fun failed => failed) (sound.covered.land held s.error) (sound.lined.noSeek held rfl)
      (Function.update_self ..) indirect head (sound.placed.flights _ _ held)
  | pollFailed _ failed =>
    exact filled.same rfl rfl rfl rfl (fun _ => Or.inl (Int.ne_of_lt failed)) (fun interrupt => interrupt) fun finished => finished
  | pollEnded _ failed =>
    refine filled.same rfl rfl rfl rfl (fun stopping => stopping) (fun interrupt => interrupt) ?_
    exact fun finished => (mem_exit finished).resolve_right (Int.ne_of_lt failed)
  | status =>
    refine filled.same rfl rfl rfl rfl (fun stopping => stopping) (fun interrupt => interrupt) ?_
    intro finished
    simpa [ddShowProgress] using finished
  | interrupted => exact filled.same rfl rfl rfl rfl (fun _ => Or.inr rfl) (fun _ => rfl) fun finished => finished

theorem filled_start (regular : c.Regular) (unit : 0 < c.ioUnitSize) (o : Nat → Outcomes) (buf : Nat → Nat → UInt8)
    (before : Nat → UInt8) (size k : Nat) : (ddStart c o (.fresh c buf before size) k).Filled c before none := by
  induction k with
  | zero =>
    refine ⟨fun _ _ => rfl, ?_, fun _ _ => Or.inl rfl, ?_, ?_⟩
    · intro _ _ held
      cases held
    · right
      intro i read
      exact absurd (Nat.lt_of_le_of_lt (Nat.le_add_right _ _) read) (Nat.lt_irrefl _)
    · intro finished
      cases finished
  | succ k ih =>
    have covered := covered_start (covered_fresh c k buf before size) c o k (Nat.le_refl _)
    exact (ddTargetSeek_cases c (o k) k _).filled regular unit (placed_start regular o buf before size k)
      (lined_start c o buf before size k) ih (start_idle c o buf before size k).1 covered.quiet

end

theorem sound_always {c : DdSetup} (regular : c.Regular) (apart : c.Apart) (unit : 0 < c.ioUnitSize) (o : Nat → Outcomes) (buf : Nat → Nat → UInt8)
    (output : Nat → UInt8) (size : Nat) {events : List DdEvent}
    (seen : Guarded (ddStep c) (Seen c) (ddRunning c o buf output size) events) :
    Always (ddStep c) (fun s => s.Sound c output) (ddRunning c o buf output size) events := by
  have start : (ddRunning c o buf output size).Sound c output :=
    ⟨covered_start (covered_fresh c c.queueDepth buf output size) c o c.queueDepth (Nat.le_refl _),
      lined_start c o buf output size c.queueDepth, placed_start regular o buf output size c.queueDepth,
      filled_start regular unit o buf output size c.queueDepth⟩
  exact always_of_guarded (sound_step regular apart unit) start seen

/-- A regular copy that ends without an error, and was not interrupted, has copied its region,
whatever the order of the requests; a sparse one may have left holes as they were. The output is
none that is appended to, and not the input. -/
theorem exits_with_copy (c : DdSetup) (regular : c.Regular) (apart : c.Apart) (unit : 0 < c.ioUnitSize) (o : Nat → Outcomes)
    (buf : Nat → Nat → UInt8) (output : Nat → UInt8) (size : Nat) (events : List DdEvent)
    (seen : Guarded (ddStep c) (Seen c) (ddRunning c o buf output size) events) :
    Always (ddStep c)
      (fun s => .exit 0 ∈ s.acts → s.interrupt = true ∨
        (∀ i, i < c.copySize → c.Copied output s.output i) ∧
        ∀ i, c.copySize ≤ i → s.output (c.writeRegionStart + i) = output (c.writeRegionStart + i))
      (ddRunning c o buf output size) events := by
  refine (sound_always regular apart unit o buf output size seen).mono ?_
  intro s sound finished
  refine (sound.filled.ended finished).imp_right ?_
  intro copied
  refine ⟨copied, ?_⟩
  intro i outside
  have region := sound.placed.region.2
  exact sound.filled.ahead i (by omega)

theorem sixBytes_apart : sixBytes.Apart := ⟨rfl, rfl⟩

theorem sixBytes_exits_with_copy :
    (run (ddStep sixBytes) sixBytesRunning sixBytesEvents).map (fun s => (s.acts, (List.range 9).map s.output)) =
      some ([.showProgress true 6, .exit 0], [1, 2, 3, 4, 5, 6, 255, 255, 255]) ∧
    Always (ddStep sixBytes)
      (fun s => .exit 0 ∈ s.acts → s.interrupt = true ∨
        (∀ i, i < 6 → sixBytes.Copied (fun _ => 255) s.output i) ∧ ∀ i, 6 ≤ i → s.output (sixBytes.writeRegionStart + i) = 255)
      sixBytesRunning sixBytesEvents := by
  refine ⟨by decide +kernel, ?_⟩
  exact exits_with_copy sixBytes sixBytes_regular sixBytes_apart (by decide) _ _ _ _ _ (by decide +kernel)

end BdevUbi.Dd
