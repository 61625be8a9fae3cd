import BdevUbi.Dd.Launch

/-! Copies between bdevs that leave their devices.

The size of the output is compared with `--count`, and with nothing if there is none.
-/

set_option autoImplicit false

namespace BdevUbi.Dd
open BdevUbi.Library

/-! ## Runs without an error -/

/-- Nothing has gone wrong so far. -/
structure DdJob.Fine (s : DdJob) : Prop where
  error : s.error = 0
  running : s.interrupt = false
  exits : ∀ rc, .exit rc ∈ s.acts → rc = 0

/-- Both targets are bdevs, of which none is appended to, and no hole is skipped. -/
structure DdSetup.Bdevs (c : DdSetup) : Prop where
  input : c.input.type = .bdev
  output : c.output.type = .bdev
  plain : c.sparse = false
  sent : c.append = false

section
variable {c : DdSetup} {id : Nat} {s s' : DdJob}

theorem DdJob.Fine.going (fine : s.Fine) : ¬ s.Stopping := by
  rintro (failed | stopped)
  · exact failed fine.error
  · rw [fine.running] at stopped
    cases stopped

theorem DdJob.Fine.same (fine : s.Fine) (error : s'.error = s.error) (interrupt : s'.interrupt = s.interrupt) (acts : s'.acts = s.acts) :
    s'.Fine := by
  refine ⟨error.trans fine.error, interrupt.trans fine.running, ?_⟩
  rw [acts]
  exact fine.exits

theorem ddStop_fine (fine : s.Fine) : (ddStop s).Fine := by
  have stopped := ddStop_cases s
  generalize ddStop s = s' at stopped ⊢
  cases stopped with
  | waits => exact fine
  | ended _ stopping => exact absurd stopping fine.going
  | shown =>
    refine ⟨fine.error, fine.running, ?_⟩
    intro rc member
    rcases List.mem_append.mp member with old | new
    · rcases List.mem_append.mp old with before | line
      · exact fine.exits rc before
      · cases List.mem_singleton.mp line
    · cases List.mem_singleton.mp new
      rfl

theorem ddSubmit_fine (carrier : Carrier) (id : Nat) (request : DdRequest) (fine : s.Fine) :
    (ddSubmit carrier id request .accepted s).Fine := by
  cases carrier <;> exact fine.same rfl rfl rfl

theorem ddTargetRead_fine (fine : s.Fine) (c : DdSetup) (id : Nat) : (ddTargetRead c .fine id s).Fine := by
  unfold ddTargetRead
  simp only [fine.going, ↓reduceIte]
  refine ddSubmit_fine _ id _ ?_
  exact fine.same rfl rfl rfl

theorem ddTargetWrite_fine (fine : s.Fine) (c : DdSetup) (id : Nat) : (ddTargetWrite c .fine id s).Fine := by
  unfold ddTargetWrite
  simp only [fine.going, ↓reduceIte]
  refine ddSubmit_fine _ id _ ?_
  exact fine.same rfl rfl rfl

theorem ddTargetPopulateBuffer_fine (fine : s.Fine) (c : DdSetup) (id : Nat) : (ddTargetPopulateBuffer c .fine id s).Fine := by
  rw [ddTargetPopulateBuffer_eq]
  simp only
  split
  · refine ddStop_fine ?_
    exact fine.same rfl rfl rfl
  · split
    · refine ddTargetRead_fine ?_ c id
      exact fine.same rfl rfl rfl
    · refine ddSubmit_fine _ id _ ?_
      exact fine.same rfl rfl rfl

theorem ddTargetSeek_fine (fine : s.Fine) (plain : c.sparse = false) (id : Nat) : (ddTargetSeek c .fine id s).Fine := by
  unfold ddTargetSeek
  rw [if_pos plain]
  exact ddTargetPopulateBuffer_fine fine c id

theorem DdJob.Fine.complete (fine : s.Fine) : s.complete.Fine := by
  unfold DdJob.complete
  split
  · exact fine.same rfl rfl rfl
  · refine ⟨fine.error, fine.running, ?_⟩
    intro rc member
    rcases List.mem_append.mp member with old | new
    · exact fine.exits rc old
    · cases List.mem_singleton.mp new

theorem Proceeds.fine (proceeds : Proceeds c id s s') (bdevs : c.Bdevs) (fine : s.Fine) : s'.Fine := by
  cases proceeds with
  | performed _ performed =>
    obtain ⟨_, _, _, _, _, acts, interrupt, error⟩ := ddPerform_transfer performed
    exact fine.same error interrupt acts
  | @advanced type res =>
    have target : (c.targetOf type).type = .bdev := by
      cases type with
      | populate => exact bdevs.output
      | read => exact bdevs.input
      | write => exact bdevs.output
    have unseen : c.errorAfter s id type res = s.error := by
      unfold DdSetup.errorAfter
      rw [target]
    have landed : (({ s with error := c.errorAfter s id type res } : DdJob).setFlight id none).Fine := by
      rw [unseen]
      exact fine.same rfl rfl rfl
    have completed := landed.complete
    cases c.typeOf s id type with
    | populate => exact ddTargetRead_fine completed c id
    | read => exact ddTargetWrite_fine completed c id
    | write => exact ddTargetSeek_fine completed bdevs.plain id

theorem fine_start (plain : c.sparse = false) (buf : Nat → Nat → UInt8) (output : Nat → UInt8) (size k : Nat) :
    (ddStart c (fun _ => .fine) (.fresh c buf output size) k).Fine := by
  induction k with
  | zero =>
    refine ⟨rfl, rfl, ?_⟩
    intro rc member
    cases member
  | succ k ih => exact ddTargetSeek_fine ih plain k

theorem next_seen (s : DdJob) {flight : Flight} (held : s.flight id = some flight) : Seen c s (flight.next id) := by
  unfold Flight.next
  split
  · simp only [Seen, held]
    exact Or.inl trivial
  · trivial

theorem exit_of_exits (fine : s.Fine) (ended : 0 < s.exits) : .exit 0 ∈ s.acts := by
  obtain ⟨act, member, exit⟩ := List.countP_pos_iff.mp ended
  cases act with
  | exit rc =>
    rw [fine.exits rc member] at member
    exact member
  | showProgress => cases exit
  | assertFailed => cases exit

/-- A copy between bdevs has a run to its end in which nothing goes wrong. -/
theorem ends_fine (regular : c.Regular) (bdevs : c.Bdevs) (unit : 0 < c.ioUnitSize) (depth : 0 < c.queueDepth)
    (buf : Nat → Nat → UInt8) (output : Nat → UInt8) (size : Nat) :
    ∃ events final, Guarded (ddStep c) (Seen c) (ddRunning c (fun _ => .fine) buf output size) events ∧
      run (ddStep c) (ddRunning c (fun _ => .fine) buf output size) events = some final ∧
      .exit 0 ∈ final.acts ∧ final.interrupt = false := by
  have direct := direct_of_plain bdevs.plain
  have balanced := (balanced_always c direct unit (fun _ => .fine) buf output size [] fun _ member => by cases member).head
  obtain ⟨last, some, start⟩ : ∃ last, 0 < last ∧ (ddRunning c (fun _ => .fine) buf output size).Ongoing c output last :=
    ⟨_, last_pos c depth _, steady_start regular _ _ _ _, balanced, kept_start direct _ _ _ _⟩
  have reached : ∃ events final, Guarded (ddStep c) (Seen c) (ddRunning c (fun _ => .fine) buf output size) events ∧
      run (ddStep c) (ddRunning c (fun _ => .fine) buf output size) events = .some final ∧ 0 < final.exits ∧ final.Fine := by
    refine reaches_of_measure (fun s => s.Ongoing c output last ∧ s.Fine) _ _ (DdJob.work c) ?_ ⟨start, fine_start bdevs.plain buf output size _⟩
    rintro s ⟨ongoing, fine⟩
    rcases ongoing.proceeds regular direct some with ended | ⟨id, flight, s', held, moves, stepped, later, less⟩
    · exact Or.inl ⟨ended, fine⟩
    · right
      exact ⟨flight.next id, s', next_seen s held, stepped,
        ⟨later, (next_proceeds ongoing.kept held moves stepped).fine bdevs fine⟩, less⟩
  obtain ⟨events, final, seen, ran, ended, fine⟩ := reached
  exact ⟨events, final, seen, ran, exit_of_exits fine ended, fine.running⟩

end

/-! ## Requests and bytes -/

/-- The job without the bytes of its buffers and of the output. -/
def DdJob.shape (s : DdJob) : DdJob :=
  { s with ios := fun id => { s.ios id with buf := fun _ => 0 }, output := fun _ => 0 }

/-- The same copy from an input that is not the output. -/
def DdSetup.alone (c : DdSetup) : DdSetup := { c with shared := false }

section
variable (c : DdSetup) (o : Outcomes) (id : Nat) (s : DdJob)

theorem shape_setIo (io : DdIo) : (s.setIo id io).shape = s.shape.setIo id { io with buf := fun _ => 0 } := by
  have ios : (fun other => { Function.update s.ios id io other with buf := fun _ => 0 }) =
      Function.update s.shape.ios id { io with buf := fun _ => 0 } := by
    funext other
    by_cases same : other = id
    · simp only [same, Function.update_self]
    · simp only [Function.update_of_ne same]
      rfl
  unfold DdJob.setIo DdJob.shape
  rw [ios]
  rfl

/-- What a read puts into a buffer does not show. -/
theorem shape_fill (buf : Nat → UInt8) : (s.setIo id { s.ios id with buf := buf }).shape = s.shape := by
  rw [shape_setIo]
  exact congrArg (fun ios => { s.shape with ios := ios }) (Function.update_eq_self id s.shape.ios)

theorem shape_showEnd : (ddShowEnd s).shape = ddShowEnd s.shape := apply_ite DdJob.shape (s.error = 0) _ _

theorem shape_stop : (ddStop s).shape = ddStop s.shape := by
  have ended := congrArg (fun t => if s.outstanding = 0 then ddExit s.error t else s.shape) (shape_showEnd s)
  exact (apply_ite DdJob.shape (s.outstanding = 0) _ _).trans ended

theorem shape_complete : s.complete.shape = s.shape.complete := apply_ite DdJob.shape (0 < s.outstanding) _ _

theorem shape_refused (rc : Int) : (ddRefused rc s).shape = ddRefused rc s.shape := by
  have failed := congrArg (fun t : DdJob => if t.outstanding = 0 then ddExit rc { t with error := rc } else { t with error := rc })
    (shape_complete s)
  exact (apply_ite DdJob.shape (s.complete.outstanding = 0) _ _).trans failed

theorem shape_submit (carrier : Carrier) (request : DdRequest) (submission : Submission) :
    (ddSubmit carrier id request submission s).shape = ddSubmit carrier id request submission s.shape := by
  cases submission with
  | accepted => rfl
  | refused rc =>
    have refused (other : DdJob) := congrArg (fun t => if rc = 0 then other.shape else t) (shape_refused s rc)
    cases carrier with
    | uring => rfl
    | aio => exact (apply_ite DdJob.shape (rc = 0) _ _).trans (refused (s.setFlight id (some .lost)))
    | bdev => exact (apply_ite DdJob.shape (rc = 0) _ _).trans (refused (s.setFlight id (some (.submitted request))))

theorem shape_requested (io : DdIo) (type : DdSubmitType) :
    (s.requested id io type).shape = s.shape.requested id { io with buf := fun _ => 0 } type :=
  congrArg (fun t : DdJob => { t with outstanding := s.outstanding + 1 }) (shape_setIo id s { io with type := type })

theorem shape_read : (ddTargetRead c o id s).shape = ddTargetRead c o id s.shape := by
  unfold ddTargetRead
  by_cases stopping : s.Stopping
  · rw [if_pos stopping, if_pos (c := s.shape.Stopping) stopping]
    exact apply_ite DdJob.shape (s.outstanding = 0) _ _
  · rw [if_neg stopping, if_neg (c := s.shape.Stopping) stopping, shape_submit]
    exact congrArg (ddSubmit _ id _ o.submit) (shape_requested id s (s.ios id) .read)

theorem shape_write : (ddTargetWrite c o id s).shape = ddTargetWrite c o id s.shape := by
  unfold ddTargetWrite
  by_cases stopping : s.Stopping
  · rw [if_pos stopping, if_pos (c := s.shape.Stopping) stopping, shape_stop]
  · rw [if_neg stopping, if_neg (c := s.shape.Stopping) stopping, shape_submit]
    exact congrArg (fun t : DdJob => ddSubmit _ id _ o.submit { t with incrementalBytes := _ })
      (shape_requested id s (s.ios id) .write)

theorem shape_populate : (ddTargetPopulateBuffer c o id s).shape = ddTargetPopulateBuffer c o id s.shape := by
  have claim : s.shape.claim c id = { s.claim c id with buf := fun _ => 0 } := rfl
  have claimed : ({ s.setIo id (s.claim c id) with inputPos := u64 (s.inputPos + (s.claim c id).length) } : DdJob).shape =
      { s.shape.setIo id (s.shape.claim c id) with inputPos := u64 (s.inputPos + (s.claim c id).length) } :=
    congrArg (fun t : DdJob => { t with inputPos := u64 (s.inputPos + (s.claim c id).length) }) (shape_setIo id s _)
  rw [ddTargetPopulateBuffer_eq, ddTargetPopulateBuffer_eq]
  simp only
  by_cases finished : (s.claim c id).length = 0 ∨ s.Stopping
  · rw [if_pos finished, if_pos (c := (s.shape.claim c id).length = 0 ∨ s.shape.Stopping) finished, shape_stop, shape_setIo, claim]
  · rw [if_neg finished, if_neg (c := (s.shape.claim c id).length = 0 ∨ s.shape.Stopping) finished]
    by_cases whole : (s.claim c id).length % c.output.blockSize = 0
    · rw [if_pos whole, if_pos (c := (s.shape.claim c id).length % c.output.blockSize = 0) whole, shape_read, claimed]
      rfl
    · rw [if_neg whole, if_neg (c := (s.shape.claim c id).length % c.output.blockSize = 0) whole, shape_submit]
      have requested := shape_requested id (s.claimed c id) (s.claim c id) .populate
      have same : (s.claimed c id).shape = s.shape.claimed c id := claimed
      rw [same] at requested
      exact congrArg (ddSubmit _ id _ o.submit) requested

theorem shape_advance (plain : c.sparse = false) (type : DdSubmitType) :
    (ddAdvance c o type id s).shape = ddAdvance c o type id s.shape := by
  cases type with
  | populate => exact (shape_read c o id s.complete).trans (congrArg (ddTargetRead c o id) (shape_complete s))
  | read => exact (shape_write c o id s.complete).trans (congrArg (ddTargetWrite c o id) (shape_complete s))
  | write =>
    simp only [ddAdvance, ddTargetSeek, plain, ↓reduceIte]
    exact (shape_populate c o id s.complete).trans (congrArg (ddTargetPopulateBuffer c o id) (shape_complete s))

end

section
variable {c : DdSetup} {s t t' : DdJob}

/-- The requests and what was done are part of the shape. -/
theorem shape_frame (same : s.shape = t.shape) : s.flight = t.flight ∧ s.exits = t.exits := by
  have flight : s.shape.flight = t.shape.flight := congrArg DdJob.flight same
  have exits : s.shape.exits = t.shape.exits := congrArg DdJob.exits same
  exact ⟨flight, exits⟩

/-- Whether the input is the output shows in the bytes alone. -/
theorem shape_move (same : s.shape = t.shape) (id : Nat) (type : DdSubmitType) (count offset : Nat) :
    (s.move c id type count offset).shape = (t.move c.alone id type count offset).shape := by
  cases type with
  | populate => exact (shape_fill id s _).trans (same.trans (shape_fill id t _).symm)
  | read => exact (shape_fill id s _).trans (same.trans (shape_fill id t _).symm)
  | write =>
    let written (u : DdJob) : DdJob :=
      { u with outputSize := if count = 0 then u.outputSize else max u.outputSize (u.landing c offset + count) }
    exact congrArg written same

/-- A copy between bdevs takes the steps that it would take if the input were another. -/
theorem shape_follows (bdevs : c.Bdevs) (s t : DdJob) (event : DdEvent) (t' : DdJob) (related : s.shape = t.shape ∧ s.Lined c)
    (stepped : ddStep c.alone t event = some t') : ∃ s', ddStep c s event = some s' ∧ s'.shape = t'.shape ∧ s'.Lined c := by
  obtain ⟨same, lined⟩ := related
  obtain ⟨flight, exits⟩ := shape_frame same
  have noSeek := lined.noSeek_of_direct (direct_of_plain bdevs.plain)
  suffices follows : ∃ s', ddStep c s event = some s' ∧ s'.shape = t'.shape by
    obtain ⟨s', now, alike⟩ := follows
    exact ⟨s', now, alike, lined_step s event s' lined now⟩
  cases event with
  | perform id res =>
    simp only [ddStep, flight] at stepped ⊢
    split at stepped
    · rename_i request held
      cases request with
      | seekData => cases noSeek id _ (flight ▸ held)
      | seekHole => cases noSeek id _ (flight ▸ held)
      | transfer type length start =>
        simp only [ddPerform] at stepped ⊢
        split at stepped
        · rename_i fits
          cases stepped
          rw [if_pos fits]
          exact ⟨_, rfl, congrArg (fun u : DdJob => u.setFlight id (some (.transferred type res))) (shape_move same id type res.toNat start)⟩
        · cases stepped
    · cases stepped
  | complete id o =>
    simp only [ddStep, flight] at stepped ⊢
    obtain ⟨held', held, completed⟩ := Option.bind_eq_some_iff.mp stepped
    rw [held]
    cases held' with
    | submitted => cases completed
    | lost => cases completed
    | soughtData => cases noSeek id _ (flight ▸ held)
    | soughtHole => cases noSeek id _ (flight ▸ held)
    | transferred type res =>
      have target : (c.targetOf type).type = .bdev := by
        cases type with
        | populate => exact bdevs.output
        | read => exact bdevs.input
        | write => exact bdevs.output
      have alone : (c.alone.targetOf type).type = .bdev := target
      simp only [ddComplete, alone] at completed
      cases completed
      refine ⟨ddAdvance c o type id (s.setFlight id none), by simp only [Option.bind_some, ddComplete, target], ?_⟩
      have landed : (s.setFlight id none).shape = (t.setFlight id none).shape :=
        congrArg (fun u : DdJob => u.setFlight id none) same
      rw [shape_advance c o id _ bdevs.plain, landed]
      exact (shape_advance c o id _ bdevs.plain type).symm
  | pollFailed rc =>
    have pollerless : c.alone.Pollerless := ⟨bdevs.input, bdevs.output⟩
    simp only [ddStep, pollerless, or_true, ↓reduceIte] at stepped
    cases stepped
  | statusPoller =>
    simp only [ddStep, exits] at stepped ⊢
    split at stepped
    · cases stepped
    · rename_i running
      cases stepped
      rw [if_neg running]
      exact ⟨_, rfl, congrArg (ddShowProgress false) same⟩
  | finish =>
    cases stepped
    exact ⟨_, rfl, congrArg (fun u : DdJob => { u with interrupt := true }) same⟩

theorem ddRunning_alone (c : DdSetup) (o : Nat → Outcomes) (buf : Nat → Nat → UInt8) (output : Nat → UInt8) (size : Nat) :
    ddRunning c.alone o buf output size = ddRunning c o buf output size := by
  have started (k : Nat) : ddStart c.alone o (.fresh c buf output size) k = ddStart c o (.fresh c buf output size) k := by
    induction k with
    | zero => rfl
    | succ k ih => exact congrArg (ddTargetSeek c (o k) k) ih
  exact started c.queueDepth

end

/-! ## Requests behind the end of a device -/

/-- The requests in flight are for bytes that their targets have. -/
def DdSetup.OnDevices (c : DdSetup) (s : DdJob) : Prop :=
  ∀ id type length offset, s.flight id = some (.submitted (.transfer type length offset)) →
    offset + length ≤ (c.targetOf type).totalSize

section
variable {c : DdSetup} {o : Outcomes} {id : Nat} {s s' : DdJob}

theorem Populated.output (populated : Populated c id s s') : s'.output = s.output := by
  cases populated with
  | stopped _ stopped => exact stopped.frame.2.2.1
  | whole _ _ _ submitted => exact submitted.frame.2.1
  | part _ _ _ submitted => exact submitted.frame.2.1

theorem ReadOn.output (read : ReadOn id s s') : s'.output = s.output := by
  cases read with
  | stopped _ stopped => exact stopped.frame.2.2.1
  | asked _ submitted => exact submitted.frame.2.1

theorem Written.output (written : Written c id s s') : s'.output = s.output := by
  cases written with
  | stopped _ stopped => exact stopped.frame.2.2.1
  | asked _ submitted => exact submitted.frame.2.1

theorem ddTargetSeek_output (plain : c.sparse = false) (o : Outcomes) (id : Nat) (s : DdJob) :
    (ddTargetSeek c o id s).output = s.output := by
  unfold ddTargetSeek
  rw [if_pos plain]
  exact (ddTargetPopulateBuffer_cases c o id s).output

theorem output_start (plain : c.sparse = false) (o : Nat → Outcomes) (buf : Nat → Nat → UInt8) (output : Nat → UInt8) (size k : Nat) :
    (ddStart c o (.fresh c buf output size) k).output = output := by
  induction k with
  | zero => rfl
  | succ k ih => exact (ddTargetSeek_output plain (o k) k _).trans ih

/-- As long as the requests are for bytes that the output has, nothing behind its end changes. -/
theorem output_step (plain : c.sparse = false) (sent : c.append = false) {before : Nat → UInt8} (s : DdJob) (event : DdEvent) (s' : DdJob)
    (sound : s.Lined c ∧ ∀ a, c.output.totalSize ≤ a → s.output a = before a) (inside : c.OnDevices s)
    (stepped : ddStep c s event = some s') : s'.Lined c ∧ ∀ a, c.output.totalSize ≤ a → s'.output a = before a := by
  obtain ⟨lined, kept⟩ := sound
  have direct := direct_of_plain plain
  have same (output : s'.output = s.output) : ∀ a, c.output.totalSize ≤ a → s'.output a = before a := by
    rw [output]
    exact kept
  refine ⟨lined_step s event s' lined stepped, ?_⟩
  cases ddStep_cases stepped with
  | @performed id res request _ held performed =>
    cases request with
    | seekData => cases lined.noSeek_of_direct direct id _ held
    | seekHole => cases lined.noSeek_of_direct direct id _ held
    | transfer type length start =>
      have fits := inside id type length start held
      simp only [ddPerform] at performed
      split at performed
      · rename_i short
        cases performed
        cases type with
        | populate => exact kept
        | read => exact kept
        | write =>
          intro a behind
          have end_ : start + length ≤ c.output.totalSize := fits
          have outside : blit s.output start res.toNat (s.ios id).buf a = s.output a := blit_outside (by omega)
          exact (congrFun (move_output sent s id res.toNat start) a).trans (outside.trans (kept a behind))
      · cases performed
  | again => exact kept
  | @advanced id o type res held =>
    apply same
    have completed := complete_output (({ s with error := c.errorAfter s id type res } : DdJob).setFlight id none)
    cases c.typeOf s id type with
    | populate => exact (ddTargetRead_cases c o id _).output.trans completed
    | read => exact (ddTargetWrite_cases c o id _).output.trans completed
    | write => exact (ddTargetSeek_output plain o id _).trans completed
  | soughtData held =>
    obtain ⟨indirect, _⟩ := lined.seeking _ _ held rfl
    exact absurd direct indirect
  | soughtHole held =>
    obtain ⟨indirect, _⟩ := lined.seeking _ _ held rfl
    exact absurd direct indirect
  | pollFailed => exact kept
  | pollEnded => exact kept
  | status => exact kept
  | interrupted => exact kept

theorem output_kept (plain : c.sparse = false) (sent : c.append = false) {o : Nat → Outcomes} {buf : Nat → Nat → UInt8} {output : Nat → UInt8} {size : Nat}
    {events : List DdEvent} {final : DdJob} (inside : Always (ddStep c) c.OnDevices (ddRunning c o buf output size) events)
    (ran : run (ddStep c) (ddRunning c o buf output size) events = some final) {a : Nat} (behind : c.output.totalSize ≤ a) :
    final.output a = output a := by
  have start : (ddRunning c o buf output size).Lined c ∧
      ∀ a, c.output.totalSize ≤ a → (ddRunning c o buf output size).output a = output a :=
    ⟨lined_start c o buf output size c.queueDepth, fun a _ => congrFun (output_start plain o buf output size c.queueDepth) a⟩
  exact ((always_of_guarded (output_step plain sent) start inside.guarded).final ran).2 a behind

/-- A copy of more bytes than the output has left comes to its end, and what it has copied then lies behind the end of the
output: some request was for it. -/
theorem leaves_device_apart (regular : c.Regular) (bdevs : c.Bdevs) (other : c.shared = false) (unit : 0 < c.ioUnitSize)
    (depth : 0 < c.queueDepth) (start : c.writeRegionStart ≤ c.output.totalSize)
    (short : c.output.totalSize < c.writeRegionStart + c.copySize) :
    ∃ before events, ¬ Always (ddStep c) c.OnDevices (ddRunning c (fun _ => .fine) (fun _ _ => 0) before 0) events := by
  have next (byte : UInt8) : byte + 1 ≠ byte := by
    intro same
    simp at same
  -- an output whose bytes are all other than those of the input
  let before := fun a => c.source.byte (c.readRegionStart + (a - c.writeRegionStart)) + 1
  obtain ⟨events, final, seen, ran, finished, running⟩ := ends_fine regular bdevs unit depth (fun _ _ => 0) before 0
  refine ⟨before, events, fun inside => ?_⟩
  have sound := (sound_always regular ⟨other, bdevs.sent⟩ unit _ _ _ _ seen).final ran
  have copied := (sound.filled.ended finished).resolve_left (by rw [running]; decide)
    (c.output.totalSize - c.writeRegionStart) (by omega)
  have value := copied.resolve_right fun hole => by
    rw [bdevs.plain] at hole
    cases hole.1
  rw [Nat.add_sub_cancel' start, output_kept bdevs.plain bdevs.sent inside ran (Nat.le_refl _)] at value
  exact next _ value

/-- So does one whose output is its input, since its requests are the same. -/
theorem leaves_device (regular : c.Regular) (bdevs : c.Bdevs) (unit : 0 < c.ioUnitSize) (depth : 0 < c.queueDepth)
    (start : c.writeRegionStart ≤ c.output.totalSize) (short : c.output.totalSize < c.writeRegionStart + c.copySize) :
    ∃ before events, ¬ Always (ddStep c) c.OnDevices (ddRunning c (fun _ => .fine) (fun _ _ => 0) before 0) events := by
  have regular' : c.alone.Regular := ⟨regular.block, regular.unit, regular.read, regular.write, fun sparse => by
    have dense : c.sparse = true := sparse
    rw [bdevs.plain] at dense
    cases dense⟩
  have bdevs' : c.alone.Bdevs := ⟨bdevs.input, bdevs.output, bdevs.plain, bdevs.sent⟩
  obtain ⟨before, events, outside⟩ := leaves_device_apart regular' bdevs' rfl unit depth start short
  refine ⟨before, events, fun inside => outside ?_⟩
  rw [ddRunning_alone]
  refine inside.transfer (shape_follows bdevs) ?_ ⟨rfl, lined_start c _ _ _ _ _⟩
  rintro s t ⟨same, _⟩ within id type length offset held
  exact within id type length offset ((shape_frame same).1 ▸ held)

end

section
variable {opts : SpdkDdOpts} {env : DdEnv} {c : DdSetup}

/-- A copy from bdev to bdev reads what its input has. -/
theorem Launched.readFits (launched : Launched opts env c) (accepted : opts.Accepted) (plain : opts.Plain c)
    (bdev : opts.inputBdev.isSome) : c.readRegionStart + c.copySize ≤ c.input.totalSize := by
  obtain ⟨size, _, _⟩ := launched.copySize accepted plain.read plain.reach
  have start := launched.readRegionStart (Nat.lt_of_le_of_lt (Nat.le_add_right _ _) plain.read)
  have small := plain.read
  obtain ⟨skip, count⟩ := launched.input bdev
  by_cases some : opts.count ≠ 0
  · have checked := count some
    rw [start, u64_of_lt (by omega : opts.count * opts.unit < 2 ^ 64), u64_of_lt (by omega)] at checked
    rw [size, if_pos some, start]
    omega
  · rw [size, if_neg some, start]
    rw [start] at skip
    omega

/-- It writes what its output has, if a count was given or enough is left there. -/
theorem Launched.writeFits_iff (launched : Launched opts env c) (accepted : opts.Accepted) (plain : opts.Plain c)
    (file : opts.outputFile = none) (bdev : opts.outputBdev.isSome) :
    c.writeRegionStart + c.copySize ≤ c.output.totalSize ↔
      opts.count ≠ 0 ∨
        c.input.totalSize - opts.inputOffset * opts.unit ≤ c.output.totalSize - opts.outputOffset * opts.unit := by
  obtain ⟨size, _, _⟩ := launched.copySize accepted plain.read plain.reach
  have start := launched.writeRegionStart (Nat.lt_of_le_of_lt (Nat.le_add_right _ _) plain.write)
  have more := le_blocks (launched.outputBlock accepted) c.copySize
  have small := plain.write
  obtain ⟨seek, count⟩ := launched.output file bdev
  rw [start] at seek count ⊢
  by_cases some : opts.count ≠ 0
  · rw [if_pos some] at size
    have checked := count some
    rw [u64_of_lt (by omega : opts.count * opts.unit < 2 ^ 64), u64_of_lt (by omega)] at checked
    exact ⟨fun _ => Or.inl some, fun _ => by omega⟩
  · rw [if_neg some] at size
    rw [size]
    constructor
    · intro fits
      right
      omega
    · intro fits
      have rest := fits.resolve_left some
      omega

/-- The last block too, since the output is made of blocks and a unit is made of them. -/
theorem Launched.blocksFit (launched : Launched opts env c) (plain : opts.Plain c) {name : String}
    (file : opts.outputFile = none) (bdev : opts.outputBdev = some name)
    (fits : c.writeRegionStart + c.copySize ≤ c.output.totalSize) :
    c.writeRegionStart + c.blocks c.copySize ≤ c.output.totalSize := by
  obtain ⟨depth, _, opened⟩ := launched.opened
  rw [file, bdev] at opened
  obtain ⟨_, block, _, whole, _⟩ := ddOpen_bdev opened
  have start := launched.writeRegionStart (Nat.lt_of_le_of_lt (Nat.le_add_right _ _) plain.write)
  have aligned : c.writeRegionStart % c.output.blockSize = 0 := by
    rw [start, Nat.mul_mod, plain.whole, Nat.mul_zero, Nat.zero_mod]
  have rounded := blocks_mono (c := c) fits
  rw [blocks_add block aligned, blocks_of_whole block whole] at rounded
  exact rounded

end

/-- A copy between bdevs that was let pass asks for bytes that both have, in every run, if and only if a count was given or
what is left of the output is no less than what is left of the input. -/
theorem stays_on_devices_iff (opts : SpdkDdOpts) (env : DdEnv) (c : DdSetup) (accepted : mainRefuses opts = none)
    (launched : ddRun opts env = .ok c) (plain : opts.Plain c) (input : opts.inputFile = none) (output : opts.outputFile = none)
    (depth : 0 < opts.queueDepth) :
    (∀ o buf before size events, Always (ddStep c) c.OnDevices (ddRunning c o buf before size) events) ↔
      opts.count ≠ 0 ∨
        c.input.totalSize - opts.inputOffset * opts.unit ≤ c.output.totalSize - opts.outputOffset * opts.unit := by
  have options := mainRefuses_none accepted
  have known := ddRun_cases launched
  have regular := known.regular options plain
  have dense : c.sparse = false := known.sparse.trans plain.plain
  have bdevOf {file bdev : Option String} (one : OneTarget file bdev) (none : file = .none) : ∃ name, bdev = some name := by
    rcases one with ⟨name, file', _⟩ | ⟨name, _, bdev⟩
    · rw [none] at file'
      cases file'
    · exact ⟨name, bdev⟩
  obtain ⟨inputName, inputBdev⟩ := bdevOf options.input input
  obtain ⟨outputName, outputBdev⟩ := bdevOf options.output output
  rw [← known.writeFits_iff options plain output (by rw [outputBdev]; rfl)]
  constructor
  · intro inside
    by_contra short
    have bdevs : c.Bdevs := by
      obtain ⟨depth, openedInput, openedOutput⟩ := known.opened
      rw [input, inputBdev] at openedInput
      rw [output, outputBdev] at openedOutput
      have sent : c.append = false := by
        rw [known.append, ddAppends, output]
        rfl
      exact ⟨(ddOpen_bdev openedInput).1, (ddOpen_bdev openedOutput).1, dense, sent⟩
    have unit : 0 < c.ioUnitSize := by
      rw [known.unit]
      exact options.unit
    have places : 0 < c.queueDepth := by
      refine Nat.pos_of_ne_zero fun none => ?_
      rcases (known.depth_eq_zero_iff options plain).mp none with zero | ⟨file, _⟩
      · omega
      · rw [input] at file
        cases file
    have seek := (known.output output (by rw [outputBdev]; rfl)).1
    obtain ⟨before, events, outside⟩ := leaves_device regular bdevs unit places seek (Nat.not_le.mp short)
    exact outside (inside _ _ before _ events)
  · intro fits o buf before size events
    have read := known.readFits options plain (by rw [inputBdev]; rfl)
    have write := known.blocksFit plain output outputBdev fits
    refine (always_of_invariant (steady_step regular) (steady_start regular o buf before size) events).mono ?_
    intro s steady id type length offset held
    have inside := steady.placed.inside regular held
    cases type with
    | populate => exact Nat.le_trans inside.2.1 write
    | read => exact Nat.le_trans inside.2.1 read
    | write => exact Nat.le_trans inside.2.1 write

/-- `--ib in --ob out --bs 4`, with an output of half the size. -/
def halfOpts : SpdkDdOpts := { gOpts with inputBdev := some "in", outputBdev := some "out", ioUnitSize := 4 }

def halfEnv : DdEnv :=
  { sixBytesEnv with
    openBdev := fun name => if name = "in" then .ok ⟨4, 4, by decide⟩ else .ok twoBlocks
    blocks := by
      intro name found opened
      split at opened
      · cases opened
        decide
      · cases opened
        decide }

def halfCopy : DdSetup where
  input := ⟨.bdev, 4, 16⟩
  output := ⟨.bdev, 4, 8⟩
  inputOffset := 0
  outputOffset := 0
  ioUnitSize := 4
  copySize := 16
  queueDepth := 2
  uring := true
  aioContext := true
  sparse := false
  source := .plain 4 fun i => UInt8.ofNat (i + 1)
  shared := false
  append := false

theorem halfCopy_leaves_device :
    ¬ (∀ o buf before size events, Always (ddStep halfCopy) halfCopy.OnDevices (ddRunning halfCopy o buf before size) events) := by
  intro inside
  have fits := (stays_on_devices_iff halfOpts halfEnv halfCopy (by decide) rfl
    ⟨rfl, by decide, by decide, by decide, fun none => by cases none⟩ rfl rfl (by decide)).mp inside
  exact absurd fits (by decide)

end BdevUbi.Dd
