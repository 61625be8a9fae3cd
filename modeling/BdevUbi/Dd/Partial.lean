import BdevUbi.Dd.Tally

/-! Copies that do not fill their last block.

`dd_aio_poll` compares what was moved with the length of the part, and a request to the output is
for whole blocks. So the write of a part that does not fill its last block looks too long, and so does
the read of that block before it.
-/

set_option autoImplicit false

namespace BdevUbi.Dd
open BdevUbi.Library

/-- The part ends with the region. -/
def DdSetup.Last (c : DdSetup) (io : DdIo) : Prop := io.offset + io.length = c.readRegionStart + c.copySize

/-- The last part, once it was taken, is in flight or with the io `own`, or the job stops; its write is not what the
poller waits for. -/
structure DdJob.Pending (c : DdSetup) (own : Option Nat) (s : DdJob) : Prop where
  last : s.inputPos = c.readRegionStart + c.copySize → s.Stopping ∨ ∃ id, (s.flight id ≠ none ∨ own = some id) ∧ c.Last (s.ios id)
  writes : ∀ id res, s.flight id = some (.transferred .write res) → c.Last (s.ios id) → res ≠ (s.ios id).length
  ended : .exit 0 ∈ s.acts → s.interrupt = true

/-- A write moves all its bytes, or it fails. -/
def WritesWhole (s : DdJob) : DdEvent → Prop
  | .perform id res =>
    match s.flight id with
    | some (.submitted (.transfer .write length _)) => res = length ∨ res < 0
    | _ => True
  | _ => True

/-- Of a request in flight, whether a write that has moved so much is whole. -/
def decideWhole (res : Int) : (flight : Option Flight) →
    Decidable (match flight with | some (.submitted (.transfer .write length _)) => res = length ∨ res < 0 | _ => True)
  | none => isTrue trivial
  | some (.submitted (.transfer .write length _)) => inferInstanceAs (Decidable (res = length ∨ res < 0))
  | some (.submitted (.transfer .populate _ _)) => isTrue trivial
  | some (.submitted (.transfer .read _ _)) => isTrue trivial
  | some (.submitted (.seekData _)) => isTrue trivial
  | some (.submitted (.seekHole _)) => isTrue trivial
  | some (.transferred _ _) => isTrue trivial
  | some (.soughtData _) => isTrue trivial
  | some (.soughtHole _) => isTrue trivial
  | some .lost => isTrue trivial

instance (s : DdJob) : (event : DdEvent) → Decidable (WritesWhole s event)
  | .perform id res => decideWhole res (s.flight id)
  | .complete _ _ => isTrue trivial
  | .pollFailed _ => isTrue trivial
  | .statusPoller => isTrue trivial
  | .finish => isTrue trivial

section
variable {c : DdSetup} {before : Nat → UInt8} {o : Outcomes} {id : Nat} {own : Option Nat} {s s' s'' : DdJob}

theorem DdJob.Pending.same (pending : s.Pending c own) (ios : s'.ios = s.ios) (pos : s'.inputPos = s.inputPos)
    (flight : s'.flight = s.flight) (stopping : s.Stopping → s'.Stopping) (interrupt : s.interrupt = true → s'.interrupt = true)
    (exits : .exit 0 ∈ s'.acts → .exit 0 ∈ s.acts) : s'.Pending c own := by
  refine ⟨?_, ?_, fun finished => interrupt (pending.ended (exits finished))⟩
  · rw [pos, ios, flight]
    exact fun last => (pending.last last).imp_left stopping
  · rw [flight, ios]
    exact pending.writes

/-- A job whose last part is gone stops, and so does not end well. -/
theorem DdJob.Pending.stopped (pending : s.Pending c none) (quiet : s.outstanding = 0 → ∀ id, s.flight id = none)
    (finished : s.Stopping ∨ s.inputPos = c.readRegionStart + c.copySize) (stopped : Stopped s s') : s'.Pending c none := by
  have interrupted (idle : s.outstanding = 0) (fine : s.error = 0) : s.interrupt = true := by
    have stops : s.Stopping := by
      rcases finished with stopping | last
      · exact stopping
      · rcases pending.last last with stopping | ⟨id, held, _⟩
        · exact stopping
        · rcases held with held | none
          · exact absurd (quiet idle id) held
          · cases none
    exact stops.resolve_left fun failed => failed fine
  cases stopped with
  | waits => exact pending
  | ended idle =>
    refine ⟨pending.last, pending.writes, ?_⟩
    intro exits
    rcases mem_exit exits with old | fine
    · exact pending.ended old
    · exact interrupted idle fine
  | shown idle fine => exact ⟨pending.last, pending.writes, fun _ => interrupted idle fine⟩

/-- The io with the part has its next request, or the job stops. -/
theorem DdJob.Pending.submitted {request : DdRequest} (pending : s'.Pending c (some id)) (submitted : Submitted s s' id request s'') :
    s''.Pending c none := by
  have started (flight : Flight) (new : ∀ res, flight ≠ .transferred .write res) : (s'.setFlight id (some flight)).Pending c none := by
    refine ⟨?_, ?_, pending.ended⟩
    · intro last
      rcases pending.last last with stopping | ⟨other, held, ends⟩
      · exact Or.inl stopping
      · right
        refine ⟨other, Or.inl ?_, ends⟩
        by_cases same : other = id
        · simp only [same, DdJob.setFlight, Function.update_self]
          exact Option.some_ne_none _
        · simp only [DdJob.setFlight, Function.update_of_ne same]
          refine held.resolve_right fun mine => same ?_
          exact (Option.some.inj mine).symm
    · intro other res held
      rcases held_update held with old | ⟨_, started⟩
      · exact pending.writes other res old
      · exact absurd (Option.some.inj started) (new res)
  have given {rc : Int} (failed : rc ≠ 0) : ({ s' with outstanding := s.outstanding, error := rc } : DdJob).Pending c none :=
    ⟨fun _ => Or.inl (Or.inl failed), pending.writes, pending.ended⟩
  cases submitted with
  | taken =>
    apply started
    intro res same
    cases same
  | lost =>
    apply started
    intro res same
    cases same
  | refused failed => exact given failed
  | ended failed =>
    refine (given failed).same rfl rfl rfl (fun stopping => stopping) (fun interrupt => interrupt) ?_
    exact fun finished => (mem_exit finished).resolve_right failed

theorem DdJob.Pending.requested (pending : s.Pending c (some id)) (type : DdSubmitType) :
    (s.requested id (s.ios id) type).Pending c (some id) := by
  have same (other : Nat) : ((s.requested id (s.ios id) type).ios other).offset = (s.ios other).offset ∧
      ((s.requested id (s.ios id) type).ios other).length = (s.ios other).length := by
    by_cases same : other = id
    · simp only [same, DdJob.requested, DdJob.setIo, Function.update_self, and_self]
    · simp only [DdJob.requested, DdJob.setIo, Function.update_of_ne same, and_self]
  have ends (other : Nat) : c.Last ((s.requested id (s.ios id) type).ios other) ↔ c.Last (s.ios other) := by
    unfold DdSetup.Last
    rw [(same other).1, (same other).2]
  refine ⟨?_, ?_, pending.ended⟩
  · intro last
    refine (pending.last last).imp_right ?_
    rintro ⟨other, held, finish⟩
    exact ⟨other, held, (ends other).mpr finish⟩
  · intro other res held finish
    rw [(same other).2]
    exact pending.writes other res held ((ends other).mp finish)

/-- The io takes its part, which may be the last. -/
theorem DdJob.Pending.claimed (regular : c.Regular) (placed : s.Placed c before) (pending : s.Pending c none) (idle : s.flight id = none)
    (some : (s.claim c id).length ≠ 0) : (s.claimed c id).Pending c (.some id) := by
  have length := claim_length regular.read placed.region id
  have read := regular.read
  have pos : (s.claimed c id).inputPos = s.inputPos + (s.claim c id).length := u64_of_lt (by omega)
  have own : (s.claimed c id).ios id = s.claim c id := Function.update_self ..
  refine ⟨?_, ?_, pending.ended⟩
  · intro last
    right
    refine ⟨id, Or.inr rfl, ?_⟩
    rw [own]
    rw [pos] at last
    exact last
  · intro other res held finish
    have different : other ≠ id := by
      rintro rfl
      have busy : s.flight other = .some (.transferred .write res) := held
      rw [idle] at busy
      cases busy
    have others : (s.claimed c id).ios other = s.ios other := Function.update_of_ne different _ _
    rw [others] at finish ⊢
    exact pending.writes other res held finish

theorem Populated.pending (populated : Populated c id s s') (regular : c.Regular) (unit : 0 < c.ioUnitSize)
    (placed : s.Placed c before) (tallied : s.Tallied c 0) (pending : s.Pending c none) (idle : s.flight id = none)
    (quiet : s.outstanding = 0 → ∀ id, s.flight id = none) : s'.Pending c none := by
  have own : (s.claimed c id).ios id = s.claim c id := Function.update_self ..
  have taken (some : (s.claim c id).length ≠ 0) (type : DdSubmitType) :
      ((s.claimed c id).requested id (s.claim c id) type).Pending c (.some id) := by
    have requested := (pending.claimed regular placed idle some).requested type
    rw [own] at requested
    exact requested
  cases populated with
  | stopped finished stopped =>
    have length := claim_length regular.read placed.region id
    have last : s.Stopping ∨ s.inputPos = c.readRegionStart + c.copySize := by
      rcases finished with none | stops
      · have region := placed.region.2
        rcases tallied.lengths id with whole | last | stops
        · omega
        · exact Or.inr last
        · exact Or.inl stops
      · exact Or.inl stops
    have kept : (s.setIo id (s.claim c id)).Pending c none := by
      have others {other : Nat} (held : s.flight other ≠ none) : (s.setIo id (s.claim c id)).ios other = s.ios other := by
        have different : other ≠ id := by
          rintro rfl
          exact held idle
        exact Function.update_of_ne different _ _
      refine ⟨?_, ?_, pending.ended⟩
      · intro last
        refine (pending.last last).imp_right ?_
        rintro ⟨other, held, finish⟩
        have busy := held.resolve_right fun none => by cases none
        refine ⟨other, Or.inl busy, ?_⟩
        rw [others busy]
        exact finish
      · intro other res held
        have busy : s.flight other ≠ none := by
          intro idleThen
          have here : s.flight other = some (.transferred .write res) := held
          rw [idleThen] at here
          cases here
        rw [others busy]
        exact pending.writes other res held
    exact kept.stopped quiet last stopped
  | whole some _ _ submitted => exact (taken some .read).submitted submitted
  | part some _ _ submitted => exact (taken some .populate).submitted submitted

theorem ReadOn.pending (read : ReadOn id s s') (pending : s.Pending c (some id))
    (quiet : s.outstanding = 0 → ∀ id, s.flight id = none) : s'.Pending c none := by
  cases read with
  | stopped stopping stopped =>
    have dropped : s.Pending c none := ⟨fun _ => Or.inl stopping, pending.writes, pending.ended⟩
    exact dropped.stopped quiet (Or.inl stopping) stopped
  | asked _ submitted => exact (pending.requested .read).submitted submitted

theorem Written.pending (written : Written c id s s') (pending : s.Pending c (some id))
    (quiet : s.outstanding = 0 → ∀ id, s.flight id = none) : s'.Pending c none := by
  cases written with
  | stopped stopping stopped =>
    have dropped : s.Pending c none := ⟨fun _ => Or.inl stopping, pending.writes, pending.ended⟩
    exact dropped.stopped quiet (Or.inl stopping) stopped
  | asked _ submitted =>
    have writing : (s.writing id).Pending c (some id) := (pending.requested .write).same rfl rfl rfl
      (fun stopping => stopping) (fun interrupt => interrupt) fun finished => finished
    exact writing.submitted submitted

/-! ## Every run -/

/-- The last part does not fill its last block. -/
theorem last_rest {io : DdIo} {pos : Nat} (rest : c.copySize % c.output.blockSize ≠ 0) (part : Part c io pos) (last : c.Last io) :
    c.blocks io.length ≠ io.length := by
  intro whole
  have length : io.length % c.output.blockSize = 0 := by
    rw [← whole]
    exact Nat.mul_mod_left _ _
  have start := part.start
  have size : c.copySize = (io.offset - c.readRegionStart) + io.length := by
    unfold DdSetup.Last at last
    omega
  apply rest
  rw [size, Nat.add_mod, part.aligned, length]
  exact Nat.zero_mod _

theorem ddPerform_pending (rest : c.copySize % c.output.blockSize ≠ 0) (placed : s.Placed c before) (pending : s.Pending c none)
    {request : DdRequest} {res : Int} (held : s.flight id = some (.submitted request)) (moves : request.moves = true)
    (whole : WritesWhole s (.perform id res)) (performed : ddPerform c s id res request = some s') : s'.Pending c none := by
  cases request with
  | seekData => cases moves
  | seekHole => cases moves
  | transfer type length start =>
    obtain ⟨ios, flight, pos, _, _, acts, interrupt, error⟩ := ddPerform_transfer performed
    have ends (other : Nat) : c.Last (s'.ios other) ↔ c.Last (s.ios other) := by
      unfold DdSetup.Last
      rw [(ios other).1, (ios other).2.2]
    have stopping : s'.Stopping ↔ s.Stopping := by
      unfold DdJob.Stopping
      rw [error, interrupt]
    refine ⟨?_, ?_, ?_⟩
    · intro last
      rw [pos] at last
      rw [stopping]
      refine (pending.last last).imp_right ?_
      rintro ⟨other, busy, finish⟩
      refine ⟨other, Or.inl ?_, (ends other).mpr finish⟩
      rw [flight]
      by_cases same : other = id
      · rw [same, Function.update_self]
        exact Option.some_ne_none _
      · rw [Function.update_of_ne same]
        exact busy.resolve_right fun none => by cases none
    · intro other res' moved finish
      rw [(ios other).1]
      rw [flight] at moved
      by_cases same : other = id
      · subst same
        rw [Function.update_self] at moved
        cases moved
        obtain ⟨part, _, rfl, _⟩ := placed.flights other _ held
        have long := last_rest rest part ((ends other).mp finish)
        simp only [WritesWhole, held] at whole
        omega
      · rw [Function.update_of_ne same] at moved
        exact pending.writes other res' moved ((ends other).mp finish)
    · rw [acts, interrupt]
      exact pending.ended

/-- The io whose request is over has its part, unless it was the last one to be written: then there is an error. -/
theorem DdJob.Pending.land (aio : c.uring = false) (file : c.output.type = .file) (pending : s.Pending c none) {type : DdSubmitType}
    {res : Int} (held : s.flight id = some (.transferred type res)) :
    (({ s with error := c.errorAfter s id type res } : DdJob).setFlight id none).Pending c
      (if type = .write then none else some id) := by
  have stops (stopping : s.Stopping) : (({ s with error := c.errorAfter s id type res } : DdJob).setFlight id none).Stopping :=
    stopping.imp_left (errorAfter_ne c s id type res)
  refine ⟨?_, ?_, pending.ended⟩
  · intro last
    rcases pending.last last with stopping | ⟨other, busy, finish⟩
    · exact Or.inl (stops stopping)
    · have flying := busy.resolve_right fun none => by cases none
      by_cases same : other = id
      · subst same
        by_cases write : type = .write
        · left
          left
          subst write
          have wrong := pending.writes other res held finish
          have target : (c.targetOf .write).type = .file := file
          simp only [DdJob.setFlight, DdSetup.errorAfter, target, aio, Bool.false_eq_true, ↓reduceIte, ne_eq, wrong,
            not_false_eq_true]
          decide
        · rw [if_neg write]
          exact Or.inr ⟨other, Or.inr rfl, finish⟩
      · right
        refine ⟨other, Or.inl ?_, finish⟩
        simp only [DdJob.setFlight, Function.update_of_ne same]
        exact flying
  · intro other res' moved
    by_cases same : other = id
    · simp only [same, DdJob.setFlight, Function.update_self] at moved
      cases moved
    · simp only [DdJob.setFlight, Function.update_of_ne same] at moved
      exact pending.writes other res' moved

theorem DdJob.Pending.complete (pending : s.Pending c own) : s.complete.Pending c own := by
  unfold DdJob.complete
  split
  · exact pending.same rfl rfl rfl (fun stopping => stopping) (fun interrupt => interrupt) fun finished => finished
  · refine pending.same rfl rfl rfl (fun stopping => stopping) (fun interrupt => interrupt) ?_
    intro finished
    simpa using finished

theorem ddTargetSeek_pending (plain : c.sparse = false) (regular : c.Regular) (unit : 0 < c.ioUnitSize) (placed : s.Placed c before)
    (tallied : s.Tallied c 0) (pending : s.Pending c none) (idle : s.flight id = none)
    (quiet : s.outstanding = 0 → ∀ id, s.flight id = none) (o : Outcomes) : (ddTargetSeek c o id s).Pending c none := by
  unfold ddTargetSeek
  rw [if_pos plain]
  exact (ddTargetPopulateBuffer_cases c o id s).pending regular unit placed tallied pending idle quiet

theorem pending_step (plain : c.sparse = false) (regular : c.Regular) (unit : 0 < c.ioUnitSize) (aio : c.uring = false)
    (file : c.output.type = .file) (rest : c.copySize % c.output.blockSize ≠ 0) (s : DdJob) (event : DdEvent) (s' : DdJob)
    (sound : s.Counting c before ∧ s.Pending c none) (whole : WritesWhole s event) (stepped : ddStep c s event = some s') :
    s'.Counting c before ∧ s'.Pending c none := by
  obtain ⟨counting, pending⟩ := sound
  have direct := direct_of_plain plain
  refine ⟨counting_step plain regular unit s event s' counting stepped, ?_⟩
  cases ddStep_cases stepped with
  | performed held performed =>
    exact ddPerform_pending rest counting.placed pending held (counting.lined.noSeek_of_direct direct _ _ held) whole performed
  | again => exact pending
  | @advanced id o type res held =>
    have inside : id < c.queueDepth := counting.covered.inside id (by rw [held]; exact Option.some_ne_none _)
    obtain ⟨_, same⟩ := counting.placed.flights id _ held
    rw [typeOf_eq same]
    have landed := (pending.land aio file held).complete
    have covered := (counting.covered.land held (c.errorAfter s id type res)).complete
    have idle : (({ s with error := c.errorAfter s id type res } : DdJob).setFlight id none).complete.flight id = none := by
      rw [(complete_frame _).2.1]
      exact Function.update_self ..
    cases type with
    | populate => exact (ddTargetRead_cases c o id _).pending landed covered.quiet
    | read => exact (ddTargetWrite_cases c o id _).pending landed covered.quiet
    | write =>
      have tallied := (counting.tallied.land inside (errorAfter_ne c s id .write res)).complete
      rw [uncounted_held held, same] at tallied
      exact ddTargetSeek_pending plain regular unit (counting.placed.land id (errorAfter_ne c s id .write res)).complete tallied
        landed idle covered.quiet o
  | soughtData held =>
    obtain ⟨indirect, _⟩ := counting.lined.seeking _ _ held rfl
    exact absurd direct indirect
  | soughtHole held =>
    obtain ⟨indirect, _⟩ := counting.lined.seeking _ _ held rfl
    exact absurd direct indirect
  | pollFailed _ failed =>
    exact pending.same rfl rfl rfl (fun _ => Or.inl (Int.ne_of_lt failed)) (fun interrupt => interrupt) fun finished => finished
  | pollEnded _ failed =>
    refine pending.same rfl rfl rfl (fun stopping => stopping) (fun interrupt => interrupt) ?_
    exact fun finished => (mem_exit finished).resolve_right (Int.ne_of_lt failed)
  | status =>
    refine pending.same rfl rfl rfl (fun stopping => stopping) (fun interrupt => interrupt) ?_
    intro finished
    simpa [ddShowProgress] using finished
  | interrupted => exact pending.same rfl rfl rfl (fun _ => Or.inr rfl) (fun _ => rfl) fun finished => finished

theorem pending_start (plain : c.sparse = false) (regular : c.Regular) (unit : 0 < c.ioUnitSize)
    (rest : c.copySize % c.output.blockSize ≠ 0) (o : Nat → Outcomes) (buf : Nat → Nat → UInt8) (before : Nat → UInt8)
    (size k : Nat) (le : k ≤ c.queueDepth) : (ddStart c o (.fresh c buf before size) k).Pending c none := by
  induction k with
  | zero =>
    have some : c.copySize ≠ 0 := by
      intro none
      rw [none] at rest
      exact rest (Nat.zero_mod _)
    refine ⟨?_, ?_, ?_⟩
    · intro last
      have start : c.readRegionStart = c.readRegionStart + c.copySize := last
      omega
    · intro _ _ held
      cases held
    · intro finished
      cases finished
  | succ k ih =>
    have covered := covered_start (covered_fresh c k buf before size) c o k (Nat.le_refl _)
    exact ddTargetSeek_pending plain regular unit (placed_start regular o buf before size k)
      (tallied_start plain regular unit o buf before size k (Nat.le_of_succ_le le)) (ih (Nat.le_of_succ_le le))
      (start_idle c o buf before size k).1 covered.quiet (o k)

end

/-- A regular copy by AIO to a file in blocks, that does not fill its last block, never ends without an error, unless it is
interrupted: the write of the last part is taken to have failed. -/
theorem aio_partial_fails (c : DdSetup) (plain : c.sparse = false) (regular : c.Regular) (unit : 0 < c.ioUnitSize)
    (aio : c.uring = false) (file : c.output.type = .file) (rest : c.copySize % c.output.blockSize ≠ 0) (o : Nat → Outcomes)
    (buf : Nat → Nat → UInt8) (output : Nat → UInt8) (size : Nat) (events : List DdEvent)
    (whole : Guarded (ddStep c) WritesWhole (ddRunning c o buf output size) events) :
    Always (ddStep c) (fun s => .exit 0 ∈ s.acts → s.interrupt = true) (ddRunning c o buf output size) events := by
  have start : (ddRunning c o buf output size).Counting c output ∧ (ddRunning c o buf output size).Pending c none :=
    ⟨counting_start plain regular unit o buf output size,
      pending_start plain regular unit rest o buf output size c.queueDepth (Nat.le_refl _)⟩
  exact (always_of_guarded (pending_step plain regular unit aio file rest) start whole).mono fun s sound => sound.2.ended

/-- The six bytes by AIO, to a block device of two blocks of four. -/
def sixBytesAio : DdSetup := { sixBytes with output := ⟨.file, 4, 8⟩, uring := false }

def sixBytesAioRunning : DdJob := ddRunning sixBytesAio (fun _ => .fine) (fun _ _ => 0) (fun _ => 255) 8

/-- The first part is copied; the block of the second is read whole. -/
def sixBytesAioEvents : List DdEvent :=
  [.perform 0 4, .complete 0 .fine, .perform 0 4, .complete 0 .fine, .perform 1 4, .complete 1 .fine]

theorem sixBytesAio_fails :
    (run (ddStep sixBytesAio) sixBytesAioRunning sixBytesAioEvents).map (fun s => (s.acts, (List.range 8).map s.output)) =
      some ([.exit (-enospc)], [1, 2, 3, 4, 255, 255, 255, 255]) ∧
    Always (ddStep sixBytesAio) (fun s => .exit 0 ∈ s.acts → s.interrupt = true) sixBytesAioRunning sixBytesAioEvents := by
  have regular : sixBytesAio.Regular := ⟨by decide, by decide, by decide, by decide, fun sparse => by cases sparse⟩
  refine ⟨by decide +kernel, ?_⟩
  exact aio_partial_fails sixBytesAio rfl regular (by decide) rfl rfl (by decide) _ _ _ _ _ (by decide +kernel)

end BdevUbi.Dd
