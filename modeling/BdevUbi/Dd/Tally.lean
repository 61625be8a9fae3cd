import BdevUbi.Dd.Stages

/-! What a copy shows as its progress.

The bytes of a part count as copied when its write is handed over. A copy that does not skip
holes has then counted what was taken from the input, but for the parts of ios that are
further back.
-/

set_option autoImplicit false

namespace BdevUbi.Dd
open BdevUbi.Library

/-- The parts in flight that are not counted yet. -/
def DdJob.uncounted (s : DdJob) (id : Nat) : Option Nat :=
  (s.flight id).bind fun _ => if (s.ios id).type = .write then none else some (s.ios id).length

/-- The bytes that were counted, or belong to a part that is not; `own` are those of an io
between two requests. -/
def DdJob.tally (c : DdSetup) (own : Nat) (s : DdJob) : Nat :=
  s.totalBytes + s.incrementalBytes + load c.queueDepth (fun length => length) s.uncounted + own

/-- The tally is what was taken from the input, or less once the job stops; no more than the size of
the copy was ever shown, and all of it at the end. -/
structure DdJob.Tallied (c : DdSetup) (own : Nat) (s : DdJob) : Prop where
  most : s.tally c own ≤ s.inputPos - c.readRegionStart
  all : s.Stopping ∨ s.tally c own = s.inputPos - c.readRegionStart
  lengths : ∀ id, (s.ios id).length = c.ioUnitSize ∨ s.inputPos = c.readRegionStart + c.copySize ∨ s.Stopping
  shown : ∀ finish n, .showProgress finish n ∈ s.acts → n ≤ c.copySize
  ended : .exit 0 ∈ s.acts → s.interrupt = true ∨ .showProgress true c.copySize ∈ s.acts

section
variable {c : DdSetup} {before : Nat → UInt8} {o : Outcomes} {id own : Nat} {s s' s'' : DdJob}

/-- One io and its request are changed. -/
theorem uncounted_update (ios : ∀ other, other ≠ id → s'.ios other = s.ios other)
    (flights : ∀ other, other ≠ id → s'.flight other = s.flight other) :
    s'.uncounted = Function.update s.uncounted id (s'.uncounted id) := by
  funext other
  by_cases same : other = id
  · rw [same, Function.update_self]
  · rw [Function.update_of_ne same]
    unfold DdJob.uncounted
    rw [ios other same, flights other same]

/-- What a change of one io does to the tally. -/
theorem tally_update (s s' : DdJob) (inside : id < c.queueDepth) (ios : ∀ other, other ≠ id → s'.ios other = s.ios other)
    (flights : ∀ other, other ≠ id → s'.flight other = s.flight other) :
    load c.queueDepth (fun length => length) s'.uncounted + (s.uncounted id).getD 0 =
      load c.queueDepth (fun length => length) s.uncounted + (s'.uncounted id).getD 0 := by
  have changed := load_update inside (fun length => length) s.uncounted (s'.uncounted id)
  rw [← uncounted_update ios flights] at changed
  have value (entry : Option Nat) : entry.elim 0 (fun length => length) = entry.getD 0 := by
    cases entry <;> rfl
  rw [value, value] at changed
  exact changed

theorem uncounted_idle (idle : s.flight id = none) : s.uncounted id = none := by
  unfold DdJob.uncounted
  rw [idle]
  rfl

theorem uncounted_held {flight : Flight} (held : s.flight id = some flight) :
    s.uncounted id = if (s.ios id).type = .write then none else some (s.ios id).length := by
  unfold DdJob.uncounted
  rw [held]
  rfl

theorem DdJob.Tallied.same (tallied : s.Tallied c own) (ios : s'.ios = s.ios) (pos : s'.inputPos = s.inputPos)
    (flight : s'.flight = s.flight) (bytes : s'.totalBytes + s'.incrementalBytes = s.totalBytes + s.incrementalBytes)
    (stopping : s.Stopping → s'.Stopping) (interrupt : s.interrupt = true → s'.interrupt = true)
    (shown : ∀ finish n, .showProgress finish n ∈ s'.acts → .showProgress finish n ∈ s.acts ∨ n ≤ c.copySize)
    (kept : ∀ act ∈ s.acts, act ∈ s'.acts) (exits : .exit 0 ∈ s'.acts → .exit 0 ∈ s.acts) : s'.Tallied c own := by
  have uncounted : s'.uncounted = s.uncounted := by
    unfold DdJob.uncounted
    rw [flight, ios]
  have tally : s'.tally c own = s.tally c own := by
    unfold DdJob.tally
    rw [uncounted, bytes]
  constructor
  · rw [tally, pos]
    exact tallied.most
  · rw [tally, pos]
    exact tallied.all.imp_left stopping
  · intro id
    rw [ios, pos]
    exact (tallied.lengths id).imp_right (Or.imp_right stopping)
  · intro finish n member
    rcases shown finish n member with old | small
    · exact tallied.shown finish n old
    · exact small
  · intro finished
    exact (tallied.ended (exits finished)).imp interrupt (kept _)

/-- A line shows what was counted so far. -/
theorem DdJob.Tallied.showProgress (regular : c.Regular) (region : c.InRegion s.inputPos) (tallied : s.Tallied c own) (finish : Bool) :
    (ddShowProgress finish s).Tallied c own ∧ (ddShowProgress finish s).totalBytes = s.totalBytes + s.incrementalBytes := by
  have read := regular.read
  have finished := region.2
  have most := tallied.most
  have small : s.totalBytes + s.incrementalBytes ≤ c.copySize := by
    unfold DdJob.tally at most
    omega
  have total : (ddShowProgress finish s).totalBytes = s.totalBytes + s.incrementalBytes := u64_of_lt (by omega)
  refine ⟨?_, total⟩
  refine tallied.same rfl rfl rfl ?_ (fun stopping => stopping) (fun interrupt => interrupt) ?_ ?_ ?_
  · rw [total]
    rfl
  · intro finish' n member
    rcases List.mem_append.mp member with old | new
    · exact Or.inl old
    · cases List.mem_singleton.mp new
      right
      rw [← total] at small
      exact small
  · intro act member
    exact List.mem_append_left _ member
  · intro exits
    rcases List.mem_append.mp exits with old | new
    · exact old
    · cases List.mem_singleton.mp new

/-- The last line of a job that has taken all of the input shows the size of the copy. -/
theorem DdJob.Tallied.stopped (regular : c.Regular) (region : c.InRegion s.inputPos) (tallied : s.Tallied c 0)
    (quiet : s.outstanding = 0 → ∀ id, s.flight id = none)
    (finished : s.Stopping ∨ s.inputPos = c.readRegionStart + c.copySize) (stopped : Stopped s s') : s'.Tallied c 0 := by
  have interrupted (fine : s.error = 0) (stopping : s.Stopping) : s.interrupt = true :=
    stopping.resolve_left fun failed => failed fine
  cases stopped with
  | waits => exact tallied
  | ended none stopping =>
    refine ⟨tallied.most, tallied.all, tallied.lengths, ?_, ?_⟩
    · intro finish n member
      rcases List.mem_append.mp member with old | new
      · exact tallied.shown finish n old
      · cases List.mem_singleton.mp new
    · intro exits
      rcases List.mem_append.mp exits with old | new
      · exact (tallied.ended old).imp_right (List.mem_append_left _)
      · have fine : 0 = s.error := by simpa using new
        exact Or.inl (interrupted fine.symm stopping)
  | shown idle fine =>
    obtain ⟨shown, total⟩ := tallied.showProgress regular region true
    refine ⟨shown.most, shown.all, shown.lengths, ?_, ?_⟩
    · intro finish n member
      rcases List.mem_append.mp member with old | new
      · exact shown.shown finish n old
      · cases List.mem_singleton.mp new
    · intro _
      rcases finished with stopping | last
      · exact Or.inl (interrupted fine stopping)
      rcases tallied.all with stopping | all
      · exact Or.inl (interrupted fine stopping)
      right
      have empty : s.uncounted = fun _ => none := funext fun id => uncounted_idle (quiet idle id)
      have size : s.totalBytes + s.incrementalBytes = c.copySize := by
        unfold DdJob.tally at all
        rw [empty, load_empty] at all
        omega
      have line : (ddShowProgress true s).totalBytes = c.copySize := total.trans size
      apply List.mem_append_left
      apply List.mem_append_right
      rw [List.mem_singleton, ← line]
      rfl

/-- The io with the part has its next request, or the job stops. -/
theorem DdJob.Tallied.submitted {request : DdRequest} (tallied : s'.Tallied c own) (inside : id < c.queueDepth)
    (idle : s'.flight id = none) (part : own = if (s'.ios id).type = .write then 0 else (s'.ios id).length)
    (submitted : Submitted s s' id request s'') : s''.Tallied c 0 := by
  have started (flight : Flight) : (s'.setFlight id (some flight)).Tallied c 0 := by
    have changed := tally_update s' (s'.setFlight id (some flight)) inside (fun _ _ => rfl)
      fun other different => Function.update_of_ne different _ _
    have held : (s'.setFlight id (some flight)).flight id = some flight := Function.update_self ..
    have value : ((s'.setFlight id (some flight)).uncounted id).getD 0 = own := by
      rw [uncounted_held held, part]
      have same : (s'.setFlight id (some flight)).ios = s'.ios := rfl
      rw [same]
      by_cases write : (s'.ios id).type = .write
      · rw [if_pos write, if_pos write, Option.getD_none]
      · rw [if_neg write, if_neg write, Option.getD_some]
    rw [uncounted_idle idle, value] at changed
    have tally : (s'.setFlight id (some flight)).tally c 0 = s'.tally c own := by
      simp only [DdJob.tally, Option.getD_none] at changed ⊢
      simp only [DdJob.setFlight] at changed ⊢
      omega
    refine ⟨?_, ?_, tallied.lengths, tallied.shown, tallied.ended⟩
    · rw [tally]
      exact tallied.most
    · rw [tally]
      exact tallied.all
  have given {rc : Int} (failed : rc ≠ 0) : ({ s' with outstanding := s.outstanding, error := rc } : DdJob).Tallied c 0 := by
    refine ⟨?_, Or.inl (Or.inl failed), fun _ => Or.inr (Or.inr (Or.inl failed)), tallied.shown, tallied.ended⟩
    have most := tallied.most
    simp only [DdJob.tally] at most ⊢
    exact Nat.le_trans (Nat.le_of_add_right_le most) (Nat.le_refl _)
  cases submitted with
  | taken => exact started _
  | lost => exact started _
  | refused failed => exact given failed
  | ended failed =>
    refine (given failed).same rfl rfl rfl rfl (fun stopping => stopping) (fun interrupt => interrupt) ?_ ?_ ?_
    · intro finish n member
      rcases List.mem_append.mp member with old | new
      · exact Or.inl old
      · cases List.mem_singleton.mp new
    · intro act member
      exact List.mem_append_left _ member
    · exact fun finished => (mem_exit finished).resolve_right failed

/-- An idle io is not counted, whatever it holds. -/
theorem uncounted_of_idle (idle : s.flight id = none) (ios : ∀ other, other ≠ id → s'.ios other = s.ios other)
    (flight : s'.flight = s.flight) : s'.uncounted = s.uncounted := by
  have update := uncounted_update ios fun other _ => congrFun flight other
  have idleThen : s'.flight id = none := flight ▸ idle
  rw [update, uncounted_idle idleThen, ← uncounted_idle idle]
  exact Function.update_eq_self id _

/-- The io takes its part. -/
theorem DdJob.Tallied.claimed (regular : c.Regular) (placed : s.Placed c before) (tallied : s.Tallied c 0) (idle : s.flight id = none)
    (running : ¬ s.Stopping) (some : (s.claim c id).length ≠ 0) : (s.claimed c id).Tallied c (s.claim c id).length := by
  have length := claim_length regular.read placed.region id
  have read := regular.read
  have start := placed.region.1
  have pos : (s.claimed c id).inputPos = s.inputPos + (s.claim c id).length := u64_of_lt (by omega)
  have uncounted : (s.claimed c id).uncounted = s.uncounted :=
    uncounted_of_idle idle (fun other different => Function.update_of_ne different _ _) rfl
  have tally : (s.claimed c id).tally c (s.claim c id).length = s.tally c 0 + (s.claim c id).length := by
    unfold DdJob.tally
    rw [uncounted]
    rfl
  have most := tallied.most
  have left : s.inputPos ≠ c.readRegionStart + c.copySize := by
    intro last
    rw [last, Nat.sub_self, Nat.min_zero] at length
    exact some length
  have unit (other : Nat) : (s.ios other).length = c.ioUnitSize :=
    (tallied.lengths other).resolve_right fun finished => finished.elim left running
  refine ⟨?_, ?_, ?_, tallied.shown, tallied.ended⟩
  · rw [tally, pos]
    omega
  · right
    have all := tallied.all.resolve_left running
    rw [tally, pos]
    omega
  · intro other
    rw [pos]
    by_cases same : other = id
    · have own : (s.claimed c id).ios other = s.claim c id := by
        rw [same]
        exact Function.update_self ..
      rw [own, length, unit id]
      omega
    · have others : (s.claimed c id).ios other = s.ios other := Function.update_of_ne same _ _
      rw [others]
      exact Or.inl (unit other)

/-- The request of an io does not change its part. -/
theorem DdJob.Tallied.requested (tallied : s.Tallied c own) (idle : s.flight id = none) (type : DdSubmitType) :
    (s.requested id (s.ios id) type).Tallied c own := by
  have uncounted : (s.requested id (s.ios id) type).uncounted = s.uncounted :=
    uncounted_of_idle idle (fun other different => Function.update_of_ne different _ _) rfl
  have tally : (s.requested id (s.ios id) type).tally c own = s.tally c own := by
    unfold DdJob.tally
    rw [uncounted]
    rfl
  refine ⟨?_, ?_, ?_, tallied.shown, tallied.ended⟩
  · rw [tally]
    exact tallied.most
  · rw [tally]
    exact tallied.all
  · intro other
    have lengths : ((s.requested id (s.ios id) type).ios other).length = (s.ios other).length := by
      by_cases same : other = id
      · simp only [same, DdJob.requested, DdJob.setIo, Function.update_self]
      · simp only [DdJob.requested, DdJob.setIo, Function.update_of_ne same]
    rw [lengths]
    exact tallied.lengths other

/-- A part whose io gives up is not copied. -/
theorem DdJob.Tallied.drop (tallied : s.Tallied c own) (stopping : s.Stopping) : s.Tallied c 0 := by
  refine ⟨?_, Or.inl stopping, tallied.lengths, tallied.shown, tallied.ended⟩
  have most := tallied.most
  unfold DdJob.tally at most ⊢
  omega

theorem Populated.tallied (populated : Populated c id s s') (regular : c.Regular) (unit : 0 < c.ioUnitSize)
    (placed : s.Placed c before) (tallied : s.Tallied c 0) (inside : id < c.queueDepth) (idle : s.flight id = none)
    (quiet : s.outstanding = 0 → ∀ id, s.flight id = none) : s'.Tallied c 0 := by
  have own : (s.claimed c id).ios id = s.claim c id := Function.update_self ..
  have taken (some : (s.claim c id).length ≠ 0) (running : ¬ s.Stopping) (type : DdSubmitType) :
      ((s.claimed c id).requested id (s.claim c id) type).Tallied c (s.claim c id).length := by
    have requested := (tallied.claimed regular placed idle running some).requested idle type
    rw [own] at requested
    exact requested
  have io (type : DdSubmitType) : ((s.claimed c id).requested id (s.claim c id) type).ios id = { s.claim c id with type := type } :=
    Function.update_self ..
  cases populated with
  | stopped finished stopped =>
    have length := claim_length regular.read placed.region id
    -- an io with room for a part finds nothing to take at the end of the region only
    have last : s.Stopping ∨ s.inputPos = c.readRegionStart + c.copySize := by
      rcases finished with none | stops
      · have region := placed.region.2
        rcases tallied.lengths id with whole | last | stops
        · omega
        · exact Or.inr last
        · exact Or.inl stops
      · exact Or.inl stops
    have uncounted : (s.setIo id (s.claim c id)).uncounted = s.uncounted :=
      uncounted_of_idle idle (fun other different => Function.update_of_ne different _ _) rfl
    have tally : (s.setIo id (s.claim c id)).tally c 0 = s.tally c 0 := by
      unfold DdJob.tally
      rw [uncounted]
      rfl
    have kept : (s.setIo id (s.claim c id)).Tallied c 0 := by
      refine ⟨?_, ?_, fun _ => Or.inr last.symm, tallied.shown, tallied.ended⟩
      · rw [tally]
        exact tallied.most
      · rw [tally]
        exact tallied.all
    exact DdJob.Tallied.stopped (s := s.setIo id (s.claim c id)) regular placed.region kept quiet last stopped
  | whole some running _ submitted =>
    refine (taken some running .read).submitted inside idle ?_ submitted
    rw [io]
    rfl
  | part some running _ submitted =>
    refine (taken some running .populate).submitted inside idle ?_ submitted
    rw [io]
    rfl

theorem ReadOn.tallied (read : ReadOn id s s') (regular : c.Regular) (placed : s.Placed c before)
    (tallied : s.Tallied c (s.ios id).length) (inside : id < c.queueDepth) (idle : s.flight id = none)
    (quiet : s.outstanding = 0 → ∀ id, s.flight id = none) : s'.Tallied c 0 := by
  cases read with
  | stopped stopping stopped => exact (tallied.drop stopping).stopped regular placed.region quiet (Or.inl stopping) stopped
  | asked _ submitted =>
    refine (tallied.requested idle .read).submitted inside idle ?_ submitted
    simp only [DdJob.requested, DdJob.setIo, Function.update_self]
    rfl

/-- The bytes of the part are counted as its write is handed over. -/
theorem Written.tallied (written : Written c id s s') (regular : c.Regular) (placed : s.Placed c before)
    (tallied : s.Tallied c (s.ios id).length) (inside : id < c.queueDepth) (idle : s.flight id = none)
    (quiet : s.outstanding = 0 → ∀ id, s.flight id = none) : s'.Tallied c 0 := by
  cases written with
  | stopped stopping stopped => exact (tallied.drop stopping).stopped regular placed.region quiet (Or.inl stopping) stopped
  | asked _ submitted =>
    have requested := tallied.requested idle .write
    have region := placed.region
    have read := regular.read
    have most := tallied.most
    have bytes : (s.writing id).incrementalBytes = s.incrementalBytes + (s.ios id).length := by
      refine u64_of_lt ?_
      have second := region.2
      unfold DdJob.tally at most
      omega
    have tally : (s.writing id).tally c 0 = (s.requested id (s.ios id) .write).tally c (s.ios id).length := by
      have same : (s.writing id).uncounted = (s.requested id (s.ios id) .write).uncounted := rfl
      have total : (s.writing id).totalBytes = (s.requested id (s.ios id) .write).totalBytes := rfl
      have before : (s.requested id (s.ios id) .write).incrementalBytes = s.incrementalBytes := rfl
      unfold DdJob.tally
      rw [same, total, bytes, before]
      omega
    have writing : (s.writing id).Tallied c 0 := by
      refine ⟨?_, ?_, requested.lengths, requested.shown, requested.ended⟩
      · rw [tally]
        exact requested.most
      · rw [tally]
        exact requested.all
    refine writing.submitted inside idle ?_ submitted
    have type : ((s.writing id).ios id).type = .write := by
      simp only [DdJob.writing, DdJob.requested, DdJob.setIo, Function.update_self]
    rw [if_pos type]

/-! ## Every run -/

/-- The request of an io is over, and its part is between two requests. -/
theorem DdJob.Tallied.land (tallied : s.Tallied c 0) (inside : id < c.queueDepth) {error : Int} (stops : s.error ≠ 0 → error ≠ 0) :
    (({ s with error := error } : DdJob).setFlight id none).Tallied c ((s.uncounted id).getD 0) := by
  have landed : (({ s with error := error } : DdJob).setFlight id none).flight id = none := Function.update_self ..
  have changed := tally_update s (({ s with error := error } : DdJob).setFlight id none) inside (fun _ _ => rfl)
    fun other different => Function.update_of_ne different _ _
  rw [uncounted_idle landed, Option.getD_none] at changed
  have tally : (({ s with error := error } : DdJob).setFlight id none).tally c ((s.uncounted id).getD 0) = s.tally c 0 := by
    have bytes : (({ s with error := error } : DdJob).setFlight id none).totalBytes = s.totalBytes := rfl
    have more : (({ s with error := error } : DdJob).setFlight id none).incrementalBytes = s.incrementalBytes := rfl
    unfold DdJob.tally
    rw [bytes, more]
    omega
  refine ⟨?_, ?_, ?_, tallied.shown, tallied.ended⟩
  · rw [tally]
    exact tallied.most
  · rw [tally]
    exact tallied.all.imp_left (Or.imp_left stops)
  · intro other
    exact (tallied.lengths other).imp_right (Or.imp_right (Or.imp_left stops))

theorem DdJob.Tallied.complete (tallied : s.Tallied c own) : s.complete.Tallied c own := by
  unfold DdJob.complete
  split
  · exact tallied.same rfl rfl rfl rfl (fun stopping => stopping) (fun interrupt => interrupt) (fun _ _ member => Or.inl member)
      (fun _ member => member) fun finished => finished
  · refine tallied.same rfl rfl rfl rfl (fun stopping => stopping) (fun interrupt => interrupt) ?_ ?_ ?_
    · intro finish n member
      simpa using Or.inl (b := n ≤ c.copySize) member
    · exact fun _ => List.mem_append_left _
    · intro finished
      simpa using finished

theorem ddPerform_tallied (tallied : s.Tallied c 0) (direct : c.Direct) (lined : s.Lined c) {request : DdRequest} {res : Int}
    (held : s.flight id = some (.submitted request)) (performed : ddPerform c s id res request = some s') : s'.Tallied c 0 := by
  have moves : request.moves = true := lined.noSeek_of_direct direct id _ held
  cases request with
  | seekData => cases moves
  | seekHole => cases moves
  | transfer type length start =>
    obtain ⟨ios, flight, pos, total, more, acts, interrupt, error⟩ := ddPerform_transfer performed
    have uncounted : s'.uncounted = s.uncounted := by
      funext other
      by_cases same : other = id
      · have landed : s'.flight id = some (.transferred type res) := by
          rw [flight]
          exact Function.update_self ..
        rw [same, uncounted_held held, uncounted_held landed, (ios id).1, (ios id).2.1]
      · unfold DdJob.uncounted
        rw [flight, Function.update_of_ne same, (ios other).1, (ios other).2.1]
    have tally : s'.tally c 0 = s.tally c 0 := by
      unfold DdJob.tally
      rw [uncounted, total, more]
    have stopping : s'.Stopping ↔ s.Stopping := by
      unfold DdJob.Stopping
      rw [error, interrupt]
    constructor
    · rw [tally, pos]
      exact tallied.most
    · rw [tally, pos, stopping]
      exact tallied.all
    · intro other
      rw [(ios other).1, pos, stopping]
      exact tallied.lengths other
    · rw [acts]
      exact tallied.shown
    · rw [acts, interrupt]
      exact tallied.ended

/-- All that is known of a run. -/
structure DdJob.Counting (c : DdSetup) (before : Nat → UInt8) (s : DdJob) : Prop where
  covered : s.Covered c.queueDepth
  lined : s.Lined c
  placed : s.Placed c before
  tallied : s.Tallied c 0

theorem Sought.tallied (sought : Sought c o id s s') (plain : c.sparse = false) (regular : c.Regular) (unit : 0 < c.ioUnitSize)
    (placed : s.Placed c before) (tallied : s.Tallied c 0) (inside : id < c.queueDepth) (idle : s.flight id = none)
    (quiet : s.outstanding = 0 → ∀ id, s.flight id = none) : s'.Tallied c 0 := by
  have dense (sparse : c.sparse = true) : False := by
    rw [plain] at sparse
    cases sparse
  cases sought with
  | plain => exact (ddTargetPopulateBuffer_cases c o id s).tallied regular unit placed tallied inside idle quiet
  | stopped sparse => exact (dense sparse).elim
  | file sparse => exact (dense sparse).elim
  | asked sparse => exact (dense sparse).elim
  | queued sparse => exact (dense sparse).elim

theorem ddAdvance_tallied (plain : c.sparse = false) (regular : c.Regular) (unit : 0 < c.ioUnitSize) (counting : s.Counting c before)
    {type : DdSubmitType} {res : Int} (held : s.flight id = some (.transferred type res)) (o : Outcomes) :
    (ddAdvance c o type id (({ s with error := c.errorAfter s id type res } : DdJob).setFlight id none)).Tallied c 0 := by
  have inside : id < c.queueDepth := counting.covered.inside id (by rw [held]; exact Option.some_ne_none _)
  obtain ⟨_, same⟩ := counting.placed.flights id _ held
  have landed := (counting.covered.land held (c.errorAfter s id type res)).complete
  have tallied := (counting.tallied.land inside (errorAfter_ne c s id type res)).complete
  have placed := (counting.placed.land id (errorAfter_ne c s id type res)).complete
  have frame := complete_frame (({ s with error := c.errorAfter s id type res } : DdJob).setFlight id none)
  have idle : (({ s with error := c.errorAfter s id type res } : DdJob).setFlight id none).complete.flight id = none := by
    rw [frame.2.1]
    exact Function.update_self ..
  have ios : (({ s with error := c.errorAfter s id type res } : DdJob).setFlight id none).complete.ios id = s.ios id := by
    rw [frame.1]
    rfl
  rw [uncounted_held held, same] at tallied
  cases type with
  | populate =>
    refine (ddTargetRead_cases c o id _).tallied regular placed ?_ inside idle landed.quiet
    rw [ios]
    exact tallied
  | read =>
    refine (ddTargetWrite_cases c o id _).tallied regular placed ?_ inside idle landed.quiet
    rw [ios]
    exact tallied
  | write => exact (ddTargetSeek_cases c o id _).tallied plain regular unit placed tallied inside idle landed.quiet

theorem counting_step (plain : c.sparse = false) (regular : c.Regular) (unit : 0 < c.ioUnitSize) (s : DdJob) (event : DdEvent)
    (s' : DdJob) (counting : s.Counting c before) (stepped : ddStep c s event = some s') : s'.Counting c before := by
  have direct := direct_of_plain plain
  refine ⟨covered_step s event s' counting.covered stepped, lined_step s event s' counting.lined stepped,
    placed_step regular counting.placed counting.lined stepped, ?_⟩
  have tallied := counting.tallied
  cases ddStep_cases stepped with
  | performed held performed => exact ddPerform_tallied tallied direct counting.lined held performed
  | again => exact tallied
  | @advanced id o type res held =>
    rw [typeOf_eq (counting.placed.flights id _ held).2]
    exact ddAdvance_tallied plain regular unit counting held o
  | soughtData held =>
    obtain ⟨indirect, _⟩ := counting.lined.seeking _ _ held rfl
    exact absurd direct indirect
  | soughtHole held =>
    obtain ⟨indirect, _⟩ := counting.lined.seeking _ _ held rfl
    exact absurd direct indirect
  | pollFailed _ failed =>
    exact tallied.same rfl rfl rfl rfl (fun _ => Or.inl (Int.ne_of_lt failed)) (fun interrupt => interrupt)
      (fun _ _ member => Or.inl member) (fun _ member => member) fun finished => finished
  | pollEnded _ failed =>
    refine tallied.same rfl rfl rfl rfl (fun stopping => stopping) (fun interrupt => interrupt) ?_ ?_ ?_
    · intro finish n member
      rcases List.mem_append.mp member with old | new
      · exact Or.inl old
      · cases List.mem_singleton.mp new
    · exact fun _ => List.mem_append_left _
    · exact fun finished => (mem_exit finished).resolve_right (Int.ne_of_lt failed)
  | status => exact (tallied.showProgress regular counting.placed.region false).1
  | interrupted =>
    exact tallied.same rfl rfl rfl rfl (fun _ => Or.inr rfl) (fun _ => rfl) (fun _ _ member => Or.inl member)
      (fun _ member => member) fun finished => finished

theorem tallied_start (plain : c.sparse = false) (regular : c.Regular) (unit : 0 < c.ioUnitSize) (o : Nat → Outcomes)
    (buf : Nat → Nat → UInt8) (before : Nat → UInt8) (size k : Nat) (le : k ≤ c.queueDepth) :
    (ddStart c o (.fresh c buf before size) k).Tallied c 0 := by
  induction k with
  | zero =>
    have none : (DdJob.fresh c buf before size).tally c 0 = 0 := by
      have idle : (DdJob.fresh c buf before size).uncounted = fun _ => Option.none := rfl
      unfold DdJob.tally
      rw [idle, load_empty]
      rfl
    constructor
    · simp only [ddStart, none]
      exact Nat.zero_le _
    · right
      simp only [ddStart, none]
      exact (Nat.sub_self _).symm
    · exact fun _ => Or.inl rfl
    · intro _ _ member
      cases member
    · intro member
      cases member
  | succ k ih =>
    have covered := covered_start (covered_fresh c k buf before size) c o k (Nat.le_refl _)
    exact (ddTargetSeek_cases c (o k) k _).tallied plain regular unit (placed_start regular o buf before size k)
      (ih (Nat.le_of_succ_le le)) le (start_idle c o buf before size k).1 covered.quiet

theorem counting_start (plain : c.sparse = false) (regular : c.Regular) (unit : 0 < c.ioUnitSize) (o : Nat → Outcomes)
    (buf : Nat → Nat → UInt8) (output : Nat → UInt8) (size : Nat) : (ddRunning c o buf output size).Counting c output :=
  ⟨covered_start (covered_fresh c c.queueDepth buf output size) c o c.queueDepth (Nat.le_refl _),
    lined_start c o buf output size c.queueDepth, placed_start regular o buf output size c.queueDepth,
    tallied_start plain regular unit o buf output size c.queueDepth (Nat.le_refl _)⟩

end

/-- A regular copy that does not skip holes never shows more bytes than it is to copy, and if it ends
without an error and was not interrupted, its last line shows all of them. -/
theorem progress_exact (c : DdSetup) (plain : c.sparse = false) (regular : c.Regular) (unit : 0 < c.ioUnitSize) (o : Nat → Outcomes)
    (buf : Nat → Nat → UInt8) (output : Nat → UInt8) (size : Nat) (events : List DdEvent) :
    Always (ddStep c)
      (fun s => (∀ finish n, .showProgress finish n ∈ s.acts → n ≤ c.copySize) ∧
        (.exit 0 ∈ s.acts → s.interrupt = true ∨ .showProgress true c.copySize ∈ s.acts))
      (ddRunning c o buf output size) events := by
  have start := counting_start plain regular unit o buf output size
  refine (always_of_invariant (counting_step plain regular unit) start events).mono ?_
  exact fun _ counting => ⟨counting.tallied.shown, counting.tallied.ended⟩

theorem sixBytes_progress_exact :
    (run (ddStep sixBytes) sixBytesRunning sixBytesEvents).map DdJob.acts = some [.showProgress true 6, .exit 0] ∧
    Always (ddStep sixBytes)
      (fun s => (∀ finish n, .showProgress finish n ∈ s.acts → n ≤ 6) ∧
        (.exit 0 ∈ s.acts → s.interrupt = true ∨ .showProgress true 6 ∈ s.acts))
      sixBytesRunning sixBytesEvents :=
  ⟨by decide +kernel, progress_exact sixBytes rfl sixBytes_regular (by decide) _ _ _ _ _⟩

end BdevUbi.Dd
