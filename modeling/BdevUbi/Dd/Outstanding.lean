import BdevUbi.Dd.Turns

/-! What `outstanding` counts, and when a job ends.

A function that is handed an idle io starts at most one request with it, and if it leaves
nothing outstanding it has called `dd_exit`. Only the seeks of a bdev do otherwise: an io may
wait in their queue, and a seek that ends in a stopping job stays in the count.
-/

set_option autoImplicit false

namespace BdevUbi.Dd
open BdevUbi.Library

/-! ## The small steps -/

section
variable (s : DdJob)

@[simp] theorem exits_exit (rc : Int) : (ddExit rc s).exits = s.exits + 1 := by
  simp [DdJob.exits, ddExit, DdAct.isExit]

@[simp] theorem exits_showProgress (finish : Bool) : (ddShowProgress finish s).exits = s.exits := by
  simp [DdJob.exits, ddShowProgress, DdAct.isExit]

@[simp] theorem exits_showEnd : (ddShowEnd s).exits = s.exits := by
  unfold ddShowEnd
  split
  · exact exits_showProgress s true
  · rfl

@[simp] theorem flight_showEnd : (ddShowEnd s).flight = s.flight := by
  unfold ddShowEnd
  split <;> rfl

@[simp] theorem outstanding_showEnd : (ddShowEnd s).outstanding = s.outstanding := by
  unfold ddShowEnd
  split <;> rfl

/-- No assertion has failed so far. -/
def DdJob.Asserted : Prop := .assertFailed ∉ s.acts

@[simp] theorem asserted_exit (rc : Int) : (ddExit rc s).Asserted ↔ s.Asserted := by
  simp [DdJob.Asserted, ddExit]

@[simp] theorem asserted_showProgress (finish : Bool) : (ddShowProgress finish s).Asserted ↔ s.Asserted := by
  simp [DdJob.Asserted, ddShowProgress]

@[simp] theorem asserted_showEnd : (ddShowEnd s).Asserted ↔ s.Asserted := by
  unfold ddShowEnd
  split
  · exact asserted_showProgress s true
  · exact Iff.rfl

end

/-! ## What a function does with an idle io -/

/-- No seek goes to a bdev. -/
def DdSetup.Direct (c : DdSetup) : Prop := c.sparse = true → c.input.type = .file

theorem direct_of_plain {c : DdSetup} (plain : c.sparse = false) : c.Direct := by
  intro sparse
  rw [plain] at sparse
  cases sparse

/-- Seeks of a bdev are only made for a sparse copy from one. -/
theorem DdSetup.bdev_of_not_direct {c : DdSetup} (indirect : ¬ c.Direct) : c.sparse = true ∧ c.input.type = .bdev := by
  unfold DdSetup.Direct at indirect
  obtain ⟨sparse, other⟩ := Classical.not_imp.mp indirect
  refine ⟨sparse, ?_⟩
  cases type : c.input.type with
  | file => exact absurd type other
  | bdev => rfl

/-- A request, or what became of it, that is not about a seek. -/
def Flight.moves : Flight → Bool
  | .submitted request => request.moves
  | .soughtData _ | .soughtHole _ => false
  | _ => true

/-- Nothing, or one request is on its way; if no seek goes to a bdev, it is a transfer. -/
structure Handled (direct : Prop) (id : Nat) (s s' : DdJob) : Prop where
  started : (s'.flight = s.flight ∧ s'.outstanding = s.outstanding) ∨
    ∃ flight, s'.flight = Function.update s.flight id (some flight) ∧ s'.outstanding = s.outstanding + 1 ∧
      (direct → flight.moves = true)
  queue : ∀ other ∈ s'.seekQueue, other ∈ s.seekQueue ∨ other = id
  asserted : s.Asserted → s'.Asserted

/-- The last one to give up ends the job. -/
structure Ends (s s' : DdJob) : Prop where
  last : s'.outstanding = 0 → s'.exits = s.exits + 1
  others : 0 < s'.outstanding → s'.exits = s.exits

section
variable {direct : Prop} {id : Nat} {s s' s'' : DdJob}

/-- A step before the function that the count does not see. -/
theorem Handled.of_same (handled : Handled direct id s' s'') (flight : s'.flight = s.flight)
    (outstanding : s'.outstanding = s.outstanding) (queue : s'.seekQueue = s.seekQueue) (acts : s'.acts = s.acts) :
    Handled direct id s s'' := by
  constructor
  · rw [← flight, ← outstanding]
    exact handled.started
  · rw [← queue]
    exact handled.queue
  · intro asserted
    apply handled.asserted
    unfold DdJob.Asserted at asserted ⊢
    rw [acts]
    exact asserted

theorem Ends.of_same (ends : Ends s' s'') (acts : s'.acts = s.acts) : Ends s s'' := by
  have same : s'.exits = s.exits := congrArg (List.countP DdAct.isExit) acts
  constructor
  · rw [← same]
    exact ends.last
  · rw [← same]
    exact ends.others

theorem Stopped.handled (stopped : Stopped s s') (direct : Prop) (id : Nat) : Handled direct id s s' := by
  cases stopped with
  | waits => exact ⟨Or.inl ⟨rfl, rfl⟩, fun _ member => Or.inl member, fun asserted => asserted⟩
  | ended => exact ⟨Or.inl ⟨rfl, rfl⟩, fun _ member => Or.inl member, (asserted_exit s _).mpr⟩
  | shown =>
    constructor
    · exact Or.inl ⟨rfl, rfl⟩
    · exact fun _ member => Or.inl member
    · intro asserted
      rw [asserted_exit, asserted_showProgress]
      exact asserted

theorem Stopped.ends (stopped : Stopped s s') : Ends s s' := by
  cases stopped with
  | waits some => exact ⟨fun none => absurd none (Nat.ne_of_gt some), fun _ => rfl⟩
  | ended none => exact ⟨fun _ => exits_exit s _, fun some => absurd none (Nat.ne_of_gt some)⟩
  | shown none =>
    constructor
    · intro _
      rw [exits_exit, exits_showProgress]
    · intro some
      exact absurd none (Nat.ne_of_gt some)

theorem Submitted.handled {request : DdRequest} (submitted : Submitted s s' id request s'') (counted : Counted id s s')
    (moves : direct → request.moves = true) : Handled direct id s s'' := by
  have asserts : s.Asserted → s'.Asserted := by
    intro asserted
    unfold DdJob.Asserted at asserted ⊢
    rw [counted.acts]
    exact asserted
  cases submitted with
  | taken =>
    constructor
    · exact Or.inr ⟨.submitted request, by rw [← counted.flight]; rfl, counted.outstanding, moves⟩
    · exact counted.queue
    · exact asserts
  | lost =>
    constructor
    · exact Or.inr ⟨.lost, by rw [← counted.flight]; rfl, counted.outstanding, fun _ => rfl⟩
    · exact counted.queue
    · exact asserts
  | refused =>
    constructor
    · exact Or.inl ⟨counted.flight, rfl⟩
    · exact counted.queue
    · exact asserts
  | ended =>
    constructor
    · exact Or.inl ⟨counted.flight, rfl⟩
    · exact counted.queue
    · intro asserted
      rw [asserted_exit]
      exact asserts asserted

theorem Submitted.ends {request : DdRequest} (submitted : Submitted s s' id request s'') (counted : Counted id s s') : Ends s s'' := by
  have exits : s'.exits = s.exits := congrArg (List.countP DdAct.isExit) counted.acts
  have busy : s'.outstanding ≠ 0 := by
    rw [counted.outstanding]
    exact Nat.succ_ne_zero _
  cases submitted with
  | taken => exact ⟨fun none => absurd none busy, fun _ => exits⟩
  | lost => exact ⟨fun none => absurd none busy, fun _ => exits⟩
  | refused _ some => exact ⟨fun none => absurd none (Nat.ne_of_gt some), fun _ => exits⟩
  | ended _ none =>
    constructor
    · intro _
      rw [exits_exit]
      exact congrArg (· + 1) exits
    · intro some
      exact absurd none (Nat.ne_of_gt some)

end

section
variable (c : DdSetup) (o : Outcomes) (id : Nat) (s : DdJob) (direct : Prop)

theorem ddTargetRead_handled : Handled direct id s (ddTargetRead c o id s) ∧ Ends s (ddTargetRead c o id s) := by
  cases ddTargetRead_cases c o id s with
  | stopped _ stopped => exact ⟨stopped.handled _ id, stopped.ends⟩
  | asked _ submitted =>
    have counted := counted_requested id s (s.ios id) .read
    exact ⟨submitted.handled counted fun _ => rfl, submitted.ends counted⟩

theorem ddTargetWrite_handled : Handled direct id s (ddTargetWrite c o id s) ∧ Ends s (ddTargetWrite c o id s) := by
  cases ddTargetWrite_cases c o id s with
  | stopped _ stopped => exact ⟨stopped.handled _ id, stopped.ends⟩
  | asked _ submitted => exact ⟨submitted.handled (counted_writing id s) fun _ => rfl, submitted.ends (counted_writing id s)⟩

theorem ddTargetPopulateBuffer_handled :
    Handled direct id s (ddTargetPopulateBuffer c o id s) ∧ Ends s (ddTargetPopulateBuffer c o id s) := by
  cases ddTargetPopulateBuffer_cases c o id s with
  | stopped _ stopped => exact ⟨(stopped.handled _ id).of_same rfl rfl rfl rfl, stopped.ends.of_same rfl⟩
  | whole _ _ _ submitted =>
    have counted := counted_requested id (s.claimed c id) (s.claim c id) .read
    exact ⟨(submitted.handled counted fun _ => rfl).of_same rfl rfl rfl rfl, (submitted.ends counted).of_same rfl⟩
  | part _ _ _ submitted =>
    have counted := counted_requested id (s.claimed c id) (s.claim c id) .populate
    exact ⟨(submitted.handled counted fun _ => rfl).of_same rfl rfl rfl rfl, (submitted.ends counted).of_same rfl⟩

theorem ddFinalizeOutput_handled : Handled direct id s (ddFinalizeOutput c o s) ∧ Ends s (ddFinalizeOutput c o s) := by
  have finalized := ddFinalizeOutput_cases c o s
  generalize ddFinalizeOutput c o s = s' at finalized ⊢
  cases finalized with
  | waits some => exact ⟨(Stopped.waits some).handled _ id, (Stopped.waits some).ends⟩
  | failed errno none =>
    have stopped : Stopped { s with error := errno.code } (ddExit errno.code { s with error := errno.code }) :=
      .ended none (Or.inl (Int.ne_of_gt errno.positive))
    exact ⟨(stopped.handled _ id).of_same rfl rfl rfl rfl, stopped.ends.of_same rfl⟩
  | sized _ _ _ stopped => exact ⟨(stopped.handled _ id).of_same rfl rfl rfl rfl, stopped.ends.of_same rfl⟩

end

section
variable {c : DdSetup} {o : Outcomes} {id : Nat} {s s' : DdJob}

theorem FileSought.handled (sought : FileSought c o id s s') (direct : Prop) : Handled direct id s s' ∧ Ends s s' := by
  cases sought with
  | @waits pos _ some =>
    have stopped : Stopped { s with inputPos := pos } { s with inputPos := pos } := .waits some
    exact ⟨(stopped.handled _ id).of_same rfl rfl rfl rfl, stopped.ends.of_same rfl⟩
  | @ended pos errno _ none =>
    have stopped : Stopped { s with inputPos := pos, error := errno.code }
      (ddExit errno.code { s with inputPos := pos, error := errno.code }) := .ended none (Or.inl (Int.ne_of_gt errno.positive))
    exact ⟨(stopped.handled _ id).of_same rfl rfl rfl rfl, stopped.ends.of_same rfl⟩
  | noData => exact ddFinalizeOutput_handled c o id s direct
  | @found pos length =>
    have populated := ddTargetPopulateBuffer_handled c o id (s.aim id pos length) direct
    exact ⟨populated.1.of_same rfl rfl rfl rfl, populated.2.of_same rfl⟩

theorem Sought.handled (sought : Sought c o id s s') : Handled c.Direct id s s' := by
  cases sought with
  | plain => exact (ddTargetPopulateBuffer_handled c o id s c.Direct).1
  | stopped _ _ stopped => exact stopped.handled _ id
  | file _ _ _ _ sought => exact (sought.handled c.Direct).1
  | asked sparse _ _ bdev _ submitted =>
    refine submitted.handled (counted_first id s) fun direct => ?_
    rw [direct sparse] at bdev
    cases bdev
  | queued =>
    constructor
    · exact Or.inl ⟨rfl, rfl⟩
    · intro other member
      simpa using member
    · exact fun asserted => asserted

theorem Sought.ends (direct : c.Direct) (sought : Sought c o id s s') : Ends s s' := by
  cases sought with
  | plain => exact (ddTargetPopulateBuffer_handled c o id s c.Direct).2
  | stopped _ _ stopped => exact stopped.ends
  | file _ _ _ _ sought => exact (sought.handled c.Direct).2
  | asked sparse _ _ bdev =>
    rw [direct sparse] at bdev
    cases bdev
  | queued sparse _ _ bdev =>
    rw [direct sparse] at bdev
    cases bdev

end


/-! ## Every run -/

/-- The requests in flight are counted, at the least; the ios are those of the queue depth, and
no assertion has failed. -/
structure DdJob.Covered (n : Nat) (s : DdJob) : Prop where
  counted : busy n s.flight ≤ s.outstanding
  inside : ∀ id, s.flight id ≠ none → id < n
  queue : ∀ id ∈ s.seekQueue, id < n
  asserted : s.Asserted

section
variable {c : DdSetup} {o : Outcomes} {id n : Nat} {s s' : DdJob}

theorem DdJob.Covered.handled {direct : Prop} (covered : s.Covered n) (inside : id < n) (handled : Handled direct id s s') : s'.Covered n := by
  have queue (other : Nat) (member : other ∈ s'.seekQueue) : other < n := by
    rcases handled.queue other member with old | rfl
    · exact covered.queue other old
    · exact inside
  rcases handled.started with ⟨flight, outstanding⟩ | ⟨started, flight, outstanding, _⟩
  · constructor
    · rw [flight, outstanding]
      exact covered.counted
    · rw [flight]
      exact covered.inside
    · exact queue
    · exact handled.asserted covered.asserted
  · constructor
    · rw [flight, outstanding]
      have more := busy_update_le inside s.flight (some started)
      have before := covered.counted
      omega
    · intro other held
      by_cases same : other = id
      · rw [same]
        exact inside
      · rw [flight, Function.update_of_ne same] at held
        exact covered.inside other held
    · exact queue
    · exact handled.asserted covered.asserted

/-- One request is over, and still counted. -/
structure DdJob.Landed (n : Nat) (s : DdJob) : Prop where
  counted : busy n s.flight + 1 ≤ s.outstanding
  inside : ∀ id, s.flight id ≠ none → id < n
  queue : ∀ id ∈ s.seekQueue, id < n
  asserted : s.Asserted

theorem DdJob.Covered.land (covered : s.Covered n) {flight : Flight} (held : s.flight id = some flight) (error : Int) :
    (({ s with error := error } : DdJob).setFlight id none).Landed n := by
  have inside : id < n := covered.inside id (by rw [held]; exact Option.some_ne_none _)
  constructor
  · have before := covered.counted
    have released := busy_release inside held
    simp only [DdJob.setFlight]
    omega
  · intro other stays
    by_cases same : other = id
    · rw [same]
      exact inside
    · simp only [DdJob.setFlight, Function.update_of_ne same] at stays
      exact covered.inside other stays
  · exact covered.queue
  · exact covered.asserted

theorem DdJob.Landed.complete (landed : s.Landed n) : s.complete.Covered n := by
  have positive : 0 < s.outstanding := Nat.lt_of_lt_of_le (Nat.succ_pos _) landed.counted
  unfold DdJob.complete
  rw [if_pos positive]
  exact ⟨Nat.le_sub_of_add_le landed.counted, landed.inside, landed.queue, landed.asserted⟩

theorem DdJob.Landed.dequeue (landed : s.Landed n) : s.dequeue.Landed n :=
  ⟨landed.counted, landed.inside, fun id member => landed.queue id (List.mem_of_mem_tail member), landed.asserted⟩

theorem DdJob.Landed.covered (landed : s.Landed n) : s.Covered n :=
  ⟨Nat.le_of_succ_le landed.counted, landed.inside, landed.queue, landed.asserted⟩

theorem DdJob.Landed.advance (landed : s.Landed n) (inside : id < n) (c : DdSetup) (o : Outcomes) (type : DdSubmitType) :
    (ddAdvance c o type id s).Covered n := by
  have completed := landed.complete
  cases type with
  | populate => exact completed.handled inside (ddTargetRead_handled c o id s.complete False).1
  | read => exact completed.handled inside (ddTargetWrite_handled c o id s.complete False).1
  | write => exact completed.handled inside (ddTargetSeek_cases c o id s.complete).handled

theorem DdJob.Landed.dataSought (landed : s.Landed n) (inside : id < n) {next : Option Nat}
    (sought : DataSought c o id s next s') : s'.Covered n := by
  cases sought with
  | stopping _ stopped => exact landed.dequeue.covered.handled inside (stopped.handled False id)
  | noData =>
    have completed := landed.complete
    have tail : ({ s.complete with seekQueue := s.seekQueue.tail } : DdJob).Covered n :=
      ⟨completed.counted, completed.inside, fun id member => landed.queue id (List.mem_of_mem_tail member), completed.asserted⟩
    exact tail.handled inside (ddFinalizeOutput_handled c o id _ False).1
  | @found block queue _ _ shape submitted =>
    have completed := landed.complete
    have members : ∀ id ∈ queue, id < n := by
      intro id member
      rcases shape with rfl | ⟨rfl, _⟩
      · exact landed.queue id member
      · exact landed.queue id (List.mem_of_mem_tail member)
    have moved : ({ s.complete with inputPos := u64 (block * c.input.blockSize), seekQueue := queue } : DdJob).Covered n :=
      ⟨completed.counted, completed.inside, members, completed.asserted⟩
    exact moved.handled inside (submitted.handled ⟨rfl, rfl, fun _ member => Or.inl member, rfl⟩ False.elim)

theorem DdJob.Landed.holeDone (landed : s.Landed n) (inside : id < n) (c : DdSetup) (o : Outcomes) (next : Option Nat) :
    (s.holeDone c o id next).Covered n := by
  have completed := landed.dequeue.complete
  have populated := ddTargetPopulateBuffer_handled c o id (s.atHole c id next) False
  exact completed.handled inside (populated.1.of_same rfl rfl rfl rfl)

theorem DdJob.Landed.holeSought (landed : s.Landed n) (inside : id < n) {next : Option Nat}
    (sought : HoleSought c o id s next s') : s'.Covered n := by
  cases sought with
  | stopping _ stopped => exact landed.dequeue.covered.handled inside (stopped.handled False id)
  | last => exact landed.holeDone inside c o next
  | turn _ queue submitted =>
    have done := landed.holeDone inside c o next
    have first := done.queue _ (by rw [queue]; exact List.mem_cons_self)
    exact done.handled first (submitted.handled ⟨rfl, rfl, fun _ member => Or.inl member, rfl⟩ False.elim)

theorem ddPerform_flight {res : Int} {request : DdRequest} (performed : ddPerform c s id res request = some s') :
    ∃ flight, s'.flight = Function.update s.flight id (some flight) ∧ s'.outstanding = s.outstanding ∧
      s'.seekQueue = s.seekQueue ∧ s'.acts = s.acts := by
  cases request with
  | transfer type length offset =>
    simp only [ddPerform] at performed
    split at performed
    · cases performed
      cases type <;> exact ⟨_, rfl, rfl, rfl, rfl⟩
    · cases performed
  | seekData start =>
    cases performed
    exact ⟨_, rfl, rfl, rfl, rfl⟩
  | seekHole start =>
    cases performed
    exact ⟨_, rfl, rfl, rfl, rfl⟩

theorem covered_step (s : DdJob) (event : DdEvent) (s' : DdJob) (covered : s.Covered n) (stepped : ddStep c s event = some s') :
    s'.Covered n := by
  have held_inside {id : Nat} {flight : Flight} (held : s.flight id = some flight) : id < n :=
    covered.inside id (by rw [held]; exact Option.some_ne_none _)
  cases ddStep_cases stepped with
  | @performed id _ _ _ held performed =>
    obtain ⟨flight, flights, outstanding, queue, acts⟩ := ddPerform_flight performed
    constructor
    · rw [flights, outstanding, busy_replace (held_inside held) held]
      exact covered.counted
    · intro other stays
      by_cases same : other = id
      · rw [same]
        exact held_inside held
      · rw [flights, Function.update_of_ne same] at stays
        exact covered.inside other stays
    · rw [queue]
      exact covered.queue
    · unfold DdJob.Asserted
      rw [acts]
      exact covered.asserted
  | again => exact covered
  | advanced held => exact (covered.land held _).advance (held_inside held) c _ _
  | soughtData held sought => exact (covered.land held s.error).dataSought (held_inside held) sought
  | soughtHole held sought => exact (covered.land held s.error).holeSought (held_inside held) sought
  | pollFailed => exact ⟨covered.counted, covered.inside, covered.queue, covered.asserted⟩
  | pollEnded => exact ⟨covered.counted, covered.inside, covered.queue, (asserted_exit s _).mpr covered.asserted⟩
  | status => exact ⟨covered.counted, covered.inside, covered.queue, (asserted_showProgress s _).mpr covered.asserted⟩
  | interrupted => exact ⟨covered.counted, covered.inside, covered.queue, covered.asserted⟩

theorem covered_fresh (c : DdSetup) (n : Nat) (buf : Nat → Nat → UInt8) (output : Nat → UInt8) (size : Nat) :
    (DdJob.fresh c buf output size).Covered n := by
  constructor
  · exact Nat.le_of_eq (load_empty _)
  · intro id held
    exact absurd rfl held
  · intro id member
    cases member
  · intro member
    cases member

theorem covered_start (covered : s.Covered n) (c : DdSetup) (o : Nat → Outcomes) (k : Nat) (le : k ≤ n) :
    (ddStart c o s k).Covered n := by
  induction k with
  | zero => exact covered
  | succ k ih => exact (ih (Nat.le_of_succ_le le)).handled le (ddTargetSeek_cases c (o k) k _).handled

end

end BdevUbi.Dd
