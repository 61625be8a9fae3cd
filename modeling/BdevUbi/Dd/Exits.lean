import BdevUbi.Dd.Outstanding

/-! When a copy ends. Without seeks of a bdev the count of `outstanding` is exact, so `dd_exit`
comes with the last request; an io that is sent off when nothing more can be started ends the
job once more.
-/

set_option autoImplicit false

namespace BdevUbi.Dd
open BdevUbi.Library

/-- Exactly the requests in flight are counted, and each of them moves bytes. -/
structure DdJob.Exact (n : Nat) (s : DdJob) : Prop where
  counted : busy n s.flight = s.outstanding
  inside : ∀ id, s.flight id ≠ none → id < n
  moving : ∀ id flight, s.flight id = some flight → flight.moves = true

/-- `dd_exit` was called as often as given when no request is in flight any more, and never
before. -/
structure DdJob.Balanced (n last : Nat) (s : DdJob) : Prop where
  exact : s.Exact n
  running : 0 < s.outstanding → s.exits = 0 ∧ last = 1
  finished : s.outstanding = 0 → s.exits = last

section
variable {c : DdSetup} {o : Outcomes} {id n last : Nat} {s s' : DdJob}

theorem DdJob.Exact.handled {direct : Prop} (exact : s.Exact n) (inside : id < n) (idle : s.flight id = none)
    (handled : Handled direct id s s') (holds : direct) : s'.Exact n := by
  rcases handled.started with ⟨flight, outstanding⟩ | ⟨started, flight, outstanding, moves⟩
  · exact ⟨by rw [flight, outstanding, exact.counted], by rw [flight]; exact exact.inside, by rw [flight]; exact exact.moving⟩
  · constructor
    · rw [flight, outstanding, busy_take inside idle, exact.counted]
    · intro other held
      by_cases same : other = id
      · rw [same]
        exact inside
      · rw [flight, Function.update_of_ne same] at held
        exact exact.inside other held
    · intro other now held
      rw [flight] at held
      rcases held_update held with old | ⟨_, new⟩
      · exact exact.moving other now old
      · cases new
        exact moves holds

/-- Where a job that is idle has come to: no io will start a request again. -/
def DdJob.DeadEnd (c : DdSetup) (s : DdJob) : Prop :=
  s.Stopping ∨ sub64 c.copySize (sub64 s.inputPos c.readRegionStart) = 0 ∨
    (c.sparse = true ∧ c.source.nextData s.inputPos = none)

theorem Submitted.stopping {s'' : DdJob} {request : DdRequest} (submitted : Submitted s s' id request s'')
    (counted : Counted id s s') (none : s''.outstanding = 0) : s''.Stopping := by
  have busy : s'.outstanding ≠ 0 := by
    rw [counted.outstanding]
    exact Nat.succ_ne_zero _
  cases submitted with
  | taken => exact absurd none busy
  | lost => exact absurd none busy
  | refused failed => exact Or.inl failed
  | ended failed => exact Or.inl failed

theorem Stopped.same (stopped : Stopped s s') :
    s'.error = s.error ∧ s'.interrupt = s.interrupt ∧ s'.inputPos = s.inputPos ∧ s'.outstanding = s.outstanding := by
  cases stopped with
  | waits => exact ⟨rfl, rfl, rfl, rfl⟩
  | ended => exact ⟨rfl, rfl, rfl, rfl⟩
  | shown => exact ⟨rfl, rfl, rfl, rfl⟩

theorem Finalized.same (finalized : Finalized c s s') : s'.inputPos = s.inputPos ∧ s'.outstanding = s.outstanding := by
  cases finalized with
  | waits => exact ⟨rfl, rfl⟩
  | failed => exact ⟨rfl, rfl⟩
  | sized _ _ _ stopped => exact stopped.same.2.2

theorem Populated.deadEnd (populated : Populated c id s s') (positive : 0 < (s.ios id).length) (none : s'.outstanding = 0) :
    s'.DeadEnd c := by
  cases populated with
  | stopped finished stopped =>
    rcases finished with length | stopping
    · right
      left
      obtain ⟨_, _, pos, _⟩ := stopped.same
      simp only [DdJob.claim] at length
      rw [pos]
      simp only [DdJob.setIo]
      omega
    · left
      exact stopped.frame.2.2.2.2.2 stopping
  | whole _ _ _ submitted => exact Or.inl (submitted.stopping (counted_requested ..) none)
  | part _ _ _ submitted => exact Or.inl (submitted.stopping (counted_requested ..) none)

theorem Sought.deadEnd (direct : c.Direct) (sought : Sought c o id s s') (unit : 0 < c.ioUnitSize)
    (positive : 0 < (s.ios id).length) (none : s'.outstanding = 0) : s'.DeadEnd c := by
  cases sought with
  | plain => exact (ddTargetPopulateBuffer_cases c o id s).deadEnd positive none
  | stopped _ finished stopped =>
    rcases finished with remaining | stopping
    · obtain ⟨_, _, pos, _⟩ := stopped.same
      right
      left
      rw [pos]
      exact remaining
    · exact Or.inl (stopped.frame.2.2.2.2.2 stopping)
  | asked sparse _ _ bdev =>
    rw [direct sparse] at bdev
    cases bdev
  | queued sparse _ _ bdev =>
    rw [direct sparse] at bdev
    cases bdev
  | file sparse _ _ _ sought =>
    cases sought with
    | waits _ some => exact absurd none (Nat.ne_of_gt some)
    | ended errno => exact Or.inl (Or.inl (Int.ne_of_gt errno.positive))
    | noData missing =>
      right
      right
      rw [(ddFinalizeOutput_cases c o s).same.1]
      exact ⟨sparse, missing⟩
    | @found pos length _ _ shape =>
      have some : 0 < ((s.aim id pos length).ios id).length := by
        simp only [DdJob.aim, DdJob.setIo, Function.update_self]
        rcases shape with whole | ⟨hole, _, after, part⟩
        · omega
        · omega
      exact (ddTargetPopulateBuffer_cases c o id _).deadEnd some none

theorem Populated.idle (populated : Populated c id s s') (finished : (s.claim c id).length = 0 ∨ s.Stopping) (none : s.outstanding = 0) :
    s'.outstanding = 0 := by
  cases populated with
  | stopped _ stopped => exact stopped.same.2.2.2.trans none
  | whole some running =>
    rcases finished with length | stopping
    · exact absurd length some
    · exact absurd stopping running
  | part some running =>
    rcases finished with length | stopping
    · exact absurd length some
    · exact absurd stopping running

theorem Sought.idle (direct : c.Direct) (sought : Sought c o id s s') (dead : s.DeadEnd c) (none : s.outstanding = 0) :
    s'.outstanding = 0 := by
  cases sought with
  | plain dense =>
    refine (ddTargetPopulateBuffer_cases c o id s).idle ?_ none
    rcases dead with stopping | remaining | ⟨sparse, _⟩
    · exact Or.inr stopping
    · left
      simp only [DdJob.claim, remaining, Nat.min_zero]
    · rw [dense] at sparse
      cases sparse
  | stopped _ _ stopped => exact stopped.same.2.2.2.trans none
  | asked sparse _ _ bdev =>
    rw [direct sparse] at bdev
    cases bdev
  | queued sparse _ _ bdev =>
    rw [direct sparse] at bdev
    cases bdev
  | file sparse running some _ sought =>
    have missing : c.source.nextData s.inputPos = Option.none := by
      rcases dead with stopping | remaining | ⟨_, missing⟩
      · exact absurd stopping running
      · exact absurd remaining some
      · exact missing
    cases sought with
    | waits => exact none
    | ended => exact none
    | noData => exact (ddFinalizeOutput_cases c o s).same.2.trans none
    | found found =>
      rw [missing] at found
      cases found

end

section
variable {c : DdSetup} {o : Outcomes} {id n last : Nat} {s s' : DdJob}

theorem exits_complete (positive : 0 < s.outstanding) :
    s.complete.exits = s.exits ∧ s.complete.outstanding = s.outstanding - 1 ∧ s.complete.flight = s.flight := by
  unfold DdJob.complete
  rw [if_pos positive]
  exact ⟨rfl, rfl, rfl⟩

/-- An io that was in flight is handed on. -/
theorem ddAdvance_handled (direct : c.Direct) (o : Outcomes) (type : DdSubmitType) (id : Nat) (s : DdJob) :
    Handled c.Direct id s.complete (ddAdvance c o type id s) ∧ Ends s.complete (ddAdvance c o type id s) := by
  cases type with
  | populate => exact ddTargetRead_handled c o id s.complete c.Direct
  | read => exact ddTargetWrite_handled c o id s.complete c.Direct
  | write =>
    have sought := ddTargetSeek_cases c o id s.complete
    exact ⟨sought.handled, sought.ends direct⟩

/-- One request is over, and no longer counted. -/
theorem DdJob.Exact.land {flight : Flight} (exact : s.Exact n) (held : s.flight id = some flight) (error : Int) :
    ((({ s with error := error } : DdJob).setFlight id none).complete).Exact n ∧
      ((({ s with error := error } : DdJob).setFlight id none).complete).exits = s.exits ∧
      ((({ s with error := error } : DdJob).setFlight id none).complete).flight id = none := by
  have inside : id < n := exact.inside id (by rw [held]; exact Option.some_ne_none _)
  have released := busy_release inside held
  have counted := exact.counted
  have positive : 0 < (({ s with error := error } : DdJob).setFlight id none).outstanding := by
    simp only [DdJob.setFlight]
    omega
  obtain ⟨exits, outstanding, flights⟩ := exits_complete positive
  have others (other : Nat) (now : Flight)
      (stays : ((({ s with error := error } : DdJob).setFlight id none).complete).flight other = some now) :
      s.flight other = some now := by
    rw [flights] at stays
    by_cases same : other = id
    · rw [same] at stays
      simp only [DdJob.setFlight, Function.update_self] at stays
      cases stays
    · simp only [DdJob.setFlight, Function.update_of_ne same] at stays
      exact stays
  refine ⟨⟨?_, ?_, ?_⟩, exits, ?_⟩
  · rw [flights, outstanding]
    simp only [DdJob.setFlight]
    omega
  · intro other stays
    obtain ⟨now, is⟩ := Option.ne_none_iff_exists'.mp stays
    apply exact.inside other
    rw [others other now is]
    exact Option.some_ne_none _
  · intro other now stays
    exact exact.moving other now (others other now stays)
  · rw [flights]
    exact Function.update_self ..

theorem balanced_advance (direct : c.Direct) {flight : Flight} (balanced : s.Balanced n last) (held : s.flight id = some flight)
    (error : Int) (o : Outcomes) (type : DdSubmitType) :
    (ddAdvance c o type id (({ s with error := error } : DdJob).setFlight id none)).Balanced n last := by
  have inside : id < n := balanced.exact.inside id (by rw [held]; exact Option.some_ne_none _)
  have released := busy_release inside held
  have counted := balanced.exact.counted
  obtain ⟨landed, exits, idle⟩ := balanced.exact.land held error
  obtain ⟨handled, ends⟩ := ddAdvance_handled direct o type id (({ s with error := error } : DdJob).setFlight id none)
  obtain ⟨none, one⟩ := balanced.running (by omega)
  constructor
  · exact landed.handled inside idle handled direct
  · intro some
    exact ⟨(ends.others some).trans (exits.trans none), one⟩
  · intro finished
    rw [ends.last finished, exits, none, one]

/-- The pollers that AIO has do not fail. -/
def AioPolls (c : DdSetup) : DdEvent → Prop
  | .pollFailed _ => c.uring = true
  | _ => True

theorem balanced_step (direct : c.Direct) (s : DdJob) (event : DdEvent) (s' : DdJob) (balanced : s.Balanced n last)
    (polls : AioPolls c event) (stepped : ddStep c s event = some s') : s'.Balanced n last := by
  obtain ⟨exact, running, finished⟩ := balanced
  cases ddStep_cases stepped with
  | @performed id _ request _ held performed =>
    obtain ⟨flight, flights, outstanding, _, acts⟩ := ddPerform_flight performed
    have exits : s'.exits = s.exits := congrArg (List.countP DdAct.isExit) acts
    have inside : id < n := exact.inside id (by rw [held]; exact Option.some_ne_none _)
    refine ⟨⟨?_, ?_, ?_⟩, ?_, ?_⟩
    · rw [flights, outstanding, busy_replace inside held, exact.counted]
    · intro other stays
      by_cases same : other = id
      · rw [same]
        exact inside
      · rw [flights, Function.update_of_ne same] at stays
        exact exact.inside other stays
    · intro other now stays
      by_cases same : other = id
      · have moves : request.moves = true := exact.moving id _ held
        cases request with
        | transfer type length offset =>
          simp only [ddPerform] at performed
          split at performed
          · cases performed
            rw [same] at stays
            simp only [DdJob.setFlight, Function.update_self] at stays
            cases stays
            rfl
          · cases performed
        | seekData start => cases moves
        | seekHole start => cases moves
      · rw [flights, Function.update_of_ne same] at stays
        exact exact.moving other now stays
    · rw [outstanding, exits]
      exact running
    · rw [outstanding, exits]
      exact finished
  | again => exact ⟨exact, running, finished⟩
  | advanced held => exact balanced_advance direct ⟨exact, running, finished⟩ held _ _ _
  | soughtData held => cases exact.moving _ _ held
  | soughtHole held => cases exact.moving _ _ held
  | pollFailed => exact ⟨⟨exact.counted, exact.inside, exact.moving⟩, running, finished⟩
  | pollEnded aio =>
    have uring : c.uring = true := polls
    rw [aio] at uring
    cases uring
  | status =>
    refine ⟨⟨exact.counted, exact.inside, exact.moving⟩, ?_, ?_⟩
    · rw [exits_showProgress]
      exact running
    · rw [exits_showProgress]
      exact finished
  | interrupted => exact ⟨⟨exact.counted, exact.inside, exact.moving⟩, running, finished⟩

end

/-! ## The start -/

section
variable {c : DdSetup} {o : Outcomes} {id other : Nat} {s s' s'' : DdJob}

theorem Populated.ios (populated : Populated c id s s') (different : other ≠ id) : s'.ios other = s.ios other := by
  cases populated with
  | stopped _ stopped =>
    rw [stopped.frame.1]
    exact Function.update_of_ne different _ _
  | whole _ _ _ submitted =>
    rw [submitted.frame.1]
    simp only [DdJob.requested, DdJob.claimed, DdJob.setIo, Function.update_of_ne different]
  | part _ _ _ submitted =>
    rw [submitted.frame.1]
    simp only [DdJob.requested, DdJob.claimed, DdJob.setIo, Function.update_of_ne different]

theorem Finalized.ios (finalized : Finalized c s s') : s'.ios = s.ios := by
  cases finalized with
  | waits => rfl
  | failed => rfl
  | sized _ _ _ stopped => exact stopped.frame.1

/-- Only the io at hand changes. -/
theorem Sought.ios (sought : Sought c o id s s') (different : other ≠ id) : s'.ios other = s.ios other := by
  cases sought with
  | plain => exact (ddTargetPopulateBuffer_cases c o id s).ios different
  | stopped _ _ stopped => rw [stopped.frame.1]
  | asked _ _ _ _ _ submitted => rw [submitted.frame.1]
  | queued => rfl
  | file _ _ _ _ sought =>
    cases sought with
    | waits => rfl
    | ended => rfl
    | noData => rw [(ddFinalizeOutput_cases c o s).ios]
    | @found pos length =>
      rw [(ddTargetPopulateBuffer_cases c o id (s.aim id pos length)).ios different]
      exact Function.update_of_ne different _ _

/-- The loop of `dd_run` after `k` ios: the others are as they were, and if nothing is in
flight then each of the `k` has ended the job. -/
structure DdJob.Sent (c : DdSetup) (n k : Nat) (s : DdJob) : Prop where
  exact : s.Exact n
  fresh : ∀ id, k ≤ id → s.flight id = none ∧ (s.ios id).length = c.ioUnitSize
  running : 0 < s.outstanding → s.exits = 0
  finished : s.outstanding = 0 → s.exits = k ∧ (0 < k → s.DeadEnd c)

theorem sent_fresh (n : Nat) (buf : Nat → Nat → UInt8) (output : Nat → UInt8) (size : Nat) :
    (DdJob.fresh c buf output size).Sent c n 0 := by
  refine ⟨⟨load_empty _, fun _ held => absurd rfl held, fun _ _ held => by cases held⟩, fun _ _ => ⟨rfl, rfl⟩, ?_, ?_⟩
  · intro some
    cases some
  · intro _
    exact ⟨rfl, fun none => absurd none (Nat.lt_irrefl 0)⟩

theorem sent_next (direct : c.Direct) (unit : 0 < c.ioUnitSize) {n k : Nat} (inside : k < n) (sent : s.Sent c n k)
    (o : Outcomes) : (ddTargetSeek c o k s).Sent c n (k + 1) := by
  have sought := ddTargetSeek_cases c o k s
  have handled := sought.handled
  have ends := sought.ends direct
  obtain ⟨idle, length⟩ := sent.fresh k (Nat.le_refl k)
  constructor
  · exact sent.exact.handled inside idle handled direct
  · intro id later
    have different : id ≠ k := by omega
    obtain ⟨none, same⟩ := sent.fresh id (Nat.le_of_succ_le later)
    constructor
    · rcases handled.started with ⟨flight, _⟩ | ⟨_, flight, _, _⟩
      · rw [flight]
        exact none
      · rw [flight, Function.update_of_ne different]
        exact none
    · rw [sought.ios different]
      exact same
  · intro some
    rw [ends.others some]
    -- an io that finds the job at a dead end does not start it again
    by_cases before : 0 < s.outstanding
    · exact sent.running before
    · obtain ⟨exits, dead⟩ := sent.finished (Nat.eq_zero_of_not_pos before)
      by_cases first : k = 0
      · rw [exits, first]
      · have none := sought.idle direct (dead (Nat.pos_of_ne_zero first)) (Nat.eq_zero_of_not_pos before)
        omega
  · intro none
    constructor
    · rw [ends.last none]
      have before : s.outstanding = 0 := by
        rcases handled.started with ⟨_, outstanding⟩ | ⟨_, _, outstanding, _⟩
        · omega
        · omega
      rw [(sent.finished before).1]
    · intro _
      exact sought.deadEnd direct unit (by omega) none

theorem sent_start (direct : c.Direct) (unit : 0 < c.ioUnitSize) {n : Nat} (fresh : s.Sent c n 0) (o : Nat → Outcomes) (k : Nat)
    (le : k ≤ n) : (ddStart c o s k).Sent c n k := by
  induction k with
  | zero => exact fresh
  | succ k ih => exact sent_next direct unit le (ih (Nat.le_of_succ_le le)) (o k)

end

/-- Where the loop of `dd_run` leaves the count, every run keeps it. -/
theorem balanced_always (c : DdSetup) (direct : c.Direct) (unit : 0 < c.ioUnitSize) (o : Nat → Outcomes)
    (buf : Nat → Nat → UInt8) (output : Nat → UInt8) (size : Nat) (events : List DdEvent)
    (polls : ∀ event ∈ events, AioPolls c event) :
    Always (ddStep c)
      (DdJob.Balanced c.queueDepth (if 0 < (ddRunning c o buf output size).outstanding then 1 else c.queueDepth))
      (ddRunning c o buf output size) events := by
  have sent := sent_start direct unit (sent_fresh c.queueDepth buf output size) o c.queueDepth (Nat.le_refl _)
  have start : (ddRunning c o buf output size).Balanced c.queueDepth
      (if 0 < (ddRunning c o buf output size).outstanding then 1 else c.queueDepth) := by
    refine ⟨sent.exact, ?_, ?_⟩
    · intro some
      rw [if_pos some]
      exact ⟨sent.running some, rfl⟩
    · intro none
      rw [none, if_neg (Nat.lt_irrefl 0)]
      exact (sent.finished none).1
  have guarded : Guarded (ddStep c) (fun _ event => AioPolls c event) (ddRunning c o buf output size) events :=
    guarded_of_forall _ fun event member _ => polls event member
  exact always_of_guarded (balanced_step direct) start guarded

/-- `dd_exit` is called when the last request in flight is over, and then once; if the loop of
`dd_run` has left none in flight, each of its ios has called it. -/
theorem exits_with_last_request (c : DdSetup) (direct : c.Direct) (unit : 0 < c.ioUnitSize) (o : Nat → Outcomes)
    (buf : Nat → Nat → UInt8) (output : Nat → UInt8) (size : Nat) (events : List DdEvent)
    (polls : ∀ event ∈ events, AioPolls c event) :
    Always (ddStep c)
      (fun s => s.outstanding = busy c.queueDepth s.flight ∧
        s.exits = if 0 < s.outstanding then 0 else if 0 < (ddRunning c o buf output size).outstanding then 1 else c.queueDepth)
      (ddRunning c o buf output size) events := by
  apply (balanced_always c direct unit o buf output size events polls).mono
  intro s balanced
  constructor
  · exact balanced.exact.counted.symm
  · by_cases some : 0 < s.outstanding
    · rw [if_pos some]
      exact (balanced.running some).1
    · rw [if_neg some]
      exact balanced.finished (Nat.eq_zero_of_not_pos some)

theorem sixBytes_polls : ∀ event ∈ sixBytesEvents, AioPolls sixBytes event := by
  intro event _
  cases event with
  | pollFailed rc => rfl
  | _ => trivial

theorem sixBytes_exits_with_last_request :
    0 < sixBytesRunning.outstanding ∧
    Always (ddStep sixBytes)
      (fun s => s.outstanding = busy 2 s.flight ∧
        s.exits = if 0 < s.outstanding then 0 else if 0 < sixBytesRunning.outstanding then 1 else 2)
      sixBytesRunning sixBytesEvents := by
  refine ⟨by decide, ?_⟩
  exact exits_with_last_request sixBytes (fun sparse => by cases sparse) (by decide) _ _ _ _ _ sixBytes_polls

end BdevUbi.Dd
