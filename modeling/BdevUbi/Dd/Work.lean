import BdevUbi.Dd.Exits
import BdevUbi.Dd.Regions

/-! How long a copy can go on.

What is left of the region, the queue and the requests in flight weigh something, and each
request that is carried out or completed makes them lighter. So the work of a copy is bounded,
and if nothing was lost there is some to do until the job ends.
-/

set_option autoImplicit false

namespace BdevUbi.Dd
open BdevUbi.Library

/-- What a request in flight still costs. -/
def Flight.weight : Flight → Nat
  | .submitted (.transfer .populate _ _) => 15
  | .transferred .populate _ => 14
  | .submitted (.transfer .read _ _) => 13
  | .transferred .read _ => 12
  | .submitted (.transfer .write _ _) => 11
  | .transferred .write _ => 10
  | .submitted (.seekData _) => 4
  | .soughtData _ => 3
  | .submitted (.seekHole _) => 2
  | .soughtHole _ => 1
  | .lost => 0

/-- What is left to do. -/
def DdJob.work (c : DdSetup) (s : DdJob) : Nat :=
  16 * (c.readRegionStart + c.copySize - s.inputPos) + 5 * s.seekQueue.length + load c.queueDepth Flight.weight s.flight

/-- A request is carried out, or a poller or a callback comes to it and goes on. -/
def works (s : DdJob) : DdEvent → Bool
  | .perform _ _ => true
  | .complete id _ =>
    match s.flight id with
    | some (.transferred _ res) => res ≠ -eagain
    | _ => true
  | _ => false

section
variable {c : DdSetup} {before : Nat → UInt8} {o : Outcomes} {id : Nat} {s s' s'' : DdJob}

theorem work_congr (pos : s'.inputPos = s.inputPos) (queue : s'.seekQueue = s.seekQueue) (flight : s'.flight = s.flight) :
    s'.work c = s.work c := by
  unfold DdJob.work
  rw [pos, queue, flight]

theorem Stopped.work (stopped : Stopped s s') : s'.work c = s.work c := by
  obtain ⟨_, flight, _, pos, queue, _⟩ := stopped.frame
  exact work_congr pos queue flight

theorem work_setFlight (inside : id < c.queueDepth) (s : DdJob) (flight : Option Flight) :
    (s.setFlight id flight).work c + (s.flight id).elim 0 Flight.weight = s.work c + flight.elim 0 Flight.weight := by
  have changed := load_update inside Flight.weight s.flight flight
  simp only [DdJob.work, DdJob.setFlight]
  omega

/-- A request of an idle io costs what it weighs. -/
theorem Submitted.work {request : DdRequest} (submitted : Submitted s s' id request s'') (inside : id < c.queueDepth)
    (idle : s'.flight id = none) : s''.work c ≤ s'.work c + (Flight.submitted request).weight := by
  cases submitted with
  | taken =>
    have changed := work_setFlight inside s' (some (.submitted request))
    rw [idle] at changed
    exact Nat.le_of_eq changed
  | lost =>
    have changed := work_setFlight inside s' (some .lost)
    rw [idle] at changed
    exact Nat.le_trans (Nat.le_of_eq changed) (Nat.add_le_add_left (Nat.zero_le _) _)
  | refused => exact Nat.le_add_right _ _
  | ended => exact Nat.le_add_right _ _

/-! ## The functions -/

/-- A part of the input is worth more than the requests for it. -/
theorem Populated.work (populated : Populated c id s s') (regular : c.Regular) (placed : s.Placed c before)
    (inside : id < c.queueDepth) (idle : s.flight id = none) : s'.work c ≤ s.work c := by
  have taken (some : (s.claim c id).length ≠ 0) (running : ¬ s.Stopping) (type : DdSubmitType) :
      ((s.claimed c id).requested id (s.claim c id) type).work c + 16 ≤ s.work c := by
    obtain ⟨_, _, region, _⟩ := claim_part regular placed running some
    have read := regular.read
    have pos : ((s.claimed c id).requested id (s.claim c id) type).inputPos = s.inputPos + (s.claim c id).length :=
      u64_of_lt (by omega)
    unfold DdJob.work
    rw [pos]
    simp only [DdJob.requested, DdJob.claimed, DdJob.setIo]
    omega
  cases populated with
  | stopped _ stopped => exact Nat.le_of_eq stopped.work
  | whole some running _ submitted =>
    have cost := submitted.work inside idle
    have gain := taken some running .read
    simp only [Flight.weight] at cost
    omega
  | part some running _ submitted =>
    have cost := submitted.work inside idle
    have gain := taken some running .populate
    simp only [Flight.weight] at cost
    omega

theorem ReadOn.work (read : ReadOn id s s') (inside : id < c.queueDepth) (idle : s.flight id = none) :
    s'.work c ≤ s.work c + 13 := by
  cases read with
  | stopped _ stopped => exact Nat.le_trans (Nat.le_of_eq stopped.work) (Nat.le_add_right _ _)
  | asked _ submitted => exact submitted.work inside idle

theorem Written.work (written : Written c id s s') (inside : id < c.queueDepth) (idle : s.flight id = none) :
    s'.work c ≤ s.work c + 11 := by
  cases written with
  | stopped _ stopped => exact Nat.le_trans (Nat.le_of_eq stopped.work) (Nat.le_add_right _ _)
  | asked _ submitted => exact submitted.work inside idle

theorem Finalized.work (finalized : Finalized c s s') : s'.work c = s.work c := by
  obtain ⟨queue, flight⟩ := finalized.frame
  have pos : s'.inputPos = s.inputPos := by
    cases finalized with
    | waits => rfl
    | failed => rfl
    | sized _ _ _ stopped => exact stopped.frame.2.2.2.1
  exact work_congr pos queue flight

/-- Less is left when the position moves on. -/
theorem work_forward {pos : Nat} (le : s.inputPos ≤ pos) : ({ s with inputPos := pos } : DdJob).work c ≤ s.work c := by
  simp only [DdJob.work]
  omega

theorem FileSought.work (sought : FileSought c o id s s') (regular : c.Regular) (sparse : c.sparse = true)
    (file : c.input.type = .file) (placed : s.Placed c before) (noSeek : s.NoSeek) (inside : id < c.queueDepth)
    (idle : s.flight id = none) : s'.work c ≤ s.work c := by
  have forward {pos : Nat} (moved : pos = s.inputPos ∨ c.source.nextData s.inputPos = some pos) :
      ({ s with inputPos := pos } : DdJob).work c ≤ s.work c := by
    rcases moved with rfl | found
    · exact Nat.le_refl _
    · exact work_forward (c.source.after _ _ found)
  cases sought with
  | waits moved => exact forward moved
  | ended _ moved => exact forward moved
  | noData => exact Nat.le_of_eq (ddFinalizeOutput_cases c o s).work
  | found found unit shape =>
    have aimed := placed.aim regular sparse file noSeek idle found unit shape
    exact Nat.le_trans ((ddTargetPopulateBuffer_cases c o id _).work regular aimed inside idle) (forward (Or.inr found))

theorem Sought.work (sought : Sought c o id s s') (regular : c.Regular) (placed : s.Placed c before) (lined : s.Lined c)
    (inside : id < c.queueDepth) (idle : s.flight id = none) : s'.work c ≤ s.work c + 9 := by
  cases sought with
  | plain =>
    have less := (ddTargetPopulateBuffer_cases c o id s).work regular placed inside idle
    exact Nat.le_trans less (Nat.le_add_right _ _)
  | stopped _ _ stopped => exact Nat.le_trans (Nat.le_of_eq stopped.work) (Nat.le_add_right _ _)
  | file sparse _ _ file sought =>
    have less := sought.work regular sparse file placed (lined.noSeek_of_direct fun _ => file) inside idle
    exact Nat.le_trans less (Nat.le_add_right _ _)
  | asked _ _ _ _ free submitted =>
    have cost := submitted.work inside idle
    simp only [Flight.weight] at cost
    refine Nat.le_trans cost ?_
    simp only [DdJob.work, free, List.length_singleton, List.length_nil]
    omega
  | queued =>
    simp only [DdJob.work, List.length_append, List.length_singleton]
    omega

theorem work_complete (s : DdJob) : s.complete.work c = s.work c :=
  work_congr (complete_frame s).2.2.1 (complete_queue s) (complete_frame s).2.1

/-- A shorter queue is less work. -/
theorem work_queue {queue : List Nat} (shorter : queue.length ≤ s.seekQueue.length) :
    ({ s with seekQueue := queue } : DdJob).work c ≤ s.work c := by
  simp only [DdJob.work]
  omega

theorem DataSought.work {next : Option Nat} (sought : DataSought c o id s next s') (regular : c.Regular)
    (placed : s.Placed c before) (indirect : ¬ c.Direct) (known : FlightAt c (s.ios id) s.inputPos (.soughtData next))
    (inside : id < c.queueDepth) (idle : s.flight id = none) : s'.work c ≤ s.work c + 2 := by
  have tail : s.seekQueue.tail.length ≤ s.seekQueue.length := by
    rw [List.length_tail]
    exact Nat.sub_le _ _
  have same := work_complete (c := c) s
  cases sought with
  | stopping _ stopped =>
    have less : s.dequeue.work c ≤ s.work c := work_queue tail
    have stays := stopped.work (c := c)
    omega
  | noData =>
    have less : ({ s.complete with seekQueue := s.seekQueue.tail } : DdJob).work c ≤ s.complete.work c := by
      refine work_queue ?_
      rw [complete_queue]
      exact tail
    have stays := (ddFinalizeOutput_cases c o { s.complete with seekQueue := s.seekQueue.tail }).work
    omega
  | @found block queue _ _ shape submitted =>
    obtain ⟨sparse, bdev⟩ := DdSetup.bdev_of_not_direct indirect
    obtain ⟨start, here, found⟩ := known
    have after := (sought_data (regular.seeks sparse) placed.region here found.symm).1
    have idleThen : s.complete.flight id = none := (complete_frame s).2.1 ▸ idle
    have cost := submitted.work inside idleThen
    rw [sought_block regular sparse bdev placed.region here found.symm] at cost
    have shorter : queue.length ≤ s.complete.seekQueue.length := by
      rw [complete_queue]
      rcases shape with rfl | ⟨rfl, _⟩
      · exact Nat.le_refl _
      · exact tail
    have pos := (complete_frame s).2.2.1
    simp only [DdJob.work, Flight.weight] at cost same ⊢
    rw [pos] at same
    omega

theorem HoleSought.work {next : Option Nat} (sought : HoleSought c o id s next s') (regular : c.Regular)
    (placed : s.Placed c before) (lined : s.Lined c) (noSeek : s.NoSeek) (covered : s.Covered c.queueDepth) (indirect : ¬ c.Direct)
    (head : s.seekQueue.head? = some id) (known : FlightAt c (s.ios id) s.inputPos (.soughtHole next))
    (inside : id < c.queueDepth) (idle : s.flight id = none) : s'.work c ≤ s.work c := by
  -- the place in the queue pays for the next seek
  have less : s.dequeue.work c + 5 = s.work c := by
    obtain ⟨rest, queue⟩ := List.head?_eq_some_iff.mp head
    simp only [DdJob.work, DdJob.dequeue, queue, List.tail_cons, List.length_cons]
    omega
  have done : (s.holeDone c o id next).work c ≤ s.dequeue.work c := by
    have aimed := (placed.atHole regular idle indirect known).1
    have idleThen : (s.atHole c id next).flight id = none := atHole_flight c id next s ▸ idle
    refine Nat.le_trans ((ddTargetPopulateBuffer_cases c o id _).work regular aimed inside idleThen) (Nat.le_of_eq ?_)
    exact work_complete s.dequeue
  cases sought with
  | stopping _ stopped =>
    have stays := stopped.work (c := c)
    omega
  | last => exact Nat.le_trans done (Nat.le_of_lt (by omega))
  | @turn first rest _ _ queue submitted =>
    have free := holeDone_idle lined noSeek head next queue
    have waits : first ∈ s.dequeue.seekQueue := by
      have here := (ddTargetPopulateBuffer_cases c o id (s.atHole c id next)).local.queue
      have same : (s.atHole c id next).seekQueue = s.dequeue.seekQueue := complete_queue s.dequeue
      rw [← same, ← here]
      have populated : ddTargetPopulateBuffer c o id (s.atHole c id next) = s.holeDone c o id next := rfl
      rw [populated, queue]
      exact List.mem_cons_self
    have insideThen : first < c.queueDepth := covered.queue first (List.mem_of_mem_tail waits)
    have cost : s'.work c ≤ (s.holeDone c o id next).work c + 4 := submitted.work insideThen free
    omega

/-! ## Every run -/

theorem ddPerform_work {request : DdRequest} {res : Int} (held : s.flight id = some (.submitted request))
    (performed : ddPerform c s id res request = some s') (inside : id < c.queueDepth) : s'.work c + 1 = s.work c := by
  have light {t : DdJob} {flight : Flight} (pos : t.inputPos = s.inputPos) (queue : t.seekQueue = s.seekQueue)
      (same : t.flight = s.flight) (weight : flight.weight + 1 = (Flight.submitted request).weight) :
      (t.setFlight id (some flight)).work c + 1 = s.work c := by
    have changed := work_setFlight inside t (some flight)
    rw [work_congr pos queue same, same, held] at changed
    simp only [Option.elim_some] at changed
    omega
  cases request with
  | transfer type length start =>
    simp only [ddPerform] at performed
    split at performed
    · cases performed
      cases type <;> exact light rfl rfl rfl rfl
    · cases performed
  | seekData start =>
    cases performed
    exact light rfl rfl rfl rfl
  | seekHole start =>
    cases performed
    exact light rfl rfl rfl rfl

/-- What the bound on the work rests on. -/
structure DdJob.Steady (c : DdSetup) (before : Nat → UInt8) (s : DdJob) : Prop where
  covered : s.Covered c.queueDepth
  lined : s.Lined c
  placed : s.Placed c before

/-- Every event that works leaves less to do. -/
theorem work_step (regular : c.Regular) (s : DdJob) (event : DdEvent) (s' : DdJob)
    (steady : s.Steady c before) (stepped : ddStep c s event = some s') : s'.work c + (works s event).toNat ≤ s.work c := by
  obtain ⟨covered, lined, placed⟩ := steady
  have inside {id : Nat} {flight : Flight} (held : s.flight id = some flight) : id < c.queueDepth :=
    covered.inside id (by rw [held]; exact Option.some_ne_none _)
  have landed {id : Nat} {flight : Flight} (held : s.flight id = some flight) (error : Int) :
      (({ s with error := error } : DdJob).setFlight id none).work c + flight.weight = s.work c := by
    have changed := work_setFlight (inside held) ({ s with error := error } : DdJob) none
    simp only [held, Option.elim_some, Option.elim_none] at changed
    exact changed
  have atMost (t : DdJob) (less : t.work c + 1 ≤ s.work c) : t.work c + (works s event).toNat ≤ s.work c := by
    have one := Bool.toNat_le (works s event)
    omega
  cases ddStep_cases stepped with
  | performed held performed => exact atMost s' (Nat.le_of_eq (ddPerform_work held performed (inside held)))
  | @again id o type held =>
    have idle : works s (.complete id o) = false := by
      simp only [works, held]
      decide
    rw [idle]
    exact Nat.le_refl _
  | @advanced id o type res held =>
    apply atMost
    obtain ⟨_, same⟩ := placed.flights id _ held
    rw [typeOf_eq same]
    have less := landed held (c.errorAfter s id type res)
    have completed := work_complete (c := c) (({ s with error := c.errorAfter s id type res } : DdJob).setFlight id none)
    have idle : (({ s with error := c.errorAfter s id type res } : DdJob).setFlight id none).complete.flight id = none := by
      rw [(complete_frame _).2.1]
      exact Function.update_self ..
    cases type with
    | populate =>
      have cost := (ddTargetRead_cases c o id _).work (inside held) idle
      simp only [Flight.weight] at less
      simp only [ddAdvance]
      omega
    | read =>
      have cost := (ddTargetWrite_cases c o id _).work (inside held) idle
      simp only [Flight.weight] at less
      simp only [ddAdvance]
      omega
    | write =>
      have placedThen := (placed.land id (errorAfter_ne c s id .write res)).complete
      have linedThen := (lined.land id (c.errorAfter s id .write res)).complete
      have cost := (ddTargetSeek_cases c o id _).work regular placedThen linedThen (inside held) idle
      simp only [Flight.weight] at less
      simp only [ddAdvance]
      omega
  | @soughtData id _ _ _ held sought =>
    apply atMost
    obtain ⟨indirect, _⟩ := lined.seeking _ _ held rfl
    have less : (s.setFlight id none).work c + 3 = s.work c := landed held s.error
    have cost := sought.work regular (placed.land _ fun failed => failed) indirect (placed.flights _ _ held) (inside held)
      (Function.update_self ..)
    omega
  | @soughtHole id _ _ _ held sought =>
    apply atMost
    obtain ⟨indirect, head⟩ := lined.seeking _ _ held rfl
    have less : (s.setFlight id none).work c + 1 = s.work c := landed held s.error
    have cost := sought.work regular (placed.land _ fun failed => failed) (lined.land _ s.error) (lined.noSeek held rfl)
      (covered.land held s.error).covered indirect head (placed.flights _ _ held) (inside held) (Function.update_self ..)
    omega
  | pollFailed => exact Nat.le_refl _
  | pollEnded => exact Nat.le_refl _
  | status => exact Nat.le_refl _
  | interrupted => exact Nat.le_refl _

end

theorem steady_step {c : DdSetup} {before : Nat → UInt8} (regular : c.Regular) (s : DdJob) (event : DdEvent) (s' : DdJob)
    (steady : s.Steady c before) (stepped : ddStep c s event = some s') : s'.Steady c before :=
  ⟨covered_step s event s' steady.covered stepped, lined_step s event s' steady.lined stepped,
    placed_step regular steady.placed steady.lined stepped⟩

theorem steady_start {c : DdSetup} (regular : c.Regular) (o : Nat → Outcomes) (buf : Nat → Nat → UInt8) (output : Nat → UInt8)
    (size : Nat) : (ddRunning c o buf output size).Steady c output :=
  ⟨covered_start (covered_fresh c c.queueDepth buf output size) c o c.queueDepth (Nat.le_refl _),
    lined_start c o buf output size c.queueDepth, placed_start regular o buf output size c.queueDepth⟩

/-- A request that was not lost, and has not come back with EAGAIN, can be carried out or completed. -/
theorem works_next {c : DdSetup} {s : DdJob} {id : Nat} {flight : Flight} (held : s.flight id = some flight) (running : s.exits = 0)
    (kept : flight ≠ .lost) (done : ∀ type, flight ≠ .transferred type (-eagain)) :
    ∃ event s', ddStep c s event = some s' ∧ works s event = true := by
  cases flight with
  | lost => exact absurd rfl kept
  | submitted request =>
    have possible : ∃ res s', ddPerform c s id res request = some s' := by
      cases request with
      | transfer type length start => exact ⟨length, _, if_pos (Int.le_refl _)⟩
      | seekData start => exact ⟨0, _, rfl⟩
      | seekHole start => exact ⟨0, _, rfl⟩
    obtain ⟨res, s', performed⟩ := possible
    refine ⟨.perform id res, s', ?_, rfl⟩
    simp only [ddStep, held]
    exact performed
  | soughtData next =>
    refine ⟨.complete id .fine, ddBdevSeekDataDone c .fine id next (s.setFlight id none), ?_, ?_⟩
    · simp only [ddStep, held, Option.bind_some, ddComplete]
    · simp only [works, held]
  | soughtHole next =>
    refine ⟨.complete id .fine, ddBdevSeekHoleDone c .fine id next (s.setFlight id none), ?_, ?_⟩
    · simp only [ddStep, held, Option.bind_some, ddComplete]
    · simp only [works, held]
  | transferred type res =>
    have finished : works s (.complete id .fine) = true := by
      have other : res ≠ -eagain := fun same => done type (by rw [same])
      simp only [works, held, ne_eq, other, not_false_eq_true, decide_true]
    have possible : ∃ s', ddComplete c s id .fine (.transferred type res) = some s' := by
      simp only [ddComplete, running, Nat.lt_irrefl, ↓reduceIte]
      cases (c.targetOf type).type with
      | file => exact ⟨_, rfl⟩
      | bdev => exact ⟨_, rfl⟩
    obtain ⟨s', completed⟩ := possible
    refine ⟨.complete id .fine, s', ?_, finished⟩
    simp only [ddStep, held, Option.bind_some]
    exact completed

/-- Something is in flight, or the job has ended. -/
theorem DdJob.Balanced.held_or_ended {n last : Nat} {s : DdJob} (balanced : s.Balanced n last) (some : 0 < last) :
    (∃ id flight, s.flight id = .some flight ∧ s.exits = 0) ∨ 0 < s.exits := by
  by_cases waits : 0 < s.outstanding
  · left
    have counted := balanced.exact.counted
    by_contra idle
    have none : busy n s.flight = 0 := by
      rw [busy_eq_zero_iff]
      intro id _
      by_contra held
      obtain ⟨flight, held⟩ := Option.ne_none_iff_exists'.mp held
      exact idle ⟨id, flight, held, (balanced.running waits).1⟩
    omega
  · right
    rw [balanced.finished (Nat.eq_zero_of_not_pos waits)]
    exact some

theorem last_pos (c : DdSetup) (depth : 0 < c.queueDepth) (s : DdJob) : 0 < if 0 < s.outstanding then 1 else c.queueDepth := by
  split
  · exact Nat.one_pos
  · exact depth

/-- As long as `dd_exit` was not called there is work to do, unless a request was lost or waits for
EAGAIN to go away. -/
theorem work_until_exit (c : DdSetup) (direct : c.Direct) (unit : 0 < c.ioUnitSize) (depth : 0 < c.queueDepth) (o : Nat → Outcomes)
    (buf : Nat → Nat → UInt8) (output : Nat → UInt8) (size : Nat) (events : List DdEvent)
    (polls : ∀ event ∈ events, AioPolls c event) :
    Always (ddStep c)
      (fun s => (∀ id flight, s.flight id = some flight → flight ≠ .lost ∧ ∀ type, flight ≠ .transferred type (-eagain)) →
        0 < s.exits ∨ ∃ event s', ddStep c s event = some s' ∧ works s event = true)
      (ddRunning c o buf output size) events := by
  refine (balanced_always c direct unit o buf output size events polls).mono ?_
  intro s balanced kept
  rcases balanced.held_or_ended (last_pos c depth _) with ⟨id, flight, held, running⟩ | ended
  · right
    exact works_next held running (kept id flight held).1 (kept id flight held).2
  · exact Or.inl ended

theorem sixBytes_work_until_exit :
    Always (ddStep sixBytes)
      (fun s => (∀ id flight, s.flight id = some flight → flight ≠ .lost ∧ ∀ type, flight ≠ .transferred type (-eagain)) →
        0 < s.exits ∨ ∃ event s', ddStep sixBytes s event = some s' ∧ works s event = true)
      sixBytesRunning sixBytesEvents :=
  work_until_exit sixBytes (fun sparse => by cases sparse) (by decide) (by decide) _ _ _ _ _ sixBytes_polls

end BdevUbi.Dd
