import BdevUbi.Dd.Exits
import BdevUbi.Dd.Queue

/-! Jobs that stop, and jobs that never end.

After an error or an interrupt no request is started any more, so a job without seeks of a bdev
ends with the last one in flight. A seek of a bdev that comes back to a stopping job stays in
`outstanding` for good; and if a seek finds no more data while other ios wait in the queue,
nobody starts the next one.
-/

set_option autoImplicit false

namespace BdevUbi.Dd
open BdevUbi.Library

section
variable {c : DdSetup} {o : Outcomes} {id n : Nat} {s s' : DdJob}

/-- Every io gives up when it comes back to a stopping job. -/
theorem ddAdvance_stopped (stopping : s.Stopping) (o : Outcomes) (type : DdSubmitType) (id : Nat) :
    ∃ io, Stopped (s.complete.setIo id io) (ddAdvance c o type id s) := by
  have still : s.complete.Stopping := (complete_frame s).2.2.2.mpr stopping
  have same : s.complete.setIo id (s.complete.ios id) = s.complete := by
    unfold DdJob.setIo
    rw [Function.update_eq_self]
  cases type with
  | populate =>
    refine ⟨s.complete.ios id, ?_⟩
    rw [same]
    cases ddTargetRead_cases c o id s.complete with
    | stopped _ stopped => exact stopped
    | asked running => exact absurd still running
  | read =>
    refine ⟨s.complete.ios id, ?_⟩
    rw [same]
    cases ddTargetWrite_cases c o id s.complete with
    | stopped _ stopped => exact stopped
    | asked running => exact absurd still running
  | write =>
    have sought := ddTargetSeek_cases c o id s.complete
    have written : ddAdvance c o .write id s = ddTargetSeek c o id s.complete := rfl
    rw [written]
    generalize ddTargetSeek c o id s.complete = s' at sought ⊢
    cases sought with
    | plain =>
      refine ⟨s.complete.claim c id, ?_⟩
      cases ddTargetPopulateBuffer_cases c o id s.complete with
      | stopped _ stopped => exact stopped
      | whole _ running => exact absurd still running
      | part _ running => exact absurd still running
    | stopped _ _ stopped =>
      refine ⟨s.complete.ios id, ?_⟩
      rw [same]
      exact stopped
    | file _ running => exact absurd still running
    | asked _ running => exact absurd still running
    | queued _ running => exact absurd still running

theorem ddPerform_frame {res : Int} {request : DdRequest} (performed : ddPerform c s id res request = some s') :
    s'.error = s.error ∧ s'.interrupt = s.interrupt ∧ s'.inputPos = s.inputPos := by
  cases request with
  | transfer type length start =>
    simp only [ddPerform] at performed
    split at performed
    · cases performed
      cases type <;> exact ⟨rfl, rfl, rfl⟩
    · cases performed
  | seekData start =>
    cases performed
    exact ⟨rfl, rfl, rfl⟩
  | seekHole start =>
    cases performed
    exact ⟨rfl, rfl, rfl⟩

/-! ## Nothing new -/

/-- A request that nobody has carried out yet, or ever will. -/
def Flight.unserved : Flight → Bool
  | .submitted _ | .lost => true
  | _ => false

theorem ddPerform_serves {res : Int} {request : DdRequest} (performed : ddPerform c s id res request = some s') :
    ∃ flight, flight.unserved = false ∧ s'.flight = Function.update s.flight id (some flight) := by
  cases request with
  | transfer type length start =>
    simp only [ddPerform] at performed
    split at performed
    · cases performed
      refine ⟨.transferred type res, rfl, ?_⟩
      cases type <;> rfl
    · cases performed
  | seekData start =>
    cases performed
    exact ⟨_, rfl, rfl⟩
  | seekHole start =>
    cases performed
    exact ⟨_, rfl, rfl⟩

/-- What a stopping job does not do. -/
structure Settled (s s' : DdJob) : Prop where
  stopping : s'.Stopping
  pos : s'.inputPos = s.inputPos
  idle : ∀ id, s.flight id = none → s'.flight id = none
  asks : ∀ id flight, flight.unserved = true → s'.flight id = some flight → s.flight id = some flight

/-- What is in flight then was in flight before. -/
theorem Settled.of_kept (stopping : s'.Stopping) (pos : s'.inputPos = s.inputPos)
    (kept : ∀ id flight, s'.flight id = some flight → s.flight id = some flight) : Settled s s' := by
  refine ⟨stopping, pos, ?_, fun id flight _ held => kept id flight held⟩
  intro id idle
  cases held : s'.flight id with
  | none => rfl
  | some flight =>
    have before := kept id flight held
    rw [idle] at before
    cases before

theorem Stopped.settled {t : DdJob} (stopped : Stopped t s') (stopping : t.Stopping) (pos : t.inputPos = s.inputPos)
    (kept : ∀ id flight, t.flight id = some flight → s.flight id = some flight) : Settled s s' := by
  obtain ⟨_, flights, _, same, _, stops⟩ := stopped.frame
  refine .of_kept (stops stopping) (same.trans pos) ?_
  rw [flights]
  exact kept

theorem settled_step (s : DdJob) (event : DdEvent) (s' : DdJob) (stopping : s.Stopping) (stepped : ddStep c s event = some s') :
    Settled s s' := by
  cases ddStep_cases stepped with
  | @performed id res request _ held performed =>
    have kept := ddPerform_frame performed
    obtain ⟨flight, served, flights⟩ := ddPerform_serves performed
    refine ⟨?_, kept.2.2, ?_, ?_⟩
    · unfold DdJob.Stopping
      rw [kept.1, kept.2.1]
      exact stopping
    · intro other idle
      have different : other ≠ id := by
        rintro rfl
        rw [idle] at held
        cases held
      rw [flights, Function.update_of_ne different]
      exact idle
    · intro other flight' asks held'
      rw [flights] at held'
      rcases held_update held' with old | ⟨_, new⟩
      · exact old
      · cases new
        rw [served] at asks
        cases asks
  | again => exact .of_kept stopping rfl fun _ _ held => held
  | @advanced id o type res held =>
    have stops : (({ s with error := c.errorAfter s id type res } : DdJob).setFlight id none).Stopping :=
      stopping.imp_left (errorAfter_ne c s id type res)
    obtain ⟨io, stopped⟩ := ddAdvance_stopped (c := c) stops o (c.typeOf s id type) id
    obtain ⟨_, flight, pos, still⟩ := complete_frame (({ s with error := c.errorAfter s id type res } : DdJob).setFlight id none)
    refine stopped.settled (still.mpr stops) pos ?_
    intro other flight' held'
    exact held_setFlight id other ((congrFun flight other).symm.trans held')
  | @soughtData id _ _ _ held sought =>
    cases sought with
    | stopping _ stopped => exact stopped.settled stopping rfl fun other _ held' => held_setFlight id other held'
    | noData running => exact absurd stopping running
    | found running => exact absurd stopping running
  | @soughtHole id _ _ _ held sought =>
    cases sought with
    | stopping _ stopped => exact stopped.settled stopping rfl fun other _ held' => held_setFlight id other held'
    | last running => exact absurd stopping running
    | turn running => exact absurd stopping running
  | pollFailed _ failed => exact .of_kept (Or.inl (Int.ne_of_lt failed)) rfl fun _ _ held => held
  | pollEnded => exact .of_kept stopping rfl fun _ _ held => held
  | status => exact .of_kept stopping rfl fun _ _ held => held
  | interrupted => exact .of_kept (Or.inr rfl) rfl fun _ _ held => held

end

/-- After an error or an interrupt no step puts a request in flight, and no input is taken, in any run. -/
theorem stopping_starts_nothing (c : DdSetup) (s : DdJob) (stopping : s.Stopping) (events : List DdEvent) :
    Always (ddStep c)
      (fun t => t.Stopping ∧ t.inputPos = s.inputPos ∧ (∀ id, s.flight id = none → t.flight id = none) ∧
        ∀ event t', ddStep c t event = some t' →
          ∀ id flight, flight.unserved = true → t'.flight id = some flight → t.flight id = some flight) s events := by
  have start : s.Stopping ∧ s.inputPos = s.inputPos ∧ ∀ id, s.flight id = none → s.flight id = none :=
    ⟨stopping, rfl, fun _ idle => idle⟩
  have preserved (t : DdJob) (event : DdEvent) (t' : DdJob)
      (settled : t.Stopping ∧ t.inputPos = s.inputPos ∧ ∀ id, s.flight id = none → t.flight id = none)
      (stepped : ddStep c t event = some t') :
      t'.Stopping ∧ t'.inputPos = s.inputPos ∧ ∀ id, s.flight id = none → t'.flight id = none := by
    have next := settled_step t event t' settled.1 stepped
    exact ⟨next.stopping, next.pos.trans settled.2.1, fun id idle => next.idle id (settled.2.2 id idle)⟩
  refine (always_of_invariant preserved start events).mono ?_
  rintro t ⟨stops, pos, idle⟩
  exact ⟨stops, pos, idle, fun event t' stepped => (settled_step t event t' stops stepped).asks⟩

theorem interrupted_sixBytes_starts_nothing :
    Always (ddStep sixBytes)
      (fun t => t.Stopping ∧ t.inputPos = 6 ∧ (∀ id, sixBytesRunning.flight id = none → t.flight id = none) ∧
        ∀ event t', ddStep sixBytes t event = some t' →
          ∀ id flight, flight.unserved = true → t'.flight id = some flight → t.flight id = some flight)
      { sixBytesRunning with interrupt := true } sixBytesEvents :=
  stopping_starts_nothing sixBytes { sixBytesRunning with interrupt := true } (Or.inr rfl) sixBytesEvents

/-! ## Seeks that come back too late -/

section
variable {c : DdSetup} {o : Outcomes} {id n : Nat} {s s' : DdJob}

/-- A stopping job in which a seek is over, and still counted. -/
structure DdJob.Kept (n last : Nat) (s : DdJob) : Prop where
  stopping : s.Stopping
  landed : s.Landed n
  exits : s.exits = last

theorem Stopped.waiting (stopped : Stopped s s') (some : 0 < s.outstanding) : s' = s := by
  cases stopped with
  | waits => rfl
  | ended none => exact absurd none (Nat.ne_of_gt some)
  | shown none => exact absurd none (Nat.ne_of_gt some)

/-- Another request is over: the one that was kept still is. -/
theorem DdJob.Landed.land (landed : s.Landed n) {flight : Flight} (held : s.flight id = some flight) (error : Int) :
    (({ s with error := error } : DdJob).setFlight id none).complete.Landed n ∧
      0 < (({ s with error := error } : DdJob).setFlight id none).complete.outstanding := by
  have inside : id < n := landed.inside id (by rw [held]; exact Option.some_ne_none _)
  have released := busy_release inside held
  have counted := landed.counted
  have completed := (landed.covered.land held error).complete
  have positive : 0 < (({ s with error := error } : DdJob).setFlight id none).outstanding := by
    simp only [DdJob.setFlight]
    omega
  obtain ⟨_, outstanding, flights⟩ := exits_complete positive
  simp only [DdJob.setFlight] at outstanding flights
  refine ⟨⟨?_, completed.inside, completed.queue, completed.asserted⟩, ?_⟩
  · simp only [DdJob.setFlight, flights, outstanding]
    omega
  · simp only [DdJob.setFlight, outstanding]
    omega

theorem kept_step {last : Nat} (s : DdJob) (event : DdEvent) (s' : DdJob) (kept : s.Kept n last) (polls : AioPolls c event)
    (stepped : ddStep c s event = some s') : s'.Kept n last := by
  have stopping := (settled_step s event s' kept.stopping stepped).stopping
  have some : 0 < s.outstanding := Nat.lt_of_lt_of_le (Nat.succ_pos _) kept.landed.counted
  have covered := covered_step s event s' kept.landed.covered stepped
  -- the io gives up and leaves the count as it is
  have sought {id : Nat} {flight : Flight} (held : s.flight id = Option.some flight) {t : DdJob}
      (stopped : Stopped (s.setFlight id none).dequeue t) : t.Kept n last := by
    have same := stopped.waiting some
    have landed := kept.landed.covered.land held s.error
    rw [same]
    exact ⟨kept.stopping, landed.dequeue, kept.exits⟩
  cases ddStep_cases stepped with
  | @performed id res request _ held performed =>
    obtain ⟨flight, flights, outstanding, queue, acts⟩ := ddPerform_flight performed
    have inside : id < n := kept.landed.inside id (by rw [held]; exact Option.some_ne_none _)
    refine ⟨stopping, ⟨?_, covered.inside, covered.queue, covered.asserted⟩, ?_⟩
    · rw [flights, outstanding, busy_replace inside held]
      exact kept.landed.counted
    · have exits : s'.exits = s.exits := congrArg (List.countP DdAct.isExit) acts
      exact exits.trans kept.exits
  | again => exact kept
  | @advanced id o type res held =>
    have stops : (({ s with error := c.errorAfter s id type res } : DdJob).setFlight id none).Stopping :=
      kept.stopping.imp_left (errorAfter_ne c s id type res)
    obtain ⟨io, stopped⟩ := ddAdvance_stopped (c := c) stops o (c.typeOf s id type) id
    obtain ⟨landed, positive⟩ := kept.landed.land held (c.errorAfter s id type res)
    have same := stopped.waiting positive
    rw [same] at stopping ⊢
    refine ⟨stopping, ⟨landed.counted, landed.inside, landed.queue, landed.asserted⟩, ?_⟩
    have before : 0 < (({ s with error := c.errorAfter s id type res } : DdJob).setFlight id none).outstanding := some
    exact (exits_complete before).1.trans kept.exits
  | soughtData held done =>
    cases done with
    | stopping _ stopped => exact sought held stopped
    | noData running => exact absurd kept.stopping running
    | found running => exact absurd kept.stopping running
  | soughtHole held done =>
    cases done with
    | stopping _ stopped => exact sought held stopped
    | last running => exact absurd kept.stopping running
    | turn running => exact absurd kept.stopping running
  | pollFailed =>
    exact ⟨stopping, ⟨kept.landed.counted, kept.landed.inside, kept.landed.queue, kept.landed.asserted⟩, kept.exits⟩
  | pollEnded aio =>
    have uring : c.uring = true := polls
    rw [aio] at uring
    cases uring
  | status =>
    refine ⟨stopping, ⟨kept.landed.counted, kept.landed.inside, kept.landed.queue, covered.asserted⟩, ?_⟩
    rw [exits_showProgress]
    exact kept.exits
  | interrupted =>
    exact ⟨stopping, ⟨kept.landed.counted, kept.landed.inside, kept.landed.queue, kept.landed.asserted⟩, kept.exits⟩

end

/-- If a seek of a bdev comes back after an error or an interrupt, more stays in `outstanding` than is
in flight, and `dd_exit` is never called after that, whatever happens. -/
theorem late_seek_never_ends (c : DdSetup) (o : Nat → Outcomes) (buf : Nat → Nat → UInt8) (output : Nat → UInt8) (size : Nat)
    (first : List DdEvent) (s : DdJob) (ran : run (ddStep c) (ddRunning c o buf output size) first = some s)
    (stopping : s.Stopping) (id : Nat) (next : Option Nat)
    (sought : s.flight id = some (.soughtData next) ∨ s.flight id = some (.soughtHole next)) (o' : Outcomes) (s' : DdJob)
    (stepped : ddStep c s (.complete id o') = some s') (rest : List DdEvent) (polls : ∀ event ∈ rest, AioPolls c event) :
    Always (ddStep c) (fun t => t.exits = s.exits ∧ busy c.queueDepth t.flight < t.outstanding) s' rest := by
  have start := covered_start (covered_fresh c c.queueDepth buf output size) c o c.queueDepth (Nat.le_refl _)
  have covered : s.Covered c.queueDepth := run_invariant covered_step start ran
  have kept : s'.Kept c.queueDepth s.exits := by
    have done {flight : Flight} (held : s.flight id = some flight) (stopped : Stopped (s.setFlight id none).dequeue s') :
        s'.Kept c.queueDepth s.exits := by
      have landed := (covered.land held s.error).dequeue
      have same := stopped.waiting (Nat.lt_of_lt_of_le (Nat.succ_pos _) landed.counted)
      rw [same]
      exact ⟨stopping, landed, rfl⟩
    cases ddStep_cases stepped with
    | again held => rcases sought with data | hole <;> simp_all
    | advanced held => rcases sought with data | hole <;> simp_all
    | soughtData held sought =>
      cases sought with
      | stopping _ stopped => exact done held stopped
      | noData running => exact absurd stopping running
      | found running => exact absurd stopping running
    | soughtHole held sought =>
      cases sought with
      | stopping _ stopped => exact done held stopped
      | last running => exact absurd stopping running
      | turn running => exact absurd stopping running
  have guarded : Guarded (ddStep c) (fun _ event => AioPolls c event) s' rest :=
    guarded_of_forall _ fun event member _ => polls event member
  exact (always_of_guarded kept_step kept guarded).mono fun t kept => ⟨kept.exits, kept.landed.counted⟩

/-- Four bytes of data, and then a hole. -/
def Source.holey : Source 4 where
  byte := fun i => if i < 4 then UInt8.ofNat (i + 1) else 0
  nextData := fun start => if start = 0 then some 0 else none
  nextHole := fun start => some (max 1 start)
  after := by
    intro start next found
    split at found
    · cases found
      omega
    · cases found
  hole := by
    intro start next found i first last
    split at found
    · cases found
      omega
    · cases found
  rest := by
    intro start none i first
    split at none
    · cases none
    · rw [if_neg (by omega)]
  data := by
    intro start next found behind hole
    cases hole
    split at found
    · cases found
      exact Nat.lt_of_lt_of_le Nat.one_pos (Nat.le_max_left _ _)
    · cases found

/-- A sparse copy from bdev to bdev, with three ios. -/
def holeyCopy : DdSetup where
  input := ⟨.bdev, 4, 16⟩
  output := ⟨.bdev, 4, 16⟩
  inputOffset := 0
  outputOffset := 0
  ioUnitSize := 4
  copySize := 16
  queueDepth := 3
  uring := true
  aioContext := true
  sparse := true
  source := .holey
  shared := false
  append := false

def holeyRunning : DdJob := ddRunning holeyCopy (fun _ => .fine) (fun _ _ => 0) (fun _ => 255) 16

theorem holeyCopy_late_seek_never_ends :
    ∃ s s', run (ddStep holeyCopy) holeyRunning [.perform 0 0, .finish] = some s ∧
      ddStep holeyCopy s (.complete 0 .fine) = some s' ∧
      ∀ rest, (∀ event ∈ rest, AioPolls holeyCopy event) →
        Always (ddStep holeyCopy) (fun t => t.exits = 0 ∧ busy 3 t.flight < t.outstanding) s' rest := by
  have facts : (run (ddStep holeyCopy) holeyRunning [.perform 0 0, .finish]).map (fun s =>
      (s.interrupt, s.flight 0, s.exits, (ddStep holeyCopy s (.complete 0 .fine)).isSome)) =
      some (true, some (.soughtData (some 0)), 0, true) := by decide +kernel
  obtain ⟨s, ran, same⟩ := Option.map_eq_some_iff.mp facts
  simp only [Prod.mk.injEq] at same
  obtain ⟨interrupt, sought, exits, possible⟩ := same
  obtain ⟨s', stepped⟩ := Option.isSome_iff_exists.mp possible
  refine ⟨s, s', ran, stepped, ?_⟩
  intro rest polls
  rw [← exits]
  exact late_seek_never_ends holeyCopy _ _ _ _ _ s ran (Or.inr interrupt) 0 (some 0) (Or.inl sought) .fine s' stepped rest polls

/-! ## A queue that nobody serves -/

section
variable {c : DdSetup} {o : Outcomes} {id : Nat} {s s' s'' : DdJob}

/-- Some io waits for its turn to seek, and no seek is in flight; those of `front` wait before the others. -/
structure DdJob.Abandoned (front : List Nat) (pos last : Nat) (s : DdJob) : Prop where
  noSeek : s.NoSeek
  waiting : s.seekQueue ≠ []
  front : front <+: s.seekQueue
  pos : s.inputPos = pos
  exits : s.exits = last

theorem DdJob.Abandoned.submitted {front : List Nat} {pos last : Nat} (abandoned : s'.Abandoned front pos last) {request : DdRequest}
    (moves : request.moves = true) (submitted : Submitted s s' id request s'') : s''.Stopping ∨ s''.Abandoned front pos last := by
  have here := submitted.local moves
  obtain ⟨_, _, same, _⟩ := submitted.frame
  have exits : s''.Stopping ∨ s''.exits = s'.exits := by
    cases submitted with
    | taken => exact Or.inr rfl
    | lost => exact Or.inr rfl
    | refused failed => exact Or.inl (Or.inl failed)
    | ended failed => exact Or.inl (Or.inl failed)
  refine exits.imp_right ?_
  intro exits
  refine ⟨?_, here.queue ▸ abandoned.waiting, here.queue ▸ abandoned.front, same.trans abandoned.pos, exits.trans abandoned.exits⟩
  intro other flight held
  by_cases own : other = id
  · rw [own] at held
    rcases here.own flight held with old | moves
    · exact abandoned.noSeek id flight old
    · exact moves
  · rw [here.others other own] at held
    exact abandoned.noSeek other flight held

/-- An io that has written its part joins the queue. -/
theorem DdJob.Abandoned.sought {front : List Nat} {pos last : Nat} (abandoned : s.Abandoned front pos last) (indirect : ¬ c.Direct)
    (remaining : sub64 c.copySize (sub64 pos c.readRegionStart) ≠ 0) (sought : Sought c o id s s') :
    s'.Stopping ∨ s'.Abandoned front pos last := by
  obtain ⟨sparse, bdev⟩ := DdSetup.bdev_of_not_direct indirect
  cases sought with
  | plain plain =>
    rw [sparse] at plain
    cases plain
  | stopped _ finished stopped =>
    rw [abandoned.pos] at finished
    exact Or.inl (stopped.frame.2.2.2.2.2 (finished.resolve_left remaining))
  | file _ _ _ file =>
    rw [bdev] at file
    cases file
  | asked _ _ _ _ free => exact absurd free abandoned.waiting
  | queued =>
    right
    exact ⟨abandoned.noSeek, List.append_ne_nil_of_right_ne_nil _ (List.cons_ne_nil _ _),
      abandoned.front.trans (List.prefix_append _ _), abandoned.pos, abandoned.exits⟩

theorem DdJob.Abandoned.advance {front : List Nat} {pos last : Nat} (abandoned : s.Abandoned front pos last) (some : 0 < s.outstanding) (indirect : ¬ c.Direct)
    (remaining : sub64 c.copySize (sub64 pos c.readRegionStart) ≠ 0) (o : Outcomes) (type : DdSubmitType) (id : Nat) :
    (ddAdvance c o type id s).Stopping ∨ (ddAdvance c o type id s).Abandoned front pos last := by
  have completed : s.complete.Abandoned front pos last := by
    unfold DdJob.complete
    rw [if_pos some]
    exact ⟨abandoned.noSeek, abandoned.waiting, abandoned.front, abandoned.pos, abandoned.exits⟩
  cases type with
  | populate =>
    cases ddTargetRead_cases c o id s.complete with
    | stopped stopping stopped => exact Or.inl (stopped.frame.2.2.2.2.2 stopping)
    | asked _ submitted =>
      have counted : (s.complete.requested id (s.complete.ios id) .read).Abandoned front pos last :=
        ⟨completed.noSeek, completed.waiting, completed.front, completed.pos, completed.exits⟩
      exact counted.submitted rfl submitted
  | read =>
    cases ddTargetWrite_cases c o id s.complete with
    | stopped stopping stopped => exact Or.inl (stopped.frame.2.2.2.2.2 stopping)
    | asked _ submitted =>
      have counted : (s.complete.writing id).Abandoned front pos last :=
        ⟨completed.noSeek, completed.waiting, completed.front, completed.pos, completed.exits⟩
      exact counted.submitted rfl submitted
  | write => exact completed.sought indirect remaining (ddTargetSeek_cases c o id s.complete)

/-- The queue stays as it is as long as no error and no interrupt stops the job. -/
theorem DdJob.Abandoned.step {n pos last : Nat} {front : List Nat} (indirect : ¬ c.Direct)
    (remaining : sub64 c.copySize (sub64 pos c.readRegionStart) ≠ 0) {event : DdEvent} (covered : s.Covered n)
    (abandoned : s.Abandoned front pos last) (polls : AioPolls c event) (stepped : ddStep c s event = some s') :
    s'.Stopping ∨ s'.Abandoned front pos last := by
  cases ddStep_cases stepped with
  | @performed id res request _ held performed =>
    obtain ⟨_, _, _, queue, acts⟩ := ddPerform_flight performed
    obtain ⟨_, flight, same, flights⟩ := ddPerform_moves performed
    have moves : flight.moves = true := same.trans (abandoned.noSeek id _ held)
    refine Or.inr ⟨?_, queue ▸ abandoned.waiting, queue ▸ abandoned.front, (ddPerform_frame performed).2.2.trans abandoned.pos, ?_⟩
    · intro other flight' held'
      rw [flights] at held'
      rcases held_update held' with old | ⟨_, new⟩
      · exact abandoned.noSeek other flight' old
      · cases new
        exact moves
    · have exits : s'.exits = s.exits := congrArg (List.countP DdAct.isExit) acts
      exact exits.trans abandoned.exits
  | again => exact Or.inr abandoned
  | @advanced id o type res held =>
    have landed := covered.land held (c.errorAfter s id type res)
    have here : (({ s with error := c.errorAfter s id type res } : DdJob).setFlight id none).Abandoned front pos last :=
      ⟨fun other flight held' => abandoned.noSeek other flight (held_setFlight id other held'), abandoned.waiting, abandoned.front,
        abandoned.pos, abandoned.exits⟩
    exact here.advance (Nat.lt_of_lt_of_le (Nat.succ_pos _) landed.counted) indirect remaining o _ id
  | soughtData held => cases abandoned.noSeek _ _ held
  | soughtHole held => cases abandoned.noSeek _ _ held
  | pollFailed _ failed => exact Or.inl (Or.inl (Int.ne_of_lt failed))
  | pollEnded aio =>
    have uring : c.uring = true := polls
    rw [aio] at uring
    cases uring
  | status =>
    refine Or.inr ⟨abandoned.noSeek, abandoned.waiting, abandoned.front, abandoned.pos, ?_⟩
    rw [exits_showProgress]
    exact abandoned.exits
  | interrupted => exact Or.inl (Or.inr rfl)

theorem Sought.others (sought : Sought c o id s s') {other : Nat} (different : other ≠ id) : s'.flight other = s.flight other := by
  cases sought with
  | plain => exact (ddTargetPopulateBuffer_cases c o id s).local.others other different
  | stopped _ _ stopped => exact (stopped.local id).others other different
  | file _ _ _ _ sought => exact sought.local.others other different
  | asked _ _ _ _ _ submitted =>
    obtain ⟨_, _, _, _, others, _⟩ := submitted.frame
    exact others other different
  | queued => rfl

/-- A transfer that is over is its own io's business. -/
theorem ddAdvance_others (c : DdSetup) (o : Outcomes) (type : DdSubmitType) (s : DdJob) {other : Nat} (different : other ≠ id) :
    (ddAdvance c o type id s).flight other = s.flight other := by
  rw [← (complete_frame s).2.1]
  cases type with
  | populate => exact (ddTargetRead_cases c o id s.complete).local.others other different
  | read => exact (ddTargetWrite_cases c o id s.complete).local.others other different
  | write => exact (ddTargetSeek_cases c o id s.complete).others different

/-- Without a seek nobody starts an io that has no request. -/
theorem idle_step (noSeek : s.NoSeek) {event : DdEvent} (stepped : ddStep c s event = some s') {other : Nat}
    (idle : s.flight other = none) : s'.flight other = none := by
  have apart {id : Nat} {flight : Flight} (held : s.flight id = some flight) : other ≠ id := by
    rintro rfl
    rw [idle] at held
    cases held
  cases ddStep_cases stepped with
  | performed held performed =>
    obtain ⟨_, flight, _, flights⟩ := ddPerform_moves performed
    rw [flights, Function.update_of_ne (apart held)]
    exact idle
  | again => exact idle
  | advanced held =>
    rw [ddAdvance_others c _ _ _ (apart held)]
    exact (Function.update_of_ne (apart held) _ _).trans idle
  | soughtData held => cases noSeek _ _ held
  | soughtHole held => cases noSeek _ _ held
  | pollFailed => exact idle
  | pollEnded => exact idle
  | status => exact idle
  | interrupted => exact idle

/-- The ios of `front` wait for nobody. -/
structure DdJob.Forgets (n : Nat) (front : List Nat) (pos last : Nat) (s : DdJob) : Prop where
  covered : s.Covered n
  idle : ∀ id ∈ front, s.flight id = none
  stays : s.Stopping ∨ s.Abandoned front pos last

theorem forgets_step {n pos last : Nat} {front : List Nat} (indirect : ¬ c.Direct)
    (remaining : sub64 c.copySize (sub64 pos c.readRegionStart) ≠ 0) (s : DdJob) (event : DdEvent) (s' : DdJob)
    (forgets : s.Forgets n front pos last) (polls : AioPolls c event) (stepped : ddStep c s event = some s') :
    s'.Forgets n front pos last := by
  have covered := covered_step s event s' forgets.covered stepped
  rcases forgets.stays with stopping | abandoned
  · have settled := settled_step s event s' stopping stepped
    exact ⟨covered, fun id member => settled.idle id (forgets.idle id member), Or.inl settled.stopping⟩
  · exact ⟨covered, fun id member => idle_step abandoned.noSeek stepped (forgets.idle id member),
      abandoned.step indirect remaining forgets.covered polls stepped⟩

end

/-- If a seek finds no more data before the end of the region, while another request is in flight
and another io waits in the queue, no io of the queue has a request ever again, and without an error
or an interrupt they stay there and the job does not end. -/
theorem abandoned_queue_never_ends (c : DdSetup) (o : Nat → Outcomes) (buf : Nat → Nat → UInt8) (output : Nat → UInt8) (size : Nat)
    (first : List DdEvent) (s : DdJob) (ran : run (ddStep c) (ddRunning c o buf output size) first = some s)
    (running : ¬ s.Stopping) (id : Nat) (sought : s.flight id = some (.soughtData none)) (other : 1 < s.outstanding)
    (waiting : 1 < s.seekQueue.length) (remaining : sub64 c.copySize (sub64 s.inputPos c.readRegionStart) ≠ 0) (o' : Outcomes)
    (s' : DdJob) (stepped : ddStep c s (.complete id o') = some s') (rest : List DdEvent)
    (polls : ∀ event ∈ rest, AioPolls c event) :
    Always (ddStep c)
      (fun t => (∀ waits ∈ s'.seekQueue, t.flight waits = none) ∧ (t.Stopping ∨ s'.seekQueue <+: t.seekQueue ∧ t.exits = s.exits))
      s' rest := by
  have covered : s.Covered c.queueDepth := run_invariant covered_step
    (covered_start (covered_fresh c c.queueDepth buf output size) c o c.queueDepth (Nat.le_refl _)) ran
  have lined : s.Lined c := run_invariant lined_step (lined_start c o buf output size c.queueDepth) ran
  have indirect := (lined.seeking id _ sought rfl).1
  have start : s'.Abandoned s'.seekQueue s.inputPos s.exits := by
    cases ddStep_cases stepped with
    | again held =>
      rw [sought] at held
      cases held
    | advanced held =>
      rw [sought] at held
      cases held
    | soughtHole held =>
      rw [sought] at held
      cases held
    | soughtData held done =>
      rw [sought] at held
      cases held
      cases done with
      | stopping stopping => exact absurd stopping running
      | noData =>
        have positive : 0 < (s.setFlight id none).outstanding := Nat.lt_of_succ_lt other
        obtain ⟨exits, outstanding, flights⟩ := exits_complete positive
        have more : 0 < (s.setFlight id none).complete.outstanding := by
          rw [outstanding]
          exact Nat.sub_pos_of_lt other
        have waits : ddFinalizeOutput c o' { (s.setFlight id none).complete with seekQueue := (s.setFlight id none).seekQueue.tail } =
            { (s.setFlight id none).complete with seekQueue := (s.setFlight id none).seekQueue.tail } := if_pos more
        rw [waits]
        refine ⟨(lined.noSeek sought rfl).complete, ?_, List.prefix_refl _, (complete_frame _).2.2.1, exits⟩
        intro empty
        have short := congrArg List.length empty
        simp only [DdJob.setFlight, List.length_tail, List.length_nil] at short
        omega
  have guarded : Guarded (ddStep c) (fun _ event => AioPolls c event) s' rest :=
    guarded_of_forall _ fun event member _ => polls event member
  have idle (waits : Nat) (member : waits ∈ s'.seekQueue) : s'.flight waits = none := by
    cases held : s'.flight waits with
    | none => rfl
    | some flight =>
      have seeks := (lined_step s _ s' lined stepped).waiting waits member flight held
      rw [start.noSeek waits flight held] at seeks
      cases seeks
  have forgets : s'.Forgets c.queueDepth s'.seekQueue s.inputPos s.exits :=
    ⟨covered_step s _ s' covered stepped, idle, Or.inr start⟩
  refine (always_of_guarded (forgets_step indirect remaining) forgets guarded).mono ?_
  intro t forgets
  exact ⟨forgets.idle, forgets.stays.imp_right fun abandoned => ⟨abandoned.front, abandoned.exits⟩⟩

/-- The first io reads its part, the second finds no data, and the third waits. -/
def abandonedEvents : List DdEvent := [.perform 0 0, .complete 0 .fine, .perform 0 0, .complete 0 .fine, .perform 1 0]

theorem holeyCopy_abandoned_queue_never_ends :
    ∃ s s', run (ddStep holeyCopy) holeyRunning abandonedEvents = some s ∧ ddStep holeyCopy s (.complete 1 .fine) = some s' ∧
      ∀ rest, (∀ event ∈ rest, AioPolls holeyCopy event) →
        Always (ddStep holeyCopy) (fun t => t.flight 2 = none ∧ (t.Stopping ∨ [2] <+: t.seekQueue ∧ t.exits = 0)) s' rest := by
  have facts : (run (ddStep holeyCopy) holeyRunning abandonedEvents).map (fun s =>
      (s.error, s.interrupt, s.flight 1, s.outstanding)) = some (0, false, some (.soughtData none), 2) := by decide +kernel
  have more : (run (ddStep holeyCopy) holeyRunning abandonedEvents).map (fun s =>
      (s.seekQueue, s.inputPos, s.exits, (ddStep holeyCopy s (.complete 1 .fine)).map DdJob.seekQueue)) =
      some ([1, 2], 4, 0, some [2]) := by decide +kernel
  obtain ⟨s, ran, same⟩ := Option.map_eq_some_iff.mp facts
  rw [ran] at more
  simp only [Option.map_some, Option.some.injEq, Prod.mk.injEq] at same more
  obtain ⟨error, interrupt, sought, outstanding⟩ := same
  obtain ⟨queue, pos, exits, possible⟩ := more
  obtain ⟨s', stepped, left⟩ := Option.map_eq_some_iff.mp possible
  have running : ¬ s.Stopping := by
    unfold DdJob.Stopping
    rw [error, interrupt]
    decide
  refine ⟨s, s', ran, stepped, ?_⟩
  intro rest polls
  have stuck := abandoned_queue_never_ends holeyCopy _ _ _ _ _ s ran running 1 sought (by omega) (by rw [queue]; decide)
    (by rw [pos]; decide) .fine s' stepped rest polls
  rw [left, exits] at stuck
  exact stuck.mono fun t waits => ⟨waits.1 2 (List.mem_singleton.mpr rfl), waits.2⟩

end BdevUbi.Dd
