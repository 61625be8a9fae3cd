import BdevUbi.Dd.Work

/-! A copy can always be brought to its end.

If the calls succeed from some point on and the requests are carried out, every request is
taken and every result counts, and the job works until it ends.
-/

set_option autoImplicit false

namespace BdevUbi.Dd
open BdevUbi.Library

/-- No request was lost, and none waits for EAGAIN to go away. -/
def DdJob.Lossless (s : DdJob) : Prop :=
  ∀ id flight, s.flight id = some flight → flight ≠ .lost ∧ ∀ type, flight ≠ .transferred type (-eagain)

/-- The requests that are new were taken. -/
def Takes (s s' : DdJob) : Prop :=
  ∀ id flight, s'.flight id = some flight → s.flight id = some flight ∨ ∃ request, flight = .submitted request

section
variable {c : DdSetup} {id : Nat} {s s' s'' : DdJob}

theorem DdJob.Lossless.takes (kept : s.Lossless) (takes : Takes s s') : s'.Lossless := by
  intro id flight held
  rcases takes id flight held with old | ⟨request, rfl⟩
  · exact kept id flight old
  · constructor
    · intro lost
      cases lost
    · intro type done
      cases done

theorem Takes.of_same (takes : Takes s' s'') (flight : s'.flight = s.flight) : Takes s s'' := by
  unfold Takes
  rw [← flight]
  exact takes

theorem takes_of_flight (flight : s'.flight = s.flight) : Takes s s' := by
  intro id other held
  rw [flight] at held
  exact Or.inl held

theorem ddSubmit_takes (carrier : Carrier) (id : Nat) (request : DdRequest) (s : DdJob) :
    Takes s (ddSubmit carrier id request .accepted s) := by
  have started : (ddSubmit carrier id request .accepted s).flight = Function.update s.flight id (some (.submitted request)) := by
    cases carrier <;> rfl
  intro other flight held
  rw [started] at held
  rcases held_update held with old | ⟨_, new⟩
  · exact Or.inl old
  · cases new
    exact Or.inr ⟨request, rfl⟩

/-! ## The functions, when their calls succeed -/

theorem ddStop_takes (s : DdJob) : Takes s (ddStop s) := takes_of_flight (ddStop_cases s).frame.2.1

theorem ddTargetRead_takes (c : DdSetup) (id : Nat) (s : DdJob) : Takes s (ddTargetRead c .fine id s) := by
  unfold ddTargetRead
  simp only
  split
  · split
    · exact takes_of_flight rfl
    · exact takes_of_flight rfl
  · exact (ddSubmit_takes _ id _ _).of_same rfl

theorem ddTargetWrite_takes (c : DdSetup) (id : Nat) (s : DdJob) : Takes s (ddTargetWrite c .fine id s) := by
  unfold ddTargetWrite
  simp only
  split
  · exact ddStop_takes s
  · exact (ddSubmit_takes _ id _ _).of_same rfl

theorem ddTargetPopulateBuffer_takes (c : DdSetup) (id : Nat) (s : DdJob) : Takes s (ddTargetPopulateBuffer c .fine id s) := by
  rw [ddTargetPopulateBuffer_eq]
  simp only
  split
  · exact (ddStop_takes _).of_same rfl
  · split
    · exact (ddTargetRead_takes c id _).of_same rfl
    · exact (ddSubmit_takes _ id _ _).of_same rfl

theorem ddTargetSeek_takes (direct : c.Direct) (id : Nat) (s : DdJob) : Takes s (ddTargetSeek c .fine id s) := by
  have sought := ddTargetSeek_cases c .fine id s
  generalize ddTargetSeek c .fine id s = s' at sought ⊢
  cases sought with
  | plain => exact ddTargetPopulateBuffer_takes c id s
  | stopped _ _ stopped => exact takes_of_flight stopped.frame.2.1
  | file _ _ _ _ sought =>
    cases sought with
    | waits => exact takes_of_flight rfl
    | ended => exact takes_of_flight rfl
    | noData => exact takes_of_flight (ddFinalizeOutput_cases c .fine s).frame.2
    | found => exact (ddTargetPopulateBuffer_takes c id _).of_same rfl
  | asked sparse _ _ bdev =>
    rw [direct sparse] at bdev
    cases bdev
  | queued sparse _ _ bdev =>
    rw [direct sparse] at bdev
    cases bdev

theorem ddAdvance_takes (direct : c.Direct) (type : DdSubmitType) (id : Nat) (s : DdJob) : Takes s (ddAdvance c .fine type id s) := by
  have flight := (complete_frame s).2.1
  cases type with
  | populate => exact (ddTargetRead_takes c id s.complete).of_same flight
  | read => exact (ddTargetWrite_takes c id s.complete).of_same flight
  | write => exact (ddTargetSeek_takes direct id s.complete).of_same flight

/-! ## The next event -/

/-- A request is carried out as a whole, and its completion is seen. -/
def Flight.next (id : Nat) : Flight → DdEvent
  | .submitted (.transfer _ length _) => .perform id length
  | _ => .complete id .fine

/-- The next event can happen, and it works. -/
theorem next_works (kept : s.Lossless) (running : s.exits = 0) {flight : Flight} (held : s.flight id = some flight)
    (moves : flight.moves = true) : ∃ s', ddStep c s (flight.next id) = some s' ∧ works s (flight.next id) = true := by
  cases flight with
  | lost => exact absurd rfl (kept id _ held).1
  | soughtData => cases moves
  | soughtHole => cases moves
  | submitted request =>
    cases request with
    | seekData => cases moves
    | seekHole => cases moves
    | transfer type length start =>
      refine ⟨(s.move c id type (length : Int).toNat start).setFlight id (some (.transferred type length)), ?_, rfl⟩
      simp only [Flight.next, ddStep, held, ddPerform]
      exact if_pos (Int.le_refl _)
  | transferred type res =>
    have done : res ≠ -eagain := by
      rintro rfl
      exact (kept id _ held).2 type rfl
    have finished : works s (.complete id .fine) = true := by simp only [works, held, ne_eq, done, not_false_eq_true, decide_true]
    have possible : ∃ s', ddStep c s (.complete id .fine) = some s' := by
      simp only [ddStep, held, Option.bind_some, ddComplete, running, Nat.lt_irrefl, ↓reduceIte]
      cases (c.targetOf type).type with
      | file => exact ⟨_, rfl⟩
      | bdev => exact ⟨_, rfl⟩
    obtain ⟨s', stepped⟩ := possible
    exact ⟨s', stepped, finished⟩

/-- What the next event of a request does. -/
inductive Proceeds (c : DdSetup) (id : Nat) (s : DdJob) : DdJob → Prop where
  | performed {type : DdSubmitType} {length start : Nat} {s' : DdJob} : s.flight id = some (.submitted (.transfer type length start)) →
      ddPerform c s id length (.transfer type length start) = some s' → Proceeds c id s s'
  | advanced {type : DdSubmitType} {res : Int} : s.flight id = some (.transferred type res) →
      Proceeds c id s (ddAdvance c .fine (c.typeOf s id type) id
        (({ s with error := c.errorAfter s id type res } : DdJob).setFlight id none))

theorem next_proceeds (kept : s.Lossless) {flight : Flight} (held : s.flight id = some flight) (moves : flight.moves = true)
    (stepped : ddStep c s (flight.next id) = some s') : Proceeds c id s s' := by
  cases flight with
  | lost => exact absurd rfl (kept id _ held).1
  | soughtData => cases moves
  | soughtHole => cases moves
  | submitted request =>
    cases request with
    | seekData => cases moves
    | seekHole => cases moves
    | transfer type length start =>
      simp only [Flight.next, ddStep, held] at stepped
      exact .performed held stepped
  | transferred type res =>
    simp only [Flight.next] at stepped
    cases ddStep_cases stepped with
    | again held' =>
      rw [held] at held'
      cases held'
      exact absurd rfl ((kept id _ held).2 type)
    | advanced held' => exact .advanced held'
    | soughtData held' =>
      rw [held] at held'
      cases held'
    | soughtHole held' =>
      rw [held] at held'
      cases held'

theorem Proceeds.kept (proceeds : Proceeds c id s s') (direct : c.Direct) (kept : s.Lossless) : s'.Lossless := by
  cases proceeds with
  | performed _ performed =>
    obtain ⟨_, flights, _⟩ := ddPerform_transfer performed
    intro other flight held
    rw [flights] at held
    rcases held_update held with old | ⟨_, new⟩
    · exact kept other flight old
    · cases new
      constructor
      · intro lost
        cases lost
      · intro type again
        have result := (Flight.transferred.inj again).2
        unfold eagain at result
        omega
  | @advanced type res =>
    have landed : (({ s with error := c.errorAfter s id type res } : DdJob).setFlight id none).Lossless := by
      intro other flight held
      exact kept other flight (held_setFlight id other held)
    exact landed.takes (ddAdvance_takes direct _ id _)

theorem next_polls (id : Nat) (flight : Flight) : AioPolls c (flight.next id) := by
  unfold Flight.next
  split <;> trivial

/-- What is known of a job that can be brought to its end. -/
structure DdJob.Ongoing (c : DdSetup) (before : Nat → UInt8) (last : Nat) (s : DdJob) : Prop where
  steady : s.Steady c before
  balanced : s.Balanced c.queueDepth last
  kept : s.Lossless

/-- An ongoing job has a next event with less to do behind it, or it has ended. -/
theorem DdJob.Ongoing.proceeds {before : Nat → UInt8} {last : Nat} (regular : c.Regular) (direct : c.Direct) (some : 0 < last)
    (ongoing : s.Ongoing c before last) :
    0 < s.exits ∨ ∃ id flight s', s.flight id = .some flight ∧ flight.moves = true ∧ ddStep c s (flight.next id) = .some s' ∧
      s'.Ongoing c before last ∧ s'.work c < s.work c := by
  rcases ongoing.balanced.held_or_ended some with ⟨id, flight, held, running⟩ | ended
  · right
    have moves := ongoing.balanced.exact.moving id flight held
    obtain ⟨s', stepped, busy⟩ := next_works (c := c) ongoing.kept running held moves
    have less := work_step regular s _ s' ongoing.steady stepped
    rw [busy] at less
    exact ⟨id, flight, s', held, moves, stepped, ⟨steady_step regular s _ s' ongoing.steady stepped,
      balanced_step direct s _ s' ongoing.balanced (next_polls id flight) stepped,
      (next_proceeds ongoing.kept held moves stepped).kept direct ongoing.kept⟩, less⟩
  · exact Or.inl ended

theorem DdJob.Ongoing.reaches {before : Nat → UInt8} {last : Nat} (regular : c.Regular) (direct : c.Direct) (some : 0 < last)
    (ongoing : s.Ongoing c before last) :
    ∃ more final, (∀ event ∈ more, AioPolls c event) ∧ run (ddStep c) s more = .some final ∧ 0 < final.exits := by
  have reached : ∃ more final, Guarded (ddStep c) (fun _ event => AioPolls c event) s more ∧
      run (ddStep c) s more = .some final ∧ 0 < final.exits := by
    refine reaches_of_measure (DdJob.Ongoing c before last) _ _ (DdJob.work c) ?_ ongoing
    intro s ongoing
    refine (ongoing.proceeds regular direct some).imp_right ?_
    rintro ⟨id, flight, s', _, _, stepped, later, less⟩
    exact ⟨flight.next id, s', next_polls id flight, stepped, later, less⟩
  obtain ⟨more, final, guarded, ran, ended⟩ := reached
  exact ⟨more, final, guarded.forall_mem ran, ran, ended⟩

end

/-- Whatever happened before, as long as no request was lost and none waits for EAGAIN to go away, a regular copy
without seeks of a bdev has a way on to `dd_exit`. -/
theorem exit_reachable (c : DdSetup) (regular : c.Regular) (direct : c.Direct) (unit : 0 < c.ioUnitSize) (depth : 0 < c.queueDepth)
    (o : Nat → Outcomes) (buf : Nat → Nat → UInt8) (output : Nat → UInt8) (size : Nat) (events : List DdEvent)
    (polls : ∀ event ∈ events, AioPolls c event) :
    Always (ddStep c) (fun s => s.Lossless → ∃ more final, run (ddStep c) s more = some final ∧ 0 < final.exits)
      (ddRunning c o buf output size) events := by
  have steady := always_of_invariant (steady_step regular) (steady_start regular o buf output size) events
  have balanced := balanced_always c direct unit o buf output size events polls
  refine (steady.and balanced).mono ?_
  intro s both kept
  have ongoing : s.Ongoing c output (if 0 < (ddRunning c o buf output size).outstanding then 1 else c.queueDepth) :=
    ⟨both.1, both.2, kept⟩
  obtain ⟨more, final, _, ran, ended⟩ := ongoing.reaches regular direct (last_pos c depth _)
  exact ⟨more, final, ran, ended⟩

theorem sixBytes_exit_reachable :
    Always (ddStep sixBytes) (fun s => s.Lossless → ∃ more final, run (ddStep sixBytes) s more = some final ∧ 0 < final.exits)
      sixBytesRunning sixBytesEvents :=
  exit_reachable sixBytes sixBytes_regular (fun sparse => by cases sparse) (by decide) (by decide) _ _ _ _ _ sixBytes_polls

end BdevUbi.Dd
