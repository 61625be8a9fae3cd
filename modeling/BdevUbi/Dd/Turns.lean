import BdevUbi.Dd.Copy

/-! What the functions of `spdk_dd` can do, one case after the other.

Each function ends in a few ways: a request is handed over, the io gives up, the io joins the
queue of the seeks. The invariants of the other modules go through these cases, and not
through the functions.
-/

set_option autoImplicit false

namespace BdevUbi.Dd
open BdevUbi.Library

/-! ## What can come of a request and of a stop -/

/-- A request is handed over behind `g_job.outstanding++`, and the io may have joined the queue. -/
structure Counted (id : Nat) (s s' : DdJob) : Prop where
  flight : s'.flight = s.flight
  outstanding : s'.outstanding = s.outstanding + 1
  queue : ∀ other ∈ s'.seekQueue, other ∈ s.seekQueue ∨ other = id
  acts : s'.acts = s.acts

/-- Another io's request, or the one that was just put there. -/
theorem held_update {flights : Nat → Option Flight} {id other : Nat} {now : Option Flight} {flight : Flight}
    (held : Function.update flights id now other = some flight) : flights other = some flight ∨ other = id ∧ now = some flight := by
  by_cases same : other = id
  · rw [same, Function.update_self] at held
    exact Or.inr ⟨same, held⟩
  · rw [Function.update_of_ne same] at held
    exact Or.inl held

/-- A request that is over leaves the others in flight. -/
theorem held_setFlight {s : DdJob} (id other : Nat) {flight : Flight} (held : (s.setFlight id none).flight other = some flight) :
    s.flight other = some flight := by
  rcases held_update held with old | ⟨_, new⟩
  · exact old
  · cases new

/-- A request that moves bytes. -/
def DdRequest.moves : DdRequest → Bool
  | .transfer _ _ _ => true
  | _ => false

/-- `s` is the job before the count went up, `s'` the one after. -/
inductive Submitted (s s' : DdJob) (id : Nat) (request : DdRequest) : DdJob → Prop where
  | taken : Submitted s s' id request (s'.setFlight id (some (.submitted request)))
  | lost : request.moves = true → Submitted s s' id request (s'.setFlight id (some .lost))
  | refused {rc : Int} : rc ≠ 0 → 0 < s.outstanding →
      Submitted s s' id request { s' with outstanding := s.outstanding, error := rc }
  | ended {rc : Int} : rc ≠ 0 → s.outstanding = 0 →
      Submitted s s' id request (ddExit rc { s' with outstanding := s.outstanding, error := rc })

theorem ddRefused_cases {id : Nat} {s s' : DdJob} (counted : Counted id s s') (request : DdRequest) {rc : Int} (failed : rc ≠ 0) :
    Submitted s s' id request (ddRefused rc s') := by
  have positive : 0 < s'.outstanding := by
    rw [counted.outstanding]
    exact Nat.succ_pos _
  have back : s'.outstanding - 1 = s.outstanding := by
    rw [counted.outstanding]
    exact Nat.add_sub_cancel _ _
  simp only [ddRefused, DdJob.complete, positive, ↓reduceIte, back]
  split
  · rename_i none
    exact .ended failed none
  · rename_i some
    exact .refused failed (Nat.pos_of_ne_zero some)

theorem ddSubmit_cases {id : Nat} {s s' : DdJob} (counted : Counted id s s') (carrier : Carrier) (request : DdRequest)
    (submission : Submission) (seeks : request.moves = false → carrier = .bdev) :
    Submitted s s' id request (ddSubmit carrier id request submission s') := by
  have moves (file : carrier ≠ .bdev) : request.moves = true := by
    by_contra seek
    exact file (seeks (Bool.of_not_eq_true seek))
  cases submission with
  | accepted => exact .taken
  | refused rc =>
    cases carrier with
    | uring => exact .lost (moves (by decide))
    | aio =>
      simp only [ddSubmit]
      split
      · exact .lost (moves (by decide))
      · rename_i failed
        exact ddRefused_cases counted request failed
    | bdev =>
      simp only [ddSubmit]
      split
      · exact .taken
      · rename_i failed
        exact ddRefused_cases counted request failed

inductive Stopped (s : DdJob) : DdJob → Prop where
  | waits : 0 < s.outstanding → Stopped s s
  | ended : s.outstanding = 0 → s.Stopping → Stopped s (ddExit s.error s)
  | shown : s.outstanding = 0 → s.error = 0 → Stopped s (ddExit 0 (ddShowProgress true s))

theorem ddStop_cases (s : DdJob) : Stopped s (ddStop s) := by
  unfold ddStop ddShowEnd
  split
  · rename_i none
    split
    · rename_i fine
      rw [fine]
      exact .shown none fine
    · rename_i failed
      exact .ended none (Or.inl failed)
  · rename_i some
    exact .waits (Nat.pos_of_ne_zero some)

section
variable {id : Nat} {s s' s'' : DdJob}

theorem mem_exit {rc : Int} (finished : .exit 0 ∈ (ddExit rc s).acts) : .exit 0 ∈ s.acts ∨ rc = 0 := by
  rcases List.mem_append.mp finished with old | new
  · exact Or.inl old
  · cases List.mem_singleton.mp new
    exact Or.inr rfl

theorem Stopped.frame (stopped : Stopped s s') :
    s'.ios = s.ios ∧ s'.flight = s.flight ∧ s'.output = s.output ∧ s'.inputPos = s.inputPos ∧ s'.seekQueue = s.seekQueue ∧
      (s.Stopping → s'.Stopping) := by
  cases stopped with
  | waits => exact ⟨rfl, rfl, rfl, rfl, rfl, fun stopping => stopping⟩
  | ended => exact ⟨rfl, rfl, rfl, rfl, rfl, fun stopping => stopping⟩
  | shown => exact ⟨rfl, rfl, rfl, rfl, rfl, fun stopping => stopping⟩

/-- A request changes its own place in the table at most, and may leave an error. -/
theorem Submitted.frame {request : DdRequest} (submitted : Submitted s s' id request s'') :
    s''.ios = s'.ios ∧ s''.output = s'.output ∧ s''.inputPos = s'.inputPos ∧ s''.seekQueue = s'.seekQueue ∧
      (∀ other, other ≠ id → s''.flight other = s'.flight other) ∧
      ((s''.flight id = some (.submitted request) ∧ s''.error = s'.error) ∨ (s''.flight id = some .lost ∧ request.moves = true) ∨
        s''.flight id = s'.flight id) ∧
      (s'.Stopping → s''.Stopping) := by
  cases submitted with
  | taken =>
    exact ⟨rfl, rfl, rfl, rfl, fun _ different => Function.update_of_ne different _ _, Or.inl ⟨Function.update_self .., rfl⟩,
      fun stopping => stopping⟩
  | lost moves =>
    exact ⟨rfl, rfl, rfl, rfl, fun _ different => Function.update_of_ne different _ _,
      Or.inr (Or.inl ⟨Function.update_self .., moves⟩), fun stopping => stopping⟩
  | refused failed => exact ⟨rfl, rfl, rfl, rfl, fun _ _ => rfl, Or.inr (Or.inr rfl), fun _ => Or.inl failed⟩
  | ended failed => exact ⟨rfl, rfl, rfl, rfl, fun _ _ => rfl, Or.inr (Or.inr rfl), fun _ => Or.inl failed⟩

end

/-! ## The part of the input that an io takes -/

section
variable (c : DdSetup) (o : Outcomes) (id : Nat) (s : DdJob)

/-- The io of `dd_target_populate_buffer`, with its part of the input. -/
def DdJob.claim : DdIo :=
  { s.ios id with
    offset := s.inputPos
    length := min (s.ios id).length (sub64 c.copySize (sub64 s.inputPos c.readRegionStart)) }

/-- The three ways through `dd_target_populate_buffer`. -/
theorem ddTargetPopulateBuffer_eq :
    ddTargetPopulateBuffer c o id s =
      let io := s.claim c id
      let claimed := { s.setIo id io with inputPos := u64 (s.inputPos + io.length) }
      if io.length = 0 ∨ s.Stopping then ddStop (s.setIo id io)
      else if io.length % c.output.blockSize = 0 then ddTargetRead c o id claimed
      else
        ddSubmit (c.carrier c.output) id
          (.transfer .populate (c.blocks io.length) (u64 (c.writeRegionStart + sub64 s.inputPos c.readRegionStart))) o.submit
          { claimed.setIo id { io with type := .populate } with outstanding := s.outstanding + 1 } := rfl

/-- The job with the part of the input that its io has taken. -/
def DdJob.claimed : DdJob := { s.setIo id (s.claim c id) with inputPos := u64 (s.inputPos + (s.claim c id).length) }

/-- The job whose io has a request of this type, which is counted. -/
def DdJob.requested (io : DdIo) (type : DdSubmitType) : DdJob :=
  { s.setIo id { io with type := type } with outstanding := s.outstanding + 1 }

theorem counted_requested (io : DdIo) (type : DdSubmitType) : Counted id s (s.requested id io type) :=
  ⟨rfl, rfl, fun _ member => Or.inl member, rfl⟩

/-- What comes of `dd_target_populate_buffer`. -/
inductive Populated : DdJob → Prop where
  | stopped {s' : DdJob} : (s.claim c id).length = 0 ∨ s.Stopping → Stopped (s.setIo id (s.claim c id)) s' → Populated s'
  | whole {s' : DdJob} : (s.claim c id).length ≠ 0 → ¬ s.Stopping → (s.claim c id).length % c.output.blockSize = 0 →
      Submitted (s.claimed c id) ((s.claimed c id).requested id (s.claim c id) .read) id
        (.transfer .read (s.claim c id).length s.inputPos) s' → Populated s'
  | part {s' : DdJob} : (s.claim c id).length ≠ 0 → ¬ s.Stopping → (s.claim c id).length % c.output.blockSize ≠ 0 →
      Submitted (s.claimed c id) ((s.claimed c id).requested id (s.claim c id) .populate) id
        (.transfer .populate (c.blocks (s.claim c id).length)
          (u64 (c.writeRegionStart + sub64 s.inputPos c.readRegionStart))) s' → Populated s'

theorem ddTargetPopulateBuffer_cases : Populated c id s (ddTargetPopulateBuffer c o id s) := by
  have io : (s.claimed c id).ios id = s.claim c id := Function.update_self ..
  rw [ddTargetPopulateBuffer_eq]
  simp only
  by_cases finished : (s.claim c id).length = 0 ∨ s.Stopping
  · rw [if_pos finished]
    exact .stopped finished (ddStop_cases _)
  · rw [if_neg finished]
    have some : (s.claim c id).length ≠ 0 := fun none => finished (Or.inl none)
    have running : ¬ s.Stopping := fun stopping => finished (Or.inr stopping)
    by_cases whole : (s.claim c id).length % c.output.blockSize = 0
    · rw [if_pos whole]
      have submitted := ddSubmit_cases (counted_requested id (s.claimed c id) (s.claim c id) .read) (c.carrier c.input)
        (.transfer .read (s.claim c id).length s.inputPos) o.submit (fun seeks => by cases seeks)
      have same : ddTargetRead c o id (s.claimed c id) = ddSubmit (c.carrier c.input) id
          (.transfer .read (s.claim c id).length s.inputPos) o.submit ((s.claimed c id).requested id (s.claim c id) .read) := by
        have still : ¬ (s.claimed c id).Stopping := running
        simp only [ddTargetRead, still, ↓reduceIte, io]
        rfl
      rw [← same] at submitted
      exact .whole some running whole submitted
    · rw [if_neg whole]
      exact .part some running whole (ddSubmit_cases (counted_requested id (s.claimed c id) (s.claim c id) .populate) _ _ _ fun seeks => by cases seeks)

/-- What comes of `dd_target_read`. -/
inductive ReadOn : DdJob → Prop where
  | stopped {s' : DdJob} : s.Stopping → Stopped s s' → ReadOn s'
  | asked {s' : DdJob} : ¬ s.Stopping → Submitted s (s.requested id (s.ios id) .read) id
      (.transfer .read (s.ios id).length (s.ios id).offset) s' → ReadOn s'

theorem ddTargetRead_cases : ReadOn id s (ddTargetRead c o id s) := by
  unfold ddTargetRead
  by_cases stopping : s.Stopping
  · simp only [stopping, ↓reduceIte]
    by_cases none : s.outstanding = 0
    · rw [if_pos none]
      exact .stopped stopping (.ended none stopping)
    · rw [if_neg none]
      exact .stopped stopping (.waits (Nat.pos_of_ne_zero none))
  · simp only [stopping, ↓reduceIte]
    exact .asked stopping (ddSubmit_cases (counted_requested id s (s.ios id) .read) _ _ _ fun seeks => by cases seeks)

/-- The job of a write: its bytes count as copied from here on. -/
def DdJob.writing : DdJob :=
  { s.requested id (s.ios id) .write with incrementalBytes := u64 (s.incrementalBytes + (s.ios id).length) }

theorem counted_writing : Counted id s (s.writing id) := ⟨rfl, rfl, fun _ member => Or.inl member, rfl⟩

/-- What comes of `dd_target_write`. -/
inductive Written : DdJob → Prop where
  | stopped {s' : DdJob} : s.Stopping → Stopped s s' → Written s'
  | asked {s' : DdJob} : ¬ s.Stopping → Submitted s (s.writing id) id
      (.transfer .write (c.blocks (s.ios id).length)
        (u64 (c.writeRegionStart + sub64 (s.ios id).offset c.readRegionStart))) s' → Written s'

theorem ddTargetWrite_cases : Written c id s (ddTargetWrite c o id s) := by
  unfold ddTargetWrite
  by_cases stopping : s.Stopping
  · simp only [stopping, ↓reduceIte]
    exact .stopped stopping (ddStop_cases s)
  · simp only [stopping, ↓reduceIte]
    exact .asked stopping (ddSubmit_cases (counted_writing id s) _ _ _ fun seeks => by cases seeks)

/-- What comes of `dd_finalize_output`: a file is long enough if it is not an error. -/
inductive Finalized : DdJob → Prop where
  | waits : 0 < s.outstanding → Finalized s
  | failed (errno : Errno) : s.outstanding = 0 → Finalized (ddExit errno.code { s with error := errno.code })
  | sized {size : Nat} {s' : DdJob} : s.outstanding = 0 →
      (c.output.type = .file → u64 (c.copySize + c.writeRegionStart) ≤ size) →
      size = s.outputSize ∨ (s.outputSize < size ∧ size = u64 (c.copySize + c.writeRegionStart)) →
      Stopped { s with outputSize := size } s' → Finalized s'

theorem ddFinalizeOutput_cases : Finalized c s (ddFinalizeOutput c o s) := by
  have last (t : DdJob) (none : t.outstanding = 0) : Stopped t (ddExit t.error (ddShowEnd t)) := by
    have stopped := ddStop_cases t
    rw [ddStop, if_pos none] at stopped
    exact stopped
  have lastFailed (errno : Errno) : ddExit errno.code (ddShowEnd { s with error := errno.code }) =
      ddExit errno.code { s with error := errno.code } := by
    unfold ddShowEnd
    rw [if_neg (Int.ne_of_gt errno.positive)]
  unfold ddFinalizeOutput
  by_cases some : 0 < s.outstanding
  · rw [if_pos some]
    exact .waits some
  · rw [if_neg some]
    have none := Nat.eq_zero_of_not_pos some
    cases type : c.output.type with
    | bdev =>
      refine .sized none ?_ (Or.inl rfl) (last s none)
      intro file
      rw [type] at file
      cases file
    | file =>
      cases o.seekEnd with
      | some errno =>
        simp only [lastFailed]
        exact .failed errno none
      | none =>
        simp only
        by_cases short : s.outputSize < u64 (c.copySize + c.writeRegionStart)
        · simp only [short, ↓reduceIte]
          cases o.ftruncate with
          | some errno =>
            simp only [lastFailed]
            exact .failed errno none
          | none => exact .sized none (fun _ => Nat.le_refl _) (Or.inr ⟨short, rfl⟩) (last _ none)
        · simp only [short, ↓reduceIte]
          exact .sized none (fun _ => Nat.not_lt.mp short) (Or.inl rfl) (last s none)

end

/-! ## The seeks of a file -/

/-- The job of an io that goes on at a position, with a part of this length at most. -/
def DdJob.aim (s : DdJob) (id pos length : Nat) : DdJob :=
  ({ s with inputPos := pos } : DdJob).setIo id { s.ios id with length := length }

/-- What comes of `dd_target_seek` in a file. -/
inductive FileSought (c : DdSetup) (o : Outcomes) (id : Nat) (s : DdJob) : DdJob → Prop where
  | waits {pos : Nat} : pos = s.inputPos ∨ c.source.nextData s.inputPos = some pos → 0 < s.outstanding →
      FileSought c o id s { s with inputPos := pos }
  | ended {pos : Nat} (errno : Errno) : pos = s.inputPos ∨ c.source.nextData s.inputPos = some pos → s.outstanding = 0 →
      FileSought c o id s (ddExit errno.code { s with inputPos := pos, error := errno.code })
  | noData : c.source.nextData s.inputPos = none → FileSought c o id s (ddFinalizeOutput c o s)
  | found {pos length : Nat} : c.source.nextData s.inputPos = some pos → length ≤ c.ioUnitSize →
      length = c.ioUnitSize ∨ (∃ hole, c.source.nextHole pos = some hole ∧ pos < hole ∧ length = min c.ioUnitSize (hole - pos)) →
      FileSought c o id s (ddTargetPopulateBuffer c o id (s.aim id pos length))

theorem ddFileSeek_cases (c : DdSetup) (o : Outcomes) (id : Nat) (s : DdJob) : FileSought c o id s (ddFileSeek c o id s) := by
  unfold ddFileSeek ddFileSeekData
  cases o.seekData with
  | some errno =>
    simp only
    by_cases none : s.outstanding = 0
    · rw [if_pos none]
      exact .ended errno (Or.inl rfl) none
    · rw [if_neg none]
      exact .waits (Or.inl rfl) (Nat.pos_of_ne_zero none)
  | none =>
    cases sought : c.source.nextData s.inputPos with
    | none => exact .noData sought
    | some next =>
      -- the position is never before the one that the search began at
      have pos : (if s.inputPos < next then { s with inputPos := next } else s) = { s with inputPos := next } := by
        have after := c.source.after _ _ sought
        split
        · rfl
        · have same : next = s.inputPos := by omega
          rw [same]
      simp only [pos]
      unfold ddFileSeekHole
      cases failed : o.seekHole with
      | some errno =>
        simp only
        by_cases none : s.outstanding = 0
        · rw [if_pos none]
          exact .ended errno (Or.inr sought) none
        · rw [if_neg none]
          exact .waits (Or.inr sought) (Nat.pos_of_ne_zero none)
      | none =>
        cases behind : c.source.nextHole next with
        | none =>
          simp only
          by_cases none : s.outstanding = 0
          · rw [if_pos none]
            exact .ended enxio (Or.inr sought) none
          · rw [if_neg none]
            exact .waits (Or.inr sought) (Nat.pos_of_ne_zero none)
        | some hole =>
          simp only
          by_cases after : next < hole
          · rw [if_pos after]
            exact .found sought (Nat.min_le_left _ _) (Or.inr ⟨hole, behind, after, rfl⟩)
          · rw [if_neg after]
            exact .found sought (Nat.le_refl _) (Or.inl rfl)

/-- What comes of `dd_target_seek`. -/
inductive Sought (c : DdSetup) (o : Outcomes) (id : Nat) (s : DdJob) : DdJob → Prop where
  | plain : c.sparse = false → Sought c o id s (ddTargetPopulateBuffer c o id s)
  | stopped {s' : DdJob} : c.sparse = true → sub64 c.copySize (sub64 s.inputPos c.readRegionStart) = 0 ∨ s.Stopping →
      Stopped s s' → Sought c o id s s'
  | file {s' : DdJob} : c.sparse = true → ¬ s.Stopping → sub64 c.copySize (sub64 s.inputPos c.readRegionStart) ≠ 0 →
      c.input.type = .file → FileSought c o id s s' → Sought c o id s s'
  | asked {s' : DdJob} : c.sparse = true → ¬ s.Stopping → sub64 c.copySize (sub64 s.inputPos c.readRegionStart) ≠ 0 →
      c.input.type = .bdev → s.seekQueue = [] →
      Submitted s { s with seekQueue := [id], outstanding := s.outstanding + 1 } id
        (.seekData (s.inputPos / c.input.blockSize)) s' → Sought c o id s s'
  | queued : c.sparse = true → ¬ s.Stopping → sub64 c.copySize (sub64 s.inputPos c.readRegionStart) ≠ 0 →
      c.input.type = .bdev → s.seekQueue ≠ [] → Sought c o id s { s with seekQueue := s.seekQueue ++ [id] }

theorem counted_first (id : Nat) (s : DdJob) :
    Counted id s { s with seekQueue := [id], outstanding := s.outstanding + 1 } :=
  ⟨rfl, rfl, fun _ member => Or.inr (List.mem_singleton.mp member), rfl⟩

theorem ddTargetSeek_cases (c : DdSetup) (o : Outcomes) (id : Nat) (s : DdJob) : Sought c o id s (ddTargetSeek c o id s) := by
  unfold ddTargetSeek
  by_cases sparse : c.sparse = false
  · rw [if_pos sparse]
    exact .plain sparse
  · rw [if_neg sparse]
    replace sparse := Bool.of_not_eq_false sparse
    by_cases finished : sub64 c.copySize (sub64 s.inputPos c.readRegionStart) = 0 ∨ s.Stopping
    · rw [if_pos finished]
      exact .stopped sparse finished (ddStop_cases s)
    · rw [if_neg finished]
      have running : ¬ s.Stopping := fun stopping => finished (Or.inr stopping)
      have remaining : sub64 c.copySize (sub64 s.inputPos c.readRegionStart) ≠ 0 := fun none => finished (Or.inl none)
      cases type : c.input.type with
      | file => exact .file sparse running remaining type (ddFileSeek_cases c o id s)
      | bdev =>
        simp only
        by_cases free : s.seekQueue = []
        · rw [if_pos free]
          have submitted := ddSubmit_cases (counted_first id s) .bdev (.seekData (s.inputPos / c.input.blockSize)) o.seek
            fun _ => rfl
          rw [free]
          exact .asked sparse running remaining type free submitted
        · rw [if_neg free]
          exact .queued sparse running remaining type free

/-! ## The seeks of a bdev -/

section
variable {c : DdSetup} {o : Outcomes} {id : Nat} {s s' : DdJob}

/-- The seek at the head of the queue is over. -/
def DdJob.dequeue (s : DdJob) : DdJob := { s with seekQueue := s.seekQueue.tail }

/-- What comes of `_dd_bdev_seek_data_done`. -/
inductive DataSought (c : DdSetup) (o : Outcomes) (id : Nat) (s : DdJob) : Option Nat → DdJob → Prop where
  | stopping {next : Option Nat} {s' : DdJob} : s.Stopping → Stopped s.dequeue s' → DataSought c o id s next s'
  | noData : ¬ s.Stopping → DataSought c o id s none (ddFinalizeOutput c o { s.complete with seekQueue := s.seekQueue.tail })
  | found {block : Nat} {queue : List Nat} {s' : DdJob} : ¬ s.Stopping →
      (queue = s.seekQueue ∨ queue = s.seekQueue.tail ∧ s'.error ≠ 0) →
      Submitted { s.complete with inputPos := u64 (block * c.input.blockSize), seekQueue := queue }
        { s.complete with
          inputPos := u64 (block * c.input.blockSize), seekQueue := queue, outstanding := s.complete.outstanding + 1 } id
        (.seekHole (u64 (block * c.input.blockSize) / c.input.blockSize)) s' →
      DataSought c o id s (some block) s'

theorem complete_queue (s : DdJob) : s.complete.seekQueue = s.seekQueue := by
  unfold DdJob.complete
  split <;> rfl

theorem complete_frame (s : DdJob) :
    s.complete.ios = s.ios ∧ s.complete.flight = s.flight ∧ s.complete.inputPos = s.inputPos ∧
      (s.complete.Stopping ↔ s.Stopping) := by
  unfold DdJob.complete
  split
  · exact ⟨rfl, rfl, rfl, Iff.rfl⟩
  · exact ⟨rfl, rfl, rfl, Iff.rfl⟩

theorem ddBdevSeekDataDone_cases (c : DdSetup) (o : Outcomes) (id : Nat) (next : Option Nat) (s : DdJob) :
    DataSought c o id s next (ddBdevSeekDataDone c o id next s) := by
  unfold ddBdevSeekDataDone
  by_cases stopping : s.Stopping
  · simp only [stopping, ↓reduceIte]
    exact .stopping stopping (ddStop_cases _)
  · simp only [stopping, ↓reduceIte]
    cases next with
    | none => exact .noData stopping
    | some block =>
      have counted (queue : List Nat) : Counted id
          { s.complete with inputPos := u64 (block * c.input.blockSize), seekQueue := queue }
          { s.complete with
            inputPos := u64 (block * c.input.blockSize), seekQueue := queue, outstanding := s.complete.outstanding + 1 } :=
        ⟨rfl, rfl, fun _ member => Or.inl member, rfl⟩
      simp only [complete_queue]
      by_cases failed : o.seek.rc ≠ 0
      · rw [if_pos failed]
        refine .found stopping (Or.inr ⟨rfl, ?_⟩) (ddSubmit_cases (counted _) .bdev _ o.seek fun _ => rfl)
        cases submission : o.seek with
        | accepted => exact absurd (congrArg Submission.rc submission) failed
        | refused rc =>
          have nonzero : rc ≠ 0 := by
            rw [submission] at failed
            exact failed
          simp only [ddSubmit, nonzero, ↓reduceIte, ddRefused]
          split <;> exact nonzero
      · rw [if_neg failed]
        exact .found stopping (Or.inl rfl) (ddSubmit_cases (counted _) .bdev _ o.seek fun _ => rfl)

/-- The length of a part that ends with a hole at the latest. -/
def DdSetup.partLength (c : DdSetup) (pos : Nat) : Option Nat → Nat
  | none => c.ioUnitSize
  | some block => min c.ioUnitSize (sub64 (u64 (block * c.input.blockSize)) pos)

/-- The io of `_dd_bdev_seek_hole_done` with the length that it is to read at most. -/
def DdJob.atHole (c : DdSetup) (id : Nat) (next : Option Nat) (s : DdJob) : DdJob :=
  let s := s.dequeue.complete
  s.setIo id { s.ios id with length := c.partLength s.inputPos next }

/-- The same with its part of the input. -/
def DdJob.holeDone (c : DdSetup) (o : Outcomes) (id : Nat) (next : Option Nat) (s : DdJob) : DdJob :=
  ddTargetPopulateBuffer c o id (s.atHole c id next)

/-- What comes of `_dd_bdev_seek_hole_done`: the io goes on, and then the queue may. -/
inductive HoleSought (c : DdSetup) (o : Outcomes) (id : Nat) (s : DdJob) (next : Option Nat) : DdJob → Prop where
  | stopping {s' : DdJob} : s.Stopping → Stopped s.dequeue s' → HoleSought c o id s next s'
  | last : ¬ s.Stopping → (s.holeDone c o id next).seekQueue = [] ∨ c.input.totalSize ≤ (s.holeDone c o id next).inputPos →
      HoleSought c o id s next (s.holeDone c o id next)
  | turn {first : Nat} {rest : List Nat} {s' : DdJob} : ¬ s.Stopping → (s.holeDone c o id next).seekQueue = first :: rest →
      Submitted (s.holeDone c o id next)
        { s.holeDone c o id next with outstanding := (s.holeDone c o id next).outstanding + 1 } first
        (.seekData ((s.holeDone c o id next).inputPos / c.input.blockSize)) s' →
      HoleSought c o id s next s'

theorem ddBdevSeekHoleDone_eq (c : DdSetup) (o : Outcomes) (id : Nat) (next : Option Nat) (s : DdJob) :
    ddBdevSeekHoleDone c o id next s =
      if s.Stopping then ddStop s.dequeue
      else
        match (s.holeDone c o id next).seekQueue with
        | [] => s.holeDone c o id next
        | first :: _ =>
          if (s.holeDone c o id next).inputPos < c.input.totalSize then
            ddSubmit .bdev first (.seekData ((s.holeDone c o id next).inputPos / c.input.blockSize)) o.seek
              { s.holeDone c o id next with outstanding := (s.holeDone c o id next).outstanding + 1 }
          else s.holeDone c o id next := by
  cases next <;> rfl

theorem ddBdevSeekHoleDone_cases (c : DdSetup) (o : Outcomes) (id : Nat) (next : Option Nat) (s : DdJob) :
    HoleSought c o id s next (ddBdevSeekHoleDone c o id next s) := by
  rw [ddBdevSeekHoleDone_eq]
  by_cases stopping : s.Stopping
  · rw [if_pos stopping]
    exact .stopping stopping (ddStop_cases _)
  · rw [if_neg stopping]
    split
    · rename_i empty
      exact .last stopping (Or.inl empty)
    · rename_i first rest queue
      split
      · have counted : Counted first (s.holeDone c o id next)
            { s.holeDone c o id next with outstanding := (s.holeDone c o id next).outstanding + 1 } :=
          ⟨rfl, rfl, fun _ member => Or.inl member, rfl⟩
        exact .turn stopping queue (ddSubmit_cases counted .bdev _ o.seek fun _ => rfl)
      · rename_i finished
        exact .last stopping (Or.inr (Nat.not_lt.mp finished))

end

/-! ## Steps -/

/-- `g_error` after a poller or a callback has looked at a result. -/
def DdSetup.errorAfter (c : DdSetup) (s : DdJob) (id : Nat) (type : DdSubmitType) (res : Int) : Int :=
  match (c.targetOf type).type with
  | .bdev => s.error
  | .file =>
    if c.uring then (if res < 0 then res else s.error)
    else if res ≠ (s.ios id).length then -enospc else s.error

theorem errorAfter_ne (c : DdSetup) (s : DdJob) (id : Nat) (type : DdSubmitType) (res : Int) (failed : s.error ≠ 0) :
    c.errorAfter s id type res ≠ 0 := by
  unfold DdSetup.errorAfter
  split
  · exact failed
  · split
    · split
      · omega
      · exact failed
    · split
      · decide
      · exact failed

/-- What decides how an io goes on. -/
def DdSetup.typeOf (c : DdSetup) (s : DdJob) (id : Nat) (type : DdSubmitType) : DdSubmitType :=
  match (c.targetOf type).type with
  | .bdev => type
  | .file => (s.ios id).type

/-- What a step can be. -/
inductive Stepped (c : DdSetup) (s : DdJob) : DdEvent → DdJob → Prop where
  | performed {id : Nat} {res : Int} {request : DdRequest} {s' : DdJob} : s.flight id = some (.submitted request) →
      ddPerform c s id res request = some s' → Stepped c s (.perform id res) s'
  | again {id : Nat} {o : Outcomes} {type : DdSubmitType} : s.flight id = some (.transferred type (-eagain)) →
      (c.targetOf type).type = .file → c.uring = true → Stepped c s (.complete id o) s
  | advanced {id : Nat} {o : Outcomes} {type : DdSubmitType} {res : Int} : s.flight id = some (.transferred type res) →
      Stepped c s (.complete id o)
        (ddAdvance c o (c.typeOf s id type) id (({ s with error := c.errorAfter s id type res } : DdJob).setFlight id none))
  | soughtData {id : Nat} {o : Outcomes} {next : Option Nat} {s' : DdJob} : s.flight id = some (.soughtData next) →
      DataSought c o id (s.setFlight id none) next s' → Stepped c s (.complete id o) s'
  | soughtHole {id : Nat} {o : Outcomes} {next : Option Nat} {s' : DdJob} : s.flight id = some (.soughtHole next) →
      HoleSought c o id (s.setFlight id none) next s' → Stepped c s (.complete id o) s'
  | pollFailed {rc : Int} : c.uring = true → rc < 0 → Stepped c s (.pollFailed rc) { s with error := rc }
  | pollEnded {rc : Int} : c.uring = false → rc < 0 → s.exits = 0 → ¬ c.Pollerless → Stepped c s (.pollFailed rc) (ddExit rc s)
  | status : Stepped c s .statusPoller (ddShowProgress false s)
  | interrupted : Stepped c s .finish { s with interrupt := true }

/-- The bytes that a request moves change no more of the job than the buffer or the output. -/
theorem ddPerform_transfer {c : DdSetup} {s s' : DdJob} {id : Nat} {type : DdSubmitType} {length start : Nat} {res : Int}
    (performed : ddPerform c s id res (.transfer type length start) = some s') :
    (∀ other, (s'.ios other).length = (s.ios other).length ∧ (s'.ios other).type = (s.ios other).type ∧
      (s'.ios other).offset = (s.ios other).offset) ∧
      s'.flight = Function.update s.flight id (some (.transferred type res)) ∧ s'.inputPos = s.inputPos ∧
      s'.totalBytes = s.totalBytes ∧ s'.incrementalBytes = s.incrementalBytes ∧ s'.acts = s.acts ∧
      s'.interrupt = s.interrupt ∧ s'.error = s.error := by
  have filled (buf : Nat → UInt8) (other : Nat) :
      ((s.setIo id { s.ios id with buf := buf }).ios other).length = (s.ios other).length ∧
        ((s.setIo id { s.ios id with buf := buf }).ios other).type = (s.ios other).type ∧
        ((s.setIo id { s.ios id with buf := buf }).ios other).offset = (s.ios other).offset := by
    by_cases same : other = id
    · simp only [same, DdJob.setIo, Function.update_self, and_self]
    · simp only [DdJob.setIo, Function.update_of_ne same, and_self]
  simp only [ddPerform] at performed
  split at performed
  · cases performed
    cases type with
    | populate => exact ⟨filled _, rfl, rfl, rfl, rfl, rfl, rfl, rfl⟩
    | read => exact ⟨filled _, rfl, rfl, rfl, rfl, rfl, rfl, rfl⟩
    | write => exact ⟨fun _ => ⟨rfl, rfl, rfl⟩, rfl, rfl, rfl, rfl, rfl, rfl, rfl⟩
  · cases performed

theorem ddPoll_cases {c : DdSetup} {s : DdJob} {id : Nat} {o : Outcomes} {type : DdSubmitType} {res : Int}
    (held : s.flight id = some (.transferred type res)) (file : (c.targetOf type).type = .file) :
    Stepped c s (.complete id o) (if c.uring then ddUringPoll c o id res s else ddAioPoll c o id res s) := by
  have next := Stepped.advanced (c := c) (o := o) held
  simp only [DdSetup.errorAfter, DdSetup.typeOf, file] at next
  cases uring : c.uring with
  | true =>
    simp only [uring, ↓reduceIte] at next ⊢
    unfold ddUringPoll
    by_cases later : res = -eagain
    · rw [if_pos later]
      rw [later] at held
      exact .again held file uring
    · rw [if_neg later]
      by_cases failed : res < 0
      · simpa only [failed, ↓reduceIte] using next
      · simpa only [failed, ↓reduceIte] using next
  | false =>
    simp only [uring, Bool.false_eq_true, ↓reduceIte] at next ⊢
    unfold ddAioPoll
    by_cases other : res ≠ (s.ios id).length
    · simpa only [other, ↓reduceIte, ne_eq, not_false_eq_true] using next
    · simpa only [other, ↓reduceIte, ne_eq] using next

theorem ddStep_cases {c : DdSetup} {s s' : DdJob} {event : DdEvent} (stepped : ddStep c s event = some s') :
    Stepped c s event s' := by
  cases event with
  | perform id res =>
    simp only [ddStep] at stepped
    split at stepped
    · rename_i request held
      exact .performed held stepped
    · cases stepped
  | complete id o =>
    obtain ⟨flight, held, completed⟩ := Option.bind_eq_some_iff.mp stepped
    cases flight with
    | submitted request => cases completed
    | lost => cases completed
    | soughtData next =>
      cases completed
      exact .soughtData held (ddBdevSeekDataDone_cases c o id next _)
    | soughtHole next =>
      cases completed
      exact .soughtHole held (ddBdevSeekHoleDone_cases c o id next _)
    | transferred type res =>
      simp only [ddComplete] at completed
      cases target : (c.targetOf type).type with
      | bdev =>
        rw [target] at completed
        cases completed
        have next := Stepped.advanced (c := c) (o := o) held
        simpa only [DdSetup.errorAfter, DdSetup.typeOf, target] using next
      | file =>
        rw [target] at completed
        simp only at completed
        split at completed
        · cases completed
        · cases completed
          exact ddPoll_cases held target
  | pollFailed rc =>
    simp only [ddStep] at stepped
    split at stepped
    · cases stepped
    · rename_i possible
      have failed : rc < 0 := by
        by_contra fine
        exact possible (Or.inr (Or.inl (Int.not_lt.mp fine)))
      have poller : ¬ c.Pollerless := fun none => possible (Or.inr (Or.inr (Or.inr none)))
      have running : s.exits = 0 := by
        by_contra finished
        exact possible (Or.inl (Nat.pos_of_ne_zero finished))
      cases stepped
      cases uring : c.uring with
      | true => exact .pollFailed uring failed
      | false => exact .pollEnded uring failed running poller
  | statusPoller =>
    simp only [ddStep] at stepped
    split at stepped
    · cases stepped
    · cases stepped
      exact .status
  | finish =>
    cases stepped
    exact .interrupted

end BdevUbi.Dd
