import BdevUbi.Dd.Outstanding

/-! The queue of the seeks of a bdev: an io waits in it once, and has no other request in flight
while it does.
-/

set_option autoImplicit false

namespace BdevUbi.Dd
open BdevUbi.Library

/-- The queue of the seeks, with the seek in flight at its head, if there is one. -/
structure DdJob.Lined (c : DdSetup) (s : DdJob) : Prop where
  once : s.seekQueue.Nodup
  waiting : ∀ id ∈ s.seekQueue, ∀ flight, s.flight id = some flight → flight.moves = false
  seeking : ∀ id flight, s.flight id = some flight → flight.moves = false → ¬ c.Direct ∧ s.seekQueue.head? = some id

/-- No seek is in flight. -/
def DdJob.NoSeek (s : DdJob) : Prop := ∀ id flight, s.flight id = some flight → flight.moves = true

/-- One io is dealt with, and not with the queue. -/
structure Local (id : Nat) (s s' : DdJob) : Prop where
  queue : s'.seekQueue = s.seekQueue
  others : ∀ other, other ≠ id → s'.flight other = s.flight other
  own : ∀ flight, s'.flight id = some flight → s.flight id = some flight ∨ flight.moves = true

section
variable {c : DdSetup} {o : Outcomes} {id : Nat} {s s' s'' : DdJob}

theorem Local.of_same (here : Local id s' s'') (queue : s'.seekQueue = s.seekQueue) (flight : s'.flight = s.flight) :
    Local id s s'' := by
  constructor
  · rw [← queue]
    exact here.queue
  · rw [← flight]
    exact here.others
  · rw [← flight]
    exact here.own

theorem Local.of_flight (queue : s'.seekQueue = s.seekQueue) (flight : s'.flight = s.flight) : Local id s s' := by
  refine ⟨queue, fun _ _ => by rw [flight], ?_⟩
  rw [flight]
  exact fun _ held => Or.inl held

theorem Stopped.local (stopped : Stopped s s') (id : Nat) : Local id s s' := by
  obtain ⟨_, flight, _, _, queue, _⟩ := stopped.frame
  exact .of_flight queue flight

theorem Submitted.local {request : DdRequest} (submitted : Submitted s s' id request s'') (moves : request.moves = true) :
    Local id s' s'' := by
  obtain ⟨_, _, _, queue, others, own, _⟩ := submitted.frame
  refine ⟨queue, others, ?_⟩
  intro flight held
  rcases own with ⟨asked, _⟩ | ⟨lost, _⟩ | refused
  · rw [asked] at held
    cases held
    exact Or.inr moves
  · rw [lost] at held
    cases held
    exact Or.inr rfl
  · rw [refused] at held
    exact Or.inl held

theorem Populated.local (populated : Populated c id s s') : Local id s s' := by
  cases populated with
  | stopped _ stopped => exact (stopped.local id).of_same rfl rfl
  | whole _ _ _ submitted => exact (submitted.local rfl).of_same rfl rfl
  | part _ _ _ submitted => exact (submitted.local rfl).of_same rfl rfl

theorem ReadOn.local (read : ReadOn id s s') : Local id s s' := by
  cases read with
  | stopped _ stopped => exact stopped.local id
  | asked _ submitted => exact (submitted.local rfl).of_same rfl rfl

theorem Written.local (written : Written c id s s') : Local id s s' := by
  cases written with
  | stopped _ stopped => exact stopped.local id
  | asked _ submitted => exact (submitted.local rfl).of_same rfl rfl

theorem Finalized.frame (finalized : Finalized c s s') : s'.seekQueue = s.seekQueue ∧ s'.flight = s.flight := by
  cases finalized with
  | waits => exact ⟨rfl, rfl⟩
  | failed => exact ⟨rfl, rfl⟩
  | sized _ _ _ stopped =>
    obtain ⟨_, flight, _, _, queue, _⟩ := stopped.frame
    exact ⟨queue, flight⟩

theorem FileSought.local (sought : FileSought c o id s s') : Local id s s' := by
  cases sought with
  | waits => exact .of_flight rfl rfl
  | ended => exact .of_flight rfl rfl
  | noData =>
    obtain ⟨queue, flight⟩ := (ddFinalizeOutput_cases c o s).frame
    exact .of_flight queue flight
  | found => exact (ddTargetPopulateBuffer_cases c o id _).local.of_same rfl rfl

/-! ## The queue -/

/-- An io that does not wait may do what it likes. -/
theorem DdJob.Lined.local (lined : s.Lined c) (outside : id ∉ s.seekQueue) (here : Local id s s') : s'.Lined c := by
  constructor
  · rw [here.queue]
    exact lined.once
  · intro other member flight held
    rw [here.queue] at member
    have different : other ≠ id := by
      rintro rfl
      exact outside member
    rw [here.others other different] at held
    exact lined.waiting other member flight held
  · intro other flight held seeks
    rw [here.queue]
    by_cases same : other = id
    · rw [same] at held ⊢
      rcases here.own flight held with old | moves
      · exact lined.seeking id flight old seeks
      · rw [moves] at seeks
        cases seeks
    · rw [here.others other same] at held
      exact lined.seeking other flight held seeks

/-- The seek of the first io in the queue. -/
theorem DdJob.Lined.submitted {request : DdRequest} (lined : s'.Lined c) (seeks : request.moves = false)
    (head : s''.error = s'.error → ¬ c.Direct ∧ s'.seekQueue.head? = some id) (submitted : Submitted s s' id request s'') :
    s''.Lined c := by
  obtain ⟨_, _, _, queue, others, own, _⟩ := submitted.frame
  have kept (other : Nat) (flight : Flight) (held : s''.flight other = some flight) : s'.flight other = some flight ∨
      (flight.moves = false ∧ ¬ c.Direct ∧ s'.seekQueue.head? = some other) := by
    by_cases same : other = id
    · rw [same] at held ⊢
      rcases own with ⟨asked, fine⟩ | ⟨_, moves⟩ | refused
      · rw [asked] at held
        cases held
        exact Or.inr ⟨seeks, head fine⟩
      · rw [seeks] at moves
        cases moves
      · exact Or.inl (refused ▸ held)
    · exact Or.inl (others other same ▸ held)
  constructor
  · rw [queue]
    exact lined.once
  · intro other member flight held
    rw [queue] at member
    rcases kept other flight held with old | ⟨new, _⟩
    · exact lined.waiting other member flight old
    · exact new
  · intro other flight held moves
    rw [queue]
    rcases kept other flight held with old | ⟨_, new⟩
    · exact lined.seeking other flight old moves
    · exact new

/-- Without a seek in flight the queue may be cut. -/
theorem DdJob.Lined.cut (lined : s.Lined c) (noSeek : s.NoSeek) {queue : List Nat} (part : queue.Sublist s.seekQueue) :
    ({ s with seekQueue := queue } : DdJob).Lined c := by
  refine ⟨part.nodup lined.once, fun id member => lined.waiting id (part.subset member), ?_⟩
  intro id flight held seeks
  rw [noSeek id flight held] at seeks
  cases seeks

theorem DdJob.Lined.same (lined : s.Lined c) (queue : s'.seekQueue = s.seekQueue) (flight : s'.flight = s.flight) : s'.Lined c := by
  constructor
  · rw [queue]
    exact lined.once
  · rw [queue, flight]
    exact lined.waiting
  · rw [queue, flight]
    exact lined.seeking

theorem DdJob.Lined.noSeek_of_direct (lined : s.Lined c) (direct : c.Direct) : s.NoSeek := by
  intro id flight held
  by_contra seeks
  exact (lined.seeking id flight held (Bool.of_not_eq_true seeks)).1 direct

/-- A seek is over, and it was the only one. -/
theorem DdJob.Lined.noSeek (lined : s.Lined c) {flight : Flight} (held : s.flight id = some flight)
    (seeks : flight.moves = false) : (s.setFlight id none).NoSeek := by
  intro other flight' held'
  by_cases same : other = id
  · rw [same] at held'
    simp [DdJob.setFlight] at held'
  · simp only [DdJob.setFlight, Function.update_of_ne same] at held'
    by_contra seeks'
    have first := (lined.seeking id flight held seeks).2
    have second := (lined.seeking other flight' held' (Bool.of_not_eq_true seeks')).2
    rw [first] at second
    exact same (Option.some.inj second).symm

theorem DdJob.Lined.land (lined : s.Lined c) (id : Nat) (error : Int) :
    (({ s with error := error } : DdJob).setFlight id none).Lined c := by
  refine ⟨lined.once, ?_, ?_⟩
  · exact fun other member flight held => lined.waiting other member flight (held_setFlight id other held)
  · exact fun other flight held => lined.seeking other flight (held_setFlight id other held)

theorem DdJob.Lined.complete (lined : s.Lined c) : s.complete.Lined c :=
  lined.same (complete_queue s) (complete_frame s).2.1

theorem DdJob.NoSeek.complete (noSeek : s.NoSeek) : s.complete.NoSeek := by
  unfold DdJob.NoSeek
  rw [(complete_frame s).2.1]
  exact noSeek

/-! ## Every run -/

theorem Sought.lined (sought : Sought c o id s s') (lined : s.Lined c) (idle : s.flight id = none) (outside : id ∉ s.seekQueue) :
    s'.Lined c := by
  cases sought with
  | plain => exact lined.local outside (ddTargetPopulateBuffer_cases c o id s).local
  | stopped _ _ stopped => exact lined.local outside (stopped.local id)
  | file _ _ _ _ sought => exact lined.local outside sought.local
  | asked sparse _ _ bdev free submitted =>
    have first : ({ s with seekQueue := [id], outstanding := s.outstanding + 1 } : DdJob).Lined c := by
      refine ⟨List.nodup_singleton id, ?_, ?_⟩
      · intro other member flight held
        rw [List.mem_singleton.mp member] at held
        have none : s.flight id = some flight := held
        rw [idle] at none
        cases none
      · intro other flight held seeks
        have head := (lined.seeking other flight held seeks).2
        rw [free] at head
        cases head
    refine DdJob.Lined.submitted first rfl ?_ submitted
    intro _
    refine ⟨?_, rfl⟩
    intro direct
    rw [direct sparse] at bdev
    cases bdev
  | queued =>
    refine ⟨?_, ?_, ?_⟩
    · exact List.Nodup.append lined.once (List.nodup_singleton id)
        (List.disjoint_singleton.mpr outside)
    · intro other member flight held
      rcases List.mem_append.mp member with old | new
      · exact lined.waiting other old flight held
      · rw [List.mem_singleton.mp new] at held
        have none : s.flight id = some flight := held
        rw [idle] at none
        cases none
    · intro other flight held seeks
      obtain ⟨indirect, head⟩ := lined.seeking other flight held seeks
      refine ⟨indirect, ?_⟩
      rw [List.head?_append, head]
      rfl

theorem DataSought.lined {next : Option Nat} (sought : DataSought c o id s next s') (lined : s.Lined c) (noSeek : s.NoSeek)
    (indirect : ¬ c.Direct) (head : s.seekQueue.head? = some id) : s'.Lined c := by
  have tail {t : DdJob} (same : t.Lined c) (none : t.NoSeek) (queue : t.seekQueue = s.seekQueue) :
      ({ t with seekQueue := s.seekQueue.tail } : DdJob).Lined c := by
    refine same.cut none ?_
    rw [queue]
    exact List.tail_sublist _
  cases sought with
  | stopping _ stopped =>
    obtain ⟨_, flight, _, _, queue, _⟩ := stopped.frame
    exact (tail lined noSeek rfl).same queue flight
  | noData =>
    obtain ⟨queue, flight⟩ := (ddFinalizeOutput_cases c o { s.complete with seekQueue := s.seekQueue.tail }).frame
    exact (tail lined.complete noSeek.complete (complete_queue s)).same queue flight
  | @found block queue _ running shape submitted =>
    have part : queue.Sublist s.complete.seekQueue := by
      rw [complete_queue]
      rcases shape with rfl | ⟨rfl, _⟩
      · exact List.Sublist.refl _
      · exact List.tail_sublist _
    have cut := lined.complete.cut noSeek.complete part
    have counted : ({ s.complete with
        inputPos := u64 (block * c.input.blockSize), seekQueue := queue, outstanding := s.complete.outstanding + 1 } : DdJob).Lined c :=
      cut.same rfl rfl
    refine DdJob.Lined.submitted counted rfl ?_ submitted
    intro same
    refine ⟨indirect, ?_⟩
    rcases shape with rfl | ⟨_, failed⟩
    · exact head
    · have stopping : s.complete.Stopping := Or.inl (same ▸ failed)
      exact absurd ((complete_frame s).2.2.2.mp stopping) running

/-- The io that has found its part leaves the queue. -/
theorem holeDone_lined (lined : s.Lined c) (noSeek : s.NoSeek) (head : s.seekQueue.head? = some id) (next : Option Nat) :
    s.dequeue.Lined c ∧ id ∉ s.dequeue.seekQueue ∧ (s.holeDone c o id next).Lined c := by
  have cut : s.dequeue.Lined c := lined.cut noSeek (List.tail_sublist _)
  have outside : id ∉ s.dequeue.seekQueue := by
    have once := lined.once
    obtain ⟨rest, queue⟩ := List.head?_eq_some_iff.mp head
    rw [queue] at once
    simp only [DdJob.dequeue, queue, List.tail_cons]
    exact (List.nodup_cons.mp once).1
  refine ⟨cut, outside, ?_⟩
  have outsideThen : id ∉ s.dequeue.complete.seekQueue := by
    rw [complete_queue]
    exact outside
  exact cut.complete.local outsideThen ((ddTargetPopulateBuffer_cases c o id _).local.of_same rfl rfl)

/-- The next one in the queue is idle. -/
theorem holeDone_idle (lined : s.Lined c) (noSeek : s.NoSeek) (head : s.seekQueue.head? = some id) (next : Option Nat)
    {first : Nat} {rest : List Nat} (queue : (s.holeDone c o id next).seekQueue = first :: rest) :
    (s.holeDone c o id next).flight first = none := by
  obtain ⟨_, _, done⟩ := holeDone_lined (o := o) lined noSeek head next
  have here : Local id s.dequeue.complete (s.holeDone c o id next) :=
    (ddTargetPopulateBuffer_cases c o id _).local.of_same rfl rfl
  have cut : s.dequeue.complete.NoSeek := DdJob.NoSeek.complete (s := s.dequeue) noSeek
  cases held : (s.holeDone c o id next).flight first with
  | none => rfl
  | some flight =>
    have waits := done.waiting first (by rw [queue]; exact List.mem_cons_self) flight held
    have moves : flight.moves = true := by
      by_cases same : first = id
      · rw [same] at held
        rcases here.own flight held with old | moves
        · exact cut id flight old
        · exact moves
      · rw [here.others first same] at held
        exact cut first flight held
    rw [moves] at waits
    cases waits

theorem HoleSought.lined {next : Option Nat} (sought : HoleSought c o id s next s') (lined : s.Lined c) (noSeek : s.NoSeek)
    (indirect : ¬ c.Direct) (head : s.seekQueue.head? = some id) : s'.Lined c := by
  obtain ⟨cut, _, done⟩ := holeDone_lined (o := o) lined noSeek head next
  cases sought with
  | stopping _ stopped =>
    obtain ⟨_, flight, _, _, queue, _⟩ := stopped.frame
    exact cut.same queue flight
  | last => exact done
  | turn _ queue submitted =>
    have counted : ({ s.holeDone c o id next with outstanding := (s.holeDone c o id next).outstanding + 1 } : DdJob).Lined c :=
      done.same rfl rfl
    refine DdJob.Lined.submitted counted rfl ?_ submitted
    exact fun _ => ⟨indirect, by rw [queue]; rfl⟩

theorem ddAdvance_lined (lined : s.Lined c) (idle : s.flight id = none) (outside : id ∉ s.seekQueue) (o : Outcomes)
    (type : DdSubmitType) : (ddAdvance c o type id s).Lined c := by
  have completed := lined.complete
  have outsideThen : id ∉ s.complete.seekQueue := by
    rw [complete_queue]
    exact outside
  cases type with
  | populate => exact completed.local outsideThen (ddTargetRead_cases c o id _).local
  | read => exact completed.local outsideThen (ddTargetWrite_cases c o id _).local
  | write => exact (ddTargetSeek_cases c o id _).lined completed ((complete_frame s).2.1 ▸ idle) outsideThen

/-- A request that is carried out stays what it was. -/
theorem ddPerform_moves {request : DdRequest} {res : Int} (performed : ddPerform c s id res request = some s') :
    s'.seekQueue = s.seekQueue ∧
      ∃ flight, flight.moves = request.moves ∧ s'.flight = Function.update s.flight id (some flight) := by
  cases request with
  | transfer type length start =>
    simp only [ddPerform] at performed
    split at performed
    · cases performed
      refine ⟨?_, .transferred type res, rfl, ?_⟩
      · cases type <;> rfl
      · cases type <;> rfl
    · cases performed
  | seekData start =>
    cases performed
    exact ⟨rfl, _, rfl, rfl⟩
  | seekHole start =>
    cases performed
    exact ⟨rfl, _, rfl, rfl⟩

theorem lined_step (s : DdJob) (event : DdEvent) (s' : DdJob) (lined : s.Lined c) (stepped : ddStep c s event = some s') :
    s'.Lined c := by
  cases ddStep_cases stepped with
  | @performed id res request _ held performed =>
    obtain ⟨queue, flight, same, flights⟩ := ddPerform_moves performed
    have kept (other : Nat) (flight' : Flight) (held' : s'.flight other = some flight') :
        ∃ old, s.flight other = some old ∧ old.moves = flight'.moves := by
      rw [flights] at held'
      rcases held_update held' with old | ⟨here, new⟩
      · exact ⟨flight', old, rfl⟩
      · cases new
        rw [here]
        exact ⟨_, held, same.symm⟩
    constructor
    · rw [queue]
      exact lined.once
    · intro other member flight' held'
      rw [queue] at member
      obtain ⟨old, held, moves⟩ := kept other flight' held'
      rw [← moves]
      exact lined.waiting other member old held
    · intro other flight' held' seeks
      rw [queue]
      obtain ⟨old, held, moves⟩ := kept other flight' held'
      rw [← moves] at seeks
      exact lined.seeking other old held seeks
  | again => exact lined
  | @advanced id o type res held =>
    refine ddAdvance_lined (lined.land id _) (Function.update_self ..) ?_ o _
    intro member
    cases lined.waiting id member _ held
  | soughtData held sought =>
    obtain ⟨indirect, head⟩ := lined.seeking _ _ held rfl
    exact sought.lined (lined.land _ s.error) (lined.noSeek held rfl) indirect head
  | soughtHole held sought =>
    obtain ⟨indirect, head⟩ := lined.seeking _ _ held rfl
    exact sought.lined (lined.land _ s.error) (lined.noSeek held rfl) indirect head
  | pollFailed => exact lined.same rfl rfl
  | pollEnded => exact lined.same rfl rfl
  | status => exact lined.same rfl rfl
  | interrupted => exact lined.same rfl rfl

/-- An io is idle and in no queue before its turn in the loop of `dd_run`. -/
theorem start_idle (c : DdSetup) (o : Nat → Outcomes) (buf : Nat → Nat → UInt8) (before : Nat → UInt8) (size k : Nat) :
    (ddStart c o (.fresh c buf before size) k).flight k = none ∧ k ∉ (ddStart c o (.fresh c buf before size) k).seekQueue := by
  have covered := covered_start (covered_fresh c k buf before size) c o k (Nat.le_refl _)
  constructor
  · by_contra held
    exact Nat.lt_irrefl _ (covered.inside k held)
  · intro member
    exact Nat.lt_irrefl _ (covered.queue k member)

theorem lined_start (c : DdSetup) (o : Nat → Outcomes) (buf : Nat → Nat → UInt8) (before : Nat → UInt8) (size k : Nat) :
    (ddStart c o (.fresh c buf before size) k).Lined c := by
  induction k with
  | zero =>
    refine ⟨List.nodup_nil, ?_, ?_⟩
    · intro _ member
      cases member
    · intro _ _ held
      cases held
  | succ k ih =>
    obtain ⟨idle, outside⟩ := start_idle c o buf before size k
    exact (ddTargetSeek_cases c (o k) k _).lined ih idle outside

end

/-- In every run of every copy a seek in flight belongs to the first io of the queue, so there is
at most one; no io waits twice, and none that waits has a transfer in flight. -/
theorem seeks_in_turn (c : DdSetup) (o : Nat → Outcomes) (buf : Nat → Nat → UInt8) (output : Nat → UInt8) (size : Nat)
    (events : List DdEvent) :
    Always (ddStep c)
      (fun s => s.seekQueue.Nodup ∧
        ∀ id flight, s.flight id = some flight →
          if flight.moves then id ∉ s.seekQueue else s.seekQueue.head? = some id)
      (ddRunning c o buf output size) events := by
  refine (always_of_invariant lined_step (lined_start c o buf output size c.queueDepth) events).mono ?_
  intro s lined
  refine ⟨lined.once, ?_⟩
  intro id flight held
  cases moves : flight.moves with
  | true =>
    intro member
    rw [lined.waiting id member flight held] at moves
    cases moves
  | false => exact (lined.seeking id flight held moves).2

end BdevUbi.Dd
