import BdevUbi.Snapshot.Requests

/-! The end of a bdev, `ubi_destruct` and its callbacks in `bdev_ubi.c`.

Three chains hold the record of a bdev: closing the blob and unloading the blobstore,
unregistering the io_device, and the snapshot requests. Only the second one frees it.
The state keeps a list of the callbacks that ran on a freed record.
-/

set_option autoImplicit false

namespace BdevUbi.Bdev
open BdevUbi.Library BdevUbi.Snapshot

inductive Callback where
  | blobClose
  | bsUnload
  | snapshot (op : BlobOp)
  | shallowCopyStatus
  deriving DecidableEq, Repr

structure Lifetime where
  requests : Requests
  -- the fields `blob` and `blobstore`, as far as they are tested for NULL
  blob : Bool
  blobstore : Bool
  channels : Nat
  -- `spdk_bdev_unregister_by_name` was accepted, `ubi_destruct` has run
  deleting : Bool
  destructed : Bool
  -- completions of the three SPDK calls that are still to come
  closing : Bool
  unloading : Bool
  unregistering : Bool
  released : Bool
  late : List Callback

/-- A registered bdev without requests and without channels. -/
def Lifetime.created (blob blobstore : Bool) : Lifetime :=
  ⟨.none, blob, blobstore, 0, false, false, false, false, false, false, []⟩

/-- A callback runs with the bdev as its argument. -/
def Lifetime.enter (s : Lifetime) (callback : Callback) : Lifetime :=
  { s with late := if s.released then s.late ++ [callback] else s.late }

/-- An error is logged, under the bdev's name. -/
def ubiDestructBsUnloadCb (s : Lifetime) (_bserrno : Int) : Lifetime := s.enter .bsUnload

def ubiDestructBlobCloseCb (s : Lifetime) (_bserrno : Int) : Lifetime :=
  let s' := s.enter .blobClose
  if s'.blobstore then { s' with unloading := true } else ubiDestructBsUnloadCb s' 0

def ubiDestruct (s : Lifetime) : Lifetime :=
  let s' := if s.blob then { s with closing := true } else ubiDestructBlobCloseCb s 0
  { s' with destructed := true, unregistering := true }

def deviceUnregisterCb (s : Lifetime) : Lifetime := { s with released := true }

inductive LifetimeEvent where
  | delete
  | destruct
  | closed (bserrno : Int)
  | unloaded (bserrno : Int)
  | unregistered
  | createChannel
  | destroyChannel
  | request (event : RequestEvent)
  deriving DecidableEq, Repr

/-- The snapshot callback that a request's event runs, if any. -/
def requestCallback (requests : Requests) : RequestEvent → Option Callback
  | .snapshot _ _ => none
  | .callback id _ =>
    match requests.stage id with
    | .waiting op _ => some (.snapshot op)
    | _ => none
  | .copied _ _ => some .shallowCopyStatus

def lifetimeStep (bdev : UbiBdev) (s : Lifetime) : LifetimeEvent → Option Lifetime
  | .delete => if s.deleting then none else some { s with deleting := true }
  | .destruct => if s.deleting ∧ ¬ s.destructed then some (ubiDestruct s) else none
  | .closed bserrno => if s.closing then some (ubiDestructBlobCloseCb { s with closing := false } bserrno) else none
  | .unloaded bserrno => if s.unloading then some (ubiDestructBsUnloadCb { s with unloading := false } bserrno) else none
  -- SPDK waits for the channels, and for nothing else
  | .unregistered =>
    if s.unregistering ∧ s.channels = 0 then some (deviceUnregisterCb { s with unregistering := false }) else none
  | .createChannel => if s.destructed then none else some { s with channels := s.channels + 1 }
  | .destroyChannel => if s.channels = 0 then none else some { s with channels := s.channels - 1 }
  | .request event =>
    -- the name is found until the bdev is destructed
    match event, s.destructed with
    | .snapshot true _, true => none
    | _, _ =>
      (requestStep bdev s.requests event).map fun requests =>
        { (match requestCallback s.requests event with
            | some callback => s.enter callback
            | none => s) with
          requests := requests }

/-! ## What each event does -/

section
variable {s s' : Lifetime} {bdev : UbiBdev}

theorem lifetimeStep_delete (stepped : lifetimeStep bdev s .delete = some s') : s' = { s with deleting := true } := by
  have moved : s.deleting = false ∧ { s with deleting := true } = s' := by simpa [lifetimeStep] using stepped
  exact moved.2.symm

theorem lifetimeStep_destruct (stepped : lifetimeStep bdev s .destruct = some s') :
    s.destructed = false ∧ s' = ubiDestruct s := by
  have moved : (s.deleting = true ∧ s.destructed = false) ∧ ubiDestruct s = s' := by simpa [lifetimeStep] using stepped
  exact ⟨moved.1.2, moved.2.symm⟩

theorem lifetimeStep_closed {bserrno : Int} (stepped : lifetimeStep bdev s (.closed bserrno) = some s') :
    s.closing = true ∧ s' = ubiDestructBlobCloseCb { s with closing := false } bserrno := by
  have moved : s.closing = true ∧ ubiDestructBlobCloseCb { s with closing := false } bserrno = s' := by
    simpa [lifetimeStep] using stepped
  exact ⟨moved.1, moved.2.symm⟩

theorem lifetimeStep_unloaded {bserrno : Int} (stepped : lifetimeStep bdev s (.unloaded bserrno) = some s') :
    s.unloading = true ∧ s' = ubiDestructBsUnloadCb { s with unloading := false } bserrno := by
  have moved : s.unloading = true ∧ ubiDestructBsUnloadCb { s with unloading := false } bserrno = s' := by
    simpa [lifetimeStep] using stepped
  exact ⟨moved.1, moved.2.symm⟩

theorem lifetimeStep_unregistered (stepped : lifetimeStep bdev s .unregistered = some s') :
    s.unregistering = true ∧ s' = deviceUnregisterCb { s with unregistering := false } := by
  have moved : (s.unregistering = true ∧ s.channels = 0) ∧ deviceUnregisterCb { s with unregistering := false } = s' := by
    simpa [lifetimeStep] using stepped
  exact ⟨moved.1.1, moved.2.symm⟩

theorem lifetimeStep_createChannel (stepped : lifetimeStep bdev s .createChannel = some s') :
    s' = { s with channels := s.channels + 1 } := by
  have moved : s.destructed = false ∧ { s with channels := s.channels + 1 } = s' := by simpa [lifetimeStep] using stepped
  exact moved.2.symm

theorem lifetimeStep_destroyChannel (stepped : lifetimeStep bdev s .destroyChannel = some s') :
    s' = { s with channels := s.channels - 1 } := by
  have moved : ¬ s.channels = 0 ∧ { s with channels := s.channels - 1 } = s' := by simpa [lifetimeStep] using stepped
  exact moved.2.symm

end

/-! ## Nothing outstanding -/

/-- No callback of the bdev is still to come. -/
structure Lifetime.Quiet (s : Lifetime) : Prop where
  closing : s.closing = false
  unloading : s.unloading = false
  requests : ∀ id op ctx, s.requests.stage id ≠ .waiting op ctx

/-- The record is freed only when no callback is still to come. -/
def ReleasedLast (s : Lifetime) : LifetimeEvent → Prop
  | .unregistered => s.Quiet
  | _ => True

def Lifetime.NoLateCallback (s : Lifetime) : Prop := s.late = []

/-- A freed record is destructed and has nothing outstanding. -/
structure Lifetime.Sound (s : Lifetime) : Prop where
  late : s.late = []
  unregistering : s.unregistering = true → s.destructed = true
  released : s.released = true → s.destructed = true ∧ s.unregistering = false ∧ s.Quiet

section
variable {s s' : Lifetime} {bdev : UbiBdev}

theorem Lifetime.enter_live (live : s.released = false) (callback : Callback) : s.enter callback = s := by
  cases s
  simp only [Lifetime.enter] at live ⊢
  simp only [live, Bool.false_eq_true, ↓reduceIte]

/-- With a callback still to come the record has not been freed. -/
theorem Lifetime.Sound.live (sound : s.Sound) (pending : ¬ s.Quiet) : s.released = false := by
  cases freed : s.released with
  | false => rfl
  | true => exact absurd (sound.released freed).2.2 pending

/-- For a record that is in use the rest is only its order of destruction. -/
theorem Lifetime.sound_live (live : s.released = false) (late : s.late = [])
    (order : s.unregistering = true → s.destructed = true) : s.Sound where
  late := late
  unregistering := order
  released := by
    intro freed
    rw [live] at freed
    cases freed

theorem Lifetime.Sound.blobClose (sound : s.Sound) (live : s.released = false) (bserrno : Int) :
    (ubiDestructBlobCloseCb s bserrno).Sound ∧ (ubiDestructBlobCloseCb s bserrno).released = false := by
  simp only [ubiDestructBlobCloseCb, Lifetime.enter_live live, ubiDestructBsUnloadCb]
  split
  · exact ⟨sound_live live sound.late sound.unregistering, live⟩
  · exact ⟨sound, live⟩

theorem Lifetime.Sound.destruct (sound : s.Sound) (alive : s.destructed = false) : (ubiDestruct s).Sound := by
  have live : s.released = false := by
    cases freed : s.released with
    | false => rfl
    | true =>
      rw [(sound.released freed).1] at alive
      cases alive
  unfold ubiDestruct
  split
  · exact sound_live live sound.late fun _ => rfl
  · obtain ⟨closed, live'⟩ := sound.blobClose live 0
    exact sound_live live' closed.late fun _ => rfl

theorem Lifetime.Sound.closed (sound : s.Sound) (closing : s.closing = true) (bserrno : Int) :
    (ubiDestructBlobCloseCb { s with closing := false } bserrno).Sound := by
  have live : s.released = false := by
    apply sound.live
    intro quiet
    rw [quiet.closing] at closing
    cases closing
  have closed : Lifetime.Sound { s with closing := false } := sound_live live sound.late sound.unregistering
  exact (closed.blobClose live bserrno).1

theorem Lifetime.Sound.unloaded (sound : s.Sound) (unloading : s.unloading = true) (bserrno : Int) :
    (ubiDestructBsUnloadCb { s with unloading := false } bserrno).Sound := by
  have live : s.released = false := by
    apply sound.live
    intro quiet
    rw [quiet.unloading] at unloading
    cases unloading
  have entered : ubiDestructBsUnloadCb { s with unloading := false } bserrno = { s with unloading := false } :=
    @Lifetime.enter_live { s with unloading := false } live _
  rw [entered]
  exact sound_live live sound.late sound.unregistering

theorem Lifetime.Sound.unregistered (sound : s.Sound) (unregistering : s.unregistering = true) (quiet : s.Quiet) :
    (deviceUnregisterCb { s with unregistering := false }).Sound where
  late := sound.late
  unregistering := by
    intro pending
    cases pending
  released := fun _ => ⟨sound.unregistering unregistering, rfl, quiet.closing, quiet.unloading, quiet.requests⟩

/-- A request that finds no bdev waits for nothing. -/
theorem Lifetime.Sound.notFound (sound : s.Sound) (path : String) :
    Lifetime.Sound { s with
      requests := { s.requests.apply s.requests.issued (bdevUbiSnapshot s.requests.status false path) with
        issued := s.requests.issued + 1 } } where
  late := sound.late
  unregistering := sound.unregistering
  released := by
    intro freed
    obtain ⟨destructed, unregistering, quiet⟩ := sound.released freed
    refine ⟨destructed, unregistering, quiet.closing, quiet.unloading, ?_⟩
    intro id op ctx
    by_cases same : id = s.requests.issued
    · subst same
      simp [Requests.apply, bdevUbiSnapshot]
    · simp only [Requests.apply, Function.update_of_ne same]
      exact quiet.requests id op ctx

theorem Lifetime.Sound.request (sound : s.Sound) {event : RequestEvent}
    (stepped : lifetimeStep bdev s (.request event) = some s') : s'.Sound := by
  cases event with
  | snapshot found path =>
    cases found with
    | false =>
      cases stepped
      exact sound.notFound path
    | true =>
      cases destructed : s.destructed with
      | true =>
        simp only [lifetimeStep, destructed] at stepped
        cases stepped
      | false =>
        have live : s.released = false := by
          cases freed : s.released with
          | false => rfl
          | true =>
            rw [(sound.released freed).1] at destructed
            cases destructed
        simp only [lifetimeStep, destructed] at stepped
        cases stepped
        exact sound_live live sound.late sound.unregistering
  | callback id outcome =>
    simp only [lifetimeStep] at stepped
    obtain ⟨requests, called, rfl⟩ := Option.map_eq_some_iff.mp stepped
    obtain ⟨op, ctx, waiting, _⟩ := requestStep_callback called
    have live : s.released = false := sound.live fun quiet => quiet.requests id op ctx waiting
    simp only [requestCallback, waiting, Lifetime.enter_live live]
    exact sound_live live sound.late sound.unregistering
  | copied id copiedClusters =>
    simp only [lifetimeStep] at stepped
    obtain ⟨requests, called, rfl⟩ := Option.map_eq_some_iff.mp stepped
    obtain ⟨⟨ctx, waiting⟩, _⟩ := requestStep_copied called
    have live : s.released = false := sound.live fun quiet => quiet.requests id _ ctx waiting
    simp only [requestCallback, Lifetime.enter_live live]
    exact sound_live live sound.late sound.unregistering

/-- What frees nothing and calls nothing keeps everything. -/
theorem Lifetime.Sound.keep (sound : s.Sound) (deleting : Bool) (channels : Nat) :
    Lifetime.Sound { s with deleting := deleting, channels := channels } where
  late := sound.late
  unregistering := sound.unregistering
  released := by
    intro freed
    obtain ⟨destructed, unregistering, quiet⟩ := sound.released freed
    exact ⟨destructed, unregistering, quiet.closing, quiet.unloading, quiet.requests⟩

end

theorem sound_step {bdev : UbiBdev} (s : Lifetime) (event : LifetimeEvent) (s' : Lifetime) (sound : s.Sound)
    (guard : ReleasedLast s event) (stepped : lifetimeStep bdev s event = some s') : s'.Sound := by
  cases event with
  | request event => exact sound.request stepped
  | delete =>
    cases lifetimeStep_delete stepped
    exact sound.keep true s.channels
  | destruct =>
    obtain ⟨alive, rfl⟩ := lifetimeStep_destruct stepped
    exact sound.destruct alive
  | closed bserrno =>
    obtain ⟨closing, rfl⟩ := lifetimeStep_closed stepped
    exact sound.closed closing bserrno
  | unloaded bserrno =>
    obtain ⟨unloading, rfl⟩ := lifetimeStep_unloaded stepped
    exact sound.unloaded unloading bserrno
  | unregistered =>
    obtain ⟨unregistering, rfl⟩ := lifetimeStep_unregistered stepped
    exact sound.unregistered unregistering guard
  | createChannel =>
    cases lifetimeStep_createChannel stepped
    exact sound.keep s.deleting _
  | destroyChannel =>
    cases lifetimeStep_destroyChannel stepped
    exact sound.keep s.deleting _

/-- As long as the io_device's unregistration completes after every other callback, no
callback runs on a freed record. -/
theorem no_callback_after_release (bdev : UbiBdev) (blob blobstore : Bool) (events : List LifetimeEvent)
    (guarded : Guarded (lifetimeStep bdev) ReleasedLast (.created blob blobstore) events) :
    Always (lifetimeStep bdev) Lifetime.NoLateCallback (.created blob blobstore) events := by
  have start : (Lifetime.created blob blobstore).Sound := by
    refine ⟨rfl, ?_, ?_⟩
    · intro pending
      cases pending
    · intro freed
      cases freed
  exact (always_of_guarded sound_step start guarded).mono fun _ sound => sound.late

def smallBdev : UbiBdev := ⟨16, 4096, 16, 4096⟩

theorem no_callback_after_release_in_order :
    (run (lifetimeStep smallBdev) (.created true true) [.delete, .destruct, .closed 0, .unloaded 0, .unregistered]).map
      (fun s => s.released) = some true ∧
    Always (lifetimeStep smallBdev) Lifetime.NoLateCallback (.created true true)
      [.delete, .destruct, .closed 0, .unloaded 0, .unregistered] := by
  refine ⟨rfl, no_callback_after_release smallBdev true true _ ?_⟩
  refine ⟨trivial, fun s₁ first => ⟨trivial, fun s₂ second => ⟨trivial, fun s₃ third => ⟨trivial, fun s₄ fourth => ?_⟩⟩⟩⟩
  cases first
  cases second
  cases third
  cases fourth
  exact ⟨⟨rfl, rfl, fun id op ctx => Stage.noConfusion⟩, fun _ _ => trivial⟩

/-- The io_device goes first, and the close completes on a freed record; a snapshot's
callback does the same. -/
theorem callback_after_release :
    ¬ Always (lifetimeStep smallBdev) Lifetime.NoLateCallback (.created true true)
      [.delete, .destruct, .unregistered, .closed 0] ∧
    ¬ Always (lifetimeStep smallBdev) Lifetime.NoLateCallback (.created true true)
      [.request (.snapshot true "snapshot"), .delete, .destruct, .closed 0, .unloaded (-16), .unregistered,
        .request (.callback 0 .fine)] := by
  constructor
  · intro always
    have late : [Callback.blobClose] = [] := always.final rfl
    cases late
  · intro always
    have late : [Callback.snapshot .createSnapshot] = [] := always.final rfl
    cases late

end BdevUbi.Bdev
