import BdevUbi.Bdev.Lifetime
import BdevUbi.Device.Uring

/-! The creation of a bdev, `bdev_ubi_create` and its callbacks in `bdev_ubi.c`.

The flow is one chain: each call completes once and its callback makes the next call or
ends the flow. The results of all calls are given beforehand, so a callback is a function
of the state it finds. The state has a list of what was done, in order; log messages are
left out, except where an argument of one is a call.
-/

set_option autoImplicit false

namespace BdevUbi.Bdev
open BdevUbi.Library RegularFile BdevUbi.Device

/-- The options that the flow looks at. -/
structure UbiBdevOpts where
  imagePath : String
  snapshotPath : Option String
  formatBdev : Bool
  deriving DecidableEq, Repr

inductive CreateStep where
  | calloc
  | strdup
  | createBsDev
  | bsInit
  | bsLoad
  | iterFirst
  | createBlob
  | createSnapshot
  | openBlob
  | bdevRegister
  deriving DecidableEq, Repr

/-- What the flow does; a blob function is noted with whether its blob is not NULL. -/
inductive CreateAct where
  | ioDeviceRegister
  | ioDeviceUnregister
  | issue (step : CreateStep)
  | blobGetId (blob : Bool)
  | blobGetNumIoUnits (blob : Bool)
  | blobClose (blob : Bool)
  | blobClosed
  | bsUnload
  | releaseBdev
  | insertTail
  | done (status : Int)
  | freeContext
  deriving DecidableEq, Repr

/-- The results of the calls, in the order of the flow; an error is a number other than 0. -/
structure CreateOutcomes where
  calloc : Bool
  strdup : Bool
  createBsDev : Int
  -- of `spdk_bs_init` or `spdk_bs_load`
  bsInit : Int
  iterFirst : Int
  createBlob : Int
  createSnapshot : Int
  openBlob : Int
  bdevRegister : Int
  -- what `bs_dev_uring_create` meets when the blob is opened
  uringAlloc : Bool
  files : String → Option RegularFile
  transfer : Transfer
  blocklen : Nat
  clusterSize : Nat

structure Creation where
  -- the record that the callbacks of the destruction work on
  life : Lifetime
  -- `context->ubi_bdev` is not NULL
  allocated : Bool
  registerd : Bool
  imagePath : String
  snapshotPath : String
  -- what the blobstore was given as the external snapshot, once it has asked
  esnap : Option (Option BsDevUring)
  listed : Bool
  published : Bool
  acts : List CreateAct

/-- The context comes from calloc. -/
def Creation.start : Creation := ⟨.created false false, false, false, "", "", none, false, false, []⟩

def Creation.log (s : Creation) (acts : List CreateAct) : Creation := { s with acts := s.acts ++ acts }

/-- `strncpy(.., UBI_PATH_LEN)` with a terminating zero behind it. A path has one character a byte. -/
def storePath (path : String) : String := String.ofList (path.toList.take 1023)

/-- The device is passed on as it comes, and the status is 0 either way. The record's own
`directio` is never set. -/
def ubiEsnapDevCreate (o : CreateOutcomes) (s : Creation) : Int × Option BsDevUring :=
  (0, if o.uringAlloc then
    bsDevUringCreate o.files s.imagePath s.snapshotPath o.blocklen o.clusterSize false o.transfer
  else none)

/-- The callback of a close in the failure branch of `ubi_finish_create`. -/
def Creation.blobCloseCb (s : Creation) (bserrno : Int) : Creation :=
  { s with life := ubiDestructBlobCloseCb s.life bserrno }.log (if s.life.blobstore then [.bsUnload] else [])

/-- The failure branch of `ubi_finish_create`; the io_device goes without a callback. -/
def Creation.cleanup (s : Creation) : Creation :=
  let s := if s.registerd then { s with life := { s.life with unregistering := true } }.log [.ioDeviceUnregister] else s
  if s.life.blob then { s with life := { s.life with closing := true } }.log [.blobClose s.life.blob]
  else s.blobCloseCb 0

/-- The success branch of `ubi_finish_create`, with the status it goes on with. -/
def Creation.publish (o : CreateOutcomes) (s : Creation) : Int × Creation :=
  let s := s.log [.blobGetNumIoUnits s.life.blob, .issue .bdevRegister]
  if o.bdevRegister ≠ 0 then (o.bdevRegister, s.log [.releaseBdev])
  else (0, { s with listed := true, published := true }.log [.insertTail])

def ubiFinishCreate (o : CreateOutcomes) (status : Int) (s : Creation) : Creation :=
  let result := if status = 0 then s.publish o else (status, s)
  (if result.1 ≠ 0 ∧ result.2.allocated then result.2.cleanup else result.2).log [.done result.1, .freeContext]

/-- The blob's id is asked for before the error is looked at. -/
def ubiBlobOpenComplete (o : CreateOutcomes) (blob : Bool) (bserrno : Int) (s : Creation) : Creation :=
  let s := s.log [.blobGetId blob]
  if bserrno ≠ 0 then ubiFinishCreate o bserrno s
  else ubiFinishCreate o 0 ({ s with life := { s.life with blob := blob } }.log [.blobGetId blob])

/-- Opening a blob asks for its external snapshot and fails if that is refused; a blob is
passed on exactly if the call succeeds. -/
def Creation.open (o : CreateOutcomes) (step : CreateStep) (other : Int) (s : Creation) : Creation :=
  let esnap := ubiEsnapDevCreate o s
  let bserrno := if esnap.1 ≠ 0 then esnap.1 else other
  ubiBlobOpenComplete o (bserrno == 0) bserrno ({ s with esnap := some esnap.2 }.log [.issue step])

def ubiBlobSnapshotComplete (o : CreateOutcomes) (bserrno : Int) (s : Creation) : Creation :=
  if bserrno ≠ 0 then ubiFinishCreate o bserrno s else s.open o .openBlob o.openBlob

def ubiBlobCreateComplete (o : CreateOutcomes) (bserrno : Int) (s : Creation) : Creation :=
  if bserrno ≠ 0 then ubiFinishCreate o bserrno s
  else ubiBlobSnapshotComplete o o.createSnapshot (s.log [.issue .createSnapshot])

def ubiBsInitComplete (o : CreateOutcomes) (formatBdev : Bool) (bserrno : Int) (s : Creation) : Creation :=
  if bserrno ≠ 0 then ubiFinishCreate o bserrno s
  else
    let s := { s with life := { s.life with blobstore := true } }
    if formatBdev = false then s.open o .iterFirst o.iterFirst
    else ubiBlobCreateComplete o o.createBlob (s.log [.issue .createBlob])

def bdevUbiCreate (opts : UbiBdevOpts) (o : CreateOutcomes) : Creation :=
  if o.calloc = false then ubiFinishCreate o (-enomem) .start
  else
    let s := { Creation.start with allocated := true }
    if o.strdup = false then ubiFinishCreate o (-enomem) s
    else
      let s := { s with imagePath := storePath opts.imagePath, snapshotPath := (opts.snapshotPath.map storePath).getD "" }
      if o.createBsDev ≠ 0 then ubiFinishCreate o o.createBsDev s
      else
        let s := { s with registerd := true }.log [.ioDeviceRegister]
        ubiBsInitComplete o opts.formatBdev o.bsInit (s.log [.issue (if opts.formatBdev then .bsInit else .bsLoad)])

/-! ## The steps of a flow -/

/-- The calls of a route with their results, up to the one that registers the bdev. -/
def CreateOutcomes.preparing (o : CreateOutcomes) (formatBdev : Bool) : List (CreateStep × Int) :=
  [(.calloc, if o.calloc then 0 else -enomem), (.strdup, if o.strdup then 0 else -enomem), (.createBsDev, o.createBsDev)] ++
  if formatBdev then
    [(.bsInit, o.bsInit), (.createBlob, o.createBlob), (.createSnapshot, o.createSnapshot), (.openBlob, o.openBlob)]
  else [(.bsLoad, o.bsInit), (.iterFirst, o.iterFirst)]

def CreateOutcomes.steps (o : CreateOutcomes) (formatBdev : Bool) : List (CreateStep × Int) :=
  o.preparing formatBdev ++ [(.bdevRegister, o.bdevRegister)]

/-- The first step of a list that fails, with its error. -/
def firstFailure (steps : List (CreateStep × Int)) : Option (CreateStep × Int) := steps.find? fun step => step.2 != 0

/-- The step is reached and succeeds. -/
def CreateOutcomes.completes (o : CreateOutcomes) (formatBdev : Bool) (step : CreateStep) : Bool :=
  ((o.preparing formatBdev).takeWhile fun before => before.2 == 0).any fun before => before.1 == step

/-- Whether a step opens the blob. -/
def CreateStep.opens : CreateStep → Bool
  | .iterFirst => true
  | .openBlob => true
  | _ => false

/-- The external snapshot of a bdev with these options. -/
def CreateOutcomes.image (o : CreateOutcomes) (opts : UbiBdevOpts) : Option BsDevUring :=
  if o.uringAlloc then
    bsDevUringCreate o.files (storePath opts.imagePath) ((opts.snapshotPath.map storePath).getD "") o.blocklen o.clusterSize
      false o.transfer
  else none

/-- What a flow holds, from the steps it has completed. -/
structure Obtained (opts : UbiBdevOpts) (o : CreateOutcomes) (s : Creation) (blob : Bool) : Prop where
  device : s.registerd = o.completes opts.formatBdev .createBsDev
  blobstore : s.life.blobstore = (o.completes opts.formatBdev .bsInit || o.completes opts.formatBdev .bsLoad)
  blob : blob = (o.completes opts.formatBdev .openBlob || o.completes opts.formatBdev .iterFirst)

/-- What a flow has done when it comes to its end. -/
structure Arrived (opts : UbiBdevOpts) (o : CreateOutcomes) (status : Int) (s : Creation) : Prop where
  answer : status = ((firstFailure (o.preparing opts.formatBdev)).map Prod.snd).getD 0
  acts : ∀ act ∈ s.acts, act = .ioDeviceRegister ∨ (∃ step, act = .issue step) ∨ ∃ blob, act = .blobGetId blob
  null : .blobGetId false ∈ s.acts ↔
    ∃ failure, firstFailure (o.preparing opts.formatBdev) = some failure ∧ failure.1.opens = true
  registered : s.acts.count .ioDeviceRegister = if s.registerd then 1 else 0
  life : s.life = .created s.life.blob s.life.blobstore
  empty : s.allocated = false → s.registerd = false ∧ s.life.blob = false ∧ s.life.blobstore = false
  blob : s.life.blob = true ↔ status = 0
  blobstore : s.life.blob = true → s.life.blobstore = true ∧ s.allocated = true
  hidden : s.listed = false ∧ s.published = false
  esnap : status = 0 → s.esnap = some (o.image opts)
  holds : Obtained opts o s s.life.blob

@[simp] theorem firstFailure_nil : firstFailure [] = none := rfl

@[simp] theorem firstFailure_cons (step : CreateStep) (error : Int) (rest : List (CreateStep × Int)) :
    firstFailure ((step, error) :: rest) = if error = 0 then firstFailure rest else some (step, error) := by
  by_cases fine : error = 0
  · simp [firstFailure, fine]
  · simp [firstFailure, fine]

theorem enomem_ne_zero : -enomem ≠ 0 := by decide

section
variable {opts : UbiBdevOpts} {o : CreateOutcomes}

/-- The acts before the blob is opened. -/
def Preparing (acts : List CreateAct) : Prop := ∀ act ∈ acts, act = .ioDeviceRegister ∨ ∃ step, act = .issue step

theorem Preparing.nil : Preparing [] := fun _ member => by cases member

theorem Preparing.register {acts : List CreateAct} (before : Preparing acts) : Preparing (acts ++ [.ioDeviceRegister]) := by
  intro act member
  rcases List.mem_append.mp member with old | new
  · exact before act old
  · exact Or.inl (List.mem_singleton.mp new)

theorem Preparing.issue {acts : List CreateAct} (before : Preparing acts) (step : CreateStep) :
    Preparing (acts ++ [.issue step]) := by
  intro act member
  rcases List.mem_append.mp member with old | new
  · exact before act old
  · exact Or.inr ⟨step, List.mem_singleton.mp new⟩

theorem Preparing.blobGetId {acts : List CreateAct} (before : Preparing acts) (blob : Bool) : .blobGetId blob ∉ acts := by
  intro member
  rcases before _ member with same | ⟨_, same⟩
  · cases same
  · cases same

/-- A step before the opening fails, and the flow ends there. -/
theorem arrived_failed {s : Creation} (step : CreateStep) {error : Int} (failed : error ≠ 0) (early : step.opens = false)
    (first : firstFailure (o.preparing opts.formatBdev) = some (step, error)) (acts : Preparing s.acts)
    (registered : s.acts.count .ioDeviceRegister = if s.registerd then 1 else 0)
    (life : s.life = .created false s.life.blobstore)
    (empty : s.allocated = false → s.registerd = false ∧ s.life.blobstore = false)
    (hidden : s.listed = false ∧ s.published = false) (obtained : Obtained opts o s false) : Arrived opts o error s := by
  have unopened : s.life.blob = false := by
    rw [life]
    rfl
  refine ⟨?_, ?_, ?_, registered, ?_, ?_, ?_, ?_, hidden, ?_, by rw [unopened]; exact obtained⟩
  · rw [first]
    rfl
  · intro act member
    rcases acts act member with same | issued
    · exact Or.inl same
    · exact Or.inr (Or.inl issued)
  · refine ⟨fun asked => absurd asked (acts.blobGetId false), ?_⟩
    rintro ⟨_, same, opens⟩
    cases first.symm.trans same
    rw [early] at opens
    cases opens
  · rw [unopened]
    exact life
  · intro absent
    exact ⟨(empty absent).1, unopened, (empty absent).2⟩
  · simp [unopened, failed]
  · simp [unopened]
  · exact fun success => absurd success failed

/-- The blob's step is the last one before the bdev is registered. -/
theorem arrived_open {s : Creation} {step : CreateStep} {other : Int} (opening : step.opens = true)
    (first : firstFailure (o.preparing opts.formatBdev) = if other = 0 then none else some (step, other))
    (acts : Preparing s.acts) (registered : s.acts.count .ioDeviceRegister = 1)
    (flags : s.registerd = true ∧ s.allocated = true) (life : s.life = .created false true)
    (hidden : s.listed = false ∧ s.published = false)
    (paths : s.imagePath = storePath opts.imagePath ∧ s.snapshotPath = (opts.snapshotPath.map storePath).getD "")
    (obtained : Obtained opts o s (other == 0)) :
    ∃ status s', s.open o step other = ubiFinishCreate o status s' ∧ Arrived opts o status s' := by
  have issued := acts.issue step
  by_cases fine : other = 0
  · subst fine
    refine ⟨0, _, rfl, ?_, ?_, ?_, ?_, ?_, ?_, ?_, ?_, hidden, ?_, ?_⟩
    · rw [first]
      rfl
    · intro act member
      simp only [Creation.log, List.mem_append, List.mem_singleton] at member
      rcases member with ((old | new) | new) | new
      · rcases acts act old with same | issued
        · exact Or.inl same
        · exact Or.inr (Or.inl issued)
      · exact Or.inr (Or.inl ⟨step, new⟩)
      · exact Or.inr (Or.inr ⟨_, new⟩)
      · exact Or.inr (Or.inr ⟨_, new⟩)
    · simp [first, Creation.log, acts.blobGetId, ubiEsnapDevCreate]
    · simp [Creation.log, registered, flags.1]
    · simp [Creation.log, life, Lifetime.created]
    · simp [Creation.log, flags.2]
    · simp [Creation.log, ubiEsnapDevCreate]
    · simp [Creation.log, life, Lifetime.created, flags.2]
    · simp [Creation.log, ubiEsnapDevCreate, CreateOutcomes.image, paths.1, paths.2]
    · exact ⟨obtained.device, obtained.blobstore, obtained.blob⟩
  · rw [if_neg fine] at first
    refine ⟨other, ({ s with esnap := some (ubiEsnapDevCreate o s).2 }.log [.issue step]).log [.blobGetId false], ?_, ?_, ?_,
      ?_, ?_, ?_, ?_, ?_, ?_, hidden, ?_, ?_⟩
    · simp [Creation.open, ubiBlobOpenComplete, ubiEsnapDevCreate, fine, beq_false_of_ne fine]
    · rw [first]
      rfl
    · intro act member
      simp only [Creation.log, List.mem_append, List.mem_singleton] at member
      rcases member with (old | new) | new
      · rcases acts act old with same | issued
        · exact Or.inl same
        · exact Or.inr (Or.inl issued)
      · exact Or.inr (Or.inl ⟨step, new⟩)
      · exact Or.inr (Or.inr ⟨_, new⟩)
    · simp [first, Creation.log, opening]
    · simp [Creation.log, registered, flags.1]
    · simp [Creation.log, life, Lifetime.created]
    · simp [Creation.log, flags.2]
    · simp [Creation.log, life, Lifetime.created, fine]
    · simp [Creation.log, life, Lifetime.created]
    · exact fun success => absurd success fine
    · refine ⟨obtained.device, obtained.blobstore, ?_⟩
      rw [← obtained.blob, beq_false_of_ne fine]
      simp [Creation.log, life, Lifetime.created]

/-- Every flow comes to its end, and only once. -/
theorem bdevUbiCreate_arrives (opts : UbiBdevOpts) (o : CreateOutcomes) :
    ∃ status s, bdevUbiCreate opts o = ubiFinishCreate o status s ∧ Arrived opts o status s := by
  unfold bdevUbiCreate
  cases calloc : o.calloc with
  | false =>
    refine ⟨-enomem, .start, rfl, arrived_failed .calloc enomem_ne_zero rfl ?_ Preparing.nil rfl rfl ?_ ⟨rfl, rfl⟩ ?_⟩
    · simp [CreateOutcomes.preparing, calloc, enomem]
    · exact fun _ => ⟨rfl, rfl⟩
    · constructor <;> simp [CreateOutcomes.completes, CreateOutcomes.preparing, calloc, enomem, Creation.start, Lifetime.created]
  | true =>
  cases strdup : o.strdup with
  | false =>
    refine ⟨-enomem, _, rfl, arrived_failed .strdup enomem_ne_zero rfl ?_ Preparing.nil rfl rfl ?_ ⟨rfl, rfl⟩ ?_⟩
    · simp [CreateOutcomes.preparing, calloc, strdup, enomem]
    · exact fun _ => ⟨rfl, rfl⟩
    · constructor <;>
        simp [CreateOutcomes.completes, CreateOutcomes.preparing, calloc, strdup, enomem, Creation.start, Lifetime.created]
  | true =>
  by_cases base : o.createBsDev = 0
  · simp only [base, Bool.true_eq_false, ↓reduceIte, ne_eq, not_true_eq_false]
    have registered : Preparing ([CreateAct.ioDeviceRegister]) := Preparing.nil.register
    by_cases init : o.bsInit = 0
    · cases format : opts.formatBdev with
      | false =>
        simp only [ubiBsInitComplete, init, ne_eq, not_true_eq_false, ↓reduceIte, Bool.false_eq_true]
        refine arrived_open rfl ?_ (registered.issue .bsLoad) rfl ⟨rfl, rfl⟩ rfl ⟨rfl, rfl⟩ ⟨rfl, rfl⟩ ?_
        · simp [CreateOutcomes.preparing, calloc, strdup, base, init, format]
        · cases fine : o.iterFirst == 0 <;> constructor <;>
            simp [CreateOutcomes.completes, CreateOutcomes.preparing, calloc, strdup, base, init, format, Creation.log, fine]
      | true =>
        simp only [ubiBsInitComplete, init, ne_eq, not_true_eq_false, ↓reduceIte, Bool.true_eq_false, ubiBlobCreateComplete]
        by_cases blob : o.createBlob = 0
        · simp only [blob, not_true_eq_false, ↓reduceIte, ubiBlobSnapshotComplete]
          by_cases snapshot : o.createSnapshot = 0
          · simp only [snapshot, ne_eq, not_true_eq_false, ↓reduceIte]
            refine arrived_open rfl ?_ (((registered.issue .bsInit).issue .createBlob).issue .createSnapshot) rfl ⟨rfl, rfl⟩
              rfl ⟨rfl, rfl⟩ ⟨rfl, rfl⟩ ?_
            · simp [CreateOutcomes.preparing, calloc, strdup, base, init, format, blob, snapshot]
            · cases fine : o.openBlob == 0 <;> constructor <;>
                simp [CreateOutcomes.completes, CreateOutcomes.preparing, calloc, strdup, base, init, format, blob, snapshot,
                  Creation.log, fine]
          · simp only [snapshot, ne_eq, not_false_eq_true, ↓reduceIte]
            refine ⟨o.createSnapshot, _, rfl, arrived_failed .createSnapshot snapshot rfl ?_
              (((registered.issue .bsInit).issue .createBlob).issue .createSnapshot) rfl rfl ?_ ⟨rfl, rfl⟩ ?_⟩
            · simp [CreateOutcomes.preparing, calloc, strdup, base, init, format, blob, snapshot]
            · intro absent
              cases absent
            · constructor <;>
                simp [CreateOutcomes.completes, CreateOutcomes.preparing, calloc, strdup, base, init, format, blob, snapshot,
                  Creation.log]
        · simp only [blob, not_false_eq_true, ↓reduceIte]
          refine ⟨o.createBlob, _, rfl, arrived_failed .createBlob blob rfl ?_
            ((registered.issue .bsInit).issue .createBlob) rfl rfl ?_ ⟨rfl, rfl⟩ ?_⟩
          · simp [CreateOutcomes.preparing, calloc, strdup, base, init, format, blob]
          · intro absent
            cases absent
          · constructor <;>
              simp [CreateOutcomes.completes, CreateOutcomes.preparing, calloc, strdup, base, init, format, blob, Creation.log]
    · simp only [ubiBsInitComplete, init, ne_eq, not_false_eq_true, ↓reduceIte]
      refine ⟨o.bsInit, _, rfl, arrived_failed (if opts.formatBdev then .bsInit else .bsLoad) init ?_ ?_
        (registered.issue _) rfl rfl ?_ ⟨rfl, rfl⟩ ?_⟩
      · split <;> rfl
      · cases format : opts.formatBdev <;> simp [CreateOutcomes.preparing, calloc, strdup, base, init]
      · intro absent
        cases absent
      · cases format : opts.formatBdev <;> constructor <;>
          simp [CreateOutcomes.completes, CreateOutcomes.preparing, calloc, strdup, base, init, format, Creation.log,
            Creation.start, Lifetime.created]
  · simp only [base, Bool.true_eq_false, ↓reduceIte, ne_eq, not_false_eq_true]
    refine ⟨o.createBsDev, _, rfl, arrived_failed .createBsDev base rfl ?_ Preparing.nil rfl rfl ?_ ⟨rfl, rfl⟩ ?_⟩
    · simp [CreateOutcomes.preparing, calloc, strdup, base]
    · exact fun _ => ⟨rfl, rfl⟩
    · constructor <;>
        simp [CreateOutcomes.completes, CreateOutcomes.preparing, calloc, strdup, base, Creation.start, Lifetime.created]

/-! ## The answer -/

/-- The statuses that `done_fn` was called with. -/
def Creation.answers (s : Creation) : List Int :=
  s.acts.filterMap fun act =>
    match act with
    | .done status => some status
    | _ => none

/-- A blob function with a NULL blob, or the release of a bdev: the flow never claims one. -/
def CreateAct.misuse : CreateAct → Bool
  | .blobGetId blob => !blob
  | .blobGetNumIoUnits blob => !blob
  | .blobClose blob => !blob
  | .releaseBdev => true
  | _ => false

def Creation.Sound (s : Creation) : Prop := ∀ act ∈ s.acts, act.misuse = false

/-- `done_fn` is called once, with 0 or the error of the first step that failed, and
nothing is misused on the way. -/
structure AnsweredOnce (opts : UbiBdevOpts) (o : CreateOutcomes) : Prop where
  once : ∃ status, (bdevUbiCreate opts o).answers = [status] ∧
    (status = 0 ↔ ∀ step ∈ o.steps opts.formatBdev, step.2 = 0) ∧
    ∀ failure, firstFailure (o.steps opts.formatBdev) = some failure → status = failure.2
  sound : (bdevUbiCreate opts o).Sound

theorem answers_log (s : Creation) (acts : List CreateAct) :
    (s.log acts).answers = s.answers ++ acts.filterMap fun act =>
      match act with
      | .done status => some status
      | _ => none :=
  List.filterMap_append

theorem sound_log (s : Creation) (acts : List CreateAct) :
    (s.log acts).Sound ↔ s.Sound ∧ ∀ act ∈ acts, act.misuse = false :=
  List.forall_mem_append

/-- What the failure branch does: it gives the io_device back, and closes the blob or, if
there is none, unloads the blobstore. -/
def Creation.cleanupActs (s : Creation) : List CreateAct :=
  (if s.registerd then [.ioDeviceUnregister] else []) ++
  if s.life.blob then [.blobClose true] else if s.life.blobstore then [.bsUnload] else []

theorem acts_cleanup (s : Creation) : s.cleanup.acts = s.acts ++ s.cleanupActs := by
  unfold Creation.cleanup Creation.cleanupActs Creation.blobCloseCb Creation.log
  cases registerd : s.registerd <;> cases blob : s.life.blob <;> simp [registerd, blob]

theorem mem_cleanupActs {s : Creation} {act : CreateAct} (member : act ∈ s.cleanupActs) :
    act = .ioDeviceUnregister ∨ act = .blobClose true ∨ act = .bsUnload := by
  rcases List.mem_append.mp member with device | rest
  · split at device
    · exact Or.inl (List.mem_singleton.mp device)
    · cases device
  · split at rest
    · exact Or.inr (Or.inl (List.mem_singleton.mp rest))
    · split at rest
      · exact Or.inr (Or.inr (List.mem_singleton.mp rest))
      · cases rest

theorem answers_cleanup (s : Creation) : s.cleanup.answers = s.answers := by
  have none : s.cleanupActs.filterMap (fun act => match act with | .done status => some status | _ => none) = [] := by
    rw [List.filterMap_eq_nil_iff]
    intro act member
    rcases mem_cleanupActs member with rfl | rfl | rfl <;> rfl
  have appended := answers_log s s.cleanupActs
  rw [none, List.append_nil] at appended
  rw [← appended, Creation.answers, acts_cleanup]
  rfl

theorem sound_cleanup (s : Creation) : s.cleanup.Sound ↔ s.Sound := by
  rw [Creation.Sound, acts_cleanup]
  refine (sound_log s s.cleanupActs).trans ⟨And.left, fun sound => ⟨sound, ?_⟩⟩
  intro act member
  rcases mem_cleanupActs member with rfl | rfl | rfl <;> rfl

/-- The end of a flow answers once, with the last step's result if the others succeeded. -/
theorem finish_answers (status : Int) {s : Creation} (unanswered : s.answers = []) :
    (ubiFinishCreate o status s).answers = [if status = 0 then o.bdevRegister else status] := by
  have published : (s.publish o).2.answers = [] := by
    unfold Creation.publish
    split
    · rw [answers_log, answers_log, unanswered]
      rfl
    · simp [Creation.answers, Creation.log] at unanswered ⊢
      exact unanswered
  have result : (s.publish o).1 = o.bdevRegister := by
    unfold Creation.publish
    split
    · rfl
    · rename_i fine
      exact (not_not.mp fine).symm
  unfold ubiFinishCreate
  rw [answers_log]
  by_cases fine : status = 0
  · simp only [fine, ↓reduceIte, result]
    split
    · rw [answers_cleanup, published]
      rfl
    · rw [published]
      rfl
  · simp only [fine, ↓reduceIte]
    split
    · rw [answers_cleanup, unanswered]
      rfl
    · rw [unanswered]
      rfl

/-- The end of a flow misuses nothing but a bdev that could not be registered. -/
theorem finish_sound {status : Int} {s : Creation} (blob : s.life.blob = true ↔ status = 0) :
    (ubiFinishCreate o status s).Sound ↔ s.Sound ∧ (status = 0 → o.bdevRegister = 0) := by
  have answered : ∀ status, ∀ act ∈ [CreateAct.done status, .freeContext], act.misuse = false := by
    simp [CreateAct.misuse]
  unfold ubiFinishCreate
  rw [sound_log, and_iff_left (answered _)]
  by_cases fine : status = 0
  · have opened := blob.mpr fine
    simp only [fine, ↓reduceIte, true_implies]
    by_cases registered : o.bdevRegister = 0
    · simp only [Creation.publish, registered, ne_eq, not_true_eq_false, ↓reduceIte, false_and, and_true]
      simp [Creation.Sound, Creation.log, CreateAct.misuse, or_imp, forall_and, opened]
    · simp only [Creation.publish, registered, ne_eq, not_false_eq_true, ↓reduceIte, true_and, and_false, iff_false]
      intro sound
      split at sound
      · rw [sound_cleanup, sound_log] at sound
        cases sound.2 .releaseBdev (List.mem_singleton.mpr rfl)
      · rw [sound_log] at sound
        cases sound.2 .releaseBdev (List.mem_singleton.mpr rfl)
  · simp only [fine, ↓reduceIte, false_implies, and_true]
    split
    · exact sound_cleanup s
    · exact Iff.rfl

theorem firstFailure_eq_none {steps : List (CreateStep × Int)} :
    firstFailure steps = none ↔ ∀ step ∈ steps, step.2 = 0 := by
  simp [firstFailure]

theorem firstFailure_ne_zero {steps : List (CreateStep × Int)} {failure : CreateStep × Int}
    (first : firstFailure steps = some failure) : failure.2 ≠ 0 := by
  simpa using List.find?_some first

theorem firstFailure_steps (formatBdev : Bool) :
    firstFailure (o.steps formatBdev) =
      (firstFailure (o.preparing formatBdev)).or (if o.bdevRegister = 0 then none else some (.bdevRegister, o.bdevRegister)) := by
  have last := firstFailure_cons .bdevRegister o.bdevRegister []
  rw [firstFailure_nil] at last
  rw [← last]
  exact List.find?_append

theorem preparing_ne_register {formatBdev : Bool} {failure : CreateStep × Int}
    (first : firstFailure (o.preparing formatBdev) = some failure) : failure.1 ≠ .bdevRegister := by
  have member := List.mem_of_find?_eq_some first
  intro register
  cases formatBdev with
  | false =>
    simp only [CreateOutcomes.preparing, List.mem_append, List.mem_cons, List.not_mem_nil, or_false, Bool.false_eq_true,
      ↓reduceIte] at member
    rcases member with (rfl | rfl | rfl) | rfl | rfl <;> cases register
  | true =>
    simp only [CreateOutcomes.preparing, List.mem_append, List.mem_cons, List.not_mem_nil, or_false, ↓reduceIte] at member
    rcases member with (rfl | rfl | rfl) | rfl | rfl | rfl | rfl <;> cases register

section
variable {status : Int} {s : Creation}

/-- What the flow did before its end holds no answer. -/
theorem Arrived.unanswered (arrived : Arrived opts o status s) : s.answers = [] := by
  simp only [Creation.answers, List.filterMap_eq_nil_iff]
  intro act member
  rcases arrived.acts act member with rfl | ⟨step, rfl⟩ | ⟨blob, rfl⟩ <;> rfl

/-- Nothing has been misused before the end unless the opening failed. -/
theorem Arrived.sound_iff (arrived : Arrived opts o status s) :
    s.Sound ↔ ∀ failure, firstFailure (o.preparing opts.formatBdev) = some failure → failure.1.opens = false := by
  constructor
  · intro sound failure first
    by_contra opens
    rw [Bool.not_eq_false] at opens
    cases sound _ (arrived.null.mpr ⟨failure, first, opens⟩)
  · intro early act member
    rcases arrived.acts act member with rfl | ⟨step, rfl⟩ | ⟨blob, rfl⟩
    · rfl
    · rfl
    · cases blob with
      | true => rfl
      | false =>
        obtain ⟨failure, first, opens⟩ := arrived.null.mp member
        rw [early failure first] at opens
        cases opens

/-- The result of the whole flow is the first error of all its steps. -/
theorem Arrived.result (arrived : Arrived opts o status s) :
    (if status = 0 then o.bdevRegister else status) =
      ((firstFailure (o.steps opts.formatBdev)).map Prod.snd).getD 0 := by
  have answer := arrived.answer
  rw [firstFailure_steps]
  cases first : firstFailure (o.preparing opts.formatBdev) with
  | none =>
    rw [first] at answer
    rw [if_pos (show status = 0 from answer)]
    by_cases registered : o.bdevRegister = 0 <;> simp [registered]
  | some failure =>
    rw [first] at answer
    rw [if_neg (by rw [answer]; exact firstFailure_ne_zero first)]
    exact answer

end

/-- Whatever happens, `done_fn` hears the first error, once. -/
theorem create_answers (opts : UbiBdevOpts) (o : CreateOutcomes) :
    (bdevUbiCreate opts o).answers = [((firstFailure (o.steps opts.formatBdev)).map Prod.snd).getD 0] := by
  obtain ⟨status, s, same, arrived⟩ := bdevUbiCreate_arrives opts o
  rw [same, finish_answers status arrived.unanswered, arrived.result]

theorem firstError_eq_zero {steps : List (CreateStep × Int)} :
    ((firstFailure steps).map Prod.snd).getD 0 = 0 ↔ ∀ step ∈ steps, step.2 = 0 := by
  rw [← firstFailure_eq_none]
  cases first : firstFailure steps with
  | none => simp
  | some failure => simp [firstFailure_ne_zero first]

end

/-- The flow answers as it should exactly if the first step that fails, if one does, is
neither the one that opens the blob nor the one that registers the bdev. -/
theorem create_answers_once_iff (opts : UbiBdevOpts) (o : CreateOutcomes) :
    AnsweredOnce opts o ↔ ∀ failure, firstFailure (o.steps opts.formatBdev) = some failure →
      failure.1.opens = false ∧ failure.1 ≠ .bdevRegister := by
  have once : AnsweredOnce opts o ↔ (bdevUbiCreate opts o).Sound := by
    refine ⟨fun answered => answered.sound, fun sound => ⟨⟨_, create_answers opts o, firstError_eq_zero, ?_⟩, sound⟩⟩
    intro failure first
    rw [first]
    rfl
  obtain ⟨status, s, same, arrived⟩ := bdevUbiCreate_arrives opts o
  rw [once, same, finish_sound arrived.blob, arrived.sound_iff, firstFailure_steps]
  have answer := arrived.answer
  cases first : firstFailure (o.preparing opts.formatBdev) with
  | none =>
    -- the last step is the only one that can fail
    rw [first] at answer
    by_cases registered : o.bdevRegister = 0 <;> simp [registered, show status = 0 from answer]
  | some failure =>
    rw [first] at answer
    have failed : status ≠ 0 := by
      rw [answer]
      exact firstFailure_ne_zero first
    simp [failed, preparing_ne_register first]

def CreateOutcomes.fine : CreateOutcomes :=
  ⟨true, true, 0, 0, 0, 0, 0, 0, 0, true, fun _ => some .empty, .full, 512, 4096⟩

/-- A loaded blobstore has no blob (-ENOENT), and a name is in use (-EEXIST). -/
theorem create_misuses :
    ¬ AnsweredOnce ⟨"image", none, false⟩ { CreateOutcomes.fine with iterFirst := -2 } ∧
    ¬ AnsweredOnce ⟨"image", none, true⟩ { CreateOutcomes.fine with bdevRegister := -17 } := by
  constructor
  · intro once
    cases once.sound (.blobGetId false) (by decide)
  · intro once
    cases once.sound .releaseBdev (by decide)

/-! ## The image -/

/-- A bdev that is reported or registered has an image behind it. -/
def PublishedWithImage (opts : UbiBdevOpts) (o : CreateOutcomes) : Prop :=
  (0 ∈ (bdevUbiCreate opts o).answers ∨ (bdevUbiCreate opts o).published = true) →
    ∃ image, (bdevUbiCreate opts o).esnap = some (some image)

/-- There is memory for the device, the image can be found, and the table of the snapshot,
if there is one, can be read. -/
def CreateOutcomes.ImageAvailable (o : CreateOutcomes) (opts : UbiBdevOpts) : Prop :=
  o.uringAlloc = true ∧ (o.files (storePath opts.imagePath)).isSome = true ∧
  ((opts.snapshotPath.map storePath).getD "" = "" ∨
    (o.files ((opts.snapshotPath.map storePath).getD "")).isSome = true ∧ o.transfer ≠ .failed)

theorem readClusterMap_isSome {opened : Option RegularFile} {transfer : Transfer} {map : ClusterMap} :
    (ubiReadClusterMap opened transfer map).isSome = true ↔ opened.isSome = true ∧ transfer ≠ .failed := by
  cases opened with
  | none => simp [ubiReadClusterMap]
  | some file => cases transfer <;> simp [ubiReadClusterMap, sysRead]

theorem image_isSome_iff {opts : UbiBdevOpts} {o : CreateOutcomes} :
    (o.image opts).isSome = true ↔ o.ImageAvailable opts := by
  unfold CreateOutcomes.image CreateOutcomes.ImageAvailable bsDevUringCreate
  cases o.uringAlloc with
  | false => simp
  | true =>
    cases o.files (storePath opts.imagePath) with
    | none => simp
    | some image =>
      by_cases plain : (opts.snapshotPath.map storePath).getD "" = ""
      · simp [plain]
      · simp only [↓reduceIte, Option.bind_some, plain, Option.isSome_map, readClusterMap_isSome, Option.isSome_some, true_and,
          false_or]

/-- The failure branch leaves alone what others can see of the bdev. -/
theorem cleanup_frame (s : Creation) :
    s.cleanup.published = s.published ∧ s.cleanup.listed = s.listed ∧ s.cleanup.esnap = s.esnap := by
  unfold Creation.cleanup Creation.blobCloseCb Creation.log
  cases s.registerd <;> cases blob : s.life.blob <;> simp [blob]

/-- A bdev is registered exactly if the flow is answered with 0. -/
theorem Arrived.published {opts : UbiBdevOpts} {o : CreateOutcomes} {status : Int} {s : Creation}
    (arrived : Arrived opts o status s) :
    (ubiFinishCreate o status s).published = true ↔ (if status = 0 then o.bdevRegister else status) = 0 := by
  unfold ubiFinishCreate Creation.publish
  by_cases fine : status = 0
  · by_cases registered : o.bdevRegister = 0
    · simp [fine, registered, Creation.log]
    · simp only [fine, ↓reduceIte, registered, ne_eq, not_false_eq_true, true_and]
      split
      · simp [Creation.log, cleanup_frame, arrived.hidden.2]
      · simp [Creation.log, arrived.hidden.2]
  · simp only [fine, ↓reduceIte, ne_eq, not_false_eq_true, true_and]
    split
    · simp [Creation.log, cleanup_frame, arrived.hidden.2]
    · simp [Creation.log, arrived.hidden.2]

theorem finish_esnap (o : CreateOutcomes) (status : Int) (s : Creation) : (ubiFinishCreate o status s).esnap = s.esnap := by
  have published : (s.publish o).2.esnap = s.esnap := by
    unfold Creation.publish
    split <;> rfl
  unfold ubiFinishCreate
  simp only [Creation.log]
  by_cases fine : status = 0
  · simp only [fine, ↓reduceIte]
    split
    · rw [(cleanup_frame _).2.2, published]
    · exact published
  · simp only [fine, ↓reduceIte]
    split
    · exact (cleanup_frame s).2.2
    · rfl

/-- A bdev is published without its image exactly if the device for the image could not
be made and nothing else went wrong. -/
theorem published_with_image_iff (opts : UbiBdevOpts) (o : CreateOutcomes) :
    PublishedWithImage opts o ↔ o.ImageAvailable opts ∨ ∃ step ∈ o.steps opts.formatBdev, step.2 ≠ 0 := by
  obtain ⟨status, s, same, arrived⟩ := bdevUbiCreate_arrives opts o
  have answers := create_answers opts o
  have published := arrived.published
  rw [arrived.result, ← same] at published
  unfold PublishedWithImage
  rw [answers, published, List.mem_singleton, eq_comm, or_self, firstError_eq_zero]
  by_cases all : ∀ step ∈ o.steps opts.formatBdev, step.2 = 0
  · have success : status = 0 := by
      rw [arrived.answer, firstError_eq_zero]
      intro step member
      exact all step (List.mem_append_left _ member)
    have none : ¬ ∃ step ∈ o.steps opts.formatBdev, step.2 ≠ 0 := by
      rintro ⟨step, member, failed⟩
      exact failed (all step member)
    rw [same, finish_esnap, arrived.esnap success]
    rw [or_iff_left none, ← image_isSome_iff, Option.isSome_iff_exists]
    simp only [Option.some.injEq]
    exact ⟨fun shown => shown all, fun image _ => image⟩
  · have failed : ∃ step ∈ o.steps opts.formatBdev, step.2 ≠ 0 := by
      push Not at all
      exact all
    simp only [all, false_implies, failed, or_true]

/-- The image is missing, and the bdev is reported and registered all the same. -/
theorem published_without_image :
    ¬ PublishedWithImage ⟨"image", none, true⟩ { CreateOutcomes.fine with files := fun _ => none } := by
  intro published
  obtain ⟨_, image⟩ := published (Or.inl (by decide))
  have none : (bdevUbiCreate ⟨"image", none, true⟩ { CreateOutcomes.fine with files := fun _ => none }).esnap = some none := rfl
  rw [none] at image
  cases image

end BdevUbi.Bdev
