import BdevUbi.Device.Delta
import BdevUbi.Library.Transitions

/-! The callback chain of a snapshot request, `bdev_ubi_snapshot.c`.

A request is a context that travels through six asynchronous blobstore calls. Each
callback is a function of the bdev's status record, the context and the outcomes of
the calls it makes; it gives the new record, what it did, and what the request then
waits for. Log messages and the context's back pointers are left out.
-/

set_option autoImplicit false

namespace BdevUbi.Snapshot
open BdevUbi.Library BdevUbi.Device

structure SnapshotStatus where
  inProgress : Bool
  result : Int
  copiedClusters : Nat
  totalClusters : Nat
  deriving DecidableEq, Repr

/-- A bdev's record is allocated with calloc. -/
def SnapshotStatus.initial : SnapshotStatus := ⟨false, 0, 0, 0⟩

/-- What the chain reads of the bdev and of its blobstore. -/
structure UbiBdev where
  blockcnt : Nat
  blocklen : Nat
  totalDataClusterCount : Nat
  clusterSize : Nat
  deriving DecidableEq, Repr

/-- A bdev of the given sizes. -/
def UbiBdev.ofSizes (sizes : DeltaSizes) (blockcnt totalDataClusterCount : Nat) : UbiBdev :=
  ⟨blockcnt, sizes.blocklen, totalDataClusterCount, sizes.clusterSize⟩

/-- The same with the cluster and block sizes of a blobstore. -/
def UbiBdev.sized (C : ClusterSize) (B : BlockLength) (blockcnt totalDataClusterCount : Nat) : UbiBdev :=
  ⟨blockcnt, B.bytes, totalDataClusterCount, C.bytes⟩

structure SnapshotContext where
  path : String
  snapshotBlobid : Nat
  cloneBlobid : Nat
  ch : Bool
  shallowCopyBsDev : Option BsDevDelta
  deriving DecidableEq, Repr

/-- The asynchronous calls, named after what they do in the blobstore. -/
inductive BlobOp where
  | createSnapshot
  | createClone
  | openBlob
  | closeBlob
  | decoupleParent
  | shallowCopy
  deriving DecidableEq, Repr

/-- What a callback does besides the status record: the client's `cb_fn`, the
asynchronous calls, and the resources taken and given back. -/
inductive Act where
  | answer (status : Int)
  | issue (op : BlobOp)
  | allocChannel
  | freeChannel
  | createDelta
  | destroyDelta
  | freeContext
  deriving DecidableEq, Repr

inductive Stage where
  | absent
  | waiting (op : BlobOp) (ctx : SnapshotContext)
  | cleaned
  -- a copy that was refused: nothing pending, nothing given back
  | abandoned (ctx : SnapshotContext)
  deriving DecidableEq, Repr

structure Effect where
  status : SnapshotStatus
  acts : List Act
  stage : Stage
  deriving DecidableEq, Repr

/-- The outcomes a callback can meet: the blob id and the error of the call that
completed, and the results of the calls it makes itself. -/
structure Outcome where
  blobid : Nat
  bserrno : Int
  channel : Bool
  setReadOnly : Int
  shallowCopy : Int
  deriving DecidableEq, Repr

def Outcome.fine : Outcome := ⟨0, 0, true, 0, 0⟩

def cleanupSnapshotContext (ctx : SnapshotContext) : List Act :=
  (if ctx.shallowCopyBsDev.isSome then [.destroyDelta] else []) ++
  (if ctx.ch then [.freeChannel] else []) ++ [.freeContext]

/-- The error branch that the callbacks share. -/
def failSnapshot (status : SnapshotStatus) (ctx : SnapshotContext) (bserrno : Int) : Effect where
  status := { status with result := bserrno }
  acts := .answer bserrno :: cleanupSnapshotContext ctx
  stage := .cleaned

def ubiShallowCopyCompleteCb (status : SnapshotStatus) (ctx : SnapshotContext) (rc : Int) : Effect where
  status := { status with result := if rc ≠ 0 then rc else status.result, inProgress := false }
  acts := cleanupSnapshotContext ctx
  stage := .cleaned

def ubiShallowCopyStatusCb (status : SnapshotStatus) (copiedClusters : Nat) : SnapshotStatus :=
  { status with copiedClusters := copiedClusters }

/-- The device a snapshot is copied to. `cluster_size` is a `uint32_t` there. -/
def UbiBdev.deltaDev (bdev : UbiBdev) (path : String) : BsDevDelta :=
  bsDevDeltaCreate path bdev.blockcnt bdev.blocklen (bdev.clusterSize % 2 ^ 32) .write

/-- The flag is set before the copy is asked for, and the client hears the copy's
return value whatever it is; nothing is cleaned up here. -/
def ubiStartSnapshot (bdev : UbiBdev) (status : SnapshotStatus) (ctx : SnapshotContext) (bserrno shallowCopy : Int) : Effect :=
  if bserrno ≠ 0 then failSnapshot status ctx bserrno
  else
    let ctx' := { ctx with shallowCopyBsDev := some (bdev.deltaDev ctx.path) }
    { status := { status with inProgress := true, totalClusters := bdev.totalDataClusterCount }
      acts := [.createDelta, .issue .shallowCopy, .answer shallowCopy]
      stage := if shallowCopy = 0 then .waiting .shallowCopy ctx' else .abandoned ctx' }

def ubiDecoupleParentCb (bdev : UbiBdev) (status : SnapshotStatus) (ctx : SnapshotContext) (bserrno shallowCopy : Int) : Effect :=
  if bserrno ≠ 0 then failSnapshot status ctx bserrno
  else ubiStartSnapshot bdev status ctx 0 shallowCopy

def ubiCloseCloneCb (status : SnapshotStatus) (ctx : SnapshotContext) (bserrno : Int) : Effect :=
  if bserrno ≠ 0 then failSnapshot status ctx bserrno
  else ⟨status, [.issue .decoupleParent], .waiting .decoupleParent ctx⟩

def ubiOpenCloneCb (status : SnapshotStatus) (ctx : SnapshotContext) (bserrno setReadOnly : Int) : Effect :=
  if bserrno ≠ 0 then failSnapshot status ctx bserrno
  else if setReadOnly ≠ 0 then failSnapshot status ctx setReadOnly
  else ⟨status, [.issue .closeBlob], .waiting .closeBlob ctx⟩

def ubiCloneCreateCb (status : SnapshotStatus) (ctx : SnapshotContext) (blobid : Nat) (bserrno : Int) : Effect :=
  if bserrno ≠ 0 then failSnapshot status ctx bserrno
  else ⟨status, [.issue .openBlob], .waiting .openBlob { ctx with cloneBlobid := blobid }⟩

def ubiSnapshotCreateCb (status : SnapshotStatus) (ctx : SnapshotContext) (blobid : Nat) (bserrno : Int) (channel : Bool) : Effect :=
  if bserrno ≠ 0 then failSnapshot status ctx bserrno
  else if ctx.path = "" then ⟨status, .answer 0 :: cleanupSnapshotContext ctx, .cleaned⟩
  else
    ⟨status, [.allocChannel, .issue .createClone],
      .waiting .createClone { ctx with snapshotBlobid := blobid, ch := channel }⟩

/-- A request by a name that is looked up; the record is touched by no one here. -/
def bdevUbiSnapshot (status : SnapshotStatus) (found : Bool) (path : String) : Effect :=
  if found then ⟨status, [.issue .createSnapshot], .waiting .createSnapshot ⟨path, 0, 0, false, none⟩⟩
  else ⟨status, [.answer (-enoent)], .cleaned⟩

/-- The callback that completes a call. -/
def BlobOp.callback (bdev : UbiBdev) (status : SnapshotStatus) (ctx : SnapshotContext) (outcome : Outcome) : BlobOp → Effect
  | .createSnapshot => ubiSnapshotCreateCb status ctx outcome.blobid outcome.bserrno outcome.channel
  | .createClone => ubiCloneCreateCb status ctx outcome.blobid outcome.bserrno
  | .openBlob => ubiOpenCloneCb status ctx outcome.bserrno outcome.setReadOnly
  | .closeBlob => ubiCloseCloneCb status ctx outcome.bserrno
  | .decoupleParent => ubiDecoupleParentCb bdev status ctx outcome.bserrno outcome.shallowCopy
  | .shallowCopy => ubiShallowCopyCompleteCb status ctx outcome.bserrno

/-- Every callback but the copy's ends the request when its call has failed. -/
theorem callback_failed {bdev : UbiBdev} {status : SnapshotStatus} {ctx : SnapshotContext} {outcome : Outcome} {op : BlobOp}
    (early : op ≠ .shallowCopy) (failed : outcome.bserrno ≠ 0) :
    op.callback bdev status ctx outcome = failSnapshot status ctx outcome.bserrno := by
  cases op with
  | createSnapshot => exact if_pos failed
  | createClone => exact if_pos failed
  | openBlob => exact if_pos failed
  | closeBlob => exact if_pos failed
  | decoupleParent => exact if_pos failed
  | shallowCopy => exact absurd rfl early

/-- All that a callback can do, by its call and what that call met. -/
inductive Reaction (bdev : UbiBdev) (status : SnapshotStatus) (ctx : SnapshotContext) (outcome : Outcome) : BlobOp → Effect → Prop where
  | failed {op : BlobOp} (early : op ≠ .shallowCopy) (error : outcome.bserrno ≠ 0) :
      Reaction bdev status ctx outcome op (failSnapshot status ctx outcome.bserrno)
  | kept (fine : outcome.bserrno = 0) (noPath : ctx.path = "") :
      Reaction bdev status ctx outcome .createSnapshot ⟨status, .answer 0 :: cleanupSnapshotContext ctx, .cleaned⟩
  | created (fine : outcome.bserrno = 0) (named : ctx.path ≠ "") :
      Reaction bdev status ctx outcome .createSnapshot ⟨status, [.allocChannel, .issue .createClone],
        .waiting .createClone { ctx with snapshotBlobid := outcome.blobid, ch := outcome.channel }⟩
  | cloned (fine : outcome.bserrno = 0) :
      Reaction bdev status ctx outcome .createClone ⟨status, [.issue .openBlob],
        .waiting .openBlob { ctx with cloneBlobid := outcome.blobid }⟩
  | writable (fine : outcome.bserrno = 0) (error : outcome.setReadOnly ≠ 0) :
      Reaction bdev status ctx outcome .openBlob (failSnapshot status ctx outcome.setReadOnly)
  | readOnly (fine : outcome.bserrno = 0) (locked : outcome.setReadOnly = 0) :
      Reaction bdev status ctx outcome .openBlob ⟨status, [.issue .closeBlob], .waiting .closeBlob ctx⟩
  | closed (fine : outcome.bserrno = 0) :
      Reaction bdev status ctx outcome .closeBlob ⟨status, [.issue .decoupleParent], .waiting .decoupleParent ctx⟩
  | refused (fine : outcome.bserrno = 0) (error : outcome.shallowCopy ≠ 0) :
      Reaction bdev status ctx outcome .decoupleParent
        ⟨{ status with inProgress := true, totalClusters := bdev.totalDataClusterCount },
          [.createDelta, .issue .shallowCopy, .answer outcome.shallowCopy],
          .abandoned { ctx with shallowCopyBsDev := some (bdev.deltaDev ctx.path) }⟩
  | started (fine : outcome.bserrno = 0) (accepted : outcome.shallowCopy = 0) :
      Reaction bdev status ctx outcome .decoupleParent
        ⟨{ status with inProgress := true, totalClusters := bdev.totalDataClusterCount },
          [.createDelta, .issue .shallowCopy, .answer 0],
          .waiting .shallowCopy { ctx with shallowCopyBsDev := some (bdev.deltaDev ctx.path) }⟩
  | ended : Reaction bdev status ctx outcome .shallowCopy (ubiShallowCopyCompleteCb status ctx outcome.bserrno)

theorem callback_reaction (bdev : UbiBdev) (status : SnapshotStatus) (ctx : SnapshotContext) (outcome : Outcome) (op : BlobOp) :
    Reaction bdev status ctx outcome op (op.callback bdev status ctx outcome) := by
  by_cases late : op = .shallowCopy
  · subst late
    exact .ended
  by_cases fine : outcome.bserrno = 0
  · cases op with
    | createSnapshot =>
      simp only [BlobOp.callback, ubiSnapshotCreateCb, fine, ne_eq, not_true_eq_false, ↓reduceIte]
      split
      · rename_i noPath
        exact .kept fine noPath
      · rename_i named
        exact .created fine named
    | createClone =>
      simp only [BlobOp.callback, ubiCloneCreateCb, fine, ne_eq, not_true_eq_false, ↓reduceIte]
      exact .cloned fine
    | openBlob =>
      simp only [BlobOp.callback, ubiOpenCloneCb, fine, ne_eq, not_true_eq_false, ↓reduceIte]
      split
      · rename_i error
        exact .writable fine error
      · rename_i locked
        exact .readOnly fine (not_not.mp locked)
    | closeBlob =>
      simp only [BlobOp.callback, ubiCloseCloneCb, fine, ne_eq, not_true_eq_false, ↓reduceIte]
      exact .closed fine
    | decoupleParent =>
      simp only [BlobOp.callback, ubiDecoupleParentCb, ubiStartSnapshot, fine, ne_eq, not_true_eq_false, ↓reduceIte]
      by_cases accepted : outcome.shallowCopy = 0
      · simp only [accepted, ↓reduceIte]
        exact .started fine accepted
      · simp only [accepted, ↓reduceIte]
        exact .refused fine accepted
    | shallowCopy => exact absurd rfl late
  · rw [callback_failed late fine]
    exact .failed late fine

/-- A copy that is accepted is waited for, with the device it writes to. -/
theorem startSnapshot_stage {bdev : UbiBdev} {status : SnapshotStatus} {ctx : SnapshotContext} {outcome : Outcome}
    (fine : outcome.bserrno = 0) (accepted : outcome.shallowCopy = 0) :
    (BlobOp.decoupleParent.callback bdev status ctx outcome).stage =
      .waiting .shallowCopy { ctx with shallowCopyBsDev := some (bdev.deltaDev ctx.path) } := by
  simp only [BlobOp.callback, ubiDecoupleParentCb, ubiStartSnapshot, fine, accepted, ne_eq, not_true_eq_false, ↓reduceIte]

/-- No callback changes the path its request waits with. -/
theorem callback_path {bdev : UbiBdev} {status : SnapshotStatus} {ctx ctx' : SnapshotContext} {outcome : Outcome}
    {op op' : BlobOp} (waiting : (op.callback bdev status ctx outcome).stage = .waiting op' ctx') :
    ctx'.path = ctx.path := by
  have reaction := callback_reaction bdev status ctx outcome op
  generalize op.callback bdev status ctx outcome = effect at reaction waiting
  cases reaction with
  | created | cloned | readOnly | closed | started =>
    cases waiting
    rfl
  | failed | kept | writable | refused | ended => cases waiting

/-! ## Any number of requests on one bdev -/

structure Requests where
  status : SnapshotStatus
  issued : Nat
  stage : Nat → Stage
  acts : Nat → List Act

def Requests.none : Requests := ⟨.initial, 0, fun _ => .absent, fun _ => []⟩

def Requests.apply (s : Requests) (id : Nat) (effect : Effect) : Requests :=
  { s with
    status := effect.status
    stage := Function.update s.stage id effect.stage
    acts := Function.update s.acts id (s.acts id ++ effect.acts) }

inductive RequestEvent where
  | snapshot (found : Bool) (path : String)
  | callback (id : Nat) (outcome : Outcome)
  | copied (id : Nat) (copiedClusters : Nat)
  deriving DecidableEq, Repr

def requestStep (bdev : UbiBdev) (s : Requests) : RequestEvent → Option Requests
  | .snapshot found path =>
    some { s.apply s.issued (bdevUbiSnapshot s.status found path) with issued := s.issued + 1 }
  | .callback id outcome =>
    match s.stage id with
    | .waiting op ctx => some (s.apply id (op.callback bdev s.status ctx outcome))
    | _ => Option.none
  | .copied id copiedClusters =>
    match s.stage id with
    | .waiting .shallowCopy _ => some { s with status := ubiShallowCopyStatusCb s.status copiedClusters }
    | _ => Option.none

/-- Requests are numbered in order; the numbers to come are unused. -/
def Requests.Numbered (s : Requests) : Prop := ∀ id, s.issued ≤ id → s.stage id = .absent ∧ s.acts id = []

theorem numbered_none : Requests.none.Numbered := fun _ _ => ⟨rfl, rfl⟩

section
variable {bdev : UbiBdev} {s s' : Requests}

theorem apply_others {id : Nat} (effect : Effect) (other : Nat) (different : other ≠ id) :
    (s.apply id effect).stage other = s.stage other ∧ (s.apply id effect).acts other = s.acts other := by
  simp only [Requests.apply, Function.update_of_ne different, and_self]

/-- A request that waits after an effect is the one it was for, or waited before. -/
theorem apply_waiting {id other : Nat} {effect : Effect} {op : BlobOp} {ctx : SnapshotContext}
    (waiting : (s.apply id effect).stage other = .waiting op ctx) :
    (other = id ∧ effect.stage = .waiting op ctx) ∨ (other ≠ id ∧ s.stage other = .waiting op ctx) := by
  by_cases same : other = id
  · subst same
    simp only [Requests.apply, Function.update_self] at waiting
    exact Or.inl ⟨rfl, waiting⟩
  · rw [(apply_others effect other same).1] at waiting
    exact Or.inr ⟨same, waiting⟩

/-- A callback runs only for a request that waits for it. -/
theorem requestStep_callback {id : Nat} {outcome : Outcome}
    (stepped : requestStep bdev s (.callback id outcome) = some s') :
    ∃ op ctx, s.stage id = .waiting op ctx ∧ s' = s.apply id (op.callback bdev s.status ctx outcome) := by
  simp only [requestStep] at stepped
  split at stepped
  · rename_i op ctx waiting
    cases stepped
    exact ⟨op, ctx, waiting, rfl⟩
  · cases stepped

theorem requestStep_copied {id copiedClusters : Nat}
    (stepped : requestStep bdev s (.copied id copiedClusters) = some s') :
    (∃ ctx, s.stage id = .waiting .shallowCopy ctx) ∧
      s' = { s with status := ubiShallowCopyStatusCb s.status copiedClusters } := by
  simp only [requestStep] at stepped
  split at stepped
  · rename_i ctx waiting
    cases stepped
    exact ⟨⟨ctx, waiting⟩, rfl⟩
  · cases stepped

theorem Requests.Numbered.apply {id : Nat} (numbered : s.Numbered) (used : id < s.issued) (effect : Effect) :
    (s.apply id effect).Numbered := by
  intro other above
  have different : other ≠ id := by
    rintro rfl
    exact absurd above (Nat.not_le.mpr used)
  simp only [Requests.apply, Function.update_of_ne different]
  exact numbered other above

/-- A request that waits has been numbered. -/
theorem Requests.Numbered.lt {id : Nat} {op : BlobOp} {ctx : SnapshotContext} (numbered : s.Numbered)
    (waiting : s.stage id = .waiting op ctx) : id < s.issued := by
  by_contra above
  have absent := (numbered id (Nat.not_lt.mp above)).1
  cases waiting.symm.trans absent

end

theorem numbered_step {bdev : UbiBdev} (s : Requests) (event : RequestEvent) (s' : Requests) (numbered : s.Numbered)
    (stepped : requestStep bdev s event = some s') : s'.Numbered := by
  cases event with
  | snapshot found path =>
    cases stepped
    intro id above
    have different : id ≠ s.issued := Nat.ne_of_gt above
    simp only [Requests.apply, Function.update_of_ne different]
    exact numbered id (Nat.le_of_succ_le above)
  | callback id outcome =>
    obtain ⟨op, ctx, waiting, rfl⟩ := requestStep_callback stepped
    exact numbered.apply (numbered.lt waiting) _
  | copied id copiedClusters =>
    obtain ⟨_, rfl⟩ := requestStep_copied stepped
    exact numbered

end BdevUbi.Snapshot
