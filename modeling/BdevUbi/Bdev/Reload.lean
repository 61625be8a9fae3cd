import BdevUbi.Bdev.Create
import BdevUbi.Snapshot.Requests
import Mathlib.Data.Fintype.EquivFin
import Mathlib.Data.Nat.Find

/-! The blobs of a base bdev over rounds of creation and deletion.

Nothing on the base bdev says which blob is the disk: loading takes the one that
`spdk_bs_iter_first` finds. Formatting creates the disk first, so what has to be kept is that
everything created later has a larger id.
-/

set_option autoImplicit false

namespace BdevUbi.Bdev
open BdevUbi.Library BdevUbi.Device BdevUbi.Snapshot

inductive BlobKind where
  | disk
  | snapshot
  | clone
  deriving DecidableEq, Repr

/-- The blobs of a store with their ids, the newest first. -/
abbrev Blobs := List (Nat × BlobKind)

def Blobs.ids (blobs : Blobs) : List Nat := blobs.map Prod.fst

theorem exists_free (used : List Nat) : ∃ id, id ∉ used := by
  obtain ⟨id, free⟩ := Infinite.exists_notMem_finset used.toFinset
  exact ⟨id, fun member => free (List.mem_toFinset.mpr member)⟩

/-- A new blob gets the smallest free id. -/
def newBlobid (blobs : Blobs) : Nat := Nat.find (exists_free blobs.ids)

/-- A step that creates a blob; one that fails may leave it behind. -/
def Blobs.create (kind : BlobKind) (bserrno : Int) (left : Bool) (blobs : Blobs) : Blobs :=
  if bserrno = 0 ∨ left = true then (newBlobid blobs, kind) :: blobs else blobs

/-- `spdk_bs_iter_first`. -/
def iterFirst (blobs : Blobs) : Option Nat := blobs.ids.min?

structure BaseBdev where
  blobs : Blobs
  -- `ubi_bdev->blobid` while a bdev is registered
  blobid : Option Nat
  requests : Requests
  -- since the last format: the blobs that guests wrote to, and those that loading took
  written : List Nat
  taken : List Nat

def BaseBdev.blank : BaseBdev := ⟨[], none, .none, [], []⟩

inductive BaseEvent where
  | create (opts : UbiBdevOpts) (o : CreateOutcomes) (leftBlob leftSnapshot : Bool)
  | write
  | request (event : RequestEvent) (left : Bool)
  | delete

/-- The store after `ubi_bs_init_complete` on the format route, on a store that has nothing yet. -/
def formatBlobs (o : CreateOutcomes) (leftBlob leftSnapshot : Bool) : Blobs :=
  let blobs := Blobs.create .disk o.createBlob leftBlob []
  if o.createBlob = 0 then blobs.create .snapshot o.createSnapshot leftSnapshot else blobs

/-- The blobs after a step of the requests: two of the calls create one. -/
def BaseBdev.requestBlobs (s : BaseBdev) (left : Bool) : RequestEvent → Blobs
  | .callback id outcome =>
    match s.requests.stage id with
    | .waiting .createSnapshot _ => s.blobs.create .snapshot outcome.bserrno left
    | .waiting .createClone _ => s.blobs.create .clone outcome.bserrno left
    | _ => s.blobs
  | _ => s.blobs

/-- A name is found while its bdev is registered. -/
def BaseBdev.finds (s : BaseBdev) : RequestEvent → Bool
  | .snapshot found _ => found == s.blobid.isSome
  | _ => true

/-- Creations are made while no bdev has the base bdev open; a format that could not
initialise the store is left out. -/
def baseStep (geometry : UbiBdev) (s : BaseBdev) : BaseEvent → Option BaseBdev
  | .create opts o leftBlob leftSnapshot =>
    if s.blobid.isSome then none
    else if opts.formatBdev then
      if o.completes true .bsInit then
        some {
          blobs := formatBlobs o leftBlob leftSnapshot
          blobid := if (bdevUbiCreate opts o).published then some (newBlobid []) else none
          requests := .none
          written := []
          taken := [] }
      else none
    else
      match iterFirst s.blobs with
      | some id =>
        if o.completes false .iterFirst then
          some { s with
            blobid := if (bdevUbiCreate opts o).published then some id else none
            taken := id :: s.taken }
        else some s
      | none => some s
  | .write => s.blobid.map fun id => { s with written := id :: s.written }
  | .request event left =>
    if s.finds event then
      (requestStep geometry s.requests event).map fun requests =>
        { s with blobs := s.requestBlobs left event, requests := requests }
    else none
  | .delete => if s.blobid.isSome then some { s with blobid := none } else none

/-- Whatever loading took is the disk, and the only blob that guests wrote to. -/
def BaseBdev.Reopens (s : BaseBdev) : Prop :=
  ∀ id ∈ s.taken, (∀ kind, (id, kind) ∈ s.blobs ↔ kind = .disk) ∧ ∀ other ∈ s.written, other = id

/-! ## The first blob stays the smallest -/

/-- The disk is there when anything is, it has id 0, and nothing else has. -/
structure Blobs.DiskFirst (blobs : Blobs) : Prop where
  kind : ∀ blob ∈ blobs, blob.2 = .disk ↔ blob.1 = 0
  first : blobs ≠ [] → (0, .disk) ∈ blobs

theorem diskFirst_nil : Blobs.DiskFirst [] := ⟨(fun _ member => by cases member), fun absent => absurd rfl absent⟩

theorem newBlobid_nil : newBlobid [] = 0 := (Nat.find_eq_zero _).mpr List.not_mem_nil

section
variable {blobs : Blobs}

theorem newBlobid_pos (disk : (0, .disk) ∈ blobs) : 0 < newBlobid blobs := by
  refine Nat.pos_of_ne_zero fun zero => ?_
  have free : newBlobid blobs ∉ blobs.ids := Nat.find_spec (exists_free blobs.ids)
  rw [zero] at free
  exact free (List.mem_map.mpr ⟨_, disk, rfl⟩)

theorem Blobs.DiskFirst.iterFirst (sound : blobs.DiskFirst) {id : Nat} (found : iterFirst blobs = some id) :
    id = 0 ∧ blobs ≠ [] := by
  obtain ⟨member, least⟩ := List.min?_eq_some_iff.mp found
  have filled : blobs ≠ [] := by
    rintro rfl
    cases member
  have below := least 0 (List.mem_map.mpr ⟨_, sound.first filled, rfl⟩)
  exact ⟨Nat.le_zero.mp below, filled⟩

/-- The disk is created on an empty store, everything else on one that has the disk. -/
theorem Blobs.DiskFirst.create (sound : blobs.DiskFirst) {kind : BlobKind} (order : kind = .disk ↔ blobs = []) (bserrno : Int)
    (left : Bool) : (blobs.create kind bserrno left).DiskFirst := by
  unfold Blobs.create
  split
  · cases blobs with
    | nil =>
      have disk : kind = .disk := order.mpr rfl
      subst disk
      refine ⟨fun blob member => ?_, fun _ => ?_⟩
      · rw [List.mem_singleton] at member
        subst member
        exact iff_of_true rfl newBlobid_nil
      · rw [newBlobid_nil]
        exact List.mem_singleton_self _
    | cons head rest =>
      have disk := sound.first (List.cons_ne_nil head rest)
      have other : kind ≠ .disk := fun same => List.cons_ne_nil head rest (order.mp same)
      refine ⟨fun blob member => ?_, fun _ => List.mem_cons_of_mem _ disk⟩
      cases member with
      | head => exact iff_of_false other (newBlobid_pos disk).ne'
      | tail _ member => exact sound.kind blob member
  · exact sound

theorem create_ne_nil {kind : BlobKind} {bserrno : Int} {left : Bool} (filled : blobs ≠ []) :
    blobs.create kind bserrno left ≠ [] := by
  unfold Blobs.create
  split
  · exact List.cons_ne_nil _ _
  · exact filled

end

theorem diskFirst_formatBlobs (o : CreateOutcomes) (leftBlob leftSnapshot : Bool) : (formatBlobs o leftBlob leftSnapshot).DiskFirst := by
  have disk := @Blobs.DiskFirst.create [] diskFirst_nil .disk (iff_of_true rfl rfl) o.createBlob leftBlob
  unfold formatBlobs
  split
  · rename_i created
    refine disk.create ?_ o.createSnapshot leftSnapshot
    rw [Blobs.create, if_pos (.inl created)]
    exact iff_of_false (by decide) (List.cons_ne_nil _ _)
  · exact disk

/-! ## Rounds of creation and deletion -/

structure BaseBdev.Sound (s : BaseBdev) : Prop where
  disk : s.blobs.DiskFirst
  opened : ∀ id, s.blobid = some id → id = 0 ∧ s.blobs ≠ []
  pending : ∀ id op ctx, s.requests.stage id = .waiting op ctx → s.blobs ≠ []
  written : ∀ id ∈ s.written, id = 0
  taken : ∀ id ∈ s.taken, id = 0 ∧ s.blobs ≠ []

theorem BaseBdev.Sound.reopens {s : BaseBdev} (sound : s.Sound) : s.Reopens := by
  intro id member
  obtain ⟨rfl, filled⟩ := sound.taken id member
  refine ⟨fun kind => ⟨fun present => (sound.disk.kind _ present).mpr rfl, ?_⟩, fun other written => sound.written other written⟩
  rintro rfl
  exact sound.disk.first filled

section
variable {geometry : UbiBdev} {s s' : BaseBdev}

/-- A format that published a bdev has created its blob. -/
theorem format_published {opts : UbiBdevOpts} {o : CreateOutcomes} (format : opts.formatBdev = true)
    (published : (bdevUbiCreate opts o).published = true) (leftBlob leftSnapshot : Bool) :
    formatBlobs o leftBlob leftSnapshot ≠ [] := by
  obtain ⟨status, s, same, arrived⟩ := bdevUbiCreate_arrives opts o
  rw [same, arrived.published, arrived.result, firstError_eq_zero, format] at published
  have created : o.createBlob = 0 := published (.createBlob, o.createBlob) (by simp [CreateOutcomes.steps, CreateOutcomes.preparing])
  rw [formatBlobs, if_pos created]
  refine create_ne_nil ?_
  rw [Blobs.create, if_pos (.inl created)]
  exact List.cons_ne_nil _ _

theorem BaseBdev.Sound.create (sound : s.Sound) {opts : UbiBdevOpts} {o : CreateOutcomes} {leftBlob leftSnapshot : Bool}
    (stepped : baseStep geometry s (.create opts o leftBlob leftSnapshot) = some s') : s'.Sound := by
  simp only [baseStep] at stepped
  split at stepped
  · cases stepped
  split at stepped
  · rename_i format
    split at stepped
    · cases stepped
      refine ⟨diskFirst_formatBlobs o leftBlob leftSnapshot, ?_, fun _ _ _ waiting => (by cases waiting), ?_, ?_⟩
      · intro id opened
        split at opened
        · rename_i published
          cases opened
          exact ⟨newBlobid_nil, format_published format published leftBlob leftSnapshot⟩
        · cases opened
      · exact fun _ member => (by cases member)
      · exact fun _ member => (by cases member)
    · cases stepped
  · split at stepped
    · rename_i id found
      obtain ⟨zero, filled⟩ := sound.disk.iterFirst found
      split at stepped
      · cases stepped
        refine ⟨sound.disk, ?_, sound.pending, sound.written, ?_⟩
        · intro other opened
          split at opened
          · cases opened
            exact ⟨zero, filled⟩
          · cases opened
        · intro other member
          cases member with
          | head => exact ⟨zero, filled⟩
          | tail _ member => exact sound.taken other member
      · cases stepped
        exact sound
    · cases stepped
      exact sound

/-- The blobs only grow, and nothing that a request creates is the disk. -/
theorem BaseBdev.Sound.requestBlobs (sound : s.Sound) (left : Bool) (event : RequestEvent) :
    (s.requestBlobs left event).DiskFirst ∧ (s.blobs ≠ [] → s.requestBlobs left event ≠ []) := by
  have created {id : Nat} {op : BlobOp} {ctx : SnapshotContext} (waiting : s.requests.stage id = .waiting op ctx) {kind : BlobKind}
      (other : kind ≠ .disk) (bserrno : Int) :
      (s.blobs.create kind bserrno left).DiskFirst ∧ (s.blobs ≠ [] → s.blobs.create kind bserrno left ≠ []) := by
    refine ⟨sound.disk.create (iff_of_false other ?_) bserrno left, create_ne_nil⟩
    exact sound.pending id op ctx waiting
  unfold BaseBdev.requestBlobs
  split
  · split
    · rename_i waiting
      exact created waiting (by decide) _
    · rename_i waiting
      exact created waiting (by decide) _
    · exact ⟨sound.disk, id⟩
  · exact ⟨sound.disk, id⟩

/-- A request waits for something only if it did before, or its bdev was found. -/
theorem waiting_before {requests : Requests} {event : RequestEvent} (found : s.finds event = true)
    (stepped : requestStep geometry s.requests event = some requests) {id : Nat} {op : BlobOp} {ctx : SnapshotContext}
    (waiting : requests.stage id = .waiting op ctx) :
    s.blobid.isSome = true ∨ ∃ id op ctx, s.requests.stage id = .waiting op ctx := by
  cases event with
  | snapshot there path =>
    cases stepped
    cases there with
    | true => exact .inl (by simpa [BaseBdev.finds] using found)
    | false =>
      rcases apply_waiting waiting with ⟨_, new⟩ | ⟨_, before⟩
      · cases new
      · exact .inr ⟨id, op, ctx, before⟩
  | callback other outcome =>
    obtain ⟨op', ctx', before, _⟩ := requestStep_callback stepped
    exact .inr ⟨other, op', ctx', before⟩
  | copied other copiedClusters =>
    obtain ⟨⟨ctx', before⟩, _⟩ := requestStep_copied stepped
    exact .inr ⟨other, _, ctx', before⟩

theorem BaseBdev.Sound.request (sound : s.Sound) {event : RequestEvent} {left : Bool}
    (stepped : baseStep geometry s (.request event left) = some s') : s'.Sound := by
  simp only [baseStep] at stepped
  split at stepped
  · rename_i found
    obtain ⟨requests, moved, rfl⟩ := Option.map_eq_some_iff.mp stepped
    obtain ⟨disk, grows⟩ := sound.requestBlobs left event
    refine ⟨disk, ?_, ?_, sound.written, ?_⟩
    · intro id opened
      obtain ⟨zero, filled⟩ := sound.opened id opened
      exact ⟨zero, grows filled⟩
    · intro id op ctx waiting
      refine grows ?_
      rcases waiting_before found moved waiting with registered | ⟨other, op', ctx', before⟩
      · obtain ⟨blobid, opened⟩ := Option.isSome_iff_exists.mp registered
        exact (sound.opened blobid opened).2
      · exact sound.pending other op' ctx' before
    · intro id member
      obtain ⟨zero, filled⟩ := sound.taken id member
      exact ⟨zero, grows filled⟩
  · cases stepped

end

theorem baseBdev_sound_step {geometry : UbiBdev} (s : BaseBdev) (event : BaseEvent) (s' : BaseBdev) (sound : s.Sound)
    (stepped : baseStep geometry s event = some s') : s'.Sound := by
  cases event with
  | create opts o leftBlob leftSnapshot => exact sound.create stepped
  | write =>
    obtain ⟨id, opened, rfl⟩ := Option.map_eq_some_iff.mp stepped
    refine ⟨sound.disk, sound.opened, sound.pending, fun other member => ?_, sound.taken⟩
    cases member with
    | head => exact (sound.opened id opened).1
    | tail _ member => exact sound.written other member
  | request event left => exact sound.request stepped
  | delete =>
    simp only [baseStep] at stepped
    split at stepped
    · cases stepped
      exact ⟨sound.disk, (fun _ opened => by cases opened), sound.pending, sound.written, sound.taken⟩
    · cases stepped

/-- Over any rounds of formatting, snapshots, deletion and loading, with any outcomes, the
blob that loading takes is the disk that the guests wrote to. -/
theorem reload_reopens_disk (geometry : UbiBdev) (events : List BaseEvent) :
    Always (baseStep geometry) BaseBdev.Reopens .blank events := by
  have start : BaseBdev.blank.Sound :=
    ⟨diskFirst_nil, (fun _ opened => by cases opened), (fun _ _ _ waiting => by cases waiting), (fun _ member => by cases member),
      fun _ member => (by cases member)⟩
  exact (always_of_invariant baseBdev_sound_step start events).mono fun _ sound => sound.reopens

end BdevUbi.Bdev
