import BdevUbi.Disk.Store
import BdevUbi.Library.WriteCache

/-! A guest's flush.

`ubi_submit_request` passes reads and writes on to the blobstore and completes a flush by
itself. What is below is relied on for this: the blobstore gives a cluster its place in the
live layer once, fills it and writes the metadata that leads to it before any data goes
there, and it completes a write with 0 after the base bdev has acknowledged all of its
blocks. The base bdev keeps acknowledged writes in a volatile cache and persists them when
it likes.
-/

set_option autoImplicit false

namespace BdevUbi.Disk
open BdevUbi.Library BdevUbi.Device

inductive IoType where
  | read
  | write
  | flush
  | writeZeroes
  | reset
  | unmap
  deriving DecidableEq, Repr

def ubiIoTypeSupported : IoType → Bool
  | .read => true
  | .write => true
  | .flush => true
  | _ => false

/-- What `ubi_submit_request` does with a request: a call to the blobstore that ends in
`ubi_blob_io_complete`, or a completion of its own. The bdev's `no_sync` is read nowhere. -/
inductive SubmitBranch where
  | readv
  | writev
  | completed (status : IoStatus)
  deriving DecidableEq, Repr

def IoType.submit : IoType → SubmitBranch
  | .read => .readv
  | .write => .writev
  | .flush => .completed .success
  | _ => .completed .failed

/-- The requests that are advertised are those that do not fail at once. -/
theorem ioTypeSupported_iff (type : IoType) : ubiIoTypeSupported type = true ↔ type.submit ≠ .completed .failed := by
  cases type <;> decide

/-- The type of a request of the disk's model. -/
def BdevIo.OfType : BdevIo → IoType → Prop
  | .read _ _ _, type => type = .read
  | .write _ _ _, type => type = .write
  | .flush, type => type = .flush
  | .unsupported, type => ubiIoTypeSupported type = false

/-- What is completed at once leaves the disk as it is. -/
theorem ubiSubmitRequest_completed {C : ClusterSize} {B : BlockLength} {dev : BsDevUring} {s : Store} {io : BdevIo}
    {type : IoType} {status : IoStatus} (typed : io.OfType type) (completed : type.submit = .completed status) :
    ubiSubmitRequest C B dev s io = some (status, [], s) := by
  cases io with
  | read split payload events =>
    cases (typed : type = .read)
    cases completed
  | write split data cow =>
    cases (typed : type = .write)
    cases completed
  | flush =>
    cases (typed : type = .flush)
    cases completed
    rfl
  | unsupported =>
    have fails : type.submit = .completed .failed := by
      by_contra passes
      have supported := (ioTypeSupported_iff type).mpr passes
      cases supported.symm.trans typed
    cases fails.symm.trans completed
    rfl

/-- A place on the base bdev, by what is kept there: a block of a cluster of the live
layer, or the metadata that leads to the cluster. -/
inductive Place where
  | data (block : Nat)
  | mapping (cluster : Nat)
  deriving DecidableEq, Repr

def Extent.covers (extent other : Extent) : Bool :=
  extent.offsetBlocks ≤ other.offsetBlocks ∧ other.offsetBlocks + other.numBlocks ≤ extent.offsetBlocks + extent.numBlocks

/-- A guest's write, with the positions of its blocks among the base bdev's writes. -/
structure GuestWrite where
  extent : Extent
  payload : Nat → List UInt8
  issued : Nat → Option Nat

structure Flushing where
  base : WriteCache Place (List UInt8)
  submitted : Nat
  pending : Nat → Option GuestWrite
  acknowledged : List GuestWrite
  -- the writes that a successful flush has covered
  promised : List GuestWrite

def Flushing.initial : Flushing := ⟨[], 0, fun _ => none, [], []⟩

inductive FlushEvent where
  | submit (type : IoType) (extent : Extent) (payload : Nat → List UInt8)
  -- the blobstore gives a cluster a place and fills it
  | allocate (cluster : Nat) (fill : Nat → List UInt8)
  | writeBlock (id block : Nat)
  | complete (id : Nat) (bserrno : Int)
  -- the base bdev persists one of its writes
  | persist (position : Nat)

section
variable (C : ClusterSize) (B : BlockLength)

/-- The cluster's blocks, and then the metadata. -/
def allocateCluster (base : WriteCache Place (List UInt8)) (cluster : Nat) (fill : Nat → List UInt8) :
    WriteCache Place (List UInt8) :=
  ((List.range' (cluster * clusterBlocks C B) (clusterBlocks C B)).foldl
    (fun base block => base.acknowledge (.data block) (fill block)) base).acknowledge (.mapping cluster) []

def flushStep (s : Flushing) : FlushEvent → Option Flushing
  | .submit type extent payload =>
    match type.submit with
    | .readv => some s
    | .writev =>
      some { s with
        submitted := s.submitted + 1
        pending := Function.update s.pending s.submitted (some ⟨extent, payload, fun _ => none⟩) }
    | .completed .success =>
      some { s with promised := s.promised ++ s.acknowledged.filter fun write => extent.covers write.extent }
    | .completed .failed => some s
  | .allocate cluster fill =>
    if (s.base.read (.mapping cluster)).isNone then some { s with base := allocateCluster C B s.base cluster fill } else none
  | .writeBlock id block =>
    match s.pending id with
    | some write =>
      if block ∈ write.extent.blocks ∧ (write.issued block).isNone ∧
          (s.base.read (.mapping (block / clusterBlocks C B))).isSome then
        some { s with
          base := s.base.acknowledge (.data block) (write.payload block)
          pending := Function.update s.pending id
            (some { write with issued := Function.update write.issued block (some s.base.length) }) }
      else none
    | none => none
  | .complete id bserrno =>
    match s.pending id with
    | some write =>
      if bserrno = 0 ∧ ¬ ∀ block ∈ write.extent.blocks, (write.issued block).isSome then none
      else
        some { s with
          pending := Function.update s.pending id none
          acknowledged := if ubiBlobIoComplete bserrno = .success then s.acknowledged ++ [write] else s.acknowledged }
    | none => none
  | .persist position => some { s with base := s.base.persist position }

/-! ## Durability -/

/-- Nothing that the write needs is only in the cache: each of its blocks is persisted, or
what was written to the block later, and so is the metadata that leads to it. -/
def GuestWrite.Flushed (base : WriteCache Place (List UInt8)) (write : GuestWrite) : Prop :=
  ∀ block ∈ write.extent.blocks, (∃ position, write.issued block = some position ∧ base.Persisted position (.data block)) ∧
    base.Persisted 0 (.mapping (block / clusterBlocks C B))

/-- After a crash the blocks of the write are found, with its data or with what was
written to them later. -/
def GuestWrite.Readable (base : WriteCache Place (List UInt8)) (write : GuestWrite) : Prop :=
  ∀ block ∈ write.extent.blocks, (base.crash.read (.mapping (block / clusterBlocks C B))).isSome = true ∧
    ∃ position data, write.issued block = some position ∧ base.crash.read (.data block) = some data ∧
      data ∈ WriteCache.values (base.drop position) (.data block)

/-- What a flush has covered is flushed and survives a crash. -/
def Flushing.Barrier (s : Flushing) : Prop :=
  ∀ write ∈ s.promised, write.Flushed C B s.base ∧ write.Readable C B s.base

/-- A flush comes when the base bdev has persisted all that it covers, of its own accord. -/
def NothingCached (s : Flushing) : FlushEvent → Prop
  | .submit .flush extent _ => ∀ write ∈ s.acknowledged, extent.covers write.extent = true → write.Flushed C B s.base
  | _ => True

end

section
variable {C : ClusterSize} {B : BlockLength} {s s' : Flushing}

theorem GuestWrite.Flushed.readable {base : WriteCache Place (List UInt8)} {write : GuestWrite}
    (flushed : write.Flushed C B base) : write.Readable C B base := by
  intro block member
  obtain ⟨⟨position, issued, persisted⟩, mapped⟩ := flushed block member
  obtain ⟨data, later, found⟩ := WriteCache.read_crash persisted
  obtain ⟨entry, _, leads⟩ := WriteCache.read_crash mapped
  refine ⟨?_, position, data, issued, found, later⟩
  rw [leads]
  rfl

theorem barrier_iff : s.Barrier C B ↔ ∀ write ∈ s.promised, write.Flushed C B s.base :=
  ⟨fun barrier write member => (barrier write member).1,
    fun flushed write member => ⟨flushed write member, (flushed write member).readable⟩⟩

theorem GuestWrite.Flushed.mono {base base' : WriteCache Place (List UInt8)} {write : GuestWrite}
    (grows : ∀ position place, base.Persisted position place → base'.Persisted position place)
    (flushed : write.Flushed C B base) : write.Flushed C B base' := by
  intro block member
  obtain ⟨⟨position, issued, persisted⟩, mapped⟩ := flushed block member
  exact ⟨⟨position, issued, grows _ _ persisted⟩, grows _ _ mapped⟩

theorem persisted_allocateCluster {base : WriteCache Place (List UInt8)} {position : Nat} {place : Place}
    (persisted : base.Persisted position place) (cluster : Nat) (fill : Nat → List UInt8) :
    (allocateCluster C B base cluster fill).Persisted position place := by
  unfold allocateCluster
  apply WriteCache.Persisted.acknowledge
  induction List.range' (cluster * clusterBlocks C B) (clusterBlocks C B) generalizing base with
  | nil => exact persisted
  | cons block rest ih => exact ih (persisted.acknowledge (.data block) (fill block))

/-- Apart from a flush nothing is promised, and what is persisted stays so. -/
theorem flushStep_other {event : FlushEvent} (other : ∀ extent payload, event ≠ .submit .flush extent payload)
    (stepped : flushStep C B s event = some s') :
    s'.promised = s.promised ∧ ∀ position place, s.base.Persisted position place → s'.base.Persisted position place := by
  cases event with
  | submit type extent payload =>
    cases type with
    | flush => exact absurd rfl (other extent payload)
    | write =>
      cases stepped
      exact ⟨rfl, fun _ _ persisted => persisted⟩
    | read | writeZeroes | reset | unmap =>
      cases stepped
      exact ⟨rfl, fun _ _ persisted => persisted⟩
  | allocate cluster fill =>
    simp only [flushStep] at stepped
    split at stepped
    · cases stepped
      exact ⟨rfl, fun _ _ persisted => persisted_allocateCluster persisted cluster fill⟩
    · cases stepped
  | writeBlock id block =>
    simp only [flushStep] at stepped
    split at stepped
    · split at stepped
      · cases stepped
        exact ⟨rfl, fun _ _ persisted => persisted.acknowledge _ _⟩
      · cases stepped
    · cases stepped
  | complete id bserrno =>
    simp only [flushStep] at stepped
    split at stepped
    · split at stepped
      · cases stepped
      · cases stepped
        exact ⟨rfl, fun _ _ persisted => persisted⟩
    · cases stepped
  | persist position =>
    cases stepped
    exact ⟨rfl, fun _ _ persisted => persisted.persist position⟩

/-- A step keeps the barrier exactly if it is no flush that finds something in the cache. -/
theorem barrier_step (s : Flushing) (event : FlushEvent) (s' : Flushing) (barrier : s.Barrier C B)
    (stepped : flushStep C B s event = some s') : s'.Barrier C B ↔ NothingCached C B s event := by
  rw [barrier_iff] at barrier ⊢
  by_cases flush : ∃ extent payload, event = .submit .flush extent payload
  · obtain ⟨extent, payload, rfl⟩ := flush
    cases stepped
    simp only [List.mem_append, List.mem_filter, NothingCached]
    constructor
    · intro flushed write member covered
      exact flushed write (Or.inr ⟨member, covered⟩)
    · rintro nothing write (old | ⟨member, covered⟩)
      · exact barrier write old
      · exact nothing write member covered
  · have other : ∀ extent payload, event ≠ .submit .flush extent payload :=
      fun extent payload same => flush ⟨extent, payload, same⟩
    have guard : NothingCached C B s event := by
      unfold NothingCached
      split
      · exact absurd rfl (other _ _)
      · trivial
    obtain ⟨same, grows⟩ := flushStep_other other stepped
    refine ⟨fun _ => guard, fun _ write member => ?_⟩
    rw [same] at member
    exact (barrier write member).mono grows

theorem nothingCached_disabled (s : Flushing) (event : FlushEvent) (stuck : flushStep C B s event = none) :
    NothingCached C B s event := by
  unfold NothingCached
  split
  · cases stuck
  · trivial

end

/-- In a run every flush is a barrier exactly if every flush finds nothing in the base
bdev's cache that it covers. -/
theorem flush_barrier_iff (C : ClusterSize) (B : BlockLength) (events : List FlushEvent) :
    Always (flushStep C B) (Flushing.Barrier C B) .initial events ↔ Guarded (flushStep C B) (NothingCached C B) .initial events := by
  refine always_iff_guarded (fun _ _ _ _ _ => trivial) (fun s event s' _ => barrier_step s event s')
    (fun s event _ => nothingCached_disabled s event) trivial ?_ events
  intro write member
  cases member

/-- One block is written and flushed, and a crash loses it. -/
theorem flush_keeps_nothing :
    ¬ Always (flushStep .page .page) (Flushing.Barrier .page .page) .initial
      [.submit .write ⟨0, 1⟩ fun _ => [1], .allocate 0 fun _ => [0], .writeBlock 0 0, .complete 0 0,
        .submit .flush ⟨0, 1⟩ fun _ => []] := by
  intro always
  have barrier := always.final rfl
  have promised := barrier _ (List.mem_singleton.mpr rfl)
  have readable := promised.2 0 (List.mem_singleton.mpr rfl)
  cases readable.1

end BdevUbi.Disk
