import BdevUbi.Device.Overlay
import BdevUbi.Library.Layers
import BdevUbi.Snapshot.Copies

/-! The disk of a guest: blobstore layers over the overlay device.

What the blobstore is relied on for is written out here. It cuts requests at the
clusters' bounds, finds a cluster in the newest layer that has it, asks the overlay
where no layer does, and fills a cluster as a whole before the first write to it.
Creating a snapshot freezes the live layer, and the clone that a request copies has
that layer's clusters.
-/

set_option autoImplicit false

namespace BdevUbi.Disk
open BdevUbi.Library BdevUbi.Device BdevUbi.Snapshot

/-- A cluster's bytes by their offset in it. -/
abbrev Cluster := Nat → UInt8

abbrev Layer := Nat → Option Cluster

def clusterBytes (C : ClusterSize) (data : Cluster) : List UInt8 := (List.range C.bytes).map data

structure Store where
  live : Layer
  -- newest first
  frozen : List Layer
  -- the clusters of the clone that each request copies
  source : Nat → Layer
  copies : Copies
  -- the guest's writes that were acknowledged, by byte address, oldest first
  written : List (Nat × List UInt8)

def Store.initial (files : String → Option RegularFile) : Store :=
  ⟨fun _ => none, [], fun _ _ => none, .initial files, []⟩

/-- The files behind the overlay's descriptors. -/
def Store.openFiles (dev : BsDevUring) (s : Store) : OpenFiles where
  image := (s.copies.files dev.filename).getD .empty
  snapshot := if dev.snapshotPath = "" then none else s.copies.files dev.snapshotPath

/-- What filling a cluster meets: the outcome of the overlay's read, and what the
blobstore's buffer held before it. -/
structure Cow where
  events : ReadEvents
  buffer : Cluster

section
variable (C : ClusterSize) (B : BlockLength)

/-- The pieces follow each other, each inside a cluster, and make up the range. -/
def Covers (lba count : Nat) : List (Nat × Nat) → Prop
  | [] => count = 0
  | (start, n) :: rest =>
    start = lba ∧ 0 < n ∧ n ≤ count ∧ lba % clusterBlocks C B + n ≤ clusterBlocks C B ∧
      Covers (lba + n) (count - n) rest

/-- The status and the payload after a read that stays in a cluster. -/
def Store.readPiece (dev : BsDevUring) (s : Store) (events : ReadEvents) (lba : Nat) (payload : List UInt8) :
    Option (Int × List UInt8) :=
  match lookup (s.live :: s.frozen) (lba / clusterBlocks C B) with
  | some data => some (0, (List.range payload.length).map fun j => data (lba % clusterBlocks C B * B.bytes + j))
  | none => (serveReadv dev (s.openFiles dev) events lba [payload]).map fun result => (result.1, result.2.flatten)

def Store.readPieces (dev : BsDevUring) (s : Store) (events : Nat → ReadEvents) :
    List (Nat × Nat) → List UInt8 → Option (Int × List UInt8)
  | [], _ => some (0, [])
  | (lba, n) :: rest, payload =>
    (s.readPiece C B dev (events lba) lba (payload.take (n * B.bytes))).bind fun (status, data) =>
      (s.readPieces dev events rest (payload.drop (n * B.bytes))).map fun (status', data') =>
        (if status = 0 then status' else status, data ++ data')

/-- The contents of a cluster before its first write in the live layer. -/
def Store.materialise (dev : BsDevUring) (s : Store) (cow : Cow) (cluster : Nat) : Option (Int × Cluster) :=
  match lookup s.frozen cluster with
  | some data => some (0, data)
  | none =>
    (bsDevUringIsZeroes dev (cluster * clusterBlocks C B) (clusterBlocks C B)).bind fun zeroes =>
      if zeroes then some (0, fun _ => 0)
      else
        (serveRead dev (s.openFiles dev) cow.events (cluster * clusterBlocks C B) (clusterBlocks C B)
          (clusterBytes C cow.buffer)).map fun result => (result.1, fun j => result.2.getD j 0)

/-- The write itself, into a cluster that is there. -/
def Store.put (s : Store) (lba : Nat) (base : Cluster) (data : List UInt8) : Store :=
  { s with
    live := Function.update s.live (lba / clusterBlocks C B)
      (some (patch base (lba % clusterBlocks C B * B.bytes) data))
    written := s.written ++ [(lba * B.bytes, data)] }

def Store.writePiece (dev : BsDevUring) (s : Store) (cow : Cow) (lba : Nat) (data : List UInt8) : Option (Int × Store) :=
  match s.live (lba / clusterBlocks C B) with
  | some old => some (0, s.put C B lba old data)
  | none =>
    (s.materialise C B dev cow (lba / clusterBlocks C B)).map fun (status, base) =>
      if status = 0 then (0, s.put C B lba base data) else (status, s)

def Store.writePieces (dev : BsDevUring) (cow : Nat → Cow) :
    List (Nat × Nat) → List UInt8 → Store → Option (Int × Store)
  | [], _, s => some (0, s)
  | (lba, n) :: rest, data, s =>
    (s.writePiece C B dev (cow lba) lba (data.take (n * B.bytes))).bind fun (status, s') =>
      (Store.writePieces dev cow rest (data.drop (n * B.bytes)) s').map fun (status', s'') =>
        (if status = 0 then status' else status, s'')

inductive IoStatus where
  | success
  | failed
  deriving DecidableEq, Repr

def ubiBlobIoComplete (bserrno : Int) : IoStatus := if bserrno ≠ 0 then .failed else .success

structure Extent where
  offsetBlocks : Nat
  numBlocks : Nat
  deriving DecidableEq, Repr

def Extent.blocks (extent : Extent) : List Nat := List.range' extent.offsetBlocks extent.numBlocks

/-- A guest's request, with the pieces the blobstore cuts it into. -/
inductive BdevIo where
  | read (split : List (Nat × Nat)) (payload : List UInt8) (events : Nat → ReadEvents)
  | write (split : List (Nat × Nat)) (data : List UInt8) (cow : Nat → Cow)
  | flush
  | unsupported

/-- The completion's status, the payload of a read and the disk afterwards. -/
def ubiSubmitRequest (dev : BsDevUring) (s : Store) : BdevIo → Option (IoStatus × List UInt8 × Store)
  | .read split payload events =>
    (s.readPieces C B dev events split payload).map fun (status, data) => (ubiBlobIoComplete status, data, s)
  | .write split data cow =>
    (Store.writePieces C B dev cow split data s).map fun (status, s') => (ubiBlobIoComplete status, [], s')
  | .flush => some (.success, [], s)
  | .unsupported => some (.failed, [], s)

/-- What the shallow copy passes on: each allocated cluster once and as a whole, and
all of them if it succeeds. -/
def Store.permits (clusters : Nat) (s : Store) : CopyEvent → Bool
  | .copyCluster id cluster payload _ =>
    match s.source id cluster, s.copies.copy id with
    | some data, some copy => decide (cluster < clusters ∧ payload = clusterBytes C data ∧ cluster ∉ copy.copied)
    | _, _ => false
  | .copyEnd id rc =>
    match s.copies.copy id with
    | some copy =>
      decide (rc = 0 → ∀ cluster ∈ List.range clusters, (s.source id cluster).isSome = true → cluster ∈ copy.copied)
    | none => false
  | _ => true

/-- The blobstore's part in the completion of `spdk_bs_create_snapshot`. -/
def Store.freeze (s : Store) : CopyEvent → Store
  | .callback id outcome _ =>
    match s.copies.requests.stage id with
    | .waiting .createSnapshot _ =>
      if outcome.bserrno = 0 then
        { s with
          live := fun _ => none
          frozen := s.live :: s.frozen
          source := Function.update s.source id s.live }
      else s
    | _ => s
  | _ => s

inductive StoreEvent where
  | guest (io : BdevIo)
  | copy (event : CopyEvent)

def storeStep (dev : BsDevUring) (clusters : Nat) (s : Store) : StoreEvent → Option Store
  | .guest io => (ubiSubmitRequest C B dev s io).map fun result => result.2.2
  | .copy event =>
    if s.permits C clusters event then
      (copyStep (.sized C B (clusters * clusterBlocks C B) clusters) s.copies event).map fun copies =>
        { s.freeze event with copies := copies }
    else none

end

/-! ## What each event does to the layers -/

/-- What the guest can see at a byte address; no value where nothing is promised. -/
def Store.visible (C : ClusterSize) (dev : BsDevUring) (s : Store) (address : Nat) : Option UInt8 :=
  match lookup (s.live :: s.frozen) (address / C.bytes) with
  | some data => some (data (address % C.bytes))
  | none => overlayByte C dev.clusterMap (s.openFiles dev) address

section
variable {C : ClusterSize} {B : BlockLength} {dev : BsDevUring} {s s' : Store} {clusters : Nat}

@[simp] theorem length_clusterBytes (data : Cluster) : (clusterBytes C data).length = C.bytes := by
  simp [clusterBytes]

theorem visible_found {address : Nat} {data : Cluster}
    (found : lookup (s.live :: s.frozen) (address / C.bytes) = some data) :
    s.visible C dev address = some (data (address % C.bytes)) := by
  simp only [Store.visible, found]

theorem visible_absent {address : Nat} (absent : lookup (s.live :: s.frozen) (address / C.bytes) = none) :
    s.visible C dev address = overlayByte C dev.clusterMap (s.openFiles dev) address := by
  simp only [Store.visible, absent]

/-- Freezing hides nothing: the frozen layer is found where the live one was. -/
theorem lookup_freeze (event : CopyEvent) :
    lookup ((s.freeze event).live :: (s.freeze event).frozen) = lookup (s.live :: s.frozen) := by
  unfold Store.freeze
  split
  · split
    · split
      · exact lookup_empty _
      · rfl
    · rfl
  · rfl

theorem storeStep_copy {event : CopyEvent} (stepped : storeStep C B dev clusters s (.copy event) = some s') :
    s.permits C clusters event = true ∧ ∃ copies,
      copyStep (.sized C B (clusters * clusterBlocks C B) clusters) s.copies event = some copies ∧
      s' = { s.freeze event with copies := copies } := by
  simp only [storeStep] at stepped
  split at stepped
  · rename_i permitted
    obtain ⟨copies, copied, rfl⟩ := Option.map_eq_some_iff.mp stepped
    exact ⟨permitted, copies, copied, rfl⟩
  · cases stepped

theorem storeStep_of_copyStep {event : CopyEvent} {copies : Copies} (permitted : s.permits C clusters event = true)
    (copied : copyStep (.sized C B (clusters * clusterBlocks C B) clusters) s.copies event = some copies) :
    storeStep C B dev clusters s (.copy event) = some { s.freeze event with copies := copies } := by
  simp only [storeStep, permitted, ↓reduceIte, copied, Option.map_some]

theorem written_freeze (event : CopyEvent) : (s.freeze event).written = s.written := by
  unfold Store.freeze
  repeat' split
  all_goals rfl

/-! ## Requests in pieces -/

/-- A piece of a cluster that no layer has is the overlay's to serve. -/
theorem readPiece_overlay (fits : dev.Fits C B) (events : ReadEvents) {lba n : Nat} {payload : List UInt8}
    (absent : lookup (s.live :: s.frozen) (lba / clusterBlocks C B) = none) (length : payload.length = n * B.bytes)
    (word : n * B.bytes < 2 ^ 32) :
    s.readPiece C B dev events lba payload = serveRead dev (s.openFiles dev) events lba n payload := by
  have total : [payload].flatten.length = n * B.bytes := by simpa using length
  have flat := @serveReadv_flatten dev C B fits (s.openFiles dev) events lba n [payload] total word
  rw [List.flatten_singleton] at flat
  simp only [Store.readPiece, absent]
  exact flat

/-- A read fills its payload and does not resize it. -/
theorem readPiece_length {events : ReadEvents} {lba : Nat} {payload data : List UInt8} {status : Int}
    (read : s.readPiece C B dev events lba payload = some (status, data)) : data.length = payload.length := by
  simp only [Store.readPiece] at read
  split at read
  · cases read
    simp
  · obtain ⟨result, served, same⟩ := Option.map_eq_some_iff.mp read
    cases same
    rw [List.length_flatten, serveReadv_shape served]
    simp

/-- A payload is cut where its first piece ends. -/
theorem cut_payload {payload : List UInt8} {lba count n limit : Nat} (most : n ≤ count)
    (length : payload.length = count * B.bytes) (stop : (lba + count) * B.bytes ≤ limit) :
    count * B.bytes = n * B.bytes + (count - n) * B.bytes ∧ (payload.take (n * B.bytes)).length = n * B.bytes ∧
      (payload.drop (n * B.bytes)).length = (count - n) * B.bytes ∧ (lba + n) * B.bytes ≤ limit := by
  have cut : count * B.bytes = n * B.bytes + (count - n) * B.bytes := by
    rw [← Nat.add_mul, Nat.add_sub_cancel' most]
  refine ⟨cut, ?_, ?_, le_trans (Nat.mul_le_mul_right _ (by omega)) stop⟩
  · rw [List.length_take]
    omega
  · rw [List.length_drop]
    omega

/-- A request of two parts reports the first error. -/
theorem both_succeed {status status' : Int} (success : (if status = 0 then status' else status) = 0) :
    status = 0 ∧ status' = 0 := by
  by_cases fine : status = 0
  · rw [if_pos fine] at success
    exact ⟨fine, success⟩
  · rw [if_neg fine] at success
    exact absurd success fine

/-- What holds of each piece of a range holds of the whole read, however it was cut. -/
theorem readPieces_spec {limit : Nat} {quiet : Prop} {shows : Nat → UInt8 → Prop} {events : Nat → ReadEvents}
    (piece : ∀ lba n payload, payload.length = n * B.bytes → 0 < n → lba % clusterBlocks C B + n ≤ clusterBlocks C B →
      (lba + n) * B.bytes ≤ limit →
      ∃ status data, s.readPiece C B dev (events lba) lba payload = some (status, data) ∧ data.length = n * B.bytes ∧
        (quiet → status = 0) ∧ (status = 0 → ∀ j, j < n * B.bytes → shows (lba * B.bytes + j) (data.getD j 0)))
    {split : List (Nat × Nat)} {payload : List UInt8} {lba count : Nat} (length : payload.length = count * B.bytes)
    (covers : Covers C B lba count split) (stop : (lba + count) * B.bytes ≤ limit) :
    ∃ status data, s.readPieces C B dev events split payload = some (status, data) ∧ data.length = count * B.bytes ∧
      (quiet → status = 0) ∧ (status = 0 → ∀ j, j < count * B.bytes → shows (lba * B.bytes + j) (data.getD j 0)) := by
  induction split generalizing lba count payload with
  | nil =>
    cases (covers : count = 0)
    refine ⟨0, [], rfl, by simp, fun _ => rfl, ?_⟩
    intro _ j below
    simp at below
  | cons first rest ih =>
    obtain ⟨start, n⟩ := first
    obtain ⟨rfl, positive, most, inside, later⟩ := covers
    obtain ⟨cut, front, back, stop'⟩ := cut_payload most length stop
    obtain ⟨status, data, read, size, calm, here⟩ := piece start n _ front positive inside stop'
    obtain ⟨status', data', read', size', calm', there⟩ := ih back later (by rwa [Nat.add_assoc, Nat.add_sub_cancel' most])
    refine ⟨if status = 0 then status' else status, data ++ data', ?_, ?_, ?_, ?_⟩
    · simp only [Store.readPieces, read, Option.bind_some, read', Option.map_some]
    · rw [List.length_append, size, size', cut]
    · intro still
      rw [if_pos (calm still)]
      exact calm' still
    · intro success j below
      obtain ⟨fine, success'⟩ := both_succeed success
      by_cases early : j < n * B.bytes
      · rw [List.getD_append _ _ _ _ (by omega)]
        exact here fine j early
      · have shown := there success' (j - n * B.bytes) (by omega)
        rw [Nat.add_mul, Nat.add_assoc, Nat.add_sub_cancel' (by omega)] at shown
        rw [List.getD_append_right _ _ _ _ (by omega), size]
        exact shown

end

end BdevUbi.Disk
