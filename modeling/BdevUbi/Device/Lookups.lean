import BdevUbi.Device.Uring

/-! The cluster a block belongs to, as its users compute it.

`bs_dev_delta_write` divides by the blocks of a cluster, `set_io_opts` shifts and keeps 32
bits, `bs_dev_uring_is_range_valid` shifts. A request reaches the devices in pieces cut at
multiples of `optimal_io_boundary`, and one lookup serves a whole piece.
-/

set_option autoImplicit false

namespace BdevUbi.Device
open BdevUbi.Library RegularFile

/-! ## One lookup for a piece -/

/-- As `ubi_finish_create` sets it, in blocks. -/
def optimalIoBoundary (blocklen : Nat) : Nat := 4 * 1024 / blocklen

/-- Consecutive pieces, first block and length, that cover a request and each lie in one
window of the boundary. -/
inductive Pieces (boundary : Nat) : Nat → Nat → List (Nat × Nat) → Prop where
  | nil {lba : Nat} : Pieces boundary lba 0 []
  | cons {lba length count : Nat} {rest : List (Nat × Nat)} (window : lba % boundary + length ≤ boundary)
      (later : Pieces boundary (lba + length) count rest) : Pieces boundary lba (length + count) ((lba, length) :: rest)

/-- The file and the offset some bytes further on. -/
def advance (bytes : Nat) (opts : Fd × Nat) : Fd × Nat := (opts.1, (opts.2 + bytes) % 2 ^ 64)

/-- What the single lookup of a piece says about each of its blocks. -/
def pieceLookups (dev : BsDevUring) (piece : Nat × Nat) : List (Option (Fd × Nat)) :=
  (List.range piece.2).map fun i => (setIoOpts dev piece.1).map (advance (i * dev.blocklen))

section
variable {C : ClusterSize} {B : BlockLength}

theorem optimalIoBoundary_dvd : optimalIoBoundary B.bytes ∣ clusterBlocks C B := by
  obtain ⟨pages, whole⟩ := C.aligned
  refine ⟨pages, ?_⟩
  rw [clusterBlocks, optimalIoBoundary, whole]
  exact Nat.mul_div_right_comm B.divides pages

/-- A window of a divisor lies in a window of its multiple. -/
theorem window_mod {boundary blocks lba length : Nat} (divides : boundary ∣ blocks) (filled : 0 < blocks)
    (window : lba % boundary + length ≤ boundary) : lba % blocks + length ≤ blocks := by
  obtain ⟨windows, rfl⟩ := divides
  have below : lba / boundary % windows < windows := by
    refine Nat.mod_lt _ (Nat.pos_of_ne_zero ?_)
    rintro rfl
    exact absurd filled (Nat.lt_irrefl 0)
  calc lba % (boundary * windows) + length
      = lba % boundary + length + boundary * (lba / boundary % windows) := by rw [Nat.mod_mul]; omega
    _ ≤ boundary + boundary * (lba / boundary % windows) := Nat.add_le_add_right window _
    _ = boundary * (lba / boundary % windows + 1) := by ring
    _ ≤ boundary * windows := Nat.mul_le_mul_left _ below

theorem piece_inside {lba length : Nat} (window : lba % optimalIoBoundary B.bytes + length ≤ optimalIoBoundary B.bytes) :
    lba % clusterBlocks C B + length ≤ clusterBlocks C B :=
  window_mod optimalIoBoundary_dvd (clusterBlocks_pos C B) window

theorem block_index {lba i : Nat} (inside : lba % clusterBlocks C B + i < clusterBlocks C B) :
    (lba + i) / clusterBlocks C B = lba / clusterBlocks C B ∧
      (lba + i) % clusterBlocks C B = lba % clusterBlocks C B + i := by
  have split := Nat.div_add_mod lba (clusterBlocks C B)
  have whole : lba + i = clusterBlocks C B * (lba / clusterBlocks C B) + (lba % clusterBlocks C B + i) := by omega
  rw [whole, Nat.mul_add_div (clusterBlocks_pos C B), Nat.mul_add_mod, Nat.div_eq_of_lt inside, Nat.mod_eq_of_lt inside]
  exact ⟨Nat.add_zero _, rfl⟩

/-- Inside a cluster the lookup of a block is the lookup of an earlier one, moved on. -/
theorem setIoOpts_advance {dev : BsDevUring} (fits : dev.Fits C B) {lba i : Nat}
    (inside : lba % clusterBlocks C B + i < clusterBlocks C B) :
    setIoOpts dev (lba + i) = (setIoOpts dev lba).map (advance (i * B.bytes)) := by
  obtain ⟨cluster, offset⟩ := block_index inside
  rw [setIoOpts_eq fits, setIoOpts_eq fits, tableIndex, tableIndex, cluster, offset, Option.map_map]
  congr 1
  funext entry
  simp only [Function.comp_apply]
  split
  · simp only [advance, Nat.mod_add_mod, Nat.add_mul]
  · simp only [advance, Nat.mod_add_mod, Nat.add_mul, Nat.add_assoc]

/-- The lookups of the pieces, put together, are those of the request's blocks. -/
theorem Pieces.lookups {dev : BsDevUring} (fits : dev.Fits C B) {lba count : Nat} {pieces : List (Nat × Nat)}
    (cut : Pieces (optimalIoBoundary B.bytes) lba count pieces) :
    pieces.flatMap (pieceLookups dev) = (List.range count).map fun i => setIoOpts dev (lba + i) := by
  induction cut with
  | nil => rfl
  | @cons lba length count rest window later ih =>
    have own : pieceLookups dev (lba, length) = (List.range length).map fun i => setIoOpts dev (lba + i) := by
      refine List.map_congr_left fun i member => ?_
      have inside := @piece_inside C B _ _ window
      have below := List.mem_range.mp member
      rw [setIoOpts_advance fits (by omega), fits.blocklen]
    rw [List.flatMap_cons, ih, own, List.range_add, List.map_append, List.map_map]
    congr 2
    funext i
    simp only [Function.comp_apply, Nat.add_assoc]

theorem Pieces.window {boundary lba count : Nat} {pieces : List (Nat × Nat)} (cut : Pieces boundary lba count pieces) :
    ∀ piece ∈ pieces, piece.1 % boundary + piece.2 ≤ boundary := by
  induction cut with
  | nil => exact fun _ member => (by cases member)
  | cons window later ih =>
    intro piece member
    cases member with
    | head => exact window
    | tail _ member => exact ih piece member

end

/-- A request cut at the boundary: all the bytes of a piece are in one cluster, the lookup of
its first block says where each of its blocks is, and the pieces' lookups together are
those of all the blocks of the request. -/
theorem piece_lookup_suffices (C : ClusterSize) (B : BlockLength) (imageSize : Nat) (map : ClusterMap)
    (filename snapshotPath : String) (directio : Bool) {lba count : Nat} {pieces : List (Nat × Nat)}
    (cut : Pieces (optimalIoBoundary B.bytes) lba count pieces) :
    let dev := BsDevUring.build imageSize map filename snapshotPath B.bytes C.bytes directio
    (∀ piece ∈ pieces,
      (∀ j, j < piece.2 * B.bytes → (piece.1 * B.bytes + j) / C.bytes = piece.1 * B.bytes / C.bytes) ∧
      ∀ i, i < piece.2 → setIoOpts dev (piece.1 + i) = (setIoOpts dev piece.1).map (advance (i * B.bytes))) ∧
    pieces.flatMap (pieceLookups dev) = (List.range count).map fun i => setIoOpts dev (lba + i) := by
  intro dev
  have fits : dev.Fits C B := BsDevUring.build_fits imageSize map filename snapshotPath C B directio
  refine ⟨fun piece member => ?_, cut.lookups fits⟩
  have inside := @piece_inside C B _ _ (cut.window piece member)
  constructor
  · intro j below
    have first : 0 < piece.2 * B.bytes := by omega
    rw [byteAddress_div C B inside below, ← byteAddress_div C B inside first, Nat.add_zero]
  · intro i below
    exact setIoOpts_advance fits (by omega)

/-- Twelve sectors from the sixth on, in three pieces. -/
theorem piece_lookup_sectors :
    let dev := BsDevUring.build 8192 .zero "image" "" BlockLength.sector.bytes ClusterSize.page.bytes true
    [(6, 2), (8, 8), (16, 2)].flatMap (pieceLookups dev) = (List.range 12).map fun i => setIoOpts dev (6 + i) :=
  (piece_lookup_suffices .page .sector 8192 .zero "image" "" false
    (.cons (by decide) (.cons (by decide) (.cons (by decide) .nil)))).2

/-! ## One index for all -/

/-- The sizes of a disk that `bdev_ubi_create` accepts: formatting takes the default
cluster size, loading the one it finds in the store. -/
structure DiskSizes where
  blocklen : BlockLength
  clusterSize : Nat
  clusters : Nat
  aligned : 4096 ∣ clusterSize
  positive : 0 < clusterSize
  word : clusterSize < 2 ^ 32

namespace DiskSizes

def clusterBlocks (disk : DiskSizes) : Nat := disk.clusterSize / disk.blocklen.bytes

/-- `spdk_blob_get_num_io_units`. -/
def blockcnt (disk : DiskSizes) : Nat := disk.clusters * disk.clusterBlocks

def delta (disk : DiskSizes) (filename : String) (direction : Direction) : BsDevDelta :=
  bsDevDeltaCreate filename disk.blockcnt disk.blocklen.bytes disk.clusterSize direction

def uring (disk : DiskSizes) (imageSize : Nat) (map : ClusterMap) (filename snapshotPath : String) (directio : Bool) : BsDevUring :=
  .build imageSize map filename snapshotPath disk.blocklen.bytes disk.clusterSize directio

end DiskSizes

/-- The three users of a table compute the block's cluster, which the table has. -/
structure SameIndex (disk : DiskSizes) (delta : BsDevDelta) (uring : BsDevUring) (lba : Nat) : Prop where
  write : lba / delta.clusterSize = lba * disk.blocklen.bytes / disk.clusterSize
  opts : (lba >>> uring.lbaToClusterShift) % 2 ^ 32 = lba * disk.blocklen.bytes / disk.clusterSize
  range : lba >>> uring.lbaToClusterShift = lba * disk.blocklen.bytes / disk.clusterSize
  inside : lba * disk.blocklen.bytes / disk.clusterSize < maxClusters

section
variable (disk : DiskSizes)

theorem DiskSizes.clusterBlocks_mul : disk.clusterBlocks * disk.blocklen.bytes = disk.clusterSize :=
  Nat.div_mul_cancel (disk.blocklen.divides.trans disk.aligned)

theorem DiskSizes.clusterBlocks_pos : 0 < disk.clusterBlocks := by
  have positive := disk.positive
  rw [← disk.clusterBlocks_mul] at positive
  exact Nat.pos_of_mul_pos_right positive

theorem DiskSizes.floor_eq (lba : Nat) : lba * disk.blocklen.bytes / disk.clusterSize = lba / disk.clusterBlocks := by
  rw [← disk.clusterBlocks_mul]
  exact Nat.mul_div_mul_right _ _ disk.blocklen.pos

/-- The shift goes by the largest power of two in a cluster, which is all of it or is
already a block of another cluster for the shift. -/
theorem DiskSizes.power_of_shift
    (same : 2 ^ Nat.log2 disk.clusterBlocks < disk.clusterBlocks →
      (2 ^ Nat.log2 disk.clusterBlocks) >>> Nat.log2 disk.clusterBlocks = 2 ^ Nat.log2 disk.clusterBlocks / disk.clusterBlocks) :
    ∃ k, disk.clusterSize = 2 ^ k := by
  obtain ⟨b, _, block⟩ := disk.blocklen.exponent
  have below : 2 ^ Nat.log2 disk.clusterBlocks ≤ disk.clusterBlocks := Nat.log2_self_le disk.clusterBlocks_pos.ne'
  have whole : 2 ^ Nat.log2 disk.clusterBlocks = disk.clusterBlocks := by
    by_contra different
    have less := lt_of_le_of_ne below different
    have shifted := same less
    rw [Nat.div_eq_of_lt less, Nat.shiftRight_eq_div_pow, Nat.div_self (Nat.two_pow_pos _)] at shifted
    cases shifted
  refine ⟨Nat.log2 disk.clusterBlocks + b, ?_⟩
  rw [← disk.clusterBlocks_mul, pow_add, whole, block]

theorem DiskSizes.sameIndex_of_power (power : ∃ k, disk.clusterSize = 2 ^ k) (few : disk.clusters ≤ maxClusters) {filename : String}
    {direction : Direction} {imageSize : Nat} {map : ClusterMap} {image snapshotPath : String} {directio : Bool} {lba : Nat}
    (below : lba < disk.blockcnt) :
    SameIndex disk (disk.delta filename direction) (disk.uring imageSize map image snapshotPath directio) lba := by
  let C : ClusterSize := ⟨disk.clusterSize, power, disk.aligned, disk.word⟩
  have fits : (disk.uring imageSize map image snapshotPath directio).Fits C disk.blocklen :=
    BsDevUring.build_fits imageSize map image snapshotPath C disk.blocklen directio
  have inside : lba / disk.clusterBlocks < maxClusters := by
    refine lt_of_lt_of_le ((Nat.div_lt_iff_lt_mul disk.clusterBlocks_pos).mpr below) few
  have floor := disk.floor_eq lba
  refine ⟨floor.symm, ?_, ?_, ?_⟩
  · rw [fits.shiftRight, floor]
    exact tableIndex_of_lt (C := C) inside
  · rw [fits.shiftRight, floor]
    rfl
  · rw [floor]
    exact inside

end

/-- All users of the table agree on every block of a disk, and stay inside the table,
exactly when the cluster size is a power of two and the table has an entry for each of the
disk's clusters; or the disk has no blocks. -/
theorem cluster_index_agrees_iff (disk : DiskSizes) (filename : String) (direction : Direction) (imageSize : Nat) (map : ClusterMap)
    (image snapshotPath : String) (directio : Bool) :
    (∀ lba, lba < disk.blockcnt →
      SameIndex disk (disk.delta filename direction) (disk.uring imageSize map image snapshotPath directio) lba) ↔
    disk.clusters = 0 ∨ (∃ k, disk.clusterSize = 2 ^ k) ∧ disk.clusters ≤ maxClusters := by
  constructor
  · intro same
    by_cases none : disk.clusters = 0
    · exact .inl none
    have first : disk.clusterBlocks ≤ disk.blockcnt := Nat.le_mul_of_pos_left _ (Nat.pos_of_ne_zero none)
    refine .inr ⟨disk.power_of_shift fun less => ?_, ?_⟩
    · have here := same _ (lt_of_lt_of_le less first)
      exact here.range.trans (disk.floor_eq _)
    · by_contra many
      have below : maxClusters * disk.clusterBlocks < disk.blockcnt :=
        Nat.mul_lt_mul_of_pos_right (Nat.not_le.mp many) disk.clusterBlocks_pos
      have inside := (same _ below).inside
      rw [disk.floor_eq, Nat.mul_div_cancel _ disk.clusterBlocks_pos] at inside
      exact absurd inside (Nat.lt_irrefl _)
  · rintro (none | ⟨power, few⟩) lba below
    · rw [DiskSizes.blockcnt, none, Nat.zero_mul] at below
      exact absurd below (Nat.not_lt_zero lba)
    · exact disk.sameIndex_of_power power few below

def DiskSizes.threePages : DiskSizes := ⟨.page, 12288, 1, ⟨3, rfl⟩, by decide, by decide⟩
def DiskSizes.long : DiskSizes := ⟨.page, 8192, 67108865, ⟨2, rfl⟩, by decide, by decide⟩

/-- With clusters of three pages the shift puts the last page of the first cluster into the
second; with one cluster more than the table has entries the last cluster is outside. -/
theorem cluster_index_disagrees :
    ¬ (∀ lba, lba < DiskSizes.threePages.blockcnt →
      SameIndex .threePages (DiskSizes.threePages.delta "copy" .write) (DiskSizes.threePages.uring 0 .zero "image" "" false) lba) ∧
    ¬ (∀ lba, lba < DiskSizes.long.blockcnt →
      SameIndex .long (DiskSizes.long.delta "copy" .write) (DiskSizes.long.uring 0 .zero "image" "" false) lba) := by
  constructor
  · intro same
    have range := (same 2 (by decide)).range
    revert range
    decide
  · intro same
    have inside := (same (2 ^ 27) (by decide)).inside
    rw [maxClusters_eq] at inside
    revert inside
    decide

end BdevUbi.Device
