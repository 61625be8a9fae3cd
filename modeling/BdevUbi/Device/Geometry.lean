import BdevUbi.Library.LittleEndian
import Mathlib.Data.Nat.Log
import Mathlib.Data.Nat.Prime.Basic
import Mathlib.Tactic.NormNum
import Mathlib.Tactic.Ring

/-! Sizes shared by the two blobstore devices: the cluster table, cluster sizes
and block lengths. -/

set_option autoImplicit false

namespace BdevUbi.Device
open BdevUbi.Library

-- `errno` values; a status is their negation
def enoent : Int := 2
def eio : Int := 5
def ebadf : Int := 9
def enomem : Int := 12
def einval : Int := 22

-- Irreducible, so that no proof ever counts through the table.
@[irreducible] def maxClusters : Nat := 1024 * 1024 * 64

/-- `sizeof(uint64_t) * MAX_CLUSTERS`, the part of a snapshot file that holds the table. -/
def mapBytes : Nat := 8 * maxClusters

theorem maxClusters_eq : maxClusters = 2 ^ 26 := by
  unfold maxClusters
  norm_num

theorem zero_lt_maxClusters : 0 < maxClusters := by
  rw [maxClusters_eq]
  norm_num

theorem mapBytes_eq : mapBytes = 2 ^ 29 := by
  rw [mapBytes, maxClusters_eq]
  norm_num

/-- `uint64_t cluster_map[MAX_CLUSTERS]`: file offsets, zero where a cluster is absent. -/
abbrev ClusterMap := Fin maxClusters → UInt64

namespace ClusterMap

/-- `memset(cluster_map, 0, ..)`, and what calloc gives. -/
def zero : ClusterMap := fun _ => 0

/-- Array access. An index outside the table is undefined behaviour: no value. -/
def get? (map : ClusterMap) (i : Nat) : Option UInt64 :=
  if inside : i < maxClusters then some (map ⟨i, inside⟩) else none

/-- Array assignment, undefined in the same cases. -/
def set? (map : ClusterMap) (i : Nat) (value : UInt64) : Option ClusterMap :=
  if inside : i < maxClusters then some (Function.update map ⟨i, inside⟩ value) else none

/-- Bytes read over the table's memory; what they do not reach keeps its value. -/
def overwrite (map : ClusterMap) (data : List UInt8) : ClusterMap :=
  fun i => wordAt (fun k => if k < data.length then data.getD k 0 else tableByte map k) i

/-- The cluster is inside the table and has a file offset. -/
def Mapped (map : ClusterMap) (cluster : Nat) : Prop :=
  ∃ inside : cluster < maxClusters, map ⟨cluster, inside⟩ ≠ 0

instance (map : ClusterMap) (cluster : Nat) : Decidable (map.Mapped cluster) :=
  inferInstanceAs (Decidable (∃ inside : cluster < maxClusters, map ⟨cluster, inside⟩ ≠ 0))

/-- The file offset of a cluster; zero also outside the table. -/
def start (map : ClusterMap) (cluster : Nat) : Nat :=
  if inside : cluster < maxClusters then (map ⟨cluster, inside⟩).toNat else 0

theorem get?_of_lt (map : ClusterMap) {i : Nat} (inside : i < maxClusters) :
    map.get? i = some (map ⟨i, inside⟩) := dif_pos inside

theorem get?_of_le (map : ClusterMap) {i : Nat} (outside : maxClusters ≤ i) : map.get? i = none :=
  dif_neg (Nat.not_lt.mpr outside)

theorem set?_of_lt (map : ClusterMap) {i : Nat} (inside : i < maxClusters) (value : UInt64) :
    map.set? i value = some (Function.update map ⟨i, inside⟩ value) := dif_pos inside

theorem mapped_iff_start (map : ClusterMap) (cluster : Nat) : map.Mapped cluster ↔ map.start cluster ≠ 0 := by
  unfold Mapped start
  split
  · rename_i inside
    simp only [inside, exists_true_left, ne_eq, ← UInt64.toNat_inj, UInt64.toNat_zero]
  · rename_i outside
    simp [outside]

theorem not_mapped_zero (cluster : Nat) : ¬ zero.Mapped cluster := fun ⟨_, present⟩ => present rfl

/-- Reading the image of a table over any table gives the first one. -/
theorem overwrite_tableBytes (map table : ClusterMap) : map.overwrite (tableBytes table) = table := by
  funext i
  have bound := i.isLt
  rw [← wordAt_tableByte table i]
  apply wordAt_congr
  intro j below
  rw [length_tableBytes, if_pos (by omega), getD_tableBytes table (by omega)]

/-- A table that was read as a whole has the bytes that were read as its image. -/
theorem tableByte_overwrite (map : ClusterMap) {data : List UInt8} (whole : data.length = mapBytes) {k : Nat}
    (inside : k < mapBytes) : tableByte (map.overwrite data) k = data.getD k 0 := by
  have entry : k / 8 < maxClusters := by
    unfold mapBytes at inside
    omega
  have position : 8 * (k / 8) + k % 8 = k := Nat.div_add_mod k 8
  rw [tableByte, dif_pos entry, overwrite, leByte_wordAt _ _ (Nat.mod_lt k (by decide)), position, whole, if_pos inside]

end ClusterMap

/-- A power of two, a multiple of the 4 KiB page, held in a `uint32_t`. -/
structure ClusterSize where
  bytes : Nat
  power : ∃ k, bytes = 2 ^ k
  aligned : 4096 ∣ bytes
  word : bytes < 2 ^ 32

/-- The blobstore takes the block lengths that divide its 4 KiB page. -/
structure BlockLength where
  bytes : Nat
  divides : bytes ∣ 4096

def ClusterSize.page : ClusterSize := ⟨4096, ⟨12, by norm_num⟩, dvd_rfl, by norm_num⟩
def BlockLength.page : BlockLength := ⟨4096, dvd_rfl⟩
def BlockLength.sector : BlockLength := ⟨512, by norm_num⟩

namespace ClusterSize

theorem exponent (C : ClusterSize) : ∃ k, 12 ≤ k ∧ k < 32 ∧ C.bytes = 2 ^ k := by
  obtain ⟨k, same⟩ := C.power
  have low : 2 ^ 12 ∣ 2 ^ k := same ▸ C.aligned
  have high : 2 ^ k < 2 ^ 32 := same ▸ C.word
  exact ⟨k, Nat.pow_dvd_pow_iff_le_right'.mp low, (Nat.pow_lt_pow_iff_right (by decide)).mp high, same⟩

theorem pos (C : ClusterSize) : 0 < C.bytes := by
  obtain ⟨k, _, _, same⟩ := C.exponent
  rw [same]
  exact Nat.two_pow_pos k

end ClusterSize

theorem BlockLength.exponent (B : BlockLength) : ∃ b, b ≤ 12 ∧ B.bytes = 2 ^ b :=
  (Nat.dvd_prime_pow Nat.prime_two).mp (show B.bytes ∣ 2 ^ 12 from B.divides)

theorem BlockLength.pos (B : BlockLength) : 0 < B.bytes :=
  Nat.pos_of_dvd_of_pos B.divides (by decide)

/-- The number of blocks of a cluster. -/
def clusterBlocks (C : ClusterSize) (B : BlockLength) : Nat := C.bytes / B.bytes

section
variable (C : ClusterSize) (B : BlockLength)

theorem clusterBlocks_exponent :
    ∃ k b, b ≤ 12 ∧ 12 ≤ k ∧ k < 32 ∧ C.bytes = 2 ^ k ∧ B.bytes = 2 ^ b ∧ clusterBlocks C B = 2 ^ (k - b) := by
  obtain ⟨k, low, high, cluster⟩ := C.exponent
  obtain ⟨b, small, block⟩ := B.exponent
  refine ⟨k, b, small, low, high, cluster, block, ?_⟩
  rw [clusterBlocks, cluster, block, Nat.pow_div (by omega) (by decide)]

theorem clusterBlocks_mul : clusterBlocks C B * B.bytes = C.bytes :=
  Nat.div_mul_cancel (B.divides.trans C.aligned)

theorem clusterBlocks_pos : 0 < clusterBlocks C B := by
  have cluster := C.pos
  rw [← clusterBlocks_mul C B] at cluster
  exact Nat.pos_of_mul_pos_right cluster

theorem byteAddress_split (lba : Nat) :
    lba * B.bytes = C.bytes * (lba / clusterBlocks C B) + lba % clusterBlocks C B * B.bytes := by
  have whole := clusterBlocks_mul C B
  have split := Nat.div_add_mod lba (clusterBlocks C B)
  calc lba * B.bytes
      = (clusterBlocks C B * (lba / clusterBlocks C B) + lba % clusterBlocks C B) * B.bytes := by rw [split]
    _ = _ := by rw [← whole]; ring

theorem offset_lt (lba : Nat) : lba % clusterBlocks C B * B.bytes < C.bytes := by
  rw [← clusterBlocks_mul C B]
  exact Nat.mul_lt_mul_of_pos_right (Nat.mod_lt lba (clusterBlocks_pos C B)) B.pos

/-- A range of blocks that stays in its cluster, as byte offsets in the cluster. -/
theorem range_inside {lba count : Nat} (inside : lba % clusterBlocks C B + count ≤ clusterBlocks C B) :
    lba % clusterBlocks C B * B.bytes + count * B.bytes ≤ C.bytes := by
  rw [← Nat.add_mul, ← clusterBlocks_mul C B]
  exact Nat.mul_le_mul_right _ inside

/-- The bytes of a range that stays in its cluster have the cluster's index. -/
theorem byteAddress_div {lba count j : Nat} (inside : lba % clusterBlocks C B + count ≤ clusterBlocks C B)
    (below : j < count * B.bytes) : (lba * B.bytes + j) / C.bytes = lba / clusterBlocks C B := by
  have room := range_inside C B inside
  have small : lba % clusterBlocks C B * B.bytes + j < C.bytes := by omega
  rw [byteAddress_split C B lba, Nat.add_assoc, Nat.mul_add_div C.pos, Nat.div_eq_of_lt small, Nat.add_zero]

theorem byteAddress_mod {lba count j : Nat} (inside : lba % clusterBlocks C B + count ≤ clusterBlocks C B)
    (below : j < count * B.bytes) :
    (lba * B.bytes + j) % C.bytes = lba % clusterBlocks C B * B.bytes + j := by
  have room := range_inside C B inside
  have small : lba % clusterBlocks C B * B.bytes + j < C.bytes := by omega
  rw [byteAddress_split C B lba, Nat.add_assoc, Nat.mul_add_mod, Nat.mod_eq_of_lt small]

end

theorem clusterBlocks_page : clusterBlocks .page .page = 1 := by
  simp [clusterBlocks, ClusterSize.page, BlockLength.page]

end BdevUbi.Device
