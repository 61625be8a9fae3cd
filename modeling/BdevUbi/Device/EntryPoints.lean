import BdevUbi.Device.Transfers

/-! The three ways to write to the delta device.

Only `bs_dev_delta_write` writes; the vectored calls are answered with 0 and do
nothing. The table has whole clusters, while a call may ask for any number of blocks.
All system calls succeed in full here.
-/

set_option autoImplicit false

namespace BdevUbi.Device
open BdevUbi.Library RegularFile

-- "TODO" in the source
def bsDevDeltaWritev (_dev : BsDevDelta) (ch : BsDevDeltaIoChannel) (file : RegularFile) (_iov : List (List UInt8))
    (_lba _lbaCount : Nat) : Int × BsDevDeltaIoChannel × RegularFile := (0, ch, file)

def bsDevDeltaWritevExt (_dev : BsDevDelta) (ch : BsDevDeltaIoChannel) (file : RegularFile) (_iov : List (List UInt8))
    (_lba _lbaCount : Nat) : Int × BsDevDeltaIoChannel × RegularFile := (0, ch, file)

inductive WriteEntry where
  | write
  | writev
  | writevExt
  deriving DecidableEq, Repr

/-- The data in the pieces it is given in; `bs_dev_delta_write` takes it in one. -/
structure WriteRequest where
  entry : WriteEntry
  lba : Nat
  lbaCount : Nat
  iov : List (List UInt8)

def WriteRequest.submit (dev : BsDevDelta) (ch : BsDevDeltaIoChannel) (file : RegularFile) (r : WriteRequest) :
    Option (Int × BsDevDeltaIoChannel × RegularFile) :=
  match r.entry with
  | .write => bsDevDeltaWrite dev ch file r.lba r.lbaCount r.iov.flatten .fine
  | .writev => some (bsDevDeltaWritev dev ch file r.iov r.lba r.lbaCount)
  | .writevExt => some (bsDevDeltaWritevExt dev ch file r.iov r.lba r.lbaCount)

/-- The vectors hold as many blocks as the call says, and the offset range has room for
what it transfers. -/
def WriteRequest.Served (dev : BsDevDelta) (ch : BsDevDeltaIoChannel) (r : WriteRequest) : Prop :=
  r.iov.flatten.length = r.lbaCount * dev.blocklen ∧ ch.position + dev.blocklen * r.lbaCount % 2 ^ 32 ≤ offsetLimit

instance (dev : BsDevDelta) (ch : BsDevDeltaIoChannel) (r : WriteRequest) : Decidable (r.Served dev ch) :=
  inferInstanceAs (Decidable (_ ∧ _))

/-- A block through the table of a finished file; nothing where the table has no offset. -/
def blockAt (dev : BsDevDelta) (file : RegularFile) (block : Nat) : Option (List UInt8) :=
  (ubiReadClusterMap (some file) .full .zero).bind fun map =>
    if map.start (block / dev.clusterSize) = 0 then none
    else some (file.pread (map.start (block / dev.clusterSize) + block % dev.clusterSize * dev.blocklen) dev.blocklen)

/-- The request is refused, or the blocks of its range read back as given and all others
as without it, once the channel is destroyed. -/
def WriteRequest.Effective (dev : BsDevDelta) (ch : BsDevDeltaIoChannel) (file : RegularFile) (r : WriteRequest) : Prop :=
  ∃ status ch' file', r.submit dev ch file = some (status, ch', file') ∧
    (status = 0 → ∀ block,
      blockAt dev (bsDevDeltaDestroyChannelCb dev ch' file' .fine) block =
        if r.lba ≤ block ∧ block < r.lba + r.lbaCount then
          some ((r.iov.flatten.drop ((block - r.lba) * dev.blocklen)).take dev.blocklen)
        else blockAt dev (bsDevDeltaDestroyChannelCb dev ch file .fine) block)

/-- Clusters of at most 2 GiB. A write of 2 GiB or more is stored and answered with an error,
and would leave a part of a longer cluster in the table. -/
structure WriterSizes extends DeltaSizes where
  half : clusterSize ≤ 2 ^ 31

/-- What the device can do right: a write that it refuses, one of exactly a cluster, and
a vectored write of nothing. A count of 2 GiB or more is negative as an `int`. -/
def Conforming (sizes : WriterSizes) : WriteEntry → Nat → Nat → Prop
  | .write, lba, lbaCount =>
    lba % sizes.blocks ≠ 0 ∨ lba / sizes.blocks < maxClusters ∧
      (lbaCount = sizes.blocks ∨ 2 ^ 31 ≤ lbaCount * sizes.blocklen % 2 ^ 32)
  | .writev, _, lbaCount => lbaCount = 0
  | .writevExt, _, lbaCount => lbaCount = 0

def submitStep (dev : BsDevDelta) (s : BsDevDeltaIoChannel × RegularFile) (r : WriteRequest) :
    Option (BsDevDeltaIoChannel × RegularFile) :=
  if r.Served dev s.1 then (r.submit dev s.1 s.2).map Prod.snd else none

/-- Such a request is right on every new channel and after any requests that conform,
whatever its data and however they are cut. -/
def Lawful (sizes : WriterSizes) (dev : BsDevDelta) (entry : WriteEntry) (lba lbaCount : Nat) : Prop :=
  ∀ stored ch file history s, bsDevDeltaCreateChannelCb dev stored .fine = (some ch, some file) →
    (∀ r ∈ history, Conforming sizes r.entry r.lba r.lbaCount) → run (submitStep dev) (ch, file) history = some s →
    ∀ iov, WriteRequest.Served dev s.1 ⟨entry, lba, lbaCount, iov⟩ →
      WriteRequest.Effective dev s.1 s.2 ⟨entry, lba, lbaCount, iov⟩

/-! ## Whole clusters -/

/-- Every cluster of the table lies between the table and the position, as a whole. -/
structure WholeClusters (clusterSize : Nat) (ch : BsDevDeltaIoChannel) (file : RegularFile) : Prop where
  table : mapBytes ≤ ch.position
  position : ch.position ≤ file.size
  clusters : ∀ cluster, ch.clusterMap.start cluster ≠ 0 →
    mapBytes ≤ ch.clusterMap.start cluster ∧ ch.clusterMap.start cluster + clusterSize ≤ ch.position

theorem bmod_negative {n : Nat} (large : 2 ^ 31 ≤ n) (word : n < 2 ^ 32) : (n : Int).bmod (2 ^ 32) < 0 := by
  rw [Int.bmod_def]
  omega

theorem bmod_nonnegative {n : Nat} (small : n < 2 ^ 31) : ¬ (n : Int).bmod (2 ^ 32) < 0 := by
  rw [Int.bmod_def]
  omega

/-- The blocks from an aligned one on, as many as a cluster has, are those of its cluster. -/
theorem aligned_range {lba block n : Nat} (positive : 0 < n) (aligned : lba % n = 0) :
    (lba ≤ block ∧ block < lba + n) ↔ block / n = lba / n := by
  have front := Nat.div_add_mod lba n
  have split := Nat.div_add_mod block n
  have below := Nat.mod_lt block positive
  rw [aligned, Nat.add_zero] at front
  constructor
  · rintro ⟨low, high⟩
    rw [Nat.div_eq_iff positive, Nat.mul_comm, front]
    omega
  · intro same
    rw [same, front] at split
    omega

theorem aligned_offset {lba block n : Nat} (aligned : lba % n = 0) (same : block / n = lba / n) :
    block - lba = block % n := by
  have front := Nat.div_add_mod lba n
  have split := Nat.div_add_mod block n
  rw [same] at split
  omega

section
variable {sizes : WriterSizes} {dev : BsDevDelta} {ch ch' : BsDevDeltaIoChannel} {file file' : RegularFile}

/-- A finished file shows the blocks through the channel's own table. -/
theorem blockAt_destroyed (writer : dev.direction = .write) (block : Nat) :
    blockAt dev (bsDevDeltaDestroyChannelCb dev ch file .fine) block =
      if ch.clusterMap.start (block / dev.clusterSize) = 0 then none
      else some ((file.write 0 (tableBytes ch.clusterMap)).pread
        (ch.clusterMap.start (block / dev.clusterSize) + block % dev.clusterSize * dev.blocklen) dev.blocklen) := by
  rw [destroyChannelCb_fine writer, blockAt, readClusterMap_holds (write_table_holds file ch.clusterMap), Option.bind_some]

/-- An aligned write whose cluster is in the table moves its 32-bit size to the position. -/
theorem bsDevDeltaWrite_served {lba lbaCount : Nat} {payload : List UInt8} (aligned : lba % dev.clusterSize = 0)
    (inside : lba / dev.clusterSize < maxClusters) (length : payload.length = lbaCount * dev.blocklen)
    (before : ch.position < offsetLimit) (fits : ch.position + dev.blocklen * lbaCount % 2 ^ 32 ≤ offsetLimit) :
    bsDevDeltaWrite dev ch file lba lbaCount payload .fine =
      some (if ((dev.blocklen * lbaCount % 2 ^ 32 : Nat) : Int).bmod (2 ^ 32) < 0 then -eio else 0, { ch with
        clusterMap := Function.update ch.clusterMap ⟨lba / dev.clusterSize, inside⟩ (UInt64.ofNat ch.position)
        position := ch.position + dev.blocklen * lbaCount % 2 ^ 32 },
        file.write ch.position (payload.take (dev.blocklen * lbaCount % 2 ^ 32))) := by
  have moved : (payload.take (dev.blocklen * lbaCount % 2 ^ 32)).length = dev.blocklen * lbaCount % 2 ^ 32 := by
    rw [List.length_take, length, Nat.mul_comm]
    exact Nat.min_eq_left (Nat.mod_le _ _)
  apply bsDevDeltaWrite_moved rfl aligned inside
  simp only [WriteCalls.fine, sysWrite, Nat.not_le.mpr before, ↓reduceIte, moved, Option.some.injEq, Prod.mk.injEq,
    true_and]
  omega

/-- The table after a write that moved at least a cluster. -/
theorem WholeClusters.write (whole : WholeClusters sizes.clusterSize ch file) {i : Nat} (inside : i < maxClusters) {data : List UInt8}
    (size : sizes.clusterSize ≤ data.length) (fits : ch.position + data.length ≤ offsetLimit) :
    WholeClusters sizes.clusterSize { ch with
      clusterMap := Function.update ch.clusterMap ⟨i, inside⟩ (UInt64.ofNat ch.position)
      position := ch.position + data.length } (file.write ch.position data) where
  table := le_trans whole.table (Nat.le_add_right _ _)
  position := write_size file whole.position fits
  clusters := by
    intro cluster present
    have table := whole.table
    have limit : offsetLimit = 2 ^ 63 := by rw [offsetLimit]
    simp only [ClusterMap.start_update] at present ⊢
    split
    · rw [UInt64.toNat_ofNat', Nat.mod_eq_of_lt (by omega)]
      omega
    · rename_i different
      rw [if_neg different] at present
      have older := whole.clusters cluster present
      omega

theorem wholeClusters_fresh {stored : Option RegularFile} (writer : dev.direction = .write)
    (created : bsDevDeltaCreateChannelCb dev stored .fine = (some ch, some file)) : WholeClusters sizes.clusterSize ch file := by
  rw [createChannelCb_fine writer] at created
  cases created
  refine ⟨le_rfl, ?_, ?_⟩
  · have held := (write_table_holds (stored.getD .empty) ClusterMap.zero).1
    rwa [length_mapBytes, Nat.zero_add] at held
  · intro cluster present
    exact absurd ((ClusterMap.mapped_iff_start _ _).mpr present) (ClusterMap.not_mapped_zero cluster)

/-- A write that conforms and is not misaligned moves at least a cluster. -/
theorem conforming_moves (blocks : dev.blocklen = sizes.blocklen) {lbaCount : Nat}
    (large : lbaCount = sizes.blocks ∨ 2 ^ 31 ≤ lbaCount * sizes.blocklen % 2 ^ 32) :
    sizes.clusterSize ≤ dev.blocklen * lbaCount % 2 ^ 32 := by
  have half := sizes.half
  rw [blocks, Nat.mul_comm]
  rcases large with rfl | large
  · rw [sizes.blocks_mul, Nat.mod_eq_of_lt sizes.word]
  · omega

theorem submit_misaligned {lba lbaCount : Nat} {payload : List UInt8} (misaligned : lba % dev.clusterSize ≠ 0) :
    bsDevDeltaWrite dev ch file lba lbaCount payload .fine = some (-einval, ch, file) :=
  bsDevDeltaWrite_misaligned (show WriteCalls.fine.seek = true from rfl) misaligned

theorem wholeClusters_step (blocks : dev.blocklen = sizes.blocklen) (size : dev.clusterSize = sizes.blocks)
    (s : BsDevDeltaIoChannel × RegularFile) (r : WriteRequest) (s' : BsDevDeltaIoChannel × RegularFile)
    (whole : WholeClusters sizes.clusterSize s.1 s.2)
    (conforming : Conforming sizes r.entry r.lba r.lbaCount) (stepped : submitStep dev s r = some s') :
    WholeClusters sizes.clusterSize s'.1 s'.2 := by
  obtain ⟨ch, file⟩ := s
  obtain ⟨entry, lba, lbaCount, iov⟩ := r
  simp only [submitStep] at stepped
  split at stepped
  · rename_i served
    obtain ⟨length, fits⟩ := served
    cases entry with
    | write =>
      by_cases aligned : lba % dev.clusterSize = 0
      · obtain ⟨inside, large⟩ := conforming.resolve_left (by rw [← size]; exact absurd aligned)
        rw [← size] at inside
        have moves := conforming_moves blocks large
        have positive := sizes.positive
        have taken : (iov.flatten.take (dev.blocklen * lbaCount % 2 ^ 32)).length = dev.blocklen * lbaCount % 2 ^ 32 := by
          rw [List.length_take, length, Nat.mul_comm]
          exact Nat.min_eq_left (Nat.mod_le _ _)
        simp only at fits length inside moves
        have written := @bsDevDeltaWrite_served dev ch file lba lbaCount iov.flatten aligned inside length (by omega) fits
        simp only [WriteRequest.submit, written, Option.map_some] at stepped
        cases stepped
        have kept := whole.write inside (by rw [taken]; exact moves) (by rw [taken]; exact fits)
        rwa [taken] at kept
      · simp only [WriteRequest.submit, submit_misaligned aligned, Option.map_some] at stepped
        cases stepped
        exact whole
    | writev =>
      cases stepped
      exact whole
    | writevExt =>
      cases stepped
      exact whole
  · cases stepped

/-- A cluster of the table reads the same through the finished file. -/
theorem WholeClusters.block (whole : WholeClusters sizes.clusterSize ch file) {cluster off count : Nat}
    (present : ch.clusterMap.start cluster ≠ 0) (room : off + count ≤ sizes.clusterSize) (map : ClusterMap) :
    (file.write 0 (tableBytes map)).pread (ch.clusterMap.start cluster + off) count =
      file.pread (ch.clusterMap.start cluster + off) count := by
  have inside := whole.clusters cluster present
  have stored := whole.position
  apply pread_write_of_apart file (by omega)
  right
  rw [length_mapBytes]
  omega

/-- One cluster, written as a whole. -/
theorem WholeClusters.effective (writer : dev.direction = .write) (blocks : dev.blocklen = sizes.blocklen)
    (size : dev.clusterSize = sizes.blocks) (whole : WholeClusters sizes.clusterSize ch file) {lba : Nat} {iov : List (List UInt8)}
    (aligned : lba % sizes.blocks = 0) (inside : lba / sizes.blocks < maxClusters)
    (served : WriteRequest.Served dev ch ⟨.write, lba, sizes.blocks, iov⟩) :
    WriteRequest.Effective dev ch file ⟨.write, lba, sizes.blocks, iov⟩ := by
  obtain ⟨length, fits⟩ := served
  have amount : dev.blocklen * sizes.blocks % 2 ^ 32 = sizes.clusterSize := by
    rw [blocks, Nat.mul_comm, sizes.blocks_mul, Nat.mod_eq_of_lt sizes.word]
  have positive := sizes.positive
  simp only [blocks, sizes.blocks_mul] at length
  simp only [amount] at fits
  have taken : iov.flatten.take sizes.clusterSize = iov.flatten := List.take_of_length_le (le_of_eq length)
  have table := whole.table
  have limit : offsetLimit = 2 ^ 63 := by rw [offsetLimit]
  have written := @bsDevDeltaWrite_served dev ch file lba (sizes.blocks) iov.flatten (by rw [size]; exact aligned)
    (by rw [size]; exact inside) (by rw [length, blocks, sizes.blocks_mul]) (by omega) (by rw [amount]; exact fits)
  simp only [amount, taken, size] at written
  refine ⟨_, _, _, written, fun _ block => ?_⟩
  have after := whole.write inside (le_of_eq length.symm) (by rw [length]; exact fits)
  rw [length] at after
  have held := write_holds file (List.ne_nil_of_length_pos (by rw [length]; exact positive)) (by rw [length]; exact fits)
  have room : block % sizes.blocks * sizes.blocklen + sizes.blocklen ≤ sizes.clusterSize := by
    rw [← Nat.succ_mul, ← sizes.blocks_mul]
    exact Nat.mul_le_mul_right _ (Nat.mod_lt block sizes.blocks_pos)
  simp only [blockAt_destroyed writer, size, blocks, aligned_range sizes.blocks_pos aligned]
  by_cases same : block / sizes.blocks = lba / sizes.blocks
  · have start : ClusterMap.start (Function.update ch.clusterMap ⟨lba / sizes.blocks, inside⟩
        (UInt64.ofNat ch.position)) (lba / sizes.blocks) = ch.position := by
      rw [ClusterMap.start_update, if_pos rfl, UInt64.toNat_ofNat', Nat.mod_eq_of_lt (by omega)]
    have present : ch.position ≠ 0 := by
      rw [mapBytes_eq] at table
      omega
    have read := @WholeClusters.block sizes _ _ after (lba / sizes.blocks) _ _ (by rw [start]; exact present) room
      (Function.update ch.clusterMap ⟨lba / sizes.blocks, inside⟩ (UInt64.ofNat ch.position))
    rw [start] at read
    rw [same, start, if_neg present, if_pos rfl, read, aligned_offset aligned same,
      pread_holds held _ _ (by omega)]
  · have start : ClusterMap.start (Function.update ch.clusterMap ⟨lba / sizes.blocks, inside⟩
        (UInt64.ofNat ch.position)) (block / sizes.blocks) = ch.clusterMap.start (block / sizes.blocks) := by
      rw [ClusterMap.start_update, if_neg same]
    rw [start, if_neg same]
    by_cases present : ch.clusterMap.start (block / sizes.blocks) = 0
    · rw [if_pos present, if_pos present]
    · have older := whole.clusters _ present
      have stored := whole.position
      have read := @WholeClusters.block sizes _ _ after (block / sizes.blocks) _ _ (by rw [start]; exact present) room
        (Function.update ch.clusterMap ⟨lba / sizes.blocks, inside⟩ (UInt64.ofNat ch.position))
      rw [start] at read
      rw [if_neg present, if_neg present, read, whole.block present room,
        pread_write_of_apart file (by omega) (Or.inl (by omega))]

/-- A request that conforms is right wherever the clusters are whole. -/
theorem Conforming.effective (writer : dev.direction = .write) (blocks : dev.blocklen = sizes.blocklen)
    (size : dev.clusterSize = sizes.blocks) (whole : WholeClusters sizes.clusterSize ch file) {entry : WriteEntry} {lba lbaCount : Nat}
    (conforming : Conforming sizes entry lba lbaCount) {iov : List (List UInt8)}
    (served : WriteRequest.Served dev ch ⟨entry, lba, lbaCount, iov⟩) :
    WriteRequest.Effective dev ch file ⟨entry, lba, lbaCount, iov⟩ := by
  cases entry with
  | write =>
    by_cases aligned : lba % sizes.blocks = 0
    · obtain ⟨inside, rfl | large⟩ := conforming.resolve_left (absurd aligned)
      · exact whole.effective writer blocks size aligned inside served
      · -- written and refused
        obtain ⟨length, fits⟩ := served
        simp only at length fits
        have amount : dev.blocklen * lbaCount % 2 ^ 32 = lbaCount * sizes.blocklen % 2 ^ 32 := by rw [blocks, Nat.mul_comm]
        have written := @bsDevDeltaWrite_served dev ch file lba lbaCount iov.flatten (by rw [size]; exact aligned)
          (by rw [size]; exact inside) length (by omega) fits
        rw [amount, if_pos (bmod_negative large (Nat.mod_lt _ (by decide)))] at written
        exact ⟨_, _, _, written, fun accepted => absurd accepted eio_ne_zero⟩
    · rw [← size] at aligned
      exact ⟨_, _, _, submit_misaligned aligned, fun accepted => absurd accepted einval_ne_zero⟩
  | writev =>
    cases (conforming : lbaCount = 0)
    refine ⟨0, ch, file, rfl, fun _ block => ?_⟩
    rw [if_neg (by simp only; omega)]
  | writevExt =>
    cases (conforming : lbaCount = 0)
    refine ⟨0, ch, file, rfl, fun _ block => ?_⟩
    rw [if_neg (by simp only; omega)]

/-! ## Requests that do not conform -/

/-- A new channel's file shows no block. -/
theorem blockAt_fresh (writer : dev.direction = .write) (block : Nat) :
    blockAt dev (bsDevDeltaDestroyChannelCb dev freshChannel freshFile .fine) block = none := by
  have absent : freshChannel.clusterMap.start (block / dev.clusterSize) = 0 := by
    by_contra present
    exact ClusterMap.not_mapped_zero _ ((ClusterMap.mapped_iff_start _ _).mpr present)
  rw [blockAt_destroyed writer, if_pos absent]

/-- A call that does nothing and is answered with 0 has lost its first block. -/
theorem not_effective_idle (writer : dev.direction = .write) {r : WriteRequest} (blocks : r.lbaCount ≠ 0)
    (idle : r.submit dev freshChannel freshFile = some (0, freshChannel, freshFile)) :
    ¬ r.Effective dev freshChannel freshFile := by
  rintro ⟨status, ch', file', submitted, shown⟩
  cases idle.symm.trans submitted
  have first := shown rfl r.lba
  rw [blockAt_fresh writer, if_pos ⟨le_rfl, by omega⟩] at first
  cases first

/-- A write of less than a cluster shows the rest of it, one of more loses what is past it. -/
theorem not_effective_short (writer : dev.direction = .write) (blocks : dev.blocklen = sizes.blocklen)
    (size : dev.clusterSize = sizes.blocks) {lba lbaCount : Nat} {iov : List (List UInt8)}
    (aligned : lba % sizes.blocks = 0) (inside : lba / sizes.blocks < maxClusters)
    (length : iov.flatten.length = lbaCount * dev.blocklen) (different : lbaCount ≠ sizes.blocks)
    (small : lbaCount * sizes.blocklen % 2 ^ 32 < 2 ^ 31) :
    ¬ WriteRequest.Effective dev freshChannel freshFile ⟨.write, lba, lbaCount, iov⟩ := by
  rintro ⟨status, ch', file', submitted, shown⟩
  have limit : offsetLimit = 2 ^ 63 := by rw [offsetLimit]
  have table : freshChannel.position = 2 ^ 29 := mapBytes_eq
  have amount : dev.blocklen * lbaCount % 2 ^ 32 = lbaCount * sizes.blocklen % 2 ^ 32 := by rw [blocks, Nat.mul_comm]
  have written := @bsDevDeltaWrite_served dev freshChannel freshFile lba lbaCount iov.flatten (by rw [size]; exact aligned)
    (by rw [size]; exact inside) length (by omega) (by omega)
  rw [amount, if_neg (bmod_nonnegative small)] at written
  cases written.symm.trans submitted
  have front := Nat.div_add_mod lba (sizes.blocks)
  rw [aligned, Nat.add_zero] at front
  simp only [blockAt_fresh writer, blockAt_destroyed writer, size] at shown
  rcases Nat.lt_or_gt_of_ne different with less | more
  · -- the block behind the range is in the cluster that the table now has
    have block := shown trivial (lba + lbaCount)
    have same : (lba + lbaCount) / sizes.blocks = lba / sizes.blocks :=
      (aligned_range sizes.blocks_pos aligned).mp (by omega)
    have present : ClusterMap.start (Function.update freshChannel.clusterMap ⟨lba / sizes.blocks, inside⟩
        (UInt64.ofNat freshChannel.position)) (lba / sizes.blocks) ≠ 0 := by
      rw [ClusterMap.start_update, if_pos rfl, UInt64.toNat_ofNat', Nat.mod_eq_of_lt (by omega)]
      omega
    rw [same, if_neg present, if_neg (by omega)] at block
    cases block
  · -- the first block of the next cluster is in the range, and nowhere in the file
    have block := shown trivial (lba + sizes.blocks)
    have next : (lba + sizes.blocks) / sizes.blocks ≠ lba / sizes.blocks := by
      rw [Nat.add_div_right _ sizes.blocks_pos]
      omega
    have absent : ClusterMap.start (Function.update freshChannel.clusterMap ⟨lba / sizes.blocks, inside⟩
        (UInt64.ofNat freshChannel.position)) ((lba + sizes.blocks) / sizes.blocks) = 0 := by
      rw [ClusterMap.start_update, if_neg next]
      by_contra present
      exact ClusterMap.not_mapped_zero _ ((ClusterMap.mapped_iff_start _ _).mpr present)
    rw [if_pos absent, if_pos (by omega)] at block
    cases block

end

/-- The requests that the device answers rightly, wherever in a session they come. -/
theorem write_entry_points_agree (sizes : WriterSizes) (path : String) (blockcnt : Nat) (entry : WriteEntry)
    (lba lbaCount : Nat) :
    Lawful sizes (sizes.delta path blockcnt) entry lba lbaCount ↔
      Conforming sizes entry lba lbaCount := by
  constructor
  · intro lawful
    have here : ∀ iov : List (List UInt8), iov.flatten.length = lbaCount * sizes.blocklen →
        WriteRequest.Effective (sizes.delta path blockcnt) freshChannel freshFile
          ⟨entry, lba, lbaCount, iov⟩ := by
      intro iov length
      refine lawful none freshChannel freshFile [] _ (createChannelCb_fine rfl none) (fun _ none => by cases none) rfl iov
        ⟨length, ?_⟩
      have limit : offsetLimit = 2 ^ 63 := by rw [offsetLimit]
      have table : freshChannel.position = 2 ^ 29 := mapBytes_eq
      simp only
      omega
    have data : [List.replicate (lbaCount * sizes.blocklen) (0 : UInt8)].flatten.length = lbaCount * sizes.blocklen := by simp
    cases entry with
    | write =>
      by_contra wrong
      simp only [Conforming, not_or, not_and, ne_eq, not_not] at wrong
      obtain ⟨aligned, rest⟩ := wrong
      by_cases inside : lba / sizes.blocks < maxClusters
      · obtain ⟨different, small⟩ := rest inside
        exact not_effective_short rfl rfl rfl aligned inside data different (Nat.not_le.mp small) (here _ data)
      · obtain ⟨_, _, _, submitted, _⟩ := here _ data
        have undefined := @bsDevDeltaWrite_outside (sizes.delta path blockcnt) freshChannel
          freshFile lba lbaCount [List.replicate (lbaCount * sizes.blocklen) (0 : UInt8)].flatten .fine rfl aligned inside
        cases undefined.symm.trans submitted
    | writev =>
      by_contra blocks
      exact not_effective_idle (r := ⟨.writev, lba, lbaCount, _⟩) rfl blocks rfl (here _ data)
    | writevExt =>
      by_contra blocks
      exact not_effective_idle (r := ⟨.writevExt, lba, lbaCount, _⟩) rfl blocks rfl (here _ data)
  · intro conforming stored ch file history s created all ran iov served
    have whole : WholeClusters sizes.clusterSize s.1 s.2 := by
      have guarded := @guarded_of_forall _ _ (submitStep (sizes.delta path blockcnt))
        (fun _ r => Conforming sizes r.entry r.lba r.lbaCount) (ch, file) history (fun r member _ => all r member)
      exact (always_of_guarded (wholeClusters_step rfl rfl) (wholeClusters_fresh rfl created) guarded).final ran
    exact conforming.effective rfl rfl rfl whole served

def WriterSizes.sectors : WriterSizes := ⟨.sectors, by decide⟩

def sectorDelta : BsDevDelta := WriterSizes.sectors.delta "snapshot" 8

/-- On a new channel: a vectored write of a cluster, and a write of its first sector. -/
theorem write_entry_points_differ :
    bsDevDeltaCreateChannelCb pageDelta none .fine = (some freshChannel, some freshFile) ∧
    ¬ WriteRequest.Effective pageDelta freshChannel freshFile ⟨.writev, 0, 1, [pageData]⟩ ∧
    bsDevDeltaCreateChannelCb sectorDelta none .fine = (some freshChannel, some freshFile) ∧
    ¬ WriteRequest.Effective sectorDelta freshChannel freshFile ⟨.write, 0, 1, [List.replicate 512 7]⟩ := by
  refine ⟨createChannelCb_fine rfl none, ?_, createChannelCb_fine rfl none, ?_⟩
  · exact not_effective_idle rfl (show 1 ≠ 0 by decide) rfl
  · refine @not_effective_short .sectors sectorDelta rfl rfl rfl 0 1 _ (Nat.zero_mod _) ?_ ?_ ?_ (by decide)
    · rw [Nat.zero_div]
      exact zero_lt_maxClusters
    · rw [List.flatten_singleton, List.length_replicate]
      rfl
    · decide

end BdevUbi.Device
