import BdevUbi.Device.Uring

/-! The two devices share nothing but the snapshot file: what one writer session
leaves in it, the overlay reads back, for any pair of block lengths. -/

set_option autoImplicit false

namespace BdevUbi.Device
open BdevUbi.Library RegularFile

structure ClusterWrite (C : ClusterSize) where
  cluster : Fin maxClusters
  payload : List UInt8
  whole : payload.length = C.bytes

def ClusterWrite.entry {C : ClusterSize} (w : ClusterWrite C) : Nat × List UInt8 := (w.cluster.val, w.payload)

section
variable {C : ClusterSize} {B : BlockLength}

/-- `bs_dev_delta_write` once for each cluster, in order, with full transfers. -/
def deltaWrites (B : BlockLength) (dev : BsDevDelta) (ch : BsDevDeltaIoChannel) (file : RegularFile) :
    List (ClusterWrite C) → Option (BsDevDeltaIoChannel × RegularFile)
  | [] => some (ch, file)
  | w :: rest =>
    (bsDevDeltaWrite dev ch file (w.cluster * clusterBlocks C B) (clusterBlocks C B) w.payload .fine).bind
      fun result => deltaWrites B dev result.2.1 result.2.2 rest

/-- The file after one writer channel was created, used and destroyed. -/
def writeSnapshot (B : BlockLength) (dev : BsDevDelta) (stored : Option RegularFile) (writes : List (ClusterWrite C)) :
    Option RegularFile :=
  match bsDevDeltaCreateChannelCb dev stored .fine with
  | (some ch, some file) =>
    (deltaWrites B dev ch file writes).map fun result => bsDevDeltaDestroyChannelCb dev result.1 result.2 .fine
  | _ => none

theorem deltaWrites_recorded {dev : BsDevDelta} (blocks : dev.blocklen = B.bytes)
    (size : dev.clusterSize = clusterBlocks C B) {ch : BsDevDeltaIoChannel} {file : RegularFile}
    {before : List (Nat × List UInt8)} (recorded : Recorded C.bytes ch file before) (writes : List (ClusterWrite C))
    (room : mapBytes + (before.length + writes.length) * C.bytes ≤ offsetLimit) :
    ∃ ch' file', deltaWrites B dev ch file writes = some (ch', file') ∧
      Recorded C.bytes ch' file' (before ++ writes.map ClusterWrite.entry) := by
  induction writes generalizing ch file before with
  | nil =>
    refine ⟨ch, file, rfl, ?_⟩
    simpa using recorded
  | cons w rest ih =>
    have first : mapBytes + (before.length + 1) * C.bytes ≤ offsetLimit :=
      le_trans (Nat.add_le_add_left (Nat.mul_le_mul_right _ (by simp)) _) room
    obtain ⟨status, ch₁, file₁, written, now⟩ := recorded.write blocks size w.cluster.isLt w.whole first
    have later : mapBytes + ((before ++ [w.entry]).length + rest.length) * C.bytes ≤ offsetLimit := by
      simpa [Nat.add_assoc, Nat.add_comm 1] using room
    obtain ⟨ch', file', ran, after⟩ := ih now later
    refine ⟨ch', file', ?_, ?_⟩
    · rw [deltaWrites, written]
      exact ran
    · simpa [ClusterWrite.entry] using after

/-- The table and the clusters of a finished snapshot file. -/
theorem writeSnapshot_spec {dev : BsDevDelta} (writer : dev.direction = .write) (blocks : dev.blocklen = B.bytes)
    (size : dev.clusterSize = clusterBlocks C B) (stored : Option RegularFile) (writes : List (ClusterWrite C))
    (room : mapBytes + writes.length * C.bytes ≤ offsetLimit) :
    ∃ ch final, writeSnapshot B dev stored writes = some final ∧
      ubiReadClusterMap (some final) .full .zero = some ch.clusterMap ∧
      Recorded C.bytes ch final (writes.map ClusterWrite.entry) := by
  obtain ⟨ch, file, ran, recorded⟩ :=
    deltaWrites_recorded blocks size (recorded_fresh C.bytes ((stored.getD .empty).write 0 (tableBytes ClusterMap.zero)))
      writes (by simpa using room)
  obtain ⟨loaded, kept⟩ := Recorded.destroy writer (show Recorded C.bytes ch file (writes.map ClusterWrite.entry) from recorded)
  refine ⟨ch, _, ?_, loaded, kept⟩
  rw [writeSnapshot, createChannelCb_fine writer]
  simp only [ran, Option.map_some]

theorem lastPayload_eq_none {writes : List (ClusterWrite C)} {cluster : Nat} :
    lastPayload (writes.map ClusterWrite.entry) cluster = none ↔ ∀ w ∈ writes, w.cluster.val ≠ cluster := by
  simp only [lastPayload, List.lookup_eq_none_iff, List.mem_reverse, List.mem_map, forall_exists_index, and_imp,
    forall_apply_eq_imp_iff₂, ClusterWrite.entry, bne_iff_ne]
  constructor
  · intro apart w member same
    exact apart w member same.symm
  · intro apart w member same
    exact apart w member same.symm

/-- What a read of the overlay should give: the bytes of the last payload of the
block's cluster, and the image's own where there was none. -/
def expectedBytes (B : BlockLength) (writes : List (ClusterWrite C)) (image : RegularFile) (lba lbaCount : Nat) : List UInt8 :=
  match lastPayload (writes.map ClusterWrite.entry) (lba / clusterBlocks C B) with
  | some data => (data.drop (lba % clusterBlocks C B * B.bytes)).take (lbaCount * B.bytes)
  | none => image.pread (lba * B.bytes) (lbaCount * B.bytes)

/-- Reading a cluster that the table maps to a stored region. -/
theorem serveRead_mapped {dev : BsDevUring} (fits : dev.Fits C B) {files : OpenFiles} {lba lbaCount : Nat}
    {payload data : List UInt8} {file : RegularFile} (before : lba < dev.blockcnt)
    (inside : lba % clusterBlocks C B + lbaCount ≤ clusterBlocks C B)
    (buffer : payload.length = lbaCount * B.bytes) (opened : files.snapshot = some file)
    (whole : data.length = C.bytes) (mapped : dev.clusterMap.Mapped (lba / clusterBlocks C B))
    (held : file.Holds (dev.clusterMap.start (lba / clusterBlocks C B)) data) :
    serveRead dev files .fine lba lbaCount payload =
      some (0, (data.drop (lba % clusterBlocks C B * B.bytes)).take (lbaCount * B.bytes)) := by
  have room := range_inside C B inside
  have cluster := C.word
  have offset := offset_lt C B lba
  have stored := held.1
  have bounded := file.bounded
  have limit : offsetLimit = 2 ^ 63 := by rw [offsetLimit]
  have small : dev.clusterMap.start (lba / clusterBlocks C B) + lba % clusterBlocks C B * B.bytes < 2 ^ 64 := by omega
  have opts := setIoOpts_mapped fits mapped
  rw [Nat.mod_eq_of_lt small] at opts
  rw [serveRead_of_opts fits payload before (by omega) opts opened (by omega), pread_holds held _ _ (by omega),
    fill_of_length]
  simp only [List.length_take, List.length_drop]
  omega

/-- Reading a cluster the table does not map, inside the image. -/
theorem serveRead_unmapped {dev : BsDevUring} (fits : dev.Fits C B) {files : OpenFiles} {lba lbaCount : Nat}
    {payload : List UInt8} (sized : dev.blockcnt = files.image.size / B.bytes) (before : lba < dev.blockcnt)
    (inTable : lba / clusterBlocks C B < maxClusters) (inside : lba % clusterBlocks C B + lbaCount ≤ clusterBlocks C B)
    (buffer : payload.length = lbaCount * B.bytes) (inImage : lba + lbaCount ≤ dev.blockcnt)
    (unmapped : ¬ dev.clusterMap.Mapped (lba / clusterBlocks C B)) :
    serveRead dev files .fine lba lbaCount payload =
      some (0, files.image.pread (lba * B.bytes) (lbaCount * B.bytes)) := by
  have room := range_inside C B inside
  have cluster := C.word
  have bounded := files.image.bounded
  have limit : offsetLimit = 2 ^ 63 := by rw [offsetLimit]
  have blocks : dev.blockcnt * B.bytes ≤ files.image.size := by
    rw [sized]
    exact Nat.div_mul_le_self _ _
  have start : lba * B.bytes < files.image.size :=
    lt_of_lt_of_le (Nat.mul_lt_mul_of_pos_right before B.pos) blocks
  have stop : lba * B.bytes + lbaCount * B.bytes ≤ files.image.size := by
    rw [← Nat.add_mul]
    exact le_trans (Nat.mul_le_mul_right _ inImage) blocks
  have opts := setIoOpts_unmapped fits inTable unmapped
  rw [Nat.mod_eq_of_lt (by omega)] at opts
  rw [serveRead_of_opts fits payload before (by omega) opts rfl (by omega), fill_of_length]
  rw [length_pread, buffer]
  omega

end

/-- One writer session, then one read of the overlay built from the file it left:
the read succeeds and the payload holds the expected bytes. -/
def RoundTrips (C : ClusterSize) (bw br : BlockLength) (stored : Option RegularFile) (image : RegularFile)
    (writes : List (ClusterWrite C)) (path imagePath : String) (blockcnt : Nat) (directio : Bool)
    (lba lbaCount : Nat) (payload : List UInt8) : Prop :=
  ∃ final map,
    writeSnapshot bw (bsDevDeltaCreate path blockcnt bw.bytes C.bytes .write) stored writes = some final ∧
    ubiReadClusterMap (some final) .full .zero = some map ∧
    serveRead (.build image.size map imagePath path br.bytes C.bytes directio) ⟨image, some final⟩ .fine
      lba lbaCount payload = some (0, expectedBytes br writes image lba lbaCount)

/-- The snapshot file carries every written cluster to the overlay. The offsets of
the session stay in the offset range, or its transfers could not be full. -/
theorem snapshot_file_round_trip (C : ClusterSize) (bw br : BlockLength) (stored : Option RegularFile)
    (image : RegularFile) (writes : List (ClusterWrite C)) (path imagePath : String) (blockcnt : Nat) (directio : Bool)
    (room : mapBytes + writes.length * C.bytes ≤ offsetLimit) (lba lbaCount : Nat) (payload : List UInt8)
    (before : lba < image.size / br.bytes) (inTable : lba / clusterBlocks C br < maxClusters)
    (inside : lba % clusterBlocks C br + lbaCount ≤ clusterBlocks C br)
    (inImage : (∀ w ∈ writes, w.cluster.val ≠ lba / clusterBlocks C br) → lba + lbaCount ≤ image.size / br.bytes)
    (buffer : payload.length = lbaCount * br.bytes) :
    RoundTrips C bw br stored image writes path imagePath blockcnt directio lba lbaCount payload := by
  obtain ⟨ch, final, written, loaded, recorded⟩ :=
    @writeSnapshot_spec C bw (bsDevDeltaCreate path blockcnt bw.bytes C.bytes .write) rfl rfl rfl stored writes room
  refine ⟨final, ch.clusterMap, written, loaded, ?_⟩
  have fits := BsDevUring.build_fits image.size ch.clusterMap imagePath path C br directio
  unfold expectedBytes
  cases found : lastPayload (writes.map ClusterWrite.entry) (lba / clusterBlocks C br) with
  | some data =>
    obtain ⟨whole, k, _, start, held⟩ := recorded.present _ data found
    have mapped : ch.clusterMap.Mapped (lba / clusterBlocks C br) := by
      rw [ClusterMap.mapped_iff_start, start, mapBytes_eq]
      omega
    exact serveRead_mapped fits before inside buffer rfl whole mapped (start ▸ held)
  | none =>
    have unwritten := lastPayload_eq_none.mp found
    have unmapped : ¬ ch.clusterMap.Mapped (lba / clusterBlocks C br) := by
      rw [ClusterMap.mapped_iff_start, recorded.absent _ found]
      exact fun present => present rfl
    exact serveRead_unmapped fits rfl before inTable inside buffer (inImage unwritten) unmapped

theorem twoPages_bounded : 8192 ≤ offsetLimit := by
  rw [offsetLimit]
  norm_num

def pageWrite (cluster : Fin maxClusters) (byte : UInt8) : ClusterWrite .page :=
  ⟨cluster, List.replicate ClusterSize.page.bytes byte, List.length_replicate⟩

theorem one_lt_maxClusters : 1 < maxClusters := by
  rw [maxClusters_eq]
  norm_num

/-- Two clusters, and the first of them once more. -/
def rewrittenPages : List (ClusterWrite .page) :=
  [pageWrite ⟨0, zero_lt_maxClusters⟩ 7, pageWrite ⟨1, one_lt_maxClusters⟩ 8, pageWrite ⟨0, zero_lt_maxClusters⟩ 9]

theorem expectedBytes_rewrittenPages (image : RegularFile) :
    expectedBytes .sector rewrittenPages image 0 1 = List.replicate 512 9 ∧
      expectedBytes .sector rewrittenPages image 9 1 = List.replicate 512 8 := by
  constructor
  · have last : lastPayload (rewrittenPages.map ClusterWrite.entry) (0 / clusterBlocks .page .sector) =
        some (List.replicate 4096 9) := rfl
    simp only [expectedBytes, last, List.drop_replicate, List.take_replicate]
    rfl
  · have last : lastPayload (rewrittenPages.map ClusterWrite.entry) (9 / clusterBlocks .page .sector) =
        some (List.replicate 4096 8) := rfl
    simp only [expectedBytes, last, List.drop_replicate, List.take_replicate]
    rfl

/-- The cluster that was written twice reads back as it was written last, and the other one
as it was written. -/
theorem snapshot_file_round_trip_pages :
    (expectedBytes .sector rewrittenPages (.constant 8192 1 twoPages_bounded) 0 1 = List.replicate 512 9 ∧
      expectedBytes .sector rewrittenPages (.constant 8192 1 twoPages_bounded) 9 1 = List.replicate 512 8) ∧
    RoundTrips .page .page .sector none (.constant 8192 1 twoPages_bounded) rewrittenPages "snapshot" "image" 16 false 0 1
      (List.replicate 512 0) ∧
    RoundTrips .page .page .sector none (.constant 8192 1 twoPages_bounded) rewrittenPages "snapshot" "image" 16 false 9 1
      (List.replicate 512 0) := by
  have blocks : clusterBlocks .page .sector = 8 := rfl
  have counted : (RegularFile.constant 8192 1 twoPages_bounded).size / BlockLength.sector.bytes = 16 := rfl
  have room : mapBytes + rewrittenPages.length * ClusterSize.page.bytes ≤ offsetLimit := by
    rw [show rewrittenPages.length = 3 from rfl, mapBytes_eq, offsetLimit, ClusterSize.page]
    norm_num
  have tabled := maxClusters_eq
  have reads (lba : Nat) (before : lba < 16) :
      RoundTrips .page .page .sector none (.constant 8192 1 twoPages_bounded) rewrittenPages "snapshot" "image" 16 false lba 1
        (List.replicate 512 0) := by
    apply snapshot_file_round_trip _ _ _ _ _ _ _ _ _ _ room
    · omega
    · rw [blocks]
      omega
    · rw [blocks]
      omega
    · omega
    · exact List.length_replicate
  exact ⟨expectedBytes_rewrittenPages _, reads 0 (by norm_num), reads 9 (by norm_num)⟩

/-- In 4 KiB clusters, a page more than the table has entries for and the fields behind it take up. -/
def imagePastTable : RegularFile := .constant ((2 ^ 26 + 5) * 4096) 1 (by rw [offsetLimit]; norm_num)

/-- No write, one block of the image read: its table index lies behind the table and behind the whole device. -/
theorem round_trip_fails_past_table :
    2 ^ 26 + 4 < imagePastTable.size / BlockLength.page.bytes ∧
    2 ^ 26 + 4 + 1 ≤ imagePastTable.size / BlockLength.page.bytes ∧
    (2 ^ 26 + 4) % clusterBlocks .page .page + 1 ≤ clusterBlocks .page .page ∧
    ¬ RoundTrips .page .page .page none imagePastTable [] "snapshot" "image" 0 false (2 ^ 26 + 4) 1
      (List.replicate ClusterSize.page.bytes 0) := by
  have count : imagePastTable.size / BlockLength.page.bytes = 2 ^ 26 + 5 := by
    simp [imagePastTable, RegularFile.constant, BlockLength.page]
  refine ⟨by omega, by omega, by rw [clusterBlocks_page, Nat.mod_one], ?_⟩
  rintro ⟨final, map, _, _, delivered⟩
  have fits := BsDevUring.build_fits imagePastTable.size map "image" "snapshot" .page .page false
  have outside : maxClusters ≤ (2 ^ 26 + 4) / clusterBlocks .page .page := by
    rw [maxClusters_eq, clusterBlocks_page, Nat.div_one]
    exact Nat.le_add_right _ _
  have counted : (2 ^ 26 + 4) / clusterBlocks .page .page < 2 ^ 32 := by
    rw [clusterBlocks_page]
    norm_num
  have before : 2 ^ 26 + 4 < imagePastTable.size / BlockLength.page.bytes := by omega
  rw [serveRead_outside fits _ _ _ _ before outside counted] at delivered
  cases delivered

end BdevUbi.Device
