import BdevUbi.Device.RoundTrip
import Mathlib.Data.UInt

/-! What lies under a block of the overlay, and how far the device's answers agree with it.

Three functions decide this independently: the range check, the zero check built
on it, and the read itself. Each agreement is settled as an equivalence, with the
ranges on which they part named by the right-hand side.
-/

set_option autoImplicit false

namespace BdevUbi.Device
open BdevUbi.Library RegularFile

/-- The overlay's byte at an address of the disk: the snapshot file's if the cluster
is mapped, otherwise the image's, zero past its end. A mapped byte that the file
does not hold is unspecified. -/
def overlayByte (C : ClusterSize) (map : ClusterMap) (files : OpenFiles) (address : Nat) : Option UInt8 :=
  if map.Mapped (address / C.bytes) then
    files.snapshot.bind fun file =>
      if map.start (address / C.bytes) + address % C.bytes < file.size then
        some (file.byte (map.start (address / C.bytes) + address % C.bytes))
      else none
  else some (files.image.byte address)

/-- The device over an image, as `bs_dev_uring_create` leaves it. -/
def overlayDev (C : ClusterSize) (B : BlockLength) (image : RegularFile) (map : ClusterMap)
    (filename snapshotPath : String) (directio : Bool) : BsDevUring :=
  .build image.size map filename snapshotPath B.bytes C.bytes directio

section
variable {C : ClusterSize} {B : BlockLength} {dev : BsDevUring} {files : OpenFiles} {lba lbaCount : Nat}

theorem blockcnt_mul_le {image : RegularFile} (sized : dev.blockcnt = image.size / B.bytes) :
    dev.blockcnt * B.bytes ≤ image.size := by
  rw [sized]
  exact Nat.div_mul_le_self _ _

theorem address_lt {image : RegularFile} (sized : dev.blockcnt = image.size / B.bytes) (before : lba < dev.blockcnt) :
    lba * B.bytes < image.size :=
  lt_of_lt_of_le (Nat.mul_lt_mul_of_pos_right before B.pos) (blockcnt_mul_le sized)

/-- A queued read that completes with success has moved what the selected file
holds of the range; the rest of the payload is as it was. -/
theorem serveRead_queued (fits : dev.Fits C B) (files : OpenFiles) (events : ReadEvents) (payload : List UInt8) (before : lba < dev.blockcnt)
    (word : lbaCount * B.bytes < 2 ^ 32) {fd : Fd} {offset : Nat} (opts : setIoOpts dev lba = some (fd, offset)) :
    ∃ status result, serveRead dev files events lba lbaCount payload = some (status, result) ∧
      (status = 0 → ∃ file, files.file fd = some file ∧ offset < offsetLimit ∧
        result = fill (file.pread offset (lbaCount * B.bytes)) payload) := by
  have queued : ¬ dev.blockcnt ≤ lba := by omega
  have failed : -eio ≠ 0 := by decide
  have poll : ∀ errno : Int, 0 < errno → bsDevUringPollStatus (-errno) = -eio := by
    intro errno positive
    rw [bsDevUringPollStatus, if_pos (by omega)]
  simp only [serveRead, bsDevUringRead, queued, ↓reduceIte, opts, Option.map_some, fits.blocklen,
    Nat.mod_eq_of_lt word, Option.some.injEq, Prod.mk.injEq]
  refine ⟨_, _, ⟨rfl, rfl⟩, ?_⟩
  intro success
  simp only [serve] at success ⊢
  by_cases refused : events.submit < 0
  · rw [if_pos refused] at success
    exact absurd success failed
  · rw [if_neg refused] at success ⊢
    cases faulty : events.fault with
    | true =>
      simp only [kernelRead, faulty, ↓reduceIte, poll eio (by decide)] at success
      exact absurd success failed
    | false =>
      simp only [kernelRead, faulty, Bool.false_eq_true, ↓reduceIte] at success ⊢
      cases opened : files.file fd with
      | none =>
        simp only [opened, poll ebadf (by decide)] at success
        exact absurd success failed
      | some file =>
        simp only [opened] at success ⊢
        by_cases beyond : offsetLimit ≤ offset
        · simp only [beyond, ↓reduceIte, poll einval (by decide)] at success
          exact absurd success failed
        · simp only [beyond, ↓reduceIte]
          exact ⟨file, rfl, by omega, rfl⟩

theorem setIoOpts_exists (fits : dev.Fits C B) (inTable : lba / clusterBlocks C B < maxClusters) :
    ∃ fd offset, setIoOpts dev lba = some (fd, offset) := by
  by_cases mapped : dev.clusterMap.Mapped (lba / clusterBlocks C B)
  · exact ⟨_, _, setIoOpts_mapped fits mapped⟩
  · exact ⟨_, _, setIoOpts_unmapped fits inTable mapped⟩

/-- Inside the image's blocks the read moves every byte the overlay specifies. -/
theorem overlayByte_delivered (fits : dev.Fits C B) (inTable : lba / clusterBlocks C B < maxClusters)
    (inside : lba % clusterBlocks C B + lbaCount ≤ clusterBlocks C B)
    (stop : lba * B.bytes + lbaCount * B.bytes ≤ files.image.size) (payload : List UInt8)
    {fd : Fd} {offset : Nat} {file : RegularFile} (opts : setIoOpts dev lba = some (fd, offset))
    (opened : files.file fd = some file) {j : Nat} (below : j < lbaCount * B.bytes) {b : UInt8}
    (specified : overlayByte C dev.clusterMap files (lba * B.bytes + j) = some b) :
    (fill (file.pread offset (lbaCount * B.bytes)) payload).getD j 0 = b := by
  have offsets := offset_lt C B lba
  have limit : offsetLimit = 2 ^ 63 := by rw [offsetLimit]
  rw [overlayByte, byteAddress_div C B inside below, byteAddress_mod C B inside below] at specified
  by_cases mapped : dev.clusterMap.Mapped (lba / clusterBlocks C B)
  · rw [setIoOpts_mapped fits mapped] at opts
    rw [if_pos mapped] at specified
    obtain ⟨snapshot, some, specified⟩ := Option.bind_eq_some_iff.mp specified
    split at specified
    · rename_i stored
      cases specified
      have bounded := snapshot.bounded
      rw [Nat.mod_eq_of_lt (by omega)] at opts
      cases opts
      have same : file = snapshot := Option.some.inj (opened.symm.trans some)
      subst same
      rw [getD_fill_of_lt (by rw [length_pread]; omega), getD_pread _ below (by omega), Nat.add_assoc]
    · cases specified
  · rw [if_neg mapped] at specified
    cases specified
    have bounded := files.image.bounded
    rw [setIoOpts_unmapped fits inTable mapped, Nat.mod_eq_of_lt (by omega)] at opts
    cases opts
    have same : file = files.image := (Option.some.inj opened).symm
    subst same
    rw [getD_fill_of_lt (by rw [length_pread]; omega), getD_pread _ below (by omega)]

/-! ## The range check and the read -/

/-- Whatever the payload held, a read of the range that completes with status 0 leaves
in it every byte the overlay specifies. -/
def ReadDelivers (C : ClusterSize) (B : BlockLength) (dev : BsDevUring) (files : OpenFiles) (lba lbaCount : Nat) : Prop :=
  ∀ events payload, payload.length = lbaCount * B.bytes →
    ∃ status result, serveRead dev files events lba lbaCount payload = some (status, result) ∧
      (status = 0 → ∀ j b, j < lbaCount * B.bytes →
        overlayByte C dev.clusterMap files (lba * B.bytes + j) = some b → result.getD j 0 = b)

def ReadvDelivers (C : ClusterSize) (B : BlockLength) (dev : BsDevUring) (files : OpenFiles) (lba lbaCount : Nat) : Prop :=
  ∀ events (iov : List (List UInt8)), iov.flatten.length = lbaCount * B.bytes →
    ∃ status result, serveReadv dev files events lba iov = some (status, result) ∧
      (status = 0 → ∀ j b, j < lbaCount * B.bytes →
        overlayByte C dev.clusterMap files (lba * B.bytes + j) = some b → result.flatten.getD j 0 = b)

def RangeDelivered (C : ClusterSize) (B : BlockLength) (dev : BsDevUring) (files : OpenFiles) (lba lbaCount : Nat) : Prop :=
  ReadDelivers C B dev files lba lbaCount ∧ ReadvDelivers C B dev files lba lbaCount

/-- Mapped ranges past the image, and all ranges the check may call valid, are delivered. A check
that reads behind the table may. -/
def RangeCheckAgrees (C : ClusterSize) (B : BlockLength) (dev : BsDevUring) (files : OpenFiles) (lba lbaCount : Nat) : Prop :=
  (dev.blockcnt ≤ lba → dev.clusterMap.Mapped (lba / clusterBlocks C B) → RangeDelivered C B dev files lba lbaCount) ∧
  (bsDevUringIsRangeValid dev lba lbaCount ≠ some false → RangeDelivered C B dev files lba lbaCount)

/-- A range of which the snapshot file holds the first byte, behind the image. -/
def StoredPastImage (C : ClusterSize) (B : BlockLength) (dev : BsDevUring) (files : OpenFiles) (lba lbaCount : Nat) : Prop :=
  dev.blockcnt ≤ lba ∧ dev.clusterMap.Mapped (lba / clusterBlocks C B) ∧ 0 < lbaCount ∧
    ∃ file, files.snapshot = some file ∧
      dev.clusterMap.start (lba / clusterBlocks C B) + lba % clusterBlocks C B * B.bytes < file.size

theorem rangeDelivered_of_read (fits : dev.Fits C B) (word : lbaCount * B.bytes < 2 ^ 32)
    (read : ReadDelivers C B dev files lba lbaCount) : RangeDelivered C B dev files lba lbaCount := by
  refine ⟨read, ?_⟩
  intro events iov total
  obtain ⟨status, result, served, delivered⟩ := read events iov.flatten total
  rw [← serveReadv_flatten fits files events total word] at served
  obtain ⟨vector, readv, same⟩ := Option.map_eq_some_iff.mp served
  cases same
  exact ⟨vector.1, vector.2, readv, delivered⟩

theorem rangeDelivered_inside (fits : dev.Fits C B) (sized : dev.blockcnt = files.image.size / B.bytes)
    (inTable : lba / clusterBlocks C B < maxClusters) (inside : lba % clusterBlocks C B + lbaCount ≤ clusterBlocks C B)
    (before : lba < dev.blockcnt) (within : lba + lbaCount ≤ dev.blockcnt) :
    RangeDelivered C B dev files lba lbaCount := by
  have room := range_inside C B inside
  have cluster := C.word
  have stop : lba * B.bytes + lbaCount * B.bytes ≤ files.image.size := by
    rw [← Nat.add_mul]
    exact le_trans (Nat.mul_le_mul_right _ within) (blockcnt_mul_le sized)
  apply rangeDelivered_of_read fits (by omega)
  intro events payload _
  obtain ⟨fd, offset, selected⟩ := setIoOpts_exists fits inTable
  obtain ⟨status, result, served, moved⟩ := serveRead_queued fits files events payload before
    (by omega : lbaCount * B.bytes < 2 ^ 32) selected
  refine ⟨status, result, served, ?_⟩
  intro success j b below specified
  obtain ⟨file, opened, _, rfl⟩ := moved success
  exact overlayByte_delivered fits inTable inside stop payload selected opened below specified

/-- Behind the image nothing is moved, so a byte that the overlay has there is never delivered. -/
theorem not_rangeDelivered_specified (past : dev.blockcnt ≤ lba) (positive : 0 < lbaCount) {byte : UInt8}
    (specified : overlayByte C dev.clusterMap files (lba * B.bytes) = some byte) : ¬ RangeDelivered C B dev files lba lbaCount := by
  have below : 0 < lbaCount * B.bytes := Nat.mul_pos positive B.pos
  rintro ⟨read, _⟩
  obtain ⟨status, result, served, delivered⟩ :=
    read .fine (List.replicate (lbaCount * B.bytes) (byte + 1)) List.length_replicate
  rw [serveRead_past files .fine lbaCount _ past] at served
  cases served
  have same := delivered rfl 0 byte below specified
  rw [List.getD_eq_getElem _ _ (by simpa using below), List.getElem_replicate] at same
  exact absurd same (by simp)

theorem not_rangeDelivered_past (inside : lba % clusterBlocks C B + lbaCount ≤ clusterBlocks C B)
    (stored : StoredPastImage C B dev files lba lbaCount) : ¬ RangeDelivered C B dev files lba lbaCount := by
  obtain ⟨past, mapped, positive, file, opened, holds⟩ := stored
  have below : 0 < lbaCount * B.bytes := Nat.mul_pos positive B.pos
  have specified : overlayByte C dev.clusterMap files (lba * B.bytes + 0) =
      some (file.byte (dev.clusterMap.start (lba / clusterBlocks C B) + lba % clusterBlocks C B * B.bytes)) := by
    rw [overlayByte, byteAddress_div C B inside below, byteAddress_mod C B inside below, if_pos mapped, opened,
      Option.bind_some, Nat.add_zero, if_pos holds]
  exact not_rangeDelivered_specified past positive specified

/-- A range that starts past the image and may be valid is a mapped one, if its cluster is in the table. -/
theorem mapped_of_valid (fits : dev.Fits C B) (past : dev.blockcnt ≤ lba) (inTable : lba / clusterBlocks C B < maxClusters)
    (valid : bsDevUringIsRangeValid dev lba lbaCount ≠ some false) :
    dev.clusterMap.Mapped (lba / clusterBlocks C B) := by
  by_contra unmapped
  rw [isRangeValid_of_le fits lbaCount past inTable, decide_eq_false unmapped] at valid
  exact valid rfl

/-- Behind the table the check of a range past the image has no answer of its own. -/
theorem isRangeValid_outside (fits : dev.Fits C B) (past : dev.blockcnt ≤ lba) (outside : maxClusters ≤ lba / clusterBlocks C B) :
    bsDevUringIsRangeValid dev lba lbaCount = none := by
  rw [bsDevUringIsRangeValid, if_pos past, fits.shiftRight, ClusterMap.get?_of_le _ outside, Option.map_none]

/-- Nothing of the range is stored, so there is nothing to deliver. -/
theorem rangeDelivered_unstored (fits : dev.Fits C B) (inside : lba % clusterBlocks C B + lbaCount ≤ clusterBlocks C B)
    (past : dev.blockcnt ≤ lba) (mapped : dev.clusterMap.Mapped (lba / clusterBlocks C B))
    (unstored : ¬ StoredPastImage C B dev files lba lbaCount) : RangeDelivered C B dev files lba lbaCount := by
  have room := range_inside C B inside
  have cluster := C.word
  apply rangeDelivered_of_read fits (by omega)
  intro events payload _
  refine ⟨0, payload, serveRead_past files events lbaCount payload past, ?_⟩
  intro _ j b below specified
  exfalso
  apply unstored
  rw [overlayByte, byteAddress_div C B inside below, byteAddress_mod C B inside below, if_pos mapped] at specified
  obtain ⟨file, opened, specified⟩ := Option.bind_eq_some_iff.mp specified
  split at specified
  · rename_i holds
    refine ⟨past, mapped, ?_, file, opened, by omega⟩
    by_contra none
    simp [Nat.eq_zero_of_not_pos none] at below
  · cases specified

/-- A range inside the image whose cluster has no entry in the table. -/
def OutsideTable (C : ClusterSize) (B : BlockLength) (dev : BsDevUring) (lba : Nat) : Prop :=
  lba < dev.blockcnt ∧ maxClusters ≤ lba / clusterBlocks C B

/-- A range whose cluster has no entry in the table: one inside the image, or one past it that is not empty. -/
def BehindTable (C : ClusterSize) (B : BlockLength) (dev : BsDevUring) (lba lbaCount : Nat) : Prop :=
  maxClusters ≤ lba / clusterBlocks C B ∧
    (lba < dev.blockcnt ∧ lba + lbaCount ≤ dev.blockcnt ∨ dev.blockcnt ≤ lba ∧ 0 < lbaCount)

theorem not_rangeDelivered_outside (fits : dev.Fits C B) (counted : lba / clusterBlocks C B < 2 ^ 32)
    (outside : OutsideTable C B dev lba) : ¬ RangeDelivered C B dev files lba lbaCount := by
  rintro ⟨read, _⟩
  obtain ⟨status, result, served, _⟩ := read .fine (List.replicate (lbaCount * B.bytes) 0) List.length_replicate
  rw [serveRead_outside fits files .fine lbaCount _ outside.1 outside.2 counted] at served
  cases served

/-- Past the image such a range is read as zeros, which the read does not deliver either. -/
theorem not_rangeDelivered_unmapped (inside : lba % clusterBlocks C B + lbaCount ≤ clusterBlocks C B) (past : dev.blockcnt ≤ lba)
    (unmapped : ¬ dev.clusterMap.Mapped (lba / clusterBlocks C B)) (positive : 0 < lbaCount) :
    ¬ RangeDelivered C B dev files lba lbaCount := by
  have below : 0 < lbaCount * B.bytes := Nat.mul_pos positive B.pos
  have specified : overlayByte C dev.clusterMap files (lba * B.bytes + 0) = some (files.image.byte (lba * B.bytes + 0)) := by
    rw [overlayByte, byteAddress_div C B inside below, if_neg unmapped]
  exact not_rangeDelivered_specified past positive specified

theorem rangeDelivered_empty (fits : dev.Fits C B) (past : dev.blockcnt ≤ lba) : RangeDelivered C B dev files lba 0 := by
  apply rangeDelivered_of_read fits (by rw [Nat.zero_mul]; norm_num)
  intro events payload _
  refine ⟨0, payload, serveRead_past files events 0 payload past, ?_⟩
  intro _ j b below
  rw [Nat.zero_mul] at below
  exact absurd below (Nat.not_lt_zero j)

theorem isRangeValid_inside (sized : dev.blockcnt = files.image.size / B.bytes)
    (inside : lba % clusterBlocks C B + lbaCount ≤ clusterBlocks C B) (before : lba < dev.blockcnt) :
    bsDevUringIsRangeValid dev lba lbaCount = some (decide (lba + lbaCount ≤ dev.blockcnt)) := by
  have blocks := blockcnt_mul_le sized
  have bounded := files.image.bounded
  have fewer : dev.blockcnt ≤ dev.blockcnt * B.bytes := Nat.le_mul_of_pos_right _ B.pos
  have room := range_inside C B inside
  have fewer' : lbaCount ≤ lbaCount * B.bytes := Nat.le_mul_of_pos_right _ B.pos
  have cluster := C.word
  rw [offsetLimit] at bounded
  exact isRangeValid_of_lt before (by omega)

theorem rangeCheckAgrees_iff (fits : dev.Fits C B) (sized : dev.blockcnt = files.image.size / B.bytes)
    (inside : lba % clusterBlocks C B + lbaCount ≤ clusterBlocks C B) (counted : lba / clusterBlocks C B < 2 ^ 32) :
    RangeCheckAgrees C B dev files lba lbaCount ↔
      ¬ StoredPastImage C B dev files lba lbaCount ∧ ¬ BehindTable C B dev lba lbaCount := by
  constructor
  · rintro ⟨past, valid⟩
    refine ⟨fun stored => not_rangeDelivered_past inside stored (past stored.1 stored.2.1), ?_⟩
    rintro ⟨outside, ⟨before, within⟩ | ⟨behind, positive⟩⟩
    · apply not_rangeDelivered_outside fits counted ⟨before, outside⟩
      apply valid
      rw [isRangeValid_inside sized inside before, decide_eq_true within]
      decide
    · have unmapped : ¬ dev.clusterMap.Mapped (lba / clusterBlocks C B) := fun ⟨inTable, _⟩ => Nat.not_le_of_lt inTable outside
      apply not_rangeDelivered_unmapped inside behind unmapped positive
      apply valid
      rw [isRangeValid_outside fits behind outside]
      decide
  · rintro ⟨unstored, tabled⟩
    refine ⟨fun past mapped => rangeDelivered_unstored fits inside past mapped unstored, ?_⟩
    intro valid
    by_cases past : dev.blockcnt ≤ lba
    · by_cases inTable : lba / clusterBlocks C B < maxClusters
      · exact rangeDelivered_unstored fits inside past (mapped_of_valid fits past inTable valid) unstored
      · have empty : lbaCount = 0 := by
          by_contra some
          exact tabled ⟨Nat.not_lt.mp inTable, Or.inr ⟨past, Nat.pos_of_ne_zero some⟩⟩
        rw [empty]
        exact rangeDelivered_empty fits past
    · have before : lba < dev.blockcnt := by omega
      have within : lba + lbaCount ≤ dev.blockcnt := by
        by_contra beyond
        rw [isRangeValid_inside sized inside before, decide_eq_false beyond] at valid
        exact valid rfl
      have inTable : lba / clusterBlocks C B < maxClusters :=
        Nat.not_le.mp fun outside => tabled ⟨outside, Or.inl ⟨before, within⟩⟩
      exact rangeDelivered_inside fits sized inTable inside before within

end

/-- The range check and the read agree on every range that stays in a cluster except on
those that the snapshot file stores behind the image: the check calls them valid, the
read answers them with success and leaves the payload alone. They also part behind the
table, which both index without a check. The blobstore counts clusters in 32 bits. -/
theorem range_check_agrees_with_read (C : ClusterSize) (B : BlockLength) (files : OpenFiles) (map : ClusterMap)
    (filename snapshotPath : String) (directio : Bool) (lba lbaCount : Nat)
    (inside : lba % clusterBlocks C B + lbaCount ≤ clusterBlocks C B) (counted : lba / clusterBlocks C B < 2 ^ 32) :
    RangeCheckAgrees C B (overlayDev C B files.image map filename snapshotPath directio) files lba lbaCount ↔
      ¬ StoredPastImage C B (overlayDev C B files.image map filename snapshotPath directio) files lba lbaCount ∧
      ¬ BehindTable C B (overlayDev C B files.image map filename snapshotPath directio) lba lbaCount :=
  rangeCheckAgrees_iff (BsDevUring.build_fits _ _ _ _ _ _ _) rfl inside counted

-- An image of one page, and a snapshot file that stores the page after it.
def pageImage : RegularFile := .constant 4096 1 (by rw [offsetLimit]; norm_num)
def pageSnapshot : RegularFile := .constant (2 ^ 29 + 4096) 7 (by rw [offsetLimit]; norm_num)
def pageFiles : OpenFiles := ⟨pageImage, some pageSnapshot⟩
def secondPageMap : ClusterMap := fun i => if i.val = 1 then 2 ^ 29 else 0
def secondPageDev : BsDevUring := overlayDev .page .page pageImage secondPageMap "image" "snapshot" false

theorem secondPage_start : secondPageMap.start 1 = 2 ^ 29 := by
  have inside : 1 < maxClusters := by rw [maxClusters_eq]; norm_num
  simp only [ClusterMap.start, inside, ↓reduceDIte, secondPageMap, ↓reduceIte]
  decide

theorem secondPage_storedPastImage : StoredPastImage .page .page secondPageDev pageFiles 1 1 := by
  refine ⟨?_, ?_, by norm_num, pageSnapshot, rfl, ?_⟩
  · simp [secondPageDev, overlayDev, BsDevUring.build, pageImage, RegularFile.constant, BlockLength.page]
  · rw [ClusterMap.mapped_iff_start, clusterBlocks_page]
    simp [secondPageDev, overlayDev, BsDevUring.build, secondPage_start]
  · rw [clusterBlocks_page]
    simp [secondPageDev, overlayDev, BsDevUring.build, secondPage_start, pageSnapshot, RegularFile.constant]

theorem range_check_disagrees_second_page : ¬ RangeCheckAgrees .page .page secondPageDev pageFiles 1 1 := by
  rintro ⟨past, _⟩
  have stored := secondPage_storedPastImage
  exact not_rangeDelivered_past (by rw [clusterBlocks_page]) stored (past stored.1 stored.2.1)

theorem range_check_agrees_first_page :
    RangeCheckAgrees .page .page secondPageDev pageFiles 0 1 ↔
      ¬ StoredPastImage .page .page secondPageDev pageFiles 0 1 ∧ ¬ BehindTable .page .page secondPageDev 0 1 := by
  refine range_check_agrees_with_read .page .page pageFiles secondPageMap "image" "snapshot" false 0 1 ?_ ?_
  · rw [clusterBlocks_page]
  · rw [Nat.zero_div]
    norm_num

/-! ## The zero check -/

/-- Whatever image of this size and whatever snapshot file: if the zero check may
answer true for the blocks of the cluster, all of its specified bytes are zero. -/
def ZeroCheckSound (C : ClusterSize) (B : BlockLength) (dev : BsDevUring) (imageSize cluster : Nat) : Prop :=
  ∀ files : OpenFiles, files.image.size = imageSize →
    bsDevUringIsZeroes dev (cluster * clusterBlocks C B) (clusterBlocks C B) ≠ some false →
    ∀ j, j < C.bytes → ∀ b, overlayByte C dev.clusterMap files (cluster * C.bytes + j) = some b → b = 0

section
variable {C : ClusterSize} {B : BlockLength} {dev : BsDevUring} {image : RegularFile} {cluster : Nat}

theorem clusterAddress_div {j : Nat} (below : j < C.bytes) : (cluster * C.bytes + j) / C.bytes = cluster := by
  rw [Nat.mul_comm, Nat.mul_add_div C.pos, Nat.div_eq_of_lt below, Nat.add_zero]

theorem clusterBlock_div : cluster * clusterBlocks C B / clusterBlocks C B = cluster :=
  Nat.mul_div_cancel _ (clusterBlocks_pos C B)

/-- The zero check answers false for clusters inside the image's whole blocks. -/
theorem isZeroes_inside (sized : dev.blockcnt = image.size / B.bytes)
    (whole : (cluster + 1) * clusterBlocks C B ≤ dev.blockcnt) :
    bsDevUringIsZeroes dev (cluster * clusterBlocks C B) (clusterBlocks C B) = some false := by
  have positive := clusterBlocks_pos C B
  have blocks := blockcnt_mul_le sized
  have bounded := image.bounded
  have fewer : dev.blockcnt ≤ dev.blockcnt * B.bytes := Nat.le_mul_of_pos_right _ B.pos
  rw [offsetLimit] at bounded
  rw [Nat.succ_mul] at whole
  rw [bsDevUringIsZeroes, isRangeValid_of_lt (by omega) (by omega), decide_eq_true whole]
  rfl

/-- It answers true for the cluster in which the image's last block lies, unless
that is the cluster's last block too. -/
theorem isZeroes_crossing (sized : dev.blockcnt = image.size / B.bytes)
    (before : cluster * clusterBlocks C B < dev.blockcnt) (crossing : dev.blockcnt < (cluster + 1) * clusterBlocks C B) :
    bsDevUringIsZeroes dev (cluster * clusterBlocks C B) (clusterBlocks C B) = some true := by
  have blocks := blockcnt_mul_le sized
  have bounded := image.bounded
  have fewer : dev.blockcnt ≤ dev.blockcnt * B.bytes := Nat.le_mul_of_pos_right _ B.pos
  have cluster' := clusterBlocks_mul C B
  have fewer' : clusterBlocks C B ≤ clusterBlocks C B * B.bytes := Nat.le_mul_of_pos_right _ B.pos
  have word := C.word
  rw [offsetLimit] at bounded
  rw [Nat.succ_mul] at crossing
  rw [bsDevUringIsZeroes, isRangeValid_of_lt before (by omega), decide_eq_false (by omega)]
  rfl

theorem isZeroes_past (fits : dev.Fits C B) (past : dev.blockcnt ≤ cluster * clusterBlocks C B) :
    bsDevUringIsZeroes dev (cluster * clusterBlocks C B) (clusterBlocks C B) = some false ↔
      dev.clusterMap.Mapped cluster := by
  by_cases inTable : cluster < maxClusters
  · rw [bsDevUringIsZeroes, isRangeValid_of_le fits _ past (by rw [clusterBlock_div]; exact inTable), clusterBlock_div,
      Option.map_some, Option.some.injEq, Bool.not_eq_false', decide_eq_true_eq]
  · rw [bsDevUringIsZeroes, bsDevUringIsRangeValid, if_pos past, fits.shiftRight, clusterBlock_div,
      ClusterMap.get?_of_le _ (by omega)]
    constructor
    · intro none
      cases none
    · rintro ⟨inside, _⟩
      exact absurd inside inTable

/-- The first byte of an unmapped cluster that begins inside the image is the image's. -/
theorem not_zeroCheckSound_image (unmapped : ¬ dev.clusterMap.Mapped cluster) (begins : cluster * C.bytes < image.size)
    (answer : bsDevUringIsZeroes dev (cluster * clusterBlocks C B) (clusterBlocks C B) ≠ some false) :
    ¬ ZeroCheckSound C B dev image.size cluster := by
  intro sound
  have specified : overlayByte C dev.clusterMap ⟨.constant image.size 1 image.bounded, none⟩ (cluster * C.bytes + 0) =
      some 1 := by
    rw [overlayByte, clusterAddress_div C.pos, if_neg unmapped, Nat.add_zero]
    simp only [RegularFile.constant, begins, ↓reduceIte]
  exact absurd (sound _ rfl answer 0 C.pos 1 specified) (by decide)

/-- The first byte of a mapped cluster is the one at its offset in the snapshot file. -/
theorem not_zeroCheckSound_snapshot (mapped : dev.clusterMap.Mapped cluster)
    (offset : dev.clusterMap.start cluster < offsetLimit)
    (answer : bsDevUringIsZeroes dev (cluster * clusterBlocks C B) (clusterBlocks C B) ≠ some false) :
    ¬ ZeroCheckSound C B dev image.size cluster := by
  intro sound
  let snapshot := RegularFile.constant (dev.clusterMap.start cluster + 1) 1 offset
  have specified : overlayByte C dev.clusterMap ⟨image, some snapshot⟩ (cluster * C.bytes + 0) = some 1 := by
    rw [overlayByte, clusterAddress_div C.pos, if_pos mapped, Nat.add_zero, Nat.mul_mod_left]
    simp [snapshot, RegularFile.constant]
  exact absurd (sound _ rfl answer 0 C.pos 1 specified) (by decide)

theorem zeroCheckSound_iff (fits : dev.Fits C B) (sized : dev.blockcnt = image.size / B.bytes) :
    ZeroCheckSound C B dev image.size cluster ↔
      (cluster + 1) * clusterBlocks C B ≤ dev.blockcnt ∨
      (dev.blockcnt ≤ cluster * clusterBlocks C B ∧ (dev.clusterMap.Mapped cluster ∨ image.size ≤ cluster * C.bytes)) ∨
      offsetLimit ≤ dev.clusterMap.start cluster := by
  constructor
  · intro sound
    by_contra neither
    simp only [not_or, not_and_or, Nat.not_le] at neither
    obtain ⟨whole, past, offset⟩ := neither
    by_cases before : cluster * clusterBlocks C B < dev.blockcnt
    · -- the image ends inside the cluster
      have answer := isZeroes_crossing sized before whole
      have begins : cluster * C.bytes < image.size := by
        have address := address_lt sized before
        rwa [Nat.mul_assoc, clusterBlocks_mul] at address
      by_cases mapped : dev.clusterMap.Mapped cluster
      · exact not_zeroCheckSound_snapshot mapped offset (by simp [answer]) sound
      · exact not_zeroCheckSound_image mapped begins (by simp [answer]) sound
    · rcases past with past | ⟨unmapped, begins⟩
      · exact before past
      · refine not_zeroCheckSound_image unmapped begins ?_ sound
        rw [ne_eq, isZeroes_past fits (by omega)]
        exact unmapped
  · rintro (whole | ⟨past, mapped | outside⟩ | offset) files same answer j below b specified
    · exact absurd (isZeroes_inside sized whole) answer
    · exact absurd ((isZeroes_past fits past).mpr mapped) answer
    · have unmapped : ¬ dev.clusterMap.Mapped cluster := fun mapped => answer ((isZeroes_past fits past).mpr mapped)
      rw [overlayByte, clusterAddress_div below, if_neg unmapped, files.image.hole _ (by omega)] at specified
      exact (Option.some.inj specified).symm
    · -- no file has bytes at such an offset
      have mapped : dev.clusterMap.Mapped cluster := by
        rw [ClusterMap.mapped_iff_start]
        have positive : 0 < offsetLimit := by rw [offsetLimit]; norm_num
        omega
      rw [overlayByte, clusterAddress_div below, if_pos mapped] at specified
      obtain ⟨file, _, specified⟩ := Option.bind_eq_some_iff.mp specified
      have bounded := file.bounded
      rw [if_neg (by omega)] at specified
      cases specified

end

/-- The zero check can be trusted for a cluster exactly when the cluster lies inside
the image's whole blocks, or begins at or past them and either is mapped or begins
past the image's last byte. The third case is an entry no file offset can have. -/
theorem zero_check_sound_iff (C : ClusterSize) (B : BlockLength) (image : RegularFile) (map : ClusterMap)
    (filename snapshotPath : String) (directio : Bool) (cluster : Nat) :
    ZeroCheckSound C B (overlayDev C B image map filename snapshotPath directio) image.size cluster ↔
      (cluster + 1) * clusterBlocks C B ≤ image.size / B.bytes ∨
      (image.size / B.bytes ≤ cluster * clusterBlocks C B ∧ (map.Mapped cluster ∨ image.size ≤ cluster * C.bytes)) ∨
      offsetLimit ≤ map.start cluster :=
  zeroCheckSound_iff (BsDevUring.build_fits _ _ _ _ _ _ _) rfl

def sectorImage : RegularFile := .constant 512 1 (by rw [offsetLimit]; norm_num)
def sectorDev : BsDevUring := overlayDev .page .sector sectorImage .zero "image" "" false

/-- One sector of image in a cluster of eight: the check calls the cluster zero. -/
theorem zero_check_unsound_last_cluster :
    bsDevUringIsZeroes sectorDev (0 * clusterBlocks .page .sector) (clusterBlocks .page .sector) = some true ∧
    overlayByte .page .zero ⟨sectorImage, none⟩ 0 = some 1 ∧
    ¬ ZeroCheckSound .page .sector sectorDev sectorImage.size 0 := by
  have blocks : clusterBlocks .page .sector = 8 := by
    simp [clusterBlocks, ClusterSize.page, BlockLength.sector]
  have sized : sectorDev.blockcnt = 1 := by
    simp [sectorDev, overlayDev, BsDevUring.build, sectorImage, RegularFile.constant, BlockLength.sector]
  have answer : bsDevUringIsZeroes sectorDev (0 * clusterBlocks .page .sector) (clusterBlocks .page .sector) = some true :=
    isZeroes_crossing (show sectorDev.blockcnt = sectorImage.size / _ from rfl) (by omega) (by omega)
  refine ⟨answer, ?_, ?_⟩
  · rw [overlayByte, if_neg (ClusterMap.not_mapped_zero _)]
    simp [sectorImage, RegularFile.constant]
  · apply not_zeroCheckSound_image (ClusterMap.not_mapped_zero _)
    · simp [sectorImage, RegularFile.constant]
    · rw [answer]
      decide

/-! ## Two runs of one read -/

section
variable {C : ClusterSize} {B : BlockLength} {dev : BsDevUring} {files : OpenFiles} {lba lbaCount : Nat}

end

end BdevUbi.Device
