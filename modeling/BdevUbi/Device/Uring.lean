import BdevUbi.Device.Delta

/-! The read-only overlay of a snapshot file over an image, `spdk_bs_dev_uring.c`.

The device decides from its table which file serves a block; the kernel then
reads that file at an absolute offset. Arithmetic that the source does in fixed
width is reduced modulo that width here.
-/

set_option autoImplicit false

namespace BdevUbi.Device
open BdevUbi.Library RegularFile

structure BsDevUring where
  blockcnt : Nat
  blocklen : Nat
  filename : String
  snapshotPath : String
  clusterMap : ClusterMap
  directio : Bool
  lbaToClusterShift : Nat
  lbaOffsetMask : Nat
  lbaToAddrShift : Nat

/-- What `bs_dev_uring_create` puts into the record once the image's size is known
and the table is loaded. -/
def BsDevUring.build (imageSize : Nat) (map : ClusterMap) (filename snapshotPath : String)
    (blocklen clusterSize : Nat) (directio : Bool) : BsDevUring where
  blockcnt := imageSize / blocklen
  blocklen := blocklen
  filename := filename
  snapshotPath := snapshotPath
  clusterMap := map
  directio := directio
  lbaToClusterShift := Nat.log2 (clusterSize / blocklen)
  lbaOffsetMask := (1 <<< Nat.log2 (clusterSize / blocklen)) - 1
  lbaToAddrShift := Nat.log2 blocklen

def bsDevUringCreate (files : String → Option RegularFile) (filename snapshotPath : String)
    (blocklen clusterSize : Nat) (directio : Bool) (transfer : Transfer) : Option BsDevUring :=
  (files filename).bind fun image =>
    (if snapshotPath = "" then some ClusterMap.zero
      else ubiReadClusterMap (files snapshotPath) transfer .zero).map fun map =>
    .build image.size map filename snapshotPath blocklen clusterSize directio

inductive Fd where
  | image
  | snapshot
  deriving DecidableEq, Repr

/-- `set_io_opts`; no value stands for an access outside the table. -/
def setIoOpts (dev : BsDevUring) (lba : Nat) : Option (Fd × Nat) :=
  let clusterId := (lba >>> dev.lbaToClusterShift) % 2 ^ 32
  (dev.clusterMap.get? clusterId).map fun clusterStart =>
    if clusterStart = 0 then
      (.image, (lba <<< dev.lbaToAddrShift) % 2 ^ 64)
    else
      let lbaOffset := lba &&& dev.lbaOffsetMask
      (.snapshot, (clusterStart.toNat + (lbaOffset <<< dev.lbaToAddrShift) % 2 ^ 64) % 2 ^ 64)

structure Sqe where
  fd : Fd
  nbytes : Nat
  offset : Nat
  deriving DecidableEq, Repr

inductive Submission where
  | complete (status : Int)
  | queue (sqe : Sqe)
  deriving DecidableEq, Repr

def bsDevUringRead (dev : BsDevUring) (lba lbaCount : Nat) : Option Submission :=
  if dev.blockcnt ≤ lba then some (.complete 0)
  else (setIoOpts dev lba).map fun opts => .queue ⟨opts.1, lbaCount * dev.blocklen % 2 ^ 32, opts.2⟩

-- The kernel reads as much as the vector holds; `lba_count` is not looked at.
def bsDevUringReadv (dev : BsDevUring) (iov : List (List UInt8)) (lba : Nat) : Option Submission :=
  if dev.blockcnt ≤ lba then some (.complete 0)
  else (setIoOpts dev lba).map fun opts => .queue ⟨opts.1, iov.flatten.length, opts.2⟩

def bsDevUringReadvExt (dev : BsDevUring) (iov : List (List UInt8)) (lba : Nat) : Option Submission :=
  bsDevUringReadv dev iov lba

def bsDevUringIsRangeValid (dev : BsDevUring) (lba lbaCount : Nat) : Option Bool :=
  if dev.blockcnt ≤ lba then
    (dev.clusterMap.get? (lba >>> dev.lbaToClusterShift)).map fun entry => entry != 0
  else if dev.blockcnt < (lba + lbaCount) % 2 ^ 64 then some false
  else some true

def bsDevUringIsZeroes (dev : BsDevUring) (lba lbaCount : Nat) : Option Bool :=
  (bsDevUringIsRangeValid dev lba lbaCount).map not

/-! ## Serving a read -/

/-- The files behind the channel's descriptors; without a snapshot path the second
descriptor is -1. -/
structure OpenFiles where
  image : RegularFile
  snapshot : Option RegularFile

def OpenFiles.file (files : OpenFiles) : Fd → Option RegularFile
  | .image => some files.image
  | .snapshot => files.snapshot

/-- The completion's `res` and the bytes moved. A regular file is read in full up
to its end; offsets are signed, so the upper half of the range is refused. -/
def kernelRead (files : OpenFiles) (sqe : Sqe) (fault : Bool) : Int × List UInt8 :=
  if fault then (-eio, [])
  else
    match files.file sqe.fd with
    | none => (-ebadf, [])
    | some file =>
      if offsetLimit ≤ sqe.offset then (-einval, [])
      else ((file.pread sqe.offset sqe.nbytes).length, file.pread sqe.offset sqe.nbytes)

/-- What `bs_dev_uring_poll` passes to `cb_fn`: every count, short or not, is a success. -/
def bsDevUringPollStatus (res : Int) : Int := if res < 0 then -eio else 0

structure ReadEvents where
  submit : Int
  fault : Bool

def ReadEvents.fine : ReadEvents := ⟨1, false⟩

/-- The first completion of a submission: its status and what the transfer left to
store into the payload. -/
def serve (files : OpenFiles) (events : ReadEvents) : Submission → Int × List UInt8
  | .complete status => (status, [])
  | .queue sqe =>
    if events.submit < 0 then (-eio, [])
    else
      let (res, data) := kernelRead files sqe events.fault
      (bsDevUringPollStatus res, data)

def serveRead (dev : BsDevUring) (files : OpenFiles) (events : ReadEvents) (lba lbaCount : Nat)
    (payload : List UInt8) : Option (Int × List UInt8) :=
  (bsDevUringRead dev lba lbaCount).map fun submission =>
    let (status, data) := serve files events submission
    (status, fill data payload)

def serveReadv (dev : BsDevUring) (files : OpenFiles) (events : ReadEvents) (lba : Nat)
    (iov : List (List UInt8)) : Option (Int × List (List UInt8)) :=
  (bsDevUringReadv dev iov lba).map fun submission =>
    let (status, data) := serve files events submission
    (status, scatter data iov)

/-! ## The shifts and masks as arithmetic -/

/-- The record belongs to a device of this cluster size and block length. -/
structure BsDevUring.Fits (dev : BsDevUring) (C : ClusterSize) (B : BlockLength) : Prop where
  blocklen : dev.blocklen = B.bytes
  clusterShift : dev.lbaToClusterShift = Nat.log2 (clusterBlocks C B)
  offsetMask : dev.lbaOffsetMask = (1 <<< Nat.log2 (clusterBlocks C B)) - 1
  addrShift : dev.lbaToAddrShift = Nat.log2 B.bytes

theorem BsDevUring.build_fits (imageSize : Nat) (map : ClusterMap) (filename snapshotPath : String)
    (C : ClusterSize) (B : BlockLength) (directio : Bool) :
    (BsDevUring.build imageSize map filename snapshotPath B.bytes C.bytes directio).Fits C B :=
  ⟨rfl, rfl, rfl, rfl⟩

section
variable {dev : BsDevUring} {C : ClusterSize} {B : BlockLength}

/-- The index `set_io_opts` uses: the shift's result is narrowed to 32 bits. -/
def tableIndex (C : ClusterSize) (B : BlockLength) (lba : Nat) : Nat := lba / clusterBlocks C B % 2 ^ 32

theorem tableIndex_of_lt {lba : Nat} (inside : lba / clusterBlocks C B < maxClusters) :
    tableIndex C B lba = lba / clusterBlocks C B := by
  rw [maxClusters_eq] at inside
  exact Nat.mod_eq_of_lt (by omega)

theorem BsDevUring.Fits.shiftRight (fits : dev.Fits C B) (lba : Nat) :
    lba >>> dev.lbaToClusterShift = lba / clusterBlocks C B := by
  obtain ⟨k, b, _, _, _, _, _, blocks⟩ := clusterBlocks_exponent C B
  rw [fits.clusterShift, Nat.shiftRight_eq_div_pow, blocks, Nat.log2_two_pow]

theorem BsDevUring.Fits.mask (fits : dev.Fits C B) (lba : Nat) :
    lba &&& dev.lbaOffsetMask = lba % clusterBlocks C B := by
  obtain ⟨k, b, _, _, _, _, _, blocks⟩ := clusterBlocks_exponent C B
  rw [fits.offsetMask, blocks, Nat.log2_two_pow, Nat.one_shiftLeft, Nat.and_two_pow_sub_one_eq_mod]

theorem BsDevUring.Fits.shiftLeft (fits : dev.Fits C B) (n : Nat) : n <<< dev.lbaToAddrShift = n * B.bytes := by
  obtain ⟨b, _, block⟩ := B.exponent
  rw [fits.addrShift, block, Nat.log2_two_pow, Nat.shiftLeft_eq]

theorem setIoOpts_eq (fits : dev.Fits C B) (lba : Nat) :
    setIoOpts dev lba = (dev.clusterMap.get? (tableIndex C B lba)).map fun entry =>
      if entry = 0 then (.image, lba * B.bytes % 2 ^ 64)
      else (.snapshot, (entry.toNat + lba % clusterBlocks C B * B.bytes) % 2 ^ 64) := by
  have small : lba % clusterBlocks C B * B.bytes % 2 ^ 64 = lba % clusterBlocks C B * B.bytes := by
    have room := offset_lt C B lba
    have word := C.word
    exact Nat.mod_eq_of_lt (by omega)
  simp only [setIoOpts, fits.shiftRight, fits.mask, fits.shiftLeft, small, tableIndex]

theorem setIoOpts_mapped (fits : dev.Fits C B) {lba : Nat} (mapped : dev.clusterMap.Mapped (lba / clusterBlocks C B)) :
    setIoOpts dev lba = some (.snapshot,
      (dev.clusterMap.start (lba / clusterBlocks C B) + lba % clusterBlocks C B * B.bytes) % 2 ^ 64) := by
  obtain ⟨inside, present⟩ := mapped
  rw [setIoOpts_eq fits, tableIndex_of_lt inside, ClusterMap.get?_of_lt _ inside, Option.map_some, if_neg present]
  simp only [ClusterMap.start, inside, ↓reduceDIte]

theorem setIoOpts_unmapped (fits : dev.Fits C B) {lba : Nat} (inside : lba / clusterBlocks C B < maxClusters)
    (unmapped : ¬ dev.clusterMap.Mapped (lba / clusterBlocks C B)) :
    setIoOpts dev lba = some (.image, lba * B.bytes % 2 ^ 64) := by
  have absent : dev.clusterMap ⟨_, inside⟩ = 0 := not_not.mp fun present => unmapped ⟨inside, present⟩
  rw [setIoOpts_eq fits, tableIndex_of_lt inside, ClusterMap.get?_of_lt _ inside, Option.map_some, if_pos absent]

theorem isRangeValid_of_le (fits : dev.Fits C B) {lba : Nat} (lbaCount : Nat) (past : dev.blockcnt ≤ lba)
    (inside : lba / clusterBlocks C B < maxClusters) :
    bsDevUringIsRangeValid dev lba lbaCount = some (decide (dev.clusterMap.Mapped (lba / clusterBlocks C B))) := by
  rw [bsDevUringIsRangeValid, if_pos past, fits.shiftRight, ClusterMap.get?_of_lt _ inside, Option.map_some]
  congr 1
  rw [Bool.eq_iff_iff]
  simp [ClusterMap.Mapped, inside]

theorem isRangeValid_of_lt {lba lbaCount : Nat} (before : lba < dev.blockcnt) (small : lba + lbaCount < 2 ^ 64) :
    bsDevUringIsRangeValid dev lba lbaCount = some (decide (lba + lbaCount ≤ dev.blockcnt)) := by
  rw [bsDevUringIsRangeValid, if_neg (by omega), Nat.mod_eq_of_lt small]
  split
  · rename_i crossing
    simp [crossing]
  · rename_i within
    simp only [Option.some.injEq, Bool.true_eq, decide_eq_true_eq]
    omega

/-- A read the device queues fills the payload from the file and offset selected. -/
theorem serveRead_of_opts (fits : dev.Fits C B) {files : OpenFiles} {lba lbaCount : Nat} (payload : List UInt8)
    (before : lba < dev.blockcnt) (word : lbaCount * B.bytes < 2 ^ 32) {fd : Fd} {offset : Nat} {file : RegularFile}
    (opts : setIoOpts dev lba = some (fd, offset)) (opened : files.file fd = some file)
    (small : offset < offsetLimit) :
    serveRead dev files .fine lba lbaCount payload =
      some (0, fill (file.pread offset (lbaCount * B.bytes)) payload) := by
  have queued : ¬ dev.blockcnt ≤ lba := by omega
  have submitted : ¬ (1 : Int) < 0 := by decide
  have refused : ¬ offsetLimit ≤ offset := by omega
  have counted : ¬ ((file.pread offset (lbaCount * B.bytes)).length : Int) < 0 := by omega
  simp only [serveRead, bsDevUringRead, queued, ↓reduceIte, opts, Option.map_some, fits.blocklen,
    Nat.mod_eq_of_lt word, serve, ReadEvents.fine, submitted, kernelRead, opened, refused,
    bsDevUringPollStatus, counted, Bool.false_eq_true]

/-- Past the image's blocks a read is answered at once and moves nothing. -/
theorem serveRead_past (files : OpenFiles) (events : ReadEvents) {lba : Nat} (lbaCount : Nat) (payload : List UInt8)
    (past : dev.blockcnt ≤ lba) : serveRead dev files events lba lbaCount payload = some (0, payload) := by
  simp only [serveRead, bsDevUringRead, past, ↓reduceIte, Option.map_some, serve, fill_nil]

/-- Behind the table the device indexes past its array, as long as the index is not
narrowed back into it. -/
theorem serveRead_outside (fits : dev.Fits C B) (files : OpenFiles) (events : ReadEvents) {lba : Nat} (lbaCount : Nat)
    (payload : List UInt8) (before : lba < dev.blockcnt) (outside : maxClusters ≤ lba / clusterBlocks C B)
    (counted : lba / clusterBlocks C B < 2 ^ 32) : serveRead dev files events lba lbaCount payload = none := by
  have queued : ¬ dev.blockcnt ≤ lba := by omega
  have index : tableIndex C B lba = lba / clusterBlocks C B := Nat.mod_eq_of_lt counted
  have opts : setIoOpts dev lba = none := by
    rw [setIoOpts_eq fits, index, ClusterMap.get?_of_le _ outside, Option.map_none]
  simp only [serveRead, bsDevUringRead, queued, ↓reduceIte, opts, Option.map_none]

/-- The vectored entry point moves the same bytes as the plain one. -/
theorem serveReadv_flatten (fits : dev.Fits C B) (files : OpenFiles) (events : ReadEvents) {lba lbaCount : Nat}
    {iov : List (List UInt8)} (total : iov.flatten.length = lbaCount * B.bytes) (word : lbaCount * B.bytes < 2 ^ 32) :
    (serveReadv dev files events lba iov).map (fun result => (result.1, result.2.flatten)) =
      serveRead dev files events lba lbaCount iov.flatten := by
  have same : bsDevUringReadv dev iov lba = bsDevUringRead dev lba lbaCount := by
    rw [bsDevUringReadv, bsDevUringRead, fits.blocklen, total, Nat.mod_eq_of_lt word]
  have bound : ∀ submission, bsDevUringRead dev lba lbaCount = some submission →
      (serve files events submission).2.length ≤ iov.flatten.length := by
    intro submission submitted
    rw [bsDevUringRead, fits.blocklen, Nat.mod_eq_of_lt word, ← total] at submitted
    split at submitted
    · cases submitted
      simp [serve]
    · obtain ⟨opts, _, rfl⟩ := Option.map_eq_some_iff.mp submitted
      simp only [serve, kernelRead]
      repeat' split
      all_goals simp
  rw [serveReadv, serveRead, same]
  cases submitted : bsDevUringRead dev lba lbaCount with
  | none => rfl
  | some submission =>
    simp only [Option.map_some, Option.some.injEq, Prod.mk.injEq, true_and]
    exact flatten_scatter _ _ (bound submission submitted)

theorem serveReadv_shape {files : OpenFiles} {events : ReadEvents} {lba : Nat} {iov : List (List UInt8)}
    {result : Int × List (List UInt8)} (served : serveReadv dev files events lba iov = some result) :
    result.2.map List.length = iov.map List.length := by
  obtain ⟨submission, _, rfl⟩ := Option.map_eq_some_iff.mp served
  exact map_length_scatter _ _

end

end BdevUbi.Device
