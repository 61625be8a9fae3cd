import BdevUbi.Disk.Store

/-! The layered disk behaves as one flat array of bytes.

The flat disk is given by the log of acknowledged writes over the overlay's bytes.
The simulation says that what it promises for a byte, the layers show; a byte the
overlay leaves open is promised only after it was written.
-/

set_option autoImplicit false

namespace BdevUbi.Disk
open BdevUbi.Library BdevUbi.Device BdevUbi.Snapshot RegularFile

/-- The flat disk: the last data the guest wrote to a byte, or else the overlay's. -/
def flatByte (C : ClusterSize) (dev : BsDevUring) (files : OpenFiles) (written : List (Nat × List UInt8))
    (address : Nat) : Option UInt8 :=
  (lastWritten written address).or (overlayByte C dev.clusterMap files address)

/-- The overlay of an image that ends with a cluster and fits the table. -/
structure Backed (C : ClusterSize) (B : BlockLength) (dev : BsDevUring) (files : OpenFiles) : Prop where
  fits : dev.Fits C B
  sized : dev.blockcnt = files.image.size / B.bytes
  whole : C.bytes ∣ files.image.size
  tabled : files.image.size ≤ maxClusters * C.bytes

/-- The simulation between the layers and the flat disk. -/
structure Refines (C : ClusterSize) (dev : BsDevUring) (files : OpenFiles) (s : Store) : Prop where
  opened : s.openFiles dev = files
  image : s.copies.Avoids dev.filename
  snapshot : dev.snapshotPath ≠ "" → s.copies.Avoids dev.snapshotPath
  visible : ∀ address, address < files.image.size → ∀ b,
    flatByte C dev files s.written address = some b → s.visible C dev address = some b

section
variable {C : ClusterSize} {B : BlockLength} {dev : BsDevUring} {files : OpenFiles} {s s' : Store} {lba n : Nat}

/-! ## Ranges of the image -/

/-- A piece of the image lies in a cluster of it, which has an entry in the table. -/
theorem Backed.cluster (backed : Backed C B dev files) (positive : 0 < n)
    (stop : (lba + n) * B.bytes ≤ files.image.size) :
    lba < dev.blockcnt ∧ lba / clusterBlocks C B < maxClusters ∧
      (lba / clusterBlocks C B + 1) * C.bytes ≤ files.image.size := by
  obtain ⟨k, size⟩ := backed.whole
  have start : lba * B.bytes < files.image.size :=
    lt_of_lt_of_le (Nat.mul_lt_mul_of_pos_right (by omega) B.pos) stop
  have below : lba / clusterBlocks C B < k := by
    rw [size] at start
    have address := byteAddress_split C B lba
    have scaled : C.bytes * (lba / clusterBlocks C B) < C.bytes * k := by omega
    exact Nat.lt_of_mul_lt_mul_left scaled
  refine ⟨?_, ?_, ?_⟩
  · rw [backed.sized]
    apply (Nat.le_div_iff_mul_le B.pos).mpr
    exact le_trans (Nat.mul_le_mul_right _ (by omega)) stop
  · have table := backed.tabled
    rw [size, Nat.mul_comm] at table
    exact lt_of_lt_of_le below (Nat.le_of_mul_le_mul_right table C.pos)
  · rw [size, Nat.mul_comm C.bytes]
    exact Nat.mul_le_mul_right _ below

/-- The snapshot file stores every cluster that the table maps. -/
def Stored (C : ClusterSize) (dev : BsDevUring) (files : OpenFiles) : Prop :=
  ∀ cluster, dev.clusterMap.Mapped cluster →
    ∃ file, files.snapshot = some file ∧ dev.clusterMap.start cluster + C.bytes ≤ file.size

/-- The overlay's read of a range of the image, inside a cluster. -/
theorem Backed.serveRead (backed : Backed C B dev files) (events : ReadEvents) (payload : List UInt8) (positive : 0 < n)
    (inside : lba % clusterBlocks C B + n ≤ clusterBlocks C B) (stop : (lba + n) * B.bytes ≤ files.image.size) :
    ∃ status data, serveRead dev files events lba n payload = some (status, data) ∧
      (events = .fine → Stored C dev files → status = 0) ∧
      (status = 0 → ∀ j, j < n * B.bytes → ∀ b, overlayByte C dev.clusterMap files (lba * B.bytes + j) = some b →
        data.getD j 0 = b) := by
  obtain ⟨before, inTable, _⟩ := backed.cluster positive stop
  have room := range_inside C B inside
  have word := C.word
  have small : n * B.bytes < 2 ^ 32 := by omega
  obtain ⟨fd, offset, selected⟩ := setIoOpts_exists backed.fits inTable
  obtain ⟨status, data, served, moved⟩ := serveRead_queued backed.fits files events payload before small selected
  refine ⟨status, data, served, ?_, ?_⟩
  · rintro rfl stored
    have limit : offsetLimit = 2 ^ 63 := by rw [offsetLimit]
    obtain ⟨file, opened, reachable⟩ : ∃ file, files.file fd = some file ∧ offset < offsetLimit := by
      by_cases mapped : dev.clusterMap.Mapped (lba / clusterBlocks C B)
      · obtain ⟨file, opened, whole⟩ := stored _ mapped
        have bounded := file.bounded
        have offsets := offset_lt C B lba
        rw [setIoOpts_mapped backed.fits mapped, Nat.mod_eq_of_lt (by omega)] at selected
        cases selected
        exact ⟨file, opened, by omega⟩
      · have bounded := files.image.bounded
        have start := address_lt backed.sized before
        rw [setIoOpts_unmapped backed.fits inTable mapped, Nat.mod_eq_of_lt (by omega)] at selected
        cases selected
        exact ⟨files.image, rfl, by omega⟩
    rw [serveRead_of_opts backed.fits payload before small selected opened reachable] at served
    cases served
    rfl
  · intro success j below b specified
    obtain ⟨file, opened, _, rfl⟩ := moved success
    rw [Nat.add_mul] at stop
    exact overlayByte_delivered backed.fits inTable inside stop payload selected opened below specified

/-! ## Reading -/

/-- A piece that is read with success shows what is visible there. -/
theorem Refines.readPiece (backed : Backed C B dev files) (refines : Refines C dev files s) (events : ReadEvents)
    {payload : List UInt8} (length : payload.length = n * B.bytes) (positive : 0 < n)
    (inside : lba % clusterBlocks C B + n ≤ clusterBlocks C B) (stop : (lba + n) * B.bytes ≤ files.image.size) :
    ∃ status data, s.readPiece C B dev events lba payload = some (status, data) ∧ data.length = n * B.bytes ∧
      (events = .fine → Stored C dev files → status = 0) ∧
      (status = 0 → ∀ j, j < n * B.bytes → ∀ b, s.visible C dev (lba * B.bytes + j) = some b → data.getD j 0 = b) := by
  cases found : lookup (s.live :: s.frozen) (lba / clusterBlocks C B) with
  | some cluster =>
    simp only [Store.readPiece, found]
    refine ⟨0, _, rfl, by simp [length], fun _ _ => rfl, ?_⟩
    intro _ j below b visible
    rw [← byteAddress_div C B inside below] at found
    rw [visible_found found, byteAddress_mod C B inside below] at visible
    cases visible
    simp [List.getD, length, below]
  | none =>
    have room := range_inside C B inside
    have word := C.word
    have overlay := readPiece_overlay backed.fits events found length (by omega)
    obtain ⟨status, data, served, fine, delivered⟩ := backed.serveRead events payload positive inside stop
    rw [refines.opened, served] at overlay
    refine ⟨status, data, overlay, (readPiece_length overlay).trans length, fine, ?_⟩
    intro success j below b visible
    rw [← byteAddress_div C B inside below] at found
    rw [visible_absent found, refines.opened] at visible
    exact delivered success j below b visible

/-- Whatever the pieces, a request that is read with success shows what is visible. -/
theorem Refines.readPieces (backed : Backed C B dev files) (refines : Refines C dev files s) (events : Nat → ReadEvents)
    {split : List (Nat × Nat)} {payload : List UInt8} {count : Nat} (length : payload.length = count * B.bytes)
    (covers : Covers C B lba count split) (stop : (lba + count) * B.bytes ≤ files.image.size) :
    ∃ status data, s.readPieces C B dev events split payload = some (status, data) ∧ data.length = count * B.bytes ∧
      ((∀ piece, events piece = .fine) → Stored C dev files → status = 0) ∧
      (status = 0 → ∀ j, j < count * B.bytes → ∀ b, s.visible C dev (lba * B.bytes + j) = some b → data.getD j 0 = b) := by
  have whole := @readPieces_spec C B dev s files.image.size ((∀ piece, events piece = .fine) ∧ Stored C dev files)
    (fun address byte => ∀ b, s.visible C dev address = some b → byte = b) events
  obtain ⟨status, data, read, size, calm, shown⟩ := whole (by
    intro lba n payload length positive inside stop
    obtain ⟨status, data, read, size, calm, shown⟩ := refines.readPiece backed (events lba) length positive inside stop
    exact ⟨status, data, read, size, fun quiet => calm (quiet.1 lba) quiet.2, shown⟩) length covers stop
  exact ⟨status, data, read, size, fun quiet stored => calm ⟨quiet, stored⟩, shown⟩

/-! ## Writing -/

/-- In the cluster written to, the piece shows its data and the rest what was there. -/
theorem visible_put (base : Cluster) (data : List UInt8) {address : Nat}
    (same : address / C.bytes = lba / clusterBlocks C B) :
    (s.put C B lba base data).visible C dev address =
      if lba * B.bytes ≤ address ∧ address < lba * B.bytes + data.length then data[address - lba * B.bytes]?
      else some (base (address % C.bytes)) := by
  have position : lba * B.bytes + address % C.bytes = address + lba % clusterBlocks C B * B.bytes := by
    have left := byteAddress_split C B lba
    have right := Nat.div_add_mod address C.bytes
    rw [same] at right
    omega
  have found : lookup ((s.put C B lba base data).live :: s.frozen) (address / C.bytes) =
      some (patch base (lba % clusterBlocks C B * B.bytes) data) := by
    simp only [Store.put, lookup_update, same, ↓reduceIte]
  have shown : (s.put C B lba base data).visible C dev address = _ := visible_found found
  rw [shown, some_patch]
  by_cases hit : lba * B.bytes ≤ address ∧ address < lba * B.bytes + data.length
  · rw [if_pos hit, if_pos (by omega)]
    congr 1
    omega
  · rw [if_neg hit, if_neg (by omega)]

theorem visible_put_other (base : Cluster) (data : List UInt8) {address : Nat}
    (different : address / C.bytes ≠ lba / clusterBlocks C B) :
    (s.put C B lba base data).visible C dev address = s.visible C dev address := by
  have found : lookup ((s.put C B lba base data).live :: s.frozen) (address / C.bytes) =
      lookup (s.live :: s.frozen) (address / C.bytes) := by
    simp only [Store.put, lookup_update, different, ↓reduceIte]
  unfold Store.visible
  rw [show (s.put C B lba base data).openFiles dev = s.openFiles dev from rfl,
    show (s.put C B lba base data).frozen = s.frozen from rfl, found]

/-- A piece written into a cluster that showed what was promised keeps the promises. -/
theorem Refines.put (refines : Refines C dev files s) {base : Cluster} {data : List UInt8} (length : data.length = n * B.bytes)
    (inside : lba % clusterBlocks C B + n ≤ clusterBlocks C B)
    (shows : ∀ address, address < files.image.size → address / C.bytes = lba / clusterBlocks C B →
      ∀ b, s.visible C dev address = some b → base (address % C.bytes) = b) :
    Refines C dev files (s.put C B lba base data) := by
  refine ⟨refines.opened, refines.image, refines.snapshot, ?_⟩
  intro address below b promised
  simp only [flatByte, Store.put, lastWritten_range] at promised
  by_cases hit : lba * B.bytes ≤ address ∧ address < lba * B.bytes + data.length
  · have same := byteAddress_div C B inside (by omega : address - lba * B.bytes < n * B.bytes)
    rw [Nat.add_sub_cancel' hit.1] at same
    rw [if_pos hit, List.getElem?_eq_getElem (by omega), Option.some_or] at promised
    rw [visible_put base data same, if_pos hit, List.getElem?_eq_getElem (by omega)]
    exact promised
  · rw [if_neg hit] at promised
    have kept := refines.visible address below b promised
    by_cases same : address / C.bytes = lba / clusterBlocks C B
    · rw [visible_put base data same, if_neg hit, shows address below same b kept]
    · rw [visible_put_other base data same]
      exact kept

/-- Filling a cluster of the image gives it the bytes that were visible there. -/
theorem Refines.materialise (backed : Backed C B dev files) (refines : Refines C dev files s) (cow : Cow) {cluster : Nat}
    (stop : (cluster + 1) * C.bytes ≤ files.image.size) (absent : s.live cluster = none) :
    ∃ status base, s.materialise C B dev cow cluster = some (status, base) ∧
      (cow.events = .fine → Stored C dev files → status = 0) ∧
      (status = 0 → ∀ address, address / C.bytes = cluster → ∀ b, s.visible C dev address = some b →
        base (address % C.bytes) = b) := by
  have live : lookup (s.live :: s.frozen) cluster = lookup s.frozen cluster := by
    rw [lookup_cons, absent, Option.none_or]
  unfold Store.materialise
  cases found : lookup s.frozen cluster with
  | some data =>
    refine ⟨0, data, rfl, fun _ _ => rfl, ?_⟩
    rintro _ address rfl b visible
    rw [visible_found (live.trans found)] at visible
    exact Option.some.inj visible
  | none =>
    have blocks := clusterBlocks_mul C B
    have whole : (cluster + 1) * clusterBlocks C B ≤ dev.blockcnt := by
      rw [backed.sized, Nat.le_div_iff_mul_le B.pos, Nat.mul_assoc, blocks]
      exact stop
    have inside : cluster * clusterBlocks C B % clusterBlocks C B + clusterBlocks C B ≤ clusterBlocks C B := by
      rw [Nat.mul_mod_left, Nat.zero_add]
    have stop' : (cluster * clusterBlocks C B + clusterBlocks C B) * B.bytes ≤ files.image.size := by
      rw [← Nat.succ_mul, Nat.mul_assoc, blocks]
      exact stop
    obtain ⟨status, data, served, calm, delivered⟩ := backed.serveRead cow.events (clusterBytes C cow.buffer)
      (clusterBlocks_pos C B) inside stop'
    simp only [isZeroes_inside backed.sized whole, Option.bind_some, Bool.false_eq_true, ↓reduceIte, refines.opened, served,
      Option.map_some]
    refine ⟨status, _, rfl, calm, ?_⟩
    rintro success address rfl b visible
    rw [visible_absent (live.trans found), refines.opened] at visible
    have offset : address % C.bytes < clusterBlocks C B * B.bytes := by
      rw [blocks]
      exact Nat.mod_lt _ C.pos
    have position : address / C.bytes * clusterBlocks C B * B.bytes + address % C.bytes = address := by
      rw [Nat.mul_assoc, blocks, Nat.mul_comm]
      exact Nat.div_add_mod _ _
    apply delivered success _ offset
    rw [position]
    exact visible

/-- A piece is written, or its cluster could not be filled and nothing has changed;
either way the promises are kept. -/
theorem Refines.writePiece (backed : Backed C B dev files) (refines : Refines C dev files s) (cow : Cow) {data : List UInt8}
    (length : data.length = n * B.bytes) (positive : 0 < n) (inside : lba % clusterBlocks C B + n ≤ clusterBlocks C B)
    (stop : (lba + n) * B.bytes ≤ files.image.size) :
    ∃ status s', s.writePiece C B dev cow lba data = some (status, s') ∧ Refines C dev files s' ∧
      (cow.events = .fine → Stored C dev files → status = 0) ∧
      s'.written = (if status = 0 then s.written ++ [(lba * B.bytes, data)] else s.written) := by
  obtain ⟨_, _, cluster⟩ := backed.cluster positive stop
  unfold Store.writePiece
  cases present : s.live (lba / clusterBlocks C B) with
  | some old =>
    refine ⟨0, _, rfl, refines.put length inside ?_, fun _ _ => rfl, rfl⟩
    intro address _ same b visible
    have found : lookup (s.live :: s.frozen) (address / C.bytes) = some old := by
      rw [lookup_cons, same, present, Option.some_or]
    rw [visible_found found] at visible
    exact Option.some.inj visible
  | none =>
    obtain ⟨status, base, filled, calm, shows⟩ := refines.materialise backed cow cluster present
    simp only [filled, Option.map_some]
    by_cases fine : status = 0
    · simp only [fine, ↓reduceIte]
      refine ⟨0, _, rfl, refines.put length inside ?_, fun _ _ => rfl, rfl⟩
      intro address _ same b visible
      exact shows fine address same b visible
    · simp only [fine, ↓reduceIte]
      exact ⟨status, s, rfl, refines, calm, (if_neg fine).symm⟩

/-- A whole request: the promises are kept, the log changes in the request's range at
most, and in all of it if the request succeeds. -/
theorem Refines.writePieces (backed : Backed C B dev files) (cow : Nat → Cow) {split : List (Nat × Nat)} {data : List UInt8}
    {count : Nat} (refines : Refines C dev files s) (length : data.length = count * B.bytes)
    (covers : Covers C B lba count split) (stop : (lba + count) * B.bytes ≤ files.image.size) :
    ∃ status s', Store.writePieces C B dev cow split data s = some (status, s') ∧ Refines C dev files s' ∧
      ((∀ piece, (cow piece).events = .fine) → Stored C dev files → status = 0) ∧
      (∀ address, address < lba * B.bytes ∨ (lba + count) * B.bytes ≤ address →
        lastWritten s'.written address = lastWritten s.written address) ∧
      (status = 0 → ∀ j, j < count * B.bytes → lastWritten s'.written (lba * B.bytes + j) = data[j]?) := by
  induction split generalizing lba count data s with
  | nil =>
    cases (covers : count = 0)
    refine ⟨0, s, rfl, refines, fun _ _ => rfl, fun _ _ => rfl, ?_⟩
    intro _ j below
    simp at below
  | cons piece rest ih =>
    obtain ⟨start, n⟩ := piece
    obtain ⟨rfl, positive, most, inside, later⟩ := covers
    obtain ⟨cut, first, second, stop'⟩ := cut_payload most length stop
    have whole : start + n + (count - n) = start + count := by omega
    obtain ⟨status, s₁, wrote, now, calm, log⟩ := refines.writePiece backed (cow start) first positive inside stop'
    obtain ⟨status', s₂, wrote', after, calm', outside, within⟩ := ih now second later (by rwa [whole])
    rw [whole] at outside
    have ends : (start + count) * B.bytes = start * B.bytes + count * B.bytes := Nat.add_mul _ _ _
    have middle : (start + n) * B.bytes = start * B.bytes + n * B.bytes := Nat.add_mul _ _ _
    refine ⟨if status = 0 then status' else status, s₂, ?_, after, ?_, ?_, ?_⟩
    · simp only [Store.writePieces, wrote, Option.bind_some, wrote', Option.map_some]
    · intro quiet stored
      rw [if_pos (calm (quiet start) stored)]
      exact calm' quiet stored
    · intro address apart
      rw [outside address (by omega), log]
      split
      · rw [lastWritten_range, if_neg (by rw [first]; omega)]
      · rfl
    · intro success j below
      obtain ⟨fine, success⟩ := both_succeed success
      rw [if_pos fine] at log
      by_cases early : j < n * B.bytes
      · rw [outside _ (by omega), log, lastWritten_range, if_pos (by rw [first]; omega), Nat.add_sub_cancel_left,
          List.getElem?_take_of_lt early]
      · have rest := within success (j - n * B.bytes) (by omega)
        rw [middle, Nat.add_assoc, Nat.add_sub_cancel' (by omega), List.getElem?_drop,
          Nat.add_sub_cancel' (by omega)] at rest
        exact rest

/-! ## Snapshots and whole runs -/

/-- Guest writes stay inside the image, and no snapshot is copied over the files below. -/
def WithinImage (C : ClusterSize) (B : BlockLength) (dev : BsDevUring) (files : OpenFiles) : StoreEvent → Prop
  | .guest (.write split data _) => ∃ lba count, data.length = count * B.bytes ∧ Covers C B lba count split ∧
      (lba + count) * B.bytes ≤ files.image.size
  | .guest _ => True
  | .copy event => event.Avoids dev.filename ∧ (dev.snapshotPath ≠ "" → event.Avoids dev.snapshotPath)

theorem Refines.copy {clusters : Nat} (refines : Refines C dev files s) {event : CopyEvent}
    (within : WithinImage C B dev files (.copy event))
    (stepped : storeStep C B dev clusters s (.copy event) = some s') : Refines C dev files s' := by
  obtain ⟨_, copies, copied, rfl⟩ := storeStep_copy stepped
  obtain ⟨image, sameImage⟩ := refines.image.step within.1 copied
  have opened : Store.openFiles dev { s.freeze event with copies := copies } = files := by
    rw [← refines.opened]
    unfold Store.openFiles
    rw [sameImage]
    by_cases path : dev.snapshotPath = ""
    · simp only [path, ↓reduceIte]
    · simp only [path, ↓reduceIte, ((refines.snapshot path).step (within.2 path) copied).2]
  refine ⟨opened, image, fun path => ((refines.snapshot path).step (within.2 path) copied).1, ?_⟩
  intro address below b promised
  rw [show Store.written { s.freeze event with copies := copies } = s.written from written_freeze event] at promised
  have kept := refines.visible address below b promised
  unfold Store.visible at kept ⊢
  rw [opened, show lookup (Store.live { s.freeze event with copies := copies } ::
    Store.frozen { s.freeze event with copies := copies }) = lookup (s.live :: s.frozen) from lookup_freeze event]
  rw [refines.opened] at kept
  exact kept

end

/-- What a bdev has open over an image and, if it has a path for it, a snapshot file. -/
def filesOf (files : String → Option RegularFile) (image : RegularFile) (snapshotPath : String) : OpenFiles :=
  ⟨image, if snapshotPath = "" then none else files snapshotPath⟩

theorem create_eq {files : String → Option RegularFile} {filename snapshotPath : String} {blocklen clusterSize : Nat}
    {directio : Bool} {transfer : Transfer} {dev : BsDevUring} {image : RegularFile} (present : files filename = some image)
    (created : bsDevUringCreate files filename snapshotPath blocklen clusterSize directio transfer = some dev) :
    ∃ map, dev = .build image.size map filename snapshotPath blocklen clusterSize directio := by
  simp only [bsDevUringCreate, present, Option.bind_some] at created
  obtain ⟨map, _, rfl⟩ := Option.map_eq_some_iff.mp created
  exact ⟨map, rfl⟩

/-- A new disk has no layers yet, and its bytes are the overlay's. -/
theorem refines_initial (C : ClusterSize) (B : BlockLength) {files : String → Option RegularFile} {image : RegularFile}
    {filename : String} (present : files filename = some image) (map : ClusterMap) (snapshotPath : String) (directio : Bool) :
    Refines C (.build image.size map filename snapshotPath B.bytes C.bytes directio) (filesOf files image snapshotPath)
      (.initial files) := by
  have opened : Store.openFiles (.build image.size map filename snapshotPath B.bytes C.bytes directio) (.initial files) =
      filesOf files image snapshotPath := by
    simp only [Store.openFiles, Store.initial, Copies.initial, BsDevUring.build, present, Option.getD_some, filesOf]
    rfl
  refine ⟨opened, avoids_initial files _, fun _ => avoids_initial files _, ?_⟩
  intro address _ b promised
  rw [← opened] at promised
  exact promised

/-- A disk with this one file, written to and then asked for a snapshot. -/
def onlyFile (name : String) (file : RegularFile) : String → Option RegularFile :=
  fun other => if other = name then some file else none

def pageDisk : BsDevUring := .build 4096 .zero "image" "" 4096 4096 false

def pagePayload : List UInt8 := List.replicate 4096 0

theorem length_pagePayload : pagePayload.length = 1 * BlockLength.page.bytes := by
  rw [pagePayload, List.length_replicate]
  decide

theorem covers_one (lba : Nat) : Covers .page .page lba 1 [(lba, 1)] :=
  ⟨rfl, by decide, le_rfl, by rw [clusterBlocks_page, Nat.mod_one], rfl⟩

/-- A block that no layer has is read from the overlay. -/
theorem page_read {dev : BsDevUring} (fits : dev.Fits .page .page) {s : Store}
    (absent : ∀ cluster, lookup (s.live :: s.frozen) cluster = none) (lba : Nat) :
    ubiSubmitRequest .page .page dev s (.read [(lba, 1)] pagePayload fun _ => .fine) =
      (serveRead dev (s.openFiles dev) .fine lba 1 pagePayload).map
        fun result => (ubiBlobIoComplete (if result.1 = 0 then 0 else result.1), result.2 ++ [], s) := by
  have taken : pagePayload.take (1 * BlockLength.page.bytes) = pagePayload :=
    List.take_of_length_le (le_of_eq length_pagePayload)
  have overlay := readPiece_overlay fits .fine (absent (lba / clusterBlocks .page .page)) length_pagePayload (by decide)
  simp only [ubiSubmitRequest, Store.readPieces, taken, overlay, Option.map_some]
  cases serveRead dev (s.openFiles dev) .fine lba 1 pagePayload <;> rfl

-- A table that maps cluster 0 to its own second entry, and the file that is only that table.
def innerMap : ClusterMap := fun i => if i.val = 0 then 8 else 1
def innerFile : RegularFile := RegularFile.empty.write 0 (tableBytes innerMap)

theorem innerMap_start : innerMap.start 0 = 8 := by
  simp only [ClusterMap.start, zero_lt_maxClusters, ↓reduceDIte, innerMap, ↓reduceIte]
  decide

theorem innerMap_mapped : innerMap.Mapped 0 := by
  rw [ClusterMap.mapped_iff_start, innerMap_start]
  decide

theorem innerFile_size : mapBytes ≤ innerFile.size := by
  have held := (write_table_holds .empty innerMap).1
  rwa [length_mapBytes, Nat.zero_add] at held

theorem innerFile_byte : innerFile.byte 8 = 1 := by
  have one : 1 < maxClusters := by
    rw [maxClusters_eq]
    norm_num
  have held := (write_table_holds .empty innerMap).2 8 (by rw [length_mapBytes, mapBytes_eq]; norm_num)
  rw [Nat.zero_add, getD_tableBytes innerMap (by omega)] at held
  have entry := tableByte_entry innerMap ⟨1, one⟩ (by decide : 0 < 8)
  simp only [innerMap, Nat.one_ne_zero, ↓reduceIte] at entry
  exact held.trans (entry.trans (by decide))

/-- A block of the image whose cluster lies behind the table cannot be read. -/
theorem read_past_table (map : ClusterMap) (snapshotPath : String) (files : String → Option RegularFile) :
    ubiSubmitRequest .page .page (.build imagePastTable.size map "disk" snapshotPath 4096 4096 false) (.initial files)
      (.read [(2 ^ 26 + 4, 1)] pagePayload fun _ => .fine) = none := by
  have fits := BsDevUring.build_fits imagePastTable.size map "disk" snapshotPath .page .page false
  have count : imagePastTable.size / 4096 = 2 ^ 26 + 5 := Nat.mul_div_cancel (2 ^ 26 + 5) (by decide)
  have before : 2 ^ 26 + 4 < imagePastTable.size / 4096 := by omega
  have outside : maxClusters ≤ (2 ^ 26 + 4) / clusterBlocks .page .page := by
    rw [maxClusters_eq, clusterBlocks_page, Nat.div_one]
    exact Nat.le_add_right _ _
  have counted : (2 ^ 26 + 4) / clusterBlocks .page .page < 2 ^ 32 := by
    rw [clusterBlocks_page]
    norm_num
  have refused := @serveRead_outside _ .page .page fits
    ((Store.initial files).openFiles (.build imagePastTable.size map "disk" snapshotPath 4096 4096 false)) .fine (2 ^ 26 + 4) 1
    pagePayload before outside counted
  have read := @page_read _ fits (Store.initial files) (fun _ => rfl) (2 ^ 26 + 4)
  exact read.trans (congrArg _ refused)

def innerDisk : BsDevUring := .build 4096 innerMap "image" "disk" 4096 4096 false

end BdevUbi.Disk
