import BdevUbi.Device.Uring
import BdevUbi.Device.Writes
import BdevUbi.Library.AppendLog

/-! Where the clusters of a snapshot file lie.

The offsets in the table come from the descriptor's position, which the reserving write of
the table and every accepted cluster move. So a cluster's entry is the place of its last
write among all accepted writes, behind the table's own space.
-/

set_option autoImplicit false

namespace BdevUbi.Device
open BdevUbi.Library RegularFile

/-- write(2) moves all that it is given, and the `int` that keeps its count can hold it. -/
def FullTransfer (dev : BsDevDelta) (ch : BsDevDeltaIoChannel) (file : RegularFile) (lbaCount : Nat) (payload : List UInt8)
    (calls : WriteCalls) : Prop :=
  lbaCount * dev.blocklen < 2 ^ 31 ∧
  ∃ file', file.sysWrite ch.position (payload.take (dev.blocklen * lbaCount % 2 ^ 32)) calls.transfer =
    some (file', lbaCount * dev.blocklen)

/-- The table's space is reserved in one transfer, and a write is misaligned or that of a
whole cluster with a full transfer. -/
def WholeClusterCalls (dev : BsDevDelta) (s : SnapshotFile) : FileEvent → Prop
  | .createChannel setup => ∀ n, setup.transfer ≠ .short n
  | .write lba lbaCount payload calls =>
    lba % dev.clusterSize ≠ 0 ∨
    lbaCount = dev.clusterSize ∧
      ∀ ch file, s.phase = .opened ch → s.stored = some file → FullTransfer dev ch file lbaCount payload calls
  | .destroyChannel _ => True
  | .load _ => True

/-- The table of a channel, from its position and the clusters of the accepted writes. -/
structure Layout (clusterSize : Nat) (map : ClusterMap) (position : Nat) (accepted : List Nat) : Prop where
  places : ∀ cluster, map.start cluster ≠ 0 →
    ∃ k, k < accepted.length ∧ map.start cluster = maxClusters * 8 + k * clusterSize
  different : ∀ first second, first ≠ second → map.start first ≠ 0 → map.start second ≠ 0 →
    map.start first ≠ map.start second
  disjoint : ∀ first second, first ≠ second → map.start first ≠ 0 → map.start second ≠ 0 →
    map.start first + clusterSize ≤ map.start second ∨ map.start second + clusterSize ≤ map.start first
  between : ∀ cluster, map.start cluster ≠ 0 →
    maxClusters * 8 ≤ map.start cluster ∧ map.start cluster + clusterSize ≤ position
  absent : ∀ cluster, cluster < maxClusters → (map.start cluster = 0 ↔ cluster ∉ accepted)
  aligned : 4096 ∣ clusterSize → ∀ cluster, 4096 ∣ map.start cluster

/-- Once the channel is destroyed and its table loaded, every read of the overlay starts at
a block of the file it goes to. -/
def ReadsAligned (clusterSize : Nat) (dev : BsDevDelta) (ch : BsDevDeltaIoChannel) (file : RegularFile) : Prop :=
  ∀ (B : BlockLength) (files : String → Option RegularFile) (imagePath path : String) (directio : Bool) (overlay : BsDevUring),
    files path = some (bsDevDeltaDestroyChannelCb dev ch file .fine) →
    bsDevUringCreate files imagePath path B.bytes clusterSize directio .full = some overlay →
    ∀ lba fd offset, setIoOpts overlay lba = some (fd, offset) → B.bytes ∣ offset

def SnapshotFile.accepted (s : SnapshotFile) : List Nat := s.acked.map Acknowledged.cluster

/-- The next call of such a sequence is answered: accepted if it is aligned, refused if not.
Only a cluster that the table has no entry for is left open. -/
def SnapshotFile.Answers (dev : BsDevDelta) (s : SnapshotFile) : Prop :=
  ∀ lba lbaCount payload calls, WholeClusterCalls dev s (.write lba lbaCount payload calls) → calls.seek = true →
    payload.length = lbaCount * dev.blocklen → lba / dev.clusterSize < maxClusters →
    ∃ s', fileStep dev s (.write lba lbaCount payload calls) = some s' ∧
      s'.accepted = if lba % dev.clusterSize = 0 then s.accepted ++ [lba / dev.clusterSize] else s.accepted

def SnapshotFile.LaidOut (dev : BsDevDelta) (clusterSize : Nat) (s : SnapshotFile) : Prop :=
  ∀ ch file, s.phase = .opened ch → s.stored = some file →
    Layout clusterSize ch.clusterMap ch.position s.accepted ∧ (4096 ∣ clusterSize → ReadsAligned clusterSize dev ch file) ∧
      s.Answers dev

/-! ## The last place of a cluster -/

/-- The table as the code keeps it: the offset of each cluster's last place. -/
structure Placed (clusterSize : Nat) (ch : BsDevDeltaIoChannel) (accepted : List Nat) : Prop where
  position : ch.position = mapBytes + accepted.length * clusterSize
  starts : ∀ cluster, ch.clusterMap.start cluster =
    ((lastPlace accepted cluster).map fun k => mapBytes + k * clusterSize).getD 0

theorem placed_fresh (clusterSize : Nat) : Placed clusterSize ⟨mapBytes, .zero, false⟩ [] := by
  constructor
  · simp
  · intro cluster
    simp [ClusterMap.start, ClusterMap.zero, lastPlace]

section
variable {clusterSize : Nat} {ch : BsDevDeltaIoChannel} {accepted : List Nat}

/-- One more cluster at the position. -/
theorem Placed.append (placed : Placed clusterSize ch accepted) {cluster : Nat} (inside : cluster < maxClusters)
    (small : ch.position < 2 ^ 64) :
    Placed clusterSize
      { ch with
        clusterMap := Function.update ch.clusterMap ⟨cluster, inside⟩ (UInt64.ofNat ch.position)
        position := ch.position + clusterSize } (accepted ++ [cluster]) := by
  have position := placed.position
  constructor
  · simp only [position, List.length_append, List.length_singleton, Nat.succ_mul, Nat.add_assoc]
  · intro other
    rw [ClusterMap.start_update, lastPlace_snoc]
    by_cases same : other = cluster
    · subst same
      simp only [↓reduceIte, Option.map_some, Option.getD_some, UInt64.toNat_ofNat']
      rw [Nat.mod_eq_of_lt small, position]
    · simp only [same, Ne.symm same, ↓reduceIte]
      exact placed.starts other

/-- A cluster in the table has a last place, and the table has its offset. -/
theorem Placed.place (placed : Placed clusterSize ch accepted) {cluster : Nat} (present : ch.clusterMap.start cluster ≠ 0) :
    ∃ k, lastPlace accepted cluster = some k ∧ ch.clusterMap.start cluster = mapBytes + k * clusterSize := by
  have start := placed.starts cluster
  cases found : lastPlace accepted cluster with
  | none =>
    rw [found] at start
    exact absurd start present
  | some k =>
    rw [found] at start
    exact ⟨k, rfl, start⟩

theorem Placed.absent_iff (placed : Placed clusterSize ch accepted) (cluster : Nat) :
    ch.clusterMap.start cluster = 0 ↔ cluster ∉ accepted := by
  rw [← lastPlace_eq_none_iff, placed.starts]
  cases lastPlace accepted cluster with
  | none => simp
  | some k => simp [mapBytes_eq]

theorem mapBytes_comm : maxClusters * 8 = mapBytes := Nat.mul_comm maxClusters 8

theorem Placed.layout (placed : Placed clusterSize ch accepted) (positive : 0 < clusterSize) :
    Layout clusterSize ch.clusterMap ch.position accepted := by
  have apart : ∀ first second, first ≠ second → ch.clusterMap.start first ≠ 0 → ch.clusterMap.start second ≠ 0 →
      ch.clusterMap.start first + clusterSize ≤ ch.clusterMap.start second ∨
        ch.clusterMap.start second + clusterSize ≤ ch.clusterMap.start first := by
    intro first second different left right
    obtain ⟨j, firstPlace, firstStart⟩ := placed.place left
    obtain ⟨k, secondPlace, secondStart⟩ := placed.place right
    rw [firstStart, secondStart]
    apply regions_apart
    rintro rfl
    exact different (lastPlace_inj firstPlace secondPlace)
  refine ⟨?_, ?_, apart, ?_, fun cluster _ => placed.absent_iff cluster, ?_⟩
  · intro cluster present
    obtain ⟨k, place, start⟩ := placed.place present
    exact ⟨k, lastPlace_lt place, by rw [mapBytes_comm]; exact start⟩
  · intro first second different left right same
    have := apart first second different left right
    omega
  · intro cluster present
    obtain ⟨k, place, start⟩ := placed.place present
    have room := Nat.mul_le_mul_right clusterSize (Nat.succ_le_of_lt (lastPlace_lt place))
    rw [Nat.succ_mul] at room
    rw [mapBytes_comm, start, placed.position]
    omega
  · intro whole cluster
    by_cases present : ch.clusterMap.start cluster = 0
    · rw [present]
      exact Nat.dvd_zero 4096
    · obtain ⟨k, _, start⟩ := placed.place present
      rw [start, mapBytes_eq]
      exact Nat.dvd_add (by norm_num) (Nat.dvd_mul_left_of_dvd whole k)

end

/-! ## The overlay's reads -/

/-- With entries at blocks every offset is at a block, whichever file it is in. -/
theorem setIoOpts_aligned {dev : BsDevUring} {B : BlockLength} (shift : dev.lbaToAddrShift = Nat.log2 B.bytes)
    (entries : ∀ cluster, B.bytes ∣ dev.clusterMap.start cluster) {lba offset : Nat} {fd : Fd}
    (opts : setIoOpts dev lba = some (fd, offset)) : B.bytes ∣ offset := by
  obtain ⟨b, small, block⟩ := B.exponent
  have word : B.bytes ∣ 2 ^ 64 := by
    rw [block]
    exact Nat.pow_dvd_pow 2 (by omega)
  have shifted (n : Nat) : B.bytes ∣ n <<< dev.lbaToAddrShift := by
    rw [shift, block, Nat.log2_two_pow, Nat.shiftLeft_eq]
    exact Nat.dvd_mul_left _ n
  simp only [setIoOpts] at opts
  obtain ⟨entry, found, chosen⟩ := Option.map_eq_some_iff.mp opts
  have start : B.bytes ∣ entry.toNat := by
    have here := entries ((lba >>> dev.lbaToClusterShift) % 2 ^ 32)
    unfold ClusterMap.get? at found
    split at found
    · rename_i inside
      cases found
      simpa only [ClusterMap.start, inside, ↓reduceDIte] using here
    · cases found
  split at chosen
  · cases chosen
    exact (Nat.dvd_mod_iff word).mpr (shifted lba)
  · cases chosen
    refine (Nat.dvd_mod_iff word).mpr (Nat.dvd_add start ?_)
    exact (Nat.dvd_mod_iff word).mpr (shifted _)

theorem Layout.readsAligned {clusterSize : Nat} {dev : BsDevDelta} {ch : BsDevDeltaIoChannel} {position : Nat}
    {accepted : List Nat} (writer : dev.direction = .write) (layout : Layout clusterSize ch.clusterMap position accepted)
    (whole : 4096 ∣ clusterSize) (file : RegularFile) : ReadsAligned clusterSize dev ch file := by
  intro B files imagePath path directio overlay left created lba fd offset opts
  obtain ⟨image, _, loaded⟩ := Option.bind_eq_some_iff.mp created
  obtain ⟨map, table, rfl⟩ := Option.map_eq_some_iff.mp loaded
  refine setIoOpts_aligned rfl ?_ opts
  intro cluster
  split at table
  · cases table
    simp [BsDevUring.build, ClusterMap.start, ClusterMap.zero]
  · rw [left, destroyChannelCb_fine writer, readClusterMap_holds (write_table_holds file ch.clusterMap)] at table
    cases table
    exact B.divides.trans (layout.aligned whole cluster)

/-! ## The steps of a file -/

structure SnapshotFile.Placed (clusterSize : Nat) (s : SnapshotFile) : Prop where
  unopened : s.phase = .unopened → s.acked = []
  opened : ∀ ch, s.phase = .opened ch → Device.Placed clusterSize ch s.accepted

section
variable {sizes : DeltaSizes} {filename : String} {blockcnt : Nat} {s s' : SnapshotFile}

/-- A whole cluster inside the table is accepted, at the position. -/
theorem bsDevDeltaWrite_accepted {dev : BsDevDelta} {ch : BsDevDeltaIoChannel} {file : RegularFile} {lba lbaCount : Nat}
    {payload : List UInt8} {calls : WriteCalls} (seek : calls.seek = true) (aligned : lba % dev.clusterSize = 0)
    (inside : lba / dev.clusterSize < maxClusters) (full : FullTransfer dev ch file lbaCount payload calls) :
    ∃ file', bsDevDeltaWrite dev ch file lba lbaCount payload calls =
      some (0, { ch with
        clusterMap := Function.update ch.clusterMap ⟨lba / dev.clusterSize, inside⟩ (UInt64.ofNat ch.position)
        position := ch.position + lbaCount * dev.blocklen }, file') := by
  obtain ⟨small, file', moved⟩ := full
  have counted : ¬ ((lbaCount * dev.blocklen : Nat) : Int).bmod (2 ^ 32) < 0 := by
    rw [Int.bmod_eq_of_le_mul_two (by omega) (by omega)]
    omega
  refine ⟨file', ?_⟩
  rw [bsDevDeltaWrite_moved seek aligned inside moved, if_neg counted]

/-- A call of such a sequence is refused and changes nothing, or its cluster is the
channel's last. -/
theorem wholeClusterCalls_write {dev : BsDevDelta} {ch ch' : BsDevDeltaIoChannel} {file file' : RegularFile} {lba lbaCount : Nat}
    {payload : List UInt8} {calls : WriteCalls} {status : Int}
    (whole : WholeClusterCalls dev s (.write lba lbaCount payload calls)) (opened : s.phase = .opened ch) (stored : s.stored = some file)
    (written : bsDevDeltaWrite dev ch file lba lbaCount payload calls = some (status, ch', file')) :
    (status ≠ 0 ∧ ch' = ch) ∨
    status = 0 ∧ ch.position < 2 ^ 64 ∧ ∃ inside : lba / dev.clusterSize < maxClusters, ch' = { ch with
      clusterMap := Function.update ch.clusterMap ⟨lba / dev.clusterSize, inside⟩ (UInt64.ofNat ch.position)
      position := ch.position + dev.clusterSize * dev.blocklen } := by
  cases seek : calls.seek with
  | false =>
    rw [bsDevDeltaWrite_seek seek] at written
    cases written
    exact Or.inl ⟨eio_ne_zero, rfl⟩
  | true =>
    rcases whole with misaligned | ⟨rfl, transferred⟩
    · rw [bsDevDeltaWrite_misaligned seek misaligned] at written
      cases written
      exact Or.inl ⟨einval_ne_zero, rfl⟩
    by_cases misaligned : lba % dev.clusterSize ≠ 0
    · rw [bsDevDeltaWrite_misaligned seek misaligned] at written
      cases written
      exact Or.inl ⟨einval_ne_zero, rfl⟩
    have aligned := not_not.mp misaligned
    have full := transferred ch file opened stored
    by_cases inside : lba / dev.clusterSize < maxClusters
    · obtain ⟨_, accepted⟩ := bsDevDeltaWrite_accepted seek aligned inside full
      cases accepted.symm.trans written
      obtain ⟨_, _, moved⟩ := full
      have bounded := sysWrite_bounded moved
      rw [offsetLimit] at bounded
      exact Or.inr ⟨rfl, by omega, inside, rfl⟩
    · rw [bsDevDeltaWrite_outside seek aligned inside] at written
      cases written

/-- A call on an open channel that the code answers is a step, and counts if it was accepted. -/
theorem fileStep_answered {dev : BsDevDelta} {ch ch' : BsDevDeltaIoChannel} {file file' : RegularFile} {lba lbaCount : Nat}
    {payload : List UInt8} {calls : WriteCalls} {status : Int} (opened : s.phase = .opened ch) (stored : s.stored = some file)
    (length : payload.length = lbaCount * dev.blocklen)
    (written : bsDevDeltaWrite dev ch file lba lbaCount payload calls = some (status, ch', file')) :
    ∃ s', fileStep dev s (.write lba lbaCount payload calls) = some s' ∧
      s'.accepted = if status = 0 then s.accepted ++ [lba / dev.clusterSize] else s.accepted := by
  simp only [fileStep, opened, stored, length, ↓reduceIte, written, Option.map_some]
  refine ⟨_, rfl, ?_⟩
  simp only [SnapshotFile.accepted]
  split
  · simp
  · rfl

theorem answers_opened {dev : BsDevDelta} {ch : BsDevDeltaIoChannel} {file : RegularFile} (opened : s.phase = .opened ch)
    (stored : s.stored = some file) : s.Answers dev := by
  intro lba lbaCount payload calls whole seek length inside
  by_cases aligned : lba % dev.clusterSize = 0
  · have full : FullTransfer dev ch file lbaCount payload calls := by
      rcases whole with misaligned | ⟨_, transferred⟩
      · exact absurd aligned misaligned
      · exact transferred ch file opened stored
    obtain ⟨file', written⟩ := bsDevDeltaWrite_accepted seek aligned inside full
    rw [if_pos aligned]
    exact fileStep_answered opened stored length written
  · have refused := fileStep_answered opened stored length (bsDevDeltaWrite_misaligned seek aligned)
    rw [if_neg einval_ne_zero] at refused
    rw [if_neg aligned]
    exact refused

theorem SnapshotFile.Placed.write (placed : s.Placed sizes.clusterSize) {lba lbaCount : Nat} {payload : List UInt8}
    {calls : WriteCalls} (whole : WholeClusterCalls (sizes.delta filename blockcnt) s (.write lba lbaCount payload calls))
    (stepped : fileStep (sizes.delta filename blockcnt) s (.write lba lbaCount payload calls) = some s') :
    s'.Placed sizes.clusterSize := by
  obtain ⟨ch, file, status, ch', file', opened, stored, _, written, rfl⟩ := fileStep_write stepped
  have before := placed.opened ch opened
  constructor
  · intro unopened
    cases unopened
  · rintro _ ⟨rfl⟩
    rcases wholeClusterCalls_write whole opened stored written with ⟨refused, rfl⟩ | ⟨rfl, small, inside, rfl⟩
    · simp only [SnapshotFile.accepted, refused, ↓reduceIte]
      exact before
    · have size : (sizes.delta filename blockcnt).clusterSize * (sizes.delta filename blockcnt).blocklen = sizes.clusterSize :=
        sizes.blocks_mul
      simp only [SnapshotFile.accepted, ↓reduceIte, List.map_append, List.map_cons, List.map_nil, size]
      exact before.append inside small

theorem placed_step (s : SnapshotFile) (event : FileEvent) (s' : SnapshotFile) (placed : s.Placed sizes.clusterSize)
    (whole : WholeClusterCalls (sizes.delta filename blockcnt) s event)
    (stepped : fileStep (sizes.delta filename blockcnt) s event = some s') : s'.Placed sizes.clusterSize := by
  cases event with
  | createChannel setup =>
    obtain ⟨unopened, rfl⟩ := fileStep_create stepped
    have none := placed.unopened unopened
    refine ⟨fun _ => none, ?_⟩
    intro ch opened
    cases created : bsDevDeltaCreateChannelCb (sizes.delta filename blockcnt) s.stored setup with
    | mk channel stored' =>
      rw [created] at opened
      cases channel with
      | none => cases opened
      | some fresh =>
        cases opened
        obtain ⟨rfl, _⟩ := createChannelCb_writer rfl whole created
        simp only [SnapshotFile.accepted, none, List.map_nil]
        exact placed_fresh sizes.clusterSize
  | write lba lbaCount payload calls => exact placed.write whole stepped
  | destroyChannel calls =>
    obtain ⟨ch, file, _, _, rfl⟩ := fileStep_destroy stepped
    refine ⟨fun unopened => ?_, fun ch opened => ?_⟩
    · cases unopened
    · cases opened
  | load transfer =>
    rcases fileStep_load stepped with rfl | ⟨file, map, _, _, rfl⟩
    · exact placed
    · exact ⟨placed.unopened, placed.opened⟩

end

/-- After any whole-cluster writes and misaligned ones, in any order and with any clusters
repeated, the table has the places of the clusters' last writes. -/
theorem delta_file_layout (sizes : DeltaSizes) (filename : String) (blockcnt : Nat) (stored : Option RegularFile)
    (events : List FileEvent)
    (whole : Guarded (fileStep (sizes.delta filename blockcnt)) (WholeClusterCalls (sizes.delta filename blockcnt))
      (.initial stored) events) :
    Always (fileStep (sizes.delta filename blockcnt))
      (SnapshotFile.LaidOut (sizes.delta filename blockcnt) sizes.clusterSize) (.initial stored) events := by
  have start : (SnapshotFile.initial stored).Placed sizes.clusterSize := by
    refine ⟨fun _ => rfl, fun ch opened => ?_⟩
    cases opened
  refine (always_of_guarded placed_step start whole).mono ?_
  intro s placed ch file opened stored
  have layout := (placed.opened ch opened).layout sizes.positive
  exact ⟨layout, fun pages => layout.readsAligned rfl pages file, answers_opened opened stored⟩

/-- One cluster is written, and a call in the middle of it refused. -/
theorem delta_file_layout_sectors :
    Always (fileStep (DeltaSizes.sectors.delta "snapshot" 16))
      (SnapshotFile.LaidOut (DeltaSizes.sectors.delta "snapshot" 16) DeltaSizes.sectors.clusterSize) (.initial none)
      [.createChannel .fine, .write 0 8 pageData .fine, .write 3 8 pageData .fine] := by
  have whole : ∀ n, SetupCalls.fine.transfer ≠ .short n := fun n same => by cases same
  refine delta_file_layout .sectors "snapshot" 16 none _
    ⟨whole, fun s₁ created => ⟨Or.inr ⟨rfl, ?_⟩, fun _ _ => ⟨Or.inl (by decide), fun _ _ => trivial⟩⟩⟩
  cases (@fileStep_fresh (DeltaSizes.sectors.delta "snapshot" 16) rfl).symm.trans created
  rintro _ _ ⟨rfl⟩ ⟨rfl⟩
  have length : pageData.length = 4096 := List.length_replicate
  refine ⟨by decide, freshFile.write mapBytes pageData, ?_⟩
  have taken : pageData.take ((DeltaSizes.sectors.delta "snapshot" 16).blocklen * 8 % 2 ^ 32) = pageData :=
    List.take_of_length_le (by rw [length]; decide)
  exact (congrArg (fun data => freshFile.sysWrite freshChannel.position data .full) taken).trans freshFile_sysWrite

end BdevUbi.Device
