import BdevUbi.Device.Writes

/-! What a success of a snapshot file's calls stands for.

The source looks at the sign of a count and never at the count. Where every transfer
moves all it is asked for or fails, the clusters lie one behind the other between the
table and the position, and neither a later cluster nor the final table reaches them.
-/

set_option autoImplicit false

namespace BdevUbi.Device
open BdevUbi.Library RegularFile

/-- The call moves all that it is asked for, if it moves anything. -/
def NotShort (transfer : Transfer) (count : Nat) : Prop := ∀ limit, transfer = .short limit → count ≤ limit

/-- No call counts a transfer as done that was not: the reserving write, the cluster
writes, and the load. The size of a write is a 32-bit product in the source, and a
transfer stops at the end of the offset range. -/
def FullTransfers (dev : BsDevDelta) (s : SnapshotFile) : FileEvent → Prop
  | .createChannel setup => NotShort setup.transfer mapBytes
  | .write _ lbaCount _ calls =>
    NotShort calls.transfer (lbaCount * dev.blocklen) ∧ lbaCount * dev.blocklen < 2 ^ 32 ∧
      ∀ ch, s.phase = .opened ch → ch.position + lbaCount * dev.blocklen ≤ offsetLimit
  | .destroyChannel _ => True
  | .load transfer =>
    transfer = .failed ∨ NotShort transfer mapBytes ∧ ∀ file, s.stored = some file → mapBytes ≤ file.size

/-- What a success of each call stands for. -/
structure SnapshotFile.Transferred (s : SnapshotFile) : Prop where
  reserved : ∀ map, s.phase.table = some map → ∃ file, s.stored = some file ∧ mapBytes ≤ file.size
  offsets : ∀ map, s.phase.table = some map → ∀ cluster, map.Mapped cluster → mapBytes ≤ map.start cluster
  acked : ∀ a ∈ s.acked, mapBytes ≤ a.offset ∧ ∃ file, s.stored = some file ∧ file.Holds a.offset a.payload
  loads : ∀ load ∈ s.loads, load.1.Holds 0 (tableBytes load.2)

/-- The clusters lie one behind the other, between the table and the position. -/
structure Behind (ch : BsDevDeltaIoChannel) (file : RegularFile) (acked : List Acknowledged) : Prop where
  table : mapBytes ≤ ch.position
  position : ch.position ≤ file.size
  acked : ∀ a ∈ acked, mapBytes ≤ a.offset ∧ a.offset + a.payload.length ≤ ch.position ∧ file.Holds a.offset a.payload
  offsets : ∀ cluster, ch.clusterMap.Mapped cluster → mapBytes ≤ ch.clusterMap.start cluster

/-- What the steps keep: before the channel nothing is acknowledged, behind it nothing moves. -/
structure SnapshotFile.Sound (s : SnapshotFile) : Prop where
  unopened : s.phase = .unopened → s.acked = []
  opened : ∀ ch, s.phase = .opened ch → ∃ file, s.stored = some file ∧ Behind ch file s.acked
  destroyed : ∀ ch, s.phase = .destroyed ch → ∃ file, s.stored = some file ∧ mapBytes ≤ file.size ∧
    (∀ a ∈ s.acked, mapBytes ≤ a.offset ∧ file.Holds a.offset a.payload) ∧
    ∀ cluster, ch.clusterMap.Mapped cluster → mapBytes ≤ ch.clusterMap.start cluster
  loads : ∀ load ∈ s.loads, load.1.Holds 0 (tableBytes load.2)

theorem sysWrite_notShort (file : RegularFile) {pos : Nat} {data : List UInt8} {transfer : Transfer}
    (whole : NotShort transfer data.length) (fits : pos + data.length ≤ offsetLimit) :
    file.sysWrite pos data transfer = none ∨
      file.sysWrite pos data transfer = some (file.write pos data, data.length) := by
  unfold sysWrite
  split
  · exact Or.inl rfl
  · cases transfer with
    | failed => exact Or.inl rfl
    | full =>
      right
      rw [Nat.min_eq_left (by omega)]
    | short limit =>
      right
      have enough := whole limit rfl
      simp only
      rw [List.take_of_length_le enough, Nat.min_eq_right enough, Nat.min_eq_left (by omega)]

/-- A transfer stores the front of what it was given. -/
theorem sysWrite_part {file file' : RegularFile} {pos n : Nat} {data : List UInt8} {transfer : Transfer}
    (moved : file.sysWrite pos data transfer = some (file', n)) :
    ∃ part, part.length ≤ data.length ∧ file' = file.write pos part := by
  unfold sysWrite at moved
  split at moved
  · cases moved
  · cases transfer with
    | failed => cases moved
    | full =>
      cases moved
      exact ⟨data, le_rfl, rfl⟩
    | short limit =>
      cases moved
      exact ⟨data.take limit, List.length_take_le' _ _, rfl⟩

/-- Where there is a byte to store, a write reaches its end. -/
theorem write_size (file : RegularFile) {pos : Nat} {data : List UInt8} (inside : pos ≤ file.size)
    (fits : pos + data.length ≤ offsetLimit) : pos + data.length ≤ (file.write pos data).size := by
  by_cases empty : data = []
  · rw [empty, List.length_nil, Nat.add_zero]
    exact le_trans inside (write_size_le file pos [])
  · exact (write_holds file empty fits).1

section
variable {dev : BsDevDelta} {s s' : SnapshotFile}

/-- A writer that exists has reserved the table's space. -/
theorem createChannelCb_reserved (writer : dev.direction = .write) {stored stored' : Option RegularFile}
    {setup : SetupCalls} {ch : BsDevDeltaIoChannel} (whole : NotShort setup.transfer mapBytes)
    (created : bsDevDeltaCreateChannelCb dev stored setup = (some ch, stored')) :
    ∃ file, stored' = some file ∧ Behind ch file [] := by
  simp only [bsDevDeltaCreateChannelCb, writer] at created
  split at created
  · have fits : 0 + (tableBytes ClusterMap.zero).length ≤ offsetLimit := by
      rw [length_mapBytes, Nat.zero_add]
      exact mapBytes_fits
    rw [← length_mapBytes ClusterMap.zero] at whole
    rcases sysWrite_notShort (stored.getD .empty) whole fits with failed | moved
    · rw [failed] at created
      cases created
    · rw [moved, length_mapBytes] at created
      simp only at created
      split at created
      · cases created
      · cases created
        refine ⟨_, rfl, le_rfl, ?_, ?_, ?_⟩
        · have stored := (write_table_holds (stored.getD .empty) ClusterMap.zero).1
          rwa [length_mapBytes, Nat.zero_add] at stored
        · intro a member
          cases member
        · intro cluster mapped
          exact absurd mapped (ClusterMap.not_mapped_zero cluster)
  · cases created

/-- A cluster put at the position lies behind the table. -/
theorem Behind.update {ch : BsDevDeltaIoChannel} {file : RegularFile} {acked : List Acknowledged}
    (behind : Behind ch file acked) {i : Nat} (inside : i < maxClusters) :
    ∀ cluster, ClusterMap.Mapped (Function.update ch.clusterMap ⟨i, inside⟩ (UInt64.ofNat ch.position)) cluster →
      mapBytes ≤ ClusterMap.start (Function.update ch.clusterMap ⟨i, inside⟩ (UInt64.ofNat ch.position)) cluster := by
  intro cluster mapped
  rw [ClusterMap.mapped_iff_start] at mapped
  rw [ClusterMap.start_update] at mapped ⊢
  split
  · have stored := behind.position
    have bounded := file.bounded
    have limit : offsetLimit = 2 ^ 63 := by rw [offsetLimit]
    rw [UInt64.toNat_ofNat', Nat.mod_eq_of_lt (by omega)]
    exact behind.table
  · rename_i different
    rw [if_neg different] at mapped
    exact behind.offsets cluster ((ClusterMap.mapped_iff_start _ _).mpr mapped)

/-- One write that is not cut short, under any other outcome. -/
theorem Behind.write {ch ch' : BsDevDeltaIoChannel} {file file' : RegularFile} {acked : List Acknowledged}
    (behind : Behind ch file acked) {lba lbaCount : Nat} {payload : List UInt8} {calls : WriteCalls} {status : Int}
    (length : payload.length = lbaCount * dev.blocklen) (whole : NotShort calls.transfer (lbaCount * dev.blocklen))
    (word : lbaCount * dev.blocklen < 2 ^ 32) (fits : ch.position + lbaCount * dev.blocklen ≤ offsetLimit)
    (written : bsDevDeltaWrite dev ch file lba lbaCount payload calls = some (status, ch', file')) :
    Behind ch' file' (if status = 0 then
      acked ++ [⟨lba / dev.clusterSize, ch'.clusterMap.start (lba / dev.clusterSize), payload⟩] else acked) := by
  cases seek : calls.seek with
  | false =>
    rw [bsDevDeltaWrite_seek seek] at written
    cases written
    rwa [if_neg eio_ne_zero]
  | true =>
    by_cases aligned : lba % dev.clusterSize = 0
    · by_cases inside : lba / dev.clusterSize < maxClusters
      · have amount : payload.take (dev.blocklen * lbaCount % 2 ^ 32) = payload := by
          rw [Nat.mul_comm, Nat.mod_eq_of_lt word]
          exact List.take_of_length_le (le_of_eq length)
        rw [← length] at whole fits
        rcases sysWrite_notShort file whole fits with failed | moved
        · rw [bsDevDeltaWrite_failed seek aligned inside (by rw [amount]; exact failed)] at written
          cases written
          rw [if_neg eio_ne_zero]
          exact ⟨behind.table, behind.position, behind.acked, behind.update inside⟩
        · rw [bsDevDeltaWrite_moved seek aligned inside (by rw [amount]; exact moved)] at written
          obtain ⟨_, rfl, rfl⟩ : _ ∧ _ ∧ _ := by simpa only [Option.some.injEq, Prod.mk.injEq] using written
          have end' := write_size file behind.position fits
          have older : ∀ a ∈ acked, mapBytes ≤ a.offset ∧ a.offset + a.payload.length ≤ ch.position + payload.length ∧
              (file.write ch.position payload).Holds a.offset a.payload := by
            intro a member
            obtain ⟨start, before, held⟩ := behind.acked a member
            exact ⟨start, by omega, held.write (Or.inl before)⟩
          refine ⟨le_trans behind.table (Nat.le_add_right _ _), end', ?_, behind.update inside⟩
          intro a member
          split at member
          · rcases List.mem_append.mp member with old | new
            · exact older a old
            · -- the new cluster is where the position stood
              rw [List.mem_singleton.mp new]
              have bounded := (file.write ch.position payload).bounded
              have limit : offsetLimit = 2 ^ 63 := by rw [offsetLimit]
              have start : ClusterMap.start (Function.update ch.clusterMap ⟨lba / dev.clusterSize, inside⟩
                  (UInt64.ofNat ch.position)) (lba / dev.clusterSize) = ch.position := by
                rw [ClusterMap.start_update, if_pos rfl, UInt64.toNat_ofNat', Nat.mod_eq_of_lt (by omega)]
              simp only [start]
              refine ⟨behind.table, le_rfl, end', ?_⟩
              intro j below
              simp only [RegularFile.write]
              rw [if_pos (by omega), Nat.add_sub_cancel_left]
          · exact older a member
      · rw [bsDevDeltaWrite_outside seek aligned inside] at written
        cases written
    · rw [bsDevDeltaWrite_misaligned seek aligned] at written
      cases written
      rwa [if_neg einval_ne_zero]

/-- The final write of the table spares what lies between the table and the position. -/
theorem destroyChannelCb_holds (ch : BsDevDeltaIoChannel) (file : RegularFile) (calls : WriteCalls) {offset : Nat}
    {data : List UInt8} (start : mapBytes ≤ offset) (before : offset + data.length ≤ ch.position)
    (held : file.Holds offset data) : (bsDevDeltaDestroyChannelCb dev ch file calls).Holds offset data := by
  unfold bsDevDeltaDestroyChannelCb
  split
  · exact held
  · split
    · exact held
    · rename_i moved
      obtain ⟨part, shorter, rfl⟩ := sysWrite_part moved
      rw [length_mapBytes] at shorter
      apply held.write
      split <;> omega

theorem destroyChannelCb_size (ch : BsDevDeltaIoChannel) (file : RegularFile) (calls : WriteCalls) :
    file.size ≤ (bsDevDeltaDestroyChannelCb dev ch file calls).size := by
  unfold bsDevDeltaDestroyChannelCb
  split
  · exact le_rfl
  · split
    · exact le_rfl
    · rename_i moved
      obtain ⟨part, _, rfl⟩ := sysWrite_part moved
      exact write_size_le file _ part

/-- A load that is not cut short has all entries from the file. -/
theorem readClusterMap_whole {file : RegularFile} {transfer : Transfer} {map : ClusterMap}
    (whole : NotShort transfer mapBytes) (large : mapBytes ≤ file.size)
    (loaded : ubiReadClusterMap (some file) transfer .zero = some map) : file.Holds 0 (tableBytes map) := by
  have length : (file.pread 0 mapBytes).length = mapBytes := by
    rw [length_pread]
    omega
  have moved : ∀ data, file.sysRead 0 mapBytes transfer = some data → data = file.pread 0 mapBytes := by
    intro data read
    cases transfer with
    | failed => cases read
    | full =>
      cases read
      rfl
    | short limit =>
      cases read
      exact List.take_of_length_le (by rw [length]; exact whole limit rfl)
  obtain ⟨data, read, rfl⟩ := Option.map_eq_some_iff.mp loaded
  rw [moved data read]
  refine ⟨by rw [length_mapBytes, Nat.zero_add]; exact large, ?_⟩
  intro j below
  rw [length_mapBytes] at below
  rw [getD_tableBytes _ below, ClusterMap.tableByte_overwrite _ length below, getD_pread file below (by omega)]

end

theorem transferred_step {dev : BsDevDelta} (writer : dev.direction = .write) (s : SnapshotFile) (event : FileEvent)
    (s' : SnapshotFile) (sound : s.Sound) (full : FullTransfers dev s event) (stepped : fileStep dev s event = some s') :
    s'.Sound := by
  cases event with
  | createChannel setup =>
    obtain ⟨unopened, rfl⟩ := fileStep_create stepped
    cases created : bsDevDeltaCreateChannelCb dev s.stored setup with
    | mk channel stored =>
      have none := sound.unopened unopened
      cases channel with
      | none =>
        refine ⟨fun _ => none, ?_, ?_, sound.loads⟩
        · intro ch opened
          cases opened
        · intro ch destroyed
          cases destroyed
      | some ch =>
        refine ⟨?_, ?_, ?_, sound.loads⟩
        · intro still
          cases still
        · rintro _ ⟨rfl⟩
          simp only [none]
          exact createChannelCb_reserved writer full created
        · intro ch destroyed
          cases destroyed
  | write lba lbaCount payload calls =>
    obtain ⟨ch, file, status, ch', file', opened, stored, length, written, rfl⟩ := fileStep_write stepped
    obtain ⟨whole, word, fits⟩ := full
    obtain ⟨_, same, behind⟩ := sound.opened ch opened
    cases stored.symm.trans same
    refine ⟨?_, ?_, ?_, sound.loads⟩
    · intro still
      cases still
    · rintro _ ⟨rfl⟩
      exact ⟨file', rfl, behind.write length whole word (fits ch opened) written⟩
    · intro ch destroyed
      cases destroyed
  | destroyChannel calls =>
    obtain ⟨ch, file, opened, stored, rfl⟩ := fileStep_destroy stepped
    obtain ⟨_, same, behind⟩ := sound.opened ch opened
    cases stored.symm.trans same
    refine ⟨?_, ?_, ?_, sound.loads⟩
    · intro still
      cases still
    · intro ch opened
      cases opened
    · rintro _ ⟨rfl⟩
      refine ⟨_, rfl, ?_, ?_, behind.offsets⟩
      · exact le_trans (le_trans behind.table behind.position) (destroyChannelCb_size ch file calls)
      · intro a member
        obtain ⟨start, before, held⟩ := behind.acked a member
        exact ⟨start, destroyChannelCb_holds ch file calls start before held⟩
  | load transfer =>
    rcases fileStep_load stepped with rfl | ⟨file, map, stored, loaded, rfl⟩
    · exact sound
    · refine ⟨sound.unopened, sound.opened, sound.destroyed, ?_⟩
      intro load member
      rcases List.mem_append.mp member with old | new
      · exact sound.loads load old
      · rw [List.mem_singleton.mp new]
        rcases full with rfl | ⟨whole, large⟩
        · cases loaded
        · exact readClusterMap_whole whole (large file stored) loaded

theorem SnapshotFile.Sound.transferred {s : SnapshotFile} (sound : s.Sound) : s.Transferred := by
  cases phase : s.phase with
  | unopened =>
    refine ⟨?_, ?_, ?_, sound.loads⟩
    · intro map table
      rw [phase] at table
      cases table
    · intro map table
      rw [phase] at table
      cases table
    · intro a member
      rw [sound.unopened phase] at member
      cases member
  | opened ch =>
    obtain ⟨file, stored, behind⟩ := sound.opened ch phase
    refine ⟨?_, ?_, ?_, sound.loads⟩
    · intro map _
      exact ⟨file, stored, le_trans behind.table behind.position⟩
    · intro map table
      rw [phase] at table
      cases table
      exact behind.offsets
    · intro a member
      obtain ⟨start, _, held⟩ := behind.acked a member
      exact ⟨start, file, stored, held⟩
  | destroyed ch =>
    obtain ⟨file, stored, large, acked, offsets⟩ := sound.destroyed ch phase
    refine ⟨?_, ?_, ?_, sound.loads⟩
    · intro map _
      exact ⟨file, stored, large⟩
    · intro map table
      rw [phase] at table
      cases table
      exact offsets
    · intro a member
      obtain ⟨start, held⟩ := acked a member
      exact ⟨start, file, stored, held⟩

/-- In a life without short transfers every success means that all bytes were moved, and
that they stay where they are. -/
theorem success_means_transferred (sizes : DeltaSizes) (path : String) (blockcnt : Nat) (stored : Option RegularFile)
    (events : List FileEvent)
    (guarded : Guarded (fileStep (sizes.delta path blockcnt)) (FullTransfers (sizes.delta path blockcnt)) (.initial stored)
      events) :
    Always (fileStep (sizes.delta path blockcnt)) SnapshotFile.Transferred (.initial stored) events := by
  have start : (SnapshotFile.initial stored).Sound := by
    refine ⟨fun _ => rfl, ?_, ?_, ?_⟩
    · intro ch opened
      cases opened
    · intro ch destroyed
      cases destroyed
    · intro load member
      cases member
  exact (always_of_guarded (transferred_step rfl) start guarded).mono fun _ sound => sound.transferred

theorem freshFile_size : freshFile.size = mapBytes := by
  have room : ¬ (tableBytes ClusterMap.zero = [] ∨ offsetLimit ≤ 0) := by
    rintro (none | beyond)
    · exact tableBytes_ne_nil _ none
    · rw [offsetLimit] at beyond
      omega
  simp only [freshFile, RegularFile.write, room, ↓reduceIte, RegularFile.empty, length_mapBytes, Nat.zero_add,
    min_eq_left mapBytes_fits]
  exact Nat.zero_max _

theorem success_means_transferred_page :
    Always (fileStep pageDelta) SnapshotFile.Transferred (.initial none)
      [.createChannel .fine, .load .full, .write 0 1 pageData .fine, .destroyChannel .fine] := by
  have whole : ∀ count, NotShort .full count := fun count limit short => by cases short
  refine success_means_transferred .page "snapshot" 1 none _
    ⟨whole _, fun s₁ created => ⟨Or.inr ⟨whole _, ?_⟩, fun s₂ loaded => ⟨⟨whole _, by decide, ?_⟩,
      fun _ _ => ⟨trivial, fun _ _ => trivial⟩⟩⟩⟩
  · cases (@fileStep_fresh pageDelta rfl).symm.trans created
    rintro _ ⟨rfl⟩
    exact le_of_eq freshFile_size.symm
  · cases (@fileStep_fresh pageDelta rfl).symm.trans created
    have phase : s₂.phase = .opened freshChannel := by
      rcases fileStep_load loaded with rfl | ⟨_, _, _, _, rfl⟩
      · rfl
      · rfl
    intro ch opened
    cases phase.symm.trans opened
    simp only [freshChannel, DeltaSizes.delta, bsDevDeltaCreate, DeltaSizes.page]
    rw [mapBytes_eq, offsetLimit]
    norm_num

/-- A first cluster that is taken for written has the position as its offset. -/
theorem fileStep_first {ch : BsDevDeltaIoChannel} {file file' : RegularFile} {calls : WriteCalls} {n : Nat}
    (seek : calls.seek = true) (small : ch.position < 2 ^ 64)
    (moved : file.sysWrite ch.position pageData calls.transfer = some (file', n)) (fine : 0 ≤ (n : Int).bmod (2 ^ 32)) :
    ∃ ch', fileStep pageDelta ⟨some file, .opened ch, [], []⟩ (.write 0 1 pageData calls) =
      some ⟨some file', .opened ch', [⟨0, ch.position, pageData⟩], []⟩ := by
  have first : 0 / pageDelta.clusterSize = 0 := Nat.zero_div _
  have inside : 0 / pageDelta.clusterSize < maxClusters := by
    rw [first]
    exact zero_lt_maxClusters
  have written := @bsDevDeltaWrite_moved pageDelta ch file file' 0 1 pageData calls seek (Nat.zero_mod _) inside n
    (by rw [pageData_take]; exact moved)
  refine ⟨{ ch with
    clusterMap := Function.update ch.clusterMap ⟨0 / pageDelta.clusterSize, inside⟩ (UInt64.ofNat ch.position)
    position := ch.position + n }, ?_⟩
  simp only [fileStep, pageDelta_payload, ↓reduceIte, written, Option.map_some, if_neg (Int.not_lt.mpr fine),
    ClusterMap.start_update, List.nil_append, UInt64.toNat_ofNat', Nat.mod_eq_of_lt small, first]

/-- The reserving write stops after a page, a cluster write after a byte, and a load at
the end of an empty file; each is taken for a success. -/
theorem short_transfers_count_as_success :
    ¬ Always (fileStep pageDelta) SnapshotFile.Transferred (.initial none)
      [.createChannel ⟨true, .short 4096, 0⟩, .write 0 1 pageData .fine] ∧
    ¬ Always (fileStep pageDelta) SnapshotFile.Transferred (.initial none)
      [.createChannel .fine, .write 0 1 pageData ⟨true, .short 1⟩] ∧
    ¬ Always (fileStep pageDelta) SnapshotFile.Transferred (.initial (some .empty)) [.load .full] := by
  have length : pageData.length = 4096 := List.length_replicate
  have limit : offsetLimit = 2 ^ 63 := by rw [offsetLimit]
  have table := mapBytes_eq
  refine ⟨?_, ?_, ?_⟩
  · intro always
    have created : fileStep pageDelta (.initial none) (.createChannel ⟨true, .short 4096, 0⟩) =
        some ⟨some (RegularFile.empty.write 0 ((tableBytes ClusterMap.zero).take 4096)), .opened ⟨4096, .zero, false⟩,
          [], []⟩ := by
      have count : min (min 4096 mapBytes) (offsetLimit - 0) = 4096 := by omega
      have inside : ¬ offsetLimit ≤ 0 := by omega
      simp only [fileStep, SnapshotFile.initial, bsDevDeltaCreateChannelCb, pageDelta, DeltaSizes.delta, bsDevDeltaCreate, ↓reduceIte,
        sysWrite, inside, length_mapBytes, count, Option.getD_none, ne_eq, not_true_eq_false, Option.map_some,
        Option.getD_some]
    have moved := sysWrite_full (RegularFile.empty.write 0 ((tableBytes ClusterMap.zero).take 4096))
      (@payload_ne_nil .page pageData length) (show 4096 + pageData.length ≤ offsetLimit by omega)
    obtain ⟨ch, written⟩ := @fileStep_first ⟨4096, .zero, false⟩ _ _ .fine _ rfl (by norm_num) moved
      (by rw [length]; decide)
    have wrong := ((always.2 _ created).2 _ written).acked _ (List.mem_singleton.mpr rfl)
    simp only at wrong
    omega
  · intro always
    have moved : freshFile.sysWrite freshChannel.position pageData (.short 1) =
        some (freshFile.write mapBytes (pageData.take 1), 1) := by
      have inside : ¬ offsetLimit ≤ mapBytes := by omega
      have count : min (min 1 4096) (offsetLimit - mapBytes) = 1 := by omega
      simp only [sysWrite, freshChannel, inside, ↓reduceIte, length, count]
    obtain ⟨ch, written⟩ := @fileStep_first freshChannel freshFile _ ⟨true, .short 1⟩ _ rfl
      (by rw [freshChannel, mapBytes_eq]; norm_num) moved (by decide)
    obtain ⟨_, _, ⟨rfl⟩, stored, _⟩ :=
      ((always.2 _ (fileStep_fresh rfl)).2 _ written).acked _ (List.mem_singleton.mpr rfl)
    have size : (freshFile.write mapBytes (pageData.take 1)).size ≤ mapBytes + 1 := by
      simp only [RegularFile.write, freshFile_size, List.length_take, length]
      split <;> omega
    simp only [freshChannel, length] at stored
    omega
  · intro always
    have loaded : fileStep pageDelta (.initial (some .empty)) (.load .full) =
        some ⟨some .empty, .unopened, [], [(.empty, ClusterMap.zero.overwrite (RegularFile.empty.pread 0 mapBytes))]⟩ := rfl
    have wrong := (always.2 _ loaded).loads _ (List.mem_singleton.mpr rfl)
    have stored := wrong.1
    rw [length_mapBytes] at stored
    simp only [RegularFile.empty] at stored
    omega

end BdevUbi.Device
