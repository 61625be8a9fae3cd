import BdevUbi.Device.Geometry
import BdevUbi.Library.RegularFile

/-! The snapshot-file writer, `spdk_bs_dev_delta.c`.

A channel owns a descriptor, whose position every transfer moves, and the table
that the channel's destruction writes to the front of the file. The outcome of
each system call is an argument, so that every call can fail or fall short.
The ring and the poller of the channel carry no data and are left out.
-/

set_option autoImplicit false

namespace BdevUbi.Device
open BdevUbi.Library RegularFile

inductive Direction where
  | read
  | write
  deriving DecidableEq, Repr

structure BsDevDelta where
  filename : String
  blockcnt : Nat
  blocklen : Nat
  -- in blocks, although the argument it comes from is in bytes
  clusterSize : Nat
  direction : Direction
  deriving DecidableEq, Repr

def bsDevDeltaCreate (filename : String) (blockcnt blocklen clusterSize : Nat) (direction : Direction) : BsDevDelta where
  filename := filename
  blockcnt := blockcnt
  blocklen := blocklen
  clusterSize := clusterSize / blocklen
  direction := direction

/-- A cluster size in bytes, a `uint32_t`, made of whole blocks. -/
structure DeltaSizes where
  blocklen : Nat
  clusterSize : Nat
  divides : blocklen ∣ clusterSize
  positive : 0 < clusterSize
  word : clusterSize < 2 ^ 32

namespace DeltaSizes

def delta (sizes : DeltaSizes) (filename : String) (blockcnt : Nat) : BsDevDelta :=
  bsDevDeltaCreate filename blockcnt sizes.blocklen sizes.clusterSize .write

/-- The number of blocks of a cluster. -/
def blocks (sizes : DeltaSizes) : Nat := sizes.clusterSize / sizes.blocklen

theorem blocks_mul (sizes : DeltaSizes) : sizes.blocks * sizes.blocklen = sizes.clusterSize :=
  Nat.div_mul_cancel sizes.divides

theorem blocks_pos (sizes : DeltaSizes) : 0 < sizes.blocks := by
  have positive := sizes.positive
  rw [← sizes.blocks_mul] at positive
  exact Nat.pos_of_mul_pos_right positive

theorem page_positive : 0 < 4096 := by decide

theorem page_word : 4096 < 2 ^ 32 := by decide

theorem page_divides : 4096 ∣ 4096 := dvd_rfl

theorem sectors_divide : 512 ∣ 4096 := ⟨8, rfl⟩

/-- Clusters of a page, in one block and in sectors. -/
def page : DeltaSizes := ⟨4096, 4096, page_divides, page_positive, page_word⟩
def sectors : DeltaSizes := ⟨512, 4096, sectors_divide, page_positive, page_word⟩

end DeltaSizes

structure BsDevDeltaIoChannel where
  position : Nat
  clusterMap : ClusterMap
  initialized : Bool

structure SetupCalls where
  opened : Bool
  transfer : Transfer
  queueInit : Int

structure WriteCalls where
  seek : Bool
  transfer : Transfer

def SetupCalls.fine : SetupCalls := ⟨true, .full, 0⟩
def WriteCalls.fine : WriteCalls := ⟨true, .full⟩

def ubiReadClusterMap (opened : Option RegularFile) (transfer : Transfer) (map : ClusterMap) : Option ClusterMap :=
  opened.bind fun file => (sysRead file 0 mapBytes transfer).map map.overwrite

/-- The new channel, unless a call failed, and the file under the name afterwards.
The writer opens with O_CREAT and without O_TRUNC: old contents stay behind. -/
def bsDevDeltaCreateChannelCb (dev : BsDevDelta) (stored : Option RegularFile) (calls : SetupCalls) :
    Option BsDevDeltaIoChannel × Option RegularFile :=
  match dev.direction with
  | .write =>
    if calls.opened then
      let file := stored.getD .empty
      match sysWrite file 0 (tableBytes ClusterMap.zero) calls.transfer with
      | none => (none, some file)
      | some (file', n) =>
        if calls.queueInit ≠ 0 then (none, some file')
        else (some ⟨n, .zero, false⟩, some file')
    else (none, stored)
  | .read =>
    match if calls.opened then stored else none with
    | none => (none, stored)
    | some file =>
      match sysRead file 0 mapBytes calls.transfer with
      | none => (none, stored)
      | some data =>
        if calls.queueInit ≠ 0 then (none, stored)
        else (some ⟨data.length, ClusterMap.zero.overwrite data, true⟩, stored)

/-- The status given to `cb_fn`, the channel and the file. No value stands for an
assignment outside the table. -/
def bsDevDeltaWrite (dev : BsDevDelta) (ch : BsDevDeltaIoChannel) (file : RegularFile) (lba lbaCount : Nat)
    (payload : List UInt8) (calls : WriteCalls) : Option (Int × BsDevDeltaIoChannel × RegularFile) :=
  let size := dev.blocklen * lbaCount % 2 ^ 32
  if calls.seek = false then some (-eio, ch, file)
  else if lba % dev.clusterSize ≠ 0 then some (-einval, ch, file)
  else
    -- the table is changed before the transfer, whatever becomes of that
    (ch.clusterMap.set? (lba / dev.clusterSize) (UInt64.ofNat ch.position)).map fun map =>
      match sysWrite file ch.position (payload.take size) calls.transfer with
      | none => (-eio, { ch with clusterMap := map }, file)
      | some (file', n) =>
        -- `int ret`: the count is narrowed to 32 bits before its sign is looked at
        (if (n : Int).bmod (2 ^ 32) < 0 then -eio else 0,
          { ch with clusterMap := map, position := ch.position + n }, file')

/-- Errors are only logged: a failed seek puts the table where the position stands. -/
def bsDevDeltaDestroyChannelCb (dev : BsDevDelta) (ch : BsDevDeltaIoChannel) (file : RegularFile)
    (calls : WriteCalls) : RegularFile :=
  match dev.direction with
  | .read => file
  | .write =>
    match sysWrite file (if calls.seek then 0 else ch.position) (tableBytes ch.clusterMap) calls.transfer with
    | none => file
    | some (file', _) => file'

/-- Every way an aligned write can end: the position could not be asked for, or the table
has the cluster's new offset and the position has moved by what was transferred. -/
theorem bsDevDeltaWrite_cases {dev : BsDevDelta} {ch ch' : BsDevDeltaIoChannel} {file file' : RegularFile}
    {lba lbaCount : Nat} {payload : List UInt8} {calls : WriteCalls} {status : Int}
    (aligned : lba % dev.clusterSize = 0)
    (written : bsDevDeltaWrite dev ch file lba lbaCount payload calls = some (status, ch', file')) :
    (status = -eio ∧ ch' = ch) ∨
    (∃ inside : lba / dev.clusterSize < maxClusters,
      ch'.clusterMap = Function.update ch.clusterMap ⟨lba / dev.clusterSize, inside⟩ (UInt64.ofNat ch.position)) ∧
      ch.position ≤ ch'.position ∧ (ch.position ≤ offsetLimit → ch'.position ≤ offsetLimit) := by
  unfold bsDevDeltaWrite at written
  simp only [aligned, ne_eq, not_true_eq_false, ↓reduceIte] at written
  split at written
  · cases written
    exact Or.inl ⟨rfl, rfl⟩
  · right
    by_cases inside : lba / dev.clusterSize < maxClusters
    · rw [ClusterMap.set?_of_lt _ inside, Option.map_some] at written
      split at written
      · cases written
        exact ⟨⟨inside, rfl⟩, le_rfl, id⟩
      · rename_i file'' n transferred
        obtain ⟨rfl, rfl, rfl⟩ : _ ∧ _ ∧ _ := by simpa only [Option.some.injEq, Prod.mk.injEq] using written
        have bounded := sysWrite_bounded transferred
        exact ⟨⟨inside, rfl⟩, Nat.le_add_right _ _, fun _ => bounded⟩
    · rw [ClusterMap.set?, dif_neg inside, Option.map_none] at written
      cases written

/-- A write that is answered with success and was not cut short had no failing call. -/
theorem bsDevDeltaWrite_fine {dev : BsDevDelta} {ch ch' : BsDevDeltaIoChannel} {file file' : RegularFile}
    {lba lbaCount : Nat} {payload : List UInt8} {calls : WriteCalls} (whole : ∀ n, calls.transfer ≠ .short n)
    (written : bsDevDeltaWrite dev ch file lba lbaCount payload calls = some (0, ch', file')) : calls = .fine := by
  have failed : -eio ≠ 0 := by decide
  have invalid : -einval ≠ 0 := by decide
  obtain ⟨seek, transfer⟩ := calls
  unfold bsDevDeltaWrite at written
  cases seek with
  | false => simp [failed] at written
  | true =>
    cases transfer with
    | full => rfl
    | short n => exact absurd rfl (whole n)
    | failed =>
      simp only [Bool.true_eq_false, ↓reduceIte, sysWrite_failed] at written
      split at written
      · simp [invalid] at written
      · obtain ⟨map, _, result⟩ := Option.map_eq_some_iff.mp written
        simp [failed] at result

/-! ## What has been written

Each write appends one cluster, so the table points at whole clusters behind the
table's own space; a cluster written twice keeps its older copy, unreferenced. -/

/-- The last payload of a cluster in a history of writes, oldest first. -/
def lastPayload (writes : List (Nat × List UInt8)) (cluster : Nat) : Option (List UInt8) :=
  writes.reverse.lookup cluster

structure Recorded (clusterSize : Nat) (ch : BsDevDeltaIoChannel) (file : RegularFile)
    (writes : List (Nat × List UInt8)) : Prop where
  position : ch.position = mapBytes + writes.length * clusterSize
  absent : ∀ cluster, lastPayload writes cluster = none → ch.clusterMap.start cluster = 0
  present : ∀ cluster data, lastPayload writes cluster = some data →
    data.length = clusterSize ∧ ∃ k, k < writes.length ∧
      ch.clusterMap.start cluster = mapBytes + k * clusterSize ∧ file.Holds (mapBytes + k * clusterSize) data

theorem length_mapBytes (map : ClusterMap) : (tableBytes map).length = mapBytes := length_tableBytes map

theorem mapBytes_fits : mapBytes ≤ offsetLimit := by
  rw [mapBytes_eq, offsetLimit]
  norm_num

theorem tableBytes_ne_nil (map : ClusterMap) : tableBytes map ≠ [] := by
  intro none
  have length := length_mapBytes map
  rw [none, List.length_nil, mapBytes_eq] at length
  exact absurd length (by norm_num)

/-- Writing the table at the front moves all of it. -/
theorem sysWrite_table (file : RegularFile) (map : ClusterMap) :
    file.sysWrite 0 (tableBytes map) .full = some (file.write 0 (tableBytes map), mapBytes) := by
  have fits : 0 + (tableBytes map).length ≤ offsetLimit := by
    rw [length_mapBytes, Nat.zero_add]
    exact mapBytes_fits
  rw [sysWrite_full file (tableBytes_ne_nil map) fits, length_mapBytes]

theorem lastPayload_snoc (writes : List (Nat × List UInt8)) (cluster other : Nat) (data : List UInt8) :
    lastPayload (writes ++ [(cluster, data)]) other =
      if other = cluster then some data else lastPayload writes other := by
  simp only [lastPayload, List.reverse_append, List.reverse_singleton, List.singleton_append, List.lookup_cons]
  by_cases same : other = cluster
  · simp [same]
  · simp [same, beq_false_of_ne same]

theorem ClusterMap.start_update (map : ClusterMap) {i : Nat} (inside : i < maxClusters) (value : UInt64) (j : Nat) :
    ClusterMap.start (Function.update map ⟨i, inside⟩ value) j = if j = i then value.toNat else map.start j := by
  unfold ClusterMap.start
  by_cases same : j = i
  · subst same
    simp [inside]
  · simp [same]

/-- A writer whose reserving write is not cut short starts right behind the table. -/
theorem createChannelCb_writer {dev : BsDevDelta} (writer : dev.direction = .write) {stored stored' : Option RegularFile}
    {setup : SetupCalls} {ch : BsDevDeltaIoChannel} (whole : ∀ n, setup.transfer ≠ .short n)
    (created : bsDevDeltaCreateChannelCb dev stored setup = (some ch, stored')) :
    ch = ⟨mapBytes, .zero, false⟩ ∧ stored' = some ((stored.getD .empty).write 0 (tableBytes ClusterMap.zero)) := by
  unfold bsDevDeltaCreateChannelCb at created
  rw [writer] at created
  cases opened : setup.opened with
  | false => simp only [opened, Bool.false_eq_true, ↓reduceIte, Prod.mk.injEq, reduceCtorEq, false_and] at created
  | true =>
    have full : ∀ transfer, setup.transfer = transfer → transfer ≠ .failed → transfer = .full := by
      intro transfer same succeeded
      cases transfer with
      | failed => exact absurd rfl succeeded
      | short limit => exact absurd same (whole limit)
      | full => rfl
    by_cases failed : setup.transfer = .failed
    · simp only [opened, ↓reduceIte, failed, sysWrite_failed, Prod.mk.injEq, reduceCtorEq, false_and] at created
    · simp only [opened, ↓reduceIte, full _ rfl failed, sysWrite_table, ne_eq, ite_not] at created
      split at created
      · cases created
        exact ⟨rfl, rfl⟩
      · cases created

/-- Opening the writer reserves the table's space, whatever the file held. -/
theorem createChannelCb_fine {dev : BsDevDelta} (writer : dev.direction = .write) (stored : Option RegularFile) :
    bsDevDeltaCreateChannelCb dev stored .fine =
      (some ⟨mapBytes, .zero, false⟩, some ((stored.getD .empty).write 0 (tableBytes ClusterMap.zero))) := by
  unfold bsDevDeltaCreateChannelCb SetupCalls.fine
  rw [writer]
  simp only [↓reduceIte, sysWrite_table, ne_eq, not_true_eq_false]

theorem destroyChannelCb_fine {dev : BsDevDelta} (writer : dev.direction = .write) (ch : BsDevDeltaIoChannel)
    (file : RegularFile) : bsDevDeltaDestroyChannelCb dev ch file .fine = file.write 0 (tableBytes ch.clusterMap) := by
  unfold bsDevDeltaDestroyChannelCb WriteCalls.fine
  rw [writer]
  simp only [↓reduceIte, sysWrite_table]

theorem destroyChannelCb_failed {dev : BsDevDelta} (writer : dev.direction = .write) (ch : BsDevDeltaIoChannel)
    (file : RegularFile) (seek : Bool) : bsDevDeltaDestroyChannelCb dev ch file ⟨seek, .failed⟩ = file := by
  unfold bsDevDeltaDestroyChannelCb
  rw [writer]
  simp only [sysWrite_failed]

theorem write_table_holds (file : RegularFile) (map : ClusterMap) :
    (file.write 0 (tableBytes map)).Holds 0 (tableBytes map) :=
  write_holds file (tableBytes_ne_nil _) (by rw [length_mapBytes, Nat.zero_add]; exact mapBytes_fits)

/-- A file that holds a table at its front loads as that table. -/
theorem readClusterMap_holds {file : RegularFile} {map : ClusterMap} (held : file.Holds 0 (tableBytes map)) :
    ubiReadClusterMap (some file) .full .zero = some map := by
  have length := length_mapBytes map
  have loaded := pread_holds held 0 mapBytes (by omega)
  rw [Nat.zero_add, List.drop_zero, List.take_of_length_le (by omega)] at loaded
  simp only [ubiReadClusterMap, Option.bind_some, sysRead, loaded, Option.map_some,
    ClusterMap.overwrite_tableBytes]

theorem recorded_fresh (clusterSize : Nat) (file : RegularFile) :
    Recorded clusterSize ⟨mapBytes, .zero, false⟩ file [] := by
  refine ⟨?_, ?_, ?_⟩
  · simp
  · intro cluster _
    simp [ClusterMap.start, ClusterMap.zero]
  · intro cluster data found
    simp [lastPayload] at found

section
variable {C : ClusterSize} {B : BlockLength} {dev : BsDevDelta} {ch : BsDevDeltaIoChannel} {file : RegularFile}

theorem payload_ne_nil {payload : List UInt8} (whole : payload.length = C.bytes) : payload ≠ [] := by
  intro none
  have positive := C.pos
  rw [none, List.length_nil] at whole
  omega

/-- One accepted whole-cluster write, as the source computes it. -/
theorem bsDevDeltaWrite_cluster (blocks : dev.blocklen = B.bytes) (size : dev.clusterSize = clusterBlocks C B)
    {cluster : Nat} (inside : cluster < maxClusters) {payload : List UInt8} (whole : payload.length = C.bytes)
    (fits : ch.position + C.bytes ≤ offsetLimit) :
    bsDevDeltaWrite dev ch file (cluster * clusterBlocks C B) (clusterBlocks C B) payload .fine =
      some (if (C.bytes : Int).bmod (2 ^ 32) < 0 then -eio else 0,
        { ch with
          clusterMap := Function.update ch.clusterMap ⟨cluster, inside⟩ (UInt64.ofNat ch.position)
          position := ch.position + C.bytes }, file.write ch.position payload) := by
  have amount : dev.blocklen * clusterBlocks C B % 2 ^ 32 = C.bytes := by
    rw [blocks, Nat.mul_comm, clusterBlocks_mul, Nat.mod_eq_of_lt C.word]
  have taken : payload.take C.bytes = payload := List.take_of_length_le (by omega)
  have aligned : cluster * clusterBlocks C B % dev.clusterSize = 0 := by rw [size, Nat.mul_mod_left]
  have index : cluster * clusterBlocks C B / dev.clusterSize = cluster := by
    rw [size, Nat.mul_div_cancel _ (clusterBlocks_pos C B)]
  have written : file.sysWrite ch.position payload .full = some (file.write ch.position payload, payload.length) :=
    sysWrite_full file (payload_ne_nil whole) (by rw [whole]; exact fits)
  simp only [bsDevDeltaWrite, WriteCalls.fine, amount, taken, aligned, index, ClusterMap.set?_of_lt _ inside,
    written, whole, Option.map_some, Bool.true_eq_false, ↓reduceIte, ne_eq, not_true_eq_false]

theorem Recorded.write (blocks : dev.blocklen = B.bytes) (size : dev.clusterSize = clusterBlocks C B)
    {writes : List (Nat × List UInt8)} (recorded : Recorded C.bytes ch file writes)
    {cluster : Nat} (inside : cluster < maxClusters) {payload : List UInt8} (whole : payload.length = C.bytes)
    (fits : mapBytes + (writes.length + 1) * C.bytes ≤ offsetLimit) :
    ∃ status ch' file',
      bsDevDeltaWrite dev ch file (cluster * clusterBlocks C B) (clusterBlocks C B) payload .fine =
        some (status, ch', file') ∧
      Recorded C.bytes ch' file' (writes ++ [(cluster, payload)]) := by
  have position := recorded.position
  have bound : ch.position + C.bytes ≤ offsetLimit := by
    rw [position, Nat.add_assoc, ← Nat.succ_mul]
    exact fits
  refine ⟨_, _, _, bsDevDeltaWrite_cluster blocks size inside whole bound, ?_, ?_, ?_⟩
  · simp only [position, List.length_append, List.length_singleton, Nat.succ_mul, Nat.add_assoc]
  · intro other none
    rw [lastPayload_snoc] at none
    split at none
    · cases none
    · rename_i different
      simp only [ClusterMap.start_update, different, ↓reduceIte]
      exact recorded.absent other none
  · intro other data found
    rw [lastPayload_snoc] at found
    split at found
    · rename_i same
      cases found
      have small : ch.position < 2 ^ 64 := by
        unfold offsetLimit at bound
        omega
      refine ⟨whole, writes.length, by simp, ?_, ?_⟩
      · simp only [ClusterMap.start_update, same, ↓reduceIte, UInt64.toNat_ofNat']
        rw [Nat.mod_eq_of_lt small, position]
      · rw [← position]
        exact write_holds file (payload_ne_nil whole) (by rw [whole]; exact bound)
    · rename_i different
      -- the older clusters lie before the position, so the append keeps them
      obtain ⟨length, k, below, start, held⟩ := recorded.present other data found
      refine ⟨length, k, by simp only [List.length_append, List.length_singleton]; omega, ?_, ?_⟩
      · simp only [ClusterMap.start_update, different, ↓reduceIte]
        exact start
      · apply held.write
        left
        rw [position, length, Nat.add_assoc, ← Nat.succ_mul]
        exact Nat.add_le_add_left (Nat.mul_le_mul_right _ below) _

/-- The file a destroyed writer leaves: the table loads back as it was, and the
clusters lie behind it untouched. -/
theorem Recorded.destroy (writer : dev.direction = .write) {writes : List (Nat × List UInt8)}
    (recorded : Recorded C.bytes ch file writes) :
    ubiReadClusterMap (some (bsDevDeltaDestroyChannelCb dev ch file .fine)) .full .zero = some ch.clusterMap ∧
    Recorded C.bytes ch (bsDevDeltaDestroyChannelCb dev ch file .fine) writes := by
  rw [destroyChannelCb_fine writer]
  refine ⟨readClusterMap_holds (write_table_holds file ch.clusterMap), recorded.position, recorded.absent, ?_⟩
  intro cluster data found
  obtain ⟨size, k, below, start, held⟩ := recorded.present cluster data found
  refine ⟨size, k, below, start, held.write (Or.inr ?_)⟩
  rw [length_mapBytes]
  omega

end

end BdevUbi.Device
