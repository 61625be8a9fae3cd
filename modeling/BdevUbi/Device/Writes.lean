import BdevUbi.Device.Delta
import BdevUbi.Library.Transitions

/-! The life of one snapshot file under every outcome of its system calls.

The channel is created, written through and destroyed, and the table is loaded from
the file. Each write(2) and read(2) may fail or move less than it was asked to.
-/

set_option autoImplicit false

namespace BdevUbi.Device
open BdevUbi.Library RegularFile

/-! ## The table after a failed write -/

/-- write(2) gives a count that is not negative as an `int`. -/
def WriteSucceeds (dev : BsDevDelta) (ch : BsDevDeltaIoChannel) (file : RegularFile) (lbaCount : Nat)
    (payload : List UInt8) (calls : WriteCalls) : Prop :=
  ∃ file' n, file.sysWrite ch.position (payload.take (dev.blocklen * lbaCount % 2 ^ 32)) calls.transfer = some (file', n) ∧
    0 ≤ (n : Int).bmod (2 ^ 32)

/-- The call never reaches the table, or its write succeeds, or the table has the
position already. -/
def TableSafe (dev : BsDevDelta) (ch : BsDevDeltaIoChannel) (file : RegularFile) (lba lbaCount : Nat)
    (payload : List UInt8) (calls : WriteCalls) : Prop :=
  calls.seek = false ∨ lba % dev.clusterSize ≠ 0 ∨
  ∃ inside : lba / dev.clusterSize < maxClusters,
    WriteSucceeds dev ch file lbaCount payload calls ∨
    ch.clusterMap ⟨lba / dev.clusterSize, inside⟩ = UInt64.ofNat ch.position

/-- The call completes, and with an error only if the table is what it was. -/
def KeepsTable (dev : BsDevDelta) (ch : BsDevDeltaIoChannel) (file : RegularFile) (lba lbaCount : Nat)
    (payload : List UInt8) (calls : WriteCalls) : Prop :=
  ∃ status ch' file', bsDevDeltaWrite dev ch file lba lbaCount payload calls = some (status, ch', file') ∧
    (status ≠ 0 → ch'.clusterMap = ch.clusterMap)

section
variable {dev : BsDevDelta} {ch ch' : BsDevDeltaIoChannel} {file file' : RegularFile} {lba lbaCount : Nat}
  {payload : List UInt8} {calls : WriteCalls} {status : Int}

theorem eio_ne_zero : -eio ≠ 0 := by decide

theorem einval_ne_zero : -einval ≠ 0 := by decide

theorem bsDevDeltaWrite_seek (failed : calls.seek = false) :
    bsDevDeltaWrite dev ch file lba lbaCount payload calls = some (-eio, ch, file) := by
  simp only [bsDevDeltaWrite, failed, ↓reduceIte]

theorem bsDevDeltaWrite_misaligned (seek : calls.seek = true) (misaligned : lba % dev.clusterSize ≠ 0) :
    bsDevDeltaWrite dev ch file lba lbaCount payload calls = some (-einval, ch, file) := by
  simp only [bsDevDeltaWrite, seek, Bool.true_eq_false, ↓reduceIte, misaligned, ne_eq, not_false_eq_true]

/-- An aligned call whose cluster is not in the table assigns outside it. -/
theorem bsDevDeltaWrite_outside (seek : calls.seek = true) (aligned : lba % dev.clusterSize = 0)
    (outside : ¬ lba / dev.clusterSize < maxClusters) :
    bsDevDeltaWrite dev ch file lba lbaCount payload calls = none := by
  simp only [bsDevDeltaWrite, seek, Bool.true_eq_false, ↓reduceIte, aligned, ne_eq, not_true_eq_false,
    ClusterMap.set?, outside, ↓reduceDIte, Option.map_none]

theorem bsDevDeltaWrite_failed (seek : calls.seek = true) (aligned : lba % dev.clusterSize = 0)
    (inside : lba / dev.clusterSize < maxClusters)
    (failed : file.sysWrite ch.position (payload.take (dev.blocklen * lbaCount % 2 ^ 32)) calls.transfer = none) :
    bsDevDeltaWrite dev ch file lba lbaCount payload calls =
      some (-eio, { ch with
        clusterMap := Function.update ch.clusterMap ⟨lba / dev.clusterSize, inside⟩ (UInt64.ofNat ch.position) }, file) := by
  simp only [bsDevDeltaWrite, seek, Bool.true_eq_false, ↓reduceIte, aligned, ne_eq, not_true_eq_false,
    ClusterMap.set?_of_lt _ inside, Option.map_some, failed]

theorem bsDevDeltaWrite_moved (seek : calls.seek = true) (aligned : lba % dev.clusterSize = 0)
    (inside : lba / dev.clusterSize < maxClusters) {n : Nat}
    (moved : file.sysWrite ch.position (payload.take (dev.blocklen * lbaCount % 2 ^ 32)) calls.transfer = some (file', n)) :
    bsDevDeltaWrite dev ch file lba lbaCount payload calls =
      some (if (n : Int).bmod (2 ^ 32) < 0 then -eio else 0, { ch with
        clusterMap := Function.update ch.clusterMap ⟨lba / dev.clusterSize, inside⟩ (UInt64.ofNat ch.position)
        position := ch.position + n }, file') := by
  simp only [bsDevDeltaWrite, seek, Bool.true_eq_false, ↓reduceIte, aligned, ne_eq, not_true_eq_false,
    ClusterMap.set?_of_lt _ inside, Option.map_some, moved]

/-- An entry keeps its value through an assignment exactly if it is the assigned one. -/
theorem update_unchanged_iff {map : ClusterMap} {i : Fin maxClusters} {value : UInt64} :
    Function.update map i value = map ↔ map i = value := by
  rw [Function.update_eq_self_iff]
  exact eq_comm

theorem keepsTable_iff : KeepsTable dev ch file lba lbaCount payload calls ↔
    TableSafe dev ch file lba lbaCount payload calls := by
  unfold KeepsTable TableSafe
  cases seek : calls.seek with
  | false =>
    refine ⟨fun _ => Or.inl rfl, fun _ => ?_⟩
    exact ⟨-eio, ch, file, bsDevDeltaWrite_seek seek, fun _ => rfl⟩
  | true =>
    simp only [Bool.true_eq_false, false_or]
    by_cases aligned : lba % dev.clusterSize = 0
    · simp only [aligned, ne_eq, not_true_eq_false, false_or]
      by_cases inside : lba / dev.clusterSize < maxClusters
      · simp only [inside, exists_true_left]
        cases moved : file.sysWrite ch.position (payload.take (dev.blocklen * lbaCount % 2 ^ 32)) calls.transfer with
        | none =>
          simp only [bsDevDeltaWrite_failed seek aligned inside moved, WriteSucceeds, moved, reduceCtorEq, false_and,
            exists_false, false_or, Option.some.injEq, Prod.mk.injEq, ← update_unchanged_iff]
          constructor
          · rintro ⟨_, _, _, ⟨rfl, rfl, rfl⟩, kept⟩
            exact kept eio_ne_zero
          · intro same
            exact ⟨_, _, _, ⟨rfl, rfl, rfl⟩, fun _ => same⟩
        | some result =>
          obtain ⟨file', n⟩ := result
          simp only [bsDevDeltaWrite_moved seek aligned inside moved, WriteSucceeds, moved, Option.some.injEq, Prod.mk.injEq,
            ← update_unchanged_iff]
          constructor
          · rintro ⟨_, _, _, ⟨rfl, rfl, rfl⟩, kept⟩
            by_cases negative : (n : Int).bmod (2 ^ 32) < 0
            · rw [if_pos negative] at kept
              exact Or.inr (kept eio_ne_zero)
            · exact Or.inl ⟨file', n, ⟨rfl, rfl⟩, Int.not_lt.mp negative⟩
          · rintro (⟨_, _, ⟨rfl, rfl⟩, succeeded⟩ | same)
            · refine ⟨_, _, _, ⟨rfl, rfl, rfl⟩, fun refused => ?_⟩
              rw [if_neg (Int.not_lt.mpr succeeded)] at refused
              exact absurd rfl refused
            · exact ⟨_, _, _, ⟨rfl, rfl, rfl⟩, fun _ => same⟩
      · simp [inside, bsDevDeltaWrite_outside seek aligned inside]
    · simp only [aligned, ne_eq, not_false_eq_true, true_or, iff_true]
      exact ⟨-einval, ch, file, bsDevDeltaWrite_misaligned seek aligned, fun _ => rfl⟩

end

/-! ## The life of a file -/

/-- A write answered with 0: its cluster, the offset the table has for it, its blocks. -/
structure Acknowledged where
  cluster : Nat
  offset : Nat
  payload : List UInt8

inductive Phase where
  | unopened
  | opened (ch : BsDevDeltaIoChannel)
  -- with the channel as it was when its table was written
  | destroyed (ch : BsDevDeltaIoChannel)

structure SnapshotFile where
  stored : Option RegularFile
  phase : Phase
  acked : List Acknowledged
  -- the loads that returned 0: the file and the table it was loaded into
  loads : List (RegularFile × ClusterMap)

def SnapshotFile.initial (stored : Option RegularFile) : SnapshotFile := ⟨stored, .unopened, [], []⟩

inductive FileEvent where
  | createChannel (setup : SetupCalls)
  | write (lba lbaCount : Nat) (payload : List UInt8) (calls : WriteCalls)
  | destroyChannel (calls : WriteCalls)
  | load (transfer : Transfer)

def fileStep (dev : BsDevDelta) (s : SnapshotFile) : FileEvent → Option SnapshotFile
  | .createChannel setup =>
    match s.phase with
    | .unopened =>
      let result := bsDevDeltaCreateChannelCb dev s.stored setup
      some { s with stored := result.2, phase := (result.1.map Phase.opened).getD .unopened }
    | _ => none
  | .write lba lbaCount payload calls =>
    match s.phase, s.stored with
    | .opened ch, some file =>
      -- the buffer has as many blocks as the call says
      if payload.length = lbaCount * dev.blocklen then
        (bsDevDeltaWrite dev ch file lba lbaCount payload calls).map fun (status, ch', file') =>
          { s with
            stored := some file'
            phase := .opened ch'
            acked :=
              if status = 0 then
                s.acked ++ [⟨lba / dev.clusterSize, ch'.clusterMap.start (lba / dev.clusterSize), payload⟩]
              else s.acked }
      else none
    | _, _ => none
  | .destroyChannel calls =>
    match s.phase, s.stored with
    | .opened ch, some file =>
      some { s with stored := some (bsDevDeltaDestroyChannelCb dev ch file calls), phase := .destroyed ch }
    | _, _ => none
  | .load transfer =>
    match s.stored with
    | some file =>
      match ubiReadClusterMap (some file) transfer .zero with
      | some map => some { s with loads := s.loads ++ [(file, map)] }
      | none => some s
    | none => some s

/-- The channel's table, while there is a channel and as it was written out at the end. -/
def Phase.table : Phase → Option ClusterMap
  | .unopened => none
  | .opened ch => some ch.clusterMap
  | .destroyed ch => some ch.clusterMap

/-- Only clusters with an acknowledged write are in the table. -/
def SnapshotFile.OnlyAcknowledged (s : SnapshotFile) : Prop :=
  ∀ map, s.phase.table = some map → ∀ cluster, map.Mapped cluster → ∃ a ∈ s.acked, a.cluster = cluster

def TableSafeEvent (dev : BsDevDelta) (s : SnapshotFile) : FileEvent → Prop
  | .write lba lbaCount payload calls =>
    ∀ ch file, s.phase = .opened ch → s.stored = some file → TableSafe dev ch file lba lbaCount payload calls
  | _ => True

section
variable {dev : BsDevDelta} {s s' : SnapshotFile}

theorem fileStep_create {setup : SetupCalls} (stepped : fileStep dev s (.createChannel setup) = some s') :
    s.phase = .unopened ∧ s' = { s with
      stored := (bsDevDeltaCreateChannelCb dev s.stored setup).2
      phase := ((bsDevDeltaCreateChannelCb dev s.stored setup).1.map Phase.opened).getD .unopened } := by
  simp only [fileStep] at stepped
  split at stepped
  · rename_i unopened
    cases stepped
    exact ⟨unopened, rfl⟩
  · cases stepped

/-- A write happens on an open channel, and is counted if it was answered with 0. -/
theorem fileStep_write {lba lbaCount : Nat} {payload : List UInt8} {calls : WriteCalls}
    (stepped : fileStep dev s (.write lba lbaCount payload calls) = some s') :
    ∃ ch file status ch' file', s.phase = .opened ch ∧ s.stored = some file ∧
      payload.length = lbaCount * dev.blocklen ∧
      bsDevDeltaWrite dev ch file lba lbaCount payload calls = some (status, ch', file') ∧
      s' = { s with
        stored := some file'
        phase := .opened ch'
        acked :=
          if status = 0 then
            s.acked ++ [⟨lba / dev.clusterSize, ch'.clusterMap.start (lba / dev.clusterSize), payload⟩]
          else s.acked } := by
  simp only [fileStep] at stepped
  split at stepped
  · rename_i ch file opened stored
    split at stepped
    · rename_i length
      obtain ⟨⟨status, ch', file'⟩, written, rfl⟩ := Option.map_eq_some_iff.mp stepped
      exact ⟨ch, file, status, ch', file', opened, stored, length, written, rfl⟩
    · cases stepped
  · cases stepped

theorem fileStep_destroy {calls : WriteCalls} (stepped : fileStep dev s (.destroyChannel calls) = some s') :
    ∃ ch file, s.phase = .opened ch ∧ s.stored = some file ∧
      s' = { s with stored := some (bsDevDeltaDestroyChannelCb dev ch file calls), phase := .destroyed ch } := by
  simp only [fileStep] at stepped
  split at stepped
  · rename_i ch file opened stored
    cases stepped
    exact ⟨ch, file, opened, stored, rfl⟩
  · cases stepped

/-- A load changes nothing but the list of the loads that succeeded. -/
theorem fileStep_load {transfer : Transfer} (stepped : fileStep dev s (.load transfer) = some s') :
    s' = s ∨ ∃ file map, s.stored = some file ∧ ubiReadClusterMap (some file) transfer .zero = some map ∧
      s' = { s with loads := s.loads ++ [(file, map)] } := by
  simp only [fileStep] at stepped
  split at stepped
  · rename_i file stored
    split at stepped
    · rename_i map loaded
      cases stepped
      exact Or.inr ⟨file, map, stored, loaded, rfl⟩
    · cases stepped
      exact Or.inl rfl
  · cases stepped
    exact Or.inl rfl

/-- A new channel has an empty table if it is a writer's. -/
theorem createChannelCb_table {stored stored' : Option RegularFile} {setup : SetupCalls} {ch : BsDevDeltaIoChannel}
    (writer : dev.direction = .write) (created : bsDevDeltaCreateChannelCb dev stored setup = (some ch, stored')) :
    ch.clusterMap = .zero := by
  simp only [bsDevDeltaCreateChannelCb, writer] at created
  split at created
  · split at created
    · cases created
    · split at created
      · cases created
      · cases created
        rfl
  · cases created

/-- An answered write has put its cluster into the table, and nothing else. -/
theorem bsDevDeltaWrite_table {ch ch' : BsDevDeltaIoChannel} {file file' : RegularFile} {lba lbaCount : Nat}
    {payload : List UInt8} {calls : WriteCalls} {status : Int}
    (written : bsDevDeltaWrite dev ch file lba lbaCount payload calls = some (status, ch', file')) :
    ch'.clusterMap = ch.clusterMap ∨ ∃ inside : lba / dev.clusterSize < maxClusters,
      ch'.clusterMap = Function.update ch.clusterMap ⟨lba / dev.clusterSize, inside⟩ (UInt64.ofNat ch.position) := by
  by_cases aligned : lba % dev.clusterSize = 0
  · rcases bsDevDeltaWrite_cases aligned written with ⟨_, rfl⟩ | ⟨updated, _⟩
    · exact Or.inl rfl
    · exact Or.inr updated
  · left
    cases seek : calls.seek with
    | false =>
      rw [bsDevDeltaWrite_seek seek] at written
      cases written
      rfl
    | true =>
      rw [bsDevDeltaWrite_misaligned seek aligned] at written
      cases written
      rfl

theorem onlyAcknowledged_write {lba lbaCount : Nat} {payload : List UInt8} {calls : WriteCalls}
    (only : s.OnlyAcknowledged) (safe : TableSafeEvent dev s (.write lba lbaCount payload calls))
    (stepped : fileStep dev s (.write lba lbaCount payload calls) = some s') : s'.OnlyAcknowledged := by
  obtain ⟨ch, file, status, ch', file', opened, stored, _, written, rfl⟩ := fileStep_write stepped
  have before : ∀ cluster, ch.clusterMap.Mapped cluster → ∃ a ∈ s.acked, a.cluster = cluster :=
    only ch.clusterMap (by rw [opened]; rfl)
  rintro _ ⟨rfl⟩ cluster mapped
  by_cases acknowledged : status = 0
  · simp only [acknowledged, ↓reduceIte, List.mem_append, List.mem_singleton]
    by_cases same : lba / dev.clusterSize = cluster
    · exact ⟨_, Or.inr rfl, same⟩
    · have old : ch.clusterMap.Mapped cluster := by
        rcases bsDevDeltaWrite_table written with kept | ⟨inside, updated⟩
        · rwa [kept] at mapped
        · rw [ClusterMap.mapped_iff_start, updated, ClusterMap.start_update, if_neg (Ne.symm same)] at mapped
          exact (ClusterMap.mapped_iff_start _ _).mpr mapped
      obtain ⟨a, member, same⟩ := before cluster old
      exact ⟨a, Or.inl member, same⟩
  · -- a refused write has left the table alone
    obtain ⟨_, _, _, again, kept⟩ := keepsTable_iff.mpr (safe ch file opened stored)
    cases written.symm.trans again
    rw [kept acknowledged] at mapped
    simp only [acknowledged, ↓reduceIte]
    exact before cluster mapped

theorem onlyAcknowledged_step (writer : dev.direction = .write) (s : SnapshotFile) (event : FileEvent) (s' : SnapshotFile)
    (only : s.OnlyAcknowledged) (safe : TableSafeEvent dev s event) (stepped : fileStep dev s event = some s') :
    s'.OnlyAcknowledged := by
  cases event with
  | write lba lbaCount payload calls => exact onlyAcknowledged_write only safe stepped
  | createChannel setup =>
    obtain ⟨_, rfl⟩ := fileStep_create stepped
    intro map table cluster mapped
    cases created : bsDevDeltaCreateChannelCb dev s.stored setup with
    | mk channel stored =>
      cases channel with
      | none =>
        simp only [created, Option.map_none, Option.getD_none, Phase.table, reduceCtorEq] at table
      | some ch =>
        simp only [created, Option.map_some, Option.getD_some, Phase.table, Option.some.injEq,
          createChannelCb_table writer created] at table
        rw [← table] at mapped
        exact absurd mapped (ClusterMap.not_mapped_zero cluster)
  | destroyChannel calls =>
    obtain ⟨ch, file, opened, _, rfl⟩ := fileStep_destroy stepped
    intro map table
    exact only map (by rw [opened]; exact table)
  | load transfer =>
    rcases fileStep_load stepped with rfl | ⟨file, map, _, _, rfl⟩
    · exact only
    · exact only

end

/-- A refused write has left the table alone exactly if it did not reach it or had nothing
to change; if every call is of this kind, the table that is written at the end has only
acknowledged clusters. -/
theorem failed_write_keeps_table (sizes : DeltaSizes) (path : String) (blockcnt : Nat) :
    (∀ ch file lba lbaCount payload calls,
      KeepsTable (sizes.delta path blockcnt) ch file lba lbaCount payload calls ↔
        TableSafe (sizes.delta path blockcnt) ch file lba lbaCount payload calls) ∧
    ∀ stored events,
      Guarded (fileStep (sizes.delta path blockcnt)) (TableSafeEvent (sizes.delta path blockcnt)) (.initial stored) events →
      Always (fileStep (sizes.delta path blockcnt)) SnapshotFile.OnlyAcknowledged (.initial stored) events := by
  constructor
  · intro ch file lba lbaCount payload calls
    exact keepsTable_iff
  · intro stored events guarded
    refine always_of_guarded (onlyAcknowledged_step rfl) ?_ guarded
    intro map table
    cases table

def pageDelta : BsDevDelta := DeltaSizes.page.delta "snapshot" 1

def pageData : List UInt8 := List.replicate 4096 7

theorem pageDelta_payload : pageData.length = 1 * pageDelta.blocklen := List.length_replicate

/-- The file and the channel of a writer that found no file. -/
def freshFile : RegularFile := RegularFile.empty.write 0 (tableBytes ClusterMap.zero)

def freshChannel : BsDevDeltaIoChannel := ⟨mapBytes, .zero, false⟩

theorem fileStep_fresh {dev : BsDevDelta} (writer : dev.direction = .write) :
    fileStep dev (.initial none) (.createChannel .fine) = some ⟨some freshFile, .opened freshChannel, [], []⟩ := by
  simp only [fileStep, SnapshotFile.initial, createChannelCb_fine writer]
  rfl

theorem pageData_take : pageData.take (pageDelta.blocklen * 1 % 2 ^ 32) = pageData :=
  List.take_of_length_le (by rw [pageDelta_payload]; decide)

theorem freshFile_sysWrite :
    freshFile.sysWrite freshChannel.position pageData .full = some (freshFile.write mapBytes pageData, 4096) := by
  have nonempty : pageData ≠ [] := @payload_ne_nil .page pageData List.length_replicate
  have length : pageData.length = 4096 := List.length_replicate
  have fits : freshChannel.position + pageData.length ≤ offsetLimit := by
    rw [length, freshChannel, mapBytes_eq, offsetLimit]
    norm_num
  have moved := sysWrite_full freshFile nonempty fits
  rwa [length] at moved

theorem failed_write_keeps_table_page :
    Always (fileStep pageDelta) SnapshotFile.OnlyAcknowledged (.initial none)
      [.createChannel .fine, .write 0 1 pageData .fine] := by
  refine (failed_write_keeps_table .page "snapshot" 1).2 none _ ⟨trivial, fun s₁ created => ⟨?_, fun _ _ => trivial⟩⟩
  cases (@fileStep_fresh pageDelta rfl).symm.trans created
  rintro _ _ ⟨rfl⟩ ⟨rfl⟩
  refine Or.inr (Or.inr ⟨?_, Or.inl ⟨freshFile.write mapBytes pageData, 4096, ?_, by decide⟩⟩)
  · rw [Nat.zero_div]
    exact zero_lt_maxClusters
  · exact (congrArg (fun data => freshFile.sysWrite freshChannel.position data .full) pageData_take).trans freshFile_sysWrite

/-- write(2) fails on a fresh channel: the call is answered with -EIO, the table has the
cluster all the same. -/
theorem failed_write_changes_table :
    ¬ KeepsTable pageDelta freshChannel freshFile 0 1 pageData ⟨true, .failed⟩ ∧
    ¬ Always (fileStep pageDelta) SnapshotFile.OnlyAcknowledged (.initial none)
      [.createChannel .fine, .write 0 1 pageData ⟨true, .failed⟩, .destroyChannel .fine] := by
  have aligned : 0 % pageDelta.clusterSize = 0 := Nat.zero_mod _
  have first : 0 / pageDelta.clusterSize = 0 := Nat.zero_div _
  have inside : 0 / pageDelta.clusterSize < maxClusters := by
    rw [first]
    exact zero_lt_maxClusters
  have written := @bsDevDeltaWrite_failed pageDelta freshChannel freshFile 0 1 pageData ⟨true, .failed⟩ rfl aligned
    inside (sysWrite_failed _ _ _)
  have mapped : ClusterMap.Mapped (Function.update freshChannel.clusterMap ⟨0 / pageDelta.clusterSize, inside⟩
      (UInt64.ofNat mapBytes)) 0 := by
    rw [ClusterMap.mapped_iff_start, ClusterMap.start_update, if_pos first.symm, mapBytes_eq]
    decide
  constructor
  · rintro ⟨_, _, _, again, kept⟩
    cases written.symm.trans again
    have unchanged := kept eio_ne_zero
    simp only [freshChannel] at unchanged mapped
    rw [unchanged] at mapped
    exact ClusterMap.not_mapped_zero 0 mapped
  · intro always
    have opened := always.2 _ (fileStep_fresh rfl)
    have failed := opened.2 ⟨some freshFile, .opened { freshChannel with
      clusterMap := Function.update freshChannel.clusterMap ⟨0 / pageDelta.clusterSize, inside⟩ (UInt64.ofNat mapBytes) },
      [], []⟩ (by
        simp only [fileStep, pageDelta_payload, ↓reduceIte, written, Option.map_some, eio_ne_zero]
        rfl)
    obtain ⟨_, member, _⟩ := failed.1 _ rfl 0 mapped
    cases member

end BdevUbi.Device
