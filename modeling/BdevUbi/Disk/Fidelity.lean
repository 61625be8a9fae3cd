import BdevUbi.Disk.Progress
import BdevUbi.Disk.Refinement

/-! What a disk restored from a snapshot's file shows.

The copy passes on the clusters of the frozen layer and of no other, so the file stands
for that layer over the image. It stands for the whole disk where the clusters that the
layer lacks are the image's own.
-/

set_option autoImplicit false

namespace BdevUbi.Disk
open BdevUbi.Library BdevUbi.Device BdevUbi.Snapshot RegularFile

/-! ## One request along a run -/

/-- No callback leads back to the first call. -/
theorem callback_late {bdev : UbiBdev} {status : SnapshotStatus} {ctx ctx' : SnapshotContext} {outcome : Outcome}
    {op : BlobOp} : (op.callback bdev status ctx outcome).stage ≠ .waiting .createSnapshot ctx' := by
  have reaction := callback_reaction bdev status ctx outcome op
  generalize op.callback bdev status ctx outcome = effect at reaction ⊢
  intro waiting
  cases reaction with
  | failed | kept | created | cloned | writable | readOnly | closed | refused | started | ended => cases waiting

section
variable {bdev : UbiBdev} {s s' : Copies} {id : Nat} {event : CopyEvent}

theorem callback_stage {outcome : Outcome} {setup : SetupCalls}
    (stepped : copyStep bdev s (.callback id outcome setup) = some s') (ctx : SnapshotContext) :
    s'.requests.stage id ≠ .waiting .createSnapshot ctx := by
  obtain ⟨op, ctx', _, _, called⟩ := copyStep_callback stepped
  intro back
  rcases called with ⟨outcome', files, _, _, _, rfl⟩ | ⟨rfl, _, _, channel, stored, _, rfl⟩
  · simp only [Requests.apply, Function.update_self] at back
    exact callback_late back
  · simp only [Requests.apply, Function.update_self] at back
    exact callback_late back

/-- A request keeps its path, and its stage changes only with its own callbacks, which do
not lead back to the first call. -/
theorem stage_step (used : id < s.requests.issued) (stepped : copyStep bdev s event = some s') :
    id < s'.requests.issued ∧ s'.path id = s.path id ∧
      (s'.requests.stage id = s.requests.stage id ∨
        (∃ op ctx, s.requests.stage id = .waiting op ctx) ∧ ∀ ctx, s'.requests.stage id ≠ .waiting .createSnapshot ctx) := by
  cases event with
  | snapshot found path =>
    cases copyStep_snapshot stepped
    have different : id ≠ s.requests.issued := Nat.ne_of_lt used
    exact ⟨Nat.lt_succ_of_lt used, Function.update_of_ne different _ _, Or.inl (apply_others _ id different).1⟩
  | callback other outcome setup =>
    obtain ⟨op, ctx, waiting, _, called⟩ := copyStep_callback stepped
    by_cases same : id = other
    · subst same
      have late := callback_stage stepped
      rcases called with ⟨outcome', files, _, _, _, rfl⟩ | ⟨rfl, _, _, channel, stored, _, rfl⟩
      all_goals exact ⟨used, rfl, Or.inr ⟨⟨_, ctx, waiting⟩, late⟩⟩
    · rcases called with ⟨outcome', files, _, _, _, rfl⟩ | ⟨rfl, _, _, channel, stored, _, rfl⟩
      all_goals exact ⟨used, rfl, Or.inl (apply_others _ id same).1⟩
  | copyCluster other cluster payload calls =>
    obtain ⟨ctx, copy, file, status, channel, file', _, _, _, _, _, rfl⟩ := copyStep_copyCluster stepped
    exact ⟨used, rfl, Or.inl rfl⟩
  | copied other copiedClusters =>
    obtain ⟨_, rfl⟩ := copyStep_copied stepped
    exact ⟨used, rfl, Or.inl rfl⟩
  | copyEnd other rc =>
    obtain ⟨ctx, copy, waiting, _, _, rfl⟩ := copyStep_copyEnd stepped
    refine ⟨used, rfl, ?_⟩
    by_cases same : id = other
    · subst same
      refine Or.inr ⟨⟨_, ctx, waiting⟩, fun ctx' back => ?_⟩
      simp only [Requests.apply, Function.update_self] at back
      cases back
    · exact Or.inl (apply_others _ id same).1
  | message calls =>
    obtain ⟨dev, channel, rest, file, _, _, rfl⟩ := copyStep_message stepped
    exact ⟨used, rfl, Or.inl rfl⟩

/-- Nothing happens any more to a copy whose request is over. -/
theorem copy_step (cleaned : s.requests.stage id = .cleaned) (stepped : copyStep bdev s event = some s') :
    s'.copy id = s.copy id := by
  have apart : ∀ other op ctx, s.requests.stage other = .waiting op ctx → id ≠ other := by
    rintro other op ctx waiting rfl
    rw [cleaned] at waiting
    cases waiting
  cases event with
  | snapshot found path =>
    cases copyStep_snapshot stepped
    rfl
  | callback other outcome setup =>
    obtain ⟨op, ctx, waiting, _, called⟩ := copyStep_callback stepped
    rcases called with ⟨outcome', files, _, _, _, rfl⟩ | ⟨rfl, _, _, channel, stored, _, rfl⟩
    · rfl
    · exact Function.update_of_ne (apart other _ ctx waiting) _ _
  | copyCluster other cluster payload calls =>
    obtain ⟨ctx, copy, file, status, channel, file', waiting, _, _, _, _, rfl⟩ := copyStep_copyCluster stepped
    exact Function.update_of_ne (apart other _ ctx waiting) _ _
  | copied other copiedClusters =>
    obtain ⟨_, rfl⟩ := copyStep_copied stepped
    rfl
  | copyEnd other rc =>
    obtain ⟨ctx, copy, _, _, _, rfl⟩ := copyStep_copyEnd stepped
    rfl
  | message calls =>
    obtain ⟨dev, channel, rest, file, _, _, rfl⟩ := copyStep_message stepped
    rfl

end

/-- A request after its layer was frozen. -/
structure Follows (id : Nat) (path : String) (layer : Layer) (s : Store) : Prop where
  used : id < s.copies.requests.issued
  path : s.copies.path id = path
  source : s.source id = layer
  late : ∀ ctx, s.copies.requests.stage id ≠ .waiting .createSnapshot ctx

/-- A request after its copy has ended. -/
structure Ended (id : Nat) (copy : Copy) (s : Store) : Prop where
  used : id < s.copies.requests.issued
  cleaned : s.copies.requests.stage id = .cleaned
  current : s.copies.copy id = some copy

section
variable {C : ClusterSize} {B : BlockLength} {dev : BsDevUring} {clusters id : Nat}

theorem follows_step {path : String} {layer : Layer} (s : Store) (event : StoreEvent) (s' : Store)
    (follows : Follows id path layer s) (stepped : storeStep C B dev clusters s event = some s') :
    Follows id path layer s' := by
  cases event with
  | guest io =>
    obtain ⟨copies, source⟩ := storeStep_guest stepped
    refine ⟨?_, ?_, ?_, ?_⟩
    · rw [copies]
      exact follows.used
    · rw [copies]
      exact follows.path
    · rw [source]
      exact follows.source
    · rw [copies]
      exact follows.late
  | copy event =>
    obtain ⟨_, copies, copied, rfl⟩ := storeStep_copy stepped
    obtain ⟨used, path, stage⟩ := stage_step follows.used copied
    refine ⟨used, path.trans follows.path, ?_, ?_⟩
    · have kept : (s.freeze event).source id = s.source id := by
        cases event with
        | callback other outcome setup =>
          apply source_freeze
          by_cases same : id = other
          · exact Or.inr (same ▸ follows.late)
          · exact Or.inl same
        | _ => rfl
      exact kept.trans follows.source
    · rcases stage with same | ⟨_, late⟩
      · intro ctx
        rw [same]
        exact follows.late ctx
      · exact late

theorem ended_step {copy : Copy} (s : Store) (event : StoreEvent) (s' : Store) (ended : Ended id copy s)
    (stepped : storeStep C B dev clusters s event = some s') : Ended id copy s' := by
  cases event with
  | guest io =>
    obtain ⟨copies, _⟩ := storeStep_guest stepped
    refine ⟨?_, ?_, ?_⟩
    · rw [copies]
      exact ended.used
    · rw [copies]
      exact ended.cleaned
    · rw [copies]
      exact ended.current
  | copy event =>
    obtain ⟨_, copies, copied, rfl⟩ := storeStep_copy stepped
    obtain ⟨used, _, stage⟩ := stage_step ended.used copied
    refine ⟨used, ?_, (copy_step ended.cleaned copied).trans ended.current⟩
    rcases stage with same | ⟨⟨op, ctx, waiting⟩, _⟩
    · exact same.trans ended.cleaned
    · rw [ended.cleaned] at waiting
      cases waiting

end

/-! ## The restored disk -/

/-- The byte that the live layer alone, over the image, stands for. -/
def Store.savedByte (C : ClusterSize) (s : Store) (image : RegularFile) (address : Nat) : UInt8 :=
  match s.live (address / C.bytes) with
  | some data => data (address % C.bytes)
  | none => image.byte address

/-- If the live layer lacks the cluster, no older layer and no snapshot file has it. -/
def Store.SelfContained (dev : BsDevUring) (s : Store) (cluster : Nat) : Prop :=
  s.live cluster = none → lookup s.frozen cluster = none ∧ ¬ dev.clusterMap.Mapped cluster

/-- A new disk over the image and the file: reads below the limit succeed, and their bytes
are as expected. -/
def Restores (C : ClusterSize) (B : BlockLength) (files : String → Option RegularFile) (filename path : String)
    (directio : Bool) (limit : Nat) (expected : Nat → UInt8 → Prop) : Prop :=
  ∃ dev, bsDevUringCreate files filename path B.bytes C.bytes directio .full = some dev ∧
    ∀ lba count split payload, payload.length = count * B.bytes → Covers C B lba count split →
      (lba + count) * B.bytes ≤ limit →
      ∃ data, ubiSubmitRequest C B dev (.initial files) (.read split payload fun _ => .fine) =
          some (.success, data, .initial files) ∧
        ∀ j, j < count * B.bytes → expected (lba * B.bytes + j) (data.getD j 0)

/-- The file records the clusters of a layer and has the table at its front. -/
def Saved (C : ClusterSize) (clusters : Nat) (layer : Layer) (file : RegularFile) : Prop :=
  ∃ ch copied, file.Holds 0 (tableBytes ch.clusterMap) ∧ Recorded C.bytes ch file (passed C layer copied) ∧
    ∀ cluster, cluster < clusters → (cluster ∈ copied ↔ (layer cluster).isSome = true)

section
variable {C : ClusterSize} {B : BlockLength} {files : String → Option RegularFile} {filename path : String}
  {image file : RegularFile} {lba n clusters : Nat} {layer : Layer}

theorem savedByte_visible {s : Store} {dev : BsDevUring} (opened : (s.openFiles dev).image = image) {address : Nat}
    (contained : s.SelfContained dev (address / C.bytes)) :
    s.visible C dev address = some (s.savedByte C image address) := by
  cases live : s.live (address / C.bytes) with
  | some data =>
    have found : lookup (s.live :: s.frozen) (address / C.bytes) = some data := by
      rw [lookup_cons, live, Option.some_or]
    rw [visible_found found]
    simp only [Store.savedByte, live]
  | none =>
    obtain ⟨older, unmapped⟩ := contained live
    have absent : lookup (s.live :: s.frozen) (address / C.bytes) = none := by
      rw [lookup_cons, live, older, Option.or_none]
    rw [visible_absent absent, overlayByte, if_neg unmapped, opened]
    simp only [Store.savedByte, live]

theorem getD_clusterBytes (data : Cluster) {off count j : Nat} (room : off + count ≤ C.bytes) (below : j < count) :
    (((clusterBytes C data).drop off).take count).getD j 0 = data (off + j) := by
  have inside : off + j < C.bytes := by omega
  simp [clusterBytes, List.getD, below, inside]

/-- A piece of the restored disk. Clusters that were copied come from the file, the others
from the image. -/
theorem restored_piece (named : path ≠ "") (present : files filename = some image) (stored : files path = some file)
    {ch : BsDevDeltaIoChannel} {copied : List Nat} (recorded : Recorded C.bytes ch file (passed C layer copied))
    (exactly : ∀ cluster, cluster < clusters → (cluster ∈ copied ↔ (layer cluster).isSome = true)) (directio : Bool)
    {payload : List UInt8} (length : payload.length = n * B.bytes) (positive : 0 < n)
    (inside : lba % clusterBlocks C B + n ≤ clusterBlocks C B) (stop : (lba + n) * B.bytes ≤ image.size)
    (within : (lba + n) * B.bytes ≤ min clusters maxClusters * C.bytes) :
    ∃ data, (Store.initial files).readPiece C B (.build image.size ch.clusterMap filename path B.bytes C.bytes directio)
        .fine lba payload = some (0, data) ∧ data.length = n * B.bytes ∧
      ∀ j, j < n * B.bytes → data.getD j 0 =
        match layer ((lba * B.bytes + j) / C.bytes) with
        | some data => data ((lba * B.bytes + j) % C.bytes)
        | none => image.byte (lba * B.bytes + j) := by
  have fits := BsDevUring.build_fits image.size ch.clusterMap filename path C B directio
  have opened : (Store.initial files).openFiles (.build image.size ch.clusterMap filename path B.bytes C.bytes directio) =
      ⟨image, some file⟩ := by
    simp only [Store.openFiles, Store.initial, Copies.initial, BsDevUring.build, present, Option.getD_some, named, ↓reduceIte,
      stored]
  have room := range_inside C B inside
  have word := C.word
  have before : lba < image.size / B.bytes :=
    (Nat.le_div_iff_mul_le B.pos).mpr (le_trans (Nat.mul_le_mul_right _ (by omega)) stop)
  have below : lba / clusterBlocks C B < min clusters maxClusters := by
    have start : lba * B.bytes < min clusters maxClusters * C.bytes :=
      lt_of_lt_of_le (Nat.mul_lt_mul_of_pos_right (by omega) B.pos) within
    have split := byteAddress_split C B lba
    exact Nat.lt_of_mul_lt_mul_left (by rw [Nat.mul_comm _ (min _ _)]; omega : C.bytes * _ < C.bytes * _)
  have overlay := @readPiece_overlay C B _ (Store.initial files) fits .fine lba n payload rfl length (by omega)
  rw [opened] at overlay
  have found := lastPayload_passed C layer copied (lba / clusterBlocks C B)
  by_cases member : lba / clusterBlocks C B ∈ copied
  · obtain ⟨data, allocated⟩ := Option.isSome_iff_exists.mp
      ((exactly _ (lt_of_lt_of_le below (min_le_left _ _))).mp member)
    rw [if_pos member, allocated, Option.getD_some] at found
    obtain ⟨whole, k, _, start, held⟩ := recorded.present _ _ found
    have mapped : ch.clusterMap.Mapped (lba / clusterBlocks C B) := by
      rw [ClusterMap.mapped_iff_start, start, mapBytes_eq]
      omega
    have served := @serveRead_mapped C B _ fits ⟨image, some file⟩ lba n payload (clusterBytes C data) file before inside
      length rfl whole mapped (start ▸ held)
    rw [served] at overlay
    refine ⟨_, overlay, (readPiece_length overlay).trans length, ?_⟩
    intro j small
    rw [byteAddress_div C B inside small, byteAddress_mod C B inside small, allocated]
    exact getD_clusterBytes data room small
  · have absent : layer (lba / clusterBlocks C B) = none := by
      rw [← Option.not_isSome_iff_eq_none]
      exact fun allocated => member ((exactly _ (lt_of_lt_of_le below (min_le_left _ _))).mpr allocated)
    rw [if_neg member] at found
    have unmapped : ¬ ch.clusterMap.Mapped (lba / clusterBlocks C B) := by
      rw [ClusterMap.mapped_iff_start, recorded.absent _ found]
      exact fun present => present rfl
    have blocks : lba + n ≤ image.size / B.bytes := (Nat.le_div_iff_mul_le B.pos).mpr stop
    have served := @serveRead_unmapped C B _ fits ⟨image, some file⟩ lba n payload rfl before
      (lt_of_lt_of_le below (min_le_right _ _)) inside length blocks unmapped
    rw [served] at overlay
    refine ⟨_, overlay, (readPiece_length overlay).trans length, ?_⟩
    intro j small
    rw [byteAddress_div C B inside small, absent]
    rw [Nat.add_mul] at stop
    exact getD_pread image small (by omega)

theorem restores_of_saved (named : path ≠ "") (present : files filename = some image) (stored : files path = some file)
    (saved : Saved C clusters layer file) (directio : Bool) :
    Restores C B files filename path directio (min image.size (min clusters maxClusters * C.bytes)) fun address byte =>
      byte = match layer (address / C.bytes) with
        | some data => data (address % C.bytes)
        | none => image.byte address := by
  obtain ⟨ch, copied, held, recorded, exactly⟩ := saved
  refine ⟨.build image.size ch.clusterMap filename path B.bytes C.bytes directio, ?_, ?_⟩
  · simp only [bsDevUringCreate, present, stored, named, ↓reduceIte, Option.bind_some, readClusterMap_holds held, Option.map_some]
  · intro lba count split payload length covers stop
    have whole := @readPieces_spec C B (.build image.size ch.clusterMap filename path B.bytes C.bytes directio)
      (.initial files) (min image.size (min clusters maxClusters * C.bytes)) True (fun address byte =>
        byte = match layer (address / C.bytes) with
          | some data => data (address % C.bytes)
          | none => image.byte address) (fun _ => .fine)
    obtain ⟨status, data, read, _, calm, shown⟩ := whole (by
      intro lba n payload length positive inside stop
      obtain ⟨data, read, size, shown⟩ := restored_piece named present stored recorded exactly directio length positive inside
        (le_trans stop (min_le_left _ _)) (le_trans stop (min_le_right _ _))
      exact ⟨0, data, read, size, fun _ => rfl, fun _ => shown⟩) length covers stop
    cases calm trivial
    refine ⟨data, ?_, shown rfl⟩
    simp only [ubiSubmitRequest, read, Option.map_some]
    rfl

end

/-! ## Whole histories -/

/-- A snapshot to this path in a run: where its layer was frozen, and the end of the run,
with its copy ended without an error and its table written. -/
structure Taken (C : ClusterSize) (B : BlockLength) (dev : BsDevUring) (clusters : Nat) (files : String → Option RegularFile)
    (events : List StoreEvent) (path : String) (frozen final : Store) : Prop where
  taken : ∃ id before outcome setup middle after ctx,
    events = before ++ .copy (.callback id outcome setup) :: (middle ++ .copy (.copyEnd id 0) :: after) ∧
    run (storeStep C B dev clusters) (.initial files) before = some frozen ∧
    frozen.copies.requests.stage id = .waiting .createSnapshot ctx ∧ ctx.path = path ∧ outcome.bserrno = 0
  reached : run (storeStep C B dev clusters) (.initial files) events = some final
  closed : ∀ entry ∈ final.copies.deferred, entry.1.filename ≠ path

section
variable {C : ClusterSize} {B : BlockLength} {dev : BsDevUring} {clusters : Nat} {s s' : Store} {id : Nat}

/-- The completion of the first call freezes the live layer for its request. -/
theorem follows_frozen (used : id < s.copies.requests.issued) {ctx : SnapshotContext}
    (waiting : s.copies.requests.stage id = .waiting .createSnapshot ctx) {outcome : Outcome} (fine : outcome.bserrno = 0)
    {setup : SetupCalls} (stepped : storeStep C B dev clusters s (.copy (.callback id outcome setup)) = some s') :
    Follows id (s.copies.path id) s.live s' := by
  obtain ⟨_, copies, copied, rfl⟩ := storeStep_copy stepped
  obtain ⟨used', path, _⟩ := stage_step used copied
  refine ⟨used', path, ?_, callback_stage copied⟩
  simp only [Store.freeze, waiting, fine, ↓reduceIte, Function.update_self]

/-- A copy that ends without an error has passed on all clusters of its layer. -/
theorem ended_complete (separate : Separate C B clusters s.source s.copies)
    (stepped : storeStep C B dev clusters s (.copy (.copyEnd id 0)) = some s') :
    ∃ copy, Ended id copy s' ∧ copy.failed = false ∧
      ∀ cluster, cluster < clusters → (s.source id cluster).isSome = true → cluster ∈ copy.copied := by
  obtain ⟨permitted, copies, copied, rfl⟩ := storeStep_copy stepped
  obtain ⟨ctx, copy, waiting, current, unfailed, rfl⟩ := copyStep_copyEnd copied
  refine ⟨copy, ⟨separate.numbered.lt waiting, Function.update_self _ _ _, current⟩, unfailed rfl, ?_⟩
  simp only [Store.permits, current] at permitted
  intro cluster below
  exact of_decide_eq_true permitted trivial cluster (List.mem_range.mpr below)

end

theorem saved_of_taken {C : ClusterSize} {B : BlockLength} {dev : BsDevUring} {clusters : Nat}
    {files : String → Option RegularFile} {events : List StoreEvent} {path : String} {frozen final : Store}
    (guarded : Guarded (storeStep C B dev clusters) OwnFiles (.initial files) events)
    (taken : Taken C B dev clusters files events path frozen final) :
    path ≠ "" ∧ ∃ file, final.copies.files path = some file ∧ Saved C clusters frozen.live file := by
  obtain ⟨⟨id, before, outcome, setup, middle, after, ctx, rfl, reached, waiting, rfl, fine⟩, ran, closed⟩ := taken
  have always := always_of_guarded separate_step (separate_initial C B clusters _ files) guarded
  have separate := always.rest reached
  obtain ⟨s, reached', ran'⟩ := run_append.mp ran
  cases reached.symm.trans reached'
  obtain ⟨s₁, frozen', ran₁⟩ := run_cons.mp ran'
  obtain ⟨s₂, ran₂, ran₃⟩ := run_append.mp ran₁
  obtain ⟨s₃, ended', ran₄⟩ := run_cons.mp ran₃
  have separate₂ := ((separate.2 s₁ frozen').rest ran₂).head
  have separate₄ := (separate.final ran')
  have used := separate.head.numbered.lt waiting
  have path := (separate.head.waiting id _ ctx waiting).1
  have follows := follows_frozen used waiting fine frozen'
  rw [← path] at follows
  have follows₂ := run_invariant follows_step follows ran₂
  have follows₄ := run_invariant follows_step follows ran₁
  obtain ⟨copy, ended, unfailed, complete⟩ := ended_complete separate₂ ended'
  have ended₄ := run_invariant ended_step ended ran₄
  have kept := separate₄.kept id copy ended₄.current
  refine ⟨?_, ?_⟩
  · rw [← follows₄.path]
    exact separate₄.named id ended₄.used
  · obtain ⟨file, stored, recorded⟩ := kept.recorded unfailed
    rw [follows₄.path] at stored
    refine ⟨file, stored, copy.channel, copy.copied, ?_, ?_, ?_⟩
    · rcases kept.table ended₄.cleaned with pending | ⟨file', stored', held⟩
      · have named : copy.dev.filename = ctx.path := by
          rw [kept.dev, ← follows₄.path]
          rfl
        exact absurd named (closed _ pending)
      · rw [follows₄.path] at stored'
        cases stored.symm.trans stored'
        exact held
    · rw [follows₄.source] at recorded
      exact recorded
    · intro cluster below
      refine ⟨fun member => ?_, fun allocated => ?_⟩
      · have allocated := kept.allocated cluster member
        rwa [follows₄.source] at allocated
      · apply complete cluster below
        rwa [follows₂.source]

/-- No snapshot is written over this file. -/
def StoreEvent.Avoids (name : String) : StoreEvent → Prop
  | .guest _ => True
  | .copy event => event.Avoids name

theorem image_step {C : ClusterSize} {B : BlockLength} {dev : BsDevUring} {clusters : Nat} {name : String} {image : RegularFile}
    (s : Store) (event : StoreEvent) (s' : Store) (kept : s.copies.Avoids name ∧ s.copies.files name = some image)
    (avoids : event.Avoids name) (stepped : storeStep C B dev clusters s event = some s') :
    s'.copies.Avoids name ∧ s'.copies.files name = some image := by
  cases event with
  | guest io =>
    rw [(storeStep_guest stepped).1]
    exact kept
  | copy event =>
    obtain ⟨_, copies, copied, rfl⟩ := storeStep_copy stepped
    obtain ⟨still, same⟩ := kept.1.step avoids copied
    exact ⟨still, same.trans kept.2⟩

theorem Restores.mono {C : ClusterSize} {B : BlockLength} {files : String → Option RegularFile} {filename path : String}
    {directio : Bool} {limit : Nat} {first second : Nat → UInt8 → Prop} (weaker : ∀ address b, first address b → second address b)
    (restores : Restores C B files filename path directio limit first) :
    Restores C B files filename path directio limit second := by
  obtain ⟨dev, created, reads⟩ := restores
  refine ⟨dev, created, ?_⟩
  intro lba count split payload length covers stop
  obtain ⟨data, read, shown⟩ := reads lba count split payload length covers stop
  exact ⟨data, read, fun j below => weaker _ _ (shown j below)⟩

/-- A disk restored from a snapshot's file shows the frozen layer over the image, inside the
image, the disk and the table. This is what the old disk showed then at every cluster that
the layer has, or that neither an older layer nor the disk's own snapshot file has. -/
theorem snapshot_restores_layer (C : ClusterSize) (B B' : BlockLength) (files : String → Option RegularFile)
    (image : RegularFile) (filename snapshotPath path : String) (directio directio' : Bool) (transfer : Transfer)
    (dev : BsDevUring) (clusters : Nat) (present : files filename = some image)
    (created : bsDevUringCreate files filename snapshotPath B.bytes C.bytes directio transfer = some dev)
    (events : List StoreEvent) (frozen final : Store)
    (guarded : Guarded (storeStep C B dev clusters) (fun s event => OwnFiles s event ∧ event.Avoids filename)
      (.initial files) events)
    (taken : Taken C B dev clusters files events path frozen final) :
    Restores C B' final.copies.files filename path directio' (min image.size (min clusters maxClusters * C.bytes))
      fun address byte => byte = frozen.savedByte C image address ∧
        (frozen.SelfContained dev (address / C.bytes) → frozen.visible C dev address = some byte) := by
  have own : Guarded (storeStep C B dev clusters) OwnFiles (.initial files) events := guarded.mono fun _ _ both => both.1
  have avoids : Guarded (storeStep C B dev clusters) (fun _ event => event.Avoids filename) (.initial files) events :=
    guarded.mono fun _ _ both => both.2
  have images := always_of_guarded image_step ⟨avoids_initial files filename, present⟩ avoids
  obtain ⟨named, file, stored, saved⟩ := saved_of_taken own taken
  refine (restores_of_saved named (images.final taken.reached).2 stored saved directio').mono ?_
  intro address byte same
  refine ⟨same, fun contained => ?_⟩
  obtain ⟨_, before, _, _, _, _, _, rfl, reached, _⟩ := taken.taken
  obtain ⟨map, rfl⟩ := create_eq present created
  have opened : (frozen.openFiles (.build image.size map filename snapshotPath B.bytes C.bytes directio)).image = image := by
    simp only [Store.openFiles, BsDevUring.build, ((images.rest reached).head).2, Option.getD_some]
  rw [savedByte_visible opened contained, same]
  rfl

/-! ## A disk written to once -/

section
variable {C : ClusterSize} {B : BlockLength} {dev : BsDevUring} {clusters : Nat} {files : String → Option RegularFile}

theorem requestEvents_own (layer : Layer) (id : Nat) (ks : List Nat) (name : String) :
    ∀ event ∈ requestEvents C layer id ks, ∀ s, OwnFiles s event ∧ event.Avoids name := by
  intro event member s
  simp only [requestEvents, passOn, List.mem_append, List.mem_replicate, List.mem_cons, List.mem_map, List.not_mem_nil,
    or_false] at member
  rcases member with ⟨_, rfl⟩ | rfl | ⟨cluster, _, rfl⟩ | rfl | rfl
  all_goals refine ⟨?_, trivial⟩
  all_goals first | exact fun n => Transfer.noConfusion | trivial

/-- A whole request, to a file that no earlier request named and that is not this one. -/
theorem request_guarded {s : Store} {path name : String} (named : path ≠ "") (other : path ≠ name)
    (fresh : ∀ id, id < s.copies.requests.issued → s.copies.path id ≠ path) (layer : Layer) (id : Nat) (ks : List Nat) :
    Guarded (storeStep C B dev clusters) (fun s event => OwnFiles s event ∧ event.Avoids name) s
      (.copy (.snapshot true path) :: requestEvents C layer id ks) :=
  ⟨⟨⟨named, fresh⟩, other⟩, fun s' _ => guarded_of_forall s' (requestEvents_own layer id ks name)⟩

/-- A whole request after some events, as a snapshot that was taken. -/
theorem request_taken (small : ¬ (C.bytes : Int).bmod (2 ^ 32) < 0) {before : List StoreEvent} {s : Store}
    (reached : run (storeStep C B dev clusters) (.initial files) before = some s) {path : String} (named : path ≠ "")
    (drained : s.copies.deferred = []) {ks : List Nat} (once : ks.Nodup)
    (valid : ∀ cluster ∈ ks, cluster < clusters ∧ cluster < maxClusters ∧ (s.live cluster).isSome = true)
    (complete : ∀ cluster, cluster < clusters → (s.live cluster).isSome = true → cluster ∈ ks) :
    ∃ asked final, Taken C B dev clusters files
        (before ++ .copy (.snapshot true path) :: requestEvents C s.live s.copies.requests.issued ks) path asked final ∧
      asked.live = s.live ∧ asked.frozen = s.frozen ∧ asked.copies.files = s.copies.files ∧
      final.copies.deferred = [] ∧ final.live = (fun _ => none) ∧ final.frozen = s.live :: s.frozen ∧
      final.copies.path = Function.update s.copies.path s.copies.requests.issued path ∧
      final.copies.requests.issued = s.copies.requests.issued + 1 ∧
      ∀ name, name ≠ path → final.copies.files name = s.copies.files name := by
  obtain ⟨asked, final, snapshot, stage, live, frozen, same, ran, done, empty, frozen', paths, issued, others⟩ :=
    @request_run C B dev clusters s small path named drained ks once valid complete
  refine ⟨asked, final, ⟨⟨s.copies.requests.issued, before ++ [.copy (.snapshot true path)], .fine, .fine,
    List.replicate 3 (.copy (.callback s.copies.requests.issued .fine .fine)) ++
      .copy (.callback s.copies.requests.issued .fine .fine) :: passOn C s.live s.copies.requests.issued ks,
    [.copy (.message .fine)], ⟨path, 0, 0, false, none⟩, ?_, ?_, stage, rfl, rfl⟩, ?_, ?_⟩, live, frozen, same, done, empty,
    frozen', paths, issued, others⟩
  · simp [requestEvents, List.replicate_succ]
  · exact run_snoc.mpr ⟨s, reached, snapshot⟩
  · exact run_append.mpr ⟨s, reached, run_cons.mpr ⟨asked, snapshot, ran⟩⟩
  · rw [done]
    intro entry member
    cases member

end

def oneWrite : StoreEvent := .guest (.write [(0, 1)] (List.replicate 4096 7) fun _ => ⟨.fine, fun _ => 0⟩)

/-- A page of the image is filled from it and written over. -/
theorem oneWrite_run :
    ∃ base, run (storeStep .page .page pageDisk 1) (.initial (onlyFile "image" pageImage)) [oneWrite] =
      some ((Store.initial (onlyFile "image" pageImage)).put .page .page 0 base (List.replicate 4096 7)) := by
  have present : onlyFile "image" pageImage "image" = some pageImage := rfl
  have refines := refines_initial .page .page present .zero "" true
  have backed : Backed .page .page (.build pageImage.size .zero "image" "" BlockLength.page.bytes ClusterSize.page.bytes true)
      (filesOf (onlyFile "image" pageImage) pageImage "") := by
    refine ⟨BsDevUring.build_fits _ _ _ _ _ _ _, rfl, dvd_rfl, ?_⟩
    exact Nat.le_mul_of_pos_left _ zero_lt_maxClusters
  have stored : Stored .page (.build pageImage.size .zero "image" "" BlockLength.page.bytes ClusterSize.page.bytes true)
      (filesOf (onlyFile "image" pageImage) pageImage "") :=
    fun cluster mapped => absurd mapped (ClusterMap.not_mapped_zero cluster)
  obtain ⟨status, base, filled, calm, _⟩ := refines.materialise backed ⟨.fine, fun _ => 0⟩
    (show (0 + 1) * ClusterSize.page.bytes ≤ pageImage.size from le_rfl) rfl
  cases calm rfl stored
  refine ⟨base, run_cons.mpr ⟨_, ?_, rfl⟩⟩
  have wrote : (Store.initial (onlyFile "image" pageImage)).writePiece .page .page pageDisk ⟨.fine, fun _ => 0⟩ 0
      (List.replicate 4096 7) =
      some (0, (Store.initial (onlyFile "image" pageImage)).put .page .page 0 base (List.replicate 4096 7)) := by
    have cluster : 0 / clusterBlocks .page .page = 0 := Nat.zero_div _
    have live : (Store.initial (onlyFile "image" pageImage)).live 0 = none := rfl
    have filled' : (Store.initial (onlyFile "image" pageImage)).materialise .page .page pageDisk ⟨.fine, fun _ => 0⟩ 0 =
        some (0, base) := filled
    simp only [Store.writePiece, cluster, live, filled', Option.map_some, ↓reduceIte]
  have taken : (List.replicate 4096 (7 : UInt8)).take (1 * BlockLength.page.bytes) = List.replicate 4096 7 :=
    List.take_of_length_le (by rw [List.length_replicate]; decide)
  simp only [oneWrite, storeStep, ubiSubmitRequest, Store.writePieces, taken, wrote, Option.bind_some, Option.map_some]

theorem page_small : ¬ (ClusterSize.page.bytes : Int).bmod (2 ^ 32) < 0 := by decide

/-- One write and one request, which saves the page that was written. -/
theorem oneWrite_taken : ∃ base asked final,
    Taken .page .page pageDisk 1 (onlyFile "image" pageImage)
      ([oneWrite] ++ .copy (.snapshot true "first") ::
        requestEvents .page (Function.update (fun _ => none) 0 (some (patch base 0 (List.replicate 4096 7)))) 0 [0])
      "first" asked final ∧
    asked.live = Function.update (fun _ => none) 0 (some (patch base 0 (List.replicate 4096 7))) ∧
    final.copies.deferred = [] ∧ final.live = (fun _ => none) ∧
    final.frozen = [Function.update (fun _ => none) 0 (some (patch base 0 (List.replicate 4096 7)))] ∧
    final.copies.path = Function.update (fun _ => "") 0 "first" ∧ final.copies.requests.issued = 1 ∧
    final.copies.files "image" = some pageImage := by
  obtain ⟨base, reached⟩ := oneWrite_run
  have put : ((Store.initial (onlyFile "image" pageImage)).put .page .page 0 base (List.replicate 4096 7)).live =
      Function.update (fun _ => none) 0 (some (patch base 0 (List.replicate 4096 7))) := by
    simp only [Store.put, Store.initial, Nat.zero_div, Nat.zero_mod, Nat.zero_mul]
  have valid : ∀ cluster ∈ [0], cluster < 1 ∧ cluster < maxClusters ∧
      (((Store.initial (onlyFile "image" pageImage)).put .page .page 0 base (List.replicate 4096 7)).live cluster).isSome =
        true := by
    intro cluster member
    cases List.mem_singleton.mp member
    refine ⟨by decide, zero_lt_maxClusters, ?_⟩
    rw [put, Function.update_self]
    rfl
  obtain ⟨asked, final, taken, live, _, _, drained, empty, frozen, paths, issued, others⟩ :=
    @request_taken .page .page pageDisk 1 _ page_small _ _ reached "first" (by decide) rfl [0] (List.nodup_singleton 0) valid
      (by intro cluster below _; exact List.mem_singleton.mpr (by omega))
  rw [put] at taken live frozen
  exact ⟨base, asked, final, taken, live, drained, empty, frozen, paths, issued, others "image" (by decide)⟩

theorem oneWrite_guarded (layer : Layer) : Guarded (storeStep .page .page pageDisk 1)
    (fun s event => OwnFiles s event ∧ event.Avoids "image") (.initial (onlyFile "image" pageImage))
    ([oneWrite] ++ .copy (.snapshot true "first") :: requestEvents .page layer 0 [0]) := by
  refine ⟨⟨trivial, trivial⟩, fun s stepped => ?_⟩
  apply request_guarded (by decide) (by decide)
  rw [(storeStep_guest stepped).1]
  intro id below
  cases below

theorem snapshot_restores_layer_page : ∃ events frozen final,
    Taken .page .page pageDisk 1 (onlyFile "image" pageImage) events "first" frozen final ∧
    frozen.visible .page pageDisk 0 = some 7 ∧
    Restores .page .sector final.copies.files "image" "first" false (min pageImage.size (min 1 maxClusters * 4096))
      fun address byte => byte = frozen.savedByte .page pageImage address ∧
        (frozen.SelfContained pageDisk (address / 4096) → frozen.visible .page pageDisk address = some byte) := by
  obtain ⟨base, asked, final, taken, live, _⟩ := oneWrite_taken
  refine ⟨_, asked, final, taken, ?_, ?_⟩
  · have found : lookup (asked.live :: asked.frozen) (0 / ClusterSize.page.bytes) =
        some (patch base 0 (List.replicate 4096 7)) := by
      rw [lookup_cons, live, Nat.zero_div, Function.update_self, Option.some_or]
    rw [visible_found found, Nat.zero_mod]
    rfl
  · exact snapshot_restores_layer .page .page .sector (onlyFile "image" pageImage) pageImage "image" "" "first" false false .full
      pageDisk 1 rfl (by simp only [bsDevUringCreate, onlyFile, ↓reduceIte, Option.bind_some, Option.map_some]; rfl) _ asked
      final (oneWrite_guarded _) taken

/-! ## What the file of one layer loses -/

/-- The new disk shows what the old one did. -/
def Faithful (dev : BsDevUring) (frozen : Store) (address : Nat) (byte : UInt8) : Prop :=
  ∀ b, frozen.visible .page dev address = some b → byte = b

/-- A byte that the layer lacks is the image's on the new disk, whatever the old disk had. -/
theorem not_restores_hidden {dev : BsDevUring} {clusters : Nat} {files : String → Option RegularFile} {events : List StoreEvent}
    {filename path : String} {frozen final : Store} {image : RegularFile} {limit : Nat} {b : UInt8}
    (guarded : Guarded (storeStep .page .page dev clusters) OwnFiles (.initial files) events)
    (taken : Taken .page .page dev clusters files events path frozen final)
    (present : final.copies.files filename = some image) (disk : 0 < clusters) (page : 4096 ≤ image.size) (read : 4096 ≤ limit)
    (lacks : frozen.live 0 = none) (shown : frozen.visible .page dev 0 = some b) (lost : image.byte 0 ≠ b) :
    ¬ Restores .page .page final.copies.files filename path false limit (Faithful dev frozen) := by
  rintro ⟨dev₁, created₁, reads₁⟩
  obtain ⟨named, file, stored, saved⟩ := saved_of_taken guarded taken
  obtain ⟨dev₂, created₂, reads₂⟩ := @restores_of_saved .page .page _ _ _ _ _ clusters _ named present stored saved false
  cases created₁.symm.trans created₂
  have inside : (0 + 1) * BlockLength.page.bytes ≤ min image.size (min clusters maxClusters * ClusterSize.page.bytes) := by
    refine le_min page ?_
    exact Nat.mul_le_mul_right _ (le_min disk zero_lt_maxClusters)
  obtain ⟨data₁, read₁, shown₁⟩ := reads₁ 0 1 [(0, 1)] pagePayload length_pagePayload (covers_one 0) read
  obtain ⟨data₂, read₂, shown₂⟩ := reads₂ 0 1 [(0, 1)] pagePayload length_pagePayload (covers_one 0) inside
  cases read₁.symm.trans read₂
  have first := shown₁ 0 (by decide) b (by rw [Nat.zero_mul]; exact shown)
  have second := shown₂ 0 (by decide)
  simp only [Nat.zero_mul, Nat.add_zero, Nat.zero_div, lacks] at second
  exact lost (second.symm.trans first)

/-- The events of one request over an empty live layer. -/
def emptyRequest (path : String) (id : Nat) : List StoreEvent :=
  .copy (.snapshot true path) :: requestEvents .page (fun _ => none) id []

theorem emptyRequest_taken {dev : BsDevUring} {clusters : Nat} {files : String → Option RegularFile} {before : List StoreEvent}
    {s : Store} (reached : run (storeStep .page .page dev clusters) (.initial files) before = some s)
    (empty : s.live = fun _ => none) (drained : s.copies.deferred = []) {path : String} (named : path ≠ "") :
    ∃ asked final, Taken .page .page dev clusters files (before ++ emptyRequest path s.copies.requests.issued) path asked final ∧
      asked.live = (fun _ => none) ∧ asked.frozen = s.frozen ∧ asked.copies.files = s.copies.files ∧
      ∀ name, name ≠ path → final.copies.files name = s.copies.files name := by
  have none : ∀ cluster, (s.live cluster).isSome = true → False := by
    intro cluster allocated
    rw [empty] at allocated
    cases allocated
  obtain ⟨asked, final, taken, live, frozen, same, _, _, _, _, _, others⟩ :=
    @request_taken .page .page dev clusters files page_small before s reached path named drained [] List.nodup_nil
      (fun cluster member => absurd member List.not_mem_nil) (fun cluster _ allocated => (none cluster allocated).elim)
  rw [empty] at taken live
  exact ⟨asked, final, taken, live, frozen, same, others⟩

/-- One request right after the disk was created. -/
theorem emptyRequest_first (dev : BsDevUring) (clusters : Nat) (files : String → Option RegularFile) {path : String}
    (named : path ≠ "") : ∃ asked final, Taken .page .page dev clusters files (emptyRequest path 0) path asked final ∧
      asked.live = (fun _ => none) ∧ asked.frozen = [] ∧ asked.copies.files = files ∧
      (∀ name, name ≠ path → final.copies.files name = files name) ∧
      Guarded (storeStep .page .page dev clusters) OwnFiles (.initial files) (emptyRequest path 0) := by
  obtain ⟨asked, final, taken, live, frozen, same, others⟩ :=
    @emptyRequest_taken dev clusters files [] (.initial files) rfl rfl rfl path named
  refine ⟨asked, final, taken, live, frozen, same, others, ?_⟩
  have guarded := @request_guarded .page .page dev clusters (.initial files) path "" named named (by
    intro id below
    cases below) (fun _ => none) 0 []
  exact guarded.mono fun _ _ both => both.1

/-- A run with distinct paths whose snapshot does not make a new disk show the old one. -/
def Unfaithful (dev : BsDevUring) (clusters : Nat) (files : String → Option RegularFile) (filename path : String) (limit : Nat)
    (events : List StoreEvent) : Prop :=
  Guarded (storeStep .page .page dev clusters) OwnFiles (.initial files) events ∧ ∃ frozen final,
    Taken .page .page dev clusters files events path frozen final ∧
    ¬ Restores .page .page final.copies.files filename path false limit (Faithful dev frozen)

def darkImage : RegularFile := .constant 4096 0 pageImage.bounded
def restoredFiles : String → Option RegularFile := Function.update (onlyFile "image" darkImage) "disk" (some innerFile)

/-- A disk that was itself restored: its snapshot file is not copied. -/
theorem unfaithful_restored : Unfaithful innerDisk 1 restoredFiles "image" "new" darkImage.size (emptyRequest "new" 0) := by
  obtain ⟨asked, final, taken, live, frozen, files, others, guarded⟩ :=
    @emptyRequest_first innerDisk 1 restoredFiles "new" (by decide)
  refine ⟨guarded, asked, final, taken, ?_⟩
  have present : final.copies.files "image" = some darkImage := others "image" (by decide)
  have opened : (asked.openFiles innerDisk).snapshot = some innerFile := by
    have named : ¬ "disk" = "" := by decide
    simp only [Store.openFiles, files, innerDisk, BsDevUring.build, named, ↓reduceIte, restoredFiles, Function.update_self]
  have shown : asked.visible .page innerDisk 0 = some 1 := by
    have absent : lookup (asked.live :: asked.frozen) (0 / ClusterSize.page.bytes) = none := by
      rw [live, frozen]
      rfl
    have size := innerFile_size
    rw [mapBytes_eq] at size
    rw [visible_absent absent, show innerDisk.clusterMap = innerMap from rfl, overlayByte, Nat.zero_div, Nat.zero_mod,
      if_pos innerMap_mapped, opened, Option.bind_some, innerMap_start, if_pos (by omega), innerFile_byte]
  exact not_restores_hidden guarded taken present (by decide) le_rfl le_rfl (by rw [live]) shown (by decide)

/-- A second snapshot: what the first one saved is not copied again. -/
theorem unfaithful_second : ∃ layer, Unfaithful pageDisk 1 (onlyFile "image" pageImage) "image" "second" pageImage.size
    (([oneWrite] ++ .copy (.snapshot true "first") :: requestEvents .page layer 0 [0]) ++ emptyRequest "second" 1) := by
  obtain ⟨base, asked, final, taken, _, drained, empty, frozen, paths, issued, image⟩ := oneWrite_taken
  obtain ⟨asked', final', taken', live', frozen', files', others'⟩ :=
    @emptyRequest_taken pageDisk 1 (onlyFile "image" pageImage) _ final taken.reached empty drained "second" (by decide)
  rw [issued] at taken'
  have own := (oneWrite_guarded (Function.update (fun _ => none) 0 (some (patch base 0 (List.replicate 4096 7))))).mono
    fun _ _ both => both.1
  have guarded := @Guarded.append _ _ _ OwnFiles _ _ (emptyRequest "second" 1) own (by
    intro s ran
    cases ran.symm.trans taken.reached
    refine (@request_guarded .page .page pageDisk 1 final "second" "" (by decide) (by decide) ?_ (fun _ => none) 1 []).mono
      fun _ _ both => both.1
    intro id below
    rw [issued] at below
    cases Nat.lt_one_iff.mp below
    rw [paths, Function.update_self]
    decide)
  refine ⟨_, guarded, asked', final', taken', ?_⟩
  have untouched := others' "image" (by decide)
  have present : final'.copies.files "image" = some pageImage := untouched.trans image
  have shown : asked'.visible .page pageDisk 0 = some 7 := by
    have found : lookup (asked'.live :: asked'.frozen) (0 / ClusterSize.page.bytes) =
        some (patch base 0 (List.replicate 4096 7)) := by
      rw [live', frozen', frozen, lookup_empty, lookup_cons, Nat.zero_div, Function.update_self, Option.some_or]
    rw [visible_found found, Nat.zero_mod]
    rfl
  exact not_restores_hidden guarded taken' present (by decide) le_rfl le_rfl (by rw [live']) shown (by decide)

/-- A file that saves a layer without cluster 0 begins with a zero. -/
theorem saved_first_byte {clusters : Nat} {layer : Layer} {file : RegularFile} (saved : Saved .page clusters layer file)
    (lacks : layer 0 = none) (disk : 0 < clusters) : mapBytes ≤ file.size ∧ file.byte 0 = 0 := by
  obtain ⟨ch, copied, ⟨size, bytes⟩, recorded, exactly⟩ := saved
  rw [length_mapBytes] at size bytes
  have positive : 0 < mapBytes := by
    rw [mapBytes_eq]
    norm_num
  have absent : 0 ∉ copied := by
    intro member
    have allocated := (exactly 0 disk).mp member
    rw [lacks] at allocated
    cases allocated
  have unmapped := recorded.absent 0 (by rw [lastPayload_passed, if_neg absent])
  have entry : ch.clusterMap ⟨0, zero_lt_maxClusters⟩ = 0 := by
    simp only [ClusterMap.start, zero_lt_maxClusters, ↓reduceDIte] at unmapped
    exact UInt64.toNat_inj.mp unmapped
  refine ⟨by omega, ?_⟩
  have first := bytes 0 positive
  rw [Nat.add_zero, getD_tableBytes _ positive] at first
  have byte := tableByte_entry ch.clusterMap ⟨0, zero_lt_maxClusters⟩ (by decide : 0 < 8)
  rw [entry] at byte
  exact first.trans byte

/-- A snapshot that is copied into the image itself. -/
theorem unfaithful_image : Unfaithful (.build 4096 .zero "disk" "" 4096 4096 false) 1 (onlyFile "disk" pageImage) "disk" "disk"
    pageImage.size (emptyRequest "disk" 0) := by
  obtain ⟨asked, final, taken, live, frozen, files, _, guarded⟩ :=
    @emptyRequest_first (.build 4096 .zero "disk" "" 4096 4096 false) 1 (onlyFile "disk" pageImage) "disk" (by decide)
  refine ⟨guarded, asked, final, taken, ?_⟩
  obtain ⟨_, file, stored, saved⟩ := saved_of_taken guarded taken
  obtain ⟨size, byte⟩ := saved_first_byte saved (by rw [live]) (by decide)
  rw [mapBytes_eq] at size
  have shown : asked.visible .page (.build 4096 .zero "disk" "" 4096 4096 false) 0 = some 1 := by
    have absent : lookup (asked.live :: asked.frozen) (0 / ClusterSize.page.bytes) = none := by
      rw [live, frozen]
      rfl
    rw [visible_absent absent]
    simp only [overlayByte, Store.openFiles, files, BsDevUring.build, onlyFile, ClusterMap.not_mapped_zero, ↓reduceIte,
      Option.getD_some]
    rfl
  refine not_restores_hidden guarded taken stored (by decide) (by omega) le_rfl (by rw [live]) shown ?_
  rw [byte]
  decide

/-- A block of the image whose cluster lies behind the table. -/
theorem unfaithful_past_table : Unfaithful (.build imagePastTable.size .zero "disk" "" 4096 4096 false) (2 ^ 26 + 5)
    (onlyFile "disk" imagePastTable) "disk" "new" imagePastTable.size (emptyRequest "new" 0) := by
  obtain ⟨asked, final, taken, _, _, _, others, guarded⟩ := @emptyRequest_first
    (.build imagePastTable.size .zero "disk" "" 4096 4096 false) (2 ^ 26 + 5) (onlyFile "disk" imagePastTable) "new" (by decide)
  refine ⟨guarded, asked, final, taken, ?_⟩
  rintro ⟨dev, created, reads⟩
  have present : final.copies.files "disk" = some imagePastTable := others "disk" (by decide)
  obtain ⟨map, rfl⟩ := create_eq present created
  obtain ⟨data, read, _⟩ := reads (2 ^ 26 + 4) 1 [(2 ^ 26 + 4, 1)] pagePayload length_pagePayload (covers_one _) le_rfl
  have refused := read_past_table map "new" final.copies.files
  cases read.symm.trans refused

/-- A file of one layer does not stand for the whole disk: not over a snapshot file the disk
was restored from, not after an earlier snapshot, not if the image is overwritten by it, and
not behind the table. -/
theorem snapshot_not_faithful :
    (bsDevUringCreate restoredFiles "image" "disk" 4096 4096 false .full = some innerDisk ∧
      Unfaithful innerDisk 1 restoredFiles "image" "new" darkImage.size (emptyRequest "new" 0)) ∧
    (bsDevUringCreate (onlyFile "image" pageImage) "image" "" 4096 4096 false .full = some pageDisk ∧
      ∃ layer, Unfaithful pageDisk 1 (onlyFile "image" pageImage) "image" "second" pageImage.size
        (([oneWrite] ++ .copy (.snapshot true "first") :: requestEvents .page layer 0 [0]) ++ emptyRequest "second" 1)) ∧
    (∃ dev, bsDevUringCreate (onlyFile "disk" pageImage) "disk" "" 4096 4096 false .full = some dev ∧
      Unfaithful dev 1 (onlyFile "disk" pageImage) "disk" "disk" pageImage.size (emptyRequest "disk" 0)) ∧
    (∃ dev, bsDevUringCreate (onlyFile "disk" imagePastTable) "disk" "" 4096 4096 false .full = some dev ∧
      Unfaithful dev (2 ^ 26 + 5) (onlyFile "disk" imagePastTable) "disk" "new" imagePastTable.size
        (emptyRequest "new" 0)) := by
  refine ⟨⟨?_, unfaithful_restored⟩, ⟨?_, unfaithful_second⟩, ⟨_, ?_, unfaithful_image⟩, ⟨_, ?_, unfaithful_past_table⟩⟩
  · have named : ¬ "disk" = "" := by decide
    have image : restoredFiles "image" = some darkImage := rfl
    have snapshot : restoredFiles "disk" = some innerFile := rfl
    have loaded : ubiReadClusterMap (some innerFile) .full .zero = some innerMap :=
      readClusterMap_holds (write_table_holds .empty innerMap)
    simp only [bsDevUringCreate, image, snapshot, named, ↓reduceIte, Option.bind_some, loaded, Option.map_some]
    rfl
  all_goals simp only [bsDevUringCreate, onlyFile, ↓reduceIte, Option.bind_some, Option.map_some]
  all_goals rfl

end BdevUbi.Disk
