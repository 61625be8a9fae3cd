import Mathlib.Data.List.Induction
import Mathlib.Data.List.Nodup
import Mathlib.Data.List.Perm.Subperm
import BdevUbi.Disk.Store
import BdevUbi.Snapshot.Completion

/-! Any number of snapshot requests at once, each with a file of its own.

Everything that is promised of a copy is said about the file of its request and about
the layer that was frozen for it. An event of one request changes neither for another,
so a step is the frame for all requests but one, and a few facts about that one.
-/

set_option autoImplicit false

namespace BdevUbi.Disk
open BdevUbi.Library BdevUbi.Device BdevUbi.Snapshot RegularFile

/-- What a copy has passed on: the clusters with their bytes in the layer, oldest first. -/
def passed (C : ClusterSize) (layer : Layer) (copied : List Nat) : List (Nat × List UInt8) :=
  copied.map fun cluster => (cluster, clusterBytes C ((layer cluster).getD fun _ => 0))

theorem passed_snoc (C : ClusterSize) (layer : Layer) (copied : List Nat) (cluster : Nat) :
    passed C layer (copied ++ [cluster]) =
      passed C layer copied ++ [(cluster, clusterBytes C ((layer cluster).getD fun _ => 0))] := by
  simp only [passed, List.map_append, List.map_singleton]

theorem lastPayload_passed (C : ClusterSize) (layer : Layer) (copied : List Nat) (cluster : Nat) :
    lastPayload (passed C layer copied) cluster =
      if cluster ∈ copied then some (clusterBytes C ((layer cluster).getD fun _ => 0)) else none := by
  induction copied using List.reverseRecOn with
  | nil => rfl
  | append_singleton copied last ih =>
    rw [passed_snoc, lastPayload_snoc, ih]
    by_cases same : cluster = last
    · simp only [same, ↓reduceIte, List.mem_append, List.mem_singleton, or_true]
    · simp only [same, ↓reduceIte, List.mem_append, List.mem_singleton, or_false]

/-- A request names a file that no earlier one named, no transfer to the files is cut
short, and the table is written at the end. -/
def OwnFiles (s : Store) : StoreEvent → Prop
  | .copy (.snapshot _ path) => path ≠ "" ∧ ∀ id, id < s.copies.requests.issued → s.copies.path id ≠ path
  | .copy (.callback _ _ setup) => ∀ n, setup.transfer ≠ .short n
  | .copy (.copyCluster _ _ _ calls) => ∀ n, calls.transfer ≠ .short n
  | .copy (.message calls) => calls = .fine
  | _ => True

section
variable (C : ClusterSize) (B : BlockLength) (clusters : Nat) (source : Nat → Layer) (s : Copies)

/-- The copy of a request and the file it writes. -/
structure Kept (id : Nat) (copy : Copy) : Prop where
  used : id < s.requests.issued
  dev : copy.dev = (UbiBdev.sized C B (clusters * clusterBlocks C B) clusters).deltaDev (s.path id)
  once : copy.copied.Nodup
  inside : ∀ cluster ∈ copy.copied, cluster < maxClusters
  allocated : ∀ cluster ∈ copy.copied, (source id cluster).isSome = true
  recorded : copy.failed = false → ∃ file, s.files (s.path id) = some file ∧
    Recorded C.bytes copy.channel file (passed C (source id) copy.copied)
  stage : (∃ ctx, s.requests.stage id = .waiting .shallowCopy ctx) ∨ s.requests.stage id = .cleaned
  table : s.requests.stage id = .cleaned → (copy.dev, copy.channel) ∈ s.deferred ∨
    ∃ file, s.files (s.path id) = some file ∧ file.Holds 0 (tableBytes copy.channel.clusterMap)

structure Separate : Prop where
  numbered : s.requests.Numbered
  named : ∀ id, id < s.requests.issued → s.path id ≠ ""
  paths : ∀ id other, id < s.requests.issued → other < s.requests.issued → s.path id = s.path other → id = other
  waiting : ∀ id op ctx, s.requests.stage id = .waiting op ctx →
    ctx.path = s.path id ∧ (op ≠ .shallowCopy → s.copy id = none)
  kept : ∀ id copy, s.copy id = some copy → Kept C B clusters source s id copy
  deferred : ∀ entry ∈ s.deferred, ∃ id copy, s.copy id = some copy ∧ s.requests.stage id = .cleaned ∧
    entry = (copy.dev, copy.channel)

end

theorem separate_initial (C : ClusterSize) (B : BlockLength) (clusters : Nat) (source : Nat → Layer)
    (files : String → Option RegularFile) : Separate C B clusters source (.initial files) where
  numbered := numbered_none
  named := by
    intro id below
    cases below
  paths := by
    intro id other below
    cases below
  waiting := by
    intro id op ctx waiting
    cases waiting
  kept := by
    intro id copy current
    cases current
  deferred := by
    intro entry member
    cases member

section
variable {C : ClusterSize} {B : BlockLength} {clusters : Nat} {source source' : Nat → Layer} {s s' : Copies}
  {id : Nat} {copy : Copy}

/-- What another request does leaves a copy as it is. -/
theorem Kept.frame (kept : Kept C B clusters source s id copy) (issued : s.requests.issued ≤ s'.requests.issued)
    (path : s'.path id = s.path id) (files : s'.files (s.path id) = s.files (s.path id)) (layer : source' id = source id)
    (stage : s'.requests.stage id = s.requests.stage id)
    (deferred : ∀ entry ∈ s.deferred, entry.1.filename = s.path id → entry ∈ s'.deferred) :
    Kept C B clusters source' s' id copy where
  used := lt_of_lt_of_le kept.used issued
  dev := by
    rw [path]
    exact kept.dev
  once := kept.once
  inside := kept.inside
  allocated := by
    rw [layer]
    exact kept.allocated
  recorded := by
    rw [path, files, layer]
    exact kept.recorded
  stage := by
    rw [stage]
    exact kept.stage
  table := by
    rw [stage, path, files]
    intro cleaned
    rcases kept.table cleaned with pending | held
    · left
      apply deferred _ pending
      rw [kept.dev]
      rfl
    · exact Or.inr held

theorem Kept.fresh {path : String} (used : id < s.requests.issued) (same : path = s.path id) {file : RegularFile}
    (stored : s.files path = some file) {ctx : SnapshotContext}
    (stage : s.requests.stage id = .waiting .shallowCopy ctx) :
    Kept C B clusters source s id
      ⟨(UbiBdev.sized C B (clusters * clusterBlocks C B) clusters).deltaDev path, ⟨mapBytes, .zero, false⟩, [], false⟩ where
  used := used
  dev := by rw [same]
  once := List.nodup_nil
  inside := by
    intro cluster member
    cases member
  allocated := by
    intro cluster member
    cases member
  recorded := fun _ => ⟨file, same ▸ stored, recorded_fresh C.bytes file⟩
  stage := Or.inl ⟨ctx, stage⟩
  table := by
    intro cleaned
    rw [stage] at cleaned
    cases cleaned

/-- Two requests have two files. -/
theorem Separate.path_ne (separate : Separate C B clusters source s) {other : Nat} (used : id < s.requests.issued)
    (used' : other < s.requests.issued) (different : other ≠ id) : s.path other ≠ s.path id :=
  fun same => different (separate.paths other id used' used same)

/-! ## One step per event -/

theorem Separate.snapshot (separate : Separate C B clusters source s) {found : Bool} {path : String} (named : path ≠ "")
    (fresh : ∀ id, id < s.requests.issued → s.path id ≠ path)
    (stepped : copyStep (.sized C B (clusters * clusterBlocks C B) clusters) s (.snapshot found path) = some s') :
    Separate C B clusters source s' := by
  cases copyStep_snapshot stepped
  have free : s.copy s.requests.issued = none := by
    cases current : s.copy s.requests.issued with
    | none => rfl
    | some copy => exact absurd (separate.kept _ copy current).used (lt_irrefl _)
  have older : ∀ id, id < s.requests.issued + 1 → id ≠ s.requests.issued → id < s.requests.issued := by omega
  refine ⟨?_, ?_, ?_, ?_, ?_, ?_⟩
  · exact @numbered_step (.sized C B (clusters * clusterBlocks C B) clusters) s.requests (.snapshot found path) _
      separate.numbered rfl
  · intro id below
    by_cases new : id = s.requests.issued
    · simp only [new, Function.update_self]
      exact named
    · simp only [Function.update_of_ne new]
      exact separate.named id (older id below new)
  · intro id other below below' same
    by_cases new : id = s.requests.issued
    · by_cases new' : other = s.requests.issued
      · rw [new, new']
      · simp only [new, Function.update_self, Function.update_of_ne new'] at same
        exact absurd same.symm (fresh other (older other below' new'))
    · by_cases new' : other = s.requests.issued
      · simp only [new', Function.update_self, Function.update_of_ne new] at same
        exact absurd same (fresh id (older id below new))
      · simp only [Function.update_of_ne new, Function.update_of_ne new'] at same
        exact separate.paths id other (older id below new) (older other below' new') same
  · intro id op ctx waiting
    by_cases new : id = s.requests.issued
    · subst new
      simp only [Requests.apply, Function.update_self] at waiting ⊢
      cases found with
      | false => cases waiting
      | true =>
        cases waiting
        exact ⟨rfl, fun _ => free⟩
    · simp only [Requests.apply, Function.update_of_ne new] at waiting ⊢
      exact separate.waiting id op ctx waiting
  · intro id copy current
    have kept := separate.kept id copy current
    have different : id ≠ s.requests.issued := Nat.ne_of_lt kept.used
    refine kept.frame (Nat.le_succ _) (Function.update_of_ne different _ _) rfl rfl ?_ (fun entry member _ => member)
    exact Function.update_of_ne different _ _
  · intro entry member
    obtain ⟨id, copy, current, cleaned, same⟩ := separate.deferred entry member
    have different : id ≠ s.requests.issued := Nat.ne_of_lt (separate.kept id copy current).used
    exact ⟨id, copy, current, (Function.update_of_ne different _ _).trans cleaned, same⟩

/-- An event of a request that has no copy yet keeps the copies of the others, whatever
it does to the request's own file and layer. -/
theorem Separate.kept_others (separate : Separate C B clusters source s) {op : BlobOp} {ctx : SnapshotContext}
    (waiting : s.requests.stage id = .waiting op ctx) (early : op ≠ .shallowCopy) {effect : Effect}
    {files : String → Option RegularFile} (elsewhere : ∀ name, name ≠ ctx.path → files name = s.files name)
    (layers : ∀ other, other ≠ id → source' other = source other) {copies : Nat → Option Copy} {other : Nat}
    (current : s.copy other = some copy) :
    Kept C B clusters source' { s with requests := s.requests.apply id effect, files := files, copy := copies } other copy := by
  obtain ⟨path, none⟩ := separate.waiting id op ctx waiting
  have kept := separate.kept other copy current
  have different : other ≠ id := by
    rintro rfl
    rw [none early] at current
    cases current
  refine kept.frame le_rfl rfl ?_ (layers other different) (apply_others effect other different).1
    (fun entry member _ => member)
  apply elsewhere
  rw [path]
  exact separate.path_ne (separate.numbered.lt waiting) kept.used different

/-- The layer of the request may change with the event: no copy of it exists yet. -/
theorem Separate.callback (separate : Separate C B clusters source s)
    (layers : ∀ other, other ≠ id → source' other = source other) {outcome : Outcome} {setup : SetupCalls}
    (whole : ∀ n, setup.transfer ≠ .short n)
    (stepped : copyStep (.sized C B (clusters * clusterBlocks C B) clusters) s (.callback id outcome setup) = some s') :
    Separate C B clusters source' s' := by
  obtain ⟨op, ctx, waiting, early, called⟩ := copyStep_callback stepped
  obtain ⟨path, uncopied⟩ := separate.waiting id op ctx waiting
  have used := separate.numbered.lt waiting
  have deferred : ∀ effect, ∀ entry ∈ s.deferred, ∃ other copy, other ≠ id ∧ s.copy other = some copy ∧
      (s.requests.apply id effect).stage other = .cleaned ∧ entry = (copy.dev, copy.channel) := by
    intro effect entry member
    obtain ⟨other, copy, current, cleaned, same⟩ := separate.deferred entry member
    have different : other ≠ id := by
      rintro rfl
      rw [uncopied early] at current
      cases current
    exact ⟨other, copy, different, current, (apply_others effect other different).1.trans cleaned, same⟩
  rcases called with ⟨outcome', files, _, _, elsewhere, rfl⟩ | ⟨rfl, fine, accepted, channel, stored, created, rfl⟩
  · refine ⟨separate.numbered.apply used _, separate.named, separate.paths, ?_, ?_, ?_⟩
    · intro other op' ctx' waiting'
      rcases apply_waiting waiting' with ⟨rfl, next⟩ | ⟨_, old⟩
      · exact ⟨(callback_path next).trans path, fun _ => uncopied early⟩
      · exact separate.waiting other op' ctx' old
    · intro other copy current
      exact separate.kept_others waiting early elsewhere layers current
    · intro entry member
      obtain ⟨other, copy, _, current, cleaned, same⟩ := deferred _ entry member
      exact ⟨other, copy, current, cleaned, same⟩
  · obtain ⟨rfl, rfl⟩ := createChannelCb_writer rfl whole created
    have elsewhere : ∀ name, name ≠ ctx.path → Function.update s.files ctx.path
        (some (((s.files ctx.path).getD .empty).write 0 (tableBytes ClusterMap.zero))) name = s.files name := by
      intro name different
      exact Function.update_of_ne different _ _
    refine ⟨separate.numbered.apply used _, separate.named, separate.paths, ?_, ?_, ?_⟩
    · intro other op' ctx' waiting'
      rcases apply_waiting waiting' with ⟨rfl, next⟩ | ⟨different, old⟩
      · refine ⟨(callback_path next).trans path, fun notCopy => ?_⟩
        rw [startSnapshot_stage fine accepted] at next
        cases next
        exact absurd rfl notCopy
      · obtain ⟨path', uncopied'⟩ := separate.waiting other op' ctx' old
        exact ⟨path', fun notCopy => (Function.update_of_ne different _ _).trans (uncopied' notCopy)⟩
    · intro other copy current
      by_cases same : other = id
      · subst same
        simp only [Function.update_self, Option.some.injEq] at current
        subst current
        exact Kept.fresh used path (Function.update_self _ _ _) ((Function.update_self _ _ _).trans (startSnapshot_stage fine accepted))
      · simp only [Function.update_of_ne same] at current
        exact separate.kept_others waiting early elsewhere layers current
    · intro entry member
      obtain ⟨other, copy, different, current, cleaned, same⟩ := deferred _ entry member
      exact ⟨other, copy, (Function.update_of_ne different _ _).trans current, cleaned, same⟩

/-- Distinct clusters of the table fit behind it in the offset range, whatever their size. -/
theorem distinct_fit (C : ClusterSize) {copied : List Nat} (once : copied.Nodup)
    (inside : ∀ cluster ∈ copied, cluster < maxClusters) : mapBytes + copied.length * C.bytes ≤ offsetLimit := by
  have few : copied.length ≤ maxClusters := by
    have subset : copied ⊆ List.range maxClusters := fun cluster member => List.mem_range.mpr (inside cluster member)
    have bound := (List.subperm_of_subset once subset).length_le
    rwa [List.length_range] at bound
  have word := C.word
  rw [maxClusters_eq] at few
  have product : copied.length * C.bytes ≤ 2 ^ 26 * 2 ^ 32 := Nat.mul_le_mul few (by omega)
  rw [mapBytes_eq, offsetLimit]
  omega

/-- The copy after one more cluster. -/
theorem Kept.write (kept : Kept C B clusters source s id copy) {ctx : SnapshotContext}
    (waiting : s.requests.stage id = .waiting .shallowCopy ctx) (unfailed : copy.failed = false) {cluster : Nat}
    {data : Cluster} (layer : source id cluster = some data) (fresh : cluster ∉ copy.copied) {calls : WriteCalls}
    (whole : ∀ n, calls.transfer ≠ .short n) {file file' : RegularFile} (stored : s.files (s.path id) = some file)
    {status : Int} {channel : BsDevDeltaIoChannel}
    (written : bsDevDeltaWrite copy.dev copy.channel file (cluster * copy.dev.clusterSize) copy.dev.clusterSize
      (clusterBytes C data) calls = some (status, channel, file')) (stored' : s'.files (s.path id) = some file')
    (requests : s'.requests = s.requests) (path : s'.path = s.path) :
    Kept C B clusters source s' id { copy with
      channel := channel
      copied := if status = 0 then copy.copied ++ [cluster] else copy.copied
      failed := decide (status ≠ 0) } := by
  have size : copy.dev.clusterSize = clusterBlocks C B := by
    rw [kept.dev]
    exact deltaDev_sized _ _ _
  have running : s'.requests.stage id = .waiting .shallowCopy ctx := by
    rw [requests]
    exact waiting
  have unfinished : s'.requests.stage id ≠ .cleaned := by
    rw [running]
    exact Stage.noConfusion
  by_cases success : status = 0
  · subst success
    have fine := bsDevDeltaWrite_fine whole written
    subst fine
    have inside : cluster < maxClusters := by
      have positive : 0 < copy.dev.clusterSize := by
        rw [size]
        exact clusterBlocks_pos C B
      rcases bsDevDeltaWrite_cases (Nat.mul_mod_left _ _) written with ⟨refused, _⟩ | ⟨⟨below, _⟩, _⟩
      · exact absurd refused (by decide)
      · rwa [Nat.mul_div_cancel _ positive] at below
    have once : (copy.copied ++ [cluster]).Nodup := by
      rw [List.nodup_append]
      refine ⟨kept.once, List.nodup_singleton _, ?_⟩
      intro old member new single same
      rw [List.mem_singleton] at single
      exact fresh (single ▸ same ▸ member)
    have below : ∀ other ∈ copy.copied ++ [cluster], other < maxClusters := by
      intro other member
      rcases List.mem_append.mp member with old | new
      · exact kept.inside other old
      · rw [List.mem_singleton.mp new]
        exact inside
    have allocated : ∀ other ∈ copy.copied ++ [cluster], (source id other).isSome = true := by
      intro other member
      rcases List.mem_append.mp member with old | new
      · exact kept.allocated other old
      · rw [List.mem_singleton.mp new, layer]
        rfl
    obtain ⟨file₀, stored₀, recorded⟩ := kept.recorded unfailed
    cases stored.symm.trans stored₀
    have room := distinct_fit C once below
    have length : (passed C (source id) copy.copied).length + 1 = (copy.copied ++ [cluster]).length := by
      simp [passed]
    have blocks : copy.dev.blocklen = B.bytes := by
      rw [kept.dev]
      rfl
    rw [← length] at room
    obtain ⟨_, _, _, written', recorded'⟩ :=
      recorded.write blocks size inside (length_clusterBytes data) room
    rw [size] at written
    cases written.symm.trans written'
    refine ⟨?_, ?_, once, below, allocated, ?_, Or.inl ⟨ctx, running⟩, fun cleaned => absurd cleaned unfinished⟩
    · rw [requests]
      exact kept.used
    · rw [path]
      exact kept.dev
    · intro _
      refine ⟨file', by rw [path]; exact stored', ?_⟩
      simp only [↓reduceIte, passed_snoc, layer, Option.getD_some]
      exact recorded'
  · simp only [success, ↓reduceIte]
    refine ⟨?_, ?_, kept.once, kept.inside, kept.allocated, ?_, Or.inl ⟨ctx, running⟩, fun cleaned => absurd cleaned unfinished⟩
    · rw [requests]
      exact kept.used
    · rw [path]
      exact kept.dev
    · intro unfailed'
      simp [success] at unfailed'

/-- A copy found after another was changed is the changed one or an older one. -/
theorem update_copy {other : Nat} {copy' : Copy} (current : Function.update s.copy id (some copy) other = some copy') :
    (other = id ∧ copy' = copy) ∨ (other ≠ id ∧ s.copy other = some copy') := by
  by_cases same : other = id
  · subst same
    rw [Function.update_self] at current
    exact Or.inl ⟨rfl, (Option.some.inj current).symm⟩
  · rw [Function.update_of_ne same] at current
    exact Or.inr ⟨same, current⟩

theorem Separate.copyCluster (separate : Separate C B clusters source s) {cluster : Nat} {data : Cluster}
    (layer : source id cluster = some data) (fresh : ∀ copy, s.copy id = some copy → cluster ∉ copy.copied)
    {calls : WriteCalls} (whole : ∀ n, calls.transfer ≠ .short n)
    (stepped : copyStep (.sized C B (clusters * clusterBlocks C B) clusters) s
      (.copyCluster id cluster (clusterBytes C data) calls) = some s') : Separate C B clusters source s' := by
  obtain ⟨ctx, copy, file, status, channel, file', waiting, current, unfailed, stored, written, rfl⟩ :=
    copyStep_copyCluster stepped
  have kept := separate.kept id copy current
  have used := kept.used
  have named : copy.dev.filename = s.path id := by
    rw [kept.dev]
    rfl
  rw [named] at stored
  refine ⟨separate.numbered, separate.named, separate.paths, ?_, ?_, ?_⟩
  · intro other op ctx' waiting'
    obtain ⟨path, uncopied⟩ := separate.waiting other op ctx' waiting'
    refine ⟨path, fun early => ?_⟩
    have different : other ≠ id := by
      rintro rfl
      rw [waiting] at waiting'
      cases waiting'
      exact early rfl
    exact (Function.update_of_ne different _ _).trans (uncopied early)
  · intro other copy' current'
    rcases update_copy current' with ⟨rfl, rfl⟩ | ⟨different, old⟩
    · refine kept.write waiting unfailed layer (fresh copy current) whole stored written ?_ rfl rfl
      simp only [named, Function.update_self]
    · have kept' := separate.kept other copy' old
      refine kept'.frame le_rfl rfl ?_ rfl rfl (fun entry member _ => member)
      refine Function.update_of_ne ?_ _ _
      rw [named]
      exact separate.path_ne used kept'.used different
  · intro entry member
    obtain ⟨other, copy', old, cleaned, same⟩ := separate.deferred entry member
    have different : other ≠ id := by
      rintro rfl
      rw [waiting] at cleaned
      cases cleaned
    exact ⟨other, copy', (Function.update_of_ne different _ _).trans old, cleaned, same⟩

theorem Separate.copied (separate : Separate C B clusters source s) {copiedClusters : Nat}
    (stepped : copyStep (.sized C B (clusters * clusterBlocks C B) clusters) s (.copied id copiedClusters) = some s') :
    Separate C B clusters source s' := by
  obtain ⟨_, rfl⟩ := copyStep_copied stepped
  refine ⟨separate.numbered, separate.named, separate.paths, separate.waiting, ?_, separate.deferred⟩
  intro other copy current
  exact (separate.kept other copy current).frame le_rfl rfl rfl rfl rfl (fun entry member _ => member)

theorem Separate.copyEnd (separate : Separate C B clusters source s) {rc : Int}
    (stepped : copyStep (.sized C B (clusters * clusterBlocks C B) clusters) s (.copyEnd id rc) = some s') :
    Separate C B clusters source s' := by
  obtain ⟨ctx, copy, waiting, current, _, rfl⟩ := copyStep_copyEnd stepped
  have kept := separate.kept id copy current
  have cleaned : (s.requests.apply id (ubiShallowCopyCompleteCb s.requests.status ctx rc)).stage id = .cleaned :=
    Function.update_self _ _ _
  refine ⟨separate.numbered.apply kept.used _, separate.named, separate.paths, ?_, ?_, ?_⟩
  · intro other op ctx' waiting'
    rcases apply_waiting waiting' with ⟨_, next⟩ | ⟨_, old⟩
    · cases next
    · exact separate.waiting other op ctx' old
  · intro other copy' current'
    by_cases same : other = id
    · subst same
      cases current.symm.trans current'
      refine ⟨kept.used, kept.dev, kept.once, kept.inside, kept.allocated, kept.recorded, Or.inr cleaned, fun _ => Or.inl ?_⟩
      exact List.mem_append_right _ (List.mem_singleton.mpr rfl)
    · refine (separate.kept other copy' current').frame le_rfl rfl rfl rfl (apply_others _ other same).1 ?_
      intro entry member _
      exact List.mem_append_left _ member
  · intro entry member
    rcases List.mem_append.mp member with old | new
    · obtain ⟨other, copy', current', cleaned', same⟩ := separate.deferred entry old
      have different : other ≠ id := by
        rintro rfl
        rw [waiting] at cleaned'
        cases cleaned'
      exact ⟨other, copy', current', (apply_others _ other different).1.trans cleaned', same⟩
    · exact ⟨id, copy, current, cleaned, List.mem_singleton.mp new⟩

/-- The message writes the table of the copy that its channel belongs to. -/
theorem Separate.message (separate : Separate C B clusters source s)
    (stepped : copyStep (.sized C B (clusters * clusterBlocks C B) clusters) s (.message .fine) = some s') :
    Separate C B clusters source s' := by
  obtain ⟨dev, channel, rest, file, deferred, stored, rfl⟩ := copyStep_message stepped
  obtain ⟨id, copy, current, cleaned, same⟩ := separate.deferred (dev, channel) (by rw [deferred]; exact List.mem_cons_self ..)
  cases same
  have kept := separate.kept id copy current
  have named : copy.dev.filename = s.path id := by
    rw [kept.dev]
    rfl
  have writer : copy.dev.direction = .write := by
    rw [kept.dev]
    rfl
  rw [named] at stored
  refine ⟨separate.numbered, separate.named, separate.paths, separate.waiting, ?_, ?_⟩
  · intro other copy' current'
    by_cases same : other = id
    · subst same
      cases current.symm.trans current'
      have written : Function.update s.files copy.dev.filename
          (some (bsDevDeltaDestroyChannelCb copy.dev copy.channel file .fine)) (s.path other) =
          some (bsDevDeltaDestroyChannelCb copy.dev copy.channel file .fine) := by
        rw [named, Function.update_self]
      refine ⟨kept.used, kept.dev, kept.once, kept.inside, kept.allocated, ?_, kept.stage, fun _ => Or.inr ⟨_, written, ?_⟩⟩
      · intro unfailed
        obtain ⟨file', stored', recorded⟩ := kept.recorded unfailed
        cases stored.symm.trans stored'
        exact ⟨_, written, (recorded.destroy writer).2⟩
      · rw [destroyChannelCb_fine writer]
        exact write_table_holds file _
    · have kept' := separate.kept other copy' current'
      have elsewhere : s.path other ≠ copy.dev.filename := by
        rw [named]
        exact separate.path_ne kept.used kept'.used same
      refine kept'.frame le_rfl rfl (Function.update_of_ne elsewhere _ _) rfl rfl ?_
      intro entry member path
      rw [deferred] at member
      rcases List.mem_cons.mp member with rfl | later
      · exact absurd path.symm elsewhere
      · exact later
  · intro entry member
    exact separate.deferred entry (by rw [deferred]; exact List.mem_cons_of_mem _ member)

end

/-! ## The whole disk -/

section
variable {C : ClusterSize} {B : BlockLength} {dev : BsDevUring} {clusters : Nat} {s s' : Store}

theorem writePieces_frame (cow : Nat → Cow) {split : List (Nat × Nat)} {data : List UInt8} {status : Int}
    (wrote : Store.writePieces C B dev cow split data s = some (status, s')) :
    s'.copies = s.copies ∧ s'.source = s.source := by
  induction split generalizing s s' data status with
  | nil =>
    cases wrote
    exact ⟨rfl, rfl⟩
  | cons piece rest ih =>
    obtain ⟨lba, n⟩ := piece
    obtain ⟨⟨first, s₁⟩, now, later⟩ := Option.bind_eq_some_iff.mp wrote
    obtain ⟨⟨second, s₂⟩, then_, result⟩ := Option.map_eq_some_iff.mp later
    have here : s₁.copies = s.copies ∧ s₁.source = s.source := by
      simp only [Store.writePiece] at now
      split at now
      · cases now
        exact ⟨rfl, rfl⟩
      · obtain ⟨filled, _, put⟩ := Option.map_eq_some_iff.mp now
        split at put
        all_goals
          cases put
          exact ⟨rfl, rfl⟩
    obtain ⟨copies, source⟩ := ih then_
    cases result
    exact ⟨copies.trans here.1, source.trans here.2⟩

/-- The guest's requests have no part in snapshots. -/
theorem storeStep_guest {io : BdevIo} (stepped : storeStep C B dev clusters s (.guest io) = some s') :
    s'.copies = s.copies ∧ s'.source = s.source := by
  obtain ⟨result, submitted, rfl⟩ := Option.map_eq_some_iff.mp stepped
  cases io with
  | read split payload events =>
    obtain ⟨read, _, rfl⟩ := Option.map_eq_some_iff.mp submitted
    exact ⟨rfl, rfl⟩
  | write split data cow =>
    obtain ⟨⟨status, s₁⟩, wrote, rfl⟩ := Option.map_eq_some_iff.mp submitted
    exact writePieces_frame cow wrote
  | flush =>
    cases submitted
    exact ⟨rfl, rfl⟩
  | unsupported =>
    cases submitted
    exact ⟨rfl, rfl⟩

/-- Only the completion of a request's first call gives it a layer. -/
theorem source_freeze {id : Nat} {outcome : Outcome} {setup : SetupCalls} {other : Nat}
    (apart : other ≠ id ∨ ∀ ctx, s.copies.requests.stage id ≠ .waiting .createSnapshot ctx) :
    (s.freeze (.callback id outcome setup)).source other = s.source other := by
  simp only [Store.freeze]
  split
  · rename_i ctx waiting
    split
    · rcases apart with different | late
      · exact Function.update_of_ne different _ _
      · exact absurd waiting (late ctx)
    · rfl
  · rfl

theorem permits_copyCluster {id cluster : Nat} {payload : List UInt8} {calls : WriteCalls}
    (permitted : s.permits C clusters (.copyCluster id cluster payload calls) = true) :
    ∃ data, s.source id cluster = some data ∧ payload = clusterBytes C data ∧
      ∀ copy, s.copies.copy id = some copy → cluster ∉ copy.copied := by
  simp only [Store.permits] at permitted
  split at permitted
  · rename_i data copy layer current
    obtain ⟨_, same, fresh⟩ := of_decide_eq_true permitted
    refine ⟨data, layer, same, ?_⟩
    intro copy' current'
    cases current.symm.trans current'
    exact fresh
  · cases permitted

theorem separate_step (s : Store) (event : StoreEvent) (s' : Store) (separate : Separate C B clusters s.source s.copies)
    (own : OwnFiles s event) (stepped : storeStep C B dev clusters s event = some s') :
    Separate C B clusters s'.source s'.copies := by
  cases event with
  | guest io =>
    obtain ⟨copies, source⟩ := storeStep_guest stepped
    rw [copies, source]
    exact separate
  | copy event =>
    obtain ⟨permitted, copies, copied, rfl⟩ := storeStep_copy stepped
    cases event with
    | snapshot found path => exact separate.snapshot own.1 own.2 copied
    | callback id outcome setup =>
      exact separate.callback (fun other different => source_freeze (Or.inl different)) own copied
    | copyCluster id cluster payload calls =>
      obtain ⟨data, layer, rfl, fresh⟩ := permits_copyCluster permitted
      exact separate.copyCluster layer fresh own copied
    | copied id copiedClusters => exact separate.copied copied
    | copyEnd id rc => exact separate.copyEnd copied
    | message calls =>
      cases (own : calls = .fine)
      exact separate.message copied

end

end BdevUbi.Disk
