import BdevUbi.Disk.Saving

/-! Snapshot requests that run to their end.

From a state with no message left to run, a request can save any finite live layer. The
run is built stage by stage; each stage gives the state it ends in up to the record of
the requests.
-/

set_option autoImplicit false

namespace BdevUbi.Disk
open BdevUbi.Library BdevUbi.Device BdevUbi.Snapshot RegularFile

def Store.withRequests (s : Store) (requests : Requests) : Store :=
  { s with copies := { s.copies with requests := requests } }

/-- The copy of a request and its file. -/
def Store.withCopy (s : Store) (id : Nat) (path : String) (file : RegularFile) (copy : Copy) : Store :=
  { s with copies := { s.copies with
      files := Function.update s.copies.files path (some file)
      copy := Function.update s.copies.copy id (some copy) } }

/-- The clusters passed on by a copy, one after the other. -/
def passOn (C : ClusterSize) (layer : Layer) (id : Nat) (clusters : List Nat) : List StoreEvent :=
  clusters.map fun cluster => .copy (.copyCluster id cluster (clusterBytes C ((layer cluster).getD fun _ => 0)) .fine)

/-- The live layer frozen for a request. -/
def Store.frozenFor (s : Store) (id : Nat) : Store :=
  { s with
    live := fun _ => none
    frozen := s.live :: s.frozen
    source := Function.update s.source id s.live }

section
variable {C : ClusterSize} {B : BlockLength} {dev : BsDevUring} {clusters : Nat} {s : Store} {id : Nat}

/-- A callback that neither freezes a layer nor starts a copy. -/
theorem storeStep_callback {op next : BlobOp} {ctx ctx' : SnapshotContext}
    (waiting : s.copies.requests.stage id = .waiting op ctx) {effect : Effect}
    (middle : op ≠ .createSnapshot ∧ op ≠ .decoupleParent ∧ op ≠ .shallowCopy)
    (called : op.callback (.sized C B (clusters * clusterBlocks C B) clusters) s.copies.requests.status ctx .fine = effect)
    (stage : effect.stage = .waiting next ctx') :
    ∃ requests, storeStep C B dev clusters s (.copy (.callback id .fine .fine)) = some (s.withRequests requests) ∧
      requests.stage id = .waiting next ctx' ∧ requests.issued = s.copies.requests.issued := by
  obtain ⟨notFirst, notLast, notCopy⟩ := middle
  refine ⟨s.copies.requests.apply id effect, ?_, (Function.update_self _ _ _).trans stage, rfl⟩
  cases op with
  | createSnapshot => exact absurd rfl notFirst
  | decoupleParent => exact absurd rfl notLast
  | shallowCopy => exact absurd rfl notCopy
  | createClone | openBlob | closeBlob =>
    simp only [storeStep, Store.permits, Store.freeze, copyStep, requestStep, waiting, ↓reduceIte, Option.map_some,
      Store.withRequests, called]

/-- The four callbacks before the copy, all of them successful. -/
theorem prepared_run {path : String} (named : path ≠ "")
    (waiting : s.copies.requests.stage id = .waiting .createSnapshot ⟨path, 0, 0, false, none⟩) :
    ∃ requests, run (storeStep C B dev clusters) s (List.replicate 4 (.copy (.callback id .fine .fine))) =
        some ((s.frozenFor id).withRequests requests) ∧
      requests.stage id = .waiting .decoupleParent ⟨path, 0, 0, true, none⟩ ∧
      requests.issued = s.copies.requests.issued := by
  have first : ∃ requests, storeStep C B dev clusters s (.copy (.callback id .fine .fine)) =
        some ((s.frozenFor id).withRequests requests) ∧
      requests.stage id = .waiting .createClone ⟨path, 0, 0, true, none⟩ ∧ requests.issued = s.copies.requests.issued := by
    refine ⟨s.copies.requests.apply id ⟨s.copies.requests.status, [.allocChannel, .issue .createClone],
      .waiting .createClone ⟨path, 0, 0, true, none⟩⟩, ?_, Function.update_self _ _ _, rfl⟩
    simp only [storeStep, Store.permits, Store.freeze, copyStep, requestStep, waiting, ↓reduceIte, Option.map_some,
      BlobOp.callback, ubiSnapshotCreateCb, Outcome.fine, named, ne_eq, not_true_eq_false, Store.withRequests, Store.frozenFor]
  obtain ⟨r₁, step₁, stage₁, issued₁⟩ := first
  obtain ⟨r₂, step₂, stage₂, issued₂⟩ := @storeStep_callback C B dev clusters ((s.frozenFor id).withRequests r₁) id
    _ _ _ _ stage₁ _ (by decide) rfl rfl
  obtain ⟨r₃, step₃, stage₃, issued₃⟩ := @storeStep_callback C B dev clusters ((s.frozenFor id).withRequests r₂) id
    _ _ _ _ stage₂ _ (by decide) rfl rfl
  obtain ⟨r₄, step₄, stage₄, issued₄⟩ := @storeStep_callback C B dev clusters ((s.frozenFor id).withRequests r₃) id
    _ _ _ _ stage₃ _ (by decide) rfl rfl
  refine ⟨r₄, ?_, stage₄, issued₄.trans (issued₃.trans (issued₂.trans issued₁))⟩
  exact run_cons.mpr ⟨_, step₁, run_cons.mpr ⟨_, step₂, run_cons.mpr ⟨_, step₃, run_cons.mpr ⟨_, step₄, rfl⟩⟩⟩⟩

theorem started_run {path : String} {ctx : SnapshotContext}
    (waiting : s.copies.requests.stage id = .waiting .decoupleParent ctx) (same : ctx.path = path) :
    ∃ requests file ctx', storeStep C B dev clusters s (.copy (.callback id .fine .fine)) =
        some ((s.withRequests requests).withCopy id path file
          ⟨(UbiBdev.sized C B (clusters * clusterBlocks C B) clusters).deltaDev path, ⟨mapBytes, .zero, false⟩, [], false⟩) ∧
      requests.stage id = .waiting .shallowCopy ctx' ∧ requests.issued = s.copies.requests.issued := by
  subst same
  have started := @copyStep_start (.sized C B (clusters * clusterBlocks C B) clusters) s.copies id ctx waiting
  have stepped := @storeStep_of_copyStep C B dev s clusters (.callback id .fine .fine) _ rfl started
  have unfrozen : s.freeze (.callback id .fine .fine) = s := by
    simp only [Store.freeze, waiting]
  rw [unfrozen] at stepped
  exact ⟨s.copies.requests.apply id (ubiStartSnapshot (.sized C B (clusters * clusterBlocks C B) clusters)
      s.copies.requests.status ctx 0 0), ((s.copies.files ctx.path).getD .empty).write 0 (tableBytes ClusterMap.zero),
    { ctx with shallowCopyBsDev := some ((UbiBdev.sized C B (clusters * clusterBlocks C B) clusters).deltaDev ctx.path) },
    stepped, Function.update_self _ _ _, rfl⟩

/-- Clusters that are distinct and allocated are passed on one by one, all with success. -/
theorem passOn_run {path : String} {ctx : SnapshotContext} {layer : Layer}
    (small : ¬ (C.bytes : Int).bmod (2 ^ 32) < 0) (waiting : s.copies.requests.stage id = .waiting .shallowCopy ctx)
    (source : s.source id = layer) {file : RegularFile} {copy : Copy} {ks : List Nat}
    (dev' : copy.dev = (UbiBdev.sized C B (clusters * clusterBlocks C B) clusters).deltaDev path)
    (unfailed : copy.failed = false) (recorded : Recorded C.bytes copy.channel file (passed C layer copy.copied))
    (once : (copy.copied ++ ks).Nodup)
    (valid : ∀ cluster ∈ copy.copied ++ ks, cluster < clusters ∧ cluster < maxClusters ∧ (layer cluster).isSome = true) :
    ∃ file' copy', run (storeStep C B dev clusters) (s.withCopy id path file copy) (passOn C layer id ks) =
        some (s.withCopy id path file' copy') ∧ copy'.dev = copy.dev ∧ copy'.failed = false ∧
      copy'.copied = copy.copied ++ ks := by
  induction ks generalizing file copy with
  | nil => exact ⟨file, copy, rfl, rfl, unfailed, (List.append_nil _).symm⟩
  | cons cluster rest ih =>
    obtain ⟨below, inside, allocated⟩ := valid cluster (by simp)
    obtain ⟨data, layerData⟩ := Option.isSome_iff_exists.mp allocated
    have fresh : cluster ∉ copy.copied := by
      intro member
      have apart := (List.nodup_append.mp once).2.2 cluster member cluster (List.mem_cons_self ..)
      exact apart rfl
    have once' : ((copy.copied ++ [cluster]) ++ rest).Nodup := by
      rw [List.append_assoc]
      exact once
    have valid' : ∀ other ∈ (copy.copied ++ [cluster]) ++ rest,
        other < clusters ∧ other < maxClusters ∧ (layer other).isSome = true := by
      rw [List.append_assoc]
      exact valid
    have size : copy.dev.clusterSize = clusterBlocks C B := by
      rw [dev']
      exact deltaDev_sized _ _ _
    have blocks : copy.dev.blocklen = B.bytes := by
      rw [dev']
      rfl
    have room : mapBytes + ((passed C layer copy.copied).length + 1) * C.bytes ≤ offsetLimit := by
      have fit := distinct_fit C (List.nodup_append.mp once').1
        (fun other member => (valid' other (List.mem_append_left _ member)).2.1)
      simpa [passed] using fit
    obtain ⟨status, channel, file', written, recorded'⟩ :=
      recorded.write blocks size inside (length_clusterBytes data) room
    have success : status = 0 := by
      have bound : copy.channel.position + C.bytes ≤ offsetLimit := by
        rw [recorded.position, Nat.add_assoc, ← Nat.succ_mul]
        exact room
      have exact' := @bsDevDeltaWrite_cluster C B copy.dev copy.channel file blocks size cluster inside _
        (length_clusterBytes data) bound
      rw [written, if_neg small] at exact'
      cases exact'
      rfl
    subst success
    have named : copy.dev.filename = path := by
      rw [dev']
      rfl
    have current : (s.withCopy id path file copy).copies.copy id = some copy := Function.update_self _ _ _
    have stored : (s.withCopy id path file copy).copies.files copy.dev.filename = some file := by
      rw [named]
      exact Function.update_self _ _ _
    rw [← size] at written
    have stepped := @copyStep_write (.sized C B (clusters * clusterBlocks C B) clusters) (s.withCopy id path file copy).copies
      id ctx waiting copy current unfailed file file' stored cluster (clusterBytes C data) .fine channel written
    have permitted : (s.withCopy id path file copy).permits C clusters (.copyCluster id cluster (clusterBytes C data) .fine) =
        true := by
      have layer' : (s.withCopy id path file copy).source id cluster = some data := by
        rw [← layerData, ← source]
        rfl
      simp only [Store.permits, layer', current, decide_eq_true_eq]
      exact ⟨below, trivial, fresh⟩
    have first := @storeStep_of_copyStep C B dev _ clusters _ _ permitted stepped
    have next : storeStep C B dev clusters (s.withCopy id path file copy)
        (.copy (.copyCluster id cluster (clusterBytes C ((layer cluster).getD fun _ => 0)) .fine)) =
        some (s.withCopy id path file' ⟨copy.dev, channel, copy.copied ++ [cluster], false⟩) := by
      rw [layerData, Option.getD_some, first]
      simp only [Store.freeze, Store.withCopy, named, Function.update_idem]
    obtain ⟨file'', copy'', ran, dev'', unfailed'', copied⟩ := @ih file' ⟨copy.dev, channel, copy.copied ++ [cluster], false⟩ dev' rfl
      (by rw [passed_snoc, layerData]; exact recorded') once' valid'
    refine ⟨file'', copy'', run_cons.mpr ⟨_, next, ran⟩, dev'', unfailed'', ?_⟩
    rw [copied, List.append_assoc]
    rfl

/-- The end of a copy that has passed on all clusters, and the message that follows. -/
theorem finished_run {path : String} {ctx : SnapshotContext}
    (waiting : s.copies.requests.stage id = .waiting .shallowCopy ctx) (drained : s.copies.deferred = []) {file : RegularFile}
    {copy : Copy} (named : copy.dev.filename = path) (unfailed : copy.failed = false)
    (complete : ∀ cluster, cluster < clusters → (s.source id cluster).isSome = true → cluster ∈ copy.copied) :
    ∃ requests file', run (storeStep C B dev clusters) (s.withCopy id path file copy)
        [.copy (.copyEnd id 0), .copy (.message .fine)] = some ((s.withRequests requests).withCopy id path file' copy) ∧
      requests.issued = s.copies.requests.issued := by
  have current : (s.withCopy id path file copy).copies.copy id = some copy := Function.update_self _ _ _
  have ended := @copyStep_end (.sized C B (clusters * clusterBlocks C B) clusters) (s.withCopy id path file copy).copies id ctx
    waiting copy current unfailed
  have permitted : (s.withCopy id path file copy).permits C clusters (.copyEnd id 0) = true := by
    simp only [Store.permits, current, decide_eq_true_eq]
    intro _ cluster member
    exact complete cluster (List.mem_range.mp member)
  have first := @storeStep_of_copyStep C B dev _ clusters _ _ permitted ended
  refine ⟨s.copies.requests.apply id (ubiShallowCopyCompleteCb s.copies.requests.status ctx 0),
    bsDevDeltaDestroyChannelCb copy.dev copy.channel file .fine, run_cons.mpr ⟨_, first, run_cons.mpr ⟨_, ?_, rfl⟩⟩, rfl⟩
  simp only [storeStep, Store.permits, ↓reduceIte, Store.freeze, Store.withCopy, Store.withRequests, copyStep, drained,
    List.nil_append, named, Function.update_self, Function.update_idem, Option.map_some]

/-- The events of a request that runs to its end. -/
def requestEvents (C : ClusterSize) (layer : Layer) (id : Nat) (ks : List Nat) : List StoreEvent :=
  List.replicate 4 (.copy (.callback id .fine .fine)) ++ .copy (.callback id .fine .fine) ::
    (passOn C layer id ks ++ [.copy (.copyEnd id 0), .copy (.message .fine)])

/-- Any finite live layer can be saved: from a state with no message left, a request for a
snapshot can run to its end. -/
theorem request_run (small : ¬ (C.bytes : Int).bmod (2 ^ 32) < 0) {path : String} (named : path ≠ "")
    (drained : s.copies.deferred = []) {ks : List Nat} (once : ks.Nodup)
    (valid : ∀ cluster ∈ ks, cluster < clusters ∧ cluster < maxClusters ∧ (s.live cluster).isSome = true)
    (complete : ∀ cluster, cluster < clusters → (s.live cluster).isSome = true → cluster ∈ ks) :
    ∃ asked final, storeStep C B dev clusters s (.copy (.snapshot true path)) = some asked ∧
      asked.copies.requests.stage s.copies.requests.issued = .waiting .createSnapshot ⟨path, 0, 0, false, none⟩ ∧
      asked.live = s.live ∧ asked.frozen = s.frozen ∧ asked.copies.files = s.copies.files ∧
      run (storeStep C B dev clusters) asked (requestEvents C s.live s.copies.requests.issued ks) = some final ∧
      final.copies.deferred = [] ∧ final.live = (fun _ => none) ∧ final.frozen = s.live :: s.frozen ∧
      final.copies.path = Function.update s.copies.path s.copies.requests.issued path ∧
      final.copies.requests.issued = s.copies.requests.issued + 1 ∧
      ∀ name, name ≠ path → final.copies.files name = s.copies.files name := by
  let asked : Store := { s with copies := { s.copies with
    requests := { s.copies.requests.apply s.copies.requests.issued
      (bdevUbiSnapshot s.copies.requests.status true path) with issued := s.copies.requests.issued + 1 }
    path := Function.update s.copies.path s.copies.requests.issued path } }
  have stage : asked.copies.requests.stage s.copies.requests.issued = .waiting .createSnapshot ⟨path, 0, 0, false, none⟩ :=
    Function.update_self _ _ _
  obtain ⟨r₁, prepared, stage₁, issued₁⟩ := @prepared_run C B dev clusters asked _ path named stage
  obtain ⟨r₂, file, ctx, started, stage₂, issued₂⟩ := @started_run C B dev clusters ((asked.frozenFor _).withRequests r₁) _ path
    _ stage₁ rfl
  have source : (((asked.frozenFor s.copies.requests.issued).withRequests r₁).withRequests r₂).source s.copies.requests.issued =
      s.live := Function.update_self _ _ _
  obtain ⟨file', copy, copied, dev', unfailed, all⟩ := @passOn_run C B dev clusters
    (((asked.frozenFor s.copies.requests.issued).withRequests r₁).withRequests r₂) s.copies.requests.issued path ctx s.live small
    stage₂ source file
    ⟨(UbiBdev.sized C B (clusters * clusterBlocks C B) clusters).deltaDev path, ⟨mapBytes, .zero, false⟩, [], false⟩ ks rfl rfl
    (recorded_fresh C.bytes file) once valid
  rw [List.nil_append] at all
  obtain ⟨r₃, file'', finished, issued₃⟩ := @finished_run C B dev clusters
    (((asked.frozenFor s.copies.requests.issued).withRequests r₁).withRequests r₂) s.copies.requests.issued path ctx stage₂ drained
    file' copy (by rw [dev']; rfl) unfailed (by rw [source, all]; exact complete)
  refine ⟨asked, _, rfl, stage, rfl, rfl, rfl, run_append.mpr ⟨_, prepared, run_cons.mpr ⟨_, started,
    run_append.mpr ⟨_, copied, finished⟩⟩⟩, drained, rfl, rfl, rfl, ?_, ?_⟩
  · exact issued₃.trans (issued₂.trans issued₁)
  · intro name different
    exact Function.update_of_ne different _ _

end

end BdevUbi.Disk
