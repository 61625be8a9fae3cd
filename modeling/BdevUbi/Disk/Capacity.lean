import BdevUbi.Disk.Store
import Mathlib.Algebra.BigOperators.Group.Finset.Piecewise

/-! The clusters of a store, and who holds them.

The blob is as large as the store and thin-provisioned, so a cluster is taken when it is
first written in the live layer. A snapshot request freezes the live layer with the
clusters it has, and decoupling the request's clone takes one more for each of them. No
callback deletes a blob, and nothing else gives a cluster back.
-/

set_option autoImplicit false

namespace BdevUbi.Disk
open BdevUbi.Library BdevUbi.Device BdevUbi.Snapshot

def enospc : Int := 28

structure Space where
  requests : Requests
  live : Finset Nat
  -- how many clusters each frozen layer has, newest first
  frozen : List Nat
  -- the same for the snapshot of each request, and for its clone
  snapshot : Nat → Nat
  clone : Nat → Nat

/-- Formatting takes a snapshot of the empty blob. -/
def Space.formatted : Space := ⟨.none, ∅, [0], fun _ => 0, fun _ => 0⟩

def Space.held (s : Space) : Nat := s.live.card + s.frozen.sum + ∑ id ∈ Finset.range s.requests.issued, s.clone id

inductive SpaceEvent where
  | write (extent : Extent)
  | request (event : RequestEvent)
  -- a cluster of the snapshot is copied to the clone
  | decouple (id : Nat)

/-- The blobstore's part in a callback: a snapshot that was created is the live layer. -/
def Space.freeze (s : Space) : RequestEvent → Space
  | .callback id outcome =>
    match s.requests.stage id with
    | .waiting .createSnapshot _ =>
      if outcome.bserrno = 0 then
        { s with
          live := ∅
          frozen := s.live.card :: s.frozen
          snapshot := Function.update s.snapshot id s.live.card }
      else s
    | _ => s
  | _ => s

/-- The clone has all of its snapshot's clusters if decoupling it has succeeded. -/
def Space.permits (s : Space) : RequestEvent → Bool
  | .callback id outcome =>
    match s.requests.stage id with
    | .waiting .decoupleParent _ => outcome.bserrno ≠ 0 ∨ s.clone id = s.snapshot id
    | _ => true
  | _ => true

section
variable (C : ClusterSize) (B : BlockLength) (clusters : Nat)

/-- The cluster in the live layer, taken if it is not there and one is free. -/
def Space.takeCluster (s : Space) (cluster : Nat) : Option Space :=
  if cluster ∈ s.live then some s
  else if s.held < clusters then some { s with live := insert cluster s.live }
  else none

def Space.takeClusters : List Nat → Space → Int × Space
  | [], s => (0, s)
  | cluster :: rest, s =>
    match s.takeCluster clusters cluster with
    | some s' => Space.takeClusters rest s'
    | none => (-enospc, s)

/-- The clusters that the extent lies in, once for each block. -/
def Extent.touched (extent : Extent) : List Nat := extent.blocks.map fun block => block / clusterBlocks C B

/-- The extent ends within the `blockcnt` of the bdev. -/
def Extent.inside (extent : Extent) : Bool := extent.offsetBlocks + extent.numBlocks ≤ clusters * clusterBlocks C B

/-- A write that meets no other error. -/
def Space.submitWrite (s : Space) (extent : Extent) : IoStatus × Space :=
  let result := Space.takeClusters clusters (extent.touched C B) s
  (ubiBlobIoComplete result.1, result.2)

def spaceStep (s : Space) : SpaceEvent → Option Space
  | .write extent => if extent.inside C B clusters then some (s.submitWrite C B clusters extent).2 else none
  | .request event =>
    if s.permits event then
      (requestStep (.sized C B (clusters * clusterBlocks C B) clusters) s.requests event).map fun requests =>
        { s.freeze event with requests := requests }
    else none
  | .decouple id =>
    match s.requests.stage id with
    | .waiting .decoupleParent _ =>
      if s.clone id < s.snapshot id ∧ s.held < clusters then
        some { s with clone := Function.update s.clone id (s.clone id + 1) }
      else none
    | _ => none

end

/-! ## The accounts -/

structure Space.Sound (clusters : Nat) (s : Space) : Prop where
  numbered : s.requests.Numbered
  unused : ∀ id, s.requests.issued ≤ id → s.clone id = 0
  inside : s.live ⊆ Finset.range clusters
  held : s.held ≤ clusters
  fresh : s.requests.issued = 0 → s.frozen.sum = 0

section
variable {C : ClusterSize} {B : BlockLength} {clusters : Nat} {s s' : Space}

theorem held_insert {cluster : Nat} (absent : cluster ∉ s.live) :
    Space.held { s with live := insert cluster s.live } = s.held + 1 := by
  simp only [Space.held, Finset.card_insert_of_notMem absent]
  omega

/-- The accounts are right after a cluster was taken. -/
theorem Space.Sound.takeCluster (sound : s.Sound clusters) {cluster : Nat} (below : cluster < clusters)
    (taken : s.takeCluster clusters cluster = some s') : s'.Sound clusters := by
  simp only [Space.takeCluster] at taken
  split at taken
  · cases taken
    exact sound
  · rename_i absent
    split at taken
    · rename_i free
      cases taken
      refine ⟨sound.numbered, sound.unused, ?_, ?_, sound.fresh⟩
      · exact Finset.insert_subset (Finset.mem_range.mpr below) sound.inside
      · rw [held_insert absent]
        exact free
    · cases taken

theorem Space.Sound.takeClusters (sound : s.Sound clusters) {list : List Nat} (below : ∀ cluster ∈ list, cluster < clusters) :
    (Space.takeClusters clusters list s).2.Sound clusters := by
  induction list generalizing s with
  | nil => exact sound
  | cons cluster rest ih =>
    simp only [Space.takeClusters]
    split
    · rename_i s' taken
      apply ih
      · exact sound.takeCluster (below cluster List.mem_cons_self) taken
      · exact fun other member => below other (List.mem_cons_of_mem _ member)
    · exact sound

/-- Clusters are found exactly if there are enough for those that are not there yet. -/
theorem takeClusters_iff (room : s.held ≤ clusters) (list : List Nat) :
    (Space.takeClusters clusters list s).1 = 0 ↔ s.held + (list.toFinset \ s.live).card ≤ clusters := by
  induction list generalizing s with
  | nil => simpa [Space.takeClusters] using room
  | cons cluster rest ih =>
    rw [List.toFinset_cons]
    by_cases present : cluster ∈ s.live
    · simp only [Space.takeClusters, Space.takeCluster, present, ↓reduceIte]
      rw [ih room, Finset.insert_sdiff_of_mem _ present]
    · have needed : cluster ∈ insert cluster rest.toFinset \ s.live :=
        Finset.mem_sdiff.mpr ⟨Finset.mem_insert_self _ _, present⟩
      by_cases free : s.held < clusters
      · -- one cluster is taken, and one less is missing
        have missing : rest.toFinset \ insert cluster s.live = (insert cluster rest.toFinset \ s.live).erase cluster := by
          ext other
          simp only [Finset.mem_sdiff, Finset.mem_insert, Finset.mem_erase]
          tauto
        have positive := Finset.card_pos.mpr ⟨cluster, needed⟩
        simp only [Space.takeClusters, Space.takeCluster, present, free, ↓reduceIte]
        rw [ih (by rw [held_insert present]; exact free), held_insert present, missing, Finset.card_erase_of_mem needed]
        omega
      · have positive := Finset.card_pos.mpr ⟨cluster, needed⟩
        simp only [Space.takeClusters, Space.takeCluster, present, free, ↓reduceIte]
        constructor
        · intro success
          cases success
        · intro enough
          omega

theorem touched_lt {extent : Extent} (inside : extent.inside C B clusters = true) :
    ∀ cluster ∈ extent.touched C B, cluster < clusters := by
  intro cluster member
  obtain ⟨block, inExtent, rfl⟩ := List.mem_map.mp member
  have range := List.mem_range'_1.mp inExtent
  have stop : extent.offsetBlocks + extent.numBlocks ≤ clusters * clusterBlocks C B := by simpa [Extent.inside] using inside
  apply Nat.div_lt_of_lt_mul
  rw [Nat.mul_comm]
  omega

/-- A write succeeds exactly if there are clusters for what the live layer lacks. -/
theorem submitWrite_iff (room : s.held ≤ clusters) (extent : Extent) :
    (s.submitWrite C B clusters extent).1 = .success ↔
      s.held + ((extent.touched C B).toFinset \ s.live).card ≤ clusters := by
  rw [← takeClusters_iff room]
  by_cases fine : (Space.takeClusters clusters (extent.touched C B) s).1 = 0
  · simp [Space.submitWrite, ubiBlobIoComplete, fine]
  · simp [Space.submitWrite, ubiBlobIoComplete, fine]

theorem spaceStep_request {event : RequestEvent} (stepped : spaceStep C B clusters s (.request event) = some s') :
    ∃ requests, requestStep (.sized C B (clusters * clusterBlocks C B) clusters) s.requests event = some requests ∧
      s' = { s.freeze event with requests := requests } := by
  simp only [spaceStep] at stepped
  split at stepped
  · obtain ⟨requests, moved, rfl⟩ := Option.map_eq_some_iff.mp stepped
    exact ⟨requests, moved, rfl⟩
  · cases stepped

theorem spaceStep_decouple {id : Nat} (stepped : spaceStep C B clusters s (.decouple id) = some s') :
    (∃ ctx, s.requests.stage id = .waiting .decoupleParent ctx) ∧ s.held < clusters ∧
      s' = { s with clone := Function.update s.clone id (s.clone id + 1) } := by
  simp only [spaceStep] at stepped
  split at stepped
  · rename_i ctx waiting
    split at stepped
    · rename_i free
      cases stepped
      exact ⟨⟨ctx, waiting⟩, free.2, rfl⟩
    · cases stepped
  · cases stepped

/-- Freezing moves clusters and takes none. -/
theorem held_freeze (s : Space) (event : RequestEvent) : (s.freeze event).held = s.held := by
  unfold Space.freeze
  split
  · split
    · split
      · simp only [Space.held, Finset.card_empty, List.sum_cons]
        omega
      · rfl
    · rfl
  · rfl

theorem freeze_frame (s : Space) (event : RequestEvent) :
    (s.freeze event).requests = s.requests ∧ (s.freeze event).clone = s.clone ∧ (s.freeze event).live ⊆ s.live := by
  unfold Space.freeze
  split
  · split
    · split
      · exact ⟨rfl, rfl, Finset.empty_subset _⟩
      · exact ⟨rfl, rfl, subset_rfl⟩
    · exact ⟨rfl, rfl, subset_rfl⟩
  · exact ⟨rfl, rfl, subset_rfl⟩

theorem Space.Sound.request (sound : s.Sound clusters) (event : RequestEvent)
    (stepped : spaceStep C B clusters s (.request event) = some s') : s'.Sound clusters := by
  obtain ⟨requests, moved, rfl⟩ := spaceStep_request stepped
  have numbered := numbered_step s.requests event requests sound.numbered moved
  cases event with
  | snapshot found path =>
    cases moved
    -- a new request has no clone yet
    refine ⟨numbered, fun id above => sound.unused id (Nat.le_of_succ_le above), sound.inside, ?_, ?_⟩
    · have same : ∑ id ∈ Finset.range (s.requests.issued + 1), s.clone id =
          ∑ id ∈ Finset.range s.requests.issued, s.clone id := by
        rw [Finset.sum_range_succ, sound.unused _ le_rfl, Nat.add_zero]
      have before := sound.held
      rw [Space.held, ← same] at before
      exact before
    · intro none
      cases none
  | callback id outcome =>
    obtain ⟨op, ctx, waiting, rfl⟩ := requestStep_callback moved
    obtain ⟨requests, clone, live⟩ := freeze_frame s (.callback id outcome)
    have used := sound.numbered.lt waiting
    refine ⟨numbered, ?_, live.trans sound.inside, ?_, ?_⟩
    · intro other above
      simp only [clone]
      exact sound.unused other above
    · have held := held_freeze s (.callback id outcome)
      simp only [Space.held, requests] at held
      have before := sound.held
      rw [Space.held, ← held] at before
      exact before
    · intro none
      exact absurd (lt_of_lt_of_eq used none) (Nat.not_lt_zero id)
  | copied id copiedClusters =>
    obtain ⟨_, rfl⟩ := requestStep_copied moved
    exact ⟨numbered, sound.unused, sound.inside, sound.held, sound.fresh⟩

theorem Space.Sound.decouple (sound : s.Sound clusters) (id : Nat)
    (stepped : spaceStep C B clusters s (.decouple id) = some s') : s'.Sound clusters := by
  obtain ⟨⟨_, waiting⟩, free, rfl⟩ := spaceStep_decouple stepped
  have used := sound.numbered.lt waiting
  refine ⟨sound.numbered, ?_, sound.inside, ?_, sound.fresh⟩
  · intro other above
    have different : other ≠ id := Nat.ne_of_gt (lt_of_lt_of_le used above)
    simp only [Function.update_of_ne different]
    exact sound.unused other above
  · have member := Finset.mem_range.mpr used
    have taken : ∑ other ∈ Finset.range s.requests.issued, Function.update s.clone id (s.clone id + 1) other =
        ∑ other ∈ Finset.range s.requests.issued, s.clone other + 1 := by
      rw [Finset.sum_update_of_mem member, ← Finset.add_sum_erase _ _ member, Finset.sdiff_singleton_eq_erase]
      omega
    simp only [Space.held] at free ⊢
    omega

end

theorem space_step {C : ClusterSize} {B : BlockLength} {clusters : Nat} (s : Space) (event : SpaceEvent) (s' : Space)
    (sound : s.Sound clusters) (stepped : spaceStep C B clusters s event = some s') : s'.Sound clusters := by
  cases event with
  | write extent =>
    simp only [spaceStep] at stepped
    split at stepped
    · rename_i inside
      cases stepped
      exact sound.takeClusters (touched_lt inside)
    · cases stepped
  | request event => exact sound.request event stepped
  | decouple id => exact sound.decouple id stepped

theorem sound_formatted (clusters : Nat) : Space.formatted.Sound clusters where
  numbered := numbered_none
  unused := fun _ _ => rfl
  inside := Finset.empty_subset _
  held := Nat.zero_le _
  fresh := fun _ => rfl

/-- Before the first request only the live layer holds clusters, and it fits. -/
theorem Space.Sound.unshared {clusters : Nat} {s : Space} (sound : s.Sound clusters) (none : s.requests.issued = 0)
    {needed : Finset Nat} (below : needed ⊆ Finset.range clusters) : s.held + (needed \ s.live).card ≤ clusters := by
  have held : s.held = s.live.card := by
    simp only [Space.held, none, sound.fresh none, Finset.range_zero, Finset.sum_empty, Nat.add_zero]
  calc s.held + (needed \ s.live).card
    _ = (needed ∪ s.live).card := by rw [held, Nat.add_comm, Finset.card_sdiff_add_card]
    _ ≤ (Finset.range clusters).card := Finset.card_le_card (Finset.union_subset below sound.inside)
    _ = clusters := Finset.card_range clusters

/-- After any history the clusters held by the live layer, the frozen layers and the clones
are within the store, and the next write finds what it needs exactly if there is room for
that next to them. Before the first snapshot request there always is. -/
theorem write_finds_clusters_iff (C : ClusterSize) (B : BlockLength) (clusters : Nat) (events : List SpaceEvent) (s : Space)
    (ran : run (spaceStep C B clusters) .formatted events = some s) (extent : Extent)
    (inside : extent.inside C B clusters = true) :
    s.held ≤ clusters ∧
    ((s.submitWrite C B clusters extent).1 = .success ↔
      s.held + ((extent.touched C B).toFinset \ s.live).card ≤ clusters) ∧
    (s.requests.issued = 0 → (s.submitWrite C B clusters extent).1 = .success) := by
  have sound : s.Sound clusters := run_invariant space_step (sound_formatted clusters) ran
  refine ⟨sound.held, submitWrite_iff sound.held extent, fun none => ?_⟩
  rw [submitWrite_iff sound.held]
  apply sound.unshared none
  intro cluster member
  exact Finset.mem_range.mpr (touched_lt inside cluster (List.mem_toFinset.mp member))

/-- The guest writes its first cluster, and a snapshot of it is taken and copied to the end. -/
def writtenAndSnapshotted : List SpaceEvent :=
  [.write ⟨0, 1⟩, .request (.snapshot true "delta"), .request (.callback 0 .fine), .request (.callback 0 .fine),
    .request (.callback 0 .fine), .request (.callback 0 .fine), .decouple 0, .request (.callback 0 .fine),
    .request (.callback 0 .fine)]

/-- In three clusters the frozen layer and the clone leave room for one more. -/
theorem write_finds_clusters_iff_snapshotted :
    ∃ s, run (spaceStep .page .page 3) .formatted writtenAndSnapshotted = some s ∧
      (s.requests.stage 0 = .cleaned ∧ s.held = 2 ∧ s.live = ∅) ∧
      (s.submitWrite .page .page 3 ⟨0, 1⟩).1 = .success ∧ (s.submitWrite .page .page 3 ⟨1, 2⟩).1 ≠ .success := by
  refine ⟨_, rfl, ⟨rfl, rfl, rfl⟩, ?_, ?_⟩
  · exact (write_finds_clusters_iff .page .page 3 writtenAndSnapshotted _ rfl ⟨0, 1⟩ rfl).2.1.mpr (by decide)
  · intro found
    exact absurd ((write_finds_clusters_iff .page .page 3 writtenAndSnapshotted _ rfl ⟨1, 2⟩ rfl).2.1.mp found) (by decide)

/-- A store of two clusters whose guest has written one of them and has taken a snapshot
of it is full, and so is a store of one cluster after a snapshot without a path. -/
theorem snapshots_use_up_space :
    (Extent.inside .page .page 1 ⟨0, 1⟩ = true ∧ Extent.inside .page .page 2 ⟨1, 1⟩ = true) ∧
    (run (spaceStep .page .page 1) .formatted
      [.write ⟨0, 1⟩, .request (.snapshot true ""), .request (.callback 0 .fine)]).map
        (fun s => (s.requests.acts 0, (s.submitWrite .page .page 1 ⟨0, 1⟩).1)) =
      some ([.issue .createSnapshot, .answer 0, .freeContext], .failed) ∧
    (run (spaceStep .page .page 2) .formatted writtenAndSnapshotted).map
        (fun s => (s.requests.stage 0, (s.submitWrite .page .page 2 ⟨1, 1⟩).1)) = some (.cleaned, .failed) := by
  exact ⟨⟨rfl, rfl⟩, rfl, rfl⟩

end BdevUbi.Disk
