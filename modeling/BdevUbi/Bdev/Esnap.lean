import BdevUbi.Device.Geometry
import BdevUbi.Library.Transitions

/-! When the blobstore asks for an external snapshot, and what `ubi_esnap_dev_create` then
finds.

The callback is called from inside the blobstore, each time a blob that is a clone of an
external snapshot is opened. It reads `ubi_bdev->blobstore`, which `ubi_bs_init_complete`
sets. The create flow is cut here at the blobstore's own steps, in any order.
-/

set_option autoImplicit false

namespace BdevUbi.Bdev
open BdevUbi.Library

structure StoredBlob where
  id : Nat
  -- a clone of an external snapshot
  esnap : Bool
  deriving DecidableEq, Repr

/-- What is on the base bdev; the cluster size is a `uint32_t` there. -/
structure StoreImage where
  clusterSize : Nat
  word : clusterSize < 2 ^ 32
  blobs : List StoredBlob

/-- A new store has the default cluster size of 1 MiB and no blobs. -/
def StoreImage.formatted : StoreImage := ⟨1024 * 1024, by decide, []⟩

/-- The outstanding call of the flow. `spdk_bs_load` has blobs that it has still to open. -/
inductive CreatePhase where
  | start
  | bsInit
  | bsLoad (unopened : List StoredBlob)
  | iterFirst
  | createBlob
  | createSnapshot
  | openBlob
  | finished
  deriving DecidableEq, Repr

structure EsnapFlow where
  phase : CreatePhase
  -- `ubi_bdev->blobstore`, NULL at first
  blobstore : Option StoreImage
  blobs : List StoredBlob
  -- the cluster sizes that `bs_dev_uring_create` was called with; none for a NULL blobstore
  calls : List (Option Nat)

def EsnapFlow.start : EsnapFlow := ⟨.start, none, [], []⟩

/-- `spdk_bs_get_cluster_size` of the field, kept in a `uint32_t`. -/
def ubiEsnapClusterSize (blobstore : Option StoreImage) : Option Nat := blobstore.map fun bs => bs.clusterSize % 2 ^ 32

def EsnapFlow.opens (s : EsnapFlow) (blob : StoredBlob) : EsnapFlow :=
  if blob.esnap then { s with calls := s.calls ++ [ubiEsnapClusterSize s.blobstore] } else s

inductive EsnapEvent where
  | begin (calloc strdup : Bool) (createBsDev : Int)
  | opens (index : Nat)
  | complete (bserrno : Int)
  deriving DecidableEq, Repr

/-- The store that the flow works on once it has it. -/
def openedStore (formatBdev : Bool) (found : StoreImage) : StoreImage := if formatBdev then .formatted else found

/-- The phases of `ubi_bs_init_complete` and the callbacks behind it. -/
def EsnapFlow.bsInitComplete (s : EsnapFlow) (formatBdev : Bool) (bs : StoreImage) (bserrno : Int) : EsnapFlow :=
  if bserrno ≠ 0 then { s with phase := .finished }
  else { s with phase := if formatBdev then .createBlob else .iterFirst, blobstore := some bs, blobs := bs.blobs }

def EsnapFlow.complete (s : EsnapFlow) (formatBdev : Bool) (found : StoreImage) (bserrno : Int) : Option EsnapFlow :=
  match s.phase with
  | .start | .finished => none
  | .bsInit => some (s.bsInitComplete formatBdev (openedStore formatBdev found) bserrno)
  | .bsLoad unopened =>
    -- every blob has been opened before the load succeeds
    if bserrno = 0 ∧ unopened ≠ [] then none
    else some (s.bsInitComplete formatBdev (openedStore formatBdev found) bserrno)
  | .createBlob =>
    if bserrno ≠ 0 then some { s with phase := .finished }
    else some { s with phase := .createSnapshot, blobs := ⟨0, true⟩ :: s.blobs }
  | .createSnapshot =>
    if bserrno ≠ 0 then some { s with phase := .finished }
    else some { s with phase := .openBlob, blobs := ⟨1, true⟩ :: s.blobs }
  | .iterFirst | .openBlob => some { s with phase := .finished }

def esnapStep (formatBdev : Bool) (found : StoreImage) (s : EsnapFlow) : EsnapEvent → Option EsnapFlow
  | .begin calloc strdup createBsDev =>
    match s.phase with
    | .start =>
      if calloc = false ∨ strdup = false ∨ createBsDev ≠ 0 then some { s with phase := .finished }
      else some { s with phase := if formatBdev then .bsInit else .bsLoad found.blobs }
    | _ => none
  | .opens index =>
    match s.phase with
    | .start | .bsInit | .finished => none
    | .bsLoad unopened =>
      unopened[index]?.map fun blob => { s.opens blob with phase := .bsLoad (unopened.eraseIdx index) }
    | .iterFirst | .createBlob | .createSnapshot | .openBlob => s.blobs[index]?.map s.opens
  | .complete bserrno => s.complete formatBdev found bserrno

/-- Every call had a blobstore, and passed on the cluster size of the store being opened. -/
def EsnapFlow.Ready (store : StoreImage) (s : EsnapFlow) : Prop := ∀ call ∈ s.calls, call = some store.clusterSize

/-! ## When the field is set -/

def CreatePhase.pastInit : CreatePhase → Bool
  | .iterFirst | .createBlob | .createSnapshot | .openBlob => true
  | _ => false

/-- Behind the callback the field is set; before it only a load can be opening blobs, and
those are not clones of the image. -/
structure EsnapFlow.Sound (formatBdev : Bool) (found : StoreImage) (s : EsnapFlow) : Prop where
  ready : s.Ready (openedStore formatBdev found)
  set : s.phase.pastInit = true → s.blobstore = some (openedStore formatBdev found)
  loading : ∀ unopened, s.phase = .bsLoad unopened → ∀ blob ∈ unopened, blob.esnap = false

section
variable {formatBdev : Bool} {found : StoreImage} {s s' : EsnapFlow}

theorem ready_opens_plain (ready : s.Ready (openedStore formatBdev found)) {blob : StoredBlob} (plain : blob.esnap = false) :
    (s.opens blob).Ready (openedStore formatBdev found) := by
  rw [EsnapFlow.opens, plain]
  exact ready

theorem ready_opens_set (ready : s.Ready (openedStore formatBdev found)) (set : s.blobstore = some (openedStore formatBdev found))
    (blob : StoredBlob) : (s.opens blob).Ready (openedStore formatBdev found) := by
  unfold EsnapFlow.opens
  split
  · intro call member
    cases List.mem_append.mp member with
    | inl before => exact ready call before
    | inr last =>
      rw [List.mem_singleton.mp last, set, ubiEsnapClusterSize, Option.map_some, Nat.mod_eq_of_lt (openedStore formatBdev found).word]
  · exact ready

theorem opens_frame (s : EsnapFlow) (blob : StoredBlob) :
    (s.opens blob).phase = s.phase ∧ (s.opens blob).blobstore = s.blobstore := by
  unfold EsnapFlow.opens
  split <;> exact ⟨rfl, rfl⟩

theorem EsnapFlow.Sound.begin (sound : s.Sound formatBdev found)
    (plain : formatBdev = true ∨ ∀ blob ∈ found.blobs, blob.esnap = false) {calloc strdup : Bool} {createBsDev : Int}
    (stepped : esnapStep formatBdev found s (.begin calloc strdup createBsDev) = some s') : s'.Sound formatBdev found := by
  simp only [esnapStep] at stepped
  split at stepped
  · split at stepped
    · cases stepped
      exact ⟨sound.ready, fun past => (by cases past), fun _ same => (by cases same)⟩
    · cases stepped
      cases formatBdev with
      | true => exact ⟨sound.ready, fun past => (by cases past), fun _ same => (by cases same)⟩
      | false =>
        refine ⟨sound.ready, fun past => (by cases past), fun unopened same => ?_⟩
        cases same
        exact plain.resolve_left (by decide)
  · cases stepped

theorem EsnapFlow.Sound.opens (sound : s.Sound formatBdev found) {index : Nat}
    (stepped : esnapStep formatBdev found s (.opens index) = some s') : s'.Sound formatBdev found := by
  have later (past : s.phase.pastInit = true) (opened : s.blobs[index]?.map s.opens = some s') : s'.Sound formatBdev found := by
    obtain ⟨blob, _, rfl⟩ := Option.map_eq_some_iff.mp opened
    have set := sound.set past
    obtain ⟨phase, blobstore⟩ := opens_frame s blob
    refine ⟨ready_opens_set sound.ready set blob, fun _ => blobstore.trans set, fun unopened same => ?_⟩
    rw [phase] at same
    rw [same] at past
    cases past
  simp only [esnapStep] at stepped
  split at stepped
  · cases stepped
  · cases stepped
  · cases stepped
  · rename_i unopened loading
    obtain ⟨blob, member, rfl⟩ := Option.map_eq_some_iff.mp stepped
    have plain := sound.loading unopened loading
    refine ⟨ready_opens_plain sound.ready (plain blob (List.mem_of_getElem? member)), fun past => (by cases past), ?_⟩
    intro rest same other left
    cases same
    exact plain other (List.mem_of_mem_eraseIdx left)
  · rename_i phase
    exact later (by rw [phase]; rfl) stepped
  · rename_i phase
    exact later (by rw [phase]; rfl) stepped
  · rename_i phase
    exact later (by rw [phase]; rfl) stepped
  · rename_i phase
    exact later (by rw [phase]; rfl) stepped

theorem EsnapFlow.Sound.initialised (sound : s.Sound formatBdev found) (bserrno : Int) :
    (s.bsInitComplete formatBdev (openedStore formatBdev found) bserrno).Sound formatBdev found := by
  unfold EsnapFlow.bsInitComplete
  split
  · exact ⟨sound.ready, fun past => (by cases past), fun _ same => (by cases same)⟩
  · refine ⟨sound.ready, fun _ => rfl, fun _ same => ?_⟩
    cases formatBdev <;> cases same

/-- A callback behind `ubi_bs_init_complete` leaves the field alone. -/
theorem EsnapFlow.Sound.goesOn (sound : s.Sound formatBdev found) (past : s.phase.pastInit = true) (blobs : List StoredBlob)
    {phase : CreatePhase} (next : ∀ unopened, phase ≠ .bsLoad unopened) :
    EsnapFlow.Sound formatBdev found { s with phase := phase, blobs := blobs } :=
  ⟨sound.ready, fun _ => sound.set past, fun unopened same => absurd same (next unopened)⟩

theorem EsnapFlow.Sound.complete (sound : s.Sound formatBdev found) {bserrno : Int}
    (stepped : esnapStep formatBdev found s (.complete bserrno) = some s') : s'.Sound formatBdev found := by
  simp only [esnapStep, EsnapFlow.complete] at stepped
  cases phase : s.phase with
  | start | finished =>
    simp only [phase, reduceCtorEq] at stepped
  | bsInit =>
    simp only [phase, Option.some.injEq] at stepped
    rw [← stepped]
    exact sound.initialised bserrno
  | bsLoad unopened =>
    simp only [phase] at stepped
    split at stepped
    · cases stepped
    · rw [← Option.some.inj stepped]
      exact sound.initialised bserrno
  | createBlob | createSnapshot =>
    simp only [phase] at stepped
    have past : s.phase.pastInit = true := by rw [phase]; rfl
    split at stepped
    · cases stepped
      exact sound.goesOn past s.blobs fun _ same => (by cases same)
    · cases stepped
      exact sound.goesOn past _ fun _ same => (by cases same)
  | iterFirst | openBlob =>
    simp only [phase, Option.some.injEq] at stepped
    have past : s.phase.pastInit = true := by rw [phase]; rfl
    rw [← stepped]
    exact sound.goesOn past s.blobs fun _ same => (by cases same)

end

/-- Every call of `ubi_esnap_dev_create` in every run of the flow finds the blobstore it
needs exactly when the base bdev is formatted or no blob on it is a clone of an external
snapshot. -/
theorem esnap_ready_iff (formatBdev : Bool) (found : StoreImage) :
    (∀ events, Always (esnapStep formatBdev found) (EsnapFlow.Ready (openedStore formatBdev found)) .start events) ↔
      formatBdev = true ∨ ∀ blob ∈ found.blobs, blob.esnap = false := by
  constructor
  · intro always
    by_contra unready
    push Not at unready
    obtain ⟨load, blob, member, clone⟩ := unready
    rw [ne_eq, Bool.not_eq_true] at load
    subst load
    obtain ⟨index, present⟩ := List.getElem?_of_mem member
    -- the load opens that blob first
    have ran : run (esnapStep false found) .start [.begin true true 0, .opens index] =
        some ⟨.bsLoad (found.blobs.eraseIdx index), none, [], [none]⟩ := by
      simp [run, esnapStep, EsnapFlow.start, present, EsnapFlow.opens, clone, ubiEsnapClusterSize]
    have call := (always [.begin true true 0, .opens index]).final ran none (List.mem_singleton_self _)
    cases call
  · intro plain events
    refine (@always_of_invariant _ _ _ (EsnapFlow.Sound formatBdev found) ?_ _ ?_ events).mono fun _ sound => sound.ready
    · intro s event s' sound stepped
      cases event with
      | begin calloc strdup createBsDev => exact sound.begin plain stepped
      | opens index => exact sound.opens stepped
      | complete bserrno => exact sound.complete stepped
    · exact ⟨fun _ member => (by cases member), fun past => (by cases past), fun _ same => (by cases same)⟩

/-- A store that a ubi bdev left, with its disk and the snapshot that is a clone of the image. -/
def StoreImage.left : StoreImage := ⟨1024 * 1024, by decide, [⟨0, false⟩, ⟨1, true⟩]⟩

/-- Loading such a store calls for the image while the blobstore is NULL. -/
theorem esnap_unready :
    ¬ Always (esnapStep false .left) (EsnapFlow.Ready (openedStore false .left)) .start
      [.begin true true 0, .opens 0, .opens 0, .complete 0] := by
  intro always
  have call := always.final rfl none (by decide)
  cases call

end BdevUbi.Bdev
