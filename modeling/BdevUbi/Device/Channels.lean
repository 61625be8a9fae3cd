import BdevUbi.Device.Uring
import BdevUbi.Library.Transitions
import Mathlib.Data.Finset.Basic

/-! What the channels of the three io devices open and give back: descriptors, rings and
pollers. Contents of files are left out here, so a call's outcome is whether it failed.
-/

set_option autoImplicit false

namespace BdevUbi.Channels
open BdevUbi.Library BdevUbi.Device

inductive Resource where
  | imageFileFd
  | snapshotFileFd
  | deltaFileFd
  | ring
  | poller
  deriving DecidableEq, Repr

/-- The outcomes that a creation can meet; each device looks at its own. -/
structure CreateCalls where
  openFile : Bool
  openSnapshot : Bool
  transfer : Bool
  queueInit : Int
  bsChannel : Bool
  deriving DecidableEq, Repr

def CreateCalls.fine : CreateCalls := ⟨true, true, true, 0, true⟩

/-- How a creation ends, and what is open in its name then. It returns a value, or it passes
`ch` to free: that is a part of what SPDK has allocated for the channel and no block of its
own, so the process aborts there. -/
inductive Creation where
  | returned (rc : Int) (held : Finset Resource)
  | aborted (held : Finset Resource)
  deriving DecidableEq

/-- The poller is there before the channel of the blobstore is asked for. -/
def ubiCreateChannelCb (calls : CreateCalls) : Creation :=
  let held := {.poller}
  if calls.bsChannel = false then .returned (-enomem) held else .returned 0 held

def ubiDestroyChannelCb (held : Finset Resource) : Finset Resource := held.erase .poller

def bsDevUringCreateChannelCb (snapshotPath : String) (calls : CreateCalls) : Creation :=
  if calls.openFile = false then .aborted ∅
  else
    let held := {.imageFileFd}
    if snapshotPath ≠ "" ∧ calls.openSnapshot = false then .aborted (held.erase .imageFileFd)
    else
      let held := if snapshotPath ≠ "" then insert .snapshotFileFd held else held
      if calls.queueInit ≠ 0 then
        let held := held.erase .imageFileFd
        .aborted (if snapshotPath ≠ "" then held.erase .snapshotFileFd else held)
      else .returned 0 (insert .poller (insert .ring held))

def bsDevUringDestroyChannelCb (held : Finset Resource) : Finset Resource :=
  ((held.erase .ring).erase .imageFileFd).erase .poller

/-- The table is read or its place is reserved with one transfer, in both directions. -/
def bsDevDeltaCreateChannelCb (calls : CreateCalls) : Creation :=
  if calls.openFile = false then .aborted ∅
  else
    let held := {.deltaFileFd}
    if calls.transfer = false then .aborted (held.erase .deltaFileFd)
    else if calls.queueInit ≠ 0 then .aborted (held.erase .deltaFileFd)
    else .returned 0 (insert .poller (insert .ring held))

/-- Errors of the last write of the table are only logged. -/
def bsDevDeltaDestroyChannelCb (held : Finset Resource) : Finset Resource :=
  ((held.erase .ring).erase .deltaFileFd).erase .poller

/-- The outcomes that a creation meets with these calls on this file. -/
def deltaCalls (dev : BsDevDelta) (stored : Option RegularFile) (calls : SetupCalls) : CreateCalls where
  openFile := calls.opened && (dev.direction == .write || stored.isSome)
  openSnapshot := true
  transfer :=
    match dev.direction with
    | .write => (RegularFile.sysWrite (stored.getD .empty) 0 (tableBytes ClusterMap.zero) calls.transfer).isSome
    | .read => (RegularFile.sysRead (stored.getD .empty) 0 mapBytes calls.transfer).isSome
  queueInit := calls.queueInit
  bsChannel := true

/-- The channel that carries the table exists exactly when its resources are kept. -/
theorem deltaChannel_isSome_iff (dev : BsDevDelta) (stored : Option RegularFile) (calls : SetupCalls) :
    (Device.bsDevDeltaCreateChannelCb dev stored calls).1.isSome = true ↔
      bsDevDeltaCreateChannelCb (deltaCalls dev stored calls) = .returned 0 {.deltaFileFd, .ring, .poller} := by
  have owned : (insert .poller (insert .ring {.deltaFileFd}) : Finset Resource) = {.deltaFileFd, .ring, .poller} := by decide
  unfold Device.bsDevDeltaCreateChannelCb bsDevDeltaCreateChannelCb deltaCalls
  cases dev.direction with
  | write =>
    cases calls.opened with
    | false => simp
    | true =>
      cases written : RegularFile.sysWrite (stored.getD .empty) 0 (tableBytes ClusterMap.zero) calls.transfer with
      | none => simp [written]
      | some result => by_cases ready : calls.queueInit = 0 <;> simp [written, ready, owned]
  | read =>
    cases calls.opened with
    | false => simp
    | true =>
      cases stored with
      | none => simp
      | some file =>
        cases found : RegularFile.sysRead file 0 mapBytes calls.transfer with
        | none => simp [found]
        | some data => by_cases ready : calls.queueInit = 0 <;> simp [found, ready, owned]

/-! ## Sequences of creations and destructions -/

inductive IoDevice where
  | ubi
  | uring (snapshotPath : String)
  | delta
  deriving DecidableEq, Repr

namespace IoDevice

def createChannel (calls : CreateCalls) : IoDevice → Creation
  | ubi => ubiCreateChannelCb calls
  | uring snapshotPath => bsDevUringCreateChannelCb snapshotPath calls
  | delta => bsDevDeltaCreateChannelCb calls

/-- No call that a creation makes fails. -/
def Succeeds (calls : CreateCalls) : IoDevice → Prop
  | ubi => calls.bsChannel = true
  | uring snapshotPath =>
    calls.openFile = true ∧ (snapshotPath ≠ "" → calls.openSnapshot = true) ∧ calls.queueInit = 0
  | delta => calls.openFile = true ∧ calls.transfer = true ∧ calls.queueInit = 0

instance (calls : CreateCalls) : (dev : IoDevice) → Decidable (dev.Succeeds calls)
  | ubi => inferInstanceAs (Decidable (calls.bsChannel = true))
  | uring snapshotPath => inferInstanceAs (Decidable (calls.openFile = true ∧ (snapshotPath ≠ "" → _) ∧ _))
  | delta => inferInstanceAs (Decidable (calls.openFile = true ∧ _ ∧ _))

def destroyChannel (held : Finset Resource) : IoDevice → Finset Resource
  | ubi => ubiDestroyChannelCb held
  | uring _ => bsDevUringDestroyChannelCb held
  | delta => bsDevDeltaDestroyChannelCb held

/-- What a channel of the device needs. -/
def owns : IoDevice → Finset Resource
  | ubi => {.poller}
  | uring snapshotPath =>
    if snapshotPath = "" then {.imageFileFd, .ring, .poller} else {.imageFileFd, .snapshotFileFd, .ring, .poller}
  | delta => {.deltaFileFd, .ring, .poller}

end IoDevice

/-- Channels by number: the device of those that are there, and what is open in the name
of each, also of those that never came to be or are gone. -/
structure OpenChannels where
  created : Nat
  live : Nat → Option IoDevice
  held : Nat → Finset Resource
  aborted : Bool

def OpenChannels.none : OpenChannels := ⟨0, fun _ => Option.none, fun _ => ∅, false⟩

inductive ChannelEvent where
  | create (dev : IoDevice) (calls : CreateCalls)
  | destroy (id : Nat)
  deriving DecidableEq, Repr

/-- A creation that ends in the abort is the last step. -/
def channelStep (s : OpenChannels) (event : ChannelEvent) : Option OpenChannels :=
  if s.aborted then none
  else
    match event with
    | .create dev calls =>
      match dev.createChannel calls with
      | .returned rc held =>
        some {
          created := s.created + 1
          live := Function.update s.live s.created (if rc = 0 then some dev else Option.none)
          held := Function.update s.held s.created held
          aborted := false }
      | .aborted held =>
        some { s with created := s.created + 1, held := Function.update s.held s.created held, aborted := true }
    | .destroy id =>
      (s.live id).map fun dev =>
        { s with
          live := Function.update s.live id Option.none
          held := Function.update s.held id (dev.destroyChannel (s.held id)) }

/-- The process is there, and what is open is what the channels that are there own. -/
structure OpenChannels.Balanced (s : OpenChannels) : Prop where
  running : s.aborted = false
  owned : ∀ id, s.held id = (s.live id).elim ∅ IoDevice.owns

/-- Every creation succeeds, and no channel that has a snapshot file open is destroyed. -/
def Balances (s : OpenChannels) : ChannelEvent → Prop
  | .create dev calls => dev.Succeeds calls
  | .destroy id => ∀ snapshotPath, s.live id = some (.uring snapshotPath) → snapshotPath = ""

/-! ## One channel -/

/-- Every error exit closes what is open, and then frees the context. -/
theorem uring_created (snapshotPath : String) (calls : CreateCalls) :
    bsDevUringCreateChannelCb snapshotPath calls =
      if (IoDevice.uring snapshotPath).Succeeds calls then .returned 0 (IoDevice.uring snapshotPath).owns else .aborted ∅ := by
  obtain ⟨opened, snapshot, _, queueInit, _⟩ := calls
  by_cases ready : queueInit = 0 <;> by_cases path : snapshotPath = "" <;> cases opened <;> cases snapshot <;>
    simp [bsDevUringCreateChannelCb, IoDevice.Succeeds, IoDevice.owns, ready, path]
  all_goals decide

theorem delta_created (calls : CreateCalls) :
    bsDevDeltaCreateChannelCb calls = if IoDevice.delta.Succeeds calls then .returned 0 IoDevice.delta.owns else .aborted ∅ := by
  obtain ⟨opened, _, transfer, queueInit, _⟩ := calls
  by_cases ready : queueInit = 0 <;> cases opened <;> cases transfer <;>
    simp [bsDevDeltaCreateChannelCb, IoDevice.Succeeds, IoDevice.owns, ready]
  decide

theorem createChannel_succeeds {dev : IoDevice} {calls : CreateCalls} (succeeds : dev.Succeeds calls) :
    dev.createChannel calls = .returned 0 dev.owns := by
  cases dev with
  | ubi =>
    have given : calls.bsChannel = true := succeeds
    simp [IoDevice.createChannel, ubiCreateChannelCb, IoDevice.owns, given]
  | uring snapshotPath => rw [IoDevice.createChannel, uring_created, if_pos succeeds]
  | delta => rw [IoDevice.createChannel, delta_created, if_pos succeeds]

/-- Of the creations that fail only a ubi channel's returns, and leaves its poller. -/
theorem createChannel_fails {dev : IoDevice} {calls : CreateCalls} (fails : ¬ dev.Succeeds calls) :
    dev.createChannel calls = .returned (-enomem) {.poller} ∨ dev.createChannel calls = .aborted ∅ := by
  cases dev with
  | ubi =>
    have refused : calls.bsChannel = false := Bool.eq_false_iff.mpr fails
    left
    simp [IoDevice.createChannel, ubiCreateChannelCb, refused]
  | uring snapshotPath =>
    right
    rw [IoDevice.createChannel, uring_created, if_neg fails]
  | delta =>
    right
    rw [IoDevice.createChannel, delta_created, if_neg fails]

theorem destroyChannel_iff (dev : IoDevice) :
    dev.destroyChannel dev.owns = ∅ ↔ ∀ snapshotPath, dev = .uring snapshotPath → snapshotPath = "" := by
  cases dev with
  | ubi => exact iff_of_true (by decide) fun _ other => (by cases other)
  | uring snapshotPath =>
    simp only [IoDevice.destroyChannel, bsDevUringDestroyChannelCb, IoDevice.owns, IoDevice.uring.injEq, forall_eq']
    split
    · rename_i noPath
      exact iff_of_true (by decide) noPath
    · rename_i path
      exact iff_of_false (by decide) path
  | delta => exact iff_of_true (by decide) fun _ other => (by cases other)

/-! ## All of them -/

section
variable {s : OpenChannels}

theorem balanced_update (balanced : s.Balanced) (id : Nat) (created : Nat) (dev : Option IoDevice) (held : Finset Resource) :
    OpenChannels.Balanced ⟨created, Function.update s.live id dev, Function.update s.held id held, false⟩ ↔
      held = dev.elim ∅ IoDevice.owns := by
  constructor
  · intro after
    simpa only [Function.update_self] using after.owned id
  · intro here
    refine ⟨rfl, fun other => ?_⟩
    by_cases same : other = id
    · subst same
      simpa only [Function.update_self] using here
    · simpa only [Function.update_of_ne same] using balanced.owned other

theorem balanced_create (balanced : s.Balanced) {dev : IoDevice} {calls : CreateCalls} {s' : OpenChannels}
    (stepped : channelStep s (.create dev calls) = some s') : s'.Balanced ↔ dev.Succeeds calls := by
  simp only [channelStep, balanced.running, Bool.false_eq_true, ↓reduceIte] at stepped
  by_cases succeeds : dev.Succeeds calls
  · simp only [createChannel_succeeds succeeds, ↓reduceIte, Option.some.injEq] at stepped
    rw [← stepped]
    exact iff_of_true ((balanced_update balanced _ _ (some dev) dev.owns).mpr rfl) succeeds
  · refine iff_of_false (fun after => ?_) succeeds
    rcases createChannel_fails succeeds with refused | aborted
    · -- the poller belongs to no channel
      have error : -enomem ≠ 0 := by decide
      simp only [refused, error, ↓reduceIte, Option.some.injEq] at stepped
      rw [← stepped, balanced_update balanced] at after
      revert after
      decide
    · simp only [aborted, Option.some.injEq] at stepped
      rw [← stepped] at after
      cases after.running

theorem balanced_destroy (balanced : s.Balanced) {id : Nat} {s' : OpenChannels}
    (stepped : channelStep s (.destroy id) = some s') : s'.Balanced ↔ Balances s (.destroy id) := by
  simp only [channelStep, balanced.running, Bool.false_eq_true, ↓reduceIte] at stepped
  obtain ⟨dev, live, rfl⟩ := Option.map_eq_some_iff.mp stepped
  rw [balanced_update balanced, balanced.owned id, live]
  simp only [Balances, live, Option.elim, Option.some.injEq]
  exact destroyChannel_iff dev

theorem balanced_step (s : OpenChannels) (event : ChannelEvent) (s' : OpenChannels) (balanced : s.Balanced)
    (stepped : channelStep s event = some s') : s'.Balanced ↔ Balances s event := by
  cases event with
  | create dev calls => exact balanced_create balanced stepped
  | destroy id => exact balanced_destroy balanced stepped

theorem balances_disabled (s : OpenChannels) (event : ChannelEvent) (balanced : s.Balanced)
    (stuck : channelStep s event = none) : Balances s event := by
  simp only [channelStep, balanced.running, Bool.false_eq_true, ↓reduceIte] at stuck
  cases event with
  | create dev calls =>
    by_cases succeeds : dev.Succeeds calls
    · exact succeeds
    · rcases createChannel_fails succeeds with refused | aborted
      · simp only [refused, reduceCtorEq] at stuck
      · simp only [aborted, reduceCtorEq] at stuck
  | destroy id =>
    intro snapshotPath live
    simp only [live, Option.map_some, reduceCtorEq] at stuck

end

/-- Descriptors, rings and pollers are balanced all along exactly the sequences in which
every creation succeeds and no channel with an open snapshot file is destroyed. -/
theorem channels_balanced_iff (events : List ChannelEvent) :
    Always channelStep OpenChannels.Balanced .none events ↔ Guarded channelStep Balances .none events := by
  refine @always_iff_guarded OpenChannels ChannelEvent channelStep Balances OpenChannels.Balanced (fun _ => True)
    (fun _ _ _ _ _ => trivial) (fun s event s' _ => balanced_step s event s') balances_disabled .none trivial
    ⟨rfl, fun _ => rfl⟩ events

/-- Destroying a channel leaves its snapshot file open, a ubi channel that is refused leaves
its poller registered, and a delta channel whose file cannot be opened ends the process. -/
theorem channels_unbalanced :
    ¬ Always channelStep OpenChannels.Balanced .none [.create (.uring "snapshot") .fine, .destroy 0] ∧
      ¬ Always channelStep OpenChannels.Balanced .none [.create .ubi { CreateCalls.fine with bsChannel := false }] ∧
      ¬ Always channelStep OpenChannels.Balanced .none [.create .delta { CreateCalls.fine with openFile := false }] := by
  refine ⟨fun always => ?_, fun always => ?_, fun always => ?_⟩
  · have held := (always.final rfl).owned 0
    revert held
    decide
  · have held := (always.final rfl).owned 0
    revert held
    decide
  · have running := (always.final rfl).running
    revert running
    decide

end BdevUbi.Channels
