import BdevUbi.Snapshot.Requests

/-! The requests that find their bdev by its name: `bdev_ubi_snapshot`,
`rpc_bdev_ubi_snapshot_status` and `bdev_ubi_delete`.

SPDK's registry has the bdevs of all modules. A record is named by its address: the bdev is
the first member of a `struct ubi_bdev`, so a bdev of any module can be taken for one.
-/

set_option autoImplicit false

namespace BdevUbi.Rpc
open BdevUbi.Device
open BdevUbi.Snapshot (SnapshotStatus)

def enodev : Int := 19

inductive BdevModule where
  | ubiIf
  | other (name : String)
  deriving DecidableEq, Repr

structure SpdkBdev where
  address : Nat
  bdevModule : BdevModule
  deriving DecidableEq, Repr

/-- The registered bdevs, and what the memory at an address says when it is read as the
status record of a `struct ubi_bdev`. -/
structure Registry where
  bdevs : String → Option SpdkBdev
  snapshotStatus : Nat → SnapshotStatus

/-- `SPDK_CONTAINEROF(bdev, struct ubi_bdev, bdev)`. -/
def containerOf (bdev : SpdkBdev) : Nat := bdev.address

inductive Reply where
  | error (code : Int)
  | status (name : String) (status : SnapshotStatus)
  -- `cb_fn` is called when the blobstore or the bdev layer is done
  | later
  deriving DecidableEq, Repr

/-- What a request says at once, and the records that it reads or changes. -/
structure Handling where
  reply : Reply
  touches : List Nat
  deriving DecidableEq, Repr

/-- The blobstore and the blob are read from the record, and a snapshot of them is started. -/
def bdevUbiSnapshot (registry : Registry) (name : String) : Handling :=
  match registry.bdevs name with
  | none => ⟨.error (-enoent), []⟩
  | some bdev => ⟨.later, [containerOf bdev]⟩

def rpcBdevUbiSnapshotStatus (registry : Registry) (name : String) : Handling :=
  match registry.bdevs name with
  | none => ⟨.error (-enoent), []⟩
  | some bdev => ⟨.status name (registry.snapshotStatus (containerOf bdev)), [containerOf bdev]⟩

/-- What `spdk_bdev_unregister_by_name` promises: it starts to unregister a bdev of that name
that this module registered, or it returns an error. A bdev of the module can be refused all
the same, for instance while it is being removed. -/
structure UnregistersByName (spdkBdevUnregisterByName : Registry → String → BdevModule → Int) : Prop where
  absent : ∀ registry name bdevModule, registry.bdevs name = none →
    spdkBdevUnregisterByName registry name bdevModule ≠ 0
  foreign : ∀ registry name bdevModule bdev, registry.bdevs name = some bdev → bdev.bdevModule ≠ bdevModule →
    spdkBdevUnregisterByName registry name bdevModule ≠ 0

/-- A bdev that is unregistered is destructed through its context, its own record. -/
def bdevUbiDelete (spdkBdevUnregisterByName : Registry → String → BdevModule → Int) (registry : Registry) (name : String) :
    Handling :=
  let rc := spdkBdevUnregisterByName registry name .ubiIf
  if rc ≠ 0 then ⟨.error rc, []⟩ else ⟨.later, (registry.bdevs name).toList.map containerOf⟩

/-- The request's first step as the callback chain has it: of the registry it knows whether
the name is there. -/
theorem bdevUbiSnapshot_chain (registry : Registry) (name path : String) (status : SnapshotStatus) (code : Int) :
    (bdevUbiSnapshot registry name).reply = .error code ↔
      .answer code ∈ (Snapshot.bdevUbiSnapshot status (registry.bdevs name).isSome path).acts := by
  cases found : registry.bdevs name with
  | none => simp [bdevUbiSnapshot, Snapshot.bdevUbiSnapshot, found, eq_comm]
  | some bdev => simp [bdevUbiSnapshot, Snapshot.bdevUbiSnapshot, found]

inductive NameRequest where
  | snapshot
  | snapshotStatus
  | delete
  deriving DecidableEq, Repr

section
variable (spdkBdevUnregisterByName : Registry → String → BdevModule → Int)

def NameRequest.handle (registry : Registry) (name : String) : NameRequest → Handling
  | .snapshot => bdevUbiSnapshot registry name
  | .snapshotStatus => rpcBdevUbiSnapshotStatus registry name
  | .delete => bdevUbiDelete spdkBdevUnregisterByName registry name

/-- The bdev layer does not unregister the bdev that is to be deleted. -/
def NameRequest.Refused (registry : Registry) (name : String) (request : NameRequest) : Prop :=
  request = .delete ∧ spdkBdevUnregisterByName registry name .ubiIf ≠ 0

/-- The request acts on the record of the ubi bdev of that name, or it is answered with an
error and touches nothing: always where the name is not a ubi bdev's, else only if the bdev
layer refuses to delete it. -/
def Confined (registry : Registry) (name : String) (request : NameRequest) : Prop :=
  let handling := request.handle spdkBdevUnregisterByName registry name
  (∃ bdev, registry.bdevs name = some bdev ∧ bdev.bdevModule = .ubiIf ∧ handling.touches = [bdev.address] ∧
    ∀ code, handling.reply ≠ .error code) ∨
  ((∀ bdev, registry.bdevs name = some bdev → bdev.bdevModule ≠ .ubiIf) ∨
      request.Refused spdkBdevUnregisterByName registry name) ∧
    handling.touches = [] ∧ ∃ code, code ≠ 0 ∧ handling.reply = .error code

end

section
variable {unregister : Registry → String → BdevModule → Int} {registry : Registry} {name : String} {request : NameRequest}

theorem confined_absent (absent : registry.bdevs name = none)
    (handled : request.handle unregister registry name = ⟨.error (-enoent), []⟩) : Confined unregister registry name request := by
  refine .inr ⟨.inl fun bdev found => ?_, congrArg Handling.touches handled, -enoent, by decide, congrArg Handling.reply handled⟩
  cases absent.symm.trans found

/-- A request that does not ask for the module is confined to the bdevs of its own. -/
theorem confined_found {bdev : SpdkBdev} (found : registry.bdevs name = some bdev) {reply : Reply}
    (handled : request.handle unregister registry name = ⟨reply, [containerOf bdev]⟩) (acts : ∀ code, reply ≠ .error code) :
    Confined unregister registry name request ↔ bdev.bdevModule = .ubiIf := by
  constructor
  · rintro (⟨other, same, own, _⟩ | ⟨_, touched, _⟩)
    · cases found.symm.trans same
      exact own
    · rw [handled] at touched
      cases touched
  · intro own
    refine .inl ⟨bdev, found, own, congrArg Handling.touches handled, fun code failed => acts code ?_⟩
    rw [← failed, handled]

theorem confined_delete (lawful : UnregistersByName unregister) : Confined unregister registry name .delete := by
  by_cases refused : unregister registry name .ubiIf = 0
  · cases found : registry.bdevs name with
    | none => exact absurd refused (lawful.absent registry name .ubiIf found)
    | some bdev =>
      have own : bdev.bdevModule = .ubiIf := by
        by_contra foreign
        exact lawful.foreign registry name .ubiIf bdev found foreign refused
      refine (@confined_found unregister registry name .delete bdev found .later ?_ fun code => by simp).mpr own
      simp [NameRequest.handle, bdevUbiDelete, refused, found]
  · refine .inr ⟨.inr ⟨rfl, refused⟩, ?_, unregister registry name .ubiIf, refused, ?_⟩
    · simp [NameRequest.handle, bdevUbiDelete, refused]
    · simp [NameRequest.handle, bdevUbiDelete, refused]

end

/-- A request keeps to the ubi bdevs exactly when it is a deletion, or its name is not that
of another module's bdev. -/
theorem request_confined_iff (spdkBdevUnregisterByName : Registry → String → BdevModule → Int)
    (lawful : UnregistersByName spdkBdevUnregisterByName) (registry : Registry) (name : String) (request : NameRequest) :
    Confined spdkBdevUnregisterByName registry name request ↔
      request = .delete ∨ ∀ bdev, registry.bdevs name = some bdev → bdev.bdevModule = .ubiIf := by
  cases request with
  | delete => exact iff_of_true (confined_delete lawful) (.inl rfl)
  | snapshot | snapshotStatus =>
    simp only [reduceCtorEq, false_or]
    cases found : registry.bdevs name with
    | none =>
      refine iff_of_true (confined_absent found ?_) fun _ same => (by cases same)
      simp only [NameRequest.handle, bdevUbiSnapshot, rpcBdevUbiSnapshotStatus, found]
    | some bdev =>
      refine (confined_found found (by simp only [NameRequest.handle, bdevUbiSnapshot, rpcBdevUbiSnapshotStatus, found]; rfl)
        (fun code => by simp)).trans ?_
      simp

/-- A ubi bdev and its base bdev. -/
def baseRegistry : Registry where
  bdevs name :=
    if name = "ubi0" then some ⟨8192, .ubiIf⟩ else if name = "base" then some ⟨4096, .other "aio"⟩ else none
  snapshotStatus _ := .initial

/-- A bdev layer that opens the bdev first, which fails while it is being removed, and then
compares the modules. -/
def unregisterUnlessRemoving (removing : Nat → Bool) (registry : Registry) (name : String) (bdevModule : BdevModule) : Int :=
  match registry.bdevs name with
  | none => -enodev
  | some bdev => if removing bdev.address then -enodev else if bdev.bdevModule = bdevModule then 0 else -enodev

theorem unregisterUnlessRemoving_lawful (removing : Nat → Bool) : UnregistersByName (unregisterUnlessRemoving removing) where
  absent := by
    intro registry name bdevModule absent
    simp [unregisterUnlessRemoving, absent, enodev]
  foreign := by
    intro registry name bdevModule bdev found foreign
    simp [unregisterUnlessRemoving, found, foreign, enodev]

/-- The ubi bdev is deleted, or refused while it is being removed; the base bdev is refused. -/
theorem request_confined_iff_base :
    (Confined (unregisterUnlessRemoving fun _ => false) baseRegistry "ubi0" .delete ∧
      NameRequest.delete.handle (unregisterUnlessRemoving fun _ => false) baseRegistry "ubi0" = ⟨.later, [8192]⟩) ∧
    (Confined (unregisterUnlessRemoving fun _ => true) baseRegistry "ubi0" .delete ∧
      NameRequest.delete.handle (unregisterUnlessRemoving fun _ => true) baseRegistry "ubi0" = ⟨.error (-enodev), []⟩) ∧
    (Confined (unregisterUnlessRemoving fun _ => false) baseRegistry "base" .delete ∧
      NameRequest.delete.handle (unregisterUnlessRemoving fun _ => false) baseRegistry "base" = ⟨.error (-enodev), []⟩) := by
  have confined (removing : Nat → Bool) (name : String) :
      Confined (unregisterUnlessRemoving removing) baseRegistry name .delete :=
    (request_confined_iff (unregisterUnlessRemoving removing) (unregisterUnlessRemoving_lawful removing) baseRegistry name
      .delete).mpr (.inl rfl)
  exact ⟨⟨confined _ _, rfl⟩, ⟨confined _ _, rfl⟩, ⟨confined _ _, rfl⟩⟩

/-- Asked for the status of its base bdev, a ubi bdev's RPC reads the memory of another
module and says that all is well; a snapshot of it is started. -/
theorem request_for_base_bdev :
    NameRequest.snapshotStatus.handle (unregisterUnlessRemoving fun _ => false) baseRegistry "base" =
        ⟨.status "base" .initial, [4096]⟩ ∧
      ¬ Confined (unregisterUnlessRemoving fun _ => false) baseRegistry "base" .snapshotStatus ∧
      ¬ Confined (unregisterUnlessRemoving fun _ => false) baseRegistry "base" .snapshot := by
  have foreign : baseRegistry.bdevs "base" = some ⟨4096, .other "aio"⟩ := rfl
  refine ⟨rfl, ?_, ?_⟩
  · rintro (⟨bdev, found, own, _⟩ | ⟨_, touched, _⟩)
    · cases foreign.symm.trans found
      cases own
    · cases touched
  · rintro (⟨bdev, found, own, _⟩ | ⟨_, touched, _⟩)
    · cases foreign.symm.trans found
      cases own
    · cases touched

end BdevUbi.Rpc
