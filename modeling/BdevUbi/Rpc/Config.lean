import BdevUbi.Bdev.Create
import BdevUbi.Library.JsonObject

/-! The parameters of `bdev_ubi_create`: what the RPC decodes, what the bdev keeps, and what
`ubi_write_config_json` writes for a later replay.
-/

set_option autoImplicit false

namespace BdevUbi.Rpc
open BdevUbi.Library BdevUbi.Bdev BdevUbi.Device

/-- `char *` fields are NULL until they are decoded. -/
structure RpcConstructUbi where
  name : Option String
  imagePath : Option String
  snapshotPath : Option String
  baseBdevName : Option String
  noSync : Bool
  formatBdev : Bool
  stripeSizeKb : Nat
  copyOnRead : Bool
  directio : Bool
  deriving DecidableEq, Repr

def decodeString (store : String → RpcConstructUbi → RpcConstructUbi) : Json → RpcConstructUbi → Option RpcConstructUbi
  | .string text, req => some (store text req)
  | _, _ => none

def decodeBool (store : Bool → RpcConstructUbi → RpcConstructUbi) : Json → RpcConstructUbi → Option RpcConstructUbi
  | .bool value, req => some (store value req)
  | _, _ => none

def decodeUint32 (store : Nat → RpcConstructUbi → RpcConstructUbi) : Json → RpcConstructUbi → Option RpcConstructUbi
  | .number value, req => if value < 2 ^ 32 then some (store value req) else none
  | _, _ => none

def rpcConstructUbiDecoders : List (Decoder RpcConstructUbi) :=
  [⟨"name", decodeString fun text req => { req with name := some text }, false⟩,
    ⟨"image_path", decodeString fun text req => { req with imagePath := some text }, false⟩,
    ⟨"base_bdev", decodeString fun text req => { req with baseBdevName := some text }, false⟩,
    ⟨"format_bdev", decodeBool fun value req => { req with formatBdev := value }, true⟩,
    ⟨"no_sync", decodeBool fun value req => { req with noSync := value }, true⟩,
    ⟨"directio", decodeBool fun value req => { req with directio := value }, true⟩,
    ⟨"snapshot_path", decodeString fun text req => { req with snapshotPath := some text }, true⟩,
    ⟨"stripe_size_kb", decodeUint32 fun value req => { req with stripeSizeKb := value }, true⟩,
    ⟨"copy_on_read", decodeBool fun value req => { req with copyOnRead := value }, true⟩]

/-- The record before it is decoded into, with the optional parameters preset. -/
def RpcConstructUbi.preset : RpcConstructUbi where
  name := none
  imagePath := none
  snapshotPath := none
  baseBdevName := none
  noSync := false
  formatBdev := true
  stripeSizeKb := 0
  copyOnRead := true
  directio := true

/-- `struct spdk_ubi_bdev_opts`. -/
structure SpdkUbiBdevOpts where
  name : String
  imagePath : String
  baseBdevName : String
  snapshotPath : Option String
  noSync : Bool
  formatBdev : Bool
  directio : Bool
  deriving DecidableEq, Repr

/-- The options that `rpc_bdev_ubi_create` passes on; no value where it answers with an error. -/
def rpcBdevUbiCreate (params : Json) : Option SpdkUbiBdevOpts :=
  (decodeObject rpcConstructUbiDecoders .preset params).bind fun req =>
    match req.name, req.imagePath, req.baseBdevName with
    | some name, some imagePath, some baseBdevName =>
      some ⟨name, imagePath, baseBdevName, req.snapshotPath, req.noSync, req.formatBdev, req.directio⟩
    -- not reached: the three are required
    | _, _, _ => none

/-- The parameters that a bdev's record keeps; the base bdev is only opened by its name. -/
structure UbiBdevRecord where
  name : String
  imagePath : String
  snapshotPath : String
  noSync : Bool
  directio : Bool
  deriving DecidableEq, Repr

/-- As `bdev_ubi_create` fills the record, which comes from calloc: `directio` is never set. -/
def UbiBdevRecord.ofOpts (opts : SpdkUbiBdevOpts) : UbiBdevRecord where
  name := opts.name
  imagePath := storePath opts.imagePath
  snapshotPath := (opts.snapshotPath.map storePath).getD ""
  noSync := opts.noSync
  directio := false

def ubiWriteConfigJson (bdev : UbiBdevRecord) : Json :=
  .object [("method", .string "bdev_ubi_create"),
    ("params", .object [("name", .string bdev.name), ("image_path", .string bdev.imagePath)])]

/-- The options of the call that replays a bdev's configuration. -/
def replay (bdev : UbiBdevRecord) : Option SpdkUbiBdevOpts :=
  ((ubiWriteConfigJson bdev).member "params").bind rpcBdevUbiCreate

/-- Replaying the configuration of a bdev that was created with these options opens the
same bdev again, and does not format it. -/
def Replayable (opts : SpdkUbiBdevOpts) : Prop :=
  replay (.ofOpts opts) = some { opts with formatBdev := false }

/-! ## What is missing -/

/-- Without the name of its base bdev no object creates a bdev. -/
theorem rpcBdevUbiCreate_missing {fields : List (String × Json)} (absent : "base_bdev" ∉ fields.map Prod.fst) :
    rpcBdevUbiCreate (.object fields) = none := by
  have member : (⟨"base_bdev", decodeString fun text req => { req with baseBdevName := some text }, false⟩ : Decoder RpcConstructUbi) ∈
      rpcConstructUbiDecoders := by
    simp [rpcConstructUbiDecoders]
  rw [rpcBdevUbiCreate, decodeObject_missing member rfl absent]
  rfl

section
variable {json : Json} {req req' : RpcConstructUbi}

theorem decodeString_some {store : String → RpcConstructUbi → RpcConstructUbi} (decoded : decodeString store json req = some req') :
    ∃ text, req' = store text req := by
  cases json with
  | string text => exact ⟨text, (Option.some.inj decoded).symm⟩
  | bool _ | number _ | object _ => cases decoded

theorem decodeBool_some {store : Bool → RpcConstructUbi → RpcConstructUbi} (decoded : decodeBool store json req = some req') :
    ∃ value, req' = store value req := by
  cases json with
  | bool value => exact ⟨value, (Option.some.inj decoded).symm⟩
  | string _ | number _ | object _ => cases decoded

theorem decodeUint32_some {store : Nat → RpcConstructUbi → RpcConstructUbi} (decoded : decodeUint32 store json req = some req') :
    ∃ value, req' = store value req := by
  cases json with
  | number value => exact ⟨value, (Option.some.inj (Option.ite_none_right_eq_some.mp decoded).2).symm⟩
  | string _ | bool _ | object _ => cases decoded

end

theorem formatBdev_decoder {decoder : Decoder RpcConstructUbi} (member : decoder ∈ rpcConstructUbiDecoders)
    (different : decoder.name ≠ "format_bdev") (json : Json) (req req' : RpcConstructUbi)
    (decoded : decoder.decode json req = some req') : req'.formatBdev = req.formatBdev := by
  simp only [rpcConstructUbiDecoders, List.mem_cons, List.not_mem_nil, or_false] at member
  rcases member with rfl | rfl | rfl | rfl | rfl | rfl | rfl | rfl | rfl
  case inr.inr.inr.inl => exact absurd rfl different
  case inr.inr.inr.inr.inr.inr.inr.inl =>
    obtain ⟨_, rfl⟩ := decodeUint32_some decoded
    rfl
  case inl | inr.inl | inr.inr.inl | inr.inr.inr.inr.inr.inr.inl =>
    obtain ⟨_, rfl⟩ := decodeString_some decoded
    rfl
  case inr.inr.inr.inr.inl | inr.inr.inr.inr.inr.inl | inr.inr.inr.inr.inr.inr.inr.inr =>
    obtain ⟨_, rfl⟩ := decodeBool_some decoded
    rfl

/-- An object that does not say otherwise formats its base bdev. -/
theorem rpcBdevUbiCreate_formats {fields : List (String × Json)} {opts : SpdkUbiBdevOpts}
    (absent : "format_bdev" ∉ fields.map Prod.fst) (accepted : rpcBdevUbiCreate (.object fields) = some opts) :
    opts.formatBdev = true := by
  obtain ⟨req, decoded, passed⟩ := Option.bind_eq_some_iff.mp accepted
  have kept : req.formatBdev = RpcConstructUbi.preset.formatBdev :=
    decodeObject_absent (fun _ member different => formatBdev_decoder member different) absent decoded
  split at passed
  · cases passed
    exact kept
  · cases passed

/-- Whatever a bdev was created with, its saved configuration cannot be replayed. -/
theorem config_never_replays (opts : SpdkUbiBdevOpts) : ¬ Replayable opts := by
  have params : (ubiWriteConfigJson (.ofOpts opts)).member "params" =
      some (.object [("name", .string opts.name), ("image_path", .string (storePath opts.imagePath))]) := by
    simp [ubiWriteConfigJson, Json.member, UbiBdevRecord.ofOpts]
  have refused : replay (.ofOpts opts) = none := by
    rw [replay, params, Option.bind_some]
    exact rpcBdevUbiCreate_missing (by simp)
  intro replayed
  cases refused.symm.trans replayed

/-- A bdev with an image and a base bdev is created, and cannot be replayed. -/
theorem config_of_created_bdev :
    ∃ opts, rpcBdevUbiCreate (.object [("name", .string "ubi0"), ("image_path", .string "image"), ("base_bdev", .string "base")]) =
        some opts ∧
      (bdevUbiCreate ⟨opts.imagePath, opts.snapshotPath, opts.formatBdev⟩ .fine).published = true ∧
      ¬ Replayable opts := by
  refine ⟨⟨"ubi0", "image", "base", none, false, true, true⟩, rfl, ?_, ?_⟩
  · rfl
  · intro replayed
    cases replayed

end BdevUbi.Rpc
