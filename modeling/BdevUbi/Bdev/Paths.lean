import BdevUbi.Bdev.Create
import BdevUbi.Library.CString
import BdevUbi.Snapshot.Requests

/-! The paths of a request, byte by byte, on their way to the calls that open files.

`bdev_ubi_create` cuts its paths to fit the arrays of the bdev's record, and from there they
go into every device for the image. `bdev_ubi_snapshot` keeps its path at any length, and it
goes into the device of the copy whatever that has room for. When a request gets that far is
decided by its flow, which is the one of the other modules.
-/

set_option autoImplicit false

namespace BdevUbi.Bdev
open BdevUbi.Library BdevUbi.Device BdevUbi.Snapshot

/-- `UBI_PATH_LEN`, and the 1024 of the arrays in the two devices. -/
@[irreducible] def ubiPathLen : Nat := 1024

theorem ubiPathLen_eq : ubiPathLen = 1024 := by rw [ubiPathLen]

theorem ubiPathLen_pos : 0 < ubiPathLen := by
  rw [ubiPathLen_eq]
  decide

/-- The array of a path; none once a byte was stored behind its end. -/
abbrev PathArray := Option (CharArray ubiPathLen)

/-- The path that a pointer to the array's first byte is read as. -/
def PathArray.string (array : PathArray) : Option CString := array.bind CharArray.string

inductive NamedFile where
  | image
  | snapshotFile
  | deltaFile
  deriving DecidableEq, Repr

inductive PathAct where
  | stored (index : Nat) (byte : UInt8)
  | opened (file : NamedFile) (name : CString)
  deriving DecidableEq, Repr

def storeActs (stores : List (Nat × UInt8)) : List PathAct := stores.map fun store => .stored store.1 store.2

inductive PathRequest where
  | create (imagePath : CString) (snapshotPath : Option CString) (formatBdev : Bool)
  | snapshot (path : CString)

def PathRequest.paths : PathRequest → List CString
  | .create imagePath snapshotPath _ => imagePath :: snapshotPath.toList
  | .snapshot path => [path]

/-- The string that the request has for a file. -/
def PathRequest.given : PathRequest → NamedFile → Option CString
  | .create imagePath _ _, .image => some imagePath
  | .create _ snapshotPath _, .snapshotFile => snapshotPath
  | .snapshot path, .deltaFile => some path
  | _, _ => none

/-- The request has failed or its files have the names it was given; no copy leaves its array. -/
structure PathRequest.Uses (request : PathRequest) (failed : Prop) (acts : List PathAct) : Prop where
  named : failed ∨ ∀ file name, .opened file name ∈ acts → request.given file = some name
  within : ∀ index byte, .stored index byte ∈ acts → index < 1024

/-! ## The paths of a bdev -/

/-- `image_path` and `snapshot_path` of a `ubi_bdev`. -/
structure BdevPaths where
  imagePath : PathArray
  snapshotPath : PathArray

/-- `filename` and `snapshot_path` of a `bs_dev_uring`. -/
structure UringPaths where
  filename : PathArray
  snapshotPath : PathArray

def pathStores (path : CString) : List (Nat × UInt8) := strncpy path ubiPathLen ++ [(ubiPathLen - 1, 0)]

def snapshotPathStores : Option CString → List (Nat × UInt8)
  | some path => pathStores path
  | none => [(0, 0)]

/-- `bs_dev_uring_create`: with a snapshot path its table is read, and then both are copied. -/
def bsDevUringCreatePaths (filename snapshotPath : CString) (alloc stat readMap : Bool) : List PathAct × Option UringPaths :=
  if alloc = false ∨ stat = false then ([], none)
  else
    let opens := if snapshotPath = .empty then [] else [.opened .snapshotFile snapshotPath]
    if snapshotPath ≠ .empty ∧ readMap = false then (opens, none)
    else
      (opens ++ storeActs (strcpy filename) ++ storeActs (strcpy snapshotPath),
        some ⟨CharArray.zero.store (strcpy filename), CharArray.zero.store (strcpy snapshotPath)⟩)

/-- `bs_dev_uring_create_channel_cb`, up to its two open calls. -/
def bsDevUringChannelPaths (filename snapshotPath : CString) (opened : Bool) : List PathAct :=
  .opened .image filename :: if opened = true ∧ snapshotPath ≠ .empty then [.opened .snapshotFile snapshotPath] else []

structure CreatedPaths where
  bdev : Option BdevPaths
  devs : List UringPaths
  acts : List PathAct
  answer : Option Int

def CreatedPaths.none : CreatedPaths := ⟨Option.none, [], [], Option.none⟩

/-- A create flow, and then what the blobstore and the io channels do with the bdev. -/
inductive CreatedEvent where
  | create (o : CreateOutcomes)
  | esnap (alloc stat readMap : Bool)
  | channel (index : Nat) (opened : Bool)

def createdStep (imagePath : CString) (snapshotPath : Option CString) (formatBdev : Bool) (s : CreatedPaths) :
    CreatedEvent → Option CreatedPaths
  | .create o =>
    if s.answer.isSome then Option.none
    else
      let answer := (bdevUbiCreate ⟨imagePath.text, snapshotPath.map CString.text, formatBdev⟩ o).answers.head?
      -- without memory for the record or its name nothing is copied
      if o.calloc = false ∨ o.strdup = false then some { s with answer := answer }
      else
        some { s with
          bdev := some ⟨CharArray.zero.store (pathStores imagePath), CharArray.zero.store (snapshotPathStores snapshotPath)⟩
          acts := s.acts ++ storeActs (pathStores imagePath) ++ storeActs (snapshotPathStores snapshotPath)
          answer := answer }
  | .esnap alloc stat readMap =>
    s.bdev.bind fun bdev =>
    (PathArray.string bdev.imagePath).bind fun filename =>
    (PathArray.string bdev.snapshotPath).map fun snapshotPath =>
      let result := bsDevUringCreatePaths filename snapshotPath alloc stat readMap
      { s with devs := s.devs ++ result.2.toList, acts := s.acts ++ result.1 }
  | .channel index opened =>
    s.devs[index]?.bind fun dev =>
    (PathArray.string dev.filename).bind fun filename =>
    (PathArray.string dev.snapshotPath).map fun snapshotPath =>
      { s with acts := s.acts ++ bsDevUringChannelPaths filename snapshotPath opened }

def CreatedPaths.Failed (s : CreatedPaths) : Prop := ∃ status, s.answer = some status ∧ status ≠ 0

/-! ## The paths of the snapshots -/

/-- The requests on a bdev, the copy that each keeps of its path, and the `filename` of the
`bs_dev_delta` that was made for it. -/
structure CopiedPaths where
  requests : Requests
  path : Nat → CString
  filename : Nat → PathArray
  acts : Nat → List PathAct
  -- a copy has stored bytes behind its array
  overrun : Bool

def CopiedPaths.none : CopiedPaths := ⟨.none, fun _ => .empty, fun _ => Option.none, fun _ => [], false⟩

inductive CopiedEvent where
  | snapshot (found : Bool) (path : CString)
  | callback (id : Nat) (outcome : Outcome)
  | copied (id : Nat) (copiedClusters : Nat)
  | channel (id : Nat)

/-- `bs_dev_delta_create` for a request: its path is copied. -/
def CopiedPaths.createDelta (s : CopiedPaths) (id : Nat) : CopiedPaths :=
  let filename := CharArray.zero.store (strcpy (s.path id))
  { s with
    filename := Function.update s.filename id filename
    acts := Function.update s.acts id (s.acts id ++ storeActs (strcpy (s.path id)))
    overrun := filename.isNone }

/-- The requests' own steps, with the copy where the chain makes its device; a channel of
the device opens what it finds there. After an overrun there is nothing to say. -/
def copiedStep (bdev : UbiBdev) (s : CopiedPaths) (event : CopiedEvent) : Option CopiedPaths :=
  if s.overrun then Option.none
  else
    match event with
    | .snapshot found path =>
      (requestStep bdev s.requests (.snapshot found path.text)).map fun requests =>
        { s with requests := requests, path := Function.update s.path s.requests.issued path }
    | .callback id outcome =>
      match s.requests.stage id with
      | .waiting op ctx =>
        let effect := op.callback bdev s.requests.status ctx outcome
        let after := { s with requests := s.requests.apply id effect }
        some (if .createDelta ∈ effect.acts then after.createDelta id else after)
      | _ => Option.none
    | .copied id copiedClusters =>
      (requestStep bdev s.requests (.copied id copiedClusters)).map fun requests => { s with requests := requests }
    | .channel id =>
      (PathArray.string (s.filename id)).map fun name =>
        { s with acts := Function.update s.acts id (s.acts id ++ [.opened .deltaFile name]) }

def CopiedPaths.Failed (s : CopiedPaths) (id : Nat) : Prop := ∃ status, .answer status ∈ s.requests.acts id ∧ status ≠ 0

/-- In every run that has the request, its paths are used as they were given. -/
def PathRequest.UsedAsGiven : PathRequest → Prop
  | .create imagePath snapshotPath formatBdev =>
    ∀ events, Always (createdStep imagePath snapshotPath formatBdev)
      (fun s => (PathRequest.create imagePath snapshotPath formatBdev).Uses s.Failed s.acts) .none events
  | .snapshot path =>
    ∀ bdev events, Always (copiedStep bdev)
      (fun s => ∀ id, id < s.requests.issued → s.path id = path → (PathRequest.snapshot path).Uses (s.Failed id) (s.acts id))
      .none events

/-! ## What becomes of the paths of a bdev -/

/-- What the arrays of the record have room for. -/
def cutPath (path : CString) : CString := path.take (ubiPathLen - 1)

theorem length_cutPath (path : CString) : (cutPath path).bytes.length < ubiPathLen := by
  have positive := ubiPathLen_pos
  simp only [cutPath, CString.take, List.length_take]
  omega

theorem cutPath_empty : cutPath .empty = .empty := CString.eq_of_bytes List.take_nil

theorem mem_storeActs {stores : List (Nat × UInt8)} {act : PathAct} (member : act ∈ storeActs stores) :
    ∃ store ∈ stores, act = .stored store.1 store.2 := by
  obtain ⟨store, stored, rfl⟩ := List.mem_map.mp member
  exact ⟨store, stored, rfl⟩

/-- Stores inside an array, and files opened under the record's names. -/
def PathAct.Kept (imagePath snapshotPath : CString) : PathAct → Prop
  | .stored index _ => index < ubiPathLen
  | .opened .image name => name = imagePath
  | .opened .snapshotFile name => name = snapshotPath ∧ name ≠ .empty
  | .opened .deltaFile _ => False

structure CreatedPaths.Sound (imagePath snapshotPath : CString) (s : CreatedPaths) : Prop where
  bdev : ∀ bdev, s.bdev = some bdev →
    PathArray.string bdev.imagePath = some imagePath ∧ PathArray.string bdev.snapshotPath = some snapshotPath
  devs : ∀ dev ∈ s.devs,
    PathArray.string dev.filename = some imagePath ∧ PathArray.string dev.snapshotPath = some snapshotPath
  acts : ∀ act ∈ s.acts, act.Kept imagePath snapshotPath

section
variable {imagePath snapshotPath : CString}

theorem kept_stores {stores : List (Nat × UInt8)} (inside : ∀ store ∈ stores, store.1 < ubiPathLen) :
    ∀ act ∈ storeActs stores, act.Kept imagePath snapshotPath := by
  intro act member
  obtain ⟨store, stored, rfl⟩ := mem_storeActs member
  exact inside store stored

theorem strcpy_inside {path : CString} (short : path.bytes.length < ubiPathLen) : ∀ store ∈ strcpy path, store.1 < ubiPathLen := by
  intro store member
  exact Nat.lt_of_lt_of_le (index_lt_of_mem_copyStores member) short

/-- A path that fits is what a device's array has after the copy. -/
theorem strcpy_string {path : CString} (short : path.bytes.length < ubiPathLen) :
    PathArray.string (CharArray.zero.store (strcpy path)) = some path := by
  obtain ⟨after, stored, string⟩ := CharArray.store_strcpy (CharArray.zero : CharArray ubiPathLen) short
  rw [stored]
  exact string

/-- The record has the path, cut if need be. -/
theorem pathStores_string (path : CString) :
    PathArray.string (CharArray.zero.store (pathStores path)) = some (cutPath path) := by
  obtain ⟨after, stored, string⟩ := CharArray.store_strncpy (CharArray.zero : CharArray ubiPathLen) ubiPathLen_pos path
  rw [pathStores, stored]
  exact string

theorem pathStores_inside (path : CString) : ∀ store ∈ pathStores path, store.1 < ubiPathLen := by
  intro store member
  rcases List.mem_append.mp member with copied | last
  · exact index_lt_of_mem_copyStores copied
  · rw [List.mem_singleton.mp last]
    exact Nat.sub_lt ubiPathLen_pos (by decide)

theorem snapshotPathStores_string (path : Option CString) :
    PathArray.string (CharArray.zero.store (snapshotPathStores path)) = some (cutPath (path.getD .empty)) := by
  cases path with
  | some path => exact pathStores_string path
  | none =>
    have stored : CharArray.zero.store (snapshotPathStores Option.none) = some (CharArray.zero : CharArray ubiPathLen) := by
      simp [snapshotPathStores, CharArray.store, ubiPathLen_pos, CharArray.zero]
    rw [stored, Option.getD_none, cutPath_empty]
    exact @CharArray.string_eq ubiPathLen .zero .empty ubiPathLen_pos fun _ _ => rfl

theorem snapshotPathStores_inside (path : Option CString) : ∀ store ∈ snapshotPathStores path, store.1 < ubiPathLen := by
  cases path with
  | some path => exact pathStores_inside path
  | none =>
    intro store member
    rw [List.mem_singleton.mp member]
    exact ubiPathLen_pos

/-- A device is made with the names it is given, which fit into its arrays. -/
theorem bsDevUringCreatePaths_kept (imageShort : imagePath.bytes.length < ubiPathLen)
    (snapshotShort : snapshotPath.bytes.length < ubiPathLen) (alloc stat readMap : Bool) :
    (∀ act ∈ (bsDevUringCreatePaths imagePath snapshotPath alloc stat readMap).1, act.Kept imagePath snapshotPath) ∧
    ∀ dev, (bsDevUringCreatePaths imagePath snapshotPath alloc stat readMap).2 = some dev →
      PathArray.string dev.filename = some imagePath ∧ PathArray.string dev.snapshotPath = some snapshotPath := by
  have opens : ∀ act ∈ (if snapshotPath = .empty then [] else [PathAct.opened .snapshotFile snapshotPath]),
      act.Kept imagePath snapshotPath := by
    intro act member
    split at member
    · cases member
    · rename_i path
      rw [List.mem_singleton.mp member]
      exact ⟨rfl, path⟩
  unfold bsDevUringCreatePaths
  split
  · refine ⟨fun act member => ?_, fun dev made => ?_⟩
    · cases member
    · cases made
  · simp only
    split
    · refine ⟨opens, fun dev made => ?_⟩
      cases made
    · constructor
      · intro act member
        rcases List.mem_append.mp member with before | snapshot
        · rcases List.mem_append.mp before with opened | image
          · exact opens act opened
          · exact kept_stores (strcpy_inside imageShort) act image
        · exact kept_stores (strcpy_inside snapshotShort) act snapshot
      · intro dev made
        cases made
        exact ⟨strcpy_string imageShort, strcpy_string snapshotShort⟩

theorem bsDevUringChannelPaths_kept (opened : Bool) :
    ∀ act ∈ bsDevUringChannelPaths imagePath snapshotPath opened, act.Kept imagePath snapshotPath := by
  intro act member
  rcases List.mem_cons.mp member with rfl | later
  · exact rfl
  · split at later
    · rename_i both
      rw [List.mem_singleton.mp later]
      exact ⟨rfl, both.2⟩
    · cases later

end

section
variable {imagePath : CString} {snapshotPath : Option CString} {formatBdev : Bool} {s s' : CreatedPaths}

theorem createdStep_create {o : CreateOutcomes} (stepped : createdStep imagePath snapshotPath formatBdev s (.create o) = some s') :
    (s'.bdev = s.bdev ∧ s'.devs = s.devs ∧ s'.acts = s.acts) ∨
    s'.bdev = some ⟨CharArray.zero.store (pathStores imagePath), CharArray.zero.store (snapshotPathStores snapshotPath)⟩ ∧
      s'.devs = s.devs ∧
      s'.acts = s.acts ++ storeActs (pathStores imagePath) ++ storeActs (snapshotPathStores snapshotPath) := by
  simp only [createdStep] at stepped
  split at stepped
  · cases stepped
  · split at stepped
    · cases stepped
      exact Or.inl ⟨rfl, rfl, rfl⟩
    · cases stepped
      exact Or.inr ⟨rfl, rfl, rfl⟩

theorem createdStep_esnap {alloc stat readMap : Bool}
    (stepped : createdStep imagePath snapshotPath formatBdev s (.esnap alloc stat readMap) = some s') :
    ∃ bdev filename path, s.bdev = some bdev ∧ PathArray.string bdev.imagePath = some filename ∧
      PathArray.string bdev.snapshotPath = some path ∧
      s' = { s with
        devs := s.devs ++ (bsDevUringCreatePaths filename path alloc stat readMap).2.toList
        acts := s.acts ++ (bsDevUringCreatePaths filename path alloc stat readMap).1 } := by
  simp only [createdStep] at stepped
  obtain ⟨bdev, made, later⟩ := Option.bind_eq_some_iff.mp stepped
  obtain ⟨filename, image, last⟩ := Option.bind_eq_some_iff.mp later
  obtain ⟨path, snapshot, rfl⟩ := Option.map_eq_some_iff.mp last
  exact ⟨bdev, filename, path, made, image, snapshot, rfl⟩

theorem createdStep_channel {index : Nat} {opened : Bool}
    (stepped : createdStep imagePath snapshotPath formatBdev s (.channel index opened) = some s') :
    ∃ dev ∈ s.devs, ∃ filename path, PathArray.string dev.filename = some filename ∧
      PathArray.string dev.snapshotPath = some path ∧
      s' = { s with acts := s.acts ++ bsDevUringChannelPaths filename path opened } := by
  simp only [createdStep] at stepped
  obtain ⟨dev, found, later⟩ := Option.bind_eq_some_iff.mp stepped
  obtain ⟨filename, image, last⟩ := Option.bind_eq_some_iff.mp later
  obtain ⟨path, snapshot, rfl⟩ := Option.map_eq_some_iff.mp last
  exact ⟨dev, List.mem_of_getElem? found, filename, path, image, snapshot, rfl⟩

/-- Whatever their length, the record and the devices have the paths as they were cut. -/
theorem createdSound_step (s : CreatedPaths) (event : CreatedEvent) (s' : CreatedPaths)
    (sound : s.Sound (cutPath imagePath) (cutPath (snapshotPath.getD .empty)))
    (stepped : createdStep imagePath snapshotPath formatBdev s event = some s') :
    s'.Sound (cutPath imagePath) (cutPath (snapshotPath.getD .empty)) := by
  cases event with
  | create o =>
    rcases createdStep_create stepped with ⟨bdev, devs, acts⟩ | ⟨bdev, devs, acts⟩
    · exact ⟨by rw [bdev]; exact sound.bdev, by rw [devs]; exact sound.devs, by rw [acts]; exact sound.acts⟩
    · refine ⟨?_, by rw [devs]; exact sound.devs, ?_⟩
      · intro record same
        cases bdev.symm.trans same
        exact ⟨pathStores_string imagePath, snapshotPathStores_string snapshotPath⟩
      · rw [acts]
        intro act member
        rcases List.mem_append.mp member with before | snapshot
        · rcases List.mem_append.mp before with old | image
          · exact sound.acts act old
          · exact kept_stores (pathStores_inside imagePath) act image
        · exact kept_stores (snapshotPathStores_inside snapshotPath) act snapshot
  | esnap alloc stat readMap =>
    obtain ⟨bdev, filename, path, made, image, snapshot, rfl⟩ := createdStep_esnap stepped
    obtain ⟨imageKept, snapshotKept⟩ := sound.bdev bdev made
    cases imageKept.symm.trans image
    cases snapshotKept.symm.trans snapshot
    obtain ⟨acts, dev⟩ := bsDevUringCreatePaths_kept (length_cutPath imagePath) (length_cutPath (snapshotPath.getD .empty))
      alloc stat readMap
    refine ⟨sound.bdev, ?_, ?_⟩
    · intro other member
      rcases List.mem_append.mp member with old | new
      · exact sound.devs other old
      · exact dev other (Option.mem_toList.mp new)
    · intro act member
      rcases List.mem_append.mp member with old | new
      · exact sound.acts act old
      · exact acts act new
  | channel index opened =>
    obtain ⟨dev, member, filename, path, image, snapshot, rfl⟩ := createdStep_channel stepped
    obtain ⟨imageKept, snapshotKept⟩ := sound.devs dev member
    cases imageKept.symm.trans image
    cases snapshotKept.symm.trans snapshot
    refine ⟨sound.bdev, sound.devs, ?_⟩
    intro act member
    rcases List.mem_append.mp member with old | new
    · exact sound.acts act old
    · exact bsDevUringChannelPaths_kept opened act new

theorem createdSound_none (imagePath snapshotPath : CString) : CreatedPaths.none.Sound imagePath snapshotPath := by
  refine ⟨fun bdev made => ?_, fun dev member => ?_, fun act member => ?_⟩
  · cases made
  · cases member
  · cases member

theorem cutPath_of_lt {path : CString} (short : path.bytes.length < ubiPathLen) : cutPath path = path :=
  CString.take_of_lt (by omega)

theorem cutPath_ne {path : CString} (long : ¬ path.bytes.length < ubiPathLen) : cutPath path ≠ path := by
  have positive := ubiPathLen_pos
  exact CString.take_ne (by omega)

/-- Short paths are not cut. -/
theorem CreatedPaths.Sound.uses (sound : s.Sound (cutPath imagePath) (cutPath (snapshotPath.getD .empty)))
    (short : ∀ path ∈ (PathRequest.create imagePath snapshotPath formatBdev).paths, path.bytes.length < ubiPathLen) :
    (PathRequest.create imagePath snapshotPath formatBdev).Uses s.Failed s.acts := by
  refine ⟨Or.inr fun file name member => ?_, fun index byte member => ?_⟩
  · have kept := sound.acts _ member
    cases file with
    | image =>
      have same : name = cutPath imagePath := kept
      rw [same, cutPath_of_lt (short imagePath (List.mem_cons_self ..))]
      rfl
    | snapshotFile =>
      obtain ⟨same, path⟩ : name = cutPath (snapshotPath.getD .empty) ∧ name ≠ .empty := kept
      cases snapshotPath with
      | none =>
        exact absurd (same.trans cutPath_empty) path
      | some given =>
        rw [same, Option.getD_some, cutPath_of_lt (short given (by simp [PathRequest.paths]))]
        rfl
    | deltaFile => exact absurd kept not_false
  · have kept : index < ubiPathLen := sound.acts _ member
    rwa [ubiPathLen_eq] at kept

theorem answers_fine (opts : UbiBdevOpts) : (bdevUbiCreate opts .fine).answers = [0] := by
  rw [create_answers]
  cases opts.formatBdev <;> rfl

/-- The blobstore is given a device with what the record has. -/
theorem CreatedPaths.Sound.esnap (sound : s.Sound (cutPath imagePath) (cutPath (snapshotPath.getD .empty))) {bdev : BdevPaths}
    (made : s.bdev = some bdev) (alloc stat readMap : Bool) :
    createdStep imagePath snapshotPath formatBdev s (.esnap alloc stat readMap) =
      some { s with
        devs := s.devs ++
          (bsDevUringCreatePaths (cutPath imagePath) (cutPath (snapshotPath.getD .empty)) alloc stat readMap).2.toList
        acts := s.acts ++
          (bsDevUringCreatePaths (cutPath imagePath) (cutPath (snapshotPath.getD .empty)) alloc stat readMap).1 } := by
  obtain ⟨image, snapshot⟩ := sound.bdev bdev made
  simp only [createdStep, made, Option.bind_some, image, snapshot, Option.map_some]

/-- A channel opens what the record has. -/
theorem CreatedPaths.Sound.channel (sound : s.Sound (cutPath imagePath) (cutPath (snapshotPath.getD .empty))) {dev : UringPaths}
    {index : Nat} (present : s.devs[index]? = some dev) (opened : Bool) :
    createdStep imagePath snapshotPath formatBdev s (.channel index opened) =
      some { s with
        acts := s.acts ++ bsDevUringChannelPaths (cutPath imagePath) (cutPath (snapshotPath.getD .empty)) opened } := by
  obtain ⟨image, snapshot⟩ := sound.devs dev (List.mem_of_getElem? present)
  simp only [createdStep, present, Option.bind_some, image, snapshot, Option.map_some]

/-- A creation in which nothing fails, and the first channel: the files are opened under the
names as they were cut. -/
theorem created_run (imagePath : CString) (snapshotPath : Option CString) (formatBdev : Bool) :
    ∃ s, run (createdStep imagePath snapshotPath formatBdev) .none [.create .fine, .esnap true true true, .channel 0 true] = some s ∧
      s.answer = some 0 ∧ .opened .image (cutPath imagePath) ∈ s.acts ∧
      (cutPath (snapshotPath.getD .empty) ≠ .empty → .opened .snapshotFile (cutPath (snapshotPath.getD .empty)) ∈ s.acts) := by
  obtain ⟨s₁, created, answered, bdev, made, none⟩ : ∃ s₁, createdStep imagePath snapshotPath formatBdev .none (.create .fine) = some s₁ ∧
      s₁.answer = some 0 ∧ ∃ bdev, s₁.bdev = some bdev ∧ s₁.devs = [] := by
    refine ⟨_, rfl, ?_, _, rfl, rfl⟩
    simp only [answers_fine, List.head?_cons]
  have first := createdSound_step _ _ s₁ (createdSound_none _ _) created
  obtain ⟨s₂, asked, kept, dev, present⟩ : ∃ s₂, createdStep imagePath snapshotPath formatBdev s₁ (.esnap true true true) = some s₂ ∧
      s₂.answer = s₁.answer ∧ ∃ dev, s₂.devs[0]? = some dev := by
    refine ⟨_, first.esnap made true true true, rfl,
      ⟨CharArray.zero.store (strcpy (cutPath imagePath)), CharArray.zero.store (strcpy (cutPath (snapshotPath.getD .empty)))⟩, ?_⟩
    simp [none, bsDevUringCreatePaths]
  have second := createdSound_step s₁ _ s₂ first asked
  refine ⟨_, run_cons.mpr ⟨s₁, created, run_cons.mpr ⟨s₂, asked, run_cons.mpr ⟨_, second.channel present true, rfl⟩⟩⟩,
    kept.trans answered, ?_, ?_⟩
  · exact List.mem_append_right _ (List.mem_cons_self ..)
  · intro path
    refine List.mem_append_right _ (List.mem_cons_of_mem _ ?_)
    rw [if_pos ⟨rfl, path⟩]
    exact List.mem_singleton_self _

/-- A path that does not fit is cut, and a file with another name is opened. -/
theorem create_not_used (long : ∃ path ∈ (PathRequest.create imagePath snapshotPath formatBdev).paths,
    ¬ path.bytes.length < ubiPathLen) : ¬ (PathRequest.create imagePath snapshotPath formatBdev).UsedAsGiven := by
  intro used
  obtain ⟨s, ran, answer, image, snapshot⟩ := created_run imagePath snapshotPath formatBdev
  have uses := (used _).final ran
  have named := uses.named.resolve_left (by
    rintro ⟨status, same, failed⟩
    cases answer.symm.trans same
    exact failed rfl)
  obtain ⟨path, member, tooLong⟩ := long
  rcases List.mem_cons.mp member with rfl | given
  · have same := named _ _ image
    exact cutPath_ne tooLong (Option.some.inj same).symm
  · have given : snapshotPath = some path := Option.mem_toList.mp given
    subst given
    have present : cutPath path ≠ .empty := by
      intro none
      have length := congrArg (fun string => string.bytes.length) none
      simp only [cutPath, CString.take, CString.empty, List.length_take, List.length_nil] at length
      rw [ubiPathLen_eq] at length tooLong
      omega
    have same := named _ _ (snapshot present)
    exact cutPath_ne tooLong (Option.some.inj same).symm

end

/-! ## What becomes of the path of a snapshot -/

/-- Stores that a copy of the path makes, and the file that has its name. -/
def PathAct.Copies (path : CString) : PathAct → Prop
  | .stored index _ => index ≤ path.bytes.length
  | .opened file name => file = .deltaFile ∧ name = path

structure CopiedPaths.Sound (s : CopiedPaths) : Prop where
  numbered : s.requests.Numbered
  unused : ∀ id, s.requests.issued ≤ id → s.acts id = [] ∧ s.filename id = Option.none
  context : ∀ id op ctx, s.requests.stage id = .waiting op ctx → ctx.path = (s.path id).text
  filename : ∀ id name, PathArray.string (s.filename id) = some name → name = s.path id
  acts : ∀ id, ∀ act ∈ s.acts id, act.Copies (s.path id)

theorem strcpy_copies (path : CString) : ∀ act ∈ storeActs (strcpy path), act.Copies path := by
  intro act member
  obtain ⟨store, stored, rfl⟩ := mem_storeActs member
  exact Nat.le_of_lt_succ (index_lt_of_mem_copyStores stored)

/-- What an array holds after a copy is the path, if it holds anything. -/
theorem string_of_copy {path name : CString} (held : PathArray.string (CharArray.zero.store (strcpy path)) = some name) :
    name = path := by
  obtain ⟨array, stored, string⟩ := Option.bind_eq_some_iff.mp held
  exact Option.some.inj (string.symm.trans (CharArray.string_of_strcpy stored))

section
variable {bdev : UbiBdev} {s s' : CopiedPaths}

theorem copiedStep_running {event : CopiedEvent} (stepped : copiedStep bdev s event = some s') : ¬ s.overrun = true := by
  intro overrun
  unfold copiedStep at stepped
  rw [if_pos overrun] at stepped
  cases stepped

theorem copiedStep_snapshot {found : Bool} {path : CString} (stepped : copiedStep bdev s (.snapshot found path) = some s') :
    ∃ requests, requestStep bdev s.requests (.snapshot found path.text) = some requests ∧
      s' = { s with requests := requests, path := Function.update s.path s.requests.issued path } := by
  have running := copiedStep_running stepped
  rw [copiedStep, if_neg running] at stepped
  obtain ⟨requests, moved, rfl⟩ := Option.map_eq_some_iff.mp stepped
  exact ⟨requests, moved, rfl⟩

theorem copiedStep_waiting {op : BlobOp} {ctx : SnapshotContext} {id : Nat} (running : ¬ s.overrun = true)
    (waiting : s.requests.stage id = .waiting op ctx) (outcome : Outcome) :
    copiedStep bdev s (.callback id outcome) =
      (let effect := op.callback bdev s.requests.status ctx outcome
      let after := { s with requests := s.requests.apply id effect }
      some (if .createDelta ∈ effect.acts then after.createDelta id else after)) := by
  rw [copiedStep, if_neg running]
  simp only [waiting]

theorem copiedStep_callback {id : Nat} {outcome : Outcome} (stepped : copiedStep bdev s (.callback id outcome) = some s') :
    ∃ op ctx, s.requests.stage id = .waiting op ctx ∧
      let after := { s with requests := s.requests.apply id (op.callback bdev s.requests.status ctx outcome) }
      s' = after ∨ s' = after.createDelta id := by
  have running := copiedStep_running stepped
  rw [copiedStep, if_neg running] at stepped
  simp only at stepped
  split at stepped
  · rename_i op ctx waiting
    refine ⟨op, ctx, waiting, ?_⟩
    cases stepped
    split
    · exact Or.inr rfl
    · exact Or.inl rfl
  · cases stepped

theorem copiedStep_copied {id copiedClusters : Nat} (stepped : copiedStep bdev s (.copied id copiedClusters) = some s') :
    s' = { s with requests := { s.requests with status := ubiShallowCopyStatusCb s.requests.status copiedClusters } } := by
  have running := copiedStep_running stepped
  rw [copiedStep, if_neg running] at stepped
  obtain ⟨requests, moved, rfl⟩ := Option.map_eq_some_iff.mp stepped
  obtain ⟨_, rfl⟩ := requestStep_copied moved
  rfl

theorem copiedStep_channel {id : Nat} (stepped : copiedStep bdev s (.channel id) = some s') :
    ∃ name, PathArray.string (s.filename id) = some name ∧
      s' = { s with acts := Function.update s.acts id (s.acts id ++ [.opened .deltaFile name]) } := by
  have running := copiedStep_running stepped
  rw [copiedStep, if_neg running] at stepped
  obtain ⟨name, held, rfl⟩ := Option.map_eq_some_iff.mp stepped
  exact ⟨name, held, rfl⟩

theorem CopiedPaths.Sound.snapshot (sound : s.Sound) {found : Bool} {path : CString}
    (stepped : copiedStep bdev s (.snapshot found path) = some s') : s'.Sound := by
  obtain ⟨requests, moved, rfl⟩ := copiedStep_snapshot stepped
  have numbered := numbered_step _ _ _ sound.numbered moved
  cases moved
  have fresh := sound.unused s.requests.issued (Nat.le_refl _)
  have older (id : Nat) (different : id ≠ s.requests.issued) : Function.update s.path s.requests.issued path id = s.path id :=
    Function.update_of_ne different _ _
  refine ⟨numbered, fun id above => sound.unused id (Nat.le_of_succ_le above), ?_, ?_, ?_⟩
  · intro id op ctx waiting
    simp only
    rcases apply_waiting waiting with ⟨rfl, new⟩ | ⟨different, before⟩
    · rw [Function.update_self]
      unfold bdevUbiSnapshot at new
      split at new
      · cases new
        rfl
      · cases new
    · rw [older id different]
      exact sound.context id op ctx before
  · intro id name held
    simp only at held ⊢
    by_cases same : id = s.requests.issued
    · subst same
      rw [fresh.2] at held
      cases held
    · rw [older id same]
      exact sound.filename id name held
  · intro id act member
    simp only at member ⊢
    by_cases same : id = s.requests.issued
    · subst same
      rw [fresh.1] at member
      cases member
    · rw [older id same]
      exact sound.acts id act member

/-- The chain goes on, and no path changes. -/
theorem CopiedPaths.Sound.apply (sound : s.Sound) {id : Nat} {op : BlobOp} {ctx : SnapshotContext}
    (waiting : s.requests.stage id = .waiting op ctx) (outcome : Outcome) :
    CopiedPaths.Sound { s with requests := s.requests.apply id (op.callback bdev s.requests.status ctx outcome) } := by
  refine ⟨sound.numbered.apply (sound.numbered.lt waiting) _, sound.unused, ?_, sound.filename, sound.acts⟩
  intro other op' ctx' waits
  rcases apply_waiting waits with ⟨rfl, goes⟩ | ⟨_, before⟩
  · exact (callback_path goes).trans (sound.context other op ctx waiting)
  · exact sound.context other op' ctx' before

theorem CopiedPaths.Sound.createDelta (sound : s.Sound) {id : Nat} (used : id < s.requests.issued) : (s.createDelta id).Sound := by
  refine ⟨sound.numbered, ?_, sound.context, ?_, ?_⟩
  · intro other above
    have different : other ≠ id := by
      rintro rfl
      exact absurd used (Nat.not_lt.mpr above)
    simp only [CopiedPaths.createDelta, Function.update_of_ne different]
    exact sound.unused other above
  · intro other name held
    by_cases same : other = id
    · subst same
      simp only [CopiedPaths.createDelta, Function.update_self] at held
      exact string_of_copy held
    · simp only [CopiedPaths.createDelta, Function.update_of_ne same] at held
      exact sound.filename other name held
  · intro other act member
    by_cases same : other = id
    · subst same
      simp only [CopiedPaths.createDelta, Function.update_self] at member
      rcases List.mem_append.mp member with old | new
      · exact sound.acts other act old
      · exact strcpy_copies (s.path other) act new
    · simp only [CopiedPaths.createDelta, Function.update_of_ne same] at member
      exact sound.acts other act member

theorem copiedSound_step (s : CopiedPaths) (event : CopiedEvent) (s' : CopiedPaths) (sound : s.Sound)
    (stepped : copiedStep bdev s event = some s') : s'.Sound := by
  cases event with
  | snapshot found path => exact sound.snapshot stepped
  | callback id outcome =>
    obtain ⟨op, ctx, waiting, same | same⟩ := copiedStep_callback stepped
    · rw [same]
      exact sound.apply waiting outcome
    · rw [same]
      exact (sound.apply waiting outcome).createDelta (sound.numbered.lt waiting)
  | copied id copiedClusters =>
    rw [copiedStep_copied stepped]
    exact ⟨sound.numbered, sound.unused, sound.context, sound.filename, sound.acts⟩
  | channel id =>
    obtain ⟨name, held, rfl⟩ := copiedStep_channel stepped
    have named := sound.filename id name held
    refine ⟨sound.numbered, ?_, sound.context, sound.filename, ?_⟩
    · intro other above
      have different : other ≠ id := by
        rintro rfl
        rw [(sound.unused other above).2] at held
        cases held
      simp only [Function.update_of_ne different]
      exact sound.unused other above
    · intro other act member
      by_cases same : other = id
      · subst same
        simp only [Function.update_self] at member
        rcases List.mem_append.mp member with old | new
        · exact sound.acts other act old
        · rw [List.mem_singleton.mp new]
          exact ⟨rfl, named⟩
      · simp only [Function.update_of_ne same] at member
        exact sound.acts other act member

theorem copiedSound_none : CopiedPaths.none.Sound := by
  refine ⟨numbered_none, fun _ _ => ⟨rfl, rfl⟩, fun _ _ _ waiting => ?_, fun _ _ held => ?_, fun _ _ member => ?_⟩
  · cases waiting
  · cases held
  · cases member

theorem CopiedPaths.Sound.uses (sound : s.Sound) {id : Nat} (short : (s.path id).bytes.length < ubiPathLen) :
    (PathRequest.snapshot (s.path id)).Uses (s.Failed id) (s.acts id) := by
  refine ⟨Or.inr fun file name member => ?_, fun index byte member => ?_⟩
  · obtain ⟨rfl, rfl⟩ : file = .deltaFile ∧ name = s.path id := sound.acts id _ member
    rfl
  · have within : index ≤ (s.path id).bytes.length := sound.acts id _ member
    rw [ubiPathLen_eq] at short
    omega

/-- The first request of a bdev waits for `op`, and nothing of its path was copied yet. -/
structure CopiedPaths.Underway (s : CopiedPaths) (path : CString) (op : BlobOp) : Prop where
  running : ¬ s.overrun = true
  issued : s.requests.issued = 1
  given : s.path 0 = path
  acts : s.acts 0 = []
  waiting : ∃ ctx, s.requests.stage 0 = .waiting op ctx ∧ ctx.path = path.text

theorem underway_snapshot (bdev : UbiBdev) (path : CString) :
    ∃ s, copiedStep bdev .none (.snapshot true path) = some s ∧ s.Underway path .createSnapshot := by
  exact ⟨_, rfl, Bool.false_ne_true, rfl, rfl, rfl, ⟨path.text, 0, 0, false, none⟩, rfl, rfl⟩

/-- One callback further, where it does not make the device yet. -/
theorem CopiedPaths.Underway.callback (bdev : UbiBdev) {path : CString} {op op' : BlobOp} {acts : List Act}
    (underway : s.Underway path op)
    (goes : ∀ status ctx, ctx.path = path.text →
      ∃ ctx', op.callback bdev status ctx .fine = ⟨status, acts, .waiting op' ctx'⟩)
    (early : .createDelta ∉ acts) :
    ∃ s', copiedStep bdev s (.callback 0 .fine) = some s' ∧ s'.Underway path op' := by
  obtain ⟨ctx, waiting, named⟩ := underway.waiting
  obtain ⟨ctx', next⟩ := goes s.requests.status ctx named
  have kept := callback_path (congrArg Effect.stage next)
  rw [copiedStep_waiting underway.running waiting, next]
  simp only [if_neg early]
  refine ⟨_, rfl, underway.running, underway.issued, underway.given, underway.acts, ctx', ?_, kept.trans named⟩
  simp only [Requests.apply, Function.update_self]

theorem CopiedPaths.Underway.copied (bdev : UbiBdev) {path : CString} (underway : s.Underway path .decoupleParent) :
    ∃ s', copiedStep bdev s (.callback 0 .fine) = some s' ∧
      s'.requests.issued = 1 ∧ s'.path 0 = path ∧ s'.acts 0 = storeActs (strcpy path) := by
  obtain ⟨ctx, waiting, -⟩ := underway.waiting
  have makes : .createDelta ∈ (BlobOp.decoupleParent.callback bdev s.requests.status ctx .fine).acts := List.mem_cons_self
  rw [copiedStep_waiting underway.running waiting]
  simp only [if_pos makes]
  refine ⟨_, rfl, underway.issued, underway.given, ?_⟩
  simp only [CopiedPaths.createDelta, Function.update_self, underway.given, underway.acts, List.nil_append]

/-- A request of which nothing fails gets to the copy of its path. -/
theorem copied_run (bdev : UbiBdev) {path : CString} (present : path ≠ .empty) :
    ∃ s, run (copiedStep bdev) .none
      [.snapshot true path, .callback 0 .fine, .callback 0 .fine, .callback 0 .fine, .callback 0 .fine, .callback 0 .fine] = some s ∧
      s.requests.issued = 1 ∧ s.path 0 = path ∧ s.acts 0 = storeActs (strcpy path) := by
  have named : path.text ≠ "" := fun none => present (CString.text_eq_empty_iff.mp none)
  -- without a path the chain would end with the snapshot
  have clones (status : SnapshotStatus) (ctx : SnapshotContext) (same : ctx.path = path.text) :
      ∃ ctx', BlobOp.createSnapshot.callback bdev status ctx .fine =
        ⟨status, [.allocChannel, .issue .createClone], .waiting .createClone ctx'⟩ := by
    refine ⟨{ ctx with snapshotBlobid := 0, ch := true }, ?_⟩
    simp only [BlobOp.callback, ubiSnapshotCreateCb, Outcome.fine, same, named, ne_eq, not_true_eq_false, ↓reduceIte]
  obtain ⟨s₀, stepped₀, snapshotting⟩ := underway_snapshot bdev path
  obtain ⟨s₁, stepped₁, cloning⟩ := snapshotting.callback bdev clones (by decide)
  obtain ⟨s₂, stepped₂, opening⟩ := cloning.callback bdev (fun _ _ _ => ⟨_, rfl⟩) (by decide)
  obtain ⟨s₃, stepped₃, closing⟩ := opening.callback bdev (fun _ _ _ => ⟨_, rfl⟩) (by decide)
  obtain ⟨s₄, stepped₄, decoupling⟩ := closing.callback bdev (fun _ _ _ => ⟨_, rfl⟩) (by decide)
  obtain ⟨s₅, stepped₅, copied⟩ := decoupling.copied bdev
  refine ⟨s₅, ?_, copied⟩
  simp only [run, stepped₀, stepped₁, stepped₂, stepped₃, stepped₄, stepped₅, Option.bind_some]

/-- A path that does not fit is copied all the same, with its terminator behind the array. -/
theorem snapshot_not_used {path : CString} (long : ¬ path.bytes.length < ubiPathLen) :
    ¬ (PathRequest.snapshot path).UsedAsGiven := by
  intro used
  have present : path ≠ .empty := by
    rintro rfl
    exact long ubiPathLen_pos
  obtain ⟨s, ran, issued, given, acts⟩ := copied_run ⟨0, 0, 0, 0⟩ present
  have uses := (used ⟨0, 0, 0, 0⟩ _).final ran 0 (by omega) given
  have stored : .stored path.bytes.length 0 ∈ s.acts 0 := by
    rw [acts]
    exact List.mem_map.mpr ⟨_, terminator_mem_strcpy path, rfl⟩
  have within := uses.within _ _ stored
  rw [ubiPathLen_eq] at long
  exact long within

end

/-! ## The names in the other models -/

theorem storePath_text (path : CString) : storePath path.text = (cutPath path).text := by
  simp only [storePath, CString.text, cutPath, CString.take, ubiPathLen_eq, String.toList_ofList, List.map_take]

/-- The image's device in the model of the create flow has the names that the arrays hold. -/
theorem image_named {imagePath : CString} {snapshotPath : Option CString} {formatBdev : Bool} {o : CreateOutcomes} {dev : BsDevUring}
    (image : o.image ⟨imagePath.text, snapshotPath.map CString.text, formatBdev⟩ = some dev) :
    dev.filename = (cutPath imagePath).text ∧ dev.snapshotPath = (cutPath (snapshotPath.getD .empty)).text := by
  have path : ((snapshotPath.map CString.text).map storePath).getD "" = (cutPath (snapshotPath.getD .empty)).text := by
    cases snapshotPath with
    | none =>
      rw [Option.getD_none, cutPath_empty]
      rfl
    | some given => exact storePath_text given
  unfold CreateOutcomes.image at image
  simp only [path, storePath_text] at image
  split at image
  · obtain ⟨_, _, built⟩ := Option.bind_eq_some_iff.mp image
    obtain ⟨_, _, rfl⟩ := Option.map_eq_some_iff.mp built
    exact ⟨rfl, rfl⟩
  · cases image

/-- What is copied into a device is the path that the chain's own context carries. -/
theorem context_path (bdev : UbiBdev) (events : List CopiedEvent) :
    Always (copiedStep bdev) (fun s => ∀ id op ctx, s.requests.stage id = .waiting op ctx → ctx.path = (s.path id).text)
      .none events :=
  (always_of_invariant copiedSound_step copiedSound_none events).mono fun _ sound => sound.context

/-- The paths of a request are used as they are given, in every run, exactly if each of them
fits into its array with the terminator. -/
theorem paths_used_as_given_iff (request : PathRequest) :
    request.UsedAsGiven ↔ ∀ path ∈ request.paths, path.bytes.length < 1024 := by
  rw [← ubiPathLen_eq]
  cases request with
  | create imagePath snapshotPath formatBdev =>
    constructor
    · intro used
      by_contra long
      push Not at long
      obtain ⟨path, member, tooLong⟩ := long
      exact create_not_used ⟨path, member, Nat.not_lt.mpr tooLong⟩ used
    · intro short events
      have start := createdSound_none (cutPath imagePath) (cutPath (snapshotPath.getD .empty))
      refine (always_of_invariant (@createdSound_step imagePath snapshotPath formatBdev) start events).mono ?_
      intro s sound
      exact sound.uses short
  | snapshot path =>
    constructor
    · intro used given member
      rw [List.mem_singleton.mp member]
      by_contra long
      exact snapshot_not_used long used
    · intro short bdev events
      refine (always_of_invariant copiedSound_step copiedSound_none events).mono ?_
      rintro s sound id _ rfl
      exact sound.uses (short _ (List.mem_singleton_self _))

/-- The letter a. -/
def shortPath : CString := ⟨[97], fun byte member => by rw [List.mem_singleton.mp member]; decide⟩

/-- A slash and 127 times the letter a. -/
def longName : List UInt8 := 47 :: List.replicate 127 97

/-- Eight such names, 1024 bytes. -/
def longPath : CString where
  bytes := (List.replicate 8 longName).flatten
  nonzero := by
    intro byte member
    obtain ⟨name, repeated, inside⟩ := List.mem_flatten.mp member
    rw [List.eq_of_mem_replicate repeated] at inside
    rcases List.mem_cons.mp inside with rfl | letter
    · decide
    · rw [List.eq_of_mem_replicate letter]
      decide

/-- As the path of the image or of its snapshot it is cut, as the path of a copy it runs
over the end of the array. -/
theorem long_path_not_used :
    ¬ (PathRequest.create longPath none true).UsedAsGiven ∧
    ¬ (PathRequest.create shortPath (some longPath) false).UsedAsGiven ∧
    ¬ (PathRequest.snapshot longPath).UsedAsGiven := by
  have long : ¬ longPath.bytes.length < ubiPathLen := by
    have length : longPath.bytes.length = 8 * 128 := by
      rw [longPath, List.length_flatten, List.map_replicate, List.sum_replicate_nat, longName, List.length_cons,
        List.length_replicate]
    rw [ubiPathLen_eq, length]
    decide
  refine ⟨create_not_used ⟨longPath, ?_, long⟩, create_not_used ⟨longPath, ?_, long⟩, snapshot_not_used long⟩
  · exact List.mem_cons_self ..
  · simp [PathRequest.paths]

end BdevUbi.Bdev
