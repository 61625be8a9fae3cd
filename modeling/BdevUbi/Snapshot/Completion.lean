import BdevUbi.Snapshot.Copies
import BdevUbi.Snapshot.Status

/-! What a client may conclude from a status that says the copy is done.

The flag is cleared by the copy's completion, the table is written by a message that
the thread runs after it. Requests come one at a time here, so everything is said
about the latest one.
-/

set_option autoImplicit false

namespace BdevUbi.Snapshot
open BdevUbi.Library BdevUbi.Device RegularFile

/-- The status RPC, asked after the latest request was answered with success, says that
nothing is running and nothing went wrong. -/
def Copies.ReportsDone (s : Copies) (id : Nat) : Prop :=
  id + 1 = s.requests.issued ∧ Act.answer 0 ∈ s.requests.acts id ∧
    s.requests.status.inProgress = false ∧ s.requests.status.result = 0

/-- The file at the request's path holds the channel's whole table, with an entry for
each copied cluster and no other. -/
def Copies.FileComplete (s : Copies) (id : Nat) : Prop :=
  ∃ copy file, s.copy id = some copy ∧ s.files (s.path id) = some file ∧
    file.Holds 0 (tableBytes copy.channel.clusterMap) ∧
    ∀ cluster, copy.channel.clusterMap.Mapped cluster ↔ cluster ∈ copy.copied

/-- A request with a path comes only when no other one waits for a callback. -/
def OneAtATime (s : Copies) : CopyEvent → Prop
  | .snapshot found path => found = true ∧ path ≠ "" ∧ ∀ id op ctx, s.requests.stage id ≠ .waiting op ctx
  | _ => True

/-- The table is written in full: the zeros that reserve its place, and itself. -/
def TableWritten : CopyEvent → Prop
  | .callback _ _ setup => ∀ n, setup.transfer ≠ .short n
  | .message calls => calls = .fine
  | _ => True

/-! ## The channel of a copy -/

structure Copy.Sound (sizes : DeltaSizes) (copy : Copy) : Prop where
  writer : copy.dev.direction = .write
  size : copy.dev.clusterSize = sizes.blocks
  behind : mapBytes ≤ copy.channel.position
  bounded : copy.channel.position ≤ offsetLimit
  entries : copy.failed = false → ∀ cluster, copy.channel.clusterMap.Mapped cluster ↔ cluster ∈ copy.copied

theorem mapped_update {map : ClusterMap} {i : Nat} (inside : i < maxClusters) {value : UInt64} (present : value ≠ 0)
    (cluster : Nat) :
    ClusterMap.Mapped (Function.update map ⟨i, inside⟩ value) cluster ↔ map.Mapped cluster ∨ cluster = i := by
  rw [ClusterMap.mapped_iff_start, ClusterMap.mapped_iff_start, ClusterMap.start_update]
  by_cases same : cluster = i
  · simp only [same, ↓reduceIte, or_true, iff_true, ne_eq, ← UInt64.toNat_zero, UInt64.toNat_inj]
    exact present
  · simp only [same, ↓reduceIte, or_false]

theorem position_ne_zero {position : Nat} (behind : mapBytes ≤ position) (bounded : position ≤ offsetLimit) :
    UInt64.ofNat position ≠ 0 := by
  rw [mapBytes_eq] at behind
  rw [offsetLimit] at bounded
  intro zero
  have value := congrArg UInt64.toNat zero
  rw [UInt64.toNat_ofNat', Nat.mod_eq_of_lt (by omega), UInt64.toNat_zero] at value
  omega

section
variable {sizes : DeltaSizes}

theorem deltaDev_ofSizes (blockcnt total : Nat) (path : String) :
    ((UbiBdev.ofSizes sizes blockcnt total).deltaDev path).clusterSize = sizes.blocks := by
  simp only [UbiBdev.deltaDev, UbiBdev.ofSizes, bsDevDeltaCreate, Nat.mod_eq_of_lt sizes.word]
  rfl

theorem deltaDev_sized {C : ClusterSize} {B : BlockLength} (blockcnt total : Nat) (path : String) :
    ((UbiBdev.sized C B blockcnt total).deltaDev path).clusterSize = clusterBlocks C B :=
  @deltaDev_ofSizes ⟨B.bytes, C.bytes, B.divides.trans C.aligned, C.pos, C.word⟩ blockcnt total path

theorem Copy.sound_fresh {blockcnt total : Nat} {path : String} :
    Copy.Sound sizes ⟨(UbiBdev.ofSizes sizes blockcnt total).deltaDev path, ⟨mapBytes, .zero, false⟩, [], false⟩ where
  writer := rfl
  size := deltaDev_ofSizes blockcnt total path
  behind := le_rfl
  bounded := mapBytes_fits
  entries := by
    intro _ cluster
    simp only [ClusterMap.not_mapped_zero, List.not_mem_nil]

/-- A write keeps the channel sound, whatever its calls do. -/
theorem Copy.Sound.write {copy : Copy} (sound : copy.Sound sizes) (unfailed : copy.failed = false) {file file' : RegularFile}
    {cluster : Nat} {payload : List UInt8} {calls : WriteCalls} {status : Int} {channel : BsDevDeltaIoChannel}
    (written : bsDevDeltaWrite copy.dev copy.channel file (cluster * copy.dev.clusterSize) copy.dev.clusterSize payload
      calls = some (status, channel, file')) :
    Copy.Sound sizes { copy with
      channel := channel
      copied := if status = 0 then copy.copied ++ [cluster] else copy.copied
      failed := decide (status ≠ 0) } := by
  have positive : 0 < copy.dev.clusterSize := by
    rw [sound.size]
    exact sizes.blocks_pos
  have index : cluster * copy.dev.clusterSize / copy.dev.clusterSize = cluster := Nat.mul_div_cancel _ positive
  rcases bsDevDeltaWrite_cases (Nat.mul_mod_left _ _) written with ⟨refused, same⟩ | ⟨⟨inside, map⟩, moved, bounded⟩
  · subst same
    refine ⟨sound.writer, sound.size, sound.behind, sound.bounded, ?_⟩
    intro fine
    simp only [refused] at fine
    exact absurd fine (by decide)
  · refine ⟨sound.writer, sound.size, le_trans sound.behind moved, bounded sound.bounded, ?_⟩
    intro fine other
    have success : status = 0 := by simpa using fine
    have present := position_ne_zero sound.behind sound.bounded
    rw [map, mapped_update inside present, sound.entries unfailed other, index]
    simp only [success, ↓reduceIte, List.mem_append, List.mem_singleton]

end

/-! ## The callbacks before a copy -/

theorem answer_zero_cleanup (ctx : SnapshotContext) : Act.answer 0 ∉ cleanupSnapshotContext ctx := by
  unfold cleanupSnapshotContext
  cases ctx.shallowCopyBsDev <;> cases ctx.ch <;> simp

/-- Nothing answered with success, nothing copying. -/
structure Effect.Early (effect : Effect) : Prop where
  quiet : ¬ effect.stage.Copying
  unanswered : Act.answer 0 ∉ effect.acts

theorem failSnapshot_early {status : SnapshotStatus} {ctx : SnapshotContext} {bserrno : Int} (failed : bserrno ≠ 0) :
    (failSnapshot status ctx bserrno).Early where
  quiet := id
  unanswered := by
    simp only [failSnapshot, List.mem_cons, not_or]
    refine ⟨?_, answer_zero_cleanup ctx⟩
    intro same
    cases same
    exact failed rfl

/-- Until a copy is accepted, a request with a path is answered with errors only. -/
theorem callback_early {bdev : UbiBdev} {status : SnapshotStatus} {ctx : SnapshotContext} {outcome : Outcome} {op : BlobOp}
    (named : ctx.path ≠ "") (early : op ≠ .shallowCopy)
    (refused : op = .decoupleParent → outcome.bserrno = 0 → outcome.shallowCopy ≠ 0) :
    (op.callback bdev status ctx outcome).Early := by
  have reaction := callback_reaction bdev status ctx outcome op
  generalize op.callback bdev status ctx outcome = effect at reaction ⊢
  cases reaction with
  | failed _ error => exact failSnapshot_early error
  | writable _ error => exact failSnapshot_early error
  | kept _ noPath => exact absurd noPath named
  | created | cloned | readOnly | closed => exact ⟨id, by simp⟩
  | refused _ error => exact ⟨id, by simp [Ne.symm error]⟩
  | started fine accepted => exact absurd accepted (refused rfl fine)
  | ended => exact absurd rfl early

/-! ## The latest request -/

/-- How far the latest request has come, with what that means for the file. -/
inductive Latest (sizes : DeltaSizes) (s : Copies) (id : Nat) : Prop where
  | before (quiet : ¬ (s.requests.stage id).Copying) (unanswered : Act.answer 0 ∉ s.requests.acts id)
      (path : ∀ op ctx, s.requests.stage id = .waiting op ctx → ctx.path = s.path id ∧ ctx.path ≠ "")
  | copying (ctx : SnapshotContext) (copy : Copy) (stage : s.requests.stage id = .waiting .shallowCopy ctx)
      (current : s.copy id = some copy) (named : copy.dev.filename = s.path id) (sound : copy.Sound sizes)
      (flag : s.requests.status.inProgress = true)
  | ended (copy : Copy) (stage : s.requests.stage id = .cleaned) (current : s.copy id = some copy)
      (named : copy.dev.filename = s.path id) (sound : copy.Sound sizes)
      (result : s.requests.status.result = 0 → copy.failed = false)
      (table : (∃ front, s.deferred = front ++ [(copy.dev, copy.channel)]) ∨
        (s.deferred = [] ∧ ∃ file, s.files copy.dev.filename = some file ∧
          file.Holds 0 (tableBytes copy.channel.clusterMap)))

structure Orderly (sizes : DeltaSizes) (s : Copies) : Prop where
  numbered : s.requests.Numbered
  older : ∀ id, id + 1 < s.requests.issued → ∀ op ctx, s.requests.stage id ≠ .waiting op ctx
  latest : ∀ id, id + 1 = s.requests.issued → Latest sizes s id

section
variable {sizes : DeltaSizes} {s : Copies} {id : Nat}

/-- Only the latest request waits for anything. -/
theorem Orderly.waiting (orderly : Orderly sizes s) {op : BlobOp} {ctx : SnapshotContext}
    (waiting : s.requests.stage id = .waiting op ctx) : id + 1 = s.requests.issued := by
  have used := orderly.numbered.lt waiting
  by_contra different
  exact orderly.older id (by omega) op ctx waiting

/-- Changes to the latest request alone keep the order. -/
theorem Orderly.latest_only {s' : Copies} (orderly : Orderly sizes s) (last : id + 1 = s.requests.issued)
    (issued : s'.requests.issued = s.requests.issued)
    (others : ∀ other, other ≠ id → s'.requests.stage other = s.requests.stage other ∧
      s'.requests.acts other = s.requests.acts other)
    (latest : Latest sizes s' id) : Orderly sizes s' where
  numbered := by
    intro other above
    rw [issued] at above
    obtain ⟨stage, acts⟩ := others other (by omega)
    rw [stage, acts]
    exact orderly.numbered other above
  older := by
    intro other below
    rw [issued] at below
    rw [(others other (by omega)).1]
    exact orderly.older other below
  latest := by
    intro other same
    have : other = id := by omega
    subst this
    exact latest

/-- An early effect leaves the request where nothing is promised. -/
theorem Latest.early {files : String → Option RegularFile} {effect : Effect} (unanswered : Act.answer 0 ∉ s.requests.acts id)
    (named : ∀ op ctx, effect.stage = .waiting op ctx → ctx.path = s.path id ∧ ctx.path ≠ "") (early : effect.Early) :
    Latest sizes { s with requests := s.requests.apply id effect, files := files } id := by
  apply Latest.before
  · simp only [Requests.apply, Function.update_self]
    exact early.quiet
  · simp only [Requests.apply, Function.update_self, List.mem_append, not_or]
    exact ⟨unanswered, early.unanswered⟩
  · intro op ctx waiting
    simp only [Requests.apply, Function.update_self] at waiting
    exact named op ctx waiting

/-! ## One step per event -/

variable {blockcnt total : Nat} {s' : Copies}

theorem Orderly.snapshot (orderly : Orderly sizes s) {found : Bool} {path : String}
    (guard : OneAtATime s (.snapshot found path))
    (stepped : copyStep (.ofSizes sizes blockcnt total) s (.snapshot found path) = some s') : Orderly sizes s' := by
  obtain ⟨rfl, named, free⟩ := guard
  have fresh := orderly.numbered s.requests.issued le_rfl
  cases copyStep_snapshot stepped
  refine ⟨?_, ?_, ?_⟩
  · intro id above
    have different : id ≠ s.requests.issued := Nat.ne_of_gt above
    simp only [apply_others _ id different]
    exact orderly.numbered id (Nat.le_of_succ_le above)
  · intro id below op ctx
    have different : id ≠ s.requests.issued := Nat.ne_of_lt (Nat.lt_of_succ_lt_succ below)
    simp only [apply_others _ id different]
    exact free id op ctx
  · intro id last
    cases Nat.succ.inj last
    apply Latest.before
    · simp only [Requests.apply, bdevUbiSnapshot, ↓reduceIte, Function.update_self]
      exact fun copying => copying
    · simp only [Requests.apply, bdevUbiSnapshot, ↓reduceIte, Function.update_self, fresh.2, List.nil_append]
      decide
    · intro op ctx waiting
      simp only [Requests.apply, bdevUbiSnapshot, ↓reduceIte, Function.update_self] at waiting ⊢
      cases waiting
      exact ⟨rfl, named⟩

theorem Orderly.callback (orderly : Orderly sizes s) {outcome : Outcome} {setup : SetupCalls}
    (whole : ∀ n, setup.transfer ≠ .short n)
    (stepped : copyStep (.ofSizes sizes blockcnt total) s (.callback id outcome setup) = some s') : Orderly sizes s' := by
  obtain ⟨op, ctx, waiting, early, called⟩ := copyStep_callback stepped
  have last := orderly.waiting waiting
  cases orderly.latest id last with
  | copying ctx' copy stage =>
    rw [stage] at waiting
    cases waiting
    exact absurd rfl early
  | ended copy stage =>
    rw [stage] at waiting
    cases waiting
  | before quiet unanswered path =>
    have named := path op ctx waiting
    rcases called with ⟨outcome', files, refused, _, _, rfl⟩ | ⟨rfl, fine, accepted, channel, stored, created, rfl⟩
    · refine orderly.latest_only last rfl (apply_others _) (.early unanswered ?_ (callback_early named.2 early refused))
      intro op' ctx' waiting'
      rw [callback_path waiting']
      exact named
    · have fresh := (createChannelCb_writer rfl whole created).1
      subst fresh
      refine orderly.latest_only last rfl (apply_others _) ?_
      have stage := @startSnapshot_stage (.ofSizes sizes blockcnt total) s.requests.status ctx outcome fine accepted
      exact .copying _ _ ((Function.update_self _ _ _).trans stage) (Function.update_self _ _ _) named.1 Copy.sound_fresh
        (decoupleParentCb_started fine).1

theorem Orderly.copyCluster (orderly : Orderly sizes s) {cluster : Nat} {payload : List UInt8} {calls : WriteCalls}
    (stepped : copyStep (.ofSizes sizes blockcnt total) s (.copyCluster id cluster payload calls) = some s') : Orderly sizes s' := by
  obtain ⟨ctx, copy, file, status, channel, file', waiting, current, fine, _, written, rfl⟩ := copyStep_copyCluster stepped
  have last := orderly.waiting waiting
  cases orderly.latest id last with
  | before quiet =>
    rw [waiting] at quiet
    exact absurd trivial quiet
  | ended copy' stage =>
    rw [stage] at waiting
    cases waiting
  | copying ctx' copy' stage current' named sound flag =>
    cases current.symm.trans current'
    refine orderly.latest_only last rfl (fun _ _ => ⟨rfl, rfl⟩) ?_
    exact .copying ctx' _ stage (Function.update_self _ _ _) named (sound.write fine written) flag

theorem Orderly.copied (orderly : Orderly sizes s) {copiedClusters : Nat}
    (stepped : copyStep (.ofSizes sizes blockcnt total) s (.copied id copiedClusters) = some s') : Orderly sizes s' := by
  obtain ⟨⟨ctx, waiting⟩, rfl⟩ := copyStep_copied stepped
  have last := orderly.waiting waiting
  refine orderly.latest_only last rfl (fun _ _ => ⟨rfl, rfl⟩) ?_
  cases orderly.latest id last with
  | before quiet unanswered path => exact .before quiet unanswered path
  | copying ctx' copy stage current named sound flag => exact .copying ctx' copy stage current named sound flag
  | ended copy stage current named sound result table => exact .ended copy stage current named sound result table

theorem Orderly.copyEnd (orderly : Orderly sizes s) {rc : Int}
    (stepped : copyStep (.ofSizes sizes blockcnt total) s (.copyEnd id rc) = some s') : Orderly sizes s' := by
  obtain ⟨ctx, copy, waiting, current, consistent, rfl⟩ := copyStep_copyEnd stepped
  have last := orderly.waiting waiting
  cases orderly.latest id last with
  | before quiet =>
    rw [waiting] at quiet
    exact absurd trivial quiet
  | ended copy' stage =>
    rw [stage] at waiting
    cases waiting
  | copying ctx' copy' stage current' named sound flag =>
    cases current.symm.trans current'
    refine orderly.latest_only last rfl (apply_others _) ?_
    refine .ended copy ?_ current named sound ?_ (Or.inl ⟨s.deferred, rfl⟩)
    · simp only [Requests.apply, ubiShallowCopyCompleteCb, Function.update_self]
    · intro result
      apply consistent
      by_contra failed
      simp only [Requests.apply, ubiShallowCopyCompleteCb, ne_eq, failed, not_false_eq_true, ↓reduceIte] at result

theorem Orderly.message (orderly : Orderly sizes s)
    (stepped : copyStep (.ofSizes sizes blockcnt total) s (.message .fine) = some s') : Orderly sizes s' := by
  obtain ⟨dev, channel, rest, file, deferred, stored, rfl⟩ := copyStep_message stepped
  refine ⟨orderly.numbered, orderly.older, ?_⟩
  intro id last
  cases orderly.latest id last with
  | before quiet unanswered path => exact .before quiet unanswered path
  | copying ctx copy stage current named sound flag => exact .copying ctx copy stage current named sound flag
  | ended copy stage current named sound result table =>
    refine .ended copy stage current named sound result ?_
    rcases table with ⟨front, pending⟩ | ⟨none, _⟩
    · rw [deferred] at pending
      cases front with
      | nil =>
        -- the message is this copy's own: it writes the table
        cases pending
        refine Or.inr ⟨rfl, _, Function.update_self _ _ _, ?_⟩
        rw [destroyChannelCb_fine sound.writer]
        exact write_table_holds file _
      | cons first front =>
        cases pending
        exact Or.inl ⟨front, rfl⟩
    · rw [deferred] at none
      cases none

end

theorem orderly_step {sizes : DeltaSizes} {blockcnt total : Nat} (s : Copies) (event : CopyEvent) (s' : Copies)
    (orderly : Orderly sizes s) (guard : OneAtATime s event ∧ TableWritten event)
    (stepped : copyStep (.ofSizes sizes blockcnt total) s event = some s') : Orderly sizes s' := by
  obtain ⟨alone, written⟩ := guard
  cases event with
  | snapshot found path => exact orderly.snapshot alone stepped
  | callback id outcome setup => exact orderly.callback written stepped
  | copyCluster id cluster payload calls => exact orderly.copyCluster stepped
  | copied id copiedClusters => exact orderly.copied stepped
  | copyEnd id rc => exact orderly.copyEnd stepped
  | message calls =>
    cases (written : calls = .fine)
    exact orderly.message stepped

/-- Where no destroy message is left to run, and all of them wrote the whole table, a
status that reports success tells of a file that is complete. -/
theorem reported_snapshot_complete (sizes : DeltaSizes) (blockcnt total : Nat)
    (files : String → Option RegularFile) (events : List CopyEvent)
    (guarded : Guarded (copyStep (.ofSizes sizes blockcnt total)) (fun s event => OneAtATime s event ∧ TableWritten event)
      (.initial files) events) :
    Always (copyStep (.ofSizes sizes blockcnt total))
      (fun s => s.deferred = [] → ∀ id, s.ReportsDone id → s.FileComplete id) (.initial files) events := by
  have start : Orderly sizes (.initial files) := by
    refine ⟨numbered_none, ?_, ?_⟩
    · intro id below
      exact absurd below (Nat.not_lt_zero _)
    · intro id last
      exact absurd last (Nat.succ_ne_zero _)
  refine (always_of_guarded orderly_step start guarded).mono ?_
  intro s orderly drained id ⟨last, answered, idle, fine⟩
  cases orderly.latest id last with
  | before quiet unanswered => exact absurd answered unanswered
  | copying ctx copy stage current named sound flag =>
    rw [flag] at idle
    cases idle
  | ended copy stage current named sound result table =>
    rcases table with ⟨front, pending⟩ | ⟨_, file, stored, held⟩
    · rw [drained] at pending
      exact absurd pending.symm (List.append_ne_nil_of_right_ne_nil _ (List.cons_ne_nil _ _))
    · exact ⟨copy, file, current, named ▸ stored, held, sound.entries (result fine)⟩

/-! ## One cluster, copied and reported -/

def onePageBdev : UbiBdev := .ofSizes .page 16 16
def onePageData : List UInt8 := List.replicate ClusterSize.page.bytes 7
def noFiles : String → Option RegularFile := fun _ => none

/-- A request up to the end of its copy, which passes on one cluster. -/
def onePageEvents : List CopyEvent :=
  [.snapshot true "snapshot", .callback 0 .fine .fine, .callback 0 .fine .fine, .callback 0 .fine .fine,
    .callback 0 .fine .fine] ++
  [.callback 0 .fine .fine, .copyCluster 0 0 onePageData .fine, .copyEnd 0 0]

def onePageChannel : BsDevDeltaIoChannel :=
  ⟨mapBytes + ClusterSize.page.bytes,
    Function.update ClusterMap.zero ⟨0, zero_lt_maxClusters⟩ (UInt64.ofNat mapBytes), false⟩

theorem onePage_prepared : ∃ s, run (copyStep onePageBdev) (.initial noFiles)
      [.snapshot true "snapshot", .callback 0 .fine .fine, .callback 0 .fine .fine, .callback 0 .fine .fine,
        .callback 0 .fine .fine] = some s ∧
    s.requests.stage 0 = .waiting .decoupleParent ⟨"snapshot", 0, 0, true, none⟩ ∧ s.files = noFiles ∧
    s.path 0 = "snapshot" ∧ s.deferred = [] ∧ s.requests.issued = 1 ∧ s.requests.status.result = 0 :=
  ⟨_, rfl, rfl, rfl, rfl, rfl, rfl, rfl⟩

theorem onePage_write (file : RegularFile) :
    bsDevDeltaWrite (onePageBdev.deltaDev "snapshot") ⟨mapBytes, .zero, false⟩ file
      (0 * (onePageBdev.deltaDev "snapshot").clusterSize) (onePageBdev.deltaDev "snapshot").clusterSize onePageData .fine =
      some (0, onePageChannel, file.write mapBytes onePageData) := by
  have size : (onePageBdev.deltaDev "snapshot").clusterSize = clusterBlocks .page .page := @deltaDev_sized .page .page 16 16 "snapshot"
  have whole : onePageData.length = ClusterSize.page.bytes := List.length_replicate
  have fits : mapBytes + ClusterSize.page.bytes ≤ offsetLimit := by
    rw [mapBytes_eq, offsetLimit, ClusterSize.page]
    norm_num
  have written := @bsDevDeltaWrite_cluster .page .page (onePageBdev.deltaDev "snapshot") ⟨mapBytes, .zero, false⟩ file rfl size
    0 zero_lt_maxClusters onePageData whole fits
  have positive : ¬ (ClusterSize.page.bytes : Int).bmod (2 ^ 32) < 0 := by decide
  rw [size, written, if_neg positive]
  rfl

/-- Where the run ends the status reports success, and the file still has zeros for a table. -/
theorem onePage_run : ∃ s file, run (copyStep onePageBdev) (.initial noFiles) onePageEvents = some s ∧
    s.ReportsDone 0 ∧ s.path 0 = "snapshot" ∧
    s.copy 0 = some ⟨onePageBdev.deltaDev "snapshot", onePageChannel, [0], false⟩ ∧
    s.deferred = [(onePageBdev.deltaDev "snapshot", onePageChannel)] ∧
    s.files "snapshot" = some file ∧ file.Holds 0 (tableBytes ClusterMap.zero) := by
  obtain ⟨s, ran, stage, files, path, deferred, issued, result⟩ := onePage_prepared
  let started : Copies := { s with
    requests := s.requests.apply 0 (ubiStartSnapshot onePageBdev s.requests.status ⟨"snapshot", 0, 0, true, none⟩ 0 0)
    files := Function.update s.files "snapshot"
      (some (((s.files "snapshot").getD .empty).write 0 (tableBytes ClusterMap.zero)))
    copy := Function.update s.copy 0 (some ⟨onePageBdev.deltaDev "snapshot", ⟨mapBytes, .zero, false⟩, [], false⟩) }
  have start : copyStep onePageBdev s (.callback 0 .fine .fine) = some started := copyStep_start stage
  have stage' : started.requests.stage 0 =
      .waiting .shallowCopy ⟨"snapshot", 0, 0, true, some (onePageBdev.deltaDev "snapshot")⟩ := by
    simp [started, Requests.apply, ubiStartSnapshot]
  have current : started.copy 0 = some ⟨onePageBdev.deltaDev "snapshot", ⟨mapBytes, .zero, false⟩, [], false⟩ := by
    simp only [started, Function.update_self]
  have opened : started.files "snapshot" =
      some (((s.files "snapshot").getD .empty).write 0 (tableBytes ClusterMap.zero)) := by
    simp only [started, Function.update_self]
  let written : Copies := { started with
    files := Function.update started.files "snapshot"
      (some ((((s.files "snapshot").getD .empty).write 0 (tableBytes ClusterMap.zero)).write mapBytes onePageData))
    copy := Function.update started.copy 0 (some ⟨onePageBdev.deltaDev "snapshot", onePageChannel, [0], false⟩) }
  have write := @copyStep_write onePageBdev started 0 _ stage' _ current rfl _ _ opened 0 _ _ _ (onePage_write _)
  have current' : written.copy 0 = some ⟨onePageBdev.deltaDev "snapshot", onePageChannel, [0], false⟩ := by
    simp only [written, Function.update_self]
  let ended : Copies := { written with
    requests := written.requests.apply 0 (ubiShallowCopyCompleteCb written.requests.status
      ⟨"snapshot", 0, 0, true, some (onePageBdev.deltaDev "snapshot")⟩ 0)
    deferred := written.deferred ++ [(onePageBdev.deltaDev "snapshot", onePageChannel)] }
  have finish := @copyStep_end onePageBdev written 0 _ stage' _ current' rfl
  have opened' : ended.files "snapshot" =
      some ((((s.files "snapshot").getD .empty).write 0 (tableBytes ClusterMap.zero)).write mapBytes onePageData) := by
    simp only [ended, written, Function.update_self]
  refine ⟨ended, _, ?_, ⟨?_, ?_, ?_, ?_⟩, path, current', ?_, opened', ?_⟩
  · apply run_append.mpr
    exact ⟨s, ran, run_cons.mpr ⟨started, start, run_cons.mpr ⟨written, write, run_cons.mpr ⟨ended, finish, rfl⟩⟩⟩⟩
  · exact issued.symm
  · simp [Requests.apply, started, ubiStartSnapshot, written, ended]
  · rfl
  · simp [Requests.apply, started, ubiStartSnapshot, written, ended, ubiShallowCopyCompleteCb, result]
  · simp only [ended, written, started, deferred, List.nil_append]
  · apply (write_table_holds _ _).write
    left
    rw [length_mapBytes, Nat.zero_add]

theorem onePageChannel_mapped : onePageChannel.clusterMap ≠ ClusterMap.zero := by
  intro same
  have present := position_ne_zero le_rfl mapBytes_fits
  have value := congrFun same ⟨0, zero_lt_maxClusters⟩
  simp only [onePageChannel, Function.update_self] at value
  exact present value

/-- Asked before the destroy message has run, or after its write has failed, the status
reports success for a file without the table. -/
theorem reported_snapshot_incomplete :
    ¬ Always (copyStep onePageBdev) (fun s => ∀ id, s.ReportsDone id → s.FileComplete id) (.initial noFiles)
      onePageEvents ∧
    ¬ Always (copyStep onePageBdev) (fun s => s.deferred = [] → ∀ id, s.ReportsDone id → s.FileComplete id)
      (.initial noFiles) (onePageEvents ++ [.message ⟨true, .failed⟩]) := by
  obtain ⟨s, file, ran, reports, path, current, deferred, stored, zeros⟩ := onePage_run
  have incomplete : ∀ s' : Copies, s'.path 0 = "snapshot" → s'.copy 0 = s.copy 0 → s'.files "snapshot" = some file →
      ¬ s'.FileComplete 0 := by
    rintro s' path' current' stored' ⟨copy, file', present, opened, held, _⟩
    rw [current', current] at present
    rw [path', stored'] at opened
    cases present
    cases opened
    have loaded := (readClusterMap_holds held).symm.trans (readClusterMap_holds zeros)
    exact onePageChannel_mapped (Option.some.inj loaded)
  constructor
  · intro always
    exact incomplete s path rfl stored (always.final ran 0 reports)
  · intro always
    have message : copyStep onePageBdev s (.message ⟨true, .failed⟩) = some { s with
        files := Function.update s.files "snapshot" (some file), deferred := [] } := by
      have failed := @destroyChannelCb_failed (onePageBdev.deltaDev "snapshot") rfl onePageChannel file true
      have named : (onePageBdev.deltaDev "snapshot").filename = "snapshot" := rfl
      simp only [copyStep, deferred, named, stored, Option.map_some, failed]
    have done := always.final (run_snoc.mpr ⟨s, ran, message⟩) rfl 0 reports
    refine incomplete { s with files := Function.update s.files "snapshot" (some file), deferred := [] } path rfl ?_ done
    simp only [Function.update_self]

theorem onePage_guarded : Guarded (copyStep onePageBdev) (fun s event => OneAtATime s event ∧ TableWritten event)
    (.initial noFiles) (onePageEvents ++ [.message .fine]) := by
  refine ⟨⟨⟨rfl, by decide, fun id op ctx => Stage.noConfusion⟩, trivial⟩, fun s _ => guarded_of_forall s ?_⟩
  intro event member _
  simp only [List.append_eq, List.cons_append, List.nil_append, List.mem_cons, List.not_mem_nil, or_false] at member
  rcases member with rfl | rfl | rfl | rfl | rfl | rfl | rfl | rfl
  all_goals refine ⟨trivial, ?_⟩
  all_goals first | trivial | rfl | exact fun n => Transfer.noConfusion

theorem reported_snapshot_complete_page :
    Always (copyStep onePageBdev) (fun s => s.deferred = [] → ∀ id, s.ReportsDone id → s.FileComplete id)
      (.initial noFiles) (onePageEvents ++ [.message .fine]) :=
  reported_snapshot_complete .page 16 16 noFiles _ onePage_guarded

end BdevUbi.Snapshot
