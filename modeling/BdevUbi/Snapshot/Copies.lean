import BdevUbi.Snapshot.Requests

/-! Snapshot requests together with the files their copies write.

The blobstore opens a channel on the destination before it accepts a copy, passes
whole clusters to the destination's write, and at the end puts the channel and
completes. The channel's destroy callback runs later, as a message of the thread,
and with it the final write of the table.
-/

set_option autoImplicit false

namespace BdevUbi.Snapshot
open BdevUbi.Library BdevUbi.Device

/-- A copy and its channel; the record stays when the copy has ended. -/
structure Copy where
  dev : BsDevDelta
  channel : BsDevDeltaIoChannel
  -- clusters whose write was answered with 0, oldest first
  copied : List Nat
  failed : Bool

structure Copies where
  requests : Requests
  path : Nat → String
  files : String → Option RegularFile
  copy : Nat → Option Copy
  deferred : List (BsDevDelta × BsDevDeltaIoChannel)

def Copies.initial (files : String → Option RegularFile) : Copies :=
  ⟨.none, fun _ => "", files, fun _ => none, []⟩

inductive CopyEvent where
  | snapshot (found : Bool) (path : String)
  | callback (id : Nat) (outcome : Outcome) (setup : SetupCalls)
  | copyCluster (id cluster : Nat) (payload : List UInt8) (calls : WriteCalls)
  | copied (id copiedClusters : Nat)
  | copyEnd (id : Nat) (rc : Int)
  | message (calls : WriteCalls)

/-- `spdk_bs_blob_shallow_copy` up to its return: it is refused when the destination
gives it no channel, if the process gets that far. -/
def Copies.startCopy (bdev : UbiBdev) (s : Copies) (id : Nat) (ctx : SnapshotContext) (outcome : Outcome)
    (setup : SetupCalls) : Option Copies :=
  let dev := bdev.deltaDev ctx.path
  match bsDevDeltaCreateChannelCb dev (s.files dev.filename) setup with
  | (some ch, stored) =>
    (requestStep bdev s.requests (.callback id outcome)).map fun requests =>
      { s with
        requests := requests
        files := Function.update s.files dev.filename stored
        copy := Function.update s.copy id (some ⟨dev, ch, [], false⟩) }
  | (none, stored) =>
    (requestStep bdev s.requests (.callback id { outcome with shallowCopy := -enomem })).map fun requests =>
      { s with requests := requests, files := Function.update s.files dev.filename stored }

/-- One cluster passed to the destination; an error of its write is the copy's. -/
def Copies.writeCluster (s : Copies) (id : Nat) (copy : Copy) (cluster : Nat) (payload : List UInt8) (calls : WriteCalls) :
    Option Copies :=
  (s.files copy.dev.filename).bind fun file =>
    (bsDevDeltaWrite copy.dev copy.channel file (cluster * copy.dev.clusterSize) copy.dev.clusterSize payload calls).map
      fun (status, channel, file') =>
        { s with
          files := Function.update s.files copy.dev.filename (some file')
          copy := Function.update s.copy id (some { copy with
            channel := channel
            copied := if status = 0 then copy.copied ++ [cluster] else copy.copied
            failed := decide (status ≠ 0) }) }

def copyStep (bdev : UbiBdev) (s : Copies) : CopyEvent → Option Copies
  | .snapshot found path =>
    (requestStep bdev s.requests (.snapshot found path)).map fun requests =>
      { s with requests := requests, path := Function.update s.path s.requests.issued path }
  | .callback id outcome setup =>
    match s.requests.stage id with
    | .waiting .shallowCopy _ => none
    | .waiting .decoupleParent ctx =>
      if outcome.bserrno = 0 ∧ outcome.shallowCopy = 0 then s.startCopy bdev id ctx outcome setup
      else (requestStep bdev s.requests (.callback id outcome)).map fun requests => { s with requests := requests }
    | _ => (requestStep bdev s.requests (.callback id outcome)).map fun requests => { s with requests := requests }
  | .copyCluster id cluster payload calls =>
    match s.requests.stage id, s.copy id with
    | .waiting .shallowCopy _, some copy => if copy.failed then none else s.writeCluster id copy cluster payload calls
    | _, _ => none
  | .copied id copiedClusters =>
    (requestStep bdev s.requests (.copied id copiedClusters)).map fun requests => { s with requests := requests }
  | .copyEnd id rc =>
    match s.requests.stage id, s.copy id with
    | .waiting .shallowCopy _, some copy =>
      if copy.failed = true ∧ rc = 0 then none
      else
        (requestStep bdev s.requests (.callback id { Outcome.fine with bserrno := rc })).map fun requests =>
          { s with requests := requests, deferred := s.deferred ++ [(copy.dev, copy.channel)] }
    | _, _ => none
  | .message calls =>
    match s.deferred with
    | [] => none
    | (dev, channel) :: rest =>
      (s.files dev.filename).map fun file =>
        { s with
          files := Function.update s.files dev.filename (some (bsDevDeltaDestroyChannelCb dev channel file calls))
          deferred := rest }

/-! ## What each event can do -/

section
variable {bdev : UbiBdev} {s s' : Copies}

theorem copyStep_snapshot {found : Bool} {path : String} (stepped : copyStep bdev s (.snapshot found path) = some s') :
    s' = { s with
      requests := { s.requests.apply s.requests.issued (bdevUbiSnapshot s.requests.status found path) with
        issued := s.requests.issued + 1 }
      path := Function.update s.path s.requests.issued path } := by
  simp only [copyStep, requestStep, Option.map_some, Option.some.injEq] at stepped
  exact stepped.symm

/-- A callback either leads its request on without starting a copy, or starts one. A
channel that could not be set up may have changed the file all the same. -/
theorem copyStep_callback {id : Nat} {outcome : Outcome} {setup : SetupCalls}
    (stepped : copyStep bdev s (.callback id outcome setup) = some s') :
    ∃ op ctx, s.requests.stage id = .waiting op ctx ∧ op ≠ .shallowCopy ∧
      ((∃ outcome' files, (op = .decoupleParent → outcome'.bserrno = 0 → outcome'.shallowCopy ≠ 0) ∧
        outcome'.bserrno = outcome.bserrno ∧ (∀ name, name ≠ ctx.path → files name = s.files name) ∧
        s' = { s with
          requests := s.requests.apply id (op.callback bdev s.requests.status ctx outcome')
          files := files }) ∨
      (op = .decoupleParent ∧ outcome.bserrno = 0 ∧ outcome.shallowCopy = 0 ∧ ∃ channel stored,
        bsDevDeltaCreateChannelCb (bdev.deltaDev ctx.path) (s.files ctx.path) setup = (some channel, stored) ∧
        s' = { s with
          requests := s.requests.apply id (op.callback bdev s.requests.status ctx outcome)
          files := Function.update s.files ctx.path stored
          copy := Function.update s.copy id (some ⟨bdev.deltaDev ctx.path, channel, [], false⟩) })) := by
  simp only [copyStep] at stepped
  split at stepped
  · cases stepped
  · rename_i ctx waiting
    refine ⟨_, ctx, waiting, by decide, ?_⟩
    have called : ∀ outcome', requestStep bdev s.requests (.callback id outcome') =
        some (s.requests.apply id (BlobOp.decoupleParent.callback bdev s.requests.status ctx outcome')) := by
      intro outcome'
      simp only [requestStep, waiting]
    split at stepped
    · rename_i fine
      simp only [Copies.startCopy, called, Option.map_some] at stepped
      split at stepped
      · rename_i channel stored created
        cases stepped
        exact Or.inr ⟨rfl, fine.1, fine.2, channel, stored, created, rfl⟩
      · rename_i stored created
        cases stepped
        refine Or.inl ⟨{ outcome with shallowCopy := -enomem }, Function.update s.files ctx.path stored, ?_, rfl, ?_, rfl⟩
        · intro _ _
          exact (by decide : -enomem ≠ 0)
        · intro name different
          exact Function.update_of_ne different _ _
    · rename_i refused
      rw [called, Option.map_some] at stepped
      cases stepped
      refine Or.inl ⟨outcome, s.files, ?_, rfl, fun _ _ => rfl, rfl⟩
      intro _ fine accepted
      exact refused ⟨fine, accepted⟩
  · rename_i notCopy notDecouple
    obtain ⟨requests, called, rfl⟩ := Option.map_eq_some_iff.mp stepped
    obtain ⟨op, ctx, waiting, rfl⟩ := requestStep_callback called
    refine ⟨op, ctx, waiting, ?_, Or.inl ⟨outcome, s.files, ?_, rfl, fun _ _ => rfl, rfl⟩⟩
    · rintro rfl
      exact notCopy ctx waiting
    · rintro rfl
      exact absurd waiting (notDecouple ctx)

/-- A cluster is passed on only by a running copy none of whose writes has failed. -/
theorem copyStep_copyCluster {id cluster : Nat} {payload : List UInt8} {calls : WriteCalls}
    (stepped : copyStep bdev s (.copyCluster id cluster payload calls) = some s') :
    ∃ ctx copy file status channel file', s.requests.stage id = .waiting .shallowCopy ctx ∧ s.copy id = some copy ∧
      copy.failed = false ∧ s.files copy.dev.filename = some file ∧
      bsDevDeltaWrite copy.dev copy.channel file (cluster * copy.dev.clusterSize) copy.dev.clusterSize payload calls =
        some (status, channel, file') ∧
      s' = { s with
        files := Function.update s.files copy.dev.filename (some file')
        copy := Function.update s.copy id (some { copy with
          channel := channel
          copied := if status = 0 then copy.copied ++ [cluster] else copy.copied
          failed := decide (status ≠ 0) }) } := by
  simp only [copyStep] at stepped
  split at stepped
  · rename_i ctx copy waiting current
    split at stepped
    · cases stepped
    · rename_i fine
      obtain ⟨file, stored, passed⟩ := Option.bind_eq_some_iff.mp stepped
      obtain ⟨⟨status, channel, file'⟩, written, rfl⟩ := Option.map_eq_some_iff.mp passed
      exact ⟨ctx, copy, file, status, channel, file', waiting, current, Bool.eq_false_iff.mpr fine, stored, written, rfl⟩
  · cases stepped

theorem copyStep_copyEnd {id : Nat} {rc : Int} (stepped : copyStep bdev s (.copyEnd id rc) = some s') :
    ∃ ctx copy, s.requests.stage id = .waiting .shallowCopy ctx ∧ s.copy id = some copy ∧
      (rc = 0 → copy.failed = false) ∧
      s' = { s with
        requests := s.requests.apply id (ubiShallowCopyCompleteCb s.requests.status ctx rc)
        deferred := s.deferred ++ [(copy.dev, copy.channel)] } := by
  simp only [copyStep] at stepped
  split at stepped
  · rename_i ctx copy waiting current
    split at stepped
    · cases stepped
    · rename_i consistent
      simp only [requestStep, waiting, Option.map_some] at stepped
      cases stepped
      refine ⟨ctx, copy, waiting, current, ?_, rfl⟩
      intro fine
      cases failed : copy.failed with
      | false => rfl
      | true => exact absurd ⟨failed, fine⟩ consistent
  · cases stepped

theorem copyStep_copied {id copiedClusters : Nat} (stepped : copyStep bdev s (.copied id copiedClusters) = some s') :
    (∃ ctx, s.requests.stage id = .waiting .shallowCopy ctx) ∧
      s' = { s with requests := { s.requests with status := ubiShallowCopyStatusCb s.requests.status copiedClusters } } := by
  obtain ⟨requests, called, rfl⟩ := Option.map_eq_some_iff.mp stepped
  obtain ⟨waiting, rfl⟩ := requestStep_copied called
  exact ⟨waiting, rfl⟩

theorem copyStep_message {calls : WriteCalls} (stepped : copyStep bdev s (.message calls) = some s') :
    ∃ dev channel rest file, s.deferred = (dev, channel) :: rest ∧ s.files dev.filename = some file ∧
      s' = { s with
        files := Function.update s.files dev.filename (some (bsDevDeltaDestroyChannelCb dev channel file calls))
        deferred := rest } := by
  simp only [copyStep] at stepped
  split at stepped
  · cases stepped
  · rename_i dev channel rest deferred
    obtain ⟨file, stored, rfl⟩ := Option.map_eq_some_iff.mp stepped
    exact ⟨dev, channel, rest, file, deferred, stored, rfl⟩

/-! ## Files that no request names -/

/-- No request that is still at work has this file for its destination. -/
structure Copies.Avoids (s : Copies) (name : String) : Prop where
  waiting : ∀ id op ctx, s.requests.stage id = .waiting op ctx → ctx.path ≠ name
  copies : ∀ id copy, s.copy id = some copy → copy.dev.filename ≠ name
  deferred : ∀ entry ∈ s.deferred, entry.1.filename ≠ name

def CopyEvent.Avoids (name : String) : CopyEvent → Prop
  | .snapshot _ path => path ≠ name
  | _ => True

theorem avoids_initial (files : String → Option RegularFile) (name : String) : (Copies.initial files).Avoids name where
  waiting := by
    intro id op ctx waiting
    cases waiting
  copies := by
    intro id copy current
    cases current
  deferred := by
    intro entry member
    cases member

/-- An effect whose context keeps an avoiding path keeps the requests avoiding. -/
theorem Copies.Avoids.apply {name : String} (avoids : s.Avoids name) {id : Nat} {effect : Effect}
    (kept : ∀ op ctx, effect.stage = .waiting op ctx → ctx.path ≠ name) (other : Nat) (op : BlobOp) (ctx : SnapshotContext)
    (waiting : (s.requests.apply id effect).stage other = .waiting op ctx) : ctx.path ≠ name := by
  simp only [Requests.apply] at waiting
  by_cases same : other = id
  · subst same
    rw [Function.update_self] at waiting
    exact kept op ctx waiting
  · rw [Function.update_of_ne same] at waiting
    exact avoids.waiting other op ctx waiting

theorem Copies.Avoids.update {name : String} (avoids : s.Avoids name) {id : Nat} {copy : Copy}
    (kept : copy.dev.filename ≠ name) (other : Nat) (copy' : Copy)
    (current : Function.update s.copy id (some copy) other = some copy') : copy'.dev.filename ≠ name := by
  by_cases same : other = id
  · subst same
    rw [Function.update_self] at current
    cases current
    exact kept
  · rw [Function.update_of_ne same] at current
    exact avoids.copies other copy' current

/-- A file that no request names stays as it is. -/
theorem Copies.Avoids.step {name : String} (avoids : s.Avoids name) {event : CopyEvent} (elsewhere : event.Avoids name)
    (stepped : copyStep bdev s event = some s') : s'.Avoids name ∧ s'.files name = s.files name := by
  cases event with
  | snapshot found path =>
    cases copyStep_snapshot stepped
    refine ⟨⟨?_, avoids.copies, avoids.deferred⟩, rfl⟩
    apply avoids.apply
    intro op ctx waiting
    cases found with
    | false => cases waiting
    | true =>
      cases waiting
      exact elsewhere
  | callback id outcome setup =>
    obtain ⟨op, ctx, waiting, _, called⟩ := copyStep_callback stepped
    have path := avoids.waiting id op ctx waiting
    rcases called with ⟨outcome', files, _, _, others, rfl⟩ | ⟨rfl, _, _, channel, stored, _, rfl⟩
    · refine ⟨⟨?_, avoids.copies, avoids.deferred⟩, others name (Ne.symm path)⟩
      apply avoids.apply
      intro op' ctx' waiting'
      rw [callback_path waiting']
      exact path
    · refine ⟨⟨?_, ?_, avoids.deferred⟩, Function.update_of_ne (Ne.symm path) _ _⟩
      · apply avoids.apply
        intro op' ctx' waiting'
        rw [callback_path waiting']
        exact path
      · exact avoids.update path
  | copyCluster id cluster payload calls =>
    obtain ⟨ctx, copy, file, status, channel, file', _, current, _, _, _, rfl⟩ := copyStep_copyCluster stepped
    have path := avoids.copies id copy current
    refine ⟨⟨avoids.waiting, ?_, avoids.deferred⟩, Function.update_of_ne (Ne.symm path) _ _⟩
    exact avoids.update path
  | copied id copiedClusters =>
    obtain ⟨_, rfl⟩ := copyStep_copied stepped
    exact ⟨⟨avoids.waiting, avoids.copies, avoids.deferred⟩, rfl⟩
  | copyEnd id rc =>
    obtain ⟨ctx, copy, _, current, _, rfl⟩ := copyStep_copyEnd stepped
    refine ⟨⟨?_, avoids.copies, ?_⟩, rfl⟩
    · apply avoids.apply
      intro op ctx' waiting
      cases waiting
    · intro entry member
      rcases List.mem_append.mp member with old | new
      · exact avoids.deferred entry old
      · cases List.mem_singleton.mp new
        exact avoids.copies id copy current
  | message calls =>
    obtain ⟨dev, channel, rest, file, deferred, _, rfl⟩ := copyStep_message stepped
    have head : dev.filename ≠ name := avoids.deferred (dev, channel) (by rw [deferred]; exact List.mem_cons_self ..)
    refine ⟨⟨avoids.waiting, avoids.copies, ?_⟩, Function.update_of_ne (Ne.symm head) _ _⟩
    intro entry member
    exact avoids.deferred entry (by rw [deferred]; exact List.mem_cons_of_mem _ member)

/-! ## Copies whose calls all succeed -/

section
variable {id : Nat} {ctx : SnapshotContext}

theorem copyStep_start (waiting : s.requests.stage id = .waiting .decoupleParent ctx) :
    copyStep bdev s (.callback id .fine .fine) = some { s with
      requests := s.requests.apply id (ubiStartSnapshot bdev s.requests.status ctx 0 0)
      files := Function.update s.files ctx.path
        (some (((s.files ctx.path).getD .empty).write 0 (tableBytes ClusterMap.zero)))
      copy := Function.update s.copy id (some ⟨bdev.deltaDev ctx.path, ⟨mapBytes, .zero, false⟩, [], false⟩) } := by
  have created := @createChannelCb_fine (bdev.deltaDev ctx.path) rfl (s.files ctx.path)
  have named : (bdev.deltaDev ctx.path).filename = ctx.path := rfl
  simp only [copyStep, waiting, Outcome.fine, and_self, ↓reduceIte, Copies.startCopy, named, created, requestStep,
    Option.map_some]
  rfl

theorem copyStep_write (waiting : s.requests.stage id = .waiting .shallowCopy ctx) {copy : Copy}
    (current : s.copy id = some copy) (unfailed : copy.failed = false) {file file' : RegularFile}
    (stored : s.files copy.dev.filename = some file) {cluster : Nat} {payload : List UInt8} {calls : WriteCalls}
    {channel : BsDevDeltaIoChannel}
    (written : bsDevDeltaWrite copy.dev copy.channel file (cluster * copy.dev.clusterSize) copy.dev.clusterSize payload
      calls = some (0, channel, file')) :
    copyStep bdev s (.copyCluster id cluster payload calls) = some { s with
      files := Function.update s.files copy.dev.filename (some file')
      copy := Function.update s.copy id (some ⟨copy.dev, channel, copy.copied ++ [cluster], false⟩) } := by
  simp only [copyStep, waiting, current, unfailed, Bool.false_eq_true, ↓reduceIte, Copies.writeCluster, stored,
    Option.bind_some, written, Option.map_some]
  rfl

theorem copyStep_end (waiting : s.requests.stage id = .waiting .shallowCopy ctx) {copy : Copy}
    (current : s.copy id = some copy) (unfailed : copy.failed = false) :
    copyStep bdev s (.copyEnd id 0) = some { s with
      requests := s.requests.apply id (ubiShallowCopyCompleteCb s.requests.status ctx 0)
      deferred := s.deferred ++ [(copy.dev, copy.channel)] } := by
  simp only [copyStep, waiting, current, unfailed, Bool.false_eq_true, false_and, ↓reduceIte, requestStep, Option.map_some]
  rfl

end

end

end BdevUbi.Snapshot
