import BdevUbi.Bdev.Create

/-! What a failed creation leaves behind.

The end of the flow starts up to two chains: the close of the blob with the unload behind
it, and the unregistration of the io_device, which has no callback. Their completions
come in any order.
-/

set_option autoImplicit false

namespace BdevUbi.Bdev
open BdevUbi.Library

inductive CleanupEvent where
  | closed (bserrno : Int)
  | unloaded (bserrno : Int)
  | unregistered
  deriving DecidableEq, Repr

def cleanupStep (s : Creation) : CleanupEvent → Option Creation
  | .closed bserrno =>
    if s.life.closing then
      some (({ s with life := { s.life with closing := false } }.log [.blobClosed]).blobCloseCb bserrno)
    else none
  | .unloaded bserrno =>
    if s.life.unloading then some { s with life := ubiDestructBsUnloadCb { s.life with unloading := false } bserrno } else none
  | .unregistered =>
    if s.life.unregistering then some { s with life := { s.life with unregistering := false } } else none

/-- No completion is still to come. -/
structure Creation.Quiet (s : Creation) : Prop where
  closing : s.life.closing = false
  unloading : s.life.unloading = false
  unregistering : s.life.unregistering = false

/-- Nobody finds the bdev, an unload comes after the close, and in the end all that the
steps of the flow had taken is given back, once. -/
structure LeavesNothing (opts : UbiBdevOpts) (o : CreateOutcomes) (s : Creation) : Prop where
  hidden : s.listed = false ∧ s.published = false
  ordered : ∀ before after, s.acts = before ++ .bsUnload :: after →
    (o.completes opts.formatBdev .openBlob || o.completes opts.formatBdev .iterFirst) = true → .blobClosed ∈ before
  returned : s.Quiet →
    s.acts.count .ioDeviceRegister = (o.completes opts.formatBdev .createBsDev).toNat ∧
    s.acts.count .ioDeviceUnregister = (o.completes opts.formatBdev .createBsDev).toNat ∧
    s.acts.count (.blobClose true) =
      (o.completes opts.formatBdev .openBlob || o.completes opts.formatBdev .iterFirst).toNat ∧
    s.acts.count .blobClosed =
      (o.completes opts.formatBdev .openBlob || o.completes opts.formatBdev .iterFirst).toNat ∧
    s.acts.count .bsUnload = (o.completes opts.formatBdev .bsInit || o.completes opts.formatBdev .bsLoad).toNat

/-- The acts of the close's completion. -/
def closedActs (blobstore : Bool) : List CreateAct := .blobClosed :: if blobstore then [.bsUnload] else []

/-- The state of the cleanup, from what there was to clean up: nothing is done any more
but what the close's completion does. -/
structure Cleaning (acts : List CreateAct) (blob blobstore : Bool) (s : Creation) : Prop where
  hidden : s.listed = false ∧ s.published = false
  loaded : s.life.blobstore = blobstore
  opened : s.life.closing = true → blob = true
  acts : s.acts = acts ++ if blob = true ∧ s.life.closing = false then closedActs blobstore else []

theorem cleaning_step {acts : List CreateAct} {blob blobstore : Bool} (s : Creation) (event : CleanupEvent) (s' : Creation)
    (cleaning : Cleaning acts blob blobstore s) (stepped : cleanupStep s event = some s') :
    Cleaning acts blob blobstore s' := by
  have loaded := cleaning.loaded
  cases event with
  | closed bserrno =>
    obtain ⟨closing, same⟩ : s.life.closing = true ∧
        ({ s with life := { s.life with closing := false } }.log [.blobClosed]).blobCloseCb bserrno = s' := by
      simpa [cleanupStep] using stepped
    have before := cleaning.acts
    simp only [closing, Bool.true_eq_false, and_false, ↓reduceIte, List.append_nil] at before
    have life : s'.life.closing = false ∧ s'.life.blobstore = blobstore := by
      rw [← same]
      cases blobstore <;>
        simp [Creation.blobCloseCb, Creation.log, ubiDestructBlobCloseCb, ubiDestructBsUnloadCb, Lifetime.enter, loaded]
    have after : s'.acts = acts ++ closedActs blobstore := by
      rw [← same]
      simp [Creation.blobCloseCb, Creation.log, before, loaded, closedActs]
    refine ⟨?_, life.2, fun _ => cleaning.opened closing, ?_⟩
    · rw [← same]
      exact cleaning.hidden
    · rw [after, if_pos ⟨cleaning.opened closing, life.1⟩]
  | unloaded bserrno =>
    obtain ⟨_, rfl⟩ : s.life.unloading = true ∧
        { s with life := ubiDestructBsUnloadCb { s.life with unloading := false } bserrno } = s' := by
      simpa [cleanupStep] using stepped
    exact ⟨cleaning.hidden, loaded, cleaning.opened, cleaning.acts⟩
  | unregistered =>
    obtain ⟨_, rfl⟩ : s.life.unregistering = true ∧ { s with life := { s.life with unregistering := false } } = s' := by
      simpa [cleanupStep] using stepped
    exact ⟨cleaning.hidden, loaded, cleaning.opened, cleaning.acts⟩

section
variable {opts : UbiBdevOpts} {o : CreateOutcomes} {status : Int} {s : Creation}

theorem cleanup_life (s : Creation) (life : s.life = .created s.life.blob s.life.blobstore) :
    s.cleanup.life.closing = s.life.blob ∧ s.cleanup.life.blobstore = s.life.blobstore := by
  have still : s.life.closing = false := by
    rw [life]
    rfl
  unfold Creation.cleanup Creation.blobCloseCb Creation.log ubiDestructBlobCloseCb ubiDestructBsUnloadCb Lifetime.enter
  cases s.registerd <;> cases blob : s.life.blob <;> cases blobstore : s.life.blobstore <;> simp [blob, blobstore, still]

/-- The cleanup begins: the close is pending exactly if there is a blob. -/
theorem cleaning_cleanup {s : Creation} (life : s.life = .created s.life.blob s.life.blobstore)
    (hidden : s.listed = false ∧ s.published = false) (answer : List CreateAct) :
    Cleaning (s.acts ++ s.cleanupActs ++ answer) s.life.blob s.life.blobstore (s.cleanup.log answer) := by
  obtain ⟨closing, blobstore⟩ := cleanup_life s life
  obtain ⟨published, listed, _⟩ := cleanup_frame s
  have closing' : (s.cleanup.log answer).life.closing = s.life.blob := closing
  refine ⟨⟨listed.trans hidden.1, published.trans hidden.2⟩, blobstore, fun pending => closing'.symm.trans pending, ?_⟩
  rw [if_neg (by rw [closing']; simp), List.append_nil, Creation.log, acts_cleanup]

/-- Acts that take nothing and give nothing back. -/
def Neutral (acts : List CreateAct) : Prop :=
  acts.count .ioDeviceRegister = 0 ∧ acts.count .ioDeviceUnregister = 0 ∧ acts.count (.blobClose true) = 0 ∧
    acts.count .blobClosed = 0 ∧ acts.count .bsUnload = 0

/-- Where a failed flow ends: what it did before, a failed registration of the bdev
perhaps, the cleanup, and the answer. -/
theorem Arrived.failed (arrived : Arrived opts o status s)
    (failed : (if status = 0 then o.bdevRegister else status) ≠ 0) :
    ∃ middle answer, Neutral middle ∧ Neutral answer ∧
      Cleaning (s.acts ++ middle ++ s.cleanupActs ++ answer) s.life.blob s.life.blobstore (ubiFinishCreate o status s) := by
  have answered : ∀ error, Neutral [.done error, .freeContext] := fun _ => by simp [Neutral]
  by_cases fine : status = 0
  · -- the bdev was refused, with everything in place
    rw [if_pos fine] at failed
    have allocated := (arrived.blobstore (arrived.blob.mpr fine)).2
    have same : ubiFinishCreate o status s =
        (s.log [.blobGetNumIoUnits s.life.blob, .issue .bdevRegister, .releaseBdev]).cleanup.log
          [.done o.bdevRegister, .freeContext] := by
      simp [ubiFinishCreate, fine, Creation.publish, failed, Creation.log, allocated]
    refine ⟨[.blobGetNumIoUnits s.life.blob, .issue .bdevRegister, .releaseBdev], [.done o.bdevRegister, .freeContext], ?_,
      answered _, ?_⟩
    · simp [Neutral]
    · rw [same]
      exact cleaning_cleanup
        (s := s.log [.blobGetNumIoUnits s.life.blob, .issue .bdevRegister, .releaseBdev]) arrived.life arrived.hidden _
  · rw [if_neg fine] at failed
    refine ⟨[], [.done status, .freeContext], by simp [Neutral], answered _, ?_⟩
    rw [List.append_nil]
    cases allocated : s.allocated with
    | true =>
      have same : ubiFinishCreate o status s = s.cleanup.log [.done status, .freeContext] := by
        simp [ubiFinishCreate, fine, allocated]
      rw [same]
      exact cleaning_cleanup arrived.life arrived.hidden _
    | false =>
      -- without a record there is nothing to clean up
      obtain ⟨device, blob, blobstore⟩ := arrived.empty allocated
      have same : ubiFinishCreate o status s = s.log [.done status, .freeContext] := by
        simp [ubiFinishCreate, fine, allocated]
      rw [same, blob, blobstore]
      refine ⟨arrived.hidden, blobstore, ?_, ?_⟩
      · intro closing
        rw [Creation.log, arrived.life] at closing
        cases closing
      · simp [Creation.log, Creation.cleanupActs, device, blob, blobstore]

end

/-- Acts that stand behind a list without an unload. -/
theorem before_of_append {acts last before after : List CreateAct} (absent : .bsUnload ∉ acts)
    (same : acts ++ last = before ++ .bsUnload :: after) :
    ∃ rest, before = acts ++ rest ∧ last = rest ++ .bsUnload :: after := by
  rcases List.append_eq_append_iff.mp same with ⟨rest, rfl, split⟩ | ⟨rest, rfl, split⟩
  · exact ⟨rest, rfl, split⟩
  · cases rest with
    | nil => exact ⟨[], by simp, by simpa using split.symm⟩
    | cons act rest =>
      cases split
      simp at absent

/-- What the flow, the cleanup and the completions have done, counted. -/
theorem Cleaning.leavesNothing {opts : UbiBdevOpts} {o : CreateOutcomes} {status : Int} {s final : Creation}
    {middle answer : List CreateAct} (arrived : Arrived opts o status s) (neutral : Neutral middle) (neutral' : Neutral answer)
    (cleaning : Cleaning (s.acts ++ middle ++ s.cleanupActs ++ answer) s.life.blob s.life.blobstore final) :
    LeavesNothing opts o final := by
  have prepared : s.acts.count .ioDeviceUnregister = 0 ∧ s.acts.count (.blobClose true) = 0 ∧
      s.acts.count .blobClosed = 0 ∧ s.acts.count .bsUnload = 0 := by
    simp only [List.count_eq_zero]
    refine ⟨?_, ?_, ?_, ?_⟩ <;>
    · intro member
      rcases arrived.acts _ member with same | ⟨_, same⟩ | ⟨_, same⟩ <;> cases same
  obtain ⟨unregister, close, closed, unload⟩ := prepared
  obtain ⟨none₁, none₂, none₃, none₄, none₅⟩ := neutral
  obtain ⟨no₁, no₂, no₃, no₄, no₅⟩ := neutral'
  have acts := cleaning.acts
  obtain ⟨device, blobstore, blob⟩ := arrived.holds
  refine ⟨cleaning.hidden, ?_, ?_⟩
  · intro before after split opened
    rw [← blob] at opened
    -- with a blob to close, nothing is unloaded before its close has completed
    have absent : .bsUnload ∉ s.acts ++ middle ++ s.cleanupActs ++ answer := by
      rw [← List.count_eq_zero]
      cases registerd : s.registerd <;> simp [unload, none₅, no₅, Creation.cleanupActs, opened, registerd]
    by_cases closing : final.life.closing = false
    · rw [if_pos ⟨opened, closing⟩] at acts
      obtain ⟨rest, rfl, tail⟩ := before_of_append absent (acts.symm.trans split)
      cases rest with
      | nil => cases tail
      | cons act rest =>
        obtain ⟨rfl, _⟩ := List.cons.inj tail
        simp
    · rw [if_neg (fun both => closing both.2), List.append_nil] at acts
      rw [split] at acts
      rw [← acts] at absent
      simp at absent
  · intro quiet
    have registered := arrived.registered
    rw [acts, ← device, ← blobstore, ← blob]
    simp only [quiet.closing, and_true, List.count_append, registered, unregister, close, closed, unload, none₁, none₂, none₃,
      none₄, none₅, no₁, no₂, no₃, no₄, no₅]
    unfold Creation.cleanupActs closedActs
    cases s.registerd <;> cases s.life.blob <;> cases s.life.blobstore <;> decide

/-- Wherever a creation failed, nothing is left of it. -/
theorem failed_create_leaves_nothing (opts : UbiBdevOpts) (o : CreateOutcomes)
    (failed : ∃ step ∈ o.steps opts.formatBdev, step.2 ≠ 0) (events : List CleanupEvent) :
    Always cleanupStep (LeavesNothing opts o) (bdevUbiCreate opts o) events := by
  obtain ⟨status, s, same, arrived⟩ := bdevUbiCreate_arrives opts o
  have error : (if status = 0 then o.bdevRegister else status) ≠ 0 := by
    rw [arrived.result, ne_eq, firstError_eq_zero]
    intro all
    obtain ⟨step, member, wrong⟩ := failed
    exact wrong (all step member)
  obtain ⟨middle, answer, neutral, neutral', cleaning⟩ := arrived.failed error
  rw [same]
  exact (always_of_invariant cleaning_step cleaning events).mono fun _ now => now.leavesNothing arrived neutral neutral'

/-- A bdev whose name is in use: the io_device goes, the blob is closed, the blobstore
is unloaded, and then no completion is to come. -/
theorem failed_create_leaves_nothing_at_register :
    (run cleanupStep (bdevUbiCreate ⟨"image", none, true⟩ { CreateOutcomes.fine with bdevRegister := -17 })
      [.unregistered, .closed 0, .unloaded 0]).map (fun s => (s.life.closing, s.life.unloading, s.life.unregistering)) =
        some (false, false, false) ∧
    Always cleanupStep (LeavesNothing ⟨"image", none, true⟩ { CreateOutcomes.fine with bdevRegister := -17 })
      (bdevUbiCreate ⟨"image", none, true⟩ { CreateOutcomes.fine with bdevRegister := -17 })
      [.unregistered, .closed 0, .unloaded 0] := by
  refine ⟨rfl, failed_create_leaves_nothing _ _ ⟨(.bdevRegister, -17), ?_, by decide⟩ _⟩
  exact List.mem_append_right _ (List.mem_singleton.mpr rfl)

end BdevUbi.Bdev
