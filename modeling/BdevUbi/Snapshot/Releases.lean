import BdevUbi.Snapshot.Answers

/-! What a snapshot request gives back.

A request takes a context, a blobstore channel, the delta device and a handle of the
clone. `cleanup_snapshot_context` gives back the first three; the handle is closed by the
call after the one that made the clone read-only.
-/

set_option autoImplicit false

namespace BdevUbi.Snapshot
open BdevUbi.Library BdevUbi.Device

/-- The acts of the clean-up. -/
def Act.releases : Act → Bool
  | .freeChannel | .destroyDelta | .freeContext => true
  | _ => false

/-- Whatever a request has taken is given back, once. Closing the handle is the call that
asks for it. -/
structure ReleasedOnce (path : String) (outcomes : List Outcome) (acts : List Act) : Prop where
  context : acts.count .freeContext = 1
  channel : acts.count .freeChannel = if channelTaken path outcomes then 1 else 0
  delta : acts.count .destroyDelta = if Act.createDelta ∈ acts then 1 else 0
  clone : acts.count (.issue .closeBlob) = if cloneOpened outcomes then 1 else 0

/-- Nothing is used after it was given back: the context by no act, the channel and the
device by no act but the clean-up's own, and the handle by the callback that opens it. -/
def InOrder (acts : List Act) : Prop :=
  acts.Pairwise fun first later =>
    first ≠ .freeContext ∧ (first.releases → later.releases) ∧ (first = .issue .closeBlob → later ≠ .issue .openBlob)

structure Settled (path : String) (outcomes : List Outcome) (stage : Stage) (acts : List Act) : Prop where
  ordered : InOrder acts
  pending : stage.Pending → ∀ act ∈ acts, act.releases = false
  released : ¬ stage.Pending → ReleasedOnce path outcomes acts

/-- The two calls whose errors a request does not clean up after. -/
def BlobOp.CleansUp (outcome : Outcome) : BlobOp → Prop
  | .openBlob => outcome.bserrno = 0 → outcome.setReadOnly = 0
  | .decoupleParent => outcome.bserrno = 0 → outcome.shallowCopy = 0
  | _ => True

/-! ## One request -/

theorem trail_acts (op : BlobOp) : InOrder op.trail ∧ ∀ act ∈ op.trail, act.releases = false := by
  unfold InOrder
  cases op <;> decide

section
variable {path : String} {outcomes : List Outcome} {op : BlobOp} {ctx : SnapshotContext} {outcome : Outcome}

theorem settled_waiting : Settled path outcomes (.waiting op ctx) op.trail where
  ordered := (trail_acts op).1
  pending := fun _ => (trail_acts op).2
  released := fun ended => absurd ⟨op, ctx, rfl⟩ ended

/-- The clean-up comes last, and in order. -/
theorem inOrder_cleanup (ctx : SnapshotContext) {first : List Act} (ordered : InOrder first)
    (uses : ∀ act ∈ first, act.releases = false) : InOrder (first ++ cleanupSnapshotContext ctx) := by
  have last : InOrder (cleanupSnapshotContext ctx) ∧ ∀ act ∈ cleanupSnapshotContext ctx, act.releases = true := by
    unfold InOrder cleanupSnapshotContext
    cases ctx.shallowCopyBsDev.isSome <;> cases ctx.ch <;> decide
  refine List.pairwise_append.mpr ⟨ordered, last.1, ?_⟩
  intro act before later after
  have use := uses act before
  have release := last.2 later after
  refine ⟨?_, fun released => ?_, fun _ => ?_⟩
  · rintro rfl
    cases use
  · exact release
  · rintro rfl
    cases release

theorem inOrder_answer (op : BlobOp) (code : Int) :
    InOrder (op.trail ++ [.answer code]) ∧ ∀ act ∈ op.trail ++ [Act.answer code], act.releases = false := by
  obtain ⟨ordered, uses⟩ := trail_acts op
  constructor
  · refine List.pairwise_append.mpr ⟨ordered, List.pairwise_singleton .., ?_⟩
    intro act before later after
    rw [List.mem_singleton] at after
    subst after
    have use := uses act before
    refine ⟨?_, fun released => absurd released (by simp [use]), fun _ => by simp⟩
    rintro rfl
    cases use
  · intro act member
    cases List.mem_append.mp member with
    | inl before => exact uses act before
    | inr after =>
      rw [List.mem_singleton] at after
      rw [after]
      rfl

theorem cleanup_counts (ctx : SnapshotContext) :
    (cleanupSnapshotContext ctx).count .freeContext = 1 ∧
      (cleanupSnapshotContext ctx).count .freeChannel = (if ctx.ch then 1 else 0) ∧
      (cleanupSnapshotContext ctx).count .destroyDelta = (if ctx.shallowCopyBsDev.isSome then 1 else 0) ∧
      (cleanupSnapshotContext ctx).count (.issue .closeBlob) = 0 ∧ Act.createDelta ∉ cleanupSnapshotContext ctx := by
  unfold cleanupSnapshotContext
  cases ctx.shallowCopyBsDev.isSome <;> cases ctx.ch <;> decide

theorem trail_counts (op : BlobOp) :
    op.trail.count .freeContext = 0 ∧ op.trail.count .freeChannel = 0 ∧ op.trail.count .destroyDelta = 0 ∧
      op.trail.count (.issue .closeBlob) = (if 2 < op.index then 1 else 0) ∧
      (Act.createDelta ∈ op.trail ↔ op = .shallowCopy) := by
  cases op <;> decide

/-- A request that answers and cleans up has given back all but a clone it could open. -/
theorem released_cleanup (waits : Waits path outcomes op ctx) {said : List Act}
    (word : ∀ act ∈ said, ∃ code, act = .answer code)
    (channel : channelTaken path (outcomes ++ [outcome]) = channelTaken path outcomes) :
    ReleasedOnce path (outcomes ++ [outcome]) (op.trail ++ said ++ cleanupSnapshotContext ctx) ↔
      (op = .openBlob → outcome.bserrno ≠ 0) := by
  have absent {act : Act} (other : ∀ code, act ≠ .answer code) : act ∉ said := by
    intro member
    obtain ⟨code, same⟩ := word act member
    exact other code same
  have quiet {act : Act} (other : ∀ code, act ≠ .answer code) : said.count act = 0 :=
    List.count_eq_zero.mpr (absent other)
  have opened := @Waits.opened_snoc _ _ _ _ outcome waits
  obtain ⟨context, freed, destroyed, unclosed, uncreated⟩ := cleanup_counts ctx
  obtain ⟨keptContext, keptChannel, keptDelta, closed, created⟩ := trail_counts op
  constructor
  · rintro ⟨_, _, _, clone⟩ rfl
    rw [List.count_append, List.count_append, closed, quiet (by simp), unclosed, opened] at clone
    intro fine
    simp [fine, BlobOp.index] at clone
  · intro unopened
    constructor
    · rw [List.count_append, List.count_append, keptContext, quiet (by simp), context]
    · rw [List.count_append, List.count_append, keptChannel, quiet (by simp), freed, waits.channel, channel]
      simp
    · rw [List.count_append, List.count_append, keptDelta, quiet (by simp), destroyed, waits.delta]
      simp [uncreated, created, absent]
    · rw [List.count_append, List.count_append, closed, quiet (by simp), unclosed, opened]
      cases op with
      | openBlob => simp [BlobOp.index, unopened rfl]
      | createSnapshot | createClone | closeBlob | decoupleParent | shallowCopy => rfl

theorem settled_cleanup (waits : Waits path outcomes op ctx) {said : List Act}
    (word : ∀ act ∈ said, ∃ code, act = .answer code)
    (channel : channelTaken path (outcomes ++ [outcome]) = channelTaken path outcomes)
    (ordered : InOrder (op.trail ++ said) ∧ ∀ act ∈ op.trail ++ said, act.releases = false) :
    Settled path (outcomes ++ [outcome]) .cleaned (op.trail ++ said ++ cleanupSnapshotContext ctx) ↔
      (op = .openBlob → outcome.bserrno ≠ 0) := by
  rw [← released_cleanup waits word channel]
  constructor
  · exact fun settled => settled.released not_pending_cleaned
  · intro released
    exact ⟨inOrder_cleanup ctx ordered.1 ordered.2, fun pending => absurd pending not_pending_cleaned, fun _ => released⟩

/-- What one callback leaves settled. -/
theorem Ending.settled_iff {bdev : UbiBdev} {stage : Stage} {acts : List Act} (waits : Waits path outcomes op ctx)
    (ending : Ending bdev ctx outcome op stage acts) :
    Settled path (outcomes ++ [outcome]) stage (op.trail ++ acts) ↔ op.CleansUp outcome := by
  have word (code : Int) : ∀ act ∈ [Act.answer code], ∃ code, act = .answer code := by
    intro act member
    exact ⟨code, List.mem_singleton.mp member⟩
  have later (other : op ≠ .createSnapshot) : channelTaken path (outcomes ++ [outcome]) = channelTaken path outcomes :=
    (@Waits.channel_snoc _ _ _ _ outcome waits other).symm.trans waits.channel
  cases ending with
  | failed early error =>
    have channel : channelTaken path (outcomes ++ [outcome]) = channelTaken path outcomes := by
      by_cases first : op = .createSnapshot
      · subst first
        rw [List.length_eq_zero_iff.mp waits.length]
        simp [channelTaken, error]
      · exact later first
    have settled := settled_cleanup waits (word outcome.bserrno) channel (inOrder_answer op _)
    rw [List.append_assoc] at settled
    refine settled.trans (iff_of_true (fun _ => error) ?_)
    cases op with
    | openBlob | decoupleParent => exact fun fine => absurd fine error
    | createSnapshot | createClone | closeBlob | shallowCopy => trivial
  | kept fine noPath =>
    have channel : channelTaken path (outcomes ++ [outcome]) = channelTaken path outcomes := by
      rw [List.length_eq_zero_iff.mp waits.length]
      simp [channelTaken, waits.kept.symm.trans noPath]
    have settled := settled_cleanup waits (word 0) channel (inOrder_answer _ _)
    rw [List.append_assoc] at settled
    exact settled.trans (iff_of_true (fun opened => by cases opened) trivial)
  | writable fine error =>
    have settled := settled_cleanup waits (word outcome.setReadOnly) (later (by decide)) (inOrder_answer _ _)
    rw [List.append_assoc] at settled
    exact settled.trans (iff_of_false (fun unopened => unopened rfl fine) fun cleans => error (cleans fine))
  | refused fine error =>
    refine iff_of_false (fun settled => ?_) fun cleans => error (cleans fine)
    have context := (settled.released (by rintro ⟨_, _, waiting⟩; cases waiting)).context
    rw [List.count_append, (trail_counts _).1] at context
    cases context
  | copied =>
    have settled := @settled_cleanup _ _ _ _ outcome waits [] (by simp) (later (by decide))
      (by rw [List.append_nil]; exact trail_acts _)
    rw [List.append_nil] at settled
    exact settled.trans (iff_of_true (fun opened => by cases opened) trivial)

/-- A callback that goes on has met no error. -/
theorem cleansUp_waiting {bdev : UbiBdev} {status : SnapshotStatus} {op' : BlobOp} {ctx' : SnapshotContext}
    (goes : (op.callback bdev status ctx outcome).stage = .waiting op' ctx') : op.CleansUp outcome := by
  have reaction := callback_reaction bdev status ctx outcome op
  generalize op.callback bdev status ctx outcome = effect at reaction goes
  cases reaction with
  | created | cloned | closed => trivial
  | readOnly _ locked => exact fun _ => locked
  | started _ accepted => exact fun _ => accepted
  | failed | kept | writable | refused | ended => cases goes

end

/-! ## All the requests of a bdev -/

/-- Every request that was not turned away at its name has settled. -/
def Trails.Settle (s : Trails) : Prop :=
  ∀ id, id < s.requests.issued → s.found id = true →
    Settled (s.path id) (s.outcomes id) (s.requests.stage id) (s.requests.acts id)

/-- The clone that was opened can be made read-only, and the copy is accepted. -/
def CleansUp (s : Trails) (event : RequestEvent) : Prop :=
  ∀ id outcome op ctx, event = .callback id outcome → s.requests.stage id = .waiting op ctx → op.CleansUp outcome

section
variable {bdev : UbiBdev} {s s' : Trails}

theorem settle_snapshot (tracked : s.Tracked bdev) (settle : s.Settle) {found : Bool} {path : String}
    (stepped : trailStep bdev s (.snapshot found path) = some s') : s'.Settle := by
  obtain ⟨requests, moved, rfl⟩ := Option.map_eq_some_iff.mp stepped
  obtain ⟨_, unused⟩ := tracked.numbered s.requests.issued le_rfl
  cases moved
  intro id below past
  by_cases new : id = s.requests.issued
  · subst new
    simp only [Function.update_self] at past
    simp only [Function.update_self, Requests.apply, unused, List.nil_append, past, bdevUbiSnapshot, ↓reduceIte]
    exact settled_waiting
  · simp only [Function.update_of_ne new, Requests.apply] at past ⊢
    exact settle id (lt_of_le_of_ne (Nat.le_of_lt_succ below) new) past

theorem settle_callback (tracked : s.Tracked bdev) (settle : s.Settle) {id : Nat} {outcome : Outcome}
    (stepped : trailStep bdev s (.callback id outcome) = some s') : s'.Settle ↔ CleansUp s (.callback id outcome) := by
  obtain ⟨requests, moved, rfl⟩ := Option.map_eq_some_iff.mp stepped
  obtain ⟨op, ctx, waiting, rfl⟩ := requestStep_callback moved
  have used := tracked.numbered.lt waiting
  obtain ⟨past, waits, acts⟩ := (tracked.standing id used).of_waiting waiting
  have own : Settled (s.path id) (s.outcomes id ++ [outcome]) (op.callback bdev s.requests.status ctx outcome).stage
      (op.trail ++ (op.callback bdev s.requests.status ctx outcome).acts) ↔ op.CleansUp outcome := by
    by_cases goes : ∃ op' ctx', (op.callback bdev s.requests.status ctx outcome).stage = .waiting op' ctx'
    · obtain ⟨op', ctx', goes⟩ := goes
      rw [goes, (waits.next goes).2]
      exact iff_of_true settled_waiting (cleansUp_waiting goes)
    · push Not at goes
      exact (callback_ending goes).settled_iff waits
  have guard : CleansUp s (.callback id outcome) ↔ op.CleansUp outcome := by
    constructor
    · exact fun cleans => cleans id outcome op ctx rfl waiting
    · intro cleans other result op' ctx' same waiting'
      cases same
      cases waiting.symm.trans waiting'
      exact cleans
  rw [guard, ← own]
  constructor
  · intro after
    have here := after id used past
    simpa only [Function.update_self, Requests.apply, acts] using here
  · intro here other below past'
    by_cases same : other = id
    · subst same
      simpa only [Function.update_self, Requests.apply, acts] using here
    · simp only [Function.update_of_ne same, Requests.apply]
      exact settle other below past'

end

/-- The requests of a bdev give back what they took, all along exactly the runs in which no
opened clone refuses to become read-only and no copy is refused. -/
theorem snapshot_releases_iff (bdev : UbiBdev) (events : List RequestEvent) :
    Always (trailStep bdev) Trails.Settle .none events ↔ Guarded (trailStep bdev) CleansUp .none events := by
  refine always_iff_guarded tracked_step ?_ ?_ (tracked_none bdev) (fun id below => absurd below (Nat.not_lt_zero id)) events
  · intro s event s' tracked settle stepped
    cases event with
    | snapshot found path =>
      exact iff_of_true (settle_snapshot tracked settle stepped) fun id outcome op ctx same => (by cases same)
    | callback id outcome => exact settle_callback tracked settle stepped
    | copied id copiedClusters =>
      obtain ⟨requests, moved, rfl⟩ := Option.map_eq_some_iff.mp stepped
      obtain ⟨_, rfl⟩ := requestStep_copied moved
      exact iff_of_true settle fun id outcome op ctx same => (by cases same)
  · rintro s event _ blocked id outcome op ctx rfl waiting
    simp only [trailStep, requestStep, waiting] at blocked
    cases blocked

/-- A clone that cannot be made read-only stays open, and a copy that is refused leaves its
context, its channel and its device behind. -/
theorem snapshot_leaks :
    ¬ Always (trailStep ⟨8, 512, 4, 4096⟩) Trails.Settle .none
        [.snapshot true "copy", .callback 0 .fine, .callback 0 .fine, .callback 0 ⟨0, 0, true, -5, 0⟩] ∧
      ¬ Always (trailStep ⟨8, 512, 4, 4096⟩) Trails.Settle .none
        [.snapshot true "copy", .callback 0 .fine, .callback 0 .fine, .callback 0 .fine, .callback 0 .fine,
          .callback 0 ⟨0, 0, true, 0, -12⟩] := by
  constructor
  · intro always
    have settled := always.final rfl 0 (by decide) rfl
    have clone := (settled.released (by rintro ⟨_, _, waiting⟩; cases waiting)).clone
    revert clone
    decide
  · intro always
    have settled := always.final rfl 0 (by decide) rfl
    have context := (settled.released (by rintro ⟨_, _, waiting⟩; cases waiting)).context
    revert context
    decide

end BdevUbi.Snapshot
