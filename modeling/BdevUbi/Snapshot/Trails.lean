import BdevUbi.Snapshot.Requests

/-! What a snapshot request has done, from the outcomes of its own steps.

Requests on one bdev share nothing but the status record, and no callback reads it. So
whatever the others do, a request that waits has done what the chain does up to there, and
one that has ended has done that and one last callback.
-/

set_option autoImplicit false

namespace BdevUbi.Snapshot
open BdevUbi.Library BdevUbi.Device

/-- The results of the steps that a call's completion brings: its own, and those of the
calls that its callback makes and looks at. -/
def BlobOp.results (outcome : Outcome) : BlobOp → List Int
  | .openBlob => if outcome.bserrno ≠ 0 then [outcome.bserrno] else [0, outcome.setReadOnly]
  | .decoupleParent => if outcome.bserrno ≠ 0 then [outcome.bserrno] else [0, outcome.shallowCopy]
  | _ => [outcome.bserrno]

/-- The calls up to the start of the copy. -/
def chain : List BlobOp := [.createSnapshot, .createClone, .openBlob, .closeBlob, .decoupleParent]

/-- The results of a request's steps in order: the lookup of the name, the calls of the
chain, and the return value that starts the copy. -/
def requestResults (found : Bool) (outcomes : List Outcome) : List Int :=
  (if found then 0 else -enoent) :: (List.zipWith (fun op outcome => op.results outcome) chain outcomes).flatten

/-- How many of the calls come before the one that is waited for, and how many results. -/
def BlobOp.index : BlobOp → Nat
  | .createSnapshot => 0
  | .createClone => 1
  | .openBlob => 2
  | .closeBlob => 3
  | .decoupleParent => 4
  | .shallowCopy => 5

def BlobOp.resultsBefore : BlobOp → Nat
  | .createSnapshot => 1
  | .createClone => 2
  | .openBlob => 3
  | .closeBlob => 5
  | .decoupleParent => 6
  | .shallowCopy => 8

/-- What a request has done when it waits for the call. -/
def BlobOp.trail : BlobOp → List Act
  | .createSnapshot => [.issue .createSnapshot]
  | .createClone => [.issue .createSnapshot, .allocChannel, .issue .createClone]
  | .openBlob => [.issue .createSnapshot, .allocChannel, .issue .createClone, .issue .openBlob]
  | .closeBlob => [.issue .createSnapshot, .allocChannel, .issue .createClone, .issue .openBlob, .issue .closeBlob]
  | .decoupleParent =>
    [.issue .createSnapshot, .allocChannel, .issue .createClone, .issue .openBlob, .issue .closeBlob, .issue .decoupleParent]
  | .shallowCopy =>
    [.issue .createSnapshot, .allocChannel, .issue .createClone, .issue .openBlob, .issue .closeBlob, .issue .decoupleParent,
      .createDelta, .issue .shallowCopy, .answer 0]

/-- The snapshot was created and the blobstore gave a channel. -/
def channelTaken (path : String) : List Outcome → Bool
  | first :: _ => path ≠ "" && first.bserrno == 0 && first.channel
  | [] => false

/-- The clone blob was opened: the third call has succeeded. -/
def cloneOpened : List Outcome → Bool
  | _ :: _ :: third :: _ => third.bserrno == 0
  | _ => false

/-- A request that waits for the call, from the outcomes it has met. -/
structure Waits (path : String) (outcomes : List Outcome) (op : BlobOp) (ctx : SnapshotContext) : Prop where
  length : outcomes.length = op.index
  results : requestResults true outcomes = List.replicate op.resultsBefore 0
  kept : ctx.path = path
  named : op ≠ .createSnapshot → path ≠ ""
  channel : ctx.ch = channelTaken path outcomes
  opened : cloneOpened outcomes = decide (2 < op.index)
  delta : ctx.shallowCopyBsDev.isSome = decide (op = .shallowCopy)

/-- The requests with their names' lookups, their paths, and the outcomes their callbacks
have met, oldest first. -/
structure Trails where
  requests : Requests
  found : Nat → Bool
  path : Nat → String
  outcomes : Nat → List Outcome

def Trails.none : Trails := ⟨.none, fun _ => false, fun _ => "", fun _ => []⟩

/-- The requests' own step, and a note of what it met. -/
def trailStep (bdev : UbiBdev) (s : Trails) (event : RequestEvent) : Option Trails :=
  (requestStep bdev s.requests event).map fun requests =>
    match event with
    | .snapshot found path =>
      { s with
        requests := requests
        found := Function.update s.found s.requests.issued found
        path := Function.update s.path s.requests.issued path }
    | .callback id outcome =>
      { s with requests := requests, outcomes := Function.update s.outcomes id (s.outcomes id ++ [outcome]) }
    | .copied _ _ => { s with requests := requests }

/-! ## The results of one more step -/

theorem chain_split {op : BlobOp} (early : op ≠ .shallowCopy) :
    ∃ before after, chain = before ++ op :: after ∧ before.length = op.index := by
  cases op with
  | createSnapshot => exact ⟨[], _, rfl, rfl⟩
  | createClone => exact ⟨[.createSnapshot], _, rfl, rfl⟩
  | openBlob => exact ⟨[.createSnapshot, .createClone], _, rfl, rfl⟩
  | closeBlob => exact ⟨[.createSnapshot, .createClone, .openBlob], _, rfl, rfl⟩
  | decoupleParent => exact ⟨[.createSnapshot, .createClone, .openBlob, .closeBlob], _, rfl, rfl⟩
  | shallowCopy => exact absurd rfl early

theorem requestResults_snoc {op : BlobOp} (early : op ≠ .shallowCopy) (found : Bool) {outcomes : List Outcome}
    (length : outcomes.length = op.index) (outcome : Outcome) :
    requestResults found (outcomes ++ [outcome]) = requestResults found outcomes ++ op.results outcome := by
  obtain ⟨before, after, split, position⟩ := chain_split early
  have same : before.length = outcomes.length := position.trans length.symm
  have first : List.zipWith (fun op outcome => BlobOp.results outcome op) (before ++ op :: after) outcomes =
      List.zipWith (fun op outcome => BlobOp.results outcome op) before outcomes := by
    have cut := @List.zipWith_append _ _ _ (fun op outcome => BlobOp.results outcome op) before (op :: after) outcomes [] same
    simpa using cut
  unfold requestResults
  rw [split, first, List.zipWith_append same]
  simp

/-- The copy's own end adds no result. -/
theorem requestResults_ended (found : Bool) {outcomes : List Outcome} (length : outcomes.length = BlobOp.shallowCopy.index)
    (outcome : Outcome) : requestResults found (outcomes ++ [outcome]) = requestResults found outcomes := by
  have same : chain.length = outcomes.length := length.symm
  unfold requestResults
  have cut := @List.zipWith_append _ _ _ (fun op outcome => BlobOp.results outcome op) chain [] outcomes [outcome] same
  rw [List.append_nil] at cut
  rw [cut]
  simp

section
variable {bdev : UbiBdev} {status : SnapshotStatus} {path : String} {outcomes : List Outcome} {op : BlobOp}
  {ctx : SnapshotContext} {outcome : Outcome}

theorem channelTaken_snoc (later : outcomes ≠ []) : channelTaken path (outcomes ++ [outcome]) = channelTaken path outcomes := by
  cases outcomes with
  | nil => exact absurd rfl later
  | cons first rest => rfl

theorem Waits.results_snoc (waits : Waits path outcomes op ctx) (early : op ≠ .shallowCopy) {results : List Int}
    (same : List.replicate op.resultsBefore 0 ++ op.results outcome = results) :
    requestResults true (outcomes ++ [outcome]) = results := by
  rw [requestResults_snoc early true waits.length, waits.results, same]

theorem Waits.channel_snoc (waits : Waits path outcomes op ctx) (later : op ≠ .createSnapshot) :
    ctx.ch = channelTaken path (outcomes ++ [outcome]) := by
  rw [channelTaken_snoc, waits.channel]
  intro none
  have length := waits.length
  rw [none] at length
  cases op with
  | createSnapshot => exact later rfl
  | createClone | openBlob | closeBlob | decoupleParent | shallowCopy => cases length

theorem cloneOpened_early (few : outcomes.length < 3) : cloneOpened outcomes = false := by
  match outcomes, few with
  | [], _ => rfl
  | [_], _ => rfl
  | [_, _], _ => rfl

theorem cloneOpened_third (two : outcomes.length = 2) : cloneOpened (outcomes ++ [outcome]) = (outcome.bserrno == 0) := by
  match outcomes, two with
  | [_, _], _ => rfl

theorem cloneOpened_late (more : 2 < outcomes.length) : cloneOpened (outcomes ++ [outcome]) = cloneOpened outcomes := by
  match outcomes, more with
  | _ :: _ :: _ :: _, _ => rfl

theorem Waits.opened_snoc (waits : Waits path outcomes op ctx) :
    cloneOpened (outcomes ++ [outcome]) = (decide (2 ≤ op.index) && (op != .openBlob || outcome.bserrno == 0)) := by
  have length : (outcomes ++ [outcome]).length = op.index + 1 := by
    rw [List.length_append, waits.length]
    rfl
  cases op with
  | createSnapshot => exact cloneOpened_early (length.trans_lt (by decide))
  | createClone => exact cloneOpened_early (length.trans_lt (by decide))
  | openBlob => exact cloneOpened_third waits.length
  | closeBlob | decoupleParent | shallowCopy =>
    rw [cloneOpened_late (waits.length.symm ▸ (by decide)), waits.opened]
    rfl

/-- One call further in the chain, with what the context held before. -/
theorem Waits.forward (waits : Waits path outcomes op ctx) (between : op ≠ .createSnapshot ∧ op ≠ .shallowCopy)
    (fine : outcome.bserrno = 0) {op' : BlobOp} {ctx' : SnapshotContext} (position : op'.index = op.index + 1)
    (results : List.replicate op.resultsBefore 0 ++ op.results outcome = List.replicate op'.resultsBefore 0)
    (kept : ctx'.path = ctx.path ∧ ctx'.ch = ctx.ch)
    (delta : ctx'.shallowCopyBsDev.isSome = decide (op' = .shallowCopy)) : Waits path (outcomes ++ [outcome]) op' ctx' where
  length := by rw [List.length_append, waits.length, position]; rfl
  results := waits.results_snoc between.2 results
  kept := kept.1.trans waits.kept
  named := fun _ => waits.named between.1
  channel := kept.2.trans (waits.channel_snoc between.1)
  opened := by
    rw [waits.opened_snoc, position, fine, beq_self_eq_true, Bool.or_true, Bool.and_true]
    exact decide_eq_decide.mpr Nat.lt_succ_iff.symm
  delta := delta

/-- A request that goes on to wait for the next call. -/
theorem Waits.next (waits : Waits path outcomes op ctx) {op' : BlobOp} {ctx' : SnapshotContext}
    (goes : (op.callback bdev status ctx outcome).stage = .waiting op' ctx') :
    Waits path (outcomes ++ [outcome]) op' ctx' ∧ op.trail ++ (op.callback bdev status ctx outcome).acts = op'.trail := by
  have reaction := callback_reaction bdev status ctx outcome op
  generalize op.callback bdev status ctx outcome = effect at reaction goes ⊢
  cases reaction with
  | created fine named =>
    cases goes
    have empty : outcomes = [] := List.length_eq_zero_iff.mp waits.length
    rw [waits.kept] at named
    refine ⟨⟨?_, waits.results_snoc (by decide) ?_, waits.kept, fun _ => named, ?_, waits.opened_snoc, waits.delta⟩, rfl⟩
    · rw [empty]
      rfl
    · simp only [BlobOp.results, fine]
      rfl
    · simp [empty, channelTaken, fine, named]
  | cloned fine =>
    cases goes
    refine ⟨waits.forward (by decide) fine rfl ?_ ⟨rfl, rfl⟩ waits.delta, rfl⟩
    simp only [BlobOp.results, fine]
    rfl
  | readOnly fine locked =>
    cases goes
    refine ⟨waits.forward (by decide) fine rfl ?_ ⟨rfl, rfl⟩ waits.delta, rfl⟩
    simp only [BlobOp.results, fine, locked, ne_eq, not_true_eq_false, ↓reduceIte]
    rfl
  | closed fine =>
    cases goes
    refine ⟨waits.forward (by decide) fine rfl ?_ ⟨rfl, rfl⟩ waits.delta, rfl⟩
    simp only [BlobOp.results, fine]
    rfl
  | started fine accepted =>
    cases goes
    refine ⟨waits.forward (by decide) fine rfl ?_ ⟨rfl, rfl⟩ rfl, rfl⟩
    simp only [BlobOp.results, fine, accepted, ne_eq, not_true_eq_false, ↓reduceIte]
    rfl
  | failed | kept | writable | refused | ended => cases goes

end

/-! ## The ways a request ends -/

/-- The last callback of a request: what it does, and whether it cleans up. -/
inductive Ending (bdev : UbiBdev) (ctx : SnapshotContext) (outcome : Outcome) : BlobOp → Stage → List Act → Prop where
  | failed {op : BlobOp} (early : op ≠ .shallowCopy) (error : outcome.bserrno ≠ 0) :
      Ending bdev ctx outcome op .cleaned (.answer outcome.bserrno :: cleanupSnapshotContext ctx)
  | kept (fine : outcome.bserrno = 0) (noPath : ctx.path = "") :
      Ending bdev ctx outcome .createSnapshot .cleaned (.answer 0 :: cleanupSnapshotContext ctx)
  | writable (fine : outcome.bserrno = 0) (error : outcome.setReadOnly ≠ 0) :
      Ending bdev ctx outcome .openBlob .cleaned (.answer outcome.setReadOnly :: cleanupSnapshotContext ctx)
  | refused (fine : outcome.bserrno = 0) (error : outcome.shallowCopy ≠ 0) :
      Ending bdev ctx outcome .decoupleParent (.abandoned { ctx with shallowCopyBsDev := some (bdev.deltaDev ctx.path) })
        [.createDelta, .issue .shallowCopy, .answer outcome.shallowCopy]
  | copied : Ending bdev ctx outcome .shallowCopy .cleaned (cleanupSnapshotContext ctx)

theorem callback_ending {bdev : UbiBdev} {status : SnapshotStatus} {ctx : SnapshotContext} {outcome : Outcome} {op : BlobOp}
    (final : ∀ op' ctx', (op.callback bdev status ctx outcome).stage ≠ .waiting op' ctx') :
    Ending bdev ctx outcome op (op.callback bdev status ctx outcome).stage (op.callback bdev status ctx outcome).acts := by
  have reaction := callback_reaction bdev status ctx outcome op
  generalize op.callback bdev status ctx outcome = effect at reaction final ⊢
  cases reaction with
  | failed early error => exact .failed early error
  | kept fine noPath => exact .kept fine noPath
  | writable fine error => exact .writable fine error
  | refused fine error => exact .refused fine error
  | ended => exact .copied
  | created | cloned | readOnly | closed | started => exact absurd rfl (final _ _)

/-! ## Where a request stands -/

/-- The three ways a request can stand: its name was not found, it waits, or a callback
has led it to its end. -/
inductive Standing (bdev : UbiBdev) : Bool → String → List Outcome → Stage → List Act → Prop where
  | unknown (path : String) : Standing bdev false path [] .cleaned [.answer (-enoent)]
  | waiting {path : String} {outcomes : List Outcome} {op : BlobOp} {ctx : SnapshotContext}
      (waits : Waits path outcomes op ctx) : Standing bdev true path outcomes (.waiting op ctx) op.trail
  | ended {path : String} {outcomes : List Outcome} {op : BlobOp} {ctx : SnapshotContext} (waits : Waits path outcomes op ctx)
      (status : SnapshotStatus) (outcome : Outcome)
      (final : ∀ op' ctx', (op.callback bdev status ctx outcome).stage ≠ .waiting op' ctx') :
      Standing bdev true path (outcomes ++ [outcome]) (op.callback bdev status ctx outcome).stage
        (op.trail ++ (op.callback bdev status ctx outcome).acts)

theorem Standing.of_waiting {bdev : UbiBdev} {found : Bool} {path : String} {outcomes : List Outcome} {stage : Stage}
    {acts : List Act} (standing : Standing bdev found path outcomes stage acts) {op : BlobOp} {ctx : SnapshotContext}
    (waiting : stage = .waiting op ctx) : found = true ∧ Waits path outcomes op ctx ∧ acts = op.trail := by
  cases standing with
  | unknown path => cases waiting
  | waiting waits =>
    cases waiting
    exact ⟨rfl, waits, rfl⟩
  | ended waits status outcome final => exact absurd waiting (final op ctx)

structure Trails.Tracked (bdev : UbiBdev) (s : Trails) : Prop where
  numbered : s.requests.Numbered
  fresh : ∀ id, s.requests.issued ≤ id → s.outcomes id = []
  standing : ∀ id, id < s.requests.issued →
    Standing bdev (s.found id) (s.path id) (s.outcomes id) (s.requests.stage id) (s.requests.acts id)

theorem tracked_none (bdev : UbiBdev) : Trails.none.Tracked bdev where
  numbered := numbered_none
  fresh := fun _ _ => rfl
  standing := fun id below => absurd below (Nat.not_lt_zero id)

theorem waits_new (path : String) : Waits path [] .createSnapshot ⟨path, 0, 0, false, none⟩ where
  length := rfl
  results := rfl
  kept := rfl
  named := fun later => absurd rfl later
  channel := rfl
  opened := rfl
  delta := rfl

section
variable {bdev : UbiBdev} {s s' : Trails}

theorem Trails.Tracked.snapshot (tracked : s.Tracked bdev) {found : Bool} {path : String}
    (stepped : trailStep bdev s (.snapshot found path) = some s') : s'.Tracked bdev := by
  obtain ⟨requests, moved, rfl⟩ := Option.map_eq_some_iff.mp stepped
  have numbered := numbered_step s.requests _ requests tracked.numbered moved
  obtain ⟨_, unused⟩ := tracked.numbered s.requests.issued le_rfl
  cases moved
  refine ⟨numbered, fun id above => tracked.fresh id (Nat.le_of_succ_le above), ?_⟩
  intro id below
  by_cases new : id = s.requests.issued
  · subst new
    simp only [Function.update_self, Requests.apply, unused, List.nil_append, tracked.fresh _ le_rfl]
    cases found with
    | false => exact .unknown path
    | true => exact .waiting (waits_new path)
  · simp only [Function.update_of_ne new, Requests.apply]
    exact tracked.standing id (lt_of_le_of_ne (Nat.le_of_lt_succ below) new)

theorem Trails.Tracked.callback (tracked : s.Tracked bdev) {id : Nat} {outcome : Outcome}
    (stepped : trailStep bdev s (.callback id outcome) = some s') : s'.Tracked bdev := by
  obtain ⟨requests, moved, rfl⟩ := Option.map_eq_some_iff.mp stepped
  have numbered := numbered_step s.requests _ requests tracked.numbered moved
  obtain ⟨op, ctx, waiting, rfl⟩ := requestStep_callback moved
  have used := tracked.numbered.lt waiting
  refine ⟨numbered, ?_, ?_⟩
  · intro other above
    have different : other ≠ id := Nat.ne_of_gt (lt_of_lt_of_le used above)
    simp only [Function.update_of_ne different]
    exact tracked.fresh other above
  · intro other below
    by_cases same : other = id
    · subst same
      simp only [Function.update_self, Requests.apply]
      obtain ⟨found, waits, acts⟩ := (tracked.standing other used).of_waiting waiting
      rw [found, acts]
      by_cases goes : ∃ op' ctx', (op.callback bdev s.requests.status ctx outcome).stage = .waiting op' ctx'
      · obtain ⟨op', ctx', goes⟩ := goes
        obtain ⟨waits', trail⟩ := waits.next goes
        rw [goes, trail]
        exact .waiting waits'
      · push Not at goes
        exact .ended waits s.requests.status outcome goes
    · simp only [Function.update_of_ne same, Requests.apply]
      exact tracked.standing other below

end

theorem tracked_step {bdev : UbiBdev} (s : Trails) (event : RequestEvent) (s' : Trails) (tracked : s.Tracked bdev)
    (stepped : trailStep bdev s event = some s') : s'.Tracked bdev := by
  cases event with
  | snapshot found path => exact tracked.snapshot stepped
  | callback id outcome => exact tracked.callback stepped
  | copied id copiedClusters =>
    obtain ⟨requests, moved, rfl⟩ := Option.map_eq_some_iff.mp stepped
    obtain ⟨_, rfl⟩ := requestStep_copied moved
    exact ⟨tracked.numbered, tracked.fresh, tracked.standing⟩

end BdevUbi.Snapshot
