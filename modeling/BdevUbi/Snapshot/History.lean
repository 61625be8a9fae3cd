import BdevUbi.Snapshot.Requests

/-! The status record over snapshots that are taken one after the other.

The record belongs to the bdev and outlives the requests; their callbacks update it field
by field. Beside it stands what the latest request did itself: whether its copy was started,
how many clusters the copy has written, and its own error.
-/

set_option autoImplicit false

namespace BdevUbi.Snapshot
open BdevUbi.Library BdevUbi.Device

/-- The error of the step that a callback ends, 0 when it went well. -/
def BlobOp.error (outcome : Outcome) : BlobOp → Int
  | .openBlob => if outcome.bserrno ≠ 0 then outcome.bserrno else outcome.setReadOnly
  | .decoupleParent => if outcome.bserrno ≠ 0 then outcome.bserrno else outcome.shallowCopy
  | _ => outcome.bserrno

structure History where
  requests : Requests
  started : Bool
  written : Nat
  own : Int

def History.none : History := ⟨.none, false, 0, 0⟩

/-- Nothing of the latest request is pending. -/
def Requests.idle (s : Requests) : Bool :=
  match s.stage (s.issued - 1) with
  | .waiting _ _ => false
  | _ => true

/-- The requests' own step, with a path, and only when the one before has ended. The copy
reports 1, 2, 3, ... up to the clusters of its blob, which are no more than the store has. -/
def historyStep (bdev : UbiBdev) (clusters : Fin (bdev.totalDataClusterCount + 1)) (s : History) (event : RequestEvent) :
    Option History :=
  match event with
  | .snapshot found path =>
    if found = true ∧ path ≠ "" ∧ s.requests.idle then
      (requestStep bdev s.requests event).map fun requests => ⟨requests, false, 0, 0⟩
    else Option.none
  | .callback id outcome =>
    match s.requests.stage id with
    | .waiting op _ =>
      (requestStep bdev s.requests event).map fun requests =>
        { s with
          requests := requests
          started := s.started || (op == .decoupleParent && outcome.bserrno == 0)
          own := op.error outcome }
    | _ => Option.none
  | .copied _ copiedClusters =>
    if copiedClusters = s.written + 1 ∧ copiedClusters ≤ clusters.val then
      (requestStep bdev s.requests event).map fun requests => { s with requests := requests, written := copiedClusters }
    else Option.none

def History.Ended (s : History) : Prop := 0 < s.requests.issued ∧ ∀ id op ctx, s.requests.stage id ≠ .waiting op ctx

/-- From the start of its copy on, the record counts the clusters of the latest request,
and once that request has ended it has its result. -/
structure History.Reports (s : History) : Prop where
  copied : s.started = true →
    s.requests.status.copiedClusters = s.written ∧ s.requests.status.copiedClusters ≤ s.requests.status.totalClusters
  result : s.Ended → s.requests.status.result = s.own

/-- What the record must hold before a callback that leaves a part of it alone: no clusters
where a copy starts, the very error of a copy that is refused, and no error where a copy
ends well. -/
def LeftClean (s : History) (event : RequestEvent) : Prop :=
  ∀ id outcome op ctx, event = .callback id outcome → s.requests.stage id = .waiting op ctx → outcome.bserrno = 0 →
    (op = .decoupleParent → s.requests.status.copiedClusters = 0 ∧
      (outcome.shallowCopy ≠ 0 → s.requests.status.result = outcome.shallowCopy)) ∧
    (op = .shallowCopy → s.requests.status.result = 0)

/-! ## What a callback can do to the record -/

inductive Turn (bdev : UbiBdev) (status : SnapshotStatus) (ctx : SnapshotContext) (outcome : Outcome) : BlobOp → Effect → Prop where
  | goes {op next : BlobOp} {acts : List Act} {ctx' : SnapshotContext} (early : op ≠ .decoupleParent ∧ op ≠ .shallowCopy)
      (uncopied : next ≠ .shallowCopy) (same : ctx'.path = ctx.path) :
      Turn bdev status ctx outcome op ⟨status, acts, .waiting next ctx'⟩
  | fails {op : BlobOp} (early : op ≠ .shallowCopy) (unstarted : op = .decoupleParent → outcome.bserrno ≠ 0) :
      Turn bdev status ctx outcome op (failSnapshot status ctx (op.error outcome))
  | starts (fine : outcome.bserrno = 0) :
      Turn bdev status ctx outcome .decoupleParent (ubiStartSnapshot bdev status ctx 0 outcome.shallowCopy)
  | ends : Turn bdev status ctx outcome .shallowCopy (ubiShallowCopyCompleteCb status ctx outcome.bserrno)

section
variable {bdev : UbiBdev} {status : SnapshotStatus} {ctx : SnapshotContext} {outcome : Outcome}

theorem error_failed {op : BlobOp} (failed : outcome.bserrno ≠ 0) : op.error outcome = outcome.bserrno := by
  cases op with
  | openBlob | decoupleParent => exact if_pos failed
  | createSnapshot | createClone | closeBlob | shallowCopy => rfl

theorem callback_turn (op : BlobOp) (named : ctx.path ≠ "") :
    Turn bdev status ctx outcome op (op.callback bdev status ctx outcome) := by
  have reaction := callback_reaction bdev status ctx outcome op
  generalize op.callback bdev status ctx outcome = effect at reaction ⊢
  cases reaction with
  | failed early failed =>
    rw [← @error_failed outcome op failed]
    exact .fails early fun _ => failed
  | kept _ noPath => exact absurd noPath named
  | created | cloned | readOnly | closed => exact .goes (by decide) (by decide) rfl
  | writable fine =>
    have own : BlobOp.openBlob.error outcome = outcome.setReadOnly := if_neg (not_not.mpr fine)
    rw [← own]
    exact .fails (by decide) fun other => (by cases other)
  | refused fine error =>
    have start := @Turn.starts bdev status ctx outcome fine
    simpa only [ubiStartSnapshot, error, ne_eq, not_true_eq_false, ↓reduceIte] using start
  | started fine accepted =>
    have start := @Turn.starts bdev status ctx outcome fine
    simpa only [ubiStartSnapshot, accepted, ne_eq, not_true_eq_false, ↓reduceIte] using start
  | ended => exact .ends

end

/-! ## One request at a time -/

structure History.Sound (bdev : UbiBdev) (clusters : Fin (bdev.totalDataClusterCount + 1)) (s : History) : Prop where
  numbered : s.requests.Numbered
  waiting : ∀ id op ctx, s.requests.stage id = .waiting op ctx →
    id + 1 = s.requests.issued ∧ ctx.path ≠ "" ∧ (s.started = true ↔ op = .shallowCopy)
  unstarted : s.started = false → s.written = 0
  total : s.started = true → s.requests.status.totalClusters = bdev.totalDataClusterCount
  within : s.written ≤ clusters.val

section
variable {bdev : UbiBdev} {clusters : Fin (bdev.totalDataClusterCount + 1)} {s s' : History}

theorem historyStep_snapshot {found : Bool} {path : String}
    (stepped : historyStep bdev clusters s (.snapshot found path) = some s') :
    found = true ∧ path ≠ "" ∧ s.requests.idle = true ∧
      s' = ⟨{ s.requests.apply s.requests.issued (bdevUbiSnapshot s.requests.status true path) with
        issued := s.requests.issued + 1 }, false, 0, 0⟩ := by
  simp only [historyStep] at stepped
  split at stepped
  · rename_i allowed
    obtain ⟨rfl, named, idle⟩ := allowed
    cases stepped
    exact ⟨rfl, named, idle, rfl⟩
  · cases stepped

theorem historyStep_callback {id : Nat} {outcome : Outcome}
    (stepped : historyStep bdev clusters s (.callback id outcome) = some s') :
    ∃ op ctx, s.requests.stage id = .waiting op ctx ∧
      s' = { s with
        requests := s.requests.apply id (op.callback bdev s.requests.status ctx outcome)
        started := s.started || (op == .decoupleParent && outcome.bserrno == 0)
        own := op.error outcome } := by
  simp only [historyStep] at stepped
  split at stepped
  · rename_i op ctx waiting
    simp only [requestStep, waiting, Option.map_some] at stepped
    cases stepped
    exact ⟨op, ctx, waiting, rfl⟩
  · cases stepped

theorem historyStep_copied {id copiedClusters : Nat}
    (stepped : historyStep bdev clusters s (.copied id copiedClusters) = some s') :
    (∃ ctx, s.requests.stage id = .waiting .shallowCopy ctx) ∧ copiedClusters = s.written + 1 ∧ copiedClusters ≤ clusters.val ∧
      s' = { s with
        requests := { s.requests with status := ubiShallowCopyStatusCb s.requests.status copiedClusters }
        written := copiedClusters } := by
  simp only [historyStep] at stepped
  split at stepped
  · rename_i allowed
    obtain ⟨requests, moved, rfl⟩ := Option.map_eq_some_iff.mp stepped
    obtain ⟨waiting, rfl⟩ := requestStep_copied moved
    exact ⟨waiting, allowed.1, allowed.2, rfl⟩
  · cases stepped

/-- No request but the latest waits, and that one not when the next may begin. -/
theorem History.Sound.quiet (sound : s.Sound bdev clusters) (idle : s.requests.idle = true) :
    ∀ id op ctx, s.requests.stage id ≠ .waiting op ctx := by
  intro id op ctx waiting
  have latest := (sound.waiting id op ctx waiting).1
  rw [Requests.idle, ← latest, Nat.add_sub_cancel, waiting] at idle
  cases idle

theorem History.Sound.snapshot (sound : s.Sound bdev clusters) {found : Bool} {path : String}
    (stepped : historyStep bdev clusters s (.snapshot found path) = some s') : s'.Sound bdev clusters := by
  obtain ⟨rfl, named, idle, rfl⟩ := historyStep_snapshot stepped
  refine ⟨?_, ?_, fun _ => rfl, (fun started => by cases started), Nat.zero_le _⟩
  · exact @numbered_step bdev s.requests (.snapshot true path) _ sound.numbered rfl
  · intro id op ctx waiting
    rcases apply_waiting waiting with ⟨rfl, new⟩ | ⟨_, before⟩
    · cases new
      exact ⟨rfl, named, iff_of_false (fun started => by cases started) (by decide)⟩
    · exact absurd before (sound.quiet idle id op ctx)

/-- Only the request whose callback ran can wait now. -/
theorem History.Sound.waiting_apply (sound : s.Sound bdev clusters) {id : Nat} {op : BlobOp} {ctx : SnapshotContext}
    (waiting : s.requests.stage id = .waiting op ctx) {effect : Effect} {other : Nat} {op' : BlobOp} {ctx' : SnapshotContext}
    (waits : (s.requests.apply id effect).stage other = .waiting op' ctx') : other = id ∧ effect.stage = .waiting op' ctx' := by
  rcases apply_waiting waits with here | ⟨different, before⟩
  · exact here
  · have first := (sound.waiting id op ctx waiting).1
    have second := (sound.waiting other op' ctx' before).1
    omega

theorem History.Sound.callback (sound : s.Sound bdev clusters) {id : Nat} {outcome : Outcome}
    (stepped : historyStep bdev clusters s (.callback id outcome) = some s') : s'.Sound bdev clusters := by
  obtain ⟨op, ctx, waiting, rfl⟩ := historyStep_callback stepped
  obtain ⟨latest, named, copying⟩ := sound.waiting id op ctx waiting
  have numbered := sound.numbered.apply (sound.numbered.lt waiting) (op.callback bdev s.requests.status ctx outcome)
  have only {other : Nat} {op' : BlobOp} {ctx' : SnapshotContext} := @History.Sound.waiting_apply bdev clusters s sound id op ctx waiting
    (op.callback bdev s.requests.status ctx outcome) other op' ctx'
  have turn := @callback_turn bdev s.requests.status ctx outcome op named
  refine ⟨numbered, ?_, ?_, ?_, sound.within⟩
  · intro other op' ctx' waits
    obtain ⟨rfl, goes⟩ := only waits
    have path := callback_path goes
    refine ⟨latest, path.symm ▸ named, ?_⟩
    generalize op.callback bdev s.requests.status ctx outcome = effect at turn goes
    cases turn with
    | goes early uncopied same =>
      cases goes
      simp [copying, early, uncopied]
    | fails early unstarted => cases goes
    | starts fine =>
      simp only [ubiStartSnapshot, ne_eq, not_true_eq_false, ↓reduceIte] at goes
      split at goes
      · cases goes
        simp [fine]
      · cases goes
    | ends => cases goes
  · intro unstarted
    simp only [Bool.or_eq_false_iff] at unstarted
    exact sound.unstarted unstarted.1
  · intro started
    simp only [Requests.apply]
    generalize op.callback bdev s.requests.status ctx outcome = effect at turn
    cases turn with
    | goes early uncopied same =>
      refine sound.total ?_
      simpa [early] using started
    | fails early unstarted =>
      refine sound.total ?_
      by_cases decoupled : op = .decoupleParent
      · simpa [unstarted decoupled] using started
      · simpa [decoupled] using started
    | starts fine => rfl
    | ends => exact sound.total (by simpa using started)

theorem sound_step (s : History) (event : RequestEvent) (s' : History) (sound : s.Sound bdev clusters)
    (stepped : historyStep bdev clusters s event = some s') : s'.Sound bdev clusters := by
  cases event with
  | snapshot found path => exact sound.snapshot stepped
  | callback id outcome => exact sound.callback stepped
  | copied id copiedClusters =>
    obtain ⟨⟨ctx, waiting⟩, _, within, rfl⟩ := historyStep_copied stepped
    have started := (sound.waiting id _ ctx waiting).2.2.mpr rfl
    exact ⟨sound.numbered, sound.waiting, fun unstarted => absurd (started.symm.trans unstarted) (by decide), sound.total, within⟩

/-! ## What one step makes of the report -/

theorem History.Sound.ended_apply (sound : s.Sound bdev clusters) {id : Nat} {op : BlobOp} {ctx : SnapshotContext}
    (waiting : s.requests.stage id = .waiting op ctx) (effect : Effect) (started : Bool) (own : Int) :
    History.Ended ⟨s.requests.apply id effect, started, s.written, own⟩ ↔ ∀ op' ctx', effect.stage ≠ .waiting op' ctx' := by
  constructor
  · rintro ⟨_, ended⟩ op' ctx' goes
    exact ended id op' ctx' (by simpa only [Requests.apply, Function.update_self] using goes)
  · intro ended
    refine ⟨Nat.lt_of_le_of_lt (Nat.zero_le id) (sound.numbered.lt waiting), ?_⟩
    intro other op' ctx' waits
    exact ended op' ctx' (sound.waiting_apply waiting waits).2

theorem reports_callback (sound : s.Sound bdev clusters) (reports : s.Reports) {id : Nat} {outcome : Outcome}
    (stepped : historyStep bdev clusters s (.callback id outcome) = some s') :
    s'.Reports ↔ LeftClean s (.callback id outcome) := by
  obtain ⟨op, ctx, waiting, rfl⟩ := historyStep_callback stepped
  obtain ⟨latest, named, copying⟩ := sound.waiting id op ctx waiting
  have guard : LeftClean s (.callback id outcome) ↔ (outcome.bserrno = 0 →
      (op = .decoupleParent → s.requests.status.copiedClusters = 0 ∧
        (outcome.shallowCopy ≠ 0 → s.requests.status.result = outcome.shallowCopy)) ∧
      (op = .shallowCopy → s.requests.status.result = 0)) := by
    constructor
    · exact fun clean => clean id outcome op ctx rfl waiting
    · intro clean other result op' ctx' same waiting'
      cases same
      cases waiting.symm.trans waiting'
      exact clean
  have ended := sound.ended_apply waiting (op.callback bdev s.requests.status ctx outcome)
    (s.started || (op == .decoupleParent && outcome.bserrno == 0)) (op.error outcome)
  rw [guard]
  have turn := @callback_turn bdev s.requests.status ctx outcome op named
  generalize op.callback bdev s.requests.status ctx outcome = effect at turn ended
  cases turn with
  | goes early uncopied same =>
    refine iff_of_true ⟨?_, fun done => absurd rfl (ended.mp done _ _)⟩
      fun _ => ⟨fun late => absurd late early.1, fun late => absurd late early.2⟩
    intro started
    exact reports.copied (by simpa [early] using started)
  | fails early unstarted =>
    refine iff_of_true ⟨?_, fun _ => rfl⟩ fun fine => ⟨fun late => absurd fine (unstarted late), fun late => absurd late early⟩
    intro started
    refine reports.copied ?_
    by_cases decoupled : op = .decoupleParent
    · simpa [unstarted decoupled] using started
    · simpa [decoupled] using started
  | starts fine =>
    have fresh : s.started = false := by
      rw [← Bool.not_eq_true, copying]
      decide
    have own : BlobOp.decoupleParent.error outcome = outcome.shallowCopy := if_neg (not_not.mpr fine)
    have refused : (∀ op' ctx', (ubiStartSnapshot bdev s.requests.status ctx 0 outcome.shallowCopy).stage ≠ .waiting op' ctx') ↔
        outcome.shallowCopy ≠ 0 := by
      simp only [ubiStartSnapshot, ne_eq, not_true_eq_false, ↓reduceIte]
      split
      · rename_i accepted
        exact iff_of_false (fun none => none _ _ rfl) (not_not.mpr accepted)
      · rename_i refused
        exact iff_of_true (fun _ _ waiting => by cases waiting) refused
    rw [refused] at ended
    constructor
    · intro after _
      have copied := after.copied (by simp [fine])
      refine ⟨fun _ => ⟨copied.1.trans (sound.unstarted fresh), fun error => ?_⟩, fun late => (by cases late)⟩
      exact (after.result (ended.mpr error)).trans own
    · intro clean
      obtain ⟨none, result⟩ := (clean fine).1 rfl
      refine ⟨fun _ => ⟨none.trans (sound.unstarted fresh).symm, ?_⟩, fun done => (result (ended.mp done)).trans own.symm⟩
      exact none.trans_le (Nat.zero_le _)
  | ends =>
    have done := ended.mpr fun _ _ waiting => (by cases waiting)
    constructor
    · intro after fine
      refine ⟨(fun late => by cases late), fun _ => ?_⟩
      have result := after.result done
      simpa [Requests.apply, ubiShallowCopyCompleteCb, BlobOp.error, fine] using result
    · intro clean
      refine ⟨fun _ => reports.copied (copying.mpr rfl), fun _ => ?_⟩
      by_cases fine : outcome.bserrno = 0
      · simpa [Requests.apply, ubiShallowCopyCompleteCb, BlobOp.error, fine] using (clean fine).2 rfl
      · simp [Requests.apply, ubiShallowCopyCompleteCb, BlobOp.error, fine]

theorem reports_step (s : History) (event : RequestEvent) (s' : History) (sound : s.Sound bdev clusters) (reports : s.Reports)
    (stepped : historyStep bdev clusters s event = some s') : s'.Reports ↔ LeftClean s event := by
  cases event with
  | snapshot found path =>
    refine iff_of_true ?_ fun _ _ _ _ same => (by cases same)
    obtain ⟨rfl, named, idle, rfl⟩ := historyStep_snapshot stepped
    refine ⟨(fun started => by cases started), fun ended => ?_⟩
    refine absurd ?_ (ended.2 s.requests.issued .createSnapshot ⟨path, 0, 0, false, none⟩)
    simp only [Requests.apply, Function.update_self]
    rfl
  | callback id outcome => exact reports_callback sound reports stepped
  | copied id copiedClusters =>
    refine iff_of_true ?_ fun _ _ _ _ same => (by cases same)
    obtain ⟨⟨ctx, waiting⟩, _, within, rfl⟩ := historyStep_copied stepped
    refine ⟨fun started => ⟨rfl, ?_⟩, fun ended => absurd waiting (ended.2 id _ ctx)⟩
    calc copiedClusters ≤ clusters.val := within
      _ ≤ bdev.totalDataClusterCount := Nat.le_of_lt_succ clusters.isLt
      _ = s.requests.status.totalClusters := (sound.total started).symm

theorem leftClean_disabled (s : History) (event : RequestEvent) (disabled : historyStep bdev clusters s event = none) :
    LeftClean s event := by
  rintro id outcome op ctx rfl waiting
  simp only [historyStep, requestStep, waiting, Option.map_some, reduceCtorEq] at disabled

end

/-- The record describes the latest snapshot all along exactly the histories in which every
copy starts with no clusters counted, no refused copy finds another result than its own error,
and every copy that succeeds finds no error. -/
theorem status_describes_latest_iff (bdev : UbiBdev) (clusters : Fin (bdev.totalDataClusterCount + 1)) (events : List RequestEvent) :
    Always (historyStep bdev clusters) History.Reports .none events ↔
      Guarded (historyStep bdev clusters) LeftClean .none events := by
  refine always_iff_guarded sound_step reports_step (fun s event _ => leftClean_disabled s event) ?_ ?_ events
  · exact ⟨numbered_none, (fun _ _ _ waiting => by cases waiting), fun _ => rfl, (fun started => by cases started), Nat.zero_le _⟩
  · exact ⟨(fun started => by cases started), fun ended => absurd ended.1 (Nat.lt_irrefl 0)⟩

/-- A second copy starts with the clusters of the first one; a copy that succeeds after one
that failed still has its error; a refused copy shows no error at all. -/
theorem status_of_earlier_snapshot :
    (¬ Always (historyStep ⟨8, 4096, 2, 4096⟩ 2) History.Reports .none
      [.snapshot true "a", .callback 0 .fine, .callback 0 .fine, .callback 0 .fine, .callback 0 .fine, .callback 0 .fine,
        .copied 0 1, .callback 0 .fine,
        .snapshot true "b", .callback 1 .fine, .callback 1 .fine, .callback 1 .fine, .callback 1 .fine, .callback 1 .fine]) ∧
    (¬ Always (historyStep ⟨8, 4096, 2, 4096⟩ 2) History.Reports .none
      [.snapshot true "a", .callback 0 ⟨0, -28, true, 0, 0⟩,
        .snapshot true "b", .callback 1 .fine, .callback 1 .fine, .callback 1 .fine, .callback 1 .fine, .callback 1 .fine,
        .callback 1 .fine]) ∧
    (¬ Always (historyStep ⟨8, 4096, 2, 4096⟩ 2) History.Reports .none
      [.snapshot true "a", .callback 0 .fine, .callback 0 .fine, .callback 0 .fine, .callback 0 .fine,
        .callback 0 ⟨0, 0, true, 0, -12⟩]) := by
  refine ⟨fun always => ?_, fun always => ?_, fun always => ?_⟩
  · have copied := ((always.final rfl).copied rfl).1
    revert copied
    decide
  · have result := (always.final rfl).result ⟨by decide, ?_⟩
    · revert result
      decide
    · rintro (_ | _ | id) op ctx waiting <;> cases waiting
  · have result := (always.final rfl).result ⟨by decide, ?_⟩
    · revert result
      decide
    · rintro (_ | id) op ctx waiting <;> cases waiting

end BdevUbi.Snapshot
