import BdevUbi.Snapshot.Requests

/-! Whether the shared status record tells the truth about running copies. -/

set_option autoImplicit false

namespace BdevUbi.Snapshot
open BdevUbi.Library BdevUbi.Device

def Stage.Copying : Stage → Prop
  | .waiting .shallowCopy _ => True
  | _ => False

/-- `in_progress` is set exactly while a copy that was accepted has not completed. -/
def Requests.TellsTruth (s : Requests) : Prop :=
  s.status.inProgress = true ↔ ∃ id, (s.stage id).Copying

/-- A copy is refused only while another one runs, and completes only as the last one. -/
def CopiesApart (s : Requests) : RequestEvent → Prop
  | .callback id outcome =>
    match s.stage id with
    | .waiting .decoupleParent _ =>
      outcome.bserrno = 0 → outcome.shallowCopy ≠ 0 → ∃ other, (s.stage other).Copying
    | .waiting .shallowCopy _ => ∀ other, other ≠ id → ¬ (s.stage other).Copying
    | _ => True
  | _ => True

/-! ## What the callbacks do to the flag -/

section
variable {bdev : UbiBdev} {status : SnapshotStatus} {ctx : SnapshotContext} {outcome : Outcome}

/-- The chain's four first callbacks neither touch the flag nor start a copy. -/
theorem callback_before_copy (op : BlobOp) (early : op ≠ .decoupleParent ∧ op ≠ .shallowCopy) :
    (op.callback bdev status ctx outcome).status.inProgress = status.inProgress ∧
    ¬ (op.callback bdev status ctx outcome).stage.Copying := by
  have reaction := callback_reaction bdev status ctx outcome op
  generalize op.callback bdev status ctx outcome = effect at reaction ⊢
  cases reaction with
  | failed | kept | created | cloned | writable | readOnly | closed => exact ⟨rfl, id⟩
  | refused | started => exact absurd rfl early.1
  | ended => exact absurd rfl early.2

theorem decoupleParentCb_failed (failed : outcome.bserrno ≠ 0) :
    (BlobOp.decoupleParent.callback bdev status ctx outcome).status.inProgress = status.inProgress ∧
    ¬ (BlobOp.decoupleParent.callback bdev status ctx outcome).stage.Copying := by
  rw [callback_failed (by decide) failed]
  exact ⟨rfl, id⟩

theorem decoupleParentCb_started (fine : outcome.bserrno = 0) :
    (BlobOp.decoupleParent.callback bdev status ctx outcome).status.inProgress = true ∧
    ((BlobOp.decoupleParent.callback bdev status ctx outcome).stage.Copying ↔ outcome.shallowCopy = 0) := by
  simp only [BlobOp.callback, ubiDecoupleParentCb, ubiStartSnapshot, fine, ne_eq, not_true_eq_false, ↓reduceIte, true_and]
  by_cases accepted : outcome.shallowCopy = 0
  · simp only [accepted, ↓reduceIte, Stage.Copying]
  · simp only [accepted, ↓reduceIte, Stage.Copying]

end

/-! ## One step and whole runs -/

section
variable {s : Requests} {id : Nat}

theorem copying_apply (effect : Effect) :
    (∃ other, ((s.apply id effect).stage other).Copying) ↔
      effect.stage.Copying ∨ ∃ other, other ≠ id ∧ (s.stage other).Copying := by
  constructor
  · rintro ⟨other, copying⟩
    by_cases same : other = id
    · subst same
      simp only [Requests.apply, Function.update_self] at copying
      exact Or.inl copying
    · simp only [Requests.apply, Function.update_of_ne same] at copying
      exact Or.inr ⟨other, same, copying⟩
  · rintro (copying | ⟨other, different, copying⟩)
    · refine ⟨id, ?_⟩
      simpa only [Requests.apply, Function.update_self] using copying
    · refine ⟨other, ?_⟩
      simpa only [Requests.apply, Function.update_of_ne different] using copying

theorem copying_others (idle : ¬ (s.stage id).Copying) :
    (∃ other, other ≠ id ∧ (s.stage other).Copying) ↔ ∃ other, (s.stage other).Copying := by
  constructor
  · rintro ⟨other, _, copying⟩
    exact ⟨other, copying⟩
  · rintro ⟨other, copying⟩
    refine ⟨other, ?_, copying⟩
    rintro rfl
    exact idle copying

/-- An effect that leaves the flag alone and starts no copy keeps the truth. -/
theorem tellsTruth_apply {effect : Effect} (truth : s.TellsTruth) (idle : ¬ (s.stage id).Copying)
    (flag : effect.status.inProgress = s.status.inProgress) (quiet : ¬ effect.stage.Copying) :
    (s.apply id effect).TellsTruth := by
  unfold Requests.TellsTruth
  rw [copying_apply, copying_others idle]
  simp only [quiet, false_or, Requests.apply, flag]
  exact truth

theorem tellsTruth_decoupled {bdev : UbiBdev} {ctx : SnapshotContext} (truth : s.TellsTruth)
    (waiting : s.stage id = .waiting .decoupleParent ctx) (outcome : Outcome) :
    (s.apply id (BlobOp.decoupleParent.callback bdev s.status ctx outcome)).TellsTruth ↔
      (outcome.bserrno = 0 → outcome.shallowCopy ≠ 0 → ∃ other, (s.stage other).Copying) := by
  have idle : ¬ (s.stage id).Copying := by
    rw [waiting]
    exact fun copying => copying
  by_cases fine : outcome.bserrno = 0
  · obtain ⟨flag, copying⟩ := decoupleParentCb_started fine
    unfold Requests.TellsTruth
    rw [copying_apply, copying_others idle, copying]
    simp only [Requests.apply, flag, true_iff, fine, true_implies]
    exact Decidable.or_iff_not_imp_left
  · obtain ⟨flag, quiet⟩ := decoupleParentCb_failed fine
    simp only [fine, false_implies, iff_true]
    exact tellsTruth_apply truth idle flag quiet

theorem tellsTruth_completed {bdev : UbiBdev} {ctx : SnapshotContext} (outcome : Outcome) :
    (s.apply id (BlobOp.shallowCopy.callback bdev s.status ctx outcome)).TellsTruth ↔
      ∀ other, other ≠ id → ¬ (s.stage other).Copying := by
  unfold Requests.TellsTruth
  rw [copying_apply]
  simp only [Requests.apply, BlobOp.callback, ubiShallowCopyCompleteCb, Stage.Copying, Bool.false_eq_true, false_or,
    false_iff, not_exists, not_and]

end

/-- One step keeps the truth exactly when copies stay apart. -/
theorem tellsTruth_step {bdev : UbiBdev} (s : Requests) (event : RequestEvent) (s' : Requests) (numbered : s.Numbered)
    (truth : s.TellsTruth) (stepped : requestStep bdev s event = some s') : s'.TellsTruth ↔ CopiesApart s event := by
  cases event with
  | snapshot found path =>
    cases stepped
    simp only [CopiesApart, iff_true]
    have idle : ¬ (s.stage s.issued).Copying := by
      rw [(numbered s.issued le_rfl).1]
      exact id
    have quiet : (bdevUbiSnapshot s.status found path).status = s.status ∧
        ¬ (bdevUbiSnapshot s.status found path).stage.Copying := by
      cases found <;> exact ⟨rfl, id⟩
    exact tellsTruth_apply truth idle (congrArg _ quiet.1) quiet.2
  | callback id outcome =>
    obtain ⟨op, ctx, waiting, rfl⟩ := requestStep_callback stepped
    simp only [CopiesApart, waiting]
    cases op with
    | decoupleParent => exact tellsTruth_decoupled truth waiting outcome
    | shallowCopy => exact tellsTruth_completed outcome
    | createSnapshot | createClone | openBlob | closeBlob =>
      simp only [iff_true]
      have idle : ¬ (s.stage id).Copying := by
        rw [waiting]
        exact fun copying => copying
      apply tellsTruth_apply truth idle
      · exact (callback_before_copy _ (by decide)).1
      · exact (callback_before_copy _ (by decide)).2
  | copied id copiedClusters =>
    obtain ⟨_, rfl⟩ := requestStep_copied stepped
    simp only [CopiesApart, iff_true]
    exact truth

theorem copiesApart_disabled {bdev : UbiBdev} (s : Requests) (event : RequestEvent)
    (disabled : requestStep bdev s event = none) : CopiesApart s event := by
  cases event with
  | snapshot found path => trivial
  | callback id outcome =>
    simp only [requestStep] at disabled
    simp only [CopiesApart]
    cases stage : s.stage id with
    | waiting op ctx => simp only [stage, reduceCtorEq] at disabled
    | absent | cleaned | abandoned ctx => exact True.intro
  | copied id copiedClusters => trivial

/-- The flag tells the truth all along a run exactly when in that run no copy is refused
while none is running, and no copy completes while another one is running. -/
theorem in_progress_truthful_iff (bdev : UbiBdev) (events : List RequestEvent) :
    Always (requestStep bdev) Requests.TellsTruth .none events ↔
      Guarded (requestStep bdev) CopiesApart .none events := by
  apply always_iff_guarded numbered_step tellsTruth_step (fun s event _ => copiesApart_disabled s event) numbered_none
  constructor
  · intro flag
    cases flag
  · rintro ⟨id, copying⟩
    exact copying.elim

/-- The completions of a request before the clone's parent is decoupled. -/
def upToCopy (id : Nat) : List RequestEvent :=
  [.callback id .fine, .callback id .fine, .callback id .fine, .callback id .fine]

def pageBdev : UbiBdev := ⟨16, 4096, 16, 4096⟩

/-- A refused copy leaves the flag set with no copy running; of two copies, the one
that ends first clears it while the other one is still running. -/
theorem in_progress_untruthful :
    ¬ Always (requestStep pageBdev) Requests.TellsTruth .none
      ([.snapshot true "a"] ++ upToCopy 0 ++ [.callback 0 { Outcome.fine with shallowCopy := -12 }]) ∧
    ¬ Always (requestStep pageBdev) Requests.TellsTruth .none
      ([.snapshot true "a", .snapshot true "b"] ++ upToCopy 0 ++ upToCopy 1 ++
        [.callback 0 .fine, .callback 1 .fine, .callback 0 .fine]) := by
  constructor
  · intro always
    have truth := always.final rfl
    obtain ⟨id, copying⟩ := truth.mp rfl
    cases id with
    | zero => exact copying
    | succ n => exact copying
  · intro always
    have truth := always.final rfl
    have flag := truth.mpr ⟨1, trivial⟩
    exact absurd flag (by decide)

end BdevUbi.Snapshot
