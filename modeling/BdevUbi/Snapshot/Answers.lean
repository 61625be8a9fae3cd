import BdevUbi.Snapshot.Trails

/-! What the clients of `bdev_ubi_snapshot` hear.

The answer of a request is compared with the results of its own steps, in the order in
which it ran them. Names stand for the bdevs behind them: every bdev has its requests and
its record, and an event of a run is one of some name's.
-/

set_option autoImplicit false

namespace BdevUbi.Snapshot
open BdevUbi.Library BdevUbi.Device

/-- The calls of the client's `cb_fn` among what a request has done. -/
def answers (acts : List Act) : List Int :=
  acts.filterMap fun
    | .answer status => some status
    | _ => none

/-- All the steps up to the start of the copy were made and succeeded, or no copy was
asked for and the snapshot was created. -/
def Succeeded (path : String) (results : List Int) : Prop :=
  results = List.replicate 8 0 ∨ path = "" ∧ results = [0, 0]

/-- The error of the first step that failed. -/
def firstError (results : List Int) : Option Int := results.find? fun result => result ≠ 0

def Stage.Pending (stage : Stage) : Prop := ∃ op ctx, stage = .waiting op ctx

structure Answered (found : Bool) (path : String) (outcomes : List Outcome) (stage : Stage) (acts : List Act) : Prop where
  once : (answers acts).length ≤ 1
  ended : ¬ stage.Pending → (answers acts).length = 1
  success : 0 ∈ answers acts ↔ Succeeded path (requestResults found outcomes)
  error : ∀ status ∈ answers acts, status ≠ 0 → firstError (requestResults found outcomes) = some status
  cleaned : Act.freeContext ∈ acts → ¬ stage.Pending ∧ ∃ before, acts = before ++ [.freeContext] ∧ Act.freeContext ∉ before

/-! ## Answers and results -/

theorem answers_append (first second : List Act) : answers (first ++ second) = answers first ++ answers second :=
  List.filterMap_append

theorem answers_trail (op : BlobOp) : answers op.trail = if op = .shallowCopy then [0] else [] := by
  cases op <;> rfl

theorem trail_keeps (op : BlobOp) : Act.freeContext ∉ op.trail := by
  cases op <;> decide

theorem cleanup_acts (ctx : SnapshotContext) :
    answers (cleanupSnapshotContext ctx) = [] ∧
      ∃ before, cleanupSnapshotContext ctx = before ++ [.freeContext] ∧ Act.freeContext ∉ before := by
  refine ⟨?_, _, rfl, ?_⟩
  · rw [cleanupSnapshotContext]
    cases ctx.shallowCopyBsDev.isSome <;> cases ctx.ch <;> decide
  · cases ctx.shallowCopyBsDev.isSome <;> cases ctx.ch <;> decide

theorem firstError_snoc (n : Nat) {code : Int} (error : code ≠ 0) : firstError (List.replicate n 0 ++ [code]) = some code := by
  have none : (List.replicate n (0 : Int)).find? (fun result => result ≠ 0) = none := by
    rw [List.find?_eq_none]
    intro result member
    simp [List.eq_of_mem_replicate member]
  rw [firstError, List.find?_append, none]
  simp [error]

/-- With an error among the results nothing has succeeded. -/
theorem not_succeeded {path : String} {results : List Int} {code : Int} (error : code ≠ 0) (member : code ∈ results) :
    ¬ Succeeded path results := by
  rintro (all | ⟨_, all⟩)
  · rw [all] at member
    exact error (List.eq_of_mem_replicate member)
  · rw [all] at member
    simp only [List.mem_cons, List.not_mem_nil, or_false, or_self] at member
    exact error member

section
variable {path : String} {outcomes : List Outcome} {found : Bool} {stage : Stage} {acts : List Act}

theorem answered_error {n : Nat} {code : Int} (error : code ≠ 0) (one : answers acts = [code])
    (results : requestResults found outcomes = List.replicate n 0 ++ [code])
    (cleaned : Act.freeContext ∈ acts → ¬ stage.Pending ∧ ∃ before, acts = before ++ [.freeContext] ∧ Act.freeContext ∉ before) :
    Answered found path outcomes stage acts where
  once := by simp [one]
  ended := fun _ => by simp [one]
  success := by
    rw [one, List.mem_singleton, results]
    exact iff_of_false (fun zero => error zero.symm) (not_succeeded error (by simp))
  error := by
    intro status member _
    rw [one, List.mem_singleton] at member
    rw [results, member]
    exact firstError_snoc n error
  cleaned := cleaned

theorem answered_success (one : answers acts = [0]) (success : Succeeded path (requestResults found outcomes))
    (cleaned : Act.freeContext ∈ acts → ¬ stage.Pending ∧ ∃ before, acts = before ++ [.freeContext] ∧ Act.freeContext ∉ before) :
    Answered found path outcomes stage acts where
  once := by simp [one]
  ended := fun _ => by simp [one]
  success := by
    rw [one, List.mem_singleton]
    exact iff_of_true rfl success
  error := by
    intro status member error
    rw [one, List.mem_singleton] at member
    exact absurd member error
  cleaned := cleaned

theorem not_pending_cleaned : ¬ Stage.cleaned.Pending := by
  rintro ⟨_, _, waiting⟩
  cases waiting

/-- What a callback does before it cleans up leaves the context alone. -/
theorem cleaned_last {first : List Act} (ctx : SnapshotContext) (keeps : Act.freeContext ∉ first) :
    ∃ before, first ++ cleanupSnapshotContext ctx = before ++ [.freeContext] ∧ Act.freeContext ∉ before := by
  obtain ⟨_, before, whole, alone⟩ := cleanup_acts ctx
  refine ⟨first ++ before, ?_, ?_⟩
  · rw [whole, List.append_assoc]
  · simp [keeps, alone]

end

section
variable {path : String} {outcomes : List Outcome} {op : BlobOp} {ctx : SnapshotContext}

theorem Waits.answered (waits : Waits path outcomes op ctx) : Answered true path outcomes (.waiting op ctx) op.trail := by
  have kept : Act.freeContext ∈ op.trail →
      ¬ (Stage.waiting op ctx).Pending ∧ ∃ before, op.trail = before ++ [.freeContext] ∧ Act.freeContext ∉ before :=
    fun member => absurd member (trail_keeps op)
  by_cases late : op = .shallowCopy
  · subst late
    exact answered_success rfl (.inl waits.results) kept
  · have silent : answers op.trail = [] := by rw [answers_trail, if_neg late]
    refine ⟨by simp [silent], fun ended => absurd ⟨op, ctx, rfl⟩ ended, ?_, by simp [silent], kept⟩
    rw [silent, waits.results]
    refine iff_of_false (List.not_mem_nil) ?_
    rintro (all | ⟨noPath, all⟩)
    · have length := congrArg List.length all
      rw [List.length_replicate, List.length_replicate] at length
      cases op with
      | shallowCopy => exact late rfl
      | createSnapshot | createClone | openBlob | closeBlob | decoupleParent => cases length
    · have length := congrArg List.length all
      rw [List.length_replicate] at length
      cases op with
      | createClone => exact waits.named (by decide) noPath
      | createSnapshot | openBlob | closeBlob | decoupleParent | shallowCopy => cases length

theorem Ending.answered {bdev : UbiBdev} {outcome : Outcome} {stage : Stage} {acts : List Act} (waits : Waits path outcomes op ctx)
    (ending : Ending bdev ctx outcome op stage acts) : Answered true path (outcomes ++ [outcome]) stage (op.trail ++ acts) := by
  have quiet := (cleanup_acts ctx).1
  have closing (code : Int) : Act.freeContext ∈ op.trail ++ .answer code :: cleanupSnapshotContext ctx → ¬ Stage.cleaned.Pending ∧
      ∃ before, op.trail ++ .answer code :: cleanupSnapshotContext ctx = before ++ [.freeContext] ∧ Act.freeContext ∉ before := by
    intro _
    obtain ⟨before, whole, alone⟩ := @cleaned_last (op.trail ++ [.answer code]) ctx (by simp [trail_keeps])
    rw [List.append_assoc] at whole
    exact ⟨not_pending_cleaned, before, whole, alone⟩
  have told (early : op ≠ .shallowCopy) (code : Int) :
      answers (op.trail ++ .answer code :: cleanupSnapshotContext ctx) = [code] := by
    rw [answers_append, answers_trail, if_neg early, answers, List.filterMap_cons, ← answers, quiet]
    rfl
  cases ending with
  | failed early error =>
    have results : op.results outcome = [outcome.bserrno] := by
      cases op with
      | openBlob | decoupleParent => exact if_pos error
      | createSnapshot | createClone | closeBlob => rfl
      | shallowCopy => exact absurd rfl early
    exact answered_error error (told early _) (waits.results_snoc early (congrArg _ results)) (closing _)
  | kept fine noPath =>
    refine answered_success (told (by decide) 0) (.inr ⟨waits.kept.symm.trans noPath, ?_⟩) (closing 0)
    refine waits.results_snoc (by decide) ?_
    simp only [BlobOp.results, fine]
    rfl
  | writable fine error =>
    refine @answered_error _ _ _ _ _ 4 _ error (told (by decide) _) (waits.results_snoc (by decide) ?_) (closing _)
    simp only [BlobOp.results, fine, ne_eq, not_true_eq_false, ↓reduceIte]
    rfl
  | refused fine error =>
    refine @answered_error _ _ _ _ _ 7 _ error rfl (waits.results_snoc (by decide) ?_) ?_
    · simp only [BlobOp.results, fine, ne_eq, not_true_eq_false, ↓reduceIte]
      rfl
    · intro member
      cases List.mem_append.mp member with
      | inl member => exact absurd member (trail_keeps _)
      | inr member => simp at member
  | copied =>
    refine answered_success ?_ (.inl ?_) fun _ => ⟨not_pending_cleaned, cleaned_last ctx (trail_keeps _)⟩
    · rw [answers_append, quiet]
      rfl
    · rw [requestResults_ended true waits.length, waits.results]
      rfl

end

theorem Standing.answered {bdev : UbiBdev} {found : Bool} {path : String} {outcomes : List Outcome} {stage : Stage}
    {acts : List Act} (standing : Standing bdev found path outcomes stage acts) : Answered found path outcomes stage acts := by
  cases standing with
  | unknown path =>
    have error : -enoent ≠ 0 := by decide
    refine @answered_error _ _ _ _ _ 0 (-enoent) error rfl rfl fun member => ?_
    simp at member
  | waiting waits => exact waits.answered
  | ended waits status outcome final => exact (callback_ending final).answered waits

/-! ## Any number of requests on any names -/

/-- Whatever the requests of all the bdevs do, and whatever their steps give, each of them
is answered at most once, exactly once when nothing of it is pending, with 0 exactly when
every step succeeded and with the first error otherwise, and does nothing after its
context is freed. -/
theorem snapshot_answered_once (bdev : String → UbiBdev) (events : List (String × RequestEvent)) :
    Always (keyedStep fun name => trailStep (bdev name))
      (fun s => ∀ name id, id < (s name).requests.issued →
        Answered ((s name).found id) ((s name).path id) ((s name).outcomes id) ((s name).requests.stage id)
          ((s name).requests.acts id))
      (fun _ => .none) events := by
  have always := @always_keyed Trails RequestEvent String _ (fun name => trailStep (bdev name))
    (fun name s => s.Tracked (bdev name)) (fun name => tracked_step) (fun _ => .none) (fun name => tracked_none (bdev name)) events
  refine always.mono fun s tracked name id used => ?_
  exact ((tracked name).standing id used).answered

end BdevUbi.Snapshot
