import BdevUbi.Bdev.Create

/-! Bdevs made one after the other on one base bdev.

A blobstore claims its base bdev until its unload has completed. `ubi_destruct` starts the
close and the unload and returns 0, which tells the bdev layer that the destruction is
over: the client hears of the delete at once. The completions come inside the call or
later, in any order with everything else that happens to the bdev, and with any result:
an unload fails while a blob is open. A create that fails unloads its blobstore in the same
way, and the next create may come before that is done.
-/

set_option autoImplicit false

namespace BdevUbi.Bdev
open BdevUbi.Library BdevUbi.Device BdevUbi.Snapshot

def eperm : Int := 1

structure Recreation where
  -- the record of the bdev that was made last
  life : Lifetime
  published : Bool
  -- a blobstore has claimed the base bdev
  held : Bool
  -- the claim is that of a create that failed
  stale : Bool
  -- for each delete that was answered with 0: was the base bdev still held?
  reports : List Bool
  -- a create failed because of the claim of a bdev that is deleted
  refused : Bool

def Recreation.initial : Recreation :=
  ⟨{ Lifetime.created false false with destructed := true }, false, false, false, [], false⟩

inductive RecreateEvent where
  | create (opts : UbiBdevOpts) (o : CreateOutcomes)
  -- the results of the close and of the unload, if they complete before the call returns
  | destruct (close unload : Option Int)
  | life (event : LifetimeEvent)

/-- A base bdev that is claimed can be opened, and not be loaded. -/
def CreateOutcomes.on (o : CreateOutcomes) (held : Bool) : CreateOutcomes := if held then { o with bsInit := -eperm } else o

/-- Completions that come before `ubi_destruct` returns. -/
def Lifetime.settle (s : Lifetime) : Option Int → Option Int → Lifetime
  | none, _ => s
  | some bserrno, none => ubiDestructBlobCloseCb { s with closing := false } bserrno
  | some bserrno, some bserrno' =>
    ubiDestructBsUnloadCb { ubiDestructBlobCloseCb { s with closing := false } bserrno with unloading := false } bserrno'

def recreateStep (bdev : UbiBdev) (s : Recreation) : RecreateEvent → Option Recreation
  | .create opts o =>
    -- the delete of the last bdev was answered with 0
    if s.published then none
    else
      let made := bdevUbiCreate opts (o.on s.held)
      some { s with
        life := if made.life.blobstore then made.life else s.life
        published := made.published
        held := s.held || made.life.blobstore
        stale := if made.life.blobstore then !made.published else s.stale
        refused := s.refused || s.held && !s.stale && o.completes opts.formatBdev .createBsDev }
  | .destruct close unload =>
    if s.published ∧ s.life.deleting ∧ ¬ s.life.destructed then
      let held := s.held && !(close.isSome && unload == some 0)
      some { s with
        life := (ubiDestruct s.life).settle close unload
        published := false
        held := held
        stale := false
        -- the callback of the delete: `ubi_destruct` has returned 0
        reports := s.reports ++ [held] }
    else none
  | .life event =>
    match event, s.published with
    | .destruct, _ => none
    | .delete, false => none
    | _, _ =>
      (lifetimeStep bdev s.life event).map fun life =>
        { s with life := life, held := s.held && !(event == .unloaded 0) }

/-- A delete that is answered with 0 has freed the base bdev, and no create finds it claimed
by a bdev that is deleted. -/
structure Recreation.FreesBase (s : Recreation) : Prop where
  reports : true ∉ s.reports
  refused : s.refused = false

/-- The close and the unload are over, without an error, when `ubi_destruct` returns. -/
def CompletesInside (s : Recreation) : RecreateEvent → Prop
  | .destruct close unload =>
    s.published = true ∧ s.life.deleting = true ∧ s.life.destructed = false → close.isSome = true ∧ unload = some 0
  | _ => True

/-- While a bdev is there its blobstore is loaded, and before the next one is made the base
bdev can only be held by a create that failed, or if a delete was answered too early. -/
structure Recreation.Tracked (s : Recreation) : Prop where
  published : s.published = true → s.held = true ∧ s.life.closing = false ∧ s.life.unloading = false
  early : s.published = false → s.held = true → s.stale = true ∨ true ∈ s.reports

section
variable {bdev : UbiBdev} {s s' : Recreation}

theorem recreateStep_life {event : LifetimeEvent} (stepped : recreateStep bdev s (.life event) = some s') :
    event ≠ .destruct ∧ ∃ life, lifetimeStep bdev s.life event = some life ∧
      s' = { s with life := life, held := s.held && !(event == .unloaded 0) } := by
  simp only [recreateStep] at stepped
  split at stepped
  · cases stepped
  · cases stepped
  · rename_i other _
    obtain ⟨life, moved, rfl⟩ := Option.map_eq_some_iff.mp stepped
    exact ⟨other, life, moved, rfl⟩

/-- Before a destruction there is nothing to close and nothing to unload. -/
theorem lifetimeStep_calm {life life' : Lifetime} {event : LifetimeEvent} (other : event ≠ .destruct)
    (calm : life.closing = false ∧ life.unloading = false) (stepped : lifetimeStep bdev life event = some life') :
    (life'.closing = false ∧ life'.unloading = false) ∧ (event == .unloaded 0) = false := by
  cases event with
  | destruct => exact absurd rfl other
  | delete =>
    cases lifetimeStep_delete stepped
    exact ⟨calm, rfl⟩
  | closed bserrno =>
    cases calm.1.symm.trans (lifetimeStep_closed stepped).1
  | unloaded bserrno =>
    cases calm.2.symm.trans (lifetimeStep_unloaded stepped).1
  | unregistered =>
    obtain ⟨_, rfl⟩ := lifetimeStep_unregistered stepped
    exact ⟨calm, rfl⟩
  | createChannel =>
    cases lifetimeStep_createChannel stepped
    exact ⟨calm, rfl⟩
  | destroyChannel =>
    cases lifetimeStep_destroyChannel stepped
    exact ⟨calm, rfl⟩
  | request event =>
    refine ⟨?_, rfl⟩
    simp only [lifetimeStep] at stepped
    split at stepped
    · cases stepped
    · obtain ⟨requests, _, rfl⟩ := Option.map_eq_some_iff.mp stepped
      -- a callback notes at most that it ran
      dsimp only
      split
      · exact calm
      · exact calm

/-- A bdev that is published has a blob and a blobstore, and nothing has happened to it. -/
theorem published_life (opts : UbiBdevOpts) (o : CreateOutcomes) (published : (bdevUbiCreate opts o).published = true) :
    (bdevUbiCreate opts o).life = .created true true := by
  obtain ⟨status, made, same, arrived⟩ := bdevUbiCreate_arrives opts o
  rw [same] at published ⊢
  have result := arrived.published.mp published
  by_cases fine : status = 0
  · rw [if_pos fine] at result
    have blob := arrived.blob.mpr fine
    have life := arrived.life
    rw [blob, (arrived.blobstore blob).1] at life
    simp [ubiFinishCreate, Creation.publish, fine, result, Creation.log, life]
  · rw [if_neg fine] at result
    exact absurd result fine

theorem recreateStep_create {opts : UbiBdevOpts} {o : CreateOutcomes}
    (stepped : recreateStep bdev s (.create opts o) = some s') :
    s.published = false ∧
      s' = { s with
        life := if (bdevUbiCreate opts (o.on s.held)).life.blobstore then (bdevUbiCreate opts (o.on s.held)).life else s.life
        published := (bdevUbiCreate opts (o.on s.held)).published
        held := s.held || (bdevUbiCreate opts (o.on s.held)).life.blobstore
        stale :=
          if (bdevUbiCreate opts (o.on s.held)).life.blobstore then !(bdevUbiCreate opts (o.on s.held)).published else s.stale
        refused := s.refused || s.held && !s.stale && o.completes opts.formatBdev .createBsDev } := by
  simp only [recreateStep] at stepped
  split at stepped
  · cases stepped
  · rename_i gone
    cases stepped
    exact ⟨Bool.eq_false_iff.mpr gone, rfl⟩

theorem recreateStep_destruct {close unload : Option Int}
    (stepped : recreateStep bdev s (.destruct close unload) = some s') :
    (s.published = true ∧ s.life.deleting = true ∧ s.life.destructed = false) ∧
      s' = { s with
        life := (ubiDestruct s.life).settle close unload
        published := false
        held := s.held && !(close.isSome && unload == some 0)
        stale := false
        reports := s.reports ++ [s.held && !(close.isSome && unload == some 0)] } := by
  simp only [recreateStep] at stepped
  split at stepped
  · rename_i deleted
    rw [Bool.not_eq_true] at deleted
    cases stepped
    exact ⟨deleted, rfl⟩
  · cases stepped

theorem Recreation.Tracked.create (tracked : s.Tracked) (opts : UbiBdevOpts) (o : CreateOutcomes)
    (stepped : recreateStep bdev s (.create opts o) = some s') : s'.Tracked := by
  obtain ⟨gone, rfl⟩ := recreateStep_create stepped
  refine ⟨?_, ?_⟩
  · intro published
    have life := published_life opts (o.on s.held) published
    simp only [life, Lifetime.created, ↓reduceIte, Bool.or_true, and_self]
  · intro failed held
    simp only at failed held ⊢
    -- the claim is that of the failed create itself, or the one that was there before
    cases loaded : (bdevUbiCreate opts (o.on s.held)).life.blobstore with
    | true => simp only [↓reduceIte, failed, Bool.not_false, true_or]
    | false =>
      rw [loaded, Bool.or_false] at held
      simpa only [Bool.false_eq_true, ↓reduceIte] using tracked.early gone held

theorem Recreation.Tracked.destruct (close unload : Option Int)
    (stepped : recreateStep bdev s (.destruct close unload) = some s') : s'.Tracked := by
  obtain ⟨_, rfl⟩ := recreateStep_destruct stepped
  refine ⟨?_, ?_⟩
  · intro published
    cases published
  · intro _ held
    exact .inr (List.mem_append_right _ (List.mem_singleton.mpr held.symm))

theorem Recreation.Tracked.life (tracked : s.Tracked) (event : LifetimeEvent)
    (stepped : recreateStep bdev s (.life event) = some s') : s'.Tracked := by
  obtain ⟨other, life, moved, rfl⟩ := recreateStep_life stepped
  refine ⟨?_, ?_⟩
  · intro published
    obtain ⟨held, calm⟩ := tracked.published published
    obtain ⟨calm', busy⟩ := lifetimeStep_calm other calm moved
    simp only [held, busy, Bool.not_false, Bool.and_true, true_and]
    exact calm'
  · intro gone held
    exact tracked.early gone (Bool.and_eq_true_iff.mp held).1

end

theorem tracked_step {bdev : UbiBdev} (s : Recreation) (event : RecreateEvent) (s' : Recreation) (tracked : s.Tracked)
    (stepped : recreateStep bdev s event = some s') : s'.Tracked := by
  cases event with
  | create opts o => exact tracked.create opts o stepped
  | destruct close unload => exact Recreation.Tracked.destruct close unload stepped
  | life event => exact tracked.life event stepped

/-- A step keeps the promise exactly if it is no early answer to a delete. -/
theorem freesBase_step {bdev : UbiBdev} (s : Recreation) (event : RecreateEvent) (s' : Recreation) (tracked : s.Tracked)
    (frees : s.FreesBase) (stepped : recreateStep bdev s event = some s') :
    s'.FreesBase ↔ CompletesInside s event := by
  cases event with
  | create opts o =>
    obtain ⟨gone, rfl⟩ := recreateStep_create stepped
    have free : (s.held && !s.stale) = false := by
      cases held : s.held with
      | false => rfl
      | true =>
        have stale := (tracked.early gone held).resolve_right frees.reports
        rw [stale]
        rfl
    refine ⟨fun _ => trivial, fun _ => ⟨frees.reports, ?_⟩⟩
    simp only [frees.refused, free, Bool.false_and, Bool.or_false]
  | destruct close unload =>
    obtain ⟨deleted, rfl⟩ := recreateStep_destruct stepped
    have held := (tracked.published deleted.1).1
    have answer : (s.held && !(close.isSome && unload == some 0)) = false ↔ close.isSome = true ∧ unload = some 0 := by
      simp [held]
    constructor
    · intro frees' _
      rw [← answer, ← Bool.not_eq_true]
      intro early
      exact frees'.reports (List.mem_append_right _ (List.mem_singleton.mpr early.symm))
    · intro inside
      refine ⟨?_, frees.refused⟩
      intro early
      rcases List.mem_append.mp early with old | new
      · exact frees.reports old
      · rw [answer.mpr (inside deleted)] at new
        cases List.mem_singleton.mp new
  | life event =>
    obtain ⟨_, life, _, rfl⟩ := recreateStep_life stepped
    exact ⟨fun _ => trivial, fun _ => ⟨frees.reports, frees.refused⟩⟩

theorem completesInside_disabled {bdev : UbiBdev} (s : Recreation) (event : RecreateEvent)
    (stuck : recreateStep bdev s event = none) : CompletesInside s event := by
  cases event with
  | create opts o => trivial
  | life event => trivial
  | destruct close unload =>
    rintro ⟨published, deleting, alive⟩
    simp [recreateStep, published, deleting, alive] at stuck

/-- In a run of creates and deletes every delete that is answered with 0 has freed the
base bdev, and no create finds it claimed, exactly if at each delete the blob is closed
and the blobstore unloaded before `ubi_destruct` returns. -/
theorem delete_frees_base_iff (bdev : UbiBdev) (events : List RecreateEvent) :
    Always (recreateStep bdev) Recreation.FreesBase .initial events ↔
      Guarded (recreateStep bdev) CompletesInside .initial events := by
  have tracked : Recreation.initial.Tracked := by
    refine ⟨?_, ?_⟩
    · intro published
      cases published
    · intro _ held
      cases held
  have start : Recreation.initial.FreesBase := ⟨List.not_mem_nil, rfl⟩
  exact always_iff_guarded tracked_step freesBase_step (fun s event _ => completesInside_disabled s event) tracked start events

def recreateOpts : UbiBdevOpts := ⟨"image", none, true⟩

/-- The close is still pending when the delete is answered: the base bdev is held, and the
next create fails. -/
theorem delete_answers_early :
    ¬ Always (recreateStep smallBdev) Recreation.FreesBase .initial
      [.create recreateOpts .fine, .life .delete, .destruct none none] ∧
    (run (recreateStep smallBdev) .initial
      [.create recreateOpts .fine, .life .delete, .destruct none none, .create recreateOpts .fine]).map
        (fun s => (s.published, s.refused)) = some (false, true) := by
  refine ⟨?_, rfl⟩
  intro always
  have frees : true ∉ [true] := (always.final rfl).reports
  exact frees (List.mem_singleton.mpr rfl)

end BdevUbi.Bdev
