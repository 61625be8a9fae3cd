import BdevUbi.Device.Uring
import BdevUbi.Library.Transitions

/-! One channel's ring: requests, the kernel and the poller.

An entry of the ring is named by the request whose `cb_args` it carries. The
completion callbacks may issue requests of their own, so the poller's loop is
cut at its iterations and everything else may happen in between.
-/

set_option autoImplicit false

namespace BdevUbi.Device
open BdevUbi.Library

inductive ReadEntry where
  | read (lba lbaCount : Nat)
  | readv (iov : List (List UInt8)) (lba : Nat)
  | readvExt (iov : List (List UInt8)) (lba : Nat)
  deriving DecidableEq, Repr

def ReadEntry.submission (dev : BsDevUring) : ReadEntry → Option Submission
  | .read lba lbaCount => bsDevUringRead dev lba lbaCount
  | .readv iov lba => bsDevUringReadv dev iov lba
  | .readvExt iov lba => bsDevUringReadvExt dev iov lba

structure Ring where
  -- entries taken with `io_uring_get_sqe` and not yet handed over
  sq : List Nat
  inflight : List Nat
  cq : List (Nat × Int)
  -- completions the running `bs_dev_uring_poll` has still to walk through
  peeked : Nat
  issued : Nat
  -- every status each request's `cb_fn` was called with, oldest first
  called : Nat → List Int

namespace Ring

def fresh : Ring := ⟨[], [], [], 0, 0, fun _ => []⟩

def call (ring : Ring) (id : Nat) (status : Int) : Ring :=
  { ring with called := Function.update ring.called id (ring.called id ++ [status]) }

/-- The common end of the entry points. An error of `io_uring_submit` leaves the queue
as it is, and a success hands over all of it. -/
def request (ring : Ring) (submission : Submission) (submit : Int) : Ring :=
  let ring' := { ring with issued := ring.issued + 1 }
  match submission with
  | .complete status => ring'.call ring.issued status
  | .queue _ =>
    if submit < 0 then ({ ring' with sq := ring.sq ++ [ring.issued] }).call ring.issued (-eio)
    else { ring' with sq := [], inflight := ring.inflight ++ (ring.sq ++ [ring.issued]) }

/-- `io_uring_peek_batch_cqe` of at most 64 completions. -/
def peek (ring : Ring) : Ring := { ring with peeked := min 64 ring.cq.length }

/-- One iteration of the poller's loop: the callback, then `io_uring_cqe_seen`. -/
def reap (ring : Ring) : Option Ring :=
  match ring.peeked, ring.cq with
  | n + 1, (id, res) :: rest => some (({ ring with cq := rest, peeked := n }).call id (bsDevUringPollStatus res))
  | _, _ => none

end Ring

inductive RingEvent where
  | request (entry : ReadEntry) (submit : Int)
  | complete (id : Nat) (res : Int)
  | peek
  | reap
  deriving DecidableEq, Repr

def ringStep (dev : BsDevUring) (ring : Ring) : RingEvent → Option Ring
  | .request entry submit => (entry.submission dev).map fun submission => ring.request submission submit
  | .complete id res =>
    if id ∈ ring.inflight then
      some { ring with inflight := ring.inflight.erase id, cq := ring.cq ++ [(id, res)] }
    else none
  | .peek => if ring.peeked = 0 then some ring.peek else none
  | .reap => ring.reap

/-! ## Who still owes a call -/

/-- The completions that will still reach a request's callback. -/
def Ring.owed (ring : Ring) (id : Nat) : Nat := ring.inflight.count id + (ring.cq.map Prod.fst).count id

/-- Every request so far has one call, made or owed. -/
def Ring.Settled (ring : Ring) : Prop :=
  ∀ id, (ring.called id).length + ring.owed id = if id < ring.issued then 1 else 0

/-- No callback runs twice, and with nothing left in the ring each has run once. -/
def Ring.CompletedOnce (ring : Ring) : Prop :=
  (∀ id, (ring.called id).length ≤ 1) ∧
  (ring.sq = [] → ring.inflight = [] → ring.cq = [] → ∀ id, id < ring.issued → (ring.called id).length = 1)

/-- A submit that succeeds finds no entry of an earlier failed one in the queue. -/
def NoStaleEntry (ring : Ring) : RingEvent → Prop
  | .request _ submit => 0 ≤ submit → ring.sq = []
  | _ => True

@[simp] theorem Ring.length_called_call (ring : Ring) (id other : Nat) (status : Int) :
    ((ring.call id status).called other).length =
      (ring.called other).length + if other = id then 1 else 0 := by
  unfold Ring.call
  by_cases same : other = id
  · subst same
    simp
  · simp [same]

@[simp] theorem Ring.owed_call (ring : Ring) (id other : Nat) (status : Int) :
    (ring.call id status).owed other = ring.owed other := rfl

theorem count_singleton (id other : Nat) : [id].count other = if other = id then 1 else 0 := by
  by_cases same : other = id
  · simp [same]
  · simp [same, Ne.symm same]

theorem count_erase_mem {entries : List Nat} {id : Nat} (member : id ∈ entries) (other : Nat) :
    (entries.erase id).count other + (if other = id then 1 else 0) = entries.count other := by
  by_cases same : other = id
  · subst same
    have positive := List.count_pos_iff.mpr member
    rw [List.count_erase_self, if_pos rfl]
    omega
  · rw [List.count_erase_of_ne same, if_neg same, Nat.add_zero]

theorem Ring.Settled.request {ring : Ring} (settled : ring.Settled) (submission : Submission) {submit : Int}
    (guard : 0 ≤ submit → ring.sq = []) : (ring.request submission submit).Settled := by
  intro id
  have before := settled id
  have counted : (ring.request submission submit).issued = ring.issued + 1 := by
    cases submission with
    | complete status => rfl
    | queue sqe =>
      simp only [Ring.request]
      split <;> rfl
  have bound : (if id < ring.issued + 1 then 1 else 0) =
      (if id < ring.issued then 1 else 0) + (if id = ring.issued then 1 else 0) := by
    split <;> split <;> split <;> omega
  rw [counted, bound, ← before]
  cases submission with
  | complete status =>
    simp only [Ring.request, Ring.length_called_call, Ring.owed_call]
    simp only [Ring.owed]
    omega
  | queue sqe =>
    by_cases refused : submit < 0
    · simp only [Ring.request, refused, ↓reduceIte, Ring.length_called_call, Ring.owed_call]
      simp only [Ring.owed]
      omega
    · simp only [Ring.request, refused, ↓reduceIte, guard (by omega), List.nil_append]
      simp only [Ring.owed, List.count_append, count_singleton]
      omega

theorem Ring.Settled.complete {ring : Ring} (settled : ring.Settled) {id : Nat} (res : Int) (member : id ∈ ring.inflight) :
    Ring.Settled { ring with inflight := ring.inflight.erase id, cq := ring.cq ++ [(id, res)] } := by
  intro other
  have before := settled other
  have erased := count_erase_mem member other
  simp only [Ring.owed, List.map_append, List.map_cons, List.map_nil, List.count_append, count_singleton] at before ⊢
  omega

theorem Ring.Settled.reap {ring ring' : Ring} (settled : ring.Settled) (reaped : ring.reap = some ring') :
    ring'.Settled := by
  unfold Ring.reap at reaped
  split at reaped
  · rename_i n id res rest _ queue
    cases reaped
    intro other
    refine Eq.trans ?_ (settled other)
    have paid : ring.owed other = ring.inflight.count other + (rest.map Prod.fst).count other + [id].count other := by
      rw [Ring.owed, queue, List.map_cons, ← List.singleton_append, List.count_append]
      exact Nat.add_left_comm _ _ _ |>.trans (Nat.add_comm _ _)
    rw [paid, count_singleton, Ring.length_called_call, Ring.owed_call]
    simp only [Ring.owed]
    omega
  · cases reaped

theorem settled_step {dev : BsDevUring} (ring : Ring) (event : RingEvent) (ring' : Ring) (settled : ring.Settled)
    (guard : NoStaleEntry ring event) (stepped : ringStep dev ring event = some ring') : ring'.Settled := by
  cases event with
  | request entry submit =>
    obtain ⟨submission, _, rfl⟩ := Option.map_eq_some_iff.mp stepped
    exact settled.request submission guard
  | complete id res =>
    simp only [ringStep] at stepped
    split at stepped
    · rename_i member
      cases stepped
      exact settled.complete res member
    · cases stepped
  | peek =>
    simp only [ringStep] at stepped
    split at stepped
    · cases stepped
      exact settled
    · cases stepped
  | reap => exact settled.reap stepped

theorem Ring.Settled.completedOnce {ring : Ring} (settled : ring.Settled) : ring.CompletedOnce := by
  refine ⟨?_, ?_⟩
  · intro id
    have once := settled id
    split at once <;> omega
  · intro _ inflight cq id below
    have once := settled id
    simpa only [Ring.owed, inflight, cq, List.map_nil, List.count_nil, Nat.add_zero, below, ↓reduceIte] using once

/-- As long as no successful submit takes along an entry that a failed one left behind,
every request is completed once, in whatever order the kernel and the poller go. -/
theorem each_read_completed_once (dev : BsDevUring) (events : List RingEvent)
    (guarded : Guarded (ringStep dev) NoStaleEntry .fresh events) :
    Always (ringStep dev) Ring.CompletedOnce .fresh events := by
  have start : Ring.fresh.Settled := by
    intro id
    simp [Ring.fresh, Ring.owed]
  exact (always_of_guarded settled_step start guarded).mono fun _ => Ring.Settled.completedOnce

/-- A device over one page of image, for runs that are written out. -/
def pageDev : BsDevUring := .build 4096 .zero "image" "" BlockLength.page.bytes ClusterSize.page.bytes true

theorem pageDev_read : (ReadEntry.read 0 1).submission pageDev = some (.queue ⟨.image, 4096, 0⟩) := by
  have fits := BsDevUring.build_fits 4096 .zero "image" "" .page .page true
  have inside : 0 / clusterBlocks .page .page < maxClusters := by
    rw [Nat.zero_div, maxClusters_eq]
    norm_num
  have opts := setIoOpts_unmapped fits inside (ClusterMap.not_mapped_zero _)
  rw [ReadEntry.submission, bsDevUringRead, if_neg (by decide), pageDev, opts]
  rfl

def oneReadEvents : List RingEvent := [.request (.read 0 1) 1, .complete 0 4096, .peek, .reap]

theorem one_read_completed_once :
    (run (ringStep pageDev) .fresh oneReadEvents).map (fun ring => ring.called 0) = some [0] ∧
    Always (ringStep pageDev) Ring.CompletedOnce .fresh oneReadEvents := by
  constructor
  · simp only [oneReadEvents, run, ringStep, pageDev_read, Option.map_some, Option.bind_some]
    rfl
  · apply each_read_completed_once
    exact ⟨fun _ => rfl, fun _ _ => ⟨trivial, fun _ _ => ⟨trivial, fun _ _ => ⟨trivial, fun _ _ => trivial⟩⟩⟩⟩

/-- The first submit fails with EBUSY, the second hands both entries over. -/
def staleEntryEvents : List RingEvent :=
  [.request (.read 0 1) (-16), .request (.read 0 1) 2, .complete 0 4096, .peek, .reap]

theorem read_completed_twice :
    (run (ringStep pageDev) .fresh staleEntryEvents).map (fun ring => ring.called 0) = some [-5, 0] ∧
    ¬ Always (ringStep pageDev) Ring.CompletedOnce .fresh staleEntryEvents := by
  have twice : (run (ringStep pageDev) .fresh staleEntryEvents).map (fun ring => ring.called 0) = some [-5, 0] := by
    simp only [staleEntryEvents, run, ringStep, pageDev_read, Option.map_some, Option.bind_some]
    rfl
  refine ⟨twice, ?_⟩
  intro always
  obtain ⟨final, ran, calls⟩ := Option.map_eq_some_iff.mp twice
  have once := (always.final ran).1 0
  rw [calls] at once
  exact absurd once (by decide)

end BdevUbi.Device
