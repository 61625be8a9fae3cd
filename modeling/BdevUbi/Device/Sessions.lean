import BdevUbi.Device.Writes

/-! Any number of snapshots at once, each with its own device and one channel on it.

A channel has its own descriptor, position and table, and the file is opened without
exclusivity and without truncation. Requests may name any paths, the same one included;
all transfers are full. `resolve` gives the file that a path names.
-/

set_option autoImplicit false

namespace BdevUbi.Device
open BdevUbi.Library RegularFile

/-- What a request copies to; the sizes are those of its bdev. -/
structure Target where
  C : ClusterSize
  B : BlockLength
  blockcnt : Nat
  path : String

def Target.dev (target : Target) : BsDevDelta :=
  bsDevDeltaCreate target.path target.blockcnt target.B.bytes target.C.bytes .write

structure Session where
  target : Target
  ch : BsDevDeltaIoChannel
  -- the channel is destroyed
  ended : Bool
  -- a write was answered with an error
  failed : Bool
  writes : List (Nat × List UInt8)
  -- another channel was open on the file at the start, or has been created on it since
  shared : Bool

structure Sessions where
  files : Nat → Option RegularFile
  -- in the order in which their channels were created
  sessions : List Session

inductive SessionEvent where
  | createChannel (target : Target)
  | write (id cluster : Nat) (payload : List UInt8)
  | destroyChannel (id : Nat)

section
variable (resolve : String → Nat)

def Session.on (inode : Nat) (session : Session) : Bool := resolve session.target.path = inode

/-- The sessions of a file learn of a new channel on it. -/
def Session.meet (inode : Nat) (session : Session) : Session :=
  { session with shared := session.shared || session.on resolve inode }

def sessionStep (s : Sessions) : SessionEvent → Option Sessions
  | .createChannel target =>
    match bsDevDeltaCreateChannelCb target.dev (s.files (resolve target.path)) .fine with
    | (some ch, some file) =>
      some
        { files := Function.update s.files (resolve target.path) (some file)
          sessions := s.sessions.map (Session.meet resolve (resolve target.path)) ++
            [⟨target, ch, false, false, [], s.sessions.any fun other => other.on resolve (resolve target.path) && !other.ended⟩] }
    | _ => none
  | .write id cluster payload =>
    match s.sessions[id]? with
    | some session =>
      match session.ended, s.files (resolve session.target.path) with
      | false, some file =>
        -- a whole cluster, for which the offset range has room
        if payload.length = session.target.C.bytes ∧ session.ch.position + session.target.C.bytes ≤ offsetLimit then
          (bsDevDeltaWrite session.target.dev session.ch file (cluster * clusterBlocks session.target.C session.target.B)
            (clusterBlocks session.target.C session.target.B) payload .fine).map fun (status, ch', file') =>
            { files := Function.update s.files (resolve session.target.path) (some file')
              sessions := s.sessions.set id
                { session with
                  ch := ch'
                  failed := session.failed || status != 0
                  writes := session.writes ++ [(cluster, payload)] } }
        else none
      | _, _ => none
    | none => none
  | .destroyChannel id =>
    match s.sessions[id]? with
    | some session =>
      match session.ended, s.files (resolve session.target.path) with
      | false, some file =>
        some
          { files := Function.update s.files (resolve session.target.path)
              (some (bsDevDeltaDestroyChannelCb session.target.dev session.ch file .fine))
            sessions := s.sessions.set id { session with ended := true } }
      | _, _ => none
    | none => none

end

/-- The file is a table and the last copy of each cluster that was written, and no other. -/
def DecodesTo (C : ClusterSize) (stored : Option RegularFile) (writes : List (Nat × List UInt8)) : Prop :=
  ∃ file map, stored = some file ∧ ubiReadClusterMap (some file) .full .zero = some map ∧
    ∀ cluster,
      match lastPayload writes cluster with
      | none => ¬ map.Mapped cluster
      | some data => data.length = C.bytes ∧ map.Mapped cluster ∧ file.Holds (map.start cluster) data

/-- The snapshot ended without an error. -/
def Session.Ended (session : Session) : Prop := session.ended = true ∧ session.failed = false

/-- Every finished file decodes to what its own snapshot wrote. -/
def Sessions.Uncorrupted (resolve : String → Nat) (s : Sessions) : Prop :=
  ∀ (id : Nat) (session : Session), s.sessions[id]? = some session → session.Ended →
    DecodesTo session.target.C (s.files (resolve session.target.path)) session.writes

/-- The same for the snapshots that had their file to themselves. -/
def Sessions.UnsharedUncorrupted (resolve : String → Nat) (s : Sessions) : Prop :=
  ∀ (id : Nat) (session : Session), s.sessions[id]? = some session → session.Ended → session.shared = false →
    DecodesTo session.target.C (s.files (resolve session.target.path)) session.writes

/-! ## A snapshot alone on its file -/

/-- What a channel and its file have in common, while it is open and after. -/
def Session.Kept (session : Session) (stored : Option RegularFile) : Prop :=
  ∃ file, stored = some file ∧ Recorded session.target.C.bytes session.ch file session.writes ∧
    (session.ended = true → ubiReadClusterMap (some file) .full .zero = some session.ch.clusterMap)

/-- The snapshots that had their file to themselves are kept in it, and the others that
have been there are over. -/
def Sessions.Separate (resolve : String → Nat) (s : Sessions) : Prop :=
  ∀ (id : Nat) (session : Session), s.sessions[id]? = some session → session.shared = false →
    session.Kept (s.files (resolve session.target.path)) ∧
    ∀ (other : Nat) (session' : Session), s.sessions[other]? = some session' → other ≠ id →
      resolve session'.target.path = resolve session.target.path → session'.ended = true

section
variable {resolve : String → Nat} {s s' : Sessions}

theorem Session.Kept.decodes {session : Session} {stored : Option RegularFile} (kept : session.Kept stored)
    (ended : session.ended = true) : DecodesTo session.target.C stored session.writes := by
  obtain ⟨file, rfl, recorded, loaded⟩ := kept
  refine ⟨file, session.ch.clusterMap, rfl, loaded ended, ?_⟩
  intro cluster
  split
  · rename_i none
    rw [ClusterMap.mapped_iff_start, recorded.absent cluster none]
    exact fun present => present rfl
  · rename_i data found
    obtain ⟨whole, k, _, start, held⟩ := recorded.present cluster data found
    refine ⟨whole, ?_, by rw [start]; exact held⟩
    rw [ClusterMap.mapped_iff_start, start, mapBytes_eq]
    omega

/-- An event of one session on a file changes that session and that file only. -/
theorem Sessions.Separate.replace (separate : s.Separate resolve) {id : Nat} {session next : Session}
    (present : s.sessions[id]? = some session) (opened : session.ended = false) (same : next.target = session.target)
    (sharing : next.shared = session.shared) {file : RegularFile}
    (kept : session.shared = false → session.Kept (s.files (resolve session.target.path)) → next.Kept (some file)) :
    Sessions.Separate resolve
      { files := Function.update s.files (resolve session.target.path) (some file), sessions := s.sessions.set id next } := by
  have found : ∀ (other : Nat) (session' : Session), (s.sessions.set id next)[other]? = some session' →
      (other = id ∧ session' = next) ∨ (other ≠ id ∧ s.sessions[other]? = some session') := by
    intro other session' member
    rw [List.getElem?_set] at member
    split at member
    · rename_i here
      split at member
      · cases member
        exact Or.inl ⟨here.symm, rfl⟩
      · cases member
    · rename_i elsewhere
      exact Or.inr ⟨fun here => elsewhere here.symm, member⟩
  intro i current member unshared
  rcases found i current member with ⟨rfl, rfl⟩ | ⟨elsewhere, member⟩
  · obtain ⟨before, alone⟩ := separate i session present (by rw [← sharing]; exact unshared)
    rw [same]
    refine ⟨?_, ?_⟩
    · simp only [Function.update_self]
      exact kept (by rw [← sharing]; exact unshared) before
    · intro other session' member different
      rcases found other session' member with ⟨here, _⟩ | ⟨_, member⟩
      · exact absurd here different
      · exact alone other session' member different
  · obtain ⟨before, alone⟩ := separate i current member unshared
    -- the session is open, so a session that is alone is on another file
    have apart : resolve current.target.path ≠ resolve session.target.path := by
      intro together
      have finished := alone id session present (Ne.symm elsewhere) together.symm
      rw [opened] at finished
      cases finished
    refine ⟨?_, ?_⟩
    · simp only [Function.update_of_ne apart]
      exact before
    · intro other session' member different together
      rcases found other session' member with ⟨rfl, rfl⟩ | ⟨_, member⟩
      · rw [same] at together
        exact absurd together.symm apart
      · exact alone other session' member different together

theorem sessionStep_write {id cluster : Nat} {payload : List UInt8}
    (stepped : sessionStep resolve s (.write id cluster payload) = some s') :
    ∃ session file status ch' file', s.sessions[id]? = some session ∧ session.ended = false ∧
      s.files (resolve session.target.path) = some file ∧ payload.length = session.target.C.bytes ∧
      session.ch.position + session.target.C.bytes ≤ offsetLimit ∧
      bsDevDeltaWrite session.target.dev session.ch file (cluster * clusterBlocks session.target.C session.target.B)
        (clusterBlocks session.target.C session.target.B) payload .fine = some (status, ch', file') ∧
      s' =
        { files := Function.update s.files (resolve session.target.path) (some file')
          sessions := s.sessions.set id
            { session with
              ch := ch'
              failed := session.failed || status != 0
              writes := session.writes ++ [(cluster, payload)] } } := by
  simp only [sessionStep] at stepped
  split at stepped
  · rename_i session present
    split at stepped
    · rename_i file opened stored
      split at stepped
      · rename_i room
        obtain ⟨⟨status, ch', file'⟩, written, rfl⟩ := Option.map_eq_some_iff.mp stepped
        exact ⟨session, file, status, ch', file', present, opened, stored, room.1, room.2, written, rfl⟩
      · cases stepped
    · cases stepped
  · cases stepped

theorem sessionStep_destroy {id : Nat} (stepped : sessionStep resolve s (.destroyChannel id) = some s') :
    ∃ session file, s.sessions[id]? = some session ∧ session.ended = false ∧
      s.files (resolve session.target.path) = some file ∧
      s' =
        { files := Function.update s.files (resolve session.target.path)
            (some (bsDevDeltaDestroyChannelCb session.target.dev session.ch file .fine))
          sessions := s.sessions.set id { session with ended := true } } := by
  simp only [sessionStep] at stepped
  split at stepped
  · rename_i session present
    split at stepped
    · rename_i file opened stored
      cases stepped
      exact ⟨session, file, present, opened, stored, rfl⟩
    · cases stepped
  · cases stepped

/-- The writes of whole clusters inside the table are recorded, one after the other. -/
theorem Session.Kept.write {session : Session} {file file' : RegularFile} {cluster : Nat} {payload : List UInt8}
    {status : Int} {ch' : BsDevDeltaIoChannel} (kept : session.Kept (some file)) (opened : session.ended = false)
    (whole : payload.length = session.target.C.bytes) (room : session.ch.position + session.target.C.bytes ≤ offsetLimit)
    (written : bsDevDeltaWrite session.target.dev session.ch file
      (cluster * clusterBlocks session.target.C session.target.B) (clusterBlocks session.target.C session.target.B) payload
      .fine = some (status, ch', file')) (failed : Bool) :
    Session.Kept { session with ch := ch', failed := failed, writes := session.writes ++ [(cluster, payload)] }
      (some file') := by
  obtain ⟨_, ⟨rfl⟩, recorded, _⟩ := kept
  have inside : cluster < maxClusters := by
    by_contra outside
    have index : cluster * clusterBlocks session.target.C session.target.B / session.target.dev.clusterSize = cluster :=
      Nat.mul_div_cancel _ (clusterBlocks_pos _ _)
    have undefined := @bsDevDeltaWrite_outside session.target.dev session.ch file
      (cluster * clusterBlocks session.target.C session.target.B) (clusterBlocks session.target.C session.target.B) payload
      .fine rfl (Nat.mul_mod_left _ _) (by rw [index]; exact outside)
    cases undefined.symm.trans written
  have fits : mapBytes + (session.writes.length + 1) * session.target.C.bytes ≤ offsetLimit := by
    rw [Nat.succ_mul, ← Nat.add_assoc, ← recorded.position]
    exact room
  obtain ⟨_, _, _, again, after⟩ := @Recorded.write session.target.C session.target.B session.target.dev session.ch file rfl
    rfl session.writes recorded cluster inside payload whole fits
  cases written.symm.trans again
  refine ⟨file', rfl, after, ?_⟩
  intro ended
  rw [opened] at ended
  cases ended

theorem Session.Kept.destroy {session : Session} {file : RegularFile} (kept : session.Kept (some file)) :
    Session.Kept { session with ended := true }
      (some (bsDevDeltaDestroyChannelCb session.target.dev session.ch file .fine)) := by
  obtain ⟨_, ⟨rfl⟩, recorded, _⟩ := kept
  obtain ⟨loaded, after⟩ := Recorded.destroy (show session.target.dev.direction = .write from rfl) recorded
  exact ⟨_, rfl, after, fun _ => loaded⟩

/-- A new channel makes the older sessions of its file shared, and is alone on it only if
they are all over. -/
theorem Sessions.Separate.create (separate : s.Separate resolve) {target : Target}
    (stepped : sessionStep resolve s (.createChannel target) = some s') : s'.Separate resolve := by
  simp only [sessionStep, createChannelCb_fine (show target.dev.direction = .write from rfl), Option.some.injEq] at stepped
  subst stepped
  have found : ∀ (id : Nat) (session : Session), (s.sessions.map (Session.meet resolve (resolve target.path)) ++
      [⟨target, ⟨mapBytes, .zero, false⟩, false, false, [],
        s.sessions.any fun other => other.on resolve (resolve target.path) && !other.ended⟩])[id]? = some session →
      (∃ older, s.sessions[id]? = some older ∧ session = older.meet resolve (resolve target.path)) ∨
      (id = s.sessions.length ∧ session = ⟨target, ⟨mapBytes, .zero, false⟩, false, false, [],
        s.sessions.any fun other => other.on resolve (resolve target.path) && !other.ended⟩) := by
    intro id session member
    rw [List.getElem?_append] at member
    split at member
    · rw [List.getElem?_map] at member
      obtain ⟨older, present, rfl⟩ := Option.map_eq_some_iff.mp member
      exact Or.inl ⟨older, present, rfl⟩
    · rename_i past
      rw [List.length_map] at past member
      obtain ⟨rfl, position⟩ : session = _ ∧ id - s.sessions.length = 0 := by
        cases distance : id - s.sessions.length with
        | zero =>
          rw [distance] at member
          cases member
          exact ⟨rfl, rfl⟩
        | succ n =>
          rw [distance] at member
          cases member
      exact Or.inr ⟨by omega, rfl⟩
  intro id session member unshared
  rcases found id session member with ⟨older, present, rfl⟩ | ⟨rfl, rfl⟩
  · simp only [Session.meet, Session.on, Bool.or_eq_false_iff, decide_eq_false_iff_not] at unshared
    obtain ⟨before, apart⟩ := unshared
    obtain ⟨kept, alone⟩ := separate id older present before
    refine ⟨?_, ?_⟩
    · simp only [Session.meet, Function.update_of_ne apart]
      exact kept
    · intro other session' member different together
      rcases found other session' member with ⟨older', present', rfl⟩ | ⟨rfl, rfl⟩
      · exact alone other older' present' different together
      · exact absurd together.symm apart
  · refine ⟨?_, ?_⟩
    · simp only [Function.update_self]
      refine ⟨_, rfl, recorded_fresh _ _, ?_⟩
      intro ended
      cases ended
    · intro other session' member different together
      rcases found other session' member with ⟨older', present', rfl⟩ | ⟨same, _⟩
      · have finished := List.any_eq_false.mp unshared older' (List.mem_of_getElem? present')
        simp only [Session.meet] at together
        simpa [Session.on, together, Session.meet] using finished
      · exact absurd same different

end

theorem separate_sessions_step {resolve : String → Nat} (s : Sessions) (event : SessionEvent) (s' : Sessions)
    (separate : s.Separate resolve) (stepped : sessionStep resolve s event = some s') : s'.Separate resolve := by
  cases event with
  | createChannel target => exact separate.create stepped
  | write id cluster payload =>
    obtain ⟨session, file, status, ch', file', present, opened, stored, whole, room, written, rfl⟩ := sessionStep_write stepped
    apply separate.replace present opened
    · rfl
    · rfl
    · intro _ kept
      rw [stored] at kept
      exact kept.write opened whole room written _
  | destroyChannel id =>
    obtain ⟨session, file, present, opened, stored, rfl⟩ := sessionStep_destroy stepped
    apply separate.replace present opened
    · rfl
    · rfl
    · intro _ kept
      rw [stored] at kept
      exact kept.destroy

/-- Whatever other snapshots do at the same time, one that has its file to itself leaves
its own clusters in it, and they stay until the next channel is created on the file. -/
theorem unshared_snapshots_uncorrupted (resolve : String → Nat) (files : Nat → Option RegularFile)
    (events : List SessionEvent) :
    Always (sessionStep resolve) (Sessions.UnsharedUncorrupted resolve) ⟨files, []⟩ events := by
  have start : Sessions.Separate resolve ⟨files, []⟩ := by
    intro id session member
    cases member
  refine (always_of_invariant separate_sessions_step start events).mono ?_
  intro s separate id session present ended unshared
  exact (separate id session present unshared).1.decodes ended.1

/-! ## Two snapshots on one file -/

def pageTarget : Target := ⟨.page, .page, 1, "snapshot"⟩

/-- A session of one page, as far as the table is concerned. -/
def pageSession (ch : BsDevDeltaIoChannel) (ended : Bool) (writes : List (Nat × List UInt8)) (shared : Bool) : Session :=
  ⟨pageTarget, ch, ended, false, writes, shared⟩

section
variable {resolve : String → Nat} {files : Nat → Option RegularFile} {sessions : List Session}

theorem pageTarget_create :
    sessionStep resolve ⟨files, sessions⟩ (.createChannel pageTarget) = some
      { files := Function.update files (resolve "snapshot")
          (some (((files (resolve "snapshot")).getD .empty).write 0 (tableBytes ClusterMap.zero)))
        sessions := sessions.map (Session.meet resolve (resolve "snapshot")) ++
          [pageSession freshChannel false [] (sessions.any fun other => other.on resolve (resolve "snapshot") && !other.ended)] } := by
  simp only [sessionStep, createChannelCb_fine (show pageTarget.dev.direction = .write from rfl)]
  rfl

/-- The first page of a new channel is written behind the table and answered with 0. -/
theorem pageTarget_write {id : Nat} {shared : Bool} {file : RegularFile}
    (present : sessions[id]? = some (pageSession freshChannel false [] shared))
    (stored : files (resolve "snapshot") = some file) :
    ∃ ch, sessionStep resolve ⟨files, sessions⟩ (.write id 0 pageData) = some
      { files := Function.update files (resolve "snapshot") (some (file.write mapBytes pageData))
        sessions := sessions.set id (pageSession ch false [(0, pageData)] shared) } := by
  have whole : pageData.length = ClusterSize.page.bytes := List.length_replicate
  have fits : freshChannel.position + ClusterSize.page.bytes ≤ offsetLimit := by
    rw [freshChannel, mapBytes_eq, offsetLimit, ClusterSize.page]
    norm_num
  have small : ¬ (ClusterSize.page.bytes : Int).bmod (2 ^ 32) < 0 := by decide
  have written := @bsDevDeltaWrite_cluster .page .page pageTarget.dev freshChannel file rfl rfl 0 zero_lt_maxClusters
    pageData whole fits
  rw [if_neg small] at written
  refine ⟨{ freshChannel with
    clusterMap := Function.update freshChannel.clusterMap ⟨0, zero_lt_maxClusters⟩ (UInt64.ofNat mapBytes)
    position := mapBytes + ClusterSize.page.bytes }, ?_⟩
  have path : (pageSession freshChannel false [] shared).target.path = "snapshot" := rfl
  have room : pageData.length = (pageSession freshChannel false [] shared).target.C.bytes ∧
      (pageSession freshChannel false [] shared).ch.position + (pageSession freshChannel false [] shared).target.C.bytes ≤
        offsetLimit := ⟨whole, fits⟩
  simp only [sessionStep, present, path, stored, room, and_self, ↓reduceIte]
  simp only [pageSession] at written ⊢
  rw [show pageTarget.C = .page from rfl, show pageTarget.B = .page from rfl, written]
  rfl

theorem always_written {property : Sessions → Prop} {id : Nat} {shared : Bool} {file : RegularFile}
    {rest : List SessionEvent}
    (always : Always (sessionStep resolve) property ⟨files, sessions⟩ (.write id 0 pageData :: rest))
    (present : sessions[id]? = some (pageSession freshChannel false [] shared))
    (stored : files (resolve "snapshot") = some file) :
    ∃ ch, Always (sessionStep resolve) property
      ⟨Function.update files (resolve "snapshot") (some (file.write mapBytes pageData)),
        sessions.set id (pageSession ch false [(0, pageData)] shared)⟩ rest := by
  obtain ⟨ch, written⟩ := pageTarget_write present stored
  exact ⟨ch, always.2 _ written⟩

theorem pageTarget_destroy {id : Nat} {ch : BsDevDeltaIoChannel} {writes : List (Nat × List UInt8)} {shared : Bool}
    {file : RegularFile} (present : sessions[id]? = some (pageSession ch false writes shared))
    (stored : files (resolve "snapshot") = some file) :
    sessionStep resolve ⟨files, sessions⟩ (.destroyChannel id) = some
      { files := Function.update files (resolve "snapshot") (some (file.write 0 (tableBytes ch.clusterMap)))
        sessions := sessions.set id (pageSession ch true writes shared) } := by
  have path : (pageSession ch false writes shared).target.path = "snapshot" := rfl
  have finished := destroyChannelCb_fine (show pageTarget.dev.direction = .write from rfl) ch file
  simp only [sessionStep, present, path, stored]
  simp only [pageSession] at finished ⊢
  rw [finished]

/-- A file whose last table was a new channel's has no cluster. -/
theorem not_decodes_erased (file : RegularFile) {writes : List (Nat × List UInt8)} {cluster : Nat} {data : List UInt8}
    (found : lastPayload writes cluster = some data) :
    ¬ DecodesTo .page (some (file.write 0 (tableBytes ClusterMap.zero))) writes := by
  rintro ⟨_, map, ⟨rfl⟩, loaded, exactly⟩
  rw [readClusterMap_holds (write_table_holds file ClusterMap.zero)] at loaded
  cases loaded
  have wrong := exactly cluster
  rw [found] at wrong
  exact ClusterMap.not_mapped_zero cluster wrong.2.1

end

/-- A request that is repeated while the first one is still copying, and one that is
repeated after it: the second snapshot is empty, and so is the file of the first. -/
theorem snapshots_corrupt_each_other :
    ¬ Always (sessionStep fun _ => 0) (Sessions.Uncorrupted fun _ => 0) ⟨fun _ => none, []⟩
      [.createChannel pageTarget, .createChannel pageTarget, .write 0 0 pageData, .destroyChannel 0, .destroyChannel 1] ∧
    ¬ Always (sessionStep fun _ => 0) (Sessions.Uncorrupted fun _ => 0) ⟨fun _ => none, []⟩
      [.createChannel pageTarget, .write 0 0 pageData, .destroyChannel 0, .createChannel pageTarget, .destroyChannel 1] := by
  constructor
  · intro always
    have first := always.2 _ pageTarget_create
    have second := first.2 _ pageTarget_create
    obtain ⟨ch, third⟩ := always_written second rfl rfl
    have fourth := third.2 _ (pageTarget_destroy rfl rfl)
    have last := fourth.2 _ (@pageTarget_destroy (fun _ => 0) _ _ 1 freshChannel [] true _ rfl rfl)
    exact not_decodes_erased _ (lastPayload_snoc [] 0 0 pageData) (last 0 (pageSession ch true [(0, pageData)] true) rfl ⟨rfl, rfl⟩)
  · intro always
    have first := always.2 _ pageTarget_create
    obtain ⟨ch, second⟩ := always_written first rfl rfl
    have third := second.2 _ (pageTarget_destroy rfl rfl)
    have fourth := third.2 _ pageTarget_create
    have last := fourth.2 _ (@pageTarget_destroy (fun _ => 0) _ _ 1 freshChannel [] false _ rfl rfl)
    exact not_decodes_erased _ (lastPayload_snoc [] 0 0 pageData) (last 0 (pageSession ch true [(0, pageData)] true) rfl ⟨rfl, rfl⟩)

end BdevUbi.Device
