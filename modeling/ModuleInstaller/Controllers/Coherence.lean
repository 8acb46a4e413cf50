import ModuleInstaller.Controllers.System
/-
**What every reachable state of the controller satisfies.**

Five facts, maintained together because each step needs several of them:

* `Holds (Precedes · current)` — every object a goroutine holds (the cache, `Reconcile`'s read,
  each round's source and the object its aggregator read) is a version the stored object
  follows; so a write the API server accepts was computed from the object it replaces;
* `Marked` — an object in state `Deleting` carries a deletion timestamp, stored or held;
* `Unguarded` — until the finalizer is on the object or its deletion is requested, the state is
  empty and no round was dispatched;
* `Round.Dispatched` — what `sendJobToInstallChannel` fixed for each round, and that its
  aggregator leaves the loop only with all `chartCount` responses;
* `Explained` — which goroutine made each write of the log, and what it wrote.

* **`Reachable.invariant`** — every reachable state satisfies all five.
-/

namespace ModuleInstaller.Controllers

open Types Util Cluster
open V1alpha1 hiding InstallInfo

/-! ## Part 1 — the objects the goroutines hold -/

/-- The object `Reconcile` holds. -/
def ReconcilePhase.held : ReconcilePhase → Option Manifest
  | .holding manifest => some manifest
  | _ => none

/-- The object an aggregator holds. -/
def AggregatorPhase.held : AggregatorPhase → Option Manifest
  | .located latest => some latest
  | _ => none

@[simp] theorem ReconcilePhase.held_ofRequests (requests : List OperationRequest) :
    (ReconcilePhase.ofRequests requests).held = none := by
  cases requests <;> rfl

/-- `P` holds of every object the cache and the goroutines hold. -/
structure Holds (P : Manifest → Prop) (system : System) : Prop where
  cache : ∀ manifest, system.cache = some manifest → P manifest
  held : ∀ manifest, system.reconcilePhase.held = some manifest → P manifest
  source : ∀ round ∈ system.rounds, P round.source
  located : ∀ round ∈ system.rounds, ∀ latest, round.phase.held = some latest → P latest

namespace Holds

variable {P Q : Manifest → Prop} {system : System}

/-- Only the cache, `Reconcile`'s phase and the rounds matter. -/
theorem congr (holds : Holds P system) {next : System} (cache : next.cache = system.cache)
    (phase : next.reconcilePhase = system.reconcilePhase) (rounds : next.rounds = system.rounds) :
    Holds P next := by
  obtain ⟨stored, cache', phase', rounds', workers, writes⟩ := next
  subst cache phase rounds
  exact ⟨holds.cache, holds.held, holds.source, holds.located⟩

theorem mono (holds : Holds P system) (implies : ∀ manifest, P manifest → Q manifest) :
    Holds Q system :=
  ⟨fun m found => implies m (holds.cache m found), fun m found => implies m (holds.held m found),
   fun round member => implies _ (holds.source round member),
   fun round member m found => implies m (holds.located round member m found)⟩

theorem sync (holds : Holds P system) (stored : ∀ current, system.stored = some current → P current) :
    Holds P { system with cache := system.stored } :=
  ⟨stored, holds.held, holds.source, holds.located⟩

theorem setPhase (holds : Holds P system) {phase : ReconcilePhase}
    (held : ∀ manifest, phase.held = some manifest → P manifest) :
    Holds P { system with reconcilePhase := phase } :=
  ⟨holds.cache, held, holds.source, holds.located⟩

theorem release (holds : Holds P system) {phase : ReconcilePhase} (released : phase.held = none) :
    Holds P { system with reconcilePhase := phase } :=
  holds.setPhase fun _ held => by simp [released] at held

/-- A round replaced in place by one with the same source and no new object held. -/
theorem setRound (holds : Holds P system) {index : Nat} {round : Round} (replaced : Round)
    (source : replaced.source = round.source) (found : system.rounds[index]? = some round)
    (located : ∀ latest, replaced.phase.held = some latest → P latest) :
    Holds P { system with rounds := system.rounds.set index replaced } := by
  have member : round ∈ system.rounds := List.getElem?_mem found
  refine ⟨holds.cache, holds.held, fun other member' => ?_, fun other member' => ?_⟩
  · rcases List.mem_or_eq_of_mem_set member' with member' | rfl
    · exact holds.source other member'
    · exact source ▸ holds.source round member
  · rcases List.mem_or_eq_of_mem_set member' with member' | rfl
    · exact holds.located other member'
    · exact located

theorem append (holds : Holds P system) {round : Round} (source : P round.source)
    (located : round.phase.held = none) :
    Holds P { system with rounds := system.rounds ++ [round] } := by
  refine ⟨holds.cache, holds.held, fun other member => ?_, fun other member => ?_⟩
  · rcases List.mem_append.mp member with member | member
    · exact holds.source other member
    · rw [List.mem_singleton.mp member]; exact source
  · rcases List.mem_append.mp member with member | member
    · exact holds.located other member
    · rw [List.mem_singleton.mp member, located]; simp

end Holds

/-! ## Part 2 — the invariant -/

/-- An object in state `Deleting` carries a deletion timestamp. -/
def Marked (manifest : Manifest) : Prop :=
  manifest.status.state = .deleting → manifest.deletionTimestamp = true

/-- Before the finalizer guards the object, its state is empty and no round was dispatched. -/
def Unguarded (system : System) : Prop :=
  ∀ current, system.stored = some current → ¬Guarded current →
    current.status.state = .empty ∧ system.rounds = []

/-- What `sendJobToInstallChannel` fixed for a round, and how far its aggregator got. -/
structure Round.Dispatched (reconciler : ManifestReconciler) (round : Round) : Prop where
  chartCount : round.chartCount = round.source.spec.installs.length
  prepared : round.prepared = reconciler.getInstallInfos round.source
  createMode : round.mode = .createMode → round.source.status.state = .processing ∧
    round.source.deletionTimestamp = false ∧ round.source.hasFinalizer = true
  deletionMode : round.mode = .deletionMode → round.source.status.state = .deleting ∧
    round.source.hasFinalizer = true
  complete : round.phase = .receiving ∨ round.received.length = round.chartCount

/-- An accepted `Status().Update` to `state`, recording the generation it saw. -/
def StatusWrite (write : Write) (state : ManifestState) : Prop :=
  write.status = true ∧ ∃ status : ManifestStatus, status.state = state ∧
    status.observedGeneration = write.before.generation ∧
    write.after = some { write.before with status := status,
                                           resourceVersion := write.before.resourceVersion + 1 }

/-- What `Reconcile` writes: `Deleting` on an object being deleted, `Processing` or `Error` on
one that is not, or the finalizer. -/
def ReconcileWrite (write : Write) : Prop :=
  (StatusWrite write .deleting ∧ write.before.deletionTimestamp = true) ∨
  ((StatusWrite write .processing ∨ StatusWrite write .error) ∧
    write.before.deletionTimestamp = false) ∨
  (write.status = false ∧ ∃ after, write.after = some after ∧ after.hasFinalizer = true)

/-- What a round's aggregator writes, from the responses it received: `setProcessedState`'s end
state, `Error` after a rejected finalizer removal, or the finalizer removal itself. -/
def AggregatorWrite (round : Round) (write : Write) : Prop :=
  let flags := aggregateResponses (round.received.map (·.2))
  Precedes round.source write.before ∧
  (StatusWrite write (processedState flags.1 flags.2 write.before) ∨ StatusWrite write .error ∨
   (write.status = false ∧ flags = (false, false) ∧ write.before.deletionTimestamp = true))

/-- Which goroutine made a write, and what it wrote. -/
def Explained (rounds : List Round) (write : Write) : Prop :=
  match write.writer with
  | .reconcile => ReconcileWrite write
  | .aggregator index =>
    ∃ round, rounds[index]? = some round ∧ round.phase = .finished ∧ AggregatorWrite round write

/-- The invariant of the reachable states. -/
structure Invariant (reconciler : ManifestReconciler) (system : System) : Prop where
  /-- Every object held is a version of the stored one. -/
  coherent : ∀ current, system.stored = some current → Holds (Precedes · current) system
  storedMarked : ∀ current, system.stored = some current → Marked current
  heldMarked : Holds Marked system
  unguarded : Unguarded system
  dispatched : ∀ round ∈ system.rounds, round.Dispatched reconciler
  explained : ∀ write ∈ system.writes, Explained system.rounds write

theorem Explained.mono {rounds rounds' : List Round} {write : Write}
    (explained : Explained rounds write)
    (kept : ∀ (index : Nat) (round : Round), rounds[index]? = some round → round.phase = .finished →
      rounds'[index]? = some round) :
    Explained rounds' write := by
  rcases write with ⟨_ | index, status, before, after⟩
  · exact explained
  · obtain ⟨round, found, finished, aggregated⟩ := explained
    exact ⟨round, kept index round found finished, finished, aggregated⟩

/-- Rounds that are not finished may change: no write refers to them. -/
theorem Explained.setRound {rounds : List Round} {write : Write} {index : Nat} {round : Round}
    (replaced : Round) (explained : Explained rounds write) (found : rounds[index]? = some round)
    (running : round.phase ≠ .finished) : Explained (rounds.set index replaced) write :=
  explained.mono fun other kept found' finished => by
    by_cases same : index = other
    · subst same
      rw [found] at found'
      cases found'
      exact absurd finished running
    · rwa [List.getElem?_set_ne same]

/-! ## Part 3 — accepted writes keep the invariant -/

section Writes

variable {reconciler : ManifestReconciler} {system : System}

/-- The stored object moves forward to `new`, and the log becomes `writes`. -/
theorem Invariant.store (invariant : Invariant reconciler system) {current new : Manifest}
    (stored : system.stored = some current) (forward : Precedes current new) (marked : Marked new)
    (unguarded : ¬Guarded new → new.status.state = .empty) {writes : List Write}
    (explained : ∀ write ∈ writes, Explained system.rounds write) :
    Invariant reconciler { system with stored := some new, writes := writes } where
  coherent := by
    rintro _ ⟨⟩
    exact ((invariant.coherent current stored).mono fun _ order => order.trans forward).congr
      rfl rfl rfl
  storedMarked := by rintro _ ⟨⟩; exact marked
  heldMarked := invariant.heldMarked.congr rfl rfl rfl
  unguarded := by
    rintro _ ⟨⟩ unguarded'
    exact ⟨unguarded unguarded', (invariant.unguarded current stored
      (forward.not_guarded unguarded')).2⟩
  dispatched := invariant.dispatched
  explained := explained

/-- The object is removed, and the log becomes `writes`. -/
theorem Invariant.unstore (invariant : Invariant reconciler system) {writes : List Write}
    (explained : ∀ write ∈ writes, Explained system.rounds write) :
    Invariant reconciler { system with stored := none, writes := writes } where
  coherent := by rintro _ ⟨⟩
  storedMarked := by rintro _ ⟨⟩
  heldMarked := invariant.heldMarked.congr rfl rfl rfl
  unguarded := by rintro _ ⟨⟩
  dispatched := invariant.dispatched
  explained := explained

theorem Invariant.append_explained (invariant : Invariant reconciler system) {write : Write}
    (explained : Explained system.rounds write) :
    ∀ other ∈ system.writes ++ [write], Explained system.rounds other := by
  intro other member
  rcases List.mem_append.mp member with old | new
  · exact invariant.explained other old
  · rwa [List.mem_singleton.mp new]

/-- An accepted `Status().Update` on a guarded object keeps the invariant when the object it
leaves is marked and the write is explained. -/
theorem Invariant.writeStatus (invariant : Invariant reconciler system) (writer : Writer)
    (manifest : Manifest)
    (accepted : ∀ current, system.stored = some current →
      manifest.resourceVersion = current.resourceVersion →
      Guarded current ∧
      Marked { current with status := manifest.status,
                            resourceVersion := current.resourceVersion + 1 } ∧
      Explained system.rounds ⟨writer, true, current,
        some { current with status := manifest.status,
                            resourceVersion := current.resourceVersion + 1 }⟩) :
    Invariant reconciler (system.writeStatus writer manifest) := by
  unfold System.writeStatus
  split
  · rename_i current stored
    split
    · rename_i written written'
      obtain ⟨version, rfl⟩ := updateStatus_eq_some written'
      obtain ⟨guarded, marked, explained⟩ := accepted current stored version
      have forward := updateStatus_precedes written'
      exact invariant.store stored forward marked (fun unguarded => absurd (forward.guarded guarded) unguarded)
        (invariant.append_explained explained)
    · exact invariant
  · exact invariant

/-- An accepted `Update` that keeps the finalizer on an object not being deleted keeps the
invariant when the write is explained. -/
theorem Invariant.tryUpdate (invariant : Invariant reconciler system) (writer : Writer)
    (manifest : Manifest) {next : System} (accepted : system.tryUpdate writer manifest = some next)
    (keeps : ∀ current, system.stored = some current →
      manifest.resourceVersion = current.resourceVersion →
      current.hasFinalizer = true → current.deletionTimestamp = false → manifest.hasFinalizer = true)
    (explained : ∀ current stored, system.stored = some current →
      Cluster.update current manifest = some stored →
      Explained system.rounds ⟨writer, false, current, stored⟩) :
    Invariant reconciler next := by
  unfold System.tryUpdate at accepted
  split at accepted
  · rename_i current stored
    obtain ⟨after, updated, rfl⟩ := Option.map_eq_some'.mp accepted
    have appended := invariant.append_explained (explained current after stored updated)
    obtain ⟨version, ⟨-, -, rfl⟩ | ⟨-, rfl⟩⟩ := update_eq_some updated
    · exact invariant.unstore appended
    · exact invariant.store stored (update_precedes updated (keeps current stored version))
        (invariant.storedMarked current stored)
        (fun unguarded => (invariant.unguarded current stored
          ((update_precedes updated (keeps current stored version)).not_guarded unguarded)).1)
        appended
  · cases accepted

end Writes

/-! ## Part 4 — every step keeps the invariant -/

section Steps

variable {reconciler : ManifestReconciler} {system : System}

theorem Invariant.init (manifest : Manifest) :
    Invariant reconciler (System.init reconciler manifest) := by
  have created : Marked (Cluster.create manifest) := by intro deleting; cases deleting
  refine ⟨?_, fun _ stored => ?_, ?_, ?_, by simp [System.init], by simp [System.init]⟩
  · rintro _ ⟨⟩
    refine ⟨?_, ?_, ?_, ?_⟩ <;> simp [System.init, ReconcilePhase.held, Precedes.refl]
  · cases stored
    exact created
  · refine ⟨?_, ?_, ?_, ?_⟩ <;> simp [System.init, ReconcilePhase.held, created]
  · rintro _ ⟨⟩ -
    exact ⟨rfl, rfl⟩

theorem Invariant.setWorkers (invariant : Invariant reconciler system) (workers : List Worker) :
    Invariant reconciler { system with workers := workers } where
  coherent current stored := (invariant.coherent current stored).congr rfl rfl rfl
  storedMarked := invariant.storedMarked
  heldMarked := invariant.heldMarked.congr rfl rfl rfl
  unguarded := invariant.unguarded
  dispatched := invariant.dispatched
  explained := invariant.explained

theorem Invariant.release (invariant : Invariant reconciler system) {phase : ReconcilePhase}
    (released : phase.held = none) :
    Invariant reconciler { system with reconcilePhase := phase } where
  coherent current stored := (invariant.coherent current stored).release released
  storedMarked := invariant.storedMarked
  heldMarked := invariant.heldMarked.release released
  unguarded := invariant.unguarded
  dispatched := invariant.dispatched
  explained := invariant.explained

theorem Invariant.sync (invariant : Invariant reconciler system) :
    Invariant reconciler { system with cache := system.stored } where
  coherent current stored := (invariant.coherent current stored).sync fun _ same => by
    rw [stored] at same
    cases same
    exact .refl _
  storedMarked := invariant.storedMarked
  heldMarked := invariant.heldMarked.sync invariant.storedMarked
  unguarded := invariant.unguarded
  dispatched := invariant.dispatched
  explained := invariant.explained

theorem Invariant.reconcileRead (invariant : Invariant reconciler system) {manifest : Manifest}
    (cached : system.cache = some manifest) :
    Invariant reconciler { system with reconcilePhase := .holding manifest } where
  coherent current stored := (invariant.coherent current stored).setPhase fun _ held => by
    cases held
    exact (invariant.coherent current stored).cache manifest cached
  storedMarked := invariant.storedMarked
  heldMarked := invariant.heldMarked.setPhase fun _ held => by
    cases held
    exact invariant.heldMarked.cache manifest cached
  unguarded := invariant.unguarded
  dispatched := invariant.dispatched
  explained := invariant.explained

/-- A round not yet finished replaced in place, holding at most the object in the cache. -/
theorem Invariant.setRound (invariant : Invariant reconciler system) {index : Nat} {round : Round}
    (found : system.rounds[index]? = some round) (replaced : Round)
    (source : replaced.source = round.source)
    (located : ∀ latest, replaced.phase.held = some latest → system.cache = some latest)
    (running : round.phase ≠ .finished)
    (dispatched : round.Dispatched reconciler → replaced.Dispatched reconciler) :
    Invariant reconciler { system with rounds := system.rounds.set index replaced } where
  coherent current stored := (invariant.coherent current stored).setRound replaced source found
    fun latest held => (invariant.coherent current stored).cache latest (located latest held)
  storedMarked := invariant.storedMarked
  heldMarked := invariant.heldMarked.setRound replaced source found
    fun latest held => invariant.heldMarked.cache latest (located latest held)
  unguarded current stored unguarded := by
    simp [(invariant.unguarded current stored unguarded).2] at found
  dispatched other member := by
    rcases List.mem_or_eq_of_mem_set member with member | rfl
    · exact invariant.dispatched other member
    · exact dispatched (invariant.dispatched round (List.getElem?_mem found))
  explained write member := (invariant.explained write member).setRound replaced found running

/-- A user change that keeps the status and moves the object forward, or removes it. -/
theorem Invariant.userChange (invariant : Invariant reconciler system) {current : Manifest}
    (stored : system.stored = some current) {changed : Option Manifest}
    (forward : ∀ new, changed = some new → Precedes current new ∧ new.status = current.status) :
    Invariant reconciler { system with stored := changed } := by
  cases changed with
  | none => exact invariant.unstore invariant.explained
  | some new =>
    obtain ⟨order, status⟩ := forward new rfl
    have marked : Marked current := invariant.storedMarked current stored
    refine invariant.store stored order (fun deleting => ?_) (fun unguarded => ?_)
      invariant.explained
    · exact order.deletionTimestamp (marked (status ▸ deleting))
    · rw [status]
      exact (invariant.unguarded current stored (order.not_guarded unguarded)).1

theorem Invariant.sendJobToInstallChannel (invariant : Invariant reconciler system)
    (manifest : Manifest) (mode : Mode)
    (held : ∀ current, system.stored = some current → Precedes manifest current)
    (marked : Marked manifest) (guarded : manifest.hasFinalizer = true)
    (createMode : mode = .createMode → manifest.status.state = .processing ∧
      manifest.deletionTimestamp = false)
    (deletionMode : mode = .deletionMode → manifest.status.state = .deleting) :
    Invariant reconciler (sendJobToInstallChannel reconciler system manifest mode) := by
  have phase : ∀ prepared : Except String (List InstallInfo),
      (match prepared with
       | .ok deployInfos => ReconcilePhase.ofRequests (deployInfos.enum.map fun (index, info) =>
           { info := info, mode := mode, responseChan := system.rounds.length, index := index })
       | .error _ => .idle).held = none := by
    intro prepared
    split
    · exact ReconcilePhase.held_ofRequests _
    · rfl
  refine ⟨fun current stored => ?_, invariant.storedMarked, ?_, fun current stored unguarded => ?_,
    fun round member => ?_, fun write member => (invariant.explained write member).mono ?_⟩
  · exact (((invariant.coherent current stored).append (held current stored) (by rfl)).release
      (phase _)).congr rfl rfl rfl
  · exact ((invariant.heldMarked.append marked (by rfl)).release (phase _)).congr rfl rfl rfl
  · exact absurd (.inl guarded) ((held current stored).not_guarded unguarded)
  · rcases List.mem_append.mp member with member | member
    · exact invariant.dispatched round member
    · rw [List.mem_singleton.mp member]
      exact ⟨rfl, rfl, fun create => ⟨(createMode create).1, (createMode create).2, guarded⟩,
        fun delete => ⟨deletionMode delete, guarded⟩, .inl rfl⟩
  · intro index round found _
    exact (List.getElem?_append_left (List.getElem?_eq_some_iff.mp found).1).trans found

/-- The status write of a goroutine that read `manifest`: accepted only on the object it read. -/
theorem Invariant.writeStatus_read (invariant : Invariant reconciler system) (writer : Writer)
    {manifest written : Manifest}
    (held : ∀ current, system.stored = some current → Precedes manifest current)
    (version : written.resourceVersion = manifest.resourceVersion) (guarded : Guarded manifest)
    (marked : written.status.state = .deleting → manifest.deletionTimestamp = true)
    (explained : Explained system.rounds ⟨writer, true, manifest,
      some { manifest with status := written.status,
                           resourceVersion := manifest.resourceVersion + 1 }⟩) :
    Invariant reconciler (system.writeStatus writer written) :=
  invariant.writeStatus writer written fun current stored same => by
    obtain rfl := (held current stored).eq_of_resourceVersion (version.symm.trans same)
    exact ⟨guarded, marked, explained⟩

theorem Invariant.reconcile (invariant : Invariant reconciler system) {manifest : Manifest}
    (holding : system.reconcilePhase = .holding manifest) (checks : List ReadyCheck) :
    Invariant reconciler (reconcile reconciler system manifest checks) := by
  have idle : Invariant reconciler { system with reconcilePhase := .idle } := invariant.release rfl
  have held : ∀ current, system.stored = some current → Precedes manifest current :=
    fun current stored => (invariant.coherent current stored).held manifest (by rw [holding]; rfl)
  have marked : Marked manifest := invariant.heldMarked.held manifest (by rw [holding]; rfl)
  unfold Controllers.reconcile
  split
  · rename_i state message action
    rcases reconcileAction_updateStatus action with ⟨rfl, deleting⟩ | ⟨rfl, guarded, live, -⟩
    · exact idle.writeStatus_read .reconcile held rfl (.inr deleting) (fun _ => deleting)
        (.inl ⟨⟨rfl, _, rfl, rfl, rfl⟩, deleting⟩)
    · exact idle.writeStatus_read .reconcile held rfl (.inl guarded) (fun deleting => by cases deleting)
        (.inr (.inl ⟨.inl ⟨rfl, _, rfl, rfl, rfl⟩, by simpa using live⟩))
  · dsimp only [System.writeObject]
    cases accepted : System.tryUpdate { system with reconcilePhase := .idle } .reconcile
      manifest.addFinalizer with
    | none => exact idle
    | some next =>
      refine idle.tryUpdate .reconcile manifest.addFinalizer accepted (fun _ _ _ _ _ => by simp)
        fun current stored _ updated => .inr (.inr ⟨rfl, ?_⟩)
      obtain ⟨-, ⟨-, empty, -⟩ | ⟨-, rfl⟩⟩ := update_eq_some updated
      · have := manifest.hasFinalizer_addFinalizer
        simp [Manifest.hasFinalizer, empty] at this
      · exact ⟨_, rfl, manifest.hasFinalizer_addFinalizer⟩
  · rename_i mode action
    obtain ⟨guarded, create, delete⟩ := reconcileAction_sendJobs action
    exact idle.sendJobToInstallChannel manifest mode held marked guarded
      (fun same => ⟨(create same).1, by simpa using (create same).2⟩) delete
  · rename_i action
    obtain ⟨-, guarded, live⟩ := reconcileAction_handleReady action
    split
    · rename_i written found
      obtain ⟨version, observed, processing | failed⟩ := handleReadyState_written found
      · exact idle.writeStatus_read .reconcile held version (.inl guarded)
          (fun deleting => by simp [processing] at deleting)
          (.inr (.inl ⟨.inl ⟨rfl, _, processing, observed, rfl⟩, by simpa using live⟩))
      · exact idle.writeStatus_read .reconcile held version (.inl guarded)
          (fun deleting => by simp [failed] at deleting)
          (.inr (.inl ⟨.inr ⟨rfl, _, failed, observed, rfl⟩, by simpa using live⟩))
    · exact idle

/-- The aggregator's writes, its round already finished, on the object it read. -/
theorem Invariant.responseHandlerFunc (invariant : Invariant reconciler system) {index : Nat}
    (round : Round) {latest : Manifest} (found : system.rounds[index]? = some round)
    (finished : round.phase = .finished)
    (held : ∀ current, system.stored = some current → Precedes latest current) :
    Invariant reconciler
      (responseHandlerFunc system index (round.received.map (·.2)) latest) := by
  have source : ∀ current, system.stored = some current → Precedes round.source current :=
    fun current stored => (invariant.coherent current stored).source round (List.getElem?_mem found)
  have guarded : ∀ current, system.stored = some current → Guarded current :=
    fun current stored => Classical.byContradiction fun unguarded => by
      simp [(invariant.unguarded current stored unguarded).2] at found
  unfold Controllers.responseHandlerFunc
  dsimp only
  split
  · rename_i removing
    split
    · rename_i next accepted
      refine invariant.tryUpdate _ _ accepted (fun current stored version _ live => ?_)
        fun current after stored updated => ?_
      · obtain rfl := (held current stored).eq_of_resourceVersion (by simpa using version)
        simp [live] at removing
      · obtain ⟨version, -⟩ := update_eq_some updated
        obtain rfl := (held current stored).eq_of_resourceVersion (by simpa using version)
        simp only [Bool.and_eq_true, Bool.not_eq_true', addReadyConditionForResponses_deletionTimestamp]
          at removing
        exact ⟨round, found, finished, source _ stored,
          .inr (.inr ⟨rfl, Prod.ext removing.1.1 removing.2, removing.1.2⟩)⟩
    · refine invariant.writeStatus _ _ fun current stored version => ?_
      obtain rfl := (held current stored).eq_of_resourceVersion (by simpa using version)
      exact ⟨guarded _ stored, fun deleting => by simp [processedState] at deleting, round, found,
        finished, source _ stored, .inr (.inl ⟨rfl, _, by simp [processedState], by simp, rfl⟩)⟩
  · refine invariant.writeStatus _ _ fun current stored version => ?_
    obtain rfl := (held current stored).eq_of_resourceVersion (by simpa using version)
    exact ⟨guarded _ stored, fun deleting => by simpa using processedState_deleting deleting, round,
      found, finished, source _ stored, .inl ⟨rfl, _, by simp, by simp, rfl⟩⟩

/-- **Every step keeps the invariant.** -/
theorem Invariant.step (invariant : Invariant reconciler system) {action : Action} {next : System}
    (stepped : step reconciler system action = some next) : Invariant reconciler next := by
  cases action with
  | sync =>
    cases stepped
    exact invariant.sync
  | reconcileRead =>
    obtain ⟨manifest, -, cached, rfl⟩ := step_reconcileRead stepped
    exact invariant.reconcileRead cached
  | reconcileAct checks =>
    obtain ⟨manifest, holding, rfl⟩ := step_reconcileAct stepped
    exact invariant.reconcile holding checks
  | send worker =>
    obtain ⟨request, rest, -, -, rfl⟩ := step_send stepped
    exact (invariant.release (ReconcilePhase.held_ofRequests rest)).setWorkers _
  | handle worker ready err =>
    obtain ⟨request, -, rfl⟩ := step_handle stepped
    exact invariant.setWorkers _
  | reply worker =>
    obtain ⟨responseChan, index, response, round, -, found, receiving, -, rfl⟩ :=
      step_reply stepped
    refine (invariant.setRound found
      { round with received := round.received ++ [(index, response)] } rfl (fun _ held => ?_)
      (by simp [receiving]) fun dispatched =>
        ⟨dispatched.1, dispatched.2, dispatched.3, dispatched.4, .inl receiving⟩).setWorkers _
    simp [receiving, AggregatorPhase.held] at held
  | aggregatorRead index =>
    obtain ⟨round, found, receiving, complete, rfl⟩ := step_aggregatorRead stepped
    refine invariant.setRound found _ rfl (fun latest held => ?_) (by simp [receiving])
      fun dispatched => ⟨dispatched.1, dispatched.2, dispatched.3, dispatched.4, .inr complete⟩
    cases cached : system.cache <;> simp [cached, AggregatorPhase.held] at held ⊢
    exact held
  | aggregatorWrite index =>
    obtain ⟨round, latest, found, located, rfl⟩ := step_aggregatorWrite stepped
    have finished := invariant.setRound found { round with phase := .finished } rfl
      (fun _ held => by cases held) (by simp [located])
      fun dispatched => ⟨dispatched.1, dispatched.2, dispatched.3, dispatched.4,
        .inr (dispatched.5.resolve_left (by simp [located]))⟩
    have found' : (system.rounds.set index { round with phase := .finished })[index]? =
        some { round with phase := .finished } := by
      simp [(List.getElem?_eq_some_iff.mp found).1]
    exact finished.responseHandlerFunc { round with phase := .finished } found' rfl
      fun current stored => (invariant.coherent current stored).located round
        (List.getElem?_mem found) latest (by simp [located, AggregatorPhase.held])
  | updateSpec spec =>
    obtain ⟨current, stored, rfl⟩ := step_updateSpec stepped
    exact invariant.userChange stored fun _ updated => by
      cases updated
      exact ⟨updateSpec_precedes current spec, rfl⟩
  | delete =>
    obtain ⟨current, stored, -, rfl⟩ := step_delete stepped
    exact invariant.userChange stored fun deleted accepted => ⟨delete_precedes accepted, by
      unfold Cluster.delete at accepted
      split at accepted <;> cases accepted
      rfl⟩

end Steps

/-- **Every reachable state satisfies the invariant.** -/
theorem Reachable.invariant {reconciler : ManifestReconciler} {manifest : Manifest}
    {system : System} (reachable : Reachable reconciler manifest system) :
    Invariant reconciler system := by
  induction reachable with
  | init => exact .init manifest
  | step _ stepped invariant => exact invariant.step stepped

end ModuleInstaller.Controllers
