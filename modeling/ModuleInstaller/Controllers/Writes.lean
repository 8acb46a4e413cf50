import ModuleInstaller.Controllers.Coherence
/-
**What the controller writes, over every run.**

The results the invariant of `Coherence` gives about the writes the controller makes, each with
the runs of the controller that show where the code stops short of what the specification says.

* `hasFinalizer_of_state` — a Manifest not being deleted carries the finalizer once its state is
  not empty;
* **`finalizer_removed_by_aggregator`** — only an aggregator removes the finalizer, from an object
  being deleted, once every response of its round was ready with no error; the mode its round was
  dispatched in is not looked at, and `createRound_removes_finalizer` is a run in which a `Create`
  round does it;
* **`ready_written_by_create_round`** — `Ready` is written only by the aggregator of a `Create`
  round all of whose responses were ready with no error, recording the generation the aggregator
  read, which can be newer than the one the round installed
  (`ready_recorded_for_uninstalled_generation`);
* **`deletion_writes_deleting_or_error`** — on an object being deleted every status write is
  `Deleting` or `Error`, and a `Create` round comes only from an object read before deletion was
  requested, which can be after it (`create_round_dispatched_after_deletion`).
-/

namespace ModuleInstaller.Controllers

open Types Util Cluster
open V1alpha1 hiding InstallInfo

/-! ## Part 1 — the finalizer -/

section Runs

variable {reconciler : ManifestReconciler} {manifest : Manifest} {system : System}

/-- **The finalizer guards every state but the first.** -/
theorem hasFinalizer_of_state (reachable : Reachable reconciler manifest system)
    {current : Manifest} (stored : system.stored = some current)
    (live : current.deletionTimestamp = false) (started : current.status.state ≠ .empty) :
    current.hasFinalizer = true :=
  Classical.byContradiction fun missing => started
    (reachable.invariant.unguarded current stored (by simp [Guarded, missing, live])).1

theorem StatusWrite.hasFinalizer {write : Write} {state : ManifestState}
    (status : StatusWrite write state) :
    write.after.map Manifest.hasFinalizer = some write.before.hasFinalizer := by
  obtain ⟨-, _, -, -, after⟩ := status
  simp [after, Manifest.hasFinalizer]

/-- **Only an aggregator removes the finalizer**, from an object being deleted, once every
response of its round was ready with no error. -/
theorem finalizer_removed_by_aggregator (reachable : Reachable reconciler manifest system)
    {write : Write} (written : write ∈ system.writes) (had : write.before.hasFinalizer = true)
    (removed : write.after.map Manifest.hasFinalizer ≠ some true) :
    ∃ index round, write.writer = .aggregator index ∧ system.rounds[index]? = some round ∧
      write.before.deletionTimestamp = true ∧ round.received.length = round.chartCount ∧
      ∀ response ∈ round.received, response.2.ready = true ∧ response.2.err = none := by
  have invariant := reachable.invariant
  have explained := invariant.explained write written
  have kept : ∀ {state}, StatusWrite write state → False := fun status =>
    removed (by rw [status.hasFinalizer, had])
  rcases write with ⟨_ | index, status, before, after⟩
  · rcases explained with ⟨status, -⟩ | ⟨status | status, -⟩ | ⟨-, after, rfl, finalizer⟩
    · exact (kept status).elim
    · exact (kept status).elim
    · exact (kept status).elim
    · exact absurd (by simp [finalizer]) removed
  · obtain ⟨round, found, finished, -, status | status | ⟨-, clear, deleting⟩⟩ := explained
    · exact (kept status).elim
    · exact (kept status).elim
    · have complete := ((invariant.dispatched round (List.getElem?_mem found)).complete).resolve_left
        (by simp [finished])
      exact ⟨index, round, rfl, found, deleting, complete, fun response member =>
        aggregateResponses_eq_false.mp clear response.2 (List.mem_map_of_mem _ member)⟩

end Runs

/-! ## Part 2 — a Manifest with one Helm install -/

/-- A reconciler with one worker, in a world of public Helm repositories. -/
def helmReconciler : ManifestReconciler where
  env := Prepare.helmRepositoryEnv
  workerPoolSize := 1

/-- The nginx chart of the spec's first scenario, alone. -/
def nginxManifest : Manifest where
  name := "manifest-sample"
  namespaceName := "default"
  spec := { installs :=
    [{ name := "nginx-stable", source := Prepare.helmSource "nginx-ingress" "https://helm.nginx.com/stable" }] }

/-- The finalizer, then `Processing`, then a `Create` round whose install is done when the user
deletes the Manifest. -/
def deletedMidRound : List Action :=
  [.reconcileRead, .reconcileAct [], .sync, .reconcileRead, .reconcileAct [], .sync, .reconcileRead,
   .reconcileAct [], .send 0, .handle 0 true none, .delete, .reply 0, .sync, .aggregatorRead 0,
   .aggregatorWrite 0]

/-- The aggregator of a `Create` round removes the finalizer, and the Manifest is gone while the
chart it has just installed stays. -/
theorem createRound_removes_finalizer :
    ∃ system write, run helmReconciler (.init helmReconciler nginxManifest) deletedMidRound =
        some system ∧
      system.writes.getLast? = some write ∧ write.writer = .aggregator 0 ∧
      write.before.hasFinalizer = true ∧ write.after = none ∧
      system.rounds.map (·.mode) = [.createMode] :=
  ⟨_, _, rfl, rfl, rfl, rfl, rfl, rfl⟩

/-! ## Part 3 — `Ready` -/

section Runs

variable {reconciler : ManifestReconciler} {manifest : Manifest} {system : System}

/-- A status write of `Reconcile` is `Deleting`, `Processing` or `Error`. -/
theorem ReconcileWrite.state_ne_ready {write : Write} (explained : ReconcileWrite write)
    (status : write.status = true) : write.after.map (·.status.state) ≠ some .ready := by
  rcases explained with ⟨⟨-, _, state, -, after⟩, -⟩ | ⟨⟨-, _, state, -, after⟩ |
    ⟨-, _, state, -, after⟩, -⟩ | ⟨unchanged, -⟩ <;> simp_all

/-- **`Ready` is written only by the aggregator of a `Create` round all of whose responses were
ready with no error**, one per install of the Manifest the round was dispatched from; it records
the generation the aggregator read, which is at least the one the round was dispatched from. -/
theorem ready_written_by_create_round (reachable : Reachable reconciler manifest system)
    {write : Write} (written : write ∈ system.writes) (status : write.status = true)
    (ready : write.after.map (·.status.state) = some .ready) :
    ∃ index round, write.writer = .aggregator index ∧ system.rounds[index]? = some round ∧
      round.mode = .createMode ∧ round.received.length = round.chartCount ∧
      round.chartCount = round.source.spec.installs.length ∧
      (∀ response ∈ round.received, response.2.ready = true ∧ response.2.err = none) ∧
      write.after.map (·.status.observedGeneration) = some write.before.generation ∧
      round.source.generation ≤ write.before.generation := by
  have invariant := reachable.invariant
  have explained := invariant.explained write written
  unfold Explained at explained
  split at explained
  · exact absurd ready (ReconcileWrite.state_ne_ready explained status)
  rename_i index writer
  obtain ⟨round, found, finished, source, aggregated⟩ := explained
  have dispatched := invariant.dispatched round (List.getElem?_mem found)
  rcases aggregated with ⟨-, state, processed, observed, after⟩ | ⟨-, _, failed, -, after⟩ |
    ⟨unchanged, -⟩
  · rw [after] at ready ⊢
    simp only [Option.map_some', Option.some.injEq, processed] at ready
    obtain ⟨noError, processing, live⟩ := processedState_eq_ready.mp ready
    have clear : aggregateResponses (round.received.map (·.2)) = (false, false) :=
      Prod.ext noError processing
    have complete := dispatched.complete.resolve_left (by simp [finished])
    refine ⟨index, round, writer, found, ?_, complete, dispatched.chartCount, fun response member =>
      aggregateResponses_eq_false.mp clear response.2 (List.mem_map_of_mem _ member),
      by simp [observed], source.generation⟩
    cases mode : round.mode
    · rfl
    · have deleting := invariant.heldMarked.source round (List.getElem?_mem found)
        (dispatched.deletionMode mode).1
      simp [source.deletionTimestamp deleting] at live
  · simp [after, failed] at ready
  · simp [unchanged] at status

/-- The nginx install, done. -/
def installedNginx : List Action :=
  [.reconcileRead, .reconcileAct [], .sync, .reconcileRead, .reconcileAct [], .sync, .reconcileRead,
   .reconcileAct [], .send 0, .handle 0 true none, .reply 0, .sync, .aggregatorRead 0,
   .aggregatorWrite 0]

theorem installedNginx_ready :
    ∃ system write, run helmReconciler (.init helmReconciler nginxManifest) installedNginx =
        some system ∧ system.writes.getLast? = some write ∧ write.status = true ∧
      write.after.map (·.status.state) = some .ready ∧
      ∃ index round, write.writer = .aggregator index ∧ system.rounds[index]? = some round ∧
        round.mode = .createMode ∧ round.received.length = round.chartCount ∧
        round.chartCount = round.source.spec.installs.length ∧
        (∀ response ∈ round.received, response.2.ready = true ∧ response.2.err = none) ∧
        write.after.map (·.status.observedGeneration) = some write.before.generation ∧
        round.source.generation ≤ write.before.generation := by
  obtain ⟨system, write, ran, last, status, ready⟩ : ∃ system write,
      run helmReconciler (.init helmReconciler nginxManifest) installedNginx = some system ∧
      system.writes.getLast? = some write ∧ write.status = true ∧
      write.after.map (·.status.state) = some .ready := ⟨_, _, rfl, rfl, rfl, rfl⟩
  exact ⟨system, write, ran, last, status, ready, ready_written_by_create_round
    (run_reachable .init ran) (List.mem_of_getLast?_eq_some last) status ready⟩

/-- The nginx round under way when the user replaces the spec by two nginx releases. -/
def specUpdatedMidRound : List Action :=
  [.reconcileRead, .reconcileAct [], .sync, .reconcileRead, .reconcileAct [], .sync, .reconcileRead,
   .reconcileAct [], .send 0, .handle 0 true none, .updateSpec Prepare.twoNginxReleases.spec, .reply 0,
   .sync, .aggregatorRead 0, .aggregatorWrite 0]

/-- Generation 2 is recorded as observed and `Ready`, though the only round installed the spec of
generation 1. -/
theorem ready_recorded_for_uninstalled_generation :
    ∃ system write, run helmReconciler (.init helmReconciler nginxManifest) specUpdatedMidRound =
        some system ∧
      system.writes.getLast? = some write ∧ write.status = true ∧ write.writer = .aggregator 0 ∧
      write.after.map (·.status.state) = some .ready ∧
      write.after.map (·.status.observedGeneration) = some 2 ∧
      system.rounds.map (·.source.generation) = [1] :=
  ⟨_, _, rfl, rfl, rfl, rfl, rfl, rfl, rfl⟩

end Runs

/-! ## Part 4 — deletion -/

section Runs

variable {reconciler : ManifestReconciler} {manifest : Manifest} {system : System}

/-- **Once deletion is requested the controller writes only `Deleting` or `Error`, and it
dispatches a `Create` round only from an object read before the request.** -/
theorem deletion_writes_deleting_or_error (reachable : Reachable reconciler manifest system) :
    (∀ round ∈ system.rounds, round.mode = .createMode → round.source.deletionTimestamp = false) ∧
    ∀ write ∈ system.writes, write.status = true → write.before.deletionTimestamp = true →
      write.after.map (·.status.state) = some .deleting ∨
        write.after.map (·.status.state) = some .error := by
  have invariant := reachable.invariant
  refine ⟨fun round member create => ((invariant.dispatched round member).createMode create).2.1,
    fun write written status deleting => ?_⟩
  have explained := invariant.explained write written
  unfold Explained at explained
  split at explained
  · rcases explained with ⟨⟨-, _, state, -, after⟩, -⟩ | ⟨-, live⟩ | ⟨unchanged, -⟩
    · simp [after, state]
    · simp [deleting] at live
    · simp [unchanged] at status
  · obtain ⟨round, -, -, -, ⟨-, _, state, -, after⟩ | ⟨-, _, failed, -, after⟩ | ⟨unchanged, -⟩⟩ :=
      explained
    · unfold processedState at state
      split at state <;> simp_all
    · simp [after, failed]
    · simp [unchanged] at status

theorem deletedMidRound_writes :
    ∃ system, run helmReconciler (.init helmReconciler nginxManifest) deletedMidRound =
        some system ∧
      (∀ round ∈ system.rounds, round.mode = .createMode → round.source.deletionTimestamp = false) ∧
      ∀ write ∈ system.writes, write.status = true → write.before.deletionTimestamp = true →
        write.after.map (·.status.state) = some .deleting ∨
          write.after.map (·.status.state) = some .error := by
  obtain ⟨system, ran⟩ : ∃ system,
      run helmReconciler (.init helmReconciler nginxManifest) deletedMidRound = some system :=
    ⟨_, rfl⟩
  exact ⟨system, ran, deletion_writes_deleting_or_error (run_reachable .init ran)⟩

/-- The nginx Manifest read in `Processing`, then deleted before that `Reconcile` acts. -/
def readBeforeDeletion : List Action :=
  [.reconcileRead, .reconcileAct [], .sync, .reconcileRead, .reconcileAct [], .sync, .reconcileRead,
   .delete]

/-- A `Create` round is dispatched while the stored Manifest carries a deletion timestamp. -/
theorem create_round_dispatched_after_deletion :
    ∃ before after, run helmReconciler (.init helmReconciler nginxManifest) readBeforeDeletion =
        some before ∧
      before.stored.map (·.deletionTimestamp) = some true ∧ before.rounds = [] ∧
      step helmReconciler before (.reconcileAct []) = some after ∧
      after.rounds.map (·.mode) = [.createMode] :=
  ⟨_, _, rfl, rfl, rfl, rfl, rfl⟩

end Runs

end ModuleInstaller.Controllers
