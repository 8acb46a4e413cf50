import ModuleInstaller.Cluster.ApiServer
import ModuleInstaller.Controllers.Handlers
/-
**The controller as a system (`controllers/manifest_controller.go`, `controllers/workers.go`).**

One Manifest, the API server that stores it, the informer cache the controller's client reads,
and the goroutines that act on it: `Reconcile` (never two at once for one object), the response
aggregator `ResponseHandlerFunc` that each `sendJobToInstallChannel` starts, and the pool of
workers `StartWorkers` runs on `DeployChan`. The user changes the spec and asks for deletion.
Each goroutine reads in one step and writes in a later one, and every write goes through the
resourceVersion check of `Cluster`, so the steps interleave as the goroutines do.

Each `sendJobToInstallChannel` is a *round*: its mode, the object it was dispatched from, the
`chartCount` its aggregator waits for, what `GetInstallInfos` returned, and the responses the
aggregator has received. A request carries the position of its install in the round, which the
code does not need but the proofs do. The controller's accepted writes are logged with their
author, the object before and the object after.

* `step` — one step of one party; `Reachable` — every state some run reaches;
* `run_reachable` — what a run along a list of steps reaches is reachable;
* **`responseHandlerFunc_writes`** — unless the aggregator removes the finalizer, it writes the
  state the round's flags give and, for distinct charts none named like the Manifest kind, one
  `Ready` condition per response with the response's status, whatever the arrival order;
  `manifestKind_chart_condition_overwritten` is a chart named `Manifest` whose condition is the
  Manifest's own;
* **`startWorkers_after_resizes`** — after any sequence of `SetWorkerPoolSize` calls,
  `StartWorkers` starts as many workers as the pool was made with, or none: the size check is the
  wrong way round, so no positive size other than the initial one takes effect.
-/

namespace ModuleInstaller.Controllers

open Types Util Prepare
open V1alpha1 hiding InstallInfo

/-! ## Part 1 — the parties -/

/-- The fields of `ManifestReconciler` the reconcile loop reads. -/
structure ManifestReconciler where
  /-- The collaborators of `prepare.GetInstallInfos`. -/
  env : PrepareEnv
  /-- `r.Client` and `r.RestConfig`: the host cluster. -/
  clusterInfo : ClusterInfo := {}
  reconcileFlagConfig : ReconcileFlagConfig := {}
  /-- `Workers.GetWorkerPoolSize()`. -/
  workerPoolSize : Nat

/-- A stand-in for the `prepare.GetInstallInfos` that `sendJobToInstallChannel` calls. That call
takes four arguments (the Manifest, a `custom.ClusterInfo` and the flags) and returns
`manifest.InstallInfo` values; that revision is not under src/. The stand-in is the five-argument
`GetInstallInfos` of `deploy.go`, read through its pointers, so every entry of a successful call
carries the chart info of the last install. No result about the controller depends on what the
entries hold. -/
def ManifestReconciler.getInstallInfos (reconciler : ManifestReconciler) (manifest : Manifest) :
    Except String (List InstallInfo) :=
  (Prepare.getInstallInfos reconciler.env reconciler.clusterInfo reconciler.reconcileFlagConfig
    manifest []).map fun (deployInfos, heap) => deployInfos.map fun address => (heap.read address).getD {}

theorem ManifestReconciler.length_getInstallInfos {reconciler : ManifestReconciler}
    {manifest : Manifest} {deployInfos : List InstallInfo}
    (ok : reconciler.getInstallInfos manifest = .ok deployInfos) :
    deployInfos.length = manifest.spec.installs.length := by
  unfold getInstallInfos at ok
  cases prepared : Prepare.getInstallInfos reconciler.env reconciler.clusterInfo
    reconciler.reconcileFlagConfig manifest [] with
  | error => simp [prepared, Except.map] at ok
  | ok result =>
    simp only [prepared, Except.map, Except.ok.injEq] at ok
    subst ok
    simpa using getInstallInfos_length reconciler.env prepared

/-- `OperationRequest`, with the position of its install in the round. -/
structure OperationRequest where
  info : InstallInfo
  mode : Mode
  /-- The round whose `responseChan` the answer goes to. -/
  responseChan : Nat
  index : Nat

/-- A worker goroutine of the pool. -/
inductive Worker where
  | idle
  /-- Running `HandleCharts` on a request. -/
  | handling (request : OperationRequest)
  /-- Blocked on `deployChart.ResponseChan <- response`. -/
  | replying (responseChan index : Nat) (response : InstallResponse)

/-- Where the aggregator of a round is. -/
inductive AggregatorPhase where
  /-- In the loop over `chartCount` responses. -/
  | receiving
  /-- Past its `r.Get`, holding the object it read. -/
  | located (latest : Manifest)
  | finished

/-- One `sendJobToInstallChannel`: what it was dispatched with and what its aggregator has. -/
structure Round where
  mode : Mode
  /-- The object `Reconcile` read. -/
  source : Manifest
  chartCount : Nat
  /-- What `GetInstallInfos` returned. -/
  prepared : Except String (List InstallInfo)
  /-- The responses received, each with the position of its install. -/
  received : List (Nat × InstallResponse) := []
  phase : AggregatorPhase := .receiving

/-- Where `Reconcile` is. -/
inductive ReconcilePhase where
  | idle
  /-- Past its `r.Get`, holding the object it read. -/
  | holding (manifest : Manifest)
  /-- In the loop of `sendJobToInstallChannel`, with the requests still to send. -/
  | sending (requests : List OperationRequest)

/-- Who wrote. -/
inductive Writer where
  | reconcile
  | aggregator (round : Nat)

/-- An accepted write of the controller: `Status().Update` when `status`, else `Update`. -/
structure Write where
  writer : Writer
  status : Bool
  before : Manifest
  after : Option Manifest

/-- The Manifest, the cache, and where every goroutine is. -/
structure System where
  /-- The object on the API server; `none` once it is removed. -/
  stored : Option Manifest
  /-- The object in the informer cache, which `r.Get` reads. -/
  cache : Option Manifest
  reconcilePhase : ReconcilePhase
  rounds : List Round
  workers : List Worker
  writes : List Write

namespace System

/-- `Status().Update` by a writer; a rejected write changes nothing. -/
def writeStatus (system : System) (writer : Writer) (manifest : Manifest) : System :=
  match system.stored with
  | some current =>
    match Cluster.updateStatus current manifest with
    | some written =>
      { system with stored := some written,
                    writes := system.writes ++ [⟨writer, true, current, some written⟩] }
    | none => system
  | none => system

/-- `Update` by a writer; `none` when it is rejected. -/
def tryUpdate (system : System) (writer : Writer) (manifest : Manifest) : Option System :=
  match system.stored with
  | some current => (Cluster.update current manifest).map fun stored =>
      { system with stored := stored, writes := system.writes ++ [⟨writer, false, current, stored⟩] }
  | none => none

/-- `Update`, whose error `Reconcile` only returns. -/
def writeObject (system : System) (writer : Writer) (manifest : Manifest) : System :=
  (system.tryUpdate writer manifest).getD system

section Frame

variable (system : System) (writer : Writer) (manifest : Manifest)

/-- A write changes the stored object and the log, and nothing else. -/
theorem writeStatus_frame : ∃ stored writes,
    system.writeStatus writer manifest = { system with stored := stored, writes := writes } := by
  unfold writeStatus
  split
  · split
    · exact ⟨_, _, rfl⟩
    · exact ⟨system.stored, system.writes, rfl⟩
  · exact ⟨system.stored, system.writes, rfl⟩

theorem tryUpdate_frame {next : System} (accepted : system.tryUpdate writer manifest = some next) :
    ∃ stored writes, next = { system with stored := stored, writes := writes } := by
  unfold tryUpdate at accepted
  split at accepted
  · obtain ⟨_, -, rfl⟩ := Option.map_eq_some'.mp accepted
    exact ⟨_, _, rfl⟩
  · cases accepted

theorem writeObject_frame : ∃ stored writes,
    system.writeObject writer manifest = { system with stored := stored, writes := writes } := by
  unfold writeObject
  cases accepted : system.tryUpdate writer manifest with
  | none => exact ⟨system.stored, system.writes, rfl⟩
  | some next => exact tryUpdate_frame system writer manifest accepted

end Frame

end System

/-! ## Part 2 — the controller's steps -/

/-- What is left of `sendJobToInstallChannel`'s loop; `Reconcile` returns when nothing is. -/
def ReconcilePhase.ofRequests : List OperationRequest → ReconcilePhase
  | [] => .idle
  | requests => .sending requests

/-- `sendJobToInstallChannel`: the aggregator starts first and waits for one response per install
of the object read; the requests follow when `GetInstallInfos` succeeds. -/
def sendJobToInstallChannel (reconciler : ManifestReconciler) (system : System)
    (manifest : Manifest) (mode : Mode) : System :=
  let responseChan := system.rounds.length
  let prepared := reconciler.getInstallInfos manifest
  { system with
    rounds := system.rounds ++
      [{ mode := mode, source := manifest, chartCount := manifest.spec.installs.length,
         prepared := prepared }]
    reconcilePhase :=
      match prepared with
      | .ok deployInfos => .ofRequests (deployInfos.enum.map fun (index, info) =>
          { info := info, mode := mode, responseChan := responseChan, index := index })
      | .error _ => .idle }

/-- `Reconcile` past its `r.Get`, on the object it read; `checks` are the answers of the
consistency checks `HandleReadyState` would make. -/
def reconcile (reconciler : ManifestReconciler) (system : System) (manifest : Manifest)
    (checks : List ReadyCheck) : System :=
  let system := { system with reconcilePhase := .idle }
  match reconcileAction manifest with
  | .updateStatus state message =>
    system.writeStatus .reconcile (updateManifestStatus manifest state message)
  | .addFinalizer => system.writeObject .reconcile manifest.addFinalizer
  | .sendJobs mode => sendJobToInstallChannel reconciler system manifest mode
  | .handleReady =>
    match handleReadyState (reconciler.getInstallInfos manifest) checks manifest with
    | some written => system.writeStatus .reconcile written
    | none => system

/-- `ResponseHandlerFunc` past its `r.Get` (its round already marked finished, which nothing it
does reads): the finalizer goes when no response failed, the object
is being deleted and nothing is still processing; otherwise, or when that `Update` is rejected,
`setProcessedState`. -/
def responseHandlerFunc (system : System) (round : Nat) (responses : List InstallResponse)
    (latest : Manifest) : System :=
  let errorState := (aggregateResponses responses).1
  let processing := (aggregateResponses responses).2
  let latest := addReadyConditionForResponses responses latest
  if !errorState && latest.deletionTimestamp && !processing then
    match system.tryUpdate (.aggregator round) latest.removeFinalizer with
    | some system => system
    | none => system.writeStatus (.aggregator round) (setProcessedState true processing latest)
  else system.writeStatus (.aggregator round) (setProcessedState errorState processing latest)

/-- `Reconcile` dispatches a round, or writes and returns. -/
theorem reconcile_frame (reconciler : ManifestReconciler) (system : System) (manifest : Manifest)
    (checks : List ReadyCheck) :
    (∃ mode, reconcileAction manifest = .sendJobs mode ∧
      reconcile reconciler system manifest checks =
        sendJobToInstallChannel reconciler { system with reconcilePhase := .idle } manifest mode) ∨
    ∃ stored writes, reconcile reconciler system manifest checks =
      { system with reconcilePhase := .idle, stored := stored, writes := writes } := by
  unfold reconcile
  split
  · exact .inr (System.writeStatus_frame _ _ _)
  · exact .inr (System.writeObject_frame _ _ _)
  · exact .inl ⟨_, ‹_›, rfl⟩
  · split
    · exact .inr (System.writeStatus_frame _ _ _)
    · exact .inr ⟨_, _, rfl⟩

/-- The aggregator's writes change the stored object and the log, and nothing else. -/
theorem responseHandlerFunc_frame (system : System) (round : Nat) (responses : List InstallResponse)
    (latest : Manifest) : ∃ stored writes,
      responseHandlerFunc system round responses latest =
        { system with stored := stored, writes := writes } := by
  unfold responseHandlerFunc
  dsimp only
  split
  · split
    · exact System.tryUpdate_frame _ _ _ ‹_›
    · exact System.writeStatus_frame _ _ _
  · exact System.writeStatus_frame _ _ _

/-- `ResponseHandlerFunc` removes the finalizer, or writes what `setProcessedState` derives from
the round's flags, a rejected removal counting as an error. -/
theorem responseHandlerFunc_cases (system : System) (round : Nat) (responses : List InstallResponse)
    (latest : Manifest) :
    let removing := !responses.any (·.err.isSome) && latest.deletionTimestamp &&
      !responses.any fun response => response.err.isNone && !response.ready
    let removal := system.tryUpdate (.aggregator round)
      (addReadyConditionForResponses responses latest).removeFinalizer
    (∃ next, removing = true ∧ removal = some next ∧ responseHandlerFunc system round responses latest = next) ∨
      responseHandlerFunc system round responses latest =
        system.writeStatus (.aggregator round)
          (setProcessedState (responses.any (·.err.isSome) || (removing && removal.isNone))
            (responses.any fun response => response.err.isNone && !response.ready)
            (addReadyConditionForResponses responses latest)) := by
  intro removing removal
  unfold responseHandlerFunc
  simp only [aggregateResponses_eq, addReadyConditionForResponses_deletionTimestamp]
  by_cases attempted : removing = true
  · have noError : responses.any (·.err.isSome) = false := by
      simp only [removing, Bool.and_eq_true, Bool.not_eq_true'] at attempted
      exact attempted.1.1
    rw [if_pos attempted]
    cases accepted : removal with
    | some next => exact .inl ⟨next, attempted, rfl, by simp only [removal] at accepted; rw [accepted]⟩
    | none => exact .inr (by simp only [removal] at accepted; simp [accepted, noError, attempted])
  · rw [if_neg attempted]
    exact .inr (by simp [Bool.eq_false_iff.mpr attempted])

/-- **What the aggregator writes.** Unless it removes the finalizer, `ResponseHandlerFunc` writes
`Error` when a response failed or the removal was rejected, else `Deleting` on an object being
deleted, else `Processing` while a response is unready, else `Ready`; and, when the responses name
distinct charts none of which is the Manifest kind, one `Ready` condition per response, `False`,
`Unknown` or `True` as it failed, is unready or is ready. The one condition of reason `Manifest`
is the Manifest's own, with the status the written state gives, so a chart named `Manifest` ends
with it. The responses enter only through which of them arrived, so every arrival order writes
alike. -/
theorem responseHandlerFunc_writes (system : System) (round : Nat) (responses : List InstallResponse)
    (latest : Manifest) (distinct : (readyReasons latest.status.conditions).Nodup) :
    let removing := !responses.any (·.err.isSome) && latest.deletionTimestamp &&
      !responses.any fun response => response.err.isNone && !response.ready
    let removal := system.tryUpdate (.aggregator round)
      (addReadyConditionForResponses responses latest).removeFinalizer
    (∃ next, removing = true ∧ removal = some next ∧ responseHandlerFunc system round responses latest = next) ∨
      ∃ written, responseHandlerFunc system round responses latest =
          system.writeStatus (.aggregator round) written ∧
        written.status.state =
          (if responses.any (·.err.isSome) || (removing && removal.isNone) then .error
           else if latest.deletionTimestamp then .deleting
           else if responses.any (!·.ready) then .processing else .ready) ∧
        ((responses.map (·.chartName)).Nodup → manifestKind ∉ responses.map (·.chartName) →
          ∀ response ∈ responses, ∃ condition,
            written.status.conditions.filter (isReadyConditionFor response.chartName) = [condition] ∧
            condition.status =
              if response.err.isSome then .conditionStatusFalse
              else if !response.ready then .conditionStatusUnknown else .conditionStatusTrue) ∧
        ∃ condition, written.status.conditions.filter (isReadyConditionFor manifestKind) = [condition] ∧
          condition.status = manifestConditionStatus written.status.state := by
  intro removing removal
  rcases responseHandlerFunc_cases system round responses latest with removed | written
  · exact .inl removed
  · refine .inr ⟨_, written, ?_, fun distinctNames notManifestKind response member => ?_,
      _, filter_updateManifestStatus_manifestKind _ _ _
        (nodup_readyReasons_addReadyConditionForResponses distinct), rfl⟩
    · rw [setProcessedState_state, processedState_addReadyConditionForResponses,
        processedState_of_responses]
    · exact ⟨_, filter_setProcessedState _ _ distinct distinctNames notManifestKind member,
        responseCondition_fst response⟩

/-- A Manifest in `Processing` with the finalizer and no conditions yet. -/
def processingManifest : Manifest where
  name := "manifest-sample"
  namespaceName := "default"
  finalizers := [manifestFinalizer]
  status := { state := .processing }

/-- The controller with that Manifest stored and cached, and nothing running. -/
def processingSystem : System where
  stored := some processingManifest
  cache := some processingManifest
  reconcilePhase := .idle
  rounds := []
  workers := []
  writes := []

/-- A round of two charts: one installed, one still coming up. -/
def nginxRedisResponses : List InstallResponse :=
  [{ ready := true, chartName := "nginx-ingress" }, { ready := false, chartName := "redis" }]

theorem nginxRedisRound_writes :
    (readyReasons processingManifest.status.conditions).Nodup ∧
      let removing := !nginxRedisResponses.any (·.err.isSome) && processingManifest.deletionTimestamp &&
        !nginxRedisResponses.any fun response => response.err.isNone && !response.ready
      let removal := processingSystem.tryUpdate (.aggregator 0)
        (addReadyConditionForResponses nginxRedisResponses processingManifest).removeFinalizer
      (∃ next, removing = true ∧ removal = some next ∧
          responseHandlerFunc processingSystem 0 nginxRedisResponses processingManifest = next) ∨
        ∃ written, responseHandlerFunc processingSystem 0 nginxRedisResponses processingManifest =
            processingSystem.writeStatus (.aggregator 0) written ∧
          written.status.state =
            (if nginxRedisResponses.any (·.err.isSome) || (removing && removal.isNone) then .error
             else if processingManifest.deletionTimestamp then .deleting
             else if nginxRedisResponses.any (!·.ready) then .processing else .ready) ∧
          ((nginxRedisResponses.map (·.chartName)).Nodup →
            manifestKind ∉ nginxRedisResponses.map (·.chartName) →
            ∀ response ∈ nginxRedisResponses, ∃ condition,
              written.status.conditions.filter (isReadyConditionFor response.chartName) = [condition] ∧
              condition.status =
                if response.err.isSome then .conditionStatusFalse
                else if !response.ready then .conditionStatusUnknown else .conditionStatusTrue) ∧
          ∃ condition, written.status.conditions.filter (isReadyConditionFor manifestKind) = [condition] ∧
            condition.status = manifestConditionStatus written.status.state :=
  ⟨List.nodup_nil, responseHandlerFunc_writes _ _ _ _ List.nodup_nil⟩

/-- An unready response for a chart named like the Manifest kind. -/
def unreadyManifestChart : InstallResponse where
  ready := false
  chartName := manifestKind

/-- **A chart named like the Manifest kind loses its condition to the Manifest's own.** The
response is unready with no error, but `setProcessedState` upserts the condition of reason
`Manifest` after the responses' upserts, so the one condition of that reason carries the
Manifest's status: `False` for `Processing`, not `Unknown`. -/
theorem manifestKind_chart_condition_overwritten :
    ∃ written, responseHandlerFunc processingSystem 0 [unreadyManifestChart] processingManifest =
        processingSystem.writeStatus (.aggregator 0) written ∧
      ∃ condition, written.status.conditions.filter
          (isReadyConditionFor unreadyManifestChart.chartName) = [condition] ∧
        condition.status = .conditionStatusFalse :=
  ⟨setProcessedState false true (addReadyConditionForResponses [unreadyManifestChart] processingManifest),
    rfl, _, filter_updateManifestStatus_manifestKind _ _ _
      (nodup_readyReasons_addReadyConditionForResponses List.nodup_nil), rfl⟩

/-! ## Part 3 — one step, and runs -/

/-- One step of one party. -/
inductive Action where
  /-- The informer cache catches up with the API server. -/
  | sync
  /-- `Reconcile`'s `r.Get`. -/
  | reconcileRead
  /-- The rest of `Reconcile`, with the answers `HandleReadyState`'s checks would get. -/
  | reconcileAct (checks : List ReadyCheck)
  /-- `r.DeployChan <- request`, taken by an idle worker. -/
  | send (worker : Nat)
  /-- A worker's `HandleCharts` returns `(ready, err)`. -/
  | handle (worker : Nat) (ready : Bool) (err : Option String)
  /-- A worker's response is taken by its round's aggregator. -/
  | reply (worker : Nat)
  /-- An aggregator's `r.Get` after its last response. -/
  | aggregatorRead (round : Nat)
  /-- An aggregator's writes. -/
  | aggregatorWrite (round : Nat)
  /-- The user changes the spec. -/
  | updateSpec (spec : ManifestSpec)
  /-- The user deletes the Manifest. -/
  | delete

/-- One step of one party; `none` when it cannot take it. -/
def step (reconciler : ManifestReconciler) (system : System) : Action → Option System
  | .sync => some { system with cache := system.stored }
  | .reconcileRead =>
    match system.reconcilePhase, system.cache with
    | .idle, some manifest => some { system with reconcilePhase := .holding manifest }
    | _, _ => none
  | .reconcileAct checks =>
    match system.reconcilePhase with
    | .holding manifest => some (reconcile reconciler system manifest checks)
    | _ => none
  | .send worker =>
    match system.reconcilePhase, system.workers[worker]? with
    | .sending (request :: rest), some .idle =>
      some { system with reconcilePhase := .ofRequests rest,
                         workers := system.workers.set worker (.handling request) }
    | _, _ => none
  | .handle worker ready err =>
    match system.workers[worker]? with
    | some (.handling request) =>
      some { system with
        workers := system.workers.set worker
          (.replying request.responseChan request.index (checkResponse request.info ready err)) }
    | _ => none
  | .reply worker =>
    match system.workers[worker]? with
    | some (.replying responseChan index response) =>
      match system.rounds[responseChan]? with
      | some round =>
        match round.phase with
        | .receiving =>
          if round.received.length < round.chartCount then
            some { system with
              rounds := system.rounds.set responseChan
                { round with received := round.received ++ [(index, response)] },
              workers := system.workers.set worker .idle }
          else none
        | _ => none
      | none => none
    | _ => none
  | .aggregatorRead index =>
    match system.rounds[index]? with
    | some round =>
      match round.phase with
      | .receiving =>
        if round.received.length = round.chartCount then
          some { system with
            rounds := system.rounds.set index
              { round with phase := match system.cache with
                                    | some latest => .located latest
                                    | none => .finished } }
        else none
      | _ => none
    | none => none
  | .aggregatorWrite index =>
    match system.rounds[index]? with
    | some round =>
      match round.phase with
      | .located latest =>
        some (responseHandlerFunc
          { system with rounds := system.rounds.set index { round with phase := .finished } }
          index (round.received.map (·.2)) latest)
      | _ => none
    | none => none
  | .updateSpec spec =>
    match system.stored with
    | some current => some { system with stored := some (Cluster.updateSpec current spec) }
    | none => none
  | .delete =>
    match system.stored with
    | some current =>
      if current.deletionTimestamp then none else some { system with stored := Cluster.delete current }
    | none => none

/-! ## Part 4 — what each step does -/

section Steps

variable {reconciler : ManifestReconciler} {system next : System}

theorem step_reconcileRead (stepped : step reconciler system .reconcileRead = some next) :
    ∃ manifest, system.reconcilePhase = .idle ∧ system.cache = some manifest ∧
      next = { system with reconcilePhase := .holding manifest } := by
  simp only [step] at stepped
  split at stepped
  · cases stepped
    exact ⟨_, ‹_›, ‹_›, rfl⟩
  · cases stepped

theorem step_reconcileAct {checks : List ReadyCheck}
    (stepped : step reconciler system (.reconcileAct checks) = some next) :
    ∃ manifest, system.reconcilePhase = .holding manifest ∧
      next = reconcile reconciler system manifest checks := by
  simp only [step] at stepped
  split at stepped
  · cases stepped
    exact ⟨_, ‹_›, rfl⟩
  · cases stepped

theorem step_send {worker : Nat} (stepped : step reconciler system (.send worker) = some next) :
    ∃ request rest, system.reconcilePhase = .sending (request :: rest) ∧
      system.workers[worker]? = some .idle ∧
      next = { system with reconcilePhase := .ofRequests rest,
                           workers := system.workers.set worker (.handling request) } := by
  simp only [step] at stepped
  split at stepped
  · cases stepped
    exact ⟨_, _, ‹_›, ‹_›, rfl⟩
  · cases stepped

theorem step_handle {worker : Nat} {ready : Bool} {err : Option String}
    (stepped : step reconciler system (.handle worker ready err) = some next) :
    ∃ request, system.workers[worker]? = some (.handling request) ∧
      next = { system with
        workers := system.workers.set worker
          (.replying request.responseChan request.index (checkResponse request.info ready err)) } := by
  simp only [step] at stepped
  split at stepped
  · cases stepped
    exact ⟨_, ‹_›, rfl⟩
  · cases stepped

theorem step_reply {worker : Nat} (stepped : step reconciler system (.reply worker) = some next) :
    ∃ responseChan index response round,
      system.workers[worker]? = some (.replying responseChan index response) ∧
      system.rounds[responseChan]? = some round ∧ round.phase = .receiving ∧
      round.received.length < round.chartCount ∧
      next = { system with
        rounds := system.rounds.set responseChan
          { round with received := round.received ++ [(index, response)] },
        workers := system.workers.set worker .idle } := by
  simp only [step] at stepped
  split at stepped
  · split at stepped
    · split at stepped
      · split at stepped
        · cases stepped
          exact ⟨_, _, _, _, ‹_›, ‹_›, ‹_›, ‹_›, rfl⟩
        · cases stepped
      · cases stepped
    · cases stepped
  · cases stepped

theorem step_aggregatorRead {index : Nat}
    (stepped : step reconciler system (.aggregatorRead index) = some next) :
    ∃ round, system.rounds[index]? = some round ∧ round.phase = .receiving ∧
      round.received.length = round.chartCount ∧
      next = { system with
        rounds := system.rounds.set index
          { round with phase := match system.cache with
                                | some latest => .located latest
                                | none => .finished } } := by
  simp only [step] at stepped
  split at stepped
  · split at stepped
    · split at stepped
      · cases stepped
        exact ⟨_, ‹_›, ‹_›, ‹_›, rfl⟩
      · cases stepped
    · cases stepped
  · cases stepped

theorem step_aggregatorWrite {index : Nat}
    (stepped : step reconciler system (.aggregatorWrite index) = some next) :
    ∃ round latest, system.rounds[index]? = some round ∧ round.phase = .located latest ∧
      next = responseHandlerFunc
        { system with rounds := system.rounds.set index { round with phase := .finished } }
        index (round.received.map (·.2)) latest := by
  simp only [step] at stepped
  split at stepped
  · split at stepped
    · cases stepped
      exact ⟨_, _, ‹_›, ‹_›, rfl⟩
    · cases stepped
  · cases stepped

theorem step_updateSpec {spec : ManifestSpec}
    (stepped : step reconciler system (.updateSpec spec) = some next) :
    ∃ current, system.stored = some current ∧
      next = { system with stored := some (Cluster.updateSpec current spec) } := by
  simp only [step] at stepped
  split at stepped
  · cases stepped
    exact ⟨_, ‹_›, rfl⟩
  · cases stepped

theorem step_delete (stepped : step reconciler system .delete = some next) :
    ∃ current, system.stored = some current ∧ current.deletionTimestamp = false ∧
      next = { system with stored := Cluster.delete current } := by
  simp only [step] at stepped
  split at stepped
  · split at stepped
    · cases stepped
    · cases stepped
      exact ⟨_, ‹_›, Bool.eq_false_iff.mpr ‹¬_›, rfl⟩
  · cases stepped

end Steps

/-- The system once the user has created the Manifest: nothing running, every worker idle. -/
def System.init (reconciler : ManifestReconciler) (manifest : Manifest) : System where
  stored := some (Cluster.create manifest)
  cache := some (Cluster.create manifest)
  reconcilePhase := .idle
  rounds := []
  workers := List.replicate reconciler.workerPoolSize .idle
  writes := []

/-- The states some interleaving reaches from the creation of the Manifest. -/
inductive Reachable (reconciler : ManifestReconciler) (manifest : Manifest) : System → Prop
  | init : Reachable reconciler manifest (System.init reconciler manifest)
  | step {system next : System} {action : Action} : Reachable reconciler manifest system →
      step reconciler system action = some next → Reachable reconciler manifest next

/-- The steps of a list, one after the other. -/
def run (reconciler : ManifestReconciler) : System → List Action → Option System
  | system, [] => some system
  | system, action :: rest => (step reconciler system action).bind fun next => run reconciler next rest

theorem run_reachable {reconciler : ManifestReconciler} {manifest : Manifest} {system last : System}
    {actions : List Action} (reachable : Reachable reconciler manifest system)
    (ran : run reconciler system actions = some last) : Reachable reconciler manifest last := by
  induction actions generalizing system with
  | nil => cases ran; exact reachable
  | cons action rest ih =>
    obtain ⟨next, stepped, ran⟩ := Option.bind_eq_some.mp ran
    exact ih (reachable.step stepped) ran

/-! ## Part 5 — the size of the worker pool -/

/-- `ManifestWorkerPool`: the size it was made with, and the size `StartWorkers` reads. -/
structure ManifestWorkerPool where
  initialSize : Int
  size : Int

/-- `NewManifestWorkers`. -/
def newManifestWorkers (workersConcurrentManifests : Int) : ManifestWorkerPool :=
  ⟨workersConcurrentManifests, workersConcurrentManifests⟩

/-- `GetWorkerPoolSize`. -/
def ManifestWorkerPool.getWorkerPoolSize (mw : ManifestWorkerPool) : Int := mw.size

/-- `SetWorkerPoolSize`: a positive size sets the pool back to its initial size; any other is
taken as it is. -/
def ManifestWorkerPool.setWorkerPoolSize (mw : ManifestWorkerPool) (newSize : Int) :
    ManifestWorkerPool :=
  if newSize > 0 then { mw with size := mw.initialSize } else { mw with size := newSize }

/-- The ids of the goroutines `StartWorkers` starts: `for worker := 1; worker <= size; worker++`. -/
def ManifestWorkerPool.startWorkers (mw : ManifestWorkerPool) : List Nat :=
  (List.range mw.getWorkerPoolSize.toNat).map (· + 1)

/-- A resize never changes the initial size. -/
@[simp] theorem ManifestWorkerPool.initialSize_setWorkerPoolSize (mw : ManifestWorkerPool)
    (newSize : Int) : (mw.setWorkerPoolSize newSize).initialSize = mw.initialSize := by
  unfold setWorkerPoolSize
  split <;> rfl

/-- Resizes never change the initial size. -/
theorem ManifestWorkerPool.initialSize_resizes (sizes : List Int) :
    ∀ mw : ManifestWorkerPool, (sizes.foldl setWorkerPoolSize mw).initialSize = mw.initialSize := by
  induction sizes with
  | nil => intro mw; rfl
  | cons newSize rest ih => intro mw; simp [ih]

/-- The size after a sequence of resizes: the initial size, or the last size asked for when it was
not positive. -/
theorem ManifestWorkerPool.getWorkerPoolSize_resizes (sizes : List Int) (mw : ManifestWorkerPool) :
    (sizes.foldl setWorkerPoolSize mw).getWorkerPoolSize =
      match sizes.getLast? with
      | none => mw.size
      | some newSize => if 0 < newSize then mw.initialSize else newSize := by
  induction sizes using List.reverseRecOn with
  | nil => rfl
  | append_singleton sizes newSize _ =>
    have last : (sizes ++ [newSize]).getLast? = some newSize := by simp
    rw [List.foldl_append, last]
    by_cases positive : 0 < newSize <;>
      simp [setWorkerPoolSize, getWorkerPoolSize, positive, initialSize_resizes]

/-- **`StartWorkers` after any resizes**: a pool made with `n` workers starts `n` of them when the
last resize asked for a positive size or there was none, and none otherwise. -/
theorem startWorkers_after_resizes (n : Int) (sizes : List Int) :
    ((sizes.foldl ManifestWorkerPool.setWorkerPoolSize (newManifestWorkers n)).startWorkers).length =
      if sizes.getLast?.all (0 < ·) then n.toNat else 0 := by
  rw [ManifestWorkerPool.startWorkers, List.length_map, List.length_range,
    ManifestWorkerPool.getWorkerPoolSize_resizes]
  rcases sizes.getLast? with _ | newSize
  · rfl
  · by_cases positive : 0 < newSize
    · simp [positive, newManifestWorkers]
    · simp [positive]
      omega

end ModuleInstaller.Controllers
