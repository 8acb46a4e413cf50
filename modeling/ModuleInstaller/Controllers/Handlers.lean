import ModuleInstaller.Prepare.Deploy
import ModuleInstaller.Util.Conditions
/-
**The reconciler's decisions (`controllers/manifest_controller.go`), one call at a time.**

What each handler of the `ManifestReconciler` decides from the Manifest it holds, before the API
call that carries the decision out: `Reconcile`'s branch on deletion, finalizer and state,
`updateManifestStatus`, the consistency check of `HandleReadyState`, and the two flags the
response aggregator of `ResponseHandlerFunc` folds over a round's responses together with the
end state `setProcessedState` derives from them.

* `aggregateResponses_eq` — the aggregator's flags do not depend on the arrival order: an error
  anywhere, and an unready response without error anywhere;
* `reconcileAction_sendJobs` — `Reconcile` sends jobs only for a Manifest carrying the finalizer,
  in `Create` mode only from `Processing` with no deletion timestamp, in `Delete` mode only from
  `Deleting`;
* `handleReadyState_agrees_iff` — `HandleReadyState` and the aggregator classify a sequence of
  consistency outcomes alike exactly when it is not the case that the first unready or failing
  install is unready while some install reports an error.
-/

namespace ModuleInstaller.Controllers

open Types Util
open V1alpha1 hiding InstallInfo

/-! ## Part 1 — `updateManifestStatus` -/

/-- The status of the Manifest's own `Ready` condition for a state. -/
def manifestConditionStatus : ManifestState → ManifestConditionStatus
  | .ready => .conditionStatusTrue
  | .empty => .conditionStatusUnknown
  | _ => .conditionStatusFalse

/-- `updateManifestStatus` up to the API call: the object it hands to `Status().Update`. -/
def updateManifestStatus (manifest : Manifest) (state : ManifestState) (message : String) :
    Manifest :=
  (addReadyConditionForObjects { manifest with status := { manifest.status with state := state } }
    [{ chartName := manifestKind }] (manifestConditionStatus state) message).setObservedGeneration

section UpdateManifestStatus

variable (manifest : Manifest) (state : ManifestState) (message : String)

@[simp] theorem updateManifestStatus_state :
    (updateManifestStatus manifest state message).status.state = state := rfl

@[simp] theorem updateManifestStatus_observedGeneration :
    (updateManifestStatus manifest state message).status.observedGeneration =
      manifest.generation := rfl

@[simp] theorem updateManifestStatus_generation :
    (updateManifestStatus manifest state message).generation = manifest.generation := rfl

@[simp] theorem updateManifestStatus_resourceVersion :
    (updateManifestStatus manifest state message).resourceVersion = manifest.resourceVersion := rfl

@[simp] theorem updateManifestStatus_deletionTimestamp :
    (updateManifestStatus manifest state message).deletionTimestamp =
      manifest.deletionTimestamp := rfl

@[simp] theorem updateManifestStatus_finalizers :
    (updateManifestStatus manifest state message).finalizers = manifest.finalizers := rfl

/-- The Manifest's own condition: reason the kind, status from the state, install kept. -/
theorem filter_updateManifestStatus_manifestKind
    (distinct : (readyReasons manifest.status.conditions).Nodup) :
    (updateManifestStatus manifest state message).status.conditions.filter
        (isReadyConditionFor manifestKind) =
      [readyCondition (manifestConditionStatus state) message manifestKind
        (previousInstallInfo manifest.status.conditions manifestKind)] := by
  refine (filter_addReadyConditionForObjects_of_mem _ _ _ _ distinct (List.mem_singleton_self _)).trans ?_
  simp [lastConfigured]

/-- Every other chart keeps its conditions. -/
theorem filter_updateManifestStatus_of_ne
    (distinct : (readyReasons manifest.status.conditions).Nodup) {name : String}
    (other : name ≠ manifestKind) :
    (updateManifestStatus manifest state message).status.conditions.filter
        (isReadyConditionFor name) =
      manifest.status.conditions.filter (isReadyConditionFor name) :=
  filter_addReadyConditionForObjects_of_not_mem _ [_] _ _ distinct (by simpa using other)

end UpdateManifestStatus

/-! ## Part 2 — `Reconcile`'s branch -/

/-- What `Reconcile` does with the Manifest it read. -/
inductive ReconcileAction where
  /-- `updateManifestStatus` with this state and message. -/
  | updateStatus (state : ManifestState) (message : String)
  /-- `AddFinalizer`, then `updateManifest`. -/
  | addFinalizer
  /-- `sendJobToInstallChannel` in this mode. -/
  | sendJobs (mode : Mode)
  /-- `HandleReadyState`. -/
  | handleReady

/-- `Reconcile`: deletion first, then the finalizer, then the state. -/
def reconcileAction (manifest : Manifest) : ReconcileAction :=
  if manifest.deletionTimestamp ∧ manifest.status.state ≠ .deleting then
    .updateStatus .deleting "deletion timestamp set"
  else if !manifest.hasFinalizer then .addFinalizer
  else
    match manifest.status.state with
    | .empty => .updateStatus .processing "initial state"
    | .processing => .sendJobs .createMode
    | .deleting => .sendJobs .deletionMode
    | .error => .updateStatus .processing "observed generation change"
    | .ready => .handleReady

/-- **Jobs are sent only past the finalizer check**, in `Create` mode only from `Processing`
with no deletion timestamp, and in `Delete` mode only from `Deleting`. -/
theorem reconcileAction_sendJobs {manifest : Manifest} {mode : Mode}
    (sending : reconcileAction manifest = .sendJobs mode) :
    manifest.hasFinalizer ∧
      (mode = .createMode → manifest.status.state = .processing ∧ ¬manifest.deletionTimestamp) ∧
      (mode = .deletionMode → manifest.status.state = .deleting) := by
  unfold reconcileAction at sending
  split at sending
  · cases sending
  · split at sending
    · cases sending
    · rename_i notDeleting hasFinalizer
      simp only [Bool.not_eq_true', Bool.not_eq_false] at hasFinalizer
      split at sending <;> cases sending <;> simp_all

/-- `Reconcile` writes `Processing`, or `Deleting` on a Manifest with a deletion timestamp. -/
theorem reconcileAction_updateStatus {manifest : Manifest} {state : ManifestState}
    {message : String} (writing : reconcileAction manifest = .updateStatus state message) :
    (state = .deleting ∧ manifest.deletionTimestamp) ∨
      (state = .processing ∧ manifest.hasFinalizer ∧ ¬manifest.deletionTimestamp ∧
        (manifest.status.state = .empty ∨ manifest.status.state = .error)) := by
  unfold reconcileAction at writing
  split at writing
  · cases writing
    exact .inl ⟨rfl, by simp_all⟩
  · split at writing
    · cases writing
    · rename_i notDeleting hasFinalizer
      simp only [Bool.not_eq_true', Bool.not_eq_false] at hasFinalizer
      split at writing <;> cases writing <;> simp_all

/-- `HandleReadyState` runs on a Ready Manifest with the finalizer and no deletion timestamp. -/
theorem reconcileAction_handleReady {manifest : Manifest}
    (handling : reconcileAction manifest = .handleReady) :
    manifest.status.state = .ready ∧ manifest.hasFinalizer ∧ ¬manifest.deletionTimestamp := by
  unfold reconcileAction at handling
  split at handling
  · cases handling
  · split at handling
    · cases handling
    · rename_i notDeleting hasFinalizer
      simp only [Bool.not_eq_true', Bool.not_eq_false] at hasFinalizer
      split at handling <;> cases handling
      simp_all

/-! ## Part 3 — `HandleReadyState` -/

/-- What the consistency check of one install gives: `NewOperations` failed, or
`VerifyResources` answered `(ready, err)`. -/
inductive ReadyCheck where
  | operationsFailed (err : String)
  | verified (ready : Bool) (err : Option String)

/-- The `InstallResponse` built for an install and its outcome, by `HandleCharts` and by
`HandleReadyState` alike. -/
def checkResponse (info : InstallInfo) (ready : Bool) (err : Option String) : InstallResponse :=
  { ready := ready, chartName := info.chartInfo.chartName, err := err,
    clientConfig := info.chartInfo.flags.configFlags, overrides := info.chartInfo.flags.setFlags }

/-- The loop of `HandleReadyState`: the object it writes, if any. An unready install is reported
before its error is looked at, and the first unready or failing install ends the loop. -/
def handleReadyStateLoop (manifest : Manifest) : List (InstallInfo × ReadyCheck) → Option Manifest
  | [] => none
  | (_, .operationsFailed err) :: _ => some (updateManifestStatus manifest .error err)
  | (info, .verified ready err) :: rest =>
    if !ready then
      some (updateManifestStatus (addReadyConditionForResponses [checkResponse info ready err] manifest)
        .processing "resources not ready")
    else
      match err with
      | some failure =>
        some (updateManifestStatus (addReadyConditionForResponses [checkResponse info ready err] manifest)
          .error failure)
      | none => handleReadyStateLoop manifest rest

/-- What the loop writes: `Processing` or `Error`, on the object it was given. -/
theorem handleReadyStateLoop_written {manifest written : Manifest} :
    ∀ {checks : List (InstallInfo × ReadyCheck)},
      handleReadyStateLoop manifest checks = some written →
      written.resourceVersion = manifest.resourceVersion ∧
        written.status.observedGeneration = manifest.generation ∧
        (written.status.state = .processing ∨ written.status.state = .error)
  | [], found => by cases found
  | (_, .operationsFailed _) :: _, found => by
    cases found
    simp
  | (info, .verified ready err) :: rest, found => by
    simp only [handleReadyStateLoop] at found
    split at found
    · cases found
      simp
    · split at found
      · cases found
        simp
      · exact handleReadyStateLoop_written found

/-- `HandleReadyState`, given what `GetInstallInfos` returned and each install's check. -/
def handleReadyState (prepared : Except String (List InstallInfo)) (checks : List ReadyCheck)
    (manifest : Manifest) : Option Manifest :=
  if manifest.generation ≠ manifest.status.observedGeneration then
    some (updateManifestStatus manifest .processing "observed generation change")
  else
    match prepared with
    | .error _ => none
    | .ok infos => handleReadyStateLoop manifest (infos.zip checks)

/-- What `HandleReadyState` writes: `Processing` or `Error`, on the object it was given. -/
theorem handleReadyState_written {prepared : Except String (List InstallInfo)}
    {checks : List ReadyCheck} {manifest written : Manifest}
    (found : handleReadyState prepared checks manifest = some written) :
    written.resourceVersion = manifest.resourceVersion ∧
      written.status.observedGeneration = manifest.generation ∧
      (written.status.state = .processing ∨ written.status.state = .error) := by
  unfold handleReadyState at found
  split at found
  · cases found
    simp
  · split at found
    · cases found
    · exact handleReadyStateLoop_written found

/-! ## Part 4 — the response aggregator -/

/-- One iteration of the loop of `ResponseHandlerFunc` on `(errorState, processing)`. -/
def aggregateStep (flags : Bool × Bool) (response : InstallResponse) : Bool × Bool :=
  if response.err.isSome then (true, flags.2)
  else if !response.ready then (flags.1, true)
  else flags

/-- The flags `ResponseHandlerFunc` folds over the responses: `(errorState, processing)`. -/
def aggregateResponses (responses : List InstallResponse) : Bool × Bool :=
  responses.foldl aggregateStep (false, false)

/-- The loop from any flags: each flag is raised by some response of its kind. -/
theorem foldl_aggregateStep (responses : List InstallResponse) (flags : Bool × Bool) :
    responses.foldl aggregateStep flags =
      (flags.1 || responses.any (·.err.isSome),
       flags.2 || responses.any fun response => response.err.isNone && !response.ready) := by
  induction responses generalizing flags with
  | nil => simp
  | cons response rest ih =>
    rw [List.foldl_cons, ih]
    rcases flags with ⟨errorState, processing⟩
    cases error : response.err <;> cases ready : response.ready <;>
      simp [aggregateStep, error, ready, Bool.or_assoc]

/-- **The flags do not depend on the arrival order**: an error anywhere, and an unready response
without error anywhere. -/
theorem aggregateResponses_eq (responses : List InstallResponse) :
    aggregateResponses responses =
      (responses.any (·.err.isSome), responses.any fun response => response.err.isNone && !response.ready) := by
  simp [aggregateResponses, foldl_aggregateStep]

/-- **Both flags stay down exactly when every response is ready with no error.** -/
theorem aggregateResponses_eq_false {responses : List InstallResponse} :
    aggregateResponses responses = (false, false) ↔
      ∀ response ∈ responses, response.ready = true ∧ response.err = none := by
  rw [aggregateResponses_eq]
  constructor
  · intro clear response member
    simp only [Prod.mk.injEq, List.any_eq_false] at clear
    have noError := clear.1 response member
    simp only [Option.isSome_iff_ne_none, ne_eq, Decidable.not_not] at noError
    have noUnready := clear.2 response member
    simp_all
  · intro clear
    simp only [Prod.mk.injEq, List.any_eq_false]
    exact ⟨fun response member => by simp [(clear response member).2],
      fun response member => by simp [(clear response member).1]⟩

/-- `setProcessedState`'s end state: errors first, then a deletion under way, then readiness. -/
def processedState (errorState processing : Bool) (manifest : Manifest) : ManifestState :=
  if errorState then .error
  else if !manifest.deletionTimestamp then (if processing then .processing else .ready)
  else .deleting

/-- The message `setProcessedState` writes. -/
def processedMessage (state : ManifestState) : String :=
  manifestKind ++ " in " ++ state.text ++ " state"

/-- `setProcessedState` up to the API call: the object it hands to `Status().Update`. -/
def setProcessedState (errorState processing : Bool) (manifest : Manifest) : Manifest :=
  updateManifestStatus manifest (processedState errorState processing manifest)
    (processedMessage (processedState errorState processing manifest))

section SetProcessedState

variable (errorState processing : Bool) (manifest : Manifest)

@[simp] theorem setProcessedState_state :
    (setProcessedState errorState processing manifest).status.state =
      processedState errorState processing manifest := rfl

@[simp] theorem setProcessedState_observedGeneration :
    (setProcessedState errorState processing manifest).status.observedGeneration =
      manifest.generation := rfl

@[simp] theorem setProcessedState_resourceVersion :
    (setProcessedState errorState processing manifest).resourceVersion =
      manifest.resourceVersion := rfl

/-- `setProcessedState` writes `Deleting` only on an object being deleted. -/
theorem processedState_deleting {errorState processing : Bool} {manifest : Manifest}
    (deleting : processedState errorState processing manifest = .deleting) :
    manifest.deletionTimestamp = true := by
  unfold processedState at deleting
  split at deleting
  · cases deleting
  · split at deleting
    · split at deleting <;> cases deleting
    · simpa using ‹¬(!_) = true›

/-- `setProcessedState` writes `Ready` only with no error, nothing processing, on an object not
being deleted. -/
theorem processedState_eq_ready {errorState processing : Bool} {manifest : Manifest} :
    processedState errorState processing manifest = .ready ↔
      errorState = false ∧ processing = false ∧ manifest.deletionTimestamp = false := by
  unfold processedState
  cases errorState <;> cases processing <;> cases manifest.deletionTimestamp <;> decide

@[simp] theorem processedState_addReadyConditionForResponses (responses : List InstallResponse) :
    processedState errorState processing (addReadyConditionForResponses responses manifest) =
      processedState errorState processing manifest := by
  simp [processedState]

/-- The end state from a round's flags, with a rejected finalizer removal counted as an error:
an unready response counts only when none failed, so the unready test drops the error test. -/
theorem processedState_of_responses (responses : List InstallResponse) (failed : Bool) :
    processedState (responses.any (·.err.isSome) || failed)
        (responses.any fun response => response.err.isNone && !response.ready) manifest =
      if responses.any (·.err.isSome) || failed then .error
      else if manifest.deletionTimestamp then .deleting
      else if responses.any (!·.ready) then .processing else .ready := by
  unfold processedState
  cases errors : responses.any (·.err.isSome) || failed
  · have noError : ∀ response ∈ responses, response.err = none := by
      simpa [List.any_eq_false, Option.isSome_iff_ne_none] using (Bool.or_eq_false_iff.mp errors).1
    have unready : (responses.any fun response => response.err.isNone && !response.ready) =
        responses.any (!·.ready) := by
      refine Bool.eq_iff_iff.mpr ?_
      simp only [List.any_eq_true]
      exact exists_congr fun response => and_congr_right fun member => by simp [noError response member]
    cases manifest.deletionTimestamp <;> simp [unready]
  · rfl

/-- **What `setProcessedState` writes for each response's chart** after the round's upserts:
the condition the response set, when the charts are distinct and none is the Manifest kind. -/
theorem filter_setProcessedState {responses : List InstallResponse} {latest : Manifest}
    (distinct : (readyReasons latest.status.conditions).Nodup)
    (distinctNames : (responses.map (·.chartName)).Nodup)
    (notManifestKind : manifestKind ∉ responses.map (·.chartName))
    {response : InstallResponse} (member : response ∈ responses) :
    (setProcessedState errorState processing (addReadyConditionForResponses responses latest)).status.conditions.filter
        (isReadyConditionFor response.chartName) =
      [readyCondition (responseCondition response).1 (responseCondition response).2 response.chartName
        { clientConfig := jsonMarshal response.clientConfig,
          overrides := jsonMarshal response.overrides,
          chartName := response.chartName }] :=
  (filter_updateManifestStatus_of_ne _ _ _ (nodup_readyReasons_addReadyConditionForResponses distinct)
      fun same => notManifestKind (same ▸ List.mem_map_of_mem _ member)).trans
    (filter_addReadyConditionForResponses distinct distinctNames member)

end SetProcessedState

/-! ## Part 5 — the consistency check against the aggregator -/

/-- The state a Ready Manifest is left in: the one written, or `Ready` when nothing is. -/
def stateAfter (manifest : Manifest) (written : Option Manifest) : ManifestState :=
  (written.map (·.status.state)).getD manifest.status.state

/-- The first install whose check is unready or failing. -/
def firstFailing (checks : List (Bool × Option String)) : Option (Bool × Option String) :=
  checks.find? fun check => !check.1 || check.2.isSome

/-- The state `HandleReadyState`'s loop writes over verified installs: decided by the first
unready or failing install, unready before failing. -/
theorem handleReadyStateLoop_state (manifest : Manifest) :
    ∀ (infos : List InstallInfo) (checks : List (Bool × Option String)),
      infos.length = checks.length →
      stateAfter manifest (handleReadyStateLoop manifest
          (infos.zip (checks.map fun check => .verified check.1 check.2))) =
        match firstFailing checks with
        | none => manifest.status.state
        | some (false, _) => .processing
        | some (true, _) => .error
  | [], [], _ => rfl
  | info :: infos, (ready, err) :: checks, lengths => by
    have rest := handleReadyStateLoop_state manifest infos checks (by simpa using lengths)
    cases ready <;> cases err
    case true.none => exact rest
    all_goals rfl
  | [], _ :: _, lengths => by simp at lengths
  | _ :: _, [], lengths => by simp at lengths

/-- The responses the aggregator would read for the same installs and outcomes. -/
def checkResponses (infos : List InstallInfo) (checks : List (Bool × Option String)) :
    List InstallResponse :=
  List.zipWith (fun info check => checkResponse info check.1 check.2) infos checks

theorem any_checkResponses (infos : List InstallInfo) (checks : List (Bool × Option String))
    (lengths : infos.length = checks.length) (property : Bool × Option String → Bool) :
    (checkResponses infos checks).any (fun response => property (response.ready, response.err)) =
      checks.any property := by
  induction infos generalizing checks with
  | nil => cases checks <;> simp_all [checkResponses]
  | cons info infos ih =>
    cases checks with
    | nil => simp at lengths
    | cons check checks =>
      simp only [checkResponses, List.zipWith_cons_cons, List.any_cons] at ih ⊢
      rw [ih checks (by simpa using lengths)]
      rfl

/-- **`HandleReadyState` and the aggregator disagree in exactly one way.** On a Ready Manifest
with nothing new to observe, the state the consistency check leaves is the aggregator's end
state for the same outcomes unless the first unready or failing install is unready while some
install reports an error: then the check writes `Processing` where the aggregator writes
`Error`. -/
theorem handleReadyState_agrees_iff (manifest : Manifest) (infos : List InstallInfo)
    (checks : List (Bool × Option String)) (lengths : infos.length = checks.length)
    (observed : manifest.generation = manifest.status.observedGeneration)
    (ready : manifest.status.state = .ready) (notDeleting : manifest.deletionTimestamp = false) :
    stateAfter manifest (handleReadyState (.ok infos)
        (checks.map fun check => .verified check.1 check.2) manifest) =
      processedState (aggregateResponses (checkResponses infos checks)).1
        (aggregateResponses (checkResponses infos checks)).2 manifest ↔
      ¬((firstFailing checks).map (·.1) = some false ∧ checks.any (·.2.isSome)) := by
  have errors := any_checkResponses infos checks lengths fun check => check.2.isSome
  have unready := any_checkResponses infos checks lengths fun check => check.2.isNone && !check.1
  simp only at errors unready
  have looped : handleReadyState (.ok infos) (checks.map fun check => .verified check.1 check.2)
      manifest = handleReadyStateLoop manifest
        (infos.zip (checks.map fun check => .verified check.1 check.2)) := by
    simp [handleReadyState, observed]
  rw [looped, handleReadyStateLoop_state manifest infos checks lengths, aggregateResponses_eq,
    errors, unready]
  cases found : firstFailing checks with
  | none =>
    have passing : ∀ check ∈ checks, check.1 = true ∧ check.2 = none := fun check member => by
      simpa using List.find?_eq_none.mp found check member
    have noErrors : checks.any (·.2.isSome) = false :=
      List.any_eq_false.mpr fun check member => by simp [(passing check member).2]
    have noUnready : checks.any (fun check => check.2.isNone && !check.1) = false :=
      List.any_eq_false.mpr fun check member => by simp [(passing check member).1]
    simp [processedState, noErrors, noUnready, notDeleting, ready]
  | some check =>
    unfold firstFailing at found
    have failing := List.find?_some found
    have member := List.mem_of_find?_eq_some found
    rcases check with ⟨_ | _, _ | failure⟩
    · have someUnready : checks.any (fun check => check.2.isNone && !check.1) = true :=
        List.any_eq_true.mpr ⟨_, member, rfl⟩
      cases anyError : checks.any (·.2.isSome) <;>
        simp [processedState, someUnready, anyError, notDeleting]
    · have someError : checks.any (·.2.isSome) = true := List.any_eq_true.mpr ⟨_, member, rfl⟩
      simp [processedState, someError]
    · simp at failing
    · have someError : checks.any (·.2.isSome) = true := List.any_eq_true.mpr ⟨_, member, rfl⟩
      simp [processedState, someError]

/-- A Ready Manifest whose single install is unready and reports an error: the consistency check
writes `Processing`, the aggregator `Error`. -/
theorem handleReadyState_unready_error_processing :
    let manifest : Manifest :=
      { name := "manifest-sample", namespaceName := "default", finalizers := [manifestFinalizer],
        status := { state := .ready, observedGeneration := 1 } }
    stateAfter manifest (handleReadyState (.ok [{}]) [.verified false (some "apply failed")]
        manifest) = .processing ∧
      processedState (aggregateResponses [checkResponse {} false (some "apply failed")]).1
        (aggregateResponses [checkResponse {} false (some "apply failed")]).2 manifest = .error :=
  ⟨rfl, rfl⟩

end ModuleInstaller.Controllers
