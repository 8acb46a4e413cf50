import ModuleInstaller.Api.Value
/-
**The Manifest resource (`api/v1alpha1`) as the controller sees it.**

The object the controller reconciles: its metadata (generation, resource version, deletion
timestamp, finalizers, labels), the spec it prepares installs from, and the status it writes
(state, per-chart `Ready` conditions, observed generation). `SetObservedGeneration` and the
`controllerutil` finalizer helpers the reconciler calls are stated next to the type.

The condition's `LastTransitionTime` (wall-clock time) is left out of the model; no function of
the controller reads it.
-/

namespace ModuleInstaller.V1alpha1

/-- `v1alpha1.ManifestKind`. -/
def manifestKind : String := "Manifest"

/-- `labels.ManifestFinalizer`. -/
def manifestFinalizer : String := "operator.kyma-project.io/manifest"

/-- `labels.CacheKey`, the label named in the comment of `discoverCacheKey`. -/
def cacheKey : String := "operator.kyma-project.io/cache-key"

/-- Modelled from the spec: `labels.OwnedByLabel` is not under src/; the spec names it `owned-by`. -/
def ownedByLabel : String := "operator.kyma-project.io/owned-by"

/-- Modelled from the spec: `labels.WatchedByLabel` is not under src/; the spec names it
`watched-by`. -/
def watchedByLabel : String := "operator.kyma-project.io/watched-by"

/-- Modelled from the spec: `labels.OperatorName`, the `<operator-name>` of the spec. -/
def operatorName : String := "module-manager"

/-- `ManifestState`, the CRD enum `Processing;Deleting;Ready;Error`, with `empty` for `""`. -/
inductive ManifestState where
  | empty
  | processing
  | ready
  | error
  | deleting
  deriving DecidableEq, Repr

/-- The state as `fmt` prints it. -/
def ManifestState.text : ManifestState → String
  | .empty => ""
  | .processing => "Processing"
  | .ready => "Ready"
  | .error => "Error"
  | .deleting => "Deleting"

/-- `ManifestConditionStatus`, the CRD enum `True;False;Unknown`. -/
inductive ManifestConditionStatus where
  | conditionStatusTrue
  | conditionStatusFalse
  | conditionStatusUnknown
  deriving DecidableEq, Repr

/-- `ConditionTypeReady`. -/
def conditionTypeReady : String := "Ready"

/-- `InstallItem`: the install a condition reports on. -/
structure InstallItem where
  chartName : String := ""
  clientConfig : String := ""
  overrides : String := ""
  deriving DecidableEq, Repr

/-- `ManifestCondition`, without its transition time. -/
structure ManifestCondition where
  type : String
  status : ManifestConditionStatus
  message : String
  reason : String
  installInfo : InstallItem
  deriving DecidableEq, Repr

/-- `ManifestStatus`. -/
structure ManifestStatus where
  state : ManifestState := .empty
  conditions : List ManifestCondition := []
  observedGeneration : Nat := 0
  deriving DecidableEq, Repr

/-- `v1alpha1.InstallInfo`: one entry of `spec.installs`. The `RawExtension` source is the
JSON the API server stored, so it is modelled as the decoded tree. -/
structure InstallInfo where
  source : Value
  name : String

/-- `types.RefTypeMetadata`, the type tag of an install source or image. -/
inductive RefTypeMetadata where
  | helmChartType
  | ociRefType
  | kustomizeType
  | nilRefType
  | unsupported (text : String)
  deriving DecidableEq, Repr

/-- `types.ImageSpec`: an OCI layer reference (`CredSecretSelector` is not modelled). -/
structure ImageSpec where
  repo : String := ""
  name : String := ""
  ref : String := ""
  type : String := ""
  deriving DecidableEq, Repr

/-- `ManifestSpec`. `resource` is the embedded custom resource, `none` when its object is nil. -/
structure ManifestSpec where
  config : ImageSpec := {}
  installs : List InstallInfo := []
  crds : ImageSpec := {}
  resource : Option Value := none
  remote : Bool := false

/-- A `Manifest` object: metadata, spec and status. -/
structure Manifest where
  name : String
  namespaceName : String
  labels : List (String × String) := []
  generation : Nat := 1
  resourceVersion : Nat := 1
  deletionTimestamp : Bool := false
  finalizers : List String := []
  spec : ManifestSpec := {}
  status : ManifestStatus := {}

namespace Manifest

/-- `SetObservedGeneration`. -/
def setObservedGeneration (manifest : Manifest) : Manifest :=
  { manifest with status := { manifest.status with observedGeneration := manifest.generation } }

/-- `controllerutil.ContainsFinalizer` for the manifest finalizer. -/
def hasFinalizer (manifest : Manifest) : Bool := manifest.finalizers.contains manifestFinalizer

/-- `controllerutil.AddFinalizer`: appended when missing. -/
def addFinalizer (manifest : Manifest) : Manifest :=
  if manifest.hasFinalizer then manifest
  else { manifest with finalizers := manifest.finalizers ++ [manifestFinalizer] }

/-- `controllerutil.RemoveFinalizer`: every copy dropped. -/
def removeFinalizer (manifest : Manifest) : Manifest :=
  { manifest with finalizers := manifest.finalizers.filter (· != manifestFinalizer) }

@[simp] theorem hasFinalizer_addFinalizer (manifest : Manifest) :
    manifest.addFinalizer.hasFinalizer = true := by
  unfold addFinalizer hasFinalizer
  split <;> simp_all

@[simp] theorem hasFinalizer_removeFinalizer (manifest : Manifest) :
    manifest.removeFinalizer.hasFinalizer = false := by
  simp [removeFinalizer, hasFinalizer]

@[simp] theorem resourceVersion_addFinalizer (manifest : Manifest) :
    manifest.addFinalizer.resourceVersion = manifest.resourceVersion := by
  unfold addFinalizer
  split <;> rfl

@[simp] theorem resourceVersion_removeFinalizer (manifest : Manifest) :
    manifest.removeFinalizer.resourceVersion = manifest.resourceVersion := rfl

end Manifest

end ModuleInstaller.V1alpha1
