import ModuleInstaller.Prepare.Deploy
/-
**The custom-state check (`internal/pkg/custom/verify.go`).**

`GetInstallInfos` converts the Manifest with `runtime.DefaultUnstructuredConverter.ToUnstructured`
and makes the result the base resource of every install. When `CustomStateCheck` is set, it
installs `Resource.CheckFn` as the job's check. For an object being deleted, `CheckFn` reports
ready. Otherwise it makes two assertions before calling `WaitForCustomResources`: that
`Object["spec"]` is a map, and that its `resource` entry is an `*unstructured.Unstructured`. A
converted object is a tree of maps, slices and scalars, and no value in it is a pointer to an
`Unstructured`.

* `checkFn_panics` — on every object that is not being deleted, `CheckFn` panics at one of its
  two assertions and never reaches `WaitForCustomResources`;
* `customStateCheck_panics` — so with `CustomStateCheck` set, the check of every entry
  `GetInstallInfos` returns panics, unless the converted Manifest is being deleted;
* `sampleManifest_check_panics` — a Manifest with a custom resource: the panic names the map that
  the converter put at `spec.resource`.
-/

namespace ModuleInstaller.Custom

open Types Prepare
open V1alpha1 hiding InstallInfo

/-! ## Part 1 — `CheckFn` -/

/-- `!GetDeletionTimestamp().IsZero()`: `metadata.deletionTimestamp` holds a time. The converter
writes a set timestamp in RFC 3339 and leaves a nil one out. -/
def isDeleting (object : Value) : Bool :=
  ((object.nested? ["metadata", "deletionTimestamp"]).bind Value.asString?).getD "" != ""

/-- The `.(*unstructured.Unstructured)` assertion's cast. A tree of `interface{}` values as the
converter builds it holds maps, slices and scalars only, so the cast fails on every value. -/
def asUnstructured? (_ : Value) : Option Value := none

/-- `Resource.DefaultFn`. -/
def defaultFn : Except String Bool := .ok true

/-- `Resource.CheckFn`, with `WaitForCustomResources` on the target cluster as a parameter. -/
def checkFn (waitForCustomResources : Value → Except String Bool) (manifestObj : Value) :
    Outcome (Except String Bool) :=
  if isDeleting manifestObj then pure (.ok true)
  else do
    let spec ← ((manifestObj.field? "spec").getD .null).assert
      "map[string]interface \x7b\x7d" Value.asMap?
    let resource ← (((Value.obj spec).field? "resource").getD .null).assert
      "*unstructured.Unstructured" asUnstructured?
    pure (waitForCustomResources resource)

/-- The check an install carries, run on its base resource. -/
def runCheck (waitForCustomResources : Value → Except String Bool) :
    CheckFn → Value → Outcome (Except String Bool)
  | .defaultFn, _ => pure defaultFn
  | .checkFn, manifestObj => checkFn waitForCustomResources manifestObj

/-- **`CheckFn` panics on every object not being deleted**: at the map assertion when `spec` is
no map, else at the pointer assertion on `spec.resource`. -/
theorem checkFn_panics (waitForCustomResources : Value → Except String Bool) {manifestObj : Value}
    (live : isDeleting manifestObj = false) :
    ∃ message, checkFn waitForCustomResources manifestObj = .panics message := by
  unfold checkFn Value.assert
  rw [if_neg (by simp [live])]
  split <;> exact ⟨_, rfl⟩

/-! ## Part 2 — the check of every install -/

/-- **With `CustomStateCheck` set, the check of every entry `GetInstallInfos` returns panics**,
unless the converted Manifest is being deleted. -/
theorem customStateCheck_panics (env : PrepareEnv) (waitForCustomResources : Value → Except String Bool)
    {defaultClusterInfo : ClusterInfo} {flags : ReconcileFlagConfig} {manifest : Manifest}
    {heap heap' : Heap} {deployInfos : List Nat} (checking : flags.customStateCheck = true)
    (ok : getInstallInfos env defaultClusterInfo flags manifest heap = .ok (deployInfos, heap')) :
    ∃ manifestObj, env.toUnstructured manifest = .ok manifestObj ∧
      (isDeleting manifestObj = false →
        ∀ address ∈ deployInfos, ∃ info message, heap'.read address = some info ∧
          info.checkFn.map (runCheck waitForCustomResources · info.resourceInfo.baseResource) =
            some (.panics message)) := by
  obtain ⟨manifestObj, converted, records⟩ := getInstallInfos_records env ok
  refine ⟨manifestObj, converted, fun live address member => ?_⟩
  obtain ⟨info, read, check, base⟩ := records address member
  obtain ⟨message, panics⟩ := checkFn_panics waitForCustomResources live
  refine ⟨info, message, read, ?_⟩
  rw [check, base, checking]
  exact congrArg some panics

/-- The nginx install of the spec, with a custom resource for the Manifest to watch. -/
def sampleManifest : Manifest where
  name := "manifest-sample"
  namespaceName := "default"
  spec := { installs := [{ name := "nginx-stable",
                           source := helmSource "nginx-ingress" "https://helm.nginx.com/stable" }],
            resource := some (.obj [("apiVersion", .str "operator.kyma-project.io/v1alpha1"),
              ("kind", .str "SampleCRD"),
              ("metadata", .obj [("name", .str "sample-crd-from-manifest"),
                                 ("namespace", .str "default")])]) }

/-- `ToUnstructured` of the sample Manifest: its metadata, and a spec whose `resource` entry is the
custom resource's own map, as the `Unstructured`'s JSON marshalling gives it. -/
def sampleManifestObj : Value :=
  .obj [("apiVersion", .str "operator.kyma-project.io/v1alpha1"), ("kind", .str manifestKind),
    ("metadata", .obj [("name", .str "manifest-sample"), ("namespace", .str "default"),
                       ("generation", .int 1), ("resourceVersion", .str "1")]),
    ("spec", .obj [("config", .obj []),
      ("installs", .list [.obj [("name", .str "nginx-stable"),
        ("source", helmSource "nginx-ingress" "https://helm.nginx.com/stable")]]),
      ("resource", .obj [("apiVersion", .str "operator.kyma-project.io/v1alpha1"),
        ("kind", .str "SampleCRD"),
        ("metadata", .obj [("name", .str "sample-crd-from-manifest"), ("namespace", .str "default")])]),
      ("remote", .bool false)]),
    ("status", .obj [])]

/-- Public Helm repositories, with the converter returning the sample Manifest's tree. -/
def sampleEnv : PrepareEnv := { helmRepositoryEnv with toUnstructured := fun _ => .ok sampleManifestObj }

/-- **The check of the sample Manifest's install panics** at the assertion on `spec.resource`. -/
theorem sampleManifest_check_panics :
    (getInstallInfos sampleEnv {} { customStateCheck := true } sampleManifest []).map (fun result =>
      result.1.map fun address => (result.2.read address).bind fun info =>
        info.checkFn.map (runCheck (fun _ => .ok true) · info.resourceInfo.baseResource)) =
      .ok [some (.panics
        "interface conversion: interface \x7b\x7d is map[string]interface \x7b\x7d, not *unstructured.Unstructured")] := by
  rfl

end ModuleInstaller.Custom
