import Mathlib.Data.List.Forall2
import ModuleInstaller.Prepare.Strvals
/-
**The prepare phase (`internal/pkg/prepare/deploy.go`): one `InstallInfo` per install.**

`GetInstallInfos` fetches the CRDs, converts the Manifest, resolves the target cluster, reads
the config layer and hands a *pointer* to one base `InstallInfo` to `parseInstallations`, which
builds the chart info and flags of each install. The loop copies that pointer
(`deployInfo := baseDeployInfo`) and then writes `deployInfo.ChartInfo`, so every iteration
writes the same record. The model keeps the pointers: records live in a `Heap`, the loop returns
addresses, and what a caller sees is the records they point to.

* `parseInstallationsFrom_ok` — on success each install's chart info is built from that install
  alone, and every one of them is written over the same base record;
* `parseInstallations_entries` — on success the loop returns one address per install, every one
  of them the base address, and the base record holds the chart info of the last install;
* `getInstallInfos_length` — on success `GetInstallInfos` returns exactly one entry per install.

The collaborators the code reaches through the network, the file system or a pluggable codec
(`types.GetSpecType`, `codec.Decode`, the OCI layer cache, the config layer, the target-cluster
getters, `strvals`) are the fields of `PrepareEnv`.
-/

namespace ModuleInstaller.Prepare

open Types
open V1alpha1 hiding InstallInfo

/-! ## Part 1 — the collaborators and the heap -/

/-- `configReadError`, filled in with what could not be read. -/
def configReadError (what : String) : String :=
  "reading install " ++ what ++ " resulted in an error for " ++ manifestKind

/-- Why reading the config layer failed; the two end-of-file errors are tolerated. -/
inductive DecodeError where
  | eof
  | unexpectedEof
  | failed (message : String)

/-- The text of a decode error. -/
def DecodeError.text : DecodeError → String
  | .eof => "EOF"
  | .unexpectedEof => "unexpected EOF"
  | .failed message => message

/-- What the prepare phase reads from outside the Manifest. -/
structure PrepareEnv where
  /-- `types.GetSpecType` on an install source. -/
  getSpecType : Value → Except String RefTypeMetadata
  /-- `codec.Decode` into a `HelmChartSpec`. -/
  decodeHelmChart : Value → Except String HelmChartSpec
  /-- `codec.Decode` into an `ImageSpec`. -/
  decodeImage : Value → Except String ImageSpec
  /-- `codec.Decode` into a `KustomizeSpec`. -/
  decodeKustomize : Value → Except String KustomizeSpec
  /-- `getChartPath`: the keychain, then `GetPathFromExtractedTarGz`. -/
  getChartPath : ImageSpec → Except String String
  /-- `resource.GetCRDsFromPath`. -/
  getCRDsFromPath : String → Except String (List String)
  /-- `runtime.DefaultUnstructuredConverter.ToUnstructured` of the Manifest. -/
  toUnstructured : Manifest → Except String Value
  /-- `getDecodedConfig`: the keychain, then `DecodeUncompressedLayer`. -/
  getDecodedConfig : ImageSpec → Except DecodeError Value
  /-- The cluster info of the renderer cached for an owner key, if one is cached. -/
  cachedClusterInfo : String → String → Option (Except String ClusterInfo)
  /-- The rest-config getter for an owner key (custom, or the secret of that name). -/
  restConfig : String → String → Except String String
  /-- `strvals.ParseInto` into a fresh map. -/
  parseInto : String → Except String Flags

/-- The records behind the `*types.InstallInfo` pointers; an address is a position. -/
abbrev Heap := List InstallInfo

/-- `*pointer`; `none` for a dangling address. -/
def Heap.read (heap : Heap) (address : Nat) : Option InstallInfo := heap[address]?

/-- `pointer.ChartInfo = chartInfo`. -/
def Heap.setChartInfo (heap : Heap) (address : Nat) (chartInfo : ChartInfo) : Heap :=
  heap.modify (fun info => { info with chartInfo := chartInfo }) address

@[simp] theorem Heap.length_setChartInfo (heap : Heap) (address : Nat) (chartInfo : ChartInfo) :
    (heap.setChartInfo address chartInfo).length = heap.length := by
  simp [Heap.setChartInfo]

@[simp] theorem Heap.read_setChartInfo (heap : Heap) (address : Nat) (chartInfo : ChartInfo) :
    (heap.setChartInfo address chartInfo).read address =
      (heap.read address).map fun info => { info with chartInfo := chartInfo } := by
  simp [Heap.setChartInfo, Heap.read, List.getElem?_modify]

section Phase

variable (env : PrepareEnv)

/-- `client.ObjectKeyFromObject(manifest).String()`. -/
def namespacedName (manifest : Manifest) : String := manifest.namespaceName ++ "/" ++ manifest.name

/-! ## Part 2 — per-install chart info and flags -/

/-- `createHelmChartInfo`. -/
def createHelmChartInfo (install : V1alpha1.InstallInfo) : Except String ChartInfo := do
  let helmChartSpec ← env.decodeHelmChart install.source
  pure { chartName := install.name ++ "/" ++ helmChartSpec.chartName, repoName := install.name,
         url := helmChartSpec.url }

/-- `createOciChartInfo`: the chart is extracted up front. -/
def createOciChartInfo (install : V1alpha1.InstallInfo) : Except String ChartInfo := do
  let imageSpec ← env.decodeImage install.source
  let chartPath ← env.getChartPath imageSpec
  pure { chartName := install.name, chartPath := chartPath }

/-- `createKustomizeChartInfo`. -/
def createKustomizeChartInfo (install : V1alpha1.InstallInfo) : Except String ChartInfo := do
  let kustomizeSpec ← env.decodeKustomize install.source
  pure { chartName := install.name, chartPath := kustomizeSpec.path, url := kustomizeSpec.url }

/-- `getChartInfoForInstall`: dispatch on the source type. -/
def getChartInfoForInstall (manifest : Manifest) (install : V1alpha1.InstallInfo) :
    Except String ChartInfo := do
  match ← env.getSpecType install.source with
  | .helmChartType => createHelmChartInfo env install
  | .ociRefType => createOciChartInfo env install
  | .kustomizeType => createKustomizeChartInfo env install
  | .nilRefType =>
    .error ("empty image type for " ++ namespacedName manifest ++ " resource chart installation")
  | .unsupported text =>
    .error ("unsupported type " ++ text ++ " of install for Manifest " ++ namespacedName manifest)

/-- `getConfigAndValuesForInstall`: the first config entry named after the install gives
`(clientConfig, overrides)`; entries before it must be maps. -/
def getConfigAndValuesForInstall (installName : String) :
    List Value → Except String (String × String)
  | [] => .ok ("", "")
  | config :: rest =>
    match config.asMap? with
    | none => .error (configReadError "config object")
    | some _ =>
      if (config.field? "name").bind Value.asString? = some installName then
        match (config.field? "overrides").bind Value.asString? with
        | none => .error (configReadError "config object overrides")
        | some overrides =>
          match (config.field? "clientConfig").bind Value.asString? with
          | none => .error (configReadError "chart config")
          | some clientConfig => .ok (clientConfig, overrides)
      else getConfigAndValuesForInstall installName rest

/-- `parseChartConfigAndValues`: both strings parsed by `strvals`. -/
def parseChartConfigAndValues (install : V1alpha1.InstallInfo) (configs : List Value)
    (namespacedName : String) : Except String (Flags × Flags) := do
  let (configString, valuesString) ← (getConfigAndValuesForInstall install.name configs).mapError
    fun err => "manifest " ++ namespacedName ++ " encountered an error while parsing chart config: " ++ err
  let config ← env.parseInto configString
  let values ← env.parseInto valuesString
  pure (config, values)

/-- The body of the loop of `parseInstallations` for one install, up to the write through the
pointer: the chart info with its release name and flags. -/
def chartInfoForInstall (manifest : Manifest) (configs : List Value) (install : V1alpha1.InstallInfo) :
    Except String ChartInfo := do
  let chartInfo ← getChartInfoForInstall env manifest install
  let (chartConfig, chartValues) ← parseChartConfigAndValues env install configs (namespacedName manifest)
  pure { chartInfo with releaseName := install.name,
                        flags := { configFlags := chartConfig, setFlags := chartValues } }

/-! ## Part 3 — the loop over the installs -/

/-- The loop of `parseInstallations` from an install on: `deployInfo := baseDeployInfo` copies the
pointer, `deployInfo.ChartInfo = chartInfo` writes through it, and the pointer is appended. -/
def parseInstallationsFrom (manifest : Manifest) (configs : List Value) (baseDeployInfo : Nat) :
    List V1alpha1.InstallInfo → List Nat → Heap → Except String (List Nat × Heap)
  | [], deployInfos, heap => .ok (deployInfos, heap)
  | install :: rest, deployInfos, heap => do
    let deployInfo := baseDeployInfo
    let chartInfo ← chartInfoForInstall env manifest configs install
    parseInstallationsFrom manifest configs baseDeployInfo rest (deployInfos ++ [deployInfo])
      (heap.setChartInfo deployInfo chartInfo)

/-- `parseInstallations`. -/
def parseInstallations (manifest : Manifest) (configs : List Value) (baseDeployInfo : Nat)
    (heap : Heap) : Except String (List Nat × Heap) :=
  parseInstallationsFrom env manifest configs baseDeployInfo manifest.spec.installs [] heap

/-- **What the loop computes.** On success every install's chart info was built (each from its
own install), the loop appended the base address once per install, and the heap is the old one
with the base record's chart info written once per install, in order. -/
theorem parseInstallationsFrom_ok {manifest : Manifest} {configs : List Value} {base : Nat}
    {installs : List V1alpha1.InstallInfo} {deployInfos : List Nat} {heap heap' : Heap}
    {result : List Nat}
    (ok : parseInstallationsFrom env manifest configs base installs deployInfos heap =
      .ok (result, heap')) :
    ∃ chartInfos, List.Forall₂ (fun install chartInfo =>
        chartInfoForInstall env manifest configs install = .ok chartInfo) installs chartInfos ∧
      result = deployInfos ++ List.replicate installs.length base ∧
      heap' = chartInfos.foldl (fun heap chartInfo => heap.setChartInfo base chartInfo) heap := by
  induction installs generalizing deployInfos heap with
  | nil =>
    simp only [parseInstallationsFrom, Except.ok.injEq, Prod.mk.injEq] at ok
    obtain ⟨rfl, rfl⟩ := ok
    exact ⟨[], .nil, by simp, rfl⟩
  | cons install rest ih =>
    simp only [parseInstallationsFrom, bind, Except.bind] at ok
    split at ok
    · cases ok
    · rename_i chartInfo built
      obtain ⟨chartInfos, mapped, appended, written⟩ := ih ok
      exact ⟨chartInfo :: chartInfos, .cons built mapped, by simp [appended, List.replicate_succ],
        written⟩

end Phase

/-- Writing the base record's chart info twice keeps the second write. -/
@[simp] theorem Heap.setChartInfo_setChartInfo (heap : Heap) (address : Nat)
    (first second : ChartInfo) :
    (heap.setChartInfo address first).setChartInfo address second =
      heap.setChartInfo address second := by
  simp only [Heap.setChartInfo, List.modify_modify_eq]
  rfl

/-- A run of writes to one record leaves the last one. -/
theorem Heap.foldl_setChartInfo (heap : Heap) (address : Nat) (first : ChartInfo)
    (rest : List ChartInfo) :
    (first :: rest).foldl (fun heap chartInfo => heap.setChartInfo address chartInfo) heap =
      heap.setChartInfo address ((first :: rest).getLast (List.cons_ne_nil first rest)) := by
  induction rest generalizing heap first with
  | nil => rfl
  | cons second rest ih =>
    simp only [List.foldl_cons] at ih ⊢
    rw [ih, List.getLast_cons_cons, Heap.setChartInfo_setChartInfo]

section Phase

variable (env : PrepareEnv)

/-- **Every entry the loop returns is one record**: the base record, carrying the chart info of
the *last* install. The chart info built for every other install is overwritten. -/
theorem parseInstallations_entries {manifest : Manifest} {configs : List Value} {base : Nat}
    {heap heap' : Heap} {deployInfos : List Nat}
    (ok : parseInstallations env manifest configs base heap = .ok (deployInfos, heap')) :
    ∃ chartInfos, List.Forall₂ (fun install chartInfo =>
        chartInfoForInstall env manifest configs install = .ok chartInfo)
        manifest.spec.installs chartInfos ∧
      deployInfos.length = manifest.spec.installs.length ∧
      ∀ address ∈ deployInfos, heap'.read address =
        (heap.read base).map fun info => { info with chartInfo := chartInfos.getLast?.getD {} } := by
  obtain ⟨chartInfos, built, rfl, rfl⟩ := parseInstallationsFrom_ok env ok
  refine ⟨chartInfos, built, by simp, ?_⟩
  intro address member
  obtain ⟨installed, rfl⟩ : manifest.spec.installs ≠ [] ∧ address = base := by simpa using member
  cases chartInfos with
  | nil => exact absurd (List.forall₂_nil_right_iff.mp built) installed
  | cons first rest =>
    rw [Heap.foldl_setChartInfo, Heap.read_setChartInfo, List.getLast?_eq_getLast _ (by simp)]
    rfl

/-! ## Part 4 — `GetInstallInfos` -/

/-- The fields of `internalTypes.ReconcileFlagConfig` the prepare phase reads. -/
structure ReconcileFlagConfig where
  checkReadyStates : Bool := false
  customStateCheck : Bool := false

/-- `parseCrds`: the CRD image is fetched only when its type is set. -/
def parseCrds (manifest : Manifest) : Except String (List String) :=
  if manifest.spec.crds.type ≠ "" then do
    let crdsPath ← env.getChartPath manifest.spec.crds
    env.getCRDsFromPath crdsPath
  else pure []

/-- `parseConfigs`: the `configs` array of the config layer; an end-of-file while decoding
reads as no config. -/
def parseConfigs (config : ImageSpec) : Except String (List Value) :=
  if config.type ≠ "" then
    match env.getDecodedConfig config with
    | .error .eof => .ok []
    | .error .unexpectedEof => .ok []
    | .error (.failed message) => .error message
    | .ok decodedConfig =>
      match decodedConfig.asMap? with
      | none => .error (configReadError ".spec.config")
      | some _ =>
        match decodedConfig.field? "configs" with
        | none => .ok []
        | some .null => .ok []
        | some configs =>
          match configs.asList? with
          | none => .error (configReadError "chart config object of .spec.config")
          | some configs => .ok configs
  else .ok []

/-- `getDestinationConfigAndClient`: the host cluster unless remote; else the cluster of the
renderer cached for the owner, or a fresh rest config for it. -/
def getDestinationConfigAndClient (defaultClusterInfo : ClusterInfo) (manifest : Manifest) :
    Except String ClusterInfo :=
  if !manifest.spec.remote then .ok defaultClusterInfo
  else
    match lookupString manifest.labels cacheKey with
    | none => .error ("label " ++ cacheKey ++ " not found on " ++ namespacedName manifest)
    | some kymaOwnerLabel =>
      match env.cachedClusterInfo kymaOwnerLabel manifest.namespaceName with
      | some clusterInfo => clusterInfo
      | none => do
        let restConfig ← env.restConfig kymaOwnerLabel manifest.namespaceName
        pure { config := some restConfig }

end Phase

/-- `InsertWatcherLabels`: a remote Manifest's custom resource of known kind is labelled as
owned by the Manifest and watched by the operator. -/
def insertWatcherLabels (manifest : Manifest) : Manifest :=
  match manifest.spec.resource with
  | some resource =>
    if !manifest.spec.remote || resource.getKind == "" then manifest
    else
      let ownedByValue := manifest.namespaceName ++ "/" ++ manifest.name
      let manifestLabels := (resource.getLabels.filter fun label =>
        label.1 != ownedByLabel && label.1 != watchedByLabel) ++
          [(ownedByLabel, ownedByValue), (watchedByLabel, operatorName)]
      { manifest with spec := { manifest.spec with resource := some (resource.setLabels manifestLabels) } }
  | none => manifest

@[simp] theorem insertWatcherLabels_installs (manifest : Manifest) :
    (insertWatcherLabels manifest).spec.installs = manifest.spec.installs := by
  unfold insertWatcherLabels
  split
  · split <;> rfl
  · rfl

section Phase

variable (env : PrepareEnv)

/-- `GetInstallInfos`: the base record is allocated, and `parseInstallations` gets its address. -/
def getInstallInfos (defaultClusterInfo : ClusterInfo) (flags : ReconcileFlagConfig)
    (manifest : Manifest) (heap : Heap) : Except String (List Nat × Heap) := do
  let crds ← parseCrds env manifest
  let manifestObjMetadata ← env.toUnstructured manifest
  let clusterInfo ← getDestinationConfigAndClient env defaultClusterInfo manifest
  let manifest := insertWatcherLabels manifest
  let baseDeployInfo : InstallInfo :=
    { clusterInfo := clusterInfo,
      resourceInfo := { crds := crds, baseResource := manifestObjMetadata,
                        customResources := manifest.spec.resource.toList },
      checkFn := some (if flags.customStateCheck then .checkFn else .defaultFn),
      checkReadyStates := flags.checkReadyStates }
  let configs ← parseConfigs env manifest.spec.config
  parseInstallations env manifest configs heap.length (heap ++ [baseDeployInfo])

/-- **One entry per install**: whenever `GetInstallInfos` succeeds it returns exactly
`len(Spec.Installs)` entries. -/
theorem getInstallInfos_length {defaultClusterInfo : ClusterInfo} {flags : ReconcileFlagConfig}
    {manifest : Manifest} {heap heap' : Heap} {deployInfos : List Nat}
    (ok : getInstallInfos env defaultClusterInfo flags manifest heap = .ok (deployInfos, heap')) :
    deployInfos.length = manifest.spec.installs.length := by
  simp only [getInstallInfos, bind, Except.bind] at ok
  split at ok <;> try cases ok
  split at ok <;> try cases ok
  split at ok <;> try cases ok
  split at ok <;> try cases ok
  obtain ⟨-, -, length, -⟩ := parseInstallations_entries env ok
  simpa using length

/-- Every entry `GetInstallInfos` returns carries the check the flags select and, as its base
resource, the Manifest as the converter returned it. -/
theorem getInstallInfos_records {defaultClusterInfo : ClusterInfo} {flags : ReconcileFlagConfig}
    {manifest : Manifest} {heap heap' : Heap} {deployInfos : List Nat}
    (ok : getInstallInfos env defaultClusterInfo flags manifest heap = .ok (deployInfos, heap')) :
    ∃ manifestObj, env.toUnstructured manifest = .ok manifestObj ∧
      ∀ address ∈ deployInfos, ∃ info, heap'.read address = some info ∧
        info.checkFn = some (if flags.customStateCheck then .checkFn else .defaultFn) ∧
        info.resourceInfo.baseResource = manifestObj := by
  simp only [getInstallInfos, bind, Except.bind] at ok
  split at ok <;> try cases ok
  split at ok <;> try cases ok
  rename_i manifestObj converted
  split at ok <;> try cases ok
  split at ok <;> try cases ok
  obtain ⟨_, -, -, records⟩ := parseInstallations_entries env ok
  refine ⟨manifestObj, converted, fun address member => ?_⟩
  rw [records address member]
  simp [Heap.read]

end Phase

/-! ## Part 5 — a Manifest with two Helm installs -/

/-- `json.Unmarshal` of a string field: a missing field or `null` leaves `""`. -/
def unmarshalString (source : Value) (key : String) : Except String String :=
  match source.field? key with
  | none => .ok ""
  | some .null => .ok ""
  | some (.str text) => .ok text
  | some _ => .error ("json: cannot unmarshal " ++ key ++ " into Go struct field of type string")

/-- The type tag of a source, from its `type` field. -/
def typeOfSource (source : Value) : Except String RefTypeMetadata := do
  match ← unmarshalString source "type" with
  | "helm-chart" => pure .helmChartType
  | "oci-ref" => pure .ociRefType
  | "kustomize" => pure .kustomizeType
  | "" => pure .nilRefType
  | text => pure (.unsupported text)

/-- A world with public Helm repositories only: sources are decoded as `json.Unmarshal` decodes
them, and there is no registry, config layer, CRD image or kubeconfig secret. -/
def helmRepositoryEnv : PrepareEnv where
  getSpecType := typeOfSource
  decodeHelmChart source := do
    pure { url := ← unmarshalString source "url", chartName := ← unmarshalString source "chartName" }
  decodeImage source := do
    pure { repo := ← unmarshalString source "repo", name := ← unmarshalString source "name",
           ref := ← unmarshalString source "ref", type := ← unmarshalString source "type" }
  decodeKustomize source := do
    pure { path := ← unmarshalString source "path", url := ← unmarshalString source "url" }
  getChartPath _ := .error "no registry"
  getCRDsFromPath _ := .ok []
  toUnstructured _ := .ok (.obj [])
  getDecodedConfig _ := .error .eof
  cachedClusterInfo _ _ := none
  restConfig _ _ := .error "no kubeconfig secret"
  parseInto := Strvals.parseInto

/-- A Helm install source. -/
def helmSource (chartName url : String) : Value :=
  .obj [("chartName", .str chartName), ("url", .str url), ("type", .str "helm-chart")]

/-- Two releases of the nginx chart of the spec's first scenario: `nginx-stable`, and a second
install `nginx-edge` of the same chart from the same repository. -/
def twoNginxReleases : Manifest where
  name := "manifest-sample"
  namespaceName := "default"
  spec := { installs :=
    [{ name := "nginx-stable", source := helmSource "nginx-ingress" "https://helm.nginx.com/stable" },
     { name := "nginx-edge", source := helmSource "nginx-ingress" "https://helm.nginx.com/stable" }] }

/-- Both entries `GetInstallInfos` returns for `twoNginxReleases` carry the chart and release of
the second install. -/
theorem getInstallInfos_aliases_chartInfo :
    (getInstallInfos helmRepositoryEnv {} {} twoNginxReleases []).map (fun result =>
      result.1.map fun address => (result.2.read address).map fun info =>
        (info.chartInfo.chartName, info.chartInfo.releaseName)) =
      .ok [some ("nginx-edge/nginx-ingress", "nginx-edge"),
           some ("nginx-edge/nginx-ingress", "nginx-edge")] := by
  rfl

end ModuleInstaller.Prepare
