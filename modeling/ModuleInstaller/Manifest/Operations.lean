import Mathlib.Data.Finset.Basic
import ModuleInstaller.Types.InstallInfo
/-
**The chart operations (`pkg/manifest/operations.go`): install, uninstall and check one chart.**

A worker turns one `InstallInfo` into an `operations` value (`newOperations`): the renderer it
runs through, taken from the renderer cache under the owner key of the base resource or built by
`getManifestProcessor`, and stored back on a miss. The operations then drive the target cluster:
`install` creates the CRDs, renders the chart (`getManifestForChartPath`), applies it and creates
the custom resources; `uninstall` removes the custom resources, renders the chart, hands it to the
renderer and removes the CRDs; `consistencyCheck` checks that all of it is still there.

The code outside this package is modelled as the spec describes it: the cluster is the set of
objects it holds and the `resource` calls create or delete objects of that set; the disk holds
the rendered-manifest files, the chart directories and the directories the process may not write
to; what the Helm and Kustomize libraries render, parse and report ready is the collaborator set
`OperationsEnv`.

* `checkObjects_create`, `checkObjects_check` — the create-only check adds exactly the missing
  objects, and the plain check passes exactly when nothing is missing;
* `getManifestForChartPath_cached` — a rendered-manifest file at the chart path is served as is,
  whatever the job's release name and flags;
* `getManifestForChartPath_render` — with no pre-rendered and no cached manifest the job's own
  rendering is returned and, under a writable chart path, written to the chart path's file;
* `newOperations_hit` — under an owner key the cache holds a renderer for, that renderer is used,
  whatever the job's chart kind and rest config;
* `uninstall_applies` — an uninstall that reports success has applied the chart's objects to the
  renderer's cluster, and only its CRDs can have left again.
-/

namespace ModuleInstaller.Manifest

open Types

/-! ## Part 1 — the target cluster -/

/-- `client.ObjectKey`. -/
structure ObjectKey where
  name : String := ""
  namespaceName : String := ""
  deriving DecidableEq, Repr

/-- An object on a cluster: its kind and key. -/
structure ClusterObject where
  kind : String
  key : ObjectKey
  deriving DecidableEq, Repr

/-- A cluster, as the set of objects it holds. -/
abbrev Cluster := Finset ClusterObject

/-- The object of a CRD of the job. -/
def crdObject (name : String) : ClusterObject := ⟨"CustomResourceDefinition", { name := name }⟩

/-- The object of a custom resource of the job. -/
def crObject (resource : Value) : ClusterObject :=
  ⟨resource.getKind, { name := resource.getName, namespaceName := resource.getNamespace }⟩

/-- An error of a call to a cluster, as `apierrors` and `meta` classify it. -/
inductive ApiError where
  | notFound (object : ClusterObject)
  | noMatch (kind : String)
  | failed (message : String)
  deriving DecidableEq, Repr

/-- The API server's text of an error. -/
def ApiError.text : ApiError → String
  | .notFound object => object.kind ++ " " ++ object.key.name ++ " not found"
  | .noMatch kind => "no matches for kind " ++ kind
  | .failed message => message

/-- `apierrors.IsNotFound`. -/
def ApiError.isNotFound : ApiError → Bool
  | .notFound _ => true
  | _ => false

/-- `meta.IsNoMatchError`. -/
def ApiError.isNoMatch : ApiError → Bool
  | .noMatch _ => true
  | _ => false

/-- Modelled from the spec: `resource.CheckCRDs` and `resource.CheckCRs` walk their objects in
order; one missing on the target is created when `createIfNotPresent` is set ("only create, never
update"), and is reported as not found otherwise. -/
def checkObjects (createIfNotPresent : Bool) : List ClusterObject → Cluster → Except ApiError Cluster
  | [], cluster => .ok cluster
  | object :: rest, cluster =>
    if object ∈ cluster then checkObjects createIfNotPresent rest cluster
    else if createIfNotPresent then checkObjects createIfNotPresent rest (insert object cluster)
    else .error (.notFound object)

/-- `resource.CheckCRDs`. -/
def checkCRDs (crds : List String) (cluster : Cluster) (createIfNotPresent : Bool) :
    Except ApiError Cluster :=
  checkObjects createIfNotPresent (crds.map crdObject) cluster

/-- `resource.CheckCRs`. -/
def checkCRs (crs : List Value) (cluster : Cluster) (createIfNotPresent : Bool) :
    Except ApiError Cluster :=
  checkObjects createIfNotPresent (crs.map crObject) cluster

/-- Modelled from the spec: `resource.RemoveCRs` deletes each custom resource ("best-effort
delete"); the model's API server removes an object at once, so the call reports them all
deleted. -/
def removeCRs (crs : List Value) (cluster : Cluster) : (Bool × Option ApiError) × Cluster :=
  ((true, none), cluster \ (crs.map crObject).toFinset)

/-- Modelled from the spec: `resource.RemoveCRDs` deletes each CRD and tolerates its absence. -/
def removeCRDs (crds : List String) (cluster : Cluster) : Option ApiError × Cluster :=
  (none, cluster \ (crds.map crdObject).toFinset)

theorem checkObjects_create (objects : List ClusterObject) (cluster : Cluster) :
    checkObjects true objects cluster = .ok (cluster ∪ objects.toFinset) := by
  induction objects generalizing cluster with
  | nil => simp [checkObjects]
  | cons object rest ih =>
    by_cases present : object ∈ cluster
    · simp only [checkObjects, if_pos present, ih, List.toFinset_cons]
      rw [Finset.union_insert, Finset.insert_eq_of_mem (Finset.mem_union_left _ present)]
    · simp only [checkObjects, if_neg present, if_true, ih, List.toFinset_cons,
        Finset.insert_union, Finset.union_insert]

theorem checkObjects_check (objects : List ClusterObject) (cluster : Cluster) :
    checkObjects false objects cluster =
      match objects.find? (· ∉ cluster) with
      | none => .ok cluster
      | some missing => .error (.notFound missing) := by
  induction objects with
  | nil => rfl
  | cons object rest ih =>
    by_cases present : object ∈ cluster
    · simp [checkObjects, present, ih]
    · simp [checkObjects, present]

/-! ## Part 2 — the disk and the rendered manifest -/

/-- The controller's disk, as far as the operations read and write it. -/
structure FileStore where
  /-- File contents by path; the first entry of a path is its content. -/
  files : List (String × String) := []
  /-- The chart directories that exist. -/
  directories : List String := []
  /-- The directories under which the process may not create files. -/
  readOnly : List String := []

/-- The content of the file at a path. -/
def FileStore.read (store : FileStore) (path : String) : Option String :=
  (store.files.find? (·.1 == path)).map (·.2)

/-- Why a file could not be written. -/
inductive WriteError where
  | permission (path : String)
  | failed (message : String)

/-- The OS's text of a write error. -/
def WriteError.text : WriteError → String
  | .permission path => "open " ++ path ++ ": permission denied"
  | .failed message => message

/-- `os.IsPermission`. -/
def WriteError.isPermission : WriteError → Bool
  | .permission _ => true
  | .failed _ => false

/-- `util.ManifestDir`, the directory under a chart path that the tests clear the cached
manifest from; its value is not under src/. -/
def manifestDir : String := "manifest"

/-- Modelled from the spec: `util.GetFsManifestChartPath`, the file the rendered manifest of a
chart is cached in, `manifest.yaml` under the chart path's `util.ManifestDir`. -/
def getFsManifestChartPath (chartPath : String) : String :=
  chartPath ++ "/" ++ manifestDir ++ "/manifest.yaml"

/-- Modelled from the spec: `util.WriteToFile` replaces the file's content, and fails for
permission under a read-only directory. -/
def writeToFile (store : FileStore) (path content : String) : Except WriteError FileStore :=
  if store.readOnly.any fun directory => (directory ++ "/").isPrefixOf path then
    .error (.permission path)
  else .ok { store with files := (path, content) :: store.files }

theorem FileStore.read_cons (store : FileStore) (path content other : String) :
    ({ store with files := (path, content) :: store.files } : FileStore).read other =
      if path = other then some content else store.read other := by
  by_cases same : path = other <;> simp [FileStore.read, List.find?_cons, same]

theorem getFsManifestChartPath_injective {chartPath other : String}
    (same : getFsManifestChartPath chartPath = getFsManifestChartPath other) : chartPath = other := by
  simpa [getFsManifestChartPath, String.ext_iff] using same

/-! ## Part 3 — the renderer and its collaborators -/

/-- `resource.ChartKind`. -/
inductive ChartKind where
  | helmKind
  | kustomizeKind
  | unknownKind
  deriving DecidableEq, Repr

/-- The two processors behind a `types.RenderSrc`: `NewHelmProcessor` and `NewKustomizeProcessor`. -/
inductive ProcessorKind where
  | helm
  | kustomize
  deriving DecidableEq, Repr

/-- A `types.RenderSrc` as `getManifestProcessor` builds it: the processor and the rest config its
clients were built from. -/
structure RenderSrc where
  kind : ProcessorKind
  config : Option String
  deriving DecidableEq, Repr

/-- `types.ObjectTransform`: a post-render transform of the objects, given the base resource. -/
abbrev ObjectTransform := Value → List ClusterObject → Except String (List ClusterObject)

/-- The collaborators of the operations outside this package: client construction,
`resource.GetChartKind`, and what the Helm and Kustomize libraries render, parse and report. -/
structure OperationsEnv where
  /-- `getMemCacheClient`: a discovery client for the rest config, or why there is none. -/
  getMemCacheClient : Option String → Except String Unit
  /-- `resource.GetChartKind`, from the chart coordinates and the files under the chart path. -/
  getChartKind : InstallInfo → Except String ChartKind
  /-- `NewHelmProcessor` on the rest config. -/
  newHelmProcessor : Option String → Except String Unit
  /-- `dynamic.NewForConfig`. -/
  newForConfig : Option String → Except String Unit
  /-- A processor's `GetRawManifest`: the job's chart rendered with its release name and flags. -/
  getRawManifest : ProcessorKind → InstallInfo → Except String String
  /-- The objects a processor reads from a rendered manifest. -/
  parseManifest : ProcessorKind → String → Except String (List ClusterObject)
  /-- The readiness check of applied objects on their cluster. -/
  resourcesReady : List ClusterObject → Cluster → Bool
  /-- `resource.GetStringifiedYamlFromDirPath`: the manifest pre-rendered in a chart directory. -/
  getStringifiedYamlFromDirPath : String → Except String String
  /-- The custom-state check of `custom.Resource` on the target cluster. -/
  checkCustomStates : InstallInfo → Cluster → Except String Bool

/-- What the operations read and change outside the process: the disk and the clusters. -/
structure World where
  files : FileStore := {}
  /-- The objects of each cluster, by the rest config or client that reaches it. -/
  clusters : Option String → Cluster := fun _ => ∅

/-- The world with one cluster replaced. -/
def World.setCluster (world : World) (target : Option String) (cluster : Cluster) : World :=
  { world with clusters := Function.update world.clusters target cluster }

@[simp] theorem World.clusters_setCluster_self (world : World) (target : Option String)
    (cluster : Cluster) : (world.setCluster target cluster).clusters target = cluster := by
  simp [World.setCluster]

@[simp] theorem World.files_setCluster (world : World) (target : Option String)
    (cluster : Cluster) : (world.setCluster target cluster).files = world.files := rfl

section Renderer

variable (env : OperationsEnv)

/-- `getManifestProcessor`: the Helm processor for a Helm or unknown chart, the Kustomize one for a
Kustomization, each on the job's rest config. -/
def getManifestProcessor (deployInfo : InstallInfo) : Except String RenderSrc := do
  match ← env.getChartKind deployInfo with
  | .helmKind | .unknownKind =>
    env.newHelmProcessor deployInfo.clusterInfo.config
    pure ⟨.helm, deployInfo.clusterInfo.config⟩
  | .kustomizeKind =>
    (env.newForConfig deployInfo.clusterInfo.config).mapError ("error creating dynamic client: " ++ ·)
    pure ⟨.kustomize, deployInfo.clusterInfo.config⟩

/-- `rendered.GetManifestResources`: the manifest pre-rendered at the chart path, none without one. -/
def getManifestResources (_chartName chartPath : String) : Except String String :=
  if chartPath = "" then .ok "" else env.getStringifiedYamlFromDirPath chartPath

/-- `rendered.GetCachedResources`: the cached rendered-manifest file of an existing chart path; a
missing file reads as the empty manifest. -/
def getCachedResources (_chartName chartPath : String) (files : FileStore) : Except String String :=
  if chartPath = "" then .ok ""
  else if chartPath ∉ files.directories then .error ("stat " ++ chartPath ++ ": no such file or directory")
  else .ok ((files.read (getFsManifestChartPath chartPath)).getD "")

/-- Modelled from the spec: the objects a processor applies for a rendered manifest, parsed and
then passed through every post-render transform in order. -/
def RenderSrc.transformedResources (renderSrc : RenderSrc) (manifest : String)
    (deployInfo : InstallInfo) (transforms : List ObjectTransform) :
    Except String (List ClusterObject) := do
  let objects ← env.parseManifest renderSrc.kind manifest
  transforms.foldlM (fun objects transform => transform deployInfo.resourceInfo.baseResource objects)
    objects

/-- Modelled from the spec: a processor's `Install` applies the transformed objects to its cluster
and reports them ready when readiness is not checked or the check passes. -/
def RenderSrc.install (renderSrc : RenderSrc) (manifest : String) (deployInfo : InstallInfo)
    (transforms : List ObjectTransform) (world : World) : Except String Bool × World :=
  match renderSrc.transformedResources env manifest deployInfo transforms with
  | .error err => (.error err, world)
  | .ok objects =>
    let cluster := world.clusters renderSrc.config ∪ objects.toFinset
    (.ok (!deployInfo.checkReadyStates || env.resourcesReady objects cluster),
      world.setCluster renderSrc.config cluster)

/-- Modelled from the spec: a processor's `IsConsistent` holds when every transformed object is
still on its cluster and, where readiness is checked, ready. -/
def RenderSrc.isConsistent (renderSrc : RenderSrc) (manifest : String) (deployInfo : InstallInfo)
    (transforms : List ObjectTransform) (world : World) : Except String Bool := do
  let objects ← renderSrc.transformedResources env manifest deployInfo transforms
  let cluster := world.clusters renderSrc.config
  pure (objects.all (· ∈ cluster) && (!deployInfo.checkReadyStates || env.resourcesReady objects cluster))

/-- Modelled from the spec: the job's `CheckFn`; the default one always reports ready. -/
def runCheckFn (deployInfo : InstallInfo) (world : World) : Except String Bool :=
  match deployInfo.checkFn with
  | none | some .defaultFn => .ok true
  | some .checkFn => env.checkCustomStates deployInfo (world.clusters deployInfo.clusterInfo.client)

end Renderer

/-! ## Part 4 — the renderer cache and `newOperations` -/

/-- `operations`: the renderer the job runs through, its chart flags and the post-render
transforms. -/
structure Operations where
  renderSrc : RenderSrc
  flags : ChartFlags
  resourceTransforms : List ObjectTransform

/-- The renderer cache behind `types.RendererCache`: renderers by owner key, the latest first. -/
structure RendererCache where
  entries : List (ObjectKey × RenderSrc) := []

/-- `RendererCache.Get`. -/
def RendererCache.get (cache : RendererCache) (key : ObjectKey) : Option RenderSrc :=
  (cache.entries.find? (·.1 == key)).map (·.2)

/-- `RendererCache.Set`. -/
def RendererCache.set (cache : RendererCache) (key : ObjectKey) (renderSrc : RenderSrc) :
    RendererCache :=
  ⟨(key, renderSrc) :: cache.entries⟩

/-- `RendererCache.Delete`, the eviction other callers may make. -/
def RendererCache.delete (cache : RendererCache) (key : ObjectKey) : RendererCache :=
  ⟨cache.entries.filter (·.1 != key)⟩

@[simp] theorem RendererCache.get_set_self (cache : RendererCache) (key : ObjectKey)
    (renderSrc : RenderSrc) : (cache.set key renderSrc).get key = some renderSrc := by
  simp [RendererCache.get, RendererCache.set]

/-- `discoverCacheKey`: the `cache-key` label of the base resource and its namespace; a missing
label gives the empty name, its error being only logged. The source's nil branch returns the empty
key, which is what a resource with no labels and no namespace gives as well. -/
def discoverCacheKey (resource : Value) : ObjectKey :=
  { name := (lookupString resource.getLabels V1alpha1.cacheKey).getD "",
    namespaceName := resource.getNamespace }

section Cache

variable (env : OperationsEnv)

/-- The cache lookup of `newOperations`, made only with a cache and a nonempty owner name. -/
def lookupRenderer (cache : Option RendererCache) (deployInfo : InstallInfo) : Option RenderSrc :=
  let cacheKey := discoverCacheKey deployInfo.resourceInfo.baseResource
  match cache with
  | some cache => if cacheKey.name ≠ "" then cache.get cacheKey else none
  | none => none

/-- The miss branch of `newOperations`: build the renderer and store it under the owner key. -/
def createRenderer (cache : Option RendererCache) (deployInfo : InstallInfo) :
    Except String (RenderSrc × Option RendererCache) := do
  let cacheKey := discoverCacheKey deployInfo.resourceInfo.baseResource
  env.getMemCacheClient deployInfo.clusterInfo.config
  let renderSrc ← (getManifestProcessor env deployInfo).mapError
    ("unable to create manifest processor: " ++ ·)
  match cache with
  | some cache => pure (renderSrc, some (if cacheKey.name ≠ "" then cache.set cacheKey renderSrc else cache))
  | none => pure (renderSrc, none)

/-- `newOperations`: the cached renderer of the owner, or a new one stored under its key. -/
def newOperations (deployInfo : InstallInfo) (resourceTransforms : List ObjectTransform)
    (cache : Option RendererCache) : Except String (Operations × Option RendererCache) := do
  let (renderSrc, cache) ← match lookupRenderer cache deployInfo with
    | some renderSrc => pure (renderSrc, cache)
    | none => createRenderer env cache deployInfo
  pure (⟨renderSrc, deployInfo.chartInfo.flags, resourceTransforms⟩, cache)

/-- **Under an owner key the cache holds a renderer for, that renderer is used**, whatever the
job's chart kind and rest config, and the cache is left as it is. -/
theorem newOperations_hit {cache : RendererCache} {deployInfo : InstallInfo} {renderSrc : RenderSrc}
    (keyed : (discoverCacheKey deployInfo.resourceInfo.baseResource).name ≠ "")
    (cached : cache.get (discoverCacheKey deployInfo.resourceInfo.baseResource) = some renderSrc)
    (resourceTransforms : List ObjectTransform) :
    newOperations env deployInfo resourceTransforms (some cache) =
      .ok (⟨renderSrc, deployInfo.chartInfo.flags, resourceTransforms⟩, some cache) := by
  simp [newOperations, lookupRenderer, keyed, cached]
  rfl

end Cache

/-! ## Part 5 — the operations -/

section Steps

variable (env : OperationsEnv)

/-- `return false, err`: the error when there is one, else "not ready". -/
def falseOr : Option String → Except String Bool
  | none => .ok false
  | some err => .error err

/-- `getManifestForChartPath`: the pre-rendered manifest, else the cached rendering, else a fresh
rendering, written to the chart path's file when there is a chart path. A write refused for
permission is only logged; on another write error the code returns the rendering next to the
error, and every caller drops it. -/
def Operations.getManifestForChartPath (o : Operations) (deployInfo : InstallInfo)
    (files : FileStore) : Except String String × FileStore :=
  let chartInfo := deployInfo.chartInfo
  match getManifestResources env chartInfo.chartName chartInfo.chartPath with
  | .error err => (.error err, files)
  | .ok renderedManifest =>
    if renderedManifest ≠ "" then (.ok renderedManifest, files) else
    match getCachedResources chartInfo.chartName chartInfo.chartPath files with
    | .error err => (.error err, files)
    | .ok renderedManifest =>
      if renderedManifest ≠ "" then (.ok renderedManifest, files) else
      match env.getRawManifest o.renderSrc.kind deployInfo with
      | .error err => (.error err, files)
      | .ok renderedManifest =>
        if chartInfo.chartPath = "" then (.ok renderedManifest, files) else
        match writeToFile files (getFsManifestChartPath chartInfo.chartPath) renderedManifest with
        | .ok files => (.ok renderedManifest, files)
        | .error err =>
          if err.isPermission then (.ok renderedManifest, files) else (.error err.text, files)

/-- `operations.install`: CRDs (create only), the rendered chart, the custom resources (create
only), then the job's check. -/
def Operations.install (o : Operations) (deployInfo : InstallInfo) (world : World) :
    Except String Bool × World :=
  let client := deployInfo.clusterInfo.client
  match checkCRDs deployInfo.resourceInfo.crds (world.clusters client) true with
  | .error err => (.error err.text, world)
  | .ok cluster =>
    let world := world.setCluster client cluster
    match o.getManifestForChartPath env deployInfo world.files with
    | (.error err, files) => (.error err, { world with files := files })
    | (.ok manifest, files) =>
      match o.renderSrc.install env manifest deployInfo o.resourceTransforms
          { world with files := files } with
      | (.ok true, world) =>
        match checkCRs deployInfo.resourceInfo.customResources (world.clusters client) true with
        | .error err => (.error err.text, world)
        | .ok cluster =>
          let world := world.setCluster client cluster
          (runCheckFn env deployInfo world, world)
      | (result, world) => (result, world)

/-- `operations.uninstall`: custom resources first (a missing kind is fine), then the rendered
chart is handed to the renderer's `Install`, then the CRDs, then the job's check. -/
def Operations.uninstall (o : Operations) (deployInfo : InstallInfo) (world : World) :
    Except String Bool × World :=
  let client := deployInfo.clusterInfo.client
  let ((deleted, err), cluster) :=
    removeCRs deployInfo.resourceInfo.customResources (world.clusters client)
  let world := world.setCluster client cluster
  if !(err.any ApiError.isNoMatch) && (err.isSome || !deleted) then
    (falseOr (err.map ApiError.text), world)
  else
    match o.getManifestForChartPath env deployInfo world.files with
    | (.error err, files) => (.error err, { world with files := files })
    | (.ok manifest, files) =>
      match o.renderSrc.install env manifest deployInfo o.resourceTransforms
          { world with files := files } with
      | (.ok true, world) =>
        match removeCRDs deployInfo.resourceInfo.crds (world.clusters client) with
        | (some err, cluster) => (.error err.text, world.setCluster client cluster)
        | (none, cluster) =>
          let world := world.setCluster client cluster
          (runCheckFn env deployInfo world, world)
      | (result, world) => (result, world)

/-- `operations.consistencyCheck`: CRDs and custom resources present (a missing one is "not
ready"), the rendered chart consistent on the cluster, then the job's check. -/
def Operations.consistencyCheck (o : Operations) (deployInfo : InstallInfo) (world : World) :
    Except String Bool × World :=
  let client := deployInfo.clusterInfo.client
  match checkCRDs deployInfo.resourceInfo.crds (world.clusters client) false with
  | .error err => (if err.isNotFound then .ok false else .error err.text, world)
  | .ok _ =>
    match checkCRs deployInfo.resourceInfo.customResources (world.clusters client) false with
    | .error err => (if err.isNotFound then .ok false else .error err.text, world)
    | .ok _ =>
      match o.getManifestForChartPath env deployInfo world.files with
      | (.error err, files) => (.error err, { world with files := files })
      | (.ok manifest, files) =>
        let world := { world with files := files }
        match o.renderSrc.isConsistent env manifest deployInfo o.resourceTransforms world with
        | .ok true => (runCheckFn env deployInfo world, world)
        | .ok false => (.ok false, world)
        | .error err => (.error err, world)

/-- `InstallChart`, `UninstallChart` and `ConsistencyCheck`: build the operations for the job
through the cache, then run one of them; a failed build is returned as the call's error. -/
def runChart (operation : Operations → InstallInfo → World → Except String Bool × World)
    (deployInfo : InstallInfo) (resourceTransforms : List ObjectTransform)
    (cache : Option RendererCache) (world : World) :
    (Except String Bool × Option RendererCache) × World :=
  match newOperations env deployInfo resourceTransforms cache with
  | .error err => ((.error err, cache), world)
  | .ok (ops, cache) =>
    let (result, world) := operation ops deployInfo world
    ((result, cache), world)

/-- `InstallChart`. -/
def installChart := runChart env (Operations.install env)

/-- `UninstallChart`. -/
def uninstallChart := runChart env (Operations.uninstall env)

/-- `ConsistencyCheck`. -/
def consistencyCheck := runChart env (Operations.consistencyCheck env)

/-! ## Part 6 — what each step does -/

/-- An entry point leaves the world as it was when the operations cannot be built, and as the
operation left it otherwise. -/
theorem runChart_world (operation : Operations → InstallInfo → World → Except String Bool × World)
    (deployInfo : InstallInfo) (resourceTransforms : List ObjectTransform)
    (cache : Option RendererCache) (world : World) :
    (runChart env operation deployInfo resourceTransforms cache world).2 = world ∨
      ∃ ops, (runChart env operation deployInfo resourceTransforms cache world).2 =
        (operation ops deployInfo world).2 := by
  unfold runChart
  split
  · exact .inl rfl
  · exact .inr ⟨_, rfl⟩

theorem writeToFile_eq (store : FileStore) (path content : String) :
    writeToFile store path content = .error (.permission path) ∨
      writeToFile store path content = .ok { store with files := (path, content) :: store.files } := by
  unfold writeToFile
  split <;> simp

/-- A cached manifest comes from the chart path's file, under an existing chart path. -/
theorem getCachedResources_eq_ok {chartName chartPath : String} {files : FileStore}
    {manifest : String} (found : getCachedResources chartName chartPath files = .ok manifest)
    (nonempty : manifest ≠ "") :
    chartPath ≠ "" ∧ chartPath ∈ files.directories ∧
      files.read (getFsManifestChartPath chartPath) = some manifest := by
  unfold getCachedResources at found
  split_ifs at found with empty present
  · cases found
    exact absurd rfl nonempty
  · cases found
    refine ⟨empty, present, ?_⟩
    cases read : files.read (getFsManifestChartPath chartPath)
    · simp [read] at nonempty
    · rfl

/-- **A rendered-manifest file at the chart path is served as is**, whatever the job's release
name and flags: the renderer is not asked. -/
theorem getManifestForChartPath_cached (o : Operations) {deployInfo : InstallInfo}
    {files : FileStore} {manifest : String}
    (notPreRendered : getManifestResources env deployInfo.chartInfo.chartName
      deployInfo.chartInfo.chartPath = .ok "")
    (hasPath : deployInfo.chartInfo.chartPath ≠ "")
    (present : deployInfo.chartInfo.chartPath ∈ files.directories)
    (cached : files.read (getFsManifestChartPath deployInfo.chartInfo.chartPath) = some manifest)
    (nonempty : manifest ≠ "") :
    o.getManifestForChartPath env deployInfo files = (.ok manifest, files) := by
  simp [Operations.getManifestForChartPath, notPreRendered, getCachedResources, hasPath, present,
    cached, nonempty]

/-- With no pre-rendered and no cached manifest, the job's own rendering is returned; the chart
path's file then holds it, unless there is no chart path or the write was refused. -/
theorem getManifestForChartPath_render (o : Operations) {deployInfo : InstallInfo}
    {files : FileStore} {manifest : String}
    (notPreRendered : getManifestResources env deployInfo.chartInfo.chartName
      deployInfo.chartInfo.chartPath = .ok "")
    (notCached : getCachedResources deployInfo.chartInfo.chartName deployInfo.chartInfo.chartPath
      files = .ok "")
    (rendered : env.getRawManifest o.renderSrc.kind deployInfo = .ok manifest) :
    (o.getManifestForChartPath env deployInfo files).1 = .ok manifest ∧
      ((o.getManifestForChartPath env deployInfo files).2 = files ∨
        (o.getManifestForChartPath env deployInfo files).2 =
          { files with files := (getFsManifestChartPath deployInfo.chartInfo.chartPath, manifest) ::
            files.files }) := by
  simp only [Operations.getManifestForChartPath, notPreRendered, notCached, rendered, ne_eq,
    not_true_eq_false, if_false]
  split
  · exact ⟨rfl, .inl rfl⟩
  · rcases writeToFile_eq files (getFsManifestChartPath deployInfo.chartInfo.chartPath) manifest
      with refused | written
    · simp [refused, WriteError.isPermission]
    · simp [written]

/-- The getters never change the disk: only a fresh rendering is written, and only to the chart
path's file. -/
theorem getManifestForChartPath_files (o : Operations) (deployInfo : InstallInfo)
    (files : FileStore) :
    (o.getManifestForChartPath env deployInfo files).2 = files ∨
      ∃ manifest, env.getRawManifest o.renderSrc.kind deployInfo = .ok manifest ∧
        (o.getManifestForChartPath env deployInfo files).2 =
          { files with files := (getFsManifestChartPath deployInfo.chartInfo.chartPath, manifest) ::
            files.files } := by
  unfold Operations.getManifestForChartPath
  dsimp only
  -- every exit before the write leaves the files as they are
  iterate 6 (split; exact .inl rfl)
  rename_i manifest rendered _
  rcases writeToFile_eq files (getFsManifestChartPath deployInfo.chartInfo.chartPath) manifest
    with refused | stored
  · simp [refused, WriteError.isPermission]
  · exact .inr ⟨manifest, rendered, by simp [stored]⟩

@[simp] theorem RenderSrc.files_install (renderSrc : RenderSrc) (manifest : String)
    (deployInfo : InstallInfo) (transforms : List ObjectTransform) (world : World) :
    (renderSrc.install env manifest deployInfo transforms world).2.files = world.files := by
  unfold RenderSrc.install
  split <;> rfl

theorem RenderSrc.files_of_install (renderSrc : RenderSrc) {manifest : String}
    {deployInfo : InstallInfo} {transforms : List ObjectTransform} {world next : World}
    {result : Except String Bool}
    (applied : renderSrc.install env manifest deployInfo transforms world = (result, next)) :
    next.files = world.files := by
  rw [← RenderSrc.files_install env renderSrc manifest deployInfo transforms world, applied]

/-- The disk after an install: as it was, or as `getManifestForChartPath` left it. -/
theorem Operations.files_install (o : Operations) (deployInfo : InstallInfo) (world : World) :
    (o.install env deployInfo world).2.files = world.files ∨
      (o.install env deployInfo world).2.files =
        (o.getManifestForChartPath env deployInfo world.files).2 := by
  unfold Operations.install
  dsimp only
  split
  · exact .inl rfl
  · simp only [World.files_setCluster]
    right
    split <;> rename_i rendered <;> rw [rendered]
    split <;> rename_i applied <;> have kept := o.renderSrc.files_of_install env applied
    · split <;> exact kept
    · exact kept

/-- The disk after an uninstall: as it was, or as `getManifestForChartPath` left it. -/
theorem Operations.files_uninstall (o : Operations) (deployInfo : InstallInfo) (world : World) :
    (o.uninstall env deployInfo world).2.files = world.files ∨
      (o.uninstall env deployInfo world).2.files =
        (o.getManifestForChartPath env deployInfo world.files).2 := by
  simp only [Operations.uninstall, removeCRs, Option.any_none, Option.isSome_none, Bool.not_true,
    Bool.or_false, Bool.and_false, Bool.false_eq_true, if_false, World.files_setCluster]
  right
  split <;> rename_i rendered <;> rw [rendered]
  split <;> rename_i applied <;> have kept := o.renderSrc.files_of_install env applied
  · split <;> exact kept
  · exact kept

/-- The disk after a consistency check: as it was, or as `getManifestForChartPath` left it. -/
theorem Operations.files_consistencyCheck (o : Operations) (deployInfo : InstallInfo)
    (world : World) :
    (o.consistencyCheck env deployInfo world).2.files = world.files ∨
      (o.consistencyCheck env deployInfo world).2.files =
        (o.getManifestForChartPath env deployInfo world.files).2 := by
  unfold Operations.consistencyCheck
  dsimp only
  split
  · exact .inl rfl
  split
  · exact .inl rfl
  right
  split <;> rename_i rendered <;> rw [rendered]
  split <;> rfl

/-- What an applying `Install` did: it applied the transformed objects to the renderer's
cluster. -/
theorem RenderSrc.install_eq_ok (renderSrc : RenderSrc) {manifest : String}
    {deployInfo : InstallInfo} {transforms : List ObjectTransform} {world next : World}
    {ready : Bool} (applied : renderSrc.install env manifest deployInfo transforms world = (.ok ready, next)) :
    ∃ objects, renderSrc.transformedResources env manifest deployInfo transforms = .ok objects ∧
      next = world.setCluster renderSrc.config (world.clusters renderSrc.config ∪ objects.toFinset) := by
  unfold RenderSrc.install at applied
  split at applied
  · cases applied
  · cases applied
    exact ⟨_, ‹_›, rfl⟩

/-- **An uninstall that reports success has applied the chart's objects** to the renderer's
cluster; of them only the job's CRDs can have been removed again. -/
theorem uninstall_applies (o : Operations) {deployInfo : InstallInfo} {world next : World}
    (succeeded : o.uninstall env deployInfo world = (.ok true, next)) :
    ∃ manifest objects,
      o.renderSrc.transformedResources env manifest deployInfo o.resourceTransforms = .ok objects ∧
        ∀ object ∈ objects, object ∉ deployInfo.resourceInfo.crds.map crdObject →
          object ∈ next.clusters o.renderSrc.config := by
  simp only [Operations.uninstall, removeCRs, Option.any_none, Option.isSome_none, Bool.not_true,
    Bool.or_false, Bool.and_false, Bool.false_eq_true, if_false] at succeeded
  split at succeeded
  · cases succeeded
  · rename_i manifest _ _
    split at succeeded
    · rename_i applied
      obtain ⟨objects, transformed, rfl⟩ := o.renderSrc.install_eq_ok env applied
      simp only [removeCRDs] at succeeded
      obtain ⟨-, rfl⟩ := Prod.mk.inj succeeded
      refine ⟨manifest, objects, transformed, fun object listed notCrd => ?_⟩
      by_cases same : o.renderSrc.config = deployInfo.clusterInfo.client
      · simp [World.setCluster, same, listed, notCrd, List.mem_toFinset]
      · simp [World.setCluster, Function.update_noteq same, listed]
    · simp_all

end Steps

/-! ## Part 7 — a Helm chart and a Kustomization under one owner -/

/-- The collaborators of the examples: every client builds; a chart with a repository or a chart
directory is a Helm chart, one with only a URL a Kustomization; a rendering names the processor,
the chart and the release, and stands for one Deployment of that name; nothing is pre-rendered,
and whatever is applied is ready. -/
def sampleEnv : OperationsEnv where
  getMemCacheClient _ := .ok ()
  getChartKind deployInfo :=
    .ok (if deployInfo.chartInfo.repoName = "" ∧ deployInfo.chartInfo.chartPath = "" then .kustomizeKind
      else .helmKind)
  newHelmProcessor _ := .ok ()
  newForConfig _ := .ok ()
  getRawManifest kind deployInfo :=
    .ok ((match kind with | .helm => "helm" | .kustomize => "kustomize") ++ " " ++
      deployInfo.chartInfo.chartName ++ " " ++ deployInfo.chartInfo.releaseName)
  parseManifest _ manifest := .ok [⟨"Deployment", { name := manifest, namespaceName := "default" }⟩]
  resourcesReady _ _ := true
  getStringifiedYamlFromDirPath _ := .ok ""
  checkCustomStates _ _ := .ok true

/-- The base resource of the jobs of a Manifest labelled with the owner `kyma-sample`. -/
def ownedManifest : Value :=
  .obj [("metadata", .obj [("name", .str "manifest-sample"), ("namespace", .str "default"),
    ("labels", .obj [(V1alpha1.cacheKey, .str "kyma-sample")])])]

/-- The Helm install of the controller tests: the `nginx-ingress` chart of the nginx repository. -/
def nginxChart : InstallInfo where
  chartInfo := { chartName := "nginx-stable/nginx-ingress", repoName := "nginx-stable",
                 url := "https://helm.nginx.com/stable", releaseName := "nginx-stable" }
  resourceInfo := { baseResource := ownedManifest }

/-- The remote Kustomization of the controller tests, under the same owner. -/
def remoteKustomization : InstallInfo where
  chartInfo := { chartName := "kustomize-test",
                 url := "https://github.com/kyma-project/module-manager//operator/config/default?ref=main",
                 releaseName := "kustomize-test" }
  resourceInfo := { baseResource := ownedManifest }

example : discoverCacheKey nginxChart.resourceInfo.baseResource =
    { name := "kyma-sample", namespaceName := "default" } := by decide

end ModuleInstaller.Manifest
