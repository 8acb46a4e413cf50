import ModuleInstaller.Manifest.RendererCache
/-
**Chart calls one after another: what the rendered-manifest files and the clusters keep.**

Workers call `InstallChart`, `UninstallChart` and `ConsistencyCheck` for any jobs, through the
shared renderer cache or without one; between calls the process keeps the disk, the clusters and
the cache. The rendered-manifest file of a chart path is named after the chart path alone.

* `Process.run_renderedFiles` — over every sequence of calls, each chart path's manifest file
  holds a rendering of some job with that chart path, as it did at the start;
* `served_rendering_of_chart_path` — so what `getManifestForChartPath` hands a job with no
  pre-rendered manifest is a rendering of a job with its chart path, not necessarily its own;
* **`run_serves_rendering_of_chart_path`** — the two together: after any sequence of calls from a
  disk with no stray manifest file, what such a job is served is a rendering of its chart path;
* `stale_rendering_served` — a job after another of the same chart path and another release name
  is served the other's rendering;
* `uninstalled_chart_left_on_cluster` — an install and an uninstall that both succeed leave the
  chart's Deployment on the cluster they started from empty.
-/

namespace ModuleInstaller.Manifest

open Types

/-! ## Part 1 — the process and its calls -/

/-- The three entry points of the package. -/
inductive ChartOperation where
  | install
  | uninstall
  | consistencyCheck
  deriving DecidableEq, Repr

/-- A call a worker makes: an entry point for a job, its post-render transforms, and whether it
passes the shared renderer cache. -/
structure ChartCall where
  operation : ChartOperation
  deployInfo : InstallInfo
  resourceTransforms : List ObjectTransform := []
  cached : Bool := true

/-- What the process keeps between calls. -/
structure Process where
  world : World := {}
  cache : RendererCache := {}

section Calls

variable (env : OperationsEnv)

/-- The operation an entry point runs. -/
def ChartOperation.run : ChartOperation → Operations → InstallInfo → World → Except String Bool × World
  | .install => Operations.install env
  | .uninstall => Operations.uninstall env
  | .consistencyCheck => Operations.consistencyCheck env

/-- One call: `InstallChart`, `UninstallChart` or `ConsistencyCheck` of the job. -/
def Process.call (process : Process) (call : ChartCall) : Process :=
  let ((_, cache), world) := runChart env (call.operation.run env) call.deployInfo
    call.resourceTransforms (if call.cached then some process.cache else none) process.world
  { world := world, cache := cache.getD process.cache }

theorem Process.world_call (process : Process) (call : ChartCall) :
    (process.call env call).world = (runChart env (call.operation.run env) call.deployInfo
      call.resourceTransforms (if call.cached then some process.cache else none) process.world).2 :=
  rfl

/-- A sequence of calls. -/
def Process.run (process : Process) (calls : List ChartCall) : Process :=
  calls.foldl (Process.call env) process

/-! ## Part 2 — the rendered-manifest files -/

/-- Every chart path's manifest file holds a rendering of a job with that chart path. -/
def RenderedFiles (files : FileStore) : Prop :=
  ∀ chartPath content, files.read (getFsManifestChartPath chartPath) = some content →
    ∃ (deployInfo : InstallInfo) (kind : ProcessorKind),
      deployInfo.chartInfo.chartPath = chartPath ∧ env.getRawManifest kind deployInfo = .ok content

theorem RenderedFiles.getManifestForChartPath {files : FileStore} (rendered : RenderedFiles env files)
    (o : Operations) (deployInfo : InstallInfo) :
    RenderedFiles env (o.getManifestForChartPath env deployInfo files).2 := by
  rcases getManifestForChartPath_files env o deployInfo files with kept | ⟨manifest, fresh, written⟩
  · rw [kept]
    exact rendered
  · intro chartPath content found
    rw [written, FileStore.read_cons] at found
    split at found
    · rename_i same
      cases found
      exact ⟨deployInfo, o.renderSrc.kind, getFsManifestChartPath_injective same, fresh⟩
    · exact rendered chartPath content found

/-- The disk after an entry point: as it was, or as `getManifestForChartPath` left it. -/
theorem ChartOperation.files_run (operation : ChartOperation) (o : Operations)
    (deployInfo : InstallInfo) (world : World) :
    (operation.run env o deployInfo world).2.files = world.files ∨
      (operation.run env o deployInfo world).2.files =
        (o.getManifestForChartPath env deployInfo world.files).2 := by
  cases operation
  · exact o.files_install env deployInfo world
  · exact o.files_uninstall env deployInfo world
  · exact o.files_consistencyCheck env deployInfo world

/-- **Every call keeps the rendered-manifest files renderings of their chart path.** -/
theorem Process.call_renderedFiles {process : Process}
    (rendered : RenderedFiles env process.world.files) (call : ChartCall) :
    RenderedFiles env (process.call env call).world.files := by
  rw [Process.world_call]
  rcases runChart_world env (call.operation.run env) call.deployInfo call.resourceTransforms
    (if call.cached then some process.cache else none) process.world with same | ⟨ops, same⟩ <;>
    rw [same]
  · exact rendered
  · rcases ChartOperation.files_run env call.operation ops call.deployInfo process.world
      with files | files <;> rw [files]
    exacts [rendered, rendered.getManifestForChartPath env ops call.deployInfo]

/-- **Over every sequence of calls the rendered-manifest files stay renderings of their chart
path.** -/
theorem Process.run_renderedFiles {process : Process}
    (rendered : RenderedFiles env process.world.files) (calls : List ChartCall) :
    RenderedFiles env (process.run env calls).world.files := by
  induction calls generalizing process with
  | nil => exact rendered
  | cons call rest ih => exact ih (Process.call_renderedFiles env rendered call)

/-- **What a job with no pre-rendered manifest is served is a rendering of a job with its chart
path**, its own or another's. -/
theorem served_rendering_of_chart_path {files : FileStore} (rendered : RenderedFiles env files)
    (o : Operations) {deployInfo : InstallInfo} {manifest : String}
    (notPreRendered : getManifestResources env deployInfo.chartInfo.chartName
      deployInfo.chartInfo.chartPath = .ok "")
    (served : (o.getManifestForChartPath env deployInfo files).1 = .ok manifest) :
    ∃ (other : InstallInfo) (kind : ProcessorKind),
      other.chartInfo.chartPath = deployInfo.chartInfo.chartPath ∧
        env.getRawManifest kind other = .ok manifest := by
  cases cachedRead : getCachedResources deployInfo.chartInfo.chartName
      deployInfo.chartInfo.chartPath files with
  | error err =>
    simp [Operations.getManifestForChartPath, notPreRendered, cachedRead] at served
  | ok cachedManifest =>
    by_cases empty : cachedManifest = ""
    · subst empty
      cases raw : env.getRawManifest o.renderSrc.kind deployInfo with
      | error err =>
        simp [Operations.getManifestForChartPath, notPreRendered, cachedRead, raw] at served
      | ok rawManifest =>
        rw [(getManifestForChartPath_render env o notPreRendered cachedRead raw).1] at served
        cases served
        exact ⟨deployInfo, o.renderSrc.kind, rfl, raw⟩
    · obtain ⟨hasPath, present, found⟩ := getCachedResources_eq_ok cachedRead empty
      rw [getManifestForChartPath_cached env o notPreRendered hasPath present found empty] at served
      cases served
      exact rendered _ _ found

/-- **After any sequence of calls, a job with no pre-rendered manifest is served a rendering of a
job with its chart path**, whatever jobs the calls ran, through the cache or not. -/
theorem run_serves_rendering_of_chart_path {process : Process}
    (rendered : RenderedFiles env process.world.files) (calls : List ChartCall) (o : Operations)
    {deployInfo : InstallInfo} {manifest : String}
    (notPreRendered : getManifestResources env deployInfo.chartInfo.chartName
      deployInfo.chartInfo.chartPath = .ok "")
    (served : (o.getManifestForChartPath env deployInfo (process.run env calls).world.files).1 =
      .ok manifest) :
    ∃ (other : InstallInfo) (kind : ProcessorKind),
      other.chartInfo.chartPath = deployInfo.chartInfo.chartPath ∧
        env.getRawManifest kind other = .ok manifest :=
  served_rendering_of_chart_path env (Process.run_renderedFiles env rendered calls) o notPreRendered
    served

end Calls

/-! ## Part 3 — two releases of one chart, and an uninstall -/

/-- The chart directory extracted from the OCI image of the controller tests. -/
def ociChartPath : String := "/tmp/oci-image"

/-- The job of an install of the OCI chart, as the prepare phase builds it: chart and release
named after the install. -/
def ociRelease (installName : String) : InstallInfo where
  chartInfo := { chartName := installName, chartPath := ociChartPath, releaseName := installName }
  resourceInfo := { baseResource := ownedManifest }

/-- The disk with the extracted chart and nothing rendered yet. -/
def ociDisk : World where
  files := { directories := [ociChartPath] }

/-- **A job is served the rendering of another release of its chart path**: after the install of
`oci-image`, the job of `oci-image-2` gets the manifest rendered for `oci-image`, while its own
rendering names its own release. -/
theorem stale_rendering_served :
    ∃ installed ops,
      installChart sampleEnv (ociRelease "oci-image") [] none ociDisk = ((.ok true, none), installed) ∧
        newOperations sampleEnv (ociRelease "oci-image-2") [] none = .ok (ops, none) ∧
        (ops.getManifestForChartPath sampleEnv (ociRelease "oci-image-2") installed.files).1 =
          .ok "helm oci-image oci-image" ∧
        sampleEnv.getRawManifest ops.renderSrc.kind (ociRelease "oci-image-2") =
          .ok "helm oci-image-2 oci-image-2" :=
  ⟨_, _, rfl, rfl, rfl, rfl⟩

/-- The Helm operations of a job of the OCI chart, with no post-render transforms. -/
def ociOperations (installName : String) : Operations :=
  ⟨⟨.helm, none⟩, (ociRelease installName).chartInfo.flags, []⟩

/-- After the install of `oci-image`, the job of `oci-image-2` is served a rendering of the OCI chart
path, the one made for `oci-image`. -/
theorem oci_rendering_served :
    RenderedFiles sampleEnv ({ world := ociDisk } : Process).world.files ∧
      getManifestResources sampleEnv (ociRelease "oci-image-2").chartInfo.chartName
        (ociRelease "oci-image-2").chartInfo.chartPath = .ok "" ∧
      ((ociOperations "oci-image-2").getManifestForChartPath sampleEnv (ociRelease "oci-image-2")
        (({ world := ociDisk } : Process).run sampleEnv
          [{ operation := .install, deployInfo := ociRelease "oci-image" }]).world.files).1 =
        .ok "helm oci-image oci-image" ∧
      ∃ (other : InstallInfo) (kind : ProcessorKind),
        other.chartInfo.chartPath = (ociRelease "oci-image-2").chartInfo.chartPath ∧
          sampleEnv.getRawManifest kind other = .ok "helm oci-image oci-image" :=
  have rendered : RenderedFiles sampleEnv ({ world := ociDisk } : Process).world.files :=
    fun _ _ found => by simp [ociDisk, FileStore.read] at found
  have notPreRendered : getManifestResources sampleEnv (ociRelease "oci-image-2").chartInfo.chartName
      (ociRelease "oci-image-2").chartInfo.chartPath = .ok "" := rfl
  have served : ((ociOperations "oci-image-2").getManifestForChartPath sampleEnv
      (ociRelease "oci-image-2") (({ world := ociDisk } : Process).run sampleEnv
        [{ operation := .install, deployInfo := ociRelease "oci-image" }]).world.files).1 =
      .ok "helm oci-image oci-image" := rfl
  ⟨rendered, notPreRendered, served,
    run_serves_rendering_of_chart_path sampleEnv rendered _ _ notPreRendered served⟩

/-- **An install and an uninstall that both succeed leave the chart on the cluster**: from the
empty cluster, the Deployment the nginx chart renders is still there after the uninstall. -/
theorem uninstalled_chart_left_on_cluster :
    ∃ installed uninstalled,
      installChart sampleEnv nginxChart [] none {} = ((.ok true, none), installed) ∧
        uninstallChart sampleEnv nginxChart [] none installed = ((.ok true, none), uninstalled) ∧
        uninstalled.clusters none ≠ ({} : World).clusters none :=
  ⟨_, _, rfl, rfl, by decide⟩

end ModuleInstaller.Manifest
