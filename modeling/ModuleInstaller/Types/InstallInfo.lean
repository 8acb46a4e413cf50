import ModuleInstaller.Api.Manifest
/-
**The install job (`pkg/types`, `pkg/manifest`): what a worker is handed and what it answers.**

`InstallInfo` is the descriptor the prepare phase builds per install and a worker consumes:
chart coordinates and flags (`ChartInfo`), the target cluster (`ClusterInfo`), the CRDs and
custom resources to pre- and post-create and the Manifest itself as `BaseResource`
(`ResourceInfo`), and the readiness check. `InstallResponse` is a worker's answer and
`Mode` the direction of a round.

A rest config or client is named by the cluster it points at; the context and logger fields
are left out.
-/

namespace ModuleInstaller.Types

open V1alpha1

/-- `types.Flags`, a `map[string]interface{}`. -/
abbrev Flags := List (String × Value)

/-- `types.ChartFlags`: command-line flags and `--set` values. -/
structure ChartFlags where
  configFlags : Flags := []
  setFlags : Flags := []
  deriving Inhabited

/-- `types.HelmChartSpec`. -/
structure HelmChartSpec where
  url : String := ""
  chartName : String := ""

/-- `types.KustomizeSpec`. -/
structure KustomizeSpec where
  path : String := ""
  url : String := ""

/-- `types.ChartInfo`. -/
structure ChartInfo where
  chartPath : String := ""
  repoName : String := ""
  url : String := ""
  chartName : String := ""
  releaseName : String := ""
  flags : ChartFlags := {}
  deriving Inhabited

/-- `types.ClusterInfo`: the rest config and client of the target cluster, by cluster name. -/
structure ClusterInfo where
  config : Option String := none
  client : Option String := none
  deriving DecidableEq, Repr

/-- `types.ResourceInfo`. -/
structure ResourceInfo where
  baseResource : Value := .null
  customResources : List Value := []
  crds : List String := []
  deriving Inhabited

/-- The two check functions of `custom.Resource` the prepare phase can install. -/
inductive CheckFn where
  | defaultFn
  | checkFn
  deriving DecidableEq, Repr

/-- `types.InstallInfo`. -/
structure InstallInfo where
  chartInfo : ChartInfo := {}
  clusterInfo : ClusterInfo := {}
  resourceInfo : ResourceInfo := {}
  checkFn : Option CheckFn := none
  checkReadyStates : Bool := false

/-- `manifest.Mode`. -/
inductive Mode where
  | createMode
  | deletionMode
  deriving DecidableEq, Repr

/-- `manifest.InstallResponse`; `err` is the error text when there is one. -/
structure InstallResponse where
  ready : Bool
  chartName : String := ""
  err : Option String := none
  clientConfig : Flags := []
  overrides : Flags := []

end ModuleInstaller.Types
