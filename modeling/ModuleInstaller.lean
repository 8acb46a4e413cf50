import ModuleInstaller.Api.Value
import ModuleInstaller.Api.Manifest
import ModuleInstaller.Types.InstallInfo
import ModuleInstaller.Util.Conditions
import ModuleInstaller.Util.FilePath
import ModuleInstaller.Util.ParseManifest
import ModuleInstaller.Prepare.Strvals
import ModuleInstaller.Prepare.Deploy
import ModuleInstaller.Custom.Verify
import ModuleInstaller.Controllers.Handlers
import ModuleInstaller.Cluster.ApiServer
import ModuleInstaller.Controllers.System
import ModuleInstaller.Controllers.Coherence
import ModuleInstaller.Controllers.Writes
import ModuleInstaller.Controllers.Rounds
import ModuleInstaller.Manifest.Operations
import ModuleInstaller.Manifest.RendererCache
import ModuleInstaller.Manifest.Charts
import ModuleInstaller.Manifest.Client
import ModuleInstaller.Descriptor.Extract
import ModuleInstaller.Descriptor.Concurrent
import ModuleInstaller.Declarative.Transforms
import ModuleInstaller.Declarative.Apply
import ModuleInstaller.Manifest.Resources
