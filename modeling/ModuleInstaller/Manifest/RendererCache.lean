import ModuleInstaller.Manifest.Operations
/-
**Concurrent `newOperations` calls over one renderer cache.**

A `newOperations` call makes two steps on the cache it shares with every other worker: it looks
the owner key of its job up (`lookupRenderer`) and, on a miss, builds a renderer and stores it
under that key (`createRenderer`). Other callers may evict an owner's entry. Calls start and step
in any order; `Reachable` is every state some interleaving of starts, lookups, stores and
evictions reaches.

* `Reachable.sound` — in every reachable state, every cached renderer and every renderer a call
  returned was built by `getManifestProcessor` for a job of the same owner key;
* `returned_own_processor` — so a call gets its own job's renderer whenever all jobs of one owner
  get the same renderer, the equivalence the cache takes for granted;
* `kustomization_served_helm_processor` — without it, a Kustomization after a Helm chart of the
  same owner is handed the Helm processor, built for the Helm chart.
-/

namespace ModuleInstaller.Manifest

open Types

/-! ## Part 1 — the calls and their steps -/

/-- Where one `newOperations` call stands. -/
inductive Call where
  /-- Not yet looked up. -/
  | started (deployInfo : InstallInfo)
  /-- The cache had no renderer for the owner: one is to be built and stored. -/
  | missed (deployInfo : InstallInfo)
  /-- Returned the renderer of its operations, or the error. -/
  | returned (deployInfo : InstallInfo) (result : Except String RenderSrc)

/-- The shared cache and the calls made on it. -/
structure CacheSystem where
  cache : RendererCache := {}
  calls : List Call := []

/-- What can happen next. -/
inductive CacheAction where
  | start (deployInfo : InstallInfo)
  | lookup (call : Nat)
  | create (call : Nat)
  | delete (key : ObjectKey)

section Steps

variable (env : OperationsEnv)

/-- One step of one call, or an eviction; `none` when the call is not at that step. -/
def CacheSystem.step (system : CacheSystem) : CacheAction → Option CacheSystem
  | .start deployInfo => some { system with calls := system.calls ++ [.started deployInfo] }
  | .lookup index =>
    match system.calls[index]? with
    | some (.started deployInfo) =>
      some { system with
        calls := system.calls.set index
          (match lookupRenderer (some system.cache) deployInfo with
           | some renderSrc => .returned deployInfo (.ok renderSrc)
           | none => .missed deployInfo) }
    | _ => none
  | .create index =>
    match system.calls[index]? with
    | some (.missed deployInfo) =>
      match createRenderer env (some system.cache) deployInfo with
      | .ok (renderSrc, cache) =>
        some { cache := cache.getD system.cache,
               calls := system.calls.set index (.returned deployInfo (.ok renderSrc)) }
      | .error err =>
        some { system with calls := system.calls.set index (.returned deployInfo (.error err)) }
    | _ => none
  | .delete key => some { system with cache := system.cache.delete key }

/-- The states some interleaving reaches from the empty cache. -/
inductive CacheSystem.Reachable : CacheSystem → Prop
  | init : CacheSystem.Reachable {}
  | step {system next : CacheSystem} {action : CacheAction} :
      CacheSystem.Reachable system → system.step env action = some next → CacheSystem.Reachable next

/-! ## Part 2 — what the cache holds -/

/-- `renderSrc` was built by `getManifestProcessor` for a job whose base resource has owner key
`key`. -/
def BuiltFor (key : ObjectKey) (renderSrc : RenderSrc) : Prop :=
  ∃ deployInfo : InstallInfo, discoverCacheKey deployInfo.resourceInfo.baseResource = key ∧
    getManifestProcessor env deployInfo = .ok renderSrc

/-- A returned renderer was built for a job of the caller's owner. -/
def Call.Sound : Call → Prop
  | .returned deployInfo (.ok renderSrc) =>
    BuiltFor env (discoverCacheKey deployInfo.resourceInfo.baseResource) renderSrc
  | _ => True

/-- The invariant: the cache and the returned calls hold only renderers built for their owner. -/
structure CacheSystem.Sound (system : CacheSystem) : Prop where
  cache : ∀ entry ∈ system.cache.entries, BuiltFor env entry.1 entry.2
  calls : ∀ call ∈ system.calls, call.Sound env

theorem RendererCache.mem_of_get {cache : RendererCache} {key : ObjectKey} {renderSrc : RenderSrc}
    (found : cache.get key = some renderSrc) : (key, renderSrc) ∈ cache.entries := by
  unfold RendererCache.get at found
  obtain ⟨entry, hit, rfl⟩ := Option.map_eq_some'.mp found
  have same : entry.1 = key := by simpa using List.find?_some hit
  exact same ▸ List.mem_of_find?_eq_some hit

/-- A hit is a renderer of the cache, stored under the caller's owner key. -/
theorem lookupRenderer_mem {cache : RendererCache} {deployInfo : InstallInfo}
    {renderSrc : RenderSrc} (hit : lookupRenderer (some cache) deployInfo = some renderSrc) :
    (discoverCacheKey deployInfo.resourceInfo.baseResource, renderSrc) ∈ cache.entries := by
  dsimp only [lookupRenderer] at hit
  split at hit
  · exact RendererCache.mem_of_get hit
  · cases hit

/-- A miss builds the job's own renderer and stores it under the owner key, if at all. -/
theorem createRenderer_eq_ok {cache : RendererCache} {deployInfo : InstallInfo}
    {renderSrc : RenderSrc} {stored : Option RendererCache}
    (built : createRenderer env (some cache) deployInfo = .ok (renderSrc, stored)) :
    getManifestProcessor env deployInfo = .ok renderSrc ∧
      (stored = some cache ∨
        stored = some (cache.set (discoverCacheKey deployInfo.resourceInfo.baseResource) renderSrc)) := by
  unfold createRenderer at built
  cases client : env.getMemCacheClient deployInfo.clusterInfo.config <;>
    cases processor : getManifestProcessor env deployInfo <;>
    simp only [client, processor, Except.mapError, bind, Except.bind, pure, Except.pure,
      Except.ok.injEq, Prod.mk.injEq, reduceCtorEq] at built
  obtain ⟨rfl, rfl⟩ := built
  refine ⟨rfl, ?_⟩
  split <;> simp

theorem CacheSystem.Sound.init : CacheSystem.Sound env {} :=
  ⟨fun _ absent => (nomatch absent), fun _ absent => (nomatch absent)⟩

/-- A call that moves to a new stage keeps the calls sound when the stage is. -/
theorem CacheSystem.Sound.setCall {system : CacheSystem} (sound : system.Sound env)
    (index : Nat) {call : Call} (fresh : call.Sound env) :
    ∀ other ∈ system.calls.set index call, other.Sound env := fun other member =>
  (List.mem_or_eq_of_mem_set member).elim (sound.calls other) fun same => same ▸ fresh

/-- **Every step keeps the cache and the returned calls sound.** -/
theorem CacheSystem.Sound.step {system next : CacheSystem} {action : CacheAction}
    (sound : system.Sound env) (stepped : system.step env action = some next) : next.Sound env := by
  cases action with
  | start deployInfo =>
    cases stepped
    exact ⟨sound.cache,
      List.forall_mem_append.mpr ⟨sound.calls, List.forall_mem_singleton.mpr trivial⟩⟩
  | lookup index =>
    simp only [CacheSystem.step] at stepped
    split at stepped
    · cases stepped
      refine ⟨sound.cache, sound.setCall env index ?_⟩
      split
      · rename_i hit
        exact sound.cache _ (lookupRenderer_mem hit)
      · trivial
    · cases stepped
  | create index =>
    simp only [CacheSystem.step] at stepped
    split at stepped
    · rename_i deployInfo _
      split at stepped
      · rename_i renderSrc stored built
        cases stepped
        obtain ⟨processor, rfl | rfl⟩ := createRenderer_eq_ok env built
        · exact ⟨sound.cache, sound.setCall env index ⟨deployInfo, rfl, processor⟩⟩
        · exact ⟨List.forall_mem_cons.mpr ⟨⟨deployInfo, rfl, processor⟩, sound.cache⟩,
            sound.setCall env index ⟨deployInfo, rfl, processor⟩⟩
      · cases stepped
        exact ⟨sound.cache, sound.setCall env index trivial⟩
    · cases stepped
  | delete key =>
    cases stepped
    exact ⟨fun entry member => sound.cache entry (List.mem_filter.mp member).1, sound.calls⟩

/-- **In every reachable state the cache and the returned calls are sound.** -/
theorem CacheSystem.Reachable.sound {system : CacheSystem} (reachable : system.Reachable env) :
    system.Sound env := by
  induction reachable with
  | init => exact CacheSystem.Sound.init env
  | step _ stepped sound => exact sound.step env stepped

/-- **A call returns its own job's renderer whenever all jobs of one owner get the same
renderer**, however the calls interleave. -/
theorem returned_own_processor {system : CacheSystem} (reachable : system.Reachable env)
    {deployInfo : InstallInfo} {renderSrc : RenderSrc}
    (returned : .returned deployInfo (.ok renderSrc) ∈ system.calls)
    (uniform : ∀ other : InstallInfo, discoverCacheKey other.resourceInfo.baseResource =
      discoverCacheKey deployInfo.resourceInfo.baseResource →
        getManifestProcessor env other = getManifestProcessor env deployInfo) :
    getManifestProcessor env deployInfo = .ok renderSrc := by
  obtain ⟨other, owner, built⟩ := (CacheSystem.Reachable.sound env reachable).calls _ returned
  exact uniform other owner ▸ built

end Steps

/-! ## Part 3 — a Kustomization behind a Helm chart of the same owner -/

/-- **The Kustomization is handed the Helm processor** the cache holds for its owner, while
`getManifestProcessor` builds a Kustomize processor for it. -/
theorem kustomization_served_helm_processor :
    ∃ first cache second,
      newOperations sampleEnv nginxChart [] (some {}) = .ok (first, cache) ∧
        newOperations sampleEnv remoteKustomization [] cache = .ok (second, cache) ∧
        second.renderSrc = ⟨.helm, none⟩ ∧
        getManifestProcessor sampleEnv remoteKustomization = .ok ⟨.kustomize, none⟩ :=
  ⟨_, _, _, rfl, rfl, rfl, rfl⟩

end ModuleInstaller.Manifest
