import ModuleInstaller.Api.Manifest
/-
**The Manifest object on the API server, as the controller's client meets it.**

Writes are optimistic. `Update` and `Status().Update` are accepted only while the
resourceVersion of the object the caller read is the stored one, and every accepted change bumps
it. `Update` writes the finalizers (the only metadata the controller changes) and never the
status; `Status().Update` writes the status only. An object marked for deletion takes no new
finalizer and is removed when its last one goes. A spec change and a deletion request bump the
generation.

* `Precedes` — the order of the versions of the object: resourceVersion and generation grow, a
  deletion timestamp stays, and so does "carries the finalizer or is being deleted";
* `updateStatus_precedes`, `update_precedes`, `updateSpec_precedes`, `delete_precedes` — every
  accepted change moves the object forward in that order;
* `Precedes.eq_of_resourceVersion` — a read whose resourceVersion is still the stored one is the
  stored object, so an accepted write was computed from the object it replaces.
-/

namespace ModuleInstaller.Cluster

open V1alpha1

/-! ## Part 1 — the writes -/

/-- `Status().Update`: the status of the caller's object replaces the stored one. -/
def updateStatus (current manifest : Manifest) : Option Manifest :=
  if manifest.resourceVersion = current.resourceVersion then
    some { current with status := manifest.status, resourceVersion := current.resourceVersion + 1 }
  else none

/-- `Update` of the finalizers: `none` when rejected, `some none` when the object is removed. -/
def update (current manifest : Manifest) : Option (Option Manifest) :=
  if manifest.resourceVersion ≠ current.resourceVersion then none
  else if current.deletionTimestamp ∧ current.finalizers.length < manifest.finalizers.length then none
  else if current.deletionTimestamp ∧ manifest.finalizers = [] then some none
  else some (some { current with finalizers := manifest.finalizers,
                                 resourceVersion := current.resourceVersion + 1 })

/-- The user's spec update. -/
def updateSpec (current : Manifest) (spec : ManifestSpec) : Manifest :=
  { current with spec := spec, generation := current.generation + 1,
                 resourceVersion := current.resourceVersion + 1 }

/-- The user's delete request: the object goes at once when it carries no finalizer. -/
def delete (current : Manifest) : Option Manifest :=
  if current.finalizers = [] then none
  else some { current with deletionTimestamp := true, generation := current.generation + 1,
                           resourceVersion := current.resourceVersion + 1 }

/-- The object the API server stores for a create request: status and deletion dropped. -/
def create (manifest : Manifest) : Manifest :=
  { manifest with generation := 1, resourceVersion := 1, deletionTimestamp := false, status := {} }

theorem updateStatus_eq_some {current manifest written : Manifest}
    (accepted : updateStatus current manifest = some written) :
    manifest.resourceVersion = current.resourceVersion ∧
      written = { current with status := manifest.status,
                               resourceVersion := current.resourceVersion + 1 } := by
  unfold updateStatus at accepted
  split at accepted
  · exact ⟨‹_›, (Option.some.inj accepted).symm⟩
  · cases accepted

/-- What an accepted `Update` did: removed the object being deleted, or wrote the finalizers,
never adding one to an object being deleted. -/
theorem update_eq_some {current manifest : Manifest} {stored : Option Manifest}
    (accepted : update current manifest = some stored) :
    manifest.resourceVersion = current.resourceVersion ∧
      ((current.deletionTimestamp ∧ manifest.finalizers = [] ∧ stored = none) ∨
       ((current.deletionTimestamp → manifest.finalizers.length ≤ current.finalizers.length) ∧
        stored = some { current with finalizers := manifest.finalizers,
                                     resourceVersion := current.resourceVersion + 1 })) := by
  unfold update at accepted
  split at accepted
  · cases accepted
  split at accepted
  · cases accepted
  split at accepted
  · cases accepted
    exact ⟨by omega, .inl ⟨‹_ ∧ _›.1, ‹_ ∧ _›.2, rfl⟩⟩
  · cases accepted
    refine ⟨by omega, .inr ⟨fun deleting => ?_, rfl⟩⟩
    exact Nat.not_lt.mp fun longer => ‹¬(_ ∧ _)› ⟨deleting, longer⟩

/-! ## Part 2 — the order of versions -/

/-- Whether the finalizer still guards the object: it carries it, or is already being deleted. -/
def Guarded (manifest : Manifest) : Prop :=
  manifest.hasFinalizer = true ∨ manifest.deletionTimestamp = true

/-- `older` is a version of the object that `newer` follows, or `newer` itself. -/
structure Precedes (older newer : Manifest) : Prop where
  resourceVersion : older.resourceVersion ≤ newer.resourceVersion
  current : older.resourceVersion = newer.resourceVersion → older = newer
  generation : older.generation ≤ newer.generation
  deletionTimestamp : older.deletionTimestamp = true → newer.deletionTimestamp = true
  guarded : Guarded older → Guarded newer

namespace Precedes

theorem refl (manifest : Manifest) : Precedes manifest manifest :=
  ⟨le_rfl, fun _ => rfl, le_rfl, id, id⟩

theorem trans {first second third : Manifest} (earlier : Precedes first second)
    (later : Precedes second third) : Precedes first third where
  resourceVersion := earlier.resourceVersion.trans later.resourceVersion
  current same := by
    have back := earlier.current (by have := later.resourceVersion; have := earlier.resourceVersion; omega)
    subst back
    exact later.current same
  generation := earlier.generation.trans later.generation
  deletionTimestamp := later.deletionTimestamp ∘ earlier.deletionTimestamp
  guarded := later.guarded ∘ earlier.guarded

/-- A change that bumps the resourceVersion moves forward when it keeps the rest of the order. -/
theorem of_bump {older newer : Manifest}
    (bumped : newer.resourceVersion = older.resourceVersion + 1)
    (generation : older.generation ≤ newer.generation)
    (deletionTimestamp : older.deletionTimestamp = true → newer.deletionTimestamp = true)
    (guarded : Guarded older → Guarded newer) : Precedes older newer :=
  ⟨by omega, fun same => by omega, generation, deletionTimestamp, guarded⟩

/-- **A read that is still current is the stored object.** -/
theorem eq_of_resourceVersion {older newer : Manifest} (order : Precedes older newer)
    (same : older.resourceVersion = newer.resourceVersion) : older = newer :=
  order.current same

theorem not_guarded {older newer : Manifest} (order : Precedes older newer)
    (unguarded : ¬Guarded newer) : ¬Guarded older :=
  fun guarded => unguarded (order.guarded guarded)

end Precedes

/-! ## Part 3 — every accepted change moves forward -/

theorem updateStatus_precedes {current manifest written : Manifest}
    (accepted : updateStatus current manifest = some written) : Precedes current written := by
  obtain ⟨-, rfl⟩ := updateStatus_eq_some accepted
  exact .of_bump rfl le_rfl id (by simp [Guarded, Manifest.hasFinalizer])

/-- An accepted `Update` that keeps the object moves forward, provided that it keeps the
finalizer or the object is being deleted. -/
theorem update_precedes {current manifest written : Manifest}
    (accepted : update current manifest = some (some written))
    (keeps : current.hasFinalizer = true → current.deletionTimestamp = false →
      manifest.hasFinalizer = true) :
    Precedes current written := by
  obtain ⟨-, removed | ⟨-, stored⟩⟩ := update_eq_some accepted
  · cases removed.2.2
  · cases stored
    refine .of_bump rfl le_rfl id fun guarded => ?_
    cases deleting : current.deletionTimestamp
    · exact .inl (keeps (guarded.resolve_right (by simp [deleting])) deleting)
    · exact .inr rfl

theorem updateSpec_precedes (current : Manifest) (spec : ManifestSpec) :
    Precedes current (updateSpec current spec) :=
  .of_bump rfl (Nat.le_succ _) id id

theorem delete_precedes {current deleted : Manifest} (accepted : delete current = some deleted) :
    Precedes current deleted := by
  unfold delete at accepted
  split at accepted
  · cases accepted
  · cases accepted
    exact .of_bump rfl (Nat.le_succ _) (fun _ => rfl) fun _ => .inr rfl

@[simp] theorem delete_deletionTimestamp {current deleted : Manifest}
    (accepted : delete current = some deleted) : deleted.deletionTimestamp = true := by
  unfold delete at accepted
  split at accepted <;> cases accepted
  rfl

end ModuleInstaller.Cluster
