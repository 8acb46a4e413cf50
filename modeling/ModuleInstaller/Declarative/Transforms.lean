import ModuleInstaller.Util.ParseManifest
/-
**The post-render transforms of the declarative reconciler, and `Transformer.Transform`.**

`Transformer.Transform` parses the rendered manifest and hands the resources to each transform in
turn. The declarative reconciler registers three of them. `disclaimerTransform` sets the
disclaimer annotation on every resource. `kymaComponentTransform` sets the labels
`app.kubernetes.io/component` and `app.kubernetes.io/part-of`, and `managedByDeclarativeV2` sets
the `managed-by` label. Each reads its map with `GetAnnotations` or `GetLabels`, makes a nil map
empty, sets its entries and writes the map back.

`GetLabels` returns the nil map when a label value is not a string, so the map written back holds
the transform's entries only. `SetLabels` drops the error of `SetNestedStringMap`, so a resource
whose `metadata` is neither a map nor nil is left as it was.

* `setMetadataEntries_eq` — one transform on one resource: the map it read, with its entries set,
  stored at `metadata.<key>` when `metadata` is a map, nil or missing, and nothing otherwise;
* **`runOn_nestedStringMap`**, `runOn_field`, `runOn_nested` — any run of the transforms: each
  metadata map evolves by the entries set in it, and every other field stays as it was;
  `runOn_of_not_writable` — a run changes nothing when `metadata` cannot be written;
* **`lookupString_runOn`** — after any run, a label or an annotation that one of the run's
  transforms writes holds that transform's value, and any other holds what `GetLabels` or
  `GetAnnotations` read before the run;
* **`runOn_agree`** — so runs of the same transforms in any order and number agree on every field
  but `metadata`, on every metadata entry none of them writes, and on every label and annotation;
* `nonString_label_dropped` — a resource labelled `tier: 1` loses that label.
-/

namespace ModuleInstaller.Declarative

open Types Util

/-! ## Part 1 — the transforms -/

/-- `DisclaimerAnnotation`. -/
def disclaimerAnnotation : String := "reconciler.kyma-project.io/managed-by-reconciler-disclaimer"

/-- `disclaimerAnnotationValue`. -/
def disclaimerAnnotationValue : String :=
  "DO NOT EDIT - This resource is managed by Kyma.\n" ++
    "Any modifications are discarded and the resource is reverted to the original state."

/-- The declarative `Object` as the transforms read it. -/
structure Object where
  componentName : String

/-- `types.ObjectTransform`: a transform of the parsed resources, which it changes in place. -/
abbrev ObjectTransform := Object → ManifestResources → Except String ManifestResources

/-- The loop body the three transforms share, on one resource and for the metadata map `key`. It
reads the map with `GetLabels` or `GetAnnotations`, where a nil map stands for an empty one, sets
the entries one after the other, and writes the map back with `SetLabels` or `SetAnnotations`. -/
def setMetadataEntries (key : String) (entries : List (String × String)) (resource : Value) :
    Value :=
  resource.setNestedMap (entries.foldl (fun map entry => setEntry map entry.1 entry.2)
    (resource.nestedStringMap ["metadata", key])) "metadata" [key]

/-- `disclaimerTransform`. -/
def disclaimerTransform : ObjectTransform := fun _ resources =>
  .ok { resources with
    items := resources.items.map
      (setMetadataEntries "annotations" [( disclaimerAnnotation, disclaimerAnnotationValue)]) }

/-- `kymaComponentTransform`. -/
def kymaComponentTransform : ObjectTransform := fun obj resources =>
  .ok { resources with items := resources.items.map (setMetadataEntries "labels"
    [("app.kubernetes.io/component", obj.componentName), ("app.kubernetes.io/part-of", "Kyma")]) }

/-- `managedByDeclarativeV2`. -/
def managedByDeclarativeV2 : ObjectTransform := fun _ resources =>
  let managedBy := "declarative-v2"
  .ok { resources with
    items := resources.items.map
      (setMetadataEntries "labels" [("reconciler.kyma-project.io/managed-by", managedBy)]) }

/-- The loop of `Transformer.Transform`: each transform in turn, the first error ending it. -/
def applyTransforms (object : Object) (transforms : List ObjectTransform)
    (objects : ManifestResources) : Except String ManifestResources :=
  transforms.foldlM (fun objects transform => transform object objects) objects

/-- `Transformer.Transform`. -/
def transform (yaml : YamlParser) (manifestStringified : String) (object : Object)
    (transforms : List ObjectTransform) : Except String ManifestResources := do
  let objects ← parseManifestStringToObjects yaml manifestStringified
  applyTransforms object transforms objects

/-! ## Part 2 — one transform on one resource -/

/-- `SetNestedStringMap` can write below `metadata`: it is a map, nil, or missing. -/
def metadataWritable (resource : Value) : Bool :=
  match resource.field? "metadata" with
  | some (Value.obj _) | some Value.null | none => true
  | some _ => false

/-- The metadata map of a resource, empty when `metadata` is nil or missing. -/
def metadataOf (resource : Value) : List (String × Value) :=
  ((resource.field? "metadata").bind Value.asMap?).getD []

/-- The entries of a resource read as a map are its fields. -/
theorem find?_asMap (resource : Value) (key : String) :
    ((resource.asMap?.getD []).find? (·.1 == key)).map (·.2) = resource.field? key := by
  cases resource <;> rfl

/-- A string map stored as a map of strings reads back as it was. -/
@[simp] theorem stringMap?_strs (entries : List (String × String)) :
    (Value.obj (entries.map fun entry => (entry.1, .str entry.2))).stringMap? = some entries := by
  induction entries with
  | nil => rfl
  | cons entry rest ih =>
    simp only [Value.stringMap?, Value.asMap?, Option.some_bind] at ih ⊢
    rw [List.map_cons, List.mapM_cons, ih]
    rfl

/-- **One transform on one resource**: when `metadata` is a map, nil or missing, the map read with
the entries set is stored at `metadata.<key>`; otherwise `SetNestedStringMap` fails and nothing
changes. -/
theorem setMetadataEntries_eq (key : String) (entries : List (String × String)) (resource : Value) :
    setMetadataEntries key entries resource =
      if metadataWritable resource then
        .obj (setEntry (resource.asMap?.getD []) "metadata" (.obj (setEntry (metadataOf resource) key
          (.obj ((entries.foldl (fun map entry => setEntry map entry.1 entry.2)
            (resource.nestedStringMap ["metadata", key])).map fun entry => (entry.1, .str entry.2))))))
      else resource := by
  unfold setMetadataEntries Value.setNestedMap metadataWritable metadataOf
  simp only [Value.setNestedField, find?_asMap]
  cases resource with
  | obj fields =>
    simp only [Value.field?_obj]
    generalize (fields.find? (·.1 == "metadata")).map (·.2) = metadata
    rcases metadata with _ | ⟨_ | _ | _ | _ | _ | inner⟩ <;> rfl
  | _ => rfl

/-- A metadata entry, read through `metadata`. -/
theorem nested?_metadata (resource : Value) (key : String) :
    resource.nested? ["metadata", key] = (resource.field? "metadata").bind (·.field? key) := by
  simp [Value.nested?]

/-- A metadata entry is the entry of the metadata map. -/
theorem nested?_metadata_eq (resource : Value) (key : String) :
    resource.nested? ["metadata", key] = ((metadataOf resource).find? (·.1 == key)).map (·.2) := by
  rw [nested?_metadata]
  unfold metadataOf
  rcases resource.field? "metadata" with _ | ⟨_ | _ | _ | _ | _ | inner⟩ <;> rfl

section Step

variable (key : String) (entries : List (String × String))

/-- The map a transform stores: the one it read, with its entries set. -/
theorem nestedStringMap_setMetadataEntries {resource : Value} (writable : metadataWritable resource) :
    (setMetadataEntries key entries resource).nestedStringMap ["metadata", key] =
      entries.foldl (fun map entry => setEntry map entry.1 entry.2)
        (resource.nestedStringMap ["metadata", key]) := by
  rw [setMetadataEntries_eq, if_pos writable]
  simp [Value.nestedStringMap, Value.nested?]

/-- What a transform stores at `metadata.<key>` is a string map. -/
theorem nested?_setMetadataEntries {resource : Value} (writable : metadataWritable resource) :
    (setMetadataEntries key entries resource).nested? ["metadata", key] =
      some (.obj (((setMetadataEntries key entries resource).nestedStringMap ["metadata", key]).map
        fun entry => (entry.1, .str entry.2))) := by
  rw [nestedStringMap_setMetadataEntries key entries writable, setMetadataEntries_eq, if_pos writable]
  simp [Value.nested?]

/-- A transform leaves every field but `metadata` alone. -/
theorem field?_setMetadataEntries (resource : Value) {other : String} (different : other ≠ "metadata") :
    (setMetadataEntries key entries resource).field? other = resource.field? other := by
  rw [setMetadataEntries_eq]
  split_ifs
  · simp [different, find?_asMap]
  · rfl

/-- A transform leaves every other metadata entry alone. -/
theorem nested?_setMetadataEntries_of_ne (resource : Value) {other : String} (different : other ≠ key) :
    (setMetadataEntries key entries resource).nested? ["metadata", other] =
      resource.nested? ["metadata", other] := by
  rw [setMetadataEntries_eq]
  split_ifs with writable
  · simp only [nested?_metadata_eq]
    simp [metadataOf, Value.asMap?, different]
  · rfl

/-- After a transform, `metadata` is writable exactly when it was before. -/
@[simp] theorem metadataWritable_setMetadataEntries (resource : Value) :
    metadataWritable (setMetadataEntries key entries resource) = metadataWritable resource := by
  rw [setMetadataEntries_eq]
  split_ifs with writable
  · simp only [metadataWritable, Value.field?_obj, find?_setEntry, if_true]
    exact writable.symm
  · rfl

end Step

/-! ## Part 3 — runs of the transforms -/

/-- The three transforms the declarative reconciler registers. -/
inductive PostRender where
  | disclaimer
  | kymaComponent
  | managedBy
  deriving DecidableEq, Repr

namespace PostRender

/-- The transform itself. -/
def transform : PostRender → ObjectTransform
  | disclaimer => disclaimerTransform
  | kymaComponent => kymaComponentTransform
  | managedBy => managedByDeclarativeV2

/-- The metadata map a transform writes. -/
def key : PostRender → String
  | disclaimer => "annotations"
  | kymaComponent | managedBy => "labels"

/-- The entries a transform sets in it. -/
def entries (object : Object) : PostRender → List (String × String)
  | disclaimer => [( disclaimerAnnotation, disclaimerAnnotationValue)]
  | kymaComponent =>
    [("app.kubernetes.io/component", object.componentName), ("app.kubernetes.io/part-of", "Kyma")]
  | managedBy => [("reconciler.kyma-project.io/managed-by", "declarative-v2")]

/-- Each transform runs the shared body on every resource, with its own map and entries. -/
theorem transform_eq (t : PostRender) (object : Object) (resources : ManifestResources) :
    t.transform object resources =
      .ok { resources with items := resources.items.map (setMetadataEntries t.key (t.entries object)) } := by
  cases t <;> rfl

/-- The value a transform writes at the entry `k` of the metadata map `key`, if it writes it. -/
def writes (object : Object) (key k : String) (t : PostRender) : Option String :=
  if t.key = key then lookupString (t.entries object) k else none

end PostRender

/-- A run of transforms on one resource. -/
def runOn (object : Object) (run : List PostRender) (resource : Value) : Value :=
  run.foldl (fun resource t => setMetadataEntries t.key (t.entries object) resource) resource

/-- The value the transforms write at the entry `k` of the metadata map `key`, whichever of them
writes it. -/
def written (object : Object) (key k : String) : Option String :=
  [PostRender.disclaimer, .kymaComponent, .managedBy].findSome? (PostRender.writes object key k)

section Run

variable (object : Object)

/-- **`Transformer.Transform`'s loop over a run of the transforms** runs them on every resource. -/
theorem applyTransforms_run :
    ∀ (run : List PostRender) (objects : ManifestResources),
      applyTransforms object (run.map PostRender.transform) objects =
        .ok { objects with items := objects.items.map (runOn object run) }
  | [], objects => by rw [show runOn object [] = id from rfl, List.map_id]; rfl
  | t :: run, objects => by
    have next := applyTransforms_run run
      { objects with items := objects.items.map (setMetadataEntries t.key (t.entries object)) }
    simp only [applyTransforms] at next ⊢
    rw [List.map_cons, List.foldlM_cons, t.transform_eq]
    exact next.trans (by simp [runOn, Function.comp_def])

/-- A run on a resource whose `metadata` cannot be written changes nothing. -/
theorem runOn_of_not_writable :
    ∀ (run : List PostRender) {resource : Value}, metadataWritable resource = false →
      runOn object run resource = resource
  | [], _, _ => rfl
  | t :: run, resource, stuck => by
    have unchanged : setMetadataEntries t.key (t.entries object) resource = resource := by
      rw [setMetadataEntries_eq, if_neg (by simp [stuck])]
    exact (congrArg (runOn object run) unchanged).trans (runOn_of_not_writable run stuck)

/-- A run leaves every field but `metadata` alone. -/
theorem runOn_field :
    ∀ (run : List PostRender) (resource : Value) {other : String}, other ≠ "metadata" →
      (runOn object run resource).field? other = resource.field? other
  | [], _, _, _ => rfl
  | _ :: run, resource, _, different =>
    (runOn_field run _ different).trans (field?_setMetadataEntries _ _ resource different)

/-- A run leaves alone every metadata entry that none of its transforms writes. -/
theorem runOn_nested :
    ∀ (run : List PostRender) (resource : Value) {other : String}, (∀ t ∈ run, t.key ≠ other) →
      (runOn object run resource).nested? ["metadata", other] = resource.nested? ["metadata", other]
  | [], _, _, _ => rfl
  | t :: run, resource, _, unwritten =>
    (runOn_nested run _ fun t' member => unwritten t' (List.mem_cons_of_mem _ member)).trans
      (nested?_setMetadataEntries_of_ne _ _ resource (Ne.symm (unwritten t (List.mem_cons_self _ _))))

/-- **Each metadata map evolves by the entries set in it**: on a resource with a writable
`metadata`, the map a run leaves at `metadata.<key>` is the one the getter read before the run,
with the entries of the run's transforms for that map set in order. -/
theorem runOn_nestedStringMap (key : String) :
    ∀ (run : List PostRender) {resource : Value}, metadataWritable resource = true →
      (runOn object run resource).nestedStringMap ["metadata", key] =
        run.foldl (fun map t => if t.key = key then
            (t.entries object).foldl (fun map entry => setEntry map entry.1 entry.2) map else map)
          (resource.nestedStringMap ["metadata", key])
  | [], _, _ => rfl
  | t :: run, resource, writable => by
    have step : (setMetadataEntries t.key (t.entries object) resource).nestedStringMap
        ["metadata", key] = if t.key = key then (t.entries object).foldl
          (fun map entry => setEntry map entry.1 entry.2) (resource.nestedStringMap ["metadata", key])
        else resource.nestedStringMap ["metadata", key] := by
      split_ifs with same
      · subst same
        exact nestedStringMap_setMetadataEntries _ _ writable
      · simp only [Value.nestedStringMap, nested?_setMetadataEntries_of_ne _ _ _ (Ne.symm same)]
    rw [List.foldl_cons, ← step]
    exact runOn_nestedStringMap key run (by rw [metadataWritable_setMetadataEntries]; exact writable)

/-- The entries of a transform, set in a map, override its lookups. -/
theorem lookupString_foldl_entries (t : PostRender) (map : List (String × String)) (k : String) :
    lookupString ((t.entries object).foldl (fun map entry => setEntry map entry.1 entry.2) map) k =
      (lookupString (t.entries object) k).or (lookupString map k) := by
  cases t with
  | disclaimer =>
    by_cases same : k = disclaimerAnnotation
    · simp [PostRender.entries, lookupString, same]
    · simp [PostRender.entries, lookupString, same, Ne.symm same]
  | kymaComponent =>
    by_cases part : k = "app.kubernetes.io/part-of"
    · simp [PostRender.entries, lookupString, part]
    · by_cases component : k = "app.kubernetes.io/component"
      · simp [PostRender.entries, lookupString, component]
      · simp [PostRender.entries, lookupString, part, component, Ne.symm part, Ne.symm component]
  | managedBy =>
    by_cases same : k = "reconciler.kyma-project.io/managed-by"
    · simp [PostRender.entries, lookupString, same]
    · simp [PostRender.entries, lookupString, same, Ne.symm same]

/-- A key a map finds is one of its keys. -/
theorem mem_of_lookupString_isSome {entries : List (String × String)} {k : String}
    (found : (lookupString entries k).isSome) : k ∈ entries.map (·.1) := by
  simp only [lookupString, Option.isSome_map', List.find?_isSome, beq_iff_eq] at found
  obtain ⟨entry, member, same⟩ := found
  exact List.mem_map.mpr ⟨entry, member, same⟩

/-- **The transforms agree on every entry they write.** -/
theorem writes_eq_written (t : PostRender) {key k : String} (writing : (t.writes object key k).isSome) :
    t.writes object key k = written object key k := by
  have member : t.key = key ∧ k ∈ (t.entries object).map (·.1) := by
    unfold PostRender.writes at writing
    split_ifs at writing with same
    · exact ⟨same, mem_of_lookupString_isSome writing⟩
    · cases writing
  obtain ⟨rfl, member⟩ := member
  cases t with
  | kymaComponent =>
    simp only [PostRender.entries, List.map_cons, List.map_nil, List.mem_cons, List.mem_singleton,
      List.not_mem_nil, or_false] at member
    rcases member with rfl | rfl <;> rfl
  | _ =>
    simp only [PostRender.entries, List.map_cons, List.map_nil, List.mem_singleton] at member
    subst member
    rfl

/-- **After any run, an entry that one of the run's transforms writes holds their value, and any
other entry what the getter read before the run.** Whether an entry is written depends on which
transforms the run holds, not on their order or number. -/
theorem lookupString_runOn (key k : String) (run : List PostRender) {resource : Value}
    (writable : metadataWritable resource = true) :
    lookupString ((runOn object run resource).nestedStringMap ["metadata", key]) k =
      if run.any fun t => (t.writes object key k).isSome then written object key k
      else lookupString (resource.nestedStringMap ["metadata", key]) k := by
  rw [runOn_nestedStringMap object key run writable]
  generalize resource.nestedStringMap ["metadata", key] = map
  induction run generalizing map with
  | nil => rfl
  | cons t run ih =>
    rw [List.foldl_cons, ih, List.any_cons]
    by_cases later : (run.any fun t => (t.writes object key k).isSome) = true
    · simp [later]
    · rw [if_neg later, Bool.eq_false_iff.mpr later, Bool.or_false]
      by_cases same : t.key = key
      · have writes : t.writes object key k = lookupString (t.entries object) k := if_pos same
        rw [if_pos same, lookupString_foldl_entries]
        cases found : lookupString (t.entries object) k with
        | none => simp [writes, found]
        | some value =>
          have agree := @writes_eq_written object t key k (by simp [writes, found])
          rw [writes, found] at agree
          simp [writes, found, ← agree]
      · have writes : t.writes object key k = none := if_neg same
        simp [same, writes]

/-- What a run stores at a metadata map that one of its transforms writes is a string map. -/
theorem runOn_nested_written (key : String) :
    ∀ (run : List PostRender) {resource : Value}, metadataWritable resource = true →
      (∃ t ∈ run, t.key = key) →
        (runOn object run resource).nested? ["metadata", key] =
          some (.obj (((runOn object run resource).nestedStringMap ["metadata", key]).map
            fun entry => (entry.1, .str entry.2)))
  | [], _, _, ⟨_, member, _⟩ => absurd member (List.not_mem_nil _)
  | t :: run, resource, writable, ⟨writer, member, writes⟩ => by
    have next : metadataWritable (setMetadataEntries t.key (t.entries object) resource) = true := by
      rw [metadataWritable_setMetadataEntries]
      exact writable
    by_cases later : ∃ t' ∈ run, t'.key = key
    · exact runOn_nested_written key run next later
    · push_neg at later
      have first : t.key = key := by
        rcases List.mem_cons.mp member with rfl | member
        · exact writes
        · exact absurd writes (later writer member)
      subst first
      have kept := runOn_nested object run (setMetadataEntries t.key (t.entries object) resource) later
      have sameMap : (runOn object run (setMetadataEntries t.key (t.entries object) resource)).nestedStringMap
          ["metadata", t.key] =
          (setMetadataEntries t.key (t.entries object) resource).nestedStringMap ["metadata", t.key] := by
        simp only [Value.nestedStringMap, kept]
      show (runOn object run _).nested? _ = some (.obj (((runOn object run _).nestedStringMap _).map _))
      rw [kept, sameMap]
      exact nested?_setMetadataEntries _ _ writable

/-- **Two runs of the same transforms agree**, in any order and any number of times: on every field
but `metadata`, on every metadata entry that no transform of theirs writes, and on every entry of
every metadata map. -/
theorem runOn_agree {run run' : List PostRender} (same : ∀ t, t ∈ run ↔ t ∈ run') {resource : Value}
    (writable : metadataWritable resource = true) :
    (∀ other, other ≠ "metadata" →
      (runOn object run resource).field? other = (runOn object run' resource).field? other) ∧
    (∀ key, (∀ t ∈ run, t.key ≠ key) →
      (runOn object run resource).nested? ["metadata", key] =
        (runOn object run' resource).nested? ["metadata", key]) ∧
    ∀ key k, lookupString ((runOn object run resource).nestedStringMap ["metadata", key]) k =
      lookupString ((runOn object run' resource).nestedStringMap ["metadata", key]) k := by
  refine ⟨fun other different => ?_, fun key unwritten => ?_, fun key k => ?_⟩
  · rw [runOn_field object run resource different, runOn_field object run' resource different]
  · rw [runOn_nested object run resource unwritten,
      runOn_nested object run' resource fun t member => unwritten t ((same t).mpr member)]
  · have sameAny : (run.any fun t => (t.writes object key k).isSome) =
        run'.any fun t => (t.writes object key k).isSome := by
      refine Bool.eq_iff_iff.mpr ?_
      simp only [List.any_eq_true, same]
    rw [lookupString_runOn object key k run writable, lookupString_runOn object key k run' writable,
      sameAny]

end Run

/-! ## Part 4 — a label that is no string -/

/-- A Deployment whose `tier` label is the number `1`. -/
def tieredDeployment : Value :=
  .obj [("apiVersion", .str "apps/v1"), ("kind", .str "Deployment"),
    ("metadata", .obj [("name", .str "nginx"), ("labels", .obj [("tier", .int 1)])])]

/-- **A resource labelled `tier: 1` loses that label.** `GetLabels` reads the nil map, so the map
the label transforms write back holds their own labels only. -/
theorem nonString_label_dropped :
    applyTransforms ⟨"nginx"⟩ [disclaimerTransform, kymaComponentTransform, managedByDeclarativeV2]
        ⟨[tieredDeployment], []⟩ =
      .ok ⟨[.obj [("apiVersion", .str "apps/v1"), ("kind", .str "Deployment"),
        ("metadata", .obj [("name", .str "nginx"),
          ("annotations", .obj [( disclaimerAnnotation, .str disclaimerAnnotationValue)]),
          ("labels", .obj [("app.kubernetes.io/component", .str "nginx"),
            ("app.kubernetes.io/part-of", .str "Kyma"),
            ("reconciler.kyma-project.io/managed-by", .str "declarative-v2")])])]], []⟩ :=
  rfl

end ModuleInstaller.Declarative
