import Mathlib.Data.List.Forall2
import ModuleInstaller.Util.FilePath
import ModuleInstaller.Declarative.Transforms
import ModuleInstaller.Declarative.Apply
/-
**The Helm client's resource lists (`pkg/manifest/client.go`, `FilterExistingResources`).**

`GetTargetResources` makes the list of `resource.Info`s a chart's rendered manifest is applied
as. Without transforms it hands the manifest to Helm's `kubeClient.Build`. With transforms,
`transformManifestResources` parses the manifest with `ParseManifestStringToObjects`, runs the
transforms over the objects as `Transformer.Transform` does, and converts each item with
`convertToInfo`, which asks the REST mapper for the item's kind. `overrideNamespace` then walks
the list with `Visit`. For each info it builds a `resource.Helper`, which reads the mapping's
scope, and puts a namespace-scoped info that has no namespace, together with its object, into the
target namespace, or into `default` when the target is empty.

Two more walks of a list read every info in turn and stop at the first error. `checkReady` asks
the ready checker. `FilterExistingResources` asks the API server for each object and keeps those
it finds, skipping a NotFound and stopping at any other error.

* `checkReady_eq` — `checkReady` reports the first check that errs, with that check's verdict,
  and otherwise whether every resource is ready;
* `overrideNamespace_eq` — `overrideNamespace` panics at the first info without a mapping, and
  otherwise moves exactly the namespace-scoped infos without a namespace;
* `filterExistingResources_eq` — with every mapping set, `FilterExistingResources` returns the
  resources found before the first failed lookup, and that lookup's error;
* **`getTargetResources_of_transforms`** — through transforms, `GetTargetResources` never panics,
  and each info it returns is one item of `Transformer.Transform`'s result in order, converted with
  its mapping and moved into the target namespace if it needs one;
* **`getTargetResources_namespaces`** — so each of those infos has a mapping, a non-empty
  namespace when its kind is namespace-scoped, and the namespace its object carries whenever the
  object's `metadata` can be written.
-/

namespace ModuleInstaller.Manifest

open Types Util
open Declarative (GroupVersionKind deref)

/-! ## Part 1 — infos, and the calls that build and read them -/

/-- `schema.GroupVersion`. -/
structure GroupVersion where
  group : String
  version : String
  deriving DecidableEq, Repr

/-- `schema.ParseGroupVersion`: `""` and `"/"` are the empty group version, a text without a slash
is a version of the core group, and one slash separates group and version. A text with more
slashes is an error, `none`. -/
def parseGroupVersion (gv : String) : Option GroupVersion :=
  if gv = "" ∨ gv = "/" then some ⟨"", ""⟩
  else
    match partsOf gv '/' with
    | [version] => some ⟨"", version⟩
    | [group, version] => some ⟨group, version⟩
    | _ => none

/-- `Unstructured.GroupVersionKind`: the group and version of `apiVersion` with the kind, or the
empty kind when `apiVersion` does not parse. -/
def groupVersionKind (object : Value) : GroupVersionKind :=
  match parseGroupVersion (((object.field? "apiVersion").bind Value.asString?).getD "") with
  | some gv => ⟨gv.group, gv.version, object.getKind⟩
  | none => ⟨"", "", ""⟩

/-- `meta.RESTMapping` as the Helm client reads it: the kind, and whether the scope is the
namespace, which `resource.NewHelper` reads into `NamespaceScoped`. -/
structure RESTMapping where
  groupVersionKind : GroupVersionKind
  namespaceScoped : Bool

/-- `resource.Info` as the Helm client builds and reads it; a nil `Mapping` is `none`. -/
structure Info where
  namespaceName : String
  name : String
  object : Value
  mapping : Option RESTMapping

/-- Whether an info's kind is scoped to namespaces, as its helper reads it; `false` without a
mapping. -/
def Info.namespaceScoped (info : Info) : Bool := info.mapping.any (·.namespaceScoped)

/-- `v1.NamespaceDefault`. -/
def namespaceDefault : String := "default"

/-- The collaborators of `HelmClient` that the resource lists go through. -/
structure KubeEnv where
  /-- `rest.RESTClientFor` on the client's rest config, with this API path and group version. -/
  restClientFor : String → GroupVersion → Except String Unit
  /-- `h.mapper.RESTMapping(gvk.GroupKind(), gvk.Version)`. -/
  restMapping : GroupVersionKind → Except String RESTMapping
  /-- `h.kubeClient.Build(manifest, true)`. -/
  build : String → Except String (List Info)

section Client

variable (env : KubeEnv)

/-- `newRestClient`: the core group is served under `/api`, every other group under `/apis`. -/
def newRestClient (gv : GroupVersion) : Except String Unit :=
  env.restClientFor (if gv.group = "" then "/api" else "/apis") gv

/-- `assignRestMapping`: the info with the mapping of the kind, or the mapper's error. -/
def assignRestMapping (gvk : GroupVersionKind) (info : Info) : Except String Info := do
  let restMapping ← env.restMapping gvk
  pure { info with mapping := some restMapping }

/-- `convertToInfo`. The info's object is a copy of the item. -/
def convertToInfo (unstructuredObj : Value) : Except String Info := do
  let gvk := groupVersionKind unstructuredObj
  newRestClient env ⟨gvk.group, gvk.version⟩
  let info ← assignRestMapping env gvk ⟨"", "", .null, none⟩
  pure { info with namespaceName := unstructuredObj.getNamespace, name := unstructuredObj.getName,
                   object := unstructuredObj }

/-- `transformManifestResources`: the manifest parsed, the transforms run in turn, and every item
converted; the first error ends it. -/
def transformManifestResources (yaml : YamlParser) (manifest : String)
    (transforms : List Declarative.ObjectTransform) (object : Declarative.Object) :
    Except String (List Info) := do
  let objects ← parseManifestStringToObjects yaml manifest
  let objects ← Declarative.applyTransforms object transforms objects
  objects.items.mapM (convertToInfo env)

end Client

/-- `resource.NewHelper(info.Client, info.Mapping)`, as far as the callers read it: the scope of
the mapping. It reads the mapping's fields, so a nil mapping panics. -/
def newHelper (info : Info) : Outcome Bool := do
  let mapping ← deref info.mapping
  pure mapping.namespaceScoped

/-- `setNamespaceIfNotPresent`. `meta.Accessor` accepts every object the client builds. -/
def setNamespaceIfNotPresent (targetNamespace : String) (resourceInfo : Info)
    (namespaceScoped : Bool) : Info :=
  if namespaceScoped && resourceInfo.namespaceName == "" then
    let targetNamespace := if targetNamespace == "" then namespaceDefault else targetNamespace
    { resourceInfo with namespaceName := targetNamespace,
                        object := resourceInfo.object.setNamespace targetNamespace }
  else resourceInfo

/-- `overrideNamespace`: `Visit` hands every info in turn to the callback, which builds the
helper and sets the namespace. The callback returns no error. -/
def overrideNamespace : List Info → String → Outcome (List Info)
  | [], _ => pure []
  | info :: rest, targetNamespace => do
    let namespaceScoped ← newHelper info
    let rest ← overrideNamespace rest targetNamespace
    pure (setNamespaceIfNotPresent targetNamespace info namespaceScoped :: rest)

/-- `GetTargetResources`. -/
def getTargetResources (env : KubeEnv) (yaml : YamlParser) (manifest targetNamespace : String)
    (transforms : List Declarative.ObjectTransform) (object : Declarative.Object) :
    Outcome (Except String (List Info)) :=
  match (if transforms.isEmpty then env.build manifest
      else transformManifestResources env yaml manifest transforms object) with
  | .error err => pure (.error err)
  | .ok resourceList => do
    let resourceList ← overrideNamespace resourceList targetNamespace
    pure (.ok resourceList)

/-- The loop of `checkReady` from an info on, with `resourcesReady` as set so far. A check that
reports not ready or an error sets the flag to its verdict, and only an error ends the loop. -/
def checkReadyFrom (isReady : Info → Bool × Option String) :
    Bool → List Info → Bool × Option String
  | resourcesReady, [] => (resourcesReady, none)
  | resourcesReady, info :: rest =>
    match isReady info with
    | (ready, err) =>
      if !ready || err.isSome then
        match err with
        | some err => (ready, some err)
        | none => checkReadyFrom isReady ready rest
      else checkReadyFrom isReady resourcesReady rest

/-- `checkReady`, with `readyChecker.IsReady` as `isReady`. -/
def checkReady (isReady : Info → Bool × Option String) (resourceList : List Info) :
    Bool × Option String :=
  checkReadyFrom isReady true resourceList

/-- What `helper.Get` answered for an info: the object, a NotFound error, or another error. -/
inductive GetResult where
  | found
  | notFound
  | failed (err : String)
  deriving DecidableEq

/-- The error of an answer other than NotFound. -/
def GetResult.error? : GetResult → Option String
  | .failed err => some err
  | _ => none

@[simp] theorem GetResult.error?_found : GetResult.found.error? = none := rfl

@[simp] theorem GetResult.error?_notFound : GetResult.notFound.error? = none := rfl

@[simp] theorem GetResult.error?_failed (err : String) : (GetResult.failed err).error? = some err := rfl

/-- `errors.Wrapf(err, "could not get information about the resource %s / %s", ...)`. -/
def wrapGetError (info : Info) (err : String) : String :=
  "could not get information about the resource " ++ info.name ++ " / " ++ info.namespaceName ++ ": " ++
    err

/-- The loop of `FilterExistingResources` from an info on, with the resources kept so far. -/
def filterExistingFrom (get : Info → GetResult) :
    List Info → List Info → Outcome (List Info × Option String)
  | existingResources, [] => pure (existingResources, none)
  | existingResources, info :: rest => do
    let _ ← newHelper info
    match get info with
    | .found => filterExistingFrom get (existingResources ++ [info]) rest
    | .notFound => filterExistingFrom get existingResources rest
    | .failed err => pure (existingResources, some (wrapGetError info err))

/-- `FilterExistingResources`: the resources kept, returned together with the error. -/
def filterExistingResources (get : Info → GetResult) (resources : List Info) :
    Outcome (List Info × Option String) :=
  filterExistingFrom get [] resources

/-! ## Part 2 — one info -/

/-- **What `convertToInfo` builds**: an info of the item's name and namespace, holding the item and
the mapping of its kind, once the REST client for its group version can be made. -/
theorem convertToInfo_eq_ok (env : KubeEnv) (item : Value) (info : Info) :
    convertToInfo env item = .ok info ↔
      newRestClient env ⟨(groupVersionKind item).group, (groupVersionKind item).version⟩ = .ok () ∧
        ∃ mapping, env.restMapping (groupVersionKind item) = .ok mapping ∧
          info = ⟨item.getNamespace, item.getName, item, some mapping⟩ := by
  unfold convertToInfo assignRestMapping
  rcases client : newRestClient env ⟨(groupVersionKind item).group, (groupVersionKind item).version⟩
    with err | ⟨⟩
  · simp [client, bind, Except.bind]
  rcases found : env.restMapping (groupVersionKind item) with err | mapping
  · simp [client, found, bind, Except.bind]
  · simp only [client, found, bind, Except.bind, pure, Except.pure, Except.ok.injEq, true_and,
      exists_eq_left']
    exact ⟨Eq.symm, Eq.symm⟩

@[simp] theorem newHelper_of_mapping {info : Info} {mapping : RESTMapping}
    (mapped : info.mapping = some mapping) : newHelper info = .returns mapping.namespaceScoped := by
  simp [newHelper, mapped, deref]

@[simp] theorem namespaceScoped_of_mapping {info : Info} {mapping : RESTMapping}
    (mapped : info.mapping = some mapping) : info.namespaceScoped = mapping.namespaceScoped := by
  simp [Info.namespaceScoped, mapped]

@[simp] theorem name_setNamespaceIfNotPresent (targetNamespace : String) (info : Info)
    (namespaceScoped : Bool) :
    (setNamespaceIfNotPresent targetNamespace info namespaceScoped).name = info.name := by
  unfold setNamespaceIfNotPresent
  split <;> rfl

@[simp] theorem mapping_setNamespaceIfNotPresent (targetNamespace : String) (info : Info)
    (namespaceScoped : Bool) :
    (setNamespaceIfNotPresent targetNamespace info namespaceScoped).mapping = info.mapping := by
  unfold setNamespaceIfNotPresent
  split <;> rfl

/-- `SetNamespace` stores the namespace under `metadata` when `metadata` is a map, nil or
missing, and otherwise changes nothing. -/
theorem setNamespace_eq (object : Value) (namespaceName : String) :
    object.setNamespace namespaceName =
      if Declarative.metadataWritable object then
        .obj (setEntry (object.asMap?.getD []) "metadata"
          (.obj (setEntry (Declarative.metadataOf object) "namespace" (.str namespaceName))))
      else object := by
  unfold Value.setNamespace Declarative.metadataWritable Declarative.metadataOf
  simp only [Value.setNestedField, Declarative.find?_asMap]
  cases object with
  | obj fields =>
    simp only [Value.field?_obj]
    generalize (fields.find? (·.1 == "metadata")).map (·.2) = metadata
    rcases metadata with _ | ⟨_ | _ | _ | _ | _ | inner⟩ <;> rfl
  | _ => rfl

/-- An object that keeps a namespace after `SetNamespace` carries the one set. -/
theorem getNamespace_setNamespace {object : Value} (namespaceName : String)
    (writable : Declarative.metadataWritable (object.setNamespace namespaceName)) :
    (object.setNamespace namespaceName).getNamespace = namespaceName := by
  rw [setNamespace_eq] at writable ⊢
  split_ifs with before
  · simp [Value.getNamespace, Value.nested?]
  · rw [if_neg before] at writable
    exact absurd writable before

/-- **One info**: the namespace `setNamespaceIfNotPresent` leaves is not empty for a namespaced
kind, and it is the object's namespace whenever it was before and the object's `metadata` can be
written. -/
theorem setNamespaceIfNotPresent_namespace (targetNamespace : String) (info : Info)
    (namespaceScoped : Bool) (agreed : info.namespaceName = info.object.getNamespace) :
    (namespaceScoped → (setNamespaceIfNotPresent targetNamespace info namespaceScoped).namespaceName ≠ "") ∧
      (Declarative.metadataWritable (setNamespaceIfNotPresent targetNamespace info namespaceScoped).object →
        (setNamespaceIfNotPresent targetNamespace info namespaceScoped).object.getNamespace =
          (setNamespaceIfNotPresent targetNamespace info namespaceScoped).namespaceName) := by
  unfold setNamespaceIfNotPresent
  split_ifs with moved target
  · exact ⟨fun _ => by simp [namespaceDefault], getNamespace_setNamespace _⟩
  · exact ⟨fun _ => by simpa using target, getNamespace_setNamespace _⟩
  · refine ⟨fun namespaced => ?_, fun _ => agreed.symm⟩
    simpa [namespaced] using moved

/-! ## Part 3 — the walks over a list -/

/-- The loop of `checkReady` in closed form. -/
theorem checkReadyFrom_eq (isReady : Info → Bool × Option String) (resourcesReady : Bool)
    (resourceList : List Info) :
    checkReadyFrom isReady resourcesReady resourceList =
      match resourceList.find? fun info => (isReady info).2.isSome with
      | some info => isReady info
      | none => (resourcesReady && resourceList.all fun info => (isReady info).1, none) := by
  induction resourceList generalizing resourcesReady with
  | nil => simp [checkReadyFrom]
  | cons info rest ih =>
    rcases checked : isReady info with ⟨ready, _ | err⟩ <;> cases ready <;>
      simp [checkReadyFrom, checked, ih]

/-- **`checkReady` reports the first check that errs**, with that check's verdict, even when a
resource before it was not ready; when no check errs, it reports whether every resource is
ready. -/
theorem checkReady_eq (isReady : Info → Bool × Option String) (resourceList : List Info) :
    checkReady isReady resourceList =
      match resourceList.find? fun info => (isReady info).2.isSome with
      | some info => isReady info
      | none => (resourceList.all fun info => (isReady info).1, none) := by
  rw [checkReady, checkReadyFrom_eq]
  simp

/-- **`overrideNamespace` in closed form**: it panics at the first info without a mapping, and
otherwise returns every info in order, with the namespace set on exactly those whose kind is
namespace-scoped and that have none. -/
theorem overrideNamespace_eq (targetNamespace : String) :
    ∀ resourceList : List Info, overrideNamespace resourceList targetNamespace =
      if resourceList.any (·.mapping.isNone) then
        .panics "runtime error: invalid memory address or nil pointer dereference"
      else .returns (resourceList.map fun info =>
        setNamespaceIfNotPresent targetNamespace info info.namespaceScoped)
  | [] => rfl
  | info :: rest => by
    rcases mapped : info.mapping with _ | mapping
    · simp [overrideNamespace, newHelper, mapped, deref]
    · simp only [overrideNamespace, newHelper_of_mapping mapped, Outcome.returns_bind,
        overrideNamespace_eq targetNamespace rest, List.any_cons, mapped, Option.isNone_some,
        Bool.false_or, List.map_cons, namespaceScoped_of_mapping mapped]
      split <;> rfl

/-- The loop of `FilterExistingResources` in closed form, with every mapping set. -/
theorem filterExistingFrom_eq (get : Info → GetResult) (existingResources resourceList : List Info)
    (mapped : ∀ info ∈ resourceList, info.mapping.isSome) :
    filterExistingFrom get existingResources resourceList =
      .returns (existingResources ++ (resourceList.takeWhile fun info => (get info).error?.isNone).filter
          (get · == .found),
        resourceList.findSome? fun info => (get info).error?.map (wrapGetError info)) := by
  induction resourceList generalizing existingResources with
  | nil => simp [filterExistingFrom]
  | cons info rest ih =>
    obtain ⟨mapping, some⟩ := Option.isSome_iff_exists.mp (mapped info (List.mem_cons_self _ _))
    have next := fun existing => ih existing fun other member => mapped other (List.mem_cons_of_mem _ member)
    rcases answered : get info with _ | _ | err <;> simp [filterExistingFrom, some, answered, next]

/-- **What `FilterExistingResources` returns**: with every mapping set, the resources the API
server found, in order, up to the first lookup that failed with an error other than NotFound, and
that error, naming the resource; resources after it are never looked up. -/
theorem filterExistingResources_eq (get : Info → GetResult) {resourceList : List Info}
    (mapped : ∀ info ∈ resourceList, info.mapping.isSome) :
    filterExistingResources get resourceList =
      .returns ((resourceList.takeWhile fun info => (get info).error?.isNone).filter (get · == .found),
        resourceList.findSome? fun info => (get info).error?.map (wrapGetError info)) := by
  simpa using filterExistingFrom_eq get [] resourceList mapped

/-- A pod with its mapping, in the namespace `default`. -/
def podInfo : Info :=
  ⟨"default", "nginx", .null, some ⟨⟨"", "v1", "Pod"⟩, true⟩⟩

/-- A lookup of the pod that the API server refuses: no resource is kept, and the error names it. -/
theorem forbidden_pod_lookup :
    (∀ info ∈ [podInfo], info.mapping.isSome) ∧
      filterExistingResources (fun _ => .failed "forbidden") [podInfo] =
        .returns (([podInfo].takeWhile fun _ => (GetResult.failed "forbidden").error?.isNone).filter
            (fun _ => GetResult.failed "forbidden" == .found),
          [podInfo].findSome? fun info => (GetResult.failed "forbidden").error?.map (wrapGetError info)) :=
  ⟨by decide, filterExistingResources_eq _ (by decide)⟩

/-! ## Part 4 — `GetTargetResources` through the transforms -/

/-- The client's parse and transform step is `Transformer.Transform`. -/
theorem transformManifestResources_eq (env : KubeEnv) (yaml : YamlParser) (manifest : String)
    (transforms : List Declarative.ObjectTransform) (object : Declarative.Object) :
    transformManifestResources env yaml manifest transforms object =
      (Declarative.transform yaml manifest object transforms).bind
        fun objects => objects.items.mapM (convertToInfo env) := by
  unfold transformManifestResources Declarative.transform
  cases parseManifestStringToObjects yaml manifest <;> rfl

/-- What every pair of a `Forall₂` gives of its right element holds of every right element. -/
theorem forall_mem_of_forall₂ {α β : Type} {R : α → β → Prop} {P : β → Prop}
    (each : ∀ a b, R a b → P b) :
    ∀ {l₁ : List α} {l₂ : List β}, List.Forall₂ R l₁ l₂ → ∀ b ∈ l₂, P b
  | _, _, .nil => fun _ member => absurd member (List.not_mem_nil _)
  | _, _, .cons head tail => fun b member => by
    rcases List.mem_cons.mp member with rfl | member
    · exact each _ _ head
    · exact forall_mem_of_forall₂ each tail b member

/-- Converting every item gives, in order, one info per item, as `convertToInfo` builds it. -/
theorem mapM_convertToInfo (env : KubeEnv) :
    ∀ {items : List Value} {infos : List Info}, items.mapM (convertToInfo env) = .ok infos →
      List.Forall₂ (fun item info => convertToInfo env item = .ok info) items infos
  | [], infos, converted => by
    obtain rfl : [] = infos := Except.ok.inj converted
    exact .nil
  | item :: rest, infos, converted => by
    rw [List.mapM_cons] at converted
    rcases first : convertToInfo env item with err | info
    · rw [first] at converted
      cases converted
    rcases others : rest.mapM (convertToInfo env) with err | infos'
    · rw [first, others] at converted
      cases converted
    rw [first, others] at converted
    obtain rfl : info :: infos' = infos := Except.ok.inj converted
    exact .cons first (mapM_convertToInfo env others)

/-- **What the client's conversion returns**: one info per item of `Transformer.Transform`'s
result, in order, each of the item's name and namespace, holding the item and the mapping of its
kind. -/
theorem transformManifestResources_ok (env : KubeEnv) (yaml : YamlParser) (manifest : String)
    (transforms : List Declarative.ObjectTransform) (object : Declarative.Object) {infos : List Info}
    (converted : transformManifestResources env yaml manifest transforms object = .ok infos) :
    ∃ objects, Declarative.transform yaml manifest object transforms = .ok objects ∧
      List.Forall₂ (fun item info => ∃ mapping,
          env.restMapping (groupVersionKind item) = .ok mapping ∧
            info = ⟨item.getNamespace, item.getName, item, some mapping⟩) objects.items infos := by
  rw [transformManifestResources_eq] at converted
  rcases transforming : Declarative.transform yaml manifest object transforms with
    err | objects <;> rw [transforming] at converted
  · cases converted
  exact ⟨objects, rfl, (mapM_convertToInfo env converted).imp fun item info built =>
    ((convertToInfo_eq_ok env item info).mp built).2⟩

/-- Every info the conversion returns is built from one item, with a mapping. -/
theorem mem_transformManifestResources (env : KubeEnv) (yaml : YamlParser) (manifest : String)
    (transforms : List Declarative.ObjectTransform) (object : Declarative.Object) {infos : List Info}
    (converted : transformManifestResources env yaml manifest transforms object = .ok infos) :
    ∀ info ∈ infos, ∃ item mapping, info = ⟨item.getNamespace, item.getName, item, some mapping⟩ := by
  obtain ⟨_, -, each⟩ := transformManifestResources_ok env yaml manifest transforms object converted
  exact forall_mem_of_forall₂ (fun item _ built => by
    obtain ⟨mapping, -, rfl⟩ := built
    exact ⟨item, mapping, rfl⟩) each

/-- Through transforms, `GetTargetResources` overrides the namespaces of the converted list, and
never panics: every info the conversion builds carries a mapping. -/
theorem getTargetResources_of_nonempty (env : KubeEnv) (yaml : YamlParser)
    (manifest targetNamespace : String) {transforms : List Declarative.ObjectTransform}
    (object : Declarative.Object) (nonempty : transforms ≠ []) :
    getTargetResources env yaml manifest targetNamespace transforms object =
      .returns ((transformManifestResources env yaml manifest transforms object).map fun infos =>
        infos.map fun info => setNamespaceIfNotPresent targetNamespace info info.namespaceScoped) := by
  unfold getTargetResources
  rw [if_neg (by simpa using nonempty)]
  rcases converting : transformManifestResources env yaml manifest transforms object with err | infos
  · rfl
  have mapped : infos.any (·.mapping.isNone) = false :=
    List.any_eq_false.mpr fun info member => by
      obtain ⟨item, mapping, rfl⟩ :=
        mem_transformManifestResources env yaml manifest transforms object converting info member
      simp
  simp only [overrideNamespace_eq, mapped]
  rfl

/-- **Through transforms, `GetTargetResources` never panics**, and each info it returns is, in
order, one item of `Transformer.Transform`'s result, converted with the mapping of its kind, and
put into the target namespace, or `default`, when its kind is namespace-scoped and it has no
namespace. -/
theorem getTargetResources_of_transforms (env : KubeEnv) (yaml : YamlParser)
    (manifest targetNamespace : String) {transforms : List Declarative.ObjectTransform}
    (object : Declarative.Object) (nonempty : transforms ≠ []) :
    ∃ result, getTargetResources env yaml manifest targetNamespace transforms object = .returns result ∧
      ∀ infos, result = .ok infos →
        ∃ objects, Declarative.transform yaml manifest object transforms = .ok objects ∧
          List.Forall₂ (fun item info => ∃ mapping,
              env.restMapping (groupVersionKind item) = .ok mapping ∧
              info = setNamespaceIfNotPresent targetNamespace
                ⟨item.getNamespace, item.getName, item, some mapping⟩ mapping.namespaceScoped)
            objects.items infos := by
  refine ⟨_, getTargetResources_of_nonempty env yaml manifest targetNamespace object nonempty,
    fun infos returned => ?_⟩
  rcases converting : transformManifestResources env yaml manifest transforms object with
    err | converted <;> rw [converting] at returned <;> cases returned
  obtain ⟨objects, transforming, each⟩ :=
    transformManifestResources_ok env yaml manifest transforms object converting
  refine ⟨objects, transforming, List.forall₂_map_right_iff.mpr (each.imp fun _ _ built => ?_)⟩
  obtain ⟨mapping, found, rfl⟩ := built
  exact ⟨mapping, found, rfl⟩

/-- A parser that reads the one document `pod` as a pod named `nginx` without a namespace. -/
def podYaml : YamlParser where
  toJSON document := if document = "pod".toList then
      .ok (.obj [("apiVersion", .str "v1"), ("kind", .str "Pod"), ("metadata", .obj [("name", .str "nginx")])])
    else .ok .null
  toJSON_empty := rfl
  toJSON_null := rfl

/-- A cluster whose REST mapper knows every kind, as a namespace-scoped resource. -/
def namespacedKube : KubeEnv where
  restClientFor _ _ := .ok ()
  restMapping gvk := .ok ⟨gvk, true⟩
  build _ := .ok []

/-- The manifest `pod` through the disclaimer transform, with no target namespace. -/
theorem pod_targets :
    [Declarative.disclaimerTransform] ≠ [] ∧
      ∃ result, getTargetResources namespacedKube podYaml "pod" "" [Declarative.disclaimerTransform]
          ⟨"nginx"⟩ = .returns result ∧
        ∀ infos, result = .ok infos →
          ∃ objects, Declarative.transform podYaml "pod" ⟨"nginx"⟩ [Declarative.disclaimerTransform] =
              .ok objects ∧
            List.Forall₂ (fun item info => ∃ mapping,
                namespacedKube.restMapping (groupVersionKind item) = .ok mapping ∧
                info = setNamespaceIfNotPresent "" ⟨item.getNamespace, item.getName, item, some mapping⟩
                  mapping.namespaceScoped)
              objects.items infos :=
  ⟨List.cons_ne_nil _ _,
    getTargetResources_of_transforms namespacedKube podYaml "pod" "" ⟨"nginx"⟩ (List.cons_ne_nil _ _)⟩

/-- **Every info `GetTargetResources` returns through transforms is ready to apply**: it has a
mapping, a namespace when its kind is namespace-scoped, and the same namespace as its object
whenever the object's `metadata` can be written. -/
theorem getTargetResources_namespaces (env : KubeEnv) (yaml : YamlParser)
    (manifest targetNamespace : String) {transforms : List Declarative.ObjectTransform}
    (object : Declarative.Object) (nonempty : transforms ≠ []) {infos : List Info}
    (returned : getTargetResources env yaml manifest targetNamespace transforms object =
      .returns (.ok infos)) :
    ∀ info ∈ infos, ∃ mapping, info.mapping = some mapping ∧
      (mapping.namespaceScoped → info.namespaceName ≠ "") ∧
      (Declarative.metadataWritable info.object → info.object.getNamespace = info.namespaceName) := by
  rw [getTargetResources_of_nonempty env yaml manifest targetNamespace object nonempty] at returned
  rcases converting : transformManifestResources env yaml manifest transforms object with
    err | converted <;> rw [converting] at returned <;> cases returned
  intro info member
  obtain ⟨built, builtMember, rfl⟩ := List.mem_map.mp member
  obtain ⟨item, mapping, rfl⟩ :=
    mem_transformManifestResources env yaml manifest transforms object converting built builtMember
  have kept := setNamespaceIfNotPresent_namespace targetNamespace
    ⟨item.getNamespace, item.getName, item, some mapping⟩ mapping.namespaceScoped rfl
  exact ⟨mapping, by simp, by simpa [Info.namespaceScoped] using kept.1,
    by simpa [Info.namespaceScoped] using kept.2⟩

/-- The pod of the manifest `pod` is put, with its object, into `default`. -/
theorem pod_lands_in_default :
    [Declarative.disclaimerTransform] ≠ [] ∧
      ∃ infos, getTargetResources namespacedKube podYaml "pod" "" [Declarative.disclaimerTransform]
          ⟨"nginx"⟩ = .returns (.ok infos) ∧
        ∀ info ∈ infos, ∃ mapping, info.mapping = some mapping ∧
          (mapping.namespaceScoped → info.namespaceName ≠ "") ∧
          (Declarative.metadataWritable info.object → info.object.getNamespace = info.namespaceName) :=
  ⟨List.cons_ne_nil _ _, _, rfl,
    getTargetResources_namespaces namespacedKube podYaml "pod" "" ⟨"nginx"⟩
      (List.cons_ne_nil Declarative.disclaimerTransform []) rfl⟩

end ModuleInstaller.Manifest
