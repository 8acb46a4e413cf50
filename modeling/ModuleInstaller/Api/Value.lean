import Mathlib.Data.List.Basic
/-
**Unstructured values: the `interface{}` trees the controller reads and writes.**

A decoded YAML or JSON document, an `unstructured.Unstructured` object and a `types.Flags` map
are all trees of `map[string]interface{}`, `[]interface{}` and scalars. `Value` is that tree.
A map is its list of entries; the code only ever reads a map by key, and a Go map holds each
key once, so `Value.field?` takes the first entry with the key.

The accessors mirror the `unstructured` helpers the code calls:

* `Value.field?` — `m[key]` on a `map[string]interface{}`, `none` on a missing key or a non-map;
* `Value.asString?` — the `.(string)` assertion with its `ok` flag;
* `Value.stringMap?` — `NestedStringMap`: a map all of whose values are strings;
* `Value.getLabels`, `Value.getNamespace`, `Value.getName` — `Unstructured.GetLabels`,
  `GetNamespace` and `GetName`, which drop the error of a malformed field and return the zero
  value.
-/

namespace ModuleInstaller

/-- An `interface{}` value as `encoding/json`, `sigs.k8s.io/yaml` and `strvals` produce it. -/
inductive Value where
  | null
  | bool (value : Bool)
  | int (value : Int)
  | str (value : String)
  | list (items : List Value)
  | obj (fields : List (String × Value))
  deriving Repr, Inhabited

/-- `m[key] = value` on the entries of a map. -/
def setEntry {α : Type} (entries : List (String × α)) (key : String) (value : α) :
    List (String × α) :=
  entries.filter (·.1 != key) ++ [(key, value)]

/-- Dropping the entries of one key leaves the lookup of every other key alone. -/
theorem find?_filter_ne {α : Type} {key other : String} (different : other ≠ key) :
    ∀ entries : List (String × α),
      (entries.filter (·.1 != key)).find? (·.1 == other) = entries.find? (·.1 == other)
  | [] => rfl
  | entry :: rest => by
    rw [List.filter_cons]
    by_cases kept : entry.1 = key
    · have skipped : (key == other) = false := by simp [Ne.symm different]
      simp [kept, List.find?_cons, skipped, find?_filter_ne different rest]
    · simp [kept, List.find?_cons, find?_filter_ne different rest]

/-- A write to a map changes the lookup of its own key only. -/
@[simp] theorem find?_setEntry {α : Type} (entries : List (String × α)) (key : String) (value : α)
    (other : String) :
    ((setEntry entries key value).find? (·.1 == other)).map (·.2) =
      if other = key then some value else (entries.find? (·.1 == other)).map (·.2) := by
  unfold setEntry
  rw [List.find?_append]
  by_cases same : other = key
  · subst same
    have dropped : (entries.filter (·.1 != other)).find? (·.1 == other) = none :=
      List.find?_eq_none.mpr fun entry member => by simpa using (List.mem_filter.mp member).2
    simp [dropped]
  · rw [find?_filter_ne same]
    simp [same, Ne.symm same]

namespace Value

/-- `m[key]` on a `map[string]interface{}`; a non-map has no fields. -/
def field? : Value → String → Option Value
  | .obj fields, key => (fields.find? (·.1 == key)).map (·.2)
  | _, _ => none

/-- The `.(string)` type assertion, `none` when it fails. -/
def asString? : Value → Option String
  | .str value => some value
  | _ => none

/-- The `.(map[string]interface{})` type assertion. -/
def asMap? : Value → Option (List (String × Value))
  | .obj fields => some fields
  | _ => none

/-- The `.([]interface{})` type assertion. -/
def asList? : Value → Option (List Value)
  | .list items => some items
  | _ => none

/-- The value at a path of map keys, as `unstructured.NestedFieldNoCopy` finds it. -/
def nested? : Value → List String → Option Value
  | value, [] => some value
  | value, key :: rest => (value.field? key).bind (nested? · rest)

/-- A map whose every value is a string, as `NestedStringMap` accepts it. -/
def stringMap? (value : Value) : Option (List (String × String)) :=
  value.asMap?.bind fun fields =>
    fields.mapM fun entry => entry.2.asString?.map (entry.1, ·)

/-- `unstructured.NestedStringMap` as the getters of `Unstructured` call it: the string map at the
path, and the nil map when it is missing, is no map, or holds a value that is no string. -/
def nestedStringMap (object : Value) (path : List String) : List (String × String) :=
  ((object.nested? path).bind stringMap?).getD []

/-- `Unstructured.GetLabels`: `metadata.labels` when it is a string map, else the nil map. -/
def getLabels (object : Value) : List (String × String) :=
  object.nestedStringMap ["metadata", "labels"]

/-- `Unstructured.GetAnnotations`: `metadata.annotations` when it is a string map, else the nil
map. -/
def getAnnotations (object : Value) : List (String × String) :=
  object.nestedStringMap ["metadata", "annotations"]

/-- `Unstructured.GetNamespace`: `metadata.namespace` when it is a string, else `""`. -/
def getNamespace (object : Value) : String :=
  ((object.nested? ["metadata", "namespace"]).bind asString?).getD ""

/-- `Unstructured.GetName`: `metadata.name` when it is a string, else `""`. -/
def getName (object : Value) : String :=
  ((object.nested? ["metadata", "name"]).bind asString?).getD ""

/-- `m[key] = value` on a map; a non-map becomes the map of this one entry, as a nil map
replaced by a fresh one does in the callers. -/
def setField (value : Value) (key : String) (entry : Value) : Value :=
  match value with
  | .obj fields => .obj ((fields.filter (·.1 != key)) ++ [(key, entry)])
  | _ => .obj [(key, entry)]

/-- `Unstructured.GetKind`: the `kind` field when it is a string, else `""`. -/
def getKind (object : Value) : String := ((object.field? "kind").bind asString?).getD ""

/-- `unstructured.SetNestedField` (`setNestedFieldNoCopy`) on a map: the value stored at the path
`field :: rest`, with a map made on the way for each missing or nil key. A key on the way that
holds anything else is an error, `none`, and the map is left as it was. -/
def setNestedField (fields : List (String × Value)) (value : Value) (field : String) :
    List String → Option (List (String × Value))
  | [] => some (setEntry fields field value)
  | next :: rest =>
    match (fields.find? (·.1 == field)).map (·.2) with
    | some (Value.obj inner) => (setNestedField inner value next rest).map (setEntry fields field ∘ obj)
    | some Value.null | none => (setNestedField [] value next rest).map (setEntry fields field ∘ obj)
    | some _ => none

/-- `Unstructured.setNestedMap`, which `SetLabels` and `SetAnnotations` call with a non-nil map. A
nil `Object` is made a map first. `SetNestedStringMap` then stores the map at the path, and its
error is dropped, which leaves the object as it was. -/
def setNestedMap (object : Value) (entries : List (String × String)) (field : String)
    (rest : List String) : Value :=
  let fields := object.asMap?.getD []
  obj ((setNestedField fields (obj (entries.map fun entry => (entry.1, str entry.2))) field
    rest).getD fields)

/-- `Unstructured.SetLabels` with a non-nil map. -/
def setLabels (object : Value) (labels : List (String × String)) : Value :=
  object.setNestedMap labels "metadata" ["labels"]

/-- `Unstructured.SetAnnotations` with a non-nil map. -/
def setAnnotations (object : Value) (annotations : List (String × String)) : Value :=
  object.setNestedMap annotations "metadata" ["annotations"]

/-- `Unstructured.SetNamespace` with a non-empty namespace: a nil `Object` is made a map first, and
`SetNestedField` stores the namespace at `metadata.namespace`; its error is dropped. -/
def setNamespace (object : Value) (namespaceName : String) : Value :=
  let fields := object.asMap?.getD []
  obj ((setNestedField fields (str namespaceName) "metadata" ["namespace"]).getD fields)

@[simp] theorem field?_obj (fields : List (String × Value)) (key : String) :
    (obj fields).field? key = (fields.find? (·.1 == key)).map (·.2) := rfl

@[simp] theorem asString?_str (value : String) : (str value).asString? = some value := rfl

/-- The `.(bool)` type assertion. -/
def asBool? : Value → Option Bool
  | .bool value => some value
  | _ => none

/-- The `.(int64)` type assertion: `strvals` and `ToUnstructured` give integers as `int64`. -/
def asInt64? : Value → Option Int
  | .int value => some value
  | _ => none

/-- The dynamic type Go names in a failed assertion on an `interface{}` holding the value. -/
def typeName : Value → String
  | .null => "nil"
  | .bool _ => "bool"
  | .int _ => "int64"
  | .str _ => "string"
  | .list _ => "[]interface \x7b\x7d"
  | .obj _ => "map[string]interface \x7b\x7d"

end Value

/-- A Go call that returns, or panics with the message the runtime prints. -/
inductive Outcome (α : Type) where
  | returns (value : α)
  | panics (message : String)
  deriving Repr, DecidableEq

instance : Monad Outcome where
  pure := .returns
  bind
    | .returns value, next => next value
    | .panics message, _ => .panics message

namespace Outcome

/-- The call panicked. -/
def isPanic {α : Type} : Outcome α → Bool
  | .returns _ => false
  | .panics _ => true

@[simp] theorem pure_eq {α : Type} (value : α) : (pure value : Outcome α) = .returns value := rfl

@[simp] theorem returns_bind {α β : Type} (value : α) (next : α → Outcome β) :
    (Outcome.returns value >>= next) = next value := rfl

@[simp] theorem panics_bind {α β : Type} (message : String) (next : α → Outcome β) :
    (Outcome.panics message >>= next) = .panics message := rfl

end Outcome

/-- The single-value assertion `value.(T)`, which panics when the dynamic type is not `T`. -/
def Value.assert {α : Type} (target : String) (cast : Value → Option α) (value : Value) : Outcome α :=
  match cast value with
  | some result => .returns result
  | none => .panics ("interface conversion: interface \x7b\x7d is " ++ value.typeName ++ ", not " ++ target)

/-- Replacing one element of a list changes what `filterMap` keeps by that element alone. -/
theorem filterMap_set_perm {α β : Type} (f : α → Option β) : ∀ (l : List α) (n : Nat) (a b : α),
    l[n]? = some a → ((l.set n b).filterMap f ++ (f a).toList).Perm (l.filterMap f ++ (f b).toList)
  | [], _, _, _, found => by simp at found
  | x :: xs, 0, a, b, found => by
    simp only [List.getElem?_cons_zero, Option.some.injEq] at found
    subst found
    have moved : ∀ (v : β) (rest : List β), (v :: rest).Perm (rest ++ [v]) :=
      fun v rest => (List.perm_append_singleton v rest).symm
    cases fa : f x <;> cases fb : f b <;> simp only [List.set_cons_zero, List.filterMap_cons, fa, fb,
      Option.toList_none, Option.toList_some, List.append_nil, List.cons_append, List.Perm.refl]
    · exact moved _ _
    · exact (moved _ _).symm
    · exact (((moved _ _).symm.cons _).trans (.swap _ _ _)).trans ((moved _ _).cons _)
  | x :: xs, n + 1, a, b, found => by
    have ih := filterMap_set_perm f xs n a b (by simpa using found)
    cases fx : f x <;> simp [List.filterMap_cons, fx, ih]

/-- A `map[string]string` lookup, `none` for a missing key. -/
def lookupString (entries : List (String × String)) (key : String) : Option String :=
  (entries.find? (·.1 == key)).map (·.2)

end ModuleInstaller
