import ModuleInstaller.Prepare.Strvals
/-
**The Helm action client's flags (`pkg/manifest/client.go`).**

`NewInstallActionClient` builds a fresh `*action.Install`, sets the defaults of
`SetDefaultClientConfig`, and hands the client to `SetFlags` together with the maps of
`prepareArgs`. `SetFlags` walks the `flags` map, the one `strvals.ParseInto` made of the install's
`clientConfig`. For each key it looks up the field of that name by reflection, skips the key when
there is no such settable field, and otherwise switches on the field's kind. In each case of the
switch it makes a single-value type assertion on the flag's value, and that assertion panics
when the value has another dynamic type.

`reflect` sees the client as its settable fields by name, each with its kind and value. The map
is taken in its iteration order, and every result below holds for any order.

* `setFlag_eq` — one iteration: a panic naming the value's type exactly when the field's kind
  rejects the value, else the value stored in the field;
* `foldlM_setFlag_of_accepted`, `foldlM_setFlag_isPanic` — the loop: the flags applied one after
  the other when every field accepts its value, and a panic exactly when some field rejects it;
* **`setFlags_isPanic`** — `SetFlags` panics exactly when a key of the flags map names a bool, int,
  int64 or string field whose value has another type;
* `namespace_flag_panics` — the client config `Namespace=5`, which `strvals` reads as an `int64`,
  panics in `NewInstallActionClient`.
-/

namespace ModuleInstaller.Manifest

open Types

/-! ## Part 1 — the client as reflection sees it -/

/-- The kinds `SetFlags` switches on; `other` stands for every kind it leaves alone. -/
inductive FieldKind where
  | bool
  | int
  | int64
  | string
  | other
  deriving DecidableEq, Repr

/-- A settable field: the kind of its Go type and its value. -/
structure ClientField where
  kind : FieldKind
  value : Value
  deriving Repr

/-- An `*action.Install` as `reflect.Indirect` sees it: its exported fields by name. -/
abbrev ActionClient := List (String × ClientField)

/-- `reflect.Value.FieldByName`, `none` for a name that is no settable field. -/
def fieldByName (client : ActionClient) (name : String) : Option ClientField :=
  (client.find? (·.1 == name)).map (·.2)

/-- The kind of the named field. -/
def kindOf (client : ActionClient) (name : String) : Option FieldKind :=
  (fieldByName client name).map (·.kind)

/-- `SetBool`, `SetInt` or `SetString` on the named field. -/
def setValue (client : ActionClient) (name : String) (value : Value) : ActionClient :=
  client.map fun field => if field.1 == name then (field.1, { field.2 with value := value }) else field

/-- The kind of a field is read off the names and kinds alone. -/
theorem kindOf_eq (client : ActionClient) (name : String) :
    kindOf client name =
      ((client.map fun field => (field.1, field.2.kind)).find? (·.1 == name)).map (·.2) := by
  simp [kindOf, fieldByName, List.find?_map, Function.comp_def]

/-- Setting a value keeps every field's kind. -/
@[simp] theorem kindOf_setValue (client : ActionClient) (name other : String) (value : Value) :
    kindOf (setValue client name value) other = kindOf client other := by
  have kinds : (setValue client name value).map (fun field => (field.1, field.2.kind)) =
      client.map fun field => (field.1, field.2.kind) := by
    simp only [setValue, List.map_map]
    exact List.map_congr_left fun field _ => by by_cases named : field.1 = name <;> simp [named]
  rw [kindOf_eq, kinds, ← kindOf_eq]

/-! ## Part 2 — `SetFlags` -/

/-- One iteration of the loop of `SetFlags`. -/
def setFlag (client : ActionClient) (flag : String × Value) : Outcome ActionClient :=
  match fieldByName client flag.1 with
  | none => pure client
  | some field =>
    match field.kind with
    | .bool => do
      let value ← flag.2.assert "bool" Value.asBool?
      pure (setValue client flag.1 (.bool value))
    | .int => do
      let value ← flag.2.assert "int64" Value.asInt64?
      pure (setValue client flag.1 (.int value))
    | .int64 => do
      let value ← flag.2.assert "int64" Value.asInt64?
      pure (setValue client flag.1 (.int value))
    | .string => do
      let value ← flag.2.assert "string" Value.asString?
      pure (setValue client flag.1 (.str value))
    | .other => pure client

/-- `HelmClient.SetFlags`: the entries of `args["flags"]` (a missing map is empty), and a nil
error once the loop is through. -/
def setFlags (args : List (String × Flags)) (client : ActionClient) :
    Outcome (ActionClient × Option String) := do
  let mergedVals := ((args.find? (·.1 == "flags")).map (·.2)).getD []
  let client ← mergedVals.foldlM setFlag client
  pure (client, none)

/-- The type a field of the kind asserts, as Go names it. -/
def FieldKind.target : FieldKind → String
  | .bool => "bool"
  | .int | .int64 => "int64"
  | .string => "string"
  | .other => ""

/-- The assertion of a field of this kind holds for the value. -/
def FieldKind.accepts : FieldKind → Value → Bool
  | .bool, .bool _ => true
  | .int, .int _ => true
  | .int64, .int _ => true
  | .string, .str _ => true
  | .other, _ => true
  | _, _ => false

/-- The flag names a field whose kind rejects the flag's value. -/
def rejects (client : ActionClient) (flag : String × Value) : Bool :=
  match kindOf client flag.1 with
  | some kind => !kind.accepts flag.2
  | none => false

/-- What an accepted flag does: the value stored in a field of a switched-on kind. -/
def applyFlag (client : ActionClient) (flag : String × Value) : ActionClient :=
  match kindOf client flag.1 with
  | some .other | none => client
  | some _ => setValue client flag.1 flag.2

/-- **One iteration**: a panic naming the value's type and the field's when the field rejects the
value, else the value stored. -/
theorem setFlag_eq (client : ActionClient) (flag : String × Value) :
    setFlag client flag =
      if rejects client flag then
        .panics ("interface conversion: interface \x7b\x7d is " ++ flag.2.typeName ++ ", not " ++
          ((kindOf client flag.1).map FieldKind.target).getD "")
      else .returns (applyFlag client flag) := by
  obtain ⟨name, value⟩ := flag
  unfold setFlag rejects applyFlag kindOf
  cases fieldByName client name with
  | none => rfl
  | some field =>
    cases kind : field.kind <;> cases value <;>
      simp [kind, FieldKind.accepts, FieldKind.target, Value.assert, Value.asBool?, Value.asInt64?,
        Value.asString?, Bind.bind]

/-- An accepted flag keeps every field's kind. -/
@[simp] theorem kindOf_applyFlag (client : ActionClient) (flag : String × Value) (name : String) :
    kindOf (applyFlag client flag) name = kindOf client name := by
  unfold applyFlag
  split <;> simp

/-- Whether a flag is rejected depends on the fields' kinds only. -/
@[simp] theorem rejects_applyFlag (client : ActionClient) (flag : String × Value) :
    rejects (applyFlag client flag) = rejects client :=
  funext fun _ => by simp [rejects]

/-- **The loop, when every field accepts its value**: the flags applied one after the other. -/
theorem foldlM_setFlag_of_accepted :
    ∀ {flags : List (String × Value)} {client : ActionClient},
      (∀ flag ∈ flags, rejects client flag = false) →
        flags.foldlM setFlag client = .returns (flags.foldl applyFlag client)
  | [], _, _ => rfl
  | flag :: rest, client, accepted => by
    have first := accepted flag (List.mem_cons_self _ _)
    rw [List.foldlM_cons, setFlag_eq, if_neg (by simp [first]), Outcome.returns_bind,
      List.foldl_cons]
    exact foldlM_setFlag_of_accepted fun other member => by
      simpa using accepted other (List.mem_cons_of_mem _ member)

/-- **The loop panics exactly when some field rejects its value.** -/
theorem foldlM_setFlag_isPanic :
    ∀ (flags : List (String × Value)) (client : ActionClient),
      (flags.foldlM setFlag client).isPanic = flags.any (rejects client)
  | [], _ => rfl
  | flag :: rest, client => by
    rw [List.foldlM_cons, setFlag_eq, List.any_cons]
    cases rejected : rejects client flag
    · rw [if_neg (by simp), Outcome.returns_bind, foldlM_setFlag_isPanic rest]
      simp
    · rfl

/-- **`SetFlags` panics exactly when a key of the flags map names a bool, int, int64 or string
field whose value has another type**, whatever the map's iteration order; otherwise it returns a
nil error with every accepted flag applied. -/
theorem setFlags_isPanic (args : List (String × Flags)) (client : ActionClient) :
    (setFlags args client).isPanic =
      (((args.find? (·.1 == "flags")).map (·.2)).getD []).any (rejects client) := by
  rw [← foldlM_setFlag_isPanic]
  unfold setFlags
  dsimp only
  cases ((((args.find? (·.1 == "flags")).map (·.2)).getD []).foldlM setFlag client) <;> rfl

/-! ## Part 3 — `NewInstallActionClient` -/

/-- The fields of `action.Install` this repository sets or reads, with the kinds of their Go
types and the zero values `action.NewInstall` leaves in them. `Timeout` is a `time.Duration`, of
kind `int64`; `Version` is promoted from the embedded `ChartPathOptions`. -/
def newInstall : ActionClient :=
  [("ClientOnly", ⟨.bool, .bool false⟩), ("CreateNamespace", ⟨.bool, .bool false⟩),
   ("DryRun", ⟨.bool, .bool false⟩), ("Replace", ⟨.bool, .bool false⟩),
   ("Wait", ⟨.bool, .bool false⟩), ("WaitForJobs", ⟨.bool, .bool false⟩),
   ("Devel", ⟨.bool, .bool false⟩), ("Timeout", ⟨.int64, .int 0⟩),
   ("Namespace", ⟨.string, .str ""⟩), ("ReleaseName", ⟨.string, .str ""⟩),
   ("Atomic", ⟨.bool, .bool false⟩), ("IncludeCRDs", ⟨.bool, .bool false⟩),
   ("Version", ⟨.string, .str ""⟩)]

/-- `SetDefaultClientConfig`, with `v1.NamespaceDefault` as `"default"`. -/
def setDefaultClientConfig (client : ActionClient) (releaseName : String) : ActionClient :=
  let client := ([("DryRun", .bool true), ("Atomic", .bool false), ("Wait", .bool false),
    ("WaitForJobs", .bool false), ("Replace", .bool true), ("IncludeCRDs", .bool true),
    ("ClientOnly", .bool true), ("ReleaseName", .str releaseName), ("Namespace", .str "default")] : List (String × Value)).foldl
      (fun client (name, value) => setValue client name value) client
  match (fieldByName client "Version").map (·.value), (fieldByName client "Devel").map (·.value) with
  | some (Value.str ""), some (Value.bool true) => setValue client "Version" (.str ">0.0.0-0")
  | _, _ => client

/-- `prepareArgs`: the `--set` values and the client flags of an install. -/
def prepareArgs (clientConfig overrides : Flags) : List (String × Flags) :=
  [("set", overrides), ("flags", clientConfig)]

/-- `NewInstallActionClient` once `getGenericConfig` has succeeded: a fresh client, its
defaults, then the flags; the client is returned with the error of `SetFlags`. -/
def newInstallActionClient (releaseName : String) (args : List (String × Flags)) :
    Outcome (ActionClient × Option String) :=
  setFlags args (setDefaultClientConfig newInstall releaseName)

unseal String.splitOnAux String.mapAux String.anyAux String.foldlAux in
/-- **The client config `Namespace=5` panics.** `strvals` types the digit as an `int64`, and
`Namespace` is a string field, so the assertion `flagValue.(string)` panics instead of the key
being skipped or reported. -/
theorem namespace_flag_panics :
    Strvals.parseInto "Namespace=5" = .ok [("Namespace", .int 5)] ∧
      newInstallActionClient "nginx-stable" (prepareArgs [("Namespace", .int 5)] []) =
        .panics "interface conversion: interface \x7b\x7d is int64, not string" :=
  ⟨rfl, rfl⟩

end ModuleInstaller.Manifest
