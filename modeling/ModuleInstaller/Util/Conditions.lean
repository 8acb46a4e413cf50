import Mathlib.Data.List.Nodup
import Mathlib.Data.String.Basic
import ModuleInstaller.Types.InstallInfo
/-
**Per-chart `Ready` conditions (`internal/pkg/util/manifest.go`).**

`AddReadyConditionForObjects` upserts one `Ready` condition per install item, keyed by its
reason (the chart name): a copy of the first matching condition is found by
`getReadyConditionForComponent`, or a fresh one is appended, the copy is updated, and a second
linear search writes it back over the first match. `AddReadyConditionForResponses` does this
for each worker response, with the response's flags serialised by `json.Marshal`.

* `jsonMarshal_ne_empty` — a serialised flag map is never `""`, so every response overwrites the
  condition's `InstallInfo`.
* `foldl_addReadyConditionForObject` — the closed form of the upsert loop: every old condition
  updated in place by the items that name it, then one fresh condition per new chart.
* `addReadyConditionForObjects_upserts` — from distinct `Ready` reasons, the reasons stay
  distinct, each named chart has exactly one `Ready` condition with the given status and message,
  every other condition stays where it was, and new ones are appended in item order.
-/

namespace ModuleInstaller.Util

open V1alpha1 Types

/-! ## Part 1 — `json.Marshal` of a flag map -/

/-- The hexadecimal digit of a nibble. -/
def hexDigit (nibble : Nat) : Char :=
  if nibble < 10 then Char.ofNat (48 + nibble) else Char.ofNat (87 + nibble)

/-- `\u00XY`, the escape `encoding/json` writes for a control byte. -/
def unicodeEscape (code : Nat) : String :=
  "\\u" ++ String.mk [hexDigit (code / 4096 % 16), hexDigit (code / 256 % 16),
    hexDigit (code / 16 % 16), hexDigit (code % 16)]

/-- One character of a JSON string, HTML-safe as `json.Marshal` writes it. -/
def escapeChar (c : Char) : String :=
  if c.toNat = 34 then "\\\""
  else if c.toNat = 92 then "\\\\"
  else if c = '\n' then "\\n"
  else if c = '\r' then "\\r"
  else if c = '\t' then "\\t"
  else if c.toNat < 32 ∨ c = '<' ∨ c = '>' ∨ c = '&' ∨ c.toNat = 0x2028 ∨ c.toNat = 0x2029 then
    unicodeEscape c.toNat
  else c.toString

/-- A JSON string literal. -/
def quote (text : String) : String :=
  "\"" ++ String.join (text.toList.map escapeChar) ++ "\""

/-- Insert a serialised member into a list sorted by key. -/
def insertByKey (entry : String × String) : List (String × String) → List (String × String)
  | [] => [entry]
  | head :: rest => if entry.1 ≤ head.1 then entry :: head :: rest else head :: insertByKey entry rest

/-- Members in key order, as `encoding/json` writes a map. -/
def sortByKey (entries : List (String × String)) : List (String × String) :=
  entries.foldr insertByKey []

mutual
/-- `json.Marshal` of an `interface{}` tree. -/
def marshalValue : Value → String
  | .null => "null"
  | .bool value => if value then "true" else "false"
  | .int value => toString value
  | .str value => quote value
  | .list items => "[" ++ ",".intercalate (marshalItems items) ++ "]"
  | .obj fields =>
    "\x7b" ++ ",".intercalate ((sortByKey (marshalMembers fields)).map
      fun member => quote member.1 ++ ":" ++ member.2) ++ "\x7d"
/-- The elements of a JSON array. -/
def marshalItems : List Value → List String
  | [] => []
  | item :: rest => marshalValue item :: marshalItems rest
/-- The members of a JSON object, each key with its serialised value. -/
def marshalMembers : List (String × Value) → List (String × String)
  | [] => []
  | (key, value) :: rest => (key, marshalValue value) :: marshalMembers rest
end

/-- `json.Marshal` of a `types.Flags` map; the nil map and the empty map are both `{}` here. -/
def jsonMarshal (flags : Flags) : String := marshalValue (.obj flags)

/-- **A serialised flag map is never empty**: it starts with an opening brace. -/
theorem jsonMarshal_ne_empty (flags : Flags) : jsonMarshal flags ≠ "" := by
  intro empty
  have lengths := congrArg String.length empty
  simp only [jsonMarshal, marshalValue, String.length_append] at lengths
  have opening : "\x7b".length = 1 := rfl
  have nothing : "".length = 0 := rfl
  omega

/-! ## Part 2 — upserting `Ready` conditions -/

/-- A `Ready` condition whose reason is the install name. -/
def isReadyConditionFor (installName : String) (condition : ManifestCondition) : Bool :=
  condition.type == conditionTypeReady && condition.reason == installName

/-- `getReadyConditionForComponent`: a copy of the first `Ready` condition for the name. -/
def getReadyConditionForComponent (conditions : List ManifestCondition) (installName : String) :
    Option ManifestCondition :=
  conditions.find? (isReadyConditionFor installName)

/-- The write-back loop of `AddReadyConditionForObjects`: the first `Ready` condition for the
name is overwritten, and the loop breaks. -/
def writeBack (installName : String) (condition : ManifestCondition) :
    List ManifestCondition → List ManifestCondition
  | [] => []
  | existing :: rest =>
    if isReadyConditionFor installName existing then condition :: rest
    else existing :: writeBack installName condition rest

/-- One iteration of `AddReadyConditionForObjects`, on `status.Conditions`. -/
def addReadyConditionForObject (conditionStatus : ManifestConditionStatus) (message : String)
    (conditions : List ManifestCondition) (installItem : InstallItem) : List ManifestCondition :=
  let fresh : ManifestCondition :=
    { type := conditionTypeReady, status := conditionStatus, message := "",
      reason := installItem.chartName, installInfo := {} }
  let (condition, appended) :=
    match getReadyConditionForComponent conditions installItem.chartName with
    | some existing => (existing, conditions)
    | none => (fresh, conditions ++ [fresh])
  let updated : ManifestCondition :=
    { condition with
      message := message
      status := conditionStatus
      installInfo :=
        if installItem.clientConfig != "" || installItem.overrides != "" then installItem
        else condition.installInfo }
  writeBack installItem.chartName updated appended

/-- `AddReadyConditionForObjects`, on the status of a Manifest. -/
def addReadyConditionForObjects (manifest : Manifest) (installItems : List InstallItem)
    (conditionStatus : ManifestConditionStatus) (message : String) : Manifest :=
  { manifest with
    status := { manifest.status with
      conditions := installItems.foldl (addReadyConditionForObject conditionStatus message)
        manifest.status.conditions } }

/-- The condition status and message `AddReadyConditionForResponses` reports for a response. -/
def responseCondition (response : InstallResponse) : ManifestConditionStatus × String :=
  if response.err.isSome then (.conditionStatusFalse, "installation error")
  else if !response.ready then (.conditionStatusUnknown, "installation processing")
  else (.conditionStatusTrue, "installation successful")

/-- The status of a response's condition: `False` on an error, else `Unknown` while unready. -/
theorem responseCondition_fst (response : InstallResponse) :
    (responseCondition response).1 =
      if response.err.isSome then .conditionStatusFalse
      else if !response.ready then .conditionStatusUnknown else .conditionStatusTrue := by
  unfold responseCondition
  split_ifs <;> rfl

/-- `AddReadyConditionForResponses`: one upsert per response, in arrival order. -/
def addReadyConditionForResponses (responses : List InstallResponse) (manifest : Manifest) :
    Manifest :=
  responses.foldl (fun manifest response =>
    addReadyConditionForObjects manifest
      [{ clientConfig := jsonMarshal response.clientConfig,
         overrides := jsonMarshal response.overrides,
         chartName := response.chartName }]
      (responseCondition response).1 (responseCondition response).2) manifest

/-- Conditions are all `AddReadyConditionForResponses` changes. -/
theorem addReadyConditionForResponses_eq (responses : List InstallResponse) (manifest : Manifest) :
    ∃ conditions, addReadyConditionForResponses responses manifest =
      { manifest with status := { manifest.status with conditions := conditions } } := by
  induction responses generalizing manifest with
  | nil => exact ⟨manifest.status.conditions, rfl⟩
  | cons response rest ih => exact ih (addReadyConditionForObjects manifest _ _ _)

section Fields

variable (responses : List InstallResponse) (manifest : Manifest)

@[simp] theorem addReadyConditionForResponses_generation :
    (addReadyConditionForResponses responses manifest).generation = manifest.generation := by
  obtain ⟨_, equal⟩ := addReadyConditionForResponses_eq responses manifest
  rw [equal]

@[simp] theorem addReadyConditionForResponses_resourceVersion :
    (addReadyConditionForResponses responses manifest).resourceVersion =
      manifest.resourceVersion := by
  obtain ⟨_, equal⟩ := addReadyConditionForResponses_eq responses manifest
  rw [equal]

@[simp] theorem addReadyConditionForResponses_deletionTimestamp :
    (addReadyConditionForResponses responses manifest).deletionTimestamp =
      manifest.deletionTimestamp := by
  obtain ⟨_, equal⟩ := addReadyConditionForResponses_eq responses manifest
  rw [equal]

@[simp] theorem addReadyConditionForResponses_finalizers :
    (addReadyConditionForResponses responses manifest).finalizers = manifest.finalizers := by
  obtain ⟨_, equal⟩ := addReadyConditionForResponses_eq responses manifest
  rw [equal]

end Fields

/-! ## Part 3 — what the upsert keeps -/

/-- The reasons of the `Ready` conditions, in order. -/
def readyReasons (conditions : List ManifestCondition) : List String :=
  (conditions.filter (·.type == conditionTypeReady)).map (·.reason)

/-- The `Ready` condition for a name, with its status, message and install. -/
def readyCondition (conditionStatus : ManifestConditionStatus) (message name : String)
    (installInfo : InstallItem) : ManifestCondition :=
  { type := conditionTypeReady, status := conditionStatus, message := message, reason := name,
    installInfo := installInfo }

/-- What one item of `AddReadyConditionForObjects` does to one condition: the `Ready` condition
for its name takes the status, the message and, when the item carries a config or overrides,
the item. -/
def applyItem (conditionStatus : ManifestConditionStatus) (message : String)
    (installItem : InstallItem) (condition : ManifestCondition) : ManifestCondition :=
  if isReadyConditionFor installItem.chartName condition then
    { condition with
      message := message
      status := conditionStatus
      installInfo :=
        if installItem.clientConfig != "" || installItem.overrides != "" then installItem
        else condition.installInfo }
  else condition

/-- Every item, in order, on one condition. -/
def applyItems (conditionStatus : ManifestConditionStatus) (message : String)
    (installItems : List InstallItem) (condition : ManifestCondition) : ManifestCondition :=
  installItems.foldl (fun condition installItem => applyItem conditionStatus message installItem condition)
    condition

/-- The names of a list, each at its first occurrence. -/
def firstOccurrences : List String → List String
  | [] => []
  | name :: rest => name :: (firstOccurrences rest).filter (· != name)

/-- The chart names of the items without a `Ready` condition yet, in item order. -/
def newReasons (conditions : List ManifestCondition) (installItems : List InstallItem) :
    List String :=
  (firstOccurrences (installItems.map (·.chartName))).filter fun name =>
    (getReadyConditionForComponent conditions name).isNone

/-- The last item for a name that carries a config or overrides; `previous` when there is none. -/
def lastConfigured (installItems : List InstallItem) (name : String) (previous : InstallItem) :
    InstallItem :=
  ((installItems.filter fun installItem => installItem.chartName == name &&
    (installItem.clientConfig != "" || installItem.overrides != "")).getLast?).getD previous

/-- The install of the `Ready` condition for a name before the upsert; none for a new one. -/
def previousInstallInfo (conditions : List ManifestCondition) (name : String) : InstallItem :=
  ((getReadyConditionForComponent conditions name).map (·.installInfo)).getD {}

section Upsert

variable {conditionStatus : ManifestConditionStatus} {message : String}

@[simp] theorem isReadyConditionFor_applyItem (name : String) (installItem : InstallItem)
    (condition : ManifestCondition) :
    isReadyConditionFor name (applyItem conditionStatus message installItem condition) =
      isReadyConditionFor name condition := by
  unfold applyItem
  split <;> rfl

@[simp] theorem isReadyConditionFor_applyItems (name : String) (installItems : List InstallItem)
    (condition : ManifestCondition) :
    isReadyConditionFor name (applyItems conditionStatus message installItems condition) =
      isReadyConditionFor name condition := by
  induction installItems generalizing condition with
  | nil => rfl
  | cons installItem rest ih => exact (ih _).trans (isReadyConditionFor_applyItem ..)

@[simp] theorem type_applyItem (installItem : InstallItem) (condition : ManifestCondition) :
    (applyItem conditionStatus message installItem condition).type = condition.type := by
  unfold applyItem
  split <;> rfl

@[simp] theorem reason_applyItem (installItem : InstallItem) (condition : ManifestCondition) :
    (applyItem conditionStatus message installItem condition).reason = condition.reason := by
  unfold applyItem
  split <;> rfl

theorem applyItem_of_false {installItem : InstallItem} {condition : ManifestCondition}
    (other : isReadyConditionFor installItem.chartName condition = false) :
    applyItem conditionStatus message installItem condition = condition := by
  simp [applyItem, other]

theorem getReadyConditionForComponent_isSome (conditions : List ManifestCondition) (name : String) :
    (getReadyConditionForComponent conditions name).isSome =
      conditions.any (isReadyConditionFor name) := by
  rw [Bool.eq_iff_iff, getReadyConditionForComponent, List.find?_isSome, List.any_eq_true]

/-- With distinct `Ready` reasons, a name has at most one `Ready` condition. -/
theorem length_filter_isReadyConditionFor_le {conditions : List ManifestCondition}
    (distinct : (readyReasons conditions).Nodup) (name : String) :
    (conditions.filter (isReadyConditionFor name)).length ≤ 1 := by
  have same : (conditions.filter (isReadyConditionFor name)).length =
      (readyReasons conditions).count name := by
    rw [List.count_eq_countP, List.countP_eq_length_filter, readyReasons, List.filter_map,
      List.length_map, List.filter_filter]
    congr 2
    funext condition
    simp [isReadyConditionFor, Function.comp, Bool.and_comm]
  exact same ▸ List.nodup_iff_count_le_one.mp distinct name

/-- The write-back over a list whose one condition for the name is `matched`: it is replaced
where it is. -/
theorem writeBack_of_filter_eq {name : String} {update : ManifestCondition → ManifestCondition}
    (fixed : ∀ condition, isReadyConditionFor name condition = false → update condition = condition) :
    ∀ {conditions : List ManifestCondition} {matched : ManifestCondition},
      conditions.filter (isReadyConditionFor name) = [matched] →
        writeBack name (update matched) conditions = conditions.map update
  | [], _, found => by simp at found
  | condition :: rest, matched, found => by
    by_cases hit : isReadyConditionFor name condition = true
    · simp only [List.filter_cons, hit, if_true, List.cons.injEq] at found
      obtain ⟨rfl, absent⟩ := found
      have kept : rest.map update = rest := (List.map_congr_left fun other member =>
        fixed other (by simpa using List.filter_eq_nil_iff.mp absent other member)).trans (List.map_id _)
      simp [writeBack, hit, kept]
    · simp only [List.filter_cons, hit, if_false, Bool.false_eq_true] at found
      simp only [Bool.not_eq_true] at hit
      simp [writeBack, hit, fixed condition hit, writeBack_of_filter_eq fixed found]

/-- The write-back over a list with no condition for the name, and a new one for it at the end. -/
theorem writeBack_append_of_filter_eq_nil {name : String} {updated fresh : ManifestCondition}
    (forName : isReadyConditionFor name fresh = true) :
    ∀ {conditions : List ManifestCondition}, conditions.filter (isReadyConditionFor name) = [] →
      writeBack name updated (conditions ++ [fresh]) = conditions ++ [updated]
  | [], _ => by simp [writeBack, forName]
  | condition :: rest, absent => by
    have other : isReadyConditionFor name condition = false := by
      simpa using List.filter_eq_nil_iff.mp absent condition (List.mem_cons_self _ _)
    simp only [List.filter_cons, other, Bool.false_eq_true, if_false] at absent
    simp [writeBack, other, writeBack_append_of_filter_eq_nil forName absent]

/-- **One item of the upsert**: with distinct `Ready` reasons, the `Ready` condition for the
item's name is updated where it is, or a new one is appended. -/
theorem addReadyConditionForObject_eq {conditions : List ManifestCondition}
    (distinct : (readyReasons conditions).Nodup) (installItem : InstallItem) :
    addReadyConditionForObject conditionStatus message conditions installItem =
      conditions.map (applyItem conditionStatus message installItem) ++
        if conditions.any (isReadyConditionFor installItem.chartName) then []
        else [applyItem conditionStatus message installItem
          (readyCondition conditionStatus "" installItem.chartName {})] := by
  have atMostOne := length_filter_isReadyConditionFor_le distinct installItem.chartName
  unfold addReadyConditionForObject getReadyConditionForComponent
  cases found : conditions.filter (isReadyConditionFor installItem.chartName) with
  | nil =>
    have others : ∀ condition ∈ conditions,
        isReadyConditionFor installItem.chartName condition = false := fun condition member => by
      simpa using List.filter_eq_nil_iff.mp found condition member
    have absent : conditions.find? (isReadyConditionFor installItem.chartName) = none := by
      rw [← List.filter_head?, found]; rfl
    have kept : conditions.map (applyItem conditionStatus message installItem) = conditions :=
      (List.map_congr_left fun condition member => applyItem_of_false (others condition member)).trans
        (List.map_id _)
    have none : conditions.any (isReadyConditionFor installItem.chartName) = false :=
      List.any_eq_false.mpr fun condition member => by simp [others condition member]
    simp only [absent, kept, none]
    rw [writeBack_append_of_filter_eq_nil (by simp [isReadyConditionFor]) found]
    simp [applyItem, isReadyConditionFor, readyCondition]
  | cons matched rest =>
    cases rest with
    | cons => simp [found] at atMostOne
    | nil =>
      have hit : isReadyConditionFor installItem.chartName matched = true :=
        (List.mem_filter.mp (found ▸ List.mem_singleton_self matched)).2
      have present : conditions.find? (isReadyConditionFor installItem.chartName) = some matched := by
        rw [← List.filter_head?, found]; rfl
      have some : conditions.any (isReadyConditionFor installItem.chartName) = true :=
        List.any_eq_true.mpr ⟨matched, (List.mem_filter.mp (found ▸ List.mem_singleton_self matched)).1, hit⟩
      simp only [present, some, if_true, List.append_nil]
      have fixed : ∀ condition, isReadyConditionFor installItem.chartName condition = false →
          applyItem conditionStatus message installItem condition = condition :=
        fun _ other => applyItem_of_false other
      have updated := writeBack_of_filter_eq fixed found
      simpa [applyItem, hit] using updated

@[simp] theorem applyItems_nil (condition : ManifestCondition) :
    applyItems conditionStatus message [] condition = condition := rfl

@[simp] theorem applyItems_cons (installItem : InstallItem) (rest : List InstallItem)
    (condition : ManifestCondition) :
    applyItems conditionStatus message (installItem :: rest) condition =
      applyItems conditionStatus message rest (applyItem conditionStatus message installItem condition) :=
  rfl

theorem mem_readyReasons {conditions : List ManifestCondition} {name : String} :
    name ∈ readyReasons conditions ↔ conditions.any (isReadyConditionFor name) = true := by
  simp only [readyReasons, List.mem_map, List.mem_filter, List.any_eq_true, isReadyConditionFor,
    Bool.and_eq_true, beq_iff_eq]
  constructor
  · rintro ⟨condition, ⟨member, ready⟩, rfl⟩
    exact ⟨condition, member, ready, rfl⟩
  · rintro ⟨condition, member, ready, rfl⟩
    exact ⟨condition, ⟨member, ready⟩, rfl⟩

@[simp] theorem readyReasons_append (conditions others : List ManifestCondition) :
    readyReasons (conditions ++ others) = readyReasons conditions ++ readyReasons others := by
  simp [readyReasons]

@[simp] theorem readyReasons_map_applyItem (installItem : InstallItem)
    (conditions : List ManifestCondition) :
    readyReasons (conditions.map (applyItem conditionStatus message installItem)) =
      readyReasons conditions := by
  simp [readyReasons, List.filter_map, Function.comp_def]

@[simp] theorem readyReasons_readyCondition (installInfo : InstallItem) (name : String) :
    readyReasons [readyCondition conditionStatus message name installInfo] = [name] := by
  simp [readyReasons, readyCondition]

theorem newReasons_eq (conditions : List ManifestCondition) (installItems : List InstallItem) :
    newReasons conditions installItems =
      (firstOccurrences (installItems.map (·.chartName))).filter fun name =>
        !conditions.any (isReadyConditionFor name) := by
  simp only [newReasons, ← getReadyConditionForComponent_isSome]
  congr 1
  funext name
  cases getReadyConditionForComponent conditions name <;> rfl

@[simp] theorem isReadyConditionFor_readyCondition (other name : String) (installInfo : InstallItem) :
    isReadyConditionFor other (readyCondition conditionStatus message name installInfo) =
      (name == other) := by
  simp [isReadyConditionFor, readyCondition]

theorem any_map_applyItem (installItem : InstallItem) (conditions : List ManifestCondition)
    (name : String) :
    (conditions.map (applyItem conditionStatus message installItem)).any (isReadyConditionFor name) =
      conditions.any (isReadyConditionFor name) := by
  simp [List.any_map, Function.comp_def]

/-- The new names of an item list: the first item's name when it has no condition yet, then the
new names of the rest without it. -/
theorem newReasons_cons (conditions : List ManifestCondition) (installItem : InstallItem)
    (rest : List InstallItem) :
    newReasons conditions (installItem :: rest) =
      (if conditions.any (isReadyConditionFor installItem.chartName) then []
        else [installItem.chartName]) ++
        (newReasons conditions rest).filter (· != installItem.chartName) := by
  have swap : (fun other => !conditions.any (isReadyConditionFor other) && other != installItem.chartName) =
      fun other => other != installItem.chartName && !conditions.any (isReadyConditionFor other) :=
    funext fun _ => Bool.and_comm _ _
  rw [newReasons_eq, newReasons_eq, List.map_cons, firstOccurrences, List.filter_cons,
    List.filter_filter, List.filter_filter, swap]
  cases conditions.any (isReadyConditionFor installItem.chartName) <;> rfl

/-- A name still new has no condition, so it is not the name of an item that has one. -/
theorem ne_of_mem_newReasons {conditions : List ManifestCondition} {installItems : List InstallItem}
    {name other : String} (present : conditions.any (isReadyConditionFor name) = true)
    (member : other ∈ newReasons conditions installItems) : other ≠ name := by
  rintro rfl
  simp [newReasons_eq, present] at member

/-- **The whole upsert**: every condition is updated where it is by the items in turn, and the
new names get a fresh condition each, appended in the order the items name them first. -/
theorem foldl_addReadyConditionForObject (installItems : List InstallItem) :
    ∀ {conditions : List ManifestCondition}, (readyReasons conditions).Nodup →
      installItems.foldl (addReadyConditionForObject conditionStatus message) conditions =
        conditions.map (applyItems conditionStatus message installItems) ++
          (newReasons conditions installItems).map fun name =>
            applyItems conditionStatus message installItems (readyCondition conditionStatus "" name {}) := by
  induction installItems with
  | nil =>
    intro conditions _
    simp only [List.foldl_nil, newReasons_eq, List.map_nil, firstOccurrences, List.filter_nil,
      List.append_nil]
    exact (List.map_id'' (fun _ => rfl) conditions).symm
  | cons installItem rest ih =>
    intro conditions distinct
    set name := installItem.chartName
    have fresh : ∀ other, other ≠ name → applyItem conditionStatus message installItem
        (readyCondition conditionStatus "" other {}) = readyCondition conditionStatus "" other {} :=
      fun other different => applyItem_of_false (by simp [isReadyConditionFor, readyCondition, different])
    rw [List.foldl_cons, addReadyConditionForObject_eq distinct]
    cases present : conditions.any (isReadyConditionFor name)
    · have appended : applyItem conditionStatus message installItem (readyCondition conditionStatus "" name {}) =
          readyCondition conditionStatus message name
            (if installItem.clientConfig != "" || installItem.overrides != "" then installItem else {}) := by
        simp [applyItem, readyCondition, isReadyConditionFor, name]
      have distinct' : (readyReasons (conditions.map (applyItem conditionStatus message installItem) ++
          [applyItem conditionStatus message installItem (readyCondition conditionStatus "" name {})])).Nodup := by
        rw [readyReasons_append, readyReasons_map_applyItem, appended, readyReasons_readyCondition,
          List.nodup_append]
        exact ⟨distinct, List.nodup_singleton _, List.disjoint_singleton.mpr
          fun member => by simp [mem_readyReasons.mp member] at present⟩
      have later : newReasons (conditions.map (applyItem conditionStatus message installItem) ++
          [applyItem conditionStatus message installItem (readyCondition conditionStatus "" name {})]) rest =
            (newReasons conditions rest).filter (· != name) := by
        simp only [newReasons_eq, List.any_append, any_map_applyItem, appended, List.any_cons,
          List.any_nil, isReadyConditionFor_readyCondition, Bool.or_false, List.filter_filter]
        congr 1
        funext other
        by_cases same : other = name
        · simp [same]
        · have different : (name == other) = false := beq_eq_false_iff_ne.mpr (Ne.symm same)
          have different' : (other != name) = true := bne_iff_ne.mpr same
          simp [different, different']
      simp only [if_false, Bool.false_eq_true]
      rw [ih distinct', later, newReasons_cons, present]
      simp only [if_false, Bool.false_eq_true, List.map_append, List.map_map, Function.comp_def,
        applyItems_cons, List.map_cons, List.map_nil, List.singleton_append, List.append_assoc,
        List.cons_append, List.nil_append]
      congr 2
      exact List.map_congr_left fun other member =>
        by rw [fresh other (by simpa using (List.mem_filter.mp member).2)]
    · have distinct' : (readyReasons (conditions.map (applyItem conditionStatus message installItem))).Nodup := by
        rwa [readyReasons_map_applyItem]
      have later : newReasons (conditions.map (applyItem conditionStatus message installItem)) rest =
          newReasons conditions rest := by
        simp only [newReasons_eq, any_map_applyItem]
      simp only [if_true, List.append_nil]
      rw [ih distinct', later, newReasons_cons, present]
      simp only [if_true, List.nil_append, List.map_map, Function.comp_def, applyItems_cons]
      congr 1
      rw [List.filter_eq_self.mpr fun other member => by
        simpa using ne_of_mem_newReasons present member]
      exact List.map_congr_left fun other member =>
        by rw [fresh other (ne_of_mem_newReasons present member)]

theorem applyItems_of_forall {condition : ManifestCondition} :
    ∀ {installItems : List InstallItem},
      (∀ installItem ∈ installItems, isReadyConditionFor installItem.chartName condition = false) →
        applyItems conditionStatus message installItems condition = condition
  | [], _ => rfl
  | installItem :: rest, untouched => by
    rw [applyItems_cons, applyItem_of_false (untouched installItem (List.mem_cons_self _ _)),
      applyItems_of_forall fun other member => untouched other (List.mem_cons_of_mem _ member)]

theorem lastConfigured_cons (installItem : InstallItem) (rest : List InstallItem) (name : String)
    (previous : InstallItem) :
    lastConfigured (installItem :: rest) name previous =
      lastConfigured rest name
        (if installItem.chartName == name &&
          (installItem.clientConfig != "" || installItem.overrides != "") then installItem
        else previous) := by
  unfold lastConfigured
  rw [List.filter_cons]
  split
  · rw [List.getLast?_cons, Option.getD_some]
  · simp_all

theorem lastConfigured_of_not_mem {installItems : List InstallItem} {name : String}
    (absent : name ∉ installItems.map (·.chartName)) (previous : InstallItem) :
    lastConfigured installItems name previous = previous := by
  have none : installItems.filter (fun installItem => installItem.chartName == name &&
      (installItem.clientConfig != "" || installItem.overrides != "")) = [] :=
    List.filter_eq_nil_iff.mpr fun installItem member hit =>
      absent (List.mem_map.mpr ⟨installItem, member, by simpa using (Bool.and_eq_true _ _).mp hit |>.1⟩)
  simp [lastConfigured, none]

theorem isReadyConditionFor_of_not_mem {condition : ManifestCondition} {installItems : List InstallItem}
    (absent : condition.reason ∉ installItems.map (·.chartName)) :
    ∀ installItem ∈ installItems, isReadyConditionFor installItem.chartName condition = false :=
  fun installItem member => by
    simpa [isReadyConditionFor] using fun _ equal =>
      absent (List.mem_map.mpr ⟨installItem, member, equal.symm⟩)

/-- **A `Ready` condition for a chart the items name** ends with the given status and message,
and the install of the last item for it that carries a config or overrides, if any. -/
theorem applyItems_of_ready {condition : ManifestCondition}
    (ready : condition.type = conditionTypeReady) {installItems : List InstallItem}
    (named : condition.reason ∈ installItems.map (·.chartName)) :
    applyItems conditionStatus message installItems condition =
      readyCondition conditionStatus message condition.reason
        (lastConfigured installItems condition.reason condition.installInfo) := by
  induction installItems generalizing condition with
  | nil => simp at named
  | cons installItem rest ih =>
    rw [applyItems_cons, lastConfigured_cons]
    by_cases same : installItem.chartName = condition.reason
    · have hit : isReadyConditionFor installItem.chartName condition = true := by
        simp [isReadyConditionFor, ready, same]
      have step : applyItem conditionStatus message installItem condition =
          { condition with
            message := message
            status := conditionStatus
            installInfo := if installItem.clientConfig != "" || installItem.overrides != "" then
              installItem else condition.installInfo } := if_pos hit
      have chosen : (installItem.chartName == condition.reason &&
          (installItem.clientConfig != "" || installItem.overrides != "")) =
            (installItem.clientConfig != "" || installItem.overrides != "") := by simp [same]
      rw [chosen]
      by_cases later : condition.reason ∈ rest.map (·.chartName)
      · rw [step]
        exact ih ready later
      · have untouched : ∀ other ∈ rest, isReadyConditionFor other.chartName
            (applyItem conditionStatus message installItem condition) = false := fun other member =>
          (isReadyConditionFor_applyItem ..).trans (isReadyConditionFor_of_not_mem later other member)
        rw [applyItems_of_forall untouched, lastConfigured_of_not_mem later, step]
        cases condition
        simp_all [readyCondition]
    · have miss : isReadyConditionFor installItem.chartName condition = false := by
        simp [isReadyConditionFor, Ne.symm same]
      rw [applyItem_of_false miss]
      have named' : condition.reason ∈ rest.map (·.chartName) := by
        simpa [Ne.symm same, eq_comm] using named
      simpa [same] using ih ready named'

@[simp] theorem type_applyItems (installItems : List InstallItem) (condition : ManifestCondition) :
    (applyItems conditionStatus message installItems condition).type = condition.type := by
  induction installItems generalizing condition <;> simp_all

@[simp] theorem reason_applyItems (installItems : List InstallItem) (condition : ManifestCondition) :
    (applyItems conditionStatus message installItems condition).reason = condition.reason := by
  induction installItems generalizing condition <;> simp_all

theorem mem_firstOccurrences {names : List String} {name : String} :
    name ∈ firstOccurrences names ↔ name ∈ names := by
  induction names with
  | nil => simp [firstOccurrences]
  | cons head rest ih => by_cases same : name = head <;> simp [firstOccurrences, ih, same]

theorem nodup_firstOccurrences (names : List String) : (firstOccurrences names).Nodup := by
  induction names with
  | nil => exact List.nodup_nil
  | cons head rest ih => exact List.nodup_cons.mpr ⟨by simp, ih.filter _⟩

theorem nodup_newReasons (conditions : List ManifestCondition) (installItems : List InstallItem) :
    (newReasons conditions installItems).Nodup :=
  (nodup_firstOccurrences _).filter _

theorem mem_newReasons {conditions : List ManifestCondition} {installItems : List InstallItem}
    {name : String} :
    name ∈ newReasons conditions installItems ↔
      name ∈ installItems.map (·.chartName) ∧ conditions.any (isReadyConditionFor name) = false := by
  simp [newReasons_eq, mem_firstOccurrences]

theorem filter_beq_of_nodup {names : List String} {name : String} (distinct : names.Nodup)
    (member : name ∈ names) : names.filter (· == name) = [name] := by
  induction names with
  | nil => simp at member
  | cons head rest ih =>
    obtain ⟨absent, distinct⟩ := List.nodup_cons.mp distinct
    by_cases same : head = name
    · subst same
      have none : rest.filter (· == head) = [] := List.filter_eq_nil_iff.mpr fun other later equal =>
        absent (beq_iff_eq.mp equal ▸ later)
      simp [none]
    · have later : name ∈ rest := by simpa [Ne.symm same] using member
      simp [same, ih distinct later]

section Manifest

variable (manifest : Manifest) (installItems : List InstallItem)
  (conditionStatus : ManifestConditionStatus) (message : String)

/-- The conditions after the upsert, in the closed form of `foldl_addReadyConditionForObject`
with every appended condition evaluated. -/
theorem addReadyConditionForObjects_conditions (distinct : (readyReasons manifest.status.conditions).Nodup) :
    (addReadyConditionForObjects manifest installItems conditionStatus message).status.conditions =
      manifest.status.conditions.map (applyItems conditionStatus message installItems) ++
        (newReasons manifest.status.conditions installItems).map fun name =>
          readyCondition conditionStatus message name (lastConfigured installItems name {}) :=
  (foldl_addReadyConditionForObject installItems distinct).trans
    (congrArg _ (List.map_congr_left fun _ member => applyItems_of_ready rfl (mem_newReasons.mp member).1))

/-- The `Ready` reasons after the upsert: the old ones, then the new ones. -/
theorem readyReasons_addReadyConditionForObjects
    (distinct : (readyReasons manifest.status.conditions).Nodup) :
    readyReasons (addReadyConditionForObjects manifest installItems conditionStatus message).status.conditions =
      readyReasons manifest.status.conditions ++ newReasons manifest.status.conditions installItems := by
  rw [addReadyConditionForObjects_conditions _ _ _ _ distinct, readyReasons_append]
  congr 1
  · simp [readyReasons, List.filter_map, Function.comp_def]
  · simp [readyReasons, readyCondition, List.filter_map, Function.comp_def, conditionTypeReady]

/-- The `Ready` reasons stay distinct. -/
theorem nodup_readyReasons_addReadyConditionForObjects
    (distinct : (readyReasons manifest.status.conditions).Nodup) :
    (readyReasons (addReadyConditionForObjects manifest installItems conditionStatus message).status.conditions).Nodup := by
  rw [readyReasons_addReadyConditionForObjects _ _ _ _ distinct, List.nodup_append]
  exact ⟨distinct, nodup_newReasons _ _, fun _ oldMember newMember =>
    absurd (mem_newReasons.mp newMember).2 (by simp [mem_readyReasons.mp oldMember])⟩

/-- The conditions for a name, after the upsert: the old ones updated, then the new ones. -/
theorem filter_addReadyConditionForObjects (distinct : (readyReasons manifest.status.conditions).Nodup)
    (name : String) :
    (addReadyConditionForObjects manifest installItems conditionStatus message).status.conditions.filter
        (isReadyConditionFor name) =
      (manifest.status.conditions.filter (isReadyConditionFor name)).map
          (applyItems conditionStatus message installItems) ++
        ((newReasons manifest.status.conditions installItems).filter (· == name)).map fun name =>
          readyCondition conditionStatus message name (lastConfigured installItems name {}) := by
  rw [addReadyConditionForObjects_conditions _ _ _ _ distinct, List.filter_append, List.filter_map,
    List.filter_map]
  congr 2
  exact List.filter_congr fun _ _ => by simp

/-- **The one `Ready` condition of a chart the items name**: the given status and message, and the
install of the last item for it with a config or overrides, else the one it had. -/
theorem filter_addReadyConditionForObjects_of_mem
    (distinct : (readyReasons manifest.status.conditions).Nodup) {name : String}
    (named : name ∈ installItems.map (·.chartName)) :
    (addReadyConditionForObjects manifest installItems conditionStatus message).status.conditions.filter
        (isReadyConditionFor name) =
      [readyCondition conditionStatus message name
        (lastConfigured installItems name (previousInstallInfo manifest.status.conditions name))] := by
  rw [filter_addReadyConditionForObjects _ _ _ _ distinct]
  have atMostOne := length_filter_isReadyConditionFor_le distinct name
  cases found : manifest.status.conditions.filter (isReadyConditionFor name) with
  | nil =>
    have member : name ∈ newReasons manifest.status.conditions installItems :=
      mem_newReasons.mpr ⟨named, List.any_eq_false.mpr (List.filter_eq_nil_iff.mp found)⟩
    have previous : previousInstallInfo manifest.status.conditions name = {} := by
      simp [previousInstallInfo, getReadyConditionForComponent, ← List.filter_head?, found]
    rw [filter_beq_of_nodup (nodup_newReasons _ _) member, previous]
    rfl
  | cons matched rest =>
    cases rest with
    | cons => simp [found] at atMostOne
    | nil =>
      have hit := List.mem_filter.mp (found ▸ List.mem_singleton_self matched)
      have ready : matched.type = conditionTypeReady ∧ matched.reason = name := by
        simpa [isReadyConditionFor] using hit.2
      have present : manifest.status.conditions.any (isReadyConditionFor name) = true :=
        List.any_eq_true.mpr ⟨matched, hit.1, hit.2⟩
      have previous : previousInstallInfo manifest.status.conditions name = matched.installInfo := by
        simp [previousInstallInfo, getReadyConditionForComponent, ← List.filter_head?, found]
      have none : (newReasons manifest.status.conditions installItems).filter (· == name) = [] :=
        List.filter_eq_nil_iff.mpr fun other member same =>
          ne_of_mem_newReasons present member (by simpa using same)
      rw [none, previous, List.map_singleton, List.map_nil, List.append_nil,
        applyItems_of_ready ready.1 (ready.2 ▸ named), ready.2]

/-- **A name no item carries keeps its conditions.** -/
theorem filter_addReadyConditionForObjects_of_not_mem
    (distinct : (readyReasons manifest.status.conditions).Nodup) {name : String}
    (absent : name ∉ installItems.map (·.chartName)) :
    (addReadyConditionForObjects manifest installItems conditionStatus message).status.conditions.filter
        (isReadyConditionFor name) =
      manifest.status.conditions.filter (isReadyConditionFor name) := by
  have noneNew : (newReasons manifest.status.conditions installItems).filter (· == name) = [] :=
    List.filter_eq_nil_iff.mpr fun other member same =>
      absent (beq_iff_eq.mp same ▸ (mem_newReasons.mp member).1)
  rw [filter_addReadyConditionForObjects _ _ _ _ distinct, noneNew, List.map_nil, List.append_nil]
  refine (List.map_congr_left fun condition member => applyItems_of_forall
    (isReadyConditionFor_of_not_mem ?_)).trans (List.map_id _)
  have hit : condition.type = conditionTypeReady ∧ condition.reason = name := by
    simpa [isReadyConditionFor] using (List.mem_filter.mp member).2
  exact hit.2 ▸ absent

/-- A condition no item names stays where it was. -/
theorem getElem?_addReadyConditionForObjects
    (distinct : (readyReasons manifest.status.conditions).Nodup) {index : Nat}
    {condition : ManifestCondition} (found : manifest.status.conditions[index]? = some condition)
    (untouched : ∀ name ∈ installItems.map (·.chartName), isReadyConditionFor name condition = false) :
    (addReadyConditionForObjects manifest installItems conditionStatus message).status.conditions[index]? =
      some condition := by
  rw [addReadyConditionForObjects_conditions _ _ _ _ distinct,
    List.getElem?_append_left (by simpa using (List.getElem?_eq_some_iff.mp found).1),
    List.getElem?_map, found, Option.map_some']
  exact congrArg some (applyItems_of_forall fun installItem member =>
    untouched installItem.chartName (List.mem_map_of_mem _ member))

/-- The new conditions, appended in item order. -/
theorem drop_addReadyConditionForObjects
    (distinct : (readyReasons manifest.status.conditions).Nodup) :
    (addReadyConditionForObjects manifest installItems conditionStatus message).status.conditions.drop
        manifest.status.conditions.length =
      (newReasons manifest.status.conditions installItems).map fun name =>
        readyCondition conditionStatus message name (lastConfigured installItems name {}) := by
  rw [addReadyConditionForObjects_conditions _ _ _ _ distinct, List.drop_left' (List.length_map ..)]

/-- **`AddReadyConditionForObjects` keeps one `Ready` condition per reason.** From conditions
whose `Ready` reasons are distinct, the reasons stay distinct; each chart the items name has
exactly one `Ready` condition, carrying the given status and message and the install of the last
item for it with a config or overrides (else the one it had); every other condition stays as and
where it was; and the new conditions are appended in the order the items name them. -/
theorem addReadyConditionForObjects_upserts
    (distinct : (readyReasons manifest.status.conditions).Nodup) :
    let conditions := manifest.status.conditions
    let result := (addReadyConditionForObjects manifest installItems conditionStatus message).status.conditions
    (readyReasons result).Nodup ∧
      (∀ name ∈ installItems.map (·.chartName), result.filter (isReadyConditionFor name) =
        [readyCondition conditionStatus message name
          (lastConfigured installItems name (previousInstallInfo conditions name))]) ∧
      (∀ (index : Nat) (condition : ManifestCondition), conditions[index]? = some condition →
        (∀ name ∈ installItems.map (·.chartName), isReadyConditionFor name condition = false) →
          result[index]? = some condition) ∧
      result.drop conditions.length = (newReasons conditions installItems).map fun name =>
        readyCondition conditionStatus message name (lastConfigured installItems name {}) :=
  ⟨nodup_readyReasons_addReadyConditionForObjects _ _ _ _ distinct,
    fun _ named => filter_addReadyConditionForObjects_of_mem _ _ _ _ distinct named,
    fun _ _ found untouched => getElem?_addReadyConditionForObjects _ _ _ _ distinct found untouched,
    drop_addReadyConditionForObjects _ _ _ _ distinct⟩

end Manifest

/-- A Ready Manifest's conditions: its own, and the one of its chart. -/
def readyManifest : Manifest where
  name := "manifest-sample"
  namespaceName := "default"
  status :=
    { state := .ready,
      conditions := [readyCondition .conditionStatusTrue "Manifest in Ready state" manifestKind {},
        readyCondition .conditionStatusTrue "installation successful" "nginx-ingress" {}] }

/-- The chart reported again with a config, and a new chart. -/
def upsertedItems : List InstallItem :=
  [{ chartName := "nginx-ingress", clientConfig := "\x7b\"Namespace\":\"default\"\x7d" }, { chartName := "redis" }]

theorem readyManifest_upserts :
    (readyReasons readyManifest.status.conditions).Nodup ∧
      let conditions := readyManifest.status.conditions
      let result := (addReadyConditionForObjects readyManifest upsertedItems .conditionStatusUnknown
        "installation processing").status.conditions
      (readyReasons result).Nodup ∧
        (∀ name ∈ upsertedItems.map (·.chartName), result.filter (isReadyConditionFor name) =
          [readyCondition .conditionStatusUnknown "installation processing" name
            (lastConfigured upsertedItems name (previousInstallInfo conditions name))]) ∧
        (∀ (index : Nat) (condition : ManifestCondition), conditions[index]? = some condition →
          (∀ name ∈ upsertedItems.map (·.chartName), isReadyConditionFor name condition = false) →
            result[index]? = some condition) ∧
        result.drop conditions.length = (newReasons conditions upsertedItems).map fun name =>
          readyCondition .conditionStatusUnknown "installation processing" name
            (lastConfigured upsertedItems name {}) :=
  ⟨by decide, addReadyConditionForObjects_upserts _ _ _ _ (by decide)⟩

end Upsert

/-! ## Part 4 — one condition per response -/

section Responses

variable {responses : List InstallResponse} {manifest : Manifest}

/-- The `Ready` reasons stay distinct over a round of responses. -/
theorem nodup_readyReasons_addReadyConditionForResponses
    (distinct : (readyReasons manifest.status.conditions).Nodup) :
    (readyReasons (addReadyConditionForResponses responses manifest).status.conditions).Nodup := by
  induction responses generalizing manifest with
  | nil => exact distinct
  | cons response rest ih => exact ih (nodup_readyReasons_addReadyConditionForObjects _ _ _ _ distinct)

/-- A chart no response names keeps its conditions. -/
theorem filter_addReadyConditionForResponses_of_not_mem
    (distinct : (readyReasons manifest.status.conditions).Nodup) {name : String}
    (absent : name ∉ responses.map (·.chartName)) :
    (addReadyConditionForResponses responses manifest).status.conditions.filter
        (isReadyConditionFor name) =
      manifest.status.conditions.filter (isReadyConditionFor name) := by
  induction responses generalizing manifest with
  | nil => rfl
  | cons response rest ih =>
    simp only [List.map_cons, List.mem_cons, not_or] at absent
    exact (ih (nodup_readyReasons_addReadyConditionForObjects _ _ _ _ distinct) absent.2).trans
      (filter_addReadyConditionForObjects_of_not_mem _ _ _ _ distinct (by simpa using absent.1))

/-- **Each response leaves one `Ready` condition for its chart**, with the status and message of
`responseCondition` and the response's flags, when the responses name distinct charts. -/
theorem filter_addReadyConditionForResponses
    (distinct : (readyReasons manifest.status.conditions).Nodup)
    (distinctNames : (responses.map (·.chartName)).Nodup) {response : InstallResponse}
    (member : response ∈ responses) :
    (addReadyConditionForResponses responses manifest).status.conditions.filter
        (isReadyConditionFor response.chartName) =
      [readyCondition (responseCondition response).1 (responseCondition response).2 response.chartName
        { clientConfig := jsonMarshal response.clientConfig,
          overrides := jsonMarshal response.overrides,
          chartName := response.chartName }] := by
  induction responses generalizing manifest with
  | nil => cases member
  | cons first rest ih =>
    rw [List.map_cons, List.nodup_cons] at distinctNames
    have kept := nodup_readyReasons_addReadyConditionForObjects manifest
      [{ clientConfig := jsonMarshal first.clientConfig, overrides := jsonMarshal first.overrides,
         chartName := first.chartName }]
      (responseCondition first).1 (responseCondition first).2 distinct
    rcases List.mem_cons.mp member with same | later
    · subst same
      refine (filter_addReadyConditionForResponses_of_not_mem kept distinctNames.1).trans ?_
      rw [filter_addReadyConditionForObjects_of_mem _ _ _ _ distinct (List.mem_singleton_self _)]
      simp [lastConfigured, jsonMarshal_ne_empty]
    · exact ih kept distinctNames.2 later

end Responses

end ModuleInstaller.Util
