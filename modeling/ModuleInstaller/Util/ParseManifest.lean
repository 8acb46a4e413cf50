import ModuleInstaller.Api.Value
/-
**Splitting a rendered manifest into objects (`ParseManifestStringToObjects`).**

`ParseManifestStringToObjects` reads a multi-document YAML string with the document reader of
`k8s.io/apimachinery/pkg/util/yaml`. The reader cuts the text into lines and ends a document at a
separator line `---`, which may be followed by spaces or a comment and by nothing else. The loop
trims each document and decodes it with `yaml.Unmarshal` into a fresh `unstructured.Unstructured`.
A failed decoding appends the document to `Blobs`. The loop then skips an empty document, `null`,
and an object left empty, and appends every other object to `Items`. The two checks are
independent: there is no `continue` after the append to `Blobs`.

`Unstructured.UnmarshalJSON` sets `Object` to the decoded map before it checks the kind. So a
mapping without a kind both fails and leaves a non-empty object.

* `parseDocument_eq` — one document: its blob, if decoding failed, and its object, if it
  decoded to one, each appended in place;
* **`parseManifestStringToObjects_eq`** — every manifest: the reader's error, or `Items` and `Blobs`
  as the documents' objects and blobs in input order;
* `itemOf_eq_some_iff`, `blobOf_isSome_iff` — a document gives an object exactly when it converts
  to a non-empty map, and a blob exactly when it converts to something other than `null` or a map
  with a kind;
* `dropped_iff` — a document is in neither list exactly when it converts to `null`;
* **`itemOf_and_blobOf_iff`** — a document is in both lists exactly when it converts to a
  non-empty map without a kind;
* `kindless_document_in_items_and_blobs` — the manifest `a: 1` gives its object in `Items` and its
  text in `Blobs`.
-/

namespace ModuleInstaller.Types

/-- `types.ManifestResources`: the decoded objects, each `*unstructured.Unstructured` by its
`Object` map, and the raw documents that did not decode. -/
structure ManifestResources where
  items : List Value
  blobs : List (List Char)
  deriving Inhabited

end ModuleInstaller.Types

namespace ModuleInstaller.Util

open Types

/-! ## Part 1 — the YAML document reader -/

/-- `unicode.IsSpace`, the runes `bytes.TrimSpace` and `strings.TrimSpace` cut. -/
def isSpace (c : Char) : Bool :=
  let n := c.toNat
  n = 0x20 || (0x09 ≤ n && n ≤ 0x0d) || n = 0x85 || n = 0xa0 || n = 0x1680 ||
    (0x2000 ≤ n && n ≤ 0x200a) || n = 0x2028 || n = 0x2029 || n = 0x202f || n = 0x205f ||
    n = 0x3000

/-- `bytes.TrimSpace`. -/
def trimSpace (text : List Char) : List Char :=
  ((text.dropWhile isSpace).reverse.dropWhile isSpace).reverse

/-- `bytes.TrimPrefix`. -/
def trimPrefix (text pre : List Char) : List Char :=
  if pre.isPrefixOf text then text.drop pre.length else text

/-- A line without the `'\r'` that `bufio.Reader.ReadLine` drops before a `'\n'`. -/
def dropCR (line : List Char) : List Char :=
  if line.getLast? = some '\r' then line.dropLast else line

/-- The lines `LineReader.Read` returns before `io.EOF`. `bufio.Reader.ReadLine` cuts the text at
each `'\n'`, drops a `'\r'` before it, and returns a last unterminated line as it is; `LineReader`
appends a `'\n'` to each line. -/
def readLines (text : List Char) : List (List Char) :=
  match (text.splitOn '\n').reverse with
  | [] => []
  | last :: terminated =>
    terminated.reverse.map (dropCR · ++ ['\n']) ++ if last.isEmpty then [] else [last ++ ['\n']]

/-- `"---"`, the document separator. -/
def separator : List Char := ['-', '-', '-']

/-- What follows a separator at the start of a line: an error unless it is spaces or a comment. -/
def separatorError? (line : List Char) : Option String :=
  match trimSpace (line.drop separator.length) with
  | c :: rest => if c = '#' then none else some ("invalid Yaml document separator: " ++ String.mk (c :: rest))
  | [] => none

/-- `YAMLReader.Read`, called until it returns an error: the documents it returns, and the error
that ends them, `none` for `io.EOF`. `buffer` holds the lines read for the current document. A
separator line ends a non-empty document and is dropped; at the start of a document it is kept. -/
def readDocuments : List (List Char) → List Char → List (List Char) × Option String
  | [], buffer => (if buffer.isEmpty then [] else [buffer], none)
  | line :: rest, buffer =>
    if separator.isPrefixOf line then
      match separatorError? line with
      | some err => ([], some err)
      | none =>
        if buffer.isEmpty then readDocuments rest (buffer ++ line)
        else
          let (documents, ending) := readDocuments rest []
          (buffer :: documents, ending)
    else readDocuments rest (buffer ++ line)

/-- `yamlUtil.NewYAMLReader(bufio.NewReader(strings.NewReader(manifest)))`, read to the end. -/
def yamlReader (manifest : String) : List (List Char) × Option String :=
  readDocuments (readLines manifest.toList) []

/-! ## Part 2 — decoding a document into an `Unstructured` -/

/-- `yaml.YAMLToJSON` as `sigs.k8s.io/yaml` runs it: a document's YAML as a JSON tree, or a syntax
error. The empty document and `null` are JSON `null`. -/
structure YamlParser where
  toJSON : List Char → Except String Value
  toJSON_empty : toJSON [] = .ok .null
  toJSON_null : toJSON "null".toList = .ok .null

/-- `schema.ParseGroupVersion` accepts an `apiVersion` with at most one `/`. -/
def parseGroupVersionOk (apiVersion : String) : Bool := apiVersion.toList.count '/' ≤ 1

/-- `len(gvk.Kind) == 0` for `Unstructured.GroupVersionKind()`: the kind is `""` when `kind` is no
string, or when `apiVersion` does not parse. -/
def kindMissing (object : Value) : Bool :=
  !parseGroupVersionOk (((object.field? "apiVersion").bind Value.asString?).getD "") ||
    object.getKind == ""

/-- What `yaml.Unmarshal` did to a fresh `Unstructured`: whether it returned an error, which the
loop compares with nil only, and the `Object` it left (`[]` for the nil map). -/
structure Decoded where
  failed : Bool
  object : List (String × Value)

/-- `yaml.Unmarshal(rawBytes, &unstructuredObj)`. `sigs.k8s.io/yaml` converts the document to JSON
and decodes it into an `interface{}` that holds the pointer. JSON `null` sets that interface to
nil and leaves the object alone. Any other JSON goes to `Unstructured.UnmarshalJSON`. A map
becomes `Object`, and then a missing kind is an error. Any other JSON is an error that leaves
`Object` unset. -/
def unmarshal (yaml : YamlParser) (rawBytes : List Char) : Decoded :=
  match yaml.toJSON rawBytes with
  | .error _ => ⟨true, []⟩
  | .ok .null => ⟨false, []⟩
  | .ok (.obj fields) => ⟨kindMissing (.obj fields), fields⟩
  | .ok _ => ⟨true, []⟩

/-! ## Part 3 — `ParseManifestStringToObjects` -/

/-- One pass of the loop, on a document the reader returned. -/
def parseDocument (yaml : YamlParser) (objects : ManifestResources) (document : List Char) :
    ManifestResources :=
  let rawBytes := trimSpace document
  let unstructuredObj := unmarshal yaml rawBytes
  let objects := if unstructuredObj.failed then
      { objects with blobs := objects.blobs ++ [trimPrefix rawBytes "---\n".toList ++ ['\n']] }
    else objects
  if rawBytes.isEmpty || rawBytes == "null".toList || unstructuredObj.object.isEmpty then objects
  else { objects with items := objects.items ++ [.obj unstructuredObj.object] }

/-- The loop over what `reader.Read()` returns: the documents, then `io.EOF` or an error. -/
def parseDocuments (yaml : YamlParser) (objects : ManifestResources) :
    List (List Char) → Option String → Except String ManifestResources
  | [], none => .ok objects
  | [], some err => .error ("invalid YAML doc: " ++ err)
  | document :: rest, ending => parseDocuments yaml (parseDocument yaml objects document) rest ending

/-- `ParseManifestStringToObjects`. -/
def parseManifestStringToObjects (yaml : YamlParser) (manifest : String) :
    Except String ManifestResources :=
  parseDocuments yaml ⟨[], []⟩ (yamlReader manifest).1 (yamlReader manifest).2

/-! ## Part 4 — where every document goes -/

section Documents

variable (yaml : YamlParser) (document : List Char)

/-- The object a document adds to `Items`. -/
def itemOf : Option Value :=
  let rawBytes := trimSpace document
  let object := (unmarshal yaml rawBytes).object
  if rawBytes.isEmpty || rawBytes == "null".toList || object.isEmpty then none else some (.obj object)

/-- The blob a document adds to `Blobs`. -/
def blobOf : Option (List Char) :=
  let rawBytes := trimSpace document
  if (unmarshal yaml rawBytes).failed then some (trimPrefix rawBytes "---\n".toList ++ ['\n'])
  else none

/-- **One document**: its blob and its object, each appended when there is one. -/
theorem parseDocument_eq (objects : ManifestResources) :
    parseDocument yaml objects document =
      ⟨objects.items ++ (itemOf yaml document).toList, objects.blobs ++ (blobOf yaml document).toList⟩ := by
  unfold parseDocument itemOf blobOf
  dsimp only
  split_ifs <;> simp

/-- The loop: the reader's error, or every document's object and blob in order. -/
theorem parseDocuments_eq (objects : ManifestResources) :
    ∀ (documents : List (List Char)) (ending : Option String),
      parseDocuments yaml objects documents ending =
        match ending with
        | some err => .error ("invalid YAML doc: " ++ err)
        | none => .ok ⟨objects.items ++ documents.filterMap (itemOf yaml),
            objects.blobs ++ documents.filterMap (blobOf yaml)⟩
  | [], none => by simp [parseDocuments]
  | [], some _ => rfl
  | first :: rest, ending => by
    rw [parseDocuments, parseDocuments_eq, parseDocument_eq]
    cases ending <;> simp [List.filterMap_cons]
    constructor <;> cases itemOf yaml first <;> cases blobOf yaml first <;> rfl

/-- **Every manifest**: the reader's error, or `Items` and `Blobs` as the objects and the blobs of
the documents, in input order. -/
theorem parseManifestStringToObjects_eq (manifest : String) :
    parseManifestStringToObjects yaml manifest =
      match (yamlReader manifest).2 with
      | some err => .error ("invalid YAML doc: " ++ err)
      | none => .ok ⟨(yamlReader manifest).1.filterMap (itemOf yaml),
          (yamlReader manifest).1.filterMap (blobOf yaml)⟩ :=
  parseDocuments_eq yaml ⟨[], []⟩ _ _

/-- A blank document converts to `null`. -/
theorem toJSON_of_blank {rawBytes : List Char}
    (blank : (rawBytes.isEmpty || rawBytes == "null".toList) = true) :
    yaml.toJSON rawBytes = .ok .null := by
  rcases Bool.or_eq_true _ _ |>.mp blank with empty | null
  · rw [List.isEmpty_iff.mp empty]
    exact yaml.toJSON_empty
  · rw [eq_of_beq null]
    exact yaml.toJSON_null

/-- The object of a document, read off the JSON it converts to: a blank document converts to
`null`, so the blank check never decides. -/
theorem itemOf_eq : itemOf yaml document =
    match yaml.toJSON (trimSpace document) with
    | .ok (.obj object) => if object.isEmpty then none else some (.obj object)
    | _ => none := by
  unfold itemOf unmarshal
  dsimp only
  by_cases blank : ((trimSpace document).isEmpty || trimSpace document == "null".toList) = true
  · simp [blank, toJSON_of_blank yaml blank]
  · rw [Bool.not_eq_true] at blank
    rw [blank, Bool.false_or]
    generalize yaml.toJSON (trimSpace document) = json
    rcases json with _ | ⟨_ | _ | _ | _ | _ | fields⟩ <;> rfl

/-- **A document gives an object exactly when it converts to a non-empty map**, and the object is
that map. -/
theorem itemOf_eq_some_iff (object : List (String × Value)) :
    itemOf yaml document = some (.obj object) ↔
      yaml.toJSON (trimSpace document) = .ok (.obj object) ∧ object ≠ [] := by
  rw [itemOf_eq]
  split <;> simp_all
  exact ⟨fun ⟨nonempty, same⟩ => ⟨same, same ▸ nonempty⟩, fun ⟨same, nonempty⟩ => ⟨same ▸ nonempty, same⟩⟩

/-- A document gives some object exactly when it converts to a non-empty map. -/
theorem itemOf_isSome_iff :
    (itemOf yaml document).isSome ↔
      ∃ object, yaml.toJSON (trimSpace document) = .ok (.obj object) ∧ object ≠ [] := by
  rw [itemOf_eq]
  split <;> simp_all

/-- **A document gives a blob exactly when it converts to something other than `null` or a map
with a kind.** -/
theorem blobOf_isSome_iff :
    (blobOf yaml document).isSome ↔ yaml.toJSON (trimSpace document) ≠ .ok .null ∧
      ∀ object, yaml.toJSON (trimSpace document) = .ok (.obj object) → kindMissing (.obj object) = true := by
  unfold blobOf unmarshal
  dsimp only
  generalize yaml.toJSON (trimSpace document) = json
  rcases json with _ | ⟨_ | _ | _ | _ | _ | fields⟩ <;> simp

/-- The empty map has no kind. -/
theorem kindMissing_nil : kindMissing (.obj []) = true := rfl

/-- **A document is in neither list exactly when it converts to `null`.** -/
theorem dropped_iff :
    itemOf yaml document = none ∧ blobOf yaml document = none ↔
      yaml.toJSON (trimSpace document) = .ok .null := by
  rw [← Option.not_isSome_iff_eq_none, ← Option.not_isSome_iff_eq_none, itemOf_isSome_iff,
    blobOf_isSome_iff]
  generalize yaml.toJSON (trimSpace document) = json
  rcases json with _ | ⟨_ | _ | _ | _ | _ | fields⟩ <;> simp
  rintro rfl
  exact kindMissing_nil

/-- **A document is in both lists exactly when it converts to a non-empty map without a kind.** -/
theorem itemOf_and_blobOf_iff :
    (itemOf yaml document).isSome ∧ (blobOf yaml document).isSome ↔
      ∃ object, yaml.toJSON (trimSpace document) = .ok (.obj object) ∧ object ≠ [] ∧
        kindMissing (.obj object) = true := by
  rw [itemOf_isSome_iff, blobOf_isSome_iff]
  generalize yaml.toJSON (trimSpace document) = json
  rcases json with _ | ⟨_ | _ | _ | _ | _ | fields⟩ <;> simp

end Documents

/-! ## Part 5 — a mapping without a kind -/

/-- A YAML parser that knows the one document of the run below, the mapping `a: 1`, and reads every
other text as `null`. -/
def kindlessYaml : YamlParser where
  toJSON document := if document = "a: 1".toList then .ok (.obj [("a", .int 1)]) else .ok .null
  toJSON_empty := rfl
  toJSON_null := rfl

/-- **The manifest `a: 1` is in both lists**: its map, which has no kind, in `Items`, and its text in
`Blobs`. -/
theorem kindless_document_in_items_and_blobs :
    yamlReader "a: 1" = (["a: 1\n".toList], none) ∧
      parseManifestStringToObjects kindlessYaml "a: 1" = .ok ⟨[.obj [("a", .int 1)]], ["a: 1\n".toList]⟩ :=
  ⟨rfl, rfl⟩

end ModuleInstaller.Util
