import ModuleInstaller.Api.Manifest
import ModuleInstaller.Util.FilePath
/-
**Extracting a chart layer into the on-disk cache (`pkg/descriptor`, `GetPathFromExtractedTarGz`).**

The cache directory of an image is named after the image alone, and its existence is the cache
hit: `GetPathFromExtractedTarGz` returns it as soon as `os.Open` finds it. On a miss the layer is
pulled, gunzipped and untarred into it by `writeTarGzContent`, which creates the directory first
and then writes one entry after another; a regular file is opened `O_CREATE|O_RDWR`, without
`O_TRUNC`, and the entry's body is copied over it from offset 0.

The disk holds directories and the bytes of regular files; the registry is the function
`pullLayer` from an image reference to its layer, whose compressed blob is a tar stream of
records, any of which may be corrupt.

* `Disk.content_copy` — a copied body replaces only the first bytes of the file; a longer earlier
  content keeps its tail;
* `getPathFromExtractedTarGz_hit` — once anything is at the image's cache path, the call returns
  that path without looking at the layer;
* `writeTarGzContent_grows` — extraction only adds directories and files, whatever the stream;
* `failed_extraction_hit` — so after an extraction that failed past creating the cache directory,
  the next call for the image returns the directory the failed one left;
* `entry_paths` — the directory every entry has created lies at or under the install path, and so
  does the file it opens unless the entry's file part is `..`; `parentEntry_opens_parent` is an
  entry named `..`, for which `OpenFile` is handed the install path's parent.

Paths are texts as the code builds them with `path.Split`, `CleanFilePathJoin` and `path.Join`;
the disk resolves a text to the directory it names.
-/

namespace ModuleInstaller.Descriptor

open V1alpha1 Util

/-! ## Part 1 — the disk -/

/-- A path on the disk, as its components from the root. -/
abbrev Path := List String

/-- The text of a path. -/
def Path.text (path : Path) : String := pathText true path

/-- The path a text names; the process runs in the root directory. -/
def resolve (path : String) : Path := cleanNames (if isAbs path then path else "/" ++ path)

/-- A path's text names it again. -/
@[simp] theorem resolve_text (path : String) : resolve (resolve path).text = resolve path := by
  have rooted : isAbs (if isAbs path then path else "/" ++ path) = true := by
    split
    · assumption
    · rw [isAbs_append (by decide)]
      rfl
  have text : (resolve path).text = pathClean (if isAbs path then path else "/" ++ path) := by
    rw [Path.text, resolve, pathClean, rooted]
  rw [text, resolve, isAbs_pathClean, rooted, if_pos rfl, cleanNames_pathClean]
  rfl

/-- The disk: its directories besides the root, and the bytes of its regular files. -/
structure Disk where
  directories : List Path := []
  /-- File contents by path; the first entry of a path is its content. -/
  files : List (Path × List UInt8) := []

/-- The bytes of the file at a path. -/
def Disk.content (disk : Disk) (path : Path) : Option (List UInt8) :=
  (disk.files.find? (·.1 == path)).map (·.2)

/-- Whether a directory is at a path; the root always is. -/
def Disk.isDirectory (disk : Disk) (path : Path) : Bool :=
  path.isEmpty || disk.directories.contains path

/-- Whether a regular file is at a path. -/
def Disk.isFile (disk : Disk) (path : Path) : Bool := (disk.content path).isSome

/-- Whether `os.Open` finds something at a path. -/
def Disk.exists (disk : Disk) (path : Path) : Bool := disk.isDirectory path || disk.isFile path

/-- `os.MkdirAll`: every directory on the way is created; a file on the way fails it. -/
def Disk.mkdirAll (disk : Disk) (path : Path) : Except String Disk :=
  match path.inits.find? disk.isFile with
  | some file => .error ("mkdir " ++ file.text ++ ": not a directory")
  | none => .ok { disk with directories := path.inits.filter (!disk.isDirectory ·) ++ disk.directories }

/-- `os.OpenFile(path, O_CREATE|O_RDWR, mode)`: a file is opened as it is, a missing one is created
empty in an existing directory. -/
def Disk.openFile (disk : Disk) (path : Path) : Except String Disk :=
  if disk.isDirectory path then .error ("open " ++ path.text ++ ": is a directory")
  else if !disk.isDirectory path.dropLast then
    .error ("open " ++ path.text ++ ": no such file or directory")
  else if disk.isFile path then .ok disk
  else .ok { disk with files := (path, []) :: disk.files }

/-- `io.Copy` into a file opened without `O_TRUNC`: the bytes are written from offset 0. -/
def Disk.copy (disk : Disk) (path : Path) (bytes : List UInt8) : Disk :=
  { disk with files := (path, bytes ++ ((disk.content path).getD []).drop bytes.length) :: disk.files }

@[simp] theorem Disk.content_copy_self (disk : Disk) (path : Path) (bytes : List UInt8) :
    (disk.copy path bytes).content path =
      some (bytes ++ ((disk.content path).getD []).drop bytes.length) := by
  simp [Disk.copy, Disk.content]

/-- **A copied body replaces only the first bytes of the file**: a longer earlier content keeps
its tail. -/
theorem Disk.content_copy (disk : Disk) {path : Path} {earlier : List UInt8}
    (present : disk.content path = some earlier) (bytes : List UInt8) :
    (disk.copy path bytes).content path = some (bytes ++ earlier.drop bytes.length) := by
  simp [present]

example : (({ files := [(["chart", "values.yaml"], [1, 2, 3])] } : Disk).copy ["chart", "values.yaml"]
    [9]).content ["chart", "values.yaml"] = some [9, 2, 3] := by decide

/-! ## Part 2 — the layer -/

/-- `tar.Header.Typeflag`, as the extraction tells types apart. -/
inductive Typeflag where
  | typeDir
  | typeReg
  | other (code : Nat)

/-- A `tar.Header`: the entry's name and type. -/
structure Header where
  name : String
  typeflag : Typeflag

/-- What `tar.Reader.Next` yields next. -/
inductive Record where
  /-- An entry: its header, the bytes its body yields, and the error that cut the body short. -/
  | entry (header : Header) (body : List UInt8) (bodyError : Option String)
  /-- `Next` failed: the gzip or tar stream is corrupt. -/
  | corrupt (message : String)

/-- A layer's compressed blob as `gzip.NewReader` and `tar.NewReader` read it. -/
inductive Blob where
  /-- `gzip.NewReader` fails. -/
  | notGzip (message : String)
  /-- The records of the tar stream, to its end. -/
  | tarGz (records : List Record)

/-- A pulled layer: `layer.Compressed()`. -/
structure Layer where
  compressed : Except String Blob

/-! ## Part 3 — the extraction -/

/-- Modelled from the spec: `util.GetFsChartPath`, the cache directory of an image, under the
temporary directory and named after the image's name and reference. -/
def getFsChartPath (imageSpec : ImageSpec) : Path :=
  resolve (pathJoin ["/tmp", imageSpec.name ++ "-" ++ imageSpec.ref])

/-- The text of the cache directory names it. -/
@[simp] theorem resolve_getFsChartPath (imageSpec : ImageSpec) :
    resolve (getFsChartPath imageSpec).text = getFsChartPath imageSpec :=
  resolve_text _

/-- `handleExtractedHeaderFile`: a directory entry is created, a regular one copied over its file;
any other type is an error. -/
def handleExtractedHeaderFile (header : Header) (body : List UInt8) (bodyError : Option String)
    (file destinationPath layerReference : String) (disk : Disk) : Disk × Option String :=
  match header.typeflag with
  | .typeDir =>
    match disk.mkdirAll (resolve destinationPath) with
    | .error err =>
      (disk, some ("failure in Mkdir() storage while extracting TarGz " ++ layerReference ++ ": " ++ err))
    | .ok disk => (disk, none)
  | .typeReg =>
    let filePath := pathJoin [destinationPath, file]
    match disk.openFile (resolve filePath) with
    | .error err =>
      (disk, some ("file create failed while extracting TarGz " ++ layerReference ++ ": " ++ err))
    | .ok disk =>
      let disk := disk.copy (resolve filePath) body
      match bodyError with
      | some err =>
        (disk, some ("file copy storage failed while extracting TarGz " ++ layerReference ++ ": " ++ err))
      | none => (disk, none)
  | .other code =>
    (disk, some ("unknown type encountered while extracting TarGz " ++ toString code ++ " in " ++
      destinationPath))

/-- One turn of the loop of `writeTarGzContent`: the next record, extracted. -/
def extractRecord (installPath layerReference : String) (disk : Disk) :
    Record → Disk × Option String
  | .corrupt message =>
    (disk, some ("failed Next() while extracting TarGz " ++ layerReference ++ ": " ++ message))
  | .entry header body bodyError =>
    let (destDir, destFile) := pathSplit header.name
    match cleanFilePathJoin installPath destDir with
    | .error err => (disk, some err)
    | .ok destinationPath =>
      match disk.mkdirAll (resolve destinationPath) with
      | .error err =>
        (disk, some ("failure in MkdirAll() while extracting TarGz for destinationPath " ++
          layerReference ++ ": " ++ err))
      | .ok disk => handleExtractedHeaderFile header body bodyError destFile destinationPath
          layerReference disk

/-- The loop of `writeTarGzContent`, to the end of the stream or the first error. -/
def extractRecords (installPath layerReference : String) :
    List Record → Disk → Disk × Option String
  | [], disk => (disk, none)
  | record :: rest, disk =>
    match extractRecord installPath layerReference disk record with
    | (disk, none) => extractRecords installPath layerReference rest disk
    | failed => failed

/-- The first step of `writeTarGzContent`: the cache directory. -/
def createInstallPath (installPath layerReference : String) (disk : Disk) :
    Except String Disk :=
  (disk.mkdirAll (resolve installPath)).mapError fun err =>
    "failure in MkdirAll() while extracting TarGz for installPath " ++ layerReference ++ ": " ++ err

/-- `writeTarGzContent`: the cache directory first, then every record; nothing is removed on an
error. -/
def writeTarGzContent (installPath : String) (records : List Record) (layerReference : String)
    (disk : Disk) : Disk × Option String :=
  match createInstallPath installPath layerReference disk with
  | .error err => (disk, some err)
  | .ok disk => extractRecords installPath layerReference records disk

/-- The image reference `repo/name@ref` of an image. -/
def imageReference (imageSpec : ImageSpec) : String :=
  imageSpec.repo ++ "/" ++ imageSpec.name ++ "@" ++ imageSpec.ref

section Registry

variable (pullLayer : String → Except String Layer)

/-- The layer's tar records: `pullLayer`, `layer.Compressed()` and `gzip.NewReader`. -/
def openLayer (imageRef : String) : Except String (List Record) := do
  let layer ← pullLayer imageRef
  match layer.compressed with
  | .error err => .error ("fetching blob for compressed layer " ++ imageRef ++ ": " ++ err)
  | .ok (.notGzip err) => .error ("failure in NewReader() while extracting TarGz " ++ imageRef ++ ": " ++ err)
  | .ok (.tarGz records) => .ok records

/-- `GetPathFromExtractedTarGz`: the image's cache directory if something is there, else the
layer extracted into it. On an extraction error the source returns the path next to the error;
every caller drops it. -/
def getPathFromExtractedTarGz (imageSpec : ImageSpec) (disk : Disk) : Except String Path × Disk :=
  let imageRef := imageReference imageSpec
  let installPath := getFsChartPath imageSpec
  if disk.exists installPath then (.ok installPath, disk)
  else
    match openLayer pullLayer imageRef with
    | .error err => (.error err, disk)
    | .ok records =>
      match writeTarGzContent installPath.text records imageRef disk with
      | (disk, none) => (.ok installPath, disk)
      | (disk, some err) => (.error err, disk)

/-- **Once anything is at the image's cache path, the call returns that path** without looking
at the layer. -/
theorem getPathFromExtractedTarGz_hit (imageSpec : ImageSpec) {disk : Disk}
    (present : disk.exists (getFsChartPath imageSpec) = true) :
    getPathFromExtractedTarGz pullLayer imageSpec disk = (.ok (getFsChartPath imageSpec), disk) := by
  simp [getPathFromExtractedTarGz, present]

end Registry

/-! ## Part 4 — what an extraction leaves -/

/-- `after` has every directory and every file `before` has. -/
structure Disk.Grows (before after : Disk) : Prop where
  directories : ∀ path, before.isDirectory path = true → after.isDirectory path = true
  files : ∀ path, before.isFile path = true → after.isFile path = true

theorem Disk.Grows.refl (disk : Disk) : disk.Grows disk := ⟨fun _ => id, fun _ => id⟩

theorem Disk.Grows.trans {first second third : Disk} (earlier : first.Grows second)
    (later : second.Grows third) : first.Grows third :=
  ⟨fun path => later.directories path ∘ earlier.directories path,
    fun path => later.files path ∘ earlier.files path⟩

theorem Disk.grows_cons (disk : Disk) (entry : Path × List UInt8) :
    disk.Grows { disk with files := entry :: disk.files } := by
  refine ⟨fun _ => id, fun path present => ?_⟩
  simp only [Disk.isFile, Disk.content, List.find?_cons] at present ⊢
  split <;> simp_all

theorem Disk.copy_grows (disk : Disk) (path : Path) (bytes : List UInt8) :
    disk.Grows (disk.copy path bytes) :=
  disk.grows_cons _

theorem Disk.openFile_grows {disk next : Disk} {path : Path} (opened : disk.openFile path = .ok next) :
    disk.Grows next := by
  unfold Disk.openFile at opened
  split_ifs at opened <;> cases opened
  · exact .refl disk
  · exact disk.grows_cons _

/-- What a successful `MkdirAll` did: kept everything, and the path is a directory. -/
theorem Disk.mkdirAll_eq_ok {disk next : Disk} {path : Path} (created : disk.mkdirAll path = .ok next) :
    disk.Grows next ∧ next.isDirectory path = true := by
  unfold Disk.mkdirAll at created
  split at created
  · cases created
  · cases created
    refine ⟨⟨fun other old => ?_, fun _ => id⟩, ?_⟩
    · simp [Disk.isDirectory] at old ⊢
      tauto
    · simp [Disk.isDirectory, List.mem_filter, List.mem_inits]
      tauto

theorem handleExtractedHeaderFile_grows (header : Header) (body : List UInt8)
    (bodyError : Option String) (file destinationPath layerReference : String) (disk : Disk) :
    disk.Grows (handleExtractedHeaderFile header body bodyError file destinationPath
      layerReference disk).1 := by
  unfold handleExtractedHeaderFile
  split
  · split
    · exact .refl disk
    · exact (Disk.mkdirAll_eq_ok ‹_›).1
  · dsimp only
    split
    · exact .refl disk
    · rename_i opened
      have written :=
        (Disk.openFile_grows opened).trans
          (Disk.copy_grows _ (resolve (pathJoin [destinationPath, file])) body)
      split <;> exact written
  · exact .refl disk

theorem extractRecord_grows (installPath layerReference : String) (disk : Disk)
    (record : Record) : disk.Grows (extractRecord installPath layerReference disk record).1 := by
  cases record with
  | corrupt => exact .refl disk
  | entry header body bodyError =>
    simp only [extractRecord]
    split
    · exact .refl disk
    · split
      · exact .refl disk
      · exact (Disk.mkdirAll_eq_ok ‹_›).1.trans (handleExtractedHeaderFile_grows ..)

theorem extractRecords_grows (installPath layerReference : String) (records : List Record)
    (disk : Disk) : disk.Grows (extractRecords installPath layerReference records disk).1 := by
  induction records generalizing disk with
  | nil => exact .refl disk
  | cons record rest ih =>
    have first := extractRecord_grows installPath layerReference disk record
    simp only [extractRecords]
    split
    · rename_i extracted
      rw [extracted] at first
      exact first.trans (ih _)
    · exact first

/-- **Extraction only adds directories and files**, whatever the stream holds. -/
theorem writeTarGzContent_grows (installPath : String) (records : List Record)
    (layerReference : String) (disk : Disk) :
    disk.Grows (writeTarGzContent installPath records layerReference disk).1 := by
  unfold writeTarGzContent createInstallPath
  cases created : disk.mkdirAll (resolve installPath)
  · exact .refl disk
  · exact (Disk.mkdirAll_eq_ok created).1.trans (extractRecords_grows ..)

/-- Once the cache directory is created, it is there after the extraction, failed or not. -/
theorem writeTarGzContent_isDirectory {installPath : String} {disk made : Disk}
    (created : disk.mkdirAll (resolve installPath) = .ok made) (records : List Record)
    (layerReference : String) :
    (writeTarGzContent installPath records layerReference disk).1.isDirectory (resolve installPath) =
      true := by
  simp only [writeTarGzContent, createInstallPath, created, Except.mapError]
  exact (extractRecords_grows ..).directories _ (Disk.mkdirAll_eq_ok created).2

/-- **After an extraction that failed past creating the cache directory, the next call for the
image returns that directory**, whatever the failed one wrote into it. -/
theorem failed_extraction_hit (pullLayer : String → Except String Layer) (imageSpec : ImageSpec)
    {disk made : Disk} (created : disk.mkdirAll (getFsChartPath imageSpec) = .ok made)
    (records : List Record) (layerReference : String) :
    let left := (writeTarGzContent (getFsChartPath imageSpec).text records layerReference disk).1
    getPathFromExtractedTarGz pullLayer imageSpec left = (.ok (getFsChartPath imageSpec), left) := by
  rw [← resolve_getFsChartPath] at created
  have present := writeTarGzContent_isDirectory created records layerReference
  rw [resolve_getFsChartPath] at present
  exact getPathFromExtractedTarGz_hit pullLayer imageSpec (by simp [Disk.exists, present])

/-! ## Part 5 — a stream cut short -/

/-- The chart image of the examples. -/
def chartImage : ImageSpec :=
  { repo := "mock-registry", name := "helm-chart", ref := "sha256-01", type := "oci-ref" }

/-- The first record of the chart's layer: `Chart.yaml`. -/
def chartFile : Record := .entry ⟨"Chart.yaml", .typeReg⟩ [1, 2] none

/-- The registry serving the chart's layer: `Chart.yaml`, then `values.yaml`. -/
def chartRegistry : String → Except String Layer :=
  fun _ => .ok ⟨.ok (.tarGz [chartFile, .entry ⟨"values.yaml", .typeReg⟩ [3] none])⟩

/-- The registry whose stream of the chart's layer breaks off after `Chart.yaml`. -/
def truncatedRegistry : String → Except String Layer :=
  fun _ => .ok ⟨.ok (.tarGz [chartFile, .corrupt "unexpected EOF"])⟩

/-- **A later call serves the directory an extraction cut short**: the first call fails on the
truncated stream and leaves `Chart.yaml` alone in the cache directory; the next call returns that
directory without error, and `values.yaml` is not in it. -/
theorem partial_extraction_served :
    ∃ err disk,
      getPathFromExtractedTarGz truncatedRegistry chartImage {} = (.error err, disk) ∧
        getPathFromExtractedTarGz chartRegistry chartImage disk =
          (.ok (getFsChartPath chartImage), disk) ∧
        disk.content (getFsChartPath chartImage ++ ["Chart.yaml"]) = some [1, 2] ∧
        disk.content (getFsChartPath chartImage ++ ["values.yaml"]) = none :=
  ⟨_, _, rfl, rfl, rfl, rfl⟩

/-! ## Part 6 — the paths an entry names -/

/-- **The directory of every entry lies at or under the install path, and so does its file unless
the file is `..`.** `extractRecord` hands these two paths to `MkdirAll` and to `OpenFile`:
the directory part of the entry's name joined by `CleanFilePathJoin`, and the file part joined to
that by `path.Join`. -/
theorem entry_paths {installPath name destinationPath : String}
    (joined : cleanFilePathJoin installPath (pathSplit name).1 = .ok destinationPath) :
    (isAbs destinationPath = isAbs (pathClean installPath) ∧
      ∃ names, cleanNames destinationPath = cleanNames (pathClean installPath) ++ names) ∧
    ((pathSplit name).2 ≠ ".." →
      isAbs (pathJoin [destinationPath, (pathSplit name).2]) = isAbs (pathClean installPath) ∧
      ∃ names, cleanNames (pathJoin [destinationPath, (pathSplit name).2]) =
        cleanNames (pathClean installPath) ++ names) := by
  obtain ⟨names, -, rooted, extended⟩ := cleanFilePathJoin_eq_ok joined
  refine ⟨⟨rooted, names, extended⟩, fun notUp => ?_⟩
  obtain ⟨joinedRooted, more, joinedNames⟩ := cleanNames_pathJoin_of_ne_dotdot
    (cleanFilePathJoin_ne_empty joined) (not_mem_pathSplit_snd name) notUp
  exact ⟨joinedRooted.trans rooted, names ++ more, by rw [joinedNames, extended, List.append_assoc]⟩

/-- A layer whose one entry is a regular file named `..`. -/
def parentEntryRegistry : String → Except String Layer :=
  fun _ => .ok ⟨.ok (.tarGz [.entry ⟨"..", .typeReg⟩ [1] none])⟩

/-- **An entry named `..` has the parent of the install path opened.** `path.Split` gives it the
directory `""`, which `CleanFilePathJoin` joins to the install path itself, and the file `..`,
which `path.Join` resolves to the parent: `OpenFile` is handed `/tmp`, and fails on the
directory there. -/
theorem parentEntry_opens_parent :
    pathSplit ".." = ("", "..") ∧
      cleanFilePathJoin (getFsChartPath chartImage).text "" = .ok (getFsChartPath chartImage).text ∧
      pathJoin [(getFsChartPath chartImage).text, ".."] = "/tmp" ∧
      ∃ disk, getPathFromExtractedTarGz parentEntryRegistry chartImage {} =
        (.error ("file create failed while extracting TarGz mock-registry/helm-chart@sha256-01: " ++
          "open /tmp: is a directory"), disk) :=
  ⟨rfl, rfl, rfl, _, rfl⟩

end ModuleInstaller.Descriptor
