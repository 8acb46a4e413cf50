import ModuleInstaller.Descriptor.Extract
/-
**Concurrent extractions on the shared chart cache.**

Calls of `GetPathFromExtractedTarGz` run side by side on one disk. Each makes its steps on the
disk one at a time: it looks for the image's cache directory and, on a miss, opens the layer;
it creates the directory; it extracts one record per step. `Reachable` is every state some
interleaving of these steps reaches from a given disk.

* `run_alone` — a call that runs alone returns and leaves what `getPathFromExtractedTarGz` does;
* `Extractions.step_eq_some` — what one step of one call can do to the disk and the calls;
* `Extractions.Reachable.grows` — no step of any call removes a directory or a file;
* `Extractions.Reachable.extracting_created` — a call that is extracting has created its cache
  directory;
* `check_hits_while_extracting` — so a call for the same image that looks now is handed the
  directory while the first call still has records to write.
-/

namespace ModuleInstaller.Descriptor

open V1alpha1

/-! ## Part 1 — the calls and their steps -/

/-- Where one call of `GetPathFromExtractedTarGz` stands. -/
inductive Extraction where
  /-- Has not looked for the cache directory yet. -/
  | started (imageSpec : ImageSpec)
  /-- Missed the cache and opened the layer. -/
  | pulled (imageSpec : ImageSpec) (records : List Record)
  /-- Created the cache directory; these records are still to be read. -/
  | extracting (imageSpec : ImageSpec) (records : List Record)
  | returned (imageSpec : ImageSpec) (result : Except String Path)

/-- The shared disk and the calls on it. -/
structure Extractions where
  disk : Disk := {}
  calls : List Extraction := []

/-- What can happen next. -/
inductive ExtractionAction where
  | start (imageSpec : ImageSpec)
  | check (call : Nat)
  | create (call : Nat)
  | next (call : Nat)

section Steps

variable (pullLayer : String → Except String Layer)

/-- The first step of a call: the cache directory if something is there, else the layer. -/
def checkStep (disk : Disk) (imageSpec : ImageSpec) : Extraction :=
  if disk.exists (getFsChartPath imageSpec) then .returned imageSpec (.ok (getFsChartPath imageSpec))
  else
    match openLayer pullLayer (imageReference imageSpec) with
    | .error err => .returned imageSpec (.error err)
    | .ok records => .pulled imageSpec records

/-- One step of one call; `none` when the call is not at that step. -/
def Extractions.step (system : Extractions) : ExtractionAction → Option Extractions
  | .start imageSpec => some { system with calls := system.calls ++ [.started imageSpec] }
  | .check index =>
    match system.calls[index]? with
    | some (.started imageSpec) =>
      some { system with calls := system.calls.set index (checkStep pullLayer system.disk imageSpec) }
    | _ => none
  | .create index =>
    match system.calls[index]? with
    | some (.pulled imageSpec records) =>
      match createInstallPath (getFsChartPath imageSpec).text (imageReference imageSpec) system.disk with
      | .error err =>
        some { system with calls := system.calls.set index (.returned imageSpec (.error err)) }
      | .ok disk => some { disk := disk, calls := system.calls.set index (.extracting imageSpec records) }
    | _ => none
  | .next index =>
    match system.calls[index]? with
    | some (.extracting imageSpec []) =>
      some { system with
        calls := system.calls.set index (.returned imageSpec (.ok (getFsChartPath imageSpec))) }
    | some (.extracting imageSpec (record :: rest)) =>
      match extractRecord (getFsChartPath imageSpec).text (imageReference imageSpec) system.disk record with
      | (disk, none) => some { disk := disk, calls := system.calls.set index (.extracting imageSpec rest) }
      | (disk, some err) =>
        some { disk := disk, calls := system.calls.set index (.returned imageSpec (.error err)) }
    | _ => none

/-- A sequence of steps; `none` once a step cannot be made. -/
def Extractions.run (system : Extractions) (actions : List ExtractionAction) : Option Extractions :=
  actions.foldlM (Extractions.step pullLayer) system

/-- The states some interleaving reaches from the disk `initial`. -/
inductive Extractions.Reachable (initial : Disk) : Extractions → Prop
  | init : Extractions.Reachable initial { disk := initial }
  | step {system next : Extractions} {action : ExtractionAction} :
      Extractions.Reachable initial system → system.step pullLayer action = some next →
        Extractions.Reachable initial next

/-! ## Part 2 — a call alone -/

/-- The result `GetPathFromExtractedTarGz` makes of the loop's outcome. -/
def loopResult (imageSpec : ImageSpec) : Option String → Except String Path
  | none => .ok (getFsChartPath imageSpec)
  | some err => .error err

/-- The extracting steps of a call alone run the loop of `writeTarGzContent`. -/
theorem extracting_run (imageSpec : ImageSpec) (records : List Record) (disk : Disk) :
    ∃ actions, Extractions.run pullLayer { disk := disk, calls := [.extracting imageSpec records] }
        actions =
      some { disk := (extractRecords (getFsChartPath imageSpec).text (imageReference imageSpec) records disk).1,
             calls := [.returned imageSpec (loopResult imageSpec
               (extractRecords (getFsChartPath imageSpec).text (imageReference imageSpec) records disk).2)] } := by
  induction records generalizing disk with
  | nil => exact ⟨[.next 0], rfl⟩
  | cons record rest ih =>
    cases extracted : extractRecord (getFsChartPath imageSpec).text (imageReference imageSpec) disk record
      with
    | mk next failure =>
      cases failure with
      | none =>
        obtain ⟨actions, ran⟩ := ih next
        refine ⟨.next 0 :: actions, ?_⟩
        simp only [Extractions.run, List.foldlM_cons, Extractions.step, List.getElem?_cons_zero,
          extracted, List.set_cons_zero, Option.bind_eq_bind, Option.some_bind] at ran ⊢
        simp only [extractRecords, extracted]
        exact ran
      | some err =>
        refine ⟨[.next 0], ?_⟩
        simp [Extractions.run, Extractions.step, extracted, extractRecords, loopResult]

/-- **A call that runs alone returns and leaves what `getPathFromExtractedTarGz` does.** -/
theorem run_alone (imageSpec : ImageSpec) (disk : Disk) :
    ∃ actions, Extractions.run pullLayer { disk := disk, calls := [.started imageSpec] } actions =
      some { disk := (getPathFromExtractedTarGz pullLayer imageSpec disk).2,
             calls := [.returned imageSpec (getPathFromExtractedTarGz pullLayer imageSpec disk).1] } := by
  by_cases present : disk.exists (getFsChartPath imageSpec) = true
  · exact ⟨[.check 0], by simp [Extractions.run, Extractions.step, checkStep, present,
      getPathFromExtractedTarGz]⟩
  cases opened : openLayer pullLayer (imageReference imageSpec) with
  | error err =>
    exact ⟨[.check 0], by simp [Extractions.run, Extractions.step, checkStep, present, opened,
      getPathFromExtractedTarGz]⟩
  | ok records =>
    cases created : createInstallPath (getFsChartPath imageSpec).text (imageReference imageSpec) disk with
    | error err =>
      exact ⟨[.check 0, .create 0], by simp [Extractions.run, Extractions.step, checkStep, present,
        opened, created, getPathFromExtractedTarGz, writeTarGzContent]⟩
    | ok made =>
      obtain ⟨actions, ran⟩ := extracting_run pullLayer imageSpec records made
      have checked : ({ disk := disk, calls := [.started imageSpec] } : Extractions).step pullLayer
          (.check 0) = some { disk := disk, calls := [.pulled imageSpec records] } := by
        simp [Extractions.step, checkStep, present, opened]
      have creating : ({ disk := disk, calls := [.pulled imageSpec records] } : Extractions).step
          pullLayer (.create 0) = some { disk := made, calls := [.extracting imageSpec records] } := by
        simp [Extractions.step, created]
      refine ⟨.check 0 :: .create 0 :: actions, ?_⟩
      simp only [Extractions.run, List.foldlM_cons, checked, creating, Option.bind_eq_bind,
        Option.some_bind] at ran ⊢
      rw [ran]
      simp only [getPathFromExtractedTarGz, present, opened, writeTarGzContent, created,
        Bool.false_eq_true, if_false]
      obtain ⟨left, failure⟩ :=
        extractRecords (getFsChartPath imageSpec).text (imageReference imageSpec) records made
      cases failure <;> rfl

/-! ## Part 3 — what every interleaving keeps -/

/-- A call that is extracting has its cache directory on the disk. -/
def Extraction.Created (disk : Disk) : Extraction → Prop
  | .extracting imageSpec _ => disk.isDirectory (getFsChartPath imageSpec) = true
  | _ => True

theorem Extraction.Created.grows {disk next : Disk} (grows : disk.Grows next) :
    ∀ {call : Extraction}, call.Created disk → call.Created next
  | .extracting _ _, created => grows.directories _ created
  | .started _, _ | .pulled _ _, _ | .returned _ _, _ => trivial

/-- The first step never reaches extracting. Stated for a call named by an equation, so that
elaborating it never unfolds `checkStep` on a symbolic path. -/
theorem checkStep_created {disk next : Disk} {imageSpec : ImageSpec} {call : Extraction}
    (checked : checkStep pullLayer disk imageSpec = call) : call.Created next := by
  subst checked
  unfold checkStep
  cases disk.exists (getFsChartPath imageSpec)
  · cases openLayer pullLayer (imageReference imageSpec) <;> trivial
  · trivial

/-- **What a step does**: the disk only grows, and either a call starts or one call moves on from
its stage; a call that moves on to extracting has its cache directory, created now or before. -/
theorem Extractions.step_eq_some {system next : Extractions} {action : ExtractionAction}
    (stepped : system.step pullLayer action = some next) :
    system.disk.Grows next.disk ∧
      ((∃ imageSpec, next.calls = system.calls ++ [.started imageSpec]) ∨
        ∃ index old call, system.calls[index]? = some old ∧ next.calls = system.calls.set index call ∧
          (old.Created system.disk → call.Created next.disk)) := by
  cases action with
  | start => cases stepped; exact ⟨.refl _, .inl ⟨_, rfl⟩⟩
  | check index =>
    simp only [Extractions.step] at stepped
    split at stepped <;> cases stepped
    rename_i imageSpec current
    generalize checked : checkStep pullLayer system.disk imageSpec = call
    exact ⟨.refl _, .inr ⟨index, _, _, current, rfl, fun _ => checkStep_created pullLayer checked⟩⟩
  | create index =>
    simp only [Extractions.step] at stepped
    split at stepped
    · rename_i imageSpec records current
      split at stepped <;> cases stepped
      · exact ⟨.refl _, .inr ⟨index, _, .returned imageSpec _, current, rfl, fun _ => trivial⟩⟩
      · rename_i made created
        simp only [createInstallPath, Except.mapError] at created
        split at created <;> cases created
        rename_i mkdir
        obtain ⟨grows, directory⟩ := Disk.mkdirAll_eq_ok mkdir
        rw [resolve_getFsChartPath] at directory
        exact ⟨grows, .inr ⟨index, _, .extracting imageSpec records, current, rfl,
          fun _ => directory⟩⟩
    · cases stepped
  | next index =>
    simp only [Extractions.step] at stepped
    split at stepped
    · cases stepped
      exact ⟨.refl _, .inr ⟨index, _, _, ‹_›, rfl, fun _ => trivial⟩⟩
    · rename_i imageSpec record _ current
      have grows :=
        extractRecord_grows (getFsChartPath imageSpec).text (imageReference imageSpec) system.disk record
      split at stepped <;> rename_i extracted <;> cases stepped <;> rw [extracted] at grows
      · exact ⟨grows, .inr ⟨index, _, _, current, rfl, fun created => grows.directories _ created⟩⟩
      · exact ⟨grows, .inr ⟨index, _, _, current, rfl, fun _ => trivial⟩⟩
    · cases stepped

/-- **No step of any call removes a directory or a file**, in any interleaving. -/
theorem Extractions.Reachable.grows {initial : Disk} {system : Extractions}
    (reachable : system.Reachable pullLayer initial) : initial.Grows system.disk := by
  induction reachable with
  | init => exact .refl initial
  | step _ stepped grows => exact grows.trans (Extractions.step_eq_some pullLayer stepped).1

/-- Every step keeps the extracting calls' directories on the disk. -/
theorem Extractions.step_created {system next : Extractions} {action : ExtractionAction}
    (created : ∀ call ∈ system.calls, call.Created system.disk)
    (stepped : system.step pullLayer action = some next) :
    ∀ call ∈ next.calls, call.Created next.disk := by
  obtain ⟨grows, ⟨_, calls⟩ | ⟨_, old, _, found, calls, moved⟩⟩ :=
    Extractions.step_eq_some pullLayer stepped <;> intro call member <;> rw [calls] at member
  · rcases List.mem_append.mp member with kept | fresh
    · exact (created call kept).grows grows
    · rw [List.mem_singleton.mp fresh]
      trivial
  · rcases List.mem_or_eq_of_mem_set member with kept | rfl
    · exact (created call kept).grows grows
    · exact moved (created old (List.getElem?_mem found))

/-- **A call that is extracting has created its cache directory**, in every reachable state. -/
theorem Extractions.Reachable.extracting_created {initial : Disk} {system : Extractions}
    (reachable : system.Reachable pullLayer initial) :
    ∀ call ∈ system.calls, call.Created system.disk := by
  induction reachable with
  | init => intro _ absent; cases absent
  | step _ stepped created => exact Extractions.step_created pullLayer created stepped

/-- **A call for an image that another call is still extracting is handed the cache
directory**, whatever records the other call has left to write. -/
theorem check_hits_while_extracting {initial : Disk} {system : Extractions}
    (reachable : system.Reachable pullLayer initial) {imageSpec : ImageSpec}
    {records : List Record} (extracting : .extracting imageSpec records ∈ system.calls)
    {index : Nat} (waiting : system.calls[index]? = some (.started imageSpec)) :
    system.step pullLayer (.check index) =
      some { system with
        calls := system.calls.set index (.returned imageSpec (.ok (getFsChartPath imageSpec))) } := by
  have created : system.disk.isDirectory (getFsChartPath imageSpec) = true :=
    reachable.extracting_created pullLayer _ extracting
  simp [Extractions.step, waiting, checkStep, Disk.exists, created]

end Steps

end ModuleInstaller.Descriptor
