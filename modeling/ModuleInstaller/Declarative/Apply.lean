import ModuleInstaller.Api.Value
/-
**The concurrent server-side apply (`concurrentDefaultSSA`).**

`Run` starts one `serverSideApply` goroutine per resource. All of them write to a channel that is
buffered for one result per resource. `Run` then receives one result per resource and keeps the
errors. A goroutine converts its object with `convertUnstructuredToTyped`, which allows a nil
`Mapping`. It logs the line `apply <name> (<kind>)`, and sends what `serverSideApplyResourceInfo`
returns: the error of the conversion to a `client.Object`, or the error of the `Patch`, or nil.
The log line reads `resource.Mapping.GroupVersionKind`. Go evaluates the arguments of `Info`
whatever the log level, so for a nil `Mapping` the goroutine dereferences a nil pointer and the
process panics.

The goroutines and the receive loop interleave. One step is one goroutine running its body up to
its send, with the answer the API server gives its `Patch`, or one receive of `Run`. `Reachable`
is every state that some interleaving reaches.

* `serverSideApply_eq_returns`, `serverSideApply_nil_mapping` — one goroutine: with a mapping, the
  error of the conversion or of the patch, nil exactly when both succeed; without one, a panic;
* `Fanin.step_eq_some` — what one step can do;
* **`Fanin.Reachable.invariant`** — in every interleaving there is one task per resource, and every
  result sent is buffered or received exactly once, with the errors received kept in `errs`;
* `Fanin.Invariant.room`, `Fanin.Invariant.progress` — no send blocks, and with every mapping set
  some step is possible until `Run` has its last result;
* **`Fanin.run_returns`** — with every mapping set, every interleaving takes at most two steps per
  resource and ends with `Run` past its loop;
* **`Fanin.Invariant.returned`**, `Fanin.Invariant.errs_eq_nil_iff` — when `Run` returns, every
  goroutine has sent once, `errs` holds the errors of the failed resources, one each, in the order
  they arrived, and it is nil exactly when every goroutine sent nil;
* `nilMapping_task_panics` — a resource without a mapping crashes the apply.
-/

namespace ModuleInstaller.Declarative

/-! ## Part 1 — one goroutine -/

/-- `schema.GroupVersionKind`. -/
structure GroupVersionKind where
  group : String
  version : String
  kind : String

/-- `GroupVersionKind.String()`. -/
def GroupVersionKind.toString (gvk : GroupVersionKind) : String :=
  gvk.group ++ "/" ++ gvk.version ++ ", Kind=" ++ gvk.kind

/-- `meta.RESTMapping`: the plural name of the resource, and its kind. -/
structure RESTMapping where
  resource : String
  groupVersionKind : GroupVersionKind

/-- `resource.Info` as the apply reads it; a nil `Mapping` is `none`. -/
structure Info where
  name : String
  mapping : Option RESTMapping

/-- `Info.ObjectName()` of an info with a mapping. -/
def objectName (info : Info) (mapping : RESTMapping) : String :=
  mapping.resource ++ "/" ++ info.name

/-- `serverSideApplyResourceInfo`. `typed` says whether the converted object is a `client.Object`;
`answer` is the error of `Patch`, which is called only then. -/
def serverSideApplyResourceInfo (typed : Bool) (answer : Option String) (info : Info)
    (mapping : RESTMapping) : Option String :=
  if !typed then
    some ("client object conversion for " ++ objectName info mapping ++ " failed," ++
      "object is not a valid client-go object")
  else answer.map fun err =>
    "patch for " ++ objectName info mapping ++ " (" ++ mapping.groupVersionKind.toString ++
      ") failed: " ++ err

/-- A field read through a pointer: a nil pointer panics. -/
def deref {α : Type} : Option α → Outcome α
  | some value => .returns value
  | none => .panics "runtime error: invalid memory address or nil pointer dereference"

/-- `serverSideApply` up to its send: the log line reads `resource.Mapping.GroupVersionKind`, then
the result of `serverSideApplyResourceInfo` is what it sends. `typed` is the verdict on the object
`convertUnstructuredToTyped` made. -/
def serverSideApply (typed : Info → Bool) (answer : Option String) (info : Info) :
    Outcome (Option String) := do
  let mapping ← deref info.mapping
  pure (serverSideApplyResourceInfo (typed info) answer info mapping)

/-- **With a mapping, a goroutine sends nil exactly when the object converted and the patch
succeeded.** -/
theorem serverSideApply_eq_returns (typed : Info → Bool) (answer : Option String) {info : Info}
    {mapping : RESTMapping} (mapped : info.mapping = some mapping) :
    serverSideApply typed answer info = .returns (serverSideApplyResourceInfo (typed info) answer info mapping) ∧
      ((serverSideApplyResourceInfo (typed info) answer info mapping).isNone ↔
        typed info = true ∧ answer = none) := by
  refine ⟨by simp [serverSideApply, mapped, deref], ?_⟩
  unfold serverSideApplyResourceInfo
  cases typed info <;> cases answer <;> simp

/-- **Without a mapping, a goroutine panics** at its first log line. -/
theorem serverSideApply_nil_mapping (typed : Info → Bool) (answer : Option String) {info : Info}
    (unmapped : info.mapping = none) :
    serverSideApply typed answer info =
      .panics "runtime error: invalid memory address or nil pointer dereference" := by
  simp [serverSideApply, unmapped, deref]

/-! ## Part 2 — `Run` and its goroutines -/

/-- Where one `serverSideApply` goroutine stands. -/
inductive Task where
  | running
  | sent (result : Option String)
  | panicked (message : String)

/-- The result a task sent. -/
def Task.result? : Task → Option (Option String)
  | .sent result => some result
  | _ => none

/-- The task panicked. -/
def Task.isPanicked : Task → Bool
  | .panicked _ => true
  | _ => false

/-- `Run` and its goroutines: the tasks by resource, the buffer of the results channel with the
oldest result first, the loop's count of results received, and the errors kept. -/
structure Fanin where
  tasks : List Task
  results : List (Option String)
  received : Nat
  errs : List String

/-- `Run` once it has started a goroutine per resource. -/
def Fanin.start (resources : List Info) : Fanin :=
  ⟨resources.map fun _ => .running, [], 0, []⟩

/-- Some goroutine panicked, which ends the process. -/
def Fanin.crashed (system : Fanin) : Bool := system.tasks.any Task.isPanicked

/-- What can happen next: a goroutine runs up to its send, with the answer to its `Patch`, or `Run`
receives. -/
inductive FaninAction where
  | apply (index : Nat) (answer : Option String)
  | receive

section Steps

variable (typed : Info → Bool) (resources : List Info)

/-- One step, `none` when it cannot be taken. A send needs room in the buffer, which holds
`len(resources)` results. A receive needs a result, and `Run` receives `len(resources)` of them. -/
def Fanin.step (system : Fanin) : FaninAction → Option Fanin
  | .apply index answer =>
    if system.crashed then none
    else match system.tasks[index]?, resources[index]? with
      | some .running, some info =>
        match serverSideApply typed answer info with
        | .returns result =>
          if system.results.length < resources.length then
            some { system with tasks := system.tasks.set index (.sent result),
                               results := system.results ++ [result] }
          else none
        | .panics message => some { system with tasks := system.tasks.set index (.panicked message) }
      | _, _ => none
  | .receive =>
    if system.crashed || resources.length ≤ system.received then none
    else match system.results with
      | result :: rest =>
        some { system with results := rest, received := system.received + 1,
                           errs := system.errs ++ result.toList }
      | [] => none

/-- An interleaving of steps. -/
def Fanin.run (system : Fanin) (actions : List FaninAction) : Option Fanin :=
  actions.foldlM (Fanin.step typed resources) system

/-- What `Run` returns once its loop is through: nil, or the error whose `MultiError` holds the
errors received. -/
def Fanin.returned (system : Fanin) : Option (Option (List String)) :=
  if system.received = resources.length then
    some (if system.errs.isEmpty then none else some system.errs)
  else none

/-- Every state that some interleaving reaches from the start. -/
inductive Fanin.Reachable : Fanin → Prop
  | start : Fanin.Reachable (Fanin.start resources)
  | step {system next : Fanin} {action : FaninAction} :
      Fanin.Reachable system → system.step typed resources action = some next →
        Fanin.Reachable next

/-- **What one step can do**: send the result of a running goroutine into a buffer with room, let a
running goroutine panic, or receive the oldest result while `Run` still waits for one; never after
a panic. -/
theorem Fanin.step_eq_some {system next : Fanin} {action : FaninAction}
    (stepped : system.step typed resources action = some next) :
    system.crashed = false ∧
      ((∃ index answer info result, system.tasks[index]? = some .running ∧
          resources[index]? = some info ∧ serverSideApply typed answer info = .returns result ∧
          system.results.length < resources.length ∧
          next = { system with tasks := system.tasks.set index (.sent result),
                               results := system.results ++ [result] }) ∨
        (∃ index answer info message, system.tasks[index]? = some .running ∧
          resources[index]? = some info ∧ serverSideApply typed answer info = .panics message ∧
          next = { system with tasks := system.tasks.set index (.panicked message) }) ∨
        (∃ result rest, system.received < resources.length ∧ system.results = result :: rest ∧
          next = { system with results := rest, received := system.received + 1,
                               errs := system.errs ++ result.toList })) := by
  cases action with
  | apply index answer =>
    simp only [Fanin.step] at stepped
    split at stepped
    · cases stepped
    · rename_i alive
      refine ⟨by simpa using alive, ?_⟩
      split at stepped
      · rename_i info running found
        split at stepped
        · rename_i result applied
          split at stepped
          · exact .inl ⟨index, answer, info, result, running, found, applied, by omega, (Option.some.inj stepped).symm⟩
          · cases stepped
        · rename_i message applied
          exact .inr (.inl ⟨index, answer, info, message, running, found, applied, (Option.some.inj stepped).symm⟩)
      · cases stepped
  | receive =>
    simp only [Fanin.step] at stepped
    split at stepped
    · cases stepped
    · rename_i waiting
      simp only [Bool.or_eq_true, decide_eq_true_eq, not_or, not_le] at waiting
      refine ⟨by simpa using waiting.1, .inr (.inr ?_)⟩
      split at stepped
      · rename_i result rest buffered
        exact ⟨result, rest, waiting.2, buffered, (Option.some.inj stepped).symm⟩
      · cases stepped

end Steps

/-- After a panic no step is taken: the process has ended. -/
theorem Fanin.step_of_crashed (typed : Info → Bool) (resources : List Info) {system : Fanin}
    (crashed : system.crashed = true) (action : FaninAction) :
    system.step typed resources action = none := by
  cases action <;> simp [Fanin.step, crashed]

/-! ## Part 3 — what every interleaving keeps -/

section Invariant

variable {typed : Info → Bool} {resources : List Info}

/-- What holds in every reachable state. -/
structure Fanin.Invariant (typed : Info → Bool) (resources : List Info) (system : Fanin) : Prop where
  /-- One task per resource. -/
  length_tasks : system.tasks.length = resources.length
  /-- A task that sent, sent what its goroutine computed. -/
  sent : ∀ (index : Nat) (result : Option String), system.tasks[index]? = some (.sent result) →
    ∃ info answer, resources[index]? = some info ∧ serverSideApply typed answer info = .returns result
  /-- A task that panicked, panicked in its goroutine. -/
  panicked : ∀ (index : Nat) (message : String), system.tasks[index]? = some (.panicked message) →
    ∃ info answer, resources[index]? = some info ∧ serverSideApply typed answer info = .panics message
  /-- Each result sent is received or buffered, once, and `errs` holds the errors received. -/
  accounted : ∃ log : List (Option String), log.length = system.received ∧
    system.errs = log.filterMap id ∧ (log ++ system.results).Perm (system.tasks.filterMap Task.result?)

/-- The invariant holds when `Run` has started its goroutines. -/
theorem Fanin.Invariant.start : (Fanin.start resources).Invariant typed resources := by
  refine ⟨by simp [Fanin.start], fun index result found => ?_, fun index message found => ?_,
    ⟨[], rfl, rfl, ?_⟩⟩
  · simp [Fanin.start, List.getElem?_replicate] at found
  · simp [Fanin.start, List.getElem?_replicate] at found
  · simp [Fanin.start, Task.result?, List.filterMap_map, Function.comp_def]

/-- Replacing a running task by one that sent changes its entry alone. -/
theorem getElem?_set_task {tasks : List Task} {index : Nat} {task : Task} (j : Nat) (other : Task)
    (found : (tasks.set index task)[j]? = some other) :
    (index = j ∧ other = task) ∨ (index ≠ j ∧ tasks[j]? = some other) := by
  rw [List.getElem?_set] at found
  split_ifs at found with same
  · exact .inl ⟨same, (Option.some.inj found).symm⟩
  · exact .inr ⟨same, found⟩

/-- **One step keeps the invariant.** -/
theorem Fanin.Invariant.step {system next : Fanin} {action : FaninAction}
    (invariant : system.Invariant typed resources)
    (stepped : system.step typed resources action = some next) : next.Invariant typed resources := by
  obtain ⟨log, length, errs, perm⟩ := invariant.accounted
  obtain ⟨-, ⟨index, answer, info, result, running, found, applied, -, rfl⟩ |
      ⟨index, answer, info, message, running, found, applied, rfl⟩ |
      ⟨result, rest, -, buffered, rfl⟩⟩ := Fanin.step_eq_some typed resources stepped
  · have moved := filterMap_set_perm Task.result? system.tasks index .running (.sent result) running
    simp only [Task.result?, Option.toList_none, Option.toList_some, List.append_nil] at moved
    refine ⟨by simp [invariant.length_tasks], fun j sent found' => ?_, fun j message found' => ?_,
      ⟨log, length, errs, ?_⟩⟩
    · rcases getElem?_set_task j _ found' with ⟨rfl, same⟩ | ⟨-, old⟩
      · cases same
        exact ⟨info, answer, found, applied⟩
      · exact invariant.sent j sent old
    · rcases getElem?_set_task j _ found' with ⟨-, same⟩ | ⟨-, old⟩
      · cases same
      · exact invariant.panicked j message old
    · rw [← List.append_assoc]
      exact (perm.append_right [result]).trans moved.symm
  · have moved := filterMap_set_perm Task.result? system.tasks index .running (.panicked message) running
    simp only [Task.result?, Option.toList_none, List.append_nil] at moved
    refine ⟨by simp [invariant.length_tasks], fun j sent found' => ?_, fun j message' found' => ?_,
      ⟨log, length, errs, perm.trans moved.symm⟩⟩
    · rcases getElem?_set_task j _ found' with ⟨-, same⟩ | ⟨-, old⟩
      · cases same
      · exact invariant.sent j sent old
    · rcases getElem?_set_task j _ found' with ⟨rfl, same⟩ | ⟨-, old⟩
      · cases same
        exact ⟨info, answer, found, applied⟩
      · exact invariant.panicked j message' old
  · refine ⟨invariant.length_tasks, invariant.sent, invariant.panicked,
      ⟨log ++ [result], by simp [length], by cases result <;> simp [errs], ?_⟩⟩
    rw [buffered] at perm
    simpa using perm

/-- **Every interleaving keeps the invariant.** -/
theorem Fanin.Reachable.invariant {system : Fanin} (reachable : system.Reachable typed resources) :
    system.Invariant typed resources := by
  induction reachable with
  | start => exact Fanin.Invariant.start
  | step _ stepped invariant => exact invariant.step stepped

/-- The results received and buffered are as many as the goroutines that sent. -/
theorem Fanin.Invariant.count {system : Fanin} (invariant : system.Invariant typed resources) :
    system.received + system.results.length = (system.tasks.filterMap Task.result?).length := by
  obtain ⟨log, length, -, perm⟩ := invariant.accounted
  rw [← length, ← List.length_append, perm.length_eq]

/-- Fewer results sent than tasks leave a task that has not sent. -/
theorem exists_unsent {tasks : List Task} (fewer : (tasks.filterMap Task.result?).length < tasks.length) :
    ∃ task ∈ tasks, task.result? = none := by
  by_contra every
  push_neg at every
  exact absurd (List.filterMap_length_eq_length.mpr fun task member =>
    Option.ne_none_iff_isSome.mp (every task member)) (Nat.ne_of_lt fewer)

/-- **No send blocks**: while a goroutine has still to send, the buffer has room. -/
theorem Fanin.Invariant.room {system : Fanin} (invariant : system.Invariant typed resources)
    {index : Nat} (running : system.tasks[index]? = some .running) :
    system.results.length < resources.length := by
  have unsent : (system.tasks.filterMap Task.result?).length < system.tasks.length :=
    lt_of_le_of_ne (List.length_filterMap_le _ _) fun same =>
      by simpa [Task.result?] using List.filterMap_length_eq_length.mp same _ (List.getElem?_mem running)
  have count := invariant.count
  rw [invariant.length_tasks] at unsent
  omega

section Mapped

variable (mapped : ∀ info ∈ resources, info.mapping.isSome)
include mapped

/-- **With every mapping set, no goroutine panics.** -/
theorem Fanin.Invariant.not_crashed {system : Fanin} (invariant : system.Invariant typed resources) :
    system.crashed = false := by
  rw [Fanin.crashed, List.any_eq_false]
  intro task member panicking
  cases task with
  | panicked message =>
    obtain ⟨index, found⟩ := List.mem_iff_getElem?.mp member
    obtain ⟨info, answer, resource, applied⟩ := invariant.panicked index message found
    obtain ⟨mapping, some⟩ := Option.isSome_iff_exists.mp (mapped info (List.getElem?_mem resource))
    rw [(serverSideApply_eq_returns typed answer some).1] at applied
    cases applied
  | _ => cases panicking

/-- **No interleaving gets stuck before `Run` has its last result**: a buffered result can be
received, or else a goroutine has still to send, and can. -/
theorem Fanin.Invariant.progress {system : Fanin} (invariant : system.Invariant typed resources)
    (waiting : system.received < resources.length) :
    ∃ action next, system.step typed resources action = some next := by
  have alive := invariant.not_crashed mapped
  cases buffered : system.results with
  | cons result rest =>
    refine ⟨.receive, ⟨system.tasks, rest, system.received + 1, system.errs ++ result.toList⟩, ?_⟩
    simp only [Fanin.step, alive, buffered, Bool.false_or, decide_eq_true_eq, Nat.not_le.mpr waiting,
      if_false]
  | nil =>
    have count := invariant.count
    rw [buffered, List.length_nil, Nat.add_zero] at count
    obtain ⟨task, member, unsent⟩ := exists_unsent (by rw [invariant.length_tasks]; omega)
    obtain ⟨index, found⟩ := List.mem_iff_getElem?.mp member
    have running : task = .running := by
      cases task with
      | running => rfl
      | sent _ => cases unsent
      | panicked _ =>
        have : system.crashed = true := List.any_eq_true.mpr ⟨_, member, rfl⟩
        simp [alive] at this
    subst running
    have inRange : index < resources.length := by
      rw [← invariant.length_tasks]
      exact (List.getElem?_eq_some_iff.mp found).1
    obtain ⟨info, resource⟩ : ∃ info, resources[index]? = some info :=
      ⟨_, List.getElem?_eq_getElem inRange⟩
    obtain ⟨mapping, some⟩ := Option.isSome_iff_exists.mp (mapped info (List.getElem?_mem resource))
    refine ⟨.apply index none,
      ⟨system.tasks.set index (.sent (serverSideApplyResourceInfo (typed info) none info mapping)),
        system.results ++ [serverSideApplyResourceInfo (typed info) none info mapping],
        system.received, system.errs⟩, ?_⟩
    simp only [Fanin.step, alive, found, resource, (serverSideApply_eq_returns typed none some).1,
      buffered, List.length_nil, Bool.false_eq_true, if_false, if_pos (show 0 < resources.length by omega)]

end Mapped

/-- **When `Run` returns, every goroutine has sent once, and `errs` holds the errors of the failed
resources**, one each, in the order they arrived. -/
theorem Fanin.Invariant.returned {system : Fanin} (invariant : system.Invariant typed resources)
    (done : system.received = resources.length) :
    (∀ index < resources.length, ∃ info answer result, resources[index]? = some info ∧
      system.tasks[index]? = some (.sent result) ∧ serverSideApply typed answer info = .returns result) ∧
    system.results = [] ∧
    system.errs.Perm ((system.tasks.filterMap Task.result?).filterMap id) := by
  obtain ⟨log, length, errs, perm⟩ := invariant.accounted
  have count := invariant.count
  have bounded := List.length_filterMap_le Task.result? system.tasks
  rw [invariant.length_tasks] at bounded
  have empty : system.results = [] := List.eq_nil_of_length_eq_zero (by omega)
  have every : ∀ task ∈ system.tasks, task.result?.isSome :=
    List.filterMap_length_eq_length.mp (by rw [invariant.length_tasks]; omega)
  refine ⟨fun index inRange => ?_, empty, ?_⟩
  · rw [← invariant.length_tasks] at inRange
    have found := List.getElem?_eq_getElem inRange
    obtain ⟨result, sent⟩ := Option.isSome_iff_exists.mp (every _ (List.getElem_mem inRange))
    cases task : system.tasks[index] with
    | sent result' =>
      rw [task] at found
      obtain ⟨info, answer, resource, applied⟩ := invariant.sent index result' found
      exact ⟨info, answer, result', resource, found, applied⟩
    | _ => rw [task] at sent; cases sent
  · rw [errs]
    rw [empty, List.append_nil] at perm
    exact perm.filterMap id

/-- When `Run` returns, it returns nil exactly when every goroutine sent nil. -/
theorem Fanin.Invariant.errs_eq_nil_iff {system : Fanin} (invariant : system.Invariant typed resources)
    (done : system.received = resources.length) :
    system.errs = [] ↔ ∀ task ∈ system.tasks, task = .sent none := by
  obtain ⟨every, -, errors⟩ := invariant.returned done
  rw [← List.length_eq_zero, errors.length_eq, List.length_eq_zero, List.filterMap_eq_nil_iff]
  constructor
  · intro none' task member
    obtain ⟨index, found⟩ := List.mem_iff_getElem?.mp member
    have inRange : index < resources.length := by
      rw [← invariant.length_tasks]
      exact (List.getElem?_eq_some_iff.mp found).1
    obtain ⟨-, -, result, -, sent, -⟩ := every index inRange
    rw [found] at sent
    cases sent
    have := none' result (List.mem_filterMap.mpr ⟨_, member, rfl⟩)
    simp only [id] at this
    rw [this]
  · intro sentNone result member
    obtain ⟨task, member, found⟩ := List.mem_filterMap.mp member
    rw [sentNone task member] at found
    cases found
    rfl

end Invariant

/-! ## Part 4 — every interleaving ends -/

/-- The goroutine has still to send. -/
def Task.isRunning : Task → Bool
  | .running => true
  | _ => false

/-- Goroutines still to send count twice, buffered results once. -/
def Fanin.pending (system : Fanin) : Nat :=
  2 * system.tasks.countP Task.isRunning + system.results.length

section Termination

variable {typed : Info → Bool} {resources : List Info}

/-- A running goroutine that sends or panics leaves one running goroutine fewer. -/
theorem countP_set_running {tasks : List Task} {index : Nat} (running : tasks[index]? = some .running)
    {task : Task} (stopped : task.isRunning = false) :
    (tasks.set index task).countP Task.isRunning + 1 = tasks.countP Task.isRunning := by
  obtain ⟨inRange, found⟩ := List.getElem?_eq_some_iff.mp running
  have positive : 0 < tasks.countP Task.isRunning :=
    List.countP_pos_iff.mpr ⟨_, List.getElem?_mem running, rfl⟩
  rw [List.countP_set _ _ _ _ inRange, found, stopped]
  simp only [Task.isRunning, if_true, Bool.false_eq_true, if_false]
  omega

/-- Each step lowers `pending`. -/
theorem Fanin.pending_step {system next : Fanin} {action : FaninAction}
    (stepped : system.step typed resources action = some next) : next.pending < system.pending := by
  obtain ⟨-, ⟨index, -, -, result, running, -, -, -, rfl⟩ |
      ⟨index, -, -, message, running, -, -, rfl⟩ | ⟨result, rest, -, buffered, rfl⟩⟩ :=
    Fanin.step_eq_some typed resources stepped
  · have fewer := countP_set_running running (show (Task.sent result).isRunning = false from rfl)
    simp only [Fanin.pending, List.length_append, List.length_singleton]
    omega
  · have fewer := countP_set_running running (show (Task.panicked message).isRunning = false from rfl)
    simp only [Fanin.pending]
    omega
  · simp [Fanin.pending, buffered]

/-- Along an interleaving, `pending` falls by at least one per step. -/
theorem Fanin.run_pending :
    ∀ (actions : List FaninAction) {system final : Fanin},
      system.run typed resources actions = some final → actions.length + final.pending ≤ system.pending
  | [], system, final, ran => by
    cases ran
    simp
  | action :: rest, system, final, ran => by
    simp only [Fanin.run, List.foldlM_cons] at ran
    cases stepped : system.step typed resources action with
    | none => simp [stepped] at ran
    | some next =>
      rw [stepped] at ran
      have later := Fanin.run_pending rest ran
      have lower := Fanin.pending_step stepped
      simp only [List.length_cons]
      omega

/-- An interleaving from a reachable state reaches a reachable state. -/
theorem Fanin.Reachable.run :
    ∀ (actions : List FaninAction) {system final : Fanin}, system.Reachable typed resources →
      system.run typed resources actions = some final → final.Reachable typed resources
  | [], _, _, reachable, ran => by
    cases ran
    exact reachable
  | action :: rest, system, final, reachable, ran => by
    simp only [Fanin.run, List.foldlM_cons] at ran
    cases stepped : system.step typed resources action with
    | none => simp [stepped] at ran
    | some next =>
      rw [stepped] at ran
      exact Fanin.Reachable.run rest (reachable.step stepped) ran

/-- **Every interleaving ends with `Run` past its loop**: with every mapping set, an interleaving
from the start takes at most two steps per resource, and once no step is possible `Run` has
received one result per resource. -/
theorem Fanin.run_returns (mapped : ∀ info ∈ resources, info.mapping.isSome)
    {actions : List FaninAction} {final : Fanin}
    (ran : (Fanin.start resources).run typed resources actions = some final)
    (stuck : ∀ action, final.step typed resources action = none) :
    actions.length ≤ 2 * resources.length ∧ final.received = resources.length := by
  have bound := Fanin.run_pending actions ran
  have start : (Fanin.start resources).pending = 2 * resources.length := by
    simp [Fanin.pending, Fanin.start, List.countP_replicate, Task.isRunning]
  have invariant := (Fanin.Reachable.run actions .start ran).invariant
  have count := invariant.count
  have bounded := List.length_filterMap_le Task.result? final.tasks
  rw [invariant.length_tasks] at bounded
  refine ⟨by omega, ?_⟩
  by_contra unfinished
  obtain ⟨action, next, stepped⟩ := invariant.progress mapped (by omega)
  rw [stuck action] at stepped
  cases stepped

end Termination

/-! ## Part 5 — a resource without a mapping -/

/-- A resource whose `Mapping` is nil. -/
def unmappedInfo : Info := ⟨"nginx", none⟩

/-- **A resource without a mapping crashes the apply**: its goroutine panics at its first log line,
whatever the answer of its `Patch` would have been, and after the panic no step is taken, so `Run`
never returns. -/
theorem nilMapping_task_panics :
    (Fanin.start [unmappedInfo]).step (fun _ => true) [unmappedInfo] (.apply 0 none) =
      some ⟨[.panicked "runtime error: invalid memory address or nil pointer dereference"], [], 0, []⟩ ∧
    Fanin.crashed ⟨[.panicked "runtime error: invalid memory address or nil pointer dereference"], [], 0, []⟩ =
      true :=
  ⟨rfl, rfl⟩

end ModuleInstaller.Declarative
