import Mathlib.Data.List.Perm.Basic
import ModuleInstaller.Controllers.Writes
/-
**Every request of a round is answered once, to its own round.**

`sendJobToInstallChannel` starts the round's aggregator, which waits for `len(Spec.Installs)`
responses, and then sends one `OperationRequest` per entry `GetInstallInfos` returned, each
carrying the round's response channel. The workers take them one at a time and answer on that
channel. Following where the position of each install is (not yet sent, with a worker, or
received) shows that no request is lost, duplicated or answered to another round.

* `Conserved` — for each round, the positions in flight are a permutation of the positions of
  what `GetInstallInfos` returned (none when it failed), and each carries the install prepared
  there;
* **`received_exactly_once`** — an aggregator past its loop received exactly one response per
  position, each the answer to the install prepared there, and nothing when preparation failed;
* `unprepared_round_writes_ready` — a run in which preparation fails: `Reconcile` writes no
  `Error`, and the aggregator of the Manifest without installs writes `Ready`;
* `Stalled`, `Reachable.stalled` — with no worker, every step keeps every round without a
  response;
* **`rounds_stall_without_workers`** — so a pool whose size is not positive when `StartWorkers`
  runs leaves every round with installs in its receive loop for ever.
-/

namespace ModuleInstaller.Controllers

open Types Util
open V1alpha1 hiding InstallInfo

/-! ## Part 1 — where the installs of a round are -/

/-- The requests `sendJobToInstallChannel` has still to send. -/
def ReconcilePhase.pending : ReconcilePhase → List OperationRequest
  | .sending requests => requests
  | _ => []

@[simp] theorem ReconcilePhase.pending_sending (requests : List OperationRequest) :
    (ReconcilePhase.sending requests).pending = requests := rfl

@[simp] theorem ReconcilePhase.pending_ofRequests (requests : List OperationRequest) :
    (ReconcilePhase.ofRequests requests).pending = requests := by
  cases requests <;> rfl

/-- The position of an install of round `index` a worker holds. -/
def Worker.job (index : Nat) : Worker → Option Nat
  | .idle => none
  | .handling request => if request.responseChan = index then some request.index else none
  | .replying responseChan position _ => if responseChan = index then some position else none

/-- The positions of round `index`'s installs: still to send, with a worker, or received. -/
def System.jobs (system : System) (index : Nat) : List Nat :=
  (system.reconcilePhase.pending.filter (·.responseChan == index)).map (·.index) ++
    system.workers.filterMap (Worker.job index) ++
    ((system.rounds[index]?).map fun round => round.received.map (·.1)).getD []

/-- How many entries `GetInstallInfos` returned for a round; none when it failed. -/
def Round.size (round : Round) : Nat :=
  match round.prepared with
  | .ok deployInfos => deployInfos.length
  | .error _ => 0

/-- A request carries the install prepared at its position of the round, in the round's mode. -/
def Round.Asks (round : Round) (request : OperationRequest) : Prop :=
  ∃ deployInfos, round.prepared = .ok deployInfos ∧
    deployInfos[request.index]? = some request.info ∧ request.mode = round.mode

/-- A response is the answer to the install prepared at its position of the round. -/
def Round.Answers (round : Round) (position : Nat) (response : InstallResponse) : Prop :=
  ∃ deployInfos info ready err, round.prepared = .ok deployInfos ∧
    deployInfos[position]? = some info ∧ response = checkResponse info ready err

/-- Two versions of a round dispatched alike: same mode, same preparation. -/
structure Round.Similar (round replaced : Round) : Prop where
  mode : replaced.mode = round.mode
  prepared : replaced.prepared = round.prepared

theorem Round.Similar.asks {round replaced : Round} (similar : round.Similar replaced)
    {request : OperationRequest} (asks : round.Asks request) : replaced.Asks request := by
  obtain ⟨deployInfos, prepared, info, mode⟩ := asks
  exact ⟨deployInfos, similar.prepared.trans prepared, info, mode.trans similar.mode.symm⟩

theorem Round.Similar.answers {round replaced : Round} (similar : round.Similar replaced)
    {position : Nat} {response : InstallResponse} (answers : round.Answers position response) :
    replaced.Answers position response := by
  obtain ⟨deployInfos, info, ready, err, prepared, found, answer⟩ := answers
  exact ⟨deployInfos, info, ready, err, similar.prepared.trans prepared, found, answer⟩

section SetRound

variable {rounds : List Round} {index : Nat} {round replaced : Round}

/-- After a round is replaced by a similar one, what similar rounds share still holds of the
round at every position. -/
theorem exists_similar_set {holds : Round → Prop}
    (shared : ∀ {other other' : Round}, other.Similar other' → holds other → holds other')
    (found : rounds[index]? = some round) (similar : round.Similar replaced) {position : Nat}
    (held : ∃ other, rounds[position]? = some other ∧ holds other) :
    ∃ other', (rounds.set index replaced)[position]? = some other' ∧ holds other' := by
  obtain ⟨other, found', holding⟩ := held
  by_cases same : index = position
  · subst same
    rw [found] at found'
    cases found'
    exact ⟨replaced, by simp [(List.getElem?_eq_some_iff.mp found).1], shared similar holding⟩
  · exact ⟨other, by rwa [List.getElem?_set_ne same], holding⟩

/-- A round after the replacement: the replaced one, or one that was there. -/
theorem getElem?_set_eq_some (found : rounds[index]? = some round) {position : Nat} {other' : Round}
    (found' : (rounds.set index replaced)[position]? = some other') :
    (position = index ∧ other' = replaced) ∨ (position ≠ index ∧ rounds[position]? = some other') := by
  by_cases same : index = position
  · subst same
    rw [List.getElem?_set_self (List.getElem?_eq_some_iff.mp found).1] at found'
    cases found'
    exact .inl ⟨rfl, rfl⟩
  · exact .inr ⟨Ne.symm same, by rwa [List.getElem?_set_ne same] at found'⟩

end SetRound

/-! ## Part 2 — the invariant -/

/-- What the requests, the workers and the aggregators hold, round by round. -/
structure Conserved (system : System) : Prop where
  /-- A request still to send asks its round. -/
  pending : ∀ request ∈ system.reconcilePhase.pending,
    ∃ round, system.rounds[request.responseChan]? = some round ∧ round.Asks request
  /-- A worker's request asks its round. -/
  handling : ∀ request, Worker.handling request ∈ system.workers →
    ∃ round, system.rounds[request.responseChan]? = some round ∧ round.Asks request
  /-- A worker's answer answers its round. -/
  replying : ∀ responseChan position response,
    Worker.replying responseChan position response ∈ system.workers →
    ∃ round, system.rounds[responseChan]? = some round ∧ round.Answers position response
  /-- A response received answers its round. -/
  received : ∀ (index : Nat) (round : Round), system.rounds[index]? = some round →
    ∀ entry ∈ round.received, round.Answers entry.1 entry.2
  /-- The positions of each round are each in exactly one place. -/
  jobs : ∀ (index : Nat) (round : Round), system.rounds[index]? = some round →
    (system.jobs index).Perm (List.range round.size)

namespace Conserved

variable {system : System}

/-- Only what is still to send, the workers and the rounds matter. -/
theorem congr (conserved : Conserved system) {next : System}
    (pending : next.reconcilePhase.pending = system.reconcilePhase.pending)
    (workers : next.workers = system.workers) (rounds : next.rounds = system.rounds) :
    Conserved next := by
  have jobs : ∀ index, next.jobs index = system.jobs index := fun index => by
    simp only [System.jobs, pending, workers, rounds]
  refine ⟨?_, ?_, ?_, ?_, fun index round found => ?_⟩
  · rw [pending, rounds]; exact conserved.pending
  · rw [workers, rounds]; exact conserved.handling
  · rw [workers, rounds]; exact conserved.replying
  · rw [rounds]; exact conserved.received
  · rw [jobs]; exact conserved.jobs index round (rounds ▸ found)

/-- A round whose aggregator moves on, its responses unchanged. -/
theorem setRound (conserved : Conserved system) {index : Nat} {round : Round}
    (found : system.rounds[index]? = some round) (replaced : Round) (similar : round.Similar replaced)
    (received : replaced.received = round.received) :
    Conserved { system with rounds := system.rounds.set index replaced } := by
  refine ⟨fun request member => ?_, fun request member => ?_,
    fun responseChan position response member => ?_, fun position other' found' => ?_,
    fun position other' found' => ?_⟩
  · exact exists_similar_set (·.asks) found similar (conserved.pending request member)
  · exact exists_similar_set (·.asks) found similar (conserved.handling request member)
  · exact exists_similar_set (·.answers) found similar
      (conserved.replying responseChan position response member)
  · rcases getElem?_set_eq_some found found' with ⟨-, rfl⟩ | ⟨-, found'⟩
    · rw [received]
      exact fun entry member => similar.answers (conserved.received index round found entry member)
    · exact conserved.received position other' found'
  · rcases getElem?_set_eq_some found found' with ⟨rfl, rfl⟩ | ⟨-, found''⟩
    · have jobs := conserved.jobs position round found
      have size : other'.size = round.size := by simp only [Round.size, similar.prepared]
      simp only [System.jobs, found, found', Option.map_some', Option.getD_some, received,
        size] at jobs ⊢
      exact jobs
    · have jobs := conserved.jobs position other' found''
      simp only [System.jobs, found', found''] at jobs ⊢
      exact jobs

theorem init (reconciler : ManifestReconciler) (manifest : Manifest) :
    Conserved (System.init reconciler manifest) := by
  refine ⟨by simp [System.init, ReconcilePhase.pending], fun _ member => ?_,
    fun _ _ _ member => ?_, by simp [System.init], by simp [System.init]⟩ <;>
  simp [System.init, List.mem_replicate] at member

/-- A worker of the pool holds no position of a round not yet dispatched. -/
theorem job_eq_none (conserved : Conserved system) {worker : Worker}
    (member : worker ∈ system.workers) : worker.job system.rounds.length = none := by
  cases worker with
  | idle => rfl
  | handling request =>
    obtain ⟨_, found, -⟩ := conserved.handling request member
    simp [Worker.job, (List.getElem?_eq_some_iff.mp found).1.ne]
  | replying responseChan position response =>
    obtain ⟨_, found, -⟩ := conserved.replying responseChan position response member
    simp [Worker.job, (List.getElem?_eq_some_iff.mp found).1.ne]

/-- The Perm of a round's positions survives a step that moves no position of it. -/
theorem jobs_perm_of_count {next : System} {index : Nat} {positions : List Nat}
    (perm : (system.jobs index).Perm positions)
    (count : ∀ position, (next.jobs index).count position = (system.jobs index).count position) :
    (next.jobs index).Perm positions :=
  (List.perm_iff_count.mpr count).trans perm

/-- `sendJobToInstallChannel`, from a `Reconcile` with nothing left to send. -/
theorem dispatch (conserved : Conserved system) (reconciler : ManifestReconciler)
    (manifest : Manifest) (mode : Mode) (nothing : system.reconcilePhase.pending = []) :
    Conserved (sendJobToInstallChannel reconciler system manifest mode) := by
  let fresh : Round :=
    { mode := mode, source := manifest, chartCount := manifest.spec.installs.length,
      prepared := reconciler.getInstallInfos manifest }
  let next := sendJobToInstallChannel reconciler system manifest mode
  have rounds : next.rounds = system.rounds ++ [fresh] := rfl
  have asks : ∀ request ∈ next.reconcilePhase.pending,
      request.responseChan = system.rounds.length ∧ fresh.Asks request := by
    intro request member
    simp only [next, Controllers.sendJobToInstallChannel] at member
    split at member
    · rename_i deployInfos prepared
      simp only [ReconcilePhase.pending_ofRequests, List.mem_map] at member
      obtain ⟨⟨position, info⟩, listed, rfl⟩ := member
      obtain ⟨bound, same⟩ := List.mem_enum listed
      exact ⟨rfl, deployInfos, prepared, by simp [same, bound], rfl⟩
    · simp [ReconcilePhase.pending] at member
  have positions : next.reconcilePhase.pending.map (·.index) = List.range fresh.size := by
    simp only [next, Controllers.sendJobToInstallChannel, Round.size, fresh]
    cases reconciler.getInstallInfos manifest with
    | ok deployInfos => simp [Function.comp_def, List.enum_map_fst]
    | error => rfl
  have old : ∀ {index : Nat} {round : Round}, system.rounds[index]? = some round →
      next.rounds[index]? = some round := fun found =>
    rounds ▸ (List.getElem?_append_left (List.getElem?_eq_some_iff.mp found).1).trans found
  have located : ∀ {index : Nat} {round : Round}, next.rounds[index]? = some round →
      system.rounds[index]? = some round ∨ (index = system.rounds.length ∧ round = fresh) := by
    intro index round found
    rw [rounds, List.getElem?_append] at found
    split at found
    · exact .inl found
    · cases beyond : index - system.rounds.length with
      | zero =>
        rw [beyond] at found
        cases found
        exact .inr ⟨by omega, rfl⟩
      | succ _ => simp [beyond] at found
  refine ⟨fun request member => ?_, fun request member => ?_,
    fun responseChan position response member => ?_, fun index round found => ?_,
    fun index round found => ?_⟩
  · obtain ⟨channel, asked⟩ := asks request member
    exact ⟨fresh, by rw [channel, rounds, List.getElem?_concat_length], asked⟩
  · obtain ⟨round, found, asked⟩ := conserved.handling request member
    exact ⟨round, old found, asked⟩
  · obtain ⟨round, found, answers⟩ := conserved.replying responseChan position response member
    exact ⟨round, old found, answers⟩
  · rcases located found with found | ⟨-, rfl⟩
    · exact conserved.received index round found
    · simp [fresh]
  · rcases located found with found' | ⟨rfl, rfl⟩
    · have others : next.reconcilePhase.pending.filter (·.responseChan == index) = [] :=
        List.filter_eq_nil_iff.mpr fun request member => by
          simp [(asks request member).1, (List.getElem?_eq_some_iff.mp found').1.ne']
      have jobs := conserved.jobs index round found'
      simp only [System.jobs, nothing, List.filter_nil, List.map_nil, others, found, found'] at jobs ⊢
      exact jobs
    · have own : next.reconcilePhase.pending.filter (·.responseChan == system.rounds.length) =
          next.reconcilePhase.pending :=
        List.filter_eq_self.mpr fun request member => by simp [(asks request member).1]
      have idle : system.workers.filterMap (Worker.job system.rounds.length) = [] :=
        List.filterMap_eq_nil_iff.mpr fun worker member => conserved.job_eq_none member
      simp only [System.jobs, own, positions, found]
      rw [show (sendJobToInstallChannel reconciler system manifest mode).workers = system.workers
        from rfl, idle]
      simp [fresh]

/-- An idle worker takes the next request. -/
theorem send (conserved : Conserved system) {request : OperationRequest}
    {rest : List OperationRequest} {worker : Nat}
    (sending : system.reconcilePhase = .sending (request :: rest))
    (idle : system.workers[worker]? = some .idle) :
    Conserved { system with reconcilePhase := .ofRequests rest,
                            workers := system.workers.set worker (.handling request) } := by
  have asked := conserved.pending request (by simp [sending])
  refine ⟨fun other member => conserved.pending other ?_, fun other member => ?_,
    fun responseChan position response member => ?_, conserved.received,
    fun index round found => jobs_perm_of_count (conserved.jobs index round found) fun job => ?_⟩
  · simp only [ReconcilePhase.pending_ofRequests] at member
    simp [sending, member]
  · rcases List.mem_or_eq_of_mem_set member with member | same
    · exact conserved.handling other member
    · cases same
      exact asked
  · rcases List.mem_or_eq_of_mem_set member with member | same
    · exact conserved.replying responseChan position response member
    · cases same
  · have moved := (filterMap_set_perm (Worker.job index) system.workers worker .idle
      (.handling request) idle).count_eq job
    by_cases own : request.responseChan = index <;>
      simp [System.jobs, sending, List.filter_cons, own, Worker.job, List.count_append,
        List.count_cons] at moved ⊢ <;> omega

/-- A worker's `HandleCharts` returns. -/
theorem handle (conserved : Conserved system) {request : OperationRequest} {worker : Nat}
    (handling : system.workers[worker]? = some (.handling request)) (ready : Bool)
    (err : Option String) :
    Conserved { system with
      workers := system.workers.set worker
        (.replying request.responseChan request.index (checkResponse request.info ready err)) } := by
  obtain ⟨round, found, deployInfos, prepared, info, -⟩ :=
    conserved.handling request (List.getElem?_mem handling)
  refine ⟨conserved.pending, fun other member => ?_, fun responseChan position response member => ?_,
    conserved.received,
    fun index round found => jobs_perm_of_count (conserved.jobs index round found) fun job => ?_⟩
  · rcases List.mem_or_eq_of_mem_set member with member | same
    · exact conserved.handling other member
    · cases same
  · rcases List.mem_or_eq_of_mem_set member with member | same
    · exact conserved.replying responseChan position response member
    · cases same
      exact ⟨round, found, deployInfos, request.info, ready, err, prepared, info, rfl⟩
  · have moved := (filterMap_set_perm (Worker.job index) system.workers worker
      (.handling request) (.replying request.responseChan request.index
        (checkResponse request.info ready err)) handling).count_eq job
    by_cases own : request.responseChan = index <;>
      simp [System.jobs, own, Worker.job, List.count_append, List.count_cons] at moved ⊢ <;> omega

/-- A worker's response is taken by its round's aggregator. -/
theorem reply (conserved : Conserved system) {worker responseChan position : Nat}
    {response : InstallResponse} {round : Round}
    (replying : system.workers[worker]? = some (.replying responseChan position response))
    (found : system.rounds[responseChan]? = some round) :
    Conserved { system with
      rounds := system.rounds.set responseChan
        { round with received := round.received ++ [(position, response)] },
      workers := system.workers.set worker .idle } := by
  have similar : round.Similar { round with received := round.received ++ [(position, response)] } :=
    ⟨rfl, rfl⟩
  have answers : round.Answers position response := by
    obtain ⟨round', found', answers⟩ :=
      conserved.replying responseChan position response (List.getElem?_mem replying)
    rw [found] at found'
    cases found'
    exact answers
  refine ⟨fun request member => ?_, fun request member => ?_,
    fun channel position' response' member => ?_, fun index other' found' => ?_,
    fun index other' found' => ?_⟩
  · exact exists_similar_set (·.asks) found similar (conserved.pending request member)
  · rcases List.mem_or_eq_of_mem_set member with member | same
    · exact exists_similar_set (·.asks) found similar (conserved.handling request member)
    · cases same
  · rcases List.mem_or_eq_of_mem_set member with member | same
    · exact exists_similar_set (·.answers) found similar
        (conserved.replying channel position' response' member)
    · cases same
  · rcases getElem?_set_eq_some found found' with ⟨-, rfl⟩ | ⟨-, found''⟩
    · intro entry member
      rcases List.mem_append.mp member with member | member
      · exact similar.answers (conserved.received responseChan round found entry member)
      · rw [List.mem_singleton.mp member]
        exact similar.answers answers
    · exact conserved.received index other' found''
  · have moved := (filterMap_set_perm (Worker.job index) system.workers worker
      (.replying responseChan position response) .idle replying)
    rcases getElem?_set_eq_some found found' with ⟨rfl, rfl⟩ | ⟨other, found''⟩
    · have size : { round with received := round.received ++ [(position, response)] }.size =
          round.size := rfl
      refine (size ▸ jobs_perm_of_count (conserved.jobs index round found) fun job => ?_)
      have := moved.count_eq job
      simp [System.jobs, found, Worker.job, List.count_append, List.count_cons,
        List.getElem?_set_self (List.getElem?_eq_some_iff.mp found).1] at this ⊢
      omega
    · refine jobs_perm_of_count (conserved.jobs index other' found'') fun job => ?_
      have := moved.count_eq job
      simp [System.jobs, found'', Worker.job, List.getElem?_set_ne (Ne.symm other),
        List.count_append, List.count_cons, Ne.symm other] at this ⊢
      omega

/-- **Every step keeps the positions of every round in place.** -/
theorem step (conserved : Conserved system) {reconciler : ManifestReconciler} {action : Action}
    {next : System} (stepped : Controllers.step reconciler system action = some next) :
    Conserved next := by
  cases action with
  | sync =>
    cases stepped
    exact conserved.congr rfl rfl rfl
  | reconcileRead =>
    obtain ⟨manifest, idle, -, rfl⟩ := step_reconcileRead stepped
    exact conserved.congr (by simp [idle, ReconcilePhase.pending]) rfl rfl
  | reconcileAct checks =>
    obtain ⟨manifest, holding, rfl⟩ := step_reconcileAct stepped
    have nothing : system.reconcilePhase.pending = [] := by simp [holding, ReconcilePhase.pending]
    have idle : Conserved { system with reconcilePhase := .idle } :=
      conserved.congr nothing.symm rfl rfl
    rcases reconcile_frame reconciler system manifest checks with ⟨mode, -, dispatched⟩ |
      ⟨stored, writes, written⟩
    · rw [dispatched]
      exact idle.dispatch reconciler manifest mode rfl
    · rw [written]
      exact idle.congr rfl rfl rfl
  | send worker =>
    obtain ⟨request, rest, sending, idle, rfl⟩ := step_send stepped
    exact conserved.send sending idle
  | handle worker ready err =>
    obtain ⟨request, handling, rfl⟩ := step_handle stepped
    exact conserved.handle handling ready err
  | reply worker =>
    obtain ⟨responseChan, index, response, round, replying, found, -, -, rfl⟩ := step_reply stepped
    exact (conserved.reply replying found).congr rfl rfl rfl
  | aggregatorRead index =>
    obtain ⟨round, found, -, -, rfl⟩ := step_aggregatorRead stepped
    exact conserved.setRound found _ (by exact ⟨rfl, rfl⟩) (by rfl)
  | aggregatorWrite index =>
    obtain ⟨round, latest, found, -, rfl⟩ := step_aggregatorWrite stepped
    obtain ⟨stored, writes, written⟩ := responseHandlerFunc_frame
      { system with rounds := system.rounds.set index { round with phase := .finished } } index
      (round.received.map (·.2)) latest
    rw [written]
    exact (conserved.setRound found { round with phase := .finished } ⟨rfl, rfl⟩ rfl).congr
      rfl rfl rfl
  | updateSpec spec =>
    obtain ⟨current, -, rfl⟩ := step_updateSpec stepped
    exact conserved.congr rfl rfl rfl
  | delete =>
    obtain ⟨current, -, -, rfl⟩ := step_delete stepped
    exact conserved.congr rfl rfl rfl

end Conserved

theorem Reachable.conserved {reconciler : ManifestReconciler} {manifest : Manifest}
    {system : System} (reachable : Reachable reconciler manifest system) : Conserved system := by
  induction reachable with
  | init => exact .init reconciler manifest
  | step _ stepped conserved => exact conserved.step stepped

/-! ## Part 3 — the responses an aggregator reads -/

/-- **Every request of a round is answered once, to its own round.** A round whose preparation
failed receives nothing. When `GetInstallInfos` returned `deployInfos`, the aggregator waits for
as many responses as there are entries, each response it receives answers the install prepared
at its position, and once it has left its loop it has received exactly one per position. -/
theorem received_exactly_once {reconciler : ManifestReconciler} {manifest : Manifest}
    {system : System} (reachable : Reachable reconciler manifest system) {index : Nat}
    {round : Round} (found : system.rounds[index]? = some round) :
    (∀ message, round.prepared = .error message → round.received = []) ∧
    ∀ deployInfos, round.prepared = .ok deployInfos →
      deployInfos.length = round.chartCount ∧
      (∀ entry ∈ round.received, ∃ info ready err,
        deployInfos[entry.1]? = some info ∧ entry.2 = checkResponse info ready err) ∧
      (round.phase ≠ .receiving → (round.received.map (·.1)).Perm (List.range deployInfos.length)) := by
  have conserved := reachable.conserved
  have dispatched := reachable.invariant.dispatched round (List.getElem?_mem found)
  have jobs := conserved.jobs index round found
  simp only [System.jobs, found, Option.map_some', Option.getD_some] at jobs
  refine ⟨fun message failed => ?_, fun deployInfos prepared => ?_⟩
  · simp only [Round.size, failed, List.range_zero, List.perm_nil, List.append_eq_nil] at jobs
    exact List.map_eq_nil_iff.mp jobs.2
  have length : deployInfos.length = round.chartCount := by
    rw [dispatched.chartCount]
    exact ManifestReconciler.length_getInstallInfos (dispatched.prepared ▸ prepared)
  refine ⟨length, fun entry member => ?_, fun done => ?_⟩
  · obtain ⟨deployInfos', info, ready, err, prepared', found', answer⟩ :=
      conserved.received index round found entry member
    rw [prepared, Except.ok.injEq] at prepared'
    subst prepared'
    exact ⟨info, ready, err, found', answer⟩
  · have complete := dispatched.complete.resolve_left done
    simp only [Round.size, prepared] at jobs
    have counted := jobs.length_eq
    simp only [List.length_append, List.length_map, List.length_range, complete, ← length] at counted
    have empty : (system.reconcilePhase.pending.filter (·.responseChan == index)).map (·.index) ++
        system.workers.filterMap (Worker.job index) = [] := List.eq_nil_of_length_eq_zero (by
      simp only [List.length_append, List.length_map]; omega)
    rwa [empty, List.nil_append] at jobs

/-! ## Part 4 — a round whose preparation fails -/

/-- A remote Manifest without installs, and without the cache-key label a remote Manifest
needs. -/
def remoteWithoutInstalls : Manifest where
  name := "manifest-sample"
  namespaceName := "default"
  spec := { remote := true }

/-- The finalizer, `Processing`, and then a `Create` round. -/
def dispatchRemote : List Action :=
  [.reconcileRead, .reconcileAct [], .sync, .reconcileRead, .reconcileAct [], .sync, .reconcileRead,
   .reconcileAct []]

/-- `GetInstallInfos` fails and `Reconcile` returns without writing `Error`: the Manifest stays in
`Processing`, and the round's aggregator, waiting for no response, writes `Ready`. -/
theorem unprepared_round_writes_ready :
    ∃ dispatched finished,
      run helmReconciler (.init helmReconciler remoteWithoutInstalls) dispatchRemote =
        some dispatched ∧
      dispatched.rounds.map (·.prepared) =
        [.error "label operator.kyma-project.io/cache-key not found on default/manifest-sample"] ∧
      dispatched.stored.map (·.status.state) = some .processing ∧
      run helmReconciler dispatched [.aggregatorRead 0, .aggregatorWrite 0] = some finished ∧
      finished.stored.map (·.status.state) = some .ready :=
  ⟨_, _, rfl, rfl, rfl, rfl, rfl⟩

/-! ## Part 5 — a pool that started no worker -/

/-- What a system without workers keeps: no round has received a response, so a round with
installs is still in its loop. -/
structure Stalled (system : System) : Prop where
  workers : system.workers = []
  received : ∀ round ∈ system.rounds, round.received = []
  receiving : ∀ round ∈ system.rounds, 0 < round.chartCount → round.phase = .receiving

namespace Stalled

variable {system : System}

/-- Only the workers and the rounds matter. -/
theorem congr (stalled : Stalled system) {next : System} (workers : next.workers = system.workers)
    (rounds : next.rounds = system.rounds) : Stalled next :=
  ⟨workers.trans stalled.workers, rounds ▸ stalled.received, rounds ▸ stalled.receiving⟩

/-- A round replaced by one with its responses and its count, still in its loop if it has
installs. -/
theorem setRound (stalled : Stalled system) {index : Nat} {round : Round}
    (found : system.rounds[index]? = some round) (replaced : Round)
    (received : replaced.received = round.received) (chartCount : replaced.chartCount = round.chartCount)
    (phase : 0 < round.chartCount → replaced.phase = .receiving) :
    Stalled { system with rounds := system.rounds.set index replaced } := by
  have old := List.getElem?_mem found
  refine ⟨stalled.workers, fun other member => ?_, fun other member => ?_⟩ <;>
    rcases List.mem_or_eq_of_mem_set member with member | rfl
  · exact stalled.received other member
  · rw [received]
    exact stalled.received round old
  · exact stalled.receiving other member
  · rw [chartCount]
    exact phase

/-- `sendJobToInstallChannel` adds a round that has received nothing. -/
theorem dispatch (stalled : Stalled system) (reconciler : ManifestReconciler) (manifest : Manifest)
    (mode : Mode) : Stalled (sendJobToInstallChannel reconciler system manifest mode) := by
  refine ⟨stalled.workers, fun round member => ?_, fun round member _ => ?_⟩ <;>
    simp only [sendJobToInstallChannel, List.mem_append, List.mem_singleton] at member <;>
    rcases member with member | rfl
  exacts [stalled.received round member, rfl, stalled.receiving round member ‹_›, rfl]

/-- **Every step keeps a system without workers stalled**: the steps of the workers cannot be
taken, and an aggregator can only leave the loop of a round without installs. -/
theorem step (stalled : Stalled system) {reconciler : ManifestReconciler} {action : Action}
    {next : System} (stepped : Controllers.step reconciler system action = some next) :
    Stalled next := by
  cases action with
  | sync =>
    cases stepped
    exact stalled.congr rfl rfl
  | reconcileRead =>
    obtain ⟨manifest, -, -, rfl⟩ := step_reconcileRead stepped
    exact stalled.congr rfl rfl
  | reconcileAct checks =>
    obtain ⟨manifest, -, rfl⟩ := step_reconcileAct stepped
    have idle : Stalled { system with reconcilePhase := .idle } := stalled.congr rfl rfl
    rcases reconcile_frame reconciler system manifest checks with ⟨mode, -, dispatched⟩ |
      ⟨stored, writes, written⟩
    · rw [dispatched]
      exact idle.dispatch reconciler manifest mode
    · rw [written]
      exact stalled.congr rfl rfl
  | send worker =>
    obtain ⟨request, rest, -, idle, -⟩ := step_send stepped
    simp [stalled.workers] at idle
  | handle worker ready err =>
    obtain ⟨request, handling, -⟩ := step_handle stepped
    simp [stalled.workers] at handling
  | reply worker =>
    obtain ⟨responseChan, index, response, round, replying, -⟩ := step_reply stepped
    simp [stalled.workers] at replying
  | aggregatorRead index =>
    obtain ⟨round, found, -, counted, rfl⟩ := step_aggregatorRead stepped
    have none : round.chartCount = 0 := by
      rw [← counted, stalled.received round (List.getElem?_mem found), List.length_nil]
    exact stalled.setRound found _ rfl rfl fun positive => absurd none positive.ne'
  | aggregatorWrite index =>
    obtain ⟨round, latest, found, located, rfl⟩ := step_aggregatorWrite stepped
    obtain ⟨stored, writes, written⟩ := responseHandlerFunc_frame
      { system with rounds := system.rounds.set index { round with phase := .finished } } index
      (round.received.map (·.2)) latest
    have left : ¬ 0 < round.chartCount := fun positive => by
      simp [stalled.receiving round (List.getElem?_mem found) positive] at located
    rw [written]
    exact (stalled.setRound found { round with phase := .finished } rfl rfl (absurd · left)).congr
      rfl rfl
  | updateSpec spec =>
    obtain ⟨current, -, rfl⟩ := step_updateSpec stepped
    exact stalled.congr rfl rfl
  | delete =>
    obtain ⟨current, -, -, rfl⟩ := step_delete stepped
    exact stalled.congr rfl rfl

end Stalled

theorem Reachable.stalled {reconciler : ManifestReconciler} (empty : reconciler.workerPoolSize = 0)
    {manifest : Manifest} {system : System} (reachable : Reachable reconciler manifest system) :
    Stalled system := by
  induction reachable with
  | init => exact ⟨by simp [System.init, empty], by simp [System.init], by simp [System.init]⟩
  | step _ stepped stalled => exact stalled.step stepped

/-- **A pool that starts no worker stalls every round with installs.** When `StartWorkers` ran on a
pool whose size is not positive (made so, or resized so by `SetWorkerPoolSize`), no request is
ever taken: in every reachable state no round has received a response, and a round with installs
never leaves its receive loop, so its aggregator never reads or writes the Manifest. -/
theorem rounds_stall_without_workers {reconciler : ManifestReconciler} {mw : ManifestWorkerPool}
    (started : reconciler.workerPoolSize = mw.startWorkers.length)
    (nonPositive : mw.getWorkerPoolSize ≤ 0) {manifest : Manifest} {system : System}
    (reachable : Reachable reconciler manifest system) :
    system.workers = [] ∧ ∀ round ∈ system.rounds, round.received = [] ∧
      (0 < round.chartCount → round.phase = .receiving) := by
  have empty : reconciler.workerPoolSize = 0 := by
    simpa [started, ManifestWorkerPool.startWorkers] using nonPositive
  have stalled := reachable.stalled empty
  exact ⟨stalled.workers, fun round member =>
    ⟨stalled.received round member, stalled.receiving round member⟩⟩

/-- The reconciler of the nginx scenario, after `SetWorkerPoolSize(0)` on its pool of four. -/
def resizedReconciler : ManifestReconciler :=
  { helmReconciler with workerPoolSize := ((newManifestWorkers 4).setWorkerPoolSize 0).startWorkers.length }

/-- The `Create` round of the nginx Manifest, dispatched to a pool resized to zero, has received
nothing and is still in its loop. -/
theorem resized_pool_stalls :
    ∃ dispatched, run resizedReconciler (.init resizedReconciler nginxManifest) dispatchRemote =
        some dispatched ∧
      resizedReconciler.workerPoolSize = ((newManifestWorkers 4).setWorkerPoolSize 0).startWorkers.length ∧
      ((newManifestWorkers 4).setWorkerPoolSize 0).getWorkerPoolSize ≤ 0 ∧
      dispatched.rounds.map (·.chartCount) = [1] ∧
      dispatched.workers = [] ∧ ∀ round ∈ dispatched.rounds, round.received = [] ∧
        (0 < round.chartCount → round.phase = .receiving) :=
  ⟨_, rfl, rfl, by decide, rfl,
    rounds_stall_without_workers rfl (by decide)
      (@run_reachable resizedReconciler nginxManifest _ _ dispatchRemote .init rfl)⟩

end ModuleInstaller.Controllers
