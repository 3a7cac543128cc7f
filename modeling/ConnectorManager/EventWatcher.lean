import ConnectorManager.Pod

namespace ConnectorManager

/-!
# The event watcher's three-phase machine

`EventWatcherDaemon::watch` (`acm/src/podmanager/event_watcher.rs`) as an
explicit state machine. Each `await` of the daemon that the outside world
answers is one input: the next item of the watch stream (with the answer of
`backoff.next_backoff()` when the item is an error), the outcome of the
Phase-2 `select!` when it picks the health check, and the result of the two
sends whose result the code inspects (the `Running` signal to the garbage
collector and the `Ok(pod)` verdict on the lower handle). Every other send,
the pod delete and the health checker's `kill`/`join` are effects: the
daemon appends them to its log and does not branch on their outcome.

A run is a list of inputs; `step` refuses an input that the daemon is not
waiting for, so every accepted run is one the daemon can perform.
`Reachable` is the set of states of accepted runs. A run begins at `start`,
where building the Kubernetes client can panic, and otherwise at `init`.
Logging statements are left out; nothing the daemon decides depends on them.
-/

/-- A pod manager's signal to its garbage collector (`GcStatus`). -/
inductive GcStatus where
  | running (pod : Pod)
  | terminated
  deriving Repr, DecidableEq

/-- The answer of `backoff.next_backoff()` after a stream error. -/
inductive BackoffAnswer where
  /-- `Some(duration)`: sleep and read the stream again. -/
  | retryAfter (duration : Nat)
  /-- `None`; `elapsed` is `backoff.get_elapsed_time()`, reported in the error. -/
  | exhausted (elapsed : Nat)
  deriving Repr, DecidableEq

/-- `k8s::watcher::Event<Pod>`. -/
inductive WatchEvent where
  | added (pod : Pod)
  | applied (pod : Pod)
  | restarted (pods : List Pod)
  | deleted (pod : Pod)
  deriving Repr, DecidableEq

/-- One result of `client.try_next().await`. -/
inductive WatchItem where
  /-- `Err(err)`, with the backoff's answer. -/
  | failure (answer : BackoffAnswer)
  /-- `Ok(None)`: Kubernetes closed the stream. -/
  | closed
  /-- `Ok(Some(event))`. -/
  | event (event : WatchEvent)
  deriving Repr, DecidableEq

/-- The health-check branch of the Phase-2 `select!` (`Phase2Event::HealthCheck`). -/
inductive HealthOutcome where
  /-- `Err(RecvError)`: the checker dropped its sender. -/
  | dropped
  /-- `Ok(Err(err))`. -/
  | failed (err : AcmError)
  /-- `Ok(Ok(()))`. -/
  | healthy
  deriving Repr, DecidableEq

/-- What the environment answers to the daemon's next `await`. -/
inductive WatcherInput where
  /-- The stream yields an item (in Phase 2: the `select!` picks the stream). -/
  | item (item : WatchItem)
  /-- The Phase-2 `select!` picks the health check's outcome. -/
  | health (outcome : HealthOutcome)
  /-- The pending send completes: accepted, or refused because its receiver is gone. -/
  | delivered (accepted : Bool)
  deriving Repr, DecidableEq

/-- What the daemon does that others observe. -/
inductive WatcherEffect where
  /-- A send on `gc_status_signal`. -/
  | status (signal : GcStatus)
  /-- A send on the `PodManagerLowerHandle` (`send_result`). -/
  | verdict (result : Except AcmError Pod)
  /-- `ServerCheck::new` spawned a checker for this endpoint. -/
  | spawnCheck (endpoint : String)
  /-- `check.kill().await`. -/
  | killCheck
  /-- `check.join().await`. -/
  | joinCheck
  /-- `kill_pod`: a delete request for the pod. -/
  | deletePod
  deriving Repr, DecidableEq

/-- Where the daemon is in `watch`. -/
inductive WatcherPc where
  /-- The Phase-1 loop. -/
  | phase1
  /-- Awaiting `gc_status_signal.send(GcStatus::Running(..))`. -/
  | announcing
  /-- The Phase-2 loop. -/
  | phase2
  /-- Awaiting `send_result(Ok(pod))`. -/
  | delivering
  /-- The Phase-3 loop. -/
  | phase3
  /-- `watch` has returned. -/
  | returned
  /-- A helper panicked; the task is over. -/
  | panicked
  deriving Repr, DecidableEq

/-- The daemon's state: its locals and the effects it has produced so far. -/
structure Watcher where
  podId : String
  pc : WatcherPc
  /-- The `pod` local: `Pod::default()` until Phase 1 ends. -/
  pod : Pod
  /-- Stream errors since the last `backoff.reset()`. -/
  failures : Nat
  effects : List WatcherEffect
  deriving Repr, DecidableEq

/-- `ServerCheck::new`: the checker's endpoint, or why none could be built. -/
def serverCheck (endpointParses : String → Bool) (pod : Pod) : Except AcmError String := do
  let address ← pod.address
  let uri := "http://" ++ address
  if endpointParses uri then pure uri else throw (.grpcEndpointParsdeError uri)

/-- `ServerCheck::new` fails with an error of `PodExt::address`, or on a URI that does not parse. -/
theorem serverCheck_error {endpointParses : String → Bool} {pod : Pod} {err : AcmError}
    (failed : serverCheck endpointParses pod = .error err) :
    pod.address = .error err ∨ ∃ uri, err = .grpcEndpointParsdeError uri := by
  simp only [serverCheck] at failed
  rcases Pod.bind_eq_error failed with missing | ⟨address, -, failed⟩
  · exact .inl missing
  · split at failed
    · cases failed
    · exact .inr ⟨_, (Except.error.inj failed).symm⟩

namespace Watcher

/-- The daemon as `EventWatcher::new_watcher` spawns it. -/
def init (podId : String) : Watcher where
  podId := podId
  pc := .phase1
  pod := default
  failures := 0
  effects := []

/--
`watch` begins with `client::new()`, which unwraps `kube::Client::try_default()`
and so panics when no client can be built from the process's environment;
otherwise the daemon enters Phase 1. `clientBuilds` says whether the client
can be built. The environment is the same at every call of a run, so the
client that `kill_pod` builds later builds too.
-/
def start (clientBuilds : Bool) (podId : String) : Watcher :=
  if clientBuilds then init podId else { init podId with pc := .panicked }

/-- Append effects to the log. -/
def emit (w : Watcher) (more : List WatcherEffect) : Watcher :=
  { w with effects := w.effects ++ more }

/-- `backoff.reset()`. -/
def reset (w : Watcher) : Watcher :=
  { w with failures := 0 }

/-- The effects of `terminate(err)`: the error verdict, the `Terminated` signal, the pod delete. -/
def teardown (err : AcmError) : List WatcherEffect :=
  [.verdict (.error err), .status .terminated, .deletePod]

/-- `terminate(err)`, after which `watch` returns. -/
def terminate (w : Watcher) (err : AcmError) : Watcher :=
  { w.emit (teardown err) with pc := .returned }

@[simp] theorem emit_pc (w : Watcher) (more : List WatcherEffect) : (w.emit more).pc = w.pc := rfl
@[simp] theorem emit_pod (w : Watcher) (more : List WatcherEffect) : (w.emit more).pod = w.pod := rfl
@[simp] theorem emit_podId (w : Watcher) (more : List WatcherEffect) :
    (w.emit more).podId = w.podId := rfl
@[simp] theorem emit_effects (w : Watcher) (more : List WatcherEffect) :
    (w.emit more).effects = w.effects ++ more := rfl
@[simp] theorem reset_pc (w : Watcher) : w.reset.pc = w.pc := rfl
@[simp] theorem reset_pod (w : Watcher) : w.reset.pod = w.pod := rfl
@[simp] theorem reset_podId (w : Watcher) : w.reset.podId = w.podId := rfl
@[simp] theorem reset_effects (w : Watcher) : w.reset.effects = w.effects := rfl
@[simp] theorem terminate_pc (w : Watcher) (err : AcmError) : (w.terminate err).pc = .returned := rfl
@[simp] theorem terminate_effects (w : Watcher) (err : AcmError) :
    (w.terminate err).effects = w.effects ++ teardown err := rfl

/-- A stream error: sleep and retry, or run `cleanup` and terminate once the backoff gives up. -/
def onFailure (w : Watcher) (cleanup : List WatcherEffect) : BackoffAnswer → Watcher
  | .retryAfter _ => { w with failures := w.failures + 1 }
  | .exhausted elapsed => (w.emit cleanup).terminate (.kubernetesUnresponsive elapsed)

/-- A snapshot on which Phase 1 acts: running, terminated, crashed or failing to pull its image. -/
def decisive (pod : Pod) : Bool :=
  pod.running || pod.terminated || pod.crashed || pod.wasErrImagePull

/-- Phase 1 on an `Applied(p)` snapshot: the `running` / `terminated || crashed` /
`was_err_image_pull` dispatch. -/
def phase1Applied (w : Watcher) (p : Pod) : Watcher :=
  if p.running then
    { w.emit [.status (.running p)] with pc := .announcing, pod := p }
  else if p.terminated || p.crashed then
    w.terminate .podCrashed
  else if p.wasErrImagePull then
    match p.errImagePull with
    | some (.error err) => w.terminate err
    | _ => { w with pc := .panicked }
  else
    w

/-- Everything Phase 1 can do with an `Applied(p)` snapshot. -/
theorem phase1Applied_cases (w : Watcher) (p : Pod) :
    (p.running = true ∧
        w.phase1Applied p = { w.emit [.status (.running p)] with pc := .announcing, pod := p }) ∨
      (p.running = false ∧ (p.terminated || p.crashed) = true ∧
        w.phase1Applied p = w.terminate .podCrashed) ∨
      (p.running = false ∧ (p.terminated || p.crashed) = false ∧ p.wasErrImagePull = true ∧
        ((∃ message, w.phase1Applied p = w.terminate (.errImagePull message)) ∨
          p.errImagePull = none ∧ w.phase1Applied p = { w with pc := .panicked })) ∨
      (decisive p = false ∧ w.phase1Applied p = w) := by
  unfold phase1Applied
  cases running : p.running
  · cases crashed : p.terminated || p.crashed
    · cases imagePull : p.wasErrImagePull
      · simp_all [decisive]
      · refine .inr (.inr (.inl ⟨rfl, rfl, rfl, ?_⟩))
        cases result : p.errImagePull with
        | none =>
            exact .inr ⟨rfl, by simp [result]⟩
        | some returned =>
            obtain ⟨agreesOk, isImagePull⟩ := Pod.errImagePull_returns_iff p returned result
            cases returned with
            | ok => simp_all
            | error err =>
                obtain ⟨message, rfl⟩ := isImagePull err rfl
                exact .inl ⟨message, by simp [result]⟩
    · simp
  · simp

/-- One pass of the Phase-1 loop. -/
def phase1Item (w : Watcher) : WatchItem → Watcher
  | .failure answer => w.onFailure [] answer
  | .closed => w.reset.terminate .unexpectedCloseOfEventStream
  | .event (.added _) => w.reset
  | .event (.deleted _) => w.reset.terminate .podDeleted
  | .event (.restarted _) => w.reset
  | .event (.applied p) => w.reset.phase1Applied p

/-- The stream branch of the Phase-2 `select!`. -/
def phase2Item (w : Watcher) : WatchItem → Watcher
  | .failure answer => w.onFailure [.killCheck] answer
  | .event (.deleted _) => (w.emit [.killCheck]).terminate .podDeleted
  | .event (.restarted _) => (w.emit [.killCheck]).terminate .podRebooted
  | .closed => (w.emit [.killCheck]).terminate .unexpectedCloseOfEventStream
  | .event (.added _) => w.reset
  | .event (.applied _) => w.reset

/-- The health-check branch of the Phase-2 `select!`. -/
def phase2Health (w : Watcher) : HealthOutcome → Watcher
  | .dropped => (w.emit [.joinCheck]).terminate .healthCheckDroppedItsChannel
  | .failed err => (w.emit [.joinCheck]).terminate err
  | .healthy => { w.emit [.joinCheck, .verdict (.ok w.pod)] with pc := .delivering }

/-- One pass of the Phase-3 loop. -/
def phase3Item (w : Watcher) : WatchItem → Watcher
  | .failure answer => w.onFailure [] answer
  | .closed => w.reset.terminate .unexpectedCloseOfEventStream
  | .event (.deleted _) => { w.reset.emit [.status .terminated] with pc := .returned }
  | .event (.restarted _) => w.reset.terminate .podRebooted
  | .event (.added _) => w.reset
  | .event (.applied _) => w.reset

/-- Phase 2 begins: `ServerCheck::new(&pod)`, or terminate with its error. -/
def startCheck (endpointParses : String → Bool) (w : Watcher) : Watcher :=
  match serverCheck endpointParses w.pod with
  | .ok endpoint => { w.emit [.spawnCheck endpoint] with pc := .phase2 }
  | .error err => w.terminate err

/-- The daemon's answer to one input, or `none` when it is not waiting for that input. -/
def step (endpointParses : String → Bool) (w : Watcher) : WatcherInput → Option Watcher
  | .item item =>
      match w.pc with
      | .phase1 => some (w.phase1Item item)
      | .phase2 => some (w.phase2Item item)
      | .phase3 => some (w.phase3Item item)
      | _ => none
  | .health outcome =>
      match w.pc with
      | .phase2 => some (w.phase2Health outcome)
      | _ => none
  | .delivered accepted =>
      match w.pc, accepted with
      | .announcing, true => some (w.startCheck endpointParses)
      | .announcing, false => some (w.terminate (.garbageCollectorUnresponsive w.podId))
      | .delivering, true => some { w with pc := .phase3 }
      | .delivering, false => some { w.emit [.status .terminated, .deletePod] with pc := .returned }
      | _, _ => none

/-- Feed a list of inputs to the daemon; `none` when one of them is refused. -/
def run (endpointParses : String → Bool) (w : Watcher) : List WatcherInput → Option Watcher
  | [] => some w
  | input :: rest =>
      match w.step endpointParses input with
      | some next => next.run endpointParses rest
      | none => none

/-- Everything one step of the daemon can do. -/
theorem step_cases {endpointParses : String → Bool} {w next : Watcher} {input : WatcherInput}
    (stepped : w.step endpointParses input = some next) :
    (∃ item, input = .item item ∧
      (w.pc = .phase1 ∧ next = w.phase1Item item ∨ w.pc = .phase2 ∧ next = w.phase2Item item ∨
        w.pc = .phase3 ∧ next = w.phase3Item item)) ∨
    (∃ outcome, input = .health outcome ∧ w.pc = .phase2 ∧ next = w.phase2Health outcome) ∨
    (w.pc = .announcing ∧ input = .delivered true ∧ next = w.startCheck endpointParses) ∨
    (w.pc = .announcing ∧ input = .delivered false ∧
      next = w.terminate (.garbageCollectorUnresponsive w.podId)) ∨
    (w.pc = .delivering ∧ input = .delivered true ∧ next = { w with pc := .phase3 }) ∨
    (w.pc = .delivering ∧ input = .delivered false ∧
      next = { w.emit [.status .terminated, .deletePod] with pc := .returned }) := by
  rcases w with ⟨podId, pc, pod, failures, effects⟩
  cases input with
  | item item =>
      refine .inl ⟨item, rfl, ?_⟩
      cases pc <;> simp only [step, Option.some.injEq, reduceCtorEq] at stepped <;> subst next
      exacts [.inl ⟨rfl, rfl⟩, .inr (.inl ⟨rfl, rfl⟩), .inr (.inr ⟨rfl, rfl⟩)]
  | health outcome =>
      cases pc <;> simp only [step, Option.some.injEq, reduceCtorEq] at stepped
      exact .inr (.inl ⟨outcome, rfl, rfl, stepped.symm⟩)
  | delivered accepted =>
      cases pc <;> cases accepted <;> simp only [step, Option.some.injEq, reduceCtorEq] at stepped <;>
        subst next
      exacts [.inr (.inr (.inr (.inl ⟨rfl, rfl, rfl⟩))), .inr (.inr (.inl ⟨rfl, rfl, rfl⟩)),
        .inr (.inr (.inr (.inr (.inr ⟨rfl, rfl, rfl⟩)))), .inr (.inr (.inr (.inr (.inl ⟨rfl, rfl, rfl⟩))))]

end Watcher

end ConnectorManager
