import ConnectorManager.EventWatcher

namespace ConnectorManager

/-!
# The effect logs of the event watcher

Every accepted run of `watch` produces one of a handful of effect logs, and
which one is fixed by where the daemon is. `Consistent` says so for each
program point; `Finished` lists the six logs a daemon that has returned can
have left: `terminate` in Phase 1, after `Running` was sent, in Phase 2
after killing or joining the checker, after an undeliverable `Ok`, in
Phase 3, and the normal end on `Deleted` in Phase 3.

`consistent_step` is the step lemma and `consistent_run` the run lemma. The
exit protocol of a returned daemon (`exitProtocol_of_finished`) and the
shape of every verdict it sends are read off `Finished`.
-/

namespace Watcher

variable (endpointParses : String → Bool)

/-- The log once `ServerCheck::new` has spawned a checker for `pod` at `endpoint`. -/
def checking (pod : Pod) (endpoint : String) : List WatcherEffect :=
  [.status (.running pod), .spawnCheck endpoint]

/-- The log once that checker has reported `Ok(())` and `Ok(pod)` was sent. -/
def healthy (pod : Pod) (endpoint : String) : List WatcherEffect :=
  checking pod endpoint ++ [.joinCheck, .verdict (.ok pod)]

/-- `pod` ended Phase 1 as a running pod, and its checker was built for `endpoint`. -/
def Checked (pod : Pod) (endpoint : String) : Prop :=
  pod.running = true ∧ serverCheck endpointParses pod = .ok endpoint

/-- The logs a returned daemon can have left. -/
inductive Finished : List WatcherEffect → Prop where
  /-- `terminate` in Phase 1. -/
  | phase1 (err : AcmError) :
      Finished (teardown err)
  /-- `terminate` after `Running(pod)` was sent: the GC refused it, or no checker was built. -/
  | announced (pod : Pod) (err : AcmError) (running : pod.running = true) :
      Finished (.status (.running pod) :: teardown err)
  /-- `terminate` in Phase 2, after `stop`, a `kill` or a `join` of the checker. -/
  | checked (pod : Pod) (endpoint : String) (stop : WatcherEffect) (err : AcmError)
      (spawned : Checked endpointParses pod endpoint)
      (stops : stop = .killCheck ∨ stop = .joinCheck) :
      Finished (checking pod endpoint ++ stop :: teardown err)
  /-- The `Ok(pod)` verdict found no receiver. -/
  | undelivered (pod : Pod) (endpoint : String) (spawned : Checked endpointParses pod endpoint) :
      Finished (healthy pod endpoint ++ [.status .terminated, .deletePod])
  /-- `terminate` in Phase 3. -/
  | phase3 (pod : Pod) (endpoint : String) (err : AcmError)
      (spawned : Checked endpointParses pod endpoint) :
      Finished (healthy pod endpoint ++ teardown err)
  /-- `Deleted` in Phase 3: the normal end of a lease. -/
  | deleted (pod : Pod) (endpoint : String) (spawned : Checked endpointParses pod endpoint) :
      Finished (healthy pod endpoint ++ [.status .terminated])

/-- The effect log that each program point of `watch` can have produced. -/
def Consistent (w : Watcher) : Prop :=
  match w.pc with
  | .phase1 | .panicked => w.effects = []
  | .announcing => w.pod.running = true ∧ w.effects = [.status (.running w.pod)]
  | .phase2 =>
      ∃ endpoint, Checked endpointParses w.pod endpoint ∧ w.effects = checking w.pod endpoint
  | .delivering | .phase3 =>
      ∃ endpoint, Checked endpointParses w.pod endpoint ∧ w.effects = healthy w.pod endpoint
  | .returned => Finished endpointParses w.effects

variable {endpointParses}

/-- Phase 1 keeps an empty log, or leaves with `Running(p)` sent, a Phase-1 teardown, or a panic. -/
theorem consistent_phase1Item
    {w : Watcher}
    (phase : w.pc = .phase1)
    (log : w.effects = [])
    (item : WatchItem) :
    Consistent endpointParses (w.phase1Item item) := by
  rcases item with answer | _ | event
  · cases answer <;> simp [phase1Item, onFailure, Consistent, phase, log, Finished.phase1]
  · simp [phase1Item, Consistent, log, Finished.phase1]
  · cases event with
    | applied p =>
        rcases phase1Applied_cases w.reset p with
          ⟨_, next⟩ | ⟨-, -, next⟩ | ⟨-, -, -, ⟨message, next⟩ | ⟨-, next⟩⟩ | ⟨-, next⟩ <;>
          simp_all [phase1Item, Consistent, Finished.phase1]
    | _ => simp [phase1Item, Consistent, phase, log, Finished.phase1]

/-- Phase 2's stream branch keeps the checking log or tears down after killing the checker. -/
theorem consistent_phase2Item
    {w : Watcher}
    {endpoint : String}
    (phase : w.pc = .phase2)
    (spawned : Checked endpointParses w.pod endpoint)
    (log : w.effects = checking w.pod endpoint)
    (item : WatchItem) :
    Consistent endpointParses (w.phase2Item item) := by
  have killed (err : AcmError) :
      Finished endpointParses (checking w.pod endpoint ++ .killCheck :: teardown err) :=
    .checked _ _ _ _ spawned (.inl rfl)
  have stays : ∃ other, Checked endpointParses w.pod other ∧
      checking w.pod endpoint = checking w.pod other := ⟨endpoint, spawned, rfl⟩
  rcases item with answer | _ | event
  · cases answer <;> simp_all [phase2Item, onFailure, Consistent]
  · simpa [phase2Item, Consistent, log] using killed _
  · cases event <;> simp_all [phase2Item, Consistent]

/-- Phase 2's health branch tears down after joining the checker, or sends `Ok(pod)`. -/
theorem consistent_phase2Health
    {w : Watcher}
    {endpoint : String}
    (spawned : Checked endpointParses w.pod endpoint)
    (log : w.effects = checking w.pod endpoint)
    (outcome : HealthOutcome) :
    Consistent endpointParses (w.phase2Health outcome) := by
  have joined (err : AcmError) :
      Finished endpointParses (checking w.pod endpoint ++ .joinCheck :: teardown err) :=
    .checked _ _ _ _ spawned (.inr rfl)
  have delivers : ∃ other, Checked endpointParses w.pod other ∧
      checking w.pod endpoint = checking w.pod other := ⟨endpoint, spawned, rfl⟩
  cases outcome <;> simp_all [phase2Health, Consistent, healthy]

/-- Phase 3 keeps the healthy log, or ends with a Phase-3 teardown or the `Deleted` log. -/
theorem consistent_phase3Item
    {w : Watcher}
    {endpoint : String}
    (phase : w.pc = .phase3)
    (spawned : Checked endpointParses w.pod endpoint)
    (log : w.effects = healthy w.pod endpoint)
    (item : WatchItem) :
    Consistent endpointParses (w.phase3Item item) := by
  have phase3 (err : AcmError) := Finished.phase3 _ _ err spawned
  have stays : ∃ other, Checked endpointParses w.pod other ∧
      healthy w.pod endpoint = healthy w.pod other := ⟨endpoint, spawned, rfl⟩
  rcases item with answer | _ | event
  · cases answer <;> simp_all [phase3Item, onFailure, Consistent]
  · simp_all [phase3Item, Consistent]
  · cases event <;> simp_all [phase3Item, Consistent, Finished.deleted _ _ spawned]

/-- Leaving `announcing`: Phase 2 with a spawned checker, or a teardown after `Running`. -/
theorem consistent_startCheck
    {w : Watcher}
    (running : w.pod.running = true)
    (log : w.effects = [.status (.running w.pod)]) :
    Consistent endpointParses (w.startCheck endpointParses) := by
  unfold startCheck
  cases check : serverCheck endpointParses w.pod with
  | ok endpoint =>
      exact ⟨endpoint, ⟨running, check⟩, by simp [log, checking]⟩
  | error err =>
      have announced : Finished endpointParses (.status (.running w.pod) :: teardown err) :=
        .announced _ err running
      simpa [Consistent, log] using announced

/-- The step lemma: every accepted input keeps the log consistent with the program point. -/
theorem consistent_step
    {w next : Watcher}
    {input : WatcherInput}
    (consistent : Consistent endpointParses w)
    (stepped : w.step endpointParses input = some next) :
    Consistent endpointParses next := by
  rcases step_cases stepped with ⟨item, -, ⟨phase, rfl⟩ | ⟨phase, rfl⟩ | ⟨phase, rfl⟩⟩ | ⟨outcome, -, phase, rfl⟩ |
    ⟨phase, -, rfl⟩ | ⟨phase, -, rfl⟩ | ⟨phase, -, rfl⟩ | ⟨phase, -, rfl⟩ <;>
    simp only [Consistent, phase] at consistent
  · exact consistent_phase1Item phase consistent item
  · obtain ⟨endpoint, spawned, log⟩ := consistent
    exact consistent_phase2Item phase spawned log item
  · obtain ⟨endpoint, spawned, log⟩ := consistent
    exact consistent_phase3Item phase spawned log item
  · obtain ⟨endpoint, spawned, log⟩ := consistent
    exact consistent_phase2Health spawned log outcome
  · exact consistent_startCheck consistent.1 consistent.2
  · obtain ⟨running, log⟩ := consistent
    simpa [Consistent, log] using Finished.announced _ (.garbageCollectorUnresponsive w.podId) running
  · exact consistent
  · obtain ⟨endpoint, spawned, log⟩ := consistent
    simpa [Consistent, log] using Finished.undelivered _ _ spawned

/-- The run lemma: every accepted run from a consistent state ends in a consistent state. -/
theorem consistent_run
    {w final : Watcher}
    {inputs : List WatcherInput}
    (consistent : Consistent endpointParses w)
    (ran : w.run endpointParses inputs = some final) :
    Consistent endpointParses final := by
  induction inputs generalizing w with
  | nil =>
      simp only [run, Option.some.injEq] at ran
      exact ran ▸ consistent
  | cons input rest inductionHypothesis =>
      simp only [run] at ran
      split at ran
      · exact inductionHypothesis (consistent_step consistent ‹_›) ran
      · cases ran

/-- A fresh daemon has produced nothing. -/
theorem consistent_init (podId : String) : Consistent endpointParses (init podId) := rfl

/-- Running a concatenation of inputs runs the first part, then the second. -/
theorem run_append
    (w : Watcher)
    (first second : List WatcherInput) :
    w.run endpointParses (first ++ second) =
      (w.run endpointParses first).bind fun middle => middle.run endpointParses second := by
  induction first generalizing w with
  | nil =>
      rfl
  | cons input rest inductionHypothesis =>
      simp only [List.cons_append, run]
      split <;> simp [inductionHypothesis]

/-- The last input of a run is one more step from the state its prefix reached. -/
theorem run_snoc
    (w : Watcher)
    (inputs : List WatcherInput)
    (input : WatcherInput) :
    w.run endpointParses (inputs ++ [input]) =
      (w.run endpointParses inputs).bind fun middle => middle.step endpointParses input := by
  rw [run_append]
  congr 1
  funext middle
  simp only [run]
  split <;> simp_all

/-- A returned or panicked daemon accepts no input. -/
theorem step_of_over
    {w : Watcher}
    (over : w.pc = .returned ∨ w.pc = .panicked)
    (input : WatcherInput) :
    w.step endpointParses input = none := by
  rcases w with ⟨podId, pc, pod, failures, effects⟩
  rcases over with over | over <;> subst over <;> cases input <;> rfl

/--
A run that has left Phase 1 has a last input, accepted by a daemon that was
neither returned nor panicked.
-/
theorem run_last_step
    {podId : String}
    {inputs : List WatcherInput}
    {w : Watcher}
    (ran : (init podId).run endpointParses inputs = some w)
    (moved : w.pc ≠ .phase1) :
    ∃ pre input before,
      inputs = pre ++ [input] ∧
        (init podId).run endpointParses pre = some before ∧
        before.pc ≠ .returned ∧
        before.pc ≠ .panicked ∧
        before.step endpointParses input = some w := by
  rcases List.eq_nil_or_concat inputs with rfl | ⟨pre, input, rfl⟩
  · simp only [run, Option.some.injEq] at ran
    subst w
    exact absurd rfl moved
  · rw [List.concat_eq_append, run_snoc] at ran
    rw [List.concat_eq_append]
    cases reached : (init podId).run endpointParses pre with
    | none =>
        simp [reached] at ran
    | some before =>
        simp only [reached, Option.bind_some] at ran
        refine ⟨pre, input, before, rfl, reached, fun over => ?_, fun over => ?_, ran⟩
        · simp [step_of_over (.inl over)] at ran
        · simp [step_of_over (.inr over)] at ran

/-- The status signals of a log, in order. -/
def statusSignals (effects : List WatcherEffect) : List GcStatus :=
  effects.filterMap fun
    | .status signal => some signal
    | _ => none

/-- The verdicts of a log, in order. -/
def verdicts (effects : List WatcherEffect) : List (Except AcmError Pod) :=
  effects.filterMap fun
    | .verdict result => some result
    | _ => none

/-- The verdicts of two logs in a row. -/
theorem verdicts_append (first second : List WatcherEffect) :
    verdicts (first ++ second) = verdicts first ++ verdicts second :=
  List.filterMap_append _ _ _

/-- What a daemon that has returned must have done. -/
structure ExitProtocol (effects : List WatcherEffect) : Prop where
  /-- At most one `Running`, then exactly one `Terminated`, and no signal after it. -/
  signals :
    statusSignals effects = [.terminated] ∨
      ∃ pod, statusSignals effects = [.running pod, .terminated]
  /-- A verdict went to the lower handle before `Terminated`. -/
  verdictFirst :
    ∃ earlier result later,
      effects = earlier ++ .verdict result :: later ∧ .status .terminated ∈ later
  /-- A spawned checker was killed or joined. -/
  checkerStopped :
    ∀ endpoint, .spawnCheck endpoint ∈ effects →
      .killCheck ∈ effects ∨ .joinCheck ∈ effects
  /-- One pod delete, except on the `Deleted` end of Phase 3, which issues none. -/
  deletes :
    effects.count .deletePod = 1 ∨
      effects.count .deletePod = 0 ∧
        ∃ pod endpoint, effects = healthy pod endpoint ++ [.status .terminated]

/-- Every log a returned daemon can leave follows the exit protocol. -/
theorem exitProtocol_of_finished
    {effects : List WatcherEffect}
    (finished : Finished endpointParses effects) :
    ExitProtocol effects := by
  cases finished with
  | phase1 err =>
      exact ⟨.inl rfl, ⟨[], _, _, rfl, by simp⟩, by simp [teardown], .inl rfl⟩
  | announced pod err running =>
      exact ⟨.inr ⟨pod, rfl⟩, ⟨[_], _, _, rfl, by simp⟩, by simp [teardown], .inl rfl⟩
  | checked pod endpoint stop err spawned stops =>
      rcases stops with rfl | rfl <;>
        exact ⟨.inr ⟨pod, rfl⟩, ⟨[_, _, _], _, _, rfl, by simp⟩, by simp, .inl rfl⟩
  | undelivered pod endpoint spawned =>
      exact ⟨.inr ⟨pod, rfl⟩, ⟨[_, _, _], _, _, rfl, by simp⟩, by simp [healthy], .inl rfl⟩
  | phase3 pod endpoint err spawned =>
      exact ⟨.inr ⟨pod, rfl⟩, ⟨[_, _, _, _], .error err, [_, _], rfl, by simp⟩, by simp [healthy],
        .inl rfl⟩
  | deleted pod endpoint spawned =>
      exact ⟨.inr ⟨pod, rfl⟩, ⟨[_, _, _], _, _, rfl, by simp⟩, by simp [healthy],
        .inr ⟨rfl, pod, endpoint, rfl⟩⟩

/-- A returned daemon sent one verdict, or `Ok(pod)` and then one error in Phase 3. -/
theorem verdicts_of_finished
    {effects : List WatcherEffect}
    (finished : Finished endpointParses effects) :
    (∃ result, verdicts effects = [result]) ∨ ∃ pod err, verdicts effects = [.ok pod, .error err] := by
  cases finished with
  | checked _ _ _ _ _ stops => rcases stops with rfl | rfl <;> exact .inl ⟨_, rfl⟩
  | phase3 pod _ err => exact .inr ⟨pod, err, rfl⟩
  | _ => exact .inl ⟨_, rfl⟩

/-- The log of a run of `watch` that returned is one of the `Finished` logs. -/
theorem finished_of_run
    {podId : String}
    {inputs : List WatcherInput}
    {w : Watcher}
    (ran : (init podId).run endpointParses inputs = some w)
    (returned : w.pc = .returned) :
    Finished endpointParses w.effects := by
  have consistent := consistent_run (consistent_init podId) ran
  simpa only [Consistent, returned] using consistent

/-- Every way out of Phase 1 that returns issues the pod delete. -/
theorem deletePod_of_phase1Item
    {w : Watcher}
    {item : WatchItem}
    (phase : w.pc = .phase1)
    (returned : (w.phase1Item item).pc = .returned) :
    .deletePod ∈ (w.phase1Item item).effects := by
  rcases item with (_ | _) | _ | (_ | p | _ | _) <;>
    simp_all [phase1Item, onFailure, teardown]
  rcases phase1Applied_cases w.reset p with
    ⟨-, next⟩ | ⟨-, -, next⟩ | ⟨-, -, -, ⟨message, next⟩ | ⟨-, next⟩⟩ | ⟨-, next⟩ <;>
    simp_all [teardown]

/-- Every way out of Phase 2 that returns issues the pod delete. -/
theorem deletePod_of_phase2
    {w : Watcher}
    (phase : w.pc = .phase2) :
    (∀ item, (w.phase2Item item).pc = .returned → .deletePod ∈ (w.phase2Item item).effects) ∧
      ∀ outcome, (w.phase2Health outcome).pc = .returned →
        .deletePod ∈ (w.phase2Health outcome).effects := by
  constructor
  · intro item returned
    rcases item with (_ | _) | _ | (_ | _ | _ | _) <;>
      simp_all [phase2Item, onFailure, teardown]
  · intro outcome returned
    cases outcome <;> simp_all [phase2Health, teardown]

/-- The only way out of Phase 3 without a pod delete is a `Deleted` item. -/
theorem deletePod_of_phase3Item
    {w : Watcher}
    {item : WatchItem}
    (phase : w.pc = .phase3)
    (returned : (w.phase3Item item).pc = .returned) :
    .deletePod ∈ (w.phase3Item item).effects ∨ ∃ pod, item = .event (.deleted pod) := by
  rcases item with (_ | _) | _ | (_ | _ | _ | _) <;>
    simp_all [phase3Item, onFailure, teardown]

/-- A step that makes `watch` return issues the pod delete, unless it is `Deleted` in Phase 3. -/
theorem deletePod_of_returning
    {w next : Watcher}
    {input : WatcherInput}
    (stepped : w.step endpointParses input = some next)
    (returned : next.pc = .returned) :
    .deletePod ∈ next.effects ∨
      w.pc = .phase3 ∧ ∃ pod, input = .item (.event (.deleted pod)) := by
  rcases w with ⟨podId, pc, pod, failures, effects⟩
  cases input with
  | item item =>
      cases pc <;> simp only [step, Option.some.injEq, reduceCtorEq] at stepped <;> subst next
      · exact .inl (deletePod_of_phase1Item rfl returned)
      · exact .inl ((deletePod_of_phase2 rfl).1 item returned)
      · rcases deletePod_of_phase3Item rfl returned with deleted | ⟨deletedPod, rfl⟩
        · exact .inl deleted
        · exact .inr ⟨rfl, deletedPod, rfl⟩
  | health outcome =>
      cases pc <;> simp only [step, Option.some.injEq, reduceCtorEq] at stepped
      subst next
      exact .inl ((deletePod_of_phase2 rfl).2 outcome returned)
  | delivered accepted =>
      left
      cases pc <;> cases accepted <;>
        simp only [step, Option.some.injEq, reduceCtorEq] at stepped <;> subst next <;>
        simp_all [startCheck, teardown]
      split at returned <;> simp_all [teardown]

/--
Every run of `watch` that returns follows the exit protocol, and issues no
pod delete exactly when its last input was a `Deleted` item in Phase 3.
-/
theorem watch_exitProtocol
    (endpointParses : String → Bool)
    (podId : String)
    (inputs : List WatcherInput)
    (w : Watcher)
    (ran : (init podId).run endpointParses inputs = some w)
    (returned : w.pc = .returned) :
    ExitProtocol w.effects ∧
      (w.effects.count .deletePod = 0 ↔
        ∃ pre pod before,
          inputs = pre ++ [.item (.event (.deleted pod))] ∧
            (init podId).run endpointParses pre = some before ∧
            before.pc = .phase3) := by
  refine ⟨exitProtocol_of_finished (finished_of_run ran returned), fun noDelete => ?_, ?_⟩
  · obtain ⟨pre, input, before, rfl, reached, -, -, stepped⟩ :=
      run_last_step ran (by simp [returned])
    rcases deletePod_of_returning stepped returned with deleted | ⟨phase, pod, rfl⟩
    · exact absurd (List.count_pos_iff.mpr deleted) (by omega)
    · exact ⟨pre, pod, before, rfl, reached, phase⟩
  · rintro ⟨pre, pod, before, rfl, reached, phase⟩
    obtain ⟨endpoint, -, log⟩ : ∃ endpoint, Checked endpointParses before.pod endpoint ∧
        before.effects = healthy before.pod endpoint := by
      simpa only [Consistent, phase] using consistent_run (consistent_init podId) reached
    rw [run_snoc, reached, Option.some_bind] at ran
    simp only [step, phase, phase3Item, Option.some.injEq] at ran
    subst ran
    simp [emit, reset, log, healthy, checking]

/-- Where `watch` ends when Kubernetes closes the stream at once. -/
def closedWatcher : Watcher :=
  ((init "pod").run (fun _ => true) [.item .closed]).getD (init "pod")

theorem watch_exitProtocol_on_closed_stream :
    closedWatcher.pc = .returned ∧ ExitProtocol closedWatcher.effects ∧
      (closedWatcher.effects.count .deletePod = 0 ↔
        ∃ pre pod before,
          [WatcherInput.item .closed] = pre ++ [.item (.event (.deleted pod))] ∧
            (init "pod").run (fun _ => true) pre = some before ∧
            before.pc = .phase3) :=
  have ran : (init "pod").run (fun _ => true) [.item .closed] = some closedWatcher := rfl
  ⟨rfl, watch_exitProtocol (fun _ => true) "pod" [.item .closed] closedWatcher ran rfl⟩

/-- The only step that panics is Phase 1 meeting a snapshot on which `err_image_pull` panics. -/
theorem panic_of_step
    {w next : Watcher}
    {input : WatcherInput}
    (stepped : w.step endpointParses input = some next)
    (panicked : next.pc = .panicked) :
    ∃ pod,
      w.pc = .phase1 ∧
        input = .item (.event (.applied pod)) ∧
        pod.wasErrImagePull = true ∧
        pod.errImagePull = none := by
  rcases step_cases stepped with ⟨item, rfl, ⟨phase, rfl⟩ | ⟨phase, rfl⟩ | ⟨phase, rfl⟩⟩ | ⟨outcome, -, -, rfl⟩ |
    ⟨-, -, rfl⟩ | ⟨-, -, rfl⟩ | ⟨-, -, rfl⟩ | ⟨-, -, rfl⟩
  · rcases item with (_ | _) | _ | (_ | p | _ | _) <;> simp_all [phase1Item, onFailure]
    rcases phase1Applied_cases w.reset p with
      ⟨-, next⟩ | ⟨-, -, next⟩ | ⟨-, -, imagePull, ⟨message, next⟩ | ⟨panics, next⟩⟩ | ⟨-, next⟩ <;>
      simp_all
  · rcases item with (_ | _) | _ | (_ | _ | _ | _) <;> simp_all [phase2Item, onFailure]
  · rcases item with (_ | _) | _ | (_ | _ | _ | _) <;> simp_all [phase3Item, onFailure]
  · cases outcome <;> simp_all [phase2Health]
  · simp only [startCheck] at panicked
    split at panicked <;> simp_all
  all_goals simp_all

/--
`watch` ends in a panic only where `client::new()` cannot build a client,
before any input, or on the `Applied` snapshot that ends its run, in
Phase 1, when `was_err_image_pull` holds and `err_image_pull` panics; it has
then sent nothing at all.
-/
theorem watch_panics_only_in_errImagePull
    (endpointParses : String → Bool)
    (clientBuilds : Bool)
    (podId : String)
    (inputs : List WatcherInput)
    (w : Watcher)
    (ran : (start clientBuilds podId).run endpointParses inputs = some w)
    (panicked : w.pc = .panicked) :
    w.effects = [] ∧
      (clientBuilds = false ∧ inputs = [] ∨
        clientBuilds = true ∧
          ∃ pre pod,
            inputs = pre ++ [.item (.event (.applied pod))] ∧
              pod.wasErrImagePull = true ∧
              pod.errImagePull = none) := by
  cases clientBuilds with
  | false =>
    cases inputs with
    | nil =>
      cases ran
      exact ⟨rfl, .inl ⟨rfl, rfl⟩⟩
    | cons input rest =>
      have refused := @step_of_over endpointParses { init podId with pc := .panicked } (.inr rfl) input
      simp [start, run, refused] at ran
  | true =>
    have consistent := consistent_run (consistent_init podId) ran
    simp only [Consistent, panicked] at consistent
    obtain ⟨pre, input, before, rfl, -, -, -, stepped⟩ :=
      run_last_step ran (by simp [panicked])
    obtain ⟨pod, -, rfl, imagePull, panics⟩ := panic_of_step stepped panicked
    exact ⟨consistent, .inr ⟨rfl, pre, pod, rfl, imagePull, panics⟩⟩

/-- Where `watch` ends on an `Applied` snapshot waiting on `ErrImagePull` without a message. -/
def imagePullPanic : Watcher :=
  ((init "pod").run (fun _ => true) [.item (.event (.applied Pod.imagePullWithoutMessage))]).getD (init "pod")

theorem watch_panics_only_in_errImagePull_without_message :
    imagePullPanic.pc = .panicked ∧ imagePullPanic.effects = [] ∧
      (true = false ∧ [WatcherInput.item (.event (.applied Pod.imagePullWithoutMessage))] = [] ∨
        true = true ∧
          ∃ pre pod,
            [WatcherInput.item (.event (.applied Pod.imagePullWithoutMessage))] =
                pre ++ [.item (.event (.applied pod))] ∧
              pod.wasErrImagePull = true ∧
              pod.errImagePull = none) :=
  have ran :
      (start true "pod").run (fun _ => true) [.item (.event (.applied Pod.imagePullWithoutMessage))] =
        some imagePullPanic := rfl
  ⟨rfl, watch_panics_only_in_errImagePull (fun _ => true) true "pod" _ imagePullPanic ran rfl⟩

/--
The run of a single `Applied` snapshot waiting on `ErrImagePull` without a
message: `watch` panics in `err_image_pull` having sent no verdict, no
`Terminated` signal and no pod delete.
-/
theorem watch_panics_on_imagePull_without_message
    (endpointParses : String → Bool)
    (podId : String) :
    ((init podId).run endpointParses
        [.item (.event (.applied Pod.imagePullWithoutMessage))]).map
      (fun w => (w.pc, w.effects)) = some (.panicked, []) :=
  rfl

end Watcher

end ConnectorManager
