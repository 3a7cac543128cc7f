import ConnectorManager.WatcherProtocol

namespace ConnectorManager

/-!
# What a run's inputs say about the watcher's verdicts

The effect logs of `WatcherProtocol` fix what the daemon has sent; this
module ties those sends back to the inputs that caused them. `History`
records, for a run's inputs, which `Applied` snapshot ended Phase 1, that
Phase 2 was entered after the `Running` signal was accepted, and that the
Phase-2 `select!` picked the health check's `Ok(())` before any terminal
stream item. It is proved by induction on the run's last input
(`history_run`), from one inversion lemma per program point.

`healthyVerdict_sound` assembles the soundness of the `Ok(pod)` verdict
that `/wait` hands to a client.
-/

namespace Watcher

variable {endpointParses : String → Bool}

/-- A stream item after which the Phase-2 loop goes on: a retried error, `Added` or `Applied`. -/
def nonTerminalItem : WatcherInput → Bool
  | .item (.failure (.retryAfter _)) => true
  | .item (.event (.added _)) => true
  | .item (.event (.applied _)) => true
  | _ => false

variable (endpointParses)

/-- The inputs so far are a Phase-1 run followed by the `Applied(pod)` that ended Phase 1. -/
def EndedPhase1 (podId : String) (inputs : List WatcherInput) (pod : Pod) : Prop :=
  ∃ pre before,
    inputs = pre ++ [.item (.event (.applied pod))] ∧
      (init podId).run endpointParses pre = some before ∧
      before.pc = .phase1

/-- Phase 1 ended with `pod`, `Running(pod)` was accepted, and only non-terminal items followed. -/
def InPhase2 (podId : String) (inputs : List WatcherInput) (pod : Pod) : Prop :=
  ∃ pre mid,
    inputs = pre ++ .delivered true :: mid ∧
      EndedPhase1 endpointParses podId pre pod ∧
      ∀ input ∈ mid, nonTerminalItem input

/-- In Phase 2 for `pod`, the `select!` picked the health check's `Ok(())`. -/
def HealthyAt (podId : String) (inputs : List WatcherInput) (pod : Pod) : Prop :=
  ∃ pre post,
    inputs = pre ++ .health .healthy :: post ∧
      InPhase2 endpointParses podId pre pod

/-- What the inputs of a run say about the state it reached. -/
structure History (podId : String) (inputs : List WatcherInput) (w : Watcher) : Prop where
  announcing : w.pc = .announcing → EndedPhase1 endpointParses podId inputs w.pod
  phase2 : w.pc = .phase2 → InPhase2 endpointParses podId inputs w.pod
  healthy : ∀ pod, .verdict (.ok pod) ∈ w.effects → HealthyAt endpointParses podId inputs pod

variable {endpointParses}

/-- Only Phase 1, on an `Applied` snapshot of a running pod, reaches `announcing`. -/
theorem announcing_of_step
    {w next : Watcher}
    {input : WatcherInput}
    (stepped : w.step endpointParses input = some next)
    (announcing : next.pc = .announcing) :
    w.pc = .phase1 ∧ input = .item (.event (.applied next.pod)) := by
  rcases step_cases stepped with ⟨item, rfl, ⟨phase, rfl⟩ | ⟨phase, rfl⟩ | ⟨phase, rfl⟩⟩ |
    ⟨outcome, rfl, phase, rfl⟩ | ⟨phase, rfl, rfl⟩ | ⟨phase, rfl, rfl⟩ | ⟨phase, rfl, rfl⟩ | ⟨phase, rfl, rfl⟩
  · rcases item with (_ | _) | _ | (_ | p | _ | _) <;> simp_all [phase1Item, onFailure]
    rcases phase1Applied_cases w.reset p with
      ⟨_, next⟩ | ⟨-, -, next⟩ | ⟨-, -, -, ⟨message, next⟩ | ⟨-, next⟩⟩ | ⟨-, next⟩ <;> simp_all
  · rcases item with (_ | _) | _ | (_ | _ | _ | _) <;> simp_all [phase2Item, onFailure]
  · rcases item with (_ | _) | _ | (_ | _ | _ | _) <;> simp_all [phase3Item, onFailure]
  · cases outcome <;> simp_all [phase2Health]
  · simp only [startCheck] at announcing
    split at announcing <;> simp_all
  all_goals simp_all

/--
Phase 2 is reached from `announcing` when `Running` was accepted, and kept
only by a non-terminal stream item; the pod never changes on the way.
-/
theorem phase2_of_step
    {w next : Watcher}
    {input : WatcherInput}
    (stepped : w.step endpointParses input = some next)
    (phase2 : next.pc = .phase2) :
    next.pod = w.pod ∧
      (w.pc = .announcing ∧ input = .delivered true ∨
        w.pc = .phase2 ∧ nonTerminalItem input) := by
  rcases step_cases stepped with ⟨item, rfl, ⟨phase, rfl⟩ | ⟨phase, rfl⟩ | ⟨phase, rfl⟩⟩ |
    ⟨outcome, rfl, phase, rfl⟩ | ⟨phase, rfl, rfl⟩ | ⟨phase, rfl, rfl⟩ | ⟨phase, rfl, rfl⟩ | ⟨phase, rfl, rfl⟩
  · rcases item with (_ | _) | _ | (_ | p | _ | _) <;> simp_all [phase1Item, onFailure]
    rcases phase1Applied_cases w.reset p with
      ⟨_, next⟩ | ⟨-, -, next⟩ | ⟨-, -, -, ⟨message, next⟩ | ⟨-, next⟩⟩ | ⟨-, next⟩ <;> simp_all
  · rcases item with (_ | _) | _ | (_ | _ | _ | _) <;> simp_all [phase2Item, onFailure, nonTerminalItem]
  · rcases item with (_ | _) | _ | (_ | _ | _ | _) <;> simp_all [phase3Item, onFailure]
  · cases outcome <;> simp_all [phase2Health]
  · simp only [startCheck] at phase2 ⊢
    split at phase2 <;> simp_all
  all_goals simp_all

/-- The only step that sends a new `Ok(pod)` is the health check's `Ok(())` in Phase 2. -/
theorem okVerdict_of_step
    {w next : Watcher}
    {input : WatcherInput}
    {pod : Pod}
    (stepped : w.step endpointParses input = some next)
    (sent : .verdict (.ok pod) ∈ next.effects) :
    .verdict (.ok pod) ∈ w.effects ∨
      w.pc = .phase2 ∧ input = .health .healthy ∧ pod = w.pod := by
  rcases step_cases stepped with ⟨item, rfl, ⟨phase, rfl⟩ | ⟨phase, rfl⟩ | ⟨phase, rfl⟩⟩ |
    ⟨outcome, rfl, phase, rfl⟩ | ⟨phase, rfl, rfl⟩ | ⟨phase, rfl, rfl⟩ | ⟨phase, rfl, rfl⟩ | ⟨phase, rfl, rfl⟩
  · rcases item with (_ | _) | _ | (_ | p | _ | _) <;> simp_all [phase1Item, onFailure, teardown]
    rcases phase1Applied_cases w.reset p with
      ⟨_, next⟩ | ⟨-, -, next⟩ | ⟨-, -, -, ⟨message, next⟩ | ⟨-, next⟩⟩ | ⟨-, next⟩ <;> simp_all [teardown]
  · rcases item with (_ | _) | _ | (_ | _ | _ | _) <;> simp_all [phase2Item, onFailure, teardown]
  · rcases item with (_ | _) | _ | (_ | _ | _ | _) <;> simp_all [phase3Item, onFailure, teardown]
  · cases outcome <;> simp_all [phase2Health, teardown, eq_comm]
  · simp only [startCheck] at sent
    split at sent <;> simp_all [teardown]
  all_goals simp_all [teardown]

/-- The history of one more input, from the history of the inputs before it. -/
theorem history_step
    {podId : String}
    {inputs : List WatcherInput}
    {input : WatcherInput}
    {w next : Watcher}
    (ran : (init podId).run endpointParses inputs = some w)
    (history : History endpointParses podId inputs w)
    (stepped : w.step endpointParses input = some next) :
    History endpointParses podId (inputs ++ [input]) next := by
  constructor
  · intro announcing
    obtain ⟨phase1, rfl⟩ := announcing_of_step stepped announcing
    exact ⟨inputs, w, rfl, ran, phase1⟩
  · intro phase2
    obtain ⟨samePod, ⟨announcing, rfl⟩ | ⟨stayed, nonTerminal⟩⟩ := phase2_of_step stepped phase2
    · exact ⟨inputs, [], rfl, samePod ▸ history.announcing announcing, by simp⟩
    · obtain ⟨pre, mid, rfl, ended, items⟩ := history.phase2 stayed
      refine ⟨pre, mid ++ [input], by simp, samePod ▸ ended, fun later member => ?_⟩
      rcases List.mem_append.mp member with earlier | last
      · exact items later earlier
      · exact (List.mem_singleton.mp last) ▸ nonTerminal
  · intro pod sent
    rcases okVerdict_of_step stepped sent with earlier | ⟨phase2, rfl, rfl⟩
    · obtain ⟨pre, post, rfl, checked⟩ := history.healthy pod earlier
      exact ⟨pre, post ++ [input], by simp, checked⟩
    · exact ⟨inputs, [], rfl, history.phase2 phase2⟩

/-- The run lemma: every accepted run from a fresh daemon has its history. -/
theorem history_run
    (podId : String)
    (inputs : List WatcherInput)
    {w : Watcher}
    (ran : (init podId).run endpointParses inputs = some w) :
    History endpointParses podId inputs w := by
  induction inputs using List.reverseRecOn generalizing w with
  | nil =>
      simp only [run, Option.some.injEq] at ran
      subst w
      exact ⟨by simp [init], by simp [init], by simp [init]⟩
  | append_singleton inputs input inductionHypothesis =>
      rw [run_snoc] at ran
      cases reached : (init podId).run endpointParses inputs with
      | none =>
          simp [reached] at ran
      | some before =>
          simp only [reached, Option.bind_some] at ran
          exact history_step reached (inductionHypothesis reached) ran

/-- A log that holds `Ok(pod)` starts with the healthy log of `pod`; only errors follow it. -/
theorem okVerdict_log
    {w : Watcher}
    {pod : Pod}
    (consistent : Consistent endpointParses w)
    (sent : .verdict (.ok pod) ∈ w.effects) :
    ∃ endpoint rest,
      Checked endpointParses pod endpoint ∧
        w.effects = healthy pod endpoint ++ rest ∧
        ∀ result ∈ verdicts rest, ∃ err, result = .error err := by
  rcases w with ⟨podId, pc, pod', failures, effects⟩
  cases pc <;> simp only [Consistent] at consistent
  case phase1 | panicked => simp_all
  case announcing => simp_all
  case phase2 =>
      obtain ⟨endpoint, -, rfl⟩ := consistent
      simp [checking] at sent
  case delivering | phase3 =>
      obtain ⟨endpoint, spawned, rfl⟩ := consistent
      have same : pod = pod' := by simpa [healthy, checking] using sent
      subst same
      exact ⟨endpoint, [], spawned, by simp, by simp [verdicts]⟩
  case returned =>
      cases consistent with
      | phase1 err => simp [teardown] at sent
      | announced _ err _ => simp [teardown] at sent
      | checked _ endpoint stop err _ stops =>
          rcases stops with rfl | rfl <;> simp [checking, teardown] at sent
      | undelivered p endpoint spawned =>
          have same : pod = p := by simpa [healthy, checking] using sent
          subst same
          exact ⟨endpoint, _, spawned, rfl, by simp [verdicts]⟩
      | phase3 p endpoint err spawned =>
          have same : pod = p := by simpa [healthy, checking, teardown] using sent
          subst same
          exact ⟨endpoint, _, spawned, rfl, by simp [verdicts, teardown]⟩
      | deleted p endpoint spawned =>
          have same : pod = p := by simpa [healthy, checking] using sent
          subst same
          exact ⟨endpoint, _, spawned, rfl, by simp [verdicts]⟩

/--
The `Ok(pod)` verdict that `/wait` hands to a client is sound: it is the
first verdict the watcher sends and the only `Ok`; `pod` is the running
snapshot whose `Applied` item ended Phase 1; `Running(pod)` was sent (and
accepted) before it, with no `Terminated`; and the checker built for
`pod`'s address reported `Ok(())`, picked by the Phase-2 `select!` before
any terminal stream item.
-/
theorem healthyVerdict_sound
    (endpointParses : String → Bool)
    (podId : String)
    (inputs : List WatcherInput)
    (w : Watcher)
    (pod : Pod)
    (ran : (init podId).run endpointParses inputs = some w)
    (sent : .verdict (.ok pod) ∈ w.effects) :
    ((verdicts w.effects).head? = some (.ok pod) ∧
      ∀ result ∈ (verdicts w.effects).tail, ∃ err, result = .error err) ∧
    (∃ endpoint rest,
      serverCheck endpointParses pod = .ok endpoint ∧
        w.effects =
          [.status (.running pod), .spawnCheck endpoint, .joinCheck, .verdict (.ok pod)] ++ rest) ∧
    pod.running = true ∧
    ∃ pre mid post before,
      inputs =
          pre ++ [.item (.event (.applied pod)), .delivered true] ++ mid ++
            .health .healthy :: post ∧
        (init podId).run endpointParses pre = some before ∧
        before.pc = .phase1 ∧
        ∀ input ∈ mid, nonTerminalItem input := by
  obtain ⟨endpoint, rest, ⟨running, spawned⟩, log, errorsAfter⟩ :=
    okVerdict_log (consistent_run (consistent_init podId) ran) sent
  obtain ⟨pre₂, post, rfl, pre₁, mid, rfl, ⟨pre, before, rfl, reached, phase1⟩, items⟩ :=
    (history_run podId inputs ran).healthy pod sent
  refine ⟨?_, ⟨endpoint, rest, spawned, log⟩, running, pre, mid, post, before, by simp, reached,
    phase1, items⟩
  rw [log, verdicts_append]
  exact ⟨rfl, errorsAfter⟩

/-- A pod that runs and has a cluster address, as Phase 2 needs it. -/
def servingPod : Pod where
  metadata := { «namespace» := some "ocf" }
  spec := some { containers := [{ ports := some [⟨8080⟩] }] }
  status := some {
    podIp := some "10.0.0.1"
    containerStatuses := some [{ state := some { running := some {} } }] }

/-- The daemon after `Applied(servingPod)`, an accepted `Running` and the health check's `Ok(())`. -/
def servedWatcher : Watcher where
  podId := "pod"
  pc := .delivering
  pod := servingPod
  failures := 0
  effects :=
    [.status (.running servingPod), .spawnCheck "http://10-0-0-1.ocf.pod:8080", .joinCheck,
      .verdict (.ok servingPod)]

/-- On the happy path the `Ok(servingPod)` verdict is the first verdict, and the only one. -/
theorem healthyVerdict_sound_on_servingPod :
    ((init "pod").run (fun _ => true)
          [.item (.event (.applied servingPod)), .delivered true, .health .healthy] =
        some servedWatcher ∧
      .verdict (.ok servingPod) ∈ servedWatcher.effects) ∧
    (verdicts servedWatcher.effects).head? = some (.ok servingPod) ∧
      ∀ result ∈ (verdicts servedWatcher.effects).tail, ∃ err, result = .error err :=
  have ran : (init "pod").run (fun _ => true)
      [.item (.event (.applied servingPod)), .delivered true, .health .healthy] =
        some servedWatcher := by decide
  have sent : .verdict (.ok servingPod) ∈ servedWatcher.effects := by decide
  ⟨⟨ran, sent⟩, (healthyVerdict_sound _ _ _ _ _ ran sent).1⟩

end Watcher

end ConnectorManager
