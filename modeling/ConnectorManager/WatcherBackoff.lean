import ConnectorManager.WatcherProtocol
import ConnectorManager.ServerCheck
import Mathlib

namespace ConnectorManager

/-!
# The watcher's backoff and clock

`EventWatcherDaemon::watch` shares one `ExponentialBackoff` between its three
loops. Every stream error asks it for an interval to sleep, and the daemon
gives up with `KubernetesUnresponsive` when it answers `None`. The loops call
`backoff.reset()` once the stream answers `Ok`: always in Phases 1 and 3, and
in Phase 2 on `Added` and `Applied`, every other answer there ending the run.
`EventWatcher` leaves the backoff's answer to the environment; this module
computes it.

A `TimedWatcher` is the daemon of `EventWatcher` with the backoff and the
clock beside it. Each input carries how long its await took, and a stream
error the interval `next_backoff()` draws; a retry sleeps exactly that long,
any lateness of the timer counting towards the next await. The health-check
outcomes are those the checker of `ServerCheck` can send
(`HealthOutcome.fromChecker_of_sent`). The Phase-2 exit on
a stream error reads the elapsed time it reports after `check.kill()`
returns; here that await takes no time.

`step_watcher` maps every timed step to a step of the untimed daemon, so what
`WatcherProtocol` proves holds of timed runs. `backoff_reset_of_success` and
`clocked_run` say what the backoff is at every point of a run: reset by the
last `Ok` of the stream, or made at the start, the clock having moved since
by the waits and sleeps of the later inputs. `unresponsive_of_run` reads off
when the daemon gives up: the elapsed time and the interval drawn together
pass fifteen minutes, the elapsed time alone need not. `paced_run` bounds the
errors between two `Ok`s: each retry sleeps a quarter second at least, within
those fifteen minutes.
-/

namespace Watcher

variable {endpointParses : String → Bool}

/-! ## Where a `KubernetesUnresponsive` verdict comes from -/

@[simp] theorem verdict_mem_teardown {err err' : AcmError} :
    WatcherEffect.verdict (.error err') ∈ teardown err ↔ err' = err := by
  simp [teardown]

/-- `ServerCheck::new` never fails with `KubernetesUnresponsive`. -/
theorem serverCheck_ne_unresponsive (pod : Pod) (elapsed : Nat) :
    serverCheck endpointParses pod ≠ .error (.kubernetesUnresponsive elapsed) := by
  intro failed
  rcases serverCheck_error failed with failed | ⟨uri, parse⟩
  · rcases Pod.address_error failed with ⟨op, e | e | e⟩ | ⟨op, e | e | e⟩ <;> cases e
  · cases parse

/-- Phase 1 sends a `KubernetesUnresponsive` verdict only when the backoff gives up. -/
theorem unresponsive_of_phase1Item {w : Watcher} {item : WatchItem} {elapsed : Nat}
    (added : .verdict (.error (.kubernetesUnresponsive elapsed)) ∈ (w.phase1Item item).effects)
    (fresh : .verdict (.error (.kubernetesUnresponsive elapsed)) ∉ w.effects) :
    item = .failure (.exhausted elapsed) := by
  cases item with
  | failure answer =>
    cases answer with
    | retryAfter => simp [phase1Item, onFailure, fresh] at added
    | exhausted elapsed' =>
      simp only [phase1Item, onFailure, terminate_effects, emit_effects, List.append_nil,
        List.mem_append, fresh, verdict_mem_teardown, false_or, AcmError.kubernetesUnresponsive.injEq] at added
      rw [added]
  | closed => simp [phase1Item, fresh] at added
  | event event =>
    cases event with
    | applied p =>
      rcases phase1Applied_cases w.reset p with ⟨-, e⟩ | ⟨-, -, e⟩ | ⟨-, -, -, ⟨message, e⟩ | ⟨-, e⟩⟩ |
        ⟨-, e⟩ <;> simp [phase1Item, e, emit, fresh] at added
    | _ => simp [phase1Item, fresh] at added

/-- A step sends a `KubernetesUnresponsive` verdict only when the backoff gives up on a stream
error, or when the health check reports one. -/
theorem unresponsive_of_step {w next : Watcher} {input : WatcherInput} {elapsed : Nat}
    (stepped : w.step endpointParses input = some next)
    (added : .verdict (.error (.kubernetesUnresponsive elapsed)) ∈ next.effects)
    (fresh : .verdict (.error (.kubernetesUnresponsive elapsed)) ∉ w.effects) :
    input = .item (.failure (.exhausted elapsed)) ∨
      input = .health (.failed (.kubernetesUnresponsive elapsed)) := by
  rcases step_cases stepped with
    ⟨item, rfl, ⟨-, rfl⟩ | ⟨-, rfl⟩ | ⟨-, rfl⟩⟩ | ⟨outcome, rfl, -, rfl⟩ | ⟨-, -, rfl⟩ | ⟨-, -, rfl⟩ |
      ⟨-, -, rfl⟩ | ⟨-, -, rfl⟩
  · exact .inl (congrArg _ (unresponsive_of_phase1Item added fresh))
  · rcases item with (_ | _) | _ | (_ | _ | _ | _) <;> simp_all [phase2Item, onFailure]
  · rcases item with (_ | _) | _ | (_ | _ | _ | _) <;> simp_all [phase3Item, onFailure]
  · cases outcome <;> simp_all [phase2Health]
  · unfold startCheck at added
    split at added
    · simp [emit, fresh] at added
    · rename_i failed
      simp only [terminate_effects, List.mem_append, fresh, verdict_mem_teardown, false_or] at added
      exact absurd (added ▸ failed) (serverCheck_ne_unresponsive _ _)
  · simp [fresh] at added
  · exact absurd added fresh
  · simp [emit, fresh] at added

/-- Until `watch` returns, no error verdict has been sent. -/
theorem error_verdict_not_mem {w : Watcher} (consistent : Consistent endpointParses w)
    (live : w.pc ≠ .returned) (err : AcmError) : .verdict (.error err) ∉ w.effects := by
  unfold Consistent at consistent
  cases pc : w.pc <;> simp only [pc] at consistent live
  case phase1 | panicked => simp [consistent]
  case announcing => simp [consistent.2]
  case phase2 =>
    obtain ⟨endpoint, -, log⟩ := consistent
    simp [log, checking]
  case delivering | phase3 =>
    obtain ⟨endpoint, -, log⟩ := consistent
    simp [log, healthy, checking]
  case returned => exact absurd rfl live

/-- The backoff giving up ends `watch`. -/
theorem step_exhausted {w next : Watcher} {elapsed : Nat}
    (stepped : w.step endpointParses (.item (.failure (.exhausted elapsed))) = some next) :
    next.pc = .returned := by
  rcases step_cases stepped with ⟨item, same, ⟨-, rfl⟩ | ⟨-, rfl⟩ | ⟨-, rfl⟩⟩ | ⟨_, same, -⟩ | ⟨-, same, -⟩ |
    ⟨-, same, -⟩ | ⟨-, same, -⟩ | ⟨-, same, -⟩ <;> cases same <;> rfl

end Watcher

/-- What `client.try_next().await` yields, as the timed watcher sees it. -/
inductive TimedItem where
  /-- `Err(err)`; `next_backoff()` draws `randomized`. -/
  | failure (randomized : Nat)
  /-- `Ok(event)`; `None` when Kubernetes closed the stream. -/
  | success (event : Option WatchEvent)
  deriving Repr, DecidableEq

/-- The untimed item of an `Ok` answer. -/
def WatchItem.ofSuccess : Option WatchEvent → WatchItem
  | none => .closed
  | some received => .event received

/-- An input of the daemon, and how long after the previous one it arrives. -/
inductive TimedInput where
  | item (wait : Nat) (item : TimedItem)
  | health (wait : Nat) (outcome : HealthOutcome)
  | delivered (wait : Nat) (accepted : Bool)
  deriving Repr, DecidableEq

namespace TimedInput

/-- The stream answered `Ok`. -/
def isSuccess : TimedInput → Bool
  | .item _ (.success _) => true
  | _ => false

/-- The stream answered `Err`. -/
def isFailure : TimedInput → Bool
  | .item _ (.failure _) => true
  | _ => false

/-- How far the input moves the clock: its wait and, after a stream error, the sleep. -/
def duration : TimedInput → Nat
  | .item wait (.failure randomized) => wait + randomized
  | .item wait (.success _) => wait
  | .health wait _ => wait
  | .delivered wait _ => wait

end TimedInput

/-- The outcomes the health checker can produce: its three sends, and its sender dropped. -/
def HealthOutcome.fromChecker : HealthOutcome → Bool
  | .dropped | .healthy | .failed .notReady | .failed (.tooManyFailures _ _) => true
  | .failed _ => false

/-- The outcome the Phase-2 `select!` reads once the checker has sent `value`. -/
def HealthOutcome.ofSent : Except AcmError Unit → HealthOutcome
  | .ok () => .healthy
  | .error err => .failed err

/-- Whatever the checker of `ServerCheck` sends, in any run, is an outcome the timed watcher
takes. -/
theorem HealthOutcome.fromChecker_of_sent {endpoint : String} {now : Nat}
    {events : List ServerCheck.CheckEvent} {final : ServerCheck.CheckSystem}
    (ran : (ServerCheck.CheckSystem.init endpoint now).run events = some final)
    {value : Except AcmError Unit} (sent : value ∈ final.sent) : (ofSent value).fromChecker := by
  have outputs := ServerCheck.CheckSystem.outputs_run (ServerCheck.CheckSystem.outputs_init endpoint now) ran
  rcases outputs.sendable value sent with rfl | rfl | ⟨err, -, rfl⟩ <;> rfl

/-- The daemon, its backoff and the clock, in nanoseconds. -/
structure TimedWatcher where
  watcher : Watcher
  backoff : ExponentialBackoff
  now : Nat
  deriving Repr, DecidableEq

namespace TimedWatcher

variable (endpointParses : String → Bool)

/-- `watch` started at `now`; `ExponentialBackoff::default()` is its first line. -/
def init (podId : String) (now : Nat) : TimedWatcher where
  watcher := Watcher.init podId
  backoff := ExponentialBackoff.default now
  now := now

/-- Whether the loop at `pc` calls `backoff.reset()` when the stream answers `Ok(event)`. -/
def resetsBackoff : WatcherPc → Option WatchEvent → Bool
  | .phase2, some (.added _) | .phase2, some (.applied _) => true
  | .phase2, _ => false
  | _, _ => true

/-- One input. A stream error asks the backoff at the instant it arrives, then sleeps or gives
up with the elapsed time; an `Ok` resets the backoff where the loop does. -/
def step (t : TimedWatcher) : TimedInput → Option TimedWatcher
  | .item wait (.failure randomized) =>
    if t.backoff.Randomizes randomized then
      match t.backoff.nextBackoff (t.now + wait) randomized with
      | (some duration, backoff) =>
        (t.watcher.step endpointParses (.item (.failure (.retryAfter duration)))).map
          fun w => ⟨w, backoff, t.now + wait + duration⟩
      | (none, backoff) =>
        (t.watcher.step endpointParses
            (.item (.failure (.exhausted (backoff.getElapsedTime (t.now + wait)))))).map
          fun w => ⟨w, backoff, t.now + wait⟩
    else none
  | .item wait (.success event) =>
    (t.watcher.step endpointParses (.item (.ofSuccess event))).map fun w =>
      ⟨w, if resetsBackoff t.watcher.pc event then t.backoff.reset (t.now + wait) else t.backoff,
        t.now + wait⟩
  | .health wait outcome =>
    if outcome.fromChecker then
      (t.watcher.step endpointParses (.health outcome)).map fun w => ⟨w, t.backoff, t.now + wait⟩
    else none
  | .delivered wait accepted =>
    (t.watcher.step endpointParses (.delivered accepted)).map fun w => ⟨w, t.backoff, t.now + wait⟩

/-- Feed a list of inputs to the daemon; `none` when one of them is refused. -/
def run (t : TimedWatcher) : List TimedInput → Option TimedWatcher
  | [] => some t
  | input :: rest =>
    match t.step endpointParses input with
    | some next => next.run rest
    | none => none

variable {endpointParses}

/-- Everything one timed step can do. -/
theorem step_cases {t next : TimedWatcher} {input : TimedInput}
    (stepped : t.step endpointParses input = some next) :
    (∃ wait randomized, input = .item wait (.failure randomized) ∧ t.backoff.Randomizes randomized ∧
      ((∃ duration, t.backoff.nextBackoff (t.now + wait) randomized = (some duration, next.backoff) ∧
          t.watcher.step endpointParses (.item (.failure (.retryAfter duration))) = some next.watcher ∧
          next.now = t.now + wait + duration) ∨
        (t.backoff.nextBackoff (t.now + wait) randomized = (none, next.backoff) ∧
          t.watcher.step endpointParses
              (.item (.failure (.exhausted (next.backoff.getElapsedTime (t.now + wait))))) =
            some next.watcher ∧
          next.now = t.now + wait))) ∨
    (∃ wait event, input = .item wait (.success event) ∧
      t.watcher.step endpointParses (.item (.ofSuccess event)) = some next.watcher ∧
      next.backoff =
        (if resetsBackoff t.watcher.pc event then t.backoff.reset (t.now + wait) else t.backoff) ∧
      next.now = t.now + wait) ∨
    (∃ wait outcome, input = .health wait outcome ∧ outcome.fromChecker ∧
      t.watcher.step endpointParses (.health outcome) = some next.watcher ∧
      next.backoff = t.backoff ∧ next.now = t.now + wait) ∨
    (∃ wait accepted, input = .delivered wait accepted ∧
      t.watcher.step endpointParses (.delivered accepted) = some next.watcher ∧
      next.backoff = t.backoff ∧ next.now = t.now + wait) := by
  cases input with
  | item wait item =>
    cases item with
    | failure randomized =>
      simp only [step] at stepped
      split_ifs at stepped with drawn
      rcases answer : t.backoff.nextBackoff (t.now + wait) randomized with ⟨_ | duration, backoff⟩ <;>
        rw [answer] at stepped <;> obtain ⟨w, untimed, rfl⟩ := Option.map_eq_some'.mp stepped
      exacts [.inl ⟨wait, randomized, rfl, drawn, .inr ⟨answer, untimed, rfl⟩⟩,
        .inl ⟨wait, randomized, rfl, drawn, .inl ⟨duration, answer, untimed, rfl⟩⟩]
    | success event =>
      obtain ⟨w, untimed, rfl⟩ := Option.map_eq_some'.mp stepped
      exact .inr (.inl ⟨wait, event, rfl, untimed, rfl, rfl⟩)
  | health wait outcome =>
    simp only [step] at stepped
    split_ifs at stepped with checked
    obtain ⟨w, untimed, rfl⟩ := Option.map_eq_some'.mp stepped
    exact .inr (.inr (.inl ⟨wait, outcome, rfl, checked, untimed, rfl, rfl⟩))
  | delivered wait accepted =>
    obtain ⟨w, untimed, rfl⟩ := Option.map_eq_some'.mp stepped
    exact .inr (.inr (.inr ⟨wait, accepted, rfl, untimed, rfl, rfl⟩))

/-- Every timed step is a step of the untimed daemon. -/
theorem step_watcher {t next : TimedWatcher} {input : TimedInput}
    (stepped : t.step endpointParses input = some next) :
    ∃ untimed, t.watcher.step endpointParses untimed = some next.watcher := by
  rcases step_cases stepped with ⟨_, _, -, -, ⟨_, -, untimed, -⟩ | ⟨-, untimed, -⟩⟩ |
    ⟨_, _, -, untimed, -⟩ | ⟨_, _, -, -, untimed, -⟩ | ⟨_, _, -, untimed, -⟩ <;> exact ⟨_, untimed⟩

/-- Every timed run is a run of the untimed daemon. -/
theorem run_watcher {t final : TimedWatcher} {inputs : List TimedInput}
    (ran : t.run endpointParses inputs = some final) :
    ∃ untimed, t.watcher.run endpointParses untimed = some final.watcher := by
  induction inputs generalizing t with
  | nil =>
    cases ran
    exact ⟨[], rfl⟩
  | cons input rest inductionHypothesis =>
    simp only [run] at ran
    split at ran
    · rename_i next stepped
      obtain ⟨untimed, stepped⟩ := step_watcher stepped
      obtain ⟨more, ran⟩ := inductionHypothesis ran
      exact ⟨untimed :: more, by simp [Watcher.run, stepped, ran]⟩
    · cases ran

/-- The effect log of every timed run is one `WatcherProtocol` allows. -/
theorem consistent_of_run {podId : String} {start : Nat} {inputs : List TimedInput}
    {final : TimedWatcher} (ran : (init podId start).run endpointParses inputs = some final) :
    Watcher.Consistent endpointParses final.watcher :=
  let ⟨_, untimed⟩ := run_watcher ran
  Watcher.consistent_run (Watcher.consistent_init podId) untimed

/-- A returned daemon accepts no input. -/
theorem step_of_returned {t : TimedWatcher} (over : t.watcher.pc = .returned) (input : TimedInput) :
    t.step endpointParses input = none := by
  cases stepping : t.step endpointParses input with
  | none => rfl
  | some next =>
    obtain ⟨untimed, stepped⟩ := step_watcher stepping
    rw [Watcher.step_of_over (.inl over)] at stepped
    cases stepped

theorem run_of_returned {t final : TimedWatcher} {inputs : List TimedInput}
    (over : t.watcher.pc = .returned) (ran : t.run endpointParses inputs = some final) : final = t := by
  cases inputs with
  | nil => exact (Option.some.inj ran).symm
  | cons input rest => simp [run, step_of_returned over] at ran

/-- Running a concatenation of inputs runs the first part, then the second. -/
theorem run_append (t : TimedWatcher) (first second : List TimedInput) :
    t.run endpointParses (first ++ second) =
      (t.run endpointParses first).bind fun middle => middle.run endpointParses second := by
  induction first generalizing t with
  | nil => rfl
  | cons input rest inductionHypothesis =>
    simp only [List.cons_append, run]
    split <;> simp [inductionHypothesis]

/-- The last input of a run is one more step from the state its prefix reached. -/
theorem run_snoc (t : TimedWatcher) (inputs : List TimedInput) (input : TimedInput) :
    t.run endpointParses (inputs ++ [input]) =
      (t.run endpointParses inputs).bind fun middle => middle.step endpointParses input := by
  induction inputs generalizing t with
  | nil =>
    simp only [List.nil_append, run]
    split <;> simp_all [run]
  | cons head rest inductionHypothesis =>
    simp only [List.cons_append, run]
    split <;> simp [inductionHypothesis]

/-! ## The backoff along a run -/

/-- An `Ok` answer after which `watch` goes on is one its loop resets the backoff on. -/
theorem resetsBackoff_of_live {w next : Watcher} {event : Option WatchEvent}
    (stepped : w.step endpointParses (.item (.ofSuccess event)) = some next)
    (live : next.pc ≠ .returned) : resetsBackoff w.pc event := by
  rcases Watcher.step_cases stepped with ⟨item, same, ⟨pc, rfl⟩ | ⟨pc, rfl⟩ | ⟨pc, rfl⟩⟩ | ⟨_, same, -⟩ |
    ⟨-, same, -⟩ | ⟨-, same, -⟩ | ⟨-, same, -⟩ | ⟨-, same, -⟩ <;> cases same
  · simp [resetsBackoff, pc]
  · rcases event with _ | (_ | _ | _ | _) <;>
      simp_all [resetsBackoff, WatchItem.ofSuccess, Watcher.phase2Item]
  · simp [resetsBackoff, pc]

/-- An `Ok` of the stream after which `watch` goes on leaves the backoff reset at that instant. -/
theorem backoff_reset_of_success {t next : TimedWatcher} {wait : Nat} {event : Option WatchEvent}
    (stepped : t.step endpointParses (.item wait (.success event)) = some next)
    (live : next.watcher.pc ≠ .returned) : next.backoff = t.backoff.reset next.now := by
  obtain ⟨w, untimed, rfl⟩ := Option.map_eq_some'.mp stepped
  simp [resetsBackoff_of_live untimed live]

/-- The backoff after `inputs`: it gives up after fifteen minutes, and it was made, or last reset,
at the end of the last `Ok` of the stream, the clock having moved since by the durations of the
inputs after it. -/
structure Clocked (inputs : List TimedInput) (t : TimedWatcher) : Prop where
  maxElapsedTime : t.backoff.maxElapsedTime = some 900000000000
  sinceSuccess : ∃ before since, inputs = before ++ since ∧
    (∀ last ∈ before.getLast?, last.isSuccess) ∧ (∀ input ∈ since, input.isSuccess = false) ∧
    t.backoff.startTime + (since.map TimedInput.duration).sum = t.now

theorem clocked_init (podId : String) (start : Nat) : Clocked [] (init podId start) :=
  ⟨rfl, [], [], rfl, by simp, by simp, rfl⟩

/-- An input other than an `Ok` of the stream that keeps the backoff's start and maximum and moves
the clock by its duration keeps the backoff clocked. -/
theorem Clocked.append {inputs : List TimedInput} {t next : TimedWatcher} {input : TimedInput}
    (clocked : Clocked inputs t) (failed : input.isSuccess = false)
    (start : next.backoff.startTime = t.backoff.startTime)
    (limit : next.backoff.maxElapsedTime = t.backoff.maxElapsedTime)
    (now : next.now = t.now + input.duration) : Clocked (inputs ++ [input]) next := by
  obtain ⟨maxElapsed, before, since, rfl, lastSuccess, failures, started⟩ := clocked
  refine ⟨limit ▸ maxElapsed, before, since ++ [input], by simp, lastSuccess, ?_, ?_⟩
  · simp only [List.mem_append, List.mem_singleton]
    rintro other (other_mem | rfl)
    exacts [failures other other_mem, failed]
  · simp only [List.map_append, List.map_cons, List.map_nil, List.sum_append, List.sum_cons,
      List.sum_nil, start, now]
    omega

/-- The step lemma: a step after which `watch` goes on keeps the backoff clocked. -/
theorem clocked_step {inputs : List TimedInput} {t next : TimedWatcher} {input : TimedInput}
    (clocked : Clocked inputs t) (stepped : t.step endpointParses input = some next)
    (live : next.watcher.pc ≠ .returned) : Clocked (inputs ++ [input]) next := by
  rcases step_cases stepped with
    ⟨wait, randomized, rfl, -, ⟨duration, answer, -, now⟩ | ⟨-, untimed, -⟩⟩ |
      ⟨wait, event, rfl, untimed, -, -⟩ | ⟨wait, outcome, rfl, -, -, backoff, now⟩ |
      ⟨wait, accepted, rfl, -, backoff, now⟩
  · have slept : duration = randomized := ExponentialBackoff.nextBackoff_eq_some (by rw [answer])
    have kept := ExponentialBackoff.nextBackoff_snd t.backoff (t.now + wait) randomized
    rw [answer] at kept
    exact clocked.append rfl kept.1 kept.2 (by rw [now, slept, TimedInput.duration, Nat.add_assoc])
  · exact absurd (Watcher.step_exhausted untimed) live
  · have reset := backoff_reset_of_success stepped live
    refine ⟨?_, inputs ++ [.item wait (.success event)], [], by simp, by simp [TimedInput.isSuccess],
      by simp, by simp [reset]⟩
    rw [reset, ExponentialBackoff.reset_maxElapsedTime]
    exact clocked.maxElapsedTime
  all_goals exact clocked.append rfl (by rw [backoff]) (by rw [backoff]) now

/-- The run lemma: the backoff is clocked after every run after which `watch` goes on. -/
theorem clocked_run {history inputs : List TimedInput} {t final : TimedWatcher}
    (clocked : Clocked history t) (ran : t.run endpointParses inputs = some final)
    (live : final.watcher.pc ≠ .returned) : Clocked (history ++ inputs) final := by
  induction inputs generalizing history t with
  | nil =>
    cases ran
    simpa using clocked
  | cons input rest inductionHypothesis =>
    simp only [run] at ran
    split at ran
    · rename_i next stepped
      have going : next.watcher.pc ≠ .returned := fun over => live (run_of_returned over ran ▸ over)
      simpa using inductionHypothesis (clocked_step clocked stepped going) ran
    · cases ran

/-- The daemon gives up with `KubernetesUnresponsive` only on a stream error, after nothing but
stream errors since the last `Ok` of the stream, when the time elapsed since then and the
interval the backoff draws together pass fifteen minutes. -/
theorem unresponsive_of_run {podId : String} {start elapsed : Nat} {inputs : List TimedInput}
    {final : TimedWatcher} (ran : (init podId start).run endpointParses inputs = some final)
    (unresponsive : .verdict (.error (.kubernetesUnresponsive elapsed)) ∈ final.watcher.effects) :
    ∃ before since wait randomized, inputs = before ++ since ++ [.item wait (.failure randomized)] ∧
      (∀ last ∈ before.getLast?, last.isSuccess) ∧ (∀ input ∈ since, input.isSuccess = false) ∧
      900000000000 < (since.map TimedInput.duration).sum + wait + randomized := by
  rcases List.eq_nil_or_concat inputs with rfl | ⟨pre, input, rfl⟩
  · cases ran
    simp [init, Watcher.init] at unresponsive
  rw [List.concat_eq_append] at ran ⊢
  rw [run_snoc] at ran
  obtain ⟨mid, reached, stepped⟩ := Option.bind_eq_some.mp ran
  have live : mid.watcher.pc ≠ .returned := fun over => by simp [step_of_returned over] at stepped
  have fresh :=
    Watcher.error_verdict_not_mem (consistent_of_run reached) live (.kubernetesUnresponsive elapsed)
  obtain ⟨limit, before, since, rfl, lastSuccess, failures, started⟩ :=
    by simpa using clocked_run (clocked_init podId start) reached live
  rcases step_cases stepped with
    ⟨wait, randomized, rfl, -, ⟨duration, -, untimed, -⟩ | ⟨answer, -, -⟩⟩ |
      ⟨wait, event, rfl, untimed, -, -⟩ | ⟨wait, outcome, rfl, checked, untimed, -, -⟩ |
      ⟨wait, accepted, rfl, untimed, -, -⟩
  · rcases Watcher.unresponsive_of_step untimed unresponsive fresh with same | same <;> cases same
  · refine ⟨before, since, wait, randomized, rfl, lastSuccess, failures, ?_⟩
    obtain ⟨maxElapsed, limit', passed⟩ :=
      (ExponentialBackoff.nextBackoff_eq_none_iff _ _ _).mp (by rw [answer])
    rw [limit, Option.some.injEq] at limit'
    simp only [ExponentialBackoff.getElapsedTime] at passed
    omega
  · rcases Watcher.unresponsive_of_step untimed unresponsive fresh with same | same <;>
      cases event <;> cases same
  · rcases Watcher.unresponsive_of_step untimed unresponsive fresh with same | same <;> cases same
    simp [HealthOutcome.fromChecker] at checked
  · rcases Watcher.unresponsive_of_step untimed unresponsive fresh with same | same <;> cases same

/-- In every run of `watch`, in all three phases: an `Ok` of the stream after which the daemon
goes on leaves the backoff reset at that instant, and the daemon gives up with
`KubernetesUnresponsive` only on a stream error, after nothing but stream errors since the last
`Ok` (or since the start), when the time elapsed since then and the interval the backoff draws
together pass fifteen minutes. -/
theorem watch_resets_backoff_and_gives_up_after_errors (podId : String) (start : Nat)
    (inputs : List TimedInput) (final : TimedWatcher)
    (ran : (init podId start).run endpointParses inputs = some final) :
    (∀ (t next : TimedWatcher) (wait : Nat) (event : Option WatchEvent),
        t.step endpointParses (.item wait (.success event)) = some next →
        next.watcher.pc ≠ .returned → next.backoff = t.backoff.reset next.now) ∧
      ∀ elapsed, .verdict (.error (.kubernetesUnresponsive elapsed)) ∈ final.watcher.effects →
        ∃ before since wait randomized,
          inputs = before ++ since ++ [.item wait (.failure randomized)] ∧
          (∀ last ∈ before.getLast?, last.isSuccess) ∧ (∀ input ∈ since, input.isSuccess = false) ∧
          900000000000 < (since.map TimedInput.duration).sum + wait + randomized :=
  ⟨fun _ _ _ _ stepped live => backoff_reset_of_success stepped live,
    fun _ unresponsive => unresponsive_of_run ran unresponsive⟩

/-- A stream error, an `Added` after the retry, and fifteen minutes later an error on which the
backoff gives up. -/
def failedAfterAdded : List TimedInput :=
  [.item 0 (.failure 500000000), .item 0 (.success (some (.added default))),
    .item 900000000000 (.failure 250000000)]

/-- Where `failedAfterAdded` ends: the backoff was reset at 500 ms, when `Added` arrived. -/
def unresponsiveAfterAdded : TimedWatcher where
  watcher :=
    { Watcher.init "pod" with
      pc := .returned
      effects := Watcher.teardown (.kubernetesUnresponsive 900000000000) }
  backoff := { ExponentialBackoff.default 500000000 with currentInterval := 750000000 }
  now := 900500000000

theorem watch_resets_backoff_on_added_then_gives_up :
    (init "pod" 0).run (fun _ => true) failedAfterAdded = some unresponsiveAfterAdded ∧
      (∀ (t next : TimedWatcher) (wait : Nat) (event : Option WatchEvent),
          t.step (fun _ => true) (.item wait (.success event)) = some next →
          next.watcher.pc ≠ .returned → next.backoff = t.backoff.reset next.now) ∧
        ∀ elapsed,
          .verdict (.error (.kubernetesUnresponsive elapsed)) ∈ unresponsiveAfterAdded.watcher.effects →
          ∃ before since wait randomized,
            failedAfterAdded = before ++ since ++ [.item wait (.failure randomized)] ∧
            (∀ last ∈ before.getLast?, last.isSuccess) ∧ (∀ input ∈ since, input.isSuccess = false) ∧
            900000000000 < (since.map TimedInput.duration).sum + wait + randomized :=
  have ran : (init "pod" 0).run (fun _ => true) failedAfterAdded = some unresponsiveAfterAdded := rfl
  ⟨ran, watch_resets_backoff_and_gives_up_after_errors _ _ _ _ ran⟩

/-- The backoff can give up before fifteen minutes have elapsed: a first stream error after
899.9 s draws 250 ms, which would end past the maximum. -/
theorem watch_gives_up_before_fifteen_minutes :
    ∃ final, (init "pod" 0).run (fun _ => true) [.item 899900000000 (.failure 250000000)] = some final ∧
      .verdict (.error (.kubernetesUnresponsive 899900000000)) ∈ final.watcher.effects ∧
      final.backoff.getElapsedTime final.now ≤ 900000000000 :=
  ⟨_, rfl, by decide, by decide⟩

/-! ## How many errors a stretch without `Ok` holds -/

/-- A stretch ending a list one longer is empty, or a stretch of the shorter list and the new
last element. -/
theorem eq_nil_or_snoc_of_append {inputs before since : List TimedInput} {input : TimedInput}
    (h : inputs ++ [input] = before ++ since) :
    since = [] ∨ ∃ since', since = since' ++ [input] ∧ inputs = before ++ since' := by
  rcases List.eq_nil_or_concat since with rfl | ⟨since', last, rfl⟩
  · exact .inl rfl
  · rw [List.concat_eq_append] at h ⊢
    rw [← List.append_assoc] at h
    obtain ⟨shorter, same⟩ := List.append_inj' h rfl
    obtain rfl : input = last := by simpa using same
    exact .inr ⟨since', rfl, shorter⟩

/-- The pace of the backoff after `inputs`: its intervals are the default's and never below the
initial half second, and every stretch of inputs since the last `Ok` of the stream holds at most
3600 stream errors, each of which slept at least a quarter second, all within the time elapsed
since the backoff was made or reset. -/
structure Paced (inputs : List TimedInput) (t : TimedWatcher) : Prop where
  initialInterval : t.backoff.initialInterval = 500000000
  maxInterval : t.backoff.maxInterval = 60000000000
  atLeastInitial : 500000000 ≤ t.backoff.currentInterval
  stretches : ∀ before since, inputs = before ++ since → (∀ input ∈ since, input.isSuccess = false) →
    since.countP TimedInput.isFailure * 250000000 ≤ (since.map TimedInput.duration).sum ∧
      since.countP TimedInput.isFailure ≤ 3600 ∧
      (since.map TimedInput.duration).sum ≤ t.now - t.backoff.startTime

theorem paced_init (podId : String) (start : Nat) : Paced [] (init podId start) := by
  refine ⟨rfl, rfl, Nat.le_refl _, fun before since empty _ => ?_⟩
  obtain ⟨-, rfl⟩ := List.append_eq_nil.mp empty.symm
  simp

/-- An input after which the backoff has the default's intervals and its start, and which moves
the clock by its duration, keeps the pace if, when it is a stream error, it slept a quarter
second at least and ended within fifteen minutes. -/
theorem Paced.append {inputs : List TimedInput} {t next : TimedWatcher} {input : TimedInput}
    (paced : Paced inputs t) (started : t.backoff.startTime ≤ t.now)
    (initial : next.backoff.initialInterval = 500000000) (maximum : next.backoff.maxInterval = 60000000000)
    (current : 500000000 ≤ next.backoff.currentInterval)
    (start : next.backoff.startTime = t.backoff.startTime) (now : next.now = t.now + input.duration)
    (slept : input.isFailure →
      250000000 ≤ input.duration ∧ t.now - t.backoff.startTime + input.duration ≤ 900000000000) :
    Paced (inputs ++ [input]) next := by
  refine ⟨initial, maximum, current, fun before since split noSuccess => ?_⟩
  rcases eq_nil_or_snoc_of_append split with rfl | ⟨since', rfl, rfl⟩
  · simp
  obtain ⟨paces, atMost, within⟩ :=
    paced.stretches before since' rfl fun other mem => noSuccess other (by simp [mem])
  simp only [List.countP_append, List.countP_singleton, List.map_append, List.map_cons, List.map_nil,
    List.sum_append, List.sum_cons, List.sum_nil, start, now]
  split_ifs with failure
  · obtain ⟨least, budget⟩ := slept failure
    omega
  · omega

/-- The step lemma: a step after which `watch` goes on keeps the pace. -/
theorem paced_step {inputs : List TimedInput} {t next : TimedWatcher} {input : TimedInput}
    (clocked : Clocked inputs t) (paced : Paced inputs t) (stepped : t.step endpointParses input = some next)
    (live : next.watcher.pc ≠ .returned) : Paced (inputs ++ [input]) next := by
  have started : t.backoff.startTime ≤ t.now := by
    obtain ⟨-, _, _, -, -, -, sum⟩ := clocked
    omega
  rcases step_cases stepped with
    ⟨wait, randomized, rfl, drawn, ⟨duration, answer, -, now⟩ | ⟨-, untimed, -⟩⟩ |
      ⟨wait, event, rfl, -, -, -⟩ | ⟨wait, outcome, rfl, -, -, backoff, now⟩ |
      ⟨wait, accepted, rfl, -, backoff, now⟩
  · have slept : duration = randomized := ExponentialBackoff.nextBackoff_eq_some (by rw [answer])
    have budget := ExponentialBackoff.nextBackoff_le_of_eq_some (by rw [answer]) clocked.maxElapsedTime
    have kept := ExponentialBackoff.nextBackoff_snd t.backoff (t.now + wait) randomized
    have grown := ExponentialBackoff.nextBackoff_snd_cases t.backoff (t.now + wait) randomized
    rw [answer] at kept grown
    dsimp only at kept grown
    have least := ExponentialBackoff.min_le_incrementCurrentInterval t.backoff
    have initial := paced.initialInterval
    have maximum := paced.maxInterval
    have current := paced.atLeastInitial
    simp only [ExponentialBackoff.Randomizes] at drawn
    simp only [ExponentialBackoff.getElapsedTime] at budget
    refine paced.append started ?_ ?_ ?_ kept.1 (by rw [now, slept, TimedInput.duration, Nat.add_assoc])
      fun _ => ⟨by simp only [TimedInput.duration]; omega, by simp only [TimedInput.duration]; omega⟩
    all_goals rcases grown with e | e <;> rw [e] <;>
      (try simp only [ExponentialBackoff.incrementCurrentInterval_initialInterval,
        ExponentialBackoff.incrementCurrentInterval_maxInterval]) <;> omega
  · exact absurd (Watcher.step_exhausted untimed) live
  · have reset := backoff_reset_of_success stepped live
    refine ⟨by rw [reset]; exact paced.initialInterval, by rw [reset]; exact paced.maxInterval,
      by rw [reset, ExponentialBackoff.reset_currentInterval, paced.initialInterval], ?_⟩
    intro before since split noSuccess
    rcases eq_nil_or_snoc_of_append split with rfl | ⟨since', rfl, -⟩
    · simp
    · have succeeded := noSuccess _ (List.mem_append_right _ (List.mem_singleton_self _))
      simp [TimedInput.isSuccess] at succeeded
  all_goals
    exact paced.append started (by rw [backoff]; exact paced.initialInterval)
      (by rw [backoff]; exact paced.maxInterval) (by rw [backoff]; exact paced.atLeastInitial)
      (by rw [backoff]) now nofun

/-- The run lemma: the pace holds after every run after which `watch` goes on. -/
theorem paced_run {history inputs : List TimedInput} {t final : TimedWatcher}
    (clocked : Clocked history t) (paced : Paced history t) (ran : t.run endpointParses inputs = some final)
    (live : final.watcher.pc ≠ .returned) : Paced (history ++ inputs) final := by
  induction inputs generalizing history t with
  | nil =>
    cases ran
    simpa using paced
  | cons input rest inductionHypothesis =>
    simp only [run] at ran
    split at ran
    · rename_i next stepped
      have going : next.watcher.pc ≠ .returned := fun over => live (run_of_returned over ran ▸ over)
      simpa using inductionHypothesis (clocked_step clocked stepped going) (paced_step clocked paced stepped going) ran
    · cases ran

/-- In every run, a stretch of inputs without an `Ok` of the stream holds at most 3601 stream
errors: the backoff draws at least a quarter second for each error it retries, all within
fifteen minutes, and the daemon ends on the error it gives up on. -/
theorem watch_takes_at_most_3601_errors_between_successes (podId : String) (start : Nat)
    (inputs : List TimedInput) (final : TimedWatcher)
    (ran : (init podId start).run endpointParses inputs = some final) :
    ∀ pre stretch post, inputs = pre ++ stretch ++ post → (∀ input ∈ stretch, input.isSuccess = false) →
      stretch.countP TimedInput.isFailure ≤ 3601 := by
  rintro pre stretch post rfl noSuccess
  rcases List.eq_nil_or_concat stretch with rfl | ⟨stretch', last, rfl⟩
  · simp
  rw [List.concat_eq_append] at ran noSuccess ⊢
  rw [← List.append_assoc, run_append, run_snoc] at ran
  obtain ⟨reached, prefixStepped, -⟩ := Option.bind_eq_some.mp ran
  obtain ⟨mid, prefixRan, stepped⟩ := Option.bind_eq_some.mp prefixStepped
  have live : mid.watcher.pc ≠ .returned := fun over => by simp [step_of_returned over] at stepped
  have paced := paced_run (clocked_init podId start) (paced_init podId start) prefixRan live
  obtain ⟨-, atMost, -⟩ :=
    paced.stretches pre stretch' (by simp) fun input mem => noSuccess input (by simp [mem])
  simp only [List.countP_append, List.countP_singleton]
  split_ifs <;> omega

theorem watch_takes_at_most_3601_errors_after_added :
    (init "pod" 0).run (fun _ => true) failedAfterAdded = some unresponsiveAfterAdded ∧
      ∀ pre stretch post, failedAfterAdded = pre ++ stretch ++ post →
        (∀ input ∈ stretch, input.isSuccess = false) → stretch.countP TimedInput.isFailure ≤ 3601 :=
  have ran : (init "pod" 0).run (fun _ => true) failedAfterAdded = some unresponsiveAfterAdded := rfl
  ⟨ran, watch_takes_at_most_3601_errors_between_successes _ _ _ _ ran⟩

end TimedWatcher

end ConnectorManager
