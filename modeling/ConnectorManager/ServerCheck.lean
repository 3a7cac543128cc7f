import ConnectorManager.Pod
import ConnectorManager.Backoff

namespace ConnectorManager

/-!
# The health checker and the watcher's hold on it

`ServerCheck::new` (`acm/src/podmanager/server_check.rs`) spawns `check`, which
polls the pod's gRPC endpoint with an `ExponentialBackoff` capped at
`MAXIMUM_POLLING_TIME`, and hands the watcher a `ServerCheck` (the `sigint`
sender and the task's handle) and the receiver of the check's outcome. The
checker has two `unwrap()`s: of `latest_error` when the backoff gives up, and
of every `output.send(..)`, which fails once the receiver is dropped.

This module runs the checker beside the watcher's side of the two channels, in
any interleaving (`CheckSystem.step`):

* the checker's awaits are answered by the environment: the interval the
  backoff draws, the backoff timer, the connection's result, the patience timer,
  and `sigint`; the clock advances by `elapse` between them, so the code between
  two awaits takes no time;
* the watcher calls `kill` (send `sigint`, then await the handle) or `join`
  (await the handle), and drops the receiver only when `watch` returns, after
  one of them has returned (`drop`). That is the discipline of every Phase-2
  exit of `watch`.

`step_cases` says once what each action can do; both invariants are derived
from it. `check_never_panics` proves that in every run neither `unwrap()`
fails: the only `continue` follows the assignment of `latest_error`, the first
`next_backoff()` runs at elapsed time zero and never gives up, and the receiver
is dropped only after the checker has returned. `check_sends_at_most_one_outcome`
proves what the checker sends: at most one of `Ok`, `NotReady` and
`TooManyFailures`, and nothing when cancelled.
-/

namespace ServerCheck

/-- `MAXIMUM_POLLING_TIME` (30 s), in nanoseconds. -/
def maximumPollingTime : Nat := 30000000000

/-- The backoff `check` makes: the default one, giving up after `MAXIMUM_POLLING_TIME`. -/
def checkBackoff (now : Nat) : ExponentialBackoff :=
  { ExponentialBackoff.default now with maxElapsedTime := some maximumPollingTime }

/-- Which `unwrap()` of `check` failed. -/
inductive CheckPanic where
  /-- `latest_error.unwrap()` on `None`. -/
  | latestError
  /-- `output.send(..).unwrap()` with the receiver dropped. -/
  | send
  deriving Repr, DecidableEq

/-- Where `check` is. -/
inductive CheckPc where
  /-- Spawned, not yet polled: the backoff does not exist yet. -/
  | spawned
  /-- At `b.next_backoff()`, the top of the loop. -/
  | loop
  /-- In the first `select!`: the backoff timer or `sigint`. -/
  | waiting
  /-- In the second `select!`: the connection, the patience timer or `sigint`. -/
  | connecting
  | returned
  | panicked (reason : CheckPanic)
  deriving Repr, DecidableEq

/-- The task has finished, so that awaiting its handle completes. -/
def CheckPc.finished : CheckPc → Bool
  | .returned | .panicked _ => true
  | _ => false

/-- The locals of `check`. -/
structure Checker where
  pc : CheckPc
  /-- `latest_error`, the last `tonic::transport::Error`. -/
  latestError : Option String
  backoff : ExponentialBackoff
  /-- When the pending sleep (`wait` or `patience`) completes. -/
  timer : Nat
  deriving Repr, DecidableEq

/-- What `watch` does with its `ServerCheck` and the outcome receiver. -/
inductive Holder where
  /-- Phase 2 holds both. -/
  | holding
  /-- In `check.kill()`: `sigint` sent, awaiting the handle. -/
  | killing
  /-- In `check.join()`: awaiting the handle. -/
  | joining
  /-- `kill` or `join` returned; the receiver is still held. -/
  | released
  /-- `watch` returned and dropped the receiver. -/
  | dropped
  deriving Repr, DecidableEq

/-- The checker and the watcher's side of its two channels. -/
structure CheckSystem where
  endpoint : String
  now : Nat
  checker : Checker
  /-- The `sigint` channel holds `()`. -/
  sigint : Bool
  /-- Everything sent on `output`. -/
  sent : List (Except AcmError Unit)
  holder : Holder
  deriving Repr, DecidableEq

/-- One atomic action of the checker, the watcher or the clock. -/
inductive CheckEvent where
  /-- Time passes. -/
  | elapse (duration : Nat)
  /-- `b.next_backoff()` runs, drawing `randomized`. -/
  | draw (randomized : Nat)
  /-- The backoff timer completes. -/
  | waitElapsed
  /-- `HealthClient::connect` completes. -/
  | connected (result : Except String Unit)
  /-- The patience timer completes. -/
  | patienceElapsed
  /-- A `select!` takes `sigint`. -/
  | signalled
  /-- The watcher calls `check.kill()`. -/
  | kill
  /-- The watcher calls `check.join()`. -/
  | join
  /-- The handle the watcher awaits completes. -/
  | awaited
  /-- `watch` returns, dropping the receiver. -/
  | drop
  deriving Repr, DecidableEq

namespace CheckSystem

/-- The checker as `ServerCheck::new` spawns it at `now`, for `endpoint`. -/
def init (endpoint : String) (now : Nat) : CheckSystem where
  endpoint := endpoint
  now := now
  checker := { pc := .spawned, latestError := none, backoff := checkBackoff now, timer := now }
  sigint := false
  sent := []
  holder := .holding

/-- Move the checker to `pc`. -/
def setPc (s : CheckSystem) (pc : CheckPc) : CheckSystem :=
  { s with checker := { s.checker with pc := pc } }

/-- `output.send(value).unwrap()`, then `return`. -/
def send (s : CheckSystem) (value : Except AcmError Unit) : CheckSystem :=
  if s.holder = .dropped then s.setPc (.panicked .send)
  else { s.setPc .returned with sent := s.sent ++ [value] }

/-- The top of the loop with backoff `b`: `next_backoff()` drawing `randomized`, then
`TooManyFailures` carrying `latest_error.unwrap()`, or the sleep. -/
def nextIteration (s : CheckSystem) (b : ExponentialBackoff) (randomized : Nat) : CheckSystem :=
  match b.nextBackoff s.now randomized with
  | (none, b) =>
    match s.checker.latestError with
    | none => { s with checker := { s.checker with pc := .panicked .latestError, backoff := b } }
    | some err =>
      send { s with checker := { s.checker with backoff := b } } (.error (.tooManyFailures s.endpoint err))
  | (some duration, b) =>
    { s with checker := { s.checker with pc := .waiting, backoff := b, timer := s.now + duration } }

/-- One action, or `none` when it cannot happen now. -/
def step (s : CheckSystem) : CheckEvent → Option CheckSystem
  | .elapse duration => some { s with now := s.now + duration }
  | .draw randomized =>
    match s.checker.pc with
    | .spawned =>
      if (checkBackoff s.now).Randomizes randomized then
        some (s.nextIteration (checkBackoff s.now) randomized)
      else none
    | .loop =>
      if s.checker.backoff.Randomizes randomized then
        some (s.nextIteration s.checker.backoff randomized)
      else none
    | _ => none
  | .waitElapsed =>
    if s.checker.pc = .waiting ∧ s.checker.timer ≤ s.now then
      some { s with
        checker := { s.checker with
          pc := .connecting
          timer := s.now + (maximumPollingTime - s.checker.backoff.getElapsedTime s.now) } }
    else none
  | .connected result =>
    if s.checker.pc = .connecting then
      match result with
      | .ok () => some (s.send (.ok ()))
      | .error err => some { s with checker := { s.checker with pc := .loop, latestError := some err } }
    else none
  | .patienceElapsed =>
    if s.checker.pc = .connecting ∧ s.checker.timer ≤ s.now then some (s.send (.error .notReady))
    else none
  | .signalled =>
    if s.sigint ∧ (s.checker.pc = .waiting ∨ s.checker.pc = .connecting) then some (s.setPc .returned)
    else none
  | .kill => if s.holder = .holding then some { s with sigint := true, holder := .killing } else none
  | .join => if s.holder = .holding then some { s with holder := .joining } else none
  | .awaited =>
    if (s.holder = .killing ∨ s.holder = .joining) ∧
        s.checker.pc.finished then
      some { s with holder := .released }
    else none
  | .drop => if s.holder = .released then some { s with holder := .dropped } else none

/-- Run a list of actions; `none` when one of them cannot happen. -/
def run (s : CheckSystem) : List CheckEvent → Option CheckSystem
  | [] => some s
  | event :: rest =>
    match s.step event with
    | some next => next.run rest
    | none => none

theorem run_cons_eq_some {s final : CheckSystem} {event : CheckEvent} {rest : List CheckEvent} :
    s.run (event :: rest) = some final ↔ ∃ next, s.step event = some next ∧ next.run rest = some final := by
  simp only [run]
  split <;> simp_all

/-- What every reachable state satisfies: at the top of the loop a transport error is
recorded, the receiver is let go only once the checker has returned, and it has not
panicked. -/
structure Safe (s : CheckSystem) : Prop where
  errorAtLoop : s.checker.pc = .loop → s.checker.latestError.isSome
  returnedOnceReleased : s.holder = .released ∨ s.holder = .dropped → s.checker.pc = .returned
  notPanicked : ∀ reason, s.checker.pc ≠ .panicked reason

theorem safe_init (endpoint : String) (now : Nat) : Safe (init endpoint now) :=
  ⟨nofun, nofun, nofun⟩

/-- The first `next_backoff()` runs when the backoff is made, and never gives up. -/
theorem checkBackoff_nextBackoff {now randomized : Nat}
    (drawn : (checkBackoff now).Randomizes randomized) :
    ((checkBackoff now).nextBackoff now randomized).1 = some randomized := by
  cases answer : ((checkBackoff now).nextBackoff now randomized).1 with
  | none =>
    obtain ⟨maxElapsed, limit, passed⟩ := (ExponentialBackoff.nextBackoff_eq_none_iff _ _ _).mp answer
    simp only [checkBackoff, Option.some.injEq] at limit
    simp only [ExponentialBackoff.Randomizes, checkBackoff, ExponentialBackoff.default] at drawn
    simp only [ExponentialBackoff.getElapsedTime, checkBackoff, ExponentialBackoff.default,
      Nat.sub_self, maximumPollingTime] at passed limit
    omega
  | some d => rw [ExponentialBackoff.nextBackoff_eq_some answer]

/-- A send while the receiver is held delivers and returns. -/
theorem send_of_held {s : CheckSystem} (held : s.holder ≠ .dropped) (value : Except AcmError Unit) :
    s.send value = { s.setPc .returned with sent := s.sent ++ [value] } :=
  if_neg held

/-- Any checker that still runs has a receiver to send to. -/
theorem held_of_running {s : CheckSystem} (safe : Safe s) (running : s.checker.pc ≠ .returned) :
    s.holder ≠ .dropped :=
  fun dropped => running (safe.returnedOnceReleased (.inr dropped))

/-- A loop iteration from a safe state, with a recorded error or a backoff that does not give
up, sleeps or sends and returns. -/
theorem nextIteration_cases {s : CheckSystem} {b : ExponentialBackoff} {randomized : Nat}
    (held : s.holder ≠ .dropped)
    (recorded : s.checker.latestError.isSome ∨ (b.nextBackoff s.now randomized).1 = some randomized) :
    (s.nextIteration b randomized).checker.pc = .waiting ∨
      (s.nextIteration b randomized).checker.pc = .returned := by
  unfold nextIteration
  rcases answer : b.nextBackoff s.now randomized with ⟨_ | duration, b'⟩
  · rw [answer] at recorded
    cases error : s.checker.latestError with
    | none => simp [error] at recorded
    | some err => exact .inr (by simp [send, setPc, held])
  · exact .inl rfl

@[simp] theorem nextIteration_holder (s : CheckSystem) (b : ExponentialBackoff) (randomized : Nat) :
    (s.nextIteration b randomized).holder = s.holder := by
  unfold nextIteration
  split
  · split
    · rfl
    · unfold send
      split_ifs <;> rfl
  · rfl

/-- Everything one action can do. -/
theorem step_cases {s next : CheckSystem} {event : CheckEvent} (stepped : s.step event = some next) :
    (∃ duration, next = { s with now := s.now + duration }) ∨
    (∃ b randomized,
      (s.checker.pc = .spawned ∧ b = checkBackoff s.now ∨ s.checker.pc = .loop ∧ b = s.checker.backoff) ∧
      b.Randomizes randomized ∧ next = s.nextIteration b randomized) ∨
    (s.checker.pc = .waiting ∧ s.checker.timer ≤ s.now ∧
      next = { s with
        checker := { s.checker with
          pc := .connecting
          timer := s.now + (maximumPollingTime - s.checker.backoff.getElapsedTime s.now) } }) ∨
    (s.checker.pc = .connecting ∧ next = s.send (.ok ())) ∨
    (∃ err, s.checker.pc = .connecting ∧
      next = { s with checker := { s.checker with pc := .loop, latestError := some err } }) ∨
    (s.checker.pc = .connecting ∧ s.checker.timer ≤ s.now ∧ next = s.send (.error .notReady)) ∨
    (s.sigint ∧ (s.checker.pc = .waiting ∨ s.checker.pc = .connecting) ∧ next = s.setPc .returned) ∨
    (s.holder = .holding ∧ next = { s with sigint := true, holder := .killing }) ∨
    (s.holder = .holding ∧ next = { s with holder := .joining }) ∨
    ((s.holder = .killing ∨ s.holder = .joining) ∧ s.checker.pc.finished ∧
      next = { s with holder := .released }) ∨
    (s.holder = .released ∧ next = { s with holder := .dropped }) := by
  cases event with
  | elapse duration => exact .inl ⟨duration, (Option.some.inj stepped).symm⟩
  | draw randomized =>
    simp only [step] at stepped
    split at stepped
    · rename_i spawned
      split_ifs at stepped with drawn
      exact .inr (.inl ⟨_, randomized, .inl ⟨spawned, rfl⟩, drawn, (Option.some.inj stepped).symm⟩)
    · rename_i loop
      split_ifs at stepped with drawn
      exact .inr (.inl ⟨_, randomized, .inr ⟨loop, rfl⟩, drawn, (Option.some.inj stepped).symm⟩)
    · cases stepped
  | waitElapsed =>
    simp only [step] at stepped
    split_ifs at stepped with waiting
    exact .inr (.inr (.inl ⟨waiting.1, waiting.2, (Option.some.inj stepped).symm⟩))
  | connected result =>
    simp only [step] at stepped
    split_ifs at stepped with connecting
    cases result with
    | ok => exact .inr (.inr (.inr (.inl ⟨connecting, (Option.some.inj stepped).symm⟩)))
    | error err =>
      exact .inr (.inr (.inr (.inr (.inl ⟨err, connecting, (Option.some.inj stepped).symm⟩))))
  | patienceElapsed =>
    simp only [step] at stepped
    split_ifs at stepped with connecting
    exact .inr (.inr (.inr (.inr (.inr (.inl ⟨connecting.1, connecting.2, (Option.some.inj stepped).symm⟩)))))
  | signalled =>
    simp only [step] at stepped
    split_ifs at stepped with selecting
    exact .inr (.inr (.inr (.inr (.inr (.inr (.inl ⟨selecting.1, selecting.2,
      (Option.some.inj stepped).symm⟩))))))
  | kill =>
    simp only [step] at stepped
    split_ifs at stepped with holding
    exact .inr (.inr (.inr (.inr (.inr (.inr (.inr (.inl ⟨holding, (Option.some.inj stepped).symm⟩)))))))
  | join =>
    simp only [step] at stepped
    split_ifs at stepped with holding
    exact .inr (.inr (.inr (.inr (.inr (.inr (.inr (.inr (.inl ⟨holding,
      (Option.some.inj stepped).symm⟩))))))))
  | awaited =>
    simp only [step] at stepped
    split_ifs at stepped with finished
    exact .inr (.inr (.inr (.inr (.inr (.inr (.inr (.inr (.inr (.inl ⟨finished.1, finished.2,
      (Option.some.inj stepped).symm⟩)))))))))
  | drop =>
    simp only [step] at stepped
    split_ifs at stepped with released
    exact .inr (.inr (.inr (.inr (.inr (.inr (.inr (.inr (.inr (.inr ⟨released,
      (Option.some.inj stepped).symm⟩)))))))))

/-- The step lemma: every action keeps `Safe`. -/
theorem safe_step {s next : CheckSystem} {event : CheckEvent} (safe : Safe s)
    (stepped : s.step event = some next) : Safe next := by
  have settled : ∀ {t : CheckSystem}, t.holder = s.holder →
      (t.checker.pc = .waiting ∨ t.checker.pc = .returned ∨ t.checker.pc = .connecting) →
      s.checker.pc ≠ .returned → Safe t := by
    intro t holder pc running
    refine ⟨fun loop => ?_, fun released => ?_, fun reason panicked => ?_⟩
    · rcases pc with e | e | e <;> rw [e] at loop <;> cases loop
    · exact absurd (safe.returnedOnceReleased (holder ▸ released)) running
    · rcases pc with e | e | e <;> rw [e] at panicked <;> cases panicked
  have released : ∀ {t : CheckSystem}, t.checker = s.checker → (t.holder = .released ∨ t.holder = .dropped →
      s.checker.pc = .returned) → Safe t := fun checker once =>
    ⟨checker ▸ safe.errorAtLoop, checker ▸ once, checker ▸ safe.notPanicked⟩
  rcases step_cases stepped with ⟨duration, rfl⟩ | ⟨b, randomized, start, drawn, rfl⟩ |
    ⟨waiting, -, rfl⟩ | ⟨connecting, rfl⟩ | ⟨err, connecting, rfl⟩ | ⟨connecting, -, rfl⟩ |
    ⟨-, selecting, rfl⟩ | ⟨-, rfl⟩ | ⟨-, rfl⟩ | ⟨-, finished, rfl⟩ | ⟨dropping, rfl⟩
  · exact released rfl safe.returnedOnceReleased
  · have running : s.checker.pc ≠ .returned := by rcases start with ⟨e, -⟩ | ⟨e, -⟩ <;> rw [e] <;> nofun
    have recorded : s.checker.latestError.isSome ∨ (b.nextBackoff s.now randomized).1 = some randomized := by
      rcases start with ⟨-, rfl⟩ | ⟨loop, -⟩
      exacts [.inr (checkBackoff_nextBackoff drawn), .inl (safe.errorAtLoop loop)]
    refine settled (nextIteration_holder _ _ _) ?_ running
    rcases nextIteration_cases (held_of_running safe running) recorded with e | e
    exacts [.inl e, .inr (.inl e)]
  · exact settled rfl (.inr (.inr rfl)) (by rw [waiting]; nofun)
  · have running : s.checker.pc ≠ .returned := by rw [connecting]; nofun
    rw [send_of_held (held_of_running safe running)]
    exact settled rfl (.inr (.inl rfl)) running
  · have running : s.checker.pc ≠ .returned := by rw [connecting]; nofun
    exact ⟨fun _ => rfl, fun released => absurd (safe.returnedOnceReleased released) running, nofun⟩
  · have running : s.checker.pc ≠ .returned := by rw [connecting]; nofun
    rw [send_of_held (held_of_running safe running)]
    exact settled rfl (.inr (.inl rfl)) running
  · exact settled rfl (.inr (.inl rfl)) (by rcases selecting with e | e <;> rw [e] <;> nofun)
  · exact released rfl nofun
  · exact released rfl nofun
  · refine released rfl fun _ => ?_
    cases pc : s.checker.pc with
    | returned => rfl
    | panicked reason => exact absurd pc (safe.notPanicked reason)
    | _ => simp [pc, CheckPc.finished] at finished
  · exact released rfl fun _ => safe.returnedOnceReleased (.inl dropping)

/-- The run lemma: `Safe` holds after every run from a safe state. -/
theorem safe_run {s final : CheckSystem} {events : List CheckEvent} (safe : Safe s)
    (ran : s.run events = some final) : Safe final := by
  induction events generalizing s with
  | nil =>
    cases ran
    exact safe
  | cons event rest ih =>
    obtain ⟨next, stepped, continued⟩ := run_cons_eq_some.mp ran
    exact ih (safe_step safe stepped) continued

/-- In every interleaving of the checker with the watcher's `kill`, `join` and drop of the
receiver, whatever the connections answer, the backoff draws and the clock does: the checker
is at `latest_error.unwrap()`'s loop head only with an error recorded, the receiver is
dropped only after the checker has returned, and no `unwrap()` of `check` fails. -/
theorem check_never_panics (endpoint : String) (now : Nat) (events : List CheckEvent)
    (final : CheckSystem) (ran : (init endpoint now).run events = some final) :
    (final.checker.pc = .loop → final.checker.latestError.isSome) ∧
      (final.holder = .dropped → final.checker.pc = .returned) ∧
      ∀ reason, final.checker.pc ≠ .panicked reason :=
  have safe := safe_run (safe_init endpoint now) ran
  ⟨safe.errorAtLoop, fun dropped => safe.returnedOnceReleased (.inr dropped), safe.notPanicked⟩

/-- The connection is refused once, then made; the watcher joins the checker and returns. -/
def retriedThenJoined : List CheckEvent :=
  [.draw 500000000, .elapse 500000000, .waitElapsed, .connected (.error "connection refused"),
    .draw 750000000, .elapse 750000000, .waitElapsed, .connected (.ok ()), .join, .awaited, .drop]

/-- Where `retriedThenJoined` ends. -/
def joinedCheck : CheckSystem where
  endpoint := "http://10.0.0.7:50051"
  now := 1250000000
  checker :=
    { pc := .returned
      latestError := some "connection refused"
      backoff := { checkBackoff 0 with currentInterval := 1125000000 }
      timer := 30000000000 }
  sigint := false
  sent := [.ok ()]
  holder := .dropped

theorem check_never_panics_after_retry :
    (init "http://10.0.0.7:50051" 0).run retriedThenJoined = some joinedCheck ∧
      (joinedCheck.checker.pc = .loop → joinedCheck.checker.latestError.isSome) ∧
      (joinedCheck.holder = .dropped → joinedCheck.checker.pc = .returned) ∧
      ∀ reason, joinedCheck.checker.pc ≠ .panicked reason :=
  have ran : (init "http://10.0.0.7:50051" 0).run retriedThenJoined = some joinedCheck := by decide
  ⟨ran, check_never_panics _ _ _ _ ran⟩

/-! ## What the checker sends -/

/-- What the checker has sent: at most one value, and only once it has returned; `Ok`,
`NotReady`, or `TooManyFailures` carrying the last transport error; and it returns without
sending only after `sigint`. -/
structure Outputs (s : CheckSystem) : Prop where
  atMostOnce : s.sent.length ≤ 1
  sentOnReturn : s.sent ≠ [] → s.checker.pc = .returned
  sendable : ∀ value ∈ s.sent, value = .ok () ∨ value = .error .notReady ∨
    ∃ err, s.checker.latestError = some err ∧ value = .error (.tooManyFailures s.endpoint err)
  silentOnlyCancelled : s.checker.pc = .returned → s.sent = [] → s.sigint = true

theorem outputs_init (endpoint : String) (now : Nat) : Outputs (init endpoint now) :=
  ⟨by simp [init], fun sent => absurd rfl sent, by simp [init], nofun⟩

/-- A checker that is still running has sent nothing. -/
theorem Outputs.sent_eq_nil {s : CheckSystem} (outputs : Outputs s) (running : s.checker.pc ≠ .returned) :
    s.sent = [] := by
  by_contra sent
  exact running (outputs.sentOnReturn sent)

/-- A state that has sent nothing and has not returned. -/
theorem outputs_of_running {s : CheckSystem} (empty : s.sent = []) (running : s.checker.pc ≠ .returned) :
    Outputs s :=
  ⟨by simp [empty], fun sent => absurd empty sent, by simp [empty], fun returned => absurd returned running⟩

/-- A send from a checker that has not returned keeps `Outputs`. -/
theorem outputs_send {s : CheckSystem} {value : Except AcmError Unit} (outputs : Outputs s)
    (running : s.checker.pc ≠ .returned)
    (sendable : value = .ok () ∨ value = .error .notReady ∨
      ∃ err, s.checker.latestError = some err ∧ value = .error (.tooManyFailures s.endpoint err)) :
    Outputs (s.send value) := by
  have empty := outputs.sent_eq_nil running
  unfold send
  split
  · exact outputs_of_running empty nofun
  · refine ⟨by simp [empty], fun _ => rfl, ?_, fun _ sent => by simp at sent⟩
    simpa [setPc, empty] using sendable

/-- A loop iteration from a checker that has not returned keeps `Outputs`. -/
theorem outputs_nextIteration {s : CheckSystem} {b : ExponentialBackoff} {randomized : Nat}
    (outputs : Outputs s) (running : s.checker.pc ≠ .returned) :
    Outputs (s.nextIteration b randomized) := by
  have empty := outputs.sent_eq_nil running
  unfold nextIteration
  split
  · split
    · exact outputs_of_running empty nofun
    · rename_i err recorded
      refine outputs_send (outputs_of_running empty running) running (.inr (.inr ⟨err, recorded, rfl⟩))
  · exact outputs_of_running empty nofun

/-- The step lemma: every action keeps `Outputs`. -/
theorem outputs_step {s next : CheckSystem} {event : CheckEvent} (outputs : Outputs s)
    (stepped : s.step event = some next) : Outputs next := by
  have frame : ∀ {t : CheckSystem}, t.sent = s.sent → t.checker = s.checker → t.endpoint = s.endpoint →
      (s.sigint → t.sigint) → Outputs t := by
    intro t sent checker endpoint sigint
    exact ⟨sent ▸ outputs.atMostOnce, sent ▸ checker ▸ outputs.sentOnReturn,
      sent ▸ checker ▸ endpoint ▸ outputs.sendable,
      fun returned empty => sigint (outputs.silentOnlyCancelled (checker ▸ returned) (sent ▸ empty))⟩
  rcases step_cases stepped with ⟨duration, rfl⟩ | ⟨b, randomized, start, -, rfl⟩ |
    ⟨waiting, -, rfl⟩ | ⟨connecting, rfl⟩ | ⟨err, connecting, rfl⟩ | ⟨connecting, -, rfl⟩ |
    ⟨sigint, selecting, rfl⟩ | ⟨-, rfl⟩ | ⟨-, rfl⟩ | ⟨-, -, rfl⟩ | ⟨-, rfl⟩
  · exact frame rfl rfl rfl id
  · exact outputs_nextIteration outputs (by rcases start with ⟨e, -⟩ | ⟨e, -⟩ <;> rw [e] <;> nofun)
  · exact outputs_of_running (outputs.sent_eq_nil (by rw [waiting]; nofun)) nofun
  · exact outputs_send outputs (by rw [connecting]; nofun) (.inl rfl)
  · exact outputs_of_running (outputs.sent_eq_nil (by rw [connecting]; nofun)) nofun
  · exact outputs_send outputs (by rw [connecting]; nofun) (.inr (.inl rfl))
  · have empty := outputs.sent_eq_nil (by rcases selecting with e | e <;> rw [e] <;> nofun)
    exact ⟨by simp [setPc, empty], fun sent => absurd empty sent, by simp [setPc, empty],
      fun _ _ => sigint⟩
  · exact frame rfl rfl rfl fun _ => rfl
  all_goals exact frame rfl rfl rfl id

/-- The run lemma: `Outputs` holds after every run from a state where it holds. -/
theorem outputs_run {s final : CheckSystem} {events : List CheckEvent} (outputs : Outputs s)
    (ran : s.run events = some final) : Outputs final := by
  induction events generalizing s with
  | nil =>
    cases ran
    exact outputs
  | cons event rest ih =>
    obtain ⟨next, stepped, continued⟩ := run_cons_eq_some.mp ran
    exact ih (outputs_step outputs stepped) continued

@[simp] theorem send_endpoint (s : CheckSystem) (value : Except AcmError Unit) :
    (s.send value).endpoint = s.endpoint := by
  unfold send
  split_ifs <;> rfl

@[simp] theorem nextIteration_endpoint (s : CheckSystem) (b : ExponentialBackoff) (randomized : Nat) :
    (s.nextIteration b randomized).endpoint = s.endpoint := by
  unfold nextIteration
  split
  · split <;> simp
  · rfl

/-- No action changes the endpoint the checker polls. -/
theorem step_endpoint {s next : CheckSystem} {event : CheckEvent} (stepped : s.step event = some next) :
    next.endpoint = s.endpoint := by
  rcases step_cases stepped with ⟨_, rfl⟩ | ⟨_, _, -, -, rfl⟩ | ⟨-, -, rfl⟩ | ⟨-, rfl⟩ | ⟨_, -, rfl⟩ |
    ⟨-, -, rfl⟩ | ⟨-, -, rfl⟩ | ⟨-, rfl⟩ | ⟨-, rfl⟩ | ⟨-, -, rfl⟩ | ⟨-, rfl⟩ <;> first | rfl | simp

theorem endpoint_run {s final : CheckSystem} {events : List CheckEvent} (ran : s.run events = some final) :
    final.endpoint = s.endpoint := by
  induction events generalizing s with
  | nil =>
    cases ran
    rfl
  | cons event rest ih =>
    obtain ⟨next, stepped, continued⟩ := run_cons_eq_some.mp ran
    exact (ih continued).trans (step_endpoint stepped)

/-- In every run, whatever the connections answer, the backoff draws and the watcher does, the
checker sends at most one outcome, and only once it has returned: `Ok`, `NotReady`, or
`TooManyFailures` carrying its endpoint and the last transport error it recorded. It returns
without sending only after `sigint`. -/
theorem check_sends_at_most_one_outcome (endpoint : String) (now : Nat) (events : List CheckEvent)
    (final : CheckSystem) (ran : (init endpoint now).run events = some final) :
    final.sent.length ≤ 1 ∧ (final.sent ≠ [] → final.checker.pc = .returned) ∧
      (∀ value ∈ final.sent, value = .ok () ∨ value = .error .notReady ∨
        ∃ err, final.checker.latestError = some err ∧ value = .error (.tooManyFailures endpoint err)) ∧
      (final.checker.pc = .returned → final.sent = [] → final.sigint = true) :=
  have outputs := outputs_run (outputs_init endpoint now) ran
  have kept : final.endpoint = endpoint := endpoint_run ran
  ⟨outputs.atMostOnce, outputs.sentOnReturn, kept ▸ outputs.sendable, outputs.silentOnlyCancelled⟩

/-- The connection never completes: the patience timer fires at the thirty-second budget. -/
def slowServer : List CheckEvent :=
  [.draw 500000000, .elapse 500000000, .waitElapsed, .elapse 29500000000, .patienceElapsed]

/-- Where `slowServer` ends: `NotReady` sent, the receiver still held. -/
def notReadyCheck : CheckSystem where
  endpoint := "http://10.0.0.7:50051"
  now := 30000000000
  checker :=
    { pc := .returned
      latestError := none
      backoff := { checkBackoff 0 with currentInterval := 750000000 }
      timer := 30000000000 }
  sigint := false
  sent := [.error .notReady]
  holder := .holding

theorem check_sends_at_most_one_outcome_when_slow :
    (init "http://10.0.0.7:50051" 0).run slowServer = some notReadyCheck ∧
      notReadyCheck.sent.length ≤ 1 ∧ (notReadyCheck.sent ≠ [] → notReadyCheck.checker.pc = .returned) ∧
      (∀ value ∈ notReadyCheck.sent, value = .ok () ∨ value = .error .notReady ∨
        ∃ err, notReadyCheck.checker.latestError = some err ∧
          value = .error (.tooManyFailures "http://10.0.0.7:50051" err)) ∧
      (notReadyCheck.checker.pc = .returned → notReadyCheck.sent = [] → notReadyCheck.sigint = true) :=
  have ran : (init "http://10.0.0.7:50051" 0).run slowServer = some notReadyCheck := by decide
  ⟨ran, check_sends_at_most_one_outcome _ _ _ _ ran⟩

end CheckSystem

end ServerCheck

end ConnectorManager
