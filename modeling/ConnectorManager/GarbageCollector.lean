import ConnectorManager.EventWatcher
import ConnectorManager.KeepAliveTicket

namespace ConnectorManager

/-!
# The garbage collector daemon

`GarbageCollectorDaemon::gc` (`acm/src/podmanager/garbage_collector.rs`) as
an explicit state machine. Phase 1 waits for the watcher's first
`GcStatus`; on `Running` the daemon makes a `KeepAliveTicket`, patches the
pod's `execution_date` label and enters its countdown loop, a `select!` over
a refresh request, the ticket's deadline and the next status. A served
refresh makes a new ticket, sends it to the caller and patches the label
again; the deadline or a closed status channel deletes the pod; `Terminated`
ends the daemon.

Every `await` the outside world answers is one input: a `recv` on the
status or the refresh channel, the deadline firing, and the result of a
label patch or of the delete, both of which the code unwraps. Time passes by
`tick`. The `select!` picks any ready branch, so any ready input may come
next; the deadline is ready only once the monotonic clock has reached the
ticket's `execution_instant`. A panic is the program point `panicked`.

`gc_lease_safety` is the lease's safety: the daemon deletes only in its
countdown, on an expired ticket or a closed status channel, never after
`Terminated`, and each of the two issues the delete; the ticket it enforces
is the one made on `Running`, due `ttl` after it, until a refresh is served,
and then the one it last handed to a refresh caller. `gc_abandons_lease_on_failed_patch` and
`gc_panics_on_running_with_max_ttl` are two ways the daemon ends without
deleting the pod.
-/

/-- Where `GarbageCollectorDaemon::gc` is. -/
inductive GcPc where
  /-- Phase 1: `self.status.recv().await`. -/
  | awaitingGoAhead
  /-- `client.patch(..).await.unwrap()`, for the first ticket or a refreshed one. -/
  | patching
  /-- The `select!` of the countdown loop. -/
  | countdown
  /-- `client.delete(..).await.unwrap()`. -/
  | deleting
  | returned
  | panicked
  deriving Repr, DecidableEq

/-- What completes one of the daemon's `await`s. -/
inductive GcInput where
  /-- `self.status.recv()` yields `message` (`None` once the watcher's sender is gone). -/
  | status (message : Option GcStatus)
  /-- `self.refresh_receiver.recv()` yields a request; `received` says whether its caller still awaits the reply. -/
  | refresh (request : Option Bool)
  /-- `keep_alive.sleep()` completes. -/
  | executionDateReached
  /-- The label patch returns `Ok` or `Err`. -/
  | patched (succeeded : Bool)
  /-- The pod delete returns `Ok` or `Err`. -/
  | deleted (succeeded : Bool)
  /-- Time passes: the clocks now read `clock`. -/
  | tick (clock : Clock)
  deriving DecidableEq

/-- What the daemon does to the world. -/
inductive GcEffect where
  /-- Patch the pod's `metadata.labels.execution_date`. -/
  | patch (executionDate : Int)
  /-- `refresh.send(keep_alive.clone())`; `received` says whether the caller got it. -/
  | reply (ticket : KeepAliveTicket) (received : Bool)
  /-- `client.delete(&pod, ..)`. -/
  | delete
  deriving Repr, DecidableEq

/-- The daemon's state: its arguments, the clocks, its program point, `keep_alive` and its effects. -/
structure Gc where
  pod : String
  ttl : UInt64
  clock : Clock
  pc : GcPc
  keepAlive : Option KeepAliveTicket
  effects : List GcEffect
  deriving DecidableEq

namespace Gc

/-- The daemon as `GarbageCollector::new` spawns it. -/
def init (pod : String) (ttl : UInt64) (clock : Clock) : Gc where
  pod := pod
  ttl := ttl
  clock := clock
  pc := .awaitingGoAhead
  keepAlive := none
  effects := []

/-- `keep_alive = KeepAliveTicket::new(&pod, ttl)`, the `answer` to a refresh, then the label patch. -/
def renew (g : Gc) (answer : KeepAliveTicket → List GcEffect) : Gc :=
  match KeepAliveTicket.new g.clock g.pod g.ttl with
  | none => { g with pc := .panicked }
  | some ticket =>
      { g with
        pc := .patching
        keepAlive := some ticket
        effects := g.effects ++ answer ticket ++ [.patch ticket.executionDate] }

/-- Issue the pod delete and await it. -/
def delete (g : Gc) : Gc :=
  { g with pc := .deleting, effects := g.effects ++ [.delete] }

/-- The deadline branch of the `select!` is ready: the clock has reached `keep_alive`'s instant. -/
def expired (g : Gc) : Bool :=
  match g.keepAlive with
  | some ticket => decide (ticket.executionInstant ≤ g.clock.monotonic)
  | none => false

/-- One input, or `none` when the daemon is not awaiting it. -/
def step (g : Gc) : GcInput → Option Gc
  | .tick clock =>
      if g.clock.monotonic ≤ clock.monotonic ∧ g.pc ≠ .returned ∧ g.pc ≠ .panicked then
        some { g with clock := clock }
      else
        none
  | .status message =>
      match g.pc, message with
      | .awaitingGoAhead, none => some { g with pc := .returned }
      | .awaitingGoAhead, some .terminated => some { g with pc := .returned }
      | .awaitingGoAhead, some (.running _) => some (g.renew fun _ => [])
      | .countdown, none => some g.delete
      | .countdown, some (.running _) => some g
      | .countdown, some .terminated => some { g with pc := .returned }
      | _, _ => none
  | .refresh request =>
      match g.pc, request with
      | .countdown, none => some g
      | .countdown, some received => some (g.renew fun ticket => [.reply ticket received])
      | _, _ => none
  | .executionDateReached =>
      if g.pc = .countdown ∧ g.expired then some g.delete else none
  | .patched succeeded =>
      if g.pc = .patching then some { g with pc := if succeeded then .countdown else .panicked } else none
  | .deleted succeeded =>
      if g.pc = .deleting then some { g with pc := if succeeded then .returned else .panicked } else none

/-- Feed the daemon a list of inputs; `none` as soon as one is not awaited. -/
def run (g : Gc) : List GcInput → Option Gc
  | [] => some g
  | input :: rest =>
      match g.step input with
      | some next => next.run rest
      | none => none

/-- `renew` either panics in `KeepAliveTicket::new` or adopts the new ticket and awaits its patch. -/
theorem renew_cases (g : Gc) (answer : KeepAliveTicket → List GcEffect) :
    (KeepAliveTicket.new g.clock g.pod g.ttl = none ∧ g.renew answer = { g with pc := .panicked }) ∨
      ∃ ticket,
        KeepAliveTicket.new g.clock g.pod g.ttl = some ticket ∧
          g.renew answer =
            { g with
              pc := .patching
              keepAlive := some ticket
              effects := g.effects ++ answer ticket ++ [.patch ticket.executionDate] } := by
  unfold renew
  cases KeepAliveTicket.new g.clock g.pod g.ttl with
  | none => exact .inl ⟨rfl, rfl⟩
  | some ticket => exact .inr ⟨ticket, rfl, rfl⟩

/-- The deadline branch is ready exactly when the clock has reached `keep_alive`'s instant. -/
theorem expired_iff (g : Gc) :
    g.expired = true ↔ ∃ ticket, g.keepAlive = some ticket ∧ ticket.executionInstant ≤ g.clock.monotonic := by
  unfold expired
  cases g.keepAlive <;> simp

section Steps

variable {g next : Gc} {input : GcInput}

/-- Everything one step of the daemon can do. -/
theorem step_cases (stepped : g.step input = some next) :
    (∃ clock, input = .tick clock ∧ g.clock.monotonic ≤ clock.monotonic ∧ g.pc ≠ .returned ∧
      g.pc ≠ .panicked ∧ next = { g with clock := clock }) ∨
    (g.pc = .awaitingGoAhead ∧ (input = .status none ∨ input = .status (some .terminated)) ∧
      next = { g with pc := .returned }) ∨
    (∃ pod, g.pc = .awaitingGoAhead ∧ input = .status (some (.running pod)) ∧ next = g.renew fun _ => []) ∨
    (g.pc = .countdown ∧ input = .status none ∧ next = g.delete) ∨
    (g.pc = .countdown ∧ ((∃ pod, input = .status (some (.running pod))) ∨ input = .refresh none) ∧
      next = g) ∨
    (g.pc = .countdown ∧ input = .status (some .terminated) ∧ next = { g with pc := .returned }) ∨
    (∃ received, g.pc = .countdown ∧ input = .refresh (some received) ∧
      next = g.renew fun ticket => [.reply ticket received]) ∨
    (g.pc = .countdown ∧ input = .executionDateReached ∧ g.expired = true ∧ next = g.delete) ∨
    (∃ succeeded, g.pc = .patching ∧ input = .patched succeeded ∧
      next = { g with pc := if succeeded then .countdown else .panicked }) ∨
    (∃ succeeded, g.pc = .deleting ∧ input = .deleted succeeded ∧
      next = { g with pc := if succeeded then .returned else .panicked }) := by
  cases input with
  | tick clock =>
      simp only [step] at stepped
      split at stepped <;> cases stepped
      rename_i live
      exact .inl ⟨clock, rfl, live.1, live.2.1, live.2.2, rfl⟩
  | status message =>
      simp only [step] at stepped
      split at stepped <;> cases stepped
      · exact .inr (.inl ⟨‹_›, .inl rfl, rfl⟩)
      · exact .inr (.inl ⟨‹_›, .inr rfl, rfl⟩)
      · exact .inr (.inr (.inl ⟨_, ‹_›, rfl, rfl⟩))
      · exact .inr (.inr (.inr (.inl ⟨‹_›, rfl, rfl⟩)))
      · exact .inr (.inr (.inr (.inr (.inl ⟨‹_›, .inl ⟨_, rfl⟩, rfl⟩))))
      · exact .inr (.inr (.inr (.inr (.inr (.inl ⟨‹_›, rfl, rfl⟩)))))
  | refresh request =>
      simp only [step] at stepped
      split at stepped <;> cases stepped
      · exact .inr (.inr (.inr (.inr (.inl ⟨‹_›, .inr rfl, rfl⟩))))
      · exact .inr (.inr (.inr (.inr (.inr (.inr (.inl ⟨_, ‹_›, rfl, rfl⟩))))))
  | executionDateReached =>
      simp only [step] at stepped
      split at stepped <;> cases stepped
      rename_i ready
      exact .inr (.inr (.inr (.inr (.inr (.inr (.inr (.inl ⟨ready.1, rfl, ready.2, rfl⟩)))))))
  | patched succeeded =>
      simp only [step] at stepped
      split at stepped <;> cases stepped
      exact .inr (.inr (.inr (.inr (.inr (.inr (.inr (.inr (.inl ⟨succeeded, ‹_›, rfl, rfl⟩))))))))
  | deleted succeeded =>
      simp only [step] at stepped
      split at stepped <;> cases stepped
      exact .inr (.inr (.inr (.inr (.inr (.inr (.inr (.inr (.inr ⟨succeeded, ‹_›, rfl, rfl⟩))))))))

/-- A step keeps the daemon's arguments and only appends to its effects. -/
theorem step_frame (stepped : g.step input = some next) :
    next.pod = g.pod ∧ next.ttl = g.ttl ∧ ∃ added, next.effects = g.effects ++ added := by
  have renewFrame : ∀ answer : KeepAliveTicket → List GcEffect,
      (g.renew answer).pod = g.pod ∧ (g.renew answer).ttl = g.ttl ∧
        ∃ added, (g.renew answer).effects = g.effects ++ added := fun answer => by
    rcases renew_cases g answer with ⟨-, renewed⟩ | ⟨ticket, -, renewed⟩ <;> rw [renewed]
    · exact ⟨rfl, rfl, [], (List.append_nil _).symm⟩
    · exact ⟨rfl, rfl, _, List.append_assoc _ _ _⟩
  rcases step_cases stepped with ⟨-, -, -, -, -, rfl⟩ | ⟨-, -, rfl⟩ | ⟨-, -, -, rfl⟩ | ⟨-, -, rfl⟩ |
    ⟨-, -, rfl⟩ | ⟨-, -, rfl⟩ | ⟨-, -, -, rfl⟩ | ⟨-, -, -, rfl⟩ | ⟨-, -, -, rfl⟩ | ⟨-, -, -, rfl⟩
  all_goals first
    | exact ⟨rfl, rfl, [], (List.append_nil _).symm⟩
    | exact ⟨rfl, rfl, [.delete], rfl⟩
    | exact renewFrame _

/-- A step that issues a pod delete is a countdown step on a closed status channel or an expired ticket. -/
theorem delete_of_step
    (stepped : g.step input = some next)
    (deletes : g.effects.count .delete < next.effects.count .delete) :
    g.pc = .countdown ∧
      (input = .status none ∨
        input = .executionDateReached ∧
          ∃ ticket, g.keepAlive = some ticket ∧ ticket.executionInstant ≤ g.clock.monotonic) := by
  have renewKeeps : ∀ answer : KeepAliveTicket → List GcEffect, (∀ ticket, .delete ∉ answer ticket) →
      (g.renew answer).effects.count .delete = g.effects.count .delete := fun answer clean => by
    rcases renew_cases g answer with ⟨-, renewed⟩ | ⟨ticket, -, renewed⟩
    · rw [renewed]
    · simp [renewed, List.count_eq_zero_of_not_mem (clean ticket)]
  rcases step_cases stepped with ⟨_, _, _, _, _, rfl⟩ | ⟨_, _, rfl⟩ | ⟨_, _, _, rfl⟩ | ⟨countdown, rfl, rfl⟩ |
    ⟨_, _, rfl⟩ | ⟨_, _, rfl⟩ | ⟨_, _, _, rfl⟩ | ⟨countdown, rfl, expired, rfl⟩ | ⟨_, _, _, rfl⟩ |
    ⟨_, _, _, rfl⟩
  all_goals try exact absurd deletes (lt_irrefl _)
  · rw [renewKeeps _ fun _ => List.not_mem_nil _] at deletes
    exact absurd deletes (lt_irrefl _)
  · exact ⟨countdown, .inl rfl⟩
  · rw [renewKeeps _ fun ticket => by simp] at deletes
    exact absurd deletes (lt_irrefl _)
  · exact ⟨countdown, .inr ⟨rfl, (expired_iff g).mp expired⟩⟩

/-- An ended daemon awaits nothing. -/
theorem step_of_ended (ended : g.pc = .returned ∨ g.pc = .panicked) (input : GcInput) :
    g.step input = none := by
  cases input <;> rcases ended with ended | ended <;> simp [step, ended]

/-- `Terminated` ends the daemon, wherever it is awaited. -/
theorem returned_of_terminated (stepped : g.step (.status (some .terminated)) = some next) :
    next.pc = .returned := by
  simp only [step] at stepped
  split at stepped <;> cases stepped <;> first | rfl | simp_all

/-- Once the countdown has begun, only a served refresh changes `keep_alive`, and Phase 1 never returns. -/
theorem keepAlive_of_step
    (started : g.pc ≠ .awaitingGoAhead)
    (unserved : ∀ received, input ≠ .refresh (some received))
    (stepped : g.step input = some next) :
    next.keepAlive = g.keepAlive ∧ next.pc ≠ .awaitingGoAhead := by
  rcases step_cases stepped with ⟨-, -, -, -, -, rfl⟩ | ⟨awaiting, -, -⟩ | ⟨-, awaiting, -, -⟩ |
    ⟨-, -, rfl⟩ | ⟨-, -, rfl⟩ | ⟨-, -, rfl⟩ | ⟨received, -, served, -⟩ | ⟨-, -, -, rfl⟩ |
    ⟨succeeded, -, -, rfl⟩ | ⟨succeeded, -, -, rfl⟩
  · exact ⟨rfl, started⟩
  · exact absurd awaiting started
  · exact absurd awaiting started
  · exact ⟨rfl, by simp [delete]⟩
  · exact ⟨rfl, started⟩
  · exact ⟨rfl, by simp⟩
  · exact absurd served (unserved received)
  · exact ⟨rfl, by simp [delete]⟩
  all_goals exact ⟨rfl, by cases succeeded <;> simp⟩

/-- In the countdown, a closed status channel issues the pod delete. -/
theorem step_status_none (countdown : g.pc = .countdown) :
    g.step (.status none) = some { g with pc := .deleting, effects := g.effects ++ [.delete] } := by
  simp [step, countdown, delete]

/-- In the countdown, a deadline the clock has reached issues the pod delete. -/
theorem step_executionDateReached {ticket : KeepAliveTicket} (countdown : g.pc = .countdown)
    (adopted : g.keepAlive = some ticket) (reached : ticket.executionInstant ≤ g.clock.monotonic) :
    g.step .executionDateReached = some { g with pc := .deleting, effects := g.effects ++ [.delete] } := by
  simp [step, countdown, delete, (expired_iff g).mpr ⟨ticket, adopted, reached⟩]

end Steps

section Runs

variable {g final : Gc} {inputs : List GcInput}

/-- Running `pre ++ post` runs `pre`, then `post`. -/
theorem run_append (g : Gc) (pre post : List GcInput) :
    g.run (pre ++ post) = (g.run pre).bind fun middle => middle.run post := by
  induction pre generalizing g with
  | nil => rfl
  | cons input rest inductionHypothesis =>
      simp only [List.cons_append, run]
      split <;> simp [inductionHypothesis]

/-- A run of `input :: rest` is one step, then a run of `rest`. -/
theorem run_cons_eq_some {input : GcInput} {rest : List GcInput} :
    g.run (input :: rest) = some final ↔ ∃ next, g.step input = some next ∧ next.run rest = some final := by
  simp only [run]
  split <;> simp_all

/-- An ended daemon accepts only the empty run. -/
theorem run_of_ended (ended : g.pc = .returned ∨ g.pc = .panicked) (ran : g.run inputs = some final) :
    inputs = [] ∧ final = g := by
  cases inputs with
  | nil =>
      cases ran
      exact ⟨rfl, rfl⟩
  | cons input rest => simp [run, step_of_ended ended] at ran

/-- A run that took `Terminated` ended with it. -/
theorem returned_of_run (terminated : .status (some .terminated) ∈ inputs) (ran : g.run inputs = some final) :
    final.pc = .returned := by
  induction inputs generalizing g with
  | nil => simp at terminated
  | cons input rest inductionHypothesis =>
      obtain ⟨next, stepped, continued⟩ := run_cons_eq_some.mp ran
      rcases List.mem_cons.mp terminated with rfl | later
      · have ended := returned_of_terminated stepped
        obtain ⟨rfl, rfl⟩ := run_of_ended (.inl ended) continued
        exact ended
      · exact inductionHypothesis later continued

/-- The frame of a whole run. -/
theorem run_frame (ran : g.run inputs = some final) :
    final.pod = g.pod ∧ final.ttl = g.ttl ∧ ∃ added, final.effects = g.effects ++ added := by
  induction inputs generalizing g with
  | nil =>
      cases ran
      exact ⟨rfl, rfl, [], by simp⟩
  | cons input rest inductionHypothesis =>
      obtain ⟨next, stepped, continued⟩ := run_cons_eq_some.mp ran
      obtain ⟨samePod, sameTtl, added, grown⟩ := step_frame stepped
      obtain ⟨finalPod, finalTtl, more, grownMore⟩ := inductionHypothesis continued
      exact ⟨finalPod.trans samePod, finalTtl.trans sameTtl, added ++ more, by simp [grownMore, grown]⟩

/-- After the countdown has begun, a run without a served refresh keeps `keep_alive`. -/
theorem keepAlive_of_run
    (started : g.pc ≠ .awaitingGoAhead)
    (unserved : ∀ input ∈ inputs, ∀ received, input ≠ .refresh (some received))
    (ran : g.run inputs = some final) :
    final.keepAlive = g.keepAlive := by
  induction inputs generalizing g with
  | nil => cases ran; rfl
  | cons input rest inductionHypothesis =>
      obtain ⟨next, stepped, continued⟩ := run_cons_eq_some.mp ran
      obtain ⟨kept, stillStarted⟩ := keepAlive_of_step started (unserved input (List.mem_cons_self _ _)) stepped
      rw [inductionHypothesis stillStarted (fun other mem => unserved other (List.mem_cons_of_mem _ mem)) continued,
        kept]

/-- A run of `pre ++ input :: post` passes through the state `pre` leads to. -/
theorem run_through {pre post : List GcInput} {input : GcInput} {before : Gc}
    (reached : g.run pre = some before) (ran : g.run (pre ++ input :: post) = some final) :
    ∃ middle, before.step input = some middle ∧ middle.run post = some final := by
  rw [run_append, reached, Option.some_bind] at ran
  exact run_cons_eq_some.mp ran

/--
A run from a renewal with no served refresh either ends in the panic of
`KeepAliveTicket::new`, or enforces the ticket the renewal made and keeps the
renewal's answer among its effects.
-/
theorem run_of_renew {before : Gc} {answer : KeepAliveTicket → List GcEffect}
    (unserved : ∀ input ∈ inputs, ∀ received, input ≠ .refresh (some received))
    (ran : (before.renew answer).run inputs = some final) :
    (KeepAliveTicket.new before.clock before.pod before.ttl = none ∧ final.pc = .panicked) ∨
      ∃ ticket, KeepAliveTicket.new before.clock before.pod before.ttl = some ticket ∧
        final.keepAlive = some ticket ∧ ∀ effect ∈ answer ticket, effect ∈ final.effects := by
  rcases renew_cases before answer with ⟨failed, renewed⟩ | ⟨ticket, made, renewed⟩ <;> rw [renewed] at ran
  · obtain ⟨-, rfl⟩ := run_of_ended (.inr rfl) ran
    exact .inl ⟨failed, rfl⟩
  · obtain ⟨-, -, added, grown⟩ := run_frame ran
    exact .inr ⟨ticket, made, keepAlive_of_run (by simp) unserved ran, fun effect member => by simp [grown, member]⟩

end Runs

/--
A run from `init` that renews the ticket at `before`, with no refresh served
after it, ends in the panic of `KeepAliveTicket::new`, or enforces the ticket
made at `before`, due `ttl` seconds after it, with the renewal's answer among
its effects.
-/
theorem run_through_renew {pod : String} {ttl : UInt64} {clock : Clock} {pre post : List GcInput}
    {input : GcInput} {before final : Gc} {answer : KeepAliveTicket → List GcEffect}
    (reached : (init pod ttl clock).run pre = some before)
    (renews : ∀ middle, before.step input = some middle → middle = before.renew answer)
    (unserved : ∀ input ∈ post, ∀ received, input ≠ .refresh (some received))
    (ran : (init pod ttl clock).run (pre ++ input :: post) = some final) :
    (KeepAliveTicket.new before.clock pod ttl = none ∧ final.pc = .panicked) ∨
      ∃ ticket, final.keepAlive = some ticket ∧ (∀ effect ∈ answer ticket, effect ∈ final.effects) ∧
        ticket.executionInstant = before.clock.monotonic + ttl.toNat * nanosPerSecond := by
  have samePod : before.pod = pod := (run_frame reached).1
  have sameTtl : before.ttl = ttl := (run_frame reached).2.1
  obtain ⟨middle, stepped, continued⟩ := run_through reached ran
  rw [renews middle stepped] at continued
  rcases run_of_renew unserved continued with ⟨failed, panicked⟩ | ⟨ticket, made, adopted, answered⟩
  · rw [samePod, sameTtl] at failed
    exact .inl ⟨failed, panicked⟩
  · rw [samePod, sameTtl] at made
    exact .inr ⟨ticket, adopted, answered, KeepAliveTicket.executionInstant_of_new made⟩

/-- What the daemon guarantees about its lease at a state `g` that `inputs` lead to from `init pod ttl clock`. -/
structure LeaseSafe (pod : String) (ttl : UInt64) (clock : Clock) (inputs : List GcInput) (g : Gc) : Prop where
  /--
  A step that issues a pod delete is taken in the countdown, before any
  `Terminated`, on a closed status channel or on a ticket whose deadline the
  clock has reached.
  -/
  deletesJustified :
    ∀ input next, g.step input = some next →
      g.effects.count .delete < next.effects.count .delete →
        g.pc = .countdown ∧ .status (some .terminated) ∉ inputs ∧
          (input = .status none ∨
            input = .executionDateReached ∧
              ∃ ticket, g.keepAlive = some ticket ∧ ticket.executionInstant ≤ g.clock.monotonic)
  /-- In the countdown, a closed status channel and a deadline the clock has reached each issue the pod delete. -/
  deletesWhenDue :
    g.pc = .countdown →
      g.step (.status none) = some { g with pc := .deleting, effects := g.effects ++ [.delete] } ∧
        ∀ ticket, g.keepAlive = some ticket → ticket.executionInstant ≤ g.clock.monotonic →
          g.step .executionDateReached = some { g with pc := .deleting, effects := g.effects ++ [.delete] }
  /--
  Until a refresh is served, the ticket enforced is the one made on `Running`
  in Phase 1, due `ttl` seconds after it, unless making it panicked.
  -/
  enforcesFirstTicket :
    ∀ pre snapshot post before,
      inputs = pre ++ .status (some (.running snapshot)) :: post →
      (init pod ttl clock).run pre = some before → before.pc = .awaitingGoAhead →
      (∀ input ∈ post, ∀ other, input ≠ .refresh (some other)) →
        (KeepAliveTicket.new before.clock pod ttl = none ∧ g.pc = .panicked) ∨
          ∃ ticket, g.keepAlive = some ticket ∧
            ticket.executionInstant = before.clock.monotonic + ttl.toNat * nanosPerSecond
  /--
  After the last refresh served, the ticket enforced is the one sent to that
  caller, due `ttl` seconds after that refresh, unless making it panicked.
  -/
  enforcesLastRefresh :
    ∀ pre received post before,
      inputs = pre ++ .refresh (some received) :: post →
      (init pod ttl clock).run pre = some before →
      (∀ input ∈ post, ∀ other, input ≠ .refresh (some other)) →
        (KeepAliveTicket.new before.clock pod ttl = none ∧ g.pc = .panicked) ∨
          ∃ ticket, g.keepAlive = some ticket ∧ .reply ticket received ∈ g.effects ∧
            ticket.executionInstant = before.clock.monotonic + ttl.toNat * nanosPerSecond

/-- The lease's safety holds at every state of every run of the daemon. -/
theorem gc_lease_safety
    (pod : String)
    (ttl : UInt64)
    (clock : Clock)
    (inputs : List GcInput)
    (g : Gc)
    (ran : (init pod ttl clock).run inputs = some g) :
    LeaseSafe pod ttl clock inputs g := by
  constructor
  · intro input next stepped deletes
    obtain ⟨countdown, justified⟩ := delete_of_step stepped deletes
    refine ⟨countdown, fun terminated => ?_, justified⟩
    have ended := returned_of_run terminated ran
    simp [ended] at countdown
  · exact fun countdown => ⟨step_status_none countdown, fun _ adopted reached =>
      step_executionDateReached countdown adopted reached⟩
  · rintro pre snapshot post before rfl reached awaiting unserved
    have renews : ∀ middle, before.step (.status (some (.running snapshot))) = some middle →
        middle = before.renew fun _ => [] := fun middle stepped => by
      simpa [step, awaiting] using stepped.symm
    rcases run_through_renew reached renews unserved ran with ⟨failed, panicked⟩ | ⟨ticket, adopted, -, due⟩
    exacts [.inl ⟨failed, panicked⟩, .inr ⟨ticket, adopted, due⟩]
  · rintro pre received post before rfl reached unserved
    have renews : ∀ middle, before.step (.refresh (some received)) = some middle →
        middle = before.renew fun ticket => [.reply ticket received] := fun middle stepped => by
      cases pc : before.pc <;> simp [step, pc] at stepped
      exact stepped.symm
    rcases run_through_renew reached renews unserved ran with ⟨failed, panicked⟩ | ⟨ticket, adopted, replied, due⟩
    exacts [.inl ⟨failed, panicked⟩, .inr ⟨ticket, adopted, replied _ (List.mem_singleton_self _), due⟩]

/-- A failed label patch panics the daemon, whichever ticket it was for. -/
theorem step_patched_false {g : Gc} (patching : g.pc = .patching) :
    g.step (.patched false) = some { g with pc := .panicked } := by
  simp [step, patching]

/-- A clock reading of November 2023, with the monotonic clock at its start. -/
def startClock : Clock where
  wall := 1700000000
  monotonic := 0
  wall_mem := by decide
  monotonic_le := by decide

/-- The same clocks thirty minutes later. -/
def halfHourLater : Clock where
  wall := 1700001800
  monotonic := 1800 * 1000000000
  wall_mem := by decide
  monotonic_le := by decide

/-- A lease that starts, is refreshed once, and runs out. -/
def refreshedLease : List GcInput :=
  [.status (some (.running {})), .patched true, .refresh (some true), .patched true, .tick halfHourLater]

/-- Where `refreshedLease` leads. -/
def leaseRunOut : Gc :=
  ((init "pod" defaultTtl startClock).run refreshedLease).getD (init "pod" defaultTtl startClock)

theorem gc_lease_safety_after_refresh :
    leaseRunOut.step .executionDateReached = some leaseRunOut.delete ∧
      LeaseSafe "pod" defaultTtl startClock refreshedLease leaseRunOut :=
  have ran : (init "pod" defaultTtl startClock).run refreshedLease = some leaseRunOut := rfl
  ⟨rfl, gc_lease_safety "pod" defaultTtl startClock refreshedLease leaseRunOut ran⟩

/--
A failed patch of the first ticket's label ends the daemon in a panic,
having issued no pod delete: the lease is never enforced.
-/
theorem gc_abandons_lease_on_failed_patch (snapshot : Pod) :
    ((init "pod" defaultTtl startClock).run [.status (some (.running snapshot)), .patched false]).map
        (fun g => (g.pc, g.effects)) =
      some (.panicked, [.patch 1700001800]) :=
  rfl

/-- Where `KeepAliveTicket::new` panics, `Running` panics the daemon in Phase 1. -/
theorem step_running_of_new_none
    {pod : String} {ttl : UInt64} {clock : Clock} (snapshot : Pod)
    (panics : KeepAliveTicket.new clock pod ttl = none) :
    (init pod ttl clock).step (.status (some (.running snapshot))) =
      some { init pod ttl clock with pc := .panicked } := by
  simp only [step, init, renew, panics]

/-- With `ttl = u64::MAX` from `/deploy`, the daemon panics on `Running`, at every clock, before any delete. -/
theorem gc_panics_on_running_with_max_ttl (pod : String) (clock : Clock) (snapshot : Pod) :
    (init pod (deployTtl (some 18446744073709551615)) clock).step (.status (some (.running snapshot))) =
      some { init pod (deployTtl (some 18446744073709551615)) clock with pc := .panicked } :=
  step_running_of_new_none snapshot (KeepAliveTicket.new_of_ge (by decide) clock pod)

end Gc

end ConnectorManager
