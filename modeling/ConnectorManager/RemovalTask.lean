import ConnectorManager.ImageWorkflow
import ConnectorManager.Backoff

namespace ConnectorManager

/-!
# The removal tasks of a dropped namespace or image

When a `Namespace` or a `TmpImage` is dropped, its `Drop`
(`containerd/namespace.rs`, `containerd/tmp_image.rs`) spawns a task that runs
the removal command in a loop paced by a default `ExponentialBackoff`, made
when the task starts:

* the command runs; then `next_backoff()` is asked, whatever the result;
* a failure with a pause sleeps that long and tries again;
* a failure when the backoff gives up returns, leaving the namespace or image
  orphaned; a success returns.

Every task of an install runs beside the others and beside those of other
installs, all against one containerd. `World` interleaves them: an `attempt`
event runs one turn of one task's loop, at a time when that task is awake, with
the child's outcome and the backoff's draw as the environment's answers, and
`elapse` lets time pass. Containerd holds images by namespace and reference: a
successful image removal takes the image away, and containerd never removes
a namespace that still holds an image.

`paced_run` shows that each task keeps at least 250 ms between two attempts
and sleeps past no more than fifteen minutes after its spawn, so that no task
ever makes more than 3601 attempts. `imagesKept_run` shows that an image no
task removes stays in containerd; with `import_spawns_removals`, an install that
did not read its listing leaves its namespace to one task that can never
remove it.
-/

namespace Removal

/-- The command a removal task runs. -/
def command : Removal → Command
  | .namespace ns => ctr [.plain "namespace", .plain "remove", .plain ns]
  | .image ns reference => ctr [.plain "-n", .plain ns, .plain "images", .plain "remove", .plain reference]

/-- The namespace a removal acts in. -/
def ns : Removal → String
  | .namespace ns | .image ns _ => ns

/-- Containerd refuses to remove a namespace that still holds an image. -/
def blocked (images : List (String × String)) : Removal → Bool
  | .namespace ns => images.any fun image => image.1 == ns
  | .image _ _ => false

/-- The images containerd holds after the removal succeeded. -/
def removeFrom (images : List (String × String)) : Removal → List (String × String)
  | .namespace _ => images
  | .image ns reference => images.filter (· != (ns, reference))

end Removal

namespace RemovalTask

/-- Where a removal task is. -/
inductive Pc where
  /-- In the loop; its next attempt is due at `wakeAt`, its spawn or the end of its sleep. -/
  | running (wakeAt : Nat)
  /-- The command succeeded. -/
  | removed
  /-- The backoff gave up: "the namespace may be orphaned now". -/
  | orphaned
  deriving Repr, DecidableEq

/-- A removal task: what it removes, its backoff, where it is, and how many times it ran the
command. -/
structure Task where
  removal : Removal
  backoff : ExponentialBackoff
  pc : Pc
  attempts : Nat
  deriving Repr, DecidableEq

namespace Task

/-- The task `tokio::spawn` starts at `now`, with `ExponentialBackoff::default()`. -/
def spawn (removal : Removal) (now : Nat) : Task :=
  ⟨removal, .default now, .running now, 0⟩

/-- One turn of the loop: the command returned `outcome` at `now`, and `next_backoff()` drew
`randomized`. -/
def attempt (task : Task) (now : Nat) (outcome : ChildOutcome) (randomized : Nat) : Task :=
  match exec task.removal.command.debugString outcome, task.backoff.nextBackoff now randomized with
  | .error _, (some pause, backoff) =>
    { task with backoff, pc := .running (now + pause), attempts := task.attempts + 1 }
  | .error _, (none, backoff) => { task with backoff, pc := .orphaned, attempts := task.attempts + 1 }
  | .ok _, (_, backoff) => { task with backoff, pc := .removed, attempts := task.attempts + 1 }

/-- What one turn does: the removal, the backoff after `next_backoff()`, one more attempt, and
where the loop goes, removed only on the command's success and asleep only for the pause the
backoff gave. -/
theorem attempt_eq (task : Task) (now : Nat) (outcome : ChildOutcome) (randomized : Nat) :
    (task.attempt now outcome randomized).removal = task.removal ∧
      (task.attempt now outcome randomized).backoff = (task.backoff.nextBackoff now randomized).2 ∧
      (task.attempt now outcome randomized).attempts = task.attempts + 1 ∧
      (((exec task.removal.command.debugString outcome).toBool = true ∧
          (task.attempt now outcome randomized).pc = .removed) ∨
        ((exec task.removal.command.debugString outcome).toBool = false ∧
          ((∃ pause, (task.backoff.nextBackoff now randomized).1 = some pause ∧
            (task.attempt now outcome randomized).pc = .running (now + pause)) ∨
          (task.attempt now outcome randomized).pc = .orphaned))) := by
  rcases answered : task.backoff.nextBackoff now randomized with ⟨_ | pause, backoff⟩ <;>
    cases ran : exec task.removal.command.debugString outcome <;>
    simp [attempt, answered, ran, Except.toBool]

@[simp] theorem attempt_removal (task : Task) (now : Nat) (outcome : ChildOutcome) (randomized : Nat) :
    (task.attempt now outcome randomized).removal = task.removal :=
  (attempt_eq task now outcome randomized).1

@[simp] theorem attempt_backoff (task : Task) (now : Nat) (outcome : ChildOutcome) (randomized : Nat) :
    (task.attempt now outcome randomized).backoff = (task.backoff.nextBackoff now randomized).2 :=
  (attempt_eq task now outcome randomized).2.1

@[simp] theorem attempt_attempts (task : Task) (now : Nat) (outcome : ChildOutcome) (randomized : Nat) :
    (task.attempt now outcome randomized).attempts = task.attempts + 1 :=
  (attempt_eq task now outcome randomized).2.2.1

end Task

/-! ## The pace of one task -/

/-- What the default backoff keeps along a task's turns: its limits, an interval of at least
500 ms, at least 250 ms per attempt made before its next one, and no sleep that ends more
than fifteen minutes after the spawn. -/
structure Paced (task : Task) : Prop where
  maxElapsedTime : task.backoff.maxElapsedTime = some 900000000000
  maxInterval : task.backoff.maxInterval = 60000000000
  atLeastInitial : 500000000 ≤ task.backoff.currentInterval
  spaced : ∀ wakeAt, task.pc = .running wakeAt → task.backoff.startTime + 250000000 * task.attempts ≤ wakeAt
  withinLimit : ∀ wakeAt, task.pc = .running wakeAt → 0 < task.attempts →
    wakeAt ≤ task.backoff.startTime + 900000000000
  bounded : task.attempts ≤ 3601

theorem paced_spawn (removal : Removal) (now : Nat) : Paced (Task.spawn removal now) where
  maxElapsedTime := rfl
  maxInterval := rfl
  atLeastInitial := Nat.le_refl _
  spaced := fun _ running => by cases running; simp [Task.spawn, ExponentialBackoff.default]
  withinLimit := fun _ _ started => by simp [Task.spawn] at started
  bounded := Nat.zero_le _

/-- A running task has made at most 3600 attempts. -/
theorem Paced.running_attempts_le {task : Task} {wakeAt : Nat} (paced : Paced task)
    (running : task.pc = .running wakeAt) : task.attempts ≤ 3600 := by
  have spaced := paced.spaced wakeAt running
  rcases Nat.eq_zero_or_pos task.attempts with none | started
  · omega
  · have := paced.withinLimit wakeAt running started
    omega

/-- A turn of a running task, due by `now`, with a draw in the backoff's range, keeps the pace. -/
theorem paced_attempt {task : Task} {wakeAt now randomized : Nat} (outcome : ChildOutcome)
    (paced : Paced task) (running : task.pc = .running wakeAt) (due : wakeAt ≤ now)
    (drawn : task.backoff.Randomizes randomized) : Paced (task.attempt now outcome randomized) := by
  have kept := ExponentialBackoff.nextBackoff_snd task.backoff now randomized
  have before := paced.running_attempts_le running
  have started := paced.spaced wakeAt running
  have atLeast := paced.atLeastInitial
  have intervals : (task.attempt now outcome randomized).backoff.maxInterval = 60000000000 ∧
      500000000 ≤ (task.attempt now outcome randomized).backoff.currentInterval := by
    rcases ExponentialBackoff.nextBackoff_snd_cases task.backoff now randomized with same | grown
    · simp [same, paced.maxInterval, atLeast]
    · have grows := ExponentialBackoff.min_le_incrementCurrentInterval task.backoff
      simp only [Task.attempt_backoff, grown, ExponentialBackoff.incrementCurrentInterval_maxInterval,
        paced.maxInterval, true_and]
      have := paced.maxInterval
      omega
  have slept : ∀ wakeAt', (task.attempt now outcome randomized).pc = .running wakeAt' →
      task.backoff.startTime + 250000000 * (task.attempts + 1) ≤ wakeAt' ∧
        wakeAt' ≤ task.backoff.startTime + 900000000000 := by
    intro wakeAt' running'
    rcases (Task.attempt_eq task now outcome randomized).2.2.2 with
      ⟨-, removed⟩ | ⟨-, ⟨pause, gave, asleep⟩ | orphaned⟩
    · simp [removed] at running'
    · rw [asleep] at running'
      cases running'
      have waited := ExponentialBackoff.nextBackoff_eq_some gave
      have fits := ExponentialBackoff.nextBackoff_le_of_eq_some gave paced.maxElapsedTime
      have := drawn.1
      simp only [ExponentialBackoff.getElapsedTime] at fits
      omega
    · simp [orphaned] at running'
  exact ⟨by simp [kept.2, paced.maxElapsedTime], intervals.1, intervals.2,
    fun w r => by simpa [kept.1] using (slept w r).1, fun w r _ => by simpa [kept.1] using (slept w r).2,
    by simp; omega⟩

/-! ## The tasks and containerd -/

/-- Containerd's images as (namespace, reference) pairs, and the removal tasks spawned. -/
structure World where
  now : Nat
  images : List (String × String)
  tasks : List Task
  deriving Repr, DecidableEq

/-- What happens next. -/
inductive Event where
  /-- Time passes. -/
  | elapse (duration : Nat)
  /-- Task `index`, awake, runs its command, which takes `took` and reports `outcome`; then
  `next_backoff()` draws `randomized`. -/
  | attempt (index took : Nat) (outcome : ChildOutcome) (randomized : Nat)
  deriving Repr, DecidableEq

namespace World

/-- The tasks of `removals`, spawned at `now`, beside `others`, with containerd holding `images`. -/
def spawn (now : Nat) (images : List (String × String)) (removals : List Removal) (others : List Task) : World :=
  ⟨now, images, removals.map (fun removal => Task.spawn removal now) ++ others⟩

/-- One event. A task attempts only when awake and with a draw in its backoff's range, and
containerd answers no namespace removal with success while the namespace holds an image. -/
def step (w : World) : Event → Option World
  | .elapse duration => some { w with now := w.now + duration }
  | .attempt index took outcome randomized =>
    match w.tasks[index]? with
    | some task =>
      match task.pc with
      | .running wakeAt =>
        let removed := (exec task.removal.command.debugString outcome).toBool
        if wakeAt ≤ w.now ∧ task.backoff.Randomizes randomized ∧
            (removed && task.removal.blocked w.images) = false then
          some { now := w.now + took
                 images := if removed then task.removal.removeFrom w.images else w.images
                 tasks := w.tasks.set index (task.attempt (w.now + took) outcome randomized) }
        else none
      | _ => none
    | none => none

/-- The events one after the other; `none` once one cannot happen. -/
def run (w : World) : List Event → Option World
  | [] => some w
  | event :: rest =>
    match w.step event with
    | some next => next.run rest
    | none => none

theorem run_cons_eq_some {w final : World} {event : Event} {rest : List Event} :
    w.run (event :: rest) = some final ↔ ∃ next, w.step event = some next ∧ next.run rest = some final := by
  simp only [run]
  split <;> simp_all

/-- What one event can do: let time pass, or run one turn of one awake task. -/
theorem step_cases {w next : World} {event : Event} (stepped : w.step event = some next) :
    (∃ duration, next = { w with now := w.now + duration }) ∨
      (∃ index took outcome randomized task wakeAt,
        w.tasks[index]? = some task ∧ task.pc = .running wakeAt ∧ wakeAt ≤ w.now ∧
        task.backoff.Randomizes randomized ∧
        ((exec task.removal.command.debugString outcome).toBool && task.removal.blocked w.images) = false ∧
        next = { now := w.now + took
                 images := if (exec task.removal.command.debugString outcome).toBool
                   then task.removal.removeFrom w.images else w.images
                 tasks := w.tasks.set index (task.attempt (w.now + took) outcome randomized) }) := by
  cases event with
  | elapse duration =>
    cases stepped
    exact .inl ⟨duration, rfl⟩
  | attempt index took outcome randomized =>
    simp only [step] at stepped
    cases found : w.tasks[index]? with
    | none => simp [found] at stepped
    | some task =>
      cases running : task.pc with
      | running wakeAt =>
        simp only [found, running] at stepped
        by_cases allowed : wakeAt ≤ w.now ∧ task.backoff.Randomizes randomized ∧
            ((exec task.removal.command.debugString outcome).toBool && task.removal.blocked w.images) = false
        · rw [if_pos allowed] at stepped
          cases stepped
          exact .inr ⟨index, took, outcome, randomized, task, wakeAt, found, running, allowed.1, allowed.2.1,
            allowed.2.2, rfl⟩
        · rw [if_neg allowed] at stepped
          cases stepped
      | removed => simp [found, running] at stepped
      | orphaned => simp [found, running] at stepped

/-- Setting an element to what it is changes nothing. -/
theorem set_eq_of_getElem? {α : Type} {l : List α} {i : Nat} {a : α} (found : l[i]? = some a) :
    l.set i a = l := by
  apply List.ext_getElem?
  intro j
  rw [List.getElem?_set]
  split_ifs with same inRange
  · exact same ▸ found.symm
  · exact absurd (List.getElem?_eq_some_iff.mp found).1 inRange
  · rfl

theorem mem_of_getElem? {α : Type} {l : List α} {i : Nat} {a : α} (found : l[i]? = some a) : a ∈ l := by
  obtain ⟨inRange, rfl⟩ := List.getElem?_eq_some_iff.mp found
  exact List.getElem_mem inRange

/-- Every step keeps what each task removes. -/
theorem removals_step {w next : World} {event : Event} (stepped : w.step event = some next) :
    next.tasks.map Task.removal = w.tasks.map Task.removal := by
  rcases step_cases stepped with ⟨_, rfl⟩ | ⟨index, _, _, _, task, _, found, -, -, -, -, rfl⟩
  · rfl
  · rw [List.map_set, Task.attempt_removal]
    exact set_eq_of_getElem? (by simp [found])

theorem removals_run {w final : World} {events : List Event} (ran : w.run events = some final) :
    final.tasks.map Task.removal = w.tasks.map Task.removal := by
  induction events generalizing w with
  | nil => cases ran; rfl
  | cons event rest inductionHypothesis =>
    obtain ⟨next, stepped, ran⟩ := run_cons_eq_some.mp ran
    rw [inductionHypothesis ran, removals_step stepped]

/-- The task at `index` keeps its pace. -/
def PacedAt (w : World) (index : Nat) : Prop :=
  ∀ task, w.tasks[index]? = some task → Paced task

theorem pacedAt_step {w next : World} {event : Event} {index : Nat} (paced : w.PacedAt index)
    (stepped : w.step event = some next) : next.PacedAt index := by
  rcases step_cases stepped with ⟨_, rfl⟩ | ⟨moved, _, outcome, _, task, _, found, running, due, drawn, -, rfl⟩
  · exact paced
  · intro current located
    simp only [List.getElem?_set] at located
    split_ifs at located with same
    · cases located
      subst same
      exact paced_attempt outcome (paced task found) running (Nat.le_add_right_of_le due) drawn
    · exact paced current located

theorem pacedAt_run {w final : World} {events : List Event} {index : Nat} (paced : w.PacedAt index)
    (ran : w.run events = some final) : final.PacedAt index := by
  induction events generalizing w with
  | nil => cases ran; exact paced
  | cons event rest inductionHypothesis =>
    obtain ⟨next, stepped, ran⟩ := run_cons_eq_some.mp ran
    exact inductionHypothesis (pacedAt_step paced stepped) ran

/-- An image that no task removes stays in containerd. -/
def ImageKept (w : World) (image : String × String) : Prop :=
  image ∈ w.images ∧ ∀ task ∈ w.tasks, task.removal ≠ .image image.1 image.2

theorem imageKept_step {w next : World} {event : Event} {image : String × String} (kept : w.ImageKept image)
    (stepped : w.step event = some next) : next.ImageKept image := by
  have removals := removals_step stepped
  refine ⟨?_, fun task member => ?_⟩
  · rcases step_cases stepped with ⟨_, rfl⟩ | ⟨index, _, outcome, _, task, _, found, -, -, -, -, rfl⟩
    · exact kept.1
    · have other := kept.2 task (mem_of_getElem? found)
      split_ifs
      · cases removal : task.removal with
        | «namespace» ns => simpa [Removal.removeFrom] using kept.1
        | image ns reference =>
          rw [removal] at other
          simp only [Removal.removeFrom, List.mem_filter, bne_iff_ne, ne_eq]
          exact ⟨kept.1, fun same => other (by simp [same])⟩
      · exact kept.1
  · have : task.removal ∈ w.tasks.map Task.removal := removals ▸ List.mem_map_of_mem _ member
    obtain ⟨original, member', same⟩ := List.mem_map.mp this
    exact same ▸ kept.2 original member'

theorem imageKept_run {w final : World} {events : List Event} {image : String × String}
    (kept : w.ImageKept image) (ran : w.run events = some final) : final.ImageKept image := by
  induction events generalizing w with
  | nil => cases ran; exact kept
  | cons event rest inductionHypothesis =>
    obtain ⟨next, stepped, ran⟩ := run_cons_eq_some.mp ran
    exact inductionHypothesis (imageKept_step kept stepped) ran

/-- The task at `index`, if it removes namespace `ns`, has not removed it. -/
def Unremoved (w : World) (index : Nat) (ns : String) : Prop :=
  ∀ task, w.tasks[index]? = some task → task.removal = .namespace ns → task.pc ≠ .removed

/-- While an image no task removes stays in namespace `ns`, no step removes the namespace. -/
theorem unremoved_step {w next : World} {event : Event} {index : Nat} {ns reference : String}
    (unremoved : w.Unremoved index ns) (kept : w.ImageKept (ns, reference)) (stepped : w.step event = some next) :
    next.Unremoved index ns := by
  rcases step_cases stepped with
    ⟨_, rfl⟩ | ⟨moved, took, outcome, randomized, task, _, found, running, -, -, allowed, rfl⟩
  · exact unremoved
  · intro current located namespaceRemoval
    simp only [List.getElem?_set] at located
    split_ifs at located with same
    · cases located
      rw [Task.attempt_removal] at namespaceRemoval
      have blocked : task.removal.blocked w.images = true := by
        rw [namespaceRemoval]
        exact List.any_eq_true.mpr ⟨_, kept.1, by simp⟩
      rcases (Task.attempt_eq task (w.now + took) outcome randomized).2.2.2 with
        ⟨succeeded, -⟩ | ⟨-, ⟨_, -, asleep⟩ | orphaned⟩
      · simp [succeeded, blocked] at allowed
      · simp [asleep]
      · simp [orphaned]
    · exact unremoved current located namespaceRemoval

theorem unremoved_run {w final : World} {events : List Event} {index : Nat} {ns reference : String}
    (unremoved : w.Unremoved index ns) (kept : w.ImageKept (ns, reference)) (ran : w.run events = some final) :
    final.Unremoved index ns := by
  induction events generalizing w with
  | nil => cases ran; exact unremoved
  | cons event rest inductionHypothesis =>
    obtain ⟨next, stepped, ran⟩ := run_cons_eq_some.mp ran
    exact inductionHypothesis (unremoved_step unremoved kept stepped) (imageKept_step kept stepped) ran

/-- The tasks spawned at the start of a world keep their pace. -/
theorem pacedAt_spawn {now index : Nat} {images : List (String × String)} {removals : List Removal} :
    (spawn now images removals []).PacedAt index := by
  intro task found
  simp only [spawn, List.append_nil, List.getElem?_map, Option.map_eq_some'] at found
  obtain ⟨removal, -, rfl⟩ := found
  exact paced_spawn removal now

end World

/-! ## Every removal task stops -/

/-- No removal task ever makes more than 3601 attempts: in every run, whatever the commands
answer and however the tasks interleave, each task has made at most 3601 attempts, and at most
3600 while it is still running, so that its 3601st attempt is its last. -/
theorem removal_tasks_attempt_at_most_3601_times {now : Nat} {images : List (String × String)}
    {removals : List Removal} {events : List Event} {final : World}
    (ran : (World.spawn now images removals []).run events = some final) :
    ∀ task ∈ final.tasks, task.attempts ≤ 3601 ∧ ∀ wakeAt, task.pc = .running wakeAt → task.attempts ≤ 3600 := by
  intro task member
  obtain ⟨index, inRange, rfl⟩ := List.getElem_of_mem member
  have paced := World.pacedAt_run World.pacedAt_spawn ran _ (List.getElem?_eq_getElem inRange)
  exact ⟨paced.bounded, fun _ running => paced.running_attempts_le running⟩

/-- A namespace removal refused while the image is there, the image removed, then the
namespace removed after the pause. -/
def cleanup : List Event :=
  [.attempt 1 1000 (.exited false (.utf8 "") (.utf8 "namespace must be empty")) 250000000,
    .attempt 0 1000 (.exited true (.utf8 "r") (.utf8 "")) 250000000,
    .elapse 250000000,
    .attempt 1 1000 (.exited true (.utf8 "") (.utf8 "")) 500000000]

theorem removal_tasks_attempt_at_most_3601_times_of_cleanup :
    ∃ final, (World.spawn 0 [("n", "r")] [.image "n" "r", .namespace "n"] []).run cleanup = some final ∧
      ∀ task ∈ final.tasks, task.attempts ≤ 3601 ∧ ∀ wakeAt, task.pc = .running wakeAt → task.attempts ≤ 3600 :=
  ⟨_, rfl, @removal_tasks_attempt_at_most_3601_times 0 [("n", "r")] [.image "n" "r", .namespace "n"] cleanup _ rfl⟩

/-! ## An install that did not read its listing -/

/-- A namespace removal spawned first, while containerd holds an image in the namespace and
every other task works elsewhere, never succeeds: in every run the image stays, and the task is
orphaned by its 3601st attempt. -/
theorem namespace_removal_orphaned {ns reference : String} {now : Nat} {images : List (String × String)}
    (held : (ns, reference) ∈ images) {others : List Task} (elsewhere : ∀ task ∈ others, task.removal.ns ≠ ns)
    {events : List Event} {final : World} (ran : (World.spawn now images [.namespace ns] others).run events = some final) :
    (ns, reference) ∈ final.images ∧
      ∃ task, final.tasks[0]? = some task ∧ task.removal = .namespace ns ∧
        task.pc ≠ .removed ∧ task.attempts ≤ 3601 ∧ (task.attempts = 3601 → task.pc = .orphaned) := by
  have kept : (World.spawn now images [.namespace ns] others).ImageKept (ns, reference) := by
    refine ⟨held, fun task member same => ?_⟩
    rcases List.mem_cons.mp member with rfl | other
    · cases same
    · exact elsewhere task other (by rw [same]; rfl)
  have first : ∀ task, (World.spawn now images [.namespace ns] others).tasks[0]? = some task →
      task = Task.spawn (.namespace ns) now := by
    intro task found
    simpa [World.spawn, eq_comm] using found
  have paced : (World.spawn now images [.namespace ns] others).PacedAt 0 :=
    fun task found => first task found ▸ paced_spawn _ now
  have removals := World.removals_run ran
  obtain ⟨task, found, removal⟩ : ∃ task, final.tasks[0]? = some task ∧ task.removal = .namespace ns := by
    have := congrArg (·[0]?) removals
    simp only [List.getElem?_map, World.spawn, List.map_cons, List.cons_append, List.getElem?_cons_zero] at this
    cases located : final.tasks[0]? with
    | none => simp [located] at this
    | some task => exact ⟨task, rfl, by simpa [located, Task.spawn] using this⟩
  have initial : (World.spawn now images [.namespace ns] others).Unremoved 0 ns :=
    fun task found _ => by simp [first task found, Task.spawn]
  have unremoved := World.unremoved_run initial kept ran
  have taskPaced := World.pacedAt_run paced ran task found
  refine ⟨(World.imageKept_run kept ran).1, task, found, removal, unremoved task found removal,
    taskPaced.bounded, fun last => ?_⟩
  cases pc : task.pc with
  | running wakeAt => have := taskPaced.running_attempts_le pc; omega
  | removed => exact absurd pc (unremoved task found removal)
  | orphaned => rfl

/-- When an install did not read its listing, containerd holding an image in its namespace, as
after a successful `ctr images import`, the one removal task it spawns never removes the
namespace, whatever the commands answer and whatever other removal tasks run beside it, so long
as they work in other namespaces: in every run the image stays, and the task is orphaned by its
3601st attempt. -/
theorem install_without_listing_orphans_namespace {settings : Settings} {draws : Draws} {path : String}
    {answers : Answers} (unread : ∀ image, ¬Containerd.Listed (Namespace.new draws.namespace) path answers image)
    {now : Nat} {images : List (String × String)} {reference : String}
    (held : ((Namespace.new draws.namespace).namespace, reference) ∈ images)
    {others : List Task} (elsewhere : ∀ task ∈ others, task.removal.ns ≠ (Namespace.new draws.namespace).namespace)
    {events : List Event} {final : World}
    (ran : (World.spawn now images (Containerd.«import» settings draws path answers).2.spawned others).run events =
      some final) :
    ((Namespace.new draws.namespace).namespace, reference) ∈ final.images ∧
      ∃ task, final.tasks[0]? = some task ∧ task.removal = .namespace (Namespace.new draws.namespace).namespace ∧
        task.pc ≠ .removed ∧ task.attempts ≤ 3601 ∧ (task.attempts = 3601 → task.pc = .orphaned) := by
  have spawned := (@Containerd.import_of_not_listed settings draws path answers unread).2
  rw [spawned, Namespace.drop] at ran
  exact namespace_removal_orphaned held elsewhere ran

/-- Answers under which the import succeeds and the listing fails. -/
def listingFailed : Answers :=
  { Containerd.succeeding Containerd.tennisListing with
    listed := .exited false (.utf8 "") (.utf8 "ctr: failed to list images") }

theorem install_without_listing_orphans_namespace_of_listing_failed :
    (∀ image, ¬Containerd.Listed (Namespace.new 0) "upload" listingFailed image) ∧
      ((Namespace.new 0).namespace, "docker.io/test/tennis:latest") ∈
        [((Namespace.new 0).namespace, "docker.io/test/tennis:latest")] ∧
      (∀ task ∈ ([] : List Task), task.removal.ns ≠ (Namespace.new 0).namespace) ∧
      ∃ final, (World.spawn 0 [((Namespace.new 0).namespace, "docker.io/test/tennis:latest")]
          (Containerd.«import» {} ⟨0, 0, 'q'⟩ "upload" listingFailed).2.spawned []).run
          [.attempt 0 1000 (.exited false (.utf8 "") (.utf8 "namespace must be empty")) 250000000] = some final ∧
        ((Namespace.new 0).namespace, "docker.io/test/tennis:latest") ∈ final.images ∧
        ∃ task, final.tasks[0]? = some task ∧ task.removal = .namespace (Namespace.new 0).namespace ∧
          task.pc ≠ .removed ∧ task.attempts ≤ 3601 ∧ (task.attempts = 3601 → task.pc = .orphaned) :=
  have unread : ∀ image, ¬Containerd.Listed (Namespace.new 0) "upload" listingFailed image :=
    fun _ listed => nomatch listed.2
  have held : ((Namespace.new 0).namespace, "docker.io/test/tennis:latest") ∈
      [((Namespace.new 0).namespace, "docker.io/test/tennis:latest")] := List.mem_singleton_self _
  have elsewhere : ∀ task ∈ ([] : List Task), task.removal.ns ≠ (Namespace.new 0).namespace := nofun
  ⟨unread, held, elsewhere, _, rfl,
    @install_without_listing_orphans_namespace {} ⟨0, 0, 'q'⟩ "upload" listingFailed unread 0 _ _ held [] elsewhere
      [.attempt 0 1000 (.exited false (.utf8 "") (.utf8 "namespace must be empty")) 250000000] _ rfl⟩

end RemovalTask

end ConnectorManager
