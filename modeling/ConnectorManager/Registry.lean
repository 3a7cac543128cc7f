import Mathlib.Data.List.Nodup
import ConnectorManager.Pod

namespace ConnectorManager

/-!
# The pod manager registry

`POD_MANAGER_CACHE` (`acm/src/podmanager/mod.rs`) maps a pod's id to its
`PodManager`. `PodManager::new_podmanager(id, ttl)` spawns the watcher, the
garbage collector and the shim, spawns a reaper that joins the three and
then removes `id` from the cache, and only then inserts the new manager
under `id`; `PodManager::get` looks `id` up. A manager is named here by the
index of the `new_podmanager` call that made it.

Each label is one atomic step: a call's synchronous part (its spawns), its
insert under the cache's write lock, one of its daemons ending, and its
reaper's remove under the write lock once its three daemons have joined.
The cache's `remove` returns what it removed; the reaper ignores it, and the
model records it in the reaper's state.

`registry_consistent` is what holds when ids are distinct: an entry only
ever holds the manager made for its id until that manager's reaper removes
it, which it does once its daemons have joined, and a reaper never removes
another manager's entry. The reaper is spawned before the insert, so it can
run first: it then removes nothing, and the entry inserted after it stays
for good. `reaper_misses_own_entry` gives that run, and the one where two
calls share an id, the cache being keyed by id alone: the first call's
reaper removes the second call's entry while the second manager's daemons
are still running.
-/

/-- Where a reaper task is. -/
inductive ReaperPc where
  /-- `join!(watcher_handle, gc_handle, shim)`. -/
  | joining
  /-- It ran `managers.remove(&pod)`, which returned `removed`. -/
  | reaped (removed : Option Nat)
  deriving Repr, DecidableEq

/-- One `new_podmanager` call and the tasks it spawned. -/
structure Registered where
  id : String
  /-- How many of the watcher, the garbage collector and the shim have not ended. -/
  running : Nat
  /-- The call has inserted its manager. -/
  inserted : Bool
  reaper : ReaperPc
  deriving Repr, DecidableEq

/-- `POD_MANAGER_CACHE`, and every `new_podmanager` call so far. -/
structure Registry where
  cache : String → Option Nat
  calls : List Registered

/-- One atomic step. -/
inductive RegistryLabel where
  /-- A `new_podmanager(id, ..)` call spawns its daemons and its reaper. -/
  | newPodmanager (id : String)
  /-- Call `manager` inserts its manager. -/
  | insert (manager : Nat)
  /-- One daemon of `manager` ends. -/
  | daemonEnds (manager : Nat)
  /-- The reaper of `manager` removes its id. -/
  | reap (manager : Nat)
  deriving Repr, DecidableEq

namespace Registry

/-- The empty cache before any call. -/
def init : Registry where
  cache := fun _ => none
  calls := []

/-- `HashMap::insert` and `HashMap::remove`: the entry of `id` becomes `entry`. -/
def setEntry (cache : String → Option Nat) (id : String) (entry : Option Nat) : String → Option Nat :=
  fun other => if other = id then entry else cache other

/-- `PodManager::get(id)`: the manager, or `PodManagerNotFound { id }`. -/
def get (r : Registry) (id : String) : Except AcmError Nat :=
  match r.cache id with
  | some manager => .ok manager
  | none => .error (.podManagerNotFound id)

/-- The step, or `none` when it cannot happen now. -/
def step (r : Registry) : RegistryLabel → Option Registry
  | .newPodmanager id =>
      some { r with calls := r.calls ++ [{ id := id, running := 3, inserted := false, reaper := .joining }] }
  | .insert manager =>
      match r.calls[manager]? with
      | some call =>
          if call.inserted then none
          else
            some
              { cache := setEntry r.cache call.id (some manager)
                calls := r.calls.set manager { call with inserted := true } }
      | none => none
  | .daemonEnds manager =>
      match r.calls[manager]? with
      | some call =>
          if call.running = 0 then none
          else some { r with calls := r.calls.set manager { call with running := call.running - 1 } }
      | none => none
  | .reap manager =>
      match r.calls[manager]? with
      | some call =>
          if call.running = 0 ∧ call.reaper = .joining then
            some
              { cache := setEntry r.cache call.id none
                calls := r.calls.set manager { call with reaper := .reaped (r.cache call.id) } }
          else none
      | none => none

/-- Run a schedule; `none` when one of its steps cannot happen. -/
def run (r : Registry) : List RegistryLabel → Option Registry
  | [] => some r
  | label :: rest =>
      match r.step label with
      | some next => next.run rest
      | none => none

/-- The ids of all calls so far. -/
def ids (r : Registry) : List String :=
  r.calls.map Registered.id

/-- Everything one step can do. -/
theorem step_cases {r next : Registry} {label : RegistryLabel} (stepped : r.step label = some next) :
    (∃ id, label = .newPodmanager id ∧
      next = { r with calls := r.calls ++ [{ id := id, running := 3, inserted := false, reaper := .joining }] }) ∨
    (∃ manager call, label = .insert manager ∧ r.calls[manager]? = some call ∧ call.inserted = false ∧
      next =
        { cache := setEntry r.cache call.id (some manager)
          calls := r.calls.set manager { call with inserted := true } }) ∨
    (∃ manager call, label = .daemonEnds manager ∧ r.calls[manager]? = some call ∧ call.running ≠ 0 ∧
      next = { r with calls := r.calls.set manager { call with running := call.running - 1 } }) ∨
    (∃ manager call, label = .reap manager ∧ r.calls[manager]? = some call ∧ call.running = 0 ∧
      call.reaper = .joining ∧
      next =
        { cache := setEntry r.cache call.id none
          calls := r.calls.set manager { call with reaper := .reaped (r.cache call.id) } }) := by
  cases label with
  | newPodmanager id => exact .inl ⟨id, rfl, (Option.some.inj stepped).symm⟩
  | insert manager =>
      simp only [step] at stepped
      split at stepped
      · rename_i call found
        split at stepped
        · cases stepped
        · rename_i fresh
          cases stepped
          exact .inr (.inl ⟨manager, call, rfl, found, by simpa using fresh, rfl⟩)
      · cases stepped
  | daemonEnds manager =>
      simp only [step] at stepped
      split at stepped
      · rename_i call found
        split at stepped
        · cases stepped
        · rename_i active
          cases stepped
          exact .inr (.inr (.inl ⟨manager, call, rfl, found, active, rfl⟩))
      · cases stepped
  | reap manager =>
      simp only [step] at stepped
      split at stepped
      · rename_i call found
        split at stepped
        · rename_i ready
          cases stepped
          exact .inr (.inr (.inr ⟨manager, call, rfl, found, ready.1, ready.2, rfl⟩))
        · cases stepped
      · cases stepped

/-- A run of `label :: rest` is one step, then a run of `rest`. -/
theorem run_cons_eq_some {r final : Registry} {label : RegistryLabel} {rest : List RegistryLabel} :
    r.run (label :: rest) = some final ↔ ∃ next, r.step label = some next ∧ next.run rest = some final := by
  simp only [run]
  split <;> simp_all

/--
What the cache keeps while ids are distinct. An entry holds the manager made
for its id, inserted, and not removed by its own reaper; an inserted manager
that its reaper has not removed has its entry; a reaper ran once its daemons
had joined, and removed nothing or its own manager's entry after that
manager's insert.
-/
structure Consistent (r : Registry) : Prop where
  entry :
    ∀ (id : String) (manager : Nat), r.cache id = some manager →
      ∃ call, r.calls[manager]? = some call ∧ call.id = id ∧ call.inserted = true ∧
        call.reaper ≠ .reaped (some manager)
  held :
    ∀ (manager : Nat) (call : Registered), r.calls[manager]? = some call → call.inserted = true →
      call.reaper ≠ .reaped (some manager) → r.cache call.id = some manager
  reaped :
    ∀ (manager : Nat) (call : Registered) (removed : Option Nat), r.calls[manager]? = some call → call.reaper = .reaped removed →
      call.running = 0 ∧ (removed = none ∨ removed = some manager ∧ call.inserted = true)

/-- With distinct ids, two calls with one id are one call. -/
theorem index_eq_of_id_eq {calls : List Registered} (distinct : (calls.map Registered.id).Nodup)
    {first second : Nat} {call other : Registered}
    (atFirst : calls[first]? = some call) (atSecond : calls[second]? = some other) (same : call.id = other.id) :
    first = second := by
  have apart := List.nodup_iff_getElem?_ne_getElem?.mp distinct
  have idFirst : (calls.map Registered.id)[first]? = some call.id := by simp [atFirst]
  have idSecond : (calls.map Registered.id)[second]? = some call.id := by simp [atSecond, same]
  have firstBound := (List.getElem?_eq_some_iff.mp idFirst).1
  have secondBound := (List.getElem?_eq_some_iff.mp idSecond).1
  rcases lt_trichotomy first second with before | equal | after
  · exact absurd (idFirst.trans idSecond.symm) (apart first second before secondBound)
  · exact equal
  · exact absurd (idSecond.trans idFirst.symm) (apart second first after firstBound)

/-- Updating a call without changing its id keeps the ids. -/
theorem ids_set {calls : List Registered} {manager : Nat} {call : Registered}
    (found : calls[manager]? = some call) (updated : Registered) (same : updated.id = call.id) :
    (calls.set manager updated).map Registered.id = calls.map Registered.id := by
  have bound := (List.getElem?_eq_some_iff.mp found).1
  apply List.ext_getElem?
  intro index
  simp only [List.getElem?_map, List.getElem?_set]
  split_ifs <;> simp_all

/-- A step keeps the ids of earlier calls and may add one. -/
theorem ids_grow {r next : Registry} {label : RegistryLabel} (stepped : r.step label = some next) :
    r.ids <+: next.ids := by
  rcases step_cases stepped with ⟨id, -, rfl⟩ | ⟨manager, call, -, found, -, rfl⟩ |
    ⟨manager, call, -, found, -, rfl⟩ | ⟨manager, call, -, found, -, -, rfl⟩
  · simp [ids]
  all_goals simp [ids, ids_set found]

/-- What an updated list of calls holds at an index. -/
theorem getElem?_set_cases {calls : List Registered} {manager index : Nat} {updated call : Registered}
    (found : (calls.set manager updated)[index]? = some call) :
    (index = manager ∧ call = updated) ∨ (index ≠ manager ∧ calls[index]? = some call) := by
  rw [List.getElem?_set] at found
  split_ifs at found with here
  · exact .inl ⟨here.symm, (Option.some.inj found).symm⟩
  · exact .inr ⟨Ne.symm here, found⟩

/-- What a longer list of calls holds at an index. -/
theorem getElem?_append_cases {calls : List Registered} {index : Nat} {added call : Registered}
    (found : (calls ++ [added])[index]? = some call) :
    calls[index]? = some call ∨ call = added := by
  by_cases old : index < calls.length
  · rw [List.getElem?_append_left old] at found
    exact .inl found
  · rw [List.getElem?_append_right (Nat.le_of_not_lt old)] at found
    cases equal : index - calls.length <;> simp_all

section Preservation

variable {r : Registry} {manager : Nat} {call : Registered}

theorem consistent_newPodmanager (consistent : Consistent r) (id : String) :
    Consistent { r with calls := r.calls ++ [{ id := id, running := 3, inserted := false, reaper := .joining }] } := by
  refine ⟨fun other owner entered => ?_, fun other updated found => ?_, fun other updated removed found => ?_⟩
  · obtain ⟨entry, atEntry, rest⟩ := consistent.entry other owner entered
    exact ⟨entry, by rw [List.getElem?_append_left (List.getElem?_eq_some_iff.mp atEntry).1]; exact atEntry, rest⟩
  · rcases getElem?_append_cases found with old | rfl
    · exact consistent.held other updated old
    · simp
  · rcases getElem?_append_cases found with old | rfl
    · exact consistent.reaped other updated removed old
    · simp

/-- An entry under another id than call `manager`'s keeps its call when call `manager` changes. -/
theorem entry_of_other_id {updated : Registered} {id : String} {owner : Nat} (consistent : Consistent r)
    (found : r.calls[manager]? = some call) (other : id ≠ call.id) (entered : r.cache id = some owner) :
    ∃ entry, (r.calls.set manager updated)[owner]? = some entry ∧ entry.id = id ∧ entry.inserted = true ∧
      entry.reaper ≠ .reaped (some owner) := by
  obtain ⟨entry, atEntry, named, rest⟩ := consistent.entry id owner entered
  have apart : manager ≠ owner := by
    rintro rfl
    simp_all
  exact ⟨entry, by rw [List.getElem?_set_ne apart]; exact atEntry, named, rest⟩

/-- With distinct ids, another inserted call that its reaper has not removed keeps its entry when call
`manager`'s changes. -/
theorem held_of_other_call {other : Nat} {updated : Registered} (entry : Option Nat) (consistent : Consistent r)
    (distinct : r.ids.Nodup) (found : r.calls[manager]? = some call) (apart : other ≠ manager)
    (old : r.calls[other]? = some updated) (inserted : updated.inserted = true)
    (unremoved : updated.reaper ≠ .reaped (some other)) :
    setEntry r.cache call.id entry updated.id = some other := by
  have differs : updated.id ≠ call.id := fun same => apart (index_eq_of_id_eq distinct old found same)
  simp [setEntry, differs, consistent.held other updated old inserted unremoved]

theorem consistent_insert (consistent : Consistent r) (distinct : r.ids.Nodup)
    (found : r.calls[manager]? = some call) (fresh : call.inserted = false) :
    Consistent
      { cache := setEntry r.cache call.id (some manager)
        calls := r.calls.set manager { call with inserted := true } } := by
  have unremoved : call.reaper ≠ .reaped (some manager) := fun reaped => by
    have := (consistent.reaped manager call _ found reaped).2
    simp_all
  refine ⟨fun id owner entered => ?_, fun other updated atOther inserted kept => ?_,
    fun other updated removed atOther reaped => ?_⟩
  · by_cases same : id = call.id
    · simp only [setEntry, same, if_true, Option.some.injEq] at entered
      subst entered
      exact ⟨_, List.getElem?_set_self (List.getElem?_eq_some_iff.mp found).1, same.symm, rfl, unremoved⟩
    · simp only [setEntry, same, if_false] at entered
      exact entry_of_other_id consistent found same entered
  · rcases getElem?_set_cases atOther with ⟨rfl, rfl⟩ | ⟨apart, old⟩
    · simp [setEntry]
    · exact held_of_other_call _ consistent distinct found apart old inserted kept
  · rcases getElem?_set_cases atOther with ⟨rfl, rfl⟩ | ⟨apart, old⟩
    · obtain ⟨stopped, cleared⟩ := consistent.reaped other call removed found reaped
      refine ⟨stopped, .inl ?_⟩
      rcases cleared with cleared | ⟨-, inserted⟩
      · exact cleared
      · simp_all
    · exact consistent.reaped other updated removed old reaped

theorem consistent_daemonEnds (consistent : Consistent r) (found : r.calls[manager]? = some call)
    (active : call.running ≠ 0) :
    Consistent { r with calls := r.calls.set manager { call with running := call.running - 1 } } := by
  have inRange := (List.getElem?_eq_some_iff.mp found).1
  refine ⟨fun id owner entered => ?_, fun other updated atOther inserted kept => ?_,
    fun other updated removed atOther reaped => ?_⟩
  · obtain ⟨entry, atEntry, rest⟩ := consistent.entry id owner entered
    by_cases same : manager = owner
    · subst same
      obtain rfl : entry = call := Option.some.inj (atEntry.symm.trans found)
      exact ⟨_, List.getElem?_set_self inRange, rest⟩
    · exact ⟨entry, by rw [List.getElem?_set_ne same]; exact atEntry, rest⟩
  · rcases getElem?_set_cases atOther with ⟨rfl, rfl⟩ | ⟨apart, old⟩
    · exact consistent.held other call found inserted kept
    · exact consistent.held other updated old inserted kept
  · rcases getElem?_set_cases atOther with ⟨rfl, rfl⟩ | ⟨apart, old⟩
    · exact absurd (consistent.reaped other call removed found reaped).1 active
    · exact consistent.reaped other updated removed old reaped

theorem consistent_reap (consistent : Consistent r) (distinct : r.ids.Nodup)
    (found : r.calls[manager]? = some call) (ready : call.running = 0) (joining : call.reaper = .joining) :
    Consistent
      { cache := setEntry r.cache call.id none
        calls := r.calls.set manager { call with reaper := .reaped (r.cache call.id) } } := by
  refine ⟨fun id owner entered => ?_, fun other updated atOther inserted kept => ?_,
    fun other updated removed atOther reaped => ?_⟩
  · by_cases same : id = call.id
    · simp [setEntry, same] at entered
    · simp only [setEntry, same, if_false] at entered
      exact entry_of_other_id consistent found same entered
  · rcases getElem?_set_cases atOther with ⟨rfl, rfl⟩ | ⟨apart, old⟩
    · have held := consistent.held other call found inserted (by simp [joining])
      simp [held] at kept
    · exact held_of_other_call _ consistent distinct found apart old inserted kept
  · rcases getElem?_set_cases atOther with ⟨rfl, rfl⟩ | ⟨apart, old⟩
    · simp only [ReaperPc.reaped.injEq] at reaped
      subst reaped
      refine ⟨ready, ?_⟩
      cases entered : r.cache call.id with
      | none => exact .inl rfl
      | some owner =>
          obtain ⟨entry, atEntry, named, inserted, -⟩ := consistent.entry call.id owner entered
          obtain rfl := index_eq_of_id_eq distinct atEntry found named
          obtain rfl : entry = call := Option.some.inj (atEntry.symm.trans found)
          exact .inr ⟨rfl, inserted⟩
    · exact consistent.reaped other updated removed old reaped

end Preservation

/-- Every step keeps `Consistent` while ids stay distinct. -/
theorem consistent_step {r next : Registry} {label : RegistryLabel}
    (consistent : Consistent r) (stepped : r.step label = some next) (distinct : next.ids.Nodup) :
    Consistent next := by
  have earlier : r.ids.Nodup := (ids_grow stepped).sublist.nodup distinct
  rcases step_cases stepped with ⟨id, -, rfl⟩ | ⟨manager, call, -, found, fresh, rfl⟩ |
    ⟨manager, call, -, found, active, rfl⟩ | ⟨manager, call, -, found, ready, joining, rfl⟩
  · exact consistent_newPodmanager consistent id
  · exact consistent_insert consistent earlier found fresh
  · exact consistent_daemonEnds consistent found active
  · exact consistent_reap consistent earlier found ready joining

/-- A run keeps the ids of earlier calls. -/
theorem ids_grow_of_run {r final : Registry} {schedule : List RegistryLabel}
    (ran : r.run schedule = some final) : r.ids <+: final.ids := by
  induction schedule generalizing r with
  | nil =>
      cases ran
      exact List.prefix_refl _
  | cons label rest inductionHypothesis =>
      obtain ⟨next, stepped, continued⟩ := run_cons_eq_some.mp ran
      exact (ids_grow stepped).trans (inductionHypothesis continued)

/-- Running `pre ++ post` runs `pre`, then `post`. -/
theorem run_append (r : Registry) (pre post : List RegistryLabel) :
    r.run (pre ++ post) = (r.run pre).bind fun middle => middle.run post := by
  induction pre generalizing r with
  | nil => rfl
  | cons label rest inductionHypothesis =>
      simp only [List.cons_append, run]
      split <;> simp [inductionHypothesis]

/-- A call that has inserted, whose daemons have joined and whose reaper has run, is left as it is by every step. -/
theorem calls_step_of_settled {r next : Registry} {label : RegistryLabel} {manager : Nat} {call : Registered}
    (found : r.calls[manager]? = some call) (stopped : call.running = 0) (inserted : call.inserted = true)
    (reaped : call.reaper ≠ .joining) (stepped : r.step label = some next) :
    next.calls[manager]? = some call := by
  have inRange := (List.getElem?_eq_some_iff.mp found).1
  rcases step_cases stepped with ⟨id, -, rfl⟩ | ⟨other, updated, -, atOther, fresh, rfl⟩ |
    ⟨other, updated, -, atOther, active, rfl⟩ | ⟨other, updated, -, atOther, -, joining, rfl⟩
  · simpa [List.getElem?_append_left inRange] using found
  all_goals
    rw [List.getElem?_set_ne]
    · exact found
    · rintro rfl
      simp_all

/-- A settled call stays as it is in every run. -/
theorem calls_run_of_settled {r final : Registry} {schedule : List RegistryLabel} {manager : Nat}
    {call : Registered} (found : r.calls[manager]? = some call) (stopped : call.running = 0)
    (inserted : call.inserted = true) (reaped : call.reaper ≠ .joining) (ran : r.run schedule = some final) :
    final.calls[manager]? = some call := by
  induction schedule generalizing r with
  | nil =>
      cases ran
      exact found
  | cons label rest inductionHypothesis =>
      obtain ⟨next, stepped, continued⟩ := run_cons_eq_some.mp ran
      exact inductionHypothesis (calls_step_of_settled found stopped inserted reaped stepped) continued

/-- The run lemma: a run whose calls have distinct ids keeps `Consistent`. -/
theorem consistent_run {r final : Registry} {schedule : List RegistryLabel}
    (consistent : Consistent r) (ran : r.run schedule = some final) (distinct : final.ids.Nodup) :
    Consistent final := by
  induction schedule generalizing r with
  | nil =>
      cases ran
      exact consistent
  | cons label rest inductionHypothesis =>
      obtain ⟨next, stepped, continued⟩ := run_cons_eq_some.mp ran
      exact inductionHypothesis
        (consistent_step consistent stepped ((ids_grow_of_run continued).sublist.nodup distinct)) continued

theorem consistent_init : Consistent init :=
  ⟨by simp [init], by simp [init], by simp [init]⟩

/-- What `PodManager::get` observes of the registry. -/
structure LookupsSound (r : Registry) : Prop where
  /-- `get(id)` finds only a manager made for `id`, inserted, and not removed by its own reaper. -/
  found :
    ∀ (id : String) (manager : Nat), r.get id = .ok manager →
      ∃ call, r.calls[manager]? = some call ∧ call.id = id ∧ call.inserted = true ∧
        call.reaper ≠ .reaped (some manager)
  /-- An inserted manager whose reaper has not run is found under its id. -/
  present :
    ∀ (manager : Nat) (call : Registered), r.calls[manager]? = some call → call.inserted = true →
      call.reaper = .joining → r.get call.id = .ok manager
  /-- An inserted manager whose reaper ran before its insert, removing nothing, is found under its id. -/
  leftAfterEarlyReaper :
    ∀ (manager : Nat) (call : Registered), r.calls[manager]? = some call → call.inserted = true →
      call.reaper = .reaped none → r.get call.id = .ok manager
  /-- A reaper ran after its three daemons, and removed nothing or its own manager's entry, after its insert. -/
  removedOwn :
    ∀ (manager : Nat) (call : Registered) (removed : Option Nat), r.calls[manager]? = some call →
      call.reaper = .reaped removed →
        call.running = 0 ∧ (removed = none ∨ removed = some manager ∧ call.inserted = true)
  /-- Once every reaper has removed its own manager's entry, every lookup fails. -/
  emptied :
    (∀ (manager : Nat) (call : Registered), r.calls[manager]? = some call →
      call.reaper = .reaped (some manager)) →
    ∀ id, r.get id = .error (.podManagerNotFound id)

/-- `get` reads the cache. -/
theorem get_eq_ok {r : Registry} {id : String} {manager : Nat} :
    r.get id = .ok manager ↔ r.cache id = some manager := by
  unfold get
  split <;> simp_all

/-- The registry is sound for every interleaving of calls with distinct ids. -/
theorem registry_consistent
    (schedule : List RegistryLabel)
    (r : Registry)
    (ran : init.run schedule = some r)
    (distinct : r.ids.Nodup) :
    LookupsSound r := by
  have consistent := consistent_run consistent_init ran distinct
  refine ⟨fun id manager found => consistent.entry id manager (get_eq_ok.mp found),
    fun manager call atCall inserted joining => get_eq_ok.mpr (consistent.held manager call atCall inserted (by simp [joining])),
    fun manager call atCall inserted early => get_eq_ok.mpr (consistent.held manager call atCall inserted (by simp [early])),
    consistent.reaped, fun allReaped id => ?_⟩
  unfold get
  split
  · rename_i manager entered
    obtain ⟨call, atCall, -, -, unremoved⟩ := consistent.entry id manager entered
    exact absurd (allReaped manager call atCall) unremoved
  · rfl

/-- Two pods with their own ids: both are inserted, and the first one's reaper removes its entry. -/
def twoPods : List RegistryLabel :=
  [.newPodmanager "a", .newPodmanager "b", .insert 0, .insert 1,
    .daemonEnds 0, .daemonEnds 0, .daemonEnds 0, .reap 0]

/-- Where `twoPods` leads. -/
def twoPodsState : Registry :=
  (init.run twoPods).getD init

theorem registry_consistent_for_two_pods :
    twoPodsState.get "a" = .error (.podManagerNotFound "a") ∧ twoPodsState.get "b" = .ok 1 ∧
      LookupsSound twoPodsState :=
  have ran : init.run twoPods = some twoPodsState := rfl
  have distinct : twoPodsState.ids.Nodup := by decide
  ⟨rfl, rfl, registry_consistent twoPods twoPodsState ran distinct⟩

/-- A call whose three daemons end, and whose reaper runs, before its insert. -/
def earlyReaper : List RegistryLabel :=
  [.newPodmanager "pod", .daemonEnds 0, .daemonEnds 0, .daemonEnds 0, .reap 0, .insert 0]

/-- Two `new_podmanager` calls with one id. -/
def sharedId : List RegistryLabel :=
  [.newPodmanager "pod", .insert 0, .newPodmanager "pod", .insert 1,
    .daemonEnds 0, .daemonEnds 0, .daemonEnds 0, .reap 0]

/--
Two runs where a reaper misses its own manager's entry. With one id for two
calls, the second insert overwrites the first manager's entry while its
daemons run; then the first manager's reaper removes the second manager's
entry, whose three daemons are all still running, and `get` no longer finds
it. And a reaper whose daemons all end before its call's insert removes
nothing: the entry inserted after it stays, whatever other calls follow,
though that manager's daemons have joined and its reaper has run.
-/
theorem reaper_misses_own_entry :
    (init.run sharedId).map
        (fun r => (r.calls.map Registered.reaper, r.calls.map Registered.running, r.get "pod")) =
      some ([.reaped (some 1), .joining], [0, 3], .error (.podManagerNotFound "pod")) ∧
    ∀ later r, init.run (earlyReaper ++ later) = some r → r.ids.Nodup →
      r.calls[0]? = some ⟨"pod", 0, true, .reaped none⟩ ∧ r.get "pod" = .ok 0 := by
  refine ⟨rfl, fun later r ran distinct => ?_⟩
  have consistent := consistent_run consistent_init ran distinct
  obtain ⟨early, reached, atEarly⟩ : ∃ early, init.run earlyReaper = some early ∧
      early.calls[0]? = some ⟨"pod", 0, true, .reaped none⟩ := ⟨_, rfl, rfl⟩
  rw [run_append, reached, Option.some_bind] at ran
  have settled := calls_run_of_settled atEarly rfl rfl (by simp) ran
  exact ⟨settled, get_eq_ok.mpr (consistent.held 0 _ settled rfl (by simp))⟩

end Registry

end ConnectorManager
