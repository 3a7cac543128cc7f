import ConnectorManager.WatcherProtocol

namespace ConnectorManager

/-!
# The external handle: watcher, shim and `wait`, interleaved

`PodManagerUpperHandle::new` (`acm/src/podmanager/external_handle.rs`)
builds a one-slot inbound channel (watcher → shim), a one-slot outbound
channel (shim → consumer) and a two-party barrier, and spawns the shim. The
shim receives one verdict, then `select!`s between its 60-second patience and
the barrier, and forwards the verdict only if the barrier wins. `wait`
meets the shim at the barrier, receives, and memoizes the outcome in
`phantom`.

`Handle` holds the three parties and the shared objects; each label of
`HandleLabel` is one atomic step of one party, enabled exactly when that
party's `await` can complete. The watcher's side is a list of verdicts it
still has to send. Tokio's barrier counts an arrival when the waiting future
is first polled and does not take it back when the future is dropped; the
shim polls it at once when it enters its `select!`, since its 60-second
timer cannot be ready then.

`handle_delivers_first_verdict` is the main result: whatever the
interleaving, the shim receives the watcher's first verdict, the first
`wait` that completes returns it or `InboundResultChannelDropped`, and every
later `wait` returns the memoized projection without touching the barrier or
the channel. The barrier is modelled but no invariant needs it.
-/

/-- What the watcher sends and `wait` returns: `result::Result<Pod>`. -/
abbrev Verdict := Except AcmError Pod

/-- The memo `wait` keeps in `phantom`: the pod, or `PhantomError` for any error. -/
def phantomOf : Verdict → Verdict
  | .ok pod => .ok pod
  | .error _ => .error .phantomError

/-- `tokio::sync::Barrier::new(2)`: arrivals in the current generation. -/
structure Barrier where
  arrived : Nat
  generation : Nat
  deriving Repr, DecidableEq

/--
The first poll of `Barrier::wait`: the second arrival of a generation
releases it and passes at once (`none`); the first one waits until the
generation it arrived in is over (`some generation`).
-/
def Barrier.arrive (b : Barrier) : Barrier × Option Nat :=
  if b.arrived + 1 = 2 then
    ({ arrived := 0, generation := b.generation + 1 }, none)
  else
    ({ b with arrived := b.arrived + 1 }, some b.generation)

/-- Where the shim task is. -/
inductive ShimPc where
  /-- `rx1.recv().await`. -/
  | receiving
  /-- In the `select!` on patience and the barrier, having arrived in `generation`. -/
  | selecting (result : Verdict) (generation : Nat)
  /-- `tx2.send(result).await`. -/
  | forwarding (result : Verdict)
  /-- The task is over; `rx1` and `tx2` are dropped. -/
  | finished
  deriving Repr, DecidableEq

/-- Where a call of `PodManagerUpperHandle::wait` is. -/
inductive WaitPc where
  /-- No call in progress. -/
  | idle
  /-- `self.barrier.wait().await`, arrived in `generation`. -/
  | atBarrier (generation : Nat)
  /-- `self.result.recv().await`. -/
  | receiving
  deriving Repr, DecidableEq

/-- The watcher's sends, the shim, the consumer's `wait` calls and what they share. -/
structure Handle where
  /-- Verdicts the watcher has still to send on the lower handle. -/
  pending : List Verdict
  /-- The watcher's sends so far, each with whether the channel accepted it. -/
  sends : List (Verdict × Bool)
  /-- The lower handle (`tx1`) is dropped: the watcher is over. -/
  watcherDone : Bool
  /-- The inbound channel's buffer (capacity 1). -/
  inbound : List Verdict
  shim : ShimPc
  barrier : Barrier
  /-- The outbound channel's buffer (capacity 1). -/
  outbound : List Verdict
  waiter : WaitPc
  phantom : Option Verdict
  /-- What each completed `wait` returned, in order. -/
  returned : List Verdict
  deriving Repr, DecidableEq

/-- One atomic step of one party. -/
inductive HandleLabel where
  | watcherSend
  | watcherDrop
  | shimReceive
  | shimPatience
  | shimPass
  | shimForward
  | callWait
  | waitPass
  | waitReceive
  deriving Repr, DecidableEq

namespace Handle

/-- The handle right after `PodManagerUpperHandle::new`, with the watcher about to send `verdicts`. -/
def init (verdicts : List Verdict) : Handle where
  pending := verdicts
  sends := []
  watcherDone := false
  inbound := []
  shim := .receiving
  barrier := { arrived := 0, generation := 0 }
  outbound := []
  waiter := .idle
  phantom := none
  returned := []

/-- The shim has its `result` and polls the barrier in its `select!`. -/
def shimArrive (h : Handle) (result : Verdict) : Handle :=
  let (barrier, waiting) := h.barrier.arrive
  { h with
    barrier := barrier
    shim := match waiting with
      | none => .forwarding result
      | some generation => .selecting result generation }

/-- A `wait` call completes with `result`, memoized in `phantom`. -/
def complete (h : Handle) (result : Verdict) : Handle :=
  { h with waiter := .idle, phantom := some (phantomOf result), returned := h.returned ++ [result] }

@[simp] theorem shimArrive_sends (h : Handle) (result : Verdict) :
    (h.shimArrive result).sends = h.sends := rfl

@[simp] theorem shimArrive_returned (h : Handle) (result : Verdict) :
    (h.shimArrive result).returned = h.returned := rfl

@[simp] theorem shimArrive_phantom (h : Handle) (result : Verdict) :
    (h.shimArrive result).phantom = h.phantom := rfl

@[simp] theorem shimArrive_waiter (h : Handle) (result : Verdict) :
    (h.shimArrive result).waiter = h.waiter := rfl

@[simp] theorem shimArrive_outbound (h : Handle) (result : Verdict) :
    (h.shimArrive result).outbound = h.outbound := rfl

/-- After arriving the shim holds `result`, either still selecting or already released. -/
theorem shimArrive_shim (h : Handle) (result : Verdict) :
    (∃ generation, (h.shimArrive result).shim = .selecting result generation) ∨
      (h.shimArrive result).shim = .forwarding result := by
  unfold shimArrive
  generalize h.barrier.arrive = arrival
  rcases arrival with ⟨_, _ | generation⟩ <;> simp

@[simp] theorem complete_returned (h : Handle) (result : Verdict) :
    (h.complete result).returned = h.returned ++ [result] := rfl

@[simp] theorem complete_phantom (h : Handle) (result : Verdict) :
    (h.complete result).phantom = some (phantomOf result) := rfl

@[simp] theorem complete_waiter (h : Handle) (result : Verdict) :
    (h.complete result).waiter = .idle := rfl

@[simp] theorem complete_outbound (h : Handle) (result : Verdict) :
    (h.complete result).outbound = h.outbound := rfl

@[simp] theorem complete_shim (h : Handle) (result : Verdict) :
    (h.complete result).shim = h.shim := rfl

@[simp] theorem complete_sends (h : Handle) (result : Verdict) :
    (h.complete result).sends = h.sends := rfl

/-- The step of one party, or `none` when that party's `await` cannot complete now. -/
def step (h : Handle) : HandleLabel → Option Handle
  | .watcherSend =>
      match h.pending with
      | [] => none
      | verdict :: rest =>
          if h.shim = .finished then
            some { h with pending := rest, sends := h.sends ++ [(verdict, false)] }
          else if h.inbound = [] then
            some { h with pending := rest, sends := h.sends ++ [(verdict, true)], inbound := [verdict] }
          else
            none
  | .watcherDrop =>
      if h.pending = [] ∧ h.watcherDone = false then some { h with watcherDone := true } else none
  | .shimReceive =>
      match h.shim, h.inbound with
      | .receiving, verdict :: rest => some ({ h with inbound := rest }.shimArrive verdict)
      | .receiving, [] =>
          if h.watcherDone then some (h.shimArrive (.error .inboundResultChannelDropped)) else none
      | _, _ => none
  | .shimPatience =>
      match h.shim with
      | .selecting _ _ => some { h with shim := .finished, inbound := [] }
      | _ => none
  | .shimPass =>
      match h.shim with
      | .selecting result generation =>
          if generation < h.barrier.generation then some { h with shim := .forwarding result } else none
      | _ => none
  | .shimForward =>
      match h.shim with
      | .forwarding result =>
          some { h with outbound := h.outbound ++ [result], shim := .finished, inbound := [] }
      | _ => none
  | .callWait =>
      match h.waiter, h.phantom with
      | .idle, some memo => some { h with returned := h.returned ++ [memo] }
      | .idle, none =>
          let (barrier, waiting) := h.barrier.arrive
          some { h with
            barrier := barrier
            waiter := match waiting with
              | none => .receiving
              | some generation => .atBarrier generation }
      | _, _ => none
  | .waitPass =>
      match h.waiter with
      | .atBarrier generation =>
          if generation < h.barrier.generation then some { h with waiter := .receiving } else none
      | _ => none
  | .waitReceive =>
      match h.waiter, h.outbound with
      | .receiving, verdict :: rest => some ({ h with outbound := rest }.complete verdict)
      | .receiving, [] =>
          if h.shim = .finished then some (h.complete (.error .inboundResultChannelDropped)) else none
      | _, _ => none

/-- The states of every interleaving from the handle's creation. -/
inductive Reachable (verdicts : List Verdict) : Handle → Prop where
  | init : Reachable verdicts (init verdicts)
  | step {h next : Handle} {label : HandleLabel} :
      Reachable verdicts h → h.step label = some next → Reachable verdicts next

/-- Run a schedule of labels; `none` when one of them is not enabled. -/
def run (h : Handle) : List HandleLabel → Option Handle
  | [] => some h
  | label :: rest =>
      match h.step label with
      | some next => next.run rest
      | none => none

/-- Every state a schedule reaches is reachable. -/
theorem reachable_of_run
    {verdicts : List Verdict}
    {h final : Handle}
    {schedule : List HandleLabel}
    (reachable : Reachable verdicts h)
    (ran : h.run schedule = some final) :
    Reachable verdicts final := by
  induction schedule generalizing h with
  | nil =>
      simp only [run, Option.some.injEq] at ran
      exact ran ▸ reachable
  | cons label rest inductionHypothesis =>
      simp only [run] at ran
      split at ran
      · exact inductionHypothesis (.step reachable ‹_›) ran
      · cases ran

/--
What every interleaving keeps, for a watcher whose first verdict is `first`.
Before the shim receives, the watcher has sent nothing, or only `first` and
into the empty buffer; after it, the watcher's first send is an accepted
`first`. Only `first` travels from the shim to the consumer, and `phantom`
memoizes the first `wait`'s outcome, which every later `wait` repeats.
-/
structure Sound (first : Verdict) (h : Handle) : Prop where
  beforeReceive :
    h.shim = .receiving →
      (h.sends = [] ∧ h.inbound = [] ∧ h.watcherDone = false ∧ h.pending.head? = some first) ∨
        (h.sends = [(first, true)] ∧ h.inbound = [first])
  firstAccepted : h.shim ≠ .receiving → h.sends.head? = some (first, true)
  selecting : ∀ result generation, h.shim = .selecting result generation → result = first
  forwarding : ∀ result, h.shim = .forwarding result → result = first
  outbound : ∀ result ∈ h.outbound, result = first
  waitingFirst : h.waiter ≠ .idle → h.returned = []
  memo : h.phantom = h.returned.head?.map phantomOf
  firstReturned :
    h.returned.head? = none ∨ h.returned.head? = some first ∨
      h.returned.head? = some (.error .inboundResultChannelDropped)
  later : ∀ result ∈ h.returned.tail, h.phantom = some result

theorem sound_init (first : Verdict) (later : List Verdict) :
    Sound first (init (first :: later)) where
  beforeReceive _ := .inl ⟨rfl, rfl, rfl, rfl⟩
  firstAccepted := by simp [init]
  selecting := by simp [init]
  forwarding := by simp [init]
  outbound := by simp [init]
  waitingFirst _ := rfl
  memo := rfl
  firstReturned := .inl rfl
  later := by simp [init]

section Preservation

variable {first : Verdict} {h next : Handle}

theorem sound_watcherSend (sound : Sound first h) (stepped : h.step .watcherSend = some next) :
    Sound first next := by
  simp only [step] at stepped
  split at stepped
  · cases stepped
  · rename_i verdict rest pending
    split at stepped
    · rename_i finished
      cases stepped
      have accepted := sound.firstAccepted (by simp [finished])
      exact { sound with
        beforeReceive := by simp [finished]
        firstAccepted := fun _ => by simp [List.head?_append, accepted] }
    · split at stepped
      · rename_i running empty
        cases stepped
        refine { sound with
          beforeReceive := fun receiving => .inr ?_
          firstAccepted := fun notReceiving => ?_ }
        · rcases sound.beforeReceive receiving with ⟨sent, -, -, head⟩ | ⟨-, full⟩ <;> simp_all
        · simp [List.head?_append, sound.firstAccepted notReceiving]
      · cases stepped

theorem sound_watcherDrop (sound : Sound first h) (stepped : h.step .watcherDrop = some next) :
    Sound first next := by
  simp only [step] at stepped
  split at stepped
  · rename_i drained
    cases stepped
    refine { sound with beforeReceive := fun receiving => .inr ?_ }
    rcases sound.beforeReceive receiving with ⟨-, -, -, head⟩ | sent
    · simp [drained.1] at head
    · exact sent
  · cases stepped

theorem sound_shimReceive (sound : Sound first h) (stepped : h.step .shimReceive = some next) :
    Sound first next := by
  simp only [step] at stepped
  split at stepped
  · rename_i verdict rest receiving buffered
    cases stepped
    obtain ⟨sent, full⟩ : h.sends = [(first, true)] ∧ h.inbound = [first] := by
      rcases sound.beforeReceive receiving with ⟨-, empty, -⟩ | sent
      · simp [empty] at buffered
      · exact sent
    obtain ⟨rfl, rfl⟩ : first = verdict ∧ rest = [] := by simpa [full, eq_comm] using buffered.symm
    rcases shimArrive_shim { h with inbound := [] } first with ⟨generation, arrived⟩ | arrived <;>
      exact { sound with
        beforeReceive := by simp [arrived]
        firstAccepted := fun _ => by simp [sent]
        selecting := by simp [arrived]
        forwarding := by simp [arrived] }
  · rename_i receiving empty
    split at stepped
    · rename_i dropped
      rcases sound.beforeReceive receiving with ⟨-, -, running, -⟩ | ⟨-, full⟩
      · simp [dropped] at running
      · simp [full] at empty
    · cases stepped
  · cases stepped

theorem sound_shimPatience (sound : Sound first h) (stepped : h.step .shimPatience = some next) :
    Sound first next := by
  simp only [step] at stepped
  split at stepped
  · rename_i result generation selecting
    cases stepped
    exact { sound with
      beforeReceive := by simp
      firstAccepted := fun _ => sound.firstAccepted (by simp [selecting])
      selecting := by simp
      forwarding := by simp }
  · cases stepped

theorem sound_shimPass (sound : Sound first h) (stepped : h.step .shimPass = some next) :
    Sound first next := by
  simp only [step] at stepped
  split at stepped
  · rename_i result generation selecting
    split at stepped
    · cases stepped
      exact { sound with
        beforeReceive := by simp
        firstAccepted := fun _ => sound.firstAccepted (by simp [selecting])
        selecting := by simp
        forwarding := by simpa using sound.selecting result generation selecting }
    · cases stepped
  · cases stepped

theorem sound_shimForward (sound : Sound first h) (stepped : h.step .shimForward = some next) :
    Sound first next := by
  simp only [step] at stepped
  split at stepped
  · rename_i result forwarding
    cases stepped
    have forwarded := sound.forwarding result forwarding
    exact { sound with
      beforeReceive := by simp
      firstAccepted := fun _ => sound.firstAccepted (by simp [forwarding])
      selecting := by simp
      forwarding := by simp
      outbound := by
        simp only [List.mem_append, List.mem_singleton]
        rintro result (kept | rfl)
        exacts [sound.outbound result kept, forwarded] }
  · cases stepped

theorem sound_callWait (sound : Sound first h) (stepped : h.step .callWait = some next) :
    Sound first next := by
  simp only [step] at stepped
  split at stepped
  · rename_i memo idle memoized
    cases stepped
    obtain ⟨earlier, rest, returned⟩ : ∃ earlier rest, h.returned = earlier :: rest := by
      cases returned : h.returned with
      | nil => simp [sound.memo, returned] at memoized
      | cons earlier rest => exact ⟨earlier, rest, rfl⟩
    exact { sound with
      waitingFirst := by simp [idle]
      memo := by simpa [returned] using sound.memo
      firstReturned := by simpa [returned] using sound.firstReturned
      later := by
        simp only [returned, List.cons_append, List.tail_cons, List.mem_append, List.mem_singleton]
        rintro result (earlierResult | rfl)
        · exact sound.later result (by rw [returned]; exact earlierResult)
        · exact memoized }
  · rename_i idle unmemoized
    cases stepped
    have nothingReturned : h.returned = [] := by
      cases returned : h.returned with
      | nil => rfl
      | cons earlier rest => simp [sound.memo, returned] at unmemoized
    exact { sound with waitingFirst := fun _ => nothingReturned }
  · cases stepped

theorem sound_waitPass (sound : Sound first h) (stepped : h.step .waitPass = some next) :
    Sound first next := by
  simp only [step] at stepped
  split at stepped
  · rename_i generation atBarrier
    split at stepped
    · cases stepped
      exact { sound with waitingFirst := fun _ => sound.waitingFirst (by simp [atBarrier]) }
    · cases stepped
  · cases stepped

/-- The call that completes is the first: its outcome becomes `returned` and the memo. -/
theorem sound_complete (sound : Sound first h) (receiving : h.waiter = .receiving)
    (result : Verdict) (allowed : result = first ∨ result = .error .inboundResultChannelDropped) :
    Sound first (h.complete result) := by
  have nothingReturned := sound.waitingFirst (by simp [receiving])
  refine { sound with
    waitingFirst := by simp
    memo := by simp [nothingReturned]
    firstReturned := by simp [nothingReturned, allowed]
    later := by simp [nothingReturned] }

theorem sound_waitReceive (sound : Sound first h) (stepped : h.step .waitReceive = some next) :
    Sound first next := by
  simp only [step] at stepped
  split at stepped
  · rename_i waiter verdict rest receiving buffered
    cases stepped
    have fromShim := sound.outbound verdict (by simp [buffered])
    have drained : Sound first { h with outbound := rest } :=
      { sound with outbound := fun result kept => sound.outbound result (by simp [buffered, kept]) }
    exact sound_complete drained receiving verdict (.inl fromShim)
  · rename_i receiving empty
    split at stepped
    · cases stepped
      exact sound_complete sound receiving _ (.inr rfl)
    · cases stepped
  · cases stepped

end Preservation

/-- Every step of every party keeps `Sound`. -/
theorem sound_step {first : Verdict} {h next : Handle} {label : HandleLabel}
    (sound : Sound first h) (stepped : h.step label = some next) :
    Sound first next := by
  cases label with
  | watcherSend => exact sound_watcherSend sound stepped
  | watcherDrop => exact sound_watcherDrop sound stepped
  | shimReceive => exact sound_shimReceive sound stepped
  | shimPatience => exact sound_shimPatience sound stepped
  | shimPass => exact sound_shimPass sound stepped
  | shimForward => exact sound_shimForward sound stepped
  | callWait => exact sound_callWait sound stepped
  | waitPass => exact sound_waitPass sound stepped
  | waitReceive => exact sound_waitReceive sound stepped

/-- `Sound` holds in every reachable state. -/
theorem sound_of_reachable {first : Verdict} {later : List Verdict} {h : Handle}
    (reachable : Reachable (first :: later) h) :
    Sound first h := by
  induction reachable with
  | init => exact sound_init first later
  | step _ stepped inductionHypothesis => exact sound_step inductionHypothesis stepped

/-- What a later `wait` returns after the first returned `earlier`: `Ok(p)` with the same pod
after `Ok(p)`, and `PhantomError` after any error. -/
def RepeatsFirst (earlier result : Verdict) : Prop :=
  (∀ pod, earlier = .ok pod → result = .ok pod) ∧ ∀ err, earlier = .error err → result = .error .phantomError

/-- The memo `wait` keeps is what a later `wait` must return. -/
theorem repeatsFirst_phantomOf (earlier : Verdict) : RepeatsFirst earlier (phantomOf earlier) := by
  cases earlier <;> simp [RepeatsFirst, phantomOf]

/--
What the external handle promises, for a watcher whose first verdict is
`first`: the shim receives exactly `first`, so the watcher's first send is
accepted; the first `wait` to complete returns `first` or
`InboundResultChannelDropped`; and once a `wait` has returned, every later
one returns the same pod, or `PhantomError` after an error, at once, without
arriving at the barrier or receiving on the channel.
-/
structure FirstVerdictDelivered (first : Verdict) (h : Handle) : Prop where
  shimSelecting : ∀ result generation, h.shim = .selecting result generation → result = first
  shimForwarding : ∀ result, h.shim = .forwarding result → result = first
  firstSendAccepted : ∀ send, h.sends.head? = some send → send = (first, true)
  firstWait :
    h.returned.head? = none ∨ h.returned.head? = some first ∨
      h.returned.head? = some (.error .inboundResultChannelDropped)
  laterWaits : ∀ earlier rest, h.returned = earlier :: rest → ∀ result ∈ rest, RepeatsFirst earlier result
  memoized :
    ∀ earlier rest, h.returned = earlier :: rest →
      ∃ result, RepeatsFirst earlier result ∧ h.step .callWait = some { h with returned := h.returned ++ [result] }

/-- Once a `wait` has returned, the next call takes the memo branch and touches nothing else. -/
theorem callWait_of_returned {first : Verdict} {h : Handle} {earlier : Verdict} {rest : List Verdict}
    (sound : Sound first h) (returned : h.returned = earlier :: rest) :
    h.step .callWait = some { h with returned := h.returned ++ [phantomOf earlier] } := by
  have idle : h.waiter = .idle := by
    by_contra waiting
    simp [sound.waitingFirst waiting] at returned
  have memo : h.phantom = some (phantomOf earlier) := by simp [sound.memo, returned]
  simp [step, idle, memo]

/-- The invariant gives the promise. -/
theorem firstVerdictDelivered_of_sound {first : Verdict} {h : Handle} (sound : Sound first h) :
    FirstVerdictDelivered first h := by
  refine ⟨sound.selecting, sound.forwarding, fun send head => ?_, sound.firstReturned,
    fun earlier rest returned result laterResult => ?_,
    fun earlier _ returned => ⟨_, repeatsFirst_phantomOf earlier, callWait_of_returned sound returned⟩⟩
  · by_cases receiving : h.shim = .receiving
    · rcases sound.beforeReceive receiving with ⟨empty, -⟩ | ⟨sent, -⟩ <;> simp_all
    · simpa [sound.firstAccepted receiving] using head.symm
  · have memo := sound.later result (by simp [returned, laterResult])
    have same : result = phantomOf earlier := by simpa [sound.memo, returned] using memo.symm
    exact same ▸ repeatsFirst_phantomOf earlier

/-- Whatever the interleaving of the watcher, the shim and the `wait` calls, the handle keeps its promise. -/
theorem handle_delivers_first_verdict
    (first : Verdict)
    (later : List Verdict)
    (h : Handle)
    (reachable : Reachable (first :: later) h) :
    FirstVerdictDelivered first h :=
  firstVerdictDelivered_of_sound (sound_of_reachable reachable)

/-- The shim and the first `wait` meet at the barrier; a second `wait` repeats the memo. -/
def metAtBarrier : List HandleLabel :=
  [.watcherSend, .watcherDrop, .shimReceive, .callWait, .shimPass, .shimForward, .waitReceive, .callWait]

/-- Where `metAtBarrier` leads, for a watcher that sends one `Ok`. -/
def metState : Handle :=
  ((init [.ok {}]).run metAtBarrier).getD (init [])

theorem handle_delivers_first_verdict_when_met :
    metState.returned = [.ok {}, .ok {}] ∧ FirstVerdictDelivered (.ok {}) metState :=
  have ran : (init [.ok {}]).run metAtBarrier = some metState := rfl
  ⟨rfl, handle_delivers_first_verdict (.ok {}) [] metState (reachable_of_run .init ran)⟩

/--
The handle of a returned run of `watch`: the watcher sent exactly one verdict,
or exactly `Ok(pod)` and then one error in Phase 3, and whatever the
interleaving the handle delivers the first of them.
-/
theorem watch_handle_delivers_first_verdict
    (endpointParses : String → Bool)
    (podId : String)
    (inputs : List WatcherInput)
    (w : Watcher)
    (h : Handle)
    (ran : (Watcher.init podId).run endpointParses inputs = some w)
    (returned : w.pc = .returned)
    (reachable : Reachable (Watcher.verdicts w.effects) h) :
    ∃ first, FirstVerdictDelivered first h ∧
      (Watcher.verdicts w.effects = [first] ∨
        ∃ pod err, first = .ok pod ∧ Watcher.verdicts w.effects = [.ok pod, .error err]) := by
  rcases Watcher.verdicts_of_finished (Watcher.finished_of_run ran returned) with
    ⟨result, sent⟩ | ⟨pod, err, sent⟩ <;> rw [sent] at reachable
  · exact ⟨result, firstVerdictDelivered_of_sound (sound_of_reachable reachable), .inl sent⟩
  · exact ⟨.ok pod, firstVerdictDelivered_of_sound (sound_of_reachable reachable), .inr ⟨pod, err, rfl, sent⟩⟩

theorem watch_handle_delivers_first_verdict_on_closed_stream :
    ∃ first, FirstVerdictDelivered first (init (Watcher.verdicts Watcher.closedWatcher.effects)) ∧
      (Watcher.verdicts Watcher.closedWatcher.effects = [first] ∨
        ∃ pod err, first = .ok pod ∧ Watcher.verdicts Watcher.closedWatcher.effects = [.ok pod, .error err]) :=
  have ran : (Watcher.init "pod").run (fun _ => true) [.item .closed] = some Watcher.closedWatcher := rfl
  watch_handle_delivers_first_verdict (fun _ => true) "pod" [.item .closed] Watcher.closedWatcher _ ran rfl .init

end Handle

end ConnectorManager
