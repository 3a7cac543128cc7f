import ConnectorManager.GarbageCollector

namespace ConnectorManager

/-!
# Refreshing a lease while it ends

The garbage collector daemon of `GarbageCollector.lean` closed with the two
channels it reads and the parties on their other ends
(`acm/src/podmanager/garbage_collector.rs`, `mod.rs`): the watcher sends
`GcStatus` signals into a channel of capacity 100 and eventually drops its
sender; each call of `GarbageCollector::refresh` sends a oneshot sender into
the refresh channel of capacity 1 and awaits the ticket on it. A refresh call
fails with `RefreshChannelClosed` when its send finds the daemon gone, or when
its oneshot sender is dropped unanswered. A caller's future may be dropped
while it waits. `PodManager`'s mutex serializes the HTTP handlers' calls;
the model lets calls overlap, which only adds interleavings.

The daemon's countdown `select!` is commented as choosing "whichever event
occurs first", but it takes any ready branch, so a refresh sent after a
`Terminated` can still be served: `refresh_served_after_terminated_sent` is
such a run. What does hold is `refresh_fails_once_gc_ended`: once the
daemon has ended (as it does on taking `Terminated`), it makes no ticket and
no patch, and every refresh call that completes afterwards fails with
`RefreshChannelClosed`.
-/

/-- Where a call of `GarbageCollector::refresh` is. -/
inductive RefreshCall where
  /-- `self.refresh_sender.send(tx).await`. -/
  | sending
  /-- `rx.await`. -/
  | awaiting
  /-- The caller's future was dropped before the call completed. -/
  | abandoned
  | finished (result : Except AcmError KeepAliveTicket)
  deriving DecidableEq

/-- The watcher's status channel, the daemon, the refresh channel and the refresh calls. -/
structure Lease where
  gc : Gc
  /-- The status channel's buffer. -/
  statusQueue : List GcStatus
  /-- Every status the watcher's sends put into the channel, in order. -/
  statusSent : List GcStatus
  /-- The watcher's status sender is dropped. -/
  watcherDone : Bool
  /-- The refresh channel's buffer, holding the indices of the calls whose requests it holds. -/
  refreshQueue : List Nat
  /-- Every refresh call so far, by index. -/
  calls : List RefreshCall
  deriving DecidableEq

/-- One atomic step of one party. -/
inductive LeaseLabel where
  | watcherSends (status : GcStatus)
  | watcherDrops
  /-- A new refresh call begins. -/
  | call
  /-- A call's send completes. -/
  | requestSent (caller : Nat)
  | abandon (caller : Nat)
  /-- The daemon is gone and a waiting call's oneshot sender with it. -/
  | requestDropped (caller : Nat)
  /-- The daemon's `recv` on the status channel completes. -/
  | gcStatus
  /-- The daemon's `recv` on the refresh channel completes. -/
  | gcRefresh
  | gcDeadline
  | gcPatched (succeeded : Bool)
  | gcDeleted (succeeded : Bool)
  | gcTick (clock : Clock)

namespace Lease

/-- The lease as `PodManager::new_podmanager` sets it up. -/
def init (pod : String) (ttl : UInt64) (clock : Clock) : Lease where
  gc := Gc.init pod ttl clock
  statusQueue := []
  statusSent := []
  watcherDone := false
  refreshQueue := []
  calls := []

/-- The daemon's task is over, and its two receivers are dropped. -/
def gcEnded (s : Lease) : Bool :=
  s.gc.pc = .returned || s.gc.pc = .panicked

/-- The daemon takes `input`; `none` unless it awaits it. -/
def daemon (s : Lease) (input : GcInput) : Option Lease :=
  (s.gc.step input).map fun gc => { s with gc := gc }

/-- A served request's caller gets the ticket the daemon adopted, if it still waits for it. -/
def answer (s : Lease) (caller : Nat) (received : Bool) : Lease :=
  match s.gc.pc, s.gc.keepAlive with
  | .patching, some ticket =>
      if received then { s with calls := s.calls.set caller (.finished (.ok ticket)) } else s
  | _, _ => s

/-- The step of one party, or `none` when it cannot happen now. -/
def step (s : Lease) : LeaseLabel → Option Lease
  | .watcherSends status =>
      if s.watcherDone = false ∧ s.gcEnded = false ∧ s.statusQueue.length < 100 then
        some { s with statusQueue := s.statusQueue ++ [status], statusSent := s.statusSent ++ [status] }
      else
        none
  | .watcherDrops =>
      if s.watcherDone = false then some { s with watcherDone := true } else none
  | .call => some { s with calls := s.calls ++ [.sending] }
  | .requestSent caller =>
      if s.calls[caller]? = some .sending then
        if s.gcEnded then
          some { s with calls := s.calls.set caller (.finished (.error .refreshChannelClosed)) }
        else if s.refreshQueue = [] then
          some { s with refreshQueue := [caller], calls := s.calls.set caller .awaiting }
        else
          none
      else
        none
  | .abandon caller =>
      if s.calls[caller]? = some .sending ∨ s.calls[caller]? = some .awaiting then
        some { s with calls := s.calls.set caller .abandoned }
      else
        none
  | .requestDropped caller =>
      if s.gcEnded ∧ s.calls[caller]? = some .awaiting then
        some { s with calls := s.calls.set caller (.finished (.error .refreshChannelClosed)) }
      else
        none
  | .gcStatus =>
      match s.statusQueue with
      | status :: rest => { s with statusQueue := rest }.daemon (.status (some status))
      | [] => if s.watcherDone then s.daemon (.status none) else none
  | .gcRefresh =>
      match s.refreshQueue with
      | caller :: rest =>
          let received := decide (s.calls[caller]? = some .awaiting)
          ({ s with refreshQueue := rest }.daemon (.refresh (some received))).map fun next : Lease =>
            next.answer caller received
      | [] => none
  | .gcDeadline => s.daemon .executionDateReached
  | .gcPatched succeeded => s.daemon (.patched succeeded)
  | .gcDeleted succeeded => s.daemon (.deleted succeeded)
  | .gcTick clock => s.daemon (.tick clock)

/-- Run a schedule of labels; `none` when one of them cannot happen. -/
def run (s : Lease) : List LeaseLabel → Option Lease
  | [] => some s
  | label :: rest =>
      match s.step label with
      | some next => next.run rest
      | none => none

/-- Every call that completed between `before` and `after` failed with `RefreshChannelClosed`. -/
def KeepsResults (before after : List RefreshCall) : Prop :=
  ∀ (caller : Nat) (result : Except AcmError KeepAliveTicket), after[caller]? = some (.finished result) →
    before[caller]? = some (.finished result) ∨ result = .error .refreshChannelClosed

theorem keepsResults_refl (calls : List RefreshCall) : KeepsResults calls calls :=
  fun _ _ finished => .inl finished

theorem keepsResults_trans {first second third : List RefreshCall}
    (early : KeepsResults first second) (late : KeepsResults second third) :
    KeepsResults first third := fun caller result finished =>
  (late caller result finished).elim (early caller result) .inr

/-- Setting one call to anything but a success keeps every success. -/
theorem keepsResults_set (calls : List RefreshCall) (caller : Nat) (call : RefreshCall)
    (failing : ∀ result, call = .finished result → result = .error .refreshChannelClosed) :
    KeepsResults calls (calls.set caller call) := by
  intro other result finished
  by_cases same : caller = other
  · subst same
    by_cases inRange : caller < calls.length
    · rw [List.getElem?_set_self inRange] at finished
      exact .inr (failing result (Option.some.inj finished))
    · rw [List.getElem?_eq_none (by simpa using inRange)] at finished
      cases finished
  · rw [List.getElem?_set_ne same] at finished
    exact .inl finished

/-- A new call has not completed. -/
theorem keepsResults_call (calls : List RefreshCall) : KeepsResults calls (calls ++ [.sending]) := by
  intro caller result finished
  by_cases old : caller < calls.length
  · rw [List.getElem?_append_left old] at finished
    exact .inl finished
  · rw [List.getElem?_append_right (Nat.le_of_not_lt old)] at finished
    cases equal : caller - calls.length <;> simp [equal] at finished

theorem gcEnded_iff (s : Lease) : s.gcEnded = true ↔ s.gc.pc = .returned ∨ s.gc.pc = .panicked := by
  simp [gcEnded]

/-- An ended daemon takes nothing. -/
theorem daemon_of_gcEnded {s : Lease} (ended : s.gcEnded = true) (input : GcInput) :
    s.daemon input = none := by
  simp [daemon, Gc.step_of_ended ((gcEnded_iff s).mp ended)]

/-- Once the daemon has ended, no step touches it, and a call completes only with `RefreshChannelClosed`. -/
theorem step_of_gcEnded {s next : Lease} {label : LeaseLabel}
    (ended : s.gcEnded = true) (stepped : s.step label = some next) :
    next.gc = s.gc ∧ KeepsResults s.calls next.calls := by
  have frozen := Gc.step_of_ended ((gcEnded_iff s).mp ended)
  cases label with
  | watcherSends status => simp [step, ended] at stepped
  | watcherDrops =>
      simp only [step] at stepped
      split at stepped <;> cases stepped
      exact ⟨rfl, keepsResults_refl _⟩
  | call =>
      cases stepped
      exact ⟨rfl, keepsResults_call _⟩
  | requestSent caller | requestDropped caller =>
      simp only [step, ended, if_true, true_and] at stepped
      split at stepped <;> cases stepped
      exact ⟨rfl, keepsResults_set _ _ _ fun _ failed => (RefreshCall.finished.inj failed).symm⟩
  | abandon caller =>
      simp only [step] at stepped
      split at stepped <;> cases stepped
      exact ⟨rfl, keepsResults_set _ _ _ fun _ impossible => by cases impossible⟩
  | gcStatus | gcRefresh | gcDeadline | gcPatched _ | gcDeleted _ | gcTick _ =>
      simp only [step] at stepped
      repeat' split at stepped
      all_goals simp [daemon, frozen] at stepped

/-- The run lemma: from an ended daemon on, the daemon is frozen and calls complete only with errors. -/
theorem run_of_gcEnded {s final : Lease} {schedule : List LeaseLabel}
    (ended : s.gcEnded = true) (ran : s.run schedule = some final) :
    final.gc = s.gc ∧ KeepsResults s.calls final.calls := by
  induction schedule generalizing s with
  | nil =>
      simp only [run, Option.some.injEq] at ran
      exact ran ▸ ⟨rfl, keepsResults_refl _⟩
  | cons label rest inductionHypothesis =>
      simp only [run] at ran
      split at ran
      · rename_i next stepped
        obtain ⟨frozen, kept⟩ := step_of_gcEnded ended stepped
        obtain ⟨stillFrozen, stillKept⟩ :=
          inductionHypothesis (by rw [gcEnded, frozen]; exact ended) ran
        exact ⟨stillFrozen.trans frozen, keepsResults_trans kept stillKept⟩
      · cases ran

/--
Once the daemon has ended, as it does on taking `Terminated`, whatever
happens next: it makes no ticket and no label patch, and every refresh call
that completes, whether its request was already queued or is sent later,
fails with `RefreshChannelClosed`.
-/
theorem refresh_fails_once_gc_ended
    (s final : Lease)
    (schedule : List LeaseLabel)
    (ended : s.gc.pc = .returned ∨ s.gc.pc = .panicked)
    (ran : s.run schedule = some final) :
    final.gc = s.gc ∧
      ∀ (caller : Nat) (result : Except AcmError KeepAliveTicket),
        final.calls[caller]? = some (.finished result) →
          s.calls[caller]? = some (.finished result) ∨ result = .error .refreshChannelClosed :=
  run_of_gcEnded ((gcEnded_iff s).mpr ended) ran

/-- The watcher announces the pod, the daemon schedules the lease, and the watcher sends `Terminated`. -/
def terminatedSent : List LeaseLabel :=
  [.watcherSends (.running {}), .gcStatus, .gcPatched true, .watcherSends .terminated]

/-- The daemon then takes `Terminated`. -/
def terminatedTaken : Lease :=
  ((init "pod" defaultTtl Gc.startClock).run (terminatedSent ++ [.gcStatus])).getD
    (init "pod" defaultTtl Gc.startClock)

/-- A refresh call made after that. -/
def refreshedTooLate : Lease :=
  (terminatedTaken.run [.call, .requestSent 0]).getD terminatedTaken

theorem refresh_fails_once_gc_ended_after_terminated :
    terminatedTaken.gc.pc = .returned ∧
      refreshedTooLate.calls = [.finished (.error .refreshChannelClosed)] ∧
      (refreshedTooLate.gc = terminatedTaken.gc ∧
        ∀ (caller : Nat) (result : Except AcmError KeepAliveTicket),
          refreshedTooLate.calls[caller]? = some (.finished result) →
          terminatedTaken.calls[caller]? = some (.finished result) ∨
            result = .error .refreshChannelClosed) :=
  have ended : terminatedTaken.gc.pc = .returned ∨ terminatedTaken.gc.pc = .panicked := .inl rfl
  have ran : terminatedTaken.run [.call, .requestSent 0] = some refreshedTooLate := rfl
  ⟨rfl, rfl, refresh_fails_once_gc_ended terminatedTaken refreshedTooLate _ ended ran⟩

/--
`Terminated` is in the status channel when a refresh request is sent, and the
daemon's `select!` serves the request first: the call gets a new ticket, and
the daemon replies and patches the label again.
-/
theorem refresh_served_after_terminated_sent :
    ((init "pod" defaultTtl Gc.startClock).run terminatedSent).map (fun s => s.statusSent) =
        some [.running {}, .terminated] ∧
      ((init "pod" defaultTtl Gc.startClock).run (terminatedSent ++ [.call, .requestSent 0, .gcRefresh])).map
          (fun s => (s.calls, s.gc.effects)) =
        some
          ([.finished (.ok ⟨"pod", 1700001800, 1800000000000⟩)],
            [.patch 1700001800, .reply ⟨"pod", 1700001800, 1800000000000⟩ true, .patch 1700001800]) :=
  ⟨rfl, rfl⟩

end Lease

end ConnectorManager
