import Mathlib.Data.List.Basic

namespace ConnectorManager

/-!
# Kubernetes pods and the `PodExt` questions asked of them

This module models the part of the Kubernetes `Pod` object that the pod
manager reads (`k8s/src/pod.rs`), the `PodExt` extension trait, and the error
kinds that the pod manager's daemons pass to one another and to the HTTP
layer.

Every `PodExt` predicate walks the container statuses with the same defaults
(`Pod::status` and `PodStatus::container_statuses` read as empty when absent,
`ContainerStatus::state` as `ContainerState::default()`). The two families of
near-identical predicates are written once with a parameter: `anyState` for
`running` and `terminated`, `waitingFor` for `crashed` and
`was_err_image_pull`. `err_image_pull` keeps its own body, because unlike its
sibling it unwraps the waiting message; `errImagePull_panics_iff` says exactly
when that `unwrap` panics.
-/

/-- The error kinds of the pod manager, with the fields each one carries. -/
inductive AcmError where
  | podCrashed
  | garbageCollectorUnresponsive (pod : String)
  | kubernetesUnresponsive (elapsed : Nat)
  | unexpectedCloseOfEventStream
  | podDeleted
  | podRebooted
  | healthCheckDroppedItsChannel
  | errImagePull (message : String)
  | podHasNoStatus (op : String)
  | podHasNoIp (op : String)
  | podHasNoNamespace (op : String)
  | podHasNoSpec (op : String)
  | podHasNoContainers (op : String)
  | containerHasNoPorts (op : String)
  | notReady
  | tooManyFailures (uri : String) (source : String)
  | grpcEndpointParsdeError (uri : String)
  | inboundResultChannelDropped
  | phantomError
  | refreshChannelClosed
  | podManagerNotFound (id : String)
  deriving Repr, DecidableEq

/-- Verdicts and check results are compared; core gives `Except` no `DecidableEq`. -/
instance decEqExcept {ε α : Type} [DecidableEq ε] [DecidableEq α] : DecidableEq (Except ε α)
  | .error a, .error b => if same : a = b then isTrue (same ▸ rfl) else isFalse fun e => same (by cases e; rfl)
  | .ok a, .ok b => if same : a = b then isTrue (same ▸ rfl) else isFalse fun e => same (by cases e; rfl)
  | .error _, .ok _ => isFalse nofun
  | .ok _, .error _ => isFalse nofun

/-- `ContainerStateRunning`; its `started_at` field is never read. -/
structure ContainerStateRunning where
  deriving Repr, DecidableEq

/-- `ContainerStateTerminated`; only its presence is read. -/
structure ContainerStateTerminated where
  deriving Repr, DecidableEq

/-- `ContainerStateWaiting`: the reason Kubernetes gives and its optional message. -/
structure ContainerStateWaiting where
  reason : Option String := none
  message : Option String := none
  deriving Repr, DecidableEq

/-- `ContainerState`: at most one of the three is set by Kubernetes, none is required. -/
structure ContainerState where
  running : Option ContainerStateRunning := none
  terminated : Option ContainerStateTerminated := none
  waiting : Option ContainerStateWaiting := none
  deriving Repr, DecidableEq

/-- `ContainerStatus`, reduced to its optional state. -/
structure ContainerStatus where
  state : Option ContainerState := none
  deriving Repr, DecidableEq

/-- `ContainerPort`, reduced to the port number (an `i32`). -/
structure ContainerPort where
  containerPort : Int
  deriving Repr, DecidableEq

/-- `Container`, reduced to its optional list of ports. -/
structure Container where
  ports : Option (List ContainerPort) := none
  deriving Repr, DecidableEq

/-- `PodSpec`, reduced to its containers. -/
structure PodSpec where
  containers : List Container := []
  deriving Repr, DecidableEq

/-- `ObjectMeta`, reduced to the namespace. -/
structure ObjectMeta where
  «namespace» : Option String := none
  deriving Repr, DecidableEq

/-- `PodStatus`: the pod's cluster IP and the statuses of its containers. -/
structure PodStatus where
  podIp : Option String := none
  containerStatuses : Option (List ContainerStatus) := none
  deriving Repr, DecidableEq

/-- A pod snapshot as the watch stream delivers it. `Pod::default()` is `{}`. -/
structure Pod where
  metadata : ObjectMeta := {}
  spec : Option PodSpec := none
  status : Option PodStatus := none
  deriving Repr, DecidableEq

instance : Inhabited Pod := ⟨{}⟩

namespace Pod

/-- The container statuses, with the defaults every `PodExt` predicate uses. -/
def containerStatuses (pod : Pod) : List ContainerStatus :=
  ((pod.status.getD {}).containerStatuses).getD []

/-- `status.state.as_ref().unwrap_or(&default_state)`. -/
def stateOf (status : ContainerStatus) : ContainerState :=
  status.state.getD {}

/-- The common body of `running` and `terminated`: some container's state has `field` set. -/
def anyState (field : ContainerState → Bool) (pod : Pod) : Bool :=
  pod.containerStatuses.any fun status => field (stateOf status)

/-- `PodExt::running`. -/
def running (pod : Pod) : Bool :=
  anyState (fun state => state.running.isSome) pod

/-- `PodExt::terminated`. -/
def terminated (pod : Pod) : Bool :=
  anyState (fun state => state.terminated.isSome) pod

/-- The `find` closure shared by `crashed`, `was_err_image_pull` and `err_image_pull`. -/
def waitingFor (reason : String) (status : ContainerStatus) : Bool :=
  match (stateOf status).waiting with
  | some { reason := some given, .. } => given == reason
  | _ => false

/-- The first container status waiting with `reason`. -/
def findWaiting (reason : String) (pod : Pod) : Option ContainerStatus :=
  pod.containerStatuses.find? (waitingFor reason)

/-- `PodExt::crashed`. -/
def crashed (pod : Pod) : Bool :=
  (findWaiting "CrashLoopBackOff" pod).isSome

/-- `PodExt::was_err_image_pull`. -/
def wasErrImagePull (pod : Pod) : Bool :=
  (findWaiting "ErrImagePull" pod).isSome

/--
`PodExt::err_image_pull`: `none` is a panic of one of its three `unwrap`s,
otherwise the `Result<()>` it returns.
-/
def errImagePull (pod : Pod) : Option (Except AcmError Unit) :=
  match findWaiting "ErrImagePull" pod with
  | some problem => do
      let state ← problem.state
      let waiting ← state.waiting
      let message ← waiting.message
      pure (.error (.errImagePull message))
  | none => pure (.ok ())

/-- `ip.replace('.', "-")`: every `.` of the pod IP becomes `-`. -/
def dashed (ip : String) : String :=
  ⟨ip.data.map fun c => if c = '.' then '-' else c⟩

/-- `PodExt::dns`: `<pod-ip with dashes>.<namespace>.pod`. -/
def dns (pod : Pod) : Except AcmError String := do
  let op := "retrieving its cluster DNS entry"
  let status ← (pod.status.map .ok).getD (.error (.podHasNoStatus op))
  let ip ← (status.podIp.map .ok).getD (.error (.podHasNoIp op))
  let domain ← (pod.metadata.«namespace».map .ok).getD (.error (.podHasNoNamespace op))
  pure (dashed ip ++ "." ++ domain ++ ".pod")

/-- `PodExt::port`: the first port of the first container. -/
def port (pod : Pod) : Except AcmError Int := do
  let op := "retrieving its listening port number"
  let spec ← (pod.spec.map .ok).getD (.error (.podHasNoSpec op))
  let container ← (spec.containers.head?.map .ok).getD (.error (.podHasNoContainers op))
  let ports ← (container.ports.map .ok).getD (.error (.containerHasNoPorts op))
  let first ← (ports.head?.map .ok).getD (.error (.containerHasNoPorts op))
  pure first.containerPort

/-- `PodExt::address`: `<dns>:<port>`. -/
def address (pod : Pod) : Except AcmError String := do
  let host ← pod.dns
  let number ← pod.port
  pure (host ++ ":" ++ toString number)

/-- A failed `?`: the first computation failed, or it succeeded and the rest failed. -/
theorem bind_eq_error {α β : Type} {x : Except AcmError α} {f : α → Except AcmError β}
    {err : AcmError} (failed : x >>= f = .error err) :
    x = .error err ∨ ∃ v, x = .ok v ∧ f v = .error err := by
  cases x with
  | error e => exact .inl (by simpa [bind, Except.bind] using failed)
  | ok v => exact .inr ⟨v, rfl, failed⟩

/-- `option.ok_or(fallback)?` fails only with `fallback`. -/
theorem getD_error {α : Type} {o : Option α} {fallback err : AcmError}
    (failed : (o.map Except.ok).getD (Except.error fallback) = Except.error err) : err = fallback := by
  cases o <;> simp_all

/-- Every error of `dns` names the part of the pod it found missing. -/
theorem dns_error {pod : Pod} {err : AcmError} (failed : pod.dns = .error err) :
    ∃ op, err = .podHasNoStatus op ∨ err = .podHasNoIp op ∨ err = .podHasNoNamespace op := by
  simp only [dns] at failed
  rcases bind_eq_error failed with missing | ⟨status, -, failed⟩
  · exact ⟨_, .inl (getD_error missing)⟩
  rcases bind_eq_error failed with missing | ⟨ip, -, failed⟩
  · exact ⟨_, .inr (.inl (getD_error missing))⟩
  rcases bind_eq_error failed with missing | ⟨domain, -, failed⟩
  · exact ⟨_, .inr (.inr (getD_error missing))⟩
  · cases failed

/-- Every error of `port` names the part of the pod it found missing. -/
theorem port_error {pod : Pod} {err : AcmError} (failed : pod.port = .error err) :
    ∃ op, err = .podHasNoSpec op ∨ err = .podHasNoContainers op ∨ err = .containerHasNoPorts op := by
  simp only [port] at failed
  rcases bind_eq_error failed with missing | ⟨spec, -, failed⟩
  · exact ⟨_, .inl (getD_error missing)⟩
  rcases bind_eq_error failed with missing | ⟨container, -, failed⟩
  · exact ⟨_, .inr (.inl (getD_error missing))⟩
  rcases bind_eq_error failed with missing | ⟨ports, -, failed⟩
  · exact ⟨_, .inr (.inr (getD_error missing))⟩
  rcases bind_eq_error failed with missing | ⟨first, -, failed⟩
  · exact ⟨_, .inr (.inr (getD_error missing))⟩
  · cases failed

/-- Every error of `address` is one of `dns` or of `port`. -/
theorem address_error {pod : Pod} {err : AcmError} (failed : pod.address = .error err) :
    (∃ op, err = .podHasNoStatus op ∨ err = .podHasNoIp op ∨ err = .podHasNoNamespace op) ∨
      ∃ op, err = .podHasNoSpec op ∨ err = .podHasNoContainers op ∨ err = .containerHasNoPorts op := by
  simp only [address] at failed
  rcases bind_eq_error failed with missing | ⟨host, -, failed⟩
  · exact .inl (dns_error missing)
  rcases bind_eq_error failed with missing | ⟨number, -, failed⟩
  · exact .inr (port_error missing)
  · cases failed

/-- A status that `waitingFor` accepts has a state that is waiting with that reason. -/
theorem waitingFor_spec
    {reason : String}
    {status : ContainerStatus}
    (accepted : waitingFor reason status = true) :
    ∃ state waiting,
      status.state = some state ∧
        state.waiting = some waiting ∧
        waiting.reason = some reason := by
  rcases status with ⟨_ | ⟨running, terminated, _ | ⟨_ | given, message⟩⟩⟩ <;>
    simp_all [waitingFor, stateOf]

/-- What `err_image_pull` computes from the container status its `find` picked. -/
theorem errImagePull_of_found
    {pod : Pod}
    {problem : ContainerStatus}
    (found : findWaiting "ErrImagePull" pod = some problem) :
    ∃ state waiting,
      problem.state = some state ∧
        state.waiting = some waiting ∧
        pod.errImagePull =
          waiting.message.map fun message => .error (.errImagePull message) := by
  obtain ⟨state, waiting, hasState, isWaiting, -⟩ :=
    waitingFor_spec (List.find?_some found)
  refine ⟨state, waiting, hasState, isWaiting, ?_⟩
  cases message : waiting.message <;>
    simp [errImagePull, found, hasState, isWaiting, message]

/--
`err_image_pull` panics exactly when the first container waiting on
`ErrImagePull` carries no waiting message: the first two `unwrap`s are safe,
as its comment says, but the third one is not covered by the `find`.
-/
theorem errImagePull_panics_iff
    (pod : Pod) :
    pod.errImagePull = none ↔
      ∃ problem state waiting,
        findWaiting "ErrImagePull" pod = some problem ∧
          problem.state = some state ∧
          state.waiting = some waiting ∧
          waiting.message = none := by
  cases found : findWaiting "ErrImagePull" pod with
  | none =>
      simp [errImagePull, found]
  | some problem =>
      obtain ⟨state, waiting, hasState, isWaiting, computed⟩ :=
        errImagePull_of_found found
      simp [computed, hasState, isWaiting]

/--
Whenever `err_image_pull` returns, it agrees with `was_err_image_pull`: it
returns `Ok` exactly for pods with no container waiting on `ErrImagePull`,
and otherwise `Err(ErrImagePull)` with that container's message.
-/
theorem errImagePull_returns_iff
    (pod : Pod)
    (result : Except AcmError Unit)
    (returned : pod.errImagePull = some result) :
    (result = .ok () ↔ pod.wasErrImagePull = false) ∧
      (∀ err, result = .error err → ∃ message, err = .errImagePull message) := by
  cases found : findWaiting "ErrImagePull" pod with
  | none =>
      simp only [errImagePull, found, pure, Option.some.injEq] at returned
      subst result
      simp [wasErrImagePull, found]
  | some problem =>
      obtain ⟨state, waiting, -, -, computed⟩ := errImagePull_of_found found
      obtain ⟨message, -, rfl⟩ := Option.map_eq_some'.mp (computed ▸ returned)
      simp [wasErrImagePull, found]

/-- A pod whose only container waits on `ErrImagePull` without a message. -/
def imagePullWithoutMessage : Pod where
  status := some {
    containerStatuses := some [{ state := some { waiting := some { reason := some "ErrImagePull" } } }] }

/-- On that pod `was_err_image_pull` holds and `err_image_pull` panics. -/
theorem errImagePull_panics_on_missing_message :
    imagePullWithoutMessage.wasErrImagePull = true ∧
      imagePullWithoutMessage.errImagePull = none :=
  ⟨rfl, rfl⟩

end Pod

end ConnectorManager
