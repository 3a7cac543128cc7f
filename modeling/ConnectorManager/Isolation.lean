import ConnectorManager.RemovalTask

namespace ConnectorManager

/-!
# Concurrent installs

The image manager serves uploads concurrently, each in a containerd namespace of its own
named by a fresh UUID. `uuid` keeps all 128 random bits: its hex digits read back give the
draw (`Names.hexValue_uuid`), so installs of different draws get different namespaces. Each
`ctr` command of an install names its namespace with `-n`, and each removal task it spawns
removes the namespace or an image in it (`Effects.Within`, one lemma per stage). An
install's cleanup therefore never removes an image of another install's namespace, in any run
of the removal tasks (`installs_never_remove_each_others_images`).
-/

namespace Names

/-- The value of a lowercase hex digit. -/
def hexDigitValue (c : Char) : Nat :=
  if c.isDigit then c.toNat - '0'.toNat else c.toNat - 'a'.toNat + 10

/-- The number lowercase hex digits spell, most significant first. -/
def hexValue (digits : List Char) : Nat :=
  digits.foldl (fun value c => 16 * value + hexDigitValue c) 0

/-- Each of the sixteen digits reads back as its value. -/
theorem hexDigitValue_digitChar : ∀ d < 16, hexDigitValue (Nat.digitChar d) = d := by
  decide

/-- The `k` low hex digits of `n`, most significant first, read after `value`. -/
theorem foldl_hexDigits (n : Nat) : ∀ k value : Nat,
    ((List.range k).reverse.map fun i => Nat.digitChar (n / 16 ^ i % 16)).foldl
        (fun value c => 16 * value + hexDigitValue c) value = value * 16 ^ k + n % 16 ^ k
  | 0, value => by simp [Nat.mod_one]
  | k + 1, value => by
    rw [List.range_succ, List.reverse_append, List.reverse_singleton, List.singleton_append, List.map_cons,
      List.foldl_cons, hexDigitValue_digitChar _ (Nat.mod_lt _ (by decide)), foldl_hexDigits n k, pow_succ,
      Nat.mod_mul]
    ring

/-- The UUID's digits give back the draw. -/
theorem hexValue_uuid (random : BitVec 128) : hexValue (uuid random) = random.toNat := by
  have below : random.toNat < 16 ^ 32 := lt_of_lt_of_eq random.isLt (by norm_num)
  have read := foldl_hexDigits random.toNat 32 0
  rw [zero_mul, zero_add, Nat.mod_eq_of_lt below] at read
  exact read

theorem uuid_injective : Function.Injective uuid := fun a b same =>
  BitVec.eq_of_toNat_eq (by rw [← hexValue_uuid a, ← hexValue_uuid b, same])

end Names

/-- Effects that stay in namespace `ns`: each `ctr` command runs with `-n <ns>`, and each
removal removes the namespace or an image in it. -/
def Effects.Within (ns : String) (effects : Effects) : Prop :=
  (∀ command ∈ effects.commands, command.program = "ctr" → command.args.take 2 = [.plain "-n", .plain ns]) ∧
    ∀ removal ∈ effects.spawned, removal.ns = ns

theorem Effects.Within.append {ns : String} {a b : Effects} (first : a.Within ns) (second : b.Within ns) :
    (a ++ b).Within ns := by
  simp only [Within, append_commands, append_spawned, List.mem_append]
  exact ⟨fun command member => member.elim (first.1 command) (second.1 command),
    fun removal member => member.elim (first.2 removal) (second.2 removal)⟩

theorem within_andThen {α β : Type} {ns : String} {x : Except InstallError α × Effects}
    {f : α → Except InstallError β × Effects} (first : x.2.Within ns)
    (later : ∀ a, x.1 = .ok a → (f a).2.Within ns) : (andThen x f).2.Within ns := by
  rcases x with ⟨_ | a, effects⟩
  · exact first
  · exact first.append (later a rfl)

namespace Containerd

/-- The first stage stays in its namespace, and the image it reads is in it. -/
theorem importPath_within (ns : Namespace) (path : String) (answers : Answers) :
    ((WorkFlow.newWorkflow ns).importPath path answers).2.Within ns.namespace ∧
      ∀ retag, ((WorkFlow.newWorkflow ns).importPath path answers).1 = .ok retag → retag.image.namespace = ns := by
  cases imported : exec (Import.importCommand ns path).debugString answers.imported with
  | error err =>
    simp only [Import.importPath, WorkFlow.newWorkflow, imported]
    exact ⟨⟨by simp [Import.importCommand, ctr], by simp⟩, fun _ failed => nomatch failed⟩
  | ok out =>
    simp only [Import.importPath, WorkFlow.newWorkflow, imported]
    refine ⟨⟨by simp [Import.importCommand, Import.lsCommand, ctr], by simp⟩, fun retag read => ?_⟩
    cases extracted : Import.extractImageMetadata ns answers.listed with
    | error err => simp [extracted, Except.map] at read
    | ok image =>
      simp only [extracted, Except.map, Except.ok.injEq] at read
      subst read
      exact extractImageMetadata_namespace extracted

/-- `retag` stays in the namespace of its image, and the image it holds is in it. -/
theorem retag_within (settings : Settings) (newTag : String) (tagged : ChildOutcome) (image : TmpImage) :
    ((Retag.mk image).retag settings newTag tagged).2.Within image.namespace.namespace ∧
      ∀ push, ((Retag.mk image).retag settings newTag tagged).1 = .ok push → push.image.namespace = image.namespace := by
  rw [retag_eq]
  refine ⟨⟨by simp [tagging, Retag.tagCommand, ctr], by simp [TmpImage.drop, Removal.ns]⟩, fun push made => ?_⟩
  cases ran : exec (tagging settings newTag image).debugString tagged with
  | error err => simp [ran] at made
  | ok out =>
    simp only [ran, Except.ok.injEq] at made
    subst made
    rfl

/-- `push` stays in the namespace of its image: the password is asked of `aws`. -/
theorem push_within (self : Push) (settings : Settings) (answers : Answers) :
    (self.push settings answers).2.Within self.image.namespace.namespace := by
  refine ⟨fun command member named => ?_, fun removal member => ?_⟩
  · simp only [Push.push, Effects.append_commands, List.append_nil] at member
    cases implementation : settings.implementation
    · simp only [implementation, Push.pushToEcr] at member
      have asked : ImageRegistry.getLoginPassword.program ≠ "ctr" := by decide
      split at member <;> simp only [List.mem_cons, List.mem_singleton, List.not_mem_nil, or_false] at member
      · exact absurd (member ▸ named) asked
      · rcases member with rfl | rfl
        · exact absurd named asked
        · simp [Push.pushToEcrCommand, ctr]
    · simp only [implementation, Push.pushToMinikube, List.mem_singleton] at member
      simp [member, Push.pushToMinikubeCommand, ctr]
  · rw [push_spawned, List.mem_singleton] at member
    subst member
    rfl

/-- Every command and every removal of an install stays in its namespace. -/
theorem import_within (settings : Settings) (draws : Draws) (path : String) (answers : Answers) :
    («import» settings draws path answers).2.Within (Namespace.new draws.namespace).namespace := by
  have first := importPath_within (Namespace.new draws.namespace) path answers
  refine Effects.Within.append (within_andThen first.1 fun retag read => ?_)
    ⟨by simp, by simp [Namespace.drop, Removal.ns]⟩
  have second := retag_within settings (Names.rfc1035Label draws.tag draws.letter) answers.tagged retag.image
  rw [first.2 retag read] at second
  exact within_andThen second.1 fun push made => by
    simpa only [second.2 push made] using push_within push settings answers

end Containerd

/-- Installs of different draws never touch each other: their namespaces differ, each `ctr`
command of an install runs in its own namespace, and each removal task it spawns removes its
namespace or an image in it. In every run of the removal tasks an install spawns, beside any
tasks that do not remove it, an image of the other install's namespace stays. -/
theorem installs_never_remove_each_others_images (settings : Settings) (draws other : Draws) (path : String)
    (answers : Answers) (distinct : draws.namespace ≠ other.namespace) :
    (Namespace.new draws.namespace).namespace ≠ (Namespace.new other.namespace).namespace ∧
      (Containerd.«import» settings draws path answers).2.Within (Namespace.new draws.namespace).namespace ∧
      ∀ (now : Nat) (images : List (String × String)) (others : List RemovalTask.Task)
        (events : List RemovalTask.Event) (final : RemovalTask.World) (reference : String),
        (RemovalTask.World.spawn now images (Containerd.«import» settings draws path answers).2.spawned others).run
            events = some final →
        ((Namespace.new other.namespace).namespace, reference) ∈ images →
        (∀ task ∈ others, task.removal ≠ .image (Namespace.new other.namespace).namespace reference) →
        ((Namespace.new other.namespace).namespace, reference) ∈ final.images := by
  have apart : (Namespace.new draws.namespace).namespace ≠ (Namespace.new other.namespace).namespace :=
    fun same => distinct (Names.uuid_injective (congrArg String.data same))
  have within := Containerd.import_within settings draws path answers
  refine ⟨apart, within, fun now images others events final reference ran held spared => ?_⟩
  refine (RemovalTask.World.imageKept_run ⟨held, fun task member => ?_⟩ ran).1
  simp only [RemovalTask.World.spawn, List.mem_append, List.mem_map] at member
  rcases member with ⟨removal, spawned, rfl⟩ | member
  · intro same
    have named := within.2 removal spawned
    rw [show removal = _ from same] at named
    exact apart named.symm
  · exact spared task member

theorem installs_never_remove_each_others_images_of_two_uploads :
    (Namespace.new 0).namespace ≠ (Namespace.new 1).namespace ∧
      (Containerd.«import» {} ⟨0, 0, 'q'⟩ "upload" (Containerd.succeeding Containerd.tennisListing)).2.Within
        (Namespace.new 0).namespace ∧
      ∀ (now : Nat) (images : List (String × String)) (others : List RemovalTask.Task)
        (events : List RemovalTask.Event) (final : RemovalTask.World) (reference : String),
        (RemovalTask.World.spawn now images
            (Containerd.«import» {} ⟨0, 0, 'q'⟩ "upload" (Containerd.succeeding Containerd.tennisListing)).2.spawned
            others).run events = some final →
        ((Namespace.new 1).namespace, reference) ∈ images →
        (∀ task ∈ others, task.removal ≠ .image (Namespace.new 1).namespace reference) →
        ((Namespace.new 1).namespace, reference) ∈ final.images :=
  installs_never_remove_each_others_images {} ⟨0, 0, 'q'⟩ ⟨1, 0, 'q'⟩ "upload"
    (Containerd.succeeding Containerd.tennisListing) (by decide)

end ConnectorManager
