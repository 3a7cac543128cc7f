import ConnectorManager.ImageRegistry
import ConnectorManager.ImageImport
import ConnectorManager.Names

namespace ConnectorManager

/-!
# Installing an image: the containerd workflow

`containerd::import` (`aim/src/registry/containerd`) installs an uploaded
image in three stages, each a `ctr` command in a fresh namespace named by a
UUID:

1. `Import::import_path` imports the tarball (`ctr images import --no-unpack`),
   and `extract_image_metadata` lists the namespace (`ctr images ls`) and reads
   the imported reference, tag and digest with `extract_image_metadata_from_str`;
2. `Retag::retag` tags the image `<registry>/<repository>:<tag>`, the tag being
   a fresh `rfc1035_label()`;
3. `Push::push` pushes the new reference, to ECR with the password
   `aws ecr get-login-password` gives, or to Minikube over plain HTTP, and
   returns the new tag with the listed digest.

The namespace and each `TmpImage` remove themselves when dropped: their `Drop`
spawns a task running `ctr namespace remove` or `ctr images remove`, which
`RemovalTask` models. Rust drops a value where its owner goes out of scope, on
the early returns of `?` too, so every stage here returns, beside its result,
the commands it ran and the removals its drops spawned (`Effects`).

The environment's answers to the commands are an input (`Answers`), and so are
the random draws of the two UUIDs and of the label's first letter (`Draws`).
One spec lemma per stage says what it does; the theorems about the whole
install are assembled from them.
-/

/-- `Namespace`: the temporary containerd namespace of one install. -/
structure Namespace where
  «namespace» : String
  deriving Repr, DecidableEq

/-- What a `Drop` impl removes; each drop spawns one task. -/
inductive Removal where
  /-- `Namespace`'s drop: `ctr namespace remove <namespace>`. -/
  | «namespace» (ns : String)
  /-- `TmpImage`'s drop: `ctr -n <namespace> images remove <reference>`. -/
  | image (ns reference : String)
  deriving Repr, DecidableEq

/-- `TmpImage`: an image of the temporary namespace. -/
structure TmpImage where
  reference : String
  tag : String
  digest : String
  «namespace» : Namespace
  deriving Repr, DecidableEq

/-- `Image`: the tag and digest an install returns. -/
structure Image where
  tag : String
  digest : String
  deriving Repr, DecidableEq

/-- The errors of an install, as the workflow's `?`s pass them on. -/
inductive InstallError where
  /-- A `ctr` command failed. -/
  | exec (err : ExecError)
  /-- `extract_image_metadata_from_str` refused the listing. -/
  | imageLs (err : ImageLsError)
  /-- `GetPasswordError`: `aws ecr get-login-password` failed. -/
  | getPassword (err : ExecError)
  deriving Repr, DecidableEq

/-- The commands a stage ran and the removal tasks its drops spawned, each in order. -/
structure Effects where
  commands : List Command := []
  spawned : List Removal := []
  deriving Repr, DecidableEq

instance : Append Effects :=
  ⟨fun a b => ⟨a.commands ++ b.commands, a.spawned ++ b.spawned⟩⟩

@[simp] theorem Effects.append_commands (a b : Effects) : (a ++ b).commands = a.commands ++ b.commands :=
  rfl

@[simp] theorem Effects.append_spawned (a b : Effects) : (a ++ b).spawned = a.spawned ++ b.spawned :=
  rfl

/-- The environment's answers to the commands of one install, in the order they run. -/
structure Answers where
  imported : ChildOutcome
  listed : ChildOutcome
  tagged : ChildOutcome
  /-- `aws ecr get-login-password`, run only when pushing to ECR. -/
  password : ChildOutcome
  pushed : ChildOutcome
  deriving Repr, DecidableEq

/-- The random draws of one install: the namespace's UUID, the new tag's UUID, and the letter
`rfc1035_label` puts first when the UUID starts with a digit. -/
structure Draws where
  «namespace» : BitVec 128
  tag : BitVec 128
  letter : Char
  deriving Repr, DecidableEq

/-- `ctr!(args..)`: `cmd!("ctr", args..)`. -/
def ctr (args : List Arg) : Command :=
  ⟨"ctr", args⟩

/-- `x?` and then `f`: the effects of both, in order; an error ends the chain. -/
def andThen {α β : Type} (x : Except InstallError α × Effects) (f : α → Except InstallError β × Effects) :
    Except InstallError β × Effects :=
  match x with
  | (.error err, effects) => (.error err, effects)
  | (.ok a, effects) => ((f a).1, effects ++ (f a).2)

@[simp] theorem andThen_error {α β : Type} (err : InstallError) (effects : Effects)
    (f : α → Except InstallError β × Effects) :
    andThen (.error err, effects) f = (.error err, effects) :=
  rfl

@[simp] theorem andThen_ok {α β : Type} (a : α) (effects : Effects) (f : α → Except InstallError β × Effects) :
    andThen (.ok a, effects) f = ((f a).1, effects ++ (f a).2) :=
  rfl

namespace Namespace

/-- `Namespace::new()`: a namespace named by a fresh UUID. -/
def new (random : BitVec 128) : Namespace :=
  ⟨⟨Names.uuid random⟩⟩

/-- The task `Namespace`'s drop spawns. -/
def drop (ns : Namespace) : Removal :=
  .namespace ns.namespace

end Namespace

/-- The task `TmpImage`'s drop spawns. -/
def TmpImage.drop (image : TmpImage) : Removal :=
  .image image.namespace.namespace image.reference

/-- `Import`: the first stage, holding the install's namespace. -/
structure Import where
  «namespace» : Namespace
  deriving Repr, DecidableEq

/-- `Retag`: the second stage, holding the imported image. -/
structure Retag where
  image : TmpImage
  deriving Repr, DecidableEq

/-- `Push`: the last stage, holding the retagged image. -/
structure Push where
  image : TmpImage
  deriving Repr, DecidableEq

/-- `WorkFlow::new_workflow(&namespace)`. -/
def WorkFlow.newWorkflow (ns : Namespace) : Import :=
  ⟨ns⟩

/-! ## The stages -/

namespace Import

/-- `ctr -n <namespace> images import --no-unpack <path>`. -/
def importCommand (ns : Namespace) (path : String) : Command :=
  ctr [.plain "-n", .plain ns.namespace, .plain "images", .plain "import", .plain "--no-unpack", .plain path]

/-- `ctr -n <namespace> images ls`. -/
def lsCommand (ns : Namespace) : Command :=
  ctr [.plain "-n", .plain ns.namespace, .plain "images", .plain "ls"]

/-- `Import::extract_image_metadata(namespace)`: the listing, read into the imported image. -/
def extractImageMetadata (ns : Namespace) (listed : ChildOutcome) : Except InstallError TmpImage := do
  let imagesLs ← (exec (lsCommand ns).debugString listed).mapError .exec
  let (reference, tag, digest) ← (extractImageMetadataFromStr ns.namespace imagesLs).mapError .imageLs
  pure { reference, tag, digest, «namespace» := ns }

/-- `Import::import_path(self, path)`, `import` having unwrapped the upload's path as UTF-8. -/
def importPath (self : Import) (path : String) (answers : Answers) : Except InstallError Retag × Effects :=
  let importing := importCommand self.namespace path
  match exec importing.debugString answers.imported with
  | .error err => (.error (.exec err), { commands := [importing] })
  | .ok _ =>
    ((extractImageMetadata self.namespace answers.listed).map Retag.mk,
      { commands := [importing, lsCommand self.namespace] })

end Import

namespace Retag

/-- `format!("{}/{}:{}", registry, repository, new_tag)`. -/
def newReference (settings : Settings) (newTag : String) : String :=
  settings.registry ++ "/" ++ settings.repository ++ ":" ++ newTag

/-- `ctr -n <namespace> images tag <image> <new_reference>`. -/
def tagCommand (image : TmpImage) (newReference : String) : Command :=
  ctr [.plain "-n", .plain image.namespace.namespace, .plain "images", .plain "tag", .plain image.reference,
    .plain newReference]

/-- `Retag::retag(self)`, `new_tag` being `rfc1035_label()`. The new image keeps the digest;
`self`, and the imported image with it, is dropped when `retag` returns, on both paths. -/
def retag (self : Retag) (settings : Settings) (newTag : String) (tagged : ChildOutcome) :
    Except InstallError Push × Effects :=
  let tagging := tagCommand self.image (newReference settings newTag)
  (((exec tagging.debugString tagged).mapError .exec).map fun _ =>
      ⟨{ reference := newReference settings newTag
         tag := newTag
         digest := self.image.digest
         «namespace» := self.image.namespace }⟩,
    { commands := [tagging], spawned := [self.image.drop] })

end Retag

namespace Push

/-- `ctr -n <namespace> images push -u <credentials> <image>`, the credentials a `Secret`. -/
def pushToEcrCommand (image : TmpImage) (credentials : String) : Command :=
  ctr [.plain "-n", .plain image.namespace.namespace, .plain "images", .plain "push", .plain "-u",
    .secret credentials, .plain image.reference]

/-- `ctr -n <namespace> images push --plain-http <image>`. -/
def pushToMinikubeCommand (image : TmpImage) : Command :=
  ctr [.plain "-n", .plain image.namespace.namespace, .plain "images", .plain "push", .plain "--plain-http",
    .plain image.reference]

/-- `Push::push_to_ecr(&self)`: `username:password` as a `Secret`. -/
def pushToEcr (self : Push) (settings : Settings) (answers : Answers) : Except InstallError Unit × Effects :=
  match ImageRegistry.getCredentials settings answers.password with
  | .error err => (.error (.getPassword err), { commands := [ImageRegistry.getLoginPassword] })
  | .ok (username, password) =>
    let pushing := pushToEcrCommand self.image (username ++ ":" ++ password)
    (((exec pushing.debugString answers.pushed).mapError .exec).map fun _ => (),
      { commands := [ImageRegistry.getLoginPassword, pushing] })

/-- `Push::push_to_minikube(&self)`. -/
def pushToMinikube (self : Push) (answers : Answers) : Except InstallError Unit × Effects :=
  let pushing := pushToMinikubeCommand self.image
  (((exec pushing.debugString answers.pushed).mapError .exec).map fun _ => (), { commands := [pushing] })

/-- `Push::push(self)`. The source matches `Implementation::ECR` for the variant it declares as
`Ecr`. On success `self.image.into()` moves the image into `From::from`, which drops it; on an
error `self` is dropped: either way the image's removal is spawned last. -/
def push (self : Push) (settings : Settings) (answers : Answers) : Except InstallError Image × Effects :=
  let pushed := match settings.implementation with
    | .ecr => self.pushToEcr settings answers
    | .minikube => self.pushToMinikube answers
  (pushed.1.map (fun _ => ⟨self.image.tag, self.image.digest⟩), pushed.2 ++ { spawned := [self.image.drop] })

end Push

namespace Containerd

/-- `containerd::import(image)`: the three stages in a fresh namespace, which is dropped when
`import` returns. -/
def «import» (settings : Settings) (draws : Draws) (path : String) (answers : Answers) :
    Except InstallError Image × Effects :=
  let ns := Namespace.new draws.namespace
  let chain := andThen ((WorkFlow.newWorkflow ns).importPath path answers) fun retag =>
    andThen (retag.retag settings (Names.rfc1035Label draws.tag draws.letter) answers.tagged) fun push =>
      push.push settings answers
  (chain.1, chain.2 ++ { spawned := [ns.drop] })

/-! ## What each stage does -/

/-- The listing was read into `image`: `ctr images import` succeeded, and so did the listing
and `extract_image_metadata_from_str`. -/
def Listed (ns : Namespace) (path : String) (answers : Answers) (image : TmpImage) : Prop :=
  (∃ out, exec (Import.importCommand ns path).debugString answers.imported = .ok out) ∧
    Import.extractImageMetadata ns answers.listed = .ok image

/-- The image `retag` makes of `image`: the new reference and tag, the same digest. -/
def retagged (settings : Settings) (newTag : String) (image : TmpImage) : TmpImage :=
  { reference := Retag.newReference settings newTag, tag := newTag, digest := image.digest,
    «namespace» := image.namespace }

theorem extractImageMetadata_namespace {ns : Namespace} {listed : ChildOutcome} {image : TmpImage}
    (read : Import.extractImageMetadata ns listed = .ok image) : image.namespace = ns := by
  simp only [Import.extractImageMetadata, bind, Except.bind, Except.mapError] at read
  split at read
  · cases read
  · split at read
    · cases read
    · cases read; rfl

/-- Without a listing read, the first stage holds no image and spawns nothing. -/
theorem importPath_of_not_listed {ns : Namespace} {path : String} {answers : Answers}
    (unread : ∀ image, ¬Listed ns path answers image) :
    ∃ err commands, (WorkFlow.newWorkflow ns).importPath path answers = (.error err, ⟨commands, []⟩) := by
  cases imported : exec (Import.importCommand ns path).debugString answers.imported with
  | error err =>
    exact ⟨.exec err, [Import.importCommand ns path], by simp [Import.importPath, WorkFlow.newWorkflow, imported]⟩
  | ok out =>
    cases read : Import.extractImageMetadata ns answers.listed with
    | error err => exact ⟨err, [Import.importCommand ns path, Import.lsCommand ns],
        by simp [Import.importPath, WorkFlow.newWorkflow, imported, read, Except.map]⟩
    | ok image => exact (unread image ⟨⟨out, imported⟩, read⟩).elim

/-- With the listing read, the first stage holds the listed image and spawns nothing. -/
theorem importPath_of_listed {ns : Namespace} {path : String} {answers : Answers} {image : TmpImage}
    (read : Listed ns path answers image) :
    (WorkFlow.newWorkflow ns).importPath path answers =
      (.ok ⟨image⟩, { commands := [Import.importCommand ns path, Import.lsCommand ns] }) := by
  obtain ⟨⟨out, imported⟩, listed⟩ := read
  simp [Import.importPath, WorkFlow.newWorkflow, imported, listed, Except.map]

/-- The tag command of `image` under the new tag. -/
def tagging (settings : Settings) (newTag : String) (image : TmpImage) : Command :=
  Retag.tagCommand image (Retag.newReference settings newTag)

/-- `retag` holds the retagged image when its command succeeds; it drops the imported one
either way. -/
theorem retag_eq (settings : Settings) (newTag : String) (tagged : ChildOutcome) (image : TmpImage) :
    (Retag.mk image).retag settings newTag tagged =
      (match exec (tagging settings newTag image).debugString tagged with
        | .error err => .error (.exec err)
        | .ok _ => .ok ⟨retagged settings newTag image⟩,
        { commands := [tagging settings newTag image], spawned := [image.drop] }) := by
  unfold tagging
  cases ran : exec (Retag.tagCommand image (Retag.newReference settings newTag)).debugString tagged <;>
    simp [Retag.retag, ran, retagged, Except.mapError, Except.map]

/-- `push` spawns the removal of the image it holds, and nothing else. -/
theorem push_spawned (self : Push) (settings : Settings) (answers : Answers) :
    (self.push settings answers).2.spawned = [self.image.drop] := by
  simp only [Push.push, Effects.append_spawned]
  cases settings.implementation
  · simp only [Push.pushToEcr]; split <;> rfl
  · rfl

/-! ## The removals an install spawns -/

/-- Unless its listing is read, the install fails, and spawns the namespace's removal only. -/
theorem import_of_not_listed {settings : Settings} {draws : Draws} {path : String} {answers : Answers}
    (unread : ∀ image, ¬Listed (Namespace.new draws.namespace) path answers image) :
    (∃ err, («import» settings draws path answers).1 = .error err) ∧
      («import» settings draws path answers).2.spawned = [(Namespace.new draws.namespace).drop] := by
  obtain ⟨err, commands, first⟩ := importPath_of_not_listed unread
  simp [«import», first]

/-- On every path the install spawns the namespace's removal last, and once. Before it, it
spawns the removal of the listed image once the listing is read, then that of the retagged
image once its tag command succeeded; unless the listing is read, nothing removes what
`ctr images import` put in the namespace. -/
theorem import_spawns_removals (settings : Settings) (draws : Draws) (path : String) (answers : Answers) :
    let ns := Namespace.new draws.namespace
    let tag := Names.rfc1035Label draws.tag draws.letter
    ((∀ image, ¬Listed ns path answers image) →
        («import» settings draws path answers).2.spawned = [.namespace ns.namespace]) ∧
      ∀ image, Listed ns path answers image →
        («import» settings draws path answers).2.spawned =
          .image ns.namespace image.reference ::
            ((if (exec (tagging settings tag image).debugString answers.tagged).toBool
              then [.image ns.namespace (Retag.newReference settings tag)] else []) ++
              [.namespace ns.namespace]) := by
  refine ⟨fun unread => (import_of_not_listed unread).2, fun image read => ?_⟩
  have inNamespace := extractImageMetadata_namespace read.2
  simp only [«import», importPath_of_listed read, andThen_ok, retag_eq, Effects.append_spawned]
  cases exec (tagging settings (Names.rfc1035Label draws.tag draws.letter) image).debugString answers.tagged <;>
    simp [push_spawned, TmpImage.drop, retagged, inNamespace, Namespace.drop, Except.toBool]

/-! ## What an install returns -/

/-- `push` returns the tag and digest of the image it holds only when its last command, which
pushes that image, succeeded. -/
theorem push_of_ok {self : Push} {settings : Settings} {answers : Answers} {image : Image}
    (pushed : (self.push settings answers).1 = .ok image) :
    image = ⟨self.image.tag, self.image.digest⟩ ∧
      ∃ pushing, (self.push settings answers).2.commands.getLast? = some pushing ∧
        (exec pushing.debugString answers.pushed).toBool ∧
        (pushing = Push.pushToMinikubeCommand self.image ∨
          ∃ credentials, pushing = Push.pushToEcrCommand self.image credentials) := by
  simp only [Push.push] at pushed ⊢
  cases implementation : settings.implementation with
  | ecr =>
    simp only [implementation, Push.pushToEcr] at pushed ⊢
    cases credentials : ImageRegistry.getCredentials settings answers.password with
    | error err => simp [credentials, Except.map] at pushed
    | ok pair =>
      cases ran : exec (Push.pushToEcrCommand self.image (pair.1 ++ ":" ++ pair.2)).debugString answers.pushed with
      | error err => simp [credentials, ran, Except.mapError, Except.map] at pushed
      | ok out =>
        simp only [credentials, ran, Except.mapError, Except.map, Except.ok.injEq] at pushed
        exact ⟨pushed.symm, _, rfl, by simp [ran, Except.toBool], .inr ⟨_, rfl⟩⟩
  | minikube =>
    simp only [implementation, Push.pushToMinikube] at pushed ⊢
    cases ran : exec (Push.pushToMinikubeCommand self.image).debugString answers.pushed with
    | error err => simp [ran, Except.mapError, Except.map] at pushed
    | ok out =>
      simp only [ran, Except.mapError, Except.map, Except.ok.injEq] at pushed
      exact ⟨pushed.symm, _, rfl, by simp [ran, Except.toBool], .inl rfl⟩

/-- An install that succeeds read its listing into `listed`, tagged the listed image under the
drawn label, and last pushed the new reference; it returns the label with the listing's digest. -/
theorem import_of_ok {settings : Settings} {draws : Draws} {path : String} {answers : Answers} {image : Image}
    (installed : («import» settings draws path answers).1 = .ok image) :
    ∃ listed, Listed (Namespace.new draws.namespace) path answers listed ∧
      image = ⟨Names.rfc1035Label draws.tag draws.letter, listed.digest⟩ ∧
      (exec (tagging settings image.tag listed).debugString answers.tagged).toBool ∧
      ∃ pushing, («import» settings draws path answers).2.commands.getLast? = some pushing ∧
        (exec pushing.debugString answers.pushed).toBool ∧
        (pushing = Push.pushToMinikubeCommand (retagged settings image.tag listed) ∨
          ∃ credentials, pushing = Push.pushToEcrCommand (retagged settings image.tag listed) credentials) := by
  by_cases read : ∃ listed, Listed (Namespace.new draws.namespace) path answers listed
  · obtain ⟨listed, read⟩ := read
    simp only [«import», importPath_of_listed read, andThen_ok, retag_eq] at installed ⊢
    cases tagged : exec (tagging settings (Names.rfc1035Label draws.tag draws.letter) listed).debugString
        answers.tagged with
    | error err => simp [tagged] at installed
    | ok out =>
      simp only [tagged, andThen_ok] at installed ⊢
      obtain ⟨rfl, pushing, last, pushed, command⟩ := push_of_ok installed
      refine ⟨listed, read, rfl, by simp [retagged, tagged, Except.toBool], pushing, ?_, pushed, command⟩
      simp [List.getLast?_cons, last]
  · obtain ⟨⟨err, failed⟩, -⟩ := import_of_not_listed (not_exists.mp read)
    rw [failed] at installed
    cases installed

/-- An install that succeeds read its listing, tagged the listed image under a fresh RFC 1035
label of 32 characters, and last pushed that new reference, `<registry>/<repository>:<tag>`
in its namespace; it returns the new tag with the digest the listing gave. -/
theorem import_returns_new_label {settings : Settings} {draws : Draws} {path : String} {answers : Answers}
    {image : Image} (drawn : 'a' ≤ draws.letter ∧ draws.letter ≤ 'z')
    (installed : («import» settings draws path answers).1 = .ok image) :
    ∃ listed, Listed (Namespace.new draws.namespace) path answers listed ∧
      image = ⟨Names.rfc1035Label draws.tag draws.letter, listed.digest⟩ ∧
      Names.IsRfc1035Label image.tag.data ∧ image.tag.length = 32 ∧
      (exec (tagging settings image.tag listed).debugString answers.tagged).toBool ∧
      ∃ pushing, («import» settings draws path answers).2.commands.getLast? = some pushing ∧
        (exec pushing.debugString answers.pushed).toBool ∧
        (pushing = Push.pushToMinikubeCommand (retagged settings image.tag listed) ∨
          ∃ credentials, pushing = Push.pushToEcrCommand (retagged settings image.tag listed) credentials) := by
  obtain ⟨listed, read, rfl, tagged, pushed⟩ := import_of_ok installed
  have label := Names.rfc1035Label_isRfc1035Label draws.tag drawn
  exact ⟨listed, read, rfl, label.1, label.2, tagged, pushed⟩

/-- What `ctr images ls` prints for a namespace holding the source test's image. -/
def tennisListing : String :=
  "REF TYPE DIGEST\ndocker.io/test/tennis:latest application/vnd.docker.distribution.manifest.v2+json " ++
    "sha256:76a5627069e32d0543dd6bec4c352af358974dd4572dfc05dbf7147b5546df4f\n"

/-- Answers under which every command of an install succeeds, the listing being `listing`. -/
def succeeding (listing : String) : Answers where
  imported := .exited true (.utf8 "") (.utf8 "")
  listed := .exited true (.utf8 listing) (.utf8 "")
  tagged := .exited true (.utf8 "") (.utf8 "")
  password := .exited true (.utf8 "password") (.utf8 "")
  pushed := .exited true (.utf8 "") (.utf8 "")

theorem import_returns_new_label_of_tennis :
    ('a' ≤ 'q' ∧ 'q' ≤ 'z') ∧
      («import» {} ⟨0, 0, 'q'⟩ "upload" (succeeding tennisListing)).1 =
        .ok ⟨Names.rfc1035Label 0 'q', "sha256:76a5627069e32d0543dd6bec4c352af358974dd4572dfc05dbf7147b5546df4f"⟩ ∧
      ∃ listed, Listed (Namespace.new 0) "upload" (succeeding tennisListing) listed ∧
        (⟨Names.rfc1035Label 0 'q', "sha256:76a5627069e32d0543dd6bec4c352af358974dd4572dfc05dbf7147b5546df4f"⟩ :
          Image) = ⟨Names.rfc1035Label 0 'q', listed.digest⟩ ∧
        Names.IsRfc1035Label (Names.rfc1035Label 0 'q').data ∧ (Names.rfc1035Label 0 'q').length = 32 ∧
        (exec (tagging {} (Names.rfc1035Label 0 'q') listed).debugString (succeeding tennisListing).tagged).toBool ∧
        ∃ pushing, («import» {} ⟨0, 0, 'q'⟩ "upload" (succeeding tennisListing)).2.commands.getLast? = some pushing ∧
          (exec pushing.debugString (succeeding tennisListing).pushed).toBool ∧
          (pushing = Push.pushToMinikubeCommand (retagged {} (Names.rfc1035Label 0 'q') listed) ∨
            ∃ credentials, pushing = Push.pushToEcrCommand (retagged {} (Names.rfc1035Label 0 'q') listed) credentials) :=
  have drawn : 'a' ≤ 'q' ∧ 'q' ≤ 'z' := by decide
  have installed : («import» {} ⟨0, 0, 'q'⟩ "upload" (succeeding tennisListing)).1 =
      .ok ⟨Names.rfc1035Label 0 'q', "sha256:76a5627069e32d0543dd6bec4c352af358974dd4572dfc05dbf7147b5546df4f"⟩ :=
    rfl
  ⟨drawn, installed, @import_returns_new_label {} ⟨0, 0, 'q'⟩ "upload" (succeeding tennisListing) _ drawn installed⟩

/-! ## The listing, through `exec` -/

/-- `extract_image_metadata` reads the listing `ctr images ls` prints, a header line and one
row each ending in a newline, because `exec` trims the output's trailing whitespace first:
without the trim the last newline leaves a third, empty line, which the parser refuses. -/
theorem extractImageMetadata_reads_ctr_listing (ns : Namespace) (h r t d s : String) (stderr : Decoded)
    (header : '\n' ∉ h.data) (cells : ∀ f ∈ [r, t, d], ' ' ∉ f.data ∧ '\n' ∉ f.data)
    (columns : '\n' ∉ s.data) (separated : s = "" ∨ s.data.head? = some ' ')
    {c : Char} (digestEnd : d.data.getLast? = some c) (blank : isWhitespace c = false)
    (tagged : ':' ∈ r.data) :
    (∃ pre tag : String, r.data = pre.data ++ ':' :: tag.data ∧ ':' ∉ tag.data ∧
      Import.extractImageMetadata ns
          (.exited true (.utf8 (h ++ "\n" ++ r ++ " " ++ t ++ " " ++ d ++ s ++ "\n")) stderr) =
        .ok { reference := r, tag, digest := d, «namespace» := ns }) ∧
    Import.extractImageMetadataFromStr ns.namespace (h ++ "\n" ++ r ++ " " ++ t ++ " " ++ d ++ s ++ "\n") =
      .error (.unexpectedContainerdImageLsFormat (h ++ "\n" ++ r ++ " " ++ t ++ " " ++ d ++ s ++ "\n")) := by
  have frontLast : (h ++ "\n" ++ r ++ " " ++ t ++ " " ++ d).data.getLast? = some c := by
    rw [String.data_append, List.getLast?_append, digestEnd]; rfl
  have newlineTrimmed : trimEnd (s ++ "\n") = trimEnd s := trimEnd_append_whitespace s (by decide)
  have trimmed : trimEnd (h ++ "\n" ++ r ++ " " ++ t ++ " " ++ d ++ s ++ "\n") =
      h ++ "\n" ++ r ++ " " ++ t ++ " " ++ d ++ trimEnd s := by
    rw [String.append_assoc _ s, trimEnd_append_of_getLast? frontLast blank, newlineTrimmed]
  obtain ⟨tail, split, -⟩ := trimEnd_append s
  have noNewline : '\n' ∉ (trimEnd s).data := fun m => columns (split ▸ List.mem_append_left _ m)
  have trimmedSeparated : trimEnd s = "" ∨ (trimEnd s).data.head? = some ' ' := by
    rcases separated with rfl | head
    · exact .inl rfl
    · cases trimmedData : (trimEnd s).data with
      | nil => exact .inl (String.ext trimmedData)
      | cons x xs => rw [split, trimmedData] at head; exact .inr (by simpa using head)
  obtain ⟨pre, tag, cut, lastCut, parsed⟩ :=
    @Import.extractImageMetadataFromStr_of_row ns.namespace h r t d (trimEnd s) header cells noNewline
      trimmedSeparated tagged
  refine ⟨⟨pre, tag, cut, lastCut, ?_⟩, ?_⟩
  · simp [Import.extractImageMetadata, exec, trimmed, parsed, Except.mapError, bind, Except.bind, pure,
      Except.pure]
  · simp only [List.mem_cons, List.mem_singleton, List.not_mem_nil, or_false, forall_eq_or_imp,
      forall_eq] at cells
    have rowLines : (r.data ++ ' ' :: (t.data ++ ' ' :: (d.data ++ s.data))).splitOn '\n' =
        [r.data ++ ' ' :: (t.data ++ ' ' :: (d.data ++ s.data))] :=
      Import.splitOn_of_not_mem (by simp [cells.1.2, cells.2.1.2, cells.2.2.2, columns])
    have lines : ((h ++ "\n" ++ r ++ " " ++ t ++ " " ++ d ++ s ++ "\n").data.splitOn '\n').length = 3 := by
      have := (Import.splitOn_append_cons header _).trans
        (congrArg _ (Import.splitOn_append_cons (l := r.data ++ ' ' :: (t.data ++ ' ' :: (d.data ++ s.data)))
          (by simp [cells.1.2, cells.2.1.2, cells.2.2.2, columns]) []))
      simp only [List.append_assoc, List.cons_append, List.nil_append] at this
      simp [List.append_assoc, this]
    rw [Import.extractImageMetadataFromStr_of_lines_ne_two (by omega), if_neg (by omega)]

theorem extractImageMetadata_reads_ctr_listing_of_tennis :
    ('\n' ∉ "REF TYPE DIGEST".data ∧
      (∀ f ∈ ["docker.io/test/tennis:latest", "application/vnd.docker.distribution.manifest.v2+json",
          "sha256:76a5627069e32d0543dd6bec4c352af358974dd4572dfc05dbf7147b5546df4f"],
        ' ' ∉ f.data ∧ '\n' ∉ f.data) ∧
      '\n' ∉ " 19.2 MiB linux/amd64 -      ".data ∧
      (" 19.2 MiB linux/amd64 -      " = "" ∨ " 19.2 MiB linux/amd64 -      ".data.head? = some ' ') ∧
      "sha256:76a5627069e32d0543dd6bec4c352af358974dd4572dfc05dbf7147b5546df4f".data.getLast? = some 'f' ∧
      isWhitespace 'f' = false ∧ ':' ∈ "docker.io/test/tennis:latest".data) ∧
    (∃ pre tag : String, "docker.io/test/tennis:latest".data = pre.data ++ ':' :: tag.data ∧ ':' ∉ tag.data ∧
      Import.extractImageMetadata (Namespace.new 0)
          (.exited true (.utf8 ("REF TYPE DIGEST" ++ "\n" ++ "docker.io/test/tennis:latest" ++ " " ++
            "application/vnd.docker.distribution.manifest.v2+json" ++ " " ++
            "sha256:76a5627069e32d0543dd6bec4c352af358974dd4572dfc05dbf7147b5546df4f" ++
            " 19.2 MiB linux/amd64 -      " ++ "\n")) (.utf8 "")) =
        .ok { reference := "docker.io/test/tennis:latest", tag,
              digest := "sha256:76a5627069e32d0543dd6bec4c352af358974dd4572dfc05dbf7147b5546df4f",
              «namespace» := Namespace.new 0 }) ∧
    Import.extractImageMetadataFromStr (Namespace.new 0).namespace
        ("REF TYPE DIGEST" ++ "\n" ++ "docker.io/test/tennis:latest" ++ " " ++
          "application/vnd.docker.distribution.manifest.v2+json" ++ " " ++
          "sha256:76a5627069e32d0543dd6bec4c352af358974dd4572dfc05dbf7147b5546df4f" ++
          " 19.2 MiB linux/amd64 -      " ++ "\n") =
      .error (.unexpectedContainerdImageLsFormat ("REF TYPE DIGEST" ++ "\n" ++ "docker.io/test/tennis:latest" ++
        " " ++ "application/vnd.docker.distribution.manifest.v2+json" ++ " " ++
        "sha256:76a5627069e32d0543dd6bec4c352af358974dd4572dfc05dbf7147b5546df4f" ++
        " 19.2 MiB linux/amd64 -      " ++ "\n")) :=
  have header : '\n' ∉ "REF TYPE DIGEST".data := by decide
  have cells : ∀ f ∈ ["docker.io/test/tennis:latest", "application/vnd.docker.distribution.manifest.v2+json",
      "sha256:76a5627069e32d0543dd6bec4c352af358974dd4572dfc05dbf7147b5546df4f"],
      ' ' ∉ f.data ∧ '\n' ∉ f.data := by decide
  have columns : '\n' ∉ " 19.2 MiB linux/amd64 -      ".data := by decide
  have separated : " 19.2 MiB linux/amd64 -      " = "" ∨ " 19.2 MiB linux/amd64 -      ".data.head? = some ' ' :=
    .inr rfl
  have digestEnd : "sha256:76a5627069e32d0543dd6bec4c352af358974dd4572dfc05dbf7147b5546df4f".data.getLast? =
      some 'f' := rfl
  have blank : isWhitespace 'f' = false := rfl
  have tagged : ':' ∈ "docker.io/test/tennis:latest".data := by decide
  ⟨⟨header, cells, columns, separated, digestEnd, blank, tagged⟩,
    extractImageMetadata_reads_ctr_listing (Namespace.new 0) _ _ _ _ _ (.utf8 "") header cells columns separated
      digestEnd blank tagged⟩

/-! ## The ECR password -/

/-- What a run shows besides the arguments its children receive: its result, the removals it
spawned, and the debug strings of its commands, which its errors quote. -/
def observe {α : Type} (run : Except InstallError α × Effects) : Except InstallError α × List Removal × List String :=
  (run.1, run.2.spawned, run.2.commands.map Command.debugString)

/-- Chaining runs that show the same shows the same. -/
theorem observe_andThen {α β : Type} {x x' : Except InstallError α × Effects}
    {f f' : α → Except InstallError β × Effects} (first : observe x = observe x')
    (rest : ∀ a, observe (f a) = observe (f' a)) : observe (andThen x f) = observe (andThen x' f') := by
  obtain ⟨result, effects⟩ := x
  obtain ⟨result', effects'⟩ := x'
  simp only [observe, Prod.mk.injEq] at first
  obtain ⟨rfl, spawned, commands⟩ := first
  cases result with
  | error err => simp [observe, spawned, commands]
  | ok a =>
    simp only [observe, Prod.mk.injEq] at rest
    obtain ⟨same, sameSpawned, sameCommands⟩ := rest a
    simp [observe, spawned, commands, same, sameSpawned, sameCommands]

/-- Spawning the same task after runs that show the same shows the same. -/
theorem observe_spawn {α : Type} {x x' : Except InstallError α × Effects} (same : observe x = observe x')
    (removal : Removal) :
    observe (x.1, x.2 ++ { spawned := [removal] }) = observe (x'.1, x'.2 ++ { spawned := [removal] }) := by
  simp only [observe, Prod.mk.injEq] at same ⊢
  simp [same]

/-- The push to ECR shows `<REDACTED>` for its credentials, whatever they are. -/
theorem pushToEcrCommand_debugString (image : TmpImage) (credentials : String) :
    (Push.pushToEcrCommand image credentials).debugString =
      " ".intercalate ["ctr", "-n", image.namespace.namespace, "images", "push", "-u", "<REDACTED>",
        image.reference] :=
  rfl

/-- The answers of an install in which `aws ecr get-login-password` printed `password`. -/
def withPassword (answers : Answers) (password : String) (stderr : Decoded) : Answers :=
  { answers with password := .exited true (.utf8 password) stderr }

/-- The push to ECR once `aws ecr get-login-password` printed `password`. -/
theorem pushToEcr_withPassword (self : Push) (settings : Settings) (answers : Answers) (password : String)
    (stderr : Decoded) :
    self.pushToEcr settings (withPassword answers password stderr) =
      let pushing := Push.pushToEcrCommand self.image (settings.awsUsername ++ ":" ++ trimEnd password)
      (((exec pushing.debugString answers.pushed).mapError .exec).map fun _ => (),
        { commands := [ImageRegistry.getLoginPassword, pushing] }) :=
  rfl

/-- The push shows the same whatever password ECR gave. -/
theorem observe_push (self : Push) (settings : Settings) (answers : Answers) (password password' : String)
    (stderr stderr' : Decoded) :
    observe (self.push settings (withPassword answers password stderr)) =
      observe (self.push settings (withPassword answers password' stderr')) := by
  cases implementation : settings.implementation
  · simp only [observe, Push.push, implementation, pushToEcr_withPassword, pushToEcrCommand_debugString, List.map,
      Effects.append_spawned]
  · simp only [observe, Push.push, implementation]
    rfl

/-- The password `aws ecr get-login-password` prints reaches nothing an install shows: whatever
it is, the install returns the same result, spawns the same removals, and runs commands with
the same debug strings, the `Secret` being displayed as `<REDACTED>`. Only the argument list of
the push holds it. -/
theorem import_hides_password (settings : Settings) (draws : Draws) (path : String) (answers : Answers)
    (password password' : String) (stderr stderr' : Decoded) :
    observe («import» settings draws path (withPassword answers password stderr)) =
      observe («import» settings draws path (withPassword answers password' stderr')) := by
  unfold «import»
  exact observe_spawn (observe_andThen rfl fun retag =>
    observe_andThen rfl fun push => observe_push push settings answers password password' stderr stderr') _

end Containerd

end ConnectorManager
