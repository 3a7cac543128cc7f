import ConnectorManager.ImageWorkflow

namespace ConnectorManager

/-!
# Uninstall, list and get: the registry's two implementations

`registry::{uninstall, list, get}` (`aim/src/registry/mod.rs`) call the
implementation `IMPLEMENTATION` names:

* ECR (`registry/ecr`) runs `aws ecr batch-delete-image` or
  `aws ecr list-images` and reads the JSON it prints with `serde_json`; `get` is
  `list` and a `find` on the tag. `uninstall` succeeds when ECR reports no
  failure, or when the first failure it reports is `ImageNotFound`.
* Minikube (`registry/minikube`) asks its registry over HTTP: `tags/list`, then
  the manifest of each tag, whose SHA-256 is the digest. `uninstall` deletes the
  manifest of the digest `list` gives for the tag. Every `unwrap` there panics
  the request's task; the model's `none` is such a panic.

`get` turns a missing image into `TagNotFound`, which names the tag and
`<registry>/<repository>`.

What the outside answers is the input: for ECR, per command, how the child
ended and what `serde_json` read from its output (`AwsAnswer`), for Minikube
one answer per request (`Request → Option HttpResponse`, `none` a failed
`send`).
-/

/-! ## ECR -/

/-- `EcrUninstallFailure`, its `image_id` reduced to the tag it names. -/
structure EcrUninstallFailure where
  imageTag : String
  failureCode : String
  failureReason : String
  deriving Repr, DecidableEq

/-- `EcrUninstall`: what `batch-delete-image` answers; its `image_ids` are never read. -/
structure EcrUninstall where
  failures : List EcrUninstallFailure
  deriving Repr, DecidableEq

/-- `EcrImage`: one entry of `imageIds`. -/
structure EcrImage where
  imageDigest : String
  imageTag : String
  deriving Repr, DecidableEq

/-- `impl Into<Image> for EcrImage`. -/
def EcrImage.into (image : EcrImage) : Image :=
  ⟨image.imageTag, image.imageDigest⟩

/-- `EcrListImages`: what `list-images` answers. -/
structure EcrListImages where
  imageIds : List EcrImage
  deriving Repr, DecidableEq

/-- What one `aws ecr` command gave back: how the child ended, which `exec` reads, and what
`serde_json::from_str` made of its output (`none` when it failed). -/
structure AwsAnswer (α : Type) where
  outcome : ChildOutcome
  decoded : Option α
  deriving Repr, DecidableEq

/-- The errors of `uninstall`, `list` and `get`, with what each carries. -/
inductive RegistryError where
  /-- `UninstallCommandError`: `batch-delete-image` failed (the source keeps the error's text). -/
  | uninstallCommand (error : ExecError)
  /-- `EcrUninstallSerdeError` -/
  | ecrUninstallSerde
  /-- `EcrUninstallError`, from the failure ECR reported first. -/
  | ecrUninstall (cause : EcrUninstallFailure)
  /-- The error of `list-images`, which `?` passes on as it is. -/
  | exec (error : ExecError)
  /-- `EcrImageSerdeError` -/
  | ecrImageSerde
  /-- `ImageDeleteError`: Minikube's registry answered a deletion with another status. -/
  | imageDelete (status : Nat)
  /-- `TagNotFound` -/
  | tagNotFound (tag registry : String)
  deriving Repr, DecidableEq

namespace Ecr

/-- The command `uninstall` runs. -/
def batchDeleteImage (settings : Settings) (tag : String) : Command :=
  ImageRegistry.ecr [.plain "batch-delete-image", .plain "--repository-name", .plain settings.repository,
    .plain "--image-ids", .plain ("imageTag=" ++ tag)]

/-- `ecr::uninstall(tag)`: only the first failure ECR reports is read. -/
def uninstall (settings : Settings) (tag : String) (answer : AwsAnswer EcrUninstall) :
    Except RegistryError Unit :=
  match exec (batchDeleteImage settings tag).debugString answer.outcome, answer.decoded with
  | .error error, _ => throw (.uninstallCommand error)
  | .ok _, none => throw .ecrUninstallSerde
  | .ok _, some result =>
    match result.failures with
    | failure :: _ =>
      if failure.failureCode = "ImageNotFound" then pure () else throw (.ecrUninstall failure)
    | [] => pure ()

/-- The command `list` runs. -/
def listImages (settings : Settings) : Command :=
  ImageRegistry.ecr [.plain "list-images", .plain "--no-paginate", .plain "--repository-name",
    .plain settings.repository]

/-- `ecr::list()`. -/
def list (settings : Settings) (answer : AwsAnswer EcrListImages) : Except RegistryError (List Image) :=
  match exec (listImages settings).debugString answer.outcome, answer.decoded with
  | .error error, _ => throw (.exec error)
  | .ok _, none => throw .ecrImageSerde
  | .ok _, some images => pure (images.imageIds.map EcrImage.into)

/-- `ecr::get(tag)`: the first listed image with the tag. -/
def get (settings : Settings) (tag : String) (answer : AwsAnswer EcrListImages) :
    Except RegistryError (Option Image) :=
  (list settings answer).map fun images => images.find? (·.tag == tag)

end Ecr

/-! ## Minikube -/

/-- The requests the Minikube module sends. -/
inductive Request where
  /-- `GET http://<registry>/v2/<repository>/tags/list`. -/
  | tagsList
  /-- `GET .../manifests/<reference>`, asking for a Docker v2 manifest. -/
  | manifest (reference : String)
  /-- `DELETE .../manifests/<digest>`. -/
  | deleteManifest (digest : String)
  deriving Repr, DecidableEq

/-- An HTTP method. -/
inductive Method where
  | get
  | delete
  deriving Repr, DecidableEq

namespace Request

/-- The request's method. -/
def method : Request → Method
  | .tagsList | .manifest _ => .get
  | .deleteManifest _ => .delete

/-- The URL the source formats: `http://<registry>/v2/<repository>/...`. -/
def url (settings : Settings) : Request → String
  | .tagsList => "http://" ++ settings.registry ++ "/v2/" ++ settings.repository ++ "/tags/list"
  | .manifest reference | .deleteManifest reference =>
    "http://" ++ settings.registry ++ "/v2/" ++ settings.repository ++ "/manifests/" ++ reference

/-- The `Accept` header: set on the manifest GETs. -/
def accept : Request → Option String
  | .manifest _ => some "application/vnd.docker.distribution.manifest.v2+json"
  | .tagsList | .deleteManifest _ => none

end Request

/-- What the registry answered to one request, and what the code reads from the body: the
`tags` of `response.json::<ListTags>()`, and `sha256:<hex>` of the body's SHA-256. Each is
`none` when reading it fails, which the code unwraps. -/
structure HttpResponse where
  status : Nat
  tags : Option (List String) := none
  digest : Option String := none
  deriving Repr, DecidableEq

namespace Minikube

/-- One turn of `list`'s loop: the manifest of `tag`, read whatever its status. -/
def manifestImage (server : Request → Option HttpResponse) (tag : String) : Option Image :=
  (server (.manifest tag)).bind fun response => response.digest.map fun digest => ⟨tag, digest⟩

/-- `minikube::list()`: a registry without the repository (404) lists nothing. It never returns
an error; `none` is a panic. -/
def list (server : Request → Option HttpResponse) : Option (List Image) :=
  (server .tagsList).bind fun response =>
    if response.status = 404 then some []
    else response.tags.bind fun tags => tags.mapM (manifestImage server)

/-- `minikube::get(tag)`: `Ok(None)` when the registry answers 404. -/
def get (tag : String) (server : Request → Option HttpResponse) : Option (Option Image) :=
  (server (.manifest tag)).bind fun response =>
    if response.status = 404 then some none
    else response.digest.map fun digest => some ⟨tag, digest⟩

/-- How `uninstall` reads the deletion's status: 202 and 404 are a success. -/
def deleted (response : HttpResponse) : Except RegistryError Unit :=
  if response.status = 202 ∨ response.status = 404 then .ok () else .error (.imageDelete response.status)

/-- `minikube::uninstall(tag)`: the digest of the first listed image with the tag is deleted.
Beside the result, the deletions it sent. -/
def uninstall (tag : String) (server : Request → Option HttpResponse) :
    Option (Except RegistryError Unit) × List Request :=
  match list server with
  | none => (none, [])
  | some images =>
    match images.find? (·.tag == tag) with
    | none => (some (.ok ()), [])
    | some image => ((server (.deleteManifest image.digest)).map deleted, [.deleteManifest image.digest])

end Minikube

/-! ## The registry -/

/-- What the configured registry answers during one call. -/
structure Remote where
  /-- The answer to an `aws ecr batch-delete-image` command. -/
  batchDelete : Command → AwsAnswer EcrUninstall
  /-- The answer to an `aws ecr list-images` command. -/
  listImages : Command → AwsAnswer EcrListImages
  /-- Minikube's registry. -/
  server : Request → Option HttpResponse

namespace ImageRegistry

/-- `registry::uninstall(tag)`. -/
def uninstall (settings : Settings) (tag : String) (remote : Remote) : Option (Except RegistryError Unit) :=
  match settings.implementation with
  | .ecr => some (Ecr.uninstall settings tag (remote.batchDelete (Ecr.batchDeleteImage settings tag)))
  | .minikube => (Minikube.uninstall tag remote.server).1

/-- `registry::list()`. -/
def list (settings : Settings) (remote : Remote) : Option (Except RegistryError (List Image)) :=
  match settings.implementation with
  | .ecr => some (Ecr.list settings (remote.listImages (Ecr.listImages settings)))
  | .minikube => (Minikube.list remote.server).map .ok

/-- The implementation's `get`, as `registry::get` matches on `Implementation::which()`. -/
def find (settings : Settings) (tag : String) (remote : Remote) : Option (Except RegistryError (Option Image)) :=
  match settings.implementation with
  | .ecr => some (Ecr.get settings tag (remote.listImages (Ecr.listImages settings)))
  | .minikube => (Minikube.get tag remote.server).map .ok

/-- `image.ok_or_else(|| TagNotFound { tag, registry: format!("{}/{}", registry, repository) })`. -/
def orTagNotFound (settings : Settings) (tag : String) : Option Image → Except RegistryError Image
  | some image => .ok image
  | none => .error (.tagNotFound tag (settings.registry ++ "/" ++ settings.repository))

/-- `registry::get(tag)`. -/
def get (settings : Settings) (tag : String) (remote : Remote) : Option (Except RegistryError Image) :=
  (find settings tag remote).map fun found => found.bind (orTagNotFound settings tag)

end ImageRegistry

end ConnectorManager
