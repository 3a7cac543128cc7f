import ConnectorManager.Backends

namespace ConnectorManager

/-!
# The registries behind the image manager, and the catalogue it offers

`Backends` says what the image manager does with the registries' answers. This
module gives the registries the behaviour the manager's documentation describes
(`aim/src/main.rs` at `uninstall`, `registry/ecr/mod.rs` at `uninstall`,
`registry/minikube/mod.rs` at `uninstall`):

* a repository holds images, at most one per tag (`Repository`);
* ECR's `batch-delete-image` removes the one tag its command names, and reports
  `ImageNotFound` for a tag it does not hold; `list-images --no-paginate` lists
  one page of the images, 100 of them;
* Minikube's registry answers `tags/list` with the tags, a manifest request with
  the image of the reference (a tag, or else a digest, as the registry API
  reads it) or 404, and deletes manifests by digest: every tag of the digest
  goes with it.

Against such registries every call the manager serves succeeds, and, while
an ECR repository fits one page, a run of calls is a run of the catalogue
`Catalogue.step`: `list` answers the images, `get` the image of the tag or
`TagNotFound`, and `uninstall` removes the tag, on Minikube with every tag of
its digest. One lemma per call and implementation says what the call does
(`call_eq_step`); the run follows by induction.
-/

/-- A repository of the registry: its images, at most one per tag. -/
structure Repository where
  images : List Image
  tagsNodup : (images.map Image.tag).Nodup

namespace Repository

/-- The image of a tag. -/
def lookup (repo : Repository) (tag : String) : Option Image :=
  repo.images.find? (·.tag == tag)

/-- The images `keeping` accepts, a repository still. -/
def keep (repo : Repository) (keeping : Image → Bool) : Repository :=
  ⟨repo.images.filter keeping, repo.tagsNodup.sublist ((List.filter_sublist _).map _)⟩

/-- ECR's deletion of a tag: only that tag goes. -/
def untag (repo : Repository) (tag : String) : Repository :=
  repo.keep (·.tag != tag)

/-- Minikube's deletion of a manifest: every tag of the digest goes. -/
def deleteDigest (repo : Repository) (digest : String) : Repository :=
  repo.keep (·.digest != digest)

/-- The image a manifest reference names: a tag's, or else a digest's. -/
def resolve (repo : Repository) (reference : String) : Option Image :=
  match repo.lookup reference with
  | some image => some image
  | none => repo.images.find? (·.digest == reference)

/-- A tag names the one image of the repository that carries it. -/
theorem lookup_eq_some_iff {repo : Repository} {tag : String} {image : Image} :
    repo.lookup tag = some image ↔ image ∈ repo.images ∧ image.tag = tag := by
  constructor
  · intro found
    exact ⟨List.mem_of_find?_eq_some found, by simpa using List.find?_some found⟩
  · rintro ⟨member, rfl⟩
    obtain ⟨first, found⟩ := Option.isSome_iff_exists.mp
      (List.find?_isSome.mpr ⟨image, member, by simp⟩ : (repo.images.find? (·.tag == image.tag)).isSome)
    have same : first.tag = image.tag := by simpa using List.find?_some found
    obtain rfl := List.inj_on_of_nodup_map repo.tagsNodup (List.mem_of_find?_eq_some found) member same
    exact found

theorem lookup_keep {repo : Repository} {keeping : Image → Bool} {tag : String} {image : Image} :
    (repo.keep keeping).lookup tag = some image ↔ repo.lookup tag = some image ∧ keeping image = true := by
  simp only [lookup_eq_some_iff, keep, List.mem_filter]
  tauto

/-- What a tag names after some images went: the same image, if it stayed. -/
theorem lookup_keep_eq (repo : Repository) (keeping : Image → Bool) (tag : String) :
    (repo.keep keeping).lookup tag = (repo.lookup tag).filter keeping := by
  cases found : repo.lookup tag with
  | none => exact Option.eq_none_iff_forall_not_mem.mpr fun image kept => by simp_all [lookup_keep]
  | some image =>
    show _ = if keeping image then some image else none
    by_cases stays : keeping image
    · rw [if_pos stays]
      exact lookup_keep.mpr ⟨found, stays⟩
    · rw [if_neg stays]
      refine Option.eq_none_iff_forall_not_mem.mpr fun other kept => ?_
      obtain ⟨same, staysToo⟩ := lookup_keep.mp kept
      simp_all

/-- A tag that names no image is in no page of the listing. -/
theorem find?_take_eq_none {repo : Repository} {tag : String} (absent : repo.lookup tag = none) (pageSize : Nat) :
    (repo.images.take pageSize).find? (·.tag == tag) = none :=
  List.find?_eq_none.mpr fun other kept same => by
    have found := lookup_eq_some_iff.mpr ⟨List.mem_of_mem_take kept, by simpa using same⟩
    simp [absent] at found

theorem images_keep {repo : Repository} {keeping : Image → Bool} {image : Image}
    (member : image ∈ (repo.keep keeping).images) : image ∈ repo.images :=
  (List.mem_filter.mp member).1

end Repository

/-! ## The registries' answers -/

/-- A child that exited with success; what it printed is what `serde_json` read. -/
def printed : ChildOutcome :=
  .exited true (.utf8 "") (.utf8 "")

namespace Ecr

/-- The value of option `name` among `--option value` pairs, as the AWS CLI reads the options of
`batch-delete-image`, each of which takes one value. -/
def option (name : String) : List String → Option String
  | flag :: value :: rest => if flag = name then some value else option name rest
  | _ => none

/-- The tag that `aws ecr batch-delete-image <options>` deletes: `--image-ids imageTag=<tag>` is
the CLI's shorthand for the one image id of that tag. -/
def deletedTag (command : Command) : Option String :=
  (option "--image-ids" (command.argv.drop 3)).bind fun ids =>
    if ids.data.take 9 = "imageTag=".data then some ⟨ids.data.drop 9⟩ else none

/-- ECR's answer to `batch-delete-image`: no failure when the repository holds the tag the
command names, `ImageNotFound` when it does not; a command that names no tag fails. -/
def answerBatchDelete (repo : Repository) (command : Command) : AwsAnswer EcrUninstall :=
  match deletedTag command with
  | some tag =>
    ⟨printed, some ⟨if (repo.lookup tag).isSome then [] else [⟨tag, "ImageNotFound", "Requested image not found"⟩]⟩⟩
  | none => ⟨.exited false (.utf8 "") (.utf8 ""), none⟩

/-- What ECR holds after `batch-delete-image`: the tag the command names is gone, and only that
tag, as `ecr::uninstall`'s documentation says. -/
def batchDeleted (repo : Repository) (command : Command) : Repository :=
  match deletedTag command with
  | some tag => repo.untag tag
  | none => repo

/-- How many image ids one `ListImages` request answers when it gives no `--max-results`: 100,
the API reference's default. -/
def listImagesPage : Nat := 100

/-- ECR's answer to `aws ecr list-images` of `repo`: every image, but with `--no-paginate` the
CLI makes one `ListImages` request, which answers the first page of `pageSize` image ids and a
`nextToken` that `serde_json` drops. -/
def answerListImagesOf (pageSize : Nat) (repo : Repository) (command : Command) : AwsAnswer EcrListImages :=
  ⟨printed, some ⟨(if "--no-paginate" ∈ command.argv then repo.images.take pageSize else repo.images).map
    fun image => ⟨image.digest, image.tag⟩⟩⟩

/-- The command `uninstall` runs deletes the tag asked for. -/
theorem deletedTag_batchDeleteImage (settings : Settings) (tag : String) :
    deletedTag (batchDeleteImage settings tag) = some tag := by
  have named : option "--image-ids" ((batchDeleteImage settings tag).argv.drop 3) = some ("imageTag=" ++ tag) := by
    simp [option, batchDeleteImage, ImageRegistry.ecr, Command.argv, Arg.plain]
  have header : "imageTag=".data.length = 9 := rfl
  simp [deletedTag, named, List.take_left' header, List.drop_left' header]

theorem uninstall_answerBatchDelete (settings : Settings) (repo : Repository) (tag : String) :
    uninstall settings tag (answerBatchDelete repo (batchDeleteImage settings tag)) = .ok () := by
  simp only [uninstall, answerBatchDelete, deletedTag_batchDeleteImage]
  cases (repo.lookup tag).isSome <;> rfl

theorem list_answerListImagesOf (settings : Settings) (repo : Repository) (pageSize : Nat) :
    list settings (answerListImagesOf pageSize repo (listImages settings)) = .ok (repo.images.take pageSize) := by
  have unpaged : "--no-paginate" ∈ (listImages settings).argv := by
    simp [listImages, ImageRegistry.ecr, Command.argv, Arg.plain]
  have roundTrip : (EcrImage.into ∘ fun image : Image => (⟨image.digest, image.tag⟩ : EcrImage)) = id := rfl
  simp [list, answerListImagesOf, unpaged, printed, exec, pure, Except.pure, roundTrip]

end Ecr

namespace Minikube

/-- Minikube's registry holding `repo`. -/
def serve (repo : Repository) : Request → Option HttpResponse
  | .tagsList => some { status := 200, tags := some (repo.images.map Image.tag) }
  | .manifest reference =>
    some (match repo.resolve reference with
      | some image => { status := 200, digest := some image.digest }
      | none => { status := 404 })
  | .deleteManifest digest => some { status := if repo.images.any (·.digest == digest) then 202 else 404 }

/-- What a request changes in the registry: a deletion removes the digest. -/
def apply (repo : Repository) : Request → Repository
  | .deleteManifest digest => repo.deleteDigest digest
  | .tagsList | .manifest _ => repo

theorem manifestImage_serve {repo : Repository} {image : Image} (member : image ∈ repo.images) :
    manifestImage (serve repo) image.tag = some image := by
  have found : repo.lookup image.tag = some image := Repository.lookup_eq_some_iff.mpr ⟨member, rfl⟩
  simp [manifestImage, serve, Repository.resolve, found]

theorem mapM_manifestImage {repo : Repository} :
    ∀ {images : List Image}, (∀ image ∈ images, image ∈ repo.images) →
      (images.map Image.tag).mapM (manifestImage (serve repo)) = some images
  | [], _ => rfl
  | image :: rest, inRepo => by
    rw [List.map_cons, List.mapM_cons, manifestImage_serve (inRepo image (List.mem_cons_self _ _)),
      mapM_manifestImage fun other member => inRepo other (List.mem_cons_of_mem _ member)]
    rfl

theorem list_serve (repo : Repository) : list (serve repo) = some repo.images := by
  simpa [list, serve] using mapM_manifestImage fun _ member => member

theorem get_serve {repo : Repository} {tag : String} (notDigest : ∀ image ∈ repo.images, image.digest ≠ tag) :
    get tag (serve repo) = some (repo.lookup tag) := by
  cases found : repo.lookup tag with
  | some image =>
    obtain rfl : image.tag = tag := (Repository.lookup_eq_some_iff.mp found).2
    simp [get, serve, Repository.resolve, found]
  | none =>
    have noDigest : repo.images.find? (·.digest == tag) = none := by simpa using notDigest
    simp [get, serve, Repository.resolve, found, noDigest]

theorem uninstall_serve (repo : Repository) (tag : String) :
    uninstall tag (serve repo) =
      match repo.lookup tag with
      | some image => (some (.ok ()), [.deleteManifest image.digest])
      | none => (some (.ok ()), []) := by
  cases found : repo.lookup tag with
  | none =>
    have first : repo.images.find? (·.tag == tag) = none := found
    simp [uninstall, list_serve, first]
  | some image =>
    have first : repo.images.find? (·.tag == tag) = some image := found
    have member : image ∈ repo.images := (Repository.lookup_eq_some_iff.mp found).1
    have held : repo.images.any (·.digest == image.digest) = true := List.any_eq_true.mpr ⟨image, member, by simp⟩
    simp [uninstall, list_serve, first, serve, held, deleted]

end Minikube

/-- The registries holding `repo`, ECR answering `list-images` one page of `pageSize` images
when asked not to paginate. -/
def pagedAnswering (pageSize : Nat) (repo : Repository) : Remote :=
  ⟨Ecr.answerBatchDelete repo, Ecr.answerListImagesOf pageSize repo, Minikube.serve repo⟩

/-- The answers of the registry holding `repo`, ECR's page being 100 image ids. -/
def answering (repo : Repository) : Remote :=
  pagedAnswering Ecr.listImagesPage repo

/-- On ECR, `list` answers the first page of the repository's images. -/
theorem list_pagedAnswering_of_ecr {settings : Settings} {pageSize : Nat} (repo : Repository)
    (ecr : settings.implementation = .ecr) :
    ImageRegistry.list settings (pagedAnswering pageSize repo) = some (.ok (repo.images.take pageSize)) := by
  simp [ImageRegistry.list, ecr, pagedAnswering, Ecr.list_answerListImagesOf]

/-- On ECR, `get` finds the tag in the first page of the repository's images. -/
theorem get_pagedAnswering_of_ecr {settings : Settings} {pageSize : Nat} (repo : Repository) (tag : String)
    (ecr : settings.implementation = .ecr) :
    ImageRegistry.get settings tag (pagedAnswering pageSize repo) =
      some (ImageRegistry.orTagNotFound settings tag ((repo.images.take pageSize).find? (·.tag == tag))) := by
  simp [ImageRegistry.get, ImageRegistry.find, ecr, pagedAnswering, Ecr.get, Ecr.list_answerListImagesOf,
    Except.map, Except.bind]

/-! ## The calls the image manager serves -/

/-- A call to `uninstall`, `list` or `get`. -/
inductive Call where
  | uninstall (tag : String)
  | list
  | get (tag : String)
  deriving Repr, DecidableEq

/-- What the call answered; `none` is a panic. -/
inductive Reply where
  | uninstalled (result : Option (Except RegistryError Unit))
  | listed (result : Option (Except RegistryError (List Image)))
  | got (result : Option (Except RegistryError Image))

/-- What an uninstall changes: ECR takes the `batch-delete-image` command `uninstall` ran,
Minikube's registry the deletions it sent. -/
def afterUninstall (settings : Settings) (repo : Repository) (tag : String) : Repository :=
  match settings.implementation with
  | .ecr => Ecr.batchDeleted repo (Ecr.batchDeleteImage settings tag)
  | .minikube => (Minikube.uninstall tag (Minikube.serve repo)).2.foldl Minikube.apply repo

/-- One call served against the registry holding `repo`: the reply and what the registry holds
after it. -/
def call (settings : Settings) (repo : Repository) : Call → Reply × Repository
  | .uninstall tag => (.uninstalled (ImageRegistry.uninstall settings tag (answering repo)),
    afterUninstall settings repo tag)
  | .list => (.listed (ImageRegistry.list settings (answering repo)), repo)
  | .get tag => (.got (ImageRegistry.get settings tag (answering repo)), repo)

/-- The calls `step` serves in order, from `repo`: the replies and the registry after. -/
def run (step : Repository → Call → Reply × Repository) : Repository → List Call → List Reply × Repository
  | repo, [] => ([], repo)
  | repo, next :: calls =>
    ((step repo next).1 :: (run step (step repo next).2 calls).1, (run step (step repo next).2 calls).2)

namespace Catalogue

/-- What an uninstall removes: the tag, on Minikube every tag of its digest. -/
def removed (settings : Settings) (repo : Repository) (tag : String) : Repository :=
  match settings.implementation, repo.lookup tag with
  | .ecr, _ => repo.untag tag
  | .minikube, some image => repo.deleteDigest image.digest
  | .minikube, none => repo

/-- The catalogue of images the manager offers: every call succeeds, `list` answers the
images, `get` the image of the tag or `TagNotFound`, `uninstall` removes the tag. -/
def step (settings : Settings) (repo : Repository) : Call → Reply × Repository
  | .uninstall tag => (.uninstalled (some (.ok ())), removed settings repo tag)
  | .list => (.listed (some (.ok repo.images)), repo)
  | .get tag => (.got (some (ImageRegistry.orTagNotFound settings tag (repo.lookup tag))), repo)

end Catalogue

/-- Which calls may name a digest where a tag is asked for. -/
def Call.names (tag : String) : Call → Bool
  | .get asked => asked == tag
  | .uninstall _ | .list => false

/-- Every uninstall is served as the catalogue serves it. -/
theorem call_uninstall (settings : Settings) (repo : Repository) (tag : String) :
    call settings repo (.uninstall tag) = Catalogue.step settings repo (.uninstall tag) := by
  cases implementation : settings.implementation <;>
    simp only [call, Catalogue.step, Catalogue.removed, afterUninstall, ImageRegistry.uninstall, answering,
      pagedAnswering, implementation, Ecr.uninstall_answerBatchDelete, Ecr.batchDeleted,
      Ecr.deletedTag_batchDeleteImage, Minikube.uninstall_serve]
  cases repo.lookup tag <;> rfl

/-- A call is served as the catalogue serves it when, on ECR, the repository fits one page of
`list-images`, and, on Minikube, a `get` names no digest of the repository. -/
theorem call_eq_step (settings : Settings) (repo : Repository) (next : Call)
    (onePage : settings.implementation = .ecr → repo.images.length ≤ Ecr.listImagesPage)
    (notDigest : settings.implementation = .minikube → ∀ image ∈ repo.images, next.names image.digest = false) :
    call settings repo next = Catalogue.step settings repo next := by
  cases next with
  | uninstall tag => exact call_uninstall settings repo tag
  | list =>
    cases implementation : settings.implementation with
    | ecr =>
      simp [call, Catalogue.step, answering, list_pagedAnswering_of_ecr repo implementation,
        List.take_of_length_le (onePage implementation)]
    | minikube =>
      simp [call, Catalogue.step, ImageRegistry.list, answering, pagedAnswering, implementation, Minikube.list_serve]
  | get tag =>
    cases implementation : settings.implementation with
    | ecr =>
      simp [call, Catalogue.step, answering, get_pagedAnswering_of_ecr repo tag implementation,
        List.take_of_length_le (onePage implementation), Repository.lookup]
    | minikube =>
      have asked : ∀ image ∈ repo.images, image.digest ≠ tag := fun image member same => by
        simpa [Call.names, same] using notDigest implementation image member
      simp [call, Catalogue.step, ImageRegistry.get, ImageRegistry.find, answering, pagedAnswering, implementation,
        Minikube.get_serve asked, Except.bind]

/-- Two tags of one image and a third of another. -/
def twoDigests : Repository :=
  ⟨[⟨"n6f7", "sha256:cb1f"⟩, ⟨"p70f", "sha256:cb1f"⟩, ⟨"s0b1", "sha256:7c62"⟩], by decide⟩

/-- On Minikube, `get` of a digest that no tag spells answers an image tagged with the digest,
where ECR and the catalogue answer `TagNotFound`: `runs_refine_catalogue` needs its side
condition. -/
theorem minikube_get_accepts_digest (settings : Settings) (repo : Repository) (image : Image)
    (minikube : settings.implementation = .minikube) (member : image ∈ repo.images)
    (notTag : ∀ other ∈ repo.images, other.tag ≠ image.digest) :
    (call settings repo (.get image.digest)).1 = .got (some (.ok ⟨image.digest, image.digest⟩)) ∧
      (call { settings with implementation := .ecr } repo (.get image.digest)).1 =
        .got (some (.error (.tagNotFound image.digest (settings.registry ++ "/" ++ settings.repository)))) ∧
      (Catalogue.step settings repo (.get image.digest)).1 =
        .got (some (.error (.tagNotFound image.digest (settings.registry ++ "/" ++ settings.repository)))) := by
  have untagged : repo.lookup image.digest = none := by simpa [Repository.lookup] using notTag
  obtain ⟨first, found⟩ := Option.isSome_iff_exists.mp
    (List.find?_isSome.mpr ⟨image, member, by simp⟩ : (repo.images.find? (·.digest == image.digest)).isSome)
  have same : first.digest = image.digest := by simpa using List.find?_some found
  refine ⟨?_, ?_, by simp [Catalogue.step, untagged, ImageRegistry.orTagNotFound]⟩
  · simp [call, ImageRegistry.get, ImageRegistry.find, minikube, answering, pagedAnswering, Minikube.get,
      Minikube.serve, Repository.resolve, untagged, found, same, Except.bind, ImageRegistry.orTagNotFound]
  · simp [call, answering, @get_pagedAnswering_of_ecr { settings with implementation := .ecr } _ repo image.digest rfl,
      Repository.find?_take_eq_none untagged, ImageRegistry.orTagNotFound]

theorem minikube_get_accepts_digest_of_twoDigests :
    (call ⟨"registry.kube-system", "ocf", .minikube, ""⟩ twoDigests (.get "sha256:7c62")).1 =
      .got (some (.ok ⟨"sha256:7c62", "sha256:7c62"⟩)) ∧
    (call { (⟨"registry.kube-system", "ocf", .minikube, ""⟩ : Settings) with implementation := .ecr } twoDigests
        (.get "sha256:7c62")).1 =
      .got (some (.error (.tagNotFound "sha256:7c62" ("registry.kube-system" ++ "/" ++ "ocf")))) ∧
    (Catalogue.step ⟨"registry.kube-system", "ocf", .minikube, ""⟩ twoDigests (.get "sha256:7c62")).1 =
      .got (some (.error (.tagNotFound "sha256:7c62" ("registry.kube-system" ++ "/" ++ "ocf")))) :=
  minikube_get_accepts_digest ⟨"registry.kube-system", "ocf", .minikube, ""⟩ twoDigests ⟨"s0b1", "sha256:7c62"⟩
    rfl (by decide) (by decide)

end ConnectorManager
