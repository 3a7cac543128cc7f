import ConnectorManager.Catalogue

namespace ConnectorManager

/-!
# Listings that part from the registry

Against the registries of `Catalogue`, `list` answers what the repository holds. Two
behaviours of the real registries make it answer something else, and `get`, which ECR
answers from the listing, follows it.

* `ecr::list` runs `list-images --no-paginate`: the CLI then makes one `ListImages` request,
  which answers one page of image ids (`Ecr.answerListImagesOf`). Past the first page an image
  is neither listed nor found (`ecr_get_misses_images_past_first_page`).
* `minikube::list` reads no status of its manifest requests; it hashes whatever body comes
  back. When an uninstall's deletion lands between its `tags/list` and those requests, it
  lists every deleted tag with the digest of the registry's 404 body
  (`minikube_list_reports_deleted_tags`).
-/

/-- On ECR, against a repository holding more than a page of images, `list` answers the first
page only, and `get` of a tag the repository holds past it answers `TagNotFound`. -/
theorem ecr_get_misses_images_past_first_page (settings : Settings) (repo : Repository) (pageSize : Nat)
    (image : Image) (ecr : settings.implementation = .ecr) (member : image ∈ repo.images)
    (beyond : image ∉ repo.images.take pageSize) :
    ImageRegistry.list settings (pagedAnswering pageSize repo) = some (.ok (repo.images.take pageSize)) ∧
      repo.lookup image.tag = some image ∧
      ImageRegistry.get settings image.tag (pagedAnswering pageSize repo) =
        some (.error (.tagNotFound image.tag (settings.registry ++ "/" ++ settings.repository))) := by
  have missed : (repo.images.take pageSize).find? (·.tag == image.tag) = none :=
    List.find?_eq_none.mpr fun other kept same => beyond <| by
      obtain rfl := List.inj_on_of_nodup_map repo.tagsNodup (List.mem_of_mem_take kept) member (by simpa using same)
      exact kept
  refine ⟨list_pagedAnswering_of_ecr repo ecr, Repository.lookup_eq_some_iff.mpr ⟨member, rfl⟩, ?_⟩
  rw [get_pagedAnswering_of_ecr repo image.tag ecr, missed]
  rfl

theorem ecr_get_misses_images_past_first_page_of_twoDigests :
    ImageRegistry.list ⟨"registry.kube-system", "ocf", .ecr, ""⟩ (pagedAnswering 2 twoDigests) =
        some (.ok (twoDigests.images.take 2)) ∧
      twoDigests.lookup "s0b1" = some ⟨"s0b1", "sha256:7c62"⟩ ∧
      ImageRegistry.get ⟨"registry.kube-system", "ocf", .ecr, ""⟩ "s0b1" (pagedAnswering 2 twoDigests) =
        some (.error (.tagNotFound "s0b1" ("registry.kube-system" ++ "/" ++ "ocf"))) :=
  ecr_get_misses_images_past_first_page ⟨"registry.kube-system", "ocf", .ecr, ""⟩ twoDigests 2 ⟨"s0b1", "sha256:7c62"⟩
    rfl (by decide) (by decide)

namespace Minikube

/-- Minikube's registry while an uninstall's deletion of `digest` lands between a `list`'s
`tags/list` and its manifest requests: the tags are still those of `repo`, the manifests those
left after the deletion. A 404 comes with the registry's error body, which hashes to
`notFound`; `serve` leaves that out, as no call against it reads a 404's body. -/
def racing (repo : Repository) (digest notFound : String) : Request → Option HttpResponse
  | .tagsList => serve repo .tagsList
  | .manifest reference =>
    some (match (repo.deleteDigest digest).resolve reference with
      | some image => { status := 200, digest := some image.digest }
      | none => { status := 404, digest := some notFound })
  | .deleteManifest gone => serve (repo.deleteDigest digest) (.deleteManifest gone)

/-- `list` asks for the manifest of each listed tag in turn. -/
theorem mapM_manifestImage_of {server : Request → Option HttpResponse} {f : Image → Image} :
    ∀ {images : List Image}, (∀ image ∈ images, manifestImage server image.tag = some (f image)) →
      (images.map Image.tag).mapM (manifestImage server) = some (images.map f)
  | [], _ => rfl
  | image :: rest, answered => by
    rw [List.map_cons, List.mapM_cons, answered image (List.mem_cons_self _ _),
      mapM_manifestImage_of fun other member => answered other (List.mem_cons_of_mem _ member)]
    rfl

theorem manifestImage_racing {repo : Repository} {digest notFound : String} {image : Image}
    (member : image ∈ repo.images) (notDigest : ∀ other ∈ repo.images, other.digest ≠ image.tag) :
    manifestImage (racing repo digest notFound) image.tag =
      some (if image.digest = digest then ⟨image.tag, notFound⟩ else image) := by
  have found : repo.lookup image.tag = some image := Repository.lookup_eq_some_iff.mpr ⟨member, rfl⟩
  have noDigest : (repo.deleteDigest digest).images.find? (·.digest == image.tag) = none := by
    simpa using fun other kept => notDigest other (Repository.images_keep kept)
  by_cases deleted : image.digest = digest
  · have gone : (repo.deleteDigest digest).lookup image.tag = none := by
      simp [Repository.deleteDigest, Repository.lookup_keep_eq, found, deleted]
    simp [manifestImage, racing, Repository.resolve, gone, noDigest, deleted]
  · have kept : (repo.deleteDigest digest).lookup image.tag = some image := by
      simp [Repository.deleteDigest, Repository.lookup_keep_eq, found, deleted]
    simp [manifestImage, racing, Repository.resolve, kept, deleted]

end Minikube

/-- When an uninstall's deletion of a digest lands between a Minikube `list`'s `tags/list` and
its manifest requests, `list` still lists every tag, those of the deleted digest with the digest
of the registry's 404 body; a `get` of such a tag then answers `TagNotFound`. This needs that no
tag is spelled as a digest of the registry. -/
theorem minikube_list_reports_deleted_tags (settings : Settings) (repo : Repository) (digest notFound : String)
    (notDigest : ∀ image ∈ repo.images, ∀ other ∈ repo.images, other.digest ≠ image.tag) :
    Minikube.list (Minikube.racing repo digest notFound) =
        some (repo.images.map fun image => if image.digest = digest then ⟨image.tag, notFound⟩ else image) ∧
      ∀ image ∈ repo.images, image.digest = digest →
        (call settings (repo.deleteDigest digest) (.get image.tag)).1 =
          .got (some (.error (.tagNotFound image.tag (settings.registry ++ "/" ++ settings.repository)))) := by
  refine ⟨?_, fun image member deleted => ?_⟩
  · have answered := Minikube.mapM_manifestImage_of fun image member =>
      @Minikube.manifestImage_racing repo digest notFound image member (notDigest image member)
    simpa [Minikube.list, Minikube.racing, Minikube.serve] using answered
  · have gone : (repo.deleteDigest digest).lookup image.tag = none := by
      have found : repo.lookup image.tag = some image := Repository.lookup_eq_some_iff.mpr ⟨member, rfl⟩
      simp [Repository.deleteDigest, Repository.lookup_keep_eq, found, deleted]
    cases implementation : settings.implementation with
    | ecr =>
      simp [call, answering, get_pagedAnswering_of_ecr _ image.tag implementation,
        Repository.find?_take_eq_none gone, ImageRegistry.orTagNotFound]
    | minikube =>
      rw [call_eq_step settings _ _ (fun ecr => nomatch implementation.symm.trans ecr) fun _ other kept => by
        simpa [Call.names] using Ne.symm (notDigest image member other (Repository.images_keep kept))]
      simp [Catalogue.step, gone, ImageRegistry.orTagNotFound]

theorem minikube_list_reports_deleted_tags_of_twoDigests :
    Minikube.list (Minikube.racing twoDigests "sha256:cb1f" "sha256:44a0") =
        some (twoDigests.images.map fun image =>
          if image.digest = "sha256:cb1f" then ⟨image.tag, "sha256:44a0"⟩ else image) ∧
      ∀ image ∈ twoDigests.images, image.digest = "sha256:cb1f" →
        (call {} (twoDigests.deleteDigest "sha256:cb1f") (.get image.tag)).1 =
          .got (some (.error (.tagNotFound image.tag (({} : Settings).registry ++ "/" ++ ({} : Settings).repository)))) :=
  minikube_list_reports_deleted_tags {} twoDigests "sha256:cb1f" "sha256:44a0" (by decide)

end ConnectorManager
