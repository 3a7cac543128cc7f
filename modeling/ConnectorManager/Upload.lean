import ConnectorManager.RemovalTask

namespace ConnectorManager

/-!
# Uploads of several images

`ctr images import` imports every image of the uploaded archive into the
install's namespace, and `ctr images ls` then lists them: a header line and one
line per image. `exec` trims the listing's trailing whitespace, and
`extract_image_metadata_from_str` accepts only a listing of two lines. An archive
of two or more images is therefore refused once imported: the install fails
without reading its listing, no `TmpImage` is made whose drop would remove the
images, and the namespace's removal, which containerd refuses while the namespace
holds an image, never succeeds (`RemovalTask.namespace_removal_orphaned`).
-/

/-- What `ctr -n <namespace> images ls` prints: a header line, then one line per image, each
starting with the image's reference. -/
def imagesLs (header : String) (rows : List String) : String :=
  ⟨header.data ++ '\n' :: rows.flatMap fun row => row.data ++ ['\n']⟩

/-- Trimming a listing of two or more rows keeps the header and the first row whole, and the
second row's first character when that is no whitespace. -/
theorem trimEnd_imagesLs {header first second : String} {rest : List String} {c : Char}
    (start : second.data.head? = some c) (blank : isWhitespace c = false) :
    ∃ more, (trimEnd (imagesLs header (first :: second :: rest))).data =
      header.data ++ '\n' :: (first.data ++ '\n' :: c :: more) := by
  obtain ⟨tail, split⟩ := List.head?_eq_some_iff.mp start
  have whole : imagesLs header (first :: second :: rest) =
      ⟨header.data ++ '\n' :: (first.data ++ ['\n']) ++ [c]⟩ ++
        ⟨tail ++ '\n' :: rest.flatMap fun row => row.data ++ ['\n']⟩ :=
    String.ext (by simp [imagesLs, split])
  refine ⟨(trimEnd ⟨tail ++ '\n' :: rest.flatMap fun row => row.data ++ ['\n']⟩).data, ?_⟩
  rw [whole, trimEnd_append_of_getLast? (List.getLast?_concat _) blank]
  simp

/-- `extract_image_metadata` refuses the listing of two or more images, whatever their rows. -/
theorem extractImageMetadata_imagesLs {ns : Namespace} {header : String} {rows : List String}
    {stderr : Decoded} (headerLine : '\n' ∉ header.data)
    (rowLines : ∀ row ∈ rows, '\n' ∉ row.data ∧ row.data.head?.any (fun c => !isWhitespace c) = true)
    (several : 2 ≤ rows.length) :
    Import.extractImageMetadata ns (.exited true (.utf8 (imagesLs header rows)) stderr) =
      .error (.imageLs (.unexpectedContainerdImageLsFormat (trimEnd (imagesLs header rows)))) := by
  obtain ⟨first, second, rest, rfl⟩ : ∃ first second rest, rows = first :: second :: rest := by
    match rows, several with
    | first :: second :: rest, _ => exact ⟨first, second, rest, rfl⟩
  obtain ⟨c, start, blank⟩ : ∃ c, second.data.head? = some c ∧ isWhitespace c = false := by
    have := (rowLines second (by simp)).2
    cases head : second.data.head? with
    | none => simp [head] at this
    | some c => exact ⟨c, rfl, by simpa [head] using this⟩
  obtain ⟨more, trimmed⟩ := @trimEnd_imagesLs header first second rest c start blank
  have lines : 3 ≤ ((trimEnd (imagesLs header (first :: second :: rest))).data.splitOn '\n').length := by
    rw [trimmed, Import.splitOn_append_cons headerLine, Import.splitOn_append_cons (rowLines first (by simp)).1]
    have := List.length_pos.mpr (List.splitOnP_ne_nil (· == '\n') (c :: more))
    simp only [List.length_cons, List.splitOn]
    omega
  have notTwo : ((trimEnd (imagesLs header (first :: second :: rest))).data.splitOn '\n').length ≠ 2 := by omega
  have notOne : ((trimEnd (imagesLs header (first :: second :: rest))).data.splitOn '\n').length ≠ 1 := by omega
  simp [Import.extractImageMetadata, exec, bind, Except.bind, Except.mapError, pure, Except.pure,
    Import.extractImageMetadataFromStr_of_lines_ne_two notTwo, notOne]

/-- An upload whose archive holds two or more images is never installed: once `ctr images import`
put them in the install's namespace, the listing is refused, and the one removal task the
install spawns, the namespace's, never removes it. In every run, whatever the commands answer and
whatever removal tasks run in other namespaces, the images stay and the task is orphaned by its
3601st attempt. -/
theorem install_of_several_images_orphans_namespace {settings : Settings} {draws : Draws} {path : String}
    {answers : Answers} {header : String} {rows : List String} {stderr : Decoded}
    (imported : ∃ out, exec (Import.importCommand (Namespace.new draws.namespace) path).debugString
      answers.imported = .ok out)
    (listing : answers.listed = .exited true (.utf8 (imagesLs header rows)) stderr)
    (headerLine : '\n' ∉ header.data)
    (rowLines : ∀ row ∈ rows, '\n' ∉ row.data ∧ row.data.head?.any (fun c => !isWhitespace c) = true)
    (several : 2 ≤ rows.length) {now : Nat} {images : List (String × String)} {reference : String}
    (held : ((Namespace.new draws.namespace).namespace, reference) ∈ images)
    {others : List RemovalTask.Task}
    (elsewhere : ∀ task ∈ others, task.removal.ns ≠ (Namespace.new draws.namespace).namespace)
    {events : List RemovalTask.Event} {final : RemovalTask.World}
    (ran : (RemovalTask.World.spawn now images (Containerd.«import» settings draws path answers).2.spawned
      others).run events = some final) :
    (Containerd.«import» settings draws path answers).1 =
        .error (.imageLs (.unexpectedContainerdImageLsFormat (trimEnd (imagesLs header rows)))) ∧
      ((Namespace.new draws.namespace).namespace, reference) ∈ final.images ∧
      ∃ task, final.tasks[0]? = some task ∧ task.removal = .namespace (Namespace.new draws.namespace).namespace ∧
        task.pc ≠ .removed ∧ task.attempts ≤ 3601 ∧ (task.attempts = 3601 → task.pc = .orphaned) := by
  have refused := @extractImageMetadata_imagesLs (Namespace.new draws.namespace) header rows stderr headerLine
    rowLines several
  rw [← listing] at refused
  have unread : ∀ image, ¬Containerd.Listed (Namespace.new draws.namespace) path answers image :=
    fun _ listed => by rw [listed.2] at refused; cases refused
  obtain ⟨out, importedOk⟩ := imported
  rw [(@Containerd.import_of_not_listed settings draws path answers unread).2, Namespace.drop] at ran
  refine ⟨?_, RemovalTask.namespace_removal_orphaned held elsewhere ran⟩
  simp [Containerd.«import», Import.importPath, WorkFlow.newWorkflow, importedOk, refused, Except.map]

/-- A `docker save` of two images: what `ctr images ls` lists once they are imported. -/
def twoImages : Answers :=
  { Containerd.succeeding Containerd.tennisListing with
    listed := .exited true (.utf8 (imagesLs "REF TYPE DIGEST"
      ["docker.io/test/tennis:latest application/vnd.docker.distribution.manifest.v2+json sha256:76a5",
        "docker.io/test/squash:v2 application/vnd.docker.distribution.manifest.v2+json sha256:9c1e"])) (.utf8 "") }

theorem install_of_several_images_orphans_namespace_of_two_images :
    ∃ final, (RemovalTask.World.spawn 0 [((Namespace.new 0).namespace, "docker.io/test/squash:v2")]
        (Containerd.«import» {} ⟨0, 0, 'q'⟩ "upload" twoImages).2.spawned []).run
        [.attempt 0 1000 (.exited false (.utf8 "") (.utf8 "namespace must be empty")) 250000000] = some final ∧
      (Containerd.«import» {} ⟨0, 0, 'q'⟩ "upload" twoImages).1 =
        .error (.imageLs (.unexpectedContainerdImageLsFormat (trimEnd (imagesLs "REF TYPE DIGEST"
          ["docker.io/test/tennis:latest application/vnd.docker.distribution.manifest.v2+json sha256:76a5",
            "docker.io/test/squash:v2 application/vnd.docker.distribution.manifest.v2+json sha256:9c1e"])))) ∧
      ((Namespace.new 0).namespace, "docker.io/test/squash:v2") ∈ final.images ∧
      ∃ task, final.tasks[0]? = some task ∧ task.removal = .namespace (Namespace.new 0).namespace ∧
        task.pc ≠ .removed ∧ task.attempts ≤ 3601 ∧ (task.attempts = 3601 → task.pc = .orphaned) :=
  ⟨_, rfl, @install_of_several_images_orphans_namespace {} ⟨0, 0, 'q'⟩ "upload" twoImages "REF TYPE DIGEST"
    ["docker.io/test/tennis:latest application/vnd.docker.distribution.manifest.v2+json sha256:76a5",
      "docker.io/test/squash:v2 application/vnd.docker.distribution.manifest.v2+json sha256:9c1e"] (.utf8 "")
    ⟨"", rfl⟩ rfl (by decide) (by decide) (by decide) 0 _ _ (List.mem_singleton_self _) [] nofun
    [.attempt 0 1000 (.exited false (.utf8 "") (.utf8 "namespace must be empty")) 250000000] _ rfl⟩

end ConnectorManager
