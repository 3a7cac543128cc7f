import Mathlib.Data.List.Basic

namespace ConnectorManager

/-!
# Reading the `ctr images ls` listing

After importing a connector image into a fresh containerd namespace, the
AIM's `Import` step (`aim/src/registry/containerd/import.rs`) runs
`ctr -n <NAMESPACE> images ls` and reads the reference, tag and digest of the
one image from its output with `Import::extract_image_metadata_from_str`:

* `split('\n')` must give exactly a header and one row, a lone header being
  `CtrImageLs::NoData`;
* `split(' ')` of the row must give at least three cells, the first being the
  reference and the third the digest;
* `reference.rsplit_once(":")` gives the tag.

Rust's `str::split` by a character is `List.splitOn` over the characters: an
empty text splits into one empty piece, and two separators side by side
leave an empty piece between them. `rsplitOnce` is `str::rsplit_once`.

`extractImageMetadataFromStr_of_listing` reads a well-formed listing back
into its cells, `extractImageMetadataFromStr_of_lines_ne_two` says which
error every other line count gets, and `extractImageMetadataFromStr_reads_row`
puts the two together for every header, cells and trailing columns.
-/

/-- The errors `extract_image_metadata_from_str` returns, with the fields each carries. -/
inductive ImageLsError where
  /-- `CtrImageLs::NoData { namespace, header }`: the listing was only a header. -/
  | noData (ns header : String)
  /-- `UnexpectedContainerdImageLsFormat { output }`: not one header and one row. -/
  | unexpectedContainerdImageLsFormat (output : String)
  /-- `UnexpectedContainerdImageRow { output }`: a row of fewer than three cells. -/
  | unexpectedContainerdImageRow (output : String)
  /-- `UnexpectedImageReferenceFormat { output }`: a reference without a `:`. -/
  | unexpectedImageReferenceFormat (output : String)
  deriving Repr, DecidableEq

namespace Import

/-- `str::rsplit_once(c)`: the text before and after the last `c`, if there is one. -/
def rsplitOnce (c : Char) : List Char → Option (List Char × List Char)
  | [] => none
  | d :: rest =>
    match rsplitOnce c rest with
    | some (before, after) => some (d :: before, after)
    | none => if d = c then some ([], rest) else none

/-- `Import::extract_image_metadata_from_str(namespace, images_ls)`:
the reference, tag and digest of the single row of the listing. -/
def extractImageMetadataFromStr (ns imagesLs : String) :
    Except ImageLsError (String × String × String) := do
  let image ← match imagesLs.data.splitOn '\n' with
    | [_, data] => pure data
    | [header] => throw (.noData ns ⟨header⟩)
    | _ => throw (.unexpectedContainerdImageLsFormat imagesLs)
  let (reference, digest) ← match image.splitOn ' ' with
    | reference :: _ :: digest :: _ => pure (reference, digest)
    | _ => throw (.unexpectedContainerdImageRow imagesLs)
  match rsplitOnce ':' reference with
  | some (_, tag) => pure (⟨reference⟩, ⟨tag⟩, ⟨digest⟩)
  | none => throw (.unexpectedImageReferenceFormat ⟨reference⟩)

/-! ## `rsplit_once` -/

theorem rsplitOnce_of_not_mem {c : Char} {s : List Char} (h : c ∉ s) : rsplitOnce c s = none := by
  induction s with
  | nil => rfl
  | cons d rest ih =>
    simp only [List.mem_cons, not_or] at h
    simp [rsplitOnce, ih h.2, Ne.symm h.1]

/-- When `c` occurs, `rsplit_once` cuts at its last occurrence. -/
theorem rsplitOnce_of_mem {c : Char} {s : List Char} (h : c ∈ s) :
    ∃ before after, rsplitOnce c s = some (before, after) ∧
      s = before ++ c :: after ∧ c ∉ after := by
  induction s with
  | nil => cases h
  | cons d rest ih =>
    by_cases inRest : c ∈ rest
    · obtain ⟨before, after, cut, rfl, lastCut⟩ := ih inRest
      exact ⟨d :: before, after, by simp [rsplitOnce, cut], rfl, lastCut⟩
    · have : d = c := by simpa [inRest, eq_comm] using h
      exact ⟨[], rest, by simp [rsplitOnce, rsplitOnce_of_not_mem inRest, this], by simp [this],
        inRest⟩

/-! ## `split` by one character -/

theorem splitOn_of_not_mem {c : Char} {l : List Char} (h : c ∉ l) : l.splitOn c = [l] :=
  List.splitOnP_eq_single _ _ fun x hx => by simpa using ne_of_mem_of_not_mem hx h

/-- A separator-free piece followed by the separator is split off whole. -/
theorem splitOn_append_cons {c : Char} {l : List Char} (h : c ∉ l) (rest : List Char) :
    (l ++ c :: rest).splitOn c = l :: rest.splitOn c :=
  List.splitOnP_first _ _ (fun x hx => by simpa using ne_of_mem_of_not_mem hx h) c (by simp) rest

/-- The last cell, followed by nothing or by a separator, is split off whole. -/
theorem splitOn_last_cell {c : Char} {l : List Char} (h : c ∉ l) :
    ∀ {s : List Char}, (s = [] ∨ s.head? = some c) → ∃ more, (l ++ s).splitOn c = l :: more
  | [], _ => ⟨[], by simpa using splitOn_of_not_mem h⟩
  | _ :: s, hs => by
    obtain rfl : _ = c := by simpa using hs
    exact ⟨_, splitOn_append_cons h s⟩

/-! ## The listing -/

/-- The parser on a listing of one header and one row of at least three cells. -/
theorem extractImageMetadataFromStr_of_listing {ns imagesLs : String}
    {header row reference mediaType digest : List Char} {more : List (List Char)}
    (lines : imagesLs.data.splitOn '\n' = [header, row])
    (cells : row.splitOn ' ' = reference :: mediaType :: digest :: more) :
    extractImageMetadataFromStr ns imagesLs =
      match rsplitOnce ':' reference with
      | some (_, tag) => .ok (⟨reference⟩, ⟨tag⟩, ⟨digest⟩)
      | none => .error (.unexpectedImageReferenceFormat ⟨reference⟩) := by
  simp only [extractImageMetadataFromStr, lines, pure_bind, cells]
  rfl

/-- Every line count but two is an error: a lone header is `NoData` naming it, and
anything longer is `UnexpectedContainerdImageLsFormat` carrying the whole output. -/
theorem extractImageMetadataFromStr_of_lines_ne_two {ns imagesLs : String}
    (h : (imagesLs.data.splitOn '\n').length ≠ 2) :
    extractImageMetadataFromStr ns imagesLs =
      if (imagesLs.data.splitOn '\n').length = 1 then .error (.noData ns imagesLs)
      else .error (.unexpectedContainerdImageLsFormat imagesLs) := by
  have whole : ['\n'].intercalate (imagesLs.data.splitOn '\n') = imagesLs.data :=
    List.intercalate_splitOn _ _
  unfold extractImageMetadataFromStr
  generalize imagesLs.data.splitOn '\n' = lines at h whole ⊢
  match lines, h, whole with
  | [], _, _ => rfl
  | [header], _, whole =>
    obtain rfl : header = imagesLs.data := by simpa [List.intercalate] using whole
    rfl
  | [_, _], h, _ => exact (h rfl).elim
  | _ :: _ :: _ :: _, _, _ => rfl

/-- A row whose reference has a `:` reads back as the reference, the text after its last `:`,
and the digest. -/
theorem extractImageMetadataFromStr_of_row {ns h r t d s : String} (header : '\n' ∉ h.data)
    (cells : ∀ f ∈ [r, t, d], ' ' ∉ f.data ∧ '\n' ∉ f.data) (columns : '\n' ∉ s.data)
    (separated : s = "" ∨ s.data.head? = some ' ') (tagged : ':' ∈ r.data) :
    ∃ pre tag : String, r.data = pre.data ++ ':' :: tag.data ∧ ':' ∉ tag.data ∧
      extractImageMetadataFromStr ns (h ++ "\n" ++ r ++ " " ++ t ++ " " ++ d ++ s) = .ok (r, tag, d) := by
  simp only [List.mem_cons, List.mem_singleton, List.not_mem_nil, or_false, forall_eq_or_imp,
    forall_eq] at cells
  obtain ⟨⟨rBlank, rNewline⟩, ⟨tBlank, tNewline⟩, ⟨dBlank, dNewline⟩⟩ := cells
  obtain ⟨more, lastCell⟩ := @splitOn_last_cell ' ' d.data dBlank s.data
    (by rcases separated with rfl | e; exacts [.inl rfl, .inr e])
  have rowLines : (r.data ++ ' ' :: (t.data ++ ' ' :: (d.data ++ s.data))).splitOn '\n' =
      [r.data ++ ' ' :: (t.data ++ ' ' :: (d.data ++ s.data))] :=
    splitOn_of_not_mem (by simp [rNewline, tNewline, dNewline, columns])
  have listing := @extractImageMetadataFromStr_of_listing ns
    (h ++ "\n" ++ r ++ " " ++ t ++ " " ++ d ++ s) _ _ r.data t.data d.data more
    (by simpa [List.append_assoc] using (splitOn_append_cons header _).trans (congrArg _ rowLines))
    (by rw [splitOn_append_cons rBlank, splitOn_append_cons tBlank, lastCell])
  obtain ⟨pre, tag, cut, split, lastCut⟩ := rsplitOnce_of_mem tagged
  exact ⟨⟨pre⟩, ⟨tag⟩, split, lastCut, by rw [listing, cut]⟩

/-- The parser reads back every row of a reference, a media type and a digest free of
blanks and newlines, under a newline-free header and before any newline-free trailing
columns: the tag is what follows the reference's last `:`, and a reference without one
is refused. Every listing of other than two lines is refused. -/
theorem extractImageMetadataFromStr_reads_row :
    (∀ (ns h r t d s : String),
      '\n' ∉ h.data → (∀ f ∈ [r, t, d], ' ' ∉ f.data ∧ '\n' ∉ f.data) →
      '\n' ∉ s.data → (s = "" ∨ s.data.head? = some ' ') →
      (':' ∈ r.data → ∃ pre tag : String,
          r.data = pre.data ++ ':' :: tag.data ∧ ':' ∉ tag.data ∧
          extractImageMetadataFromStr ns (h ++ "\n" ++ r ++ " " ++ t ++ " " ++ d ++ s) =
            .ok (r, tag, d)) ∧
      (':' ∉ r.data →
        extractImageMetadataFromStr ns (h ++ "\n" ++ r ++ " " ++ t ++ " " ++ d ++ s) =
          .error (.unexpectedImageReferenceFormat r))) ∧
    ∀ ns imagesLs, (imagesLs.data.splitOn '\n').length ≠ 2 →
      ∃ err, extractImageMetadataFromStr ns imagesLs = .error err := by
  refine ⟨fun ns h r t d s hh cells hs trailing => ?_, fun ns imagesLs lines => ?_⟩
  · simp only [List.mem_cons, List.mem_singleton, List.not_mem_nil, or_false, forall_eq_or_imp,
      forall_eq] at cells
    obtain ⟨⟨rBlank, rNewline⟩, ⟨tBlank, tNewline⟩, ⟨dBlank, dNewline⟩⟩ := cells
    obtain ⟨more, lastCell⟩ := @splitOn_last_cell ' ' d.data dBlank s.data
      (by rcases trailing with rfl | e; exacts [.inl rfl, .inr e])
    have rowLines : (r.data ++ ' ' :: (t.data ++ ' ' :: (d.data ++ s.data))).splitOn '\n' =
        [r.data ++ ' ' :: (t.data ++ ' ' :: (d.data ++ s.data))] :=
      splitOn_of_not_mem (by simp [rNewline, tNewline, dNewline, hs])
    have listing := @extractImageMetadataFromStr_of_listing ns
      (h ++ "\n" ++ r ++ " " ++ t ++ " " ++ d ++ s) _ _ r.data t.data d.data more
      (by simpa [List.append_assoc] using (splitOn_append_cons hh _).trans (congrArg _ rowLines))
      (by rw [splitOn_append_cons rBlank, splitOn_append_cons tBlank, lastCell])
    refine ⟨fun hr => ?_, fun hr => by rw [listing, rsplitOnce_of_not_mem hr]⟩
    obtain ⟨pre, tag, cut, split, lastCut⟩ := rsplitOnce_of_mem hr
    exact ⟨⟨pre⟩, ⟨tag⟩, split, lastCut, by rw [listing, cut]⟩
  · rw [extractImageMetadataFromStr_of_lines_ne_two lines]
    split_ifs <;> exact ⟨_, rfl⟩

theorem extractImageMetadataFromStr_reads_tennis_row :
    ∃ pre tag : String,
      "docker.io/test/tennis:latest".data = pre.data ++ ':' :: tag.data ∧ ':' ∉ tag.data ∧
      extractImageMetadataFromStr "some namespace"
        ("REF TYPE DIGEST SIZE PLATFORMS LABELS " ++ "\n" ++ "docker.io/test/tennis:latest" ++ " " ++
          "application/vnd.docker.distribution.manifest.v2+json" ++ " " ++
          "sha256:76a5627069e32d0543dd6bec4c352af358974dd4572dfc05dbf7147b5546df4f" ++
          " 19.2 MiB linux/amd64 -      ") =
        .ok ("docker.io/test/tennis:latest", tag,
          "sha256:76a5627069e32d0543dd6bec4c352af358974dd4572dfc05dbf7147b5546df4f") :=
  (extractImageMetadataFromStr_reads_row.1 "some namespace" "REF TYPE DIGEST SIZE PLATFORMS LABELS "
    "docker.io/test/tennis:latest" "application/vnd.docker.distribution.manifest.v2+json"
    "sha256:76a5627069e32d0543dd6bec4c352af358974dd4572dfc05dbf7147b5546df4f"
    " 19.2 MiB linux/amd64 -      " (by decide) (by decide) (by decide) (.inr rfl)).1 (by decide)

/-- The source's own unit test. -/
example : extractImageMetadataFromStr "some namespace"
    "REF                          TYPE                                                 DIGEST                                                                  SIZE     PLATFORMS   LABELS \ndocker.io/test/tennis:latest application/vnd.docker.distribution.manifest.v2+json sha256:76a5627069e32d0543dd6bec4c352af358974dd4572dfc05dbf7147b5546df4f 19.2 MiB linux/amd64 -      " =
      .ok ("docker.io/test/tennis:latest", "latest",
        "sha256:76a5627069e32d0543dd6bec4c352af358974dd4572dfc05dbf7147b5546df4f") := by
  rfl

end Import

end ConnectorManager
