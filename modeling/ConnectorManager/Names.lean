import Mathlib

namespace ConnectorManager

/-!
# Pod names: `names::rfc1123_subdomain`

`pod::new` names every connector pod `rfc1123_subdomain(name)`
(`library/names/src/lib.rs`), which

1. replaces every character that is not `char::is_alphanumeric` with a space,
2. converts the result to a lowercase kebab with convert_case; an empty kebab
   becomes `invalid-rfc1123-connector-name` (2b),
3. and appends `-` and the 32 hex digits of a random UUID, cutting the prefix and
   the UUID so that the name fits 63 bytes (cases 3a, 3b and 3c).

Rust's `str::len` counts UTF-8 bytes (`byteLength`), and `String::truncate(n)`
panics when byte `n` falls inside a character (`truncate` is `none` there).
The Unicode tables the function consults (`char::is_alphanumeric`,
`char::to_lowercase`, `char::to_uppercase`) are outside the repository:
`UnicodeData` is any tables that agree with Unicode on Latin-1 (U+0000 to U+00FF),
as the real ones do. `to_case(Case::Kebab)` follows convert_case 0.6 with its
default boundaries, each grapheme being one character. The model is the debug
build: the two `debug_assert!`s are checked, and `rfc1123Subdomain_fits` shows
that they never fire, so the release build returns the same names.

`rfc1123Subdomain_eq_none_iff` says that the one panic is case 3b's
`prefix.truncate(54)`, `rfc1123Subdomain_fits` bounds every name returned, and
`rfc1123Subdomain_valid_of_ascii` shows that an ASCII name is always a valid
RFC 1123 label; a non-ASCII letter breaks both.
-/

namespace Names

/-! ## The Unicode tables -/

/-- `char::is_alphanumeric` (the Alphabetic or the Numeric property) on Latin-1. -/
def latin1IsAlphanumeric (c : Char) : Bool :=
  c.isAlphanum || [0xAA, 0xB2, 0xB3, 0xB5, 0xB9, 0xBA, 0xBC, 0xBD, 0xBE].contains c.toNat ||
    (0xC0 ≤ c.toNat && c.toNat ≤ 0xFF && c.toNat != 0xD7 && c.toNat != 0xF7)

/-- `char::to_lowercase` on Latin-1. -/
def latin1ToLowercase (c : Char) : List Char :=
  if c.isUpper || (0xC0 ≤ c.toNat && c.toNat ≤ 0xDE && c.toNat != 0xD7) then
    [Char.ofNat (c.toNat + 0x20)]
  else [c]

/-- `char::to_uppercase` on Latin-1, where `µ`, `ß` and `ÿ` leave the block. -/
def latin1ToUppercase (c : Char) : List Char :=
  if c.isLower || (0xE0 ≤ c.toNat && c.toNat ≤ 0xFE && c.toNat != 0xF7) then
    [Char.ofNat (c.toNat - 0x20)]
  else if c = 'µ' then ['Μ'] else if c = 'ß' then ['S', 'S'] else if c = 'ÿ' then ['Ÿ'] else [c]

/-- The Unicode tables `rfc1123_subdomain` consults: any that agree with Unicode on Latin-1. -/
structure UnicodeData where
  /-- `char::is_alphanumeric`. -/
  isAlphanumeric : Char → Bool
  /-- `char::to_lowercase`. -/
  toLowercase : Char → List Char
  /-- `char::to_uppercase`. -/
  toUppercase : Char → List Char
  isAlphanumeric_latin1 : ∀ c : Char, c.toNat < 0x100 → isAlphanumeric c = latin1IsAlphanumeric c
  toLowercase_latin1 : ∀ c : Char, c.toNat < 0x100 → toLowercase c = latin1ToLowercase c
  toUppercase_latin1 : ∀ c : Char, c.toNat < 0x100 → toUppercase c = latin1ToUppercase c

namespace UnicodeData

/-- Tables that agree with Unicode on Latin-1 and know no letter or digit beyond it. -/
def latin1 : UnicodeData where
  isAlphanumeric := latin1IsAlphanumeric
  toLowercase := latin1ToLowercase
  toUppercase := latin1ToUppercase
  isAlphanumeric_latin1 _ _ := rfl
  toLowercase_latin1 _ _ := rfl
  toUppercase_latin1 _ _ := rfl

variable (u : UnicodeData)

/-- convert_case's `grapheme_is_uppercase`: a cased character that is its own uppercase. -/
def isUppercase (c : Char) : Bool :=
  u.toUppercase c != u.toLowercase c && [c] == u.toUppercase c

/-- convert_case's `grapheme_is_lowercase`: a cased character that is its own lowercase. -/
def isLowercase (c : Char) : Bool :=
  u.toUppercase c != u.toLowercase c && [c] == u.toLowercase c

theorem isUppercase_eq_false_of_isLowercase {c : Char} (h : u.isLowercase c = true) :
    u.isUppercase c = false := by
  simp only [isLowercase, isUppercase, Bool.and_eq_true, bne_iff_ne, ne_eq, beq_iff_eq] at h ⊢
  simp only [Bool.and_eq_false_iff, bne_eq_false_iff_eq, beq_eq_false_iff_ne, ne_eq]
  exact .inr fun upper => h.1 (upper.symm.trans h.2)

theorem toLowercase_of_isLowercase {c : Char} (h : u.isLowercase c = true) :
    u.toLowercase c = [c] := by
  simp only [isLowercase, Bool.and_eq_true, beq_iff_eq] at h
  exact h.2.symm

/-- On ASCII the tables are the ASCII ones. -/
theorem isAlphanumeric_ascii {c : Char} (h : c.toNat < 0x80) : u.isAlphanumeric c = c.isAlphanum := by
  rw [u.isAlphanumeric_latin1 c (by omega), latin1IsAlphanumeric]
  have : [0xAA, 0xB2, 0xB3, 0xB5, 0xB9, 0xBA, 0xBC, 0xBD, 0xBE].contains c.toNat = false := by
    simp only [List.contains_cons, List.contains_nil, Bool.or_false, Bool.or_eq_false_iff,
      beq_eq_false_iff_ne]
    omega
  rw [this, Bool.or_false]
  simp [show ¬0xC0 ≤ c.toNat by omega]

theorem toLowercase_ascii {c : Char} (h : c.toNat < 0x80) : u.toLowercase c = [c.toLower] := by
  rw [u.toLowercase_latin1 c (by omega), latin1ToLowercase, Char.toLower]
  by_cases upper : c.isUpper = true
  · have : 65 ≤ c.toNat ∧ c.toNat ≤ 90 := by
      simpa [Char.isUpper] using upper
    simp [upper, this]
  · have : ¬(65 ≤ c.toNat ∧ c.toNat ≤ 90) := by
      simpa [Char.isUpper] using upper
    simp only [upper, Bool.false_or, Bool.and_eq_true, decide_eq_true_eq, bne_iff_ne, if_neg this]
    rw [if_neg (by omega)]

end UnicodeData

/-! ## convert_case's `to_case(Case::Kebab)` -/

/-- The one-character boundaries `Hyphen`, `Underscore` and `Space`, which are dropped. -/
def isDelimiter (c : Char) : Bool :=
  c == '-' || c == '_' || c == ' '

/-- The default boundaries between `c` and `d`, `next` following `d`: `LowerUpper`,
`UpperDigit`, `DigitUpper`, `DigitLower`, `LowerDigit` and `Acronym`. -/
def isBoundary (u : UnicodeData) (c d : Char) (next : Option Char) : Bool :=
  u.isLowercase c && u.isUppercase d || u.isUppercase c && d.isDigit ||
    c.isDigit && u.isUppercase d || c.isDigit && u.isLowercase d ||
    u.isLowercase c && d.isDigit || u.isUppercase c && u.isUppercase d && next.any u.isLowercase

/-- Cut a piece free of delimiters at its boundaries. -/
def splitAtBoundaries (u : UnicodeData) : List Char → List (List Char)
  | [] => []
  | c :: rest => go c rest [c]
where
  /-- `c` was read last; `word` is the current word, reversed. -/
  go (c : Char) : List Char → List Char → List (List Char)
    | [], word => [word.reverse]
    | d :: rest, word =>
      if isBoundary u c d rest.head? then word.reverse :: go d rest [d] else go d rest (d :: word)

/-- convert_case's `split` with the default boundaries: the words of a text. -/
def words (u : UnicodeData) (s : List Char) : List (List Char) :=
  ((s.splitOnP isDelimiter).flatMap (splitAtBoundaries u)).filter (!·.isEmpty)

/-- `[String]::join(sep)`. -/
def joinWith (sep : Char) : List (List Char) → List Char
  | [] => []
  | [w] => w
  | w :: ws => w ++ sep :: joinWith sep ws

/-- `s.to_case(Case::Kebab)`: the words, each `to_lowercase`d, joined with `-`. -/
def toKebab (u : UnicodeData) (s : List Char) : List Char :=
  joinWith '-' ((words u s).map fun w => w.flatMap u.toLowercase)

/-! ## Bytes -/

/-- `str::len`: the length in UTF-8 bytes. -/
def byteLength : List Char → Nat
  | [] => 0
  | c :: rest => c.utf8Size + byteLength rest

@[simp] theorem byteLength_nil : byteLength [] = 0 := rfl

@[simp] theorem byteLength_cons (c : Char) (rest : List Char) :
    byteLength (c :: rest) = c.utf8Size + byteLength rest := rfl

@[simp] theorem byteLength_append (s t : List Char) :
    byteLength (s ++ t) = byteLength s + byteLength t := by
  induction s with
  | nil => simp
  | cons c rest ih => simp [ih, Nat.add_assoc]

theorem byteLength_of_ascii {s : List Char} (h : ∀ c ∈ s, c.utf8Size = 1) :
    byteLength s = s.length := by
  induction s with
  | nil => rfl
  | cons c rest ih => simp [h c (by simp), ih fun x hx => h x (by simp [hx]), Nat.add_comm]

/-- `String::truncate(n)`; `none` is its panic when byte `n` falls inside a character. -/
def truncate : List Char → Nat → Option (List Char)
  | [], _ => some []
  | c :: rest, n =>
    if n = 0 then some []
    else if c.utf8Size ≤ n then (truncate rest (n - c.utf8Size)).map (c :: ·)
    else none

/-- What `truncate` keeps is a prefix of the text, of `n` bytes or the whole text. -/
theorem truncate_eq_some {s t : List Char} {n : Nat} (h : truncate s n = some t) :
    t <+: s ∧ byteLength t = min n (byteLength s) := by
  induction s generalizing n t with
  | nil => cases h; simp
  | cons c rest ih =>
    simp only [truncate] at h
    split_ifs at h with zero fits
    · cases h; simp [zero]
    · obtain ⟨kept, rest_kept, rfl⟩ := Option.map_eq_some'.mp h
      obtain ⟨isPrefix, length⟩ := ih rest_kept
      refine ⟨List.cons_prefix_cons.mpr ⟨rfl, isPrefix⟩, ?_⟩
      simp only [byteLength_cons, length]
      omega

/-- An ASCII text is cut at any byte. -/
theorem truncate_of_ascii {s : List Char} (h : ∀ c ∈ s, c.utf8Size = 1) (n : Nat) :
    truncate s n = some (s.take n) := by
  induction s generalizing n with
  | nil => simp [truncate]
  | cons c rest ih =>
    have one := h c (by simp)
    cases n with
    | zero => rfl
    | succ n =>
      simp [truncate, one, ih (fun x hx => h x (by simp [hx])) n]

/-! ## RFC 1123 labels -/

/-- A lowercase ASCII letter or a digit. -/
def isLabelAlnum (c : Char) : Bool :=
  c.isLower || c.isDigit

/-- A character of an RFC 1123 label: a lowercase ASCII letter, a digit or `-`. -/
def isLabelChar (c : Char) : Bool :=
  isLabelAlnum c || c == '-'

/-- What Kubernetes accepts as an RFC 1123 label: at most 63 bytes of lowercase ASCII
letters, digits and `-`, beginning and ending with a letter or a digit. -/
def IsRfc1123Label (s : List Char) : Prop :=
  byteLength s ≤ 63 ∧ s.all isLabelChar ∧ s.head?.any isLabelAlnum ∧ s.getLast?.any isLabelAlnum

instance (s : List Char) : Decidable (IsRfc1123Label s) :=
  inferInstanceAs (Decidable (_ ∧ _))

/-- Label characters are ASCII, one byte each. -/
theorem utf8Size_of_isLabelChar {c : Char} (h : isLabelChar c = true) : c.utf8Size = 1 := by
  have ascii : c.val.toBitVec.toNat < 0x80 := by
    simp only [isLabelChar, isLabelAlnum, Char.isLower, Char.isDigit, Bool.or_eq_true,
      Bool.and_eq_true, decide_eq_true_eq, beq_iff_eq, UInt32.le_def, BitVec.le_def] at h
    rcases h with (h | h) | rfl
    · exact Nat.lt_of_le_of_lt h.2 (by decide)
    · exact Nat.lt_of_le_of_lt h.2 (by decide)
    · decide
  simp only [Char.utf8Size, UInt32.le_def, BitVec.le_def]
  rw [if_pos (by simpa using Nat.le_of_lt_succ ascii)]

/-- An ASCII letter or digit lowercases to a label letter or digit. -/
theorem isLabelAlnum_toLower {c : Char} (ascii : c.toNat < 0x80) (h : c.isAlphanum = true) :
    isLabelAlnum c.toLower = true := by
  have all : ∀ n < 0x80, (Char.ofNat n).isAlphanum → isLabelAlnum (Char.ofNat n).toLower := by
    decide
  simpa [Char.ofNat_toNat] using all c.toNat ascii (by rwa [Char.ofNat_toNat])

theorem any_head?_of_forall {p : Char → Bool} {s : List Char} (hne : s ≠ []) (h : ∀ c ∈ s, p c = true) :
    s.head?.any p = true := by
  obtain ⟨c, rest, rfl⟩ := List.exists_cons_of_ne_nil hne
  simpa using h c (by simp)

theorem any_getLast?_of_forall {p : Char → Bool} {s : List Char} (hne : s ≠ [])
    (h : ∀ c ∈ s, p c = true) : s.getLast?.any p = true := by
  rw [List.getLast?_eq_getLast s hne]
  simpa using h _ (List.getLast_mem hne)

/-! ## The UUID -/

/-- `uuid()`: `Uuid::from_u128(random).to_simple().to_string()`, the 32 lowercase hex
digits of the random `u128`, most significant first. -/
def uuid (random : BitVec 128) : List Char :=
  (List.range 32).reverse.map fun i => Nat.digitChar (random.toNat / 16 ^ i % 16)

theorem length_uuid (random : BitVec 128) : (uuid random).length = 32 := by
  simp [uuid]

theorem uuid_hex {random : BitVec 128} {c : Char} (h : c ∈ uuid random) :
    isLabelAlnum c = true ∧ c.utf8Size = 1 := by
  obtain ⟨i, -, rfl⟩ := List.mem_map.mp h
  have digit : ∀ k < 16, isLabelAlnum (Nat.digitChar k) = true ∧ (Nat.digitChar k).utf8Size = 1 := by
    decide
  exact digit _ (Nat.mod_lt _ (by decide))

theorem byteLength_uuid (random : BitVec 128) : byteLength (uuid random) = 32 := by
  rw [byteLength_of_ascii fun c hc => (uuid_hex hc).2, length_uuid]

/-! ## `rfc1035_label` -/

/-- `rfc1035_label()`: the UUID, its first digit replaced by `letter`, the draw of
`gen_range('a'..='z')`, when that digit is not alphabetic. On the UUID's ASCII digits
`char::is_alphabetic` is `Char.isAlpha`. -/
def rfc1035Label (random : BitVec 128) (letter : Char) : String :=
  let name := uuid random
  if !name.head?.any Char.isAlpha then ⟨letter :: name.tail⟩ else ⟨name⟩

/-- What the fuzz test's regex `^[a-z]([-a-z0-9]*[a-z0-9])?$` accepts: a lowercase letter
first, label characters only, and a letter or a digit last. -/
def IsRfc1035Label (s : List Char) : Prop :=
  s.head?.any Char.isLower ∧ s.all isLabelChar ∧ s.getLast?.any isLabelAlnum

instance (s : List Char) : Decidable (IsRfc1035Label s) :=
  inferInstanceAs (Decidable (_ ∧ _))

/-- The UUID's alphabetic digits are `a` to `f`. -/
theorem isLower_of_mem_uuid {random : BitVec 128} {c : Char} (h : c ∈ uuid random)
    (alphabetic : c.isAlpha = true) : c.isLower = true := by
  obtain ⟨i, -, rfl⟩ := List.mem_map.mp h
  have hex : ∀ k < 16, (Nat.digitChar k).isAlpha = true → (Nat.digitChar k).isLower = true := by
    decide
  exact hex _ (Nat.mod_lt _ (by decide)) alphabetic

/-- The label is the UUID, or the UUID with its first digit replaced by the letter drawn. -/
theorem rfc1035Label_cases (random : BitVec 128) (letter : Char) :
    ((uuid random).head?.any Char.isAlpha = false ∧
        (rfc1035Label random letter).data = letter :: (uuid random).tail) ∨
      ((uuid random).head?.any Char.isAlpha = true ∧ (rfc1035Label random letter).data = uuid random) := by
  unfold rfc1035Label
  cases alphabetic : (uuid random).head?.any Char.isAlpha <;> simp [alphabetic]

/-- Every character of the label is a lowercase letter or a digit, and the first a letter. -/
theorem rfc1035Label_chars (random : BitVec 128) {letter : Char} (drawn : 'a' ≤ letter ∧ letter ≤ 'z') :
    (rfc1035Label random letter).data.head?.any Char.isLower ∧
      ∀ c ∈ (rfc1035Label random letter).data, isLabelAlnum c = true := by
  obtain ⟨first, rest, split⟩ := List.exists_cons_of_ne_nil
    (List.ne_nil_of_length_eq_add_one (length_uuid random))
  have digits : ∀ c ∈ first :: rest, isLabelAlnum c = true := fun c hc => (uuid_hex (split ▸ hc)).1
  rcases rfc1035Label_cases random letter with ⟨-, replaced⟩ | ⟨alphabetic, kept⟩
  · have lower : letter.isLower = true := by
      simpa [Char.isLower, Char.le_def, UInt32.le_def] using drawn
    rw [replaced, split]
    exact ⟨by simpa using lower, by simpa [isLabelAlnum, lower] using fun c hc => digits c (.tail _ hc)⟩
  · rw [kept]
    refine ⟨?_, split ▸ digits⟩
    rw [split] at alphabetic ⊢
    simpa using isLower_of_mem_uuid (split ▸ List.mem_cons_self first rest) (by simpa using alphabetic)

/-- The label is an RFC 1035 label of 32 characters. -/
theorem rfc1035Label_isRfc1035Label (random : BitVec 128) {letter : Char} (drawn : 'a' ≤ letter ∧ letter ≤ 'z') :
    IsRfc1035Label (rfc1035Label random letter).data ∧ (rfc1035Label random letter).length = 32 := by
  obtain ⟨head, alnum⟩ := rfc1035Label_chars random drawn
  have length : (rfc1035Label random letter).data.length = 32 := by
    rcases rfc1035Label_cases random letter with ⟨-, e⟩ | ⟨-, e⟩ <;> rw [e] <;> simp [length_uuid]
  have nonempty : (rfc1035Label random letter).data ≠ [] := List.ne_nil_of_length_eq_add_one length
  exact ⟨⟨head, List.all_eq_true.mpr fun c hc => by simp [isLabelChar, alnum c hc],
    any_getLast?_of_forall nonempty alnum⟩, length⟩

/-- `rfc1035_label` always returns an RFC 1035 label of 32 characters, the UUID's last 31
digits after a letter: what the fuzz test samples 100000 times holds of every UUID and every
letter drawn. -/
theorem rfc1035Label_valid (random : BitVec 128) {letter : Char} (drawn : 'a' ≤ letter ∧ letter ≤ 'z') :
    IsRfc1035Label (rfc1035Label random letter).data ∧ (rfc1035Label random letter).length = 32 ∧
      (rfc1035Label random letter).data.tail = (uuid random).tail := by
  refine ⟨(rfc1035Label_isRfc1035Label random drawn).1, (rfc1035Label_isRfc1035Label random drawn).2, ?_⟩
  rcases rfc1035Label_cases random letter with ⟨-, e⟩ | ⟨-, e⟩ <;> simp [e]

theorem rfc1035Label_valid_of_zero : ('a' ≤ 'q' ∧ 'q' ≤ 'z') ∧
    IsRfc1035Label (rfc1035Label 0 'q').data ∧ (rfc1035Label 0 'q').length = 32 ∧
      (rfc1035Label 0 'q').data.tail = (uuid 0).tail :=
  ⟨by decide, rfc1035Label_valid 0 (by decide)⟩

/-! ## `rfc1123_subdomain` -/

/-- `DEFAULT_IF_INVALID_SUBDOMAIN`. -/
def defaultIfInvalidSubdomain : List Char :=
  "invalid-rfc1123-connector-name".data

/-- Steps 1 to 2b: the normalized prefix (the source's `prefix`). -/
def normalize (u : UnicodeData) (name : String) : List Char :=
  let kebab := toKebab u (name.data.map fun c => if u.isAlphanumeric c then c else ' ')
  if kebab.isEmpty then defaultIfInvalidSubdomain else kebab

/-- Step 3: cut the prefix and the UUID so that both fit 63 bytes with the `-`. -/
def fit (stem uuid : List Char) : Option (List Char × List Char) :=
  if byteLength uuid + byteLength stem + 1 ≤ 63 then
    some (stem, uuid)
  else if byteLength stem + 9 > 63 then do
    let stem ← truncate stem (63 - 9)
    let uuid ← truncate uuid 8
    pure (stem, uuid)
  else
    (truncate uuid (63 - 1 - byteLength stem)).map (stem, ·)

/-- `rfc1123_subdomain(prefix)` with the UUID drawn from `random`, in a debug build;
`none` is a panic. -/
def rfc1123Subdomain (u : UnicodeData) (random : BitVec 128) (name : String) : Option String := do
  let (stem, uuid) ← fit (normalize u name) (uuid random)
  if byteLength stem + byteLength uuid ≤ 63 ∧ 8 ≤ byteLength uuid then
    pure ⟨stem ++ '-' :: uuid⟩
  else none

/-- Whatever step 3 keeps fits: a prefix of the stem, and at least 8 digits of the UUID,
together at most 62 bytes. -/
theorem fit_eq_some {stem stem' v : List Char} {random : BitVec 128}
    (h : fit stem (uuid random) = some (stem', v)) :
    stem' <+: stem ∧ (stem' = stem ∨ byteLength stem' = 54) ∧ v <+: uuid random ∧ 8 ≤ v.length ∧
      byteLength stem' + byteLength v ≤ 62 ∧ byteLength v = v.length := by
  have ascii := fun c (hc : c ∈ uuid random) => (uuid_hex hc).2
  have kept_ascii : ∀ {v}, v <+: uuid random → byteLength v = v.length :=
    fun isPrefix => byteLength_of_ascii fun c hc => ascii c (isPrefix.subset hc)
  rw [fit, byteLength_uuid] at h
  split_ifs at h with whole long
  · cases h
    exact ⟨List.prefix_refl _, .inl rfl, List.prefix_refl _, by simp [length_uuid],
      by rw [byteLength_uuid]; omega, kept_ascii (List.prefix_refl _)⟩
  · simp only [truncate_of_ascii ascii, Option.bind_eq_bind, Option.some_bind, Option.pure_def,
      Option.bind_eq_some, Option.some.injEq, Prod.mk.injEq] at h
    obtain ⟨stem'', cut, rfl, rfl⟩ := h
    obtain ⟨isPrefix, length⟩ := truncate_eq_some cut
    have taken := kept_ascii (List.take_prefix 8 (uuid random))
    refine ⟨isPrefix, .inr (by omega), List.take_prefix _ _, by simp [length_uuid], ?_, taken⟩
    rw [taken, length, List.length_take, length_uuid]
    omega
  · simp only [truncate_of_ascii ascii, Option.map_some', Option.some.injEq, Prod.mk.injEq] at h
    obtain ⟨rfl, rfl⟩ := h
    have taken := kept_ascii (List.take_prefix (63 - 1 - byteLength stem) (uuid random))
    refine ⟨List.prefix_refl _, .inl rfl, List.take_prefix _ _, ?_, ?_, taken⟩ <;>
      simp only [taken, List.length_take, length_uuid] <;> omega

/-- The one panic is case 3b's `prefix.truncate(54)` cutting a character: the debug
assertions never fire. -/
theorem rfc1123Subdomain_eq_none_iff (u : UnicodeData) (random : BitVec 128) (name : String) :
    rfc1123Subdomain u random name = none ↔
      54 < byteLength (normalize u name) ∧ truncate (normalize u name) 54 = none := by
  have ascii := fun c (hc : c ∈ uuid random) => (uuid_hex hc).2
  constructor
  · intro panics
    cases fitted : fit (normalize u name) (uuid random) with
    | some kept =>
      obtain ⟨stem', v⟩ := kept
      obtain ⟨-, -, -, atLeast, total, bytes⟩ := fit_eq_some fitted
      simp [rfc1123Subdomain, fitted, bytes] at panics
      omega
    | none =>
      rw [fit, byteLength_uuid] at fitted
      split_ifs at fitted with whole long
      · refine ⟨by omega, ?_⟩
        cases cut : truncate (normalize u name) 54 with
        | none => rfl
        | some kept => simp [cut, truncate_of_ascii ascii] at fitted
      · simp [truncate_of_ascii ascii] at fitted
  · rintro ⟨long, cut⟩
    have : ¬byteLength (uuid random) + byteLength (normalize u name) + 1 ≤ 63 := by
      rw [byteLength_uuid]; omega
    simp [rfc1123Subdomain, fit, this, show byteLength (normalize u name) + 9 > 63 by omega, cut]

theorem normalize_ne_nil (u : UnicodeData) (name : String) : normalize u name ≠ [] := by
  unfold normalize
  dsimp only
  split_ifs with empty
  · decide
  · simpa [List.isEmpty_iff] using empty

/-- Every name returned fits 63 bytes: a nonempty piece of the normalized prefix, `-`, and
at least 8 digits of the UUID. -/
theorem rfc1123Subdomain_fits {u : UnicodeData} {random : BitVec 128} {name out : String}
    (h : rfc1123Subdomain u random name = some out) :
    byteLength out.data ≤ 63 ∧
      ∃ stem v, out.data = stem ++ '-' :: v ∧ stem ≠ [] ∧ stem <+: normalize u name ∧
        v <+: uuid random ∧ 8 ≤ v.length := by
  obtain ⟨⟨stem, v⟩, fitted, returned⟩ := Option.bind_eq_some.mp h
  obtain ⟨isPrefix, kept, uuidPrefix, atLeast, total, bytes⟩ := fit_eq_some fitted
  dsimp only at returned
  rw [if_pos (by omega)] at returned
  cases returned
  have nonempty : stem ≠ [] := by
    rcases kept with rfl | bytes54
    · exact normalize_ne_nil u name
    · rintro rfl
      simp at bytes54
  exact ⟨by simp [show '-'.utf8Size = 1 from rfl]; omega, stem, v, rfl, nonempty, isPrefix,
    uuidPrefix, atLeast⟩

/-- The source's case 3c test: a 36-byte prefix keeps 26 digits of the UUID. -/
example : rfc1123Subdomain UnicodeData.latin1 0 "super cool connector v1.2.123456789" =
    some ⟨"super-cool-connector-v-1-2-123456789-".data ++ List.replicate 26 '0'⟩ := by
  decide

/-! ## What convert_case makes of a text -/

theorem mem_splitOnP_go {P : Char → Bool} {Q : Char → Prop} (s : List Char) :
    ∀ acc : List Char, (∀ c ∈ acc, Q c) → (∀ c ∈ s, P c = false → Q c) →
      ∀ p ∈ List.splitOnP.go P s acc, ∀ c ∈ p, Q c := by
  induction s with
  | nil =>
    intro acc inAcc _ p hp c hc
    simp only [List.splitOnP.go, List.mem_singleton] at hp
    exact inAcc c (List.mem_reverse.mp (hp ▸ hc))
  | cons a t ih =>
    intro acc inAcc inText p hp
    cases separator : P a
    · simp only [List.splitOnP.go, separator] at hp
      exact ih (a :: acc) (List.forall_mem_cons.mpr ⟨inText a (List.mem_cons_self a t) separator, inAcc⟩)
        (fun c hc => inText c (List.mem_cons_of_mem a hc)) p hp
    · simp only [List.splitOnP.go, separator, if_true, List.mem_cons] at hp
      rcases hp with rfl | hp
      · exact fun c hc => inAcc c (List.mem_reverse.mp hc)
      · exact ih [] (by simp) (fun c hc => inText c (List.mem_cons_of_mem a hc)) p hp

/-- A piece of `split` holds characters of the text and no separator. -/
theorem mem_of_mem_splitOnP {P : Char → Bool} {s p : List Char} (h : p ∈ s.splitOnP P) :
    ∀ c ∈ p, c ∈ s ∧ P c = false :=
  mem_splitOnP_go s [] (by simp) (fun c hc separator => ⟨hc, separator⟩) p h

theorem mem_splitAtBoundaries_go {u : UnicodeData} (rest : List Char) :
    ∀ (c : Char) (word : List Char), word ≠ [] →
      ∀ w ∈ splitAtBoundaries.go u c rest word, w ≠ [] ∧ ∀ x ∈ w, x ∈ word ∨ x ∈ rest := by
  induction rest with
  | nil =>
    intro c word nonempty w hw
    simp only [splitAtBoundaries.go, List.mem_singleton] at hw
    subst hw
    exact ⟨by simpa using nonempty, fun x hx => .inl (List.mem_reverse.mp hx)⟩
  | cons d rest ih =>
    intro c word nonempty w hw
    simp only [splitAtBoundaries.go] at hw
    split at hw
    · rcases List.mem_cons.mp hw with rfl | hw
      · exact ⟨by simpa using nonempty, fun x hx => .inl (List.mem_reverse.mp hx)⟩
      · obtain ⟨nonempty', mem⟩ := ih d [d] (by simp) w hw
        refine ⟨nonempty', fun x hx => .inr ?_⟩
        simpa [or_comm] using mem x hx
    · obtain ⟨nonempty', mem⟩ := ih d (d :: word) (by simp) w hw
      refine ⟨nonempty', fun x hx => ?_⟩
      have := mem x hx
      simp only [List.mem_cons] at this ⊢
      tauto

/-- Every word is a nonempty run of the text's characters, none of them a delimiter. -/
theorem mem_words {u : UnicodeData} {s w : List Char} (h : w ∈ words u s) :
    w ≠ [] ∧ ∀ c ∈ w, c ∈ s ∧ isDelimiter c = false := by
  simp only [words, List.mem_filter, List.mem_flatMap] at h
  obtain ⟨⟨p, piece, hw⟩, -⟩ := h
  cases p with
  | nil => cases hw
  | cons c rest =>
    obtain ⟨nonempty, mem⟩ := mem_splitAtBoundaries_go rest c [c] (by simp) w hw
    refine ⟨nonempty, fun x hx => mem_of_mem_splitOnP piece x ?_⟩
    simpa using mem x hx

/-- Joining nonempty words of label letters and digits with `-` gives label characters,
beginning with a letter or a digit. -/
theorem joinWith_label {ws : List (List Char)} (hne : ws ≠ [])
    (h : ∀ w ∈ ws, w ≠ [] ∧ ∀ c ∈ w, isLabelAlnum c = true) :
    (∀ c ∈ joinWith '-' ws, isLabelChar c = true) ∧ (joinWith '-' ws).head?.any isLabelAlnum := by
  induction ws with
  | nil => contradiction
  | cons w ws ih =>
    obtain ⟨nonempty, labels⟩ := h w (by simp)
    have chars : ∀ c ∈ w, isLabelChar c = true := fun c hc => by simp [isLabelChar, labels c hc]
    cases ws with
    | nil => exact ⟨chars, any_head?_of_forall nonempty labels⟩
    | cons w' ws =>
      obtain ⟨restChars, -⟩ := ih (by simp) fun x hx => h x (List.mem_cons_of_mem w hx)
      refine ⟨fun c hc => ?_, ?_⟩
      · simp only [joinWith, List.mem_append, List.mem_cons] at hc
        rcases hc with hc | rfl | hc
        exacts [chars c hc, rfl, restChars c hc]
      · obtain ⟨a, w₀, rfl⟩ := List.exists_cons_of_ne_nil nonempty
        simpa [joinWith] using labels a (by simp)

theorem flatMap_toLowercase_of_ascii {u : UnicodeData} {s : List Char}
    (h : ∀ c ∈ s, c.toNat < 0x80) : s.flatMap u.toLowercase = s.map Char.toLower := by
  induction s with
  | nil => rfl
  | cons c rest ih =>
    simp [u.toLowercase_ascii (h c (by simp)), ih fun d hd => h d (List.mem_cons_of_mem c hd)]

/-- The kebab of ASCII letters, digits and spaces is empty, or label characters beginning
with a letter or a digit. -/
theorem toKebab_of_ascii {u : UnicodeData} {s : List Char}
    (h : ∀ c ∈ s, c.toNat < 0x80 ∧ (c.isAlphanum = true ∨ c = ' ')) :
    toKebab u s = [] ∨
      (∀ c ∈ toKebab u s, isLabelChar c = true) ∧ (toKebab u s).head?.any isLabelAlnum := by
  unfold toKebab
  by_cases empty : words u s = []
  · exact .inl (by simp [empty, joinWith])
  · refine .inr (joinWith_label (by simpa using empty) fun w' hw' => ?_)
    obtain ⟨w, hw, rfl⟩ := List.mem_map.mp hw'
    obtain ⟨nonempty, mem⟩ := mem_words hw
    rw [flatMap_toLowercase_of_ascii fun c hc => (h c (mem c hc).1).1]
    refine ⟨by simpa using nonempty, fun c hc => ?_⟩
    obtain ⟨d, hd, rfl⟩ := List.mem_map.mp hc
    obtain ⟨inText, notDelimiter⟩ := mem d hd
    obtain ⟨ascii, alnum | rfl⟩ := h d inText
    · exact isLabelAlnum_toLower ascii alnum
    · simp [isDelimiter] at notDelimiter

/-- An ASCII name normalizes to label characters beginning with a letter or a digit. -/
theorem normalize_of_ascii (u : UnicodeData) {name : String} (ascii : ∀ c ∈ name.data, c.toNat < 0x80) :
    (∀ c ∈ normalize u name, isLabelChar c = true) ∧ (normalize u name).head?.any isLabelAlnum := by
  have filtered : ∀ c ∈ name.data.map (fun c => if u.isAlphanumeric c then c else ' '),
      c.toNat < 0x80 ∧ (c.isAlphanum = true ∨ c = ' ') := by
    intro c hc
    obtain ⟨d, hd, rfl⟩ := List.mem_map.mp hc
    by_cases alnum : u.isAlphanumeric d = true
    · rw [if_pos alnum]
      exact ⟨ascii d hd, .inl (by rwa [u.isAlphanumeric_ascii (ascii d hd)] at alnum)⟩
    · rw [if_neg alnum]
      exact ⟨by decide, .inr rfl⟩
  unfold normalize
  dsimp only
  split_ifs with empty
  · decide
  · rcases @toKebab_of_ascii u _ filtered with kebab | kebab
    · simp [kebab] at empty
    · exact kebab

/-- A lowercase word of letters is its own kebab. -/
theorem splitAtBoundaries_go_of_lowercase {u : UnicodeData} (rest : List Char) :
    ∀ (c : Char) (word : List Char), u.isLowercase c = true ∧ c.isDigit = false →
      (∀ d ∈ rest, u.isLowercase d = true ∧ d.isDigit = false) →
      splitAtBoundaries.go u c rest word = [word.reverse ++ rest] := by
  induction rest with
  | nil => intro c word _ _; simp [splitAtBoundaries.go]
  | cons d rest ih =>
    intro c word hc letters
    have hd := letters d (by simp)
    have noBoundary : isBoundary u c d rest.head? = false := by
      simp [isBoundary, hc.1, hc.2, hd.1, hd.2, u.isUppercase_eq_false_of_isLowercase hc.1,
        u.isUppercase_eq_false_of_isLowercase hd.1]
    rw [splitAtBoundaries.go, if_neg (by simp [noBoundary]),
      ih d (d :: word) hd fun x hx => letters x (List.mem_cons_of_mem d hx)]
    simp

theorem toKebab_of_lowercase_word {u : UnicodeData} {s : List Char} (hne : s ≠ [])
    (h : ∀ c ∈ s, u.isLowercase c = true ∧ c.isDigit = false ∧ isDelimiter c = false) :
    toKebab u s = s := by
  obtain ⟨c, rest, rfl⟩ := List.exists_cons_of_ne_nil hne
  have pieces : (c :: rest).splitOnP isDelimiter = [c :: rest] :=
    List.splitOnP_eq_single _ _ fun x hx => by simp [(h x hx).2.2]
  have oneWord : splitAtBoundaries u (c :: rest) = [c :: rest] := by
    simpa using splitAtBoundaries_go_of_lowercase rest c [c] ⟨(h c (by simp)).1, (h c (by simp)).2.1⟩
      fun d hd => ⟨(h d (by simp [hd])).1, (h d (by simp [hd])).2.1⟩
  have lower : ∀ s : List Char, (∀ c ∈ s, u.isLowercase c = true) → s.flatMap u.toLowercase = s := by
    intro s letters
    induction s with
    | nil => rfl
    | cons c rest ih =>
      simp [u.toLowercase_of_isLowercase (letters c (by simp)),
        ih fun d hd => letters d (List.mem_cons_of_mem c hd)]
  simp [toKebab, words, pieces, oneWord, lower _ fun x hx => (h x hx).1, joinWith]

theorem normalize_of_lowercase_word {u : UnicodeData} {s : List Char} (hne : s ≠ [])
    (h : ∀ c ∈ s, u.isAlphanumeric c = true ∧ u.isLowercase c = true ∧ c.isDigit = false ∧
      isDelimiter c = false) :
    normalize u ⟨s⟩ = s := by
  have kept : s.map (fun c => if u.isAlphanumeric c then c else ' ') = s :=
    (List.map_congr_left fun c hc => if_pos (h c hc).1).trans (List.map_id _)
  have kebab := toKebab_of_lowercase_word hne fun c hc => (h c hc).2
  simp [normalize, kept, kebab, List.isEmpty_iff, hne]

theorem UnicodeData.isLowercase_latin1 (u : UnicodeData) {c : Char} (h : c.toNat < 0x100) :
    u.isLowercase c = latin1.isLowercase c := by
  simp only [isLowercase, u.toLowercase_latin1 c h, u.toUppercase_latin1 c h]
  rfl

/-! ## Names of non-ASCII letters -/

/-- Two lowercase names with one Latin-1 letter: 53 ASCII letters and an `é` make a 55-byte
prefix whose `truncate(54)` in case 3b cuts the `é` and panics, and `é` alone comes back
in the pod name. -/
theorem rfc1123Subdomain_mishandles_non_ascii (u : UnicodeData) (random : BitVec 128) :
    rfc1123Subdomain u random ⟨List.replicate 53 'a' ++ ['é']⟩ = none ∧
      rfc1123Subdomain u random "é" = some ⟨'é' :: '-' :: uuid random⟩ := by
  have word : ∀ c ∈ List.replicate 53 'a' ++ ['é'], u.isAlphanumeric c = true ∧
      u.isLowercase c = true ∧ c.isDigit = false ∧ isDelimiter c = false := by
    intro c hc
    have letter : c = 'a' ∨ c = 'é' := by simpa [List.mem_replicate] using hc
    have latin : c.toNat < 0x100 := by rcases letter with rfl | rfl <;> decide
    rw [u.isAlphanumeric_latin1 c latin, u.isLowercase_latin1 latin]
    rcases letter with rfl | rfl <;> decide
  have long := normalize_of_lowercase_word (by simp) word
  have single := @normalize_of_lowercase_word u ['é'] (by simp) fun c hc => word c (by simp_all)
  refine ⟨(rfc1123Subdomain_eq_none_iff u random _).mpr ⟨by rw [long]; decide, by rw [long]; decide⟩, ?_⟩
  have fits : byteLength (uuid random) + byteLength ['é'] + 1 ≤ 63 := by
    rw [byteLength_uuid]; decide
  simp only [rfc1123Subdomain, show normalize u "é" = ['é'] from single, fit, if_pos fits,
    Option.bind_eq_bind, Option.some_bind]
  rw [if_pos (by rw [byteLength_uuid]; decide)]
  rfl

/-- On ASCII names the function never panics and always returns a valid RFC 1123 label
ending with `-` and at least 8 digits of the UUID. -/
theorem rfc1123Subdomain_valid_of_ascii (u : UnicodeData) (random : BitVec 128) (name : String)
    (ascii : ∀ c ∈ name.data, c.toNat < 0x80) :
    ∃ out, rfc1123Subdomain u random name = some out ∧ IsRfc1123Label out.data ∧
      ∃ stem v, out.data = stem ++ '-' :: v ∧ v <+: uuid random ∧ 8 ≤ v.length := by
  obtain ⟨labels, head⟩ := normalize_of_ascii u ascii
  cases returned : rfc1123Subdomain u random name with
  | none =>
    obtain ⟨-, cut⟩ := (rfc1123Subdomain_eq_none_iff u random name).mp returned
    simp [truncate_of_ascii fun c hc => utf8Size_of_isLabelChar (labels c hc)] at cut
  | some out =>
    obtain ⟨bytes, stem, v, data, nonempty, isPrefix, uuidPrefix, atLeast⟩ :=
      rfc1123Subdomain_fits returned
    have digits : ∀ c ∈ v, isLabelAlnum c = true := fun c hc => (uuid_hex (uuidPrefix.subset hc)).1
    have vNonempty : v ≠ [] := fun e => by simp [e] at atLeast
    refine ⟨out, rfl, ⟨bytes, ?_, ?_, ?_⟩, stem, v, data, uuidPrefix, atLeast⟩ <;> rw [data]
    · simp only [List.all_append, List.all_cons, Bool.and_eq_true, List.all_eq_true]
      exact ⟨fun c hc => labels c (isPrefix.subset hc), rfl,
        fun c hc => by simp [isLabelChar, digits c hc]⟩
    · obtain ⟨a, stem₀, rfl⟩ := List.exists_cons_of_ne_nil nonempty
      obtain ⟨rest, normalized⟩ := isPrefix
      simpa [← normalized] using head
    · rw [List.getLast?_append_cons]
      obtain ⟨a, v₀, rfl⟩ := List.exists_cons_of_ne_nil vNonempty
      rw [List.getLast?_cons_cons]
      exact any_getLast?_of_forall vNonempty digits


theorem rfc1123Subdomain_valid_of_ascii_on_test_name :
    ∃ out, rfc1123Subdomain UnicodeData.latin1 0 "super cool connector v1.2" = some out ∧
      IsRfc1123Label out.data ∧
      ∃ stem v, out.data = stem ++ '-' :: v ∧ v <+: uuid 0 ∧ 8 ≤ v.length :=
  rfc1123Subdomain_valid_of_ascii UnicodeData.latin1 0 "super cool connector v1.2" (by decide)

end Names

end ConnectorManager
