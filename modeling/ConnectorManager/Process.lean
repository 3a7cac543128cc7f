import Mathlib.Data.List.DropRight

namespace ConnectorManager

/-!
# Running a command: `os::process::exec`

Every `ctr` and `aws` command of the image manager goes through the `cmd!`
macro and `os::process::exec` (`library/os/src/process.rs`). The macro passes
each argument to the child as its raw text (`AsRef<OsStr>`) and writes it into
the command's debug string with its `Display`; `exec` spawns the child, waits
for it, and classifies what came back:

* a failed spawn is `FailedToSpawn`, a failed wait `FailedToRun`;
* a non-zero exit is `CommandFailed` with the standard error, or
  `InvalidUTF8Stderr` when that is not UTF-8;
* a zero exit gives the standard output with `trim_end()`, or `InvalidUTF8`
  when it is not UTF-8.

What the operating system reports is the input here (`ChildOutcome`), the bytes
being given as `String::from_utf8` reads them. The `trimEnd` lemmas say what the
trimmed output looks like, for the readers of `ctr`'s output.
-/

/-! ## The `cmd!` macro -/

/-- One argument of `cmd!`: what the child receives, and what the debug string shows. -/
structure Arg where
  raw : String
  display : String
  deriving Repr, DecidableEq

/-- A `String`, a `Namespace` or a `TmpImage`: shown as it is passed. -/
def Arg.plain (s : String) : Arg := ⟨s, s⟩

/-- `env::Secret`: passed as it is, displayed as `<REDACTED>`. -/
def Arg.secret (s : String) : Arg := ⟨s, "<REDACTED>"⟩

/-- A command line built by `cmd!(program, args..)`. -/
structure Command where
  program : String
  args : List Arg
  deriving Repr, DecidableEq

namespace Command

/-- What the child is started with: `Command::new(program)` and one `arg` per argument. -/
def argv (c : Command) : List String :=
  c.program :: c.args.map Arg.raw

/-- The macro's `debug_string`: the program and the arguments' `Display`s joined by blanks. -/
def debugString (c : Command) : String :=
  " ".intercalate (c.program :: c.args.map Arg.display)

end Command

/-! ## `exec` -/

/-- What `String::from_utf8` makes of the bytes a child wrote: the text, or, for bytes that are
not UTF-8, `String::from_utf8_lossy`'s reading of them. -/
inductive Decoded where
  | utf8 (text : String)
  | notUtf8 (lossy : String)
  deriving Repr, DecidableEq

/-- What the operating system reports for one child. -/
inductive ChildOutcome where
  /-- `cmd.spawn()` failed. -/
  | spawnFailed
  /-- `child.wait_with_output()` failed. -/
  | waitFailed
  /-- The child exited: `output.status.success()`, its standard output and error. -/
  | exited (success : Bool) (stdout stderr : Decoded)
  deriving Repr, DecidableEq

/-- The errors of `exec`, each with the debug string of the command; the `std::io::Error` and
`FromUtf8Error` sources are left out. -/
inductive ExecError where
  | failedToSpawn (command : String)
  | failedToRun (command : String)
  | invalidUTF8Stderr (command output : String)
  | commandFailed (command stderr : String)
  | invalidUTF8 (command output : String)
  deriving Repr, DecidableEq

/-- `char::is_whitespace`: the Unicode `White_Space` property. -/
def isWhitespace (c : Char) : Bool :=
  let n := c.toNat
  (0x9 ≤ n && n ≤ 0xD) || n == 0x20 || n == 0x85 || n == 0xA0 || n == 0x1680 ||
    (0x2000 ≤ n && n ≤ 0x200A) || n == 0x2028 || n == 0x2029 || n == 0x202F ||
    n == 0x205F || n == 0x3000

/-- `str::trim_end`: the text without its trailing whitespace. -/
def trimEnd (s : String) : String :=
  ⟨s.data.rdropWhile isWhitespace⟩

/-- `os::process::exec(None, cmd, debug_string)`, the child having reported `outcome`. -/
def exec (debugString : String) (outcome : ChildOutcome) : Except ExecError String :=
  match outcome with
  | .spawnFailed => throw (.failedToSpawn debugString)
  | .waitFailed => throw (.failedToRun debugString)
  | .exited success stdout stderr =>
    if !success then
      match stderr with
      | .notUtf8 lossy => throw (.invalidUTF8Stderr debugString lossy)
      | .utf8 stderr => throw (.commandFailed debugString stderr)
    else
      match stdout with
      | .notUtf8 lossy => throw (.invalidUTF8 debugString lossy)
      | .utf8 stdout => pure (trimEnd stdout)

/-! ## `trim_end` -/

/-- The trimmed text is the text up to a tail of whitespace. -/
theorem trimEnd_append (s : String) :
    ∃ tail, s.data = (trimEnd s).data ++ tail ∧ ∀ c ∈ tail, isWhitespace c = true := by
  refine ⟨(s.data.reverse.takeWhile isWhitespace).reverse, ?_, fun c member => ?_⟩
  · show s.data = (s.data.reverse.dropWhile isWhitespace).reverse ++ _
    rw [← List.reverse_append, List.takeWhile_append_dropWhile, List.reverse_reverse]
  · exact List.mem_takeWhile_imp (List.mem_reverse.mp member)

/-- The trimmed text does not end in whitespace. -/
theorem trimEnd_getLast? {s : String} {c : Char} (last : (trimEnd s).data.getLast? = some c) :
    isWhitespace c = false := by
  have nonempty : (trimEnd s).data ≠ [] := fun e => by simp [e] at last
  rw [List.getLast?_eq_getLast _ nonempty, Option.some.injEq] at last
  simpa [← last] using List.rdropWhile_last_not isWhitespace s.data nonempty

/-- Whitespace after a text is what `trim_end` removes. -/
theorem trimEnd_append_whitespace (s : String) {tail : List Char}
    (whitespace : ∀ c ∈ tail, isWhitespace c = true) :
    trimEnd ⟨s.data ++ tail⟩ = trimEnd s := by
  induction tail using List.reverseRecOn with
  | nil => simp
  | append_singleton front last inductionHypothesis =>
    have lastWhite : isWhitespace last = true := whitespace last (by simp)
    have shorter := inductionHypothesis fun c member => whitespace c (by simp [member])
    simp only [trimEnd] at shorter ⊢
    rw [← List.append_assoc, List.rdropWhile_concat_pos _ _ _ lastWhite]
    exact shorter

/-- A text that does not end in whitespace is left as it is. -/
theorem trimEnd_of_getLast? {s : String} {c : Char} (last : s.data.getLast? = some c)
    (kept : isWhitespace c = false) : trimEnd s = s := by
  obtain ⟨front, split⟩ : ∃ front, s.data = front ++ [c] := by
    obtain ⟨front, d, split⟩ := List.eq_nil_or_concat s.data |>.resolve_left fun e => by simp [e] at last
    rw [List.concat_eq_append] at split
    obtain rfl : d = c := by simpa [split] using last
    exact ⟨front, split⟩
  show (⟨_⟩ : String) = ⟨s.data⟩
  rw [split, List.rdropWhile_concat_neg _ _ _ (by simp [kept])]

/-- After a text that ends in a non-blank, `trim_end` trims only what follows. -/
theorem trimEnd_append_of_getLast? {a : String} {c : Char} (last : a.data.getLast? = some c)
    (kept : isWhitespace c = false) (b : String) : trimEnd (a ++ b) = a ++ trimEnd b := by
  obtain ⟨tail, split, whitespace⟩ := trimEnd_append b
  have whole : a ++ b = ⟨(a ++ trimEnd b).data ++ tail⟩ := String.ext (by simp [split])
  rw [whole, trimEnd_append_whitespace _ whitespace]
  cases trimmedLast : (trimEnd b).data.getLast? with
  | none => exact trimEnd_of_getLast? (by simp [trimmedLast, last]) kept
  | some d => exact trimEnd_of_getLast? (by simp [trimmedLast]) (trimEnd_getLast? trimmedLast)

end ConnectorManager
