import FreerdpPrebuilt.Build.Sha256
import FreerdpPrebuilt.Lib.Text

/-!
# The MANIFEST beside the archives

A release carries a MANIFEST: a hash for each archive in `lib/`, and the order in
which they are linked.  The build script checks the hashes and then links what the
order names.  The two are different lines, read by different rules.

* `verifyLibraries` passes over every line that it cannot read as a hash; it is
  content if one is left.
* `linkOrder` falls back to five names if there is no order.

`verified_of_mem` is what the check is worth: every line it can read is right.
`linked_are_hashed_iff` is what that means for an archive that is linked: it has
been hashed if and only if a line still names it.
-/

namespace FreerdpPrebuilt
namespace Build

open Text

/-! ## The build script -/

/-- The prefix of an archive set. -/
structure Prefix where
  /-- `read_to_string` of the MANIFEST. -/
  manifest : Option (List Char)
  /-- `read` of a name below `lib/`. -/
  read : List Char → Option Bytes
  provenance : List Char

structure Manifest where
  text : Option (List Char)
  deriving DecidableEq

/-- What to link when no MANIFEST says it. -/
def FALLBACK_LINK_ORDER : List (List Char) :=
  ["freerdp-client3".toList, "freerdp3".toList, "winpr3".toList, "ssl".toList, "crypto".toList]

/-- `Manifest::get`: the rest of the first line with this key. -/
def Manifest.get (m : Manifest) (key : List Char) : Option (List Char) :=
  m.text.bind fun text => ((lines text).findSome? (stripPrefix (key ++ [' ']))).map trim

/-- `Manifest::link_order`; `none` where a word of the line is no `-l` flag, and it
panics. -/
def Manifest.linkOrder (m : Manifest) : Option (List (List Char)) :=
  match m.get "link_order".toList with
  | some line => (splitWhitespace line).mapM (stripPrefix "-l".toList)
  | none => some FALLBACK_LINK_ORDER

/-- What stands before the name of an archive in its line. -/
def hashStart : List Char := "sha256(lib/".toList

/-- What stands between its name and its hash. -/
def hashEnd : List Char := ") ".toList

/-- The name and the hash of a line, if it is one of an archive. -/
def hashOfLine (line : List Char) : Option (List Char × List Char) :=
  (stripPrefix hashStart line).bind (splitOnce hashEnd)

/-- The loop of `verify_libraries`: how many archives it has checked; `none` where one
cannot be read or is not what the line says, and it panics. -/
def verifyLines (read : List Char → Option Bytes) : List (List Char) → ℕ → Option ℕ
  | [], checked => some checked
  | line :: rest, checked =>
    match hashOfLine line with
    | none => verifyLines read rest checked
    | some (name, hash) =>
      match read name with
      | none => none
      | some bytes =>
        if sha256Hex bytes = some (trim hash) then verifyLines read rest (checked + 1) else none

/-- `verify_libraries`; `none` where it panics. -/
def verifyLibraries (p : Prefix) : Option Manifest :=
  match p.manifest with
  | none => if p.provenance = "FREERDP_PREBUILT_DIR".toList then some ⟨none⟩ else none
  | some text =>
    match verifyLines p.read (lines text) 0 with
    | none => none
    | some checked => if 0 < checked then some ⟨some text⟩ else none

/-! ## What is claimed -/

/-- The file of a linked archive. -/
def archive (windows : Bool) (name : List Char) : List Char :=
  if windows then name ++ ".lib".toList else "lib".toList ++ name ++ ".a".toList

/-- How the line of an archive begins. -/
def lineOf (file : List Char) : List Char := hashStart ++ (file ++ hashEnd)

/-- A line of the MANIFEST names the file. -/
def Listed (text file : List Char) : Prop := ∃ hash, lineOf file ++ hash ∈ lines text

/-- The file is there, a line of the MANIFEST names it, and its hash is the one on
that line. -/
def Hashed (p : Prefix) (text file : List Char) : Prop :=
  ∃ hash bytes, lineOf file ++ hash ∈ lines text ∧ p.read file = some bytes ∧
    sha256Hex bytes = some (trim hash)

/-! ## The two readings -/

instance (text file : List Char) : Decidable (Listed text file) :=
  decidable_of_iff (∃ line ∈ lines text, (stripPrefix (lineOf file) line).isSome = true) <| by
    constructor
    · rintro ⟨line, hmem, hsome⟩
      obtain ⟨hash, hhash⟩ := Option.isSome_iff_exists.1 hsome
      rw [stripPrefix_eq_some.1 hhash] at hmem
      exact ⟨hash, hmem⟩
    · rintro ⟨hash, hmem⟩
      exact ⟨_, hmem, by rw [stripPrefix_append]; rfl⟩

/-- **What the check is worth**: every line it can read names a file with that hash. -/
theorem verified_of_mem {read : List Char → Option Bytes} {text : List (List Char)}
    {checked n : ℕ} (h : verifyLines read text checked = some n) {line name hash : List Char}
    (hmem : line ∈ text) (hline : hashOfLine line = some (name, hash)) :
    ∃ bytes, read name = some bytes ∧ sha256Hex bytes = some (trim hash) := by
  induction text generalizing checked with
  | nil => exact absurd hmem List.not_mem_nil
  | cons first text ih =>
    rw [verifyLines] at h
    rcases List.mem_cons.1 hmem with rfl | hmem
    · rw [hline] at h
      simp only at h
      split at h
      · cases h
      · rename_i bytes hread
        split_ifs at h with hsame
        exact ⟨bytes, hread, hsame⟩
    · split at h
      · exact ih h hmem
      · split at h
        · cases h
        · split_ifs at h
          exact ih h hmem

/-- The line of a file whose name holds no blank is read as that file's. -/
theorem hashOfLine_lineOf {file : List Char} (hblank : ' ' ∉ file) (hash : List Char) :
    hashOfLine (lineOf file ++ hash) = some (file, hash) := by
  have hseparator : hashEnd = [')'] ++ [' '] := by decide
  have hinit : ' ' ∉ [')'] := by decide
  rw [hashOfLine, lineOf, List.append_assoc, List.append_assoc, stripPrefix_append,
    Option.bind_some, hseparator]
  exact splitOnce_of_not_mem hblank hinit hash

/-- A name in the link order was a word of the line. -/
theorem exists_word_of_mem {words names : List (List Char)} {start name : List Char}
    (h : words.mapM (stripPrefix start) = some names) (hmem : name ∈ names) :
    ∃ word ∈ words, word = start ++ name := by
  induction words generalizing names with
  | nil =>
    rw [List.mapM_nil] at h
    rw [← Option.some.inj h] at hmem
    exact absurd hmem List.not_mem_nil
  | cons word words ih =>
    rw [List.mapM_cons] at h
    simp only [Option.bind_eq_bind, Option.bind_eq_some_iff, Option.pure_def] at h
    obtain ⟨first, hfirst, rest, hrest, hnames⟩ := h
    rw [← Option.some.inj hnames] at hmem
    rcases List.mem_cons.1 hmem with rfl | hmem
    · exact ⟨word, List.mem_cons_self, stripPrefix_eq_some.1 hfirst⟩
    · obtain ⟨word', hword, heq⟩ := ih hrest hmem
      exact ⟨word', List.mem_cons_of_mem _ hword, heq⟩

/-- The names in the link order hold no blank. -/
theorem blank_not_mem {m : Manifest} {names : List (List Char)} (h : m.linkOrder = some names)
    {name : List Char} (hmem : name ∈ names) : ' ' ∉ name := by
  unfold Manifest.linkOrder at h
  split at h
  · rename_i line hline
    obtain ⟨word, hword, rfl⟩ := exists_word_of_mem h hmem
    intro hblank
    have hword := isWhitespace_of_mem_splitWhitespace hword ' '
      (List.mem_append_right _ hblank)
    exact absurd hword (by decide)
  · have hfallback : ∀ name ∈ FALLBACK_LINK_ORDER, ' ' ∉ name := by decide
    rw [← Option.some.inj h] at hmem
    exact hfallback name hmem

theorem blank_not_mem_archive {name : List Char} (h : ' ' ∉ name) (windows : Bool) :
    ' ' ∉ archive windows name := by
  have hlib : ' ' ∉ ".lib".toList := by decide
  have hstart : ' ' ∉ "lib".toList := by decide
  have hend : ' ' ∉ ".a".toList := by decide
  cases windows with
  | true =>
    intro hmem
    exact (List.mem_append.1 hmem).elim h hlib
  | false =>
    intro hmem
    rcases List.mem_append.1 hmem with hmem | hmem
    · exact (List.mem_append.1 hmem).elim hstart h
    · exact hend hmem

/-! ## The promise -/

/-- **When what is linked has been hashed.**  For every MANIFEST and every set of
files: if the check accepts and there is an order to link, then every archive
linked is there and has the hash on a line that names it, if and only if every one
is still named by a line. -/
theorem linked_are_hashed_iff {p : Prefix} {text : List Char} (htext : p.manifest = some text)
    {manifest : Manifest} (haccept : verifyLibraries p = some manifest)
    {names : List (List Char)} (hnames : manifest.linkOrder = some names) (windows : Bool) :
    (∀ name ∈ names, Hashed p text (archive windows name)) ↔
      ∀ name ∈ names, Listed text (archive windows name) := by
  constructor
  · intro hhashed name hmem
    obtain ⟨hash, -, hline, -⟩ := hhashed name hmem
    exact ⟨hash, hline⟩
  · intro hlisted name hmem
    obtain ⟨hash, hline⟩ := hlisted name hmem
    have hblank := blank_not_mem_archive (blank_not_mem hnames hmem) windows
    rw [verifyLibraries, htext] at haccept
    simp only at haccept
    split at haccept
    · cases haccept
    · rename_i checked hchecked
      obtain ⟨bytes, hread, hsame⟩ :=
        verified_of_mem hchecked hline (hashOfLine_lineOf hblank hash)
      exact ⟨hash, bytes, hline, hread, hsame⟩

/-- The hash of an empty file. -/
def emptyHash : List Char :=
  "e3b0c44298fc1c149afbf4c8996fb92427ae41e4649b934ca495991b7852b855".toList

/-- A prefix with an empty archive of OpenSSL's `crypto` and a damaged `ssl`. -/
def damaged (manifest : List Char) : Prefix where
  manifest := some manifest
  read name :=
    if name = "libcrypto.a".toList then some []
    else if name = "libssl.a".toList then some [0xFF]
    else none
  provenance := "prebuilt/linux-x86_64".toList

/-- A MANIFEST that links what it lists. -/
def intactText : List Char :=
  "sha256(lib/libcrypto.a) ".toList ++ emptyHash ++ "\nlink_order -lcrypto\n".toList

theorem linked_are_hashed_intact :
    verifyLibraries (damaged intactText) = some ⟨some intactText⟩ ∧
      ∀ name ∈ ["crypto".toList],
        Hashed (damaged intactText) intactText (archive false name) := by
  have haccept : verifyLibraries (damaged intactText) = some ⟨some intactText⟩ := by
    decide +kernel
  have hnames : Manifest.linkOrder ⟨some intactText⟩ = some ["crypto".toList] := by decide +kernel
  exact ⟨haccept, (linked_are_hashed_iff rfl haccept hnames false).2 (by decide +kernel)⟩

/-- A MANIFEST whose second hash line has lost its blank. -/
def mangledText : List Char :=
  "sha256(lib/libcrypto.a) ".toList ++ emptyHash ++ "\nsha256(lib/libssl.a)".toList ++ emptyHash ++
    "\nlink_order -lssl -lcrypto\n".toList

/-- **An archive linked unchecked.**  The mangled line is passed over, the check
accepts, and the damaged archive is linked: no line of the MANIFEST names it. -/
theorem damaged_archive_is_linked :
    verifyLibraries (damaged mangledText) = some ⟨some mangledText⟩ ∧
      Manifest.linkOrder ⟨some mangledText⟩ = some ["ssl".toList, "crypto".toList] ∧
      ¬ Hashed (damaged mangledText) mangledText (archive false "ssl".toList) := by
  have hunlisted : ¬ Listed mangledText (archive false "ssl".toList) := by decide +kernel
  refine ⟨by decide +kernel, by decide +kernel, ?_⟩
  rintro ⟨hash, -, hline, -⟩
  exact hunlisted ⟨hash, hline⟩

end Build
end FreerdpPrebuilt
