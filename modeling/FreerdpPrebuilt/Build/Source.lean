import FreerdpPrebuilt.Build.Cache
import Mathlib.Data.List.Dedup

/-!
# The pinned sources

What `build.sh` compiles are the trees `source.sh` leaves under `build/`, one for
FreeRDP and one for OpenSSL.  `_fetch_verify_unpack` downloads a tarball unless it is
there, checks its hash on every call, and unpacks it unless the tree is there: a download
and an unpacking are staged and renamed.  A call may fail or be killed anywhere, in the
middle of a download, of `tar` and of `rm -rf` too; what it leaves stays for the next.

* `sources_are_pinned` — whenever a call succeeds, the tree is exactly the one top-level
  directory of an archive with the hash of the pin, and it never changes afterwards.

One call runs at a time.  What `tar` makes of an archive is a parameter.  Two things are
assumed of the names: `Pin.plain` of the versions, and `Archive.oneLine` of what is in an
archive.
-/

namespace FreerdpPrebuilt
namespace Build
namespace Source

open Labelled FileTree

/-! ## Names below `build/` -/

/-- What `ensure_freerdp` and `ensure_openssl` ensure. -/
inductive Product
  | freerdp
  | openssl
  deriving DecidableEq

def Product.stem : Product → List Char
  | .freerdp => "freerdp-".toList
  | .openssl => "openssl-".toList

def UNPACK : List Char := ".unpack".toList

def TAR_GZ : List Char := ".tar.gz".toList

/-- What `freerdp.env` says of one of them.  It is assumed that no version is written so that
`build/$dir` has the name of another one's tarball, download or unpacking. -/
structure Pin where
  product : Product
  version : List Char
  sha256 : List Char
  plain : ¬ UNPACK <:+: version ∧ ¬ TAR_GZ <:+: version
  deriving DecidableEq

/-- `freerdp-${FREERDP_VERSION}`. -/
def Pin.dir (pin : Pin) : List Char := pin.product.stem ++ pin.version

def Pin.tarball (pin : Pin) : List Char := pin.dir ++ TAR_GZ

/-- `$out.tmp$$`. -/
def Pin.staging (pin : Pin) (pid : ℕ) : List Char :=
  pin.tarball ++ (".tmp".toList ++ Nat.toDigits 10 pid)

def Pin.unpack (pin : Pin) : List Char := pin.dir ++ UNPACK

/-- No tree has the name of something else. -/
theorem dir_ne_append (pin other : Pin) {suffix : List Char} (rest : List Char)
    (hsuffix : suffix = UNPACK ∨ suffix = TAR_GZ) : pin.dir ≠ other.dir ++ suffix ++ rest := by
  intro heq
  have hversion : pin.version = other.version ++ suffix ++ rest := by
    simp only [Pin.dir, List.append_assoc] at heq
    cases hp : pin.product with
    | freerdp =>
      cases ho : other.product with
      | freerdp =>
        rw [hp, ho] at heq
        simpa using List.append_cancel_left heq
      | openssl =>
        rw [hp, ho] at heq
        exact absurd (List.cons.inj heq).1 (by decide)
    | openssl =>
      cases ho : other.product with
      | freerdp =>
        rw [hp, ho] at heq
        exact absurd (List.cons.inj heq).1 (by decide)
      | openssl =>
        rw [hp, ho] at heq
        simpa using List.append_cancel_left heq
  have hinfix : suffix <:+: pin.version := ⟨other.version, rest, hversion.symm⟩
  rcases hsuffix with rfl | rfl
  · exact pin.plain.1 hinfix
  · exact pin.plain.2 hinfix

theorem dir_ne_tarball (pin other : Pin) : pin.dir ≠ other.tarball := by
  have h := dir_ne_append pin other [] (.inr rfl)
  rwa [List.append_nil] at h

theorem dir_ne_staging (pin other : Pin) (pid : ℕ) : pin.dir ≠ other.staging pid :=
  dir_ne_append pin other _ (.inr rfl)

theorem dir_ne_unpack (pin other : Pin) : pin.dir ≠ other.unpack := by
  have h := dir_ne_append pin other [] (.inl rfl)
  rwa [List.append_nil] at h

theorem tarball_ne_unpack (pin : Pin) : pin.tarball ≠ pin.unpack := by
  intro h
  exact absurd (List.append_cancel_left h) (by decide)

/-! ## What is there -/

/-- What is below a directory, by path. -/
abbrev SourceTree := Dir (List (List Char)) Node

inductive Entry
  | file (bytes : Bytes)
  | directory (tree : SourceTree)
  deriving DecidableEq

/-- `build/`. -/
abbrev Disk := List Char → Option Entry

/-- `[ -f … ]`. -/
def isFile : Option Entry → Bool
  | some (.file _) => true
  | _ => false

/-- `[ -d … ]`. -/
def isDirectory : Option Entry → Bool
  | some (.directory _) => true
  | _ => false

/-- What `tar` makes of an archive.  It is assumed that no name in it is of two lines. -/
structure Archive where
  entries : SourceTree
  oneLine : ∀ entry ∈ entries, ∀ name ∈ entry.1, '\n' ∉ name

/-- The files and directories of an archive that is unpacked alone. -/
def Archive.tree (archive : Archive) : SourceTree := overlay [] archive.entries

/-- What is below a directory of a directory. -/
def below (tree : SourceTree) (name : List Char) : SourceTree :=
  tree.filterMap fun entry =>
    match entry.1 with
    | first :: second :: rest => if first = name then some (second :: rest, entry.2) else none
    | _ => none

/-- A directory there, or something in one. -/
def isTopDir (tree : SourceTree) (name : List Char) : Bool :=
  read tree [name] = some .dir ||
    tree.any fun entry => entry.1.head? = some name && decide (2 ≤ entry.1.length)

/-- What `find -mindepth 1 -maxdepth 1 -type d` finds. -/
def topDirs (tree : SourceTree) : List (List Char) :=
  ((tree.filterMap fun entry => entry.1.head?).dedup).filter (isTopDir tree)

/-- The path of something that has been unpacked. -/
def Pin.innerPath (pin : Pin) (name : List Char) : List Char :=
  "build/".toList ++ pin.unpack ++ '/' :: name

/-- What `find` prints. -/
def Pin.found (pin : Pin) (names : List (List Char)) : List Char :=
  names.flatMap fun name => pin.innerPath name ++ ['\n']

/-- `$(…)`: what was printed, without the newlines at the end. -/
def captured (text : List Char) : List Char := (text.reverse.dropWhile (· = '\n')).reverse

/-- `[ -z "$inner" ] || [ "$(wc -l <<<"$inner")" -ne 1 ]`, the other way round. -/
def isOneLine (inner : List Char) : Bool := inner ≠ [] && (inner ++ ['\n']).count '\n' = 1

/-- What is at a place after `mv` of a file. -/
def mvFile (base : List Char) (bytes : Bytes) : Option Entry → Option Entry
  | none | some (.file _) => some (.file bytes)
  | some (.directory tree) =>
    if read tree [base] = some .dir then none
    else some (.directory (write tree [base] (.file bytes)))

/-- What is at a place after `mv` of a directory: if there is one, it goes into it. -/
def mvTree (base : List Char) (tree : SourceTree) : Option Entry → Option Entry
  | none => some (.directory tree)
  | some (.file _) => none
  | some (.directory there) =>
    if there.any fun entry => entry.1.head? = some base && entry ≠ ([base], .dir) then none
    else
      let entries := ([base], .dir) :: tree.map fun entry => (base :: entry.1, entry.2)
      some (.directory (overlay there entries))

/-! ## `_fetch_verify_unpack` -/

/-- Where a call stands. -/
inductive Stage
  /-- `mkdir -p build`. -/
  | mkdir
  /-- `[ -f "$out" ] && return 0`. -/
  | testTarball
  | curl
  /-- `rm -f "$staging"`. -/
  | dropDownload
  /-- `mv "$staging" "$out"`. -/
  | moveDownload
  /-- `sha256_of`, and the comparison. -/
  | checksum
  /-- `[ ! -d "build/$dir" ]`. -/
  | testDir
  /-- `rm -rf "build/$dir.unpack"`. -/
  | removeStale
  /-- `mkdir -p "build/$dir.unpack"`. -/
  | makeUnpack
  /-- `tar` opens the tarball. -/
  | tarOpens
  /-- `tar` is unpacking these bytes. -/
  | tarUnpacks (bytes : Bytes)
  /-- `find`, and the test of what it found. -/
  | findInner
  /-- `mv "$inner" "build/$dir"`. -/
  | moveInner (inner : List Char)
  /-- `rm -rf "build/$dir.unpack"`, at the end. -/
  | removeUnpack
  /-- `rm -rf "build/$dir.unpack"`, before `return 1`. -/
  | discard
  deriving DecidableEq

/-- What the system answers. -/
inductive Answer
  | ok
  | failed
  /-- `rm -rf` has taken some away, and goes on. -/
  | erases (keeps : List (List Char) → Bool)
  /-- `curl` has written so much, and goes on. -/
  | writes (bytes : Bytes)
  /-- `tar` has written something, and goes on. -/
  | unpacks (path : List (List Char)) (node : Node)

/-- What comes of a step. -/
inductive Outcome
  | goesOn (stage : Stage)
  | returns (success : Bool)

/-- What is left of a directory. -/
def erased (keeps : List (List Char) → Bool) : Option Entry → Option Entry
  | some (.directory tree) => some (.directory (tree.filter fun entry => keeps entry.1))
  | entry => entry

/-- The hash of a file, of which `sha256Hex_eq` says that it is the standard's. -/
def hashOf : Option Entry → Option (List Char)
  | some (.file bytes) => sha256Hex bytes
  | _ => none

section

variable (tar : Bytes → Option Archive)

/-- `tar` writes only what is in the archive, unless it fails in the end. -/
def mayWrite (bytes : Bytes) (path : List (List Char)) : Bool :=
  (tar bytes).all fun archive => (read archive.tree path).isSome

/-- One step of a call; under `set -e` what fails ends it. -/
def Stage.next (pin : Pin) (pid : ℕ) (disk : Disk) : Stage → Answer → Option (Disk × Outcome)
  | .mkdir, .ok => some (disk, .goesOn .testTarball)
  | .testTarball, .ok =>
    some (disk, .goesOn (if isFile (disk pin.tarball) then .checksum else .curl))
  | .curl, .writes bytes =>
    some (Function.update disk (pin.staging pid) (some (.file bytes)), .goesOn .curl)
  | .curl, .ok => some (disk, .goesOn .moveDownload)
  | .curl, .failed => some (disk, .goesOn .dropDownload)
  | .dropDownload, .ok => some (Function.update disk (pin.staging pid) none, .returns false)
  | .moveDownload, .ok =>
    match disk (pin.staging pid) with
    | some (.file bytes) =>
      (mvFile (pin.staging pid) bytes (disk pin.tarball)).map fun entry =>
        (Function.update (Function.update disk pin.tarball (some entry)) (pin.staging pid) none,
          .goesOn .checksum)
    | _ => none
  | .checksum, .ok =>
    some (disk, if hashOf (disk pin.tarball) = some pin.sha256 then .goesOn .testDir
      else .returns false)
  | .testDir, .ok =>
    some (disk, if isDirectory (disk pin.dir) then .returns true else .goesOn .removeStale)
  | .removeStale, .erases keeps =>
    some (Function.update disk pin.unpack (erased keeps (disk pin.unpack)), .goesOn .removeStale)
  | .removeStale, .ok => some (Function.update disk pin.unpack none, .goesOn .makeUnpack)
  | .makeUnpack, .ok =>
    match disk pin.unpack with
    | none => some (Function.update disk pin.unpack (some (.directory [])), .goesOn .tarOpens)
    | some (.directory _) => some (disk, .goesOn .tarOpens)
    | some (.file _) => none
  | .tarOpens, .ok =>
    match disk pin.tarball with
    | some (.file bytes) => some (disk, .goesOn (.tarUnpacks bytes))
    | _ => none
  | .tarUnpacks bytes, .unpacks path node =>
    match disk pin.unpack with
    | some (.directory tree) =>
      if mayWrite tar bytes path then
        some (Function.update disk pin.unpack (some (.directory (write tree path node))),
          .goesOn (.tarUnpacks bytes))
      else none
    | _ => none
  | .tarUnpacks bytes, .ok =>
    match tar bytes, disk pin.unpack with
    | some archive, some (.directory tree) =>
      some (Function.update disk pin.unpack (some (.directory (overlay tree archive.entries))),
        .goesOn .findInner)
    | _, _ => none
  | .findInner, .ok =>
    match disk pin.unpack with
    | some (.directory tree) =>
      let inner := captured (pin.found (topDirs tree))
      some (disk, .goesOn (if isOneLine inner then .moveInner inner else .discard))
    | _ => none
  | .moveInner inner, .ok =>
    match disk pin.unpack with
    | some (.directory tree) =>
      ((topDirs tree).find? fun name => pin.innerPath name = inner).bind fun name =>
        (mvTree name (below tree name) (disk pin.dir)).map fun entry =>
          let kept := tree.filter fun entry => entry.1.head? ≠ some name
          (Function.update (Function.update disk pin.unpack (some (.directory kept))) pin.dir
            (some entry), .goesOn .removeUnpack)
    | _ => none
  | .removeUnpack, .erases keeps =>
    some (Function.update disk pin.unpack (erased keeps (disk pin.unpack)), .goesOn .removeUnpack)
  | .removeUnpack, .ok => some (Function.update disk pin.unpack none, .returns true)
  | .discard, .erases keeps =>
    some (Function.update disk pin.unpack (erased keeps (disk pin.unpack)), .goesOn .discard)
  | .discard, .ok => some (Function.update disk pin.unpack none, .returns false)
  | .testTarball, .failed | .testDir, .failed => none
  | _, .failed => some (disk, .returns false)
  | _, _ => none

end

/-! ## One call after another -/

structure Call where
  pid : ℕ
  pin : Pin
  stage : Stage

structure World where
  disk : Disk
  call : Option Call

/-- What is seen of a call: it returns, and there is this at `build/$dir`. -/
inductive Seen
  | ready (pin : Pin) (entry : Option Entry)
  | refused (pin : Pin)
  deriving DecidableEq

inductive Act
  | start (pid : ℕ) (pin : Pin)
  | goes (answer : Answer)
  | killed

variable (tar : Bytes → Option Archive)

/-- One step. -/
def World.step (w : World) : Act → Option (World × List Seen)
  | .start pid pin =>
    if w.call.isNone then some ({ w with call := some ⟨pid, pin, .mkdir⟩ }, []) else none
  | .goes answer =>
    match w.call with
    | none => none
    | some call =>
      (call.stage.next tar call.pin call.pid w.disk answer).map fun (disk, outcome) =>
        match outcome with
        | .goesOn stage => (⟨disk, some { call with stage }⟩, [])
        | .returns true => (⟨disk, none⟩, [.ready call.pin (disk call.pin.dir)])
        | .returns false => (⟨disk, none⟩, [.refused call.pin])
  | .killed => if w.call.isSome then some ({ w with call := none }, []) else none

/-- **The calls of all scripts**, which find nothing under `build/` at first. -/
def sourceMachine : Machine World Act Seen := ⟨⟨fun _ => none, none⟩, World.step tar⟩

/-! ## The directories at the top -/

/-- A name at which there is a directory, said or not. -/
def TopDir (tree : SourceTree) (name : List Char) : Prop :=
  FileTree.read tree [name] = some .dir ∨
    ∃ second rest, (FileTree.read tree (name :: second :: rest)).isSome = true

theorem isTopDir_iff {tree : SourceTree} {name : List Char} :
    isTopDir tree name = true ↔ TopDir tree name := by
  rw [isTopDir, Bool.or_eq_true, decide_eq_true_eq, List.any_eq_true, TopDir]
  refine or_congr Iff.rfl ⟨?_, ?_⟩
  · rintro ⟨⟨path, node⟩, hmem, hentry⟩
    match path with
    | [] => simp at hentry
    | [first] => simp at hentry
    | first :: second :: rest =>
      obtain rfl : first = name := by simpa using hentry
      exact ⟨second, rest, isSome_read.2 ⟨_, hmem, rfl⟩⟩
  · rintro ⟨second, rest, hread⟩
    obtain ⟨entry, hmem, hpath⟩ := isSome_read.1 hread
    exact ⟨entry, hmem, by simp [hpath]⟩

theorem mem_topDirs {tree : SourceTree} {name : List Char} :
    name ∈ topDirs tree ↔ TopDir tree name := by
  rw [topDirs, List.mem_filter, isTopDir_iff, List.mem_dedup, List.mem_filterMap]
  refine ⟨And.right, fun h => ⟨?_, h⟩⟩
  rcases h with hread | ⟨second, rest, hread⟩
  · exact ⟨_, exists_mem_of_read hread, rfl⟩
  · obtain ⟨entry, hmem, hpath⟩ := isSome_read.1 hread
    exact ⟨entry, hmem, by rw [hpath]; rfl⟩

theorem TopDir.congr {tree tree' : SourceTree}
    (h : ∀ path, FileTree.read tree path = FileTree.read tree' path) (name : List Char) :
    TopDir tree name ↔ TopDir tree' name := by
  simp only [TopDir, h]

theorem read_below (tree : SourceTree) (name second : List Char) (rest : List (List Char)) :
    FileTree.read (below tree name) (second :: rest) =
      FileTree.read tree (name :: second :: rest) := by
  induction tree with
  | nil => rfl
  | cons entry tree ih =>
    obtain ⟨path, node⟩ := entry
    rw [below] at ih ⊢
    match path with
    | [] | [_] =>
      rw [List.filterMap_cons_none rfl, ih, FileTree.read, FileTree.read,
        List.find?_cons_of_neg (by simp)]
    | first :: second' :: rest' =>
      by_cases hfirst : first = name
      · subst hfirst
        rw [List.filterMap_cons_some (by simp : _ = some (second' :: rest', node))]
        simp only [FileTree.read] at ih ⊢
        by_cases hrest : second' :: rest' = second :: rest
        · rw [List.find?_cons_of_pos (by simpa using hrest),
            List.find?_cons_of_pos (by simpa using hrest)]
          rfl
        · rw [List.find?_cons_of_neg (by simpa using hrest),
            List.find?_cons_of_neg (by simpa using hrest), ih]
      · rw [List.filterMap_cons_none (by simp [hfirst]), ih, FileTree.read, FileTree.read,
          List.find?_cons_of_neg (by simp [hfirst])]

/-! ## What `find` prints -/

theorem length_le_count_found (pin : Pin) (names : List (List Char)) :
    names.length ≤ (pin.found names).count '\n' := by
  induction names with
  | nil => exact Nat.zero_le _
  | cons name names ih =>
    have hcons : pin.found (name :: names) = pin.innerPath name ++ ['\n'] ++ pin.found names := rfl
    rw [hcons, List.count_append, List.count_append, List.count_singleton_self, List.length_cons]
    omega

/-- What stands before the last newline. -/
theorem captured_snoc {text : List Char} (h : ∀ c ∈ text.getLast?, c ≠ '\n') :
    captured (text ++ ['\n']) = text := by
  rw [captured, List.reverse_append, List.reverse_singleton, List.singleton_append,
    List.dropWhile_cons_of_pos (by decide)]
  induction text using List.reverseRec with
  | nil => rfl
  | append_singleton text c =>
    rw [List.reverse_append, List.reverse_singleton, List.singleton_append,
      List.dropWhile_cons_of_neg (by simpa using h), List.reverse_cons, List.reverse_reverse]

theorem found_concat (pin : Pin) (names : List (List Char)) (name : List Char) :
    pin.found (names ++ [name]) = pin.found names ++ pin.innerPath name ++ ['\n'] := by
  rw [Pin.found, List.flatMap_append, List.flatMap_singleton, List.append_assoc]
  rfl

/-- **One line is one directory**, as no name is of two. -/
theorem eq_singleton_of_isOneLine {pin : Pin} {names : List (List Char)}
    (hnames : ∀ name ∈ names, '\n' ∉ name) (h : isOneLine (captured (pin.found names)) = true) :
    ∃ name, names = [name] ∧ captured (pin.found names) = pin.innerPath name := by
  simp only [isOneLine, Bool.and_eq_true, decide_eq_true_eq] at h
  obtain ⟨hne, hcount⟩ := h
  rcases List.eq_nil_or_concat' names with rfl | ⟨front, name, rfl⟩
  · exact absurd rfl hne
  · have hlast : ∀ c ∈ (pin.found front ++ pin.innerPath name).getLast?, c ≠ '\n' := by
      rintro c hc rfl
      rw [Pin.innerPath, ← List.append_assoc, List.getLast?_append_cons] at hc
      rcases List.mem_cons.1 (List.mem_of_getLast? hc) with hslash | hmem
      · exact absurd hslash (by decide)
      · exact hnames name (by simp) hmem
    rw [found_concat, captured_snoc hlast, List.append_assoc, List.count_append] at hcount
    have hfront := length_le_count_found pin front
    have hone : 1 ≤ (pin.innerPath name ++ ['\n']).count '\n' := by
      rw [List.count_append, List.count_singleton_self]
      omega
    obtain rfl : front = [] := List.length_eq_zero_iff.1 (by omega)
    exact ⟨name, rfl, by rw [found_concat, captured_snoc hlast]; rfl⟩

/-! ## What is promised of a tree -/

/-- **The tree is the one directory of an archive with this hash.** -/
def IsPinned (sha256 : List Char) (tree : SourceTree) : Prop :=
  ∃ bytes archive inner, sha256Hex bytes = some sha256 ∧ tar bytes = some archive ∧
    (∀ name, TopDir archive.tree name ↔ name = inner) ∧
    ∀ path, path ≠ [] → FileTree.read tree path = FileTree.read archive.tree (inner :: path)

/-- What has been unpacked is an archive with this hash, and nothing else. -/
def IsUnpacked (sha256 : List Char) (entry : Option Entry) : Prop :=
  ∃ tree bytes archive, entry = some (.directory tree) ∧ sha256Hex bytes = some sha256 ∧
    tar bytes = some archive ∧ ∀ path, FileTree.read tree path = FileTree.read archive.tree path

/-- What `tar` has got at so far is in the archive. -/
def IsUnpacking (bytes : Bytes) (entry : Option Entry) : Prop :=
  ∃ tree, entry = some (.directory tree) ∧ ∀ path, (FileTree.read tree path).isSome = true →
    mayWrite tar bytes path = true

/-- What holds where a call stands. -/
def Stage.Holds (pin : Pin) (disk : Disk) : Stage → Prop
  | .testDir => hashOf (disk pin.tarball) = some pin.sha256
  | .removeStale =>
    hashOf (disk pin.tarball) = some pin.sha256 ∧ isDirectory (disk pin.dir) = false
  | .makeUnpack =>
    hashOf (disk pin.tarball) = some pin.sha256 ∧ isDirectory (disk pin.dir) = false ∧
      disk pin.unpack = none
  | .tarOpens =>
    hashOf (disk pin.tarball) = some pin.sha256 ∧ isDirectory (disk pin.dir) = false ∧
      disk pin.unpack = some (.directory [])
  | .tarUnpacks bytes =>
    sha256Hex bytes = some pin.sha256 ∧ isDirectory (disk pin.dir) = false ∧
      IsUnpacking tar bytes (disk pin.unpack)
  | .findInner =>
    isDirectory (disk pin.dir) = false ∧ IsUnpacked tar pin.sha256 (disk pin.unpack)
  | .moveInner inner =>
    isDirectory (disk pin.dir) = false ∧ IsUnpacked tar pin.sha256 (disk pin.unpack) ∧
      ∀ tree, disk pin.unpack = some (.directory tree) →
        inner = captured (pin.found (topDirs tree)) ∧ isOneLine inner = true
  | .removeUnpack => isDirectory (disk pin.dir) = true
  | .mkdir | .testTarball | .curl | .dropDownload | .moveDownload | .checksum | .discard => True

def Outcome.Holds (pin : Pin) (disk : Disk) : Outcome → Prop
  | .goesOn stage => stage.Holds tar pin disk
  | .returns true => isDirectory (disk pin.dir) = true
  | .returns false => True

/-- What a step does to the trees: it puts one in place where nothing is, or does not
touch them. -/
def Grows (pin : Pin) (disk disk' : Disk) : Prop :=
  ∀ other : Pin, disk' other.dir = disk other.dir ∨
    other.dir = pin.dir ∧ disk pin.dir = none ∧
      ∃ tree, disk' pin.dir = some (.directory tree) ∧ IsPinned tar pin.sha256 tree

variable {tar} {pin : Pin} {pid : ℕ} {disk disk' : Disk} {answer : Answer} {outcome : Outcome}

theorem Grows.refl (tar : Bytes → Option Archive) (pin : Pin) (disk : Disk) :
    Grows tar pin disk disk := fun _ => .inl rfl

theorem grows_update {name : List Char} (hname : ∀ other : Pin, other.dir ≠ name)
    (entry : Option Entry) : Grows tar pin disk (Function.update disk name entry) :=
  fun other => .inl (Function.update_of_ne (hname other) _ _)

theorem update_unpack_dir (entry : Option Entry) :
    Function.update disk pin.unpack entry pin.dir = disk pin.dir :=
  Function.update_of_ne (dir_ne_unpack pin pin) _ _

theorem update_unpack_tarball (entry : Option Entry) :
    Function.update disk pin.unpack entry pin.tarball = disk pin.tarball :=
  Function.update_of_ne (tarball_ne_unpack pin) _ _

/-- Taking away from one of the directories that are not of a tree. -/
theorem grows_unpack (entry : Option Entry) :
    Grows tar pin disk (Function.update disk pin.unpack entry) :=
  grows_update (fun other => dir_ne_unpack other pin) entry

/-! ## One step of a call -/

/-- What is written on the way is in the archive, and so is not in the way at the end. -/
theorem isUnpacked_overlay {bytes : Bytes} {archive : Archive} {tree : SourceTree}
    (hsha : sha256Hex bytes = some pin.sha256) (htar : tar bytes = some archive)
    (hwritten : ∀ path, (FileTree.read tree path).isSome = true → mayWrite tar bytes path = true) :
    IsUnpacked tar pin.sha256 (some (.directory (overlay tree archive.entries))) := by
  refine ⟨_, bytes, archive, rfl, hsha, htar, fun path => ?_⟩
  rw [read_overlay]
  cases hread : FileTree.read (overlay [] archive.entries) path with
  | some node => exact hread.symm
  | none =>
    rw [Option.none_or]
    cases htree : FileTree.read tree path with
    | none => exact hread.symm
    | some node =>
      have hmay := hwritten path (by rw [htree]; rfl)
      rw [mayWrite, htar, Option.all_some, Archive.tree, hread] at hmay
      cases hmay

/-- The names at the top of an archive are of one line. -/
theorem Archive.oneLine_of_topDir {archive : Archive} {name : List Char}
    (h : TopDir archive.tree name) : '\n' ∉ name := by
  have hentry : ∃ entry ∈ archive.tree, name ∈ entry.1 := by
    rcases h with hread | ⟨second, rest, hread⟩
    · exact ⟨_, exists_mem_of_read hread, List.mem_cons_self⟩
    · obtain ⟨entry, hmem, hpath⟩ := isSome_read.1 hread
      exact ⟨entry, hmem, by rw [hpath]; exact List.mem_cons_self⟩
  obtain ⟨entry, hmem, hname⟩ := hentry
  rcases mem_of_mem_overlay hmem with hnil | hentries
  · cases hnil
  · exact archive.oneLine entry hentries name hname

/-- **What is moved is the one directory of the archive.** -/
theorem isPinned_below {tree : SourceTree} {name : List Char}
    (hunpacked : IsUnpacked tar pin.sha256 (some (.directory tree)))
    (hone : isOneLine (captured (pin.found (topDirs tree))) = true) (hname : name ∈ topDirs tree) :
    IsPinned tar pin.sha256 (below tree name) := by
  obtain ⟨tree', bytes, archive, heq, hsha, htar, hread⟩ := hunpacked
  cases heq
  have htop : ∀ other, other ∈ topDirs tree ↔ TopDir archive.tree other := by
    intro other
    rw [mem_topDirs, TopDir.congr hread]
  have hlines : ∀ other ∈ topDirs tree, '\n' ∉ other := by
    intro other hother
    exact Archive.oneLine_of_topDir ((htop other).1 hother)
  obtain ⟨only, honly, -⟩ := eq_singleton_of_isOneLine hlines hone
  rw [honly] at htop hname
  obtain rfl := List.mem_singleton.1 hname
  refine ⟨bytes, archive, name, hsha, htar, ?_, ?_⟩
  · intro other
    rw [← htop other, List.mem_singleton]
  · intro path hpath
    cases path with
    | nil => exact absurd rfl hpath
    | cons second rest => rw [read_below, hread]

/-! ## One stage after the other -/

/-- **What a step of a call is to do**: keep what holds where the call stands, and put nothing
but a pinned tree in place. -/
def Steps (tar : Bytes → Option Archive) (pin : Pin) (disk disk' : Disk) (outcome : Outcome) :
    Prop :=
  Grows tar pin disk disk' ∧ outcome.Holds tar pin disk'

/-- What fails leaves the disk as it is. -/
theorem steps_failed {stage : Stage}
    (h : stage.next tar pin pid disk .failed = some (disk', outcome)) :
    Steps tar pin disk disk' outcome := by
  cases stage <;> cases h
  all_goals exact ⟨.refl _ _ _, trivial⟩

theorem steps_mkdir (h : Stage.mkdir.next tar pin pid disk answer = some (disk', outcome)) :
    Steps tar pin disk disk' outcome := by
  cases answer <;> cases h
  all_goals exact ⟨.refl _ _ _, trivial⟩

theorem steps_testTarball
    (h : Stage.testTarball.next tar pin pid disk answer = some (disk', outcome)) :
    Steps tar pin disk disk' outcome := by
  cases answer <;> cases h
  refine ⟨.refl _ _ _, ?_⟩
  split <;> trivial

theorem steps_curl (h : Stage.curl.next tar pin pid disk answer = some (disk', outcome)) :
    Steps tar pin disk disk' outcome := by
  cases answer with
  | writes bytes =>
    cases h
    exact ⟨grows_update (fun other => dir_ne_staging other pin pid) _, trivial⟩
  | ok =>
    cases h
    exact ⟨.refl _ _ _, trivial⟩
  | failed => exact steps_failed h
  | _ => cases h

theorem steps_dropDownload
    (h : Stage.dropDownload.next tar pin pid disk answer = some (disk', outcome)) :
    Steps tar pin disk disk' outcome := by
  cases answer with
  | ok =>
    cases h
    exact ⟨grows_update (fun other => dir_ne_staging other pin pid) _, trivial⟩
  | failed => exact steps_failed h
  | _ => cases h

theorem steps_moveDownload
    (h : Stage.moveDownload.next tar pin pid disk answer = some (disk', outcome)) :
    Steps tar pin disk disk' outcome := by
  cases answer with
  | ok =>
    simp only [Stage.next] at h
    split at h
    · obtain ⟨entry, -, heq⟩ := Option.map_eq_some_iff.1 h
      cases heq
      refine ⟨fun other => .inl ?_, trivial⟩
      rw [Function.update_of_ne (dir_ne_staging other pin pid),
        Function.update_of_ne (dir_ne_tarball other pin)]
    · cases h
  | failed => exact steps_failed h
  | _ => cases h

theorem steps_checksum
    (h : Stage.checksum.next tar pin pid disk answer = some (disk', outcome)) :
    Steps tar pin disk disk' outcome := by
  cases answer with
  | ok =>
    cases h
    refine ⟨.refl _ _ _, ?_⟩
    split_ifs with hsha
    · exact hsha
    · trivial
  | failed => exact steps_failed h
  | _ => cases h

theorem steps_testDir (h : Stage.testDir.next tar pin pid disk answer = some (disk', outcome))
    (hold : Stage.testDir.Holds tar pin disk) : Steps tar pin disk disk' outcome := by
  cases answer <;> cases h
  refine ⟨.refl _ _ _, ?_⟩
  split_ifs with hthere
  · exact hthere
  · exact ⟨hold, by simpa using hthere⟩

theorem steps_removeStale
    (h : Stage.removeStale.next tar pin pid disk answer = some (disk', outcome))
    (hold : Stage.removeStale.Holds tar pin disk) : Steps tar pin disk disk' outcome := by
  cases answer with
  | erases keeps =>
    cases h
    refine ⟨grows_unpack _, ?_⟩
    simp only [Outcome.Holds, Stage.Holds, update_unpack_dir, update_unpack_tarball]
    exact hold
  | ok =>
    cases h
    refine ⟨grows_unpack _, ?_⟩
    simp only [Outcome.Holds, Stage.Holds, update_unpack_dir, update_unpack_tarball,
      Function.update_self, and_true]
    exact hold
  | failed => exact steps_failed h
  | _ => cases h

theorem steps_makeUnpack
    (h : Stage.makeUnpack.next tar pin pid disk answer = some (disk', outcome))
    (hold : Stage.makeUnpack.Holds tar pin disk) : Steps tar pin disk disk' outcome := by
  obtain ⟨hsha, hnot, hnone⟩ := hold
  cases answer with
  | ok =>
    simp only [Stage.next, hnone] at h
    cases h
    refine ⟨grows_unpack _, ?_⟩
    simp only [Outcome.Holds, Stage.Holds, update_unpack_dir, update_unpack_tarball,
      Function.update_self, and_true]
    exact ⟨hsha, hnot⟩
  | failed => exact steps_failed h
  | _ => cases h

theorem steps_tarOpens
    (h : Stage.tarOpens.next tar pin pid disk answer = some (disk', outcome))
    (hold : Stage.tarOpens.Holds tar pin disk) : Steps tar pin disk disk' outcome := by
  obtain ⟨hsha, hnot, hempty⟩ := hold
  cases answer with
  | ok =>
    simp only [Stage.next] at h
    split at h
    · next bytes hbytes =>
      cases h
      rw [hbytes] at hsha
      exact ⟨.refl _ _ _, hsha, hnot, [], hempty, by simp⟩
    · cases h
  | failed => exact steps_failed h
  | _ => cases h

/-- `tar` writes what is in the archive, and in the end all of it. -/
theorem steps_tarUnpacks {bytes : Bytes}
    (h : (Stage.tarUnpacks bytes).next tar pin pid disk answer = some (disk', outcome))
    (hold : (Stage.tarUnpacks bytes).Holds tar pin disk) : Steps tar pin disk disk' outcome := by
  obtain ⟨hsha, hnot, tree, htree, hwritten⟩ := hold
  cases answer with
  | unpacks path node =>
    simp only [Stage.next, htree, Option.ite_none_right_eq_some] at h
    obtain ⟨hmay, h⟩ := h
    cases h
    refine ⟨grows_unpack _, ?_⟩
    simp only [Outcome.Holds, Stage.Holds, update_unpack_dir, Function.update_self]
    refine ⟨hsha, hnot, _, rfl, fun other hother => ?_⟩
    by_cases heq : other = path
    · rw [heq]
      exact hmay
    · rw [read_write_of_ne heq] at hother
      exact hwritten other hother
  | ok =>
    simp only [Stage.next, htree] at h
    split at h
    · next archive tree' htar heq =>
      cases heq
      cases h
      refine ⟨grows_unpack _, ?_⟩
      simp only [Outcome.Holds, Stage.Holds, update_unpack_dir, Function.update_self]
      exact ⟨hnot, isUnpacked_overlay hsha htar hwritten⟩
    · cases h
  | failed => exact steps_failed h
  | _ => cases h

theorem steps_findInner
    (h : Stage.findInner.next tar pin pid disk answer = some (disk', outcome))
    (hold : Stage.findInner.Holds tar pin disk) : Steps tar pin disk disk' outcome := by
  obtain ⟨hnot, hunpacked⟩ := hold
  cases answer with
  | ok =>
    simp only [Stage.next] at h
    split at h
    · next tree htree =>
      cases h
      refine ⟨.refl _ _ _, ?_⟩
      split_ifs with hone
      · refine ⟨hnot, hunpacked, fun tree' htree' => ?_⟩
        rw [htree] at htree'
        cases htree'
        exact ⟨rfl, hone⟩
      · trivial
    · cases h
  | failed => exact steps_failed h
  | _ => cases h

/-- The one directory of the archive is put in place where there is none. -/
theorem steps_moveInner {inner : List Char}
    (hdir : disk pin.dir = none ∨ isDirectory (disk pin.dir) = true)
    (h : (Stage.moveInner inner).next tar pin pid disk answer = some (disk', outcome))
    (hold : (Stage.moveInner inner).Holds tar pin disk) : Steps tar pin disk disk' outcome := by
  obtain ⟨hnot, hunpacked, hinner⟩ := hold
  have hnone : disk pin.dir = none := by
    rcases hdir with hnone | hthere
    · exact hnone
    · rw [hnot] at hthere
      cases hthere
  cases answer with
  | ok =>
    simp only [Stage.next] at h
    split at h
    · next tree htree =>
      obtain ⟨rfl, hone⟩ := hinner tree htree
      obtain ⟨name, hfind, h⟩ := Option.bind_eq_some_iff.1 h
      obtain ⟨entry, hentry, heq⟩ := Option.map_eq_some_iff.1 h
      rw [hnone] at hentry
      cases hentry
      cases heq
      rw [htree] at hunpacked
      have hpinned := isPinned_below hunpacked hone (List.mem_of_find?_eq_some hfind)
      refine ⟨fun other => ?_, ?_⟩
      · by_cases hother : other.dir = pin.dir
        · exact .inr ⟨hother, hnone, _, Function.update_self .., hpinned⟩
        · rw [Function.update_of_ne hother, Function.update_of_ne (dir_ne_unpack other pin)]
          exact .inl rfl
      · simp only [Outcome.Holds, Stage.Holds, Function.update_self]
        rfl
    · cases h
  | failed => exact steps_failed h
  | _ => cases h

theorem steps_removeUnpack
    (h : Stage.removeUnpack.next tar pin pid disk answer = some (disk', outcome))
    (hold : Stage.removeUnpack.Holds tar pin disk) : Steps tar pin disk disk' outcome := by
  cases answer with
  | erases keeps =>
    cases h
    refine ⟨grows_unpack _, ?_⟩
    simp only [Outcome.Holds, Stage.Holds, update_unpack_dir]
    exact hold
  | ok =>
    cases h
    refine ⟨grows_unpack _, ?_⟩
    simp only [Outcome.Holds, update_unpack_dir]
    exact hold
  | failed => exact steps_failed h
  | _ => cases h

theorem steps_discard (h : Stage.discard.next tar pin pid disk answer = some (disk', outcome)) :
    Steps tar pin disk disk' outcome := by
  cases answer with
  | erases keeps | ok =>
    cases h
    exact ⟨grows_unpack _, trivial⟩
  | failed => exact steps_failed h
  | _ => cases h

/-- **A step of a call**, wherever it stands. -/
theorem Stage.next_spec {stage : Stage}
    (hdir : disk pin.dir = none ∨ isDirectory (disk pin.dir) = true)
    (h : stage.next tar pin pid disk answer = some (disk', outcome))
    (hold : stage.Holds tar pin disk) : Steps tar pin disk disk' outcome := by
  cases stage with
  | mkdir => exact steps_mkdir h
  | testTarball => exact steps_testTarball h
  | curl => exact steps_curl h
  | dropDownload => exact steps_dropDownload h
  | moveDownload => exact steps_moveDownload h
  | checksum => exact steps_checksum h
  | testDir => exact steps_testDir h hold
  | removeStale => exact steps_removeStale h hold
  | makeUnpack => exact steps_makeUnpack h hold
  | tarOpens => exact steps_tarOpens h hold
  | tarUnpacks bytes => exact steps_tarUnpacks h hold
  | findInner => exact steps_findInner h hold
  | moveInner inner => exact steps_moveInner hdir h hold
  | removeUnpack => exact steps_removeUnpack h hold
  | discard => exact steps_discard h

/-! ## All calls -/

variable {w w' : World} {a : Act} {o : List Seen} {P : Pin → Prop}

/-- What holds between two steps, as long as only the pins in `P` are asked for. -/
structure Sound (tar : Bytes → Option Archive) (P : Pin → Prop) (w : World) : Prop where
  /-- A tree that is there is pinned. -/
  pinned : ∀ pin, P pin → ∀ entry, w.disk pin.dir = some entry →
    ∃ tree, entry = .directory tree ∧ IsPinned tar pin.sha256 tree
  /-- A call has got where it stands. -/
  stands : ∀ call, w.call = some call → P call.pin ∧ call.stage.Holds tar call.pin w.disk

theorem Sound.dir (hw : Sound tar P w) (hP : P pin) :
    w.disk pin.dir = none ∨ isDirectory (w.disk pin.dir) = true := by
  cases hentry : w.disk pin.dir with
  | none => exact .inl rfl
  | some entry =>
    obtain ⟨tree, rfl, -⟩ := hw.pinned pin hP entry hentry
    exact .inr rfl

/-- The trees stay pinned while they grow. -/
theorem Sound.pinned_of_grows (hw : Sound tar P w)
    (hagree : ∀ p q, P p → P q → p.dir = q.dir → p.sha256 = q.sha256) (hP : P pin)
    (hgrows : Grows tar pin w.disk disk') :
    ∀ other, P other → ∀ entry, disk' other.dir = some entry →
      ∃ tree, entry = .directory tree ∧ IsPinned tar other.sha256 tree := by
  intro other hother entry hentry
  rcases hgrows other with hsame | ⟨hdir, -, tree, htree, hpinned⟩
  · exact hw.pinned other hother entry (hsame ▸ hentry)
  · rw [hdir, htree] at hentry
    cases hentry
    rw [hagree other pin hother hP hdir]
    exact ⟨tree, rfl, hpinned⟩

/-- **One step**, under what is asked for. -/
theorem Sound.step (hagree : ∀ p q, P p → P q → p.dir = q.dir → p.sha256 = q.sha256)
    (hw : Sound tar P w) (h : w.step tar a = some (w', o))
    (hstart : ∀ pid pin, a = .start pid pin → P pin) : Sound tar P w' := by
  cases a with
  | start pid pin =>
    simp only [World.step, Option.ite_none_right_eq_some] at h
    obtain ⟨-, h⟩ := h
    cases h
    refine ⟨hw.pinned, fun call hcall => ?_⟩
    cases hcall
    exact ⟨hstart pid pin rfl, trivial⟩
  | killed =>
    simp only [World.step, Option.ite_none_right_eq_some] at h
    obtain ⟨-, h⟩ := h
    cases h
    exact ⟨hw.pinned, by rintro _ ⟨⟩⟩
  | goes answer =>
    simp only [World.step] at h
    split at h
    · cases h
    · next call hcall =>
      obtain ⟨hP, hold⟩ := hw.stands call hcall
      obtain ⟨⟨disk', outcome⟩, hnext, heq⟩ := Option.map_eq_some_iff.1 h
      obtain ⟨hgrows, hout⟩ := Stage.next_spec (hw.dir hP) hnext hold
      have hpinned := hw.pinned_of_grows hagree hP hgrows
      cases outcome with
      | goesOn stage =>
        cases heq
        refine ⟨hpinned, ?_⟩
        rintro _ ⟨⟩
        exact ⟨hP, hout⟩
      | returns success =>
        cases success <;> cases heq
        all_goals exact ⟨hpinned, by rintro _ ⟨⟩⟩

/-- **A tree that is there stays as it is.** -/
theorem Sound.kept (hw : Sound tar P w) (h : w.step tar a = some (w', o)) {entry : Entry}
    (hentry : w.disk pin.dir = some entry) : w'.disk pin.dir = some entry := by
  cases a with
  | start pid pin =>
    simp only [World.step, Option.ite_none_right_eq_some] at h
    obtain ⟨-, h⟩ := h
    cases h
    exact hentry
  | killed =>
    simp only [World.step, Option.ite_none_right_eq_some] at h
    obtain ⟨-, h⟩ := h
    cases h
    exact hentry
  | goes answer =>
    simp only [World.step] at h
    split at h
    · cases h
    · next call hcall =>
      obtain ⟨hP, hold⟩ := hw.stands call hcall
      obtain ⟨⟨disk', outcome⟩, hnext, heq⟩ := Option.map_eq_some_iff.1 h
      obtain ⟨hgrows, -⟩ := Stage.next_spec (hw.dir hP) hnext hold
      have hdisk : w'.disk = disk' := by
        cases outcome with
        | goesOn stage => cases heq; rfl
        | returns success => cases success <;> cases heq <;> rfl
      rcases hgrows pin with hsame | ⟨hdir, hnone, -⟩
      · rw [hdisk, hsame, hentry]
      · rw [← hdir, hentry] at hnone
        cases hnone

/-- A call that succeeds leaves a tree. -/
theorem Sound.ready (hagree : ∀ p q, P p → P q → p.dir = q.dir → p.sha256 = q.sha256)
    (hw : Sound tar P w) (h : w.step tar a = some (w', o)) {entry : Option Entry}
    (hready : .ready pin entry ∈ o) :
    w'.disk pin.dir = entry ∧
      ∃ tree, entry = some (.directory tree) ∧ IsPinned tar pin.sha256 tree := by
  cases a with
  | start pid pin =>
    simp only [World.step, Option.ite_none_right_eq_some] at h
    obtain ⟨-, h⟩ := h
    cases h
    cases hready
  | killed =>
    simp only [World.step, Option.ite_none_right_eq_some] at h
    obtain ⟨-, h⟩ := h
    cases h
    cases hready
  | goes answer =>
    simp only [World.step] at h
    split at h
    · cases h
    · next call hcall =>
      obtain ⟨hP, hold⟩ := hw.stands call hcall
      obtain ⟨⟨disk', outcome⟩, hnext, heq⟩ := Option.map_eq_some_iff.1 h
      obtain ⟨hgrows, hout⟩ := Stage.next_spec (hw.dir hP) hnext hold
      cases outcome with
      | goesOn stage =>
        cases heq
        cases hready
      | returns success =>
        cases success with
        | false =>
          cases heq
          simp at hready
        | true =>
          cases heq
          obtain ⟨rfl, rfl⟩ : pin = call.pin ∧ entry = disk' call.pin.dir := by simpa using hready
          refine ⟨rfl, ?_⟩
          cases hthere : disk' call.pin.dir with
          | none =>
            rw [Outcome.Holds, hthere] at hout
            cases hout
          | some there =>
            obtain ⟨tree, rfl, hpinned⟩ :=
              hw.pinned_of_grows hagree hP hgrows call.pin hP there hthere
            exact ⟨tree, rfl, hpinned⟩

/-! ## Whole runs -/

variable {h : List (Move World Act Seen)}

/-- The calls started in a run. -/
def Started (h : List (Move World Act Seen)) (pin : Pin) : Prop :=
  ∃ m ∈ h, ∃ pid, m.act = .start pid pin

/-- What holds from move to move. -/
theorem sound_of_run (hagree : ∀ p q, P p → P q → p.dir = q.dir → p.sha256 = q.sha256)
    (hr : (sourceMachine tar).Run h w) (hstart : ∀ pin, Started h pin → P pin) :
    Sound tar P w ∧ ∀ m ∈ h, Sound tar P m.src ∧ Sound tar P m.dst := by
  refine hr.guarded (g := fun m => ∀ pid pin, m.act = .start pid pin → P pin) ?_ ?_ ?_
  · constructor
    · rintro _ _ _ ⟨⟩
    · rintro _ ⟨⟩
  · intro w a w' o hw hs hg
    exact hw.step hagree hs hg
  · intro m hm pid pin hact
    exact hstart pin ⟨m, hm, pid, hact⟩

/-- A tree that is there when a run goes on is there at every move of it. -/
theorem kept_of_run (hagree : ∀ p q, P p → P q → p.dir = q.dir → p.sha256 = q.sha256)
    {before after : List (Move World Act Seen)} {m : Move World Act Seen} {entry : Entry}
    (hr : (sourceMachine tar).Run (before ++ m :: after) w)
    (hstart : ∀ pin, Started (before ++ m :: after) pin → P pin)
    (hentry : m.dst.disk pin.dir = some entry) :
    w.disk pin.dir = some entry ∧ ∀ later ∈ after, later.src.disk pin.dir = some entry := by
  generalize hh : before ++ m :: after = h at hr hstart
  induction hr generalizing after with
  | nil => simp at hh
  | @snoc h s t a o hr hs ih =>
    have hbefore : ∀ pin, Started h pin → P pin := by
      rintro pin ⟨x, hx, hstarted⟩
      exact hstart pin ⟨x, List.mem_append_left _ hx, hstarted⟩
    have hw : Sound tar P s := (sound_of_run hagree hr hbefore).1
    rcases Machine.split_snoc hh.symm with ⟨rfl, -, rfl⟩ | ⟨after', rfl, heq⟩
    · exact ⟨hentry, by simp⟩
    · obtain ⟨hend, hall⟩ := ih heq.symm hbefore
      refine ⟨hw.kept hs hend, ?_⟩
      intro later hlater
      rcases List.mem_append.1 hlater with hlater | hlater
      · exact hall later hlater
      · rw [List.mem_singleton.1 hlater]
        exact hend

/-- **What is compiled is what is pinned.**  As long as no two pins give one tree two
hashes, whatever the calls are answered and wherever they are killed: when a call returns
0, there is at `build/$dir` exactly the one top-level directory of an archive with the
hash of its pin, and there it is for good. -/
theorem sources_are_pinned (hr : (sourceMachine tar).Run h w)
    (hagree : ∀ p q, Started h p → Started h q → p.dir = q.dir → p.sha256 = q.sha256) :
    ∀ before m after, h = before ++ m :: after → ∀ pin entry, .ready pin entry ∈ m.out →
      (∃ tree, entry = some (.directory tree) ∧ IsPinned tar pin.sha256 tree) ∧
      w.disk pin.dir = entry ∧ ∀ later ∈ after, later.src.disk pin.dir = entry := by
  rintro before m after rfl pin entry hready
  have hmem : m ∈ before ++ m :: after := by simp
  have hw := ((sound_of_run hagree hr fun _ => id).2 m hmem).1
  obtain ⟨hdisk, hpinned⟩ := hw.ready hagree (hr.step_of_mem m hmem) hready
  refine ⟨hpinned, ?_⟩
  obtain ⟨tree, rfl, -⟩ := hpinned
  exact kept_of_run hagree hr (fun _ => id) hdisk

/-- A `tar` that finds one file in one directory in every archive. -/
def oneFile (bytes : Bytes) : Option Archive :=
  some ⟨[(["src".toList], .dir), (["src".toList, ['c']], .file bytes)], by simp⟩

/-- A pin of the empty archive. -/
def emptyPin : Pin := ⟨.openssl, ['3'], emptyHash, by decide⟩

def oks (n : ℕ) : List Act := List.replicate n (.goes .ok)

/-- A call is killed while it downloads, one is sent something else, and one killed while
it unpacks; the next clears that away and unpacks, and the last finds the tree. -/
def interrupted : List Act :=
  [.start 1 emptyPin] ++ oks 2 ++ [.goes (.writes [1]), .killed, .start 2 emptyPin] ++ oks 2 ++
    [.goes (.writes []), .goes .failed, .goes .ok, .start 3 emptyPin] ++ oks 2 ++
    [.goes (.writes [])] ++ oks 7 ++ [.goes (.unpacks ["src".toList] .dir), .killed,
      .start 4 emptyPin] ++ oks 4 ++ [.goes (.erases fun _ => true)] ++ oks 7 ++
    [.start 5 emptyPin] ++ oks 4

/-- The tree of the empty archive. -/
def emptyTree : Entry := .directory [([['c']], .file [])]

theorem sources_are_pinned_interrupted : ∃ h w, (sourceMachine oneFile).Run h w ∧
    Machine.trace h =
      [.refused emptyPin, .ready emptyPin (some emptyTree), .ready emptyPin (some emptyTree)] ∧
    (∃ tree, some emptyTree = some (.directory tree) ∧ IsPinned oneFile emptyHash tree) ∧
    w.disk emptyPin.dir = some emptyTree := by
  have hrun := (sourceMachine oneFile).run_get interrupted (by decide +kernel)
  have htrace : Machine.trace (((sourceMachine oneFile).exec interrupted).get
      (by decide +kernel)).1 =
      [.refused emptyPin, .ready emptyPin (some emptyTree), .ready emptyPin (some emptyTree)] := by
    decide +kernel
  -- all calls are for the one pin
  have hpins : (((sourceMachine oneFile).exec interrupted).get (by decide +kernel)).1.all (fun m =>
      match m.act with
      | .start _ pin => pin = emptyPin
      | _ => true) = true := by
    decide +kernel
  have honly : ∀ pin, Started (((sourceMachine oneFile).exec interrupted).get
      (by decide +kernel)).1 pin → pin = emptyPin := by
    rintro pin ⟨m, hm, pid, hact⟩
    have hpin := List.all_eq_true.1 hpins m hm
    rw [hact] at hpin
    simpa using hpin
  have hready : Seen.ready emptyPin (some emptyTree) ∈ Machine.trace
      (((sourceMachine oneFile).exec interrupted).get (by decide +kernel)).1 := by
    rw [htrace]
    simp
  obtain ⟨m, hm, hout⟩ := List.mem_flatMap.1 hready
  obtain ⟨before, after, hsplit⟩ := List.append_of_mem hm
  have hall := sources_are_pinned hrun (fun p q hp hq _ => by rw [honly p hp, honly q hq]) before m
    after hsplit emptyPin _ hout
  exact ⟨_, _, hrun, htrace, hall.1, hall.2.1⟩

end Source
end Build
end FreerdpPrebuilt
