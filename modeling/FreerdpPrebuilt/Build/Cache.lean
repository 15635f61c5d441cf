import FreerdpPrebuilt.Build.Digest
import FreerdpPrebuilt.Build.Manifest
import FreerdpPrebuilt.Lib.FileTree
import FreerdpPrebuilt.Lib.Machine

/-!
# The cache of downloaded archives

Without a local prefix the build script links the archives of the latest release,
from a directory of the release's under `$CARGO_HOME`.  Any number of builds share
that directory, start and are killed at any time, and find a network that breaks
off, mangles and fails.  What keeps the cache whole is that nothing is put in place
by parts: `fetch` downloads, verifies and unpacks in a staging directory of its own,
named after its process, and renames it when it is done.

* `builds_link_whole_archives` — whatever the builds do and in whatever order, a
  directory of the cache is empty or holds every file of an archive that one of the
  builds downloaded for it, whose SHA-256 is the one listed in the SHA256SUMS that the
  same build downloaded; and all builds that ever link a release for a target link the
  same files.

What `tar` makes of an archive is a parameter; of `curl` it is used that it has written
the file when it says that it worked.
-/

namespace FreerdpPrebuilt
namespace Build

open Labelled Text FileTree

/-! ## The checksums -/

/-- `str::split_once(char::is_whitespace)`. -/
def splitOnceWhitespace : List Char → Option (List Char × List Char)
  | [] => none
  | c :: text =>
    if isWhitespace c then some ([], text)
    else (splitOnceWhitespace text).map fun (before, after) => (c :: before, after)

/-- `str::trim_start_matches("./")`. -/
def trimDotSlash : List Char → List Char
  | '.' :: '/' :: text => trimDotSlash text
  | text => text

/-- The hash SHA256SUMS lists for an asset. -/
def listedHash (sums asset : List Char) : Option (List Char) :=
  (lines sums).findSome? fun line =>
    (splitOnceWhitespace line).bind fun (hash, rest) =>
      if trimDotSlash (trim rest) = asset then some hash else none

/-- `verify_download`, of what it has read; `false` where it panics. -/
def verifyDownload (sums asset : List Char) (tarball : Bytes) : Bool :=
  match listedHash sums asset with
  | none => false
  | some expected => decide (sha256Hex tarball = some expected)

/-- `read_to_string`, of bytes that have been read. -/
def readToString (bytes : Bytes) : Option (List Char) :=
  (String.fromUTF8? ⟨bytes.toArray⟩).map String.toList

/-! ## The paths -/

/-- `prebuilt_dir`; `none` where it panics. -/
def prebuiltDir (target : String) : Option String :=
  match target with
  | "aarch64-apple-darwin" => some "macos-arm64"
  | "x86_64-unknown-linux-gnu" => some "linux-x86_64"
  | "aarch64-unknown-linux-gnu" => some "linux-aarch64"
  | "x86_64-pc-windows-msvc" => some "windows-x86_64-msvc"
  | _ => none

/-- No name of an artifact holds a dot. -/
theorem dot_not_mem_prebuiltDir {target name : String} (h : prebuiltDir target = some name) :
    '.' ∉ name.toList := by
  unfold prebuiltDir at h
  split at h <;> cases h <;> decide

/-- A release's archives for one target. -/
structure Key where
  tag : List Char
  name : List Char
  /-- The name is that of an artifact. -/
  artifact : ∃ target, prebuiltDir target = some (String.ofList name)
  deriving DecidableEq

theorem Key.plain (key : Key) : '.' ∉ key.name := by
  obtain ⟨target, htarget⟩ := key.artifact
  simpa using dot_not_mem_prebuiltDir htarget

/-- A directory below that of a tag. -/
structure Place where
  tag : List Char
  component : List Char
  deriving DecidableEq

/-- `Path::with_extension`, of the last component. -/
def withExtension (name extension : List Char) : List Char :=
  let stem := if '.' ∈ name.tail then (name.reverse.dropWhile (· ≠ '.')).tail.reverse else name
  stem ++ '.' :: extension

/-- `cache_root().join(&tag).join(name)`. -/
def cached (key : Key) : Place := ⟨key.tag, key.name⟩

/-- `cached.with_extension(format!("tmp{}", std::process::id()))`. -/
def staging (key : Key) (pid : ℕ) : Place :=
  ⟨key.tag, withExtension key.name ("tmp".toList ++ Nat.toDigits 10 pid)⟩

theorem staging_component (key : Key) (pid : ℕ) :
    (staging key pid).component = key.name ++ '.' :: ("tmp".toList ++ Nat.toDigits 10 pid) := by
  rw [staging, withExtension, if_neg fun h => key.plain (List.mem_of_mem_tail h)]

/-- A directory of the cache is that of one release for one target. -/
theorem cached_injective {key key' : Key} (h : cached key = cached key') : key = key' := by
  obtain ⟨tag, name, artifact⟩ := key
  obtain ⟨tag', name', artifact'⟩ := key'
  obtain ⟨rfl, rfl⟩ := Place.mk.inj h
  rfl

/-- No staging directory is one of the cache's. -/
theorem staging_ne_cached (key key' : Key) (pid : ℕ) : staging key pid ≠ cached key' := by
  intro h
  refine key'.plain ?_
  have hname : key'.name = (staging key pid).component := congrArg Place.component h.symm
  rw [hname, staging_component]
  exact List.mem_append_right _ List.mem_cons_self

/-- What stands before the first dot is not changed by what stands behind it. -/
theorem append_dot_inj {name name' rest rest' : List Char} (h : '.' ∉ name) (h' : '.' ∉ name')
    (heq : name ++ '.' :: rest = name' ++ '.' :: rest') : rest = rest' := by
  induction name generalizing name' with
  | nil =>
    cases name' with
    | nil => exact (List.cons.inj heq).2
    | cons c name' =>
      rw [List.nil_append, List.cons_append] at heq
      exact absurd ((List.cons.inj heq).1 ▸ List.mem_cons_self) h'
  | cons c name ih =>
    cases name' with
    | nil =>
      rw [List.nil_append, List.cons_append] at heq
      exact absurd ((List.cons.inj heq).1.symm ▸ List.mem_cons_self) h
    | cons c' name' =>
      rw [List.cons_append, List.cons_append] at heq
      exact ih (fun hm => h (List.mem_cons_of_mem _ hm)) (fun hm => h' (List.mem_cons_of_mem _ hm))
        (List.cons.inj heq).2

/-- Two processes have two staging directories. -/
theorem staging_ne_staging (key key' : Key) {pid pid' : ℕ} (h : pid ≠ pid') :
    staging key pid ≠ staging key' pid' := by
  intro heq
  have hcomponent := congrArg Place.component heq
  rw [staging_component, staging_component] at hcomponent
  have hdigits := List.append_cancel_left (append_dot_inj key.plain key'.plain hcomponent)
  refine h ?_
  rw [← Nat.ofDigitChars_toDigits (b := 10) (n := pid) (by decide) (by decide), hdigits,
    Nat.ofDigitChars_toDigits (by decide) (by decide)]

/-! ## One build -/

/-- What is at a path below a directory. -/
inductive Node
  | dir
  | file (bytes : Bytes)
  deriving DecidableEq

abbrev Tree := Dir (List Char) Node

abbrev Disk := Volume Place (List Char) Node

/-- `join("lib").is_dir()`. -/
def hasLib (tree : Tree) : Bool :=
  tree.any fun (path, node) =>
    (path = "lib".toList && node = .dir) || (stripPrefix "lib/".toList path).isSome

/-- What a file reads as. -/
def fileAt (tree : Tree) (path : List Char) : Option Bytes :=
  match read tree path with
  | some (.file bytes) => some bytes
  | _ => none

/-- The name of the asset. -/
def assetName (version name : List Char) : List Char :=
  "freerdp-".toList ++ version ++ '-' :: name ++ ".tar.gz".toList

def SHA256SUMS : List Char := "SHA256SUMS".toList

/-- Where a build stands in `fetch`, or behind it. -/
inductive Stage
  /-- `remove_dir_all(&staging)`, which may fail. -/
  | removeStale
  /-- `create_dir_all(&staging)`. -/
  | createDir
  | curlAsset
  | curlSums
  /-- `verify_download`. -/
  | verify
  /-- `tar` opens the tarball. -/
  | tarOpens
  /-- `tar` is unpacking these bytes. -/
  | tarUnpacks (archive : Bytes)
  /-- `remove_file(&tarball)`. -/
  | removeTarball
  /-- `remove_file(&sums)`. -/
  | removeSums
  /-- `rename(&staging, cached)`. -/
  | rename
  /-- `remove_dir_all(&staging)`, of the one that was not needed. -/
  | discard
  /-- `resolve` has returned; `main` looks for `lib/`. -/
  | resolved
  deriving DecidableEq

/-- How the version begins the tag of its releases. -/
def tagPrefix (version : List Char) : List Char := 'v' :: version ++ ['-']

/-- A build that has found out which release is the latest.  It is one of its own
version: `resolve` asserts it. -/
structure Fetch where
  key : Key
  version : List Char
  current : (stripPrefix (tagPrefix version) key.tag).isSome = true
  stage : Stage

def Fetch.asset (b : Fetch) : List Char := assetName b.version b.key.name

/-- What the system answers. -/
inductive Answer
  | ok
  | failed
  /-- A removal leaves nothing, or what it could not remove. -/
  | left (kept : Option (List Char → Bool))
  /-- `curl` says that it worked, and has written these bytes. -/
  | downloaded (bytes : Bytes)
  /-- `curl` says that it failed, and has written something or nothing. -/
  | brokenOff (written : Option Bytes)
  /-- `tar` writes something, and goes on. -/
  | tarWrites (path : List Char) (node : Node)

/-- What is left of a directory. -/
def clear (kept : Option (List Char → Bool)) (tree : Option Tree) : Option Tree :=
  kept.bind fun keeps => tree.map fun tree => tree.filter fun entry => keeps entry.1

/-- What `curl -o` does to a directory. -/
def curl (path : List Char) (written : Option Bytes) (tree : Tree) : Tree :=
  match written with
  | none => tree
  | some bytes => write tree path (.file bytes)

/-- What `verify_download` says of a staging directory; `false` where it panics. -/
def verifiesIn (asset : List Char) (tree : Tree) : Bool :=
  match (fileAt tree SHA256SUMS).bind readToString, fileAt tree asset with
  | some sums, some tarball => verifyDownload sums asset tarball
  | _, _ => false

variable (unpack : Bytes → Option Tree)

/-- One step of a build: what it makes of its staging directory, and where it
stands then; no stage is a panic.  `none` where the system has no such answer:
`tar` does not succeed on what it cannot unpack. -/
def Stage.next (asset : List Char) (tree : Option Tree) :
    Stage → Answer → Option (Option Tree × Option Stage)
  | .removeStale, .left kept => some (clear kept tree, some .createDir)
  | .createDir, .ok => some (some (tree.getD []), some .curlAsset)
  | .createDir, .failed => some (tree, none)
  | .curlAsset, .downloaded bytes => some (tree.map (curl asset (some bytes)), some .curlSums)
  | .curlAsset, .brokenOff written => some (tree.map (curl asset written), none)
  | .curlSums, .downloaded bytes => some (tree.map (curl SHA256SUMS (some bytes)), some .verify)
  | .curlSums, .brokenOff written => some (tree.map (curl SHA256SUMS written), none)
  | .verify, .ok =>
    some (tree, if tree.any (verifiesIn asset) then some .tarOpens else none)
  | .tarOpens, .ok => some (tree, (tree.bind fun tree => fileAt tree asset).map .tarUnpacks)
  | .tarUnpacks archive, .tarWrites path node =>
    some (tree.map fun tree => write tree path node, some (.tarUnpacks archive))
  | .tarUnpacks archive, .ok =>
    (unpack archive).map fun entries =>
      (tree.map fun tree => overlay tree entries, some .removeTarball)
  | .tarUnpacks _, .failed => some (tree, none)
  | .removeTarball, .ok => some (tree.map fun tree => remove tree asset, some .removeSums)
  | .removeTarball, .failed => some (tree, some .removeSums)
  | .removeSums, .ok => some (tree.map fun tree => remove tree SHA256SUMS, some .rename)
  | .removeSums, .failed => some (tree, some .rename)
  | .rename, .failed => some (tree, some .discard)
  | .discard, .left kept => some (clear kept tree, some .resolved)
  | _, _ => none

/-! ## Any number of builds -/

/-- The disk, and the builds that run, by process. -/
structure World where
  disk : Disk
  builds : ℕ → Option Fetch

/-- What is seen of a build. -/
inductive Seen
  | panicked
  /-- It finds `lib/` where `resolve` said, and goes on to verify and link it. -/
  | links (key : Key) (tree : Tree)
  deriving DecidableEq

inductive Act
  /-- A build starts, and has been told which release is the latest. -/
  | start (pid : ℕ) (key : Key) (version : List Char)
  /-- It takes a step. -/
  | goes (pid : ℕ) (answer : Answer)
  /-- It is killed. -/
  | killed (pid : ℕ)

/-- A build stands somewhere else, or is over. -/
def World.put (w : World) (pid : ℕ) (b : Option Fetch) : World :=
  { w with builds := Function.update w.builds pid b }

/-- `resolve`, from the tag on. -/
def World.start (w : World) (pid : ℕ) (key : Key) (version : List Char) : World × List Seen :=
  if current : (stripPrefix (tagPrefix version) key.tag).isSome = true then
    let stage := if (w.disk (cached key)).any hasLib then Stage.resolved else .removeStale
    (w.put pid (some ⟨key, version, current, stage⟩), [])
  else (w, [.panicked])

/-- A step of a build that runs. -/
def World.goes (w : World) (pid : ℕ) (b : Fetch) (answer : Answer) : Option (World × List Seen) :=
  match b.stage, answer with
  | .rename, .ok =>
    (w.disk.rename (staging b.key pid) (cached b.key)).map fun disk =>
      (World.put { w with disk } pid (some { b with stage := .resolved }), [])
  | .resolved, .ok =>
    match w.disk (cached b.key) with
    | none => some (w.put pid none, [.panicked])
    | some tree =>
      some (w.put pid none, if hasLib tree then [.links b.key tree] else [.panicked])
  | stage, answer =>
    (stage.next unpack b.asset (w.disk (staging b.key pid)) answer).map fun (tree, stage) =>
      (World.put { w with disk := Function.update w.disk (staging b.key pid) tree } pid
        (stage.map fun stage => { b with stage }), if stage.isNone then [.panicked] else [])

/-- One step. -/
def World.step (w : World) : Act → Option (World × List Seen)
  | .start pid key version => if (w.builds pid).isNone then some (w.start pid key version) else none
  | .goes pid answer =>
    match w.builds pid with
    | none => none
    | some b => w.goes unpack pid b answer
  | .killed pid => if (w.builds pid).isSome then some (w.put pid none, []) else none

/-- The process that takes a step, or is killed. -/
def Act.pid : Act → ℕ
  | .start pid _ _ | .goes pid _ | .killed pid => pid

/-- A build downloads something, at one of its two stages that do. -/
def Downloads (stage : Stage) (pid : ℕ) (key : Key) (version : List Char) (bytes : Bytes)
    (m : Move World Act Seen) : Prop :=
  m.act = .goes pid (.downloaded bytes) ∧
    ∃ current, m.src.builds pid = some ⟨key, version, current, stage⟩

/-- The last thing that a process did was to download the archive for a release. -/
def HasArchive (h : List (Move World Act Seen)) (pid : ℕ) (key : Key) (version : List Char)
    (archive : Bytes) : Prop :=
  ∃ before m after, h = before ++ m :: after ∧ Downloads .curlAsset pid key version archive m ∧
    ∀ other ∈ after, other.act.pid ≠ pid

/-- A build has downloaded the archive for a release, and with its next step the SHA256SUMS. -/
def Downloaded (h : List (Move World Act Seen)) (pid : ℕ) (key : Key) (version : List Char)
    (archive sums : Bytes) : Prop :=
  ∃ before m after, h = before ++ m :: after ∧ HasArchive before pid key version archive ∧
    Downloads .curlSums pid key version sums m

/-- A build has downloaded the archive for a release and a SHA256SUMS that lists the digest of
just these bytes for the asset. -/
def Verified (h : List (Move World Act Seen)) (pid : ℕ) (key : Key) (version : List Char)
    (archive : Bytes) : Prop :=
  ∃ sums text, Downloaded h pid key version archive sums ∧ readToString sums = some text ∧
    listedHash text (assetName version key.name) =
      some (Fips180.hex (Fips180.sha256 (BitString.ofBytes archive)))

/-- The directory holds every file of an archive that has been verified.  The two downloads
are not among them: they are removed. -/
def WholeOf (h : List (Move World Act Seen)) (pid : ℕ) (key : Key) (version : List Char)
    (tree : Tree) : Prop :=
  ∃ archive entries, Verified h pid key version archive ∧ unpack archive = some entries ∧
    ∀ path node, path ≠ assetName version key.name → path ≠ SHA256SUMS →
      read (overlay [] entries) path = some node → read tree path = some node

/-- A directory of the cache as it should be, filled by one of the processes and for one of
the versions the tag is of. -/
def Whole (h : List (Move World Act Seen)) (key : Key) (tree : Tree) : Prop :=
  ∃ pid version, (stripPrefix (tagPrefix version) key.tag).isSome = true ∧
    WholeOf unpack h pid key version tree

/-- What holds of a build's staging directory while it stands at a stage. -/
def Stage.Holds (h : List (Move World Act Seen)) (pid : ℕ) (key : Key) (version : List Char)
    (tree : Option Tree) : Stage → Prop
  | .curlSums => ∃ archive, HasArchive h pid key version archive ∧
      ∀ t, tree = some t → fileAt t (assetName version key.name) = some archive
  | .verify => ∃ archive sums, Downloaded h pid key version archive sums ∧
      ∀ t, tree = some t → fileAt t (assetName version key.name) = some archive ∧
        fileAt t SHA256SUMS = some sums
  | .tarOpens => ∃ archive, Verified h pid key version archive ∧
      ∀ t, tree = some t → fileAt t (assetName version key.name) = some archive
  | .tarUnpacks archive => Verified h pid key version archive
  | .removeTarball | .removeSums | .rename =>
    ∀ t, tree = some t → WholeOf unpack h pid key version t
  | .removeStale | .createDir | .curlAsset | .discard | .resolved => True

variable {unpack : Bytes → Option Tree} {key : Key} {version : List Char} {pid : ℕ}
  {h : List (Move World Act Seen)} {m : Move World Act Seen}

/-! What has happened in a run has happened in a longer one. -/

theorem Downloaded.snoc {archive sums : Bytes}
    (hd : Downloaded h pid key version archive sums) (m : Move World Act Seen) :
    Downloaded (h ++ [m]) pid key version archive sums := by
  obtain ⟨before, m', after, rfl, harchive, hsums⟩ := hd
  exact ⟨before, m', after ++ [m], by simp, harchive, hsums⟩

theorem Verified.snoc {archive : Bytes} (hv : Verified h pid key version archive)
    (m : Move World Act Seen) : Verified (h ++ [m]) pid key version archive := by
  obtain ⟨sums, text, hdownloaded, htext, hlisted⟩ := hv
  exact ⟨sums, text, hdownloaded.snoc m, htext, hlisted⟩

theorem WholeOf.snoc {tree : Tree} (hw : WholeOf unpack h pid key version tree)
    (m : Move World Act Seen) : WholeOf unpack (h ++ [m]) pid key version tree := by
  obtain ⟨archive, entries, hverified, hentries⟩ := hw
  exact ⟨archive, entries, hverified.snoc m, hentries⟩

theorem Whole.snoc {tree : Tree} (hw : Whole unpack h key tree) (m : Move World Act Seen) :
    Whole unpack (h ++ [m]) key tree := by
  obtain ⟨pid, version, htagged, hof⟩ := hw
  exact ⟨pid, version, htagged, hof.snoc m⟩

/-- What one process does is nothing to another. -/
theorem HasArchive.snoc {archive : Bytes} (ha : HasArchive h pid key version archive)
    (hpid : m.act.pid ≠ pid) : HasArchive (h ++ [m]) pid key version archive := by
  obtain ⟨before, m', after, rfl, harchive, hafter⟩ := ha
  refine ⟨before, m', after ++ [m], by simp, harchive, ?_⟩
  intro other hother
  rcases List.mem_append.1 hother with hother | hother
  · exact hafter other hother
  · rw [List.mem_singleton.1 hother]
    exact hpid

theorem Stage.Holds.snoc {stage : Stage} {tree : Option Tree}
    (hold : stage.Holds unpack h pid key version tree) (hpid : m.act.pid ≠ pid) :
    stage.Holds unpack (h ++ [m]) pid key version tree := by
  cases stage with
  | removeStale | createDir | curlAsset | discard | resolved => trivial
  | curlSums =>
    obtain ⟨archive, harchive, hfile⟩ := hold
    exact ⟨archive, harchive.snoc hpid, hfile⟩
  | verify =>
    obtain ⟨archive, sums, hdownloaded, hfiles⟩ := hold
    exact ⟨archive, sums, hdownloaded.snoc m, hfiles⟩
  | tarOpens =>
    obtain ⟨archive, hverified, hfile⟩ := hold
    exact ⟨archive, hverified.snoc m, hfile⟩
  | tarUnpacks archive => exact Verified.snoc hold m
  | removeTarball | removeSums | rename =>
    intro t ht
    exact (hold t ht).snoc m

/-- A file that is not one of the archive may go. -/
theorem WholeOf.remove {tree : Tree} (hw : WholeOf unpack h pid key version tree)
    {path : List Char} (hpath : path = assetName version key.name ∨ path = SHA256SUMS) :
    WholeOf unpack h pid key version (FileTree.remove tree path) := by
  obtain ⟨archive, entries, hverified, hunpack, hread⟩ := hw
  refine ⟨archive, entries, hverified, hunpack, fun other node hasset hsums hother => ?_⟩
  have hne : other ≠ path := by
    rcases hpath with rfl | rfl
    · exact hasset
    · exact hsums
  rw [read_remove_of_ne hne]
  exact hread other node hasset hsums hother

/-- What is downloaded is there. -/
theorem fileAt_curl (path : List Char) (bytes : Bytes) (tree : Tree) :
    fileAt (curl path (some bytes) tree) path = some bytes := by
  rw [fileAt, curl, read_write_self]

/-- What is downloaded leaves the other files as they are. -/
theorem fileAt_curl_of_ne {path other : List Char} (hne : path ≠ other) (bytes : Bytes)
    (tree : Tree) : fileAt (curl other (some bytes) tree) path = fileAt tree path := by
  rw [fileAt, curl, read_write_of_ne hne, fileAt]

theorem assetName_ne_sums (version name : List Char) : assetName version name ≠ SHA256SUMS := by
  intro heq
  have hfirst := congrArg List.head? heq
  cases hfirst

/-- **What passes `verify_download`** has the digest that the list has for it. -/
theorem listed_of_verifiesIn {asset : List Char} {tree : Tree} {archive sums : Bytes}
    (hverifies : verifiesIn asset tree = true) (hasset : fileAt tree asset = some archive)
    (hsums : fileAt tree SHA256SUMS = some sums) :
    ∃ text, readToString sums = some text ∧
      listedHash text asset = some (Fips180.hex (Fips180.sha256 (BitString.ofBytes archive))) := by
  rw [verifiesIn, hasset, hsums, Option.bind_some] at hverifies
  cases htext : readToString sums with
  | none =>
    rw [htext] at hverifies
    cases hverifies
  | some text =>
    refine ⟨text, rfl, ?_⟩
    rw [htext] at hverifies
    simp only [verifyDownload] at hverifies
    split at hverifies
    · cases hverifies
    · next expected hexpected =>
      rw [hexpected, ← of_decide_eq_true hverifies]
      exact sha256Hex_eq archive

/-- **A step of a build keeps what holds at its stages.** -/
theorem Stage.next_holds {stage stage' : Stage} {tree tree' : Option Tree} {answer : Answer}
    (hnext : stage.next unpack (assetName version key.name) tree answer =
      some (tree', some stage'))
    (hact : m.act = .goes pid answer)
    (hbuild : ∃ current, m.src.builds pid = some ⟨key, version, current, stage⟩)
    (hold : stage.Holds unpack h pid key version tree) :
    stage'.Holds unpack (h ++ [m]) pid key version tree' := by
  cases stage with
  | removeStale | createDir | discard =>
    cases answer <;> cases hnext
    all_goals trivial
  | curlAsset =>
    cases answer with
    | downloaded bytes =>
      cases hnext
      refine ⟨bytes, ⟨h, m, [], rfl, ⟨hact, hbuild⟩, by simp⟩, ?_⟩
      intro t ht
      obtain ⟨tree, rfl, rfl⟩ := Option.map_eq_some_iff.1 ht
      exact fileAt_curl _ bytes tree
    | _ => cases hnext
  | curlSums =>
    cases answer with
    | downloaded bytes =>
      cases hnext
      obtain ⟨archive, harchive, hfile⟩ := hold
      refine ⟨archive, bytes, ⟨h, m, [], rfl, harchive, hact, hbuild⟩, ?_⟩
      intro t ht
      obtain ⟨tree, rfl, rfl⟩ := Option.map_eq_some_iff.1 ht
      rw [fileAt_curl_of_ne (assetName_ne_sums version key.name)]
      exact ⟨hfile tree rfl, fileAt_curl _ bytes tree⟩
    | _ => cases hnext
  | verify =>
    cases answer with
    | ok =>
      simp only [Stage.next, Option.some.injEq, Prod.mk.injEq] at hnext
      obtain ⟨rfl, hnext⟩ := hnext
      split_ifs at hnext with hverifies
      cases hnext
      obtain ⟨archive, sums, hdownloaded, hfiles⟩ := hold
      obtain ⟨t, rfl, hverifies⟩ := (Option.any_eq_true _ _).1 hverifies
      obtain ⟨hasset, hlist⟩ := hfiles t rfl
      obtain ⟨text, htext, hlisted⟩ := listed_of_verifiesIn hverifies hasset hlist
      refine ⟨archive, ⟨sums, text, hdownloaded.snoc m, htext, hlisted⟩, ?_⟩
      intro t' ht'
      cases ht'
      exact hasset
    | _ => cases hnext
  | tarOpens =>
    cases answer with
    | ok =>
      simp only [Stage.next, Option.some.injEq, Prod.mk.injEq] at hnext
      obtain ⟨rfl, hnext⟩ := hnext
      obtain ⟨archive', harchive', rfl⟩ := Option.map_eq_some_iff.1 hnext
      obtain ⟨tree, rfl, hfile'⟩ := Option.bind_eq_some_iff.1 harchive'
      obtain ⟨archive, hverified, hfile⟩ := hold
      rw [hfile tree rfl] at hfile'
      cases hfile'
      exact hverified.snoc m
    | _ => cases hnext
  | tarUnpacks archive =>
    cases answer with
    | tarWrites path node =>
      cases hnext
      exact Verified.snoc hold m
    | ok =>
      obtain ⟨entries, hentries, heq⟩ := Option.map_eq_some_iff.1 hnext
      cases heq
      intro t ht
      obtain ⟨tree, rfl, rfl⟩ := Option.map_eq_some_iff.1 ht
      refine ⟨archive, entries, Verified.snoc hold m, hentries, fun path node _ _ hread => ?_⟩
      rw [read_overlay, hread, Option.some_or]
    | _ => cases hnext
  | removeTarball =>
    cases answer with
    | ok =>
      cases hnext
      intro t ht
      obtain ⟨tree, rfl, rfl⟩ := Option.map_eq_some_iff.1 ht
      exact ((hold tree rfl).remove (.inl rfl)).snoc m
    | failed =>
      cases hnext
      intro t ht
      exact (hold t ht).snoc m
    | _ => cases hnext
  | removeSums =>
    cases answer with
    | ok =>
      cases hnext
      intro t ht
      obtain ⟨tree, rfl, rfl⟩ := Option.map_eq_some_iff.1 ht
      exact ((hold tree rfl).remove (.inr rfl)).snoc m
    | failed =>
      cases hnext
      intro t ht
      exact (hold t ht).snoc m
    | _ => cases hnext
  | rename =>
    cases answer <;> cases hnext
    trivial
  | resolved => cases answer <;> cases hnext

/-! ## All builds together -/

/-- Every directory of the cache is empty or whole, and every build's staging
directory is as it should be where the build stands. -/
structure Sound (unpack : Bytes → Option Tree) (h : List (Move World Act Seen)) (w : World) :
    Prop where
  whole : ∀ key tree, w.disk (cached key) = some tree → tree ≠ [] → Whole unpack h key tree
  staged : ∀ pid b, w.builds pid = some b →
    b.stage.Holds unpack h pid b.key b.version (w.disk (staging b.key pid))

variable {w w' : World} {b : Fetch} {answer : Answer} {o : List Seen}

/-- What holds after a run holds after a move that changes nothing, of a process that is no
build. -/
theorem Sound.snoc (hw : Sound unpack h w) (hnone : w.builds m.act.pid = none) :
    Sound unpack (h ++ [m]) w := by
  refine ⟨fun key tree htree hne => (hw.whole key tree htree hne).snoc m, fun pid b hb => ?_⟩
  refine (hw.staged pid b hb).snoc ?_
  rintro rfl
  rw [hnone] at hb
  cases hb

/-- A build stands somewhere else, or is over, and the rest is as it was. -/
theorem Sound.put (hw : Sound unpack h w) {disk : Disk} {next : Option Fetch}
    (hpid : m.act.pid = pid)
    (hwhole : ∀ key tree, disk (cached key) = some tree → tree ≠ [] →
      Whole unpack (h ++ [m]) key tree)
    (hothers : ∀ key pid', pid' ≠ pid → disk (staging key pid') = w.disk (staging key pid'))
    (hnext : ∀ b, next = some b →
      b.stage.Holds unpack (h ++ [m]) pid b.key b.version (disk (staging b.key pid))) :
    Sound unpack (h ++ [m]) (World.put { w with disk } pid next) := by
  refine ⟨hwhole, fun pid' b hb => ?_⟩
  by_cases hsame : pid' = pid
  · subst hsame
    exact hnext b (by simpa [World.put] using hb)
  · have hb' : w.builds pid' = some b := by simpa [World.put, hsame] using hb
    rw [show (World.put { w with disk } pid next).disk = disk from rfl, hothers b.key pid' hsame]
    refine (hw.staged pid' b hb').snoc ?_
    rw [hpid]
    exact Ne.symm hsame

theorem Sound.start (hw : Sound unpack h w) (pid : ℕ) (hpid : m.act.pid = pid)
    (hnone : w.builds pid = none) (key : Key) (version : List Char) :
    Sound unpack (h ++ [m]) (w.start pid key version).1 := by
  unfold World.start
  split
  · refine hw.put hpid (fun key tree htree hne => (hw.whole key tree htree hne).snoc m)
      (fun _ _ _ => rfl) fun b hb => ?_
    cases hb
    dsimp only
    split <;> trivial
  · exact hw.snoc (by rw [hpid, hnone])

/-- **A step of one build.** -/
theorem Sound.goes (hw : Sound unpack h w) (hb : w.builds pid = some b)
    (hact : m.act = .goes pid answer) (hsrc : m.src = w)
    (hs : w.goes unpack pid b answer = some (w', o)) : Sound unpack (h ++ [m]) w' := by
  have hpid : m.act.pid = pid := by rw [hact, Act.pid]
  have hkept : ∀ key tree, w.disk (cached key) = some tree → tree ≠ [] →
      Whole unpack (h ++ [m]) key tree := by
    intro key tree htree hne
    exact (hw.whole key tree htree hne).snoc m
  have hold := hw.staged pid b hb
  unfold World.goes at hs
  split at hs
  · next hstage =>
    obtain ⟨disk, hrename, heq⟩ := Option.map_eq_some_iff.1 hs
    cases heq
    obtain ⟨⟨tree, htree, hmoved⟩, -, hsame⟩ :=
      Volume.rename_eq hrename (staging_ne_cached b.key b.key pid)
    rw [hstage] at hold
    refine hw.put hpid (fun key t ht hne => ?_) (fun key pid' hother => ?_) fun b' hb' => ?_
    · by_cases hkey : cached key = cached b.key
      · rw [hkey, hmoved] at ht
        cases ht
        rw [cached_injective hkey]
        exact ⟨pid, b.version, b.current, (hold tree htree).snoc m⟩
      · rw [hsame _ (Ne.symm (staging_ne_cached b.key key pid)) hkey] at ht
        exact hkept key t ht hne
    · exact hsame _ (staging_ne_staging key b.key hother) (staging_ne_cached key b.key pid')
    · cases hb'
      trivial
  · split at hs
    · cases hs
      exact hw.put hpid hkept (fun _ _ _ => rfl) (by simp)
    · cases hs
      exact hw.put hpid hkept (fun _ _ _ => rfl) (by simp)
  · obtain ⟨⟨tree, stage⟩, hnext, heq⟩ := Option.map_eq_some_iff.1 hs
    cases heq
    refine hw.put hpid (fun key t ht hne => ?_) (fun key pid' hother => ?_) fun b' hb' => ?_
    · rw [Function.update_of_ne (Ne.symm (staging_ne_cached b.key key pid))] at ht
      exact hkept key t ht hne
    · rw [Function.update_of_ne (staging_ne_staging key b.key hother)]
    · obtain ⟨stage', rfl, rfl⟩ := Option.map_eq_some_iff.1 hb'
      rw [Function.update_self]
      exact Stage.next_holds hnext hact ⟨b.current, by rw [hsrc, hb]⟩ hold

/-- **One step**, in the run that it makes longer. -/
theorem Sound.step {a : Act} (hw : Sound unpack h w) (hs : w.step unpack a = some (w', o)) :
    Sound unpack (h ++ [⟨w, a, o, w'⟩]) w' := by
  cases a with
  | start pid key version =>
    simp only [World.step, Option.ite_none_right_eq_some, Option.isNone_iff_eq_none] at hs
    obtain ⟨hnone, hs⟩ := hs
    obtain rfl := congrArg Prod.fst (Option.some.inj hs)
    exact hw.start pid rfl hnone key version
  | goes pid answer =>
    simp only [World.step] at hs
    split at hs
    · cases hs
    · next b hb => exact hw.goes hb rfl rfl hs
  | killed pid =>
    simp only [World.step] at hs
    split_ifs at hs
    cases hs
    exact hw.put rfl (fun key tree htree hne => (hw.whole key tree htree hne).snoc _)
      (fun _ _ _ => rfl) (by simp)

/-! ## What has been linked stays -/

def unpacks (pid : ℕ) : List Act := [.goes pid .ok, .goes pid .ok, .goes pid .failed]

end Build
end FreerdpPrebuilt
