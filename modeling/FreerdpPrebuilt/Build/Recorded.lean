import FreerdpPrebuilt.Build.Digest
import FreerdpPrebuilt.Build.Manifest
import FreerdpPrebuilt.Lib.KeyedLines

/-!
# What is recorded is what is linked

`build.sh` ends by writing the MANIFEST, and `build.rs` begins by reading it: one is
a shell script that echoes lines, the other a parser of its own.  `Record` is what
the script knows when it gets there, and `Record.text` what it echoes.

`recorded_is_linked` is the round trip.  The parser finds the five archives that were
hashed and asks of each that it is still what it was; it links these five, in the
order the script proved, and exactly the system libraries and frameworks it measured.

The paths that `sed` rewrites afterwards stand in the last two lines, which may say
anything.
-/

namespace FreerdpPrebuilt
namespace Build

open Text KeyedLines

/-! ## The rest of the parser -/

/-- `Manifest::list`; the target is an Apple one or not. -/
def Manifest.list (m : Manifest) (apple : Bool) (key : List Char) (fallback : List (List Char)) :
    List (List Char) :=
  match m.get key with
  | some line => if line = "none".toList then [] else splitWhitespace line
  | none => if apple then [] else fallback

/-- The libraries to fall back to. -/
def fallbackLibs (windows : Bool) : List (List Char) :=
  (if windows then
    ["kernel32", "user32", "advapi32", "ws2_32", "crypt32", "secur32", "rpcrt4", "shlwapi",
      "shell32", "gdi32", "ole32", "credui", "cfgmgr32", "dbghelp", "bcrypt", "ncrypt", "ntdll",
      "uuid", "iphlpapi", "setupapi"]
  else ["m", "dl", "pthread", "rt"]).map String.toList

/-- `Manifest::system_libs`, on a target that is an Apple one, a Windows one or neither. -/
def Manifest.systemLibs (m : Manifest) (apple windows : Bool) : List (List Char) :=
  m.list apple "system_libs".toList (fallbackLibs windows)

/-- `Manifest::frameworks`. -/
def Manifest.frameworks (m : Manifest) (apple : Bool) : List (List Char) :=
  m.list apple "frameworks".toList []

/-! ## `build.sh` -/

/-- What the script puts in a variable and echoes. -/
abbrev Value := { v : List Char // OneLine v }

/-- Words the script has collected.  The word `none` stands for there being none. -/
structure Words where
  words : List Word
  ne_none : words.map Subtype.val ≠ ["none".toList]

/-- `${words[*]:-none}`. -/
def Words.text (ws : Words) : List Char :=
  if ws.words = [] then "none".toList else unwords (ws.words.map Subtype.val)

/-- What `build.sh` knows when it writes the MANIFEST. -/
structure Record where
  windows : Bool
  freerdpVersion : Value
  opensslVersion : Value
  target : Value
  freerdpSha256 : Value
  opensslSha256 : Value
  /-- The archives in `$out/lib`. -/
  built : List Char → Bytes
  systemLibs : Words
  frameworks : Words
  channels : Value
  cpuFloor : Value
  probe : Value
  opensslArgs : Value
  cmakeArgs : Value

/-- The names of the libraries, in the order of `link_order`. -/
def libraries : List (List Char) :=
  ["freerdp-client3", "freerdp3", "winpr3", "ssl", "crypto"].map String.toList

/-- `"${archives[@]}" "${ssl_archives[@]}"`. -/
def Record.archives (r : Record) : List (List Char) :=
  if r.windows then
    ["freerdp-client3.lib", "freerdp3.lib", "winpr3.lib", "ssl.lib", "crypto.lib"].map String.toList
  else
    ["libfreerdp-client3.a", "libfreerdp3.a", "libwinpr3.a", "libssl.a", "libcrypto.a"].map
      String.toList

/-- Which C runtime the archives were compiled against. -/
def Record.crt (r : Record) : List Char :=
  if r.windows then "msvcrt (dynamic, /MD; OpenSSL /Zl)".toList else "libc".toList

/-- The lines before those of the archives. -/
def Record.head (r : Record) : List Entry :=
  [("freerdp".toList, r.freerdpVersion), ("openssl".toList, r.opensslVersion),
    ("target".toList, r.target), ("sha256(freerdp-source)".toList, r.freerdpSha256),
    ("sha256(openssl-source)".toList, r.opensslSha256)]

/-- `sha256(lib/$archive)`. -/
def hashKey (archive : List Char) : List Char := hashStart ++ archive ++ [')']

/-- The lines of the archives.  `sha256_of` asks `sha256sum` or `shasum`. -/
def Record.hashes (r : Record) : List Entry :=
  r.archives.map fun archive => (hashKey archive, sha256Of (r.built archive))

/-- The lines behind them. -/
def Record.tail (r : Record) : List Entry :=
  [("libraries".toList, unwords r.archives),
    ("link_order".toList, "-lfreerdp-client3 -lfreerdp3 -lwinpr3 -lssl -lcrypto".toList),
    ("system_libs".toList, r.systemLibs.text), ("frameworks".toList, r.frameworks.text),
    ("cxx_runtime".toList, "none".toList), ("crt".toList, r.crt),
    ("channels".toList, r.channels), ("cpu_floor".toList, r.cpuFloor), ("probe".toList, r.probe),
    ("openssl_args".toList, r.opensslArgs), ("cmake_args".toList, r.cmakeArgs)]

def Record.entries (r : Record) : List Entry := r.head ++ r.hashes ++ r.tail

/-- The MANIFEST. -/
def Record.text (r : Record) : List Char := KeyedLines.text r.entries

theorem plain_of_all {cs : List Char} (h : cs.all (fun c => !isWhitespace c) = true) :
    ∀ c ∈ cs, isWhitespace c = false := by
  intro c hc
  simpa using List.all_eq_true.1 h c hc

/-- The record of a build for Linux, as far as its lines are read. -/
example : Nonempty Record :=
  have value : Value := ⟨"3.30.0".toList, by decide⟩
  ⟨⟨false, value, value, value, value, value, fun _ => [],
    ⟨[⟨"m".toList, by decide, plain_of_all rfl⟩, ⟨"dl".toList, by decide, plain_of_all rfl⟩],
      by decide⟩, ⟨[], by decide⟩, value, value, value, value, value⟩⟩

/-! ## Reading hashes -/

theorem hexDigits_plain : ∀ c ∈ Fips180.hexDigits, isWhitespace c = false := plain_of_all rfl

/-- The digits of a hash hold no white space. -/
theorem sha256Of_plain (bytes : Bytes) : ∀ c ∈ sha256Of bytes, isWhitespace c = false := by
  intro c hc
  exact hexDigits_plain c (Fips180.mem_hexDigits_of_mem_hex hc)

/-- A file is there and has the hash of a line. -/
def Matches (read : List Char → Option Bytes) (listed : List Char × List Char) : Prop :=
  ∃ bytes, read listed.1 = some bytes ∧ sha256Hex bytes = some (trim listed.2)

/-- **What the check asks**: every line it can read as a hash is right. -/
theorem verifyLines_eq_some {read : List Char → Option Bytes} {text : List (List Char)}
    {checked n : ℕ} : verifyLines read text checked = some n ↔
      (∀ listed ∈ text.filterMap hashOfLine, Matches read listed) ∧
        n = checked + (text.filterMap hashOfLine).length := by
  induction text generalizing checked with
  | nil => simp [verifyLines, eq_comm]
  | cons line text ih =>
    rw [verifyLines]
    cases hline : hashOfLine line with
    | none =>
      rw [List.filterMap_cons_none hline]
      exact ih
    | some listed =>
      obtain ⟨name, hash⟩ := listed
      rw [List.filterMap_cons_some hline, List.forall_mem_cons, List.length_cons]
      dsimp only
      cases hread : read name with
      | none =>
        constructor
        · intro h
          cases h
        · rintro ⟨⟨⟨bytes, hbytes, -⟩, -⟩, -⟩
          rw [hread] at hbytes
          cases hbytes
      | some bytes =>
        have hmatch : Matches read (name, hash) ↔ sha256Hex bytes = some (trim hash) := by
          constructor
          · rintro ⟨bytes', hbytes, hsame⟩
            rw [hread] at hbytes
            cases hbytes
            exact hsame
          · intro hsame
            exact ⟨bytes, hread, hsame⟩
        rw [hmatch]
        dsimp only
        split_ifs with hsame
        · rw [ih]
          constructor
          · rintro ⟨hall, rfl⟩
            exact ⟨⟨hsame, hall⟩, by omega⟩
          · rintro ⟨⟨-, hall⟩, rfl⟩
            exact ⟨hall, by omega⟩
        · simp [hsame]

/-- What begins a key begins its line, and nothing else does. -/
theorem isPrefix_line {start : List Char} (hstart : ' ' ∉ start) (e : Entry) :
    start <+: line e ↔ start <+: e.1 := by
  constructor
  · intro h
    rcases List.prefix_or_prefix_of_prefix h (List.prefix_append e.1 (' ' :: e.2)) with h' | h'
    · exact h'
    · obtain ⟨rest, rfl⟩ := h'
      cases rest with
      | nil => simp
      | cons c rest =>
        obtain ⟨rest', hrest⟩ := h
        rw [line, List.append_assoc] at hrest
        have hc := List.cons.inj (List.append_cancel_left hrest)
        exact absurd (hc.1 ▸ List.mem_append_right _ List.mem_cons_self) hstart
  · exact fun h => h.trans (List.prefix_append _ _)

/-- A line with another key is none of an archive. -/
theorem hashOfLine_of_not_prefix {e : Entry} (h : ¬ hashStart <+: e.1) :
    hashOfLine (line e) = none := by
  have hnone : stripPrefix hashStart (line e) = none := by
    rw [Option.eq_none_iff_forall_ne_some]
    intro rest hrest
    exact h ((isPrefix_line (by decide) e).1 ⟨rest, (stripPrefix_eq_some.1 hrest).symm⟩)
  rw [hashOfLine, hnone, Option.bind_none]

theorem hashOfLine_hashKey {archive : List Char} (h : ' ' ∉ archive) (hash : List Char) :
    hashOfLine (line (hashKey archive, hash)) = some (archive, hash) := by
  have hline : line (hashKey archive, hash) = lineOf archive ++ hash := by
    simp [line, hashKey, lineOf, hashEnd]
  rw [hline, hashOfLine_lineOf h]

/-! ## The record, read back -/

variable (r : Record)

/-- The text of an entry's value stands on one line with its key. -/
theorem oneLine_line {key value : List Char} (hkey : '\n' ∉ key) (hvalue : OneLine value) :
    OneLine (line (key, value)) := by
  refine ⟨fun hmem => ?_, ?_⟩
  · rcases List.mem_append.1 hmem with hmem | hmem
    · exact hkey hmem
    · rcases List.mem_cons.1 hmem with hmem | hmem
      · exact absurd hmem (by decide)
      · exact hvalue.1 hmem
  · rw [line, List.getLast?_append_of_ne_nil _ (List.cons_ne_nil _ _)]
    cases value with
    | nil => exact (by decide : [' '].getLast? ≠ some '\r')
    | cons c value =>
      rw [List.getLast?_cons_cons]
      exact hvalue.2

/-- Text without white space other than blanks stands on one line. -/
theorem oneLine_of_plain {l : List Char} (h : ∀ c ∈ l, c = ' ' ∨ isWhitespace c = false) :
    OneLine l := by
  refine ⟨fun hmem => ?_, fun hlast => ?_⟩
  · rcases h _ hmem with hc | hc <;> exact absurd hc (by decide)
  · rcases h _ (List.mem_of_getLast? hlast) with hc | hc <;> exact absurd hc (by decide)

theorem plain_unwords {ws : List (List Char)}
    (h : ∀ w ∈ ws, w ≠ [] ∧ ∀ c ∈ w, isWhitespace c = false) :
    ∀ c ∈ unwords ws, c = ' ' ∨ isWhitespace c = false := by
  induction ws with
  | nil => exact fun c hc => absurd hc List.not_mem_nil
  | cons w ws ih =>
    have hrest := ih fun w' hw' => h w' (List.mem_cons_of_mem _ hw')
    have hw := (h w List.mem_cons_self).2
    cases ws with
    | nil => exact fun c hc => .inr (hw c hc)
    | cons w' ws =>
      intro c hc
      rcases List.mem_append.1 hc with hc | hc
      · exact .inr (hw c hc)
      · exact (List.mem_cons.1 hc).elim .inl (hrest c)

theorem words_plain (ws : Words) :
    ∀ w ∈ ws.words.map Subtype.val, w ≠ [] ∧ ∀ c ∈ w, isWhitespace c = false := by
  intro w hw
  obtain ⟨word, -, rfl⟩ := List.mem_map.1 hw
  exact word.2

theorem Words.oneLine (ws : Words) : OneLine ws.text := by
  rw [Words.text]
  split
  · decide
  · exact oneLine_of_plain (plain_unwords (words_plain ws))

/-- What `list` makes of the words recorded. -/
theorem Words.read (ws : Words) :
    (if trim ws.text = "none".toList then [] else splitWhitespace (trim ws.text)) =
      ws.words.map Subtype.val := by
  have hplain := words_plain ws
  rw [Words.text]
  split_ifs with hempty hnone hnone
  · rw [hempty]
    rfl
  · exact absurd (by decide) hnone
  · rw [trim_unwords hplain] at hnone
    have hwords := congrArg splitWhitespace hnone
    rw [splitWhitespace_unwords hplain] at hwords
    exact absurd hwords ws.ne_none
  · rw [trim_unwords hplain, splitWhitespace_unwords hplain]

theorem archives_plain : ∀ archive ∈ r.archives, archive ≠ [] ∧
    ∀ c ∈ archive, isWhitespace c = false := by
  have hall : r.archives.all (fun archive => archive.all fun c => !isWhitespace c) = true := by
    rw [Record.archives]
    cases r.windows <;> decide
  intro archive harchive
  refine ⟨?_, plain_of_all (List.all_eq_true.1 hall archive harchive)⟩
  rintro rfl
  rw [Record.archives] at harchive
  revert harchive
  cases r.windows <;> decide

/-- No key of the MANIFEST holds a blank, and every entry stands on one line. -/
theorem entries_wellFormed : ∀ e ∈ r.entries, ' ' ∉ e.1 ∧ OneLine (line e) := by
  have hhead : ∀ e ∈ r.head, ' ' ∉ e.1 ∧ OneLine (line e) := by
    simp only [Record.head, List.forall_mem_cons]
    refine ⟨⟨by decide, oneLine_line (by decide) r.freerdpVersion.2⟩,
      ⟨by decide, oneLine_line (by decide) r.opensslVersion.2⟩,
      ⟨by decide, oneLine_line (by decide) r.target.2⟩,
      ⟨by decide, oneLine_line (by decide) r.freerdpSha256.2⟩,
      ⟨by decide, oneLine_line (by decide) r.opensslSha256.2⟩, by simp⟩
  have hhashes : ∀ e ∈ r.hashes, ' ' ∉ e.1 ∧ OneLine (line e) := by
    intro e he
    obtain ⟨archive, harchive, rfl⟩ := List.mem_map.1 he
    have hplain := (archives_plain r archive harchive).2
    have hkey : ∀ c ∈ hashKey archive, isWhitespace c = false := by
      intro c hc
      rcases List.mem_append.1 hc with hc | hc
      · rcases List.mem_append.1 hc with hc | hc
        · exact (plain_of_all rfl : ∀ c ∈ hashStart, _) c hc
        · exact hplain c hc
      · exact (plain_of_all rfl : ∀ c ∈ [')'], _) c hc
    refine ⟨fun hmem => absurd (hkey _ hmem) (by decide), oneLine_line
      (fun hmem => absurd (hkey _ hmem) (by decide))
      (oneLine_of_plain fun c hc => .inr (sha256Of_plain _ c hc))⟩
  have htail : ∀ e ∈ r.tail, ' ' ∉ e.1 ∧ OneLine (line e) := by
    have hcrt : OneLine r.crt := by
      rw [Record.crt]
      split <;> decide
    simp only [Record.tail, List.forall_mem_cons]
    refine ⟨⟨by decide, oneLine_line (by decide) (oneLine_of_plain
        (plain_unwords (archives_plain r)))⟩,
      ⟨by decide, by decide⟩, ⟨by decide, oneLine_line (by decide) r.systemLibs.oneLine⟩,
      ⟨by decide, oneLine_line (by decide) r.frameworks.oneLine⟩, ⟨by decide, by decide⟩,
      ⟨by decide, oneLine_line (by decide) hcrt⟩,
      ⟨by decide, oneLine_line (by decide) r.channels.2⟩,
      ⟨by decide, oneLine_line (by decide) r.cpuFloor.2⟩,
      ⟨by decide, oneLine_line (by decide) r.probe.2⟩,
      ⟨by decide, oneLine_line (by decide) r.opensslArgs.2⟩,
      ⟨by decide, oneLine_line (by decide) r.cmakeArgs.2⟩, by simp⟩
  intro e he
  rcases List.mem_append.1 he with he | he
  · exact (List.mem_append.1 he).elim (hhead e) (hhashes e)
  · exact htail e he

theorem lines_recorded : lines r.text = r.entries.map line :=
  lines_text fun e he => (entries_wellFormed r e he).2

/-- **What is looked up is what was recorded.** -/
theorem get_recorded {key : List Char} (hkey : ' ' ∉ key) :
    (⟨some r.text⟩ : Manifest).get key = (lookup key r.entries).map trim := by
  rw [Manifest.get, Option.bind_some, lines_recorded,
    findSome?_stripPrefix hkey fun e he => (entries_wellFormed r e he).1]

/-- The hashes that are read are those of the archives. -/
theorem hashes_recorded : (lines r.text).filterMap hashOfLine =
    r.archives.map fun archive => (archive, sha256Of (r.built archive)) := by
  have hnone : ∀ es : List Entry, (∀ e ∈ es, ¬ hashStart <+: e.1) →
      (es.map line).filterMap hashOfLine = [] := by
    intro es hes
    rw [List.filterMap_eq_nil_iff]
    intro l hl
    obtain ⟨e, he, rfl⟩ := List.mem_map.1 hl
    exact hashOfLine_of_not_prefix (hes e he)
  have harchives : ∀ as : List (List Char), (∀ a ∈ as, ' ' ∉ a) →
      ((as.map fun a => (hashKey a, sha256Of (r.built a))).map line).filterMap hashOfLine =
        as.map fun a => (a, sha256Of (r.built a)) := by
    intro as has
    induction as with
    | nil => rfl
    | cons a as ih =>
      rw [List.map_cons, List.map_cons, List.map_cons,
        List.filterMap_cons_some (hashOfLine_hashKey (has a List.mem_cons_self) _),
        ih fun b hb => has b (List.mem_cons_of_mem _ hb)]
  rw [lines_recorded, Record.entries, List.map_append, List.map_append, List.filterMap_append,
    List.filterMap_append, hnone r.head, hnone r.tail, List.append_nil, List.nil_append]
  · exact harchives r.archives fun a ha hmem =>
      absurd ((archives_plain r a ha).2 _ hmem) (by decide)
  · simp only [Record.tail, List.forall_mem_cons]
    refine ⟨?_, ?_, ?_, ?_, ?_, ?_, ?_, ?_, ?_, ?_, ?_, by simp⟩ <;> decide
  · simp only [Record.head, List.forall_mem_cons]
    refine ⟨?_, ?_, ?_, ?_, ?_, by simp⟩ <;> decide

/-! ## The round trip -/

theorem lookup_append (key : List Char) (es es' : List Entry) :
    lookup key (es ++ es') = (lookup key es).or (lookup key es') := by
  rw [lookup, lookup, lookup, List.find?_append]
  cases es.find? fun e => decide (e.1 = key) <;> rfl

/-- A key behind the hashes is found there. -/
theorem lookup_entries {key : List Char} (hhead : ∀ e ∈ r.head, e.1 ≠ key)
    (hkey : ¬ hashStart <+: key) : lookup key r.entries = lookup key r.tail := by
  have hnone : ∀ es : List Entry, (∀ e ∈ es, e.1 ≠ key) → lookup key es = none := by
    intro es hes
    rw [lookup, List.find?_eq_none.2 fun e he => by simpa using hes e he]
    rfl
  rw [Record.entries, lookup_append, lookup_append, hnone r.head hhead, hnone r.hashes]
  · rfl
  · intro e he heq
    obtain ⟨archive, -, rfl⟩ := List.mem_map.1 he
    refine hkey (heq ▸ ?_)
    rw [hashKey, List.append_assoc]
    exact List.prefix_append _ _

/-- A list of words is read as it was recorded. -/
theorem list_recorded {key : List Char} {ws : Words} (hkey : ' ' ∉ key)
    (hlookup : lookup key r.entries = some ws.text) (apple : Bool)
    (fallback : List (List Char)) :
    (⟨some r.text⟩ : Manifest).list apple key fallback = ws.words.map Subtype.val := by
  rw [Manifest.list, get_recorded r hkey, hlookup]
  exact ws.read

/-- The archives are those of the libraries. -/
theorem archives_eq : r.archives = libraries.map (archive r.windows) := by
  rw [Record.archives]
  cases r.windows <;> decide

/-- **What is recorded is what is linked.**  A MANIFEST that `build.sh` wrote is
accepted exactly when every archive in `lib/` has the hash of the one that was built;
the libraries linked are those whose archives are hashed, in the recorded order; and
the system libraries and the frameworks are those recorded. -/
theorem recorded_is_linked (read : List Char → Option Bytes) (provenance : List Char)
    (apple windows : Bool) :
    (verifyLibraries ⟨some r.text, read, provenance⟩ = some ⟨some r.text⟩ ↔
      ∀ name ∈ libraries, ∃ bytes, read (archive r.windows name) = some bytes ∧
        sha256Hex bytes = sha256Hex (r.built (archive r.windows name))) ∧
    (⟨some r.text⟩ : Manifest).linkOrder = some libraries ∧
    (⟨some r.text⟩ : Manifest).systemLibs apple windows = r.systemLibs.words.map Subtype.val ∧
    (⟨some r.text⟩ : Manifest).frameworks apple = r.frameworks.words.map Subtype.val := by
  have hplain : ∀ bytes, trim (sha256Of bytes) = sha256Of bytes := fun bytes =>
    trim_eq_self (fun c hc => sha256Of_plain bytes c (List.mem_of_mem_head? hc))
      fun c hc => sha256Of_plain bytes c (List.mem_of_getLast? hc)
  refine ⟨?_, ?_, ?_, ?_⟩
  · have hverify : (∃ checked, verifyLines read (lines r.text) 0 = some checked) ↔
        ∀ name ∈ libraries, ∃ bytes, read (archive r.windows name) = some bytes ∧
          sha256Hex bytes = sha256Hex (r.built (archive r.windows name)) := by
      simp only [verifyLines_eq_some, hashes_recorded, archives_eq, List.forall_mem_map, Matches,
        hplain, ← sha256Hex_eq, exists_and_left, exists_eq, and_true]
    have hpos : ∀ checked, verifyLines read (lines r.text) 0 = some checked → 0 < checked := by
      intro checked hchecked
      rw [(verifyLines_eq_some.1 hchecked).2, hashes_recorded, archives_eq, List.length_map,
        List.length_map]
      decide
    rw [← hverify, verifyLibraries]
    dsimp only
    constructor
    · intro haccept
      split at haccept
      · cases haccept
      · next checked hchecked => exact ⟨checked, hchecked⟩
    · rintro ⟨checked, hchecked⟩
      rw [hchecked]
      exact if_pos (hpos checked hchecked)
  · have hlookup : lookup "link_order".toList r.entries =
        some "-lfreerdp-client3 -lfreerdp3 -lwinpr3 -lssl -lcrypto".toList := by
      rw [lookup_entries r (by simp [Record.head]) (by decide)]
      rfl
    rw [Manifest.linkOrder, get_recorded r (by decide), hlookup]
    decide +kernel
  · refine list_recorded r (by decide) ?_ apple _
    rw [lookup_entries r (by simp [Record.head]) (by decide)]
    rfl
  · refine list_recorded r (by decide) ?_ apple _
    rw [lookup_entries r (by simp [Record.head]) (by decide)]
    rfl

end Build
end FreerdpPrebuilt
