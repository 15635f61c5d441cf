import FreerdpPrebuilt.Mic.Wire
import FreerdpPrebuilt.Lib.Records
import Mathlib.Data.List.GetD
import Mathlib.Data.List.ReduceOption

/-!
# The record grammar of the host's formats

A Sound Formats PDU is a header and a run of AUDIO_FORMAT records, each an
18-byte base and as many extra bytes as its `cbSize` says.  A record is PCM
plainly, or is EXTENSIBLE and names PCM at the start of the SubFormat in its extra
bytes.

* `Record` is the grammar: a record as data, and its bytes.
* `visitFormats` is `parse_formats` once more, with every slice checked as the
  source checks it: it fails where the source would panic.
* `parses_grammar` is the promise: on the bytes of records the parser reads
  exactly the PCM ones among those that are counted, and on no bytes at all does
  a read leave the body.
-/

namespace FreerdpPrebuilt
namespace Mic

open Camera (le16 le32 readLe32 ofNat_le32)
open Records

/-! ## The grammar -/

/-- An AUDIO_FORMAT record. -/
structure Record where
  tag : UInt16
  channels : UInt16
  sampleRate : UInt32
  byteRate : UInt32
  blockAlign : UInt16
  bitsPerSample : UInt16
  extra : Bytes
  /-- `cbSize` holds the number of extra bytes. -/
  short : extra.length < 65536

/-- The bytes of a record. -/
def Record.encode (r : Record) : Bytes :=
  le16 r.tag ++ le16 r.channels ++ le32 r.sampleRate ++ le32 r.byteRate ++ le16 r.blockAlign ++
    le16 r.bitsPerSample ++ le16 (UInt16.ofNat r.extra.length) ++ r.extra

/-- The SubFormat is behind the valid bits and the channel mask; a wave tag leads
it. -/
def Record.subTag (r : Record) : Bytes := (r.extra.drop 6).take 2

/-- The record is PCM, plainly or by its SubFormat. -/
def Record.isPcm (r : Record) : Bool :=
  r.tag == WAVE_FORMAT_PCM ||
    (r.tag == WAVE_FORMAT_EXTENSIBLE && decide (22 ≤ r.extra.length) &&
      r.subTag == le16 WAVE_FORMAT_PCM)

/-- What the record is read as. -/
def Record.format (r : Record) : Option MicFormat :=
  if r.isPcm then some ⟨r.channels, r.sampleRate, r.bitsPerSample⟩ else none

/-- A list of formats as the host sends it, after the message's id. -/
def encodeFormats (n cbSizeFormatsPacket : UInt32) (records : List Record) : Bytes :=
  le32 n ++ le32 cbSizeFormatsPacket ++ records.flatMap Record.encode

/-! ## The parser's reads -/

/-- `u16::from_le_bytes(body[o..o + 2])`. -/
def u16at (body : Bytes) (position : ℕ) : Option UInt16 :=
  if position + 2 ≤ body.length then some (readLe16 body position) else none

/-- `u32::from_le_bytes(body[o..o + 4])`. -/
def u32at (body : Bytes) (position : ℕ) : Option UInt32 :=
  if position + 4 ≤ body.length then some (readLe32 body position) else none

/-- Whether the record is PCM; the SubFormat is read only if the record claims one
and the body holds it. -/
def isPcmAt (body : Bytes) (position : ℕ) (tag : UInt16) (cbSize : ℕ) : Option Bool :=
  if tag == WAVE_FORMAT_PCM then some true
  else if tag == WAVE_FORMAT_EXTENSIBLE && decide (22 ≤ cbSize) &&
      decide (position + 26 ≤ body.length) then
    (u16at body (position + 24)).map (· == WAVE_FORMAT_PCM)
  else some false

/-- One turn of the loop: the record's length, and what it is read as. -/
def visitRecord (body : Bytes) (position : ℕ) : Option (ℕ × Option MicFormat) := do
  let tag ← u16at body position
  let channels ← u16at body (position + 2)
  let sampleRate ← u32at body (position + 4)
  let bits ← u16at body (position + 14)
  let cbSize ← u16at body (position + 16)
  let isPcm ← isPcmAt body position tag cbSize.toNat
  return (18 + cbSize.toNat, if isPcm then some ⟨channels, sampleRate, bits⟩ else none)

/-- The loop: one entry for each record it visits. -/
def visitRecords (body : Bytes) : ℕ → ℕ → Option (List (Option MicFormat))
  | 0, _ => some []
  | num + 1, position =>
    if body.length < position + 18 then some []
    else do
      let (size, format) ← visitRecord body position
      let rest ← visitRecords body num (position + size)
      return format :: rest

/-- `parse_formats`, with every slice checked. -/
def visitFormats (body : Bytes) : Option (List (Option MicFormat)) :=
  if body.length < 8 then some []
  else do
    let num ← u32at body 0
    visitRecords body num.toNat 8

/-! ## The layout -/

/-- The records as `parse_formats` walks over them. -/
def layout : Layout UInt8 MicFormat where
  base := 18
  size body position := 18 + cbSize body position
  read body position := if isPcm body position then some (recordFormat body position) else none

/-- The loop of `parse_formats` is the walk. -/
theorem parseRecords_eq (body : Bytes) (num position : ℕ) :
    parseRecords body num position = layout.walk body num position := by
  induction num generalizing position with
  | zero => rfl
  | succ num ih =>
    rw [parseRecords]
    by_cases hfits : body.length < position + 18
    · rw [if_pos hfits, Layout.walk, visits_succ_of_lt num hfits]
      rfl
    · have hnext := ih (position + (18 + cbSize body position))
      have hwalk : layout.walk body (num + 1) position =
          (layout.read body position).toList ++
            layout.walk body num (position + (18 + cbSize body position)) := by
        rw [Layout.walk, visits_succ_of_le num (Nat.not_lt.1 hfits), List.filterMap_cons]
        cases layout.read body position <;> rfl
      rw [if_neg hfits, hwalk, hnext]
      cases hpcm : isPcm body position <;> simp [layout, hpcm]

/-! ### Reads -/

section

variable {body : Bytes} {position : ℕ}

theorem u16at_eq (h : position + 2 ≤ body.length) :
    u16at body position = some (readLe16 body position) := if_pos h

theorem u32at_eq (h : position + 4 ≤ body.length) :
    u32at body position = some (readLe32 body position) := if_pos h

/-- The guard of the SubFormat's read is its bound. -/
theorem isPcmAt_eq :
    isPcmAt body position (readLe16 body position) (cbSize body position) =
      some (isPcm body position) := by
  unfold isPcmAt isPcm
  cases readLe16 body position == WAVE_FORMAT_PCM with
  | true => rfl
  | false =>
    cases hguard : readLe16 body position == WAVE_FORMAT_EXTENSIBLE &&
      decide (22 ≤ cbSize body position) && decide (position + 26 ≤ body.length) with
    | true =>
      have hthere : position + 26 ≤ body.length := by simpa using (Bool.and_eq_true_iff.1 hguard).2
      rw [u16at_eq hthere]
      rfl
    | false => rfl

/-- **A record whose base is there is read within the body.** -/
theorem visitRecord_eq (h : position + 18 ≤ body.length) :
    visitRecord body position = some (layout.size body position, layout.read body position) := by
  have htag : u16at body position = some _ := u16at_eq (by omega)
  have hchannels : u16at body (position + 2) = some _ := u16at_eq (by omega)
  have hrate : u32at body (position + 4) = some _ := u32at_eq (by omega)
  have hbits : u16at body (position + 14) = some _ := u16at_eq (by omega)
  have hcb : u16at body (position + 16) = some _ := u16at_eq (by omega)
  rw [visitRecord, htag, hchannels, hrate, hbits, hcb]
  show (isPcmAt body position (readLe16 body position) (cbSize body position)).bind _ = _
  rw [isPcmAt_eq]
  rfl

/-- Every record that is visited is read. -/
theorem visitRecords_eq (body : Bytes) (num position : ℕ) :
    visitRecords body num position =
      some ((layout.visits body num position).map (layout.read body)) := by
  induction num generalizing position with
  | zero => rfl
  | succ num ih =>
    rw [visitRecords]
    by_cases hfits : body.length < position + 18
    · rw [if_pos hfits, visits_succ_of_lt num hfits]
      rfl
    · have hbase : position + 18 ≤ body.length := Nat.not_lt.1 hfits
      rw [if_neg hfits, visitRecord_eq hbase, visits_succ_of_le num hbase]
      show (visitRecords body num (position + layout.size body position)).bind _ = _
      rw [ih]
      rfl

/-- **Every read of `parse_formats` is within the body**, what it returns is what
it reads, and it visits no more records than the body has room for. -/
theorem visitFormats_spec (body : Bytes) : ∃ visited, visitFormats body = some visited ∧
    visited.reduceOption = parseFormats body ∧ visited.length ≤ (body.length - 8) / 18 := by
  by_cases hshort : body.length < 8
  · refine ⟨[], if_pos hshort, ?_, Nat.zero_le _⟩
    rw [parseFormats, if_pos hshort]
    rfl
  · have hcount : u32at body 0 = some (readLe32 body 0) := u32at_eq (by omega)
    have hvisit : visitFormats body =
        some ((layout.visits body (readLe32 body 0).toNat 8).map (layout.read body)) := by
      rw [visitFormats, if_neg hshort, hcount]
      exact visitRecords_eq body _ 8
    refine ⟨_, hvisit, ?_, ?_⟩
    · rw [parseFormats, if_neg hshort, parseRecords_eq, Layout.walk, List.reduceOption,
        List.filterMap_map]
      rfl
    · have hroom :
          layout.base * (layout.visits body (readLe32 body 0).toNat 8).length ≤ body.length - 8 :=
        mul_length_visits_le (fun p => Nat.le_add_right 18 _) _ 8
      rw [List.length_map, Nat.le_div_iff_mul_le (by decide), Nat.mul_comm]
      exact hroom

end

/-! ### Encoded records -/

theorem getD_append_add (before rest : Bytes) (i : ℕ) :
    (before ++ rest).getD (before.length + i) 0 = rest.getD i 0 := by
  rw [List.getD_append_right _ _ _ _ (Nat.le_add_right _ _), Nat.add_sub_cancel_left]

/-- What is read behind some bytes does not depend on them. -/
theorem readLe16_append (before rest : Bytes) (i : ℕ) :
    readLe16 (before ++ rest) (before.length + i) = readLe16 rest i := by
  rw [readLe16, Nat.add_assoc, getD_append_add, getD_append_add]
  rfl

theorem readLe32_append (before rest : Bytes) (i : ℕ) :
    readLe32 (before ++ rest) (before.length + i) = readLe32 rest i := by
  simp only [readLe32, Nat.add_assoc, getD_append_add]

/-- Two bytes are a number's if it is read off them. -/
theorem readLe16_eq_iff {bytes : Bytes} {position : ℕ} (h : position + 2 ≤ bytes.length)
    (value : UInt16) :
    readLe16 bytes position = value ↔ (bytes.drop position).take 2 = le16 value := by
  have hbytes : (bytes.drop position).take 2 =
      [bytes.getD position 0, bytes.getD (position + 1) 0] := by
    rw [List.drop_eq_getElem_cons (by omega), List.drop_eq_getElem_cons (by omega),
      List.getD_eq_getElem _ _ (by omega), List.getD_eq_getElem _ _ (by omega)]
    rfl
  rw [hbytes, readLe16]
  generalize bytes.getD position 0 = low
  generalize bytes.getD (position + 1) 0 = high
  have hlow : low.toNat < 256 := low.toNat_lt
  have hhigh : high.toNat < 256 := high.toNat_lt
  constructor
  · rintro rfl
    simp only [le16, List.cons.injEq, and_true]
    constructor <;> apply UInt8.toNat.inj <;>
      simp only [UInt8.toNat_ofNat', UInt16.toNat_ofNat'] <;> omega
  · intro heq
    obtain ⟨rfl, rfl⟩ : low = _ ∧ high = _ := by simpa [le16] using heq
    exact ofNat_le16 value

section

variable (r : Record) (after : Bytes)

theorem length_encode : r.encode.length = 18 + r.extra.length := by
  simp [Record.encode, le16, le32]
  omega

/-- The fields of an encoded record. -/
theorem tag_encode : readLe16 (r.encode ++ after) 0 = r.tag := ofNat_le16 r.tag

theorem channels_encode : readLe16 (r.encode ++ after) 2 = r.channels := ofNat_le16 r.channels

theorem sampleRate_encode : readLe32 (r.encode ++ after) 4 = r.sampleRate :=
  ofNat_le32 r.sampleRate

theorem bitsPerSample_encode : readLe16 (r.encode ++ after) 14 = r.bitsPerSample :=
  ofNat_le16 r.bitsPerSample

theorem cbSize_encode : (readLe16 (r.encode ++ after) 16).toNat = r.extra.length := by
  have hsize : readLe16 (r.encode ++ after) 16 = UInt16.ofNat r.extra.length :=
    ofNat_le16 (UInt16.ofNat r.extra.length)
  rw [hsize, UInt16.toNat_ofNat_of_lt' r.short]

/-- The SubFormat's tag is among the record's own bytes. -/
theorem subTag_encode (h : 22 ≤ r.extra.length) :
    (readLe16 (r.encode ++ after) 24 == WAVE_FORMAT_PCM) =
      (r.subTag == le16 WAVE_FORMAT_PCM) := by
  have hskip : readLe16 (r.encode ++ after) 24 = readLe16 (r.extra ++ after) 6 := rfl
  have hbytes : ((r.extra ++ after).drop 6).take 2 = r.subTag := by
    rw [Record.subTag, List.drop_append_of_le_length (by omega),
      List.take_append_of_le_length (by rw [List.length_drop]; omega)]
  have hiff : readLe16 (r.extra ++ after) 6 = WAVE_FORMAT_PCM ↔
      ((r.extra ++ after).drop 6).take 2 = le16 WAVE_FORMAT_PCM :=
    readLe16_eq_iff (by rw [List.length_append]; omega) _
  rw [hskip, Bool.eq_iff_iff, beq_iff_eq, beq_iff_eq, hiff, hbytes]

end

/-- **A record is measured and read as itself, wherever it stands.** -/
theorem encodes : Encodes layout Record.encode Record.format where
  base_le r := by
    rw [length_encode]
    exact Nat.le_add_right 18 _
  size before r after := by
    show 18 + (readLe16 (before ++ (r.encode ++ after)) (before.length + 16)).toNat = _
    rw [readLe16_append, cbSize_encode, length_encode]
  read before r after := by
    have hcb : cbSize (before ++ (r.encode ++ after)) before.length = r.extra.length := by
      rw [cbSize, readLe16_append, cbSize_encode]
    have htag : readLe16 (before ++ (r.encode ++ after)) before.length = r.tag := by
      have h := readLe16_append before (r.encode ++ after) 0
      rw [tag_encode] at h
      exact h
    have hsub := readLe16_append before (r.encode ++ after) 24
    have hpcm : isPcm (before ++ (r.encode ++ after)) before.length = r.isPcm := by
      rw [isPcm, Record.isPcm, hcb, htag, hsub]
      by_cases hextra : 22 ≤ r.extra.length
      · have hthere : before.length + 26 ≤ (before ++ (r.encode ++ after)).length := by
          simp only [List.length_append, length_encode]
          omega
        rw [subTag_encode r after hextra, decide_eq_true hthere, Bool.and_true]
      · simp [hextra]
    have hformat : recordFormat (before ++ (r.encode ++ after)) before.length =
        ⟨r.channels, r.sampleRate, r.bitsPerSample⟩ := by
      rw [recordFormat, readLe16_append, readLe32_append, readLe16_append, channels_encode,
        sampleRate_encode, bitsPerSample_encode]
    show (if isPcm _ _ = true then _ else none) = _
    rw [hpcm, hformat, Record.format]

/-! ## The promise -/

/-- The parser on a header and records: it reads the first `n` of them, or all if
nothing follows. -/
theorem parseFormats_encode (n cbSizeFormatsPacket : UInt32) (records : List Record)
    (after : Bytes) (hn : n.toNat ≤ records.length ∨ after = []) :
    parseFormats (encodeFormats n cbSizeFormatsPacket records ++ after) =
      (records.take n.toNat).filterMap Record.format := by
  have hshort : ¬(encodeFormats n cbSizeFormatsPacket records ++ after).length < 8 := by
    simp [encodeFormats, le32]
  have hcount : readLe32 (encodeFormats n cbSizeFormatsPacket records ++ after) 0 = n :=
    ofNat_le32 n
  have hend : n.toNat ≤ records.length ∨ after.length < layout.base := by
    refine hn.imp_right ?_
    rintro rfl
    exact Nat.succ_pos 17
  have hwalk := walk_encode encodes records (le32 n ++ le32 cbSizeFormatsPacket) after n.toNat hend
  rw [parseFormats, if_neg hshort, hcount, parseRecords_eq, encodeFormats, List.append_assoc]
  exact hwalk

/-- **`parse_formats` accepts exactly the record grammar.**  With a count of at
most the records there are, whatever follows them, it returns the formats of the
PCM records among the counted ones, in order; with a larger count and nothing
behind the records, those of all PCM records.  And on every body, with whatever
count and sizes it claims, every read is within the body and no more records are
visited than it has room for. -/
theorem parses_grammar (n cbSizeFormatsPacket : UInt32) (records : List Record) :
    (n.toNat ≤ records.length → ∀ after,
      parseFormats (encodeFormats n cbSizeFormatsPacket records ++ after) =
        (records.take n.toNat).filterMap Record.format) ∧
    (records.length < n.toNat →
      parseFormats (encodeFormats n cbSizeFormatsPacket records) =
        records.filterMap Record.format) ∧
    ∀ body, ∃ visited, visitFormats body = some visited ∧
      visited.reduceOption = parseFormats body ∧ visited.length ≤ (body.length - 8) / 18 := by
  refine ⟨?_, ?_, visitFormats_spec⟩
  · intro hn after
    exact parseFormats_encode n cbSizeFormatsPacket records after (.inl hn)
  · intro hn
    have hall := parseFormats_encode n cbSizeFormatsPacket records [] (.inr rfl)
    rw [List.append_nil, List.take_of_length_le (Nat.le_of_lt hn)] at hall
    exact hall

/-- Stereo at 44.1 kHz, as Windows 11 lists it: EXTENSIBLE, with the PCM SubFormat. -/
def extensibleStereo : Record where
  tag := WAVE_FORMAT_EXTENSIBLE
  channels := 2
  sampleRate := 44100
  byteRate := 176400
  blockAlign := 4
  bitsPerSample := 16
  extra := [16, 0, 3, 0, 0, 0, 1, 0, 0, 0, 0, 0, 16, 0, 128, 0, 0, 170, 0, 56, 155, 113]
  short := by decide

/-- ADPCM, with four extra bytes. -/
def adpcm : Record where
  tag := 2
  channels := 2
  sampleRate := 44100
  byteRate := 44359
  blockAlign := 2048
  bitsPerSample := 4
  extra := [244, 7, 7, 0]
  short := by decide

theorem parses_grammar_extensible :
    parseFormats (encodeFormats 2 829 [adpcm, extensibleStereo] ++ [0xFF]) = [⟨2, 44100, 16⟩] ∧
    parseFormats (encodeFormats 9 0 [adpcm, extensibleStereo]) = [⟨2, 44100, 16⟩] :=
  ⟨(parses_grammar 2 829 [adpcm, extensibleStereo]).1 (by decide) [0xFF],
    (parses_grammar 9 0 [adpcm, extensibleStereo]).2.1 (by decide)⟩

end Mic
end FreerdpPrebuilt
