import FreerdpPrebuilt.Mic.Endpoint
import FreerdpPrebuilt.Mic.Grammar

/-!
# The reply to the host's formats

The endpoint answers the host's FORMATS with the formats it will honour, and
keeps the list: a later OPEN names a place in it.  Windows reads the reply with a
parser of its own and rejects it if a count or a length is off.  So four things have
to agree: the host's list, what is kept of it, the bytes of the reply, and what an
OPEN does.

`reply_agrees` says that they do, for every body of a host.  The counts fit 32 bits
because the parser visits a record for every 18 bytes of the body at most.
-/

namespace FreerdpPrebuilt
namespace Mic

open Camera (le16 le32 readLe32 ofNat_le32)
open Records

/-! ## What is claimed -/

/-- A Sound Formats PDU says what a list of formats is. -/
structure Lists (pdu : Bytes) (accepted : List MicFormat) : Prop where
  /-- NumFormats is the number of records of 18 bytes. -/
  count : (readLe32 pdu 1).toNat = accepted.length
  length : pdu.length = 9 + 18 * accepted.length
  /-- cbSizeFormatsPacket is the length of the PDU. -/
  size : (readLe32 pdu 5).toNat = pdu.length
  /-- Each record is plain PCM at 16 bits, with no extra bytes, and is the format at
  its place. -/
  records : ∀ i format, accepted[i]? = some format →
    readLe16 pdu (9 + 18 * i) = WAVE_FORMAT_PCM ∧ recordFormat pdu (9 + 18 * i) = format ∧
      format.bitsPerSample = PCM_BITS_PER_SAMPLE ∧ cbSize pdu (9 + 18 * i) = 0
  /-- `parse_formats` reads the list back. -/
  parsed : parseFormats pdu.tail = accepted

/-- An OPEN that names an index opens the format at that place of the reply, or is
refused if there is none. -/
def Honours (st : MicState) (pdu : Bytes) (count : ℕ) : Prop :=
  ∀ (channel : Ptr) (body : Bytes) (index : UInt32) (answers : ℕ → Bool),
    parseOpen body = some index →
    (index.toNat < count → handle st channel OPEN body answers =
      ⟨{ st with openFormat := some (recordFormat pdu (9 + 18 * index.toNat)) },
        [⟨channel, .formatChange index, answers 0⟩, ⟨channel, .openReply RESULT_OK, answers 1⟩],
        [.opened (recordFormat pdu (9 + 18 * index.toNat))]⟩) ∧
    (count ≤ index.toNat → handle st channel OPEN body answers =
      ⟨st, [⟨channel, .openReply RESULT_FAIL, answers 0⟩], []⟩)

/-- **What is promised of the answer to a host's FORMATS**: what it keeps, what it
writes, and what later OPENs do as long as that is what is kept. -/
structure AgreesWithReply (st : MicState) (channel : Ptr) (body : Bytes) (answers : ℕ → Bool)
    (r : Outcome) : Prop where
  kept : r.state = { st with
    formats := (parseFormats body).filter (·.bitsPerSample == PCM_BITS_PER_SAMPLE) }
  written : r.writes = [⟨channel, .dataIncoming, answers 0⟩,
    ⟨channel, .formats r.state.formats, answers 1⟩]
  lists : Lists (Message.formats r.state.formats).bytes r.state.formats
  honours : ∀ later : MicState, later.formats = r.state.formats →
    Honours later (Message.formats r.state.formats).bytes r.state.formats.length

/-! ## The bytes of the reply -/

/-- A format as the record it is encoded as. -/
def MicFormat.record (f : MicFormat) : Record where
  tag := WAVE_FORMAT_PCM
  channels := f.channels
  sampleRate := f.sampleRate
  byteRate := f.byteRate
  blockAlign := f.blockAlign
  bitsPerSample := f.bitsPerSample
  extra := []
  short := by decide

theorem audioFormat_eq (f : MicFormat) : audioFormat f = f.record.encode := by
  rw [Record.encode, MicFormat.record, List.append_nil]
  rfl

/-- The reply is a header and the records of the formats. -/
theorem formats_eq (list : List MicFormat) : formats list =
    FORMATS :: encodeFormats (UInt32.ofNat list.length) (UInt32.ofNat (9 + list.length * 18))
      (list.map MicFormat.record) := by
  have hrecords : list.flatMap audioFormat = (list.map MicFormat.record).flatMap Record.encode := by
    rw [List.flatMap_map]
    exact List.flatMap_congr fun f _ => audioFormat_eq f
  rw [formats, hrecords]
  rfl

section

variable {list : List MicFormat}

theorem format_record (f : MicFormat) : f.record.format = some f := rfl

theorem length_records (list : List MicFormat) :
    ((list.map MicFormat.record).flatMap Record.encode).length = 18 * list.length := by
  induction list with
  | nil => rfl
  | cons f list ih =>
    rw [List.map_cons, List.flatMap_cons, List.length_append, ih, length_encode,
      List.length_cons, Nat.mul_succ, Nat.add_comm]
    rfl

theorem length_formats (list : List MicFormat) : (formats list).length = 9 + 18 * list.length := by
  rw [formats_eq, List.length_cons, encodeFormats, List.length_append, length_records]
  simp only [List.length_append, le32, List.length_cons, List.length_nil]
  omega

/-- **`parse_formats` reads the reply back**, if the count fits its field. -/
theorem parseFormats_reply (hcount : list.length ≤ u32Max) :
    parseFormats (formats list).tail = list := by
  have hn : (UInt32.ofNat list.length).toNat = list.length :=
    UInt32.toNat_ofNat_of_lt' (Nat.lt_succ_of_le hcount)
  have hparse := parseFormats_encode (UInt32.ofNat list.length)
    (UInt32.ofNat (9 + list.length * 18)) (list.map MicFormat.record) []
    (.inr rfl)
  rw [List.append_nil, hn, List.take_of_length_le (Nat.le_of_eq (List.length_map _)),
    List.filterMap_map] at hparse
  rw [formats_eq, List.tail_cons, hparse]
  exact (List.filterMap_congr fun f _ => format_record f).trans List.filterMap_some

/-- The record at a place of the reply, with what stands before and behind. -/
theorem formats_split {i : ℕ} {format : MicFormat} (h : list[i]? = some format) :
    ∃ before after, before.length = 9 + 18 * i ∧
      formats list = before ++ (format.record.encode ++ after) := by
  obtain ⟨hi, rfl⟩ := List.getElem?_eq_some_iff.1 h
  have hsplit : list = list.take i ++ list[i] :: list.drop (i + 1) := by
    rw [← List.drop_eq_getElem_cons hi, List.take_append_drop]
  refine ⟨FORMATS :: (le32 (UInt32.ofNat list.length) ++
      le32 (UInt32.ofNat (9 + list.length * 18)) ++
      ((list.take i).map MicFormat.record).flatMap Record.encode),
    ((list.drop (i + 1)).map MicFormat.record).flatMap Record.encode, ?_, ?_⟩
  · rw [List.length_cons, List.length_append, length_records, List.length_take]
    simp only [List.length_append, le32, List.length_cons, List.length_nil]
    omega
  · have hrecords : (list.map MicFormat.record).flatMap Record.encode =
        ((list.take i).map MicFormat.record).flatMap Record.encode ++
          (list[i].record.encode ++
            ((list.drop (i + 1)).map MicFormat.record).flatMap Record.encode) := by
      conv_lhs => rw [hsplit]
      rw [List.map_append, List.flatMap_append, List.map_cons, List.flatMap_cons]
    rw [formats_eq, encodeFormats, hrecords, List.cons_append, ← List.append_assoc (le32 _ ++ _)]

/-- The record at a place is the format there. -/
theorem record_at {i : ℕ} {format : MicFormat} (h : list[i]? = some format) :
    readLe16 (formats list) (9 + 18 * i) = WAVE_FORMAT_PCM ∧
      recordFormat (formats list) (9 + 18 * i) = format ∧
      cbSize (formats list) (9 + 18 * i) = 0 := by
  obtain ⟨before, after, hlength, hsplit⟩ := formats_split h
  rw [hsplit, ← hlength]
  refine ⟨?_, ?_, ?_⟩
  · exact (readLe16_append before _ 0).trans (tag_encode format.record after)
  · rw [recordFormat, readLe16_append, readLe32_append, readLe16_append, channels_encode,
      sampleRate_encode, bitsPerSample_encode]
    rfl
  · rw [cbSize, readLe16_append, cbSize_encode]
    rfl

/-- **A reply that fits 32 bits says what the list is.** -/
theorem lists_formats (hfits : 9 + 18 * list.length ≤ u32Max)
    (hbits : ∀ f ∈ list, f.bitsPerSample = PCM_BITS_PER_SAMPLE) :
    Lists (formats list) list := by
  refine ⟨?_, length_formats list, ?_, ?_, ?_⟩
  · have hread : readLe32 (formats list) 1 = UInt32.ofNat list.length := ofNat_le32 _
    rw [hread, UInt32.toNat_ofNat_of_lt']
    exact Nat.lt_of_le_of_lt (by omega : list.length ≤ u32Max) (by decide)
  · have hread : readLe32 (formats list) 5 = UInt32.ofNat (9 + list.length * 18) := ofNat_le32 _
    rw [hread, length_formats, Nat.mul_comm list.length 18, UInt32.toNat_ofNat_of_lt']
    exact Nat.lt_of_le_of_lt hfits (by decide)
  · intro i format hi
    obtain ⟨htag, hformat, hcb⟩ := record_at hi
    exact ⟨htag, hformat, hbits format (List.mem_of_getElem? hi), hcb⟩
  · exact parseFormats_reply (by omega)

end

/-! ## The endpoint -/

variable {st : MicState} {channel : Ptr} {body : Bytes} {answers : ℕ → Bool}

/-- The parser keeps a format for every 18 bytes of the body at most. -/
theorem length_acceptedFormats (body : Bytes) :
    (acceptedFormats body).length ≤ (body.length - 8) / 18 := by
  obtain ⟨visited, -, hparsed, hroom⟩ := visitFormats_spec body
  have hkept : (acceptedFormats body).length ≤ (parseFormats body).length :=
    List.length_filter_le _ _
  have hread : (parseFormats body).length ≤ visited.length := by
    rw [← hparsed]
    exact List.length_filterMap_le id visited
  exact Nat.le_trans hkept (Nat.le_trans hread hroom)

theorem bits_of_mem_acceptedFormats {f : MicFormat} (h : f ∈ acceptedFormats body) :
    f.bitsPerSample = PCM_BITS_PER_SAMPLE := by
  have hkept := (List.mem_filter.1 h).2
  exact beq_iff_eq.1 hkept

/-- An OPEN is answered from the list that the reply holds. -/
theorem honours_formats {list : List MicFormat} (h : st.formats = list) :
    Honours st (formats list) list.length := by
  intro channel body index answers hopen
  have hhandle : handle st channel OPEN body answers = openReceived st channel body answers := rfl
  rw [hhandle, openReceived, hopen]
  simp only [h]
  constructor
  · intro hinside
    have hat := List.getElem?_eq_getElem hinside
    rw [hat, (record_at hat).2.1]
  · intro houtside
    rw [List.getElem?_eq_none houtside]

/-- **The reply agrees with what the endpoint honours.**  For every body of a
host's FORMATS shorter than `u32::MAX` bytes: what is kept is the 16-bit part of the
host's list, in its order; the reply counts its records and its length without
truncation, holds plain 16-bit PCM records only, and is read back as what is
kept; and an OPEN opens the format at its place of the reply, or is refused. -/
theorem reply_agrees (st : MicState) (channel : Ptr) (body : Bytes) (answers : ℕ → Bool)
    (hshort : body.length < 4294967295) :
    AgreesWithReply st channel body answers (handle st channel FORMATS body answers) := by
  have hroom := length_acceptedFormats body
  have hfits : 9 + 18 * (acceptedFormats body).length ≤ u32Max := by
    rw [Nat.le_div_iff_mul_le (by decide)] at hroom
    unfold u32Max
    omega
  have hhandle : handle st channel FORMATS body answers =
      formatsReceived st channel body answers := rfl
  rw [hhandle]
  refine ⟨rfl, rfl, ?_, ?_⟩
  · exact lists_formats hfits fun f hf => bits_of_mem_acceptedFormats hf
  · intro later hlater
    exact honours_formats hlater

/-- A list of three, of which two are kept; the second of them is opened. -/
theorem reply_agrees_twoOfThree :
    let host := encodeFormats 3 0 [adpcm, extensibleStereo, (MicFormat.mk 1 16000 16).record]
    let r := handle .new 1 FORMATS host fun _ => true
    AgreesWithReply .new 1 host (fun _ => true) r ∧ r.state.formats.length = 2 :=
  ⟨reply_agrees _ _ _ _ (by decide), by decide⟩

end Mic
end FreerdpPrebuilt
