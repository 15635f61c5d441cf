import FreerdpPrebuilt.Camera.Wire

/-!
# The messages of MS-RDPEAI

The builders and parsers of `mic.rs`'s `wire`: what a microphone endpoint says,
as bytes, and what it reads off the host's messages.  Little-endian throughout,
one message per channel write, under a bare one-byte id.
-/

namespace FreerdpPrebuilt
namespace Mic

open Camera (le16 le32 readLe32)

/-! ## Constants -/

/-- The version this endpoint speaks. -/
def SNDIN_VERSION : UInt32 := 2

def WAVE_FORMAT_PCM : UInt16 := 0x0001
def WAVE_FORMAT_EXTENSIBLE : UInt16 := 0xFFFE

/-- The sample depth this endpoint accepts. -/
def PCM_BITS_PER_SAMPLE : UInt16 := 16

def VERSION : UInt8 := 0x01
def FORMATS : UInt8 := 0x02
def OPEN : UInt8 := 0x03
def OPEN_REPLY : UInt8 := 0x04
def DATA_INCOMING : UInt8 := 0x05
def DATA : UInt8 := 0x06
def FORMAT_CHANGE : UInt8 := 0x07

/-- `S_OK`. -/
def RESULT_OK : UInt32 := 0

/-- `E_FAIL`. -/
def RESULT_FAIL : UInt32 := 0x80004005

/-! ## Formats -/

/-- A PCM capture format: what the host asks the microphone to produce. -/
structure MicFormat where
  channels : UInt16
  sampleRate : UInt32
  bitsPerSample : UInt16
  deriving DecidableEq, Repr

/-- `MicFormat::block_align`: saturating, since the channels are the host's
number. -/
def MicFormat.blockAlign (f : MicFormat) : UInt16 :=
  UInt16.ofNat (min (f.channels.toNat * (f.bitsPerSample / 8).toNat) 65535)

/-- `MicFormat::byte_rate`: saturating for the same reason. -/
def MicFormat.byteRate (f : MicFormat) : UInt32 :=
  UInt32.ofNat (min (f.sampleRate.toNat * f.blockAlign.toNat) u32Max)

/-! ## Builders -/

def version (v : UInt32) : Bytes := VERSION :: le32 v

/-- The 18-byte WAVEFORMATEX, with no extra bytes. -/
def audioFormat (f : MicFormat) : Bytes :=
  le16 WAVE_FORMAT_PCM ++ le16 f.channels ++ le32 f.sampleRate ++ le32 f.byteRate ++
    le16 f.blockAlign ++ le16 f.bitsPerSample ++ le16 0

/-- The Sound Formats PDU: its length field is that of the whole PDU. -/
def formats (list : List MicFormat) : Bytes :=
  let total := UInt32.ofNat (9 + list.length * 18)
  FORMATS :: le32 (UInt32.ofNat list.length) ++ le32 total ++ list.flatMap audioFormat

def openReply (result : UInt32) : Bytes := OPEN_REPLY :: le32 result

def formatChange (index : UInt32) : Bytes := FORMAT_CHANGE :: le32 index

def dataIncoming : Bytes := [DATA_INCOMING]

def data (pcm : Bytes) : Bytes := DATA :: pcm

/-! ## Parsers -/

/-- `u16::from_le_bytes` of the two bytes at a position. -/
def readLe16 (body : Bytes) (position : ℕ) : UInt16 :=
  UInt16.ofNat ((body.getD position 0).toNat + 256 * (body.getD (position + 1) 0).toNat)

/-- The two bytes of a number make the number. -/
theorem ofNat_le16 (value : UInt16) :
    UInt16.ofNat ((UInt8.ofNat value.toNat).toNat +
      256 * (UInt8.ofNat (value.toNat / 256)).toNat) = value := by
  have hlt : value.toNat < 65536 := value.toNat_lt
  apply UInt16.toNat.inj
  simp only [UInt8.toNat_ofNat', UInt16.toNat_ofNat']
  omega

def parseVersion (body : Bytes) : Option UInt32 :=
  if 4 ≤ body.length then some (readLe32 body 0) else none

/-- `cbSize` of the record at a position. -/
def cbSize (body : Bytes) (position : ℕ) : ℕ := (readLe16 body (position + 16)).toNat

/-- Whether the record at a position is PCM, plainly or by its subtype.  The
subtype is read only if the record claims it and the body holds it. -/
def isPcm (body : Bytes) (position : ℕ) : Bool :=
  readLe16 body position == WAVE_FORMAT_PCM ||
    (readLe16 body position == WAVE_FORMAT_EXTENSIBLE && decide (22 ≤ cbSize body position) &&
      decide (position + 26 ≤ body.length) && readLe16 body (position + 24) == WAVE_FORMAT_PCM)

/-- The format of the record at a position. -/
def recordFormat (body : Bytes) (position : ℕ) : MicFormat :=
  ⟨readLe16 body (position + 2), readLe32 body (position + 4), readLe16 body (position + 14)⟩

/-- The loop of `parse_formats`: at most `num` records from a position on, as
far as the body goes. -/
def parseRecords (body : Bytes) : ℕ → ℕ → List MicFormat
  | 0, _ => []
  | num + 1, position =>
    if body.length < position + 18 then []
    else
      let rest := parseRecords body num (position + (18 + cbSize body position))
      if isPcm body position then recordFormat body position :: rest else rest

/-- `parse_formats`: every PCM format the host offers. -/
def parseFormats (body : Bytes) : List MicFormat :=
  if body.length < 8 then [] else parseRecords body (readLe32 body 0).toNat 8

/-- `parse_open`: the index of the initial format. -/
def parseOpen (body : Bytes) : Option UInt32 :=
  if 8 ≤ body.length then some (readLe32 body 4) else none

def parseFormatChange (body : Bytes) : Option UInt32 :=
  if 4 ≤ body.length then some (readLe32 body 0) else none

/-! ## Messages -/

/-- A message written to a channel: one of the builders, and its argument. -/
inductive Message
  | version (v : UInt32)
  | formats (list : List MicFormat)
  | openReply (result : UInt32)
  | formatChange (index : UInt32)
  | dataIncoming
  | data (pcm : Bytes)
  deriving DecidableEq

/-- The bytes of a message. -/
def Message.bytes : Message → Bytes
  | .version v => Mic.version v
  | .formats list => Mic.formats list
  | .openReply result => Mic.openReply result
  | .formatChange index => Mic.formatChange index
  | .dataIncoming => Mic.dataIncoming
  | .data pcm => Mic.data pcm

end Mic
end FreerdpPrebuilt
