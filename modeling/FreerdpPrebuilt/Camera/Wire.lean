import FreerdpPrebuilt.Basic
import FreerdpPrebuilt.Lib.WireText

/-!
# The messages of MS-RDPECAM

The builders and the one parser of `camera.rs`'s `wire`: what a camera endpoint
says, as bytes, and the one request body it reads.  Little-endian throughout,
one message per channel write.
-/

namespace FreerdpPrebuilt
namespace Camera

/-! ## Constants -/

/-- The version this endpoint speaks. -/
def ECAM_PROTO_VERSION : UInt8 := 2

/-- The one device channel's name, with its terminating zero. -/
def DEVICE_CHANNEL : Bytes := [0x52, 0x75, 0x73, 0x74, 0x43, 0x61, 0x6D, 0x5F, 0x30, 0]

/-- How many samples may wait for the server's credit. -/
def PENDING_SAMPLES_MAX : ℕ := 8

def SUCCESS_RESPONSE : UInt8 := 0x01
def ERROR_RESPONSE : UInt8 := 0x02
def SELECT_VERSION_REQUEST : UInt8 := 0x03
def SELECT_VERSION_RESPONSE : UInt8 := 0x04
def DEVICE_ADDED_NOTIFICATION : UInt8 := 0x05
def DEVICE_REMOVED_NOTIFICATION : UInt8 := 0x06
def ACTIVATE_DEVICE_REQUEST : UInt8 := 0x07
def DEACTIVATE_DEVICE_REQUEST : UInt8 := 0x08
def STREAM_LIST_REQUEST : UInt8 := 0x09
def STREAM_LIST_RESPONSE : UInt8 := 0x0A
def MEDIA_TYPE_LIST_REQUEST : UInt8 := 0x0B
def MEDIA_TYPE_LIST_RESPONSE : UInt8 := 0x0C
def CURRENT_MEDIA_TYPE_REQUEST : UInt8 := 0x0D
def CURRENT_MEDIA_TYPE_RESPONSE : UInt8 := 0x0E
def START_STREAMS_REQUEST : UInt8 := 0x0F
def STOP_STREAMS_REQUEST : UInt8 := 0x10
def SAMPLE_REQUEST : UInt8 := 0x11
def SAMPLE_RESPONSE : UInt8 := 0x12
def PROPERTY_LIST_REQUEST : UInt8 := 0x14
def PROPERTY_LIST_RESPONSE : UInt8 := 0x15

def INVALID_MESSAGE : UInt32 := 0x02
def INVALID_STREAM_NUMBER : UInt32 := 0x05
def INVALID_MEDIA_TYPE : UInt32 := 0x06
def OPERATION_NOT_SUPPORTED : UInt32 := 0x0A

/-- `CAM_MEDIA_FORMAT_H264`. -/
def FORMAT_H264 : UInt8 := 0x01

/-- `CAM_MEDIA_TYPE_DESCRIPTION_FLAG_DecodingRequired`. -/
def FLAG_DECODING_REQUIRED : UInt8 := 0x01

/-- What the camera sends: H.264 access units of this geometry and rate. -/
structure CameraFormat where
  width : UInt32
  height : UInt32
  fpsNumerator : UInt32
  fpsDenominator : UInt32
  deriving DecidableEq, Repr

/-! ## Little-endian numbers and UTF-16 -/

/-- `u32::to_le_bytes`. -/
def le32 (value : UInt32) : Bytes :=
  [UInt8.ofNat value.toNat, UInt8.ofNat (value.toNat / 256), UInt8.ofNat (value.toNat / 65536),
    UInt8.ofNat (value.toNat / 16777216)]

/-- `u16::to_le_bytes`. -/
def le16 (value : UInt16) : Bytes :=
  [UInt8.ofNat value.toNat, UInt8.ofNat (value.toNat / 256)]

/-- `u32::from_le_bytes` of the four bytes at a position. -/
def readLe32 (body : Bytes) (position : ℕ) : UInt32 :=
  let byte := fun i => (body.getD (position + i) 0).toNat
  UInt32.ofNat (byte 0 + 256 * byte 1 + 65536 * byte 2 + 16777216 * byte 3)

/-- The four bytes of a number make the number. -/
theorem ofNat_le32 (value : UInt32) :
    UInt32.ofNat ((UInt8.ofNat value.toNat).toNat + 256 * (UInt8.ofNat (value.toNat / 256)).toNat +
      65536 * (UInt8.ofNat (value.toNat / 65536)).toNat +
      16777216 * (UInt8.ofNat (value.toNat / 16777216)).toNat) = value := by
  have hlt : value.toNat < 4294967296 := value.toNat_lt
  apply UInt32.toNat.inj
  simp only [UInt8.toNat_ofNat', UInt32.toNat_ofNat']
  omega

/-! ## Builders -/

def header (version id : UInt8) : Bytes := [version, id]

def selectVersionRequest (version : UInt8) : Bytes := header version SELECT_VERSION_REQUEST

def successResponse (version : UInt8) : Bytes := header version SUCCESS_RESPONSE

def errorResponse (version : UInt8) (code : UInt32) : Bytes :=
  header version ERROR_RESPONSE ++ le32 code

def propertyListResponse (version : UInt8) : Bytes := header version PROPERTY_LIST_RESPONSE

/-- The device's name as null-terminated UTF-16LE, then the channel's as
null-terminated ASCII. -/
def deviceAdded (version : UInt8) (deviceName : String) (channel : Bytes) : Bytes :=
  header version DEVICE_ADDED_NOTIFICATION ++
    (WireText.encode deviceName.toList).flatMap le16 ++ [0, 0] ++ channel

def deviceRemoved (version : UInt8) (channel : Bytes) : Bytes :=
  header version DEVICE_REMOVED_NOTIFICATION ++ channel

/-- One stream: colour, capture, selected, not shareable. -/
def streamListResponse (version : UInt8) : Bytes :=
  header version STREAM_LIST_RESPONSE ++ le16 1 ++ [0x01, 1, 0]

/-- The 26-byte `CAM_MEDIA_TYPE_DESCRIPTION`. -/
def mediaType (format : CameraFormat) : Bytes :=
  [FORMAT_H264] ++ le32 format.width ++ le32 format.height ++ le32 format.fpsNumerator ++
    le32 format.fpsDenominator ++ le32 1 ++ le32 1 ++ [FLAG_DECODING_REQUIRED]

def mediaTypeListResponse (version : UInt8) (format : CameraFormat) : Bytes :=
  header version MEDIA_TYPE_LIST_RESPONSE ++ mediaType format

def currentMediaTypeResponse (version : UInt8) (format : CameraFormat) : Bytes :=
  header version CURRENT_MEDIA_TYPE_RESPONSE ++ mediaType format

def sampleResponse (version streamIndex : UInt8) (sample : Bytes) : Bytes :=
  [version, SAMPLE_RESPONSE, streamIndex] ++ sample

/-- The first `CAM_START_STREAM_INFO` of a StartStreamsRequest: the stream's
index, and its media type. -/
def parseStartStreams (body : Bytes) : Option (UInt8 × UInt8 × CameraFormat) :=
  if body.length < 27 then none
  else
    let media : CameraFormat :=
      ⟨readLe32 body 2, readLe32 body 6, readLe32 body 10, readLe32 body 14⟩
    if media.fpsNumerator = 0 ∨ media.fpsDenominator = 0 then none
    else some (body.getD 0 0, body.getD 1 0, media)

/-! ## Messages -/

/-- One H.264 access unit handed to `Camera::sample`.  Only the data is queued
and sent by the source; whether it was a keyframe and which call it came with
are carried along so that laws about streams can be stated. -/
structure Sample where
  data : Bytes
  keyframe : Bool
  call : ℕ
  deriving DecidableEq, Repr

/-- A message written to a channel: one of the builders, and its arguments. -/
inductive Message
  | selectVersionRequest (version : UInt8)
  | successResponse (version : UInt8)
  | errorResponse (version : UInt8) (code : UInt32)
  | propertyListResponse (version : UInt8)
  | deviceAdded (version : UInt8) (deviceName : String)
  | deviceRemoved (version : UInt8)
  | streamListResponse (version : UInt8)
  | mediaTypeListResponse (version : UInt8) (format : CameraFormat)
  | currentMediaTypeResponse (version : UInt8) (format : CameraFormat)
  | sampleResponse (version streamIndex : UInt8) (sample : Sample)
  deriving DecidableEq

/-- The bytes of a message. -/
def Message.bytes : Message → Bytes
  | .selectVersionRequest version => Camera.selectVersionRequest version
  | .successResponse version => Camera.successResponse version
  | .errorResponse version code => Camera.errorResponse version code
  | .propertyListResponse version => Camera.propertyListResponse version
  | .deviceAdded version deviceName => Camera.deviceAdded version deviceName DEVICE_CHANNEL
  | .deviceRemoved version => Camera.deviceRemoved version DEVICE_CHANNEL
  | .streamListResponse version => Camera.streamListResponse version
  | .mediaTypeListResponse version format => Camera.mediaTypeListResponse version format
  | .currentMediaTypeResponse version format => Camera.currentMediaTypeResponse version format
  | .sampleResponse version streamIndex sample =>
    Camera.sampleResponse version streamIndex sample.data

end Camera
end FreerdpPrebuilt
