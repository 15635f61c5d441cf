import FreerdpPrebuilt.Mic.Wire

/-!
# The names in DeviceAdded

`device_added` writes two strings one after the other: the camera's name as
null-terminated UTF-16LE, and the channel's as null-terminated ASCII.  The far side
finds the end of each by its terminator, shows the first beside the device, and
creates a channel under the second.

The channel's name is a C string, so its type keeps zeros out.  The camera's is
whatever `String` the embedder gave `Camera::new`.

* `readDeviceAdded_deviceAdded`: both names are read back if the camera's holds no
  U+0000.
* `readDeviceAdded_of_nul`: otherwise the first string ends early, and bytes are
  left over.
-/

namespace FreerdpPrebuilt
namespace Camera

open WireText (Code)

/-! ## The layout -/

/-- `u16::from_le_bytes` at the front, and `u16::to_le_bytes`. -/
def utf16le : Code UInt16 UInt8 where
  encode := le16
  next
    | low :: high :: rest => some (UInt16.ofNat (low.toNat + 256 * high.toNat), rest)
    | _ => none
  next_encode unit rest := congrArg (fun value => some (value, rest)) (Mic.ofNat_le16 unit)
  encode_ne_nil _ := List.cons_ne_nil _ _

/-- A null-terminated UTF-16LE string, and what follows it. -/
def readUtf16 (bytes : Bytes) : Option (String × Bytes) :=
  match utf16le.read 0 bytes with
  | none => none
  | some (units, rest) => (WireText.decode units).map fun cs => (String.ofList cs, rest)

/-- The characters of ASCII bytes. -/
def asciiText (bytes : Bytes) : Option String :=
  if bytes.all (· < 0x80) then some (String.ofList (bytes.map fun b => Char.ofNat b.toNat))
  else none

/-- A null-terminated ASCII string, and what follows it. -/
def readAscii (bytes : Bytes) : Option (String × Bytes) :=
  match (Code.plain UInt8).read 0 bytes with
  | none => none
  | some (name, rest) => (asciiText name).map fun text => (text, rest)

/-- A null-terminated ASCII string with nothing after it. -/
def readLast (bytes : Bytes) : Option String :=
  match readAscii bytes with
  | some (name, []) => some name
  | _ => none

/-- What a DeviceAddedNotification says. -/
structure DeviceAdded where
  version : UInt8
  id : UInt8
  deviceName : String
  channelName : String
  deriving DecidableEq

/-- A DeviceAddedNotification by its layout: the version, the id, the two strings,
and nothing after. -/
def readDeviceAdded : Bytes → Option DeviceAdded
  | version :: id :: body =>
    match readUtf16 body with
    | none => none
    | some (deviceName, rest) =>
      (readLast rest).map fun channelName => ⟨version, id, deviceName, channelName⟩
  | _ => none

/-- The name the device listener is registered under. -/
def listenerName : String := "RustCam_0"

/-- It is the C string of `DEVICE_CHANNEL`. -/
theorem readLast_DEVICE_CHANNEL : readLast DEVICE_CHANNEL = some listenerName := by decide

/-! ## Reading what was written -/

/-- A text ends at its terminator, if it holds no U+0000 itself. -/
theorem readUtf16_encode {cs : List Char} (h : Char.ofNat 0 ∉ cs) (rest : Bytes) :
    readUtf16 ((WireText.encode cs).flatMap le16 ++ (le16 0 ++ rest)) =
      some (String.ofList cs, rest) := by
  have hzero : 0 ∉ WireText.encode cs := fun hmem => h ((WireText.zero_mem_encode cs).1 hmem)
  have hread : utf16le.read 0 ((WireText.encode cs).flatMap le16 ++ (le16 0 ++ rest)) =
      some (WireText.encode cs, rest) := utf16le.read_flatMap hzero rest
  rw [readUtf16, hread]
  exact congrArg (Option.map _) (WireText.decode_encode cs)

/-- An ASCII string ends at the first zero, wherever that is. -/
theorem readAscii_append {name : Bytes} (h : 0 ∉ name) (rest : Bytes) :
    readAscii (name ++ 0 :: rest) = (asciiText name).map fun text => (text, rest) := by
  have hread : (Code.plain UInt8).read 0 (name.flatMap (fun b => [b]) ++ ([0] ++ rest)) =
      some (name, rest) := (Code.plain UInt8).read_flatMap h rest
  rw [List.flatMap_singleton'] at hread
  rw [readAscii, ← List.singleton_append, hread]

variable {deviceName : String}

/-- The message is read by its strings, one after the other. -/
theorem readDeviceAdded_append {cs : List Char} (version id : UInt8) (h : Char.ofNat 0 ∉ cs)
    (rest : Bytes) :
    readDeviceAdded (version :: id :: ((WireText.encode cs).flatMap le16 ++ (le16 0 ++ rest))) =
      (readLast rest).map fun channelName => ⟨version, id, String.ofList cs, channelName⟩ := by
  rw [readDeviceAdded, readUtf16_encode h]

/-- The message as its two strings. -/
theorem deviceAdded_eq (version : UInt8) (deviceName : String) (channel : Bytes) :
    deviceAdded version deviceName channel = version :: DEVICE_ADDED_NOTIFICATION ::
      ((WireText.encode deviceName.toList).flatMap le16 ++ (le16 0 ++ channel)) := by
  rw [deviceAdded, header, List.append_assoc, List.append_assoc]
  rfl

/-- **Both names are read back**, if the camera's holds no U+0000. -/
theorem readDeviceAdded_deviceAdded (version : UInt8) (h : Char.ofNat 0 ∉ deviceName.toList) :
    readDeviceAdded (deviceAdded version deviceName DEVICE_CHANNEL) =
      some ⟨version, DEVICE_ADDED_NOTIFICATION, deviceName, listenerName⟩ := by
  rw [deviceAdded_eq, readDeviceAdded_append _ _ h, readLast_DEVICE_CHANNEL, Option.map_some,
    String.ofList_toList]

/-- A string that goes on after a zero leaves bytes over. -/
theorem readLast_of_zero_mem {before : Bytes} (h : 0 ∈ before) (last : UInt8) :
    readLast (before ++ [last]) = none := by
  obtain ⟨front, back, rfl, hfront⟩ := List.eq_append_cons_of_mem h
  have hover : back ++ [last] ≠ [] := List.append_ne_nil_of_right_ne_nil back (List.cons_ne_nil _ _)
  obtain ⟨first, more, hmore⟩ := List.exists_cons_of_ne_nil hover
  rw [List.append_assoc, List.cons_append, hmore, readLast, readAscii_append hfront]
  cases asciiText front with
  | none => rfl
  | some text => rfl

/-- **A U+0000 ends the camera's name**: what follows it is read as the channel's,
and bytes are left over. -/
theorem readDeviceAdded_of_nul (version : UInt8) (h : Char.ofNat 0 ∈ deviceName.toList) :
    readDeviceAdded (deviceAdded version deviceName DEVICE_CHANNEL) = none := by
  obtain ⟨front, back, hname, hfront⟩ := List.eq_append_cons_of_mem h
  -- All but the last byte of what follows the early end; the terminator is in it.
  let leftover := (WireText.encode back).flatMap le16 ++ (le16 0 ++ DEVICE_CHANNEL.dropLast)
  have hover : 0 ∈ leftover :=
    List.mem_append_right _ (List.mem_append_left _ List.mem_cons_self)
  have hunits : WireText.encode (Char.ofNat 0 :: back) = 0 :: WireText.encode back := rfl
  have hbytes : (WireText.encode deviceName.toList).flatMap le16 ++ (le16 0 ++ DEVICE_CHANNEL) =
      (WireText.encode front).flatMap le16 ++ (le16 0 ++ (leftover ++ [0])) := by
    rw [hname, WireText.encode_append, hunits, List.flatMap_append, List.flatMap_cons]
    simp only [leftover, List.append_assoc]
    rfl
  rw [deviceAdded_eq, hbytes, readDeviceAdded_append _ _ hfront, readLast_of_zero_mem hover]
  rfl

/-- **When DeviceAdded decodes to what was announced.**  For every version and every
name: the message is read as that name and the listener's channel, if and only if
the name holds no U+0000. -/
theorem deviceAdded_decodes_iff (version : UInt8) (deviceName : String) :
    readDeviceAdded (deviceAdded version deviceName DEVICE_CHANNEL) =
        some ⟨version, DEVICE_ADDED_NOTIFICATION, deviceName, listenerName⟩ ↔
      Char.ofNat 0 ∉ deviceName.toList := by
  constructor
  · intro hread hnul
    rw [readDeviceAdded_of_nul version hnul] at hread
    exact absurd hread.symm (Option.some_ne_none _)
  · exact readDeviceAdded_deviceAdded version

/-- A camera's name with a U+0000 in it. -/
def nulName : String := String.ofList ['C', 'a', 'm', Char.ofNat 0, 'X']

/-- **The far side is told of another camera on another channel.**  The name ends
before the U+0000, and what follows it is where the channel's name should be. -/
theorem nulName_is_cut : ∃ rest,
    readUtf16 ((deviceAdded 2 nulName DEVICE_CHANNEL).drop 2) = some ("Cam", rest) ∧
    (readAscii rest).map Prod.fst = some "X" ∧
    readDeviceAdded (deviceAdded 2 nulName DEVICE_CHANNEL) ≠
      some ⟨2, DEVICE_ADDED_NOTIFICATION, nulName, listenerName⟩ := by
  refine ⟨[0x58, 0, 0, 0] ++ DEVICE_CHANNEL, by decide, by decide, by decide⟩

end Camera
end FreerdpPrebuilt
