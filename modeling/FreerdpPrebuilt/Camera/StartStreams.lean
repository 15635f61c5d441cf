import FreerdpPrebuilt.Camera.Wire

/-!
# The StartStreamsRequest against the media type

`media_type` writes a format's four numbers at hand-written offsets, and
`parse_start_streams` reads them at others: a stream's index comes first there, so
each is one further on.

* `le32_readLe32`: the bytes of a number read are those that stand at its place.
* `parseStartStreams_eq`: what the parser returns, by the sixteen bytes of the
  format.
* `parseStartStreams_inverts`: it reads back every media type with a rate, and
  accepts nothing but the bytes of one.
-/

namespace FreerdpPrebuilt
namespace Camera

/-! ## Numbers at a position -/

/-- The bytes of a number tell which it is. -/
theorem le32_injective {x y : UInt32} (h : le32 x = le32 y) : x = y := by
  have hread := congrArg (fun bytes => readLe32 bytes 0) h
  calc x = readLe32 (le32 x) 0 := (ofNat_le32 x).symm
    _ = readLe32 (le32 y) 0 := hread
    _ = y := ofNat_le32 y

theorem readLe32_drop (body : Bytes) (position : ℕ) :
    readLe32 body position = readLe32 (body.drop position) 0 := by
  simp only [readLe32, List.getD_eq_getElem?_getD, List.getElem?_drop, Nat.zero_add, Nat.add_zero]

/-- The bytes of the number read are those that stand there. -/
theorem le32_readLe32 {body : Bytes} {position : ℕ} (h : position + 4 ≤ body.length) :
    le32 (readLe32 body position) = (body.drop position).take 4 := by
  rw [readLe32_drop]
  have hlength : 4 ≤ (body.drop position).length := by
    rw [List.length_drop]
    omega
  generalize body.drop position = bytes at hlength
  obtain ⟨b0, b1, b2, b3, rest, rfl⟩ :
      ∃ b0 b1 b2 b3 rest, bytes = b0 :: b1 :: b2 :: b3 :: rest := by
    match bytes, hlength with
    | b0 :: b1 :: b2 :: b3 :: rest, _ => exact ⟨b0, b1, b2, b3, rest, rfl⟩
  have h0 := b0.toNat_lt
  have h1 := b1.toNat_lt
  have h2 := b2.toNat_lt
  have h3 := b3.toNat_lt
  have hvalue : (readLe32 (b0 :: b1 :: b2 :: b3 :: rest) 0).toNat =
      b0.toNat + 256 * b1.toNat + 65536 * b2.toNat + 16777216 * b3.toNat := by
    refine UInt32.toNat_ofNat_of_lt' ?_
    show b0.toNat + 256 * b1.toNat + 65536 * b2.toNat + 16777216 * b3.toNat < 4294967296
    omega
  have hbyte : ∀ {n : ℕ} {b : UInt8}, n % 256 = b.toNat → UInt8.ofNat n = b := by
    intro n b hn
    apply UInt8.toNat.inj
    rw [UInt8.toNat_ofNat', hn]
  rw [le32, hvalue, hbyte (b := b0) (by omega), hbyte (b := b1) (by omega),
    hbyte (b := b2) (by omega), hbyte (b := b3) (by omega)]
  rfl

/-! ## The four fields -/

/-- The sixteen bytes of a format's numbers. -/
def CameraFormat.encode (f : CameraFormat) : Bytes :=
  le32 f.width ++ le32 f.height ++ le32 f.fpsNumerator ++ le32 f.fpsDenominator

theorem take_mediaType (f : CameraFormat) : ((mediaType f).drop 1).take 16 = f.encode := rfl

/-- Sixteen bytes, four at a time. -/
theorem take_sixteen (bytes : Bytes) : bytes.take 16 =
    bytes.take 4 ++ (bytes.drop 4).take 4 ++ (bytes.drop 8).take 4 ++ (bytes.drop 12).take 4 := by
  calc bytes.take 16 = bytes.take 4 ++ (bytes.drop 4).take 12 := List.take_add (i := 4) (j := 12)
    _ = bytes.take 4 ++ ((bytes.drop 4).take 4 ++ (bytes.drop 8).take 8) := by
      rw [List.take_add (i := 4) (j := 8), List.drop_drop]
    _ = _ := by
      rw [List.take_add (l := bytes.drop 8) (i := 4) (j := 4), List.drop_drop]
      simp only [List.append_assoc]

/-- The format whose numbers are read at the parser's four positions. -/
def readFormat (body : Bytes) : CameraFormat :=
  ⟨readLe32 body 2, readLe32 body 6, readLe32 body 10, readLe32 body 14⟩

/-- The sixteen bytes behind the index and the codec are those of the format read. -/
theorem encode_readFormat {body : Bytes} (h : 27 ≤ body.length) :
    (readFormat body).encode = (body.drop 2).take 16 := by
  rw [CameraFormat.encode, readFormat, le32_readLe32 (by omega), le32_readLe32 (by omega),
    le32_readLe32 (by omega), le32_readLe32 (by omega), take_sixteen]
  simp only [List.drop_drop]

theorem encode_injective {f g : CameraFormat} (h : f.encode = g.encode) : f = g := by
  obtain ⟨h, hden⟩ := List.append_inj' h rfl
  obtain ⟨h, hnum⟩ := List.append_inj' h rfl
  obtain ⟨hwidth, hheight⟩ := List.append_inj' h rfl
  cases f
  cases g
  rw [CameraFormat.mk.injEq]
  exact ⟨le32_injective hwidth, le32_injective hheight, le32_injective hnum, le32_injective hden⟩

/-- What the parser returns, by the sixteen bytes of the format. -/
theorem parseStartStreams_eq {body : Bytes} {f : CameraFormat} (h : 27 ≤ body.length)
    (hf : (body.drop 2).take 16 = f.encode) :
    parseStartStreams body =
      if f.fpsNumerator ≠ 0 ∧ f.fpsDenominator ≠ 0 then some (body.getD 0 0, body.getD 1 0, f)
      else none := by
  have hread : readFormat body = f := encode_injective ((encode_readFormat h).trans hf)
  have hparse : parseStartStreams body =
      if (readFormat body).fpsNumerator = 0 ∨ (readFormat body).fpsDenominator = 0 then none
      else some (body.getD 0 0, body.getD 1 0, readFormat body) := if_neg (Nat.not_lt.2 h)
  rw [hparse, hread]
  by_cases hrate : f.fpsNumerator ≠ 0 ∧ f.fpsDenominator ≠ 0
  · rw [if_pos hrate, if_neg (not_or.2 hrate)]
  · rw [if_neg hrate, if_pos (by_contra fun hnone => hrate (not_or.1 hnone))]

/-! ## Both ways -/

/-- A media type with a rate is read back, and one without is refused. -/
theorem parseStartStreams_mediaType_append (f : CameraFormat) (index : UInt8) (rest : Bytes) :
    parseStartStreams (index :: mediaType f ++ rest) =
      if f.fpsNumerator ≠ 0 ∧ f.fpsDenominator ≠ 0 then some (index, FORMAT_H264, f)
      else none := by
  have hlength : 27 ≤ (index :: mediaType f ++ rest).length := by
    rw [List.length_append]
    exact Nat.le_add_right 27 _
  exact parseStartStreams_eq hlength rfl

/-- What is accepted is long enough and has a rate, and its bytes say what was read. -/
theorem parseStartStreams_eq_some_iff {body : Bytes} {index codec : UInt8} {f : CameraFormat} :
    parseStartStreams body = some (index, codec, f) ↔
      27 ≤ body.length ∧ body.take 2 = [index, codec] ∧ (body.drop 2).take 16 = f.encode ∧
        f.fpsNumerator ≠ 0 ∧ f.fpsDenominator ≠ 0 := by
  by_cases hlength : 27 ≤ body.length
  · have hfirst : body.take 2 = [body.getD 0 0, body.getD 1 0] := by
      match body, hlength with
      | _ :: _ :: _, _ => rfl
    have hparse := parseStartStreams_eq hlength (encode_readFormat hlength).symm
    constructor
    · intro hsome
      rw [hparse] at hsome
      split_ifs at hsome with hrate
      obtain ⟨rfl, rfl, rfl⟩ : body.getD 0 0 = index ∧ body.getD 1 0 = codec ∧
          readFormat body = f := by simpa using hsome
      exact ⟨hlength, hfirst, (encode_readFormat hlength).symm, hrate⟩
    · rintro ⟨-, hbegin, hf, hrate⟩
      obtain ⟨hindex, hcodec⟩ : body.getD 0 0 = index ∧ body.getD 1 0 = codec := by
        simpa using hfirst.symm.trans hbegin
      rw [parseStartStreams_eq hlength hf, if_pos hrate, hindex, hcodec]
  · have hnone : parseStartStreams body = none := if_pos (Nat.not_le.1 hlength)
    rw [hnone]
    exact ⟨fun h => absurd h.symm (Option.some_ne_none _), fun h => absurd h.1 hlength⟩

/-- **The parser inverts the encoder.**  On an index, the media type of a format and
anything behind it, it returns them if the format has a rate, and nothing otherwise.
What it accepts is at least 27 bytes that begin with the index and the codec, then
bytes 1 to 16 of the media type it returns, and that format has a rate. -/
theorem parseStartStreams_inverts :
    (∀ (f : CameraFormat) (index : UInt8) (rest : Bytes),
      parseStartStreams (index :: mediaType f ++ rest) =
        if f.fpsNumerator ≠ 0 ∧ f.fpsDenominator ≠ 0 then some (index, FORMAT_H264, f)
        else none) ∧
    ∀ (body : Bytes) (index codec : UInt8) (f : CameraFormat),
      parseStartStreams body = some (index, codec, f) ↔
        27 ≤ body.length ∧ body.take 2 = [index, codec] ∧
          (body.drop 2).take 16 = ((mediaType f).drop 1).take 16 ∧
          ((mediaType f).drop 1).take 16 =
            le32 f.width ++ le32 f.height ++ le32 f.fpsNumerator ++ le32 f.fpsDenominator ∧
          f.fpsNumerator ≠ 0 ∧ f.fpsDenominator ≠ 0 := by
  refine ⟨parseStartStreams_mediaType_append, ?_⟩
  intro body index codec f
  rw [parseStartStreams_eq_some_iff, take_mediaType]
  simp only [CameraFormat.encode, true_and]

end Camera
end FreerdpPrebuilt
