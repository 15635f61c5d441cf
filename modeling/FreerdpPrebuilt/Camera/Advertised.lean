import FreerdpPrebuilt.Camera.Metering
import FreerdpPrebuilt.Camera.Reconnect

/-!
# The format a stream starts in

The endpoint advertises one media type: the format it was plugged with.  A
StartStreamsRequest names the media type the host chose.  The list encoder and
the pattern that decides the request are far apart in the source: the first
reads the plugged format, the second asks for H.264 and a rate, and for nothing
else.

* `onlyAdvertised_iff`: in every state reached and for every message, only the
  advertised media type starts a stream if and only if what the pattern takes is
  that media type.
-/

namespace FreerdpPrebuilt
namespace Camera

open Labelled

/-! ## What is claimed -/

/-- A request for the media types of stream 0 is answered with this format. -/
def Advertises (st : CamState) (format : CameraFormat) : Prop :=
  ∀ channel answers, (handleDevice st channel MEDIA_TYPE_LIST_REQUEST [0] answers).writes =
    [⟨channel, .mediaTypeListResponse st.version format, answers 0⟩]

/-- The StartStreamsRequest names the codec and the format of the plugged camera. -/
def NamesPlugged (st : CamState) (body : Bytes) : Prop :=
  ∃ index media, parseStartStreams body = some (index, FORMAT_H264, media) ∧
    st.plugged = true ∧ st.format = some media

/-- It is answered with an error, and nothing changes. -/
def Refused (st : CamState) (channel : Ptr) (answers : ℕ → Bool) (r : Outcome) : Prop :=
  ∃ code, r = .answer st channel (.errorResponse st.version code) answers

/-- **A stream starts only in the advertised format.** -/
structure OnlyAdvertised (st : CamState) (channel : Ptr) (id : UInt8) (body : Bytes)
    (answers : ℕ → Bool) : Prop where
  started : ∀ format, .started format ∈ (handleDevice st channel id body answers).events →
    st.plugged = true ∧ st.format = some format ∧ Advertises st format
  refused : id = START_STREAMS_REQUEST → ¬NamesPlugged st body →
    Refused st channel answers (handleDevice st channel id body answers)

/-- What the message starts, if it starts a stream, is the plugged format. -/
def startsPlugged (st : CamState) (id : UInt8) (body : Bytes) : Bool :=
  match requestOf id body with
  | .start media => st.format == some media
  | _ => true

/-! ## The list and the pattern -/

variable {st : CamState} {channel : Ptr} {id : UInt8} {body : Bytes} {answers : ℕ → Bool}
  {format media : CameraFormat}

theorem advertises_of_format (h : st.format = some format) : Advertises st format := by
  intro channel answers
  have hlist : handleDevice st channel MEDIA_TYPE_LIST_REQUEST [0] answers =
      answerFormat st channel [0] .mediaTypeListResponse answers := rfl
  rw [hlist, answerFormat, h]
  rfl

theorem handleDevice_startStreams : handleDevice st channel START_STREAMS_REQUEST body answers =
    startStreams st channel body answers := rfl

/-- A StartStreamsRequest that the pattern does not take is refused. -/
theorem refused_startStreams (h : startsStream body = none) :
    Refused st channel answers (startStreams st channel body answers) := by
  unfold startsStream at h
  unfold startStreams
  split at h
  · rename_i index codec media hparsed
    rw [hparsed]
    by_cases hindex : index = 0
    · have hcodec : codec ≠ FORMAT_H264 := by
        intro hcodec
        rw [if_pos ⟨hindex, hcodec⟩] at h
        exact absurd h (Option.some_ne_none _)
      simp only [if_pos hindex, if_neg hcodec]
      exact ⟨_, rfl⟩
    · simp only [if_neg hindex]
      exact ⟨_, rfl⟩
  · rename_i hparsed
    rw [hparsed]
    exact ⟨_, rfl⟩

/-- What the pattern takes is stream 0 and H.264, and the message names it. -/
theorem parsed_of_startsStream (h : startsStream body = some media) :
    parseStartStreams body = some (0, FORMAT_H264, media) := by
  unfold startsStream at h
  split at h
  · rename_i index codec media' hparsed
    split_ifs at h with hboth
    obtain ⟨rfl, rfl⟩ := hboth
    rw [hparsed, Option.some.inj h]
  · exact absurd h (by simp)

/-- The event is delivered for a message that starts the stream, and for no other. -/
theorem started_iff : .started format ∈ (handleDevice st channel id body answers).events ↔
    requestOf id body = .start format := by
  have hspec := handleDevice_spec st channel id body answers
  generalize requestOf id body = asked at hspec ⊢
  generalize handleDevice st channel id body answers = r at hspec ⊢
  cases hspec with
  | answered hasked _ => rcases hasked with rfl | ⟨rfl, -⟩ <;> simp
  | stopped _ =>
    cases st.streaming <;> simp
  | started _ => simp [eq_comm]
  | paid _ _ _ => simp

/-! ## Every state reached -/

variable {deviceName : String} {h : List (Move System Act Obs)} {s : System}

/-- **When only the advertised format starts a stream.**  In every state reached,
for every message on a device channel: only the advertised format starts a stream
and any other is refused, if and only if what the message starts is the format the
camera is plugged with. -/
theorem onlyAdvertised_iff (hr : (machine deviceName).Run h s) (channel : Ptr) (id : UInt8)
    (body : Bytes) (answers : ℕ → Bool) :
    OnlyAdvertised s.cam channel id body answers ↔ startsPlugged s.cam id body = true := by
  have hplugged : ∀ format, s.cam.format = some format → s.cam.plugged = true := by
    intro format hformat
    rw [← pluggedIsFormatted_of_run hr, hformat]
    rfl
  constructor
  · intro honly
    unfold startsPlugged
    split
    · rename_i media hasked
      have hmedia := honly.started media (started_iff.2 hasked)
      exact beq_iff_eq.2 hmedia.2.1
    · rfl
  · intro hstarts
    refine ⟨?_, ?_⟩
    · intro format hevent
      rw [startsPlugged, started_iff.1 hevent] at hstarts
      have hformat := beq_iff_eq.1 hstarts
      exact ⟨hplugged format hformat, hformat, advertises_of_format hformat⟩
    · rintro rfl hother
      rw [handleDevice_startStreams]
      cases hmedia : startsStream body with
      | none => exact refused_startStreams hmedia
      | some media =>
        have hasked : requestOf START_STREAMS_REQUEST body = .start media := by
          rw [requestOf, if_neg (by decide), if_pos rfl, hmedia]
        rw [startsPlugged, hasked] at hstarts
        have hformat := beq_iff_eq.1 hstarts
        exact absurd ⟨0, media, parsed_of_startsStream hmedia, hplugged media hformat, hformat⟩
          hother

/-- The law kept, by the media type that was advertised. -/
theorem onlyAdvertised_hd : ∃ h s, (machine "Cam").Run h s ∧
    OnlyAdvertised s.cam 1 START_STREAMS_REQUEST (0 :: mediaType hd) accepts := by
  have hrun := (machine "Cam").run_get [.plug hd accepts, .opened false 1 accepts] (by decide)
  exact ⟨_, _, hrun, (onlyAdvertised_iff hrun _ _ _ _).2 (by decide)⟩

/-- 640 by 480 at 30 frames a second. -/
def vga : CameraFormat := ⟨640, 480, 30, 1⟩

/-- **A format never offered.**  The camera is plugged with 1280 by 720; a request
for 640 by 480 is answered with success and starts a stream. -/
theorem starts_format_never_offered : ∃ h s, (machine "Cam").Run h s ∧
    s.cam.format = some hd ∧
    (handleDevice s.cam 1 START_STREAMS_REQUEST (0 :: mediaType vga) accepts).events =
      [.started vga] ∧
    ¬OnlyAdvertised s.cam 1 START_STREAMS_REQUEST (0 :: mediaType vga) accepts := by
  have hrun := (machine "Cam").run_get [.plug hd accepts, .opened false 1 accepts] (by decide)
  refine ⟨_, _, hrun, by decide, by decide, ?_⟩
  intro honly
  have hvga := honly.started vga (by decide)
  exact absurd hvga.2.1 (by decide)

end Camera
end FreerdpPrebuilt
