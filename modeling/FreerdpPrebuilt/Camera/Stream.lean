import FreerdpPrebuilt.Camera.System
import FreerdpPrebuilt.Lib.Meter

/-!
# The stream is a metered queue

A running stream is a metered queue of samples (`CamState.queue`).  What an
operation can do to it is said once: `sample_spec` for a sample offered,
`handleDevice_spec` for a message of the host, and `queue_step` for every step of
the machine.
-/

namespace FreerdpPrebuilt
namespace Camera

open Labelled

/-! ## The stream as a metered queue -/

/-- The stream, as a metered queue of samples. -/
def CamState.queue (st : CamState) : Metered.Queue Sample :=
  ⟨st.streaming, st.credits, st.pending, st.awaitingKeyframe⟩

/-- The camera with another stream. -/
def CamState.withQueue (st : CamState) (q : Metered.Queue Sample) : CamState :=
  { st with
    streaming := q.running
    credits := q.credits
    pending := q.pending
    awaitingKeyframe := q.awaiting }

/-- The messages that carry these samples, and whether the channel took them. -/
def shipping (version : UInt8) (channel : Ptr) (out : List (Sample × Bool)) : List Write :=
  out.map fun s => ⟨channel, .sampleResponse version 0 s.1, s.2⟩

/-- The sample a message carries. -/
def Message.sample : Message → Option Sample
  | .sampleResponse _ _ sample => some sample
  | _ => none

/-- The sample a write submits, and whether the channel took it. -/
def Obs.submitted : Obs → Option (Sample × Bool)
  | .write w => w.message.sample.map fun sample => (sample, w.accepted)
  | _ => none

/-- The samples submitted. -/
def submitted (o : List Obs) : List (Sample × Bool) := o.filterMap Obs.submitted

/-- Messages that carry no sample. -/
def Plain (writes : List Write) : Prop := ∀ w ∈ writes, w.message.sample = none

theorem submitted_plain {writes : List Write} (h : Plain writes) :
    submitted (writes.map .write) = [] := by
  refine List.filterMap_eq_nil_iff.2 fun o ho => ?_
  obtain ⟨w, hw, rfl⟩ := List.mem_map.1 ho
  rw [Obs.submitted, h w hw]
  rfl

@[simp] theorem submitted_shipping (version : UInt8) (channel : Ptr)
    (out : List (Sample × Bool)) : submitted ((shipping version channel out).map .write) = out := by
  induction out with
  | nil => rfl
  | cons s out ih =>
    exact congrArg (List.cons s) ih

@[simp] theorem submitted_append (a b : List Obs) :
    submitted (a ++ b) = submitted a ++ submitted b := List.filterMap_append

@[simp] theorem submitted_returned (accepted : Bool) : submitted [.returned accepted] = [] := rfl

theorem plain_nil : Plain [] := fun _ h => absurd h List.not_mem_nil

theorem plain_answer {channel : Ptr} {message : Message} {accepted : Bool}
    (h : message.sample = none) : Plain [⟨channel, message, accepted⟩] := by
  intro w hw
  rw [List.mem_singleton.1 hw]
  exact h

/-- An answer to the host: no sample, and no notice about the device. -/
def Message.isReply : Message → Bool
  | .deviceAdded _ _ | .deviceRemoved _ | .sampleResponse _ _ _ => false
  | _ => true

/-- Answers, and nothing else. -/
def Replies (writes : List Write) : Prop := ∀ w ∈ writes, w.message.isReply = true

theorem Replies.plain {writes : List Write} (h : Replies writes) : Plain writes := by
  intro w hw
  have hreply := h w hw
  cases hm : w.message with
  | sampleResponse version streamIndex sample =>
    rw [hm] at hreply
    exact absurd hreply (by simp [Message.isReply])
  | _ => rfl

theorem replies_nil : Replies [] := fun _ h => absurd h List.not_mem_nil

theorem replies_one {channel : Ptr} {message : Message} {accepted : Bool}
    (h : message.isReply = true) : Replies [⟨channel, message, accepted⟩] := by
  intro w hw
  rw [List.mem_singleton.1 hw]
  exact h

/-! ## What an operation can do -/

/-- An announcement is out once the channel took it. -/
theorem announced_if (st : CamState) (hnot : st.announced = false) (taken : Bool) :
    (if taken = true then { st with announced := true } else st) =
      { st with announced := taken } := by
  cases taken with
  | true => rfl
  | false =>
    simp only [Bool.false_eq_true, if_false]
    rw [← hnot]

/-- `announce`: DeviceAdded, if it is due and there is a channel for it. -/
theorem announce_cases (deviceName : String) (st : CamState) (answers : ℕ → Bool) :
    (((st.plugged && st.enumReady && !st.announced && st.format.isSome) = true →
          st.enumerator = none) ∧ announce deviceName st answers = .nothing st) ∨
      ∃ channel, st.enumerator = some channel ∧
        (st.plugged && st.enumReady && !st.announced && st.format.isSome) = true ∧
        announce deviceName st answers =
          ⟨{ st with announced := answers 0 },
            [⟨channel, .deviceAdded st.version deviceName, answers 0⟩], []⟩ := by
  unfold announce
  by_cases hdue : (st.plugged && st.enumReady && !st.announced && st.format.isSome) = true
  · have hnot : st.announced = false := by
      simp only [Bool.and_eq_true, Bool.not_eq_true'] at hdue
      exact hdue.1.2
    rw [if_pos hdue]
    rw [announced_if st hnot]
    split
    · rename_i hnone
      exact .inl ⟨fun _ => hnone, rfl⟩
    · rename_i channel hchannel
      exact .inr ⟨channel, hchannel, hdue, rfl⟩
  · rw [if_neg hdue]
    exact .inl ⟨fun h => absurd h hdue, rfl⟩

/-- The DeviceRemoved of an announcement that is out. -/
def removals (st : CamState) (answers : ℕ → Bool) : List Write :=
  if st.announced then
    st.enumerator.toList.map fun channel => ⟨channel, .deviceRemoved st.version, answers 0⟩
  else []

theorem mem_removals {st : CamState} {answers : ℕ → Bool} {w : Write}
    (h : w ∈ removals st answers) : w.message = .deviceRemoved st.version := by
  unfold removals at h
  split at h
  · obtain ⟨channel, -, rfl⟩ := List.mem_map.1 h
    rfl
  · exact absurd h List.not_mem_nil

/-- `unplug`: the stream ends, and so does the announcement. -/
theorem unplug_eq (st : CamState) (answers : ℕ → Bool) :
    unplug st answers =
      ⟨{ st with plugged := false, format := none, announced := false }.stopStream,
        removals st answers, []⟩ := by
  unfold unplug removals
  cases hout : st.announced with
  | false => simp [Outcome.nothing, CamState.stopStream]
  | true => cases hchannel : st.enumerator <;> simp [Outcome.nothing, Outcome.answer,
      CamState.stopStream]

/-- What a message on an enumeration channel can do; `selects` says whether it is
a SelectVersionResponse. -/
inductive Enumerated (deviceName : String) (st : CamState) (channel : Ptr) (answers : ℕ → Bool) :
    Bool → Outcome → Prop
  | other {writes : List Write} : Replies writes →
      Enumerated deviceName st channel answers false ⟨st, writes, []⟩
  /-- An announcement was waiting for SelectVersion. -/
  | due (version : UInt8) : st.plugged = true → st.announced = false → st.format.isSome = true →
      Enumerated deviceName st channel answers true
        ⟨{ st with version, enumReady := true, announced := answers 0 },
          [⟨channel, .deviceAdded version deviceName, answers 0⟩], [.negotiated version]⟩
  | known (version : UInt8) :
      (st.plugged = true → st.format.isSome = true → st.announced = true) →
      Enumerated deviceName st channel answers true
        ⟨{ st with version, enumReady := true }, [], [.negotiated version]⟩

/-- **`handle_enumerator`, in one lemma.** -/
theorem handleEnumerator_spec (deviceName : String) (st : CamState) (channel : Ptr)
    (serverVersion id : UInt8) (answers : ℕ → Bool) :
    Enumerated deviceName st channel answers (id == SELECT_VERSION_RESPONSE)
      (handleEnumerator deviceName st channel serverVersion id answers) := by
  unfold handleEnumerator
  by_cases hid : id = SELECT_VERSION_RESPONSE
  · rw [if_pos hid, beq_iff_eq.2 hid]
    simp only
    by_cases hdue : (st.plugged && !st.announced && st.format.isSome) = true
    · rw [if_pos hdue]
      simp only [Bool.and_eq_true, Bool.not_eq_true'] at hdue
      obtain ⟨⟨hplugged, hnot⟩, hformat⟩ := hdue
      rw [announced_if { st with version := _, enumReady := true } hnot]
      exact .due _ hplugged hnot hformat
    · rw [if_neg hdue]
      refine .known _ fun hplugged hformat => ?_
      simpa [hplugged, hformat] using hdue
  · rw [if_neg hid, beq_eq_false_iff_ne.2 hid]
    split
    · exact .other replies_nil
    · exact .other (replies_one rfl)

/-- A step of the camera's queue. -/
abbrev QueueStep := Metered.Step PENDING_SAMPLES_MAX Sample.keyframe

/-- What can become of a sample. -/
abbrev SampleOffered := Metered.Offered PENDING_SAMPLES_MAX Sample.keyframe

/-- How `sample` sends: to the stored channel, which is tried whenever a credit
is left, and answers. -/
structure Sent (st : CamState) (x : Sample) (answers : ℕ → Bool) (channel : Ptr)
    (out : List (Sample × Bool)) : Prop where
  stored : out ≠ [] → st.device = some channel
  answer : ∀ s ∈ out, s.2 = answers 0
  tried : (st.awaitingKeyframe = true → x.keyframe = true) → 0 < st.credits → st.pending = [] →
    st.device ≠ none → out ≠ []

/-- A call that sends nothing, because it could not. -/
theorem sent_nil {st : CamState} {x : Sample} {answers : ℕ → Bool}
    (h : (st.awaitingKeyframe = true → x.keyframe = true) → 0 < st.credits → st.pending = [] →
      st.device = none) : Sent st x answers 0 [] where
  stored := fun hne => absurd rfl hne
  answer := fun _ hmem => absurd hmem List.not_mem_nil
  tried := fun hpass hc hp hd => absurd (h hpass hc hp) hd

/-- A call that sends its sample. -/
theorem sent_one {st : CamState} {channel : Ptr} (x : Sample) (answers : ℕ → Bool)
    (hd : st.device = some channel) : Sent st x answers channel [(x, answers 0)] where
  stored := fun _ => hd
  answer := fun s hmem => by rw [List.mem_singleton.1 hmem]
  tried := fun _ _ _ _ => List.cons_ne_nil _ _

/-- A sample past the awaited keyframe. -/
theorem submit_spec (st : CamState) (x : Sample) (answers : ℕ → Bool)
    (hpass : st.awaitingKeyframe = true → x.keyframe = true) :
    ∃ q' out channel,
      (submit { st with awaitingKeyframe := false } x answers).1.state = st.withQueue q' ∧
      SampleOffered st.queue x q' out ∧ Sent st x answers channel out ∧
      (submit { st with awaitingKeyframe := false } x answers).1.writes =
        shipping st.version channel out ∧
      (submit { st with awaitingKeyframe := false } x answers).1.events ⊆ [.keyframeNeeded] := by
  unfold submit
  by_cases hdirect : 0 < st.credits ∧ st.pending = []
  · obtain ⟨hc, hp⟩ := hdirect
    simp only [hc, hp, and_self, if_true]
    cases hd : st.device with
    | none =>
      refine ⟨{ st.queue with awaiting := false }, [], 0, ?_, .lost hpass hc hp (.inl rfl),
        sent_nil fun _ _ _ => hd, rfl, List.nil_subset _⟩
      simp [Outcome.nothing, CamState.withQueue, CamState.queue, hp, hd]
    | some channel =>
      have hsent := sent_one x answers hd
      cases ha : answers 0 with
      | true =>
        rw [ha] at hsent
        refine ⟨{ st.queue with credits := st.credits - 1, awaiting := false }, [(x, true)],
          channel, ?_, .shipped hpass hc hp, hsent, ?_, List.nil_subset _⟩
        · simp [Outcome.answer, CamState.withQueue, CamState.queue, hp, hd]
        · simp [Outcome.answer, shipping, ha]
      | false =>
        rw [ha] at hsent
        refine ⟨{ st.queue with awaiting := false }, [(x, false)], channel, ?_,
          .lost hpass hc hp (.inr rfl), hsent, ?_, List.nil_subset _⟩
        · simp [Outcome.answer, CamState.withQueue, CamState.queue, hp, hd]
        · simp [Outcome.answer, shipping, ha]
  · have hfull : 0 < st.queue.credits → st.queue.pending ≠ [] := fun hc hp => hdirect ⟨hc, hp⟩
    have hsent : Sent st x answers 0 [] := sent_nil fun _ hc hp => absurd ⟨hc, hp⟩ hdirect
    simp only [hdirect, if_false]
    by_cases hlen : st.pending.length < PENDING_SAMPLES_MAX
    · rw [if_pos hlen]
      exact ⟨{ st.queue with pending := st.pending ++ [x], awaiting := false }, [], 0, rfl,
        .queued hpass hfull hlen, hsent, rfl, List.nil_subset _⟩
    · rw [if_neg hlen]
      exact ⟨{ st.queue with pending := [], awaiting := true }, [], 0, rfl,
        .overflow hpass hfull (not_lt.1 hlen), hsent, rfl, List.Subset.refl _⟩

/-- **`Camera::sample`, in one lemma.**  While a stream runs, the sample is
offered to its queue, and what the queue ships is written to the stored device
channel.  Nothing but the stream changes. -/
theorem sample_spec (st : CamState) (x : Sample) (answers : ℕ → Bool)
    (hrun : st.streaming = true) :
    ∃ q' out channel, (sample st x answers).1.state = st.withQueue q' ∧
      SampleOffered st.queue x q' out ∧ Sent st x answers channel out ∧
      (sample st x answers).1.writes = shipping st.version channel out ∧
      (sample st x answers).1.events ⊆ [.keyframeNeeded] := by
  unfold sample
  rw [if_pos hrun]
  cases ha : st.awaitingKeyframe with
  | true =>
    cases hk : x.keyframe with
    | true => exact submit_spec st x answers fun _ => hk
    | false =>
      have hsent : Sent st x answers 0 [] := sent_nil fun hpass _ _ =>
        absurd ((hpass ha).symm.trans hk) (by simp)
      exact ⟨st.queue, [], 0, rfl, .refused ha hk, hsent, rfl, List.Subset.refl _⟩
  | false =>
    have hsame : { st with awaitingKeyframe := false } = st := by rw [← ha]
    have hspec := submit_spec st x answers fun h => absurd (ha.symm.trans h) (by simp)
    rw [hsame] at hspec
    exact hspec

/-- The loop of a SampleRequest pays out the oldest samples, one credit each,
until one of the two is used up. -/
theorem drain_spec (version : UInt8) (channel : Ptr) (answers : ℕ → Bool) (credits : ℕ)
    (pending : List Sample) (i : ℕ) :
    ∃ out : List (Sample × Bool),
      (drain version channel answers credits pending i).2.2 = shipping version channel out ∧
      pending = out.map Prod.fst ++ (drain version channel answers credits pending i).2.1 ∧
      out.length + (drain version channel answers credits pending i).1 = credits ∧
      ((drain version channel answers credits pending i).1 = 0 ∨
        (drain version channel answers credits pending i).2.1 = []) ∧
      ∀ s ∈ out, ∃ j < min credits pending.length, s.2 = answers (i + j) := by
  induction credits generalizing pending i with
  | zero =>
    exact ⟨[], by simp [drain, shipping], by simp [drain], by simp [drain], .inl rfl, by simp⟩
  | succ credits ih =>
    cases pending with
    | nil =>
      exact ⟨[], by simp [drain, shipping], by simp [drain], by simp [drain], .inr rfl, by simp⟩
    | cons x pending =>
      obtain ⟨out, hwrites, hpending, hcredits, hdone, hanswers⟩ := ih pending (i + 1)
      refine ⟨(x, answers i) :: out, ?_, ?_, ?_, ?_, fun s hmem => ?_⟩
      · simp only [drain, hwrites]
        rfl
      · simp only [drain, List.map_cons, List.cons_append]
        exact congrArg (List.cons x) hpending
      · simp only [drain, List.length_cons]
        omega
      · simpa only [drain] using hdone
      · rcases List.mem_cons.1 hmem with rfl | hmem
        · exact ⟨0, by simp, rfl⟩
        · obtain ⟨j, hj, heq⟩ := hanswers s hmem
          refine ⟨j + 1, ?_, ?_⟩
          · rw [List.length_cons]
            omega
          · rw [heq]
            congr 1
            omega

/-- How many samples a SampleRequest pays for. -/
def CamState.payable (st : CamState) : ℕ := min (min (st.credits + 1) u32Max) st.pending.length

theorem sample_of_not_streaming {st : CamState} {x : Sample} {answers : ℕ → Bool}
    (h : ¬st.streaming = true) : sample st x answers = (.nothing st, false) :=
  if_neg h

/-- What a message on a device channel can do. -/
inductive Handled (st : CamState) (channel : Ptr) (answers : ℕ → Bool) : Request → Outcome → Prop
  /-- It is answered, or ignored. -/
  | answered {asked : Request} {writes : List Write} :
      (asked = .other ∨ asked = .sample ∧ st.streaming = false) → Replies writes →
      Handled st channel answers asked ⟨st, writes, []⟩
  | stopped {writes : List Write} : Replies writes →
      Handled st channel answers .stop
        ⟨st.withQueue .idle, writes, if st.streaming then [.stopped] else []⟩
  | started {format : CameraFormat} {writes : List Write} : Replies writes →
      Handled st channel answers (.start format) ⟨st.withQueue .fresh, writes, [.started format]⟩
  /-- A credit comes in, and the samples it pays for go to the channel the
  request came from. -/
  | paid {q : Metered.Queue Sample} {out : List (Sample × Bool)} : st.streaming = true →
      QueueStep st.queue .grant q out → (∀ s ∈ out, ∃ i < st.payable, s.2 = answers i) →
      Handled st channel answers .sample ⟨st.withQueue q, shipping st.version channel out, []⟩

theorem handled_answer (st : CamState) (channel : Ptr) {message : Message} (answers : ℕ → Bool)
    (h : message.isReply = true) :
    Handled st channel answers .other (.answer st channel message answers) :=
  .answered (.inl rfl) (replies_one h)

theorem answerFormat_spec (st : CamState) (channel : Ptr) (body : Bytes)
    {message : UInt8 → CameraFormat → Message} (answers : ℕ → Bool)
    (h : ∀ version format, (message version format).isReply = true) :
    Handled st channel answers .other (answerFormat st channel body message answers) := by
  unfold answerFormat
  split
  · split
    · exact handled_answer st channel answers (h _ _)
    · exact handled_answer st channel answers rfl
  · exact handled_answer st channel answers rfl

theorem startStreams_spec (st : CamState) (channel : Ptr) (body : Bytes) (answers : ℕ → Bool) :
    Handled st channel answers
      (match startsStream body with | some format => .start format | none => .other)
      (startStreams st channel body answers) := by
  unfold startStreams startsStream
  cases hp : parseStartStreams body with
  | none => exact handled_answer st channel answers rfl
  | some parsed =>
    obtain ⟨index, format, media⟩ := parsed
    simp only
    by_cases hi : index = 0
    · by_cases hf : format = FORMAT_H264
      · simp only [hi, hf, and_self, if_true]
        exact .started (replies_one rfl)
      · simp only [hi, hf, and_false, if_false, if_true]
        exact handled_answer st channel answers rfl
    · simp only [hi, false_and, if_false]
      exact handled_answer st channel answers rfl

theorem sampleRequest_spec (st : CamState) (channel : Ptr) (body : Bytes) (answers : ℕ → Bool) :
    Handled st channel answers (if streamIndexOk body = true then .sample else .other)
      (sampleRequest st channel body answers) := by
  unfold sampleRequest
  by_cases hok : streamIndexOk body = true
  · rw [if_pos hok, if_pos hok]
    by_cases hrun : st.streaming = true
    · rw [if_pos hrun]
      obtain ⟨out, hwrites, hpending, hcredits, hdone, hanswers⟩ :=
        drain_spec st.version channel answers (min (st.credits + 1) u32Max) st.pending 0
      have hle : min (st.credits + 1) u32Max ≤ st.credits + 1 := min_le_left _ _
      simp only [hwrites]
      have hpos : 0 < min (st.credits + 1) u32Max :=
        lt_min (Nat.succ_pos _) (by decide)
      refine .paid (q := { st.queue with credits := _, pending := _ }) hrun
        (.grant hrun ?_ ?_ hpending hdone) fun s hmem => ?_
      · rw [hcredits]
        exact hpos
      · rw [hcredits]
        exact hle
      · obtain ⟨i, hi, heq⟩ := hanswers s hmem
        rw [Nat.zero_add] at heq
        exact ⟨i, hi, heq⟩
    · rw [if_neg hrun]
      exact .answered (.inr ⟨rfl, by simpa using hrun⟩) replies_nil
  · rw [if_neg hok, if_neg hok]
    exact handled_answer st channel answers rfl

/-- The requests that are answered, and nothing more. -/
theorem requestOf_eq_other {id : UInt8} {body : Bytes}
    (hstop : ¬ (id = DEACTIVATE_DEVICE_REQUEST ∨ id = STOP_STREAMS_REQUEST))
    (hstart : id ≠ START_STREAMS_REQUEST) (hsample : id ≠ SAMPLE_REQUEST) :
    requestOf id body = .other := by
  unfold requestOf
  rw [if_neg hstop, if_neg hstart, if_neg fun h => hsample h.1]

/-- **`handle_device`, in one lemma.** -/
theorem handleDevice_spec (st : CamState) (channel : Ptr) (id : UInt8) (body : Bytes)
    (answers : ℕ → Bool) :
    Handled st channel answers (requestOf id body) (handleDevice st channel id body answers) := by
  by_cases hstop : id = DEACTIVATE_DEVICE_REQUEST ∨ id = STOP_STREAMS_REQUEST
  · have hactivate : id ≠ ACTIVATE_DEVICE_REQUEST := by
      rintro rfl
      exact absurd hstop (by decide)
    unfold handleDevice requestOf
    rw [if_neg hactivate, if_pos hstop, if_pos hstop]
    exact .stopped (replies_one rfl)
  by_cases hstart : id = START_STREAMS_REQUEST
  · subst hstart
    exact startStreams_spec st channel body answers
  by_cases hsample : id = SAMPLE_REQUEST
  · subst hsample
    have hasked : requestOf SAMPLE_REQUEST body =
        if streamIndexOk body = true then .sample else .other := by
      unfold requestOf
      rw [if_neg hstop, if_neg hstart]
      simp
    rw [hasked]
    exact sampleRequest_spec st channel body answers
  rw [requestOf_eq_other hstop hstart hsample]
  unfold handleDevice
  rw [if_neg hstop, if_neg hstart, if_neg hsample]
  split_ifs
  · exact handled_answer st channel answers rfl
  · exact handled_answer st channel answers rfl
  · exact answerFormat_spec st channel body answers fun _ _ => rfl
  · exact answerFormat_spec st channel body answers fun _ _ => rfl
  · exact handled_answer st channel answers rfl
  · exact .answered (.inl rfl) replies_nil
  · exact handled_answer st channel answers rfl

/-! ## What a step can do to the stream -/

/-- What a request on a device channel does to a stream. -/
def Request.op (streaming : Bool) : Request → Metered.Op Sample
  | .start _ => .start
  | .stop => .stop
  | .sample => if streaming then .grant else .quiet
  | .other => .quiet

/-- What a step does to the stream. -/
def System.op (s : System) : Act → Metered.Op Sample
  | .unplug _ => .stop
  | .sample data keyframe _ =>
    if s.cam.streaming then .offer ⟨data, keyframe, s.calls⟩ else .quiet
  | .closed false channel => if s.cam.device = some channel then .stop else .quiet
  | .terminated => .stop
  | .received false _ bytes _ => (request bytes).op s.cam.streaming
  | _ => .quiet

/-- What leaves the stream alone. -/
theorem queueStep_quiet {st st' : CamState} (h : st'.queue = st.queue) :
    QueueStep st.queue .quiet st'.queue [] := by
  rw [h]
  exact .quiet

theorem announce_queue (deviceName : String) (st : CamState) (answers : ℕ → Bool) :
    (announce deviceName st answers).state.queue = st.queue ∧
      Plain (announce deviceName st answers).writes := by
  rcases announce_cases deviceName st answers with ⟨-, heq⟩ | ⟨channel, -, -, heq⟩
  · rw [heq]
    exact ⟨rfl, plain_nil⟩
  · rw [heq]
    exact ⟨rfl, plain_answer rfl⟩

theorem handleEnumerator_queue (deviceName : String) (st : CamState) (channel : Ptr)
    (serverVersion id : UInt8) (answers : ℕ → Bool) :
    (handleEnumerator deviceName st channel serverVersion id answers).state.queue = st.queue ∧
      Plain (handleEnumerator deviceName st channel serverVersion id answers).writes := by
  have henum := handleEnumerator_spec deviceName st channel serverVersion id answers
  generalize handleEnumerator deviceName st channel serverVersion id answers = outcome at henum ⊢
  generalize (id == SELECT_VERSION_RESPONSE) = selects at henum
  cases henum with
  | other hreplies => exact ⟨rfl, hreplies.plain⟩
  | due _ _ _ _ => exact ⟨rfl, plain_answer rfl⟩
  | known _ _ => exact ⟨rfl, plain_nil⟩

theorem unplug_queue (st : CamState) (answers : ℕ → Bool) :
    (unplug st answers).state.queue = .idle ∧ Plain (unplug st answers).writes := by
  rw [unplug_eq]
  refine ⟨rfl, fun w hw => ?_⟩
  rw [mem_removals hw]
  rfl

/-- An operation that leaves the stream alone and submits nothing. -/
theorem queueStep_plain {st : CamState} {outcome : Outcome}
    (h : outcome.state.queue = st.queue ∧ Plain outcome.writes) :
    QueueStep st.queue .quiet outcome.state.queue (submitted (outcome.writes.map .write)) := by
  rw [submitted_plain h.2]
  exact queueStep_quiet h.1

/-- What `handle_device` does to the stream. -/
theorem queueStep_handled {st : CamState} {channel : Ptr} {answers : ℕ → Bool} {asked : Request}
    {outcome : Outcome} (h : Handled st channel answers asked outcome) :
    QueueStep st.queue (asked.op st.streaming) outcome.state.queue
      (submitted (outcome.writes.map .write)) := by
  cases h with
  | answered hasked hplain =>
    rw [submitted_plain hplain.plain]
    rcases hasked with rfl | ⟨rfl, hrun⟩
    · exact .quiet
    · simp only [Request.op, hrun]
      exact .quiet
  | stopped hplain => rw [submitted_plain hplain.plain]; exact .stop
  | started hplain => rw [submitted_plain hplain.plain]; exact .start
  | paid hrun hstep _ =>
    simp only [Request.op, hrun, if_true, submitted_shipping]
    exact hstep

/-- **Every step of the camera is a step of its queue**, and what the queue ships
is what the step submits. -/
theorem queue_step {deviceName : String} {s t : System} {a : Act} {o : List Obs}
    (h : step deviceName s a = some (t, o)) :
    QueueStep s.cam.queue (s.op a) t.cam.queue (submitted o) := by
  cases a with
  | plug format answers =>
    obtain ⟨rfl, rfl⟩ := Prod.mk.inj (Option.some.inj h)
    exact queueStep_plain (announce_queue deviceName
      { s.cam with plugged := true, format := some (s.cam.format.getD format) } answers)
  | unplug answers =>
    obtain ⟨rfl, rfl⟩ := Prod.mk.inj (Option.some.inj h)
    obtain ⟨hidle, hplain⟩ := unplug_queue s.cam answers
    simp only [submitted_plain hplain, hidle]
    exact .stop
  | sample data keyframe answers =>
    obtain ⟨rfl, rfl⟩ := Prod.mk.inj (Option.some.inj h)
    by_cases hrun : s.cam.streaming = true
    · obtain ⟨q', out, channel, hstate, hoff, -, hwrites, -⟩ :=
        sample_spec s.cam ⟨data, keyframe, s.calls⟩ answers hrun
      simp only [System.op, hrun, if_true, System.apply, hstate, hwrites, submitted_append,
        submitted_shipping, submitted_returned, List.append_nil]
      exact .offer hrun hoff
    · simp only [System.op, hrun, System.apply, sample, Outcome.nothing]
      exact .quiet
  | opened enumerator channel answers =>
    obtain ⟨-, rfl, rfl⟩ := step_opened h
    cases enumerator with
    | true => exact queueStep_plain ⟨rfl, plain_answer rfl⟩
    | false => exact .quiet
  | closed enumerator channel =>
    obtain ⟨-, rfl, rfl⟩ := step_closed h
    cases enumerator with
    | true =>
      simp only [System.op, onClose, if_true]
      split <;> exact .quiet
    | false =>
      simp only [System.op, onClose, Bool.false_eq_true, if_false]
      split
      · exact .stop
      · exact .quiet
  | terminated =>
    obtain ⟨rfl, rfl⟩ := Prod.mk.inj (Option.some.inj h)
    exact .stop
  | received enumerator channel bytes answers =>
    obtain ⟨-, rfl, rfl⟩ := step_received h
    match bytes with
    | [] => cases enumerator <;> exact .quiet
    | [_] => cases enumerator <;> exact .quiet
    | serverVersion :: id :: body =>
      cases enumerator with
      | true =>
        exact queueStep_plain (handleEnumerator_queue deviceName s.cam channel serverVersion id
          answers)
      | false => exact queueStep_handled (handleDevice_spec s.cam channel id body answers)
  | deliver position =>
    obtain ⟨event, -, rfl, rfl⟩ := step_deliver h
    exact .quiet

/-- A step that submits a sample is an offer of it to a running stream, or a
payment to one in which samples wait. -/
theorem running_of_submitted {deviceName : String} {s t : System} {a : Act} {o : List Obs}
    (h : step deviceName s a = some (t, o)) (hne : submitted o ≠ []) :
    s.cam.streaming = true ∧
      ((∃ x, s.op a = .offer x) ∨ s.op a = .grant ∧ s.cam.pending ≠ []) := by
  have hq := queue_step h
  have hrun : s.cam.queue.running = s.cam.streaming := rfl
  have hpend : s.cam.queue.pending = s.cam.pending := rfl
  rw [← hrun, ← hpend]
  generalize s.cam.queue = q at hq ⊢
  generalize t.cam.queue = q' at hq
  generalize s.op a = op at hq ⊢
  generalize submitted o = out at hq hne
  cases hq with
  | grant hrun _ _ hp _ =>
    refine ⟨hrun, .inr ⟨rfl, fun hnil => hne ?_⟩⟩
    rw [hnil] at hp
    exact List.map_eq_nil_iff.1 (List.append_eq_nil_iff.1 hp.symm).1
  | offer hrun _ => exact ⟨hrun, .inl ⟨_, rfl⟩⟩
  | _ => exact absurd rfl hne

/-- Only a request for samples pays. -/
theorem request_of_grant {s : System} {channel : Ptr} {bytes : Bytes} {answers : ℕ → Bool} :
    s.op (.received false channel bytes answers) = .grant ↔
      request bytes = .sample ∧ s.cam.streaming = true := by
  simp only [System.op]
  cases hasked : request bytes with
  | sample => cases hrun : s.cam.streaming <;> simp [Request.op]
  | _ => simp [Request.op]

/-- A message offers no sample. -/
theorem op_received_ne_offer {s : System} {channel : Ptr} {bytes : Bytes} {answers : ℕ → Bool}
    {x : Sample} : s.op (.received false channel bytes answers) ≠ .offer x := by
  simp only [System.op]
  cases request bytes with
  | sample => cases hrun : s.cam.streaming <;> simp [Request.op]
  | _ => simp [Request.op]

/-- Calls of `sample` are counted, and only they offer samples. -/
theorem calls_step {deviceName : String} {s t : System} {a : Act} {o : List Obs}
    (h : step deviceName s a = some (t, o)) :
    (t.calls = s.calls + 1 ∧ ((∃ x, s.op a = .offer x ∧ x.call = s.calls) ∨
        s.op a = .quiet ∧ s.cam.streaming = false)) ∨
      (t.calls = s.calls ∧ ∀ x, s.op a ≠ .offer x) := by
  cases a with
  | sample data keyframe answers =>
    obtain ⟨rfl, rfl⟩ := Prod.mk.inj (Option.some.inj h)
    refine .inl ⟨rfl, ?_⟩
    by_cases hrun : s.cam.streaming = true
    · exact .inl ⟨_, if_pos hrun, rfl⟩
    · exact .inr ⟨if_neg hrun, by simpa using hrun⟩
  | plug format answers =>
    obtain ⟨rfl, rfl⟩ := Prod.mk.inj (Option.some.inj h)
    exact .inr ⟨rfl, fun x hx => absurd hx (by simp [System.op])⟩
  | unplug answers =>
    obtain ⟨rfl, rfl⟩ := Prod.mk.inj (Option.some.inj h)
    exact .inr ⟨rfl, fun x hx => absurd hx (by simp [System.op])⟩
  | opened enumerator channel answers =>
    obtain ⟨-, rfl, rfl⟩ := step_opened h
    refine .inr ⟨?_, fun x hx => absurd hx (by simp [System.op])⟩
    cases enumerator <;> rfl
  | closed enumerator channel =>
    obtain ⟨-, rfl, rfl⟩ := step_closed h
    refine .inr ⟨?_, fun x hx => ?_⟩
    · cases enumerator <;> rfl
    · cases enumerator with
      | true => exact absurd hx (by simp [System.op])
      | false =>
        simp only [System.op] at hx
        split at hx <;> exact absurd hx (by simp)
  | terminated =>
    obtain ⟨rfl, rfl⟩ := Prod.mk.inj (Option.some.inj h)
    exact .inr ⟨rfl, fun x hx => absurd hx (by simp [System.op])⟩
  | received enumerator channel bytes answers =>
    obtain ⟨-, rfl, rfl⟩ := step_received h
    refine .inr ⟨rfl, fun x hx => ?_⟩
    cases enumerator with
    | true => exact absurd hx (by simp [System.op])
    | false =>
      simp only [System.op] at hx
      cases hasked : request bytes with
      | sample =>
        rw [hasked, Request.op] at hx
        split at hx <;> exact absurd hx (by simp)
      | _ =>
        rw [hasked] at hx
        exact absurd hx (by simp [Request.op])
  | deliver position =>
    obtain ⟨event, -, rfl, rfl⟩ := step_deliver h
    exact .inr ⟨rfl, fun x hx => absurd hx (by simp [System.op])⟩

end Camera
end FreerdpPrebuilt
