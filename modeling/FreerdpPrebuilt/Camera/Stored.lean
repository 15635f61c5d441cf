import FreerdpPrebuilt.Camera.Frame

/-!
# What the endpoint keeps of its channels

Beside the stream and the plug, the endpoint keeps the version the host selected,
the format it was plugged with, and the enumeration channel; and it writes to
channels it has kept or was called on.  `stored_of_step` says for every step what
becomes of each.
-/

namespace FreerdpPrebuilt
namespace Camera

open Labelled

/-- The version a message selects, if it is one this endpoint speaks. -/
def selectedVersion (bytes : Bytes) : Option UInt8 :=
  match bytes with
  | serverVersion :: id :: _ =>
    if id = SELECT_VERSION_RESPONSE ∧ 1 ≤ serverVersion ∧ serverVersion ≤ ECAM_PROTO_VERSION then
      some serverVersion
    else none
  | _ => none

/-- The version the action selects. -/
def Act.selects : Act → Option UInt8
  | .received true _ bytes _ => selectedVersion bytes
  | _ => none

/-- The format kept, after the action. -/
def Act.formats (format : Option CameraFormat) : Act → Option CameraFormat
  | .plug plugged _ => some (format.getD plugged)
  | .unplug _ => none
  | _ => format

/-- The stored enumeration channel, after the action. -/
def Act.storesEnumerator (enumerator : Option Ptr) : Act → Option Ptr
  | .opened true channel _ => some channel
  | .closed true channel => if enumerator = some channel then none else enumerator
  | .terminated => none
  | _ => enumerator

/-- The open enumeration channels, after the action. -/
def Act.opensEnumerators (enumerators : List Ptr) : Act → List Ptr
  | .opened true channel _ => channel :: enumerators
  | .closed true channel => enumerators.erase channel
  | .terminated => []
  | _ => enumerators

/-- The channel the action writes to, if it writes. -/
def System.writesTo (s : System) : Act → Option Ptr
  | .plug _ _ | .unplug _ => s.cam.enumerator
  | .sample _ _ _ => s.cam.device
  | .opened true channel _ => some channel
  | .received _ channel _ _ => some channel
  | .opened false _ _ | .closed _ _ | .terminated | .deliver _ => none

/-- **What a step does to all that.** -/
structure Stored (s : System) (a : Act) (t : System) (o : List Obs) : Prop where
  version : t.cam.version = a.selects.getD s.cam.version
  format : t.cam.format = a.formats s.cam.format
  enumerator : t.cam.enumerator = a.storesEnumerator s.cam.enumerator
  enumerators : t.enumerators = a.opensEnumerators s.enumerators
  writes : ∀ w, .write w ∈ o → s.writesTo a = some w.channel

/-- A step that takes over what an operation leaves. -/
theorem stored_apply {s base : System} {a : Act} {outcome : Outcome}
    (hversion : outcome.state.version = a.selects.getD s.cam.version)
    (hformat : outcome.state.format = a.formats s.cam.format)
    (henumerator : outcome.state.enumerator = a.storesEnumerator s.cam.enumerator)
    (henumerators : base.enumerators = a.opensEnumerators s.enumerators)
    (hwrites : ∀ w ∈ outcome.writes, s.writesTo a = some w.channel) :
    Stored s a (base.apply outcome).1 (base.apply outcome).2 where
  version := hversion
  format := hformat
  enumerator := henumerator
  enumerators := henumerators
  writes := by
    intro w hw
    obtain ⟨w', hw', heq⟩ := List.mem_map.1 hw
    rw [← Obs.write.inj heq]
    exact hwrites w' hw'

/-! ## The operations -/

variable {deviceName : String} {st : CamState} {channel : Ptr} {answers : ℕ → Bool}

/-- An operation that does nothing writes to no channel. -/
theorem forall_writes_nothing {P : Write → Prop} : ∀ w ∈ (Outcome.nothing st).writes, P w :=
  fun _ hw => absurd hw List.not_mem_nil

/-- One message is written where it is sent. -/
theorem channel_of_mem_singleton {message : Message} {answer : Bool} :
    ∀ w ∈ [(⟨channel, message, answer⟩ : Write)], w.channel = channel := by
  intro w hw
  rw [List.mem_singleton.1 hw]

/-- Of two branches that write there, whichever is taken does. -/
theorem writes_ite {c : Prop} [Decidable c] {x y : Outcome}
    (hx : ∀ w ∈ x.writes, w.channel = channel) (hy : ∀ w ∈ y.writes, w.channel = channel) :
    ∀ w ∈ (if c then x else y).writes, w.channel = channel := by
  split
  · exact hx
  · exact hy

theorem announce_stored (deviceName : String) (st : CamState) (answers : ℕ → Bool) :
    (announce deviceName st answers).state.version = st.version ∧
      (announce deviceName st answers).state.format = st.format ∧
      (announce deviceName st answers).state.enumerator = st.enumerator ∧
      ∀ w ∈ (announce deviceName st answers).writes, st.enumerator = some w.channel := by
  rcases announce_cases deviceName st answers with ⟨-, heq⟩ | ⟨channel, hchannel, -, heq⟩
  · rw [heq]
    exact ⟨rfl, rfl, rfl, forall_writes_nothing⟩
  · rw [heq]
    refine ⟨rfl, rfl, rfl, ?_⟩
    intro w hw
    rw [hchannel, channel_of_mem_singleton w hw]

theorem handleEnumerator_stored (deviceName : String) (st : CamState) (channel : Ptr)
    (serverVersion id : UInt8) (body : Bytes) (answers : ℕ → Bool) :
    let outcome := handleEnumerator deviceName st channel serverVersion id answers
    outcome.state.version = (selectedVersion (serverVersion :: id :: body)).getD st.version ∧
      outcome.state.format = st.format ∧ outcome.state.enumerator = st.enumerator ∧
      ∀ w ∈ outcome.writes, w.channel = channel := by
  unfold handleEnumerator
  by_cases hid : id = SELECT_VERSION_RESPONSE
  · have hversion : (if 1 ≤ serverVersion ∧ serverVersion ≤ ECAM_PROTO_VERSION then serverVersion
        else st.version) = (selectedVersion (serverVersion :: id :: body)).getD st.version := by
      unfold selectedVersion
      simp only [hid, true_and]
      split_ifs <;> rfl
    rw [if_pos hid, hversion]
    generalize (selectedVersion (serverVersion :: id :: body)).getD st.version = version
    by_cases hdue : (st.plugged && !st.announced && st.format.isSome) = true
    · simp only [if_pos hdue]
      cases answers 0 <;> exact ⟨rfl, rfl, rfl, channel_of_mem_singleton⟩
    · rw [if_neg hdue]
      exact ⟨rfl, rfl, rfl, fun _ hw => absurd hw List.not_mem_nil⟩
  · have hnone : selectedVersion (serverVersion :: id :: body) = none := by
      unfold selectedVersion
      exact if_neg fun hall => hid hall.1
    rw [if_neg hid, hnone]
    split_ifs
    · exact ⟨rfl, rfl, rfl, forall_writes_nothing⟩
    · exact ⟨rfl, rfl, rfl, channel_of_mem_singleton⟩

/-- A close forgets the enumeration channel if it is its own. -/
theorem onClose_stored (st : CamState) (enumerator : Bool) (channel : Ptr) :
    let outcome := onClose st enumerator channel
    outcome.state.version = st.version ∧ outcome.state.format = st.format ∧
      outcome.state.enumerator = (Act.closed enumerator channel).storesEnumerator st.enumerator ∧
      outcome.writes = [] := by
  unfold onClose
  cases enumerator with
  | true =>
    by_cases hstored : st.enumerator = some channel
    · rw [if_pos rfl, if_pos hstored]
      exact ⟨rfl, rfl, (if_pos hstored).symm, rfl⟩
    · rw [if_pos rfl, if_neg hstored]
      exact ⟨rfl, rfl, (if_neg hstored).symm, rfl⟩
  | false =>
    rw [if_neg Bool.false_ne_true]
    split_ifs <;> exact ⟨rfl, rfl, rfl, rfl⟩

/-- A message about formats is answered where it came from. -/
theorem writes_answerFormat {body : Bytes} {message : UInt8 → CameraFormat → Message} :
    ∀ w ∈ (answerFormat st channel body message answers).writes, w.channel = channel := by
  unfold answerFormat
  split
  · split <;> exact channel_of_mem_singleton
  · exact channel_of_mem_singleton

theorem writes_startStreams {body : Bytes} :
    ∀ w ∈ (startStreams st channel body answers).writes, w.channel = channel := by
  unfold startStreams
  split
  · exact channel_of_mem_singleton
  · split_ifs <;> exact channel_of_mem_singleton

theorem writes_sampleRequest {body : Bytes} :
    ∀ w ∈ (sampleRequest st channel body answers).writes, w.channel = channel := by
  unfold sampleRequest
  split_ifs
  · obtain ⟨out, hwrites, -⟩ :=
      drain_spec st.version channel answers (min (st.credits + 1) u32Max) st.pending 0
    intro w hw
    simp only [hwrites] at hw
    obtain ⟨x, -, rfl⟩ := List.mem_map.1 hw
    rfl
  · exact forall_writes_nothing
  · exact channel_of_mem_singleton

/-- Every message on a device channel is answered where it came from. -/
theorem writes_handleDevice {id : UInt8} {body : Bytes} :
    ∀ w ∈ (handleDevice st channel id body answers).writes, w.channel = channel := by
  unfold handleDevice
  refine writes_ite channel_of_mem_singleton (writes_ite channel_of_mem_singleton ?_)
  refine writes_ite channel_of_mem_singleton (writes_ite writes_answerFormat ?_)
  refine writes_ite writes_answerFormat (writes_ite writes_startStreams ?_)
  refine writes_ite writes_sampleRequest (writes_ite channel_of_mem_singleton ?_)
  exact writes_ite forall_writes_nothing channel_of_mem_singleton

/-- A message on a device channel leaves all that as it is. -/
theorem Handled.stored {asked : Request} {outcome : Outcome}
    (h : Handled st channel answers asked outcome) :
    outcome.state.version = st.version ∧ outcome.state.format = st.format ∧
      outcome.state.enumerator = st.enumerator := by
  cases h <;> exact ⟨rfl, rfl, rfl⟩

/-! ## Every step -/

variable {s t : System} {a : Act} {o : List Obs}

theorem stored_sample {data : Bytes} {keyframe : Bool}
    (h : step deviceName s (.sample data keyframe answers) = some (t, o)) :
    Stored s (.sample data keyframe answers) t o := by
  obtain ⟨rfl, rfl⟩ := Prod.mk.inj (Option.some.inj h)
  suffices hgoal : Stored s (.sample data keyframe answers)
      (s.apply (sample s.cam ⟨data, keyframe, s.calls⟩ answers).1).1
      (s.apply (sample s.cam ⟨data, keyframe, s.calls⟩ answers).1).2 by
    refine ⟨hgoal.version, hgoal.format, hgoal.enumerator, hgoal.enumerators, fun w hw => ?_⟩
    rcases List.mem_append.1 hw with hw | hw
    · exact hgoal.writes w hw
    · exact absurd (List.mem_singleton.1 hw) (by simp)
  by_cases hrun : s.cam.streaming = true
  · obtain ⟨q', out, channel, hstate, -, hsent, hwrites, -⟩ :=
      sample_spec s.cam ⟨data, keyframe, s.calls⟩ answers hrun
    refine stored_apply ?_ ?_ ?_ rfl fun w hw => ?_
    · rw [hstate]
      rfl
    · rw [hstate]
      rfl
    · rw [hstate]
      rfl
    · rw [hwrites] at hw
      obtain ⟨x, hx, rfl⟩ := List.mem_map.1 hw
      exact hsent.stored (List.ne_nil_of_mem hx)
  · rw [sample_of_not_streaming hrun]
    exact stored_apply rfl rfl rfl rfl forall_writes_nothing

theorem stored_received {enumerator : Bool} {bytes : Bytes}
    (h : step deviceName s (.received enumerator channel bytes answers) = some (t, o)) :
    Stored s (.received enumerator channel bytes answers) t o := by
  obtain ⟨-, rfl, rfl⟩ := step_received h
  rcases bytes with _ | ⟨serverVersion, _ | ⟨id, body⟩⟩
  · cases enumerator <;> exact stored_apply rfl rfl rfl rfl forall_writes_nothing
  · cases enumerator <;> exact stored_apply rfl rfl rfl rfl forall_writes_nothing
  · cases enumerator with
    | true =>
      obtain ⟨hversion, hformat, henumerator, hwrites⟩ :=
        handleEnumerator_stored deviceName s.cam channel serverVersion id body answers
      exact stored_apply hversion hformat henumerator rfl
        fun w hw => congrArg some (hwrites w hw).symm
    | false =>
      obtain ⟨hversion, hformat, henumerator⟩ :=
        (handleDevice_spec s.cam channel id body answers).stored
      exact stored_apply hversion hformat henumerator rfl
        fun w hw => congrArg some (writes_handleDevice w hw).symm

/-- **What every step keeps and where it writes.** -/
theorem stored_of_step (h : step deviceName s a = some (t, o)) : Stored s a t o := by
  cases a with
  | plug format answers =>
    obtain ⟨rfl, rfl⟩ := Prod.mk.inj (Option.some.inj h)
    obtain ⟨hversion, hformat, henumerator, hwrites⟩ := announce_stored deviceName
      { s.cam with plugged := true, format := some (s.cam.format.getD format) } answers
    exact stored_apply hversion hformat henumerator rfl hwrites
  | unplug answers =>
    obtain ⟨rfl, rfl⟩ := Prod.mk.inj (Option.some.inj h)
    rw [unplug_eq]
    refine stored_apply rfl rfl rfl rfl fun w hw => ?_
    unfold removals at hw
    split_ifs at hw
    · obtain ⟨channel, hchannel, rfl⟩ := List.mem_map.1 hw
      exact Option.mem_toList.1 hchannel
    · exact absurd hw List.not_mem_nil
  | sample data keyframe answers => exact stored_sample h
  | opened enumerator channel answers =>
    obtain ⟨-, rfl, rfl⟩ := step_opened h
    cases enumerator with
    | true =>
      refine stored_apply rfl rfl rfl rfl ?_
      intro w hw
      exact congrArg some (channel_of_mem_singleton w hw).symm
    | false => exact stored_apply rfl rfl rfl rfl fun _ hw => absurd hw List.not_mem_nil
  | closed enumerator channel =>
    obtain ⟨-, rfl, rfl⟩ := step_closed h
    obtain ⟨hversion, hformat, henumerator, hwrites⟩ := onClose_stored s.cam enumerator channel
    refine stored_apply hversion hformat henumerator ?_ ?_
    · cases enumerator <;> rfl
    · rw [hwrites]
      intro w hw
      exact absurd hw List.not_mem_nil
  | terminated =>
    obtain ⟨rfl, rfl⟩ := Prod.mk.inj (Option.some.inj h)
    exact stored_apply rfl rfl rfl rfl fun _ hw => absurd hw List.not_mem_nil
  | received enumerator channel bytes answers => exact stored_received h
  | deliver position =>
    obtain ⟨event, -, rfl, rfl⟩ := step_deliver h
    exact ⟨rfl, rfl, rfl, rfl, fun w hw => absurd hw (by simp)⟩

end Camera
end FreerdpPrebuilt
