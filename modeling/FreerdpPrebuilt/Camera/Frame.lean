import FreerdpPrebuilt.Camera.Stream

/-!
# What else an operation does

Beside the stream: the plug, the stored device channel, where samples are
written, and the events.  `framed_of_step` says for every step of the machine
what becomes of each, so that no proof has to look at the operations again.
-/

namespace FreerdpPrebuilt
namespace Camera

open Labelled

/-! ## What a step can do besides -/

/-- The format of the stream the action starts. -/
def Act.starts : Act → Option CameraFormat
  | .received false _ bytes _ =>
    match request bytes with
    | .start format => some format
    | _ => none
  | _ => none

/-- Whether the embedder is to be told that its stream was stopped: it was
running, and somebody else ended it. -/
def System.tellsStopped (s : System) : Act → Bool
  | .closed false channel => s.cam.streaming && s.cam.device == some channel
  | .terminated => s.cam.streaming
  | .received false _ bytes _ => s.cam.streaming && request bytes == .stop
  | _ => false

/-- Whether the embedder wants the device visible, after the action. -/
def Act.plugs (plugged : Bool) : Act → Bool
  | .plug _ _ => true
  | .unplug _ => false
  | _ => plugged

/-- The stored device channel, after the action. -/
def Act.stores (device : Option Ptr) : Act → Option Ptr
  | .opened false channel _ => some channel
  | .closed false channel => if device = some channel then none else device
  | .terminated => none
  | _ => device

/-- The open device channels, after the action. -/
def Act.opens (devices : List Ptr) : Act → List Ptr
  | .opened false channel _ => channel :: devices
  | .closed false channel => devices.erase channel
  | .terminated => []
  | _ => devices

/-- The channel the action would write samples to. -/
def System.shipsTo (s : System) : Act → Option Ptr
  | .sample _ _ _ => s.cam.device
  | .received false channel _ _ => some channel
  | _ => none

/-- The events an action adds: a start is told with its format, a stop by
somebody else once, and of no other action is either told. -/
structure Told (s : System) (a : Act) (events : List Event) : Prop where
  started : ∀ format, .started format ∈ events ↔ a.starts = some format
  stopped : events.count .stopped = if s.tellsStopped a then 1 else 0

/-- Events about neither. -/
theorem told_quiet {s : System} {a : Act} {events : List Event}
    (hstart : ∀ format, Event.started format ∉ events) (hstop : Event.stopped ∉ events)
    (ha : a.starts = none) (hs : s.tellsStopped a = false) : Told s a events where
  started := fun format => ⟨fun h => absurd h (hstart format), fun h => absurd (ha.symm.trans h)
    (by simp)⟩
  stopped := by rw [hs, List.count_eq_zero.2 hstop]; rfl

/-- **Everything a step does, but for the announcement.** -/
structure Framed (s : System) (a : Act) (t : System) (o : List Obs) : Prop where
  plugged : t.cam.plugged = a.plugs s.cam.plugged
  device : t.cam.device = a.stores s.cam.device
  devices : t.devices = a.opens s.devices
  shipped : ∀ w, .write w ∈ o → w.message.sample ≠ none → s.shipsTo a = some w.channel
  events : (∃ position event, a = .deliver position ∧ s.inFlight[position]? = some event ∧
      t.inFlight = s.inFlight.eraseIdx position ∧ o = [.deliver event]) ∨
    ((∀ event, .deliver event ∉ o) ∧ ∃ events, t.inFlight = s.inFlight ++ events ∧ Told s a events)

/-- A step that takes over what an operation leaves. -/
theorem framed_apply {s base : System} {a : Act} {outcome : Outcome}
    (hflight : base.inFlight = s.inFlight)
    (hplugged : outcome.state.plugged = a.plugs s.cam.plugged)
    (hdevice : outcome.state.device = a.stores s.cam.device)
    (hdevices : base.devices = a.opens s.devices)
    (hshipped : ∀ w ∈ outcome.writes, w.message.sample ≠ none → s.shipsTo a = some w.channel)
    (htold : Told s a outcome.events) :
    Framed s a (base.apply outcome).1 (base.apply outcome).2 where
  plugged := hplugged
  device := hdevice
  devices := hdevices
  shipped := fun w hw hsome => by
    obtain ⟨w', hw', heq⟩ := List.mem_map.1 hw
    rw [← Obs.write.inj heq] at hsome ⊢
    exact hshipped w' hw' hsome
  events := by
    refine .inr ⟨fun event he => ?_, outcome.events, ?_, htold⟩
    · obtain ⟨w, -, heq⟩ := List.mem_map.1 he
      exact absurd heq (by simp)
    · change base.inFlight ++ _ = _
      rw [hflight]

/-- A plain answer ships nothing anywhere. -/
theorem Plain.shipped {writes : List Write} (h : Plain writes) (p : Write → Prop) :
    ∀ w ∈ writes, w.message.sample ≠ none → p w := fun w hw hsome => absurd (h w hw) hsome

theorem told_nil {s : System} {a : Act} (ha : a.starts = none) (hs : s.tellsStopped a = false) :
    Told s a [] :=
  told_quiet (fun _ => List.not_mem_nil) List.not_mem_nil ha hs

theorem told_stopped {s : System} {a : Act} (ha : a.starts = none)
    (hs : s.tellsStopped a = s.cam.streaming) :
    Told s a (if s.cam.streaming then [.stopped] else []) where
  started := fun format => by
    rw [ha]
    split <;> simp
  stopped := by
    rw [hs]
    split <;> simp

theorem announce_frame (deviceName : String) (st : CamState) (answers : ℕ → Bool) :
    (announce deviceName st answers).state.plugged = st.plugged ∧
      (announce deviceName st answers).state.device = st.device ∧
      (announce deviceName st answers).events = [] := by
  rcases announce_cases deviceName st answers with ⟨-, heq⟩ | ⟨channel, -, -, heq⟩ <;>
    rw [heq] <;> exact ⟨rfl, rfl, rfl⟩

theorem handleEnumerator_frame (deviceName : String) (st : CamState) (channel : Ptr)
    (serverVersion id : UInt8) (answers : ℕ → Bool) :
    (handleEnumerator deviceName st channel serverVersion id answers).state.plugged = st.plugged ∧
      (handleEnumerator deviceName st channel serverVersion id answers).state.device = st.device ∧
      ((handleEnumerator deviceName st channel serverVersion id answers).events = [] ∨
        ∃ version, (handleEnumerator deviceName st channel serverVersion id answers).events =
          [.negotiated version]) := by
  have henum := handleEnumerator_spec deviceName st channel serverVersion id answers
  generalize handleEnumerator deviceName st channel serverVersion id answers = outcome at henum ⊢
  generalize (id == SELECT_VERSION_RESPONSE) = selects at henum
  cases henum with
  | other _ => exact ⟨rfl, rfl, .inl rfl⟩
  | due version _ _ _ => exact ⟨rfl, rfl, .inr ⟨version, rfl⟩⟩
  | known version _ => exact ⟨rfl, rfl, .inr ⟨version, rfl⟩⟩

theorem framed_handled {s : System} {channel : Ptr} {bytes : Bytes} {answers : ℕ → Bool}
    {outcome : Outcome} (h : Handled s.cam channel answers (request bytes) outcome) :
    Framed s (.received false channel bytes answers) (s.apply outcome).1 (s.apply outcome).2 := by
  generalize hasked : request bytes = asked at h
  cases h with
  | answered hwhy hplain =>
    refine framed_apply rfl rfl rfl rfl (hplain.plain.shipped _) (told_nil ?_ ?_)
    · rcases hwhy with rfl | ⟨rfl, -⟩ <;> simp [Act.starts, hasked]
    · rcases hwhy with rfl | ⟨rfl, -⟩ <;> simp [System.tellsStopped, hasked]
  | stopped hplain =>
    refine framed_apply rfl rfl rfl rfl (hplain.plain.shipped _) (told_stopped ?_ ?_)
    · simp [Act.starts, hasked]
    · simp [System.tellsStopped, hasked]
  | @started format writes hplain =>
    refine framed_apply rfl rfl rfl rfl (hplain.plain.shipped _) ⟨fun f => ?_, ?_⟩
    · simp [Act.starts, hasked, eq_comm]
    · simp [System.tellsStopped, hasked]
  | paid _ _ _ =>
    refine framed_apply rfl rfl rfl rfl (fun w hw _ => ?_) (told_nil ?_ ?_)
    · obtain ⟨x, -, rfl⟩ := List.mem_map.1 hw
      rfl
    · simp [Act.starts, hasked]
    · simp [System.tellsStopped, hasked]

theorem framed_sample {deviceName : String} {s t : System} {data : Bytes} {keyframe : Bool}
    {answers : ℕ → Bool} {o : List Obs}
    (h : step deviceName s (.sample data keyframe answers) = some (t, o)) :
    Framed s (.sample data keyframe answers) t o := by
  obtain ⟨rfl, rfl⟩ := Prod.mk.inj (Option.some.inj h)
  suffices hgoal : Framed s (.sample data keyframe answers)
      (s.apply (sample s.cam ⟨data, keyframe, s.calls⟩ answers).1).1
      (s.apply (sample s.cam ⟨data, keyframe, s.calls⟩ answers).1).2 by
    refine ⟨hgoal.plugged, hgoal.device, hgoal.devices, fun w hw hsome => ?_, ?_⟩
    · rcases List.mem_append.1 hw with hw | hw
      · exact hgoal.shipped w hw hsome
      · exact absurd (List.mem_singleton.1 hw) (by simp)
    · rcases hgoal.events with ⟨position, event, ha, -⟩ | ⟨hnone, htold⟩
      · exact absurd ha (by simp)
      · refine .inr ⟨fun event he => ?_, htold⟩
        rcases List.mem_append.1 he with he | he
        · exact hnone event he
        · exact absurd (List.mem_singleton.1 he) (by simp)
  by_cases hrun : s.cam.streaming = true
  · obtain ⟨q', out, channel, hstate, -, hsent, hwrites, hevents⟩ :=
      sample_spec s.cam ⟨data, keyframe, s.calls⟩ answers hrun
    refine framed_apply rfl ?_ ?_ rfl (fun w hw _ => ?_) (told_quiet ?_ ?_ rfl rfl)
    · rw [hstate]
      rfl
    · rw [hstate]
      rfl
    · rw [hwrites] at hw
      obtain ⟨x, hx, rfl⟩ := List.mem_map.1 hw
      exact hsent.stored (List.ne_nil_of_mem hx)
    · intro format hmem
      exact absurd (hevents hmem) (by simp)
    · intro hmem
      exact absurd (hevents hmem) (by simp)
  · rw [sample_of_not_streaming hrun]
    exact framed_apply rfl rfl rfl rfl (plain_nil.shipped _) (told_nil rfl rfl)

theorem framed_of_step {deviceName : String} {s t : System} {a : Act} {o : List Obs}
    (h : step deviceName s a = some (t, o)) : Framed s a t o := by
  cases a with
  | plug format answers =>
    obtain ⟨rfl, rfl⟩ := Prod.mk.inj (Option.some.inj h)
    obtain ⟨hplugged, hdevice, hevents⟩ := announce_frame deviceName
      { s.cam with plugged := true, format := some (s.cam.format.getD format) } answers
    have hplain := (announce_queue deviceName
      { s.cam with plugged := true, format := some (s.cam.format.getD format) } answers).2
    refine framed_apply rfl hplugged hdevice rfl (hplain.shipped _) ?_
    rw [plug, hevents]
    exact told_nil rfl rfl
  | unplug answers =>
    obtain ⟨rfl, rfl⟩ := Prod.mk.inj (Option.some.inj h)
    have hplain := (unplug_queue s.cam answers).2
    rw [unplug_eq] at hplain ⊢
    exact framed_apply rfl rfl rfl rfl (hplain.shipped _) (told_nil rfl rfl)
  | sample data keyframe answers => exact framed_sample h
  | opened enumerator channel answers =>
    obtain ⟨-, rfl, rfl⟩ := step_opened h
    cases enumerator with
    | true =>
      exact framed_apply rfl rfl rfl rfl ((plain_answer rfl).shipped _) (told_nil rfl rfl)
    | false =>
      have htold : Told s (.opened false channel answers) [.attached] :=
        told_quiet (by simp) (by simp) rfl rfl
      exact framed_apply rfl rfl rfl rfl (plain_nil.shipped _) htold
  | closed enumerator channel =>
    obtain ⟨-, rfl, rfl⟩ := step_closed h
    cases enumerator with
    | true =>
      simp only [onClose, if_true]
      split <;> exact framed_apply rfl rfl rfl rfl (plain_nil.shipped _) (told_nil rfl rfl)
    | false =>
      simp only [onClose, Bool.false_eq_true, if_false]
      by_cases hd : s.cam.device = some channel
      · rw [if_pos hd]
        refine framed_apply rfl rfl ?_ rfl (plain_nil.shipped _) (told_stopped rfl ?_)
        · rw [Act.stores, if_pos hd]
          rfl
        · simp [System.tellsStopped, hd]
      · rw [if_neg hd]
        refine framed_apply rfl rfl ?_ rfl (plain_nil.shipped _) (told_nil rfl ?_)
        · rw [Act.stores, if_neg hd]
          rfl
        · simp [System.tellsStopped, hd]
  | terminated =>
    obtain ⟨rfl, rfl⟩ := Prod.mk.inj (Option.some.inj h)
    exact framed_apply rfl rfl rfl rfl (plain_nil.shipped _) (told_stopped rfl rfl)
  | received enumerator channel bytes answers =>
    obtain ⟨-, rfl, rfl⟩ := step_received h
    cases enumerator with
    | true =>
      rcases bytes with _ | ⟨serverVersion, _ | ⟨id, body⟩⟩
      · exact framed_apply rfl rfl rfl rfl (plain_nil.shipped _) (told_nil rfl rfl)
      · exact framed_apply rfl rfl rfl rfl (plain_nil.shipped _) (told_nil rfl rfl)
      · obtain ⟨hplugged, hdevice, hevents⟩ := handleEnumerator_frame deviceName s.cam channel
          serverVersion id answers
        have hplain := (handleEnumerator_queue deviceName s.cam channel serverVersion id
          answers).2
        refine framed_apply rfl hplugged hdevice rfl (hplain.shipped _) ?_
        change Told _ _ (handleEnumerator deviceName s.cam channel serverVersion id
          answers).events
        rcases hevents with hevents | ⟨version, hevents⟩ <;> rw [hevents]
        · exact told_nil rfl rfl
        · exact told_quiet (by simp) (by simp) rfl rfl
    | false =>
      rcases bytes with _ | ⟨serverVersion, _ | ⟨id, body⟩⟩
      · exact framed_handled (.answered (.inl rfl) replies_nil)
      · exact framed_handled (.answered (.inl rfl) replies_nil)
      · exact framed_handled (handleDevice_spec s.cam channel id body answers)
  | deliver position =>
    obtain ⟨event, hevent, rfl, rfl⟩ := step_deliver h
    exact ⟨rfl, rfl, rfl, fun w hw => absurd hw (by simp),
      .inl ⟨position, event, rfl, hevent, rfl, rfl⟩⟩

end Camera
end FreerdpPrebuilt
