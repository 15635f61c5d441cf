import FreerdpPrebuilt.Camera.Metering

/-!
# An unplugged camera does not stream

`unplug` ends the stream, and `plug` and `unplug` alone decide whether the
camera is there.  Two things can still bring a stream, or the news of one, to a
camera that is gone.  A StartStreamsRequest is not checked against the plug, so
one the host had sent before it learned of the unplug starts a stream
(`stream_after_unplug`).  And `started` is delivered after the lock is released,
so an `unplug` may return in between.  `no_stream_unplugged` says that these are
the only ways.
-/

namespace FreerdpPrebuilt
namespace Camera

open Labelled

/-! ## What is recorded of a run -/

/-- Whether the embedder's last word was an `unplug`. -/
def withdrawnAfter (withdrawn : Bool) (m : Move System Act Obs) : Bool :=
  match m.act with
  | .plug _ _ => false
  | .unplug _ => true
  | _ => withdrawn

abbrev PlugWatched := System × Bool

/-- The camera, with the embedder's last word as history variable. -/
def plugWatched (deviceName : String) : Machine PlugWatched Act Obs :=
  (machine deviceName).observe false withdrawnAfter

variable {deviceName : String} {h : List (Move PlugWatched Act Obs)} {s t : PlugWatched} {a : Act}
  {o : List Obs}

/-- The event is the news of a stream. -/
def Event.isStarted : Event → Bool
  | .started _ => true
  | _ => false

/-- **An unplugged camera is settled**: a stream runs only on a camera that is
plugged, and after an `unplug` no news of one is on its way. -/
structure Settled (s : PlugWatched) : Prop where
  streaming : s.1.cam.streaming = true → s.1.cam.plugged = true
  quiet : s.2 = true → ∀ event ∈ s.1.inFlight, event.isStarted = false

/-- The move comes at a time when it does no harm: a stream starts on a camera
that is plugged, and no news of one is on its way when an `unplug` returns. -/
def timely (m : Move PlugWatched Act Obs) : Bool :=
  (m.act.starts.isNone || m.src.1.cam.plugged) &&
    match m.act with
    | .unplug _ => m.src.1.inFlight.all fun event => !event.isStarted
    | _ => true

/-! ## The proof -/

/-- A stream starts where the queue does. -/
theorem op_of_starts {s : System} {a : Act} : s.op a = .start ↔ a.starts.isSome = true := by
  cases a with
  | received enumerator channel bytes answers =>
    cases enumerator with
    | true => simp [System.op, Act.starts]
    | false =>
      cases hasked : request bytes with
      | sample =>
        cases hrun : s.cam.streaming <;> simp [System.op, Act.starts, hasked, Request.op, hrun]
      | _ => simp [System.op, Act.starts, hasked, Request.op]
  | sample data keyframe answers =>
    cases hrun : s.cam.streaming <;> simp [System.op, Act.starts, hrun]
  | closed enumerator channel =>
    cases enumerator with
    | true => simp [System.op, Act.starts]
    | false =>
      by_cases hd : s.cam.device = some channel <;> simp [System.op, Act.starts, hd]
  | _ => simp [System.op, Act.starts]

/-- Only `plug` and `unplug` change whether the camera is plugged. -/
theorem plugs_of_starts {a : Act} (h : a.starts.isSome = true) (plugged : Bool) :
    a.plugs plugged = plugged := by
  cases a <;> first | rfl | exact absurd h (by simp [Act.starts])

/-- After an `unplug` the camera is not plugged. -/
def Unplugged (s : PlugWatched) : Prop := s.2 = true → s.1.cam.plugged = false

theorem Unplugged.step (hI : Unplugged s) (hs : (plugWatched deviceName).step s a = some (t, o)) :
    Unplugged t := by
  obtain ⟨hstep, hsee⟩ := Machine.observe_step.1 hs
  intro hw
  rw [hsee] at hw
  rw [(framed_of_step hstep).plugged]
  cases a with
  | plug format answers => exact absurd hw (by simp [withdrawnAfter])
  | unplug answers => rfl
  | _ => exact hI hw

/-- What is on its way after a step was on its way before it, or is news of the
action. -/
theorem started_of_step {s t : System} {a : Act} {o : List Obs} (hf : Framed s a t o)
    {event : Event} (hmem : event ∈ t.inFlight) (hstart : event.isStarted = true) :
    event ∈ s.inFlight ∨ a.starts.isSome = true := by
  rcases hf.events with ⟨position, event', -, -, hflight, -⟩ | ⟨-, events, hflight, htold⟩
  · rw [hflight] at hmem
    exact .inl (List.mem_of_mem_eraseIdx hmem)
  · rw [hflight] at hmem
    rcases List.mem_append.1 hmem with hmem | hmem
    · exact .inl hmem
    · cases event with
      | started format => exact .inr (by rw [(htold.started format).1 hmem]; rfl)
      | _ => exact absurd hstart (by simp [Event.isStarted])

theorem Settled.step (hI : Settled s) (hw : Unplugged s)
    (hs : (plugWatched deviceName).step s a = some (t, o))
    (hg : timely ⟨s, a, o, t⟩ = true) : Settled t := by
  obtain ⟨hstep, hsee⟩ := Machine.observe_step.1 hs
  have hf := framed_of_step hstep
  have hrun : t.1.cam.streaming = (s.1.op a).runs s.1.cam.streaming := (queue_step hstep).running
  obtain ⟨hstart, hunplug⟩ := Bool.and_eq_true_iff.1 hg
  have hplugged : a.starts.isSome = true → s.1.cam.plugged = true := by
    intro hsome
    rcases Bool.or_eq_true_iff.1 hstart with hnone | hp
    · rw [Option.isNone_iff_eq_none.1 hnone] at hsome
      exact absurd hsome (by simp)
    · exact hp
  refine ⟨fun hstream => ?_, fun htw event hmem => ?_⟩
  · rw [hf.plugged]
    by_cases hsome : a.starts.isSome = true
    · rw [plugs_of_starts hsome]
      exact hplugged hsome
    · -- the stream went on, so this is no `unplug`
      cases a with
      | unplug answers =>
        rw [hrun] at hstream
        exact absurd hstream (by simp [System.op, Metered.Op.runs])
      | plug format answers => rfl
      | _ =>
        have hne := mt (op_of_starts (s := s.1)).1 hsome
        rw [hrun] at hstream
        refine hI.streaming ?_
        revert hstream hne
        generalize System.op _ _ = op
        cases op with
        | start => exact fun _ hne => absurd rfl hne
        | stop => exact fun hstream _ => absurd hstream (by simp [Metered.Op.runs])
        | _ => exact fun hstream _ => hstream
  · by_contra hevent
    have hevent : event.isStarted = true := by simpa using hevent
    rw [hsee] at htw
    rcases started_of_step hf hmem hevent with hold | hnew
    · cases a with
      | plug format answers => exact absurd htw (by simp [withdrawnAfter])
      | unplug answers =>
        have hquiet := List.all_eq_true.1 hunplug event hold
        rw [hevent] at hquiet
        exact absurd hquiet (by simp)
      | _ =>
        have hquiet := hI.quiet htw event hold
        rw [hevent] at hquiet
        exact absurd hquiet (by simp)
    · cases a with
      | received enumerator channel bytes answers =>
        have hp := hplugged hnew
        rw [hw htw] at hp
        exact absurd hp (by simp)
      | _ => exact absurd hnew (by simp [Act.starts])

/-- A camera that is settled after a move was moved in time. -/
theorem timely_of_settled (hs : (plugWatched deviceName).step s a = some (t, o))
    (ht : Settled t) : timely ⟨s, a, o, t⟩ = true := by
  obtain ⟨hstep, hsee⟩ := Machine.observe_step.1 hs
  have hf := framed_of_step hstep
  have hrun : t.1.cam.streaming = (s.1.op a).runs s.1.cam.streaming := (queue_step hstep).running
  refine Bool.and_eq_true_iff.2 ⟨?_, ?_⟩
  · cases hstart : a.starts with
    | none => rfl
    | some format =>
      have hsome : a.starts.isSome = true := by rw [hstart]; rfl
      have hstream : t.1.cam.streaming = true := by
        rw [hrun, op_of_starts.2 hsome]
        rfl
      have hp := ht.streaming hstream
      rw [hf.plugged, plugs_of_starts hsome] at hp
      simp [hp]
  · cases a with
    | unplug answers =>
      have hw : t.2 = true := hsee
      refine List.all_eq_true.2 fun event hmem => ?_
      have hkept : event ∈ t.1.inFlight := by
        rcases hf.events with ⟨position, event', ha, -⟩ | ⟨-, events, hflight, -⟩
        · exact absurd ha (by simp)
        · rw [hflight]
          exact List.mem_append_left _ hmem
      simp [ht.quiet hw event hkept]
    | _ => rfl

/-- A settled camera delivers no news of a stream after an `unplug`. -/
theorem Settled.delivers (hI : Settled s) (hs : (plugWatched deviceName).step s a = some (t, o))
    {format : CameraFormat} (hmem : .deliver (.started format) ∈ o) : s.2 = false := by
  rcases (framed_of_step (Machine.observe_step.1 hs).1).events with
    ⟨position, event, -, hevent, -, ho⟩ | ⟨hnone, -⟩
  · rw [ho] at hmem
    obtain rfl : event = .started format := by simpa [eq_comm] using hmem
    by_contra hw
    have hquiet := hI.quiet (by simpa using hw) _ (List.mem_of_getElem? hevent)
    exact absurd hquiet (by simp [Event.isStarted])
  · exact absurd hmem (hnone _)

theorem settled_start : Settled (plugWatched deviceName).init where
  streaming := fun hstream => absurd hstream Bool.false_ne_true
  quiet := fun hw => absurd hw Bool.false_ne_true

/-- **An unplugged camera does not stream, unless a StartStreamsRequest finds it
unplugged or an `unplug` overtakes the news of a stream.**  In a run without
either, a stream runs only on a plugged camera, and no `started` is delivered
between an `unplug` and the next `plug`; and the camera is settled in every
state reached exactly when there is neither. -/
theorem no_stream_unplugged (hr : (plugWatched deviceName).Run h s) :
    ((∀ m ∈ h, timely m = true) →
        (∀ m ∈ h, m.dst.1.cam.streaming = true → m.dst.1.cam.plugged = true) ∧
        ∀ m ∈ h, ∀ format, .deliver (.started format) ∈ m.out → m.src.2 = false) ∧
      ((∀ m ∈ h, Settled m.dst) ↔ ∀ m ∈ h, timely m = true) := by
  have hstart : Settled (plugWatched deviceName).init ∧ Unplugged (plugWatched deviceName).init :=
    ⟨settled_start, fun hw => absurd hw Bool.false_ne_true⟩
  refine ⟨?_, ?_⟩
  · intro hall
    have hinv := hr.guarded (I := fun s => Settled s ∧ Unplugged s) (g := fun m => timely m = true)
      hstart (fun s a t o hI hs hg => ⟨hI.1.step hI.2 hs hg, hI.2.step hs⟩) hall
    refine ⟨fun m hm => (hinv.2 m hm).2.1.streaming, ?_⟩
    intro m hm format hmem
    exact (hinv.2 m hm).1.1.delivers (hr.step_of_mem m hm) hmem
  · refine hr.promise_iff (I := fun s => Settled s ∧ Unplugged s) hstart ?_ ?_
    · intro m hm hs hI hsettled
      exact ⟨hsettled, hI.2.step hs⟩
    · intro m hm hs hI
      exact ⟨timely_of_settled hs, hI.1.step hI.2 hs⟩

/-- The law kept, on a camera unplugged while it streams. -/
theorem no_stream_unplugged_midway : ∃ h s, (plugWatched "Cam").Run h s ∧
    (∃ m ∈ h, m.out = [.deliver (.started hd)]) ∧ s.2 = true ∧
    ∀ m ∈ h, m.dst.1.cam.streaming = true → m.dst.1.cam.plugged = true := by
  have hrun := (plugWatched "Cam").run_get (streamActs ++ [.deliver 1, .unplug accepts]) (by decide)
  exact ⟨_, _, hrun, by decide, by decide, ((no_stream_unplugged hrun).1 (by decide)).1⟩

/-- **A stream on a camera that is gone.**  The StartStreamsRequest was on its
way when the camera was unplugged; the stream runs, and the embedder is told
so. -/
theorem stream_after_unplug : ∃ h s, (plugWatched "Cam").Run h s ∧
    s.1.cam.streaming = true ∧ s.1.cam.plugged = false ∧
    ∃ m ∈ h, m.src.2 = true ∧ m.out = [.deliver (.started hd)] := by
  have hrun := (plugWatched "Cam").run_get
    [.plug hd accepts, .opened false 1 accepts, .unplug accepts,
      .received false 1 (startMessage hd) accepts, .deliver 1] (by decide)
  exact ⟨_, _, hrun, by decide, by decide, by decide⟩

end Camera
end FreerdpPrebuilt
