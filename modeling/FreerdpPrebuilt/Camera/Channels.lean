import FreerdpPrebuilt.Camera.Metering
import Mathlib.Data.List.Perm.Basic

/-!
# A stream stays on its channel, and ends with it

The host may open a second device channel before it closes the first.  The
endpoint stores the newest, compares it on close, and acts on whichever channel
a message came from.  So a stream started on one channel can be handed to
another (`stream_left_behind`), and then survives the close of its own.

`stream_keeps_to_its_channel` says exactly when a stream keeps to the channel
that asked for it and ends with it: no device channel opens while it runs, it is
started on the stored channel, and a request for samples that has any to send
comes on the stored channel.  In any run, every stop the embedder has to be told
of is delivered once or still on its way.
-/

namespace FreerdpPrebuilt
namespace Camera

open Labelled

/-! ## What is recorded of a run -/

/-- The open channel on which the current stream was started. -/
def startedOn (w : Option Ptr) (m : Move System Act Obs) : Option Ptr :=
  match m.act with
  | .received false channel _ _ => if m.act.starts.isSome then some channel else w
  | .closed false channel => if w = some channel then none else w
  | .terminated => none
  | _ => w

abbrev StreamWatched := System × Option Ptr

/-- The camera, with the channel of the current stream as history variable. -/
def streamWatched (deviceName : String) : Machine StreamWatched Act Obs :=
  (machine deviceName).observe none startedOn

variable {deviceName : String} {h : List (Move StreamWatched Act Obs)} {s t : StreamWatched}
  {a : Act} {o : List Obs}

/-- While a stream runs, the stored device channel is the open one it was
started on. -/
def OnItsChannel (s : StreamWatched) : Prop :=
  s.1.cam.streaming = true → ∃ channel ∈ s.1.devices,
    s.1.cam.device = some channel ∧ s.2 = some channel

/-- The samples the move writes go to the channel the stream was started on.  The instance
that asked is that of StartStreams: a SampleRequest asks for one more sample of the stream
there is, and a credit that was asked for on another instance is not told apart. -/
def ShipsOnItsChannel (m : Move StreamWatched Act Obs) : Prop :=
  ∀ w, .write w ∈ m.out → w.message.sample ≠ none → m.src.2 = some w.channel

/-- If the move closes the channel of the running stream, the stream is over and
the embedder is told so, once. -/
def EndsWithItsChannel (m : Move StreamWatched Act Obs) : Prop :=
  ∀ channel, m.act = .closed false channel → m.src.1.cam.streaming = true →
    m.src.2 = some channel → m.dst.1.cam.streaming = false ∧
      m.dst.1.inFlight.count .stopped = m.src.1.inFlight.count .stopped + 1

/-- **What is promised of one move.** -/
structure KeepsToChannel (m : Move StreamWatched Act Obs) : Prop where
  stays : OnItsChannel m.dst
  ships : ShipsOnItsChannel m
  ends : EndsWithItsChannel m

/-- The move takes no notice of a second channel: none is opened under a running
stream, and a stream is started, and paid out, on the stored one. -/
def onStoredChannel (m : Move StreamWatched Act Obs) : Bool :=
  match m.act with
  | .opened false _ _ => !m.src.1.cam.streaming
  | .received false channel bytes _ =>
    match request bytes with
    | .start _ => m.src.1.cam.device == some channel
    | .sample => !m.src.1.cam.streaming || m.src.1.cam.pending.isEmpty ||
        m.src.1.cam.device == some channel
    | _ => true
  | _ => true

/-! ## One step -/

/-- The stored device channel is open. -/
def StoredOpen (s : System) : Prop := ∀ channel ∈ s.cam.device, channel ∈ s.devices

theorem storedOpen_step {s t : System} {a : Act} {o : List Obs} (hI : StoredOpen s)
    (hf : Framed s a t o) : StoredOpen t := by
  intro channel hmem
  rw [hf.device] at hmem
  rw [hf.devices]
  cases a with
  | opened enumerator fresh answers =>
    cases enumerator with
    | true => exact hI channel hmem
    | false =>
      obtain rfl : fresh = channel := by simpa [Act.stores] using hmem
      exact List.mem_cons_self
  | closed enumerator gone =>
    cases enumerator with
    | true => exact hI channel hmem
    | false =>
      simp only [Act.stores] at hmem
      split at hmem
      · exact absurd hmem (by simp)
      · rename_i hd
        have hne : channel ≠ gone := by
          rintro rfl
          exact hd hmem
        exact (List.mem_erase_of_ne hne).2 (hI channel hmem)
  | terminated => exact absurd hmem (by simp [Act.stores])
  | _ => exact hI channel hmem

/-- A payment with samples waiting submits one. -/
theorem submitted_of_grant {s t : System} {a : Act} {o : List Obs}
    (h : step deviceName s a = some (t, o)) (hop : s.op a = .grant)
    (hwait : s.cam.pending ≠ []) : submitted o ≠ [] := by
  have hq := queue_step h
  have hwait : s.cam.queue.pending ≠ [] := hwait
  rw [hop] at hq
  generalize s.cam.queue = q at hq hwait
  generalize t.cam.queue = q' at hq
  generalize submitted o = out at hq ⊢
  cases hq with
  | @grant credits pending out _ hpos _ hp hdone =>
    rintro rfl
    rw [List.map_nil, List.nil_append] at hp
    rcases hdone with hdone | hdone
    · rw [hdone] at hpos
      exact absurd hpos (by simp)
    · exact hwait (hp.trans hdone)

/-- A write that carries a sample submits it. -/
theorem submitted_of_mem {o : List Obs} {w : Write} (hw : .write w ∈ o)
    (hsome : w.message.sample ≠ none) : submitted o ≠ [] := by
  obtain ⟨x, hx⟩ := Option.ne_none_iff_exists'.1 hsome
  have hmem : (x, w.accepted) ∈ submitted o :=
    List.mem_filterMap.2 ⟨.write w, hw, by simp [Obs.submitted, hx]⟩
  exact List.ne_nil_of_mem hmem

/-- A sample submitted is written to some channel. -/
theorem mem_of_submitted {o : List Obs} (hne : submitted o ≠ []) :
    ∃ w, .write w ∈ o ∧ w.message.sample ≠ none := by
  obtain ⟨x, hx⟩ := List.exists_mem_of_ne_nil _ hne
  obtain ⟨obs, hobs, hsub⟩ := List.mem_filterMap.1 hx
  cases obs with
  | write w =>
    refine ⟨w, hobs, fun hnone => ?_⟩
    rw [Obs.submitted, hnone] at hsub
    exact absurd hsub (by simp)
  | _ => exact absurd hsub (by simp [Obs.submitted])

theorem OnItsChannel.ships (hI : OnItsChannel s)
    (hs : (streamWatched deviceName).step s a = some (t, o))
    (hg : onStoredChannel ⟨s, a, o, t⟩ = true) : ShipsOnItsChannel ⟨s, a, o, t⟩ := by
  have hstep := (Machine.observe_step.1 hs).1
  intro w hw hsome
  obtain ⟨hrun, hwhy⟩ := running_of_submitted hstep (submitted_of_mem hw hsome)
  obtain ⟨channel, -, hdevice, hstarted⟩ := hI hrun
  have hto := (framed_of_step hstep).shipped w hw hsome
  rw [show s.2 = some channel from hstarted, ← hdevice]
  cases a with
  | sample data keyframe answers => exact hto
  | received enumerator from' bytes answers =>
    cases enumerator with
    | true => exact absurd hto (by simp [System.shipsTo])
    | false =>
      obtain rfl : from' = w.channel := Option.some.inj hto
      rcases hwhy with ⟨x, hx⟩ | ⟨hop, hwait⟩
      · exact absurd hx op_received_ne_offer
      · -- a payment with samples waiting comes on the stored channel
        obtain ⟨hasked, -⟩ := request_of_grant.1 hop
        simpa [onStoredChannel, hasked, hrun, hwait] using hg
  | _ => exact absurd hto (by simp [System.shipsTo])

/-- When the stored channel closes under a stream, the stream is over and the
embedder is told. -/
theorem OnItsChannel.ends (hI : OnItsChannel s)
    (hs : (streamWatched deviceName).step s a = some (t, o)) :
    EndsWithItsChannel ⟨s, a, o, t⟩ := by
  intro channel ha hstreaming hasker
  obtain rfl : a = .closed false channel := ha
  have hrun : s.1.cam.streaming = true := hstreaming
  have hstarted : s.2 = some channel := hasker
  have hstep : step deviceName s.1 (.closed false channel) = some (t.1, o) :=
    (Machine.observe_step.1 hs).1
  obtain ⟨channel', -, hdevice, hstarted'⟩ := hI hrun
  obtain rfl : channel = channel' := Option.some.inj (hstarted.symm.trans hstarted')
  have hstream : t.1.cam.streaming = (s.1.op (.closed false channel)).runs s.1.cam.streaming :=
    (queue_step hstep).running
  refine ⟨?_, ?_⟩
  · show t.1.cam.streaming = false
    rw [hstream]
    simp [System.op, hdevice, Metered.Op.runs]
  · show t.1.inFlight.count .stopped = s.1.inFlight.count .stopped + 1
    rcases (framed_of_step hstep).events with ⟨position, event, hd, -⟩ | ⟨-, events, hflight, htold⟩
    · exact absurd hd (by simp)
    · rw [hflight, List.count_append, htold.stopped]
      simp [System.tellsStopped, hrun, hdevice]

theorem OnItsChannel.step (hI : OnItsChannel s) (hopen : StoredOpen s.1)
    (hs : (streamWatched deviceName).step s a = some (t, o))
    (hg : onStoredChannel ⟨s, a, o, t⟩ = true) : OnItsChannel t := by
  obtain ⟨hstep, hsee⟩ := Machine.observe_step.1 hs
  have hf := framed_of_step hstep
  have hstream : t.1.cam.streaming = (s.1.op a).runs s.1.cam.streaming := (queue_step hstep).running
  intro hrun
  rw [hf.device, hf.devices, hsee]
  rw [hstream] at hrun
  cases a with
  | opened enumerator fresh answers =>
    have hrun : s.1.cam.streaming = true := hrun
    cases enumerator with
    | true => exact hI hrun
    | false =>
      have hidle : s.1.cam.streaming = false := by simpa [onStoredChannel] using hg
      exact absurd (hidle.symm.trans hrun) (by simp)
  | closed enumerator gone =>
    cases enumerator with
    | true => exact hI hrun
    | false =>
      -- the stream went on, so it was another channel that closed
      by_cases hd : s.1.cam.device = some gone
      · simp [System.op, hd, Metered.Op.runs] at hrun
      · have hrun : s.1.cam.streaming = true := by simpa [System.op, hd, Metered.Op.runs] using hrun
        obtain ⟨channel, hmem, hdevice, hstarted⟩ := hI hrun
        have hne : channel ≠ gone := by
          rintro rfl
          exact hd hdevice
        have hnot : s.2 ≠ some gone := by
          rw [hstarted]
          exact fun heq => hne (Option.some.inj heq)
        refine ⟨channel, (List.mem_erase_of_ne hne).2 hmem, ?_, ?_⟩
        · rw [Act.stores, if_neg hd]
          exact hdevice
        · simp only [startedOn, if_neg hnot]
          exact hstarted
  | received enumerator from' bytes answers =>
    cases enumerator with
    | true => exact hI hrun
    | false =>
      cases hasked : request bytes with
      | start format =>
        have hdevice : s.1.cam.device = some from' := by
          simpa [onStoredChannel, hasked] using hg
        exact ⟨from', hopen from' hdevice, hdevice, by simp [startedOn, Act.starts, hasked]⟩
      | stop => simp [System.op, hasked, Request.op, Metered.Op.runs] at hrun
      | sample =>
        have hrun : s.1.cam.streaming = true := by
          cases hr : s.1.cam.streaming <;>
            simp [System.op, hasked, Request.op, Metered.Op.runs, hr] at hrun ⊢
        simpa [startedOn, Act.starts, hasked, Act.opens, Act.stores] using hI hrun
      | other =>
        have hrun : s.1.cam.streaming = true := by
          simpa [System.op, hasked, Request.op, Metered.Op.runs] using hrun
        simpa [startedOn, Act.starts, hasked, Act.opens, Act.stores] using hI hrun
  | terminated => exact absurd hrun (by simp [System.op, Metered.Op.runs])
  | unplug answers => exact absurd hrun (by simp [System.op, Metered.Op.runs])
  | sample data keyframe answers =>
    have hrun : s.1.cam.streaming = true := by
      cases hr : s.1.cam.streaming <;> simp [System.op, Metered.Op.runs, hr] at hrun ⊢
    exact hI hrun
  | _ => exact hI hrun

/-- A stream that kept to its channel in a move was handled on the stored one. -/
theorem onStoredChannel_of_keeps (hI : OnItsChannel s)
    (hs : (streamWatched deviceName).step s a = some (t, o))
    (hkeeps : KeepsToChannel ⟨s, a, o, t⟩) : onStoredChannel ⟨s, a, o, t⟩ = true := by
  obtain ⟨hstep, hsee⟩ := Machine.observe_step.1 hs
  have hf := framed_of_step hstep
  have hstream : t.1.cam.streaming = (s.1.op a).runs s.1.cam.streaming := (queue_step hstep).running
  have hstays : OnItsChannel t := hkeeps.stays
  rw [OnItsChannel, hf.device, hsee, hstream] at hstays
  cases a with
  | opened enumerator fresh answers =>
    cases enumerator with
    | true => rfl
    | false =>
      cases hrun : s.1.cam.streaming with
      | false => simp [onStoredChannel, hrun]
      | true =>
        -- the new channel takes the place of the one the stream was started on
        obtain ⟨channel, hmem, -, hstarted⟩ := hI hrun
        obtain ⟨channel', -, hdevice', hstarted'⟩ := hstays hrun
        have hstarted' : s.2 = some channel' := hstarted'
        obtain rfl : fresh = channel' := Option.some.inj hdevice'
        obtain rfl : channel = fresh := Option.some.inj (hstarted.symm.trans hstarted')
        have hopened : step deviceName s.1 (.opened false channel answers) = some (t.1, o) := hstep
        have hfresh := (step_opened hopened).1
        simp [System.isFresh, hmem] at hfresh
  | received enumerator from' bytes answers =>
    cases enumerator with
    | true => rfl
    | false =>
      cases hasked : request bytes with
      | start format =>
        have hop : s.1.op (.received false from' bytes answers) = .start := by
          simp [System.op, hasked, Request.op]
        rw [hop] at hstays
        obtain ⟨channel, -, hdevice, hstarted⟩ := hstays rfl
        have hdevice : s.1.cam.device = some channel := hdevice
        obtain rfl : from' = channel := by simpa [startedOn, Act.starts, hasked] using hstarted
        simp [onStoredChannel, hasked, hdevice]
      | sample =>
        by_cases hpays : s.1.cam.streaming = true ∧ s.1.cam.pending ≠ []
        · obtain ⟨hrun, hwait⟩ := hpays
          have hop : s.1.op (.received false from' bytes answers) = .grant :=
            request_of_grant.2 ⟨hasked, hrun⟩
          have hpaid : step deviceName s.1 (.received false from' bytes answers) = some (t.1, o) :=
            hstep
          obtain ⟨w, hw, hsome⟩ := mem_of_submitted (submitted_of_grant hpaid hop hwait)
          obtain rfl : from' = w.channel := Option.some.inj (hf.shipped w hw hsome)
          obtain ⟨channel, -, hdevice, hstarted⟩ := hI hrun
          obtain rfl : channel = w.channel :=
            Option.some.inj (hstarted.symm.trans (hkeeps.ships w hw hsome))
          simp [onStoredChannel, hasked, hdevice]
        · simp only [onStoredChannel, hasked]
          cases hrun : s.1.cam.streaming with
          | false => rfl
          | true =>
            have hnone : s.1.cam.pending = [] := by
              by_contra hwait
              exact hpays ⟨hrun, hwait⟩
            rw [hnone]
            rfl
      | _ => simp [onStoredChannel, hasked]
  | _ => rfl

/-! ## The whole run -/

theorem onItsChannel_start : OnItsChannel (streamWatched deviceName).init := by
  intro hrun
  exact absurd hrun Bool.false_ne_true

theorem storedOpen_start : StoredOpen (streamWatched deviceName).init.1 := by
  intro channel hmem
  exact absurd hmem (Option.not_mem_none _)

/-- How often the embedder was told in a run that its stream was stopped. -/
def toldStopped (h : List (Move StreamWatched Act Obs)) : ℕ :=
  (h.flatMap Move.out).count (.deliver .stopped)

/-- How often it is to be told. -/
def stopsToTell (h : List (Move StreamWatched Act Obs)) : ℕ :=
  h.countP fun m => m.src.1.tellsStopped m.act

/-- What a step adds to the stops told and to those on their way is what it has
to tell. -/
theorem told_step {s t : System} {a : Act} {o : List Obs} (hf : Framed s a t o) :
    o.count (.deliver .stopped) + t.inFlight.count .stopped =
      s.inFlight.count .stopped + if s.tellsStopped a then 1 else 0 := by
  rcases hf.events with ⟨position, event, rfl, hevent, hflight, ho⟩ |
    ⟨hnone, events, hflight, htold⟩
  · -- a delivery takes its event off the way
    obtain ⟨hlt, hget⟩ := List.getElem?_eq_some_iff.1 hevent
    have hperm := List.getElem_cons_eraseIdx_perm hlt
    have hcount : (event :: s.inFlight.eraseIdx position).count .stopped =
        s.inFlight.count .stopped := by
      rw [← hget]
      exact hperm.count_eq _
    rw [List.count_cons] at hcount
    have hsilent : s.tellsStopped (.deliver position) = false := rfl
    rw [ho, hflight, List.count_singleton, hsilent, if_neg Bool.false_ne_true]
    have hsame : (Obs.deliver event == Obs.deliver .stopped) = (event == .stopped) := by
      cases event <;> rfl
    rw [hsame]
    omega
  · have hzero : o.count (.deliver .stopped) = 0 := List.count_eq_zero.2 (hnone _)
    rw [hzero, hflight, List.count_append, htold.stopped]
    omega

/-- Every stop the embedder has to be told of is delivered once, or on its way. -/
theorem told_of_run (hr : (streamWatched deviceName).Run h s) :
    toldStopped h + s.1.inFlight.count .stopped = stopsToTell h := by
  induction hr with
  | nil => rfl
  | @snoc h s t a o _ hs ih =>
    have hstep := told_step (framed_of_step (Machine.observe_step.1 hs).1)
    simp only [toldStopped, stopsToTell] at ih ⊢
    rw [List.flatMap_append, List.count_append, List.countP_append, List.countP_singleton]
    simp only [List.flatMap_cons, List.flatMap_nil, List.append_nil]
    omega

/-- **A stream keeps to its channel exactly when no other channel is brought
in.**  Over a run: while a stream runs, the stored device channel is the open one
it was started on, every sample goes there, and its close ends the stream with
one `stopped`, if and only if no device channel opens under a stream, every
stream is started on the stored channel, and every request that finds samples
waiting comes on it.  In any run the embedder is told of each stop once. -/
theorem stream_keeps_to_its_channel (hr : (streamWatched deviceName).Run h s) :
    ((∀ m ∈ h, KeepsToChannel m) ↔ ∀ m ∈ h, onStoredChannel m = true) ∧
      ((∀ m ∈ h, onStoredChannel m = true) → s.1.devices = [] → s.1.cam.streaming = false) ∧
      toldStopped h + s.1.inFlight.count .stopped = stopsToTell h := by
  have hstart : OnItsChannel (streamWatched deviceName).init ∧
      StoredOpen (streamWatched deviceName).init.1 := ⟨onItsChannel_start, storedOpen_start⟩
  have hstored : ∀ s a t o, StoredOpen s.1 → (streamWatched deviceName).step s a = some (t, o) →
      StoredOpen t.1 := fun _ _ _ _ hI hs =>
    storedOpen_step hI (framed_of_step (Machine.observe_step.1 hs).1)
  refine ⟨?_, fun hall hclosed => ?_, told_of_run hr⟩
  · refine hr.promise_iff (I := fun s => OnItsChannel s ∧ StoredOpen s.1) hstart ?_ ?_
    · intro m hm hs hI hkeeps
      exact ⟨hkeeps.stays, hstored _ _ _ _ hI.2 hs⟩
    · intro m hm hs hI
      constructor
      · intro hkeeps
        exact onStoredChannel_of_keeps hI.1 hs hkeeps
      · intro hg
        exact ⟨hI.1.step hI.2 hs hg, hI.1.ships hs hg, hI.1.ends hs⟩
  · cases hrun : s.1.cam.streaming with
    | false => rfl
    | true =>
      have hinv := hr.guarded (I := fun s => OnItsChannel s ∧ StoredOpen s.1)
        (g := fun m => onStoredChannel m = true) hstart
        (fun s a t o hI hs hg => ⟨hI.1.step hI.2 hs hg, hstored s a t o hI.2 hs⟩) hall
      obtain ⟨channel, hmem, -⟩ := hinv.1.1 hrun
      rw [hclosed] at hmem
      exact absurd hmem List.not_mem_nil

/-- The law kept, on a stream of one sample that ends with its channel. -/
theorem stream_keeps_to_its_channel_close : ∃ h s, (streamWatched "Cam").Run h s ∧
    (∀ m ∈ h, KeepsToChannel m) ∧ s.1.cam.streaming = false ∧ toldStopped h = 1 := by
  have hrun := (streamWatched "Cam").run_get (streamActs ++
    [.received false 1 requestMessage accepts, .sample [1] true accepts, .closed false 1,
      .deliver 2]) (by decide)
  have hlaw := stream_keeps_to_its_channel hrun
  exact ⟨_, _, hrun, hlaw.1.2 (by decide), hlaw.2.1 (by decide) (by decide), by decide⟩

/-- **A stream left behind.**  A second channel opens under a stream and is
stored; the close of the stream's own channel is taken for that of a stranger,
the stream runs on, and nobody is told. -/
theorem stream_left_behind : ∃ h s, (streamWatched "Cam").Run h s ∧
    (∃ m ∈ h, m.src.2 = some 1 ∧ 1 ∈ m.src.1.devices ∧ 1 ∉ m.dst.1.devices ∧
      m.dst.1.cam.streaming = true) ∧
    s.1.inFlight.count .stopped = 0 ∧ toldStopped h = 0 := by
  have hrun := (streamWatched "Cam").run_get (streamActs ++
    [.opened false 2 accepts, .closed false 1]) (by decide)
  exact ⟨_, _, hrun, by decide, by decide, by decide⟩

end Camera
end FreerdpPrebuilt
