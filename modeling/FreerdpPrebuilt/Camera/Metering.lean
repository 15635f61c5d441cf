import FreerdpPrebuilt.Camera.Frame

/-!
# Samples are metered, and nothing is missing between them

Since the last StartStreams, a camera's ledger records the samples it was given,
those it submitted to the channel, and the requests of the host.

* `metering` — in every reachable state: no credit while samples wait, at most
  `PENDING_SAMPLES_MAX` of them, nothing metered outside a stream; and what was
  submitted are samples of this stream, in order, no more than were asked for,
  but for direct writes the channel refused, which keep their credit.
* `gop_continuity` — as long as no sample is lost on its way, the samples the
  channel took start at a keyframe and go on without a gap.  A refused write
  loses one and tells nobody (`gap_after_refusal`).
-/

namespace FreerdpPrebuilt
namespace Camera

open Labelled

/-! ## What is recorded of a run -/

/-- The ledger of a camera: what happened since the last StartStreams. -/
abbrev Ledger := Metered.Ledger Sample

/-- Record one move. -/
def record (l : Ledger) (m : Move System Act Obs) : Ledger :=
  l.record (m.src.op m.act) (submitted m.out)

abbrev Watched := System × Ledger

/-- The camera with its ledger as history variable. -/
def watched (deviceName : String) : Machine Watched Act Obs :=
  (machine deviceName).observe .empty record

variable {deviceName : String} {h : List (Move Watched Act Obs)} {s t : Watched} {a : Act}
  {o : List Obs}

theorem watched_step (hs : (watched deviceName).step s a = some (t, o)) :
    QueueStep s.1.cam.queue (s.1.op a) t.1.cam.queue (submitted o) ∧
      t.2 = s.2.record (s.1.op a) (submitted o) := by
  obtain ⟨hstep, hsee⟩ := Machine.observe_step.1 hs
  exact ⟨queue_step hstep, hsee⟩

/-! ## Metering -/

/-- One call came directly after the other. -/
def Sample.follows (a b : Sample) : Prop := b.call = a.call + 1

/-- The samples of a stream are numbered one by one, and while it runs the last
of them is the last call. -/
structure Numbered (s : Watched) : Prop where
  chain : s.2.offered.IsChain Sample.follows
  last : s.1.cam.streaming = true → ∀ x ∈ s.2.offered.getLast?, x.call + 1 = s.1.calls

theorem Numbered.step (hI : Numbered s) (hs : (watched deviceName).step s a = some (t, o)) :
    Numbered t := by
  obtain ⟨hqueue, hledger⟩ := watched_step hs
  have hcalls := calls_step (Machine.observe_step.1 hs).1
  have hold : s.1.cam.queue.running = true → ∀ x ∈ s.2.offered.getLast?, x.call + 1 = s.1.calls :=
    hI.last
  have hchain := hI.chain
  suffices hgoal : t.2.offered.IsChain Sample.follows ∧ (t.1.cam.queue.running = true →
      ∀ x ∈ t.2.offered.getLast?, x.call + 1 = t.1.calls) from ⟨hgoal.1, hgoal.2⟩
  rw [hledger]
  rcases hcalls with ⟨hcount, ⟨x, hop, hcall⟩ | ⟨hop, hidle⟩⟩ | ⟨hcount, hne⟩
  · -- a sample is offered: it follows the last one
    rw [hop] at hqueue ⊢
    rw [hcount]
    cases hqueue with
    | offer hrun _ =>
      simp only [Metered.Ledger.record]
      refine ⟨List.isChain_append.2 ⟨hchain, List.isChain_singleton _, fun y hy z hz => ?_⟩,
        fun _ y hy => ?_⟩
      · obtain rfl : x = z := by simpa using hz
        rw [Sample.follows, hold hrun y hy, hcall]
      · obtain rfl : x = y := by simpa using hy
        rw [hcall]
  · -- a sample outside a stream
    rw [hop] at hqueue ⊢
    refine ⟨hchain, fun hrun => ?_⟩
    generalize t.1.cam.queue = q' at hqueue hrun
    generalize submitted o = out at hqueue
    have hidle : s.1.cam.queue.running = false := hidle
    cases hqueue with
    | quiet => exact absurd (hidle.symm.trans hrun) (by simp)
  · rw [hcount]
    generalize t.1.cam.queue = q' at hqueue ⊢
    generalize s.1.op a = op at hqueue hne ⊢
    generalize submitted o = out at hqueue ⊢
    cases hqueue with
    | quiet => exact ⟨hchain, hold⟩
    | stop => exact ⟨hchain, fun hrun => absurd hrun (by simp [Metered.Queue.idle])⟩
    | start => exact ⟨List.isChain_nil, fun _ x hx => absurd hx (by simp [Metered.Ledger.record,
        Metered.Ledger.empty])⟩
    | grant _ _ _ _ _ => exact ⟨hchain, hold⟩
    | offer _ _ => exact absurd rfl (hne _)

/-- **The stream's invariant**: the queue is sound, the ledger agrees with it,
and the samples are numbered. -/
structure WellMetered (s : Watched) : Prop where
  sound : s.1.cam.queue.Sound PENDING_SAMPLES_MAX
  balanced : Metered.Balanced s.1.cam.queue s.2
  numbered : Numbered s

theorem wellMetered_start : WellMetered (watched deviceName).init where
  sound := Metered.Queue.sound_idle
  balanced := Metered.balanced_empty rfl rfl
  numbered := ⟨List.isChain_nil, fun _ _ hx => absurd hx (Option.not_mem_none _)⟩

theorem WellMetered.step (hI : WellMetered s)
    (hs : (watched deviceName).step s a = some (t, o)) : WellMetered t := by
  obtain ⟨hqueue, hledger⟩ := watched_step hs
  refine ⟨hqueue.sound hI.sound, ?_, hI.numbered.step hs⟩
  rw [hledger]
  exact hqueue.balanced hI.balanced

theorem wellMetered_of_run (hr : (watched deviceName).Run h s) : WellMetered s :=
  hr.invariant wellMetered_start fun _ _ _ _ hI hs => hI.step hs

/-- Samples numbered one by one are numbered in order. -/
theorem Numbered.pairwise (hI : Numbered s) :
    s.2.offered.Pairwise fun a b => a.call < b.call := by
  have hlt : s.2.offered.IsChain fun a b => a.call < b.call :=
    hI.chain.imp fun a b hab => by rw [hab]; omega
  exact (List.isChain_iff_pairwise (R := fun a b : Sample => a.call < b.call)).1 hlt

/-- **Metering and order.**  In every reachable state the queue is sound; and
since the last StartStreams, the samples submitted to the channel are samples of
the stream in the order of the calls, none of them twice, and there are no more
of them than valid SampleRequests, not counting direct writes the channel
refused. -/
theorem metering (hr : (watched deviceName).Run h s) :
    s.1.cam.queue.Sound PENDING_SAMPLES_MAX ∧
      s.2.submitted.Sublist s.2.offered ∧
      (s.2.submitted.Pairwise fun a b => a.call < b.call) ∧
      s.2.submitted.length ≤ s.2.granted + s.2.lost := by
  have hI := wellMetered_of_run hr
  have horder : s.2.submitted.Sublist s.2.offered :=
    (List.sublist_append_left _ _).trans hI.balanced.order
  refine ⟨hI.sound, horder, hI.numbered.pairwise.sublist horder, ?_⟩
  have hcount := hI.balanced.count
  rw [Metered.Ledger.submitted, List.length_map]
  omega

/-- A channel that takes everything. -/
def accepts : ℕ → Bool := fun _ => true

/-- A channel that refuses everything. -/
def refuses : ℕ → Bool := fun _ => false

/-- 1280 by 720 at 30 frames a second. -/
def hd : CameraFormat := ⟨1280, 720, 30, 1⟩

/-- The StartStreamsRequest for a format. -/
def startMessage (format : CameraFormat) : Bytes :=
  [2, START_STREAMS_REQUEST, 0] ++ mediaType format

/-- The SampleRequest. -/
def requestMessage : Bytes := [2, SAMPLE_REQUEST, 0]

/-- A camera plugged, its device channel open, and a stream started on it. -/
def streamActs : List Act :=
  [.plug hd accepts, .opened false 1 accepts, .received false 1 (startMessage hd) accepts]

/-- The law kept, on a stream of one sample. -/
theorem metering_one_sample : ∃ h s, (watched "Cam").Run h s ∧ s.2.submitted = [⟨[1], true, 0⟩] ∧
    s.1.cam.queue.Sound PENDING_SAMPLES_MAX ∧ s.2.submitted.Sublist s.2.offered ∧
    (s.2.submitted.Pairwise fun a b => a.call < b.call) ∧
    s.2.submitted.length ≤ s.2.granted + s.2.lost := by
  have hrun := (watched "Cam").run_get (streamActs ++
    [.sample [1] true accepts, .received false 1 requestMessage accepts]) (by decide)
  exact ⟨_, _, hrun, by decide, metering hrun⟩

/-- **One request, two submissions.**  A direct write the channel refuses keeps
its credit, so the next sample is submitted against it. -/
theorem refused_write_keeps_credit : ∃ h s, (watched "Cam").Run h s ∧
    s.2.submitted.length = 2 ∧ s.2.granted = 1 := by
  have hrun := (watched "Cam").run_get (streamActs ++
    [.received false 1 requestMessage accepts, .sample [1] true refuses, .sample [2] true accepts])
    (by decide)
  exact ⟨_, _, hrun, by decide, by decide⟩

/-! ## Continuity -/

/-- The action loses a sample on its way: one that is to be sent at once finds no
channel or is refused by it, or the channel refuses one that a request pays
for. -/
def System.losesSample (s : System) : Act → Bool
  | .sample _ keyframe answers =>
    s.cam.streaming && (!s.cam.awaitingKeyframe || keyframe) && decide (0 < s.cam.credits) &&
      s.cam.pending.isEmpty && (s.cam.device.isNone || !answers 0)
  | .received false _ bytes answers =>
    request bytes == .sample && s.cam.streaming &&
      (List.range s.cam.payable).any fun i => !answers i
  | _ => false

/-- What the queue loses in a step. -/
abbrev queueLoses (s : System) (a : Act) (o : List Obs) : Bool :=
  Metered.loses Sample.keyframe s.cam.queue (s.op a) (submitted o)

/-- A step that neither offers a sample nor pays for one loses none. -/
theorem keeps_of_idle {s t : System} {a : Act} {o : List Obs}
    (h : step deviceName s a = some (t, o)) (hoffer : ∀ x, s.op a ≠ .offer x)
    (hgrant : s.op a ≠ .grant) : queueLoses s a o = false := by
  have hnone : submitted o = [] := by
    by_contra hne
    rcases (running_of_submitted h hne).2 with ⟨x, hx⟩ | ⟨hg, -⟩
    · exact hoffer x hx
    · exact hgrant hg
  rw [queueLoses, hnone]
  cases hop : s.op a with
  | offer x => exact absurd hop (hoffer x)
  | _ => rfl

/-- A call of `sample` that keeps its sample. -/
theorem keeps_of_sample {s t : System} {data : Bytes} {keyframe : Bool} {answers : ℕ → Bool}
    {o : List Obs} (h : step deviceName s (.sample data keyframe answers) = some (t, o))
    (hkeep : s.losesSample (.sample data keyframe answers) = false) :
    queueLoses s (.sample data keyframe answers) o = false := by
  by_cases hrun : s.cam.streaming = true
  · obtain ⟨rfl, rfl⟩ := Prod.mk.inj (Option.some.inj h)
    obtain ⟨q', out, channel, -, hoff, hsent, hwrites, -⟩ :=
      sample_spec s.cam ⟨data, keyframe, s.calls⟩ answers hrun
    have hop : s.op (.sample data keyframe answers) = .offer ⟨data, keyframe, s.calls⟩ :=
      if_pos hrun
    simp only [queueLoses, hop, System.apply, hwrites, submitted_append, submitted_shipping,
      submitted_returned, List.append_nil]
    -- only a sample that is to be sent at once can be lost
    cases hoff with
    | lost hpass hc hp hout =>
      have hpass' : (!s.cam.awaitingKeyframe || keyframe) = true := by
        cases ha : s.cam.awaitingKeyframe with
        | true =>
          have hkey : keyframe = true := hpass ha
          simp [hkey]
        | false => rfl
      have hc' : 0 < s.cam.credits := hc
      have hp' : s.cam.pending = [] := hp
      simp only [System.losesSample, hrun, hpass', hc', hp', decide_true, List.isEmpty_nil,
        Bool.true_and, Bool.or_eq_false_iff] at hkeep
      obtain ⟨hsome, hyes⟩ := hkeep
      have hd : s.cam.device ≠ none := by
        rintro hd
        rw [hd] at hsome
        exact absurd hsome (by simp)
      rcases hout with rfl | rfl
      · exact absurd rfl (hsent.tried hpass hc hp hd)
      · have hno : false = answers 0 := hsent.answer _ (List.mem_singleton_self _)
        rw [← hno] at hyes
        exact absurd hyes (by simp)
    | refused ha hkey =>
      have ha' : s.cam.queue.awaiting = true := ha
      have hkey' : keyframe = false := hkey
      simp [Metered.loses, ha', hkey']
    | shipped _ _ _ => simp [Metered.loses]
    | queued _ hfull _ =>
      by_cases hc : 0 < s.cam.queue.credits
      · simp [Metered.loses, hfull hc]
      · simp [Metered.loses, hc]
    | overflow _ hfull _ =>
      by_cases hc : 0 < s.cam.queue.credits
      · simp [Metered.loses, hfull hc]
      · simp [Metered.loses, hc]
  · refine keeps_of_idle h (fun x hx => ?_) fun hg => ?_
    · simp [System.op, hrun] at hx
    · simp [System.op, hrun] at hg

/-- A SampleRequest that keeps what it pays for. -/
theorem keeps_of_request {s t : System} {channel : Ptr} {bytes : Bytes} {answers : ℕ → Bool}
    {o : List Obs} (h : step deviceName s (.received false channel bytes answers) = some (t, o))
    (hkeep : s.losesSample (.received false channel bytes answers) = false) :
    queueLoses s (.received false channel bytes answers) o = false := by
  by_cases hgrant : s.op (.received false channel bytes answers) = .grant
  · obtain ⟨hasked, hrun⟩ := request_of_grant.1 hgrant
    have hyes : ∀ i < s.cam.payable, answers i = true := by
      simp only [System.losesSample, hasked, hrun, beq_self_eq_true, Bool.true_and,
        List.any_eq_false, List.mem_range] at hkeep
      intro i hi
      simpa using hkeep i hi
    obtain ⟨-, rfl, rfl⟩ := step_received h
    obtain ⟨serverVersion, id, body, rfl⟩ := eq_cons_of_request (by rw [hasked]; decide)
    have hhandled := handleDevice_spec s.cam channel id body answers
    have hasked : requestOf id body = .sample := hasked
    rw [hasked] at hhandled
    rw [queueLoses, hgrant]
    simp only [System.apply, onDataReceived, Bool.false_eq_true, if_false, Metered.loses,
      Bool.or_false]
    generalize handleDevice s.cam channel id body answers = outcome at hhandled
    cases hhandled with
    | answered hwhy _ =>
      rcases hwhy with hother | ⟨-, hidle⟩
      · exact absurd hother (by simp)
      · exact absurd (hidle.symm.trans hrun) (by simp)
    | paid _ _ hanswers =>
      rw [submitted_shipping]
      refine List.any_eq_false.2 fun x hx => ?_
      obtain ⟨i, hi, heq⟩ := hanswers x hx
      rw [heq, hyes i hi]
      simp
  · exact keeps_of_idle h (fun x => op_received_ne_offer) hgrant

/-- Only a call of `sample` and a message can lose a sample. -/
theorem keeps_of_step {s t : System} {a : Act} {o : List Obs}
    (h : step deviceName s a = some (t, o)) (hkeep : s.losesSample a = false) :
    queueLoses s a o = false := by
  cases a with
  | sample data keyframe answers => exact keeps_of_sample h hkeep
  | received enumerator channel bytes answers =>
    cases enumerator with
    | true => exact keeps_of_idle h (by simp [System.op]) (by simp [System.op])
    | false => exact keeps_of_request h hkeep
  | closed enumerator channel =>
    cases enumerator with
    | true => exact keeps_of_idle h (by simp [System.op]) (by simp [System.op])
    | false =>
      by_cases hd : s.cam.device = some channel
      · exact keeps_of_idle h (by simp [System.op, hd]) (by simp [System.op, hd])
      · exact keeps_of_idle h (by simp [System.op, hd]) (by simp [System.op, hd])
  | _ => exact keeps_of_idle h (by simp [System.op]) (by simp [System.op])

/-- The samples the channel took since the last StartStreams. -/
def taken (s : Watched) : List Sample := Metered.arrived s.2.shipped

/-- A sequence a decoder can follow: it starts at a keyframe, and every other
sample is a keyframe or came directly after the one before it. -/
abbrev Decodable (samples : List Sample) : Prop :=
  Metered.Unbroken Sample.keyframe Sample.follows samples

/-- **The stream's second invariant**: nothing is missing between the samples
taken and those that wait. -/
structure Continuous (s : Watched) : Prop where
  numbered : Numbered s
  gapless : Metered.Gapless Sample.keyframe Sample.follows s.1.cam.queue s.2

theorem continuous_start : Continuous (watched deviceName).init where
  numbered := wellMetered_start.numbered
  gapless := Metered.gapless_empty rfl fun hrun => absurd hrun Bool.false_ne_true

theorem Continuous.step (hI : Continuous s)
    (hs : (watched deviceName).step s a = some (t, o))
    (hkeep : s.1.losesSample a = false) : Continuous t := by
  obtain ⟨hqueue, hledger⟩ := watched_step hs
  have hkept := keeps_of_step (Machine.observe_step.1 hs).1 hkeep
  refine ⟨hI.numbered.step hs, ?_⟩
  rw [hledger]
  refine hqueue.gapless hI.gapless (fun x hop last hlast => ?_) hkept
  -- the sample offered is the next call, and the stream runs
  rcases calls_step (Machine.observe_step.1 hs).1 with ⟨-, ⟨y, hy, hcall⟩ | ⟨hquiet, -⟩⟩ | ⟨-, hne⟩
  · obtain rfl : y = x := Metered.Op.offer.inj (hy.symm.trans hop)
    have hrun : s.1.cam.streaming = true := by
      rw [hop] at hqueue
      generalize submitted o = out at hqueue
      generalize t.1.cam.queue = q' at hqueue
      cases hqueue with
      | offer hrun _ => exact hrun
    rw [Sample.follows, hcall]
    exact (hI.numbered.last hrun last hlast).symm
  · exact absurd (hquiet.symm.trans hop) (by simp)
  · exact absurd hop (hne x)

/-- **GOP continuity, as long as no sample is lost on its way.**  In a run in
which the channel takes every sample that is written, and there is one to write
to, the samples taken since the last StartStreams start at a keyframe and each
other one is a keyframe or came directly after the one before it. -/
theorem gop_continuity (hr : (watched deviceName).Run h s)
    (hkeep : ∀ m ∈ h, m.src.1.losesSample m.act = false) : Decodable (taken s) := by
  have hI := (hr.guarded (I := Continuous) (g := fun m => m.src.1.losesSample m.act = false)
    continuous_start
    (fun s a t o hI hs hg => hI.step hs hg) hkeep).1
  exact hI.gapless.unbroken.left

/-- The law kept, over an overflow: nine samples for a queue of eight, and the
stream goes on at the next keyframe. -/
theorem gop_continuity_overflow : ∃ h s, (watched "Cam").Run h s ∧
    taken s = [⟨[1], true, 0⟩, ⟨[3], true, 11⟩] ∧ Decodable (taken s) := by
  have hrun := (watched "Cam").run_get (streamActs ++
    [.received false 1 requestMessage accepts, .sample [1] true accepts] ++
    List.replicate 10 (.sample [2] false accepts) ++
    [.sample [3] true accepts, .received false 1 requestMessage accepts]) (by decide)
  exact ⟨_, _, hrun, by decide, gop_continuity hrun (by decide)⟩

/-- Two samples with one missing between them. -/
theorem not_decodable_of_gap {samples : List Sample} {a b : Sample} (h : samples = [a, b])
    (hb : b.keyframe = false) (hgap : b.call ≠ a.call + 1) : ¬ Decodable samples := by
  intro hdec
  rw [h] at hdec
  rcases (List.isChain_cons_cons.1 hdec.2).1 with hkey | hnext
  · rw [hb] at hkey
    exact absurd hkey (by simp)
  · exact hgap hnext

/-- **A gap after a refusal.**  The second sample is refused, nothing remembers
it, and the third, which no decoder can follow, is the next on the wire. -/
theorem gap_after_refusal : ∃ h s, (watched "Cam").Run h s ∧
    taken s = [⟨[1], true, 0⟩, ⟨[3], false, 2⟩] ∧ ¬ Decodable (taken s) := by
  have hrun := (watched "Cam").run_get (streamActs ++
    [.received false 1 requestMessage accepts, .sample [1] true accepts,
      .received false 1 requestMessage accepts, .sample [2] false refuses,
      .sample [3] false accepts]) (by decide)
  exact ⟨_, _, hrun, by decide, not_decodable_of_gap (a := ⟨[1], true, 0⟩)
    (b := ⟨[3], false, 2⟩) (by decide) rfl (by decide)⟩

end Camera
end FreerdpPrebuilt
