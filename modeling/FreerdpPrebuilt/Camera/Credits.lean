import FreerdpPrebuilt.Camera.Metering

/-!
# What a credit is spent on

A sample is sent in two places.  `sample` writes it when a credit is left, and
spends the credit only if the channel took the write: a refused one would "leave
one fewer for a stream that then survives".  The loop of a SampleRequest takes a
sample off the queue and a credit off the count first, and does not look at what
the channel answers.

So the count of credits, of samples taken and of requests goes out at the first
payment the channel refuses, and at nothing else (`credits_conserved_iff`).
-/

namespace FreerdpPrebuilt
namespace Camera

open Labelled

variable {deviceName : String} {h : List (Move Watched Act Obs)} {s t : Watched} {a : Act}
  {o : List Obs}

/-! ## What is claimed -/

/-- While a stream runs: the credits left and the samples the channel took since
StartStreams are, together, the valid SampleRequests since then. -/
def CreditsConserved (s : Watched) : Prop :=
  s.1.cam.streaming = true → s.1.cam.credits + (taken s).length = s.2.granted

/-- The channel takes every sample the message pays for. -/
def paysInFull (m : Move Watched Act Obs) : Bool :=
  match m.act with
  | .received false _ _ _ => (submitted m.out).all Prod.snd
  | _ => true

/-- The credits do not saturate: one more can be counted. -/
def belowSaturation (m : Move Watched Act Obs) : Bool := decide (m.src.1.cam.credits < u32Max)

/-! ## One step -/

/-- A SampleRequest names stream 0. -/
theorem requestOf_eq_sample {id : UInt8} {body : Bytes} (h : requestOf id body = .sample) :
    id = SAMPLE_REQUEST ∧ streamIndexOk body = true := by
  unfold requestOf at h
  split_ifs at h with hstop hstart hsample
  · split at h <;> cases h
  · exact hsample

/-- Only a message on a device channel pays. -/
theorem received_of_grant {s : System} (hop : s.op a = .grant) :
    ∃ channel bytes answers, a = .received false channel bytes answers := by
  cases a with
  | received enumerator channel bytes answers =>
    cases enumerator with
    | true => exact absurd hop (by simp [System.op])
    | false => exact ⟨channel, bytes, answers, rfl⟩
  | sample data keyframe answers =>
    simp only [System.op] at hop
    split_ifs at hop
  | closed enumerator channel =>
    cases enumerator with
    | true => exact absurd hop (by simp [System.op])
    | false =>
      simp only [System.op] at hop
      split_ifs at hop
  | _ => exact absurd hop (by simp [System.op])

/-- Below saturation, the credits a payment leaves and the samples it pays for are
the old credits and one. -/
theorem credits_of_grant {s t : System} (hs : step deviceName s a = some (t, o))
    (hop : s.op a = .grant) (hsat : s.cam.credits < u32Max) :
    (submitted o).length + t.cam.credits = s.cam.credits + 1 := by
  obtain ⟨channel, bytes, answers, rfl⟩ := received_of_grant hop
  obtain ⟨hasked, hrun⟩ := request_of_grant.1 hop
  obtain ⟨-, rfl, rfl⟩ := step_received hs
  obtain ⟨serverVersion, id, body, rfl⟩ := eq_cons_of_request (by rw [hasked]; decide)
  obtain ⟨rfl, hindex⟩ := requestOf_eq_sample hasked
  have hhandled : handleDevice s.cam channel SAMPLE_REQUEST body answers =
      sampleRequest s.cam channel body answers := rfl
  have hmin : min (s.cam.credits + 1) u32Max = s.cam.credits + 1 := by omega
  obtain ⟨out, hwrites, -, hcredits, -, -⟩ :=
    drain_spec s.cam.version channel answers (s.cam.credits + 1) s.cam.pending 0
  simp only [System.apply, onDataReceived, Bool.false_eq_true, if_false, hhandled,
    sampleRequest, hindex, hrun, if_true, hmin, hwrites, submitted_shipping]
  exact hcredits

/-- Only a payment submits samples on behalf of a message. -/
theorem paysInFull_iff (hs : (watched deviceName).step s a = some (t, o)) :
    paysInFull ⟨s, a, o, t⟩ = true ↔
      (s.1.op a = .grant → ∀ x ∈ submitted o, x.2 = true) := by
  have hstep : step deviceName s.1 a = some (t.1, o) := (Machine.observe_step.1 hs).1
  by_cases ha : ∃ channel bytes answers, a = .received false channel bytes answers
  · obtain ⟨channel, bytes, answers, rfl⟩ := ha
    simp only [paysInFull, List.all_eq_true]
    refine ⟨fun hall _ => hall, fun hgrant => ?_⟩
    intro x hx
    rcases (running_of_submitted hstep (List.ne_nil_of_mem hx)).2 with ⟨y, hy⟩ | ⟨hop, -⟩
    · exact absurd hy op_received_ne_offer
    · exact hgrant hop x hx
  · have hpays : paysInFull ⟨s, a, o, t⟩ = true := by
      unfold paysInFull
      split
      · rename_i channel bytes answers hact
        exact absurd ⟨channel, bytes, answers, hact⟩ ha
      · rfl
    exact ⟨fun _ hop => absurd (received_of_grant hop) ha, fun _ => hpays⟩

/-- **One step**: the count goes on, exactly if every payment is taken. -/
theorem CreditsConserved.step_iff (hI : CreditsConserved s)
    (hs : (watched deviceName).step s a = some (t, o))
    (hsat : belowSaturation ⟨s, a, o, t⟩ = true) :
    CreditsConserved t ↔ paysInFull ⟨s, a, o, t⟩ = true := by
  obtain ⟨hqueue, hledger⟩ := watched_step hs
  have hfull : s.1.op a = .grant →
      (submitted o).length + t.1.cam.queue.credits = s.1.cam.queue.credits + 1 := by
    intro hop
    exact credits_of_grant (Machine.observe_step.1 hs).1 hop (of_decide_eq_true hsat)
  have hcount : Metered.Conserved s.1.cam.queue s.2 := hI
  have hiff := hqueue.conserved_iff hcount hfull
  rw [← hledger] at hiff
  rw [paysInFull_iff hs]
  exact hiff

/-! ## The whole run -/

/-- **When a credit is spent by an accepted write only.**  In every run in which
the credits do not saturate: in every state reached, the credits left and the
samples the channel took since StartStreams make up the valid SampleRequests, if
and only if the channel takes every sample that a SampleRequest pays for. -/
theorem credits_conserved_iff (hr : (watched deviceName).Run h s)
    (hsat : ∀ m ∈ h, belowSaturation m = true) :
    (∀ m ∈ h, CreditsConserved m.dst) ↔ ∀ m ∈ h, paysInFull m = true := by
  have hstart : CreditsConserved (watched deviceName).init := by
    intro hrun
    exact absurd hrun Bool.false_ne_true
  exact hr.guarded_iff hstart fun m hm hs hI => hI.step_iff hs (hsat m hm)

/-- The law kept over a refusal: the direct write that is refused keeps its
credit, and the next sample is sent on it. -/
theorem credits_conserved_refused : ∃ h s, (watched "Cam").Run h s ∧ s.2.granted = 1 ∧
    taken s = [⟨[2], true, 1⟩] ∧ ∀ m ∈ h, CreditsConserved m.dst := by
  have hrun := (watched "Cam").run_get (streamActs ++
    [.received false 1 requestMessage accepts, .sample [1] true refuses, .sample [2] true accepts])
    (by decide)
  exact ⟨_, _, hrun, by decide, by decide,
    (credits_conserved_iff hrun (by decide)).2 (by decide)⟩

/-- **A credit for nothing.**  A sample waits; the request that pays for it is
refused by the channel, and the credit is gone with the sample. -/
theorem credit_burned_by_refusal : ∃ h s, (watched "Cam").Run h s ∧ s.1.cam.streaming = true ∧
    s.1.cam.credits = 0 ∧ taken s = [] ∧ s.2.granted = 1 ∧ ¬ CreditsConserved s := by
  have hrun := (watched "Cam").run_get (streamActs ++
    [.sample [1] true accepts, .received false 1 requestMessage refuses]) (by decide)
  refine ⟨_, _, hrun, by decide, by decide, by decide, by decide, fun hall => ?_⟩
  exact absurd (hall (by decide)) (by decide)

end Camera
end FreerdpPrebuilt
