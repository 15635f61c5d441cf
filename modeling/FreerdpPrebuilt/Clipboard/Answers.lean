import FreerdpPrebuilt.Clipboard.Channel

/-!
# Which question an answer belongs to

A format-data response carries no format.  The server answers in the order it
was asked, and the label of an answer is read from one slot, the format of the
most recent request, when the answer arrives.  The two agree as long as the
question that is answered and the latest question are for the same format
(`labelled_iff`), in particular while nobody asks for another format before the
answer is in (`labelled_of_one_at_a_time`).  Nothing in the crate waits for that:
two requests of a row go out back to back (`second_question_labels_the_first`).
-/

namespace FreerdpPrebuilt
namespace Clipboard

open Labelled

variable {entry : Ptr → EntryPoint → Bool}

/-! ## What is recorded of a run -/

/-- The history of the open channel: the formats asked for on it, and those its
answers were labelled with. -/
structure Asked where
  asked : List ℕ
  answered : List ℕ
  deriving DecidableEq

/-- The format of an answer. -/
def ClipboardEvent.answer : ClipboardEvent → Option ℕ
  | .remoteData format _ | .remoteDataFailed format => some format
  | .ready | .remoteFormats _ | .localDataRequest _ => none

/-- The format of a request that was sent. -/
def Obs.asks : Obs → Option ℕ
  | .clientFormatDataRequest _ format => some format
  | _ => none

/-- The format an answer was delivered with. -/
def Obs.answers : Obs → Option ℕ
  | .event e => e.answer
  | _ => none

/-- Record one move: a channel that opens or closes starts a new list. -/
def Asked.see (g : Asked) (m : Move State Act Obs) : Asked :=
  match m.act with
  | .channelConnected pInterface => if pInterface = Ptr.null then g else ⟨[], []⟩
  | .channelDisconnected => ⟨[], []⟩
  | _ => ⟨g.asked ++ m.out.filterMap Obs.asks, g.answered ++ m.out.filterMap Obs.answers⟩

abbrev Recorded := State × Asked

/-- The clipboard with that record as its history variable. -/
def recorded (entry : Ptr → EntryPoint → Bool) : Machine Recorded Act Obs :=
  (machine entry).observe ⟨[], []⟩ Asked.see

/-! ## What is claimed -/

/-- After the move, the `k`-th answer on the channel carries the format of the
`k`-th request, for every `k`. -/
def labelled (m : Move Recorded Act Obs) : Bool := m.dst.2.answered.isPrefixOf m.dst.2.asked

/-- An answer comes to a question for the same format as the latest one. -/
def answersLatest (m : Move Recorded Act Obs) : Bool :=
  match m.act with
  | .serverFormatDataResponse _ _ => m.src.1.peer.outstanding.head? == m.src.2.asked.getLast?
  | _ => true

/-- Nobody asks for a format while another one is waited for. -/
def oneAtATime (m : Move Recorded Act Obs) : Bool :=
  match m.act with
  | .request format => m.src.1.peer.outstanding.all (· == format)
  | _ => true

/-! ## One step -/

variable {s t : Recorded} {a : Act} {o : List Obs}

/-- What the record and FreeRDP's side have to do with each other: unanswered
is what was asked and not answered, and the slot holds the latest question. -/
structure Waits (s : Recorded) : Prop where
  length : s.2.answered.length ≤ s.2.asked.length
  outstanding : s.1.peer.outstanding = s.2.asked.drop s.2.answered.length
  slot : ∀ format ∈ s.2.asked.getLast?,
    s.1.peer.lastRequestedFormatId s.1.bridge.cliprdr = format

theorem filterMap_sendFormatList {f : Obs → Option ℕ} (cliprdr : Ptr)
    (formats : List ClipboardFormat)
    (hf : f (.clientFormatList cliprdr (formatList formats)) = none) :
    (sendFormatList entry cliprdr formats).filterMap f = [] :=
  filterMap_call hf cliprdr _

/-- The moves that are neither a question, an answer nor a change of the
channel. -/
def Act.isOther : Act → Bool
  | .channelConnected _ | .channelDisconnected | .serverFormatDataResponse _ _ | .request _ =>
    false
  | .serverCapabilities _ | .monitorReady _ | .serverFormatList _ _
  | .serverFormatDataRequest _ _ _ | .advertise _ | .respond _ _ => true

/-- Any other move asks nothing, answers nothing, and leaves the channel as it
is. -/
theorem other_step {st st' : State} (ha : a.isOther = true)
    (hs : (machine entry).step st a = some (st', o)) :
    o.filterMap Obs.asks = [] ∧ o.filterMap Obs.answers = [] ∧ st'.peer = st.peer ∧
      st'.bridge.cliprdr = st.bridge.cliprdr := by
  cases a with
  | serverCapabilities cliprdr =>
    obtain ⟨-, rfl, rfl⟩ : _ ∧ _ ∧ _ := by simpa [machine] using hs
    exact ⟨filterMap_call rfl _ _, filterMap_call rfl _ _, rfl, rfl⟩
  | monitorReady cliprdr =>
    obtain ⟨-, rfl, rfl⟩ : _ ∧ _ ∧ _ := by simpa [machine, monitorReady] using hs
    refine ⟨?_, ?_, rfl, rfl⟩ <;>
    · rw [List.filterMap_append, sendClientCapabilities, filterMap_call rfl]
      cases st.bridge.pendingAdvertise with
      | none => rfl
      | some formats => exact filterMap_sendFormatList _ _ rfl
  | serverFormatList cliprdr formats =>
    obtain ⟨-, rfl, rfl⟩ : _ ∧ _ ∧ _ := by simpa [machine] using hs
    refine ⟨?_, ?_, rfl, rfl⟩ <;>
    · rw [serverFormatList, List.filterMap_append, filterMap_call rfl]
      rfl
  | serverFormatDataRequest cliprdr format listening =>
    obtain ⟨-, rfl, rfl⟩ : _ ∧ _ ∧ _ := by simpa [machine] using hs
    cases listening with
    | true => exact ⟨rfl, rfl, rfl, rfl⟩
    | false => exact ⟨filterMap_call rfl _ _, filterMap_call rfl _ _, rfl, rfl⟩
  | advertise formats =>
    rcases advertise_step hs with ⟨-, rfl, rfl⟩ | ⟨-, -, rfl, rfl⟩ | ⟨-, -, rfl, rfl⟩
    · exact ⟨rfl, rfl, rfl, rfl⟩
    · exact ⟨rfl, rfl, rfl, rfl⟩
    · exact ⟨filterMap_sendFormatList _ _ rfl, filterMap_sendFormatList _ _ rfl, rfl, rfl⟩
  | respond format data =>
    obtain ⟨rfl, rfl⟩ : _ ∧ _ := by simpa [machine] using hs
    refine ⟨?_, ?_, rfl, rfl⟩ <;>
    · unfold clipboardRespond
      split_ifs
      · rfl
      · exact filterMap_call rfl _ _
  | _ => cases ha

theorem see_other {g : Asked} {st st' : State} (ha : a.isOther = true) :
    g.see ⟨st, a, o, st'⟩ =
      ⟨g.asked ++ o.filterMap Obs.asks, g.answered ++ o.filterMap Obs.answers⟩ := by
  cases a <;> first | rfl | cases ha

/-- A move that asks and answers nothing leaves the record as it is. -/
theorem see_silent {g g' : Asked} {st st' : State} (ha : a.isOther = true)
    (hasks : o.filterMap Obs.asks = []) (hanswers : o.filterMap Obs.answers = [])
    (hsee : g' = g.see ⟨st, a, o, st'⟩) : g' = g := by
  rw [hsee, see_other ha, hasks, hanswers, List.append_nil, List.append_nil]

/-- A request that was sent is recorded as a question. -/
theorem see_request {g g' : Asked} {st st' : State} {cliprdr : Ptr} {format : ℕ}
    (hsee : g' = g.see ⟨st, .request format, [.clientFormatDataRequest cliprdr format], st'⟩) :
    g' = ⟨g.asked ++ [format], g.answered⟩ := by
  have hnone : [Obs.clientFormatDataRequest cliprdr format].filterMap Obs.answers = [] := rfl
  simpa [Asked.see, Obs.asks, hnone] using hsee

/-- The event of a response answers with the format in the slot, and asks
nothing. -/
theorem response_says (st : State) (ok : Bool) (data : Option Bytes) :
    [Obs.event (serverFormatDataResponse st ok data)].filterMap Obs.asks = [] ∧
      [Obs.event (serverFormatDataResponse st ok data)].filterMap Obs.answers =
        [st.peer.lastRequestedFormatId st.bridge.cliprdr] := by
  refine ⟨rfl, ?_⟩
  cases ok <;> cases data <;> rfl

/-- A response is recorded as an answer. -/
theorem see_response {g g' : Asked} {st st' : State} {ok : Bool} {data : Option Bytes}
    (hsee : g' = g.see ⟨st, .serverFormatDataResponse ok data,
      [.event (serverFormatDataResponse st ok data)], st'⟩) :
    g' = ⟨g.asked, g.answered ++ [st.peer.lastRequestedFormatId st.bridge.cliprdr]⟩ := by
  obtain ⟨hasks, hanswers⟩ := response_says st ok data
  rw [hsee]
  show (⟨_ ++ _, _ ++ _⟩ : Asked) = _
  rw [hasks, hanswers, List.append_nil]

theorem Waits.step (hI : Waits s) (hs : (recorded entry).step s a = some (t, o)) : Waits t := by
  obtain ⟨st, g⟩ := s
  obtain ⟨st', g'⟩ := t
  obtain ⟨hstep, hsee⟩ := Machine.observe_step.1 hs
  obtain ⟨hle, hout, hslot⟩ := hI
  by_cases ha : a.isOther = true
  · obtain ⟨hasks, hanswers, hpeer, hchannel⟩ := other_step ha hstep
    obtain rfl : g' = g := see_silent ha hasks hanswers hsee
    exact ⟨hle, by rw [hpeer]; exact hout, by rw [hpeer, hchannel]; exact hslot⟩
  cases a with
  | channelConnected pInterface =>
    obtain ⟨rfl, rfl⟩ : _ ∧ _ := by simpa [machine] using hstep
    by_cases hnull : pInterface = Ptr.null
    · subst hnull
      obtain rfl : g' = g := by simpa [Asked.see] using hsee
      exact ⟨hle, hout, hslot⟩
    · obtain rfl : g' = ⟨[], []⟩ := by simpa [Asked.see, hnull] using hsee
      exact ⟨Nat.le_refl 0, by simp [channelConnected, hnull], by simp⟩
  | channelDisconnected =>
    obtain ⟨rfl, rfl⟩ : _ ∧ _ := by simpa [machine] using hstep
    obtain rfl : g' = ⟨[], []⟩ := hsee
    exact ⟨Nat.le_refl 0, rfl, by simp⟩
  | request format =>
    rcases request_step hstep with ⟨rfl, rfl⟩ | ⟨rfl, rfl⟩
    · obtain rfl : g' = g := by simpa [Asked.see] using hsee
      exact ⟨hle, hout, hslot⟩
    · obtain rfl := see_request hsee
      refine ⟨?_, ?_, ?_⟩
      · show g.answered.length ≤ (g.asked ++ [format]).length
        rw [List.length_append]
        exact Nat.le_trans hle (Nat.le_add_right _ _)
      · show st.peer.outstanding ++ [format] = (g.asked ++ [format]).drop g.answered.length
        rw [List.drop_append_of_le_length hle, ← hout]
      · intro latest hlatest
        obtain rfl : format = latest := by simpa using hlatest
        exact Function.update_self _ _ _
  | serverFormatDataResponse ok data =>
    obtain ⟨format, hhead, hbridge, hkeeps, rfl⟩ := response_step hstep
    obtain rfl := see_response hsee
    have hdrop : g.asked.drop g.answered.length = format :: st'.peer.outstanding :=
      hout.symm.trans hhead
    refine ⟨?_, ?_, ?_⟩
    · have hpos : 0 < (g.asked.drop g.answered.length).length := by simp [hdrop]
      rw [List.length_drop] at hpos
      show (g.answered ++ [_]).length ≤ g.asked.length
      rw [List.length_append, List.length_singleton]
      omega
    · show st'.peer.outstanding = g.asked.drop (g.answered ++ [_]).length
      rw [List.length_append, List.length_singleton, ← List.drop_drop, hdrop]
      rfl
    · rw [hkeeps, hbridge]
      exact hslot
  | _ => exact absurd rfl ha

/-- A list that goes on by one stays a prefix exactly when it goes on by the
next element. -/
theorem snoc_prefix_iff {α : Type*} {l k rest : List α} {x y : α}
    (hdrop : l.drop k.length = x :: rest) : k ++ [y] <+: l ↔ k <+: l ∧ y = x := by
  constructor
  · rintro ⟨suffix, rfl⟩
    rw [List.append_assoc, List.drop_left, List.singleton_append] at hdrop
    obtain ⟨rfl, -⟩ := List.cons.inj hdrop
    exact ⟨⟨[y] ++ suffix, (List.append_assoc _ _ _).symm⟩, rfl⟩
  · rintro ⟨⟨suffix, rfl⟩, rfl⟩
    rw [List.drop_left] at hdrop
    rw [hdrop]
    exact ⟨rest, by simp⟩

theorem answersLatest_response {ok : Bool} {data : Option Bytes} :
    answersLatest ⟨s, .serverFormatDataResponse ok data, o, t⟩ = true ↔
      s.1.peer.outstanding.head? = s.2.asked.getLast? := by
  simp [answersLatest]

/-- **One answer.**  It goes on with the answers as the questions do, exactly
when it comes to a question for the same format as the latest one. -/
theorem Waits.response (hI : Waits s) {ok : Bool} {data : Option Bytes}
    (hs : (recorded entry).step s (.serverFormatDataResponse ok data) = some (t, o)) :
    t.2.answered <+: t.2.asked ↔ s.2.answered <+: s.2.asked ∧
      answersLatest ⟨s, .serverFormatDataResponse ok data, o, t⟩ = true := by
  obtain ⟨st, g⟩ := s
  obtain ⟨st', g'⟩ := t
  obtain ⟨hstep, hsee⟩ := Machine.observe_step.1 hs
  obtain ⟨format, hhead, -, -, rfl⟩ := response_step hstep
  obtain rfl := see_response hsee
  have hdrop : g.asked.drop g.answered.length = format :: st'.peer.outstanding :=
    hI.outstanding.symm.trans hhead
  have hne : g.asked ≠ [] := by
    intro hnil
    rw [hnil] at hdrop
    simp at hdrop
  have hlatest := List.getLast?_eq_some_getLast hne
  have hslot : st.peer.lastRequestedFormatId st.bridge.cliprdr = g.asked.getLast hne :=
    hI.slot _ hlatest
  have hhead : st.peer.outstanding.head? = some format := by
    rw [hhead]
    rfl
  have hcond : some format = some (g.asked.getLast hne) ↔
      st.peer.lastRequestedFormatId st.bridge.cliprdr = format := by
    rw [hslot, Option.some.injEq]
    exact eq_comm
  rw [answersLatest_response]
  show _ ↔ _ ∧ st.peer.outstanding.head? = g.asked.getLast?
  rw [hhead, hlatest, hcond]
  exact snoc_prefix_iff hdrop

/-- Any other move leaves the answers a prefix of the questions. -/
theorem prefix_of_step (hs : (recorded entry).step s a = some (t, o))
    (hagree : s.2.answered <+: s.2.asked)
    (ha : ∀ ok data, a ≠ .serverFormatDataResponse ok data) : t.2.answered <+: t.2.asked := by
  obtain ⟨st, g⟩ := s
  obtain ⟨st', g'⟩ := t
  obtain ⟨hstep, hsee⟩ := Machine.observe_step.1 hs
  by_cases hother : a.isOther = true
  · obtain ⟨hasks, hanswers, -, -⟩ := other_step hother hstep
    obtain rfl : g' = g := see_silent hother hasks hanswers hsee
    exact hagree
  cases a with
  | channelConnected pInterface =>
    obtain ⟨rfl, rfl⟩ : _ ∧ _ := by simpa [machine] using hstep
    by_cases hnull : pInterface = Ptr.null
    · obtain rfl : g' = g := by simpa [Asked.see, hnull] using hsee
      exact hagree
    · obtain rfl : g' = ⟨[], []⟩ := by simpa [Asked.see, hnull] using hsee
      exact List.nil_prefix
  | channelDisconnected =>
    obtain rfl : g' = ⟨[], []⟩ := hsee
    exact List.nil_prefix
  | request format =>
    rcases request_step hstep with ⟨rfl, rfl⟩ | ⟨rfl, rfl⟩
    · obtain rfl : g' = g := by simpa [Asked.see] using hsee
      exact hagree
    · obtain rfl := see_request hsee
      exact hagree.trans (List.prefix_append _ _)
  | serverFormatDataResponse ok data => exact absurd rfl (ha ok data)
  | _ => exact absurd rfl hother

/-! ## The whole run -/

variable {h : List (Move Recorded Act Obs)}

theorem waits_start : Waits (recorded entry).init := by
  refine ⟨Nat.le_refl 0, rfl, ?_⟩
  intro format hformat
  cases hformat

/-- In every state a move of a run starts from, the record and FreeRDP's side
belong together. -/
theorem waits_of_mem (hr : (recorded entry).Run h s) : ∀ m ∈ h, Waits m.src := by
  intro m hm
  exact (hr.invariant_mem waits_start (fun _ _ _ _ hI hs => hI.step hs) m hm).1

/-- Answers that are all labelled rightly came to questions like the latest. -/
theorem answersLatest_of_labelled (hr : (recorded entry).Run h s)
    (hall : ∀ m ∈ h, labelled m = true) : ∀ m ∈ h, answersLatest m = true := by
  intro m hm
  have hwaits := waits_of_mem hr m hm
  have hagree := List.isPrefixOf_iff_prefix.1 (hall m hm)
  have hstep := hr.step_of_mem m hm
  obtain ⟨s, a, o, t⟩ := m
  by_cases ha : ∃ ok data, a = .serverFormatDataResponse ok data
  · obtain ⟨ok, data, rfl⟩ := ha
    exact ((hwaits.response hstep).1 hagree).2
  · cases a <;> first | rfl | exact absurd ⟨_, _, rfl⟩ ha

/-- Answers that all come to questions like the latest are labelled rightly. -/
theorem labelled_of_answersLatest (hr : (recorded entry).Run h s)
    (hall : ∀ m ∈ h, answersLatest m = true) : ∀ m ∈ h, labelled m = true := by
  have hkeep : ∀ s a t o, (Waits s ∧ s.2.answered <+: s.2.asked) →
      (recorded entry).step s a = some (t, o) → answersLatest ⟨s, a, o, t⟩ = true →
      Waits t ∧ t.2.answered <+: t.2.asked := by
    rintro s a t o ⟨hI, hp⟩ hs hg
    refine ⟨hI.step hs, ?_⟩
    by_cases ha : ∃ ok data, a = .serverFormatDataResponse ok data
    · obtain ⟨ok, data, rfl⟩ := ha
      exact (hI.response hs).2 ⟨hp, hg⟩
    · exact prefix_of_step hs hp fun ok data heq => ha ⟨ok, data, heq⟩
  intro m hm
  have hends := (hr.guarded ⟨waits_start, List.nil_prefix⟩ hkeep hall).2 m hm
  exact List.isPrefixOf_iff_prefix.2 hends.2.2

/-- What is waited for is of one format, the latest one. -/
def OneFormat (s : Recorded) : Prop :=
  ∀ format ∈ s.1.peer.outstanding, s.2.asked.getLast? = some format

/-- A question for the format that is waited for leaves one format. -/
theorem OneFormat.step (hI : OneFormat s) (hs : (recorded entry).step s a = some (t, o))
    (hone : oneAtATime ⟨s, a, o, t⟩ = true) : OneFormat t := by
  obtain ⟨st, g⟩ := s
  obtain ⟨st', g'⟩ := t
  obtain ⟨hstep, hsee⟩ := Machine.observe_step.1 hs
  by_cases hother : a.isOther = true
  · obtain ⟨hasks, hanswers, hpeer, -⟩ := other_step hother hstep
    obtain rfl : g' = g := see_silent hother hasks hanswers hsee
    intro format hformat
    exact hI format (by rwa [hpeer] at hformat)
  cases a with
  | channelConnected pInterface =>
    obtain ⟨rfl, rfl⟩ : _ ∧ _ := by simpa [machine] using hstep
    by_cases hnull : pInterface = Ptr.null
    · subst hnull
      obtain rfl : g' = g := by simpa [Asked.see] using hsee
      exact hI
    · intro format hformat
      simp [channelConnected, hnull] at hformat
  | channelDisconnected =>
    obtain ⟨rfl, rfl⟩ : _ ∧ _ := by simpa [machine] using hstep
    intro format hformat
    cases hformat
  | request format =>
    rcases request_step hstep with ⟨rfl, rfl⟩ | ⟨rfl, rfl⟩
    · obtain rfl : g' = g := by simpa [Asked.see] using hsee
      exact hI
    · obtain rfl := see_request hsee
      have hall : ∀ other ∈ st.peer.outstanding, other = format := by
        simpa [oneAtATime] using hone
      intro other hother
      rcases List.mem_append.1 hother with hold | hnew
      · rw [hall other hold]
        exact List.getLast?_concat
      · rw [List.mem_singleton.1 hnew]
        exact List.getLast?_concat
  | serverFormatDataResponse ok data =>
    obtain ⟨format, hhead, -, -, rfl⟩ := response_step hstep
    obtain rfl := see_response hsee
    intro other hother
    exact hI other (hhead ▸ List.mem_cons_of_mem _ hother)
  | _ => exact absurd rfl hother

/-- **One question at a time.**  While nobody asks for another format before the
answer is in, every answer carries the format it was asked in. -/
theorem labelled_of_one_at_a_time (hr : (recorded entry).Run h s)
    (hall : ∀ m ∈ h, oneAtATime m = true) : ∀ m ∈ h, labelled m = true := by
  refine labelled_of_answersLatest hr fun m hm => ?_
  have hstart : OneFormat (recorded entry).init := by
    intro format hformat
    cases hformat
  have hone := ((hr.guarded hstart (fun _ _ _ _ hI hs hg => hI.step hs hg) hall).2 m hm).1
  have hstep := hr.step_of_mem m hm
  obtain ⟨⟨st, g⟩, a, o, ⟨st', g'⟩⟩ := m
  by_cases ha : ∃ ok data, a = .serverFormatDataResponse ok data
  · obtain ⟨ok, data, rfl⟩ := ha
    obtain ⟨format, hhead, -⟩ := response_step (Machine.observe_step.1 hstep).1
    have hhead : st.peer.outstanding = format :: st'.peer.outstanding := hhead
    have hlatest : g.asked.getLast? = some format := by
      refine hone format ?_
      rw [hhead]
      exact List.mem_cons_self
    rw [answersLatest_response]
    show st.peer.outstanding.head? = g.asked.getLast?
    rw [hhead, hlatest]
    rfl
  · cases a <;> first | rfl | exact absurd ⟨_, _, rfl⟩ ha

/-- **When answers are labelled with their questions.**  In every run, over any
number of channels, the `k`-th answer on the channel carries the format of the
`k`-th request, for all answers, if and only if every answer comes to a question
for the same format as the latest one. -/
theorem labelled_iff (hr : (recorded entry).Run h s) :
    (∀ m ∈ h, labelled m = true) ↔ ∀ m ∈ h, answersLatest m = true :=
  ⟨answersLatest_of_labelled hr, labelled_of_answersLatest hr⟩

/-- A question, its answer, another question and its answer, on a second
channel of the session. -/
def inTurn : List Act :=
  [.channelConnected 1, .request 13, .serverFormatDataResponse true (some [104, 105]),
    .channelDisconnected, .channelConnected 2, .request 13, .request 13,
    .serverFormatDataResponse true (some [104, 105]), .serverFormatDataResponse false none,
    .request 8, .serverFormatDataResponse false none]

theorem labelled_inTurn : ∃ h s, (recorded fun _ _ => true).Run h s ∧
    s.2 = ⟨[13, 13, 8], [13, 13, 8]⟩ ∧ ∀ m ∈ h, labelled m = true := by
  have hrun := (recorded fun _ _ => true).run_get inTurn (by decide)
  exact ⟨_, _, hrun, by decide, (labelled_iff hrun).2 (by decide)⟩

/-- **The second question labels the first answer.**  Text and a picture are
asked for back to back; the text arrives as a picture. -/
theorem second_question_labels_the_first : ∃ h s, (recorded fun _ _ => true).Run h s ∧
    s.2 = ⟨[13, 8], [8]⟩ ∧ ¬ ∀ m ∈ h, labelled m = true := by
  have hrun := (recorded fun _ _ => true).run_get
    [.channelConnected 1, .request 13, .request 8,
      .serverFormatDataResponse true (some [104, 105])] (by decide)
  exact ⟨_, _, hrun, by decide, by decide⟩

end Clipboard
end FreerdpPrebuilt
