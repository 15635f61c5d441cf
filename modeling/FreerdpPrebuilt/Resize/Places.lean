import FreerdpPrebuilt.Resize.Route

/-!
# How requests move

`FreerdpPrebuilt.Resize.Route` has many steps; a resize request sees few of
them.  This file reads the **places** a request can sit in off a session, and
says once what every step does to them:

* `resize_spec` — the five ways through `resize`;
* `moved_of_step` — the twelve ways requests move, each with the layout or the
  reconnect it shows;
* `byReconnect_of_step` — a session that resizes by reconnecting does so to its
  end, and `RouteKept.step`: only such a session has a reconnect pending.
-/

namespace FreerdpPrebuilt
namespace Resize

open Labelled
open Session (Shared)

/-! ## What `resize` can do -/

/-- The five ways through `resize`. -/
inductive Resized (st : State) (request : ResizeRequest) : State → List Obs → Prop
  /-- The desktop is already like that. -/
  | discarded : st.settings.same request = true → Resized st request st []
  /-- It waits for the debounce, in the place of the one that waited before. -/
  | debounced : st.settings.same request = false → st.byReconnect = true →
      Resized st request
        { st with bridge := { st.bridge with pendingReconnect := some ⟨request, st.now⟩ } } []
  /-- It waits for the channel, in the place of the one held before. -/
  | held : st.settings.same request = false → st.byReconnect = false →
      Resized st request (st.hold request) []
  /-- It is sent as a layout. -/
  | sent {inFlight : List MonitorLayout} : st.settings.same request = false →
      st.byReconnect = false →
      (inFlight = st.server.inFlight ∨ inFlight = st.server.inFlight ++ [monitorLayout request]) →
      Resized st request { st with server := { st.server with inFlight } } [.layout request]
  /-- The plugin has no entry point for layouts. -/
  | dropped : st.settings.same request = false → st.byReconnect = false →
      Resized st request st []

/-- **`resize`, in one lemma.** -/
theorem resize_spec (st : State) (request : ResizeRequest) (accepted : Bool) :
    Resized st request (resize st request accepted).1 (resize st request accepted).2 := by
  unfold resize
  cases hsame : st.settings.same request with
  | true => exact .discarded hsame
  | false =>
    cases hroute : st.byReconnect with
    | true => exact .debounced hsame hroute
    | false =>
      simp only [Bool.false_eq_true, if_false, requestResize]
      split
      · exact .held hsame hroute
      · split
        · unfold sendMonitorLayout
          split
          · cases accepted
            · exact .sent hsame hroute (.inl rfl)
            · exact .sent hsame hroute (.inr rfl)
          · exact .dropped hsame hroute
        · exact .held hsame hroute

/-- The writes of a reconnect touch no other setting. -/
theorem writeAll_supportGraphicsPipeline (accepts : SettingKey → Bool) (settings : Settings)
    (writes : List (SettingKey × ℕ)) :
    (settings.writeAll accepts writes).1.supportGraphicsPipeline =
      settings.supportGraphicsPipeline := by
  induction writes generalizing settings with
  | nil => rfl
  | cons write writes ih =>
    obtain ⟨key, value⟩ := write
    rw [Settings.writeAll]
    split
    · rw [ih]
      cases key <;> rfl
    · rfl

/-- What `reconnect_resize` leaves alone. -/
theorem reconnectResize_spec (st : State) (request : ResizeRequest) (answers : ReconnectAnswers) :
    let t := (reconnectResize st request answers).1
    t.shared = st.shared ∧ t.batch = st.batch ∧ t.nextSerial = st.nextSerial ∧
      t.bridge.pendingResize = st.bridge.pendingResize ∧
      t.bridge.pendingReconnect = st.bridge.pendingReconnect ∧
      t.byReconnect = st.byReconnect := by
  have hegfx := writeAll_supportGraphicsPipeline answers.accepts st.settings
    (reconnectSizes request)
  unfold reconnectResize
  split
  · simp only
    split
    · split <;> exact ⟨rfl, rfl, rfl, rfl, rfl, by simp [State.byReconnect, hegfx]⟩
    · exact ⟨rfl, rfl, rfl, rfl, rfl, by simp [State.byReconnect, hegfx]⟩
  · exact ⟨rfl, rfl, rfl, rfl, rfl, rfl⟩

/-- A step of the event loop through a batch: the end of it all, or one
command. -/
theorem step_execute {s t : State} {accepted : Bool} {o : List Obs}
    (h : step s (.execute accepted) = some (t, o)) :
    s.finished = false ∧ ∃ command batch, s.batch = some (command :: batch) ∧
      ((command = .shutdown ∧ t = { s with batch := none, finished := true } ∧ o = []) ∨
        (command ≠ .shutdown ∧
          execute { s with batch := some batch } command accepted = (t, o))) := by
  simp only [step] at h
  split at h
  · exact absurd h (by simp)
  · rename_i hfinished
    refine ⟨by simpa using hfinished, ?_⟩
    split at h
    · rename_i batch hb
      obtain ⟨rfl, rfl⟩ := Prod.mk.inj (Option.some.inj h)
      exact ⟨_, batch, hb, .inl ⟨rfl, rfl, rfl⟩⟩
    · rename_i command batch hne hb
      exact ⟨command, batch, hb, .inr ⟨hne, Option.some.inj h⟩⟩
    · exact absurd h (by simp)

/-- A step of the event loop after a batch. -/
theorem step_due {s t : State} {answers : ReconnectAnswers} {o : List Obs}
    (h : step s (.due answers) = some (t, o)) :
    s.finished = false ∧ s.batch = some [] ∧ s.due answers = (t, o) := by
  simp only [step] at h
  split at h
  · exact absurd h (by simp)
  · rename_i hfinished
    split at h
    · rename_i hb
      exact ⟨by simpa using hfinished, hb, Option.some.inj h⟩
    · exact absurd h (by simp)

/-! ## Where a request can sit -/

/-- The places a request passes through, and the number of the next one. -/
structure Places where
  held : Option ResizeRequest
  debounced : Option ResizeRequest
  batch : List Command
  queue : List Command
  next : ℕ

/-- The places, read off a session. -/
def State.places (s : State) : Places where
  held := s.bridge.pendingResize
  debounced := s.bridge.pendingReconnect.map (·.request)
  batch := s.batch.getD []
  queue := s.shared.queue
  next := s.nextSerial

/-- The request that takes effect in what was observed. -/
def Obs.request : Obs → Option ResizeRequest
  | .layout request | .reconnect request => some request
  | .resizeReady _ _ => none

/-- What was observed, as far as a request took effect in it. -/
def effects (o : List Obs) : List Obs := o.filter (·.request.isSome)

/-- The requests that took effect. -/
def effected (o : List Obs) : List ResizeRequest := o.filterMap Obs.request

@[simp] theorem effected_nil : effected [] = [] := rfl

@[simp] theorem effected_effects (o : List Obs) : effected (effects o) = effected o := by
  induction o with
  | nil => rfl
  | cons x o ih =>
    unfold effected effects at ih ⊢
    cases hx : x.request with
    | none => simp only [List.filter_cons, List.filterMap_cons, hx]; simpa using ih
    | some request => simp only [List.filter_cons, List.filterMap_cons, hx]; simpa [hx] using ih

/-- What a step means for the requests. -/
inductive Label
  | quiet
  /-- A held request goes back on the queue. -/
  | requeued (request : ResizeRequest)
  /-- The event loop executes a request. -/
  | executed (request : ResizeRequest)
  deriving DecidableEq

/-- What the action means here. -/
def State.label (s : State) : Act → Label
  | .displayControlCaps disp _ _ _ =>
    if disp = Ptr.null then .quiet
    else match s.bridge.pendingResize with
      | some request => .requeued request
      | none => .quiet
  | .execute _ =>
    match s.batch with
    | some (.resize request :: _) => .executed request
    | _ => .quiet
  | _ => .quiet

/-- **How requests move.**  Every step of the session is one of these. -/
inductive Moved (s : State) : Label → Places → List Obs → Prop
  | quiet : Moved s .quiet s.places []
  | asked {request : ResizeRequest} : request.serial = s.nextSerial →
      Moved s .quiet { s.places with
        queue := s.places.queue ++ [.resize request], next := s.places.next + 1 } []
  | queued {command : Command} : command.request = none →
      Moved s .quiet { s.places with queue := s.places.queue ++ [command] } []
  | drained : s.places.batch = [] →
      Moved s .quiet { s.places with batch := s.places.queue, queue := [] } []
  | skipped {command : Command} {batch : List Command} : command.request = none →
      s.places.batch = command :: batch → Moved s .quiet { s.places with batch } []
  | stopped : Moved s .quiet { s.places with batch := [] } []
  | discarded {request : ResizeRequest} {batch : List Command} :
      s.places.batch = .resize request :: batch →
      (s.settings.same request = true ∨ s.byReconnect = false) →
      Moved s (.executed request) { s.places with batch } []
  | debounced {request : ResizeRequest} {batch : List Command} :
      s.places.batch = .resize request :: batch → s.settings.same request = false →
      s.byReconnect = true →
      Moved s (.executed request) { s.places with batch, debounced := some request } []
  | held {request : ResizeRequest} {batch : List Command} :
      s.places.batch = .resize request :: batch → s.settings.same request = false →
      s.byReconnect = false →
      Moved s (.executed request) { s.places with batch, held := some request } []
  | sent {request : ResizeRequest} {batch : List Command} :
      s.places.batch = .resize request :: batch → s.settings.same request = false →
      s.byReconnect = false →
      Moved s (.executed request) { s.places with batch } [.layout request]
  | performed {request : ResizeRequest} : s.places.debounced = some request →
      Moved s .quiet { s.places with debounced := none } [.reconnect request]
  | requeued {request : ResizeRequest} : s.places.held = some request →
      Moved s (.requeued request)
        { s.places with held := none, queue := s.places.queue ++ [.resize request] } []

theorem moved_execute {s t : State} {accepted : Bool} {o : List Obs}
    (h : step s (.execute accepted) = some (t, o)) :
    Moved s (s.label (.execute accepted)) t.places (effects o) := by
  obtain ⟨-, command, batch, hb, hcase⟩ := step_execute h
  have hplaces : s.places.batch = command :: batch := by simp [State.places, hb]
  rw [State.label, hb]
  rcases hcase with ⟨rfl, rfl, rfl⟩ | ⟨hne, hexec⟩
  · exact .stopped
  · cases command with
    | shutdown => exact absurd rfl hne
    | resize request =>
      have hspec := resize_spec { s with batch := some batch } request accepted
      have hr : resize { s with batch := some batch } request accepted = (t, o) := hexec
      rw [hr] at hspec
      cases hspec with
      | discarded hsame => exact .discarded hplaces (.inl hsame)
      | debounced hsame hroute => exact .debounced hplaces hsame hroute
      | held hsame hroute => exact .held hplaces hsame hroute
      | sent hsame hroute _ => exact .sent hplaces hsame hroute
      | dropped _ hroute => exact .discarded hplaces (.inr hroute)
    | _ =>
      obtain ⟨rfl, rfl⟩ := Prod.mk.inj hexec
      exact .skipped rfl hplaces

theorem moved_due {s : State} (answers : ReconnectAnswers) (hb : s.batch = some []) :
    Moved s .quiet (s.due answers).1.places (effects (s.due answers).2) := by
  unfold State.due
  cases hr : s.ready with
  | none =>
    have hplaces : State.places { s with batch := none } = s.places := by
      simp [State.places, hb]
    simp only
    rw [hplaces]
    exact .quiet
  | some pending =>
    have hp : s.bridge.pendingReconnect = some pending :=
      (Option.filter_eq_some_iff.1 hr).1
    have hdeb : s.places.debounced = some pending.request := by simp [State.places, hp]
    obtain ⟨hsh, hbatch, hnext, hheld, hpend, -⟩ := reconnectResize_spec
      { s with batch := none, bridge := { s.bridge with pendingReconnect := none } }
      pending.request answers
    have hplaces : State.places { (reconnectResize
        { s with batch := none, bridge := { s.bridge with pendingReconnect := none } }
        pending.request answers).1 with finished := !(reconnectResize
        { s with batch := none, bridge := { s.bridge with pendingReconnect := none } }
        pending.request answers).2 } = { s.places with debounced := none } := by
      simp only [State.places, hsh, hbatch, hnext, hheld, hpend, hb]
      rfl
    simp only
    rw [hplaces]
    exact .performed hdeb

/-- **Every step moves the requests in one of the listed ways.** -/
theorem moved_of_step {s t : State} {a : Act} {o : List Obs} (h : step s a = some (t, o)) :
    Moved s (s.label a) t.places (effects o) := by
  cases a with
  | execute accepted => exact moved_execute h
  | due answers =>
    obtain ⟨-, hb, hdue⟩ := step_due h
    have hmoved := moved_due answers hb
    rw [hdue] at hmoved
    exact hmoved
  | inputResize width height scalePercent =>
    obtain ⟨rfl, rfl⟩ := Prod.mk.inj (Option.some.inj h)
    exact .asked rfl
  | push command =>
    simp only [step] at h
    split at h
    · rename_i hother
      obtain ⟨rfl, rfl⟩ := Prod.mk.inj (Option.some.inj h)
      exact .queued hother
    · exact absurd h (by simp)
  | drain =>
    simp only [step] at h
    split at h
    · exact absurd h (by simp)
    · cases hb : s.batch with
      | some cs => rw [hb] at h; exact absurd h (by simp)
      | none =>
        rw [hb] at h
        obtain ⟨rfl, rfl⟩ := Prod.mk.inj (Option.some.inj h)
        exact .drained (by simp [State.places, hb])
  | ended =>
    simp only [step] at h
    split at h
    · obtain ⟨rfl, rfl⟩ := Prod.mk.inj (Option.some.inj h)
      exact .quiet
    · exact absurd h (by simp)
  | displayControlCaps disp maxMonitors areaFactorA areaFactorB =>
    simp only [step, displayControlCaps, Option.some.injEq] at h
    simp only [State.label]
    split at h
    · rename_i hnull
      obtain ⟨rfl, rfl⟩ := Prod.mk.inj h
      rw [if_pos hnull]
      exact .quiet
    · rename_i hnull
      rw [if_neg hnull]
      cases hp : s.bridge.pendingResize with
      | none =>
        rw [hp] at h
        obtain ⟨rfl, rfl⟩ := Prod.mk.inj h
        have hobs : effects [Obs.resizeReady maxMonitors (areaFactorA * areaFactorB)] = [] := rfl
        rw [hobs]
        have hquiet := Moved.quiet (s := s)
        simpa [State.places, hp] using hquiet
      | some request =>
        rw [hp] at h
        obtain ⟨rfl, rfl⟩ := Prod.mk.inj h
        exact .requeued hp
  | channelConnected pInterface =>
    cases pInterface <;>
      (obtain ⟨rfl, rfl⟩ := Prod.mk.inj (Option.some.inj h); exact .quiet)
  | serverApply =>
    simp only [step] at h
    split at h
    · exact absurd h (by simp)
    · obtain ⟨rfl, rfl⟩ := Prod.mk.inj (Option.some.inj h)
      exact .quiet
  | _ =>
    obtain ⟨rfl, rfl⟩ := Prod.mk.inj (Option.some.inj h)
    exact .quiet

/-! ## The route does not go back -/

theorem byReconnect_execute (s : State) (command : Command) (accepted : Bool) :
    (execute s command accepted).1.byReconnect = s.byReconnect := by
  cases command with
  | resize request =>
    have hspec := resize_spec s request accepted
    simp only [execute]
    generalize resize s request accepted = r at hspec ⊢
    obtain ⟨t, o⟩ := r
    cases hspec <;> rfl
  | _ => rfl

theorem byReconnect_due (s : State) (answers : ReconnectAnswers) :
    (s.due answers).1.byReconnect = s.byReconnect := by
  unfold State.due
  split
  · rfl
  · exact (reconnectResize_spec _ _ answers).2.2.2.2.2

/-- **A session that resizes by reconnecting does so to its end.** -/
theorem byReconnect_of_step {s t : State} {a : Act} {o : List Obs}
    (h : step s a = some (t, o)) (hr : s.byReconnect = true) : t.byReconnect = true := by
  cases a with
  | execute accepted =>
    obtain ⟨-, command, batch, -, ⟨-, rfl, -⟩ | ⟨-, hexec⟩⟩ := step_execute h
    · exact hr
    · have hroute := byReconnect_execute { s with batch := some batch } command accepted
      rw [hexec] at hroute
      exact hroute.trans hr
  | due answers =>
    obtain ⟨-, -, hdue⟩ := step_due h
    have hroute := byReconnect_due s answers
    rw [hdue] at hroute
    exact hroute.trans hr
  | audioNegotiated =>
    obtain ⟨rfl, rfl⟩ := Prod.mk.inj (Option.some.inj h)
    exact (Bool.and_eq_true_iff.2 ⟨(Bool.and_eq_true_iff.1 hr).1, rfl⟩)
  | push command =>
    simp only [step] at h
    split at h
    · obtain ⟨rfl, rfl⟩ := Prod.mk.inj (Option.some.inj h)
      exact hr
    · exact absurd h (by simp)
  | drain =>
    simp only [step] at h
    split at h
    · exact absurd h (by simp)
    · split at h
      · exact absurd h (by simp)
      · obtain ⟨rfl, rfl⟩ := Prod.mk.inj (Option.some.inj h)
        exact hr
  | ended =>
    simp only [step] at h
    split at h
    · obtain ⟨rfl, rfl⟩ := Prod.mk.inj (Option.some.inj h)
      exact hr
    · exact absurd h (by simp)
  | displayControlCaps disp maxMonitors areaFactorA areaFactorB =>
    simp only [step, displayControlCaps, Option.some.injEq] at h
    split at h
    · obtain ⟨rfl, rfl⟩ := Prod.mk.inj h
      exact hr
    · split at h <;> (obtain ⟨rfl, rfl⟩ := Prod.mk.inj h; exact hr)
  | channelConnected pInterface =>
    cases pInterface <;> (obtain ⟨rfl, rfl⟩ := Prod.mk.inj (Option.some.inj h); exact hr)
  | serverApply =>
    simp only [step] at h
    split at h
    · exact absurd h (by simp)
    · obtain ⟨rfl, rfl⟩ := Prod.mk.inj (Option.some.inj h)
      exact hr
  | _ =>
    obtain ⟨rfl, rfl⟩ := Prod.mk.inj (Option.some.inj h)
    exact hr

/-! ## What is recorded of a run -/

/-- The history of a session's resizes: the request most recently executed, and
the requests that took effect, in order. -/
structure Watch where
  executed : Option ResizeRequest
  effected : List ResizeRequest
  deriving DecidableEq

/-- Record one move. -/
def Watch.see (w : Watch) (m : Move State Act Obs) : Watch where
  executed := match m.src.label m.act with
    | .executed request => some request
    | _ => w.executed
  effected := w.effected ++ Resize.effected m.out

abbrev Watched := State × Watch

/-- The machine with that record as its history variable. -/
def watched (settings : Settings) : Machine Watched Act Obs :=
  (machine settings).observe ⟨none, []⟩ Watch.see

/-- **One step of the watched session**: how the requests moved, that the route
did not go back, and what was recorded. -/
theorem watched_step {settings : Settings} {s t : Watched} {a : Act} {o : List Obs}
    (h : (watched settings).step s a = some (t, o)) :
    Moved s.1 (s.1.label a) t.1.places (effects o) ∧
      (s.1.byReconnect = true → t.1.byReconnect = true) ∧
      (t.2.executed = match s.1.label a with
        | .executed request => some request
        | _ => s.2.executed) ∧
      t.2.effected = s.2.effected ++ effected (effects o) := by
  obtain ⟨hstep, hsee⟩ := Machine.observe_step.1 h
  refine ⟨moved_of_step hstep, byReconnect_of_step hstep, ?_, ?_⟩
  · rw [hsee]
    rfl
  · rw [hsee, effected_effects]
    rfl

/-- Only a session that resizes by reconnecting has a reconnect pending. -/
def RouteKept (s : Watched) : Prop :=
  s.1.places.debounced ≠ none → s.1.byReconnect = true

theorem RouteKept.step {settings : Settings} {s t : Watched} {a : Act} {o : List Obs}
    (hI : RouteKept s) (hs : (watched settings).step s a = some (t, o)) : RouteKept t := by
  obtain ⟨hmoved, hmono, -, -⟩ := watched_step hs
  intro hne
  generalize hp : t.1.places = p at hmoved hne
  generalize s.1.label a = label at hmoved
  generalize effects o = eff at hmoved
  cases hmoved with
  | debounced _ _ hroute => exact hmono hroute
  | performed _ => exact absurd rfl hne
  | _ => exact hmono (hI hne)

/-- On the layout route nothing is pending. -/
theorem RouteKept.debounced_eq_none {s : Watched} (hI : RouteKept s)
    (hr : s.1.byReconnect = false) : s.1.places.debounced = none := by
  by_contra hne
  rw [hI hne] at hr
  exact absurd hr (by simp)

end Resize
end FreerdpPrebuilt
