import FreerdpPrebuilt.Resize.Places

/-!
# Requests take effect in the order they were made

All requests stand in one **line**, the pending reconnect before the drained
batch before the queue, and every step shortens the line, serves its front or
adds to its end (`shifted_of_step`).  What is added is a new request, or, when
`display_control_caps` finds one, the request held while the channel was not
ready.  That one may be older than others in the line, and takes effect after
them (`held_request_overtaken`).  `requests_take_effect_in_order` says that this
is the only way.
-/

namespace FreerdpPrebuilt
namespace Resize

open Labelled

/-- The requests a list of commands carries. -/
def requests (commands : List Command) : List ResizeRequest := commands.filterMap Command.request

@[simp] theorem requests_nil : requests [] = [] := rfl

@[simp] theorem requests_append (a b : List Command) :
    requests (a ++ b) = requests a ++ requests b := List.filterMap_append

@[simp] theorem requests_resize (request : ResizeRequest) (commands : List Command) :
    requests (.resize request :: commands) = request :: requests commands := rfl

theorem requests_other {command : Command} (h : command.request = none)
    (commands : List Command) : requests (command :: commands) = requests commands := by
  unfold requests
  rw [List.filterMap_cons, h]

/-- **The line**: every request that waits, in the order in which they will be
taken, but for one held. -/
def Places.line (p : Places) : List ResizeRequest :=
  p.debounced.toList ++ (requests p.batch ++ requests p.queue)

/-- The requests that took effect, and behind them the line. -/
def standing (s : Watched) : List ResizeRequest := s.2.effected ++ s.1.places.line

/-- Each was made before the next. -/
def InOrder (requests : List ResizeRequest) : Prop :=
  requests.Pairwise fun a b => a.serial < b.serial

instance (requests : List ResizeRequest) : Decidable (InOrder requests) :=
  inferInstanceAs (Decidable (List.Pairwise _ _))

/-- `display_control_caps` puts a held request back only when every request in
the line, and every one that took effect, was made before it. -/
def heldIsNewest (m : Move Watched Act Obs) : Bool :=
  match m.src.1.label m.act with
  | .requeued request => (standing m.src).all fun other => decide (other.serial < request.serial)
  | _ => true

/-- **The line is in order**, and every request anywhere has been numbered. -/
structure Ordered (s : Watched) : Prop where
  route : RouteKept s
  order : InOrder (standing s)
  numbered : ∀ request ∈ standing s ++ s.1.places.held.toList, request.serial < s.1.places.next

/-- What a step does to everything standing. -/
inductive Shifted (s : Watched) : Label → List ResizeRequest → Option ResizeRequest → ℕ → Prop
  /-- Some requests are given up; one of them may be held now. -/
  | lost {label : Label} {rest : List ResizeRequest} {held : Option ResizeRequest} :
      rest.Sublist (standing s) →
      (∀ request, held = some request →
        s.1.places.held = some request ∨ request ∈ standing s) →
      (∀ request, label ≠ .requeued request) → Shifted s label rest held s.1.places.next
  /-- A new request comes last. -/
  | asked {request : ResizeRequest} : request.serial = s.1.places.next →
      Shifted s .quiet (standing s ++ [request]) s.1.places.held (s.1.places.next + 1)
  /-- The held request comes last. -/
  | requeued {request : ResizeRequest} : s.1.places.held = some request →
      Shifted s (.requeued request) (standing s ++ [request]) none s.1.places.next

/-- **Every step loses part of what stands or adds one request at the end.** -/
theorem shifted_of_step {settings : Settings} {s t : Watched} {a : Act} {o : List Obs}
    (hroute : RouteKept s) (hs : (watched settings).step s a = some (t, o)) :
    Shifted s (s.1.label a) (standing t) t.1.places.held t.1.places.next := by
  obtain ⟨hmoved, -, -, heff⟩ := watched_step hs
  unfold standing
  rw [heff]
  generalize t.1.places = p at hmoved ⊢
  generalize s.1.label a = label at hmoved ⊢
  generalize effects o = eff at hmoved ⊢
  cases hmoved with
  | quiet =>
    refine .lost ?_ (fun _ h => .inl h) (by simp)
    simp [standing]
  | @asked request hserial =>
    have hlast : s.2.effected ++ effected [] ++ Places.line { s.1.places with
        queue := s.1.places.queue ++ [.resize request], next := s.1.places.next + 1 } =
        standing s ++ [request] := by
      simp [standing, Places.line]
    rw [hlast]
    exact .asked hserial
  | queued hc =>
    refine .lost ?_ (fun _ h => .inl h) (by simp)
    simp [standing, Places.line, requests_other hc]
  | drained hb =>
    refine .lost ?_ (fun _ h => .inl h) (by simp)
    simp [standing, Places.line, hb]
  | skipped hc hb =>
    refine .lost ?_ (fun _ h => .inl h) (by simp)
    simp [standing, Places.line, hb, requests_other hc]
  | stopped =>
    refine .lost ?_ (fun _ h => .inl h) (by simp)
    simp only [effected_nil, List.append_nil, Places.line, requests_nil, List.nil_append, standing]
    refine List.Sublist.append_left (List.Sublist.append_left ?_ _) _
    exact List.sublist_append_right _ _
  | discarded hb _ =>
    refine .lost ?_ (fun _ h => .inl h) (by simp)
    simp only [effected_nil, List.append_nil, Places.line, standing, hb, requests_resize]
    refine List.Sublist.append_left (List.Sublist.append_left ?_ _) _
    exact (List.sublist_cons_self _ _).append_right _
  | debounced hb _ _ =>
    refine .lost ?_ (fun _ h => .inl h) (by simp)
    simp only [effected_nil, List.append_nil, Places.line, standing, hb, requests_resize]
    refine List.Sublist.append_left ?_ _
    exact List.sublist_append_right _ _
  | @held request batch hb _ hlayout =>
    have hmem : request ∈ standing s := by simp [standing, Places.line, hb]
    refine .lost ?_ (fun r h => .inr ?_) (by simp)
    · simp only [effected_nil, List.append_nil, Places.line, standing, hb, requests_resize]
      refine List.Sublist.append_left (List.Sublist.append_left ?_ _) _
      exact (List.sublist_cons_self _ _).append_right _
    · rw [← Option.some.inj h]
      exact hmem
  | @sent request batch hb _ hlayout =>
    -- nothing is pending on this route, so the request was at the front
    have hnone := hroute.debounced_eq_none hlayout
    refine .lost ?_ (fun _ h => .inl h) (by simp)
    simp [standing, Places.line, hb, hnone, effected, Obs.request]
  | @performed request hd =>
    refine .lost ?_ (fun _ h => .inl h) (by simp)
    simp [standing, Places.line, hd, effected, Obs.request]
  | @requeued request hh =>
    have hlast : s.2.effected ++ effected [] ++ Places.line { s.1.places with
        held := none, queue := s.1.places.queue ++ [.resize request] } =
        standing s ++ [request] := by
      simp [standing, Places.line]
    rw [hlast]
    exact .requeued hh

/-- **The line stays in order** through every move that does not put a held
request behind newer ones. -/
theorem Ordered.step {settings : Settings} {s t : Watched} {a : Act} {o : List Obs}
    (hI : Ordered s) (hs : (watched settings).step s a = some (t, o))
    (hg : heldIsNewest ⟨s, a, o, t⟩ = true) : Ordered t := by
  have hshift := shifted_of_step hI.route hs
  have hroute := hI.route.step hs
  have hord := hI.order
  have hnum := hI.numbered
  unfold heldIsNewest at hg
  simp only at hg
  suffices h : InOrder (standing t) ∧ ∀ request ∈ standing t ++ t.1.places.held.toList,
      request.serial < t.1.places.next from ⟨hroute, h.1, h.2⟩
  clear hroute
  generalize standing t = rest at hshift ⊢
  generalize t.1.places.held = held at hshift ⊢
  generalize t.1.places.next = next at hshift ⊢
  generalize s.1.label a = label at hshift hg
  cases hshift with
  | lost hsub hheld _ =>
    refine ⟨hord.sublist hsub, fun request hm => ?_⟩
    rcases List.mem_append.1 hm with hm | hm
    · exact hnum _ (List.mem_append_left _ (hsub.subset hm))
    · rcases hheld request (Option.mem_toList.1 hm) with hold | hstood
      · exact hnum _ (List.mem_append_right _ (Option.mem_toList.2 hold))
      · exact hnum _ (List.mem_append_left _ hstood)
  | @asked fresh hserial =>
    refine ⟨List.pairwise_append.2 ⟨hord, List.pairwise_singleton _ _, ?_⟩, fun request hm => ?_⟩
    · intro a ha b hb
      have hlt := hnum a (List.mem_append_left _ ha)
      rw [List.mem_singleton.1 hb]
      omega
    · rcases List.mem_append.1 hm with hm | hm
      · rcases List.mem_append.1 hm with hm | hm
        · have hlt := hnum request (List.mem_append_left _ hm)
          omega
        · rw [List.mem_singleton.1 hm]
          omega
      · have hlt := hnum request (List.mem_append_right _ hm)
        omega
  | @requeued held hheld =>
    have hlast : held.serial < s.1.places.next :=
      hnum held (List.mem_append_right _ (Option.mem_toList.2 hheld))
    refine ⟨List.pairwise_append.2 ⟨hord, List.pairwise_singleton _ _, ?_⟩, fun request hm => ?_⟩
    · intro a ha b hb
      rw [List.mem_singleton.1 hb]
      simpa using List.all_eq_true.1 hg a ha
    · rcases List.mem_append.1 hm with hm | hm
      · rcases List.mem_append.1 hm with hm | hm
        · exact hnum request (List.mem_append_left _ hm)
        · rw [List.mem_singleton.1 hm]
          exact hlast
      · exact absurd hm List.not_mem_nil

theorem ordered_start (settings : Settings) : Ordered (watched settings).init where
  route := fun hne => absurd rfl hne
  order := List.Pairwise.nil
  numbered := fun _ hm => absurd hm List.not_mem_nil

/-- A held request put behind a newer one leaves the line out of order. -/
theorem heldIsNewest_of_inOrder {settings : Settings} {s t : Watched} {a : Act} {o : List Obs}
    (hroute : RouteKept s) (hs : (watched settings).step s a = some (t, o))
    (ht : InOrder (standing t)) : heldIsNewest ⟨s, a, o, t⟩ = true := by
  have hshift := shifted_of_step hroute hs
  unfold heldIsNewest
  simp only
  generalize standing t = rest at hshift ht
  generalize t.1.places.held = held at hshift
  generalize t.1.places.next = next at hshift
  generalize s.1.label a = label at hshift ⊢
  cases hshift with
  | lost _ _ hne =>
    split
    · exact absurd rfl (hne _)
    · rfl
  | asked _ => rfl
  | requeued _ =>
    obtain ⟨-, -, hlast⟩ := List.pairwise_append.1 ht
    refine List.all_eq_true.2 fun other ho => ?_
    simpa using hlast other ho _ (List.mem_singleton_self _)

/-- What a run records as effected is what its moves showed. -/
theorem effected_eq {settings : Settings} {h : List (Move Watched Act Obs)} {s : Watched}
    (hr : (watched settings).Run h s) : s.2.effected = h.flatMap fun m => effected m.out := by
  induction hr with
  | nil => rfl
  | snoc _ hs ih =>
    rw [(watched_step hs).2.2.2, ih, List.flatMap_append, effected_effects]
    simp

/-- **Requests take effect in the order they were made, unless a held one is put
back behind newer ones.**  In a run in which every request put back is newer
than all that stand, the layouts sent and the reconnects performed come in the
order of the calls of `Input::resize`; and everything stands in that order in
every state reached exactly when every request put back is the newest. -/
theorem requests_take_effect_in_order {settings : Settings} {h : List (Move Watched Act Obs)}
    {s : Watched} (hr : (watched settings).Run h s) :
    ((∀ m ∈ h, heldIsNewest m = true) → InOrder (h.flatMap fun m => effected m.out)) ∧
      ((∀ m ∈ h, InOrder (standing m.dst)) ↔ ∀ m ∈ h, heldIsNewest m = true) := by
  have hroute : ∀ m ∈ h, RouteKept m.src ∧ RouteKept m.dst :=
    hr.invariant_mem (fun hne => absurd rfl hne) fun _ _ _ _ hI hs => RouteKept.step hI hs
  have hkept := hr.guarded (g := fun m => heldIsNewest m = true) (ordered_start settings)
    fun s a t o hI hs hg => Ordered.step hI hs hg
  refine ⟨fun hall => ?_, fun hall m hm => ?_, fun hall m hm => ((hkept hall).2 m hm).2.order⟩
  · have hord := (hkept hall).1.order
    rw [← effected_eq hr]
    exact hord.sublist (List.sublist_append_left _ _)
  · exact heldIsNewest_of_inOrder (hroute m hm).1 (hr.step_of_mem m hm) (hall m hm)

/-- A request held until the channel is ready, and another one after it. -/
def holdActs : List Act :=
  [.inputResize 800 600 100, .drain, .execute true, .due ⟨false, fun _ => false, none, false⟩,
    .channelConnected (some ⟨true⟩), .displayControlCaps 1 1 8192 8192,
    .inputResize 1280 720 100, .drain, .execute true, .execute true]

/-- A desktop of 1024 by 768 at 100 %, on the graphics pipeline. -/
def egfxDesktop : Settings := ⟨1024, 768, 100, 100, true⟩

/-- The law kept, on a request held and sent before the next one is made. -/
theorem requests_take_effect_in_order_held : ∃ h s, (watched egfxDesktop).Run h s ∧
    (h.flatMap fun m => effected m.out) = [⟨800, 600, 100, 0⟩, ⟨1280, 720, 100, 1⟩] ∧
    InOrder (h.flatMap fun m => effected m.out) := by
  have hrun := (watched egfxDesktop).run_get holdActs (by decide)
  exact ⟨_, _, hrun, by decide, (requests_take_effect_in_order hrun).1 (by decide)⟩

/-- A request held until the channel is ready, with another one queued by
then. -/
def overtakenActs : List Act :=
  [.inputResize 800 600 100, .drain, .execute true, .due ⟨false, fun _ => false, none, false⟩,
    .channelConnected (some ⟨true⟩), .inputResize 1280 720 100,
    .displayControlCaps 1 1 8192 8192, .drain, .execute true, .execute true]

/-- **The held request is sent after the one made after it**, and the server is
left at the older size. -/
theorem held_request_overtaken : ∃ h s, (watched egfxDesktop).Run h s ∧
    (h.flatMap fun m => effected m.out) = [⟨1280, 720, 100, 1⟩, ⟨800, 600, 100, 0⟩] ∧
    ¬ InOrder (h.flatMap fun m => effected m.out) := by
  have hrun := (watched egfxDesktop).run_get overtakenActs (by decide)
  exact ⟨_, _, hrun, by decide, by decide⟩

end Resize
end FreerdpPrebuilt
