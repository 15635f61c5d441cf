import FreerdpPrebuilt.Resize.Places

/-!
# A reconnect is for the newest request

`pending_reconnect` is superseded by every newer size, so that the reconnect
which runs after the debounce is for the request most recently executed.
`resize` breaks it where it returns early: a request for the desktop already on
screen leaves an older reconnect pending (`dragged_back_reconnects`).
`reconnect_is_newest` says that this is the only way.
-/

namespace FreerdpPrebuilt
namespace Resize

open Labelled

/-- The reconnect pending, if there is one, is for the request most recently
executed. -/
def pendingIsNewest (s : Watched) : Bool :=
  s.1.places.debounced.all fun request => s.2.executed.map (·.args) == some request.args

/-- Every reconnect the move performs is for the request most recently
executed. -/
def reconnectsNewest (m : Move Watched Act Obs) : Bool :=
  m.out.all fun
    | .reconnect request => m.src.2.executed.map (·.args) == some request.args
    | _ => true

/-- The early return of `resize` leaves an older request pending: the request
executed is for the desktop already on screen, and another one waits out its
debounce. -/
def leavesOlderPending (m : Move Watched Act Obs) : Bool :=
  match m.src.1.label m.act with
  | .executed request => m.src.1.settings.same request &&
      m.src.1.places.debounced.any fun pending => pending.args != request.args
  | _ => false

/-- **The pending request stays the newest** through every move that does not
return early over an older one. -/
theorem pendingIsNewest_step {settings : Settings} {s t : Watched} {a : Act} {o : List Obs}
    (hroute : RouteKept s) (hI : pendingIsNewest s = true)
    (hs : (watched settings).step s a = some (t, o))
    (hg : leavesOlderPending ⟨s, a, o, t⟩ = false) : pendingIsNewest t = true := by
  obtain ⟨hmoved, -, hexec, -⟩ := watched_step hs
  unfold pendingIsNewest at hI ⊢
  unfold leavesOlderPending at hg
  simp only at hg
  generalize t.1.places = p at hmoved ⊢
  generalize s.1.label a = label at hmoved hexec hg
  generalize effects o = eff at hmoved
  cases hmoved with
  | @discarded request batch _ hwhy =>
    rw [hexec]
    rcases hwhy with hsame | hlayout
    · simp only [hsame, Bool.true_and] at hg
      cases hd : s.1.places.debounced with
      | none => rfl
      | some pending =>
        have hargs : pending.args = request.args := by simpa [hd] using hg
        simp [hargs]
    · simp [hroute.debounced_eq_none hlayout]
  | debounced _ _ _ => rw [hexec]; simp
  | held _ _ hlayout => simp [hroute.debounced_eq_none hlayout]
  | sent _ _ hlayout => simp [hroute.debounced_eq_none hlayout]
  | performed _ => rfl
  | _ => rw [hexec]; exact hI

/-- An early return over an older request leaves it pending, and not the
newest. -/
theorem not_pendingIsNewest_of_leaves {settings : Settings} {s t : Watched} {a : Act}
    {o : List Obs} (hs : (watched settings).step s a = some (t, o))
    (hl : leavesOlderPending ⟨s, a, o, t⟩ = true) : pendingIsNewest t = false := by
  obtain ⟨hmoved, -, hexec, -⟩ := watched_step hs
  unfold pendingIsNewest
  unfold leavesOlderPending at hl
  simp only at hl
  generalize t.1.places = p at hmoved ⊢
  generalize s.1.label a = label at hmoved hexec hl
  generalize effects o = eff at hmoved
  cases hmoved with
  | @discarded request batch _ _ =>
    rw [hexec]
    obtain ⟨-, hany⟩ := Bool.and_eq_true_iff.1 hl
    cases hd : s.1.places.debounced with
    | none => simp [hd] at hany
    | some pending =>
      have hargs : pending.args ≠ request.args := by simpa [hd] using hany
      simpa using hargs.symm
  | debounced _ hsame _ => simp [hsame] at hl
  | held _ hsame _ => simp [hsame] at hl
  | sent _ hsame _ => simp [hsame] at hl
  | _ => exact absurd hl (by simp)

/-- What a move performs was pending. -/
theorem debounced_of_reconnect {settings : Settings} {s t : Watched} {a : Act} {o : List Obs}
    (hs : (watched settings).step s a = some (t, o)) {request : ResizeRequest}
    (ho : .reconnect request ∈ o) : s.1.places.debounced = some request := by
  obtain ⟨hmoved, -, -, -⟩ := watched_step hs
  have hmem : Obs.reconnect request ∈ effects o := List.mem_filter.2 ⟨ho, rfl⟩
  generalize t.1.places = p at hmoved
  generalize s.1.label a = label at hmoved
  generalize effects o = eff at hmoved hmem
  cases hmoved with
  | performed hdeb =>
    obtain rfl : request = _ := by simpa using hmem
    exact hdeb
  | sent _ _ _ => exact absurd hmem (by simp)
  | _ => exact absurd hmem List.not_mem_nil

/-- A pending request that is the newest is performed as the newest. -/
theorem reconnectsNewest_of_step {settings : Settings} {s t : Watched} {a : Act} {o : List Obs}
    (hI : pendingIsNewest s = true) (hs : (watched settings).step s a = some (t, o)) :
    reconnectsNewest ⟨s, a, o, t⟩ = true := by
  refine List.all_eq_true.2 fun x hx => ?_
  cases x with
  | reconnect request =>
    have hdeb := debounced_of_reconnect hs hx
    simpa [pendingIsNewest, hdeb] using hI
  | _ => rfl

/-- **A reconnect is for the newest request, unless an early return leaves an
older one pending.**  In a run without such a return every reconnect performed
is for the most recently executed request; and the reconnect pending is for that
request in every state reached exactly when there is no such return. -/
theorem reconnect_is_newest {settings : Settings} {h : List (Move Watched Act Obs)} {s : Watched}
    (hr : (watched settings).Run h s) :
    ((∀ m ∈ h, leavesOlderPending m = false) → ∀ m ∈ h, reconnectsNewest m = true) ∧
      ((∀ m ∈ h, pendingIsNewest m.dst = true) ↔ ∀ m ∈ h, leavesOlderPending m = false) := by
  have hroute : ∀ m ∈ h, RouteKept m.src ∧ RouteKept m.dst :=
    hr.invariant_mem (fun hne => absurd rfl hne) fun _ _ _ _ hI hs => RouteKept.step hI hs
  have hkept : (∀ m ∈ h, leavesOlderPending m = false) →
      ∀ m ∈ h, pendingIsNewest m.src = true ∧ pendingIsNewest m.dst = true := by
    intro hnone m hm
    have hinv := hr.guarded (I := fun s => RouteKept s ∧ pendingIsNewest s = true)
      (g := fun m => leavesOlderPending m = false) ⟨fun hne => absurd rfl hne, rfl⟩
      (fun s a t o hI hs hg => ⟨hI.1.step hs, pendingIsNewest_step hI.1 hI.2 hs hg⟩) hnone
    exact ⟨(hinv.2 m hm).1.2, (hinv.2 m hm).2.2⟩
  refine ⟨fun hnone m hm => ?_, fun hall m hm => ?_, fun hnone m hm => (hkept hnone m hm).2⟩
  · exact reconnectsNewest_of_step (hkept hnone m hm).1 (hr.step_of_mem m hm)
  · by_contra hleaves
    have hbad := not_pendingIsNewest_of_leaves (hr.step_of_mem m hm)
      (Bool.not_eq_false _ ▸ hleaves)
    rw [hall m hm] at hbad
    exact absurd hbad (by simp)

/-- A desktop of 1024 by 768 at 100 %, without the graphics pipeline. -/
def legacyDesktop : Settings := ⟨1024, 768, 100, 100, false⟩

/-- One round of the event loop over a queue of one command, none of it due. -/
def executeOne : List Act := [.drain, .execute true, .due ⟨false, fun _ => false, none, false⟩]

/-- A round over an empty queue, with a reconnect that succeeds at this size. -/
def reconnectAt (width height : ℕ) : List Act :=
  [.drain, .due ⟨true, fun _ => true, some (width, height), true⟩]

/-- One request, and the debounce. -/
def debounceActs : List Act :=
  [.audioNegotiated, .inputResize 800 600 100] ++ executeOne ++ [.tick 300] ++ reconnectAt 800 600

/-- The law kept, on one request that waits out its debounce. -/
theorem reconnect_is_newest_debounced : ∃ h s, (watched legacyDesktop).Run h s ∧
    (∃ m ∈ h, m.out = [.reconnect ⟨800, 600, 100, 0⟩]) ∧ ∀ m ∈ h, reconnectsNewest m = true := by
  have hrun := (watched legacyDesktop).run_get debounceActs (by decide)
  exact ⟨_, _, hrun, by decide, (reconnect_is_newest hrun).1 (by decide)⟩

/-- A window dragged to another size and back within the debounce. -/
def dragActs : List Act :=
  [.audioNegotiated, .inputResize 800 600 100] ++ executeOne ++
    [.tick 100, .inputResize 1024 768 100] ++ executeOne ++ [.tick 200] ++ reconnectAt 800 600

/-- **Dragged out and back, the session reconnects at the size in between.** -/
theorem dragged_back_reconnects : ∃ h s, (watched legacyDesktop).Run h s ∧
    ∃ m ∈ h, m.out = [.reconnect ⟨800, 600, 100, 0⟩] ∧
      m.src.2.executed = some ⟨1024, 768, 100, 1⟩ := by
  have hrun := (watched legacyDesktop).run_get dragActs (by decide)
  exact ⟨_, _, hrun, by decide⟩

end Resize
end FreerdpPrebuilt
