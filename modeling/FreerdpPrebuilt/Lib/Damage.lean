import Mathlib.Data.Set.Basic

/-!
# A copy that follows a picture by its damage

A picture is drawn on, and a copy of it is brought up to date from time to time.
What has been drawn since is the **damage**: a set of places, copied and then
forgotten.  A copy that could not be made is a set of places too, the **lost**
ones.

`Follows` is what this keeps: at every place of the picture the copy has what the
picture has, or the place is damaged, or it was lost, or nobody has drawn there
since the copy was begun.

* `Follows.draw` — drawing keeps it, if what changes is recorded as damage.
* `Follows.flush` — so does copying the damage and forgetting it.
* `Follows.lose` — and forgetting it without a copy, if it is noted as lost.
-/

namespace Damage

variable {P V : Type*} {places pending pending' lost lost' : Set P}
  {base picture picture' copy copy' : P → V}

/-- The copy follows the picture, but for the damage and what was lost.  `base` is
the picture as it was when the copy was begun. -/
def Follows (places : Set P) (base picture copy : P → V) (pending lost : Set P) : Prop :=
  ∀ p ∈ places, copy p = picture p ∨ p ∈ pending ∨ p ∈ lost ∨ picture p = base p

/-- A copy is begun. -/
theorem follows_begin (places : Set P) (picture copy : P → V) (pending lost : Set P) :
    Follows places picture picture copy pending lost :=
  fun _ _ => .inr (.inr (.inr rfl))

/-- What changes is damaged, and what was damaged stays so. -/
theorem Follows.draw (h : Follows places base picture copy pending lost)
    (hgathers : ∀ p ∈ places, p ∈ pending → p ∈ pending')
    (hconfined : ∀ p ∈ places, p ∉ pending' → picture' p = picture p) :
    Follows places base picture' copy pending' lost := by
  intro p hp
  by_cases hdamaged : p ∈ pending'
  · exact .inr (.inl hdamaged)
  · rw [hconfined p hp hdamaged]
    rcases h p hp with hcopy | hpending | hlost | hbase
    · exact .inl hcopy
    · exact absurd (hgathers p hp hpending) hdamaged
    · exact .inr (.inr (.inl hlost))
    · exact .inr (.inr (.inr hbase))

/-- The damage is copied, and nothing else changes but to what the picture has. -/
theorem Follows.flush (h : Follows places base picture copy pending lost)
    (hcopied : ∀ p ∈ places, p ∈ pending → copy' p = picture p)
    (helse : ∀ p ∈ places, copy' p = copy p ∨ copy' p = picture p) :
    Follows places base picture copy' pending' lost := by
  intro p hp
  rcases h p hp with hcopy | hpending | hlost | hbase
  · rcases helse p hp with hsame | hnew
    · exact .inl (hsame.trans hcopy)
    · exact .inl hnew
  · exact .inl (hcopied p hp hpending)
  · exact .inr (.inr (.inl hlost))
  · exact .inr (.inr (.inr hbase))

/-- The damage is forgotten, and what was of it is lost. -/
theorem Follows.lose (h : Follows places base picture copy pending lost)
    (hpending : ∀ p ∈ places, p ∈ pending → p ∈ lost') (hlost : lost ⊆ lost') :
    Follows places base picture copy pending' lost' := by
  intro p hp
  rcases h p hp with hcopy | hdamaged | hgone | hbase
  · exact .inl hcopy
  · exact .inr (.inr (.inl (hpending p hp hdamaged)))
  · exact .inr (.inr (.inl (hlost hgone)))
  · exact .inr (.inr (.inr hbase))

/-- What is lost stays so. -/
theorem Follows.mono (h : Follows places base picture copy pending lost) (hlost : lost ⊆ lost') :
    Follows places base picture copy pending lost' := by
  intro p hp
  rcases h p hp with hcopy | hdamaged | hgone | hbase
  · exact .inl hcopy
  · exact .inr (.inl hdamaged)
  · exact .inr (.inr (.inl (hlost hgone)))
  · exact .inr (.inr (.inr hbase))

end Damage
