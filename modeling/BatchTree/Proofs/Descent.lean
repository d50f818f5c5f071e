import BatchTree.Path.Basic

/-!
# Going down

A path other than the root is its parent, extended by one segment.  Existence and
child lists are all about this step, so its laws are gathered here.
-/

namespace BatchTree.Path

variable {path parent : Path}

theorem extend_ne_root (path : Path) (segment : Segment) : path.extend segment ≠ root := by
  intro same
  have missing : (path.extend segment).parent? = none := by rw [same, parent?_root]
  simp at missing

theorem isRoot_extend (path : Path) (segment : Segment) :
    (path.extend segment).isRoot = false := by
  rw [← Bool.not_eq_true, isRoot_iff]
  exact extend_ne_root path segment

theorem extend_inj {left right : Path} {first second : Segment} :
    left.extend first = right.extend second ↔ left = right ∧ first = second := by
  constructor
  · intro same
    have parents : some left = some right := by
      rw [← parent?_extend left first, same, parent?_extend]
    have names : first.name = second.name := by
      rw [← name_extend left first, same, name_extend]
    exact ⟨Option.some.inj parents, Segment.ext names⟩
  · rintro ⟨rfl, rfl⟩
    rfl

theorem extend_ne_self (path : Path) (segment : Segment) : path.extend segment ≠ path := by
  intro same
  have depths := congrArg depth same
  simp at depths

theorem parent?_eq_some_iff :
    path.parent? = some parent ↔ ∃ segment, path = parent.extend segment := by
  constructor
  · intro found
    rcases eq_root_or_extend path with rfl | ⟨above, segment, rfl⟩
    · cases found
    · rw [parent?_extend, Option.some.injEq] at found
      exact ⟨segment, by rw [found]⟩
  · rintro ⟨segment, rfl⟩
    exact parent?_extend parent segment

end BatchTree.Path
