import Ioppytest.Lib.PyString

/-!
# Paths

Relative names keep apart under a directory.
-/

namespace PyString

/-- The name does not lead away from a directory. -/
def Relative (name : String) : Prop := name.toList.head? ≠ some '/'

/-- A name is relative unless it begins with a slash. -/
instance (name : String) : Decidable (Relative name) := inferInstanceAs (Decidable (_ ≠ _))

/-- A relative name stays one with an ending. -/
theorem Relative.append {name ending : String} (relative : Relative name)
    (plain : Relative ending) : Relative (name ++ ending) := by
  unfold Relative at *
  rw [String.toList_append]
  cases letters : name.toList with
  | nil => exact plain
  | cons first rest =>
    rw [letters] at relative
    exact relative

/-- Relative names lead to different paths. -/
theorem joinPath_inj {dir first second : String} (relative : Relative first)
    (alike : Relative second) (same : joinPath dir first = joinPath dir second) :
    first = second := by
  have letters := congrArg String.toList same
  unfold joinPath at letters
  rw [if_neg relative, if_neg alike] at letters
  apply String.toList_inj.mp
  split at letters
  · simpa only [String.toList_append, List.append_right_inj] using letters
  · simpa only [String.toList_append, List.append_assoc, List.append_right_inj] using letters

/-- Names with endings of one length have the same ending. -/
theorem ending_eq {first second left right : String}
    (length : left.toList.length = right.toList.length) (same : first ++ left = second ++ right) :
    first = second ∧ left = right := by
  have letters := congrArg String.toList same
  rw [String.toList_append, String.toList_append] at letters
  have parts := List.append_inj' letters length
  exact ⟨String.toList_inj.mp parts.1, String.toList_inj.mp parts.2⟩

/-- A name ends as its ending does. -/
theorem getLast?_ending (name : String) {ending : String} {c : Char}
    (ends : ending.toList.getLast? = some c) : (name ++ ending).toList.getLast? = some c := by
  rw [String.toList_append, List.getLast?_append, ends, Option.some_or]

/-- Names that end in different characters are different. -/
theorem ne_of_getLast {first second : String} {c d : Char} (ends : first.toList.getLast? = some c)
    (others : second.toList.getLast? = some d) (apart : c ≠ d) : first ≠ second := by
  rintro rfl
  exact apart (Option.some.inj (ends.symm.trans others))

end PyString
