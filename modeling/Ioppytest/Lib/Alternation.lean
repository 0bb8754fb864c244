import Mathlib.Data.List.Basic

/-!
# Alternating logs

Some entries of a log open an interval, some close one, and the others do neither. A log alternates
if no interval is opened while one is open. Both notions are computed from the left, so that a log
that grows at its end is judged by what is appended.
-/

namespace Alternation

variable {α : Type}

/-- Whether an interval is open after a log. The mark of an entry is `true` if it opens one and
`false` if it closes one. -/
def isOpen (mark : α → Option Bool) (before : Bool) (log : List α) : Bool :=
  log.foldl (fun opened entry => (mark entry).getD opened) before

/-- No interval is opened while one is open. -/
def Alternates (mark : α → Option Bool) : Bool → List α → Prop
  | _, [] => True
  | opened, entry :: rest =>
    (mark entry = some true → opened = false) ∧ Alternates mark ((mark entry).getD opened) rest

/-- Alternation is decided entry by entry. -/
instance decidableAlternates (mark : α → Option Bool) :
    (opened : Bool) → (log : List α) → Decidable (Alternates mark opened log)
  | _, [] => inferInstanceAs (Decidable True)
  | opened, entry :: rest =>
    have := decidableAlternates mark ((mark entry).getD opened) rest
    inferInstanceAs (Decidable (_ ∧ _))

/-- Entries that open and close nothing. -/
def Quiet (mark : α → Option Bool) (log : List α) : Prop := ∀ entry ∈ log, mark entry = none

variable {mark : α → Option Bool} {opened : Bool} {log first second : List α}

/-- What is open after two parts of a log. -/
theorem isOpen_append :
    isOpen mark opened (first ++ second) = isOpen mark (isOpen mark opened first) second :=
  List.foldl_append

/-- A log alternates if its first part does and the second part does from there. -/
theorem alternates_append :
    Alternates mark opened (first ++ second) ↔
      Alternates mark opened first ∧ Alternates mark (isOpen mark opened first) second := by
  induction first generalizing opened with
  | nil => simp [Alternates, isOpen]
  | cons entry rest ih =>
    have later : Alternates mark ((mark entry).getD opened) (rest ++ second) ↔ _ := ih
    exact (and_congr_right fun _ => later).trans and_assoc.symm

/-- Quiet entries leave an interval as it is. -/
theorem Quiet.isOpen (quiet : Quiet mark log) : isOpen mark opened log = opened := by
  induction log with
  | nil => rfl
  | cons entry rest ih =>
    have here := quiet entry List.mem_cons_self
    have later := ih fun other member => quiet other (List.mem_cons_of_mem _ member)
    rw [Alternation.isOpen, List.foldl_cons, here]
    exact later

/-- Quiet entries alternate. -/
theorem Quiet.alternates (quiet : Quiet mark log) : Alternates mark opened log := by
  induction log with
  | nil => trivial
  | cons entry rest ih =>
    have here := quiet entry List.mem_cons_self
    refine ⟨fun opens => ?_, ?_⟩
    · rw [here] at opens
      cases opens
    · rw [here]
      exact ih fun other member => quiet other (List.mem_cons_of_mem _ member)

/-- A log alternates exactly when at each opening entry no interval is open. -/
theorem alternates_iff :
    Alternates mark opened log ↔ ∀ before entry after, log = before ++ entry :: after →
      mark entry = some true → isOpen mark opened before = false := by
  constructor
  · rintro alternates before entry after rfl opens
    exact (alternates_append.mp alternates).2.1 opens
  · intro apart
    induction log generalizing opened with
    | nil => trivial
    | cons entry rest ih =>
      refine ⟨fun opens => apart [] entry rest rfl opens, ih fun before other after split opens => ?_⟩
      have inside : entry :: rest = (entry :: before) ++ other :: after := by
        rw [split]
        rfl
      exact apart (entry :: before) other after inside opens

end Alternation
