import Mathlib.Data.List.Basic

/-!
# Lifecycles in a trace

Some messages of a trace belong to a stage in the life of a subject. The stages of one subject come
in an order, and the lives of two subjects do not overlap. An observer follows the trace: it knows
whose life goes on and what stage was heard last, and it remembers whether a message was ever out
of order.
-/

namespace Lifecycle

/-- What the messages of a trace say about the lives of subjects. -/
structure Protocol (μ ι κ : Type) where
  /-- The stage that a message belongs to, and its subject. -/
  label : μ → Option (κ × ι)
  /-- The stages that may come next. -/
  stages : Option κ → List κ
  /-- The stage that ends a life. -/
  last : κ

/-- What an observer knows. -/
structure Course (ι κ : Type) where
  /-- Whose life goes on. -/
  subject : Option ι
  /-- The stage that was heard last. -/
  stage : Option κ := none
  /-- Nothing was out of order. -/
  ordered : Bool := true
  deriving DecidableEq

variable {μ ι κ : Type} [DecidableEq ι] [DecidableEq κ] {protocol : Protocol μ ι κ}
  {next : Option ι} {course : Course ι κ} {message : μ} {messages : List μ}

namespace Protocol

/-- Hear a message; `next` is the subject whose life begins when the present one ends. -/
def hear (protocol : Protocol μ ι κ) (next : Option ι) (course : Course ι κ) (message : μ) :
    Course ι κ :=
  match protocol.label message with
  | none => course
  | some (stage, subject) =>
    let ordered := course.ordered && course.subject == some subject &&
      (protocol.stages course.stage).contains stage
    if stage = protocol.last then ⟨next, none, ordered⟩ else ⟨course.subject, some stage, ordered⟩

/-- Hear messages one after the other. -/
def hearAll (protocol : Protocol μ ι κ) (next : Option ι) (course : Course ι κ)
    (messages : List μ) : Course ι κ :=
  messages.foldl (protocol.hear next) course

/-- Hearing nothing. -/
@[simp] theorem hearAll_nil : protocol.hearAll next course [] = course := rfl

/-- Hearing a message and then others. -/
@[simp] theorem hearAll_cons :
    protocol.hearAll next course (message :: messages) =
      protocol.hearAll next (protocol.hear next course message) messages := rfl

/-- Hearing some messages and then others. -/
@[simp] theorem hearAll_append (first second : List μ) :
    protocol.hearAll next course (first ++ second) =
      protocol.hearAll next (protocol.hearAll next course first) second := List.foldl_append

/-- Messages that belong to no stage are passed over. -/
theorem hearAll_quiet (quiet : ∀ message ∈ messages, protocol.label message = none) :
    protocol.hearAll next course messages = course := by
  induction messages with
  | nil => rfl
  | cons message rest ih =>
    have silent : protocol.hear next course message = course := by
      simp [hear, quiet message List.mem_cons_self]
    rw [hearAll_cons, silent]
    exact ih fun other member => quiet other (List.mem_cons_of_mem message member)

/-- What is out of order stays out of order. -/
theorem hearAll_disordered (disordered : course.ordered = false) :
    (protocol.hearAll next course messages).ordered = false := by
  induction messages generalizing course with
  | nil => exact disordered
  | cons message rest ih =>
    refine ih ?_
    unfold hear
    split
    · exact disordered
    · dsimp only
      split <;> simp [disordered]

/-- A stage that does not come next is out of order. -/
theorem hear_disordered {stage : κ} {subject : ι}
    (label : protocol.label message = some (stage, subject))
    (early : stage ∉ protocol.stages course.stage) :
    (protocol.hear next course message).ordered = false := by
  simp only [hear, label]
  split <;> simp [early]

variable (protocol next)

/-- A stage that comes next is in order. -/
theorem hear_ordered {stage : κ} {subject : ι}
    (label : protocol.label message = some (stage, subject))
    (ordered : course.ordered = true) (known : course.subject = some subject)
    (timely : stage ∈ protocol.stages course.stage) :
    protocol.hear next course message =
      if stage = protocol.last then ⟨next, none, true⟩ else ⟨some subject, some stage, true⟩ := by
  simp [hear, label, ordered, known, timely]

/-- So is one that is heard several times, if it may follow itself. -/
theorem hearAll_repeated {stage : κ} {subject : ι} (going : stage ≠ protocol.last)
    (labels : ∀ message ∈ messages, protocol.label message = some (stage, subject))
    (ordered : course.ordered = true) (known : course.subject = some subject)
    (timely : stage ∈ protocol.stages course.stage)
    (again : stage ∈ protocol.stages (some stage)) :
    protocol.hearAll next course messages = course ∨
      protocol.hearAll next course messages = ⟨some subject, some stage, true⟩ := by
  induction messages generalizing course with
  | nil => exact .inl rfl
  | cons message rest ih =>
    have heard : protocol.hear next course message = ⟨some subject, some stage, true⟩ := by
      rw [hear_ordered protocol next (labels message List.mem_cons_self) ordered known timely,
        if_neg going]
    have later : ∀ other ∈ rest, protocol.label other = some (stage, subject) :=
      fun other member => labels other (List.mem_cons_of_mem message member)
    rw [hearAll_cons, heard]
    exact .inr ((ih later rfl rfl again).elim id id)

end Protocol

end Lifecycle
