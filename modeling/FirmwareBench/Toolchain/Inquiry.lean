set_option autoImplicit false

/-!
# Questions to the host

What a tool contributes, and whether it is there at all, can hang on the programs of the host. An
inquiry states the questions and how the answers are used, apart from the host that answers: a
detector is asked with a list of program names and gives the first one that is there.
-/

namespace FirmwareBench

/-- Answers a list of program names with the first one found on the host. -/
abbrev Detector := List String → Option String

/-- Questions to the host, and what follows from the answers. -/
structure Inquiry (α : Type) where
  /-- The program names of each question, one question after the other. -/
  questions : List (List String)
  /-- The conclusion from the answers, which are in the order of the questions. -/
  conclude : List (Option String) → α

namespace Inquiry

variable {α : Type}

/-- An inquiry that needs no answer. -/
def settled (a : α) : Inquiry α := ⟨[], fun _ => a⟩

/-- An inquiry whether one of some questions has a program for an answer. -/
def whether (questions : List (List String)) : Inquiry Bool := ⟨questions, (·.any Option.isSome)⟩

/-- The conclusion on a host. -/
def ask (i : Inquiry α) (detect : Detector) : α := i.conclude (i.questions.map detect)

@[simp] theorem ask_settled (a : α) (detect : Detector) : (settled a).ask detect = a := rfl

theorem ask_whether (questions : List (List String)) (detect : Detector) :
    (whether questions).ask detect = questions.any fun names => (detect names).isSome := by
  simp [ask, whether, List.any_map, Function.comp_def]

end Inquiry

end FirmwareBench
