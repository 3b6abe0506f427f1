import FirmwareBench.Build.Error
set_option autoImplicit false

/-!
# Target boards

The boards and cores that firmware is built for, and their names.
-/

namespace FirmwareBench

/-- A board or core that firmware is built for. -/
inductive Board where
  | eh1
  | eh2
  | el2
  | hifive1
deriving DecidableEq, Repr

namespace Board

def all : List Board := [eh1, eh2, el2, hifive1]

def name : Board → String
  | eh1 => "eh1"
  | eh2 => "eh2"
  | el2 => "el2"
  | hifive1 => "hifive1"

/-- The title of a board in a listing for people. -/
def title : Board → String
  | eh1 => "Eh1"
  | eh2 => "Eh2"
  | el2 => "El2"
  | hifive1 => "Hifive1"

def ofName (name : String) : Except BuildError Board :=
  match all.find? (·.name == name) with
  | some board => .ok board
  | none => .error (.unknownBoard name)

theorem ofName_name (board : Board) : ofName board.name = .ok board := by cases board <;> rfl

end Board

end FirmwareBench
