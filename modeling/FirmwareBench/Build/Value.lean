set_option autoImplicit false

/-!
# Values of construction variables

A construction variable holds a text, a list of command-line items or an integer. Wherever a value
stands in a command it is displayed: a text as it is, the items of a list with one space between
them, an integer in decimal.
-/

namespace FirmwareBench

/-- The value of a construction variable. -/
inductive Value where
  /-- A text, taken as it is. -/
  | text (text : String)
  /-- Items of a command line. -/
  | items (items : List String)
  | number (n : Int)
deriving DecidableEq, Repr, Inhabited

namespace Value

/-- The text a value stands for in a command. -/
def display : Value → String
  | text t => t
  | items list => " ".intercalate list
  | number n => toString n

/-- The text of a text value; other values have none. -/
def asText? : Value → Option String
  | text t => some t
  | _ => none

@[simp] theorem display_text (t : String) : (text t).display = t := rfl

end Value

end FirmwareBench
