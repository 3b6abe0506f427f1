set_option autoImplicit false

/-!
# Quoting for patterns

Characters with a meaning in patterns stand for themselves behind a backslash.
-/

namespace FirmwareBench.Pattern

/-- The characters that have a meaning of their own in a pattern or in a class. -/
def isMeta (c : Char) : Bool := "\\.+*?()|[]\x7b\x7d^$#&-~".toList.contains c

/-- The pattern that matches exactly the given text. -/
def quote (text : List Char) : List Char :=
  text.flatMap fun c => if isMeta c then ['\\', c] else [c]

@[simp] theorem quote_nil : quote [] = [] := rfl

theorem quote_cons (c : Char) (text : List Char) :
    quote (c :: text) = (if isMeta c then ['\\', c] else [c]) ++ quote text := rfl

theorem quote_append (first second : List Char) :
    quote (first ++ second) = quote first ++ quote second := by
  simp [quote]

end FirmwareBench.Pattern
