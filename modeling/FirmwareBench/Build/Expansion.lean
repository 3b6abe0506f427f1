import FirmwareBench.Build.Env
set_option autoImplicit false

/-!
# Expansion of command templates

A template is read from left to right into tokens: characters that stand for themselves and
references to variables. `$$` is a plain `$`. A reference is `$NAME`, where the name is the longest
run of ASCII letters, digits and underscores that does not start with a digit, or `${NAME}`, where
the name is everything up to the next `}`. A `${` that is never closed is kept together with all
that follows it, and a `$` before anything else is kept too.

A defined reference stands for the expansion of its displayed value, an undefined one for nothing.
Values are expanded on their own, so text that comes out of a value is never read together with the
text around the reference. Templates may nest to a fixed depth; in a cycle of references the limit
is always reached.

## Main definitions

* `Token`, `scan`: the tokens of a template.
* `expandWithin`: expansion with a bound on the number of nested texts, or an error that names the
  template.
* `Env.expand`: the expansion of a template in normal form.
-/

namespace FirmwareBench

/-- A piece of a template. -/
inductive Token where
  /-- A character that stands for itself. -/
  | text (c : Char)
  | reference (name : String)
deriving DecidableEq, Repr

/-- What the scanner has open when it comes to the next character. -/
inductive ScanState where
  | plain
  | dollar
  /-- A `${` and the part of the name read so far, last character first. -/
  | braced (name : List Char)
  /-- A `$` and the part of the name read so far, last character first. -/
  | named (name : List Char)

/-- The characters a bare name may begin with. -/
def isNameStart (c : Char) : Bool := c == '_' || c.isAlpha

/-- The characters a bare name may go on with. -/
def isNameChar (c : Char) : Bool := c == '_' || c.isAlphanum

/-- The reference to a name that was collected last character first. -/
def Token.ofReversed (name : List Char) : Token := .reference (String.ofList name.reverse)

/-- The tokens of the rest of a template, given what is open in front of it. -/
def scanFrom : ScanState → List Char → List Token
  | .plain, [] => []
  | .plain, c :: rest =>
    if c = '$' then scanFrom .dollar rest else .text c :: scanFrom .plain rest
  | .dollar, [] => [.text '$']
  | .dollar, c :: rest =>
    if c = '$' then .text '$' :: scanFrom .plain rest
    else if c = '{' then scanFrom (.braced []) rest
    else if isNameStart c then scanFrom (.named [c]) rest
    else .text '$' :: .text c :: scanFrom .plain rest
  | .braced name, [] => .text '$' :: .text '{' :: name.reverse.map .text
  | .braced name, c :: rest =>
    if c = '}' then .ofReversed name :: scanFrom .plain rest
    else scanFrom (.braced (c :: name)) rest
  | .named name, [] => [.ofReversed name]
  | .named name, c :: rest =>
    if isNameChar c then scanFrom (.named (c :: name)) rest
    else if c = '$' then .ofReversed name :: scanFrom .dollar rest
    else .ofReversed name :: .text c :: scanFrom .plain rest

/-- The tokens of a template. -/
def scan (template : List Char) : List Token := scanFrom .plain template

/-- The names a template refers to, from left to right. -/
def references (template : List Char) : List String :=
  (scan template).filterMap fun
    | .text _ => none
    | .reference name => some name

/-- Puts tokens together, where `inner` expands the displayed value of a defined reference. The
first error of a value is that of the whole. -/
def assemble (env : Env) (inner : List Char → Except BuildError (List Char)) :
    List Token → Except BuildError (List Char)
  | [] => .ok []
  | .text c :: rest => (assemble env inner rest).map (c :: ·)
  | .reference name :: rest =>
    match env.displayed? name with
    | none => assemble env inner rest
    | some value =>
      match inner value.toList with
      | .error error => .error error
      | .ok expanded => (assemble env inner rest).map (expanded ++ ·)

/-- References may be nested this deep. -/
def maxDepth : Nat := 32

/-- The expansion of a text when at most `levels` texts may be nested, the text itself included.
`root` is the template that the text was met in; an error names it. -/
def expandWithin (env : Env) (root : String) : Nat → List Char → Except BuildError (List Char)
  | 0, _ => .error (.expansionTooDeep root maxDepth)
  | levels + 1, text => assemble env (expandWithin env root levels) (scan text)

/-- The expansion of a template with its blanks collapsed. -/
def Env.expand (env : Env) (template : String) : Except BuildError String :=
  (expandWithin env template (maxDepth + 1) template.toList).map fun text =>
    String.ofList (Text.collapse text)

/-! ## Small laws -/

@[simp] theorem scan_nil : scan [] = [] := rfl

theorem scan_cons_of_ne {c : Char} (h : c ≠ '$') (rest : List Char) :
    scan (c :: rest) = .text c :: scan rest := by
  simp [scan, scanFrom, h]

theorem scan_dollar_dollar (rest : List Char) :
    scan ('$' :: '$' :: rest) = .text '$' :: scan rest := by
  simp [scan, scanFrom]

section

variable {env : Env} {inner : List Char → Except BuildError (List Char)} {rest : List Token}
  {name value : String} {out : List Char}

@[simp] theorem assemble_nil : assemble env inner [] = .ok [] := rfl

@[simp] theorem assemble_text (c : Char) :
    assemble env inner (.text c :: rest) = (assemble env inner rest).map (c :: ·) := rfl

theorem assemble_undefined (h : env.displayed? name = none) :
    assemble env inner (.reference name :: rest) = assemble env inner rest := by
  simp [assemble, h]

theorem assemble_defined (h : env.displayed? name = some value) :
    assemble env inner (.reference name :: rest) =
      (inner value.toList).bind fun expanded =>
        (assemble env inner rest).map (expanded ++ ·) := by
  cases hinner : inner value.toList <;> simp [assemble, h, hinner, Except.bind]

theorem assemble_text_eq_ok_iff {c : Char} :
    assemble env inner (.text c :: rest) = .ok out ↔
      ∃ later, assemble env inner rest = .ok later ∧ out = c :: later := by
  rw [assemble_text]
  cases assemble env inner rest <;> simp [Except.map, eq_comm]

theorem assemble_text_eq_error_iff {c : Char} {error : BuildError} :
    assemble env inner (.text c :: rest) = .error error ↔
      assemble env inner rest = .error error := by
  rw [assemble_text]
  cases assemble env inner rest <;> simp [Except.map]

theorem assemble_defined_eq_ok_iff (h : env.displayed? name = some value) :
    assemble env inner (.reference name :: rest) = .ok out ↔
      ∃ expanded later, inner value.toList = .ok expanded ∧ assemble env inner rest = .ok later ∧
        out = expanded ++ later := by
  rw [assemble_defined h]
  cases inner value.toList <;> cases assemble env inner rest <;>
    simp [Except.bind, Except.map, eq_comm]

theorem assemble_defined_eq_error_iff (h : env.displayed? name = some value) {error : BuildError} :
    assemble env inner (.reference name :: rest) = .error error ↔
      inner value.toList = .error error ∨
        (∃ expanded, inner value.toList = .ok expanded) ∧
          assemble env inner rest = .error error := by
  rw [assemble_defined h]
  cases inner value.toList <;> cases assemble env inner rest <;> simp [Except.bind, Except.map]

end

theorem Env.expand_eq_ok_iff {env : Env} {template result : String} :
    env.expand template = .ok result ↔
      ∃ text, expandWithin env template (maxDepth + 1) template.toList = .ok text ∧
        result = String.ofList (Text.collapse text) := by
  rw [Env.expand]
  cases expandWithin env template (maxDepth + 1) template.toList <;> simp [Except.map, eq_comm]

end FirmwareBench
