set_option autoImplicit false

/-!
# Commands of the shell

What a text for the shell says: commands made of words, and words made of pieces that are replaced
by their values when the command runs.

## Main definitions

* `Part`, `Word`: pieces and words.
* `Redirect`: where a command reads from or writes to.
* `Command`: commands.
-/

namespace FirmwareBench.Shell

/-- What takes the place of the value of a parameter. -/
inductive Fallback where
  /-- A word, if there is no value. -/
  | instead
  /-- A word, which becomes the value, if there is none. -/
  | assign
  /-- Nothing; without a value the shell ends with the word as its message. -/
  | complain
  /-- A word, if there is a value. -/
  | alternative
deriving DecidableEq, Repr

/-- How a stream of a command is changed. -/
inductive Redirection where
  | read
  | write
  | append
  /-- Another stream is used. -/
  | share
deriving DecidableEq, Repr

mutual

/-- A piece of a word. -/
inductive Part where
  | text (quoted : Bool) (chars : List Char)
  | parameter (quoted : Bool) (name : String) (use : Use)
  /-- What a command prints. -/
  | printed (quoted : Bool) (body : Command)
  /-- The value of an arithmetic expression, which is itself made of pieces. -/
  | arithmetic (quoted : Bool) (expression : List Part)

/-- What is done with the value of a parameter. -/
inductive Use where
  | plain
  | length
  /-- Something may take its place; `empty` tells that an empty value counts as none. -/
  | fallback (kind : Fallback) (empty : Bool) (word : List Part)
  /-- A part that matches a pattern is taken off, at the end or at the front. -/
  | trim (atEnd longest : Bool) (pattern : List Part)

/-- The change of a stream of a command. -/
inductive Redirect where
  /-- The number of the stream, what is done, and with which file or stream. -/
  | mk (stream : Nat) (kind : Redirection) (word : List Part)

/-- A command. -/
inductive Command where
  | skip
  /-- Assignments, then a program with its arguments. -/
  | simple (assignments : List (String × List Part)) (words : List (List Part))
      (redirects : List Redirect)
  /-- What the first command writes is read by the second one. -/
  | pipe (first second : Command)
  /-- The opposite status. -/
  | negation (body : Command)
  /-- The second command is run if the first one ends well. -/
  | both (first second : Command)
  /-- The second command is run if the first one fails. -/
  | either (first second : Command)
  | sequence (first second : Command)
  /-- A command whose status does not count. -/
  | background (body : Command)
  | subshell (body : Command)
  | redirected (body : Command) (redirects : List Redirect)
  | branch (condition body otherwise : Command)
  /-- A command again and again, while another one ends as wanted. -/
  | loop (wanted : Bool) (condition body : Command)
  /-- A command for each of some words; without words for each argument of the shell. -/
  | each (name : String) (words? : Option (List (List Part))) (body : Command)
  /-- The command of the first pattern that matches a word. -/
  | choice (word : List Part) (arms : List (List (List Part) × Command))
  | define (name : String) (body : Command)

end

abbrev Word := List Part

end FirmwareBench.Shell
