import FirmwareBench.Fetch.Error
import FirmwareBench.Text.Blank
set_option autoImplicit false

/-!
# Download commands

A download command is written as a template: its words are the arguments, and placeholders in them
stand for the address and for the place to store the archive at.

## Main definitions

* `DownloadCommand`: a template.
* `DownloadCommand.render`: the arguments for one archive.
-/

namespace FirmwareBench

/-- The template of a download command. -/
structure DownloadCommand where
  template : String
deriving DecidableEq, Repr

namespace DownloadCommand

/-- The command used if no other is given. -/
def standard : DownloadCommand := ⟨"wget -O \x7boutput\x7d \x7burl\x7d"⟩

/-- What the placeholders stand for. -/
def placeholders (url : String) (dest : Path) : List (List Char × List Char) :=
  [("\x7burl\x7d".toList, url.toList), ("\x7boutput\x7d".toList, dest.chars)]

/-- The arguments for one archive, one for each word of the template. -/
def arguments (command : DownloadCommand) (url : String) (dest : Path) : List String :=
  (Text.words command.template.toList).map fun word =>
    String.ofList (Text.fill (placeholders url dest) word)

/-- The program and its arguments for one archive; a template without words is no command. -/
def render (command : DownloadCommand) (url : String) (dest : Path) :
    Except FetchError (List String) :=
  match command.arguments url dest with
  | [] => .error .emptyCommand
  | arguments => .ok arguments

end DownloadCommand

end FirmwareBench
