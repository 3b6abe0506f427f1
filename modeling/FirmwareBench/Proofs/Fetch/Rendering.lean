import FirmwareBench.Fetch.Command
import FirmwareBench.Proofs.Text.Collapse
import FirmwareBench.Proofs.Text.Filling
import Mathlib.Data.List.Forall2

/-!
# The arguments of a download command

The template of a download command has one argument for each of its words. The placeholders of a
word are replaced after the template has been taken apart, and all at once. So neither the address
nor the place to store the archive at can make more arguments or bring in placeholders of its own.

## Main statements

* `DownloadCommand.arguments_eq_iff`: each argument is its word with the placeholders replaced.
* `DownloadCommand.render_replaces`: what that means for the command, and what does not depend on
  the address and the place.
-/

set_option autoImplicit false

namespace FirmwareBench

namespace DownloadCommand

def urlKey : List Char := "\x7burl\x7d".toList

/-- The placeholder for the place to store the archive at. -/
def outputKey : List Char := "\x7boutput\x7d".toList

theorem isTable_placeholders (url : String) (dest : Path) :
    Text.IsTable (placeholders url dest) := by
  have hurl : Text.IsPlaceholder urlKey := ⟨"url".toList, by decide, by decide, by decide⟩
  have houtput : Text.IsPlaceholder outputKey :=
    ⟨"output".toList, by decide, by decide, by decide⟩
  refine ⟨?_, ?_⟩
  · intro entry hentry
    rcases List.mem_pair.mp hentry with rfl | rfl
    · exact hurl
    · exact houtput
  · rw [show (placeholders url dest).map Prod.fst = [urlKey, outputKey] from rfl]
    decide

variable {command : DownloadCommand} {url : String} {dest : Path}

/-- The arguments are the words of the template, each with its placeholders replaced. -/
theorem arguments_eq_iff {args : List String} :
    command.arguments url dest = args ↔
      List.Forall₂ (fun word argument => Text.Replaces (placeholders url dest) word argument.toList)
        (Text.words command.template.toList) args := by
  have hargument : ∀ (word : List Char) (argument : String),
      Text.Replaces (placeholders url dest) word argument.toList ↔
        String.ofList (Text.fill (placeholders url dest) word) = argument := by
    intro word argument
    rw [Text.replaces_iff (isTable_placeholders url dest), ← String.toList_inj,
      String.toList_ofList, eq_comm]
  simp only [hargument]
  rw [arguments, ← List.forall₂_eq_eq_eq, List.forall₂_map_left_iff]

theorem length_arguments (command : DownloadCommand) (url : String) (dest : Path) :
    (command.arguments url dest).length = (Text.words command.template.toList).length := by
  simp [arguments]

/-- A word without placeholders is an argument as it stands. -/
theorem arguments_getElem?_of_plain {index : Nat} {word : List Char}
    (hword : (Text.words command.template.toList)[index]? = some word)
    (hurl : ¬ urlKey <:+: word) (houtput : ¬ outputKey <:+: word) :
    (command.arguments url dest)[index]? = some (String.ofList word) := by
  have hplain : ∀ entry ∈ placeholders url dest, ¬ entry.1 <:+: word := by
    intro entry hentry
    rcases List.mem_pair.mp hentry with rfl | rfl
    · exact hurl
    · exact houtput
  rw [arguments, List.getElem?_map, hword, Option.map_some, Text.fill_eq_self hplain]

theorem arguments_eq_nil_iff (command : DownloadCommand) (url : String) (dest : Path) :
    command.arguments url dest = [] ↔ Text.words command.template.toList = [] := by
  simp [arguments]

theorem render_eq_ok_iff {args : List String} :
    command.render url dest = .ok args ↔
      Text.words command.template.toList ≠ [] ∧ command.arguments url dest = args := by
  rw [ne_eq, ← arguments_eq_nil_iff command url dest, render]
  cases command.arguments url dest <;> simp

theorem render_eq_error_iff {error : FetchError} :
    command.render url dest = .error error ↔
      error = .emptyCommand ∧ Text.words command.template.toList = [] := by
  rw [← arguments_eq_nil_iff command url dest, render]
  cases command.arguments url dest <;> simp [eq_comm]

/-- **The arguments of a download command.** The command is refused exactly if the template has no
words. Else there is one argument for each word, and it is that word with every placeholder replaced
at once and nothing else changed. So the number of arguments is the same for every address and every
place, and so is each argument whose word has no placeholder in it. -/
theorem render_replaces (command : DownloadCommand) (url : String) (dest : Path) :
    (∀ error, command.render url dest = .error error ↔
      error = .emptyCommand ∧ Text.IsWords command.template.toList []) ∧
    (∀ arguments, command.render url dest = .ok arguments ↔
      ∃ words, words ≠ [] ∧ Text.IsWords command.template.toList words ∧
        List.Forall₂
          (fun word argument => Text.Replaces (placeholders url dest) word argument.toList)
          words arguments) ∧
    ∀ arguments, command.render url dest = .ok arguments → ∀ url' dest',
      ∃ arguments', command.render url' dest' = .ok arguments' ∧
        arguments'.length = arguments.length ∧
        ∀ words, Text.IsWords command.template.toList words → ∀ (index : Nat) word,
          words[index]? = some word → ¬ urlKey <:+: word → ¬ outputKey <:+: word →
            arguments'[index]? = arguments[index]? := by
  refine ⟨?_, ?_, ?_⟩
  · intro error
    rw [render_eq_error_iff, Text.isWords_iff, eq_comm (a := [])]
  · intro arguments
    rw [render_eq_ok_iff, arguments_eq_iff]
    constructor
    · rintro ⟨hne, hreplaces⟩
      exact ⟨_, hne, Text.isWords_iff.mpr rfl, hreplaces⟩
    · rintro ⟨words, hne, hwords, hreplaces⟩
      obtain rfl := Text.isWords_iff.mp hwords
      exact ⟨hne, hreplaces⟩
  · intro arguments h url' dest'
    obtain ⟨hne, rfl⟩ := render_eq_ok_iff.mp h
    refine ⟨command.arguments url' dest', render_eq_ok_iff.mpr ⟨hne, rfl⟩, ?_, ?_⟩
    · rw [length_arguments, length_arguments]
    · intro words hwords index word hword hurl houtput
      obtain rfl := Text.isWords_iff.mp hwords
      rw [arguments_getElem?_of_plain hword hurl houtput,
        arguments_getElem?_of_plain hword hurl houtput]

/-- A command with braces around its placeholders, and with blanks of several kinds. -/
def bracedCommand : DownloadCommand :=
  ⟨" dl\t-o\x7boutput\x7d \x7b\x7burl\x7d \n\x7bu\x7burl\x7d\x7burl"⟩

/-- An address and a place that look like placeholders, with a blank in the place. -/
theorem render_replaces_bracedCommand :
    bracedCommand.render "\x7boutput\x7d" (.ofString "my \x7burl\x7d") =
        .ok ["dl", "-omy \x7burl\x7d", "\x7b\x7boutput\x7d", "\x7bu\x7boutput\x7d\x7burl"] ∧
      ∃ arguments', bracedCommand.render "" (.ofString "x") = .ok arguments' ∧
        arguments'.length = 4 ∧ arguments'[0]? = some "dl" := by
  have hwords : Text.IsWords bracedCommand.template.toList
      ["dl".toList, "-o\x7boutput\x7d".toList, "\x7b\x7burl\x7d".toList,
        "\x7bu\x7burl\x7d\x7burl".toList] := Text.isWords_iff.mpr (by decide)
  have hok : bracedCommand.render "\x7boutput\x7d" (.ofString "my \x7burl\x7d") =
      .ok ["dl", "-omy \x7burl\x7d", "\x7b\x7boutput\x7d", "\x7bu\x7boutput\x7d\x7burl"] := by
    decide
  obtain ⟨-, -, hsame⟩ :=
    render_replaces bracedCommand "\x7boutput\x7d" (.ofString "my \x7burl\x7d")
  obtain ⟨arguments', hrender, hlength, hplain⟩ := hsame _ hok "" (.ofString "x")
  exact ⟨hok, arguments', hrender, hlength, hplain _ hwords 0 _ rfl (by decide) (by decide)⟩

end DownloadCommand

end FirmwareBench
