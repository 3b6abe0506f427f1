import FirmwareBench.Shell.Utility.Condition
import FirmwareBench.Shell.Utility.Files
import FirmwareBench.Shell.Utility.Filters
import FirmwareBench.Shell.Utility.Print
set_option autoImplicit false

/-!
# The programs of the system

The utilities by their names, and the file tree of a system that has them.
-/

namespace FirmwareBench.Shell

/-- The utilities by their names. -/
def utilities : List (String × Utility) :=
  [("[", Utility.test), ("basename", Utility.basename), ("cat", Utility.cat),
    ("chmod", Utility.chmod), ("cp", Utility.cp), ("dirname", Utility.dirname),
    ("echo", Utility.echoWithFlags), ("false", Utility.ending 1), ("head", Utility.head),
    ("ln", Utility.ln), ("ls", Utility.ls), ("mkdir", Utility.mkdir), ("mv", Utility.mv),
    ("printenv", Utility.printenv), ("printf", Utility.printf), ("pwd", Utility.pwd),
    ("rm", Utility.rm), ("rmdir", Utility.rmdir), ("seq", Utility.seq),
    ("sleep", Utility.ending 0), ("sort", Utility.sort), ("tail", Utility.tail),
    ("tee", Utility.tee), ("test", Utility.test), ("touch", Utility.touch),
    ("true", Utility.ending 0), ("wc", Utility.wc)]

def shellNames : List String := ["bash", "dash", "sh"]

/-- The name of the program that runs another one in a changed environment. -/
def environmentProgram : String := "env"

/-- The directories that programs are looked for in if the environment does not say. -/
def standardSearchPath : String := "/usr/local/sbin:/usr/local/bin:/usr/sbin:/usr/bin:/sbin:/bin"

/-- The file tree of a system with all its programs. -/
def systemTree : FileTree :=
  let directories : List Place :=
    [["usr"], ["bin", "usr"], ["sbin", "usr"], ["local", "usr"], ["bin", "local", "usr"], ["dev"],
      ["tmp"]]
  let programs := environmentProgram :: shellNames ++ utilities.map Prod.fst
  let tree := directories.foldl (fun tree place => tree.put place .directory) FileTree.empty
  let tree := programs.foldl
    (fun tree name => tree.put [name, "bin", "usr"] (.program name)) tree
  ((tree.put ["bin"] (.link (.ofString "usr/bin"))).put ["sbin"] (.link (.ofString "usr/sbin"))).put
    ["null", "dev"] .sink

end FirmwareBench.Shell
