import FirmwareBench.Build.Env
import FirmwareBench.Demo.Board
import FirmwareBench.Demo.Layout
set_option autoImplicit false

/-!
# Demo descriptors

A demo is a firmware image: what it defines, the build scripts of its modules, the flags it needs
and the boards it builds for.
-/

namespace FirmwareBench

/-- Build parameters of one firmware demo. -/
structure Demo where
  name : String
  /-- The core of the operating system, if the demo asks for one. -/
  rtosCore : String := ""
  /-- The toolchain, if the demo asks for one. -/
  toolchain : String := ""
  /-- Where the toolchain is installed, if the demo says so. -/
  toolchainPath : String := ""
  /-- The linker file that places the overlay groups. -/
  groupingFile? : Option String := none
  /-- What the names of link files begin with. -/
  linkFilePrefix : String := ""
  /-- Memory of the overlay engine. -/
  overlay? : Option OverlayLayout := none
  /-- Preprocessor definitions. -/
  publicDefs : List String := []
  buildScripts : List String := []
  compilerFlags : List String := []
  linkerFlags : List String := []
  /-- The boards the demo builds for. -/
  targets : List Board := []
deriving DecidableEq, Repr

namespace Demo

def supports (demo : Demo) (board : Board) : Bool := demo.targets.contains board

/-- The definitions of a demo as compiler options, between the displayed values of `CPPDEFPREFIX`
(`-D` where it is not set) and `CPPDEFSUFFIX` (nothing where it is not set). -/
def defineOptions (demo : Demo) (env : Env) : List String :=
  let before := (env.displayed? "CPPDEFPREFIX").getD "-D"
  let behind := (env.displayed? "CPPDEFSUFFIX").getD ""
  demo.publicDefs.map fun definition => before ++ definition ++ behind

end Demo

end FirmwareBench
