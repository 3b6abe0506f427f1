import FirmwareBench.Build.Env
import FirmwareBench.Demo.Descriptor
import FirmwareBench.Text.Json
set_option autoImplicit false

/-!
# Listings of environments and demos

An environment and a demo as JSON documents. The members of an environment come in the order of
their names, those of a demo in a fixed order.
-/

namespace FirmwareBench

/-- A value as JSON: a string, an array of strings or a number, so that values of different kinds
never look alike. -/
def Value.toJson : Value → Json
  | .text t => .string t
  | .items list => .strings list
  | .number n => .number n

/-- An environment as JSON. -/
def Env.toJson (env : Env) : Json :=
  .object
    [("vars", .object (env.vars.toList.map fun (key, value) => (key, value.toJson))),
      ("suffixes",
        .object (env.suffixes.toList.map fun (suffix, action) => (suffix, .string action.word)))]

def OverlayLayout.toJson (layout : OverlayLayout) : Json :=
  .object
    [("cache_size", .number layout.cacheSize.toNat),
      ("cache_alignment", .number layout.cacheAlignment.toNat),
      ("overlay_storage_size", .number layout.storageSize.toNat)]

def Demo.toJson (demo : Demo) : Json :=
  .object
    [("name", .string demo.name),
      ("rtos_core", .string demo.rtosCore),
      ("toolchain", .string demo.toolchain),
      ("toolchain_path", .string demo.toolchainPath),
      ("grouping_file", (demo.groupingFile?.map Json.string).getD .null),
      ("link_file_prefix", .string demo.linkFilePrefix),
      ("comrv", (demo.overlay?.map OverlayLayout.toJson).getD .null),
      ("public_defs", .strings demo.publicDefs),
      ("sconscripts", .strings demo.buildScripts),
      ("c_flags", .strings demo.compilerFlags),
      ("linker_flags", .strings demo.linkerFlags),
      ("targets", .strings (demo.targets.map Board.name))]

/-- The pretty listing of an environment. -/
def Env.listing (env : Env) : String := env.toJson.pretty

def Demo.listing (demo : Demo) : String := demo.toJson.pretty

end FirmwareBench
