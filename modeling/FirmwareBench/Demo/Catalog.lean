import FirmwareBench.Demo.Descriptor
set_option autoImplicit false

/-!
# The demos

The descriptors of all demos and the look-up by name.
-/

namespace FirmwareBench.Demo

/-! ## Overlay engine with overlay data -/

/-- The memory the overlay demo reserves. -/
def dataOverlayLayout : OverlayLayout := ⟨1536, 512, 2048⟩

/-- Where the overlay demo keeps its grouping file. -/
def dataOverlayGrouping : String := "../comrv-dataoverlay.csv"

/-- The overlay engine with support for overlay data. -/
def dataOverlay : Demo where
  name := "comrv_dataoverlay"
  groupingFile? := some dataOverlayGrouping
  overlay? := some dataOverlayLayout
  publicDefs :=
    ["D_BARE_METAL",
      "D_TICK_TIME_MS=4",
      "D_ISR_STACK_SIZE=400",
      "D_COMRV_ENABLE_ERROR_NOTIFICATIONS",
      "D_COMRV_MIN_GROUP_SIZE_IN_BYTES=512",
      "D_COMRV_MAX_GROUP_SIZE_IN_BYTES=4096",
      "D_COMRV_MAX_CALL_STACK_DEPTH=10",
      "D_COMRV_MAX_OVL_CACHE_SIZE_IN_BYTES=" ++ toString dataOverlayLayout.cacheSize.toNat,
      "D_COMRV_ENABLE_OVL_DATA_SUPPORT",
      "D_COMRV_ENABLE_CODE_SIZE"]
  buildScripts := ["comrv", "demo_comrv_dataoverlay"]
  compilerFlags := ["-moverlay"]
  linkerFlags :=
    ("-Wl,--grouping-file=" ++ dataOverlayGrouping) :: dataOverlayLayout.linkerSymbols
  targets := [.eh1, .eh2, .el2, .hifive1]

/-! ## Timers and traps -/

/-- The timers inside the core, which one of the boards does not have. -/
def internalTimers : Demo where
  name := "internal_timers"
  publicDefs := ["D_TICK_TIME_MS=4", "D_ISR_STACK_SIZE=400"]
  buildScripts := ["demo_internal_timers"]
  targets := [.eh1, .el2, .eh2]

/-- Traps without an operating system. -/
def trapBaremetal : Demo where
  name := "trap_baremetal"
  publicDefs := ["D_BARE_METAL", "D_TICK_TIME_MS=4", "D_ISR_STACK_SIZE=400"]
  buildScripts := ["demo_trap_baremetal"]
  targets := [.eh1, .eh2, .el2, .hifive1]

/-! ## The catalog -/

/-- All demos, in the order of their names. -/
def all : List Demo := [dataOverlay, internalTimers, trapBaremetal]

def ofName (name : String) : Except BuildError Demo :=
  match all.find? (·.name == name) with
  | some demo => .ok demo
  | none => .error (.unknownDemo name)

end FirmwareBench.Demo
