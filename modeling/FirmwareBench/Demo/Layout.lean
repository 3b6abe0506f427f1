set_option autoImplicit false

/-!
# Memory of the overlay engine

The sizes that the overlay engine reserves, in bytes, and the linker symbols that carry them.
-/

namespace FirmwareBench

/-- Memory reserved for the overlay engine, in bytes. -/
structure OverlayLayout where
  /-- Memory for running overlay functions and holding overlay data. -/
  cacheSize : UInt32
  /-- Alignment of that memory. -/
  cacheAlignment : UInt32
  /-- Memory the overlays are stored in. -/
  storageSize : UInt32
deriving DecidableEq, Repr

/-- The linker option that defines a symbol of the overlay engine. -/
def OverlayLayout.defineSymbol (symbol : String) (size : UInt32) : String :=
  "-Wl,--defsym=__comrv_" ++ symbol ++ "=" ++ toString size.toNat

/-- The linker options that describe a layout. -/
def OverlayLayout.linkerSymbols (layout : OverlayLayout) : List String :=
  [defineSymbol "cache_size" layout.cacheSize,
    defineSymbol "cache_alignment_size" layout.cacheAlignment,
    defineSymbol "overlay_storage_size" layout.storageSize]

end FirmwareBench
