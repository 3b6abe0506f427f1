set_option autoImplicit false

/-!
# Rights on files

A file has nine permission bits: one for reading, one for writing and one for running, each for its
owner, for its group and for all others. Files are opened with the rights of the process that runs:
those of an ordinary process, to whom all files belong, so that the bits of the owner decide, or
those of a privileged process, which the bits do not keep from reading and writing.

## Main definitions

* `Access`: what a file is opened for.
* `Rights`: with whose rights it is opened.
* `Rights.permits`: whether permission bits allow that.
-/

namespace FirmwareBench

/-- What a file is opened for. -/
inductive Access where
  | read
  | write
  | execute
deriving DecidableEq, Repr

/-- The permission bit of the owner. -/
def Access.ownerMask : Access → Nat
  | read => 0o400
  | write => 0o200
  | execute => 0o100

/-- With whose rights files are opened. -/
inductive Rights where
  /-- Those of the owner of the files. -/
  | owner
  /-- Those of a privileged process. -/
  | privileged
deriving DecidableEq, Repr

/-- Whether the permission bits of a file allow an access. Even a privileged process runs only files
that somebody may run. -/
def Rights.permits : Rights → Access → Nat → Bool
  | owner, access, mode => mode &&& access.ownerMask != 0
  | privileged, .execute, mode => mode &&& 0o111 != 0
  | privileged, _, _ => true

end FirmwareBench
