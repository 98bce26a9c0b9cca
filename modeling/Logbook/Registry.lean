/-
The registry of the one logger that all parts of a program share.  It holds a handle, and
remembers whether the handle was given to it or made by itself as a fallback.
-/
namespace Logbook

/-- The shared handle, if there is one, and whether it was given. -/
structure Registry (Handle : Type) where
  current : Option Handle := none
  initialized : Bool := false
  deriving DecidableEq, Repr

namespace Registry

variable {Handle : Type}

/-- Shares a handle in place of any other. -/
def install (_ : Registry Handle) (handle : Handle) : Registry Handle :=
  ⟨some handle, true⟩

/-- Shares nothing any more. -/
def reset (_ : Registry Handle) : Registry Handle :=
  {}

/-- Shares a fallback, which counts as given by nobody. -/
def fallBack (registry : Registry Handle) (fallback : Handle) : Registry Handle :=
  { registry with current := some fallback }

/-- The shared handle, which is the fallback where there was none. -/
def shared (registry : Registry Handle) (fallback : Handle) : Handle × Registry Handle :=
  match registry.current with
  | some handle => (handle, registry)
  | none => (fallback, registry.fallBack fallback)

end Registry

end Logbook
