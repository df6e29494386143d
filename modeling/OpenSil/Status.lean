import Mathlib.Tactic

/-! # Statuses and block IDs -/

namespace OpenSil

inductive SilStatus where
  | silPass
  | silUnsupportedHardware
  | silUnsupported
  | silInvalidParameter
  | silAborted
  | silOutOfResources
  | silNotFound
  | silOutOfBounds
  | silDeviceError
  | silResetRequestColdImm
  | silResetRequestColdDef
  | silResetRequestWarmImm
  | silResetRequestWarmDef
  deriving DecidableEq, Repr

def silIdListEnd : Nat := 23

def silIdRcManager : Nat := 17

end OpenSil
