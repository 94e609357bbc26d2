/-
This file defines the errors of the persistency service.
-/

namespace OpenVehicle.Per

inductive ErrorCode where
  | invalidArgument | incompatibleAbi | invalidState | notFound | permissionDenied | unsupported
  | resourceExhausted | conflict | quotaExceeded | corrupted | ioError | busy | shuttingDown
  | backendFailure
  deriving DecidableEq, Repr

structure Error where
  code : ErrorCode
  message : String
  deriving DecidableEq, Repr

/-- A fallible function returns a value or an error. -/
abbrev Result (A : Type) := Except Error A

end OpenVehicle.Per
