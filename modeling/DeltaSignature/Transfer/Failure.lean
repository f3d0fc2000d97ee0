/-!
# Failures of input and output

A failed read, seek, write or flush carries a kind, which callers may test, and the text shown.
-/

namespace DeltaSignature

namespace IoFailure

/-- The kinds of failure that callers may tell apart. -/
inductive Kind where
  | other
  | unsupported
  | permissionDenied
  | invalidInput
  | storageFull
  | notFound
  | notADirectory
  | isADirectory
  | nameTooLong
deriving DecidableEq, Repr

end IoFailure

/-- A failed read, seek, write or flush. -/
structure IoFailure where
  kind : IoFailure.Kind
  text : String
deriving DecidableEq, Repr

end DeltaSignature
