import RwaControlPlane.Library.Instances

namespace rwa

/-- A thrown error: its `code` and its message. The code of a runtime error,
which has no such property, is the empty text. -/
structure Failure where
  code : String
  message : String
deriving DecidableEq, Repr

end rwa
