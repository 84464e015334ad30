import Testbed.Node.Error

/-!
# What can go wrong in an installation

The causes for which preparing a node fails, and their wording.
-/

namespace Testbed

/-- Why a node could not be prepared. -/
inductive InstallError where
  /-- The operating system belongs to no known family. -/
  | unsupported (system : String)
  /-- All steps ended well, yet the program is not there. -/
  | notInstalled (path : String)
  /-- A kernel tunable holds something that is no number. -/
  | invalidTunable (path value : String)
  | node (error : NodeError)
  deriving Repr, DecidableEq

/-- The wording of an error. -/
def InstallError.message : InstallError → String
  | .unsupported system => s!"Unsupported environment: {system} is not supported"
  | .notInstalled path => s!"Installation failed: {path} does not exist after install"
  | .invalidTunable path value => s!"Unexpected value '{value}' in {path}"
  | .node error => s!"Node error: {error.message}"

end Testbed
