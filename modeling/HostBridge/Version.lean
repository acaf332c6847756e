/-!
# Version

The version that the host tells a VM it speaks.
-/

namespace HostBridge

/-- The version of the host's side of the boundary (`svm_ffi_version`). -/
def version : String := "0.1.0"

end HostBridge
