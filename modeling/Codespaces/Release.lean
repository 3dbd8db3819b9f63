/-!
# The release
-/

namespace Codespaces

def release : String := "0.1.0"

end Codespaces
