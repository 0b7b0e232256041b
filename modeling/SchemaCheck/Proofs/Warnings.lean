import SchemaCheck.Proofs.Loading

/-! The log of a load as far as it is shown. Unless more is asked for these are warnings, one for each thing that
could not be gone through. -/
namespace SchemaCheck

namespace Loader

variable (l : Loader) (t : FileTree) (sources : List String) (r : Registry)

end Loader
end SchemaCheck
