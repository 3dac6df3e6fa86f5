import VersionGate.Proofs.Checking
import VersionGate.Proofs.Retrieval

/-! A check that got no version. Whatever stopped the question is what the check ends with, be it an
interrupt or an error that looks like a verdict, and the check adds nothing of its own to what its
versioner did. -/
namespace VersionGate

end VersionGate
