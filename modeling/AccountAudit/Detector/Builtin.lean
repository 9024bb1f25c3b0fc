import AccountAudit.Detector.AccountClose
import AccountAudit.Detector.AddressDerivation
import AccountAudit.Detector.ArbitraryInvocation
import AccountAudit.Detector.DuplicateAccounts
import AccountAudit.Detector.OwnerProgram
import AccountAudit.Detector.Reinitialization
import AccountAudit.Detector.SignerAuthorization
import AccountAudit.Detector.TypeConfusion
import AccountAudit.Detector.UncheckedArithmetic

/-!
# Built-in detectors

The nine detectors that belong to the analysis, in the order of their class ids.
-/

namespace AccountAudit
namespace Detector

def builtin : List Detector :=
  [SignerAuthorization.detector, OwnerProgram.detector, UncheckedArithmetic.detector,
    AddressDerivation.detector, ArbitraryInvocation.detector, Reinitialization.detector,
    TypeConfusion.detector, DuplicateAccounts.detector, AccountClose.detector]

/-- The built-in detector of a class. -/
def builtin? (classId : String) : Option Detector :=
  builtin.find? (·.info.classId == classId)

end Detector
end AccountAudit
