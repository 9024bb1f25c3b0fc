import AccountAudit.Finding.Basic
import AccountAudit.Value.Json

/-!
# Record list

The findings as a JSON list of flat records, in their given order.
-/

namespace AccountAudit
namespace Report

def records (findings : List Finding) : String :=
  Json.indented 0 (.list (findings.map Finding.record))

end Report
end AccountAudit
