/-!
# Name and version

How the program calls itself in its reports.
-/

namespace AccountAudit
namespace Product

def name : String := "acctscan"

def version : String := "0.3.0"

end Product
end AccountAudit
