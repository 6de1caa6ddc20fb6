/-!
Severity of a finding.
-/

namespace PhpAudit

inductive Severity where
  | info
  | warning
  | error
  deriving DecidableEq, Repr

namespace Severity

/-- From the mildest on. -/
def all : List Severity := [.info, .warning, .error]

def name : Severity → String
  | .info => "info"
  | .warning => "warning"
  | .error => "error"

/-- The name as displayed in front of a message. -/
def label : Severity → String
  | .info => "INFO"
  | .warning => "WARNING"
  | .error => "ERROR"

def ofName? (name : String) : Option Severity := all.find? (·.name == name)

end Severity

end PhpAudit
