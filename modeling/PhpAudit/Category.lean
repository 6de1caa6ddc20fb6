import PhpAudit.Severity

/-!
The standard rule categories, each with what a report shows of it and its priority. Priority 1 is
the highest.
-/

namespace PhpAudit

inductive Category where
  | security
  | performance
  | style
  | bestPractice
  | maintainability
  | compatibility
  | documentation
  | testing
  | architecture
  | general
  deriving DecidableEq, Repr

namespace Category

def all : List Category :=
  [.security, .performance, .style, .bestPractice, .maintainability, .compatibility,
    .documentation, .testing, .architecture, .general]

def name : Category → String
  | .security => "security"
  | .performance => "performance"
  | .style => "style"
  | .bestPractice => "best_practice"
  | .maintainability => "maintainability"
  | .compatibility => "compatibility"
  | .documentation => "documentation"
  | .testing => "testing"
  | .architecture => "architecture"
  | .general => "general"

/-- The name of the member among the categories. -/
def label : Category → String
  | .security => "SECURITY"
  | .performance => "PERFORMANCE"
  | .style => "STYLE"
  | .bestPractice => "BEST_PRACTICE"
  | .maintainability => "MAINTAINABILITY"
  | .compatibility => "COMPATIBILITY"
  | .documentation => "DOCUMENTATION"
  | .testing => "TESTING"
  | .architecture => "ARCHITECTURE"
  | .general => "GENERAL"

def displayName : Category → String
  | .security => "Security"
  | .performance => "Performance"
  | .style => "Code Style"
  | .bestPractice => "Best Practices"
  | .maintainability => "Maintainability"
  | .compatibility => "Compatibility"
  | .documentation => "Documentation"
  | .testing => "Testing"
  | .architecture => "Architecture"
  | .general => "General"

def description : Category → String
  | .security => "Rules that check for security vulnerabilities"
  | .performance => "Rules that identify performance issues"
  | .style => "Rules that enforce coding style and formatting standards"
  | .bestPractice => "Rules that enforce general best practices"
  | .maintainability => "Rules that improve maintainability and readability"
  | .compatibility => "Rules that ensure compatibility across environments"
  | .documentation => "Rules that check for proper documentation"
  | .testing => "Rules that ensure proper testing practices"
  | .architecture => "Rules that enforce architectural boundaries"
  | .general => "Rules that don't fit a specific category"

def defaultSeverity : Category → Severity
  | .security => .error
  | .style | .documentation => .info
  | _ => .warning

def priority : Category → Nat
  | .security => 1
  | .performance => 2
  | .bestPractice => 3
  | .maintainability => 4
  | .architecture => 5
  | .testing => 6
  | .compatibility => 7
  | .documentation => 8
  | .style => 9
  | .general => 10

/-- All categories, the highest priority first. -/
def byPriority : List Category := all.mergeSort fun a b => decide (a.priority ≤ b.priority)

def ofName? (name : String) : Option Category := all.find? (·.name == name)

end Category

end PhpAudit
