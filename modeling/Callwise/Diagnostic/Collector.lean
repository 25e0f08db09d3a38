import Callwise.Diagnostic

/-!
# Collected diagnostics

A collector keeps every note, and errors up to a limit.
-/

namespace Callwise

/-- Diagnostics in the order in which they were kept. -/
structure Collector where
  kept : List Diagnostic := []
  limit : Nat := 100
  deriving Inhabited

namespace Collector

/-- The number of errors kept. -/
def errorCount (collector : Collector) : Nat := collector.kept.countP Diagnostic.isError

/-- Some diagnostic kept is an error. -/
def hasErrors (collector : Collector) : Bool := collector.kept.any Diagnostic.isError

/-- Keep a diagnostic, unless it is an error and the limit has been reached. -/
def add (collector : Collector) (diagnostic : Diagnostic) : Collector :=
  if !diagnostic.isError || collector.errorCount < collector.limit then
    { collector with kept := collector.kept ++ [diagnostic] }
  else collector

/-- Forget everything; the limit stays. -/
def clear (collector : Collector) : Collector := { collector with kept := [] }

end Collector

end Callwise
