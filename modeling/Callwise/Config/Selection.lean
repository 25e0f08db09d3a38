import Callwise.Config.Basic
import Callwise.Files.Pattern

/-!
# Files to check

A path is checked if no pattern excludes it and if a pattern includes it or there are none to
include by. Backslashes count as slashes, in patterns and in paths. A pattern that cannot be read
fits no path.
-/

namespace Callwise

/-- A text with slashes in place of backslashes. -/
def withSlashes (text : String) : String :=
  String.ofList (text.toList.map fun c => if c == '\x5c' then '/' else c)

namespace PathSettings

/-- A pattern fits the path. -/
def patternFits (pattern path : String) : Bool :=
  match Pattern.ofText (withSlashes pattern) with
  | .ok pattern => pattern.fits (withSlashes path)
  | .error _ => false

/-- The path is to be checked. -/
def selects (settings : PathSettings) (path : String) : Bool :=
  !settings.excludePatterns.any (patternFits · path)
    && (settings.includePatterns.isEmpty || settings.includePatterns.any (patternFits · path))

end PathSettings

end Callwise
