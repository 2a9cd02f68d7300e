/-!
# Classes of faults

A run can fail because of what it was asked to do, because results do not line
up, or because its members lose touch. Every error type of the library says its
own cause; the texts of one class begin alike.
-/

namespace Syllogistic

/-- The text of a fault in what was asked for. -/
def configurationFault (cause : String) : String :=
  "configuration error: " ++ cause

/-- The text of a fault in how results line up. -/
def alignmentFault (cause : String) : String :=
  "alignment violation: " ++ cause

/-- The text of a fault between the members of a group. -/
def communicationFault (cause : String) : String :=
  "communication failure: " ++ cause

end Syllogistic
