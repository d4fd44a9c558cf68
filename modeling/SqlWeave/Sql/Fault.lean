/-!
# Faults of statement trees

What can be wrong with a tree, apart from anything a server says.  The wording
of every fault is here and nowhere else.
-/

namespace SqlWeave

/-- Why a tree cannot be built or compiled. -/
inductive TreeFault where
  /-- A self reference stands where no column is being assigned or compared. -/
  | selfOutsideColumn
  /-- A parent reference stands where no enclosing query has an alias. -/
  | parentOutsideLateral (column : String)
  /-- A condition compares a column with its default. -/
  | defaultCompared (column : String)
  /-- The literals of a fragment are not one more than its nodes. -/
  | unevenParts (literals nodes : Nat)
  deriving DecidableEq, Repr

namespace TreeFault

/-- Whether the fault is a reference that its surroundings do not resolve. -/
def isUnresolvedReference : TreeFault → Bool
  | .selfOutsideColumn | .parentOutsideLateral _ => true
  | .defaultCompared _ | .unevenParts _ _ => false

def message : TreeFault → String
  | .selfOutsideColumn => "self reference used outside of a column context"
  | .parentOutsideLateral column =>
    "parent column \"" ++ column ++ "\" referenced outside of a lateral sub-select"
  | .defaultCompared column =>
    "DEFAULT is not a value column \"" ++ column ++ "\" can be compared with"
  | .unevenParts literals nodes =>
    "fragment needs one more literal than nodes, got " ++ toString literals ++
      " literals and " ++ toString nodes ++ " nodes"

end TreeFault

end SqlWeave
