/-!
# DocAnalytics.Project

The collections that belong to a project, by its identity.
-/

namespace DocAnalytics

/-- The identity of a project. -/
structure Project where
  id : String
deriving DecidableEq, Repr

namespace Project

/-- The documents of the dataset. -/
def data (p : Project) : String := p.id ++ "_data"

/-- The metadata records of the dataset. -/
def schema (p : Project) : String := p.id ++ "_cleaned_dt"

/-- The stored charts. -/
def charts (p : Project) : String := p.id ++ "_charts"

def materialized (p : Project) : String := p.id ++ "_cleaned_data"

end Project
end DocAnalytics
