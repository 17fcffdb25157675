/-!
# Environment variables

Names with their values, each name at most once. What is already set stays: `Environment.offer`
adds a variable only under a new name.
-/

namespace PriceTracker

/-- Environment variables, in the order in which they were set. -/
structure Environment where
  entries : List (String × String) := []
  deriving DecidableEq, Repr, Inhabited

namespace Environment

/-- The value of a variable. -/
def get? (env : Environment) (name : String) : Option String :=
  (env.entries.find? (·.1 == name)).map (·.2)

/-- Sets a variable that is not set yet. -/
def offer (env : Environment) (name value : String) : Environment :=
  match env.get? name with
  | some _ => env
  | none => { entries := env.entries ++ [(name, value)] }

/-- A set variable keeps its value. -/
theorem get?_offer_of_some {env : Environment} {name v : String} (h : env.get? name = some v)
    (value : String) : env.offer name value = env := by
  simp [offer, h]

/-- A new variable has the value that was offered. -/
theorem get?_offer_of_none {env : Environment} {name : String} (h : env.get? name = none)
    (value : String) : (env.offer name value).get? name = some value := by
  have hn : env.entries.find? (·.1 == name) = none := by simpa [get?] using h
  simp [offer, get?, List.find?_append, hn]

end Environment

end PriceTracker
