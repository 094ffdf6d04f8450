/-! Paths as texts: slashes stand between the steps, and one in front means that the path
starts at the top. -/
namespace CameraBroker.Path

/-- The path that leads on from `base`, unless `path` starts at the top itself. -/
def join (base path : String) : String :=
  if path.startsWith "/" || base = "" then path
  else if base.endsWith "/" then base ++ path
  else base ++ "/" ++ path

/-- The steps of a path. Empty ones and single points lead nowhere. -/
def steps (path : String) : List String :=
  ((path.toList.splitOn '/').map String.ofList).filter fun s => s ≠ "" && s ≠ "."

/-- What steps come to as a path that starts at the top or does not. -/
def ofSteps (fromTop : Bool) (steps : List String) : String :=
  (if fromTop then "/" else "") ++ String.intercalate "/" steps

/-- The path without its last step, if it has one. -/
def parent? (path : String) : Option String :=
  match steps path with
  | [] => none
  | steps => some (ofSteps (path.startsWith "/") steps.dropLast)

end CameraBroker.Path
