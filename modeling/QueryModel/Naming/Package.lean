import QueryModel.Text.Pieces

/-!
# Packages from paths

Source files stand under `src/<set>/graphql`, and the directories below that
marker name the package.  Both slashes separate the segments of a path.  When a
path has several markers the last one counts.
-/

namespace QueryModel

open Text

/-- The characters between the segments of a path. -/
def isPathSeparator (c : Char) : Bool := c == '/' || c == '\\'

/-- The segments of a path. -/
def pathSegments (path : String) : List String :=
  (splitWhere isPathSeparator path.toList).map String.ofList

/-- The segments after the last marker `src/<set>/graphql`, the file name
included. -/
def afterMarker? : List String → Option (List String)
  | [] => none
  | segment :: rest =>
    match afterMarker? rest with
    | some tail => some tail
    | none =>
      match rest with
      | _ :: third :: tail => if segment = "src" ∧ third = "graphql" then some tail else none
      | _ => none

/-- The package of the file at a path, if the path has a marker. -/
def packageOfPath? (path : String) : Option String :=
  (afterMarker? (pathSegments path)).map fun tail => dotted tail.dropLast

/-- What is said about a path without a marker. -/
def packagePathMessage (path : String) : String :=
  s!"cannot derive a package from `{path}`: files must be organized like src/main/graphql/..."

/-- The name of the file at a path without its extension.  A name that only
starts with a dot is kept whole. -/
def fileStem (path : String) : String :=
  let file := ((splitWhere isPathSeparator path.toList).getLast?).getD path.toList
  match splitLast? '.' file with
  | some (c :: cs, _) => String.ofList (c :: cs)
  | _ => String.ofList file

end QueryModel
