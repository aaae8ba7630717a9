import ContentQuery.Error
import ContentQuery.Text.Basic

/-!
# Paths

Paths name nodes by the names on the way from the root. In normal form a path begins with a slash
and, except for the root, does not end with one.
-/

namespace ContentQuery

namespace Path

/-- The path of the root. -/
def root : String := "/"

/-- Whether a path is that of the root. -/
def isRoot (path : String) : Bool := path = root

/-- The ending that means every node below. -/
def everything : List Char := ['/', '/', '*']

/-- The text without slashes at its end. -/
def dropSlashes (path : List Char) : List Char := (path.reverse.dropWhile (· == '/')).reverse

/-- The normal form of an absolute path: without blanks around it, the ending for every node below
and slashes at the end. -/
def normalize (path : String) : Result String :=
  let trimmed := Text.trim path.toList
  if trimmed.head? ≠ some '/' then refuse (.relativePath (String.ofList trimmed))
  else if trimmed.contains '\x27' then refuse (.quotedPath (String.ofList trimmed))
  else
    let whole := (Text.beforeEnd? everything trimmed).getD trimmed
    let bare := dropSlashes whole
    .ok (if bare.isEmpty then root else String.ofList bare)

/-- Whether a path begins with another one and a slash. -/
def isBelow (path base : String) : Bool := (base.toList ++ ['/']).isPrefixOf path.toList

/-- The path of a child. -/
def child (path name : String) : String :=
  if isRoot path then "/" ++ name else path ++ "/" ++ name

/-- The last name of a path; the root has an empty one. -/
def lastName (path : String) : String :=
  String.ofList (path.toList.reverse.takeWhile (· != '/')).reverse

/-- The path without its last name and the slash before it; below the root it is the root. -/
def parent (path : String) : String :=
  let before := ((path.toList.reverse.dropWhile (· != '/')).drop 1).reverse
  if before.isEmpty then root else String.ofList before

/-- The names on the way from the root, if the path begins there. -/
def names? (path : String) : Option (List String) :=
  match path.toList with
  | ['/'] => some []
  | '/' :: rest => some ((Text.pieces (· == '/') rest).map String.ofList)
  | _ => none

end Path

end ContentQuery
