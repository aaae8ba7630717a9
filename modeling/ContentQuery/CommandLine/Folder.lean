import ContentQuery.Text.Basic

/-!
# Folders

Files that are held in a folder, and what a path finds there. A path is followed name by name: an
empty name and a dot stay, two dots go back, and only a folder can be left or entered further. What
lies above the folder is unknown, except for the device that is always empty.
-/

namespace ContentQuery

namespace CommandLine

/-- The names on the way to each file below a folder, and the contents of the file. -/
structure Folder where
  files : List (List String × String)

namespace Folder

/-- The names between the slashes of a path. -/
def namesOf (path : String) : List String :=
  (Text.pieces (· == '/') path.toList).map String.ofList

/-- Whether a name stays where it is. -/
def stays (name : String) : Bool := name = "" || name = "."

/-- The folder that holds files of given names. -/
def ofFiles (files : List (String × String)) : Folder :=
  ⟨files.map fun (name, text) => ((namesOf name).filter (!stays ·), text)⟩

/-- The device that is always empty. -/
def emptyDevice : String := "/dev/null"

/-- Whether a way leads to the folder itself or to one on the way to a file. -/
def isFolder (folder : Folder) (way : List String) : Bool :=
  way.isEmpty || folder.files.any fun (file, _) => way.isPrefixOf file && way ≠ file

/-- The way that some more names lead to, if it stays below the folder. -/
def follow? (folder : Folder) : (way names : List String) → Option (List String)
  | way, [] => some way
  | way, name :: names =>
    if !folder.isFolder way then none
    else if stays name then folder.follow? way names
    else if name = ".." then if way.isEmpty then none else folder.follow? way.dropLast names
    else folder.follow? (way ++ [name]) names

/-- The contents of the file that a path finds. -/
def read? (folder : Folder) (path : String) : Option String :=
  if path = emptyDevice then some ""
  else if path.toList.head? = some '/' then none
  else (folder.follow? [] (namesOf path)).bind fun way => folder.files.lookup way

end Folder

end CommandLine

end ContentQuery
