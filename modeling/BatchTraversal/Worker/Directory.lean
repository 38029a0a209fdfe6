/-!
# Directories

The files below the directory a worker runs in, and what is found under a path. Of the machine around it
only the folders and files are known that every machine has.
-/

namespace BatchTraversal

/-- What is found under a path. -/
inductive Found where
  | nothing
  | file (text : String)
  /-- Something that cannot be read, for the reason given. -/
  | unreadable (reason : String)
  deriving DecidableEq, Repr

/-- The files below a directory, by their paths without dots. -/
structure Directory where
  files : List (String × String) := []
  deriving DecidableEq, Repr

/-- A place in the file system. -/
inductive Place where
  /-- What some names lead to from the directory. -/
  | below (names : List String)
  /-- One of the folders that hold the directory. -/
  | outside
  /-- What some names lead to from the root. -/
  | machine (names : List String)
  deriving DecidableEq, Repr

namespace Place

/-- The place that two dots lead to. The root is above itself. -/
def parent : Place → Place
  | below names => if names.isEmpty then outside else below names.dropLast
  | outside => outside
  | machine names => machine names.dropLast

/-- The place that a name leads to. What stands beside the directory is not known. -/
def child? (name : String) : Place → Option Place
  | below names => some (below (names ++ [name]))
  | outside => none
  | machine names => some (machine (names ++ [name]))

/-- The folders that every machine has. -/
def machineFolders : List (List String) :=
  [[], ["bin"], ["dev"], ["dev", "shm"], ["etc"], ["home"], ["lib"], ["mnt"], ["opt"], ["proc"],
    ["proc", "self"], ["root"], ["run"], ["sbin"], ["srv"], ["sys"], ["tmp"], ["usr"],
    ["usr", "bin"], ["usr", "lib"], ["usr", "local"], ["usr", "share"], ["var"], ["var", "lib"],
    ["var", "log"], ["var", "tmp"]]

/-- The files that every machine has, with the beginning of their text. -/
def machineFiles : List (List String × String) :=
  [(["dev", "null"], ""), (["etc", "group"], "root:x:0:\n"), (["etc", "hostname"], "localhost\n"),
    (["etc", "hosts"], "127.0.0.1 localhost\n"), (["etc", "passwd"], "root:x:0:0::/root:/bin/sh\n")]

end Place

namespace Directory

/-- The names that a path is made of. -/
def namesOf (path : String) : List String :=
  ((path.toList.splitBy fun c d => c != '/' && d != '/').filter (· ≠ ['/'])).map String.ofList

/-- The text of the file at a place. -/
def fileAt? (d : Directory) : Place → Option String
  | .below names => (d.files.find? fun f => namesOf f.1 = names).map (·.2)
  | .outside => none
  | .machine names => Place.machineFiles.lookup names

/-- Whether there is a folder at a place: the directory, one with a file below, one that holds the
directory, or one that every machine has. -/
def isFolder (d : Directory) : Place → Bool
  | .below names =>
    names.isEmpty || d.files.any fun f => names.isPrefixOf (namesOf f.1) && namesOf f.1 != names
  | .outside => true
  | .machine names => Place.machineFolders.contains names

/-- The place that some names lead to from another place. Only folders can be gone through. -/
def walk (d : Directory) (place : Place) : List String → Option Place
  | [] => some place
  | name :: rest =>
    if !d.isFolder place then none
    else if name = "." then d.walk place rest
    else if name = ".." then d.walk place.parent rest
    else (place.child? name).bind fun place => d.walk place rest

/-- What is found under a path. A path that ends in a slash finds no file. -/
def look (d : Directory) (path : String) : Found :=
  let start : Place := if path.toList.head? = some '/' then .machine [] else .below []
  match if path = "" then none else d.walk start (namesOf path) with
  | none => .nothing
  | some place =>
    if d.isFolder place then .unreadable "Is a directory (os error 21)"
    else if path.toList.getLast? = some '/' then .nothing
    else match d.fileAt? place with
      | some text => .file text
      | none => .nothing

end Directory

end BatchTraversal
