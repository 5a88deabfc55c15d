import Lisplet.Text.Basic

/-!
# Files of a directory

A directory holds files by their path. A path is followed step by step, and the message of a failure
says where that ends.
-/

namespace Lisplet.Command

/-- The contents of a directory: files by path, and directories as paths that end in a slash. -/
structure Directory where
  /-- The paths with their contents. -/
  entries : List (Text × Text)

namespace Directory

/-- The steps of a path. -/
def steps (path : Text) : List Text := path.splitOn 47

/-- What a path leads to. -/
inductive Target where
  /-- A directory, given by the steps from the top. -/
  | directory (steps : List Text)
  /-- A file with its contents. -/
  | file (contents : Text)
  /-- Somewhere outside. -/
  | outside
  /-- Nothing, for a reason. -/
  | missing (reason : Text)

/-- The steps of an entry's path that count. -/
def significant (path : Text) : List Text := (steps path).filter fun s => !s.isEmpty

/-- What stands in a directory under a name. -/
def child (d : Directory) (parent : List Text) (name : Text) : Target :=
  let path := parent ++ [name]
  match d.entries.find? fun e => significant e.1 == path && e.1.getLast? != some 47 with
  | some e => .file e.2
  | none =>
    if d.entries.any fun e => (significant e.1).take path.length == path then .directory path
    else .missing (text "no such file or directory")

/-- Takes one step. -/
def step (d : Directory) (t : Target) (name : Text) : Target :=
  match t with
  | .missing reason => .missing reason
  | .file _ => .missing (text "not a directory")
  | .outside =>
    if name.isEmpty || name = text "." || name = text ".." then .outside
    else .missing (text "no such file or directory")
  | .directory parent =>
    if name.isEmpty || name = text "." then .directory parent
    else if name = text ".." then if parent.isEmpty then .outside else .directory parent.dropLast
    else if 255 < name.length then .missing (text "file name too long")
    else d.child parent name

/-- Follows a path. -/
def follow (d : Directory) (path : Text) : Target :=
  if path.isEmpty then .missing (text "no such file or directory")
  else if path.contains 0 then .missing (text "invalid argument")
  else if 4096 ≤ path.length then .missing (text "file name too long")
  else
    let top := if path.head? == some 47 then Target.outside else .directory []
    (steps path).foldl d.step top

/-- The contents of the file at a path. -/
def read (d : Directory) (path : Text) : Except Text Text :=
  match d.follow path with
  | .file contents => .ok contents
  | .missing reason => .error (text "open " ++ path ++ text ": " ++ reason)
  | _ => .error (text "read " ++ path ++ text ": is a directory")

end Directory

end Lisplet.Command
