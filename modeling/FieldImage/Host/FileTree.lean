import FieldImage.Host.Path

/-! A tree of directories and files, as far as segments and settings need one: a file is known by a
number, so that a file that was removed can live on for those who have it open. -/

namespace FieldImage

inductive FileNode where
  | directory
  | file (id : Nat)
  /-- Something that holds nothing and keeps nothing. -/
  | device
deriving DecidableEq, Repr

/-- The nodes by the names on the way to them from the root, which is a directory itself. -/
structure FileTree where
  nodes : List (List String × FileNode)
deriving Repr

namespace FileTree

/-- The way from the root to the working directory. -/
def workingDirectory : List String := ["tmp", "work"]

/-- The directories that are always there. -/
def commonDirectories : List (List String) :=
  [["bin"], ["dev"], ["dev", "shm"], ["etc"], ["home"], ["lib"], ["opt"], ["proc"], ["root"],
   ["run"], ["sys"], ["tmp"], workingDirectory, ["usr"], ["var"]]

def empty : FileTree :=
  ⟨(commonDirectories.map fun p => (p, .directory)) ++
    ["full", "null", "zero"].map fun name => (["dev", name], .device)⟩

def lookup (t : FileTree) (way : List String) : Option FileNode :=
  if way.isEmpty then some .directory else (t.nodes.find? (·.1 == way)).map (·.2)

def child? (t : FileTree) (here : List String) (name : String) :
    Except PathFault (Option FileNode) :=
  if Path.maxName < name.utf8ByteSize then throw .tooLong else pure (t.lookup (here ++ [name]))

/-- One step on the way through directories. -/
def enter (t : FileTree) (here : List String) (name : String) : Except PathFault (List String) :=
  if name == "." then pure here
  else if name == ".." then pure here.dropLast
  else do
    match ← t.child? here name with
    | some .directory => pure (here ++ [name])
    | some _ => throw .notDirectory
    | none => throw .absent

/-- A path in a tree: the directory that it leads to, and the last name if that is no step. -/
structure Goal where
  directory : List String
  name : Option String
  endsInSlash : Bool

/-- The goal of a path; all names but the last have to be directories. -/
def goal (t : FileTree) (path : String) : Except PathFault Goal := do
  let p ← Path.ofText path
  let start := if p.fromRoot then [] else workingDirectory
  match p.names.reverse with
  | [] => pure ⟨start, none, p.endsInSlash⟩
  | last :: back =>
    let directory ← back.reverse.foldlM t.enter start
    if Path.isStep last then pure ⟨← t.enter directory last, none, p.endsInSlash⟩
    else pure ⟨directory, some last, p.endsInSlash⟩

def node (t : FileTree) (path : String) : Except PathFault FileNode := do
  let g ← t.goal path
  match g.name with
  | none => pure .directory
  | some name =>
    match ← t.child? g.directory name with
    | none => throw .absent
    | some .directory => pure .directory
    | some n => if g.endsInSlash then throw .notDirectory else pure n

def node? (t : FileTree) (path : String) : Option FileNode := (t.node path).toOption

def contains (t : FileTree) (path : String) : Bool := (t.node? path).isSome

def isDirectory (t : FileTree) (path : String) : Bool := t.node? path == some .directory

def file? (t : FileTree) (path : String) : Option Nat :=
  match t.node? path with
  | some (.file id) => some id
  | _ => none

def insert (t : FileTree) (way : List String) (n : FileNode) : FileTree :=
  { t with nodes := t.nodes ++ [(way, n)] }

def makeDirectory (t : FileTree) (path : String) : Except PathFault FileTree := do
  let g ← t.goal path
  match g.name with
  | none => throw .present
  | some name =>
    match ← t.child? g.directory name with
    | some _ => throw .present
    | none => pure (t.insert (g.directory ++ [name]) .directory)

/-- A directory that could not be made is good enough when it is there. -/
def settle (path : String) : Except PathFault FileTree → FileTree → Except PathFault Unit × FileTree
  | .ok made, _ => (.ok (), made)
  | .error e, t => (if t.isDirectory path then .ok () else .error e, t)

/-- Makes a directory and those around it, for a path of at most `fuel` characters. What was made
before a failure stays. -/
def makeDirectoriesWithin (path : String) : (fuel : Nat) → FileTree →
    Except PathFault Unit × FileTree
  | 0, t => (if path.isEmpty then .ok () else .error .absent, t)
  | fuel + 1, t =>
    if path.isEmpty then (.ok (), t)
    else
      match t.makeDirectory path with
      | .error .absent =>
        match Path.parent? path with
        | none => (.error .absent, t)
        | some parent =>
          match makeDirectoriesWithin parent fuel t with
          | (.ok _, t) => settle path (t.makeDirectory path) t
          | failed => failed
      | r => settle path r t

def makeDirectories (t : FileTree) (path : String) : Except PathFault Unit × FileTree :=
  makeDirectoriesWithin path path.length t

/-- Opens the file of a path, under the number `fresh` when it has to be made. -/
def openFile (t : FileTree) (path : String) (fresh : Nat) : Except PathFault (FileTree × Nat) := do
  let g ← t.goal path
  match g.name with
  | none => throw .isDirectory
  | some name =>
    if g.endsInSlash then throw .isDirectory
    else
      match ← t.child? g.directory name with
      | some .directory => throw .isDirectory
      | some .device => throw .invalid
      | some (.file id) => pure (t, id)
      | none => pure (t.insert (g.directory ++ [name]) (.file fresh), fresh)

/-- Removes a file; a path that names none changes nothing. -/
def remove (t : FileTree) (path : String) : FileTree :=
  match t.file? path with
  | some id => { t with nodes := t.nodes.filter (·.2 != .file id) }
  | none => t

end FileTree

end FieldImage
