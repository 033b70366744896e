import FieldImage.Host.FileTree
import FieldImage.Settings.Environment
import FieldImage.Settings.Reader
import FieldImage.Yaml.Document

/-! Loading settings: the defaults, over them a YAML file, and over that the environment. -/

namespace FieldImage

/-- The members of `top` go into those of `base`, one by one; any other value replaces. -/
def Json.merge : (fuel : Nat) → (base top : Json) → Json
  | 0, _, top => top
  | fuel + 1, .object base, .object top =>
    .object (top.foldl (fun members (name, value) =>
      match members.find? (·.1 == name) with
      | some (_, old) => Json.putMember name (Json.merge fuel old value) members
      | none => Json.putMember name value members) base)
  | _, _, top => top

/-- What settings are loaded from: files by path, and the environment. -/
structure Surroundings where
  tree : FileTree
  /-- The texts of the files by their numbers. -/
  texts : Array String
  environment : List (String × String)

namespace Surroundings

/-- A tree with one file more, and the directories of its path. -/
def placeFile (t : FileTree) (path : String) (id : Nat) : FileTree :=
  let t := ((Path.parent? path).map fun dir => (t.makeDirectories dir).2).getD t
  ((t.openFile path id).toOption.map (·.1)).getD t

/-- Files of given paths and texts, in a tree that has no others, and an environment. -/
def ofFiles (files environment : List (String × String)) : Surroundings :=
  ⟨files.zipIdx.foldl (fun t (file, id) => placeFile t file.1 id) FileTree.empty,
    (files.map (·.2)).toArray, environment⟩

def text? (s : Surroundings) (path : String) : Option String :=
  (s.tree.file? path).map fun id => s.texts[id]?.getD ""

def variableText? (s : Surroundings) (name : String) : Option String :=
  (s.environment.find? (·.1 == name)).map (·.2)

end Surroundings

namespace Settings

/-- The start of the names of variables with settings. -/
def variableStart : String := "IOSRV_"

def segmentVariable : String := "IOSRV_SHM_PATH"

/-- The file that is read when it is there and no other is named. -/
def defaultFile : String := "config/iosrv.yaml"

/-- The defaults, with the segment path of the environment. -/
def defaults (s : Surroundings) : Settings :=
  match s.variableText? segmentVariable with
  | some path => default (if path.isEmpty then defaultSegmentPath else path)
  | none => default defaultSegmentPath

/-- The members that a file sets; a path that names no file sets none. -/
def ofFile (s : Surroundings) (path : String) : Except Fault Json :=
  match s.text? path with
  | none => pure (.object [])
  | some text =>
    match Yaml.members? text with
    | some members => pure (.object members)
    | none => throw (.config .unreadableSettings)

def ofVariables (s : Surroundings) : Json :=
  s.environment.foldl (fun j (name, text) =>
    match Environment.path? variableStart name with
    | none => j
    | some keys => Json.merge 100 j (Environment.nest (Environment.valueOf text) keys))
    (.object [])

/-- The file that a load reads, which has to be there when it is named. -/
def fileOf (s : Surroundings) (path : Option String) : Except Fault (Option String) :=
  match path with
  | some path =>
    if s.tree.contains path then pure (some path) else throw (.config (.fileAbsent path))
  | none => pure (if s.tree.contains defaultFile then some defaultFile else none)

def read (s : Surroundings) (path : Option String) : Except Fault Settings := do
  let file ← fileOf s path
  let inFile ← (file.map (ofFile s)).getD (pure (.object []))
  match ofJson? false (defaults s) (Json.merge 100 inFile (ofVariables s)) with
  | some settings => pure settings
  | none => throw (.config .unreadableSettings)

def load (s : Surroundings) (path : Option String) : Except Fault Settings := do
  let settings ← read s path
  settings.validate
  pure settings

end Settings

end FieldImage
