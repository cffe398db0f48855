import AnalyticsClient.Config.Toml

/-! Files, and the configurations that they hold. -/

namespace AnalyticsClient

/-- The reasons for which a file cannot be read, written or made. -/
inductive FileFault where
  | notFound
  | alreadyThere
  | notDirectory
  | isDirectory
  | nameTooLong
  /-- A path with a NUL in it, which ends paths elsewhere. -/
  | nulInPath
  /-- The bytes of a file are no text. -/
  | notText
deriving DecidableEq

/-- The text of a fault. -/
def FileFault.reason : FileFault → String
  | .notFound => "No such file or directory (os error 2)"
  | .alreadyThere => "File exists (os error 17)"
  | .notDirectory => "Not a directory (os error 20)"
  | .isDirectory => "Is a directory (os error 21)"
  | .nameTooLong => "File name too long (os error 36)"
  | .nulInPath => "file name contained an unexpected NUL byte"
  | .notText => "stream did not contain valid UTF-8"

/-- What a path may lead to. -/
inductive FileNode where
  | file (content : ByteArray)
  | directory

/-- A place among files: the names that lead there from a directory that is the root. A place
outside starts with steps up, or with the slash that stands for the top of all files. -/
abbrev Place := List String

namespace Place

/-- The step to the directory above. -/
def upward : String := ".."

/-- The top of all files. -/
def top : Place := ["/"]

/-- Whether there is a directory at a place from the start: at the root, above it and at the top. -/
def isGiven (place : Place) : Bool := place.all (· = upward) || place = top

/-- The directory in which a place is. -/
def above (place : Place) : Place :=
  if place = top then top
  -- From outside the root the way leads further out.
  else if place.all (· = upward) then place ++ [upward]
  else place.dropLast

end Place

/-- The way that a path describes. -/
structure Route where
  /-- Where the way starts. -/
  start : Place
  /-- The steps, one after the other. -/
  steps : List String
  /-- Whether something that is no directory is excluded at the end. -/
  toDirectory : Bool

namespace Route

/-- The texts between the slashes of a path; `made` is the one begun, its last character first. -/
def splitAtSlashes (made : List Char) : List Char → List String
  | [] => [String.ofList made.reverse]
  | '/' :: rest => String.ofList made.reverse :: splitAtSlashes [] rest
  | c :: rest => splitAtSlashes (c :: made) rest

/-- Whether a path starts at the top of all files. -/
def isAbsolute (path : String) : Bool := path.toList.head? = some '/'

/-- The way of a path. Several slashes count as one, and one at the end leads to a directory. -/
def ofPath (path : String) : Route :=
  let parts := splitAtSlashes [] path.toList
  { start := if isAbsolute path then .top else []
    steps := parts.filter (· ≠ "")
    toDirectory := parts.getLast? = some "" }

end Route

/-- The files below a directory. -/
structure FileTree where
  /-- The name of the directory itself. -/
  root : String
  /-- What is in it, each with its place. -/
  nodes : List (Place × FileNode)

namespace FileTree

/-- The most bytes that a name may have. -/
def longestName : Nat := 255

/-- The most bytes that a path may have. -/
def longestPath : Nat := 4095

/-- A directory with nothing in it. -/
def empty (root : String) : FileTree := ⟨root, []⟩

/-- A path with the name of the directory in front, unless it starts at the top of all files. -/
def shown (tree : FileTree) (path : String) : String :=
  if Route.isAbsolute path then path else tree.root ++ "/" ++ path

/-- What is at a place, with no regard to what is on the way. -/
def node? (tree : FileTree) (place : Place) : Option FileNode :=
  if place.isGiven then some .directory
  else (tree.nodes.find? fun node => node.1 = place).map Prod.snd

/-- Fails unless there is a directory at a place. -/
def requireDirectory (tree : FileTree) (place : Place) : Except FileFault Unit :=
  match tree.node? place with
  | none => .error .notFound
  | some (.file _) => .error .notDirectory
  | some .directory => .ok ()

/-- One step on from a place, which has to be a directory. -/
def enter (tree : FileTree) (place : Place) (step : String) : Except FileFault Place := do
  tree.requireDirectory place
  if step = "." then return place
  else if step = Place.upward then return place.above
  -- The two steps that are no names are never too long.
  else if longestName < step.utf8ByteSize then .error .nameTooLong
  else return place ++ [step]

/-- Goes along steps. The last one may lead to nothing. -/
def walk (tree : FileTree) (place : Place) : List String → Except FileFault Place
  | [] => .ok place
  | step :: rest => do
    let next ← tree.enter place step
    walk tree next rest

/-- The way of a path that can be followed at all. -/
def route (tree : FileTree) (path : String) : Except FileFault Route :=
  if '\x00' ∈ path.toList then .error .nulInPath
  else if longestPath < (tree.shown path).utf8ByteSize then .error .nameTooLong
  else .ok (.ofPath path)

/-- What a path leads to. -/
def find (tree : FileTree) (path : String) : Except FileFault FileNode := do
  let route ← tree.route path
  let place ← tree.walk route.start route.steps
  match tree.node? place with
  | none => .error .notFound
  -- A slash at the end excludes a file.
  | some (.file content) =>
    if route.toDirectory then .error .notDirectory else return .file content
  | some .directory => return .directory

/-- The content of a file. -/
def read (tree : FileTree) (path : String) : Except FileFault String := do
  match ← tree.find path with
  | .directory => .error .isDirectory
  | .file content =>
    match String.fromUTF8? content with
    | some text => return text
    | none => .error .notText

/-- Whether a path leads anywhere. -/
def reaches (tree : FileTree) (path : String) : Bool := (tree.find path).isOk

/-- The tree with something put at a place. -/
def put (tree : FileTree) (place : Place) (node : FileNode) : FileTree :=
  { tree with nodes := (place, node) :: tree.nodes.filter fun other => other.1 ≠ place }

/-- The place at which a path lets a file be written: what is there is a file or nothing. -/
def fileSite (tree : FileTree) (path : String) : Except FileFault Place := do
  let route ← tree.route path
  let parent ← tree.walk route.start route.steps.dropLast
  tree.requireDirectory parent
  -- A path that must lead to a directory names no file, whether or not it leads anywhere.
  if route.toDirectory then .error .isDirectory
  let place ← tree.walk parent route.steps.getLast?.toList
  match tree.node? place with
  | some .directory => .error .isDirectory
  | _ => return place

/-- The tree with a file written. -/
def write (tree : FileTree) (path : String) (content : ByteArray) : Except FileFault FileTree := do
  let place ← tree.fileSite path
  return tree.put place (.file content)

/-- The tree with a directory made, in one that is there already. -/
def makeDirectory (tree : FileTree) (path : String) : Except FileFault FileTree := do
  let route ← tree.route path
  let place ← tree.walk route.start route.steps
  match tree.node? place with
  | none => return tree.put place .directory
  | some _ => .error .alreadyThere

end FileTree

namespace Config

/-- The name of the file that holds a configuration. -/
def fileName : String := "cbbridge.toml"

/-- The error that a file with a configuration cannot be used. -/
def fileError (what : String) (tree : FileTree) (path : String) (fault : FileFault) : Error :=
  .config ("failed to " ++ what ++ " '" ++ tree.shown path ++ "': " ++ fault.reason)

/-- The configuration in a file. -/
def load (tree : FileTree) (path : String) : Outcome Config := do
  let text ← (tree.read path).mapError (fileError "read config file" tree path)
  match ofToml text with
  -- Whatever is wrong with the text, the message tells the file.
  | .error (.config reason) => .error (.config (tree.shown path ++ ": " ++ reason))
  | other => other

/-- Writes the default configuration, if nothing is in its place. -/
def saveDefaultIfMissing (tree : FileTree) (path : String) : Outcome FileTree :=
  if tree.reaches path then .ok tree
  else
    (tree.write path defaultToml.toUTF8).mapError (fileError "write default config file" tree path)

/-- Writes a configuration. -/
def save (config : Config) (tree : FileTree) (path : String) : Outcome FileTree := do
  let text ← config.toToml.mapError fun fault => .config fault.reason
  (tree.write path text.toUTF8).mapError (fileError "write config file" tree path)

end Config

end AnalyticsClient
