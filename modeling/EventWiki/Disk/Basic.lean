import EventWiki.Disk.Path

namespace EventWiki

inductive Disk.Entry where
  | file (bytes : ByteArray)
  | directory (entries : List (String × Disk.Entry))

structure Disk where
  root : List (String × Disk.Entry)
  working : List String

inductive FileError where
  | notFound
  | alreadyExists
  | notADirectory
  | isADirectory
  deriving DecidableEq, Repr

def FileError.message : FileError → String
  | notFound => "No such file or directory (os error 2)"
  | alreadyExists => "File exists (os error 17)"
  | notADirectory => "Not a directory (os error 20)"
  | isADirectory => "Is a directory (os error 21)"

namespace Disk

abbrev Entries := List (String × Entry)

/-- A place on the disk: the directories above it with the names that lead on from each, the
innermost one first. -/
abbrev Above := List (String × Entries)

def walk (entry : Entry) (above : Above) : List String → Except FileError (Entry × Above)
  | [] => .ok (entry, above)
  | step :: rest =>
      match entry with
      | .file _ => .error .notADirectory
      | .directory entries =>
          if Path.isStill step then walk (.directory entries) above rest
          else if step = ".." then
            match above with
            | [] => walk (.directory entries) [] rest
            | (_, parent) :: above => walk (.directory parent) above rest
          else
            match entries.lookup step with
            | some next => walk next ((step, entries) :: above) rest
            | none => .error .notFound

def locate (disk : Disk) (path : String) : Except FileError (Entry × Above) :=
  if path.isEmpty then .error .notFound
  else walk (.directory disk.root) [] (Path.stepsFrom disk.working path)

def find (disk : Disk) (path : String) : Except FileError Entry :=
  (disk.locate path).map Prod.fst

def isPresent (disk : Disk) (path : String) : Bool :=
  match disk.find path with
  | .ok _ => true
  | .error _ => false

def isFile (disk : Disk) (path : String) : Bool :=
  match disk.find path with
  | .ok (.file _) => true
  | _ => false

def isDirectory (disk : Disk) (path : String) : Bool :=
  match disk.find path with
  | .ok (.directory _) => true
  | _ => false

def read (disk : Disk) (path : String) : Except FileError (List UInt8) :=
  match disk.find path with
  | .ok (.file bytes) => .ok bytes.data.toList
  | .ok (.directory _) => .error .isADirectory
  | .error error => .error error

mutual

def Entry.files (path : String) : Entry → List String
  | .file _ => [path]
  | .directory entries =>
      ((filesOfEach path entries).mergeSort fun left right => left.1 ≤ right.1).flatMap Prod.snd

def Entry.filesOfEach (path : String) : List (String × Entry) → List (String × List String)
  | [] => []
  | (name, entry) :: rest =>
      (name, entry.files (Path.join path name)) :: filesOfEach path rest

end

def filesUnder (disk : Disk) (path : String) : Except FileError (List String) :=
  (disk.find path).map (Entry.files path)

def put (entries : Entries) (name : String) (entry : Entry) : Entries :=
  match entries with
  | [] => [(name, entry)]
  | (other, old) :: rest =>
      if other = name then (name, entry) :: rest else (other, old) :: put rest name entry

def rebuild (entries : Entries) : Above → Entries
  | [] => entries
  | (name, parent) :: above => rebuild (put parent name (.directory entries)) above

def write (disk : Disk) (directory name : String) (bytes : ByteArray) :
    Except FileError Disk :=
  match disk.locate (if directory.isEmpty then "." else directory) with
  | .error error => .error error
  | .ok (.file _, _) => .error .notADirectory
  | .ok (.directory entries, above) =>
      match entries.lookup name with
      | some (.directory _) => .error .isADirectory
      | _ => .ok { disk with root := rebuild (put entries name (.file bytes)) above }

/-- Makes a directory in the one above it, which has to be there. A place that is named by a dot or
by two dots is one that exists. -/
def makeDirectory (disk : Disk) (path : String) : Except FileError Disk :=
  let steps := (Path.stepsFrom disk.working path).reverse.dropWhile (·.isEmpty)
  match walk (.directory disk.root) [] steps.tail.reverse with
  | .error error => .error error
  | .ok (.file _, _) => .error .notADirectory
  | .ok (.directory entries, above) =>
      match steps.head? with
      | none => .error .alreadyExists
      | some name =>
          if Path.isStill name || name == ".." || (entries.lookup name).isSome then
            .error .alreadyExists
          else .ok { disk with root := rebuild (put entries name (.directory [])) above }

/-- A directory that cannot be made may be there already. -/
def unlessDirectory (disk : Disk) (path : String) (error : FileError) : Except FileError Disk :=
  if error = .alreadyExists && disk.isDirectory path then .ok disk else .error error

def makeAll (disk : Disk) : List String → Except FileError Disk
  | [] => .ok disk
  | path :: parents =>
      match disk.makeDirectory path with
      | .ok disk => .ok disk
      | .error .notFound =>
          match disk.makeAll parents with
          | .error error => .error error
          | .ok disk => (disk.makeDirectory path).tryCatch (disk.unlessDirectory path)
      | .error error => disk.unlessDirectory path error

/-- Makes a directory with the directories above it. The empty path is the place that paths start
from. -/
def makeDirectories (disk : Disk) (path : String) : Except FileError Disk :=
  if path.isEmpty then .ok disk else disk.makeAll (path :: Path.parents path)

mutual

def Entry.contents (path : String) : Entry → List (String × ByteArray)
  | .file bytes => [(path, bytes)]
  | .directory entries => contentsOfEach path entries

def Entry.contentsOfEach (path : String) : List (String × Entry) → List (String × ByteArray)
  | [] => []
  | (name, entry) :: rest =>
      entry.contents (Path.join path name) ++ contentsOfEach path rest

end

def contents (disk : Disk) (directory : String) : List (String × ByteArray) :=
  match disk.find directory with
  | .ok entry => entry.contents ""
  | .error _ => []

/-- The files below a directory that `before` did not hold in this form. -/
def changes (before after : Disk) (directory : String) : List (String × ByteArray) :=
  (after.contents directory).filter fun (path, bytes) =>
    match before.read (Path.join directory path) with
    | .ok old => old != bytes.data.toList
    | .error _ => true

def place (entries : Entries) (entry : Entry) : List String → Entries
  | [] => entries
  | [name] => put entries name entry
  | name :: rest =>
      match entries.lookup name with
      | some (.directory below) => put entries name (.directory (place below entry rest))
      | _ => put entries name (.directory (place [] entry rest))

def install (disk : Disk) (path : String) (entry : Entry) : Disk :=
  { disk with root := place disk.root entry (Path.names (Path.stepsFrom disk.working path)) }

def empty (working : List String) : Disk :=
  ⟨working.foldr (fun name entries => [(name, .directory entries)]) [], working⟩

end Disk

end EventWiki
