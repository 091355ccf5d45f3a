import DeviceFilter.Files.Access
import DeviceFilter.Text.Split

/-!
A file system in memory: files, directories and symbolic links by their absolute place. Paths are
followed component by component, through links, and fail the way a file system's do: a missing
entry, a file where a directory is needed, too many links, a name that is too long.
-/
set_option autoImplicit false

namespace DeviceFilter

inductive FileNode where
  | file (bytes : List UInt8)
  | directory
  | link (target : Path)
deriving DecidableEq, Repr

/-- A place as its components from the root. -/
abbrev Place := List (List Char)

structure FileTree where
  entries : List (Place × FileNode)

namespace FileTree

/-- Links that may be followed on one way. -/
def linkLimit : Nat := 40

def root : FileTree := ⟨[]⟩

def node? (t : FileTree) (place : Place) : Option FileNode :=
  if place = [] then some .directory else t.entries.lookup place

def put (t : FileTree) (place : Place) (node : FileNode) : FileTree :=
  ⟨(place, node) :: t.entries.filter (·.1 != place)⟩

/-- Adds an entry and the directories above it. -/
def insert (t : FileTree) (place : Place) (node : FileNode) : FileTree :=
  let above := (List.range place.length).map (place.take ·)
  (above.foldl (fun t p => if (t.node? p).isNone then t.put p .directory else t) t).put place node

/-- The parts of a path as they are followed; an empty one asks for a directory. -/
def parts (path : Path) : List (List Char) :=
  (Text.split '/' path.toList).filter (· ≠ ['.'])

def placeOf (path : Path) : Place := (parts path).filter (· ≠ [])

/-- The path to a place from the root. -/
def pathOf (place : Place) : Path := String.ofList ('/' :: ['/'].intercalate place)

/-- Follows `todo` from the directory `here`. With `last`, a link at the very end is followed
too. -/
def walk (t : FileTree) (last : Bool) (links : Nat) (here : Place) (todo : List (List Char)) :
    Except Nat (Place × FileNode) :=
  match todo with
  | [] => .ok (here, .directory)
  | part :: rest =>
    if part = [] then walk t last links here rest
    else if part = ['.', '.'] then walk t last links here.dropLast rest
    else if 255 < (Utf8.encode part).length then .error Errno.nameTooLong
    else
      match t.node? (here ++ [part]) with
      | none => .error Errno.noEntry
      | some .directory => walk t last links (here ++ [part]) rest
      | some (.file bytes) =>
        if rest = [] then .ok (here ++ [part], .file bytes) else .error Errno.notDirectory
      | some (.link target) =>
        if rest = [] && !last then .ok (here ++ [part], .link target)
        else match links with
          | 0 => .error Errno.tooManyLinks
          | links + 1 =>
            let start := if target.toList.head? = some '/' then [] else here
            walk t last links start (parts target ++ rest)
termination_by (links, todo.length)

/-- The entry at a path, which begins at the root even if it is relative. -/
def find (t : FileTree) (path : Path) (last : Bool) : Except SystemError (Place × FileNode) :=
  if path.toList.contains '\x00' then
    .error (.custom .invalidInput "file name contained an unexpected NUL byte")
  else if path.toList = [] then .error (.errno Errno.noEntry)
  else if 4096 ≤ (Utf8.encode path.toList).length then .error (.errno Errno.nameTooLong)
  else (t.walk last linkLimit [] (parts path)).mapError .errno

def read (t : FileTree) (path : Path) : Except SystemError (List UInt8) :=
  match t.find path true with
  | .ok (_, .file bytes) => .ok bytes
  | .ok (_, _) => .error (.errno Errno.isDirectory)
  | .error e => .error e

def readLink (t : FileTree) (path : Path) : Except SystemError Path :=
  match t.find path false with
  | .ok (_, .link target) => .ok target
  | .ok (_, _) => .error (.errno Errno.invalidArgument)
  | .error e => .error e

def append (t : FileTree) (path : Path) (bytes : List UInt8) : Except SystemError FileTree :=
  match t.find path true with
  | .ok (place, .file old) => .ok (t.put place (.file (old ++ bytes)))
  | .ok (_, _) => .error (.errno Errno.isDirectory)
  | .error e => .error e

/-- The place of a directory. -/
def openDirectory (t : FileTree) (path : Path) : Except SystemError Place :=
  match t.find path true with
  | .ok (place, .directory) => .ok place
  | .ok (_, _) => .error (.errno Errno.notDirectory)
  | .error e => .error e

variable {m : Type → Type} [Monad m] [MonadStateOf FileTree m]

/-- A file tree in the state as a file system. -/
def files : FileAccess m where
  read path := do return (← getThe FileTree).read path
  readLink path := do return (← getThe FileTree).readLink path
  append path bytes := do
    match (← getThe FileTree).append path bytes with
    | .ok t => set t; return .ok ()
    | .error e => return .error e

end FileTree

end DeviceFilter
