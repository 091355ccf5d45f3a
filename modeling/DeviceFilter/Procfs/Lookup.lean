import DeviceFilter.CgroupVersion
import DeviceFilter.Files.Access
import DeviceFilter.Procfs.CgroupEntry
import DeviceFilter.Procfs.MountEntry
import DeviceFilter.Text.Quoted

/-!
Finding a process's device cgroup from its mount and cgroup tables. Each search goes through the
filled lines of one table from the top, stops at the first line it wants, and is refused by a line
it cannot read before that. The searches are functions of a table's text; reading the table comes
before them.
-/
set_option autoImplicit false

namespace DeviceFilter

inductive LookupError where
  | unreadable (path : Path) (cause : SystemError)
  | badLine (path : Path) (line : String) (fault : LineFault)
  | notFound (path : Path) (what : String)
deriving DecidableEq, Repr

def LookupError.message : LookupError → String
  | unreadable path cause => path ++ ": " ++ cause.message
  | badLine path line fault => path ++ ": " ++ fault.message ++ " in line " ++ Text.quoted line
  | notFound path what => "no " ++ what ++ " found in " ++ path

/-- Messages of the causes, outermost first. -/
def LookupError.causes : LookupError → List String
  | unreadable _ cause => [cause.message]
  | badLine _ _ _ => []
  | notFound _ _ => []

namespace Procfs

/-- The file `name` of a process below the root under which `proc` is found. -/
def processFile (procRoot : Path) (pid : Int) (name : String) : Path :=
  ((procRoot.join "proc").join (toString pid)).join name

def badLine (path : Path) (line : List Char) (fault : LineFault) : LookupError :=
  .badLine path (String.ofList line) fault

/-! ## Searches in a table's lines -/

/-- The first wanted mount. The root of a mount that lies outside of what is visible is refused. -/
def mountIn (path : Path) (wanted : MountEntry → Bool) (what : String) :
    List (List Char) → Except LookupError MountPoint
  | [] => .error (.notFound path what)
  | line :: lines =>
    match MountEntry.ofLine line with
    | .error fault => .error (badLine path line fault)
    | .ok e =>
      if !wanted e then mountIn path wanted what lines
      else if (Text.dropLead? ['/', '.', '.'] e.root.toList).isSome then
        .error (badLine path line .relativeRoot)
      else .ok ⟨e.root, e.mountPoint⟩

/-- A cgroup path below the root of its mount. -/
def belowRoot (root path : String) : String :=
  if root.toList = ['/'] then path
  else match Text.dropLead? root.toList path.toList with
    | some rest => String.ofList rest
    | none => path

/-- The path of the first wanted hierarchy, below `root`. -/
def rootIn (path : Path) (root : String) (wanted : CgroupEntry → Bool) (what : String) :
    List (List Char) → Except LookupError String
  | [] => .error (.notFound path what)
  | line :: lines =>
    match CgroupEntry.ofLine? line with
    | none => .error (badLine path line .malformedEntry)
    | some e =>
      if wanted e then .ok (belowRoot root e.path) else rootIn path root wanted what lines

/-- A line with the devices controller decides for the first version, even after a line of the
unified hierarchy. -/
def versionIn (path : Path) : Bool → List (List Char) → Except LookupError CgroupVersion
  | true, [] => .ok .v2
  | false, [] => .error (.notFound path "devices or unified cgroup entry")
  | unified, line :: lines =>
    match CgroupEntry.ofLine? line with
    | none => .error (badLine path line .malformedEntry)
    | some e => if e.hasDevices then .ok .v1 else versionIn path (unified || e.isUnified) lines

/-! ## Searches in a table's text -/

def mountOf (path : Path) (wanted : MountEntry → Bool) (what : String) (text : String) :
    Except LookupError MountPoint :=
  mountIn path wanted what (Text.filledLines text.toList)

def rootOf (path : Path) (root : String) (wanted : CgroupEntry → Bool) (what : String)
    (text : String) : Except LookupError String :=
  rootIn path root wanted what (Text.filledLines text.toList)

def versionOf (path : Path) (text : String) : Except LookupError CgroupVersion :=
  versionIn path false (Text.filledLines text.toList)

/-- The mount that governs devices for a version. -/
def deviceMountOf (version : CgroupVersion) (path : Path) (text : String) :
    Except LookupError MountPoint :=
  match version with
  | .v1 =>
    mountOf path MountEntry.isDevicesV1 "cgroup filesystem for the devices subsystem" text
  | .v2 => mountOf path MountEntry.isV2 "cgroup2 filesystem" text

/-- The cgroup path that governs devices for a version. -/
def deviceRootOf (version : CgroupVersion) (path : Path) (root : String) (text : String) :
    Except LookupError String :=
  match version with
  | .v1 => rootOf path root CgroupEntry.hasDevices "devices cgroup entry" text
  | .v2 => rootOf path root CgroupEntry.isUnified "unified cgroup entry" text

/-- The directory of a device cgroup: mount point and cgroup path below the root under which the
tables were found, whatever slashes they begin with. -/
def directory (procRoot : Path) (mountPath root : String) : Path :=
  let below (path : Path) (part : String) : Path :=
    path.join (String.ofList (Path.dropSlashes part.toList))
  below (below procRoot mountPath) root

/-! ## Reading the tables -/

section
variable {m : Type → Type} [Monad m] (files : FileAccess m)

/-- Reads a table and searches its text. -/
def readTable {α : Type} (path : Path) (search : String → Except LookupError α) :
    m (Except LookupError α) := do
  match ← files.readText path with
  | .error cause => return .error (.unreadable path cause)
  | .ok text => return search text

def findMount (procRoot : Path) (pid : Int) (wanted : MountEntry → Bool) (what : String) :
    m (Except LookupError MountPoint) :=
  let path := processFile procRoot pid "mountinfo"
  readTable files path (mountOf path wanted what)

def detectVersion (procRoot : Path) (pid : Int) : m (Except LookupError CgroupVersion) :=
  let path := processFile procRoot pid "cgroup"
  readTable files path (versionOf path)

def deviceMount (version : CgroupVersion) (procRoot : Path) (pid : Int) :
    m (Except LookupError MountPoint) :=
  let path := processFile procRoot pid "mountinfo"
  readTable files path (deviceMountOf version path)

def deviceRoot (version : CgroupVersion) (procRoot : Path) (root : String) (pid : Int) :
    m (Except LookupError String) :=
  let path := processFile procRoot pid "cgroup"
  readTable files path (deviceRootOf version path root)

/-- The directory of a process's device cgroup. -/
def deviceDirectory (version : CgroupVersion) (procRoot : Path) (pid : Int) :
    m (Except LookupError Path) := do
  match ← deviceMount files version procRoot pid with
  | .error e => return .error e
  | .ok mount =>
    match ← deviceRoot files version procRoot mount.root pid with
    | .error e => return .error e
    | .ok root => return .ok (directory procRoot mount.mountPath root)

end

end Procfs

end DeviceFilter
