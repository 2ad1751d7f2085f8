import PageBuilder.CommandLine.PathName
import PageBuilder.Numeral
import PageBuilder.Text.Literal

/-! # Files

What a command line finds behind a path name, and the faults of reading and writing there. A
`Folder` is a finite set of files that is walked like a disk: every part of a path is looked up in
the directory that the parts before it lead to.

## Implementation notes

The folder stands in a directory of unknown name. Places outside of it are told apart, but only the
root, the directories above the folder, the common directories of a system and the null device are
known to be there. -/

namespace PageBuilder

/-- What stands at a place. -/
inductive Entry where
  | content (bytes : List UInt8)
  | directory
  deriving DecidableEq, Repr

/-- Why a file is not read or written. -/
inductive FileFault where
  | absent
  | alreadyThere
  | notADirectory
  | isADirectory
  | nameTooLong
  /-- A name with a null character cannot be asked for. -/
  | nullInName
  deriving DecidableEq, Repr

namespace FileFault

/-- The number of a fault that the system reports. -/
def code? : FileFault → Option Int
  | .absent => some 2
  | .alreadyThere => some 17
  | .notADirectory => some 20
  | .isADirectory => some 21
  | .nameTooLong => some 36
  | .nullInName => none

def reason : FileFault → String
  | .absent => "No such file or directory"
  | .alreadyThere => "File exists"
  | .notADirectory => "Not a directory"
  | .isADirectory => "Is a directory"
  | .nameTooLong => "File name too long"
  | .nullInName => "embedded null byte"

/-- The message about a path, for a fault that the system reports. -/
def message? (f : FileFault) (p : PathName) : Option String :=
  f.code?.map fun code =>
    "[Errno " ++ Numeral.text code ++ "] " ++ f.reason ++ ": " ++
      String.ofList (Text.literal p.text)

/-- Nothing is there, as far as a search for an optional file goes. -/
def isAbsence : FileFault → Bool
  | .absent | .notADirectory | .nullInName => true
  | .alreadyThere | .isADirectory | .nameTooLong => false

end FileFault

/-- What a path name leads to. -/
abbrev Look := PathName → Except FileFault Entry

/-- The bytes that a path name leads to. -/
def Look.read (look : Look) (p : PathName) : Except FileFault (List UInt8) :=
  match look p with
  | .ok (.content bytes) => .ok bytes
  | .ok .directory => .error .isADirectory
  | .error fault => .error fault

/-- Where a walk starts. -/
inductive Base where
  | root
  /-- The folder, or a directory so many steps above it. -/
  | folder (above : Nat)
  deriving DecidableEq, Repr

/-- A place: the names that go down from a base. -/
structure Place where
  base : Base
  names : List String := []
  deriving DecidableEq, Repr

namespace Place

def down (p : Place) (name : String) : Place :=
  { p with names := p.names ++ [name] }

/-- The directory above. The root is above itself. -/
def up (p : Place) : Place :=
  if p.names.isEmpty then
    match p.base with
    | .root => p
    | .folder n => ⟨.folder (n + 1), []⟩
  else { p with names := p.names.dropLast }

/-- The place is `q` or on the way to it. -/
def leadsTo (p q : Place) : Bool :=
  p.base == q.base && p.names.isPrefixOf q.names

/-- The names of a place in the folder. -/
def inFolder? (p : Place) : Option (List String) :=
  match p.base with
  | .folder 0 => some p.names
  | _ => none

/-- Where the path names of a root start. -/
def start (root : String) : Place :=
  ⟨if root = "" then .folder 0 else .root, []⟩

end Place

/-- The most bytes that a part of a path has. -/
def maxPartBytes : Nat := 255

/-- The most bytes that a path has. -/
def maxPathBytes : Nat := 4095

/-- Files and directories by place. What is on the way to a file is a directory too. -/
structure Folder where
  files : List (Place × List UInt8)
  directories : List Place := []

namespace Folder

/-- The device that is empty to readers and takes what is written. -/
def nullDevice : Place := ⟨.root, ["dev", "null"]⟩

/-- The directories that stand at the root of a system. -/
def commonDirectories : List Place :=
  ["bin", "boot", "dev", "etc", "home", "lib", "media", "mnt", "opt", "proc", "root", "run", "sbin",
    "srv", "sys", "tmp", "usr", "var"].map fun name => ⟨.root, [name]⟩

/-- The folder that holds some files. -/
def ofFiles (files : List (PathName × List UInt8)) : Folder where
  files := (nullDevice, []) :: files.map fun f => (⟨.folder 0, f.1.parts⟩, f.2)
  directories := commonDirectories

/-- What stands at a place. -/
def at? (f : Folder) (p : Place) : Option Entry :=
  match f.files.lookup p with
  | some bytes => some (.content bytes)
  | none =>
    if p.names.isEmpty || f.directories.any p.leadsTo || f.files.any fun e => p.leadsTo e.1 then
      some .directory
    else none

/-- Go on from a place by one part of a path. -/
def step (f : Folder) (here : Place) (part : String) : Except FileFault Place :=
  match f.at? here with
  | none => .error .absent
  | some (.content _) => .error .notADirectory
  | some .directory =>
    if part = ".." then .ok here.up
    else if part.utf8ByteSize > maxPartBytes then .error .nameTooLong
    else .ok (here.down part)

/-- The place that a path name leads to, where something may stand or not. -/
def find (f : Folder) (p : PathName) : Except FileFault Place :=
  if p.text.toList.contains '\x00' then .error .nullInName
  else if p.text.utf8ByteSize > maxPathBytes then .error .nameTooLong
  else p.parts.foldlM f.step (.start p.root)

/-- What a path name leads to in a folder. -/
def look (f : Folder) : Look := fun p =>
  match f.find p with
  | .error fault => .error fault
  | .ok place =>
    match f.at? place with
    | some entry => .ok entry
    | none => .error .absent

/-- Make a directory, unless it is there. -/
def makeDirectory (f : Folder) (p : PathName) : Except FileFault Folder :=
  match f.find p with
  | .error fault => .error fault
  | .ok place =>
    match f.at? place with
    | some .directory => .ok f
    | some (.content _) => .error .alreadyThere
    | none => .ok { f with directories := place :: f.directories }

/-- Make a directory, given by the parts of its path from the last to the first. Those above it are
made only where it cannot be made without them. -/
def makeDirectories (f : Folder) (root : String) : List String → Except FileFault Folder
  | [] => f.makeDirectory ⟨root, []⟩
  | last :: above =>
    match f.makeDirectory ⟨root, (last :: above).reverse⟩ with
    | .error .absent =>
      match f.makeDirectories root above with
      | .error fault => .error fault
      | .ok g => g.makeDirectory ⟨root, (last :: above).reverse⟩
    | made => made

/-- Make the directory that will hold a file. -/
def makeParent (f : Folder) (p : PathName) : Except FileFault Folder :=
  f.makeDirectories p.root p.parent.parts.reverse

/-- Write a file, and make the directory that will hold it. -/
def write (f : Folder) (p : PathName) (bytes : List UInt8) : Except FileFault Folder :=
  match f.makeParent p with
  | .error fault => .error fault
  | .ok g =>
    match g.find p with
    | .error fault => .error fault
    | .ok place =>
      match g.at? place with
      | some .directory => .error .isADirectory
      | _ => .ok { g with files := (place, bytes) :: g.files.filter (·.1 != place) }

/-- The files of the folder that are new since an earlier state of it. -/
def newFiles (f earlier : Folder) : List (List String × List UInt8) :=
  f.files.filterMap fun (place, bytes) =>
    if (earlier.files.lookup place).isSome then none
    else place.inFolder?.map fun names => (names, bytes)

end Folder

end PageBuilder
