import SchemaChart.Text.Basic
import SchemaChart.Text.Quoted
import SchemaChart.Text.Utf8

/-!
# Paths in a folder

A path is followed name by name from the folder that a run starts in. Two points lead
to the folder above, and only a directory has names in it. A name can only be looked
up if it is not too long, and so can a path; names behind one that leads nowhere are
not looked at.

Of what lies above the folder, only the directories that every system has are known, and
a few files in them that hold no script.
-/

namespace SchemaChart.Command

inductive PathEntry
  | file (content : Bytes)
  | directory

/-- A path was not looked up because it, or a name on it, is too long. -/
structure PathTooLong where
  path : Text
  deriving DecidableEq, Repr

def PathTooLong.message (e : PathTooLong) : Text :=
  "[Errno 36] File name too long: " ++ e.path.cited

/-- The parts of a path that count: no empty ones, and none that stand for the place
itself. -/
def pathNames (path : Text) : List Text :=
  (Text.pieces '/' path).filter fun part => !part.isEmpty && part ≠ ['.']

/-- A path written with only the parts that count; nothing left is the place itself.
Exactly two slashes at the beginning are kept apart from one. -/
def normalPath (path : Text) : Text :=
  let slashes := (path.takeWhile (· = '/')).length
  let root : Text := if slashes = 0 then "" else if slashes = 2 then "//" else "/"
  let normal := root ++ Text.joinWith "/" (pathNames path)
  if normal.isEmpty then "." else normal

/-- The most bytes of a name, and those that a path has to stay below. -/
def nameLimit : Nat := 255

def pathLimit : Nat := 4096

/-- A folder: what is in it by the names that lead there. What has entries below it is
a directory without being listed. -/
structure Folder where
  entries : List (List Text × PathEntry)

/-- Where a path has led so far: to the directory of the given names in the folder, to
that of the given names in the system, or to somewhere between the two. -/
inductive Standing
  | inside (names : List Text)
  | above
  | system (names : List Text)

namespace Folder

def entry? (f : Folder) (names : List Text) : Option PathEntry :=
  match f.entries.find? fun entry => entry.1 = names with
  | some entry => some entry.2
  | none => if f.entries.any fun entry => names.isPrefixOf entry.1 then some .directory else none

def systemDirectories : List String :=
  ["/bin", "/boot", "/dev", "/dev/shm", "/etc", "/home", "/lib", "/media", "/mnt", "/opt",
    "/proc", "/root", "/run", "/sbin", "/srv", "/sys", "/tmp", "/usr", "/usr/bin", "/usr/lib",
    "/usr/local", "/var", "/var/log", "/var/tmp"]

/-- Files that no script is in; their content does not matter apart from that. -/
def systemFiles : List String :=
  ["/dev/null", "/etc/group", "/etc/hostname", "/etc/hosts", "/etc/passwd"]

/-- What is known of every system. -/
def ofSystem : Folder :=
  ⟨(systemDirectories.map fun path => (pathNames path.toList, .directory)) ++
    systemFiles.map fun path => (pathNames path.toList, .file [])⟩

def parent : Standing → Standing
  | .inside [] => .above
  | .inside names => .inside names.dropLast
  | .above => .above
  | .system names => .system names.dropLast

/-- What a name leads to, and where one stands then. -/
def enter? (f : Folder) (name : Text) : Standing → Option (Standing × PathEntry)
  | .inside names =>
    (f.entry? (names ++ [name])).map fun entry => (.inside (names ++ [name]), entry)
  | .above => none
  | .system names =>
    (ofSystem.entry? (names ++ [name])).map fun entry => (.system (names ++ [name]), entry)

/-- What the names lead to from where one stands; `none` in the result stands for a name
that is too long. -/
def follow (f : Folder) (here : Standing) : List Text → Option (Option PathEntry)
  | [] => some (some .directory)
  | name :: rest =>
    if name = ".." then follow f (parent here) rest
    else if nameLimit < name.encode.length then none
    else match f.enter? name here with
      | none => some none
      | some (there, .directory) => follow f there rest
      | some (_, .file content) => some (if rest.isEmpty then some (.file content) else none)

def lookUp (f : Folder) (path : Text) : Except PathTooLong (Option PathEntry) :=
  let here : Standing := if path.head? = some '/' then .system [] else .inside []
  if pathLimit ≤ path.encode.length then .error ⟨path⟩
  else match f.follow here (pathNames path) with
    | some entry => .ok entry
    | none => .error ⟨path⟩

end Folder

end SchemaChart.Command
