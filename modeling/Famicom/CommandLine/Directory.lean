import Famicom.Session.FileError

/-!
A directory held in memory, without further directories in it: what a run reads and writes when it
is not given the real file system.
-/

namespace Famicom

structure Directory where
  files : List (String × ByteArray) := []

namespace Directory

/-- Where a path leads. Of what lies above the directory only some directories are known, and two
empty devices: `null` takes everything and `full` nothing. -/
inductive Spot
  | here
  | above
  | file (name : String)
  | null
  | full
  deriving DecidableEq

def Spot.isDirectory : Spot → Bool
  | here | above => true
  | file _ | null | full => false

def systemDirectories : List String :=
  ["bin", "boot", "dev", "etc", "home", "lib", "media", "mnt", "opt", "proc", "root", "run", "sbin",
    "srv", "sys", "tmp", "usr", "var"]

def contents? (directory : Directory) (name : String) : Option ByteArray :=
  directory.files.lookup name

def step (directory : Directory) (spot : Spot) (name : String) : Except FileError Spot :=
  if !spot.isDirectory then .error .notADirectory
  else if name = "" ∨ name = "." then .ok spot
  else if name = ".." then .ok .above
  else if 255 < name.utf8ByteSize then .error .nameTooLong
  else
    match spot with
    | .here => if (directory.contents? name).isSome then .ok (.file name) else .error .notFound
    | _ =>
        if systemDirectories.contains name then .ok .above
        else if name = "null" then .ok .null
        else if name = "full" then .ok .full
        else .error .notFound

def begin (path : String) : Except FileError (Spot × List String) :=
  if path.toList.contains '\x00' then .error .nulInName
  else if path.isEmpty then .error .notFound
  else if 4096 ≤ path.utf8ByteSize then .error .nameTooLong
  else .ok (if path.startsWith "/" then .above else .here, path.splitOn "/")

def read (directory : Directory) (path : String) : Except FileError ByteArray := do
  let (start, names) ← begin path
  match ← names.foldlM directory.step start with
  | .here | .above => .error .isADirectory
  | .file name => return (directory.contents? name).getD ByteArray.empty
  | .null | .full => return ByteArray.empty

def put (directory : Directory) (name : String) (contents : ByteArray) : Directory where
  files := (name, contents) :: directory.files.filter fun entry => entry.1 != name

/-- A path that ends with a slash or a dot names a directory, which cannot be written. -/
def write (directory : Directory) (path : String) (contents : ByteArray) :
    Except FileError Directory := do
  let (start, names) ← begin path
  match names.reverse.dropWhile String.isEmpty with
  | [] => .error .isADirectory
  | last :: parents =>
      let spot ← parents.reverse.foldlM directory.step start
      if !spot.isDirectory then .error .notADirectory
      else if last = "." ∨ last = ".." ∨ names.getLast? ≠ some last then .error .isADirectory
      else
        match directory.step spot last with
        | .ok (.file name) => return directory.put name contents
        | .ok .null => return directory
        | .ok .full => .error .noSpace
        | .ok _ => .error .isADirectory
        | .error .notFound => return if spot = .here then directory.put last contents else directory
        | .error error => .error error

theorem contents?_put (directory : Directory) (name : String) (contents : ByteArray) :
    (directory.put name contents).contents? name = some contents := by
  simp [put, contents?]

theorem contents?_put_of_ne (directory : Directory) (contents : ByteArray) {name other : String}
    (differs : other ≠ name) :
    (directory.put name contents).contents? other = directory.contents? other := by
  have apart : (other == name) = false := beq_eq_false_iff_ne.mpr differs
  simp only [put, contents?, List.lookup_cons, apart]
  induction directory.files with
  | nil => rfl
  | cons entry rest ih =>
      obtain ⟨key, value⟩ := entry
      by_cases same : key = name
      · subst same
        simp [List.lookup_cons, apart, ih]
      · simp [same, List.lookup_cons, ih]

end Directory

end Famicom
