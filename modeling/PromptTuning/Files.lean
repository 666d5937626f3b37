/-!
# Files

Text files in folders. A path names the folders on the way to a file, from the
outermost on; a folder has to be there before a path leads through it, even if
the path leads out of it again. Writing a file makes the folders on its way,
unless a file is in the place of one; folders that were made stay even if the
file is not written.
-/

namespace PromptTuning

/-- What is at a place among files. -/
inductive FileEntry
  | folder
  | text (content : String)

namespace FileEntry

/-- Whether an entry is a folder. -/
def isFolder : FileEntry -> Bool
  | .folder => true
  | .text _ => false

/-- The text of a file. -/
def content? : FileEntry -> Option String
  | .folder => none
  | .text content => some content

end FileEntry

/-- Files and folders under the names of the folders around them
and their own. -/
abbrev Files := List (List String × FileEntry)

namespace Files

/-- The most bytes of a name. -/
def maximalNameSize : Nat := 255

/-- The most bytes of a path. -/
def maximalPathSize : Nat := 4095

/-- Whether a path can lead anywhere. -/
def isUsable (path : String) : Bool :=
  !path.isEmpty && path.utf8ByteSize ≤ maximalPathSize &&
  !path.toList.contains '\x00'

/-- What is at a place; the place without a name is the outermost folder. -/
def entryAt? (files : Files) (place : List String) : Option FileEntry :=
  if place.isEmpty then some .folder else files.lookup place

/-- Whether a folder is at a place. -/
def hasFolder (files : Files) (place : List String) : Bool :=
  (files.entryAt? place).any (·.isFolder)

/-- Put an entry at a place. -/
def put (files : Files) (place : List String) (entry : FileEntry) : Files :=
  (place, entry) :: files.filter fun (other, _) => other != place

/-- Whether a name stands for the folder it is in. -/
def staysInPlace (name : String) : Bool :=
  name.isEmpty || name == "."

/-- The folder that a name leads to from another. -/
def enter? (files : Files) (place : List String) (name : String) :
    Option (List String) :=
  if staysInPlace name then some place
  else if name == ".." then some place.dropLast
  else if files.hasFolder (place ++ [name]) then some (place ++ [name])
  else none

/-- The place that a path leads to; there need be nothing at its last name. -/
def place? (files : Files) (path : String) : Option (List String) :=
  let names := path.splitOn "/"
  match isUsable path, names.getLast? with
  | true, some last => do
      let folder ← names.dropLast.foldlM files.enter? []
      if staysInPlace last || last == ".." then files.enter? folder last
      else if last.utf8ByteSize ≤ maximalNameSize then return folder ++ [last]
      else none
  | _, _ => none

/-- What a path leads to. -/
def find? (files : Files) (path : String) : Option FileEntry :=
  (files.place? path).bind files.entryAt?

/-- The text of a file. -/
def read? (files : Files) (path : String) : Option String :=
  (files.find? path).bind (·.content?)

/-- Whether a file or a folder is at a path. -/
def holds (files : Files) (path : String) : Bool :=
  (files.find? path).isSome

/-- Make the folders that names lead through from a place, as far as that
can be done. -/
def makeFolders (files : Files) (place : List String) :
    List String -> Files × Bool
  | [] => (files, true)
  | name :: rest =>
      match files.enter? place name with
      | some inner => makeFolders files inner rest
      | none =>
          let made := place ++ [name]
          if (files.entryAt? made).isSome ||
            maximalNameSize < name.utf8ByteSize then (files, false)
          else makeFolders (files.put made .folder) made rest

/-- Write a file along with the folders on its way; says whether the file
is written. -/
def write (files : Files) (path text : String) : Files × Bool :=
  let folders :=
    ((path.splitOn "/").filter fun name => !staysInPlace name).dropLast
  let (files, made) :=
    if folders.isEmpty then (files, true)
    else if isUsable ("/".intercalate folders) then files.makeFolders [] folders
    else (files, false)
  match if made then files.place? path else none with
  | none => (files, false)
  | some place =>
      if files.hasFolder place then (files, false)
      else (files.put place (.text text), true)

/-- Remove what is at a path. -/
def remove (files : Files) (path : String) : Files :=
  match files.place? path with
  | none => files
  | some place => files.filter fun (other, _) => other != place

end Files

end PromptTuning
