import TextScan.Tool.Outcome

/-!
# Folders

A folder of files in memory, in which a tool can run without a file system.  A path is followed
part by part: an empty part and a single dot stay where they are, and a file has nothing in it.
-/

namespace TextScan

/-- Files by their names, with their bytes. -/
structure Folder where
  files : List (String × ByteArray)

namespace Folder

def follow (folder : Folder) : List String → Except ReadError ByteArray
  | [] => .error .isFolder
  | part :: rest =>
    if part = "" || part = "." then folder.follow rest
    else
      match folder.files.lookup part with
      | none => .error .notFound
      | some bytes => if rest.isEmpty then .ok bytes else .error .notFolder

/-- The bytes of the file at a path.  A path that starts with a slash leads out of the folder, and
nothing is there. -/
def bytes (folder : Folder) (path : String) : Except ReadError ByteArray :=
  match path.splitOn "/" with
  | "" :: _ => .error .notFound
  | parts => folder.follow parts

def read (folder : Folder) (standardInput : ByteArray) : Source → Except ReadError Text
  | .standardInput => Text.ofBytes standardInput
  | .file path =>
    match folder.bytes path with
    | .error error => .error error
    | .ok bytes => Text.ofBytes bytes

end Folder

end TextScan
