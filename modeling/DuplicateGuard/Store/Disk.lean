import DuplicateGuard.Settings.Layers
import DuplicateGuard.Store.DatabaseFile
import DuplicateGuard.Text.Basic

/-!
The files that a program sees: texts, and databases. A directory is there when a file lies in it.
-/

set_option autoImplicit false

namespace DuplicateGuard

inductive FileContent where
  | text (content : String)
  | database (database : Database)

namespace FileContent

def ofText (text : String) : FileContent :=
  match Database.ofFileText? text with
  | some found => .database found
  | none => .text text

def asText : FileContent → String
  | .text content => content
  | .database found => found.fileText

end FileContent

abbrev Disk := Keyed FileContent

namespace Disk

inductive Place where
  | file (content : FileContent)
  | directory
  | absent
  | blocked

def isInside (directory : String) (path : String) : Bool :=
  (directory ++ "/").toList.isPrefixOf path.toList

def alwaysThere (plain : String) : Bool :=
  ["/", "//"].contains plain ||
    (Text.splitWhere (· = '/') plain.toList).all fun step => step = ['.'] || step = ['.', '.']

def look (disk : Disk) (path : String) : Place :=
  let plain := Settings.plainPath path
  if path.isEmpty then .absent
  else
    match Keyed.find? plain disk with
    | some content => .file content
    | none =>
      if alwaysThere plain || disk.keys.any (isInside plain) then .directory
      else if disk.keys.any fun known => isInside known plain then .blocked
      else .absent

def parent (path : String) : String :=
  let reversed := (Settings.plainPath path).toList.reverse
  match reversed.dropWhile (· ≠ '/') with
  | [] => "."
  | ['/'] => "/"
  | _ :: rest => String.ofList rest.reverse

def hasRoomAt (disk : Disk) (path : String) : Bool :=
  !path.isEmpty &&
    match disk.look (parent path) with
    | .directory => true
    | _ => false

def put (disk : Disk) (path : String) (content : FileContent) : Disk :=
  Keyed.put (Settings.plainPath path) content disk

def putDirectory (disk : Disk) (path : String) : Disk :=
  Keyed.put (Settings.plainPath path ++ "/.") (.text "") disk

def readText (disk : Disk) (path : String) : Except Foreign String :=
  match disk.look path with
  | .file content => .ok (String.ofList (Text.lineFeeds content.asText.toList))
  | .directory => .error (.isDirectory path)
  | .absent => .error (.noFile path)
  | .blocked => .error (.notDirectory path)

def writeText (disk : Disk) (path content : String) : Except Foreign Disk :=
  match disk.look path with
  | .file _ => .ok (disk.put path (.text content))
  | .directory => .error (.isDirectory path)
  | .blocked => .error (.notDirectory path)
  | .absent =>
    if disk.hasRoomAt path then .ok (disk.put path (.text content)) else .error (.noFile path)

/-- A path that names a database of its own for every connection, which leaves no file. -/
def isFleeting (path : String) : Bool :=
  path = "" || path = ":memory:"

/-- One more step of a path, after those taken so far, the last of them first. A step upwards takes
back the one before it, whether there is such a directory or not. -/
def climb (absolute : Bool) (taken : List (List Char)) (step : List Char) : List (List Char) :=
  if step = ['.', '.'] then
    match taken with
    | [] => if absolute then [] else [step]
    | last :: before => if last = ['.', '.'] then step :: taken else before
  else step :: taken

/-- Where SQLite looks for the file of a database: it follows steps upwards by the names in the path
alone. -/
def databasePath (path : String) : String :=
  let cs := path.toList
  let absolute := ['/'].isPrefixOf cs
  let steps := (Text.splitWhere (· = '/') cs).filter fun step => !step.isEmpty && step ≠ ['.']
  let taken := (steps.foldl (climb absolute) []).reverse
  let body := String.intercalate "/" (taken.map String.ofList)
  let whole := if absolute then "/" ++ body else body
  if whole.isEmpty then "." else whole

/-- The database at a path; an empty file is a database without tables. -/
def database (disk : Disk) (path : String) : Except DatabaseFault Database :=
  if isFleeting path then .ok .empty
  else
    let path := databasePath path
    match disk.look path with
    | .file (.database database) => .ok database
    | .file (.text content) => .ok (if content.isEmpty then .empty else .garbage)
    | .directory | .blocked => .error .cannotOpen
    | .absent => if disk.hasRoomAt path then .ok .empty else .error .cannotOpen

def putDatabase (disk : Disk) (path : String) (database : Database) : Disk :=
  if isFleeting path then disk else disk.put (databasePath path) (.database database)

def source (disk : Disk) (path : String) : Settings.Source :=
  match disk.look path with
  | .file content => .text content.asText
  | .directory => .directory
  | .absent | .blocked => .absent

end Disk

end DuplicateGuard
