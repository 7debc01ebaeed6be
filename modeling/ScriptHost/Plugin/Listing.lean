import ScriptHost.Plugin.Catalogue

/-!
# Catalogues from listings

A catalogue can be written down, a line for each module: its name, with a slash behind it if it is
a package, and the names of its members.  What stands behind a bar in the line of a package is
kept out of what the package lists as its own.  The modules inside a package are members of it,
unless the line gives another member of that name.

Every module knows its own name, the package that it belongs to, and the file that it is read from.
-/

namespace ScriptHost.Plugin

/-- One line of a listing. -/
structure Listing where
  name : String
  isPackage : Bool
  /-- What a package lists as its own. -/
  listed : List String
  others : List String

namespace Listing

/-- Reads a line. -/
def ofLine (line : String) : Listing :=
  let pieces := (Text.pieces (fun c => c == ' ') line.toList).map String.ofList
  let head := (pieces.headD "").toList
  let names := pieces.drop 1
  { name := String.ofList (head.takeWhile fun c => c != '/')
    isPackage := head.contains '/'
    listed := names.takeWhile fun n => n != "|"
    others := (names.dropWhile fun n => n != "|").drop 1 }

/-- Plain data as a member of a module. -/
def plain (d : Datum) : Target := .value d.typeName (some d)

/-- Where a module stands below the folder of all modules. -/
def path (m : Listing) : String :=
  String.ofList (m.name.toList.map fun c => if c = '.' then '/' else c)

/-- The file that a module is read from, below a folder. -/
def file (m : Listing) (folder : String) : String :=
  folder ++ "/" ++ m.path ++ (if m.isPackage then "/__init__.py" else ".py")

/-- What every module knows of itself.  A package also knows the folder of its modules. -/
def ownMembers (m : Listing) (folder : String) : List (String × Target) :=
  let package := if m.isPackage then m.name else (splitPath m.name).1
  [("__name__", plain (.text m.name)), ("__package__", plain (.text package)),
    ("__file__", plain (.text (m.file folder))), ("__spec__", .value "ModuleSpec" none),
    ("__loader__", .value "SourceFileLoader" none),
    ("__class__", .otherClass "module" (.error (.wrongType "a module has a name")))] ++
  if m.isPackage then [("__path__", plain (.texts [folder ++ "/" ++ m.path]))] else []

/-- The modules of a listing that stand directly inside a package. -/
def inside (all : List Listing) (m : Listing) : List (String × Target) :=
  all.filterMap fun n =>
    let (outer, last) := splitPath n.name
    if outer = m.name then some (last, .module n.name) else none

end Listing

/-- The catalogue of a listing, whose members are found by their names. -/
def Catalogue.ofLines (member : String → Target) (folder : String) (lines : List String) :
    Catalogue :=
  let all := lines.map Listing.ofLine
  all.map fun m =>
    .plain m.name m.isPackage ((m.listed ++ m.others).map (fun n => (n, member n)) ++
      Listing.inside all m ++ m.ownMembers folder ++
      if m.isPackage then [("__all__", Listing.plain (.texts m.listed))] else [])

end ScriptHost.Plugin
