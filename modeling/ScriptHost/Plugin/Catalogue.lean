import ScriptHost.Engine
import ScriptHost.Pack
import ScriptHost.PreProcessor

/-!
# Catalogues of plugins

A plugin is named by a dotted path: a module, and an attribute of it.  A catalogue is everything
that can be named so.  A module inside another one can be had only if the outer one is a
package, and only if every module on the way is there.  Importing a module runs its code, from the
outermost module on, and that may raise anything; so may a module that is asked for an attribute
that it does not have.

## Main results

* `resolve_malformed` — a path that does not name both parts is refused before anything is
  looked up.
-/

namespace ScriptHost.Plugin

/-- What can be found under a dotted path. -/
inductive Target where
  | packClass (name : String) (make : Except Failure Pack)
  | engineClass (name : String) (make : Except Failure Engine)
  /-- A class of pre-processors, what calling it without arguments does, and what it makes of a file
  system. -/
  | preProcessorClass (name : String) (call : Except Failure Unit)
    (make : Except Failure PreProcessor)
  /-- A class of anything else, and whether an instance can be made without arguments. -/
  | otherClass (name : String) (make : Except Failure Unit)
  /-- A function, and what calling it without arguments does. -/
  | function (name : String) (call : Except Failure Unit)
  | module (name : String)
  | pack (instance_ : Pack)
  /-- Anything else: the name of its type, and what it is if it is plain data. -/
  | value (type : String) (content : Option Datum)

/-- A module that can be imported. -/
structure ModuleEntry where
  name : String
  /-- Whether the module may hold modules. -/
  isPackage : Bool
  members : List (String × Target)
  /-- What running the code of the module raises, if anything. -/
  fault : Option Failure := none
  /-- What the module answers when it is asked for a member that it does not have. -/
  answer : String → Except Failure (Option Target) := fun _ => .ok none

/-- A module whose code raises nothing, and that has the members that it lists. -/
def ModuleEntry.plain (name : String) (isPackage : Bool) (members : List (String × Target)) :
    ModuleEntry := { name, isPackage, members }

/-- The member of a module under a name. -/
def ModuleEntry.member? (m : ModuleEntry) (name : String) : Except Failure (Option Target) :=
  match Sequence.Entries.get? m.members name with
  | some target => .ok (some target)
  | none => m.answer name

/-- The modules that can be imported. -/
abbrev Catalogue := List ModuleEntry

namespace Catalogue

/-- The module of a name. -/
def module? (c : Catalogue) (name : String) : Option ModuleEntry := c.find? fun m => m.name = name

end Catalogue

/-! ## Dotted paths -/

/-- A text with points between pieces. -/
def dotted : List (List Char) → List Char
  | [] => []
  | [p] => p
  | p :: ps => p ++ '.' :: dotted ps

/-- The module and the attribute that a dotted path names: around its first colon, or around its
last point if it has none. -/
def splitPath (path : String) : String × String :=
  let cs := path.toList
  if cs.contains ':' then
    (String.ofList (cs.takeWhile fun c => c != ':'),
      String.ofList ((cs.dropWhile fun c => c != ':').drop 1))
  else
    let pieces := Text.pieces (fun c => c == '.') cs
    (String.ofList (dotted pieces.dropLast), String.ofList (pieces.getLast?.getD []))

/-- The names of the modules on the way to a module, outermost first. -/
def moduleChain (name : String) : List String :=
  let pieces := Text.pieces (fun c => c == '.') name.toList
  (List.range pieces.length).map fun k => String.ofList (dotted (pieces.take (k + 1)))

/-- Looks up modules one inside the other, runs the code of each, and returns the last. -/
def findModule (c : Catalogue) (outer : Option ModuleEntry) :
    List String → Except Failure (Option ModuleEntry)
  | [] => .ok outer
  | name :: names =>
    let plainParent := match outer with
      | some m => if m.isPackage then none else some m.name
      | none => none
    match plainParent, c.module? name with
    | none, some m =>
      match m.fault with
      | some f => .error f
      | none => findModule c (some m) names
    | parent, _ => .error (.imports (.noModule name parent))

/-- Imports a module. -/
def importModule (c : Catalogue) (name : String) : Except Failure (Option ModuleEntry) :=
  if name.toList.head? = some '.' then
    .error (.wrongType ("the 'package' argument is required to perform a relative import for " ++
      Text.literal name))
  else findModule c none (moduleChain name)

/-- What a dotted path names. -/
def resolve (c : Catalogue) (path : String) : Except Failure Target :=
  let (owner, member) := splitPath path
  if owner.isEmpty || member.isEmpty then .error (.imports (.malformed path))
  else
    match importModule c owner with
    | .error f => .error f
    | .ok found =>
      match (found.map fun m => m.member? member).getD (.ok none) with
      | .error f => .error f
      | .ok (some target) => .ok target
      | .ok none => .error (.imports (.noMember owner member))

theorem resolve_malformed (c : Catalogue) {path : String}
    (h : (splitPath path).1.isEmpty = true ∨ (splitPath path).2.isEmpty = true) :
    resolve c path = .error (.imports (.malformed path)) := by
  unfold resolve
  rcases h with h | h <;> simp [h]

end ScriptHost.Plugin
