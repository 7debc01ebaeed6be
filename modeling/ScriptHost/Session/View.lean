import ScriptHost.Failure
import ScriptHost.Argument
import ScriptHost.Datum

/-!
# What a session shows

The part of a session that packs and engines see: the arguments of the session, what its packs
contributed, the shared state, and how far its life has gone.  A pack takes part by a list of
actions on this view, which are done in order until one fails.
-/

namespace ScriptHost

open Sequence (Entries)

/-- What a pack shows to scripts: its type and the types it is also one of, and its owner. -/
structure Context where
  /-- The types of the context, its own first. -/
  lineage : List String
  owner : Option String
  deriving DecidableEq, Repr

namespace Context

/-- The context's own type. -/
def type (c : Context) : String := c.lineage.headD ""

/-- Whether a context is of a type. -/
def isA (c : Context) (type : String) : Bool := c.lineage.contains type

end Context

/-- What packs and engines see of a session. -/
structure SessionView where
  arguments : List String
  /-- The contexts of the packs, in the order of the packs. -/
  contexts : List Context
  /-- The references that packs contributed. -/
  references : List String
  /-- The namespaces that packs contributed. -/
  namespaces : List String
  /-- The data that packs share. -/
  state : Entries Datum
  /-- Whether the script library has been spliced in. -/
  injected : Bool
  phase : Phase
  deriving Repr, Inhabited

/-- One thing that a pack does to a session. -/
inductive PackAction where
  | addReference (reference : Option String)
  | importNamespace (name : Option String)
  | put (key : String) (value : Datum)
  /-- Puts a copy of the session's arguments into the shared state. -/
  | putArguments (key : String)
  | fail (failure : Failure)
  deriving Repr

namespace SessionView

/-- The view of a session that has not started. -/
def new (arguments : List String) : SessionView :=
  ⟨arguments, [], [], [], [], false, .notStarted⟩

/-- The view with a reference that a pack contributes. -/
def addReference (v : SessionView) (reference : Option String) : Except Failure SessionView :=
  match requireArgument "reference" reference with
  | .ok r => .ok { v with references := v.references ++ [r] }
  | .error f => .error f

/-- The view with a namespace that a pack contributes. -/
def importNamespace (v : SessionView) (name : Option String) : Except Failure SessionView :=
  match requireArgument "namespace" name with
  | .ok n => .ok { v with namespaces := v.namespaces ++ [n] }
  | .error f => .error f

/-- The view with an entry of the shared state written. -/
def put (v : SessionView) (key : String) (value : Datum) : SessionView :=
  { v with state := v.state.put key value }

/-- The view after one action. -/
def perform (v : SessionView) : PackAction → Except Failure SessionView
  | .addReference reference => v.addReference reference
  | .importNamespace name => v.importNamespace name
  | .put key value => .ok (v.put key value)
  | .putArguments key => .ok (v.put key (Datum.texts v.arguments))
  | .fail failure => .error failure

/-- The view after actions in order, and the failure that stopped them. -/
def performAll (v : SessionView) : List PackAction → SessionView × Option Failure
  | [] => (v, none)
  | a :: as =>
    match v.perform a with
    | .error f => (v, some f)
    | .ok v => performAll v as

/-- The first context of a type. -/
def require (v : SessionView) (type : String) : Except Failure Context :=
  match v.contexts.find? fun c => c.isA type with
  | some c => .ok c
  | none => .error (.session (.noContext type))

end SessionView

end ScriptHost
