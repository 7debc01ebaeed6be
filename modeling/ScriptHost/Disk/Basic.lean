import ScriptHost.Failure
import ScriptHost.Text.Lines

/-!
# Disks

A disk in memory: what is under each row of names that leads down from the root, and the
directory in which relative paths begin.  A path is walked name by name, and every name on the
way but the last must lead to a directory; `..` leads to the directory above.  The root is
always there.  The directory in which relative paths begin may have been removed: then they lead
nowhere, and nobody can tell where it was.

Every operation answers a new disk, or a refusal that leaves the old one as it was.

## Main results

* `contentAt_writeAt` — a file that was written is read back.
* `node?_store_of_ne` — storing something changes nothing under other names.
-/

namespace ScriptHost

/-- What is under a name. -/
inductive Node where
  | file (content : List UInt8)
  | directory
  deriving DecidableEq, Repr

/-- A disk, and the directory in which relative paths begin. -/
structure Disk where
  nodes : List (List String × Node)
  /-- The names that lead to the current directory. -/
  place : List String
  /-- Whether the current directory was removed. -/
  isLost : Bool := false
  deriving Repr

namespace Disk

variable {α : Type}

/-- What is under a row of names. -/
def node? (d : Disk) (names : List String) : Option Node :=
  if names.isEmpty then some .directory else d.nodes.lookup names

/-- The disk with something under a row of names. -/
def store (d : Disk) (names : List String) (node : Node) : Disk :=
  { d with nodes := (names, node) :: d.nodes.filter fun n => n.1 != names }

theorem node?_store (d : Disk) {names : List String} (h : names ≠ []) (node : Node) :
    (d.store names node).node? names = some node := by
  simp [node?, store, h]

theorem node?_store_of_ne (d : Disk) {names others : List String} (h : others ≠ names)
    (node : Node) : (d.store names node).node? others = d.node? others := by
  have hne : (others == names) = false := by simpa using h
  unfold node? store
  split
  · rfl
  · rw [List.lookup_cons, hne]
    induction d.nodes with
    | nil => rfl
    | cons n ns ih =>
      obtain ⟨other, there⟩ := n
      by_cases ho : other = names
      · have hskip : (others == other) = false := by simpa [ho] using h
        rw [List.filter_cons_of_neg (by simp [ho]), List.lookup_cons, hskip]
        exact ih
      · rw [List.filter_cons_of_pos (by simpa using ho), List.lookup_cons, List.lookup_cons]
        cases others == other with
        | true => rfl
        | false => exact ih

/-! ## Walking -/

/-- The most bytes that a name may have. -/
def longestName : Nat := 255

/-- Walks names from a directory. -/
def walk (d : Disk) (base : List String) : List String → Except DiskRefusal (List String)
  | [] => .ok base
  | name :: names =>
    match d.node? base with
    | none => .error .missing
    | some (.file _) => .error .notDirectory
    | some .directory =>
      if name.utf8ByteSize > longestName then .error .nameTooLong
      else d.walk (if name = ".." then base.dropLast else base ++ [name]) names

/-- The names from which a path is walked. -/
def start (d : Disk) (p : Path) : List String :=
  match p.root with
  | .relative => d.place
  | _ => []

/-- Whether a path begins in a directory that was removed. -/
def isAdrift (d : Disk) (p : Path) : Bool := p.root == .relative && d.isLost

/-- The fault of asking for a current directory that was removed. -/
def lostFault : Fault := ⟨"FileNotFoundError", DiskRefusal.missing.message⟩

/-- The most bytes that the text of a path may have. -/
def longestPath : Nat := 4095

/-- The names that a path leads to; the last of them need not be there. -/
def target (d : Disk) (p : Path) : Except DiskRefusal (List String) :=
  if longestPath < p.toString.utf8ByteSize then .error .nameTooLong
  else if d.isAdrift p then .error .missing
  else d.walk (d.start p) p.parts

/-- What a path leads to. -/
def find (d : Disk) (p : Path) : Except DiskRefusal Node :=
  match d.target p with
  | .error r => .error r
  | .ok names =>
    match d.node? names with
    | none => .error .missing
    | some node => .ok node

/-- The text of a row of names. -/
def namesText (names : List String) : String := (Path.mk .root names).toString

/-- The text of the current directory. -/
def here (d : Disk) : Except Fault String :=
  if d.isLost then .error lostFault else .ok (namesText d.place)

/-- The names that a path leads to by its text alone: `..` takes back the name before it, whether
it is there or not. -/
def flatten (base : List String) : List String → List String
  | [] => base
  | name :: names => flatten (if name = ".." then base.dropLast else base ++ [name]) names

/-- The absolute path of a text, by the text alone. -/
def resolve (d : Disk) (path : String) : Path :=
  let p := Path.ofString path
  ⟨.root, flatten (d.start p) p.parts⟩

/-! ## Texts that are no paths -/

/-- Whether a character stands for a byte that is no part of a text. -/
def isStrayByte (c : Char) : Bool :=
  (Text.surrogate? c).any fun code => 0xdc80 ≤ code && code ≤ 0xdcff

/-- The first run of codes in a text that no bytes stand for, and its position. -/
def unencodable? (position : Nat) : List Char → Option Failure
  | [] => none
  | c :: cs =>
    if (Text.surrogate? c).isSome && !isStrayByte c then
      let run := (c :: cs).takeWhile fun d => (Text.surrogate? d).isSome
      some (.unencodable (run.filterMap Text.surrogate?) position)
    else unencodable? (position + 1) cs

/-- Why a text is no path. -/
def pathFault? (path : String) : Option Failure :=
  match unencodable? 0 path.toList with
  | some f => some f
  | none => if path.toList.contains '\x00' then some .nulInPath else none

/-- The absolute path of a text that is a path. -/
def resolved (d : Disk) (path : String) : Except Failure Path :=
  match pathFault? path with
  | some f => .error f
  | none =>
    if d.isAdrift (Path.ofString path) then .error (.raised lostFault) else .ok (d.resolve path)

/-! ## Looking -/

/-- A refusal about a path. -/
def refuse (path : String) : Except DiskRefusal α → Except Failure α :=
  Except.mapError fun r => .disk r path

/-- What a path leads to, if anything. -/
def look (d : Disk) (path : String) : Except Failure (Option Node) :=
  if (pathFault? path).isSome then .ok none
  else
    let p := Path.ofString path
    match d.find p with
    | .ok node => .ok (some node)
    | .error .missing | .error .notDirectory => .ok none
    | .error r => .error (.disk r p.toString)

/-- Whether a path leads to anything. -/
def exists_ (d : Disk) (path : String) : Except Failure Bool := (d.look path).map Option.isSome

/-- Whether a path leads to a file. -/
def isFile (d : Disk) (path : String) : Except Failure Bool :=
  (d.look path).map fun | some (.file _) => true | _ => false

/-- The names directly inside a directory. -/
def namesIn (d : Disk) (path : String) : List String :=
  match d.target (Path.ofString path) with
  | .error _ => []
  | .ok place => d.nodes.filterMap fun n => if n.1.dropLast = place then n.1.getLast? else none

/-- The content of a file, by its path. -/
def contentAt (d : Disk) (p : Path) : Except DiskRefusal (List UInt8) :=
  match d.find p with
  | .ok (.file content) => .ok content
  | .ok .directory => .error .isDirectory
  | .error r => .error r

/-- The content of a file. -/
def contentOf (d : Disk) (path : String) : Except Failure (List UInt8) :=
  match pathFault? path with
  | some f => .error f
  | none =>
    let p := Path.ofString path
    refuse p.toString (d.contentAt p)

/-- The text of a file, with plain newlines. -/
def textOf (d : Disk) (path : String) : Except Failure String :=
  match d.contentOf path with
  | .error f => .error f
  | .ok content =>
    match Text.decodeUtf8 content with
    | .error fault => .error (.undecodable fault)
    | .ok text => .ok (Text.plainNewlines text)

/-! ## Writing -/

/-- The disk with a file written, whose content is made from the content that was there. -/
def writeAt (d : Disk) (p : Path) (content : List UInt8 → List UInt8) :
    Except DiskRefusal Disk :=
  match d.target p with
  | .error r => .error r
  | .ok names =>
    match d.node? names with
    | some .directory => .error .isDirectory
    | some (.file old) => .ok (d.store names (.file (content old)))
    | none => .ok (d.store names (.file (content [])))

/-- The disk with a text written to a file. -/
def write (d : Disk) (path text : String) : Except Failure Disk :=
  match pathFault? path with
  | some f => .error f
  | none =>
    let p := Path.ofString path
    refuse p.toString (d.writeAt p fun _ => Text.encodeUtf8 text)

/-- The disk with one more directory. -/
def makeDirectory (d : Disk) (p : Path) : Except DiskRefusal Disk :=
  match d.target p with
  | .error r => .error r
  | .ok names =>
    match d.node? names with
    | some _ => .error .alreadyThere
    | none => .ok (d.store names .directory)

/-- The disk with a directory, unless it is there already. -/
def keepDirectory (d : Disk) (p : Path) : Except DiskRefusal Disk :=
  match d.makeDirectory p with
  | .ok d => .ok d
  | .error r =>
    match d.find p with
    | .ok .directory => .ok d
    | _ => .error r

/-- The disk with a directory and every directory on the way to it; the names are given last
one first. -/
def ensureDirectory (d : Disk) (origin : PathRoot) : List String → Except DiskRefusal Disk
  | [] => d.keepDirectory ⟨origin, []⟩
  | name :: above =>
    let p : Path := ⟨origin, (name :: above).reverse⟩
    match d.makeDirectory p with
    | .error .missing =>
      match d.ensureDirectory origin above with
      | .ok d => d.keepDirectory p
      | .error r => .error r
    | _ => d.keepDirectory p

/-- The disk with the directory of a path and every directory on the way to it. -/
def ensureParent (d : Disk) (path : String) : Except Failure Disk :=
  let p := (Path.ofString path).parent
  refuse p.toString (d.ensureDirectory p.root p.parts.reverse)

/-- The disk with another current directory. -/
def enter (d : Disk) (path : String) : Except Failure Disk :=
  match pathFault? path with
  | some f => .error f
  | none =>
    refuse path <|
      if path.isEmpty then .error .missing
      else if longestPath < path.utf8ByteSize then .error .nameTooLong
      else
        let p := Path.ofString path
        match d.find p, d.target p with
        | .ok .directory, .ok names => .ok { d with place := names, isLost := false }
        | .ok (.file _), _ => .error .notDirectory
        | .error r, _ | _, .error r => .error r

/-- A disk with the current directory and every directory above it. -/
def empty (place : String) : Disk :=
  let names := (Path.ofString place).parts
  { nodes := (List.range names.length).map fun k => (names.take (k + 1), .directory)
    place := names }

/-- The disk with a node under a path that may lead through new directories; nothing happens if
it leads through a file. -/
def put (d : Disk) (path : String) (node : Node) : Disk :=
  match d.ensureParent path with
  | .error _ => d
  | .ok d =>
    match d.target (Path.ofString path) with
    | .ok names => d.store names node
    | .error _ => d

/-! ## Reading back -/

/-- Storing something where no directory is leaves every walk as it was. -/
theorem walk_store {d : Disk} {names : List String} (h : d.node? names ≠ some .directory)
    (node : Node) {base steps there : List String} (hw : d.walk base steps = .ok there) :
    (d.store names node).walk base steps = .ok there := by
  induction steps generalizing base with
  | nil => exact hw
  | cons name steps ih =>
    rw [walk] at hw ⊢
    split at hw
    · cases hw
    · cases hw
    · next hdir =>
      have hne : base ≠ names := fun e => h (e ▸ hdir)
      rw [node?_store_of_ne d hne, hdir]
      split at hw
      · cases hw
      · next hshort =>
        simp only [hshort, if_false]
        exact ih hw

/-- Storing something where no directory is leaves every path leading where it led. -/
theorem target_store {d : Disk} {names : List String} (h : d.node? names ≠ some .directory)
    (node : Node) {p : Path} {there : List String} (ht : d.target p = .ok there) :
    (d.store names node).target p = .ok there := by
  unfold target at ht ⊢
  split at ht
  · cases ht
  · next hshort =>
    rw [if_neg hshort]
    split at ht
    · cases ht
    · next hthere =>
      exact (if_neg hthere).trans (walk_store h node ht)

/-- A file that was written is read back. -/
theorem contentAt_writeAt {d after : Disk} {p : Path} {content : List UInt8 → List UInt8}
    (h : d.writeAt p content = .ok after) :
    ∃ old, after.contentAt p = .ok (content old) := by
  unfold writeAt at h
  split at h
  · cases h
  · next names ht =>
    have hback (old : List UInt8) (hn : d.node? names ≠ some .directory) :
        (d.store names (.file (content old))).contentAt p = .ok (content old) := by
      have hne : names ≠ [] := by
        rintro rfl
        exact hn rfl
      have hwalk : (d.store names (.file (content old))).target p = .ok names :=
        target_store hn _ ht
      simp [contentAt, find, hwalk, node?_store d hne]
    split at h
    · cases h
    · next old hold =>
      cases h
      exact ⟨old, hback old (by simp [hold])⟩
    · next hnone =>
      cases h
      exact ⟨[], hback [] (by simp [hnone])⟩

end Disk

end ScriptHost
