import IssuePlanner.Failure
import IssuePlanner.Text.Search
import IssuePlanner.Text.Utf8

/-! The files below a directory. A path is a list of names; a directory is there as soon as something lies
in it. -/

namespace IssuePlanner

inductive FileNode where
  | file (bytes : ByteArray)
  | directory
  /-- Something that is neither a file nor a directory. -/
  | special

structure FileTree where
  nodes : List (List String × FileNode) := []

namespace FileTree

/-- The names of a path. Empty names and single dots mean nothing. -/
def names (path : String) : List String :=
  (Text.pieces '/' path).filter fun n => n != "" && n != "."

def node? (t : FileTree) (path : List String) : Option FileNode :=
  if path.isEmpty then some .directory
  else match t.nodes.find? (·.1 == path) with
    | some (_, node) => some node
    | none => if t.nodes.any fun (p, _) => path.isPrefixOf p then some .directory else none

def isDirectory (t : FileTree) (path : List String) : Bool :=
  match t.node? path with
  | some .directory => true
  | _ => false

/-- The most bytes that a name in a directory can have. -/
def nameLimit : Nat := 255

def fits (name : String) : Bool := name.utf8ByteSize ≤ nameLimit

/-- Walks along a path from `here`. Two dots lead from a directory to the one around it; the walk may not
leave the tree. -/
def resolveFrom (t : FileTree) : (here rest : List String) → Option (List String)
  | here, [] => some here
  | here, n :: rest =>
    if !t.isDirectory here || !fits n then none
    else if n == ".." then if here.isEmpty then none else t.resolveFrom here.dropLast rest
    else t.resolveFrom (here ++ [n]) rest

/-- Where a path leads; one that starts with a slash leads out of the tree. -/
def resolve (t : FileTree) (path : String) : Option (List String) :=
  if Text.begins path "/" then none else t.resolveFrom [] (names path)

def find? (t : FileTree) (path : String) : Option FileNode := (t.resolve path).bind t.node?

def doesExist (t : FileTree) (path : String) : Bool := (t.find? path).isSome

/-- Why a walk along a path finds nothing. -/
def obstacle (t : FileTree) : (here rest : List String) → FileFault
  | _, [] => .missing
  | here, n :: rest =>
    match t.node? here with
    | some .directory =>
      if fits n then t.obstacle (if n == ".." then here.dropLast else here ++ [n]) rest else .nameTooLong
    | some _ => .notDirectory
    | none => .missing

/-- Why a path leads nowhere. Nothing is known of what lies out of the tree. -/
def faultAt (t : FileTree) (path : String) : FileFault :=
  if Text.begins path "/" then .missing else t.obstacle [] (names path)

/-- What a path names, if anything. A name that no directory can hold is an error rather than a name of
nothing. -/
def status (t : FileTree) (path : String) : Except FileFault (Option FileNode) :=
  match t.find? path with
  | some node => .ok (some node)
  | none => if t.faultAt path = .nameTooLong then .error .nameTooLong else .ok none

def bytes (t : FileTree) (path : String) : Except FileFault ByteArray :=
  match t.find? path with
  | some (.file b) => .ok b
  | some .directory => .error .isDirectory
  | some .special => .error .missing
  | none => .error (t.faultAt path)

def write (t : FileTree) (path : String) (bytes : ByteArray) : Except FileFault FileTree :=
  match t.resolve path with
  | none => .error (t.faultAt path)
  | some p =>
    match t.node? p with
    | some .directory => .error .isDirectory
    | some _ =>
      .ok ⟨t.nodes.map fun (q, node) => if q == p then (q, .file bytes) else (q, node)⟩
    | none =>
      if t.isDirectory p.dropLast then .ok ⟨t.nodes ++ [(p, .file bytes)]⟩ else .error .missing

/-- The text of a file, with line ends written as line feeds; bytes that are not UTF-8 are refused. -/
def text (t : FileTree) (shown path : String) : Except Failure String :=
  match t.bytes path with
  | .error f => .error (.file f shown)
  | .ok b =>
    match Text.Utf8.decode? b with
    | .error f => .error (.unreadableText f)
    | .ok s => .ok (String.ofList (Text.unifyNewlines s.toList))

/-- The text of a file without the bytes that are not UTF-8. -/
def textLossy? (t : FileTree) (path : String) : Option String :=
  match t.bytes path with
  | .error _ => none
  | .ok b => some (String.ofList (Text.unifyNewlines (Text.Utf8.decodeLossy b).toList))

end FileTree

end IssuePlanner
