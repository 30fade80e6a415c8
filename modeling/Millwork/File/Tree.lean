import Millwork.File.Fault
import Millwork.File.Path

namespace Millwork

inductive FileNode where
  | directory (entries : List (String × FileNode))
  | file (octets : List Nat)

namespace FileNode

def entries : FileNode → List (String × FileNode)
  | directory entries => entries
  | file _ => []

def descend? : FileNode → List String → Option FileNode
  | node, [] => some node
  | node, step :: rest => (node.entries.lookup step).bind (descend? · rest)

def put : FileNode → List String → FileNode → FileNode
  | _, [], new => new
  | node, step :: rest, new =>
    let inner := (node.entries.lookup step).getD (directory [])
    directory ((step, put inner rest new) :: node.entries.filter (·.1 != step))

theorem descend?_put (node : FileNode) (steps : List String) (new : FileNode) :
    (node.put steps new).descend? steps = some new := by
  induction steps generalizing node with
  | nil => rfl
  | cons step rest ih => simp [put, descend?, entries, ih]

mutual

def files : FileNode → List (List String × List Nat)
  | file octets => [([], octets)]
  | directory entries => filesIn entries

def filesIn : List (String × FileNode) → List (List String × List Nat)
  | [] => []
  | (name, node) :: rest => node.files.map (fun file => (name :: file.1, file.2)) ++ filesIn rest

end

end FileNode

structure FileTree where
  root : FileNode
  workingDirectory : List String

inductive FilePlace where
  | directory (steps : List String)
  | file (steps : List String) (octets : List Nat)
  /-- Nothing is there, but the last step starts from a directory. -/
  | vacant (steps : List String)

namespace FileTree

def stepLimit : Nat := 255

/-- The number of octets from which a path is too long. -/
def pathLimit : Nat := 4096

def workingPath (tree : FileTree) : String := "/" ++ "/".intercalate tree.workingDirectory

def put (tree : FileTree) (steps : List String) (node : FileNode) : FileTree :=
  { tree with root := tree.root.put steps node }

def follow (tree : FileTree) (entered : List (String × FileNode)) :
    List String → Except FileFault.Cause FilePlace
  | [] => .ok (.directory (stepsTo entered))
  | step :: rest =>
    if step.isEmpty || step == "." then follow tree entered rest
    else if step == ".." then follow tree entered.tail rest
    else if stepLimit < step.utf8ByteSize then .error .nameTooLong
    else
      let here := (entered.head?.map (·.2)).getD tree.root
      match here.entries.lookup step with
      | some (.directory entries) => follow tree ((step, .directory entries) :: entered) rest
      | some (.file octets) =>
        if rest.isEmpty then .ok (.file (stepsTo entered ++ [step]) octets)
        else .error .notADirectory
      | none =>
        if rest.all (·.isEmpty) then .ok (.vacant (stepsTo entered ++ [step]))
        else .error .absent
where
  stepsTo (entered : List (String × FileNode)) : List String := (entered.map (·.1)).reverse

def locate (tree : FileTree) (path : String) : Except FileFault FilePlace :=
  if path.contains '\x00' then .error .zeroCharacter
  else if path.isEmpty then .error (.refused .absent path)
  else if pathLimit ≤ path.utf8ByteSize then .error (.refused .nameTooLong path)
  else
    let start := if path.startsWith "/" then [] else tree.workingDirectory
    (tree.follow [] (start ++ FilePath.steps path)).mapError (.refused · path)

def isDirectory (tree : FileTree) (path : String) : Bool :=
  match tree.locate path with
  | .ok (.directory _) => true
  | _ => false

def holds (tree : FileTree) (path : String) : Bool :=
  match tree.locate path with
  | .ok (.directory _) | .ok (.file ..) => true
  | .ok (.vacant _) | .error _ => false

def read (tree : FileTree) (path : String) : Except FileFault (List Nat) := do
  match ← tree.locate path with
  | .file _ octets => return octets
  | .directory _ => throw (.refused .isADirectory path)
  | .vacant _ => throw (.refused .absent path)

/-! ## Writing -/

/-- A step that changes a tree. One that fails keeps what was changed before. -/
abbrev Action := ExceptT FileFault (StateM FileTree)

def makeDirectory (path : String) : Action Unit := do
  match (← get).locate path with
  | .ok (.vacant steps) => modify (·.put steps (.directory []))
  | .ok _ => throw (.refused .present path)
  | .error fault => throw fault

def ensureDirectory (path : String) : Action Unit :=
  tryCatch (makeDirectory path) fun fault => do
    if !(← get).isDirectory path then throw fault

def depthLimit : Nat := 985

/-- Makes a directory, whose path ends in no slash, and those it lies in, as many as some depth
allows. That one of these is there already, though not as a directory, shows at the next step. -/
def makeDirectories : (depth : Nat) → (path : List Char) → Action Unit
  | 0, _ => throw .tooDeep
  | depth + 1, path => do
    let outer := FilePath.front path
    let last := FilePath.last path
    if last.isEmpty || outer.isEmpty || (← get).holds (.ofList outer) then
      ensureDirectory (.ofList path)
    else
      tryCatch (makeDirectories depth outer) fun
        | .refused .present _ => pure ()
        | fault => throw fault
      if last ≠ ['.'] then ensureDirectory (.ofList path)

def write (path text : String) : Action Unit := do
  let directory := FilePath.directory path
  if !directory.isEmpty then makeDirectories depthLimit directory.toList
  match (← get).locate path with
  | .ok (.file steps _) | .ok (.vacant steps) =>
    modify (·.put steps (.file (text.toUTF8.toList.map UInt8.toNat)))
  | .ok (.directory _) => throw (.refused .isADirectory path)
  | .error fault => throw fault

end FileTree

end Millwork
