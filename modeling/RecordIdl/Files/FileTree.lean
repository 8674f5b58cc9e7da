import RecordIdl.Text.Utf8

namespace RecordIdl

inductive FileTree
  | file (bytes : ByteArray)
  | directory (children : List (String × FileTree))

abbrev Location := List String

inductive Entry
  | file (bytes : ByteArray)
  | directory

namespace FileTree

def empty : FileTree := directory []

def entry : FileTree → Entry
  | file bytes => .file bytes
  | directory _ => .directory

def children : FileTree → List (String × FileTree)
  | file _ => []
  | directory children => children

def node? : FileTree → Location → Option FileTree
  | t, [] => some t
  | t, name :: rest => (t.children.lookup name).bind fun child => child.node? rest

def entry? (t : FileTree) (location : Location) : Option Entry :=
  (t.node? location).map entry

def names (t : FileTree) (location : Location) : List String :=
  ((t.node? location).getD empty).children.map (·.1)

def setChild (name : String) (node : FileTree) :
    List (String × FileTree) → List (String × FileTree)
  | [] => [(name, node)]
  | (other, child) :: rest =>
    if other = name then (name, node) :: rest else (other, child) :: setChild name node rest

/-- Puts a node at a location, in directories that are made where they are missing. A file on the
way is kept, and then there is no such location. -/
def put : FileTree → Location → FileTree → FileTree
  | _, [], node => node
  | file bytes, _ :: _, _ => file bytes
  | directory children, name :: rest, node =>
    directory (setChild name (((children.lookup name).getD empty).put rest node) children)

def erase : FileTree → Location → FileTree
  | t, [] => t
  | file bytes, _ :: _ => file bytes
  | directory children, [name] => directory (children.filter (·.1 ≠ name))
  | directory children, name :: rest =>
    match children.lookup name with
    | some child => directory (setChild name (child.erase rest) children)
    | none => directory children

def under (path name : String) : String :=
  if path = "" then name else path ++ "/" ++ name

mutual

/-- A line for each file, with its text, and for each directory that holds nothing. -/
def lines (path : String) : FileTree → List (String × Option String)
  | file bytes => [(path, some (Text.lossyText bytes))]
  | directory [] => [(path, none)]
  | directory (child :: rest) => childLines path (child :: rest)

def childLines (path : String) : List (String × FileTree) → List (String × Option String)
  | [] => []
  | (name, child) :: rest => lines (under path name) child ++ childLines path rest

end

def listing (t : FileTree) : List (String × Option String) :=
  (childLines "" t.children).mergeSort fun a b => decide (a.1 ≤ b.1)

end FileTree

end RecordIdl
