import ProjectScribe.Project.FileEntry
import ProjectScribe.Text.Pieces

/-!
# Trees of filters

Filters group the files of a project. They are kept as a list of nodes that refer to each other
by their places in it; the node at place 0 is the root, which has no name, and every other node
stands behind its parent. The path of a node joins the names from below the root down to it.
-/
namespace ProjectScribe

/-- A filter with the files directly in it. -/
structure FilterNode where
  name : String
  extensions : Option (List String) := none
  isTracked : Bool := true
  parent : Option Nat := none
  children : List Nat := []
  files : List FileEntry := []
deriving DecidableEq, Repr

/-- A tree of filters. -/
structure FilterTree where
  nodes : List FilterNode
deriving DecidableEq, Repr

namespace FilterTree

/-- The tree with nothing but the root. -/
def empty : FilterTree := ⟨[{ name := "" }]⟩

instance : Inhabited FilterTree := ⟨empty⟩

/-- The place of the root. -/
def root : Nat := 0

/-- How many nodes a tree has, the root included. -/
def size (tree : FilterTree) : Nat := tree.nodes.length

/-- The node at a place. -/
def node? (tree : FilterTree) (place : Nat) : Option FilterNode := tree.nodes[place]?

/-- The place of the node above a place. -/
def parentOf (tree : FilterTree) (place : Nat) : Option Nat := (tree.node? place).bind (·.parent)

/-- The places directly below a place. -/
def childrenOf (tree : FilterTree) (place : Nat) : List Nat :=
  ((tree.node? place).map (·.children)).getD []

/-- The files directly in the node at a place. -/
def filesAt (tree : FilterTree) (place : Nat) : List FileEntry :=
  ((tree.node? place).map (·.files)).getD []

/-- The files of all nodes, in the order of the nodes. -/
def files (tree : FilterTree) : List FileEntry := tree.nodes.flatMap (·.files)

/-- Whether a tree has neither a filter nor a file. -/
def isEmpty (tree : FilterTree) : Bool :=
  tree.nodes.length == 1 && (tree.nodes.head?.all (·.files.isEmpty))

/-- Change the node at a place. -/
def modify (tree : FilterTree) (place : Nat) (change : FilterNode → FilterNode) : FilterTree :=
  ⟨tree.nodes.modify place change⟩

/-- A tree with one more node below a parent. The new node stands at place `tree.size`. -/
def addChild (tree : FilterTree) (parent : Nat) (node : FilterNode) : FilterTree :=
  ⟨(tree.nodes ++ [{ node with parent := some parent }]).modify parent fun above =>
    { above with children := above.children ++ [tree.size] }⟩

/-- A tree with one more file in a node. -/
def addFile (tree : FilterTree) (place : Nat) (file : FileEntry) : FilterTree :=
  tree.modify place fun node => { node with files := node.files ++ [file] }

@[simp] theorem size_modify (tree : FilterTree) (place : Nat)
    (change : FilterNode → FilterNode) : (tree.modify place change).size = tree.size := by
  simp [modify, size]

@[simp] theorem size_addChild (tree : FilterTree) (parent : Nat) (node : FilterNode) :
    (tree.addChild parent node).size = tree.size + 1 := by
  simp [addChild, size]

@[simp] theorem size_addFile (tree : FilterTree) (place : Nat) (file : FileEntry) :
    (tree.addFile place file).size = tree.size := size_modify tree place _

/-- A change reaches the node at its place and no other. -/
theorem node?_modify (tree : FilterTree) (place other : Nat)
    (change : FilterNode → FilterNode) :
    (tree.modify place change).node? other =
      if place = other then (tree.node? other).map change else tree.node? other := by
  simp only [modify, node?, List.getElem?_modify]
  split <;> simp

/-- The nodes from a place up to the one below the root, as far as the given number of steps
leads. -/
def upwards (tree : FilterTree) : Nat → Nat → List FilterNode
  | 0, _ => []
  | steps + 1, place =>
    if place = root then []
    else match tree.node? place with
      | none => []
      | some node =>
        match node.parent with
        | none => [node]
        | some parent => node :: tree.upwards steps parent

/-- The nodes from a place up to the one below the root. Each step leads to an earlier place, so
the place itself bounds their number. -/
def ancestry (tree : FilterTree) (place : Nat) : List FilterNode := tree.upwards place place

/-- The path of a node: the names from below the root down to it, joined by backslashes. -/
def pathOf (tree : FilterTree) (place : Nat) : String :=
  "\\".intercalate ((tree.ancestry place).reverse.map (·.name))

/-- A place and the places below it, each before those below it, as deep as the given number of
steps leads. -/
def downwards (tree : FilterTree) : Nat → Nat → List Nat
  | 0, _ => []
  | steps + 1, place =>
    place :: (tree.childrenOf place).flatMap (tree.downwards steps)

/-- All places but the root, each before those below it. -/
def walk (tree : FilterTree) : List Nat :=
  (tree.childrenOf root).flatMap (tree.downwards tree.size)

/-- Places by paths. Of two places with one path the later one is found. -/
structure PathIndex where
  entries : List (String × Nat) := []
deriving DecidableEq, Repr

/-- The paths of all places but the root. -/
def index (tree : FilterTree) : PathIndex :=
  ⟨(List.range tree.size).tail.map fun place => (tree.pathOf place, place)⟩

/-- The place that an index has for a path. -/
def PathIndex.find? (index : PathIndex) (path : String) : Option Nat :=
  (index.entries.reverse.find? (·.1 = path)).map (·.2)

example :
    let tree := ((empty.addChild 0 { name := "Source Files" }).addChild 1 { name := "Sub" }).addChild
      0 { name := "Header Files" }
    tree.pathOf 2 = "Source Files\\Sub" ∧ tree.walk = [1, 2, 3] ∧
      tree.index.find? "Header Files" = some 3 := by
  cbv

end FilterTree

end ProjectScribe
