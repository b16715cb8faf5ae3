/-!
# Merge/Queue — which of several sources comes next

A `Queue` is a binary heap in the shape of a complete tree: items are added at the next free place
of the last level and rise while they precede their parent; when the first item leaves, the last
one takes its place, sinks to the bottom along the children that come first and rises again.
Between two children neither of which precedes the other the right one comes first.  This fixes the
order of items that tie.
-/

namespace ScatterGather

/-- A binary tree. -/
inductive Tree (α : Type) where
  | empty
  | node (a : α) (left right : Tree α)

namespace Tree

/-- The items of a tree, the root first. -/
def toList : Tree α → List α
  | empty => []
  | node a left right => a :: (left.toList ++ right.toList)

/-- The turns from the root to the place of that number, the root's being one; true is right. -/
def path (n : Nat) : List Bool := (List.range n.log2).reverse.map n.testBit

/-- Puts a child under `a`, the child's root being a risen item if `risen`: it rises once more if it
precedes `a`. -/
def lift (before : α → α → Bool) (a : α) (child : Tree α) (risen : Bool)
    (build : α → Tree α → Tree α) : Tree α × Bool :=
  match risen, child with
  | true, node b left right =>
    if before b a then (build b (node a left right), true) else (build a child, false)
  | _, _ => (build a child, false)

/-- Adds an item at a place and lets it rise; also says whether it is now the root. -/
def insertAt (before : α → α → Bool) (x : α) : List Bool → Tree α → Tree α × Bool
  | _, empty => (node x empty empty, true)
  | [], node _ left right => (node x left right, true)
  | false :: turns, node a left right =>
    let (child, risen) := insertAt before x turns left
    lift before a child risen fun a left => node a left right
  | true :: turns, node a left right =>
    let (child, risen) := insertAt before x turns right
    lift before a child risen fun a right => node a left right

/-- Takes the item away from a place that has no children. -/
def removeAt : List Bool → Tree α → Option (α × Tree α)
  | _, empty => none
  | [], node a _ _ => some (a, empty)
  | false :: turns, node a left right =>
    (removeAt turns left).map fun (x, left) => (x, node a left right)
  | true :: turns, node a left right =>
    (removeAt turns right).map fun (x, right) => (x, node a left right)

/-- Lets an item take the root's place: it goes to the bottom along the children that come first,
each of which moves up, and rises from there; also says whether it is the root in the end. -/
def sink (before : α → α → Bool) (x : α) : Tree α → Tree α × Bool
  | empty => (empty, false)
  | node _ left right =>
    match left, right with
    | node b _ _, node c _ _ =>
      if before b c then
        let (child, risen) := sink before x left
        lift before b child risen fun a left => node a left right
      else
        let (child, risen) := sink before x right
        lift before c child risen fun a right => node a left right
    | node b _ _, empty =>
      let (child, risen) := sink before x left
      lift before b child risen fun a left => node a left empty
    | empty, right => (node x empty right, true)

end Tree

/-- Items in order of precedence. -/
structure Queue (α : Type) where
  tree : Tree α
  size : Nat

namespace Queue

/-- No items. -/
def empty : Queue α := ⟨.empty, 0⟩

/-- The items in no particular order. -/
def toList (q : Queue α) : List α := q.tree.toList

/-- Adds an item. -/
def push (before : α → α → Bool) (q : Queue α) (x : α) : Queue α :=
  ⟨(q.tree.insertAt before x (Tree.path (q.size + 1))).1, q.size + 1⟩

/-- Takes out the first item. -/
def pop? (before : α → α → Bool) (q : Queue α) : Option (α × Queue α) :=
  match q.tree.removeAt (Tree.path q.size) with
  | none => none
  | some (last, .empty) => some (last, empty)
  | some (last, tree@(.node first _ _)) => some (first, ⟨(tree.sink before last).1, q.size - 1⟩)

end Queue

end ScatterGather
