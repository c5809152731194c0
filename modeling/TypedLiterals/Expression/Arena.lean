import TypedLiterals.Expression.Node

/-!
The store of all nodes of a pass. Nodes are only ever added, so a handle denotes the same node for
good.
-/

namespace TypedLiterals

/-- The result of reading an expression: a node of the arena, or nothing because the expression was
at fault and that has been reported. -/
inductive Handle where
  | node (index : Nat)
  | void
deriving DecidableEq, Inhabited

namespace Handle

def isVoid : Handle → Bool
  | void => true
  | node _ => false

end Handle

structure Arena where
  nodes : Array Node := #[]
deriving DecidableEq

namespace Arena

def size (a : Arena) : Nat := a.nodes.size

def isEmpty (a : Arena) : Bool := a.nodes.isEmpty

/-- Adds a node. The handle is the index that the node gets. -/
def insert (a : Arena) (node : Node) : Handle × Arena :=
  (.node a.nodes.size, ⟨a.nodes.push node⟩)

def get? (a : Arena) : Handle → Option Node
  | .node index => a.nodes[index]?
  | .void => none

def literal? (a : Arena) (handle : Handle) : Option Literal :=
  (a.get? handle).bind Node.literal?

@[simp] theorem get?_void (a : Arena) : a.get? .void = none := rfl

@[simp] theorem size_insert (a : Arena) (node : Node) : (a.insert node).2.size = a.size + 1 := by
  simp [insert, size]

-- The new handle denotes the new node.
@[simp] theorem get?_insert_self (a : Arena) (node : Node) :
    (a.insert node).2.get? (a.insert node).1 = some node := by
  simp [insert, get?]

-- Every older handle denotes what it denoted before.
theorem get?_insert_of_eq_some {a : Arena} {handle : Handle} {old : Node}
    (h : a.get? handle = some old) (node : Node) : (a.insert node).2.get? handle = some old := by
  cases handle with
  | void => simp at h
  | node index =>
    have hlt : index < a.nodes.size := (Array.getElem?_eq_some_iff.mp h).1
    simp only [get?, insert] at h ⊢
    rw [Array.getElem?_push_lt hlt, ← h, Array.getElem?_eq_getElem hlt]

end Arena

end TypedLiterals
