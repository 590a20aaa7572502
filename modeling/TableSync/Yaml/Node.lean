import TableSync.Yaml.Tag

/-!
# Nodes

A document as a graph of nodes.  A node is known by its number; what stands at several places is
one node with several references, and a collection may hold itself.
-/

namespace TableSync.Yaml

/-- What a node holds; the items, keys and values of a collection are nodes. -/
inductive Content
  | scalar (text : Text)
  | list (items : List Nat)
  | map (entries : List (Nat × Nat))
deriving DecidableEq, Repr

structure Node where
  tag : Tag
  content : Content
deriving DecidableEq, Repr

instance : Inhabited Node := ⟨⟨.null, .scalar []⟩⟩

/-- The nodes of a document by number. -/
abbrev Graph := Array Node

def Graph.node (g : Graph) (id : Nat) : Node :=
  g[id]?.getD default

def Graph.change (g : Graph) (id : Nat) (f : Node → Node) : Graph :=
  g.modify id f

end TableSync.Yaml
