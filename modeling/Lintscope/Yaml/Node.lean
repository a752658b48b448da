import Lintscope.Yaml.Token

/-!
# The nodes of a YAML document

A document is a tree of scalars, sequences and mappings. A node may carry a tag, and
an anchor under which an alias elsewhere stands for it. Anchors are told apart by
numbers: an anchor gets the number of different names met before it, so that a number
may come to mean another node when a name is used again.

A text that is at fault is a tree too, as far as it goes: where the fault is, the tree
has a broken leaf, and nothing follows it.
-/

namespace Lintscope.Yaml

/-- Why a tree breaks off. -/
inductive Fault
  /-- The text is no YAML. -/
  | malformed (e : SyntaxError)
  /-- An alias has no anchor before it. -/
  | unknownAlias (place : Place)

/-- What a node has besides its content. -/
structure Head where
  /-- Where the node starts. -/
  place : Place
  /-- The number of its anchor. -/
  anchor : Option Nat := none
  /-- Its tag, with the handle expanded. -/
  tag : Option String := none

/-- A node. -/
inductive Node
  /-- A scalar and how it is written. -/
  | scalar (head : Head) (text : String) (style : Style)
  /-- A sequence. -/
  | sequence (head : Head) (items : List Node)
  /-- A mapping, its entries in their order. -/
  | mapping (head : Head) (entries : List (Node × Node))
  /-- What stands for the node with an anchor. -/
  | alias (place : Place) (anchor : Nat)
  /-- What stands where a text has nothing at all. -/
  | void (place : Place)
  /-- Where the text breaks off. -/
  | broken (fault : Fault)

/-- A scalar that is not written. -/
def Node.empty (place : Place) : Node := .scalar { place } "" .plain

/-- A document: its tree, what is wrong behind it, and whether another one follows. -/
structure Document where
  /-- Its tree. -/
  root : Node
  /-- What is wrong behind the tree. -/
  fault : Option Fault := none
  /-- Whether another document follows. -/
  followed : Bool := false

/-! ## Anchors -/

mutual

/-- The nodes with an anchor, in the order in which they start. -/
def Node.anchored : Node → List (Nat × Node)
  | .scalar head text style => (head.anchor.map fun n => (n, .scalar head text style)).toList
  | .sequence head items =>
    (head.anchor.map fun n => (n, .sequence head items)).toList ++ anchoredItems items
  | .mapping head entries =>
    (head.anchor.map fun n => (n, .mapping head entries)).toList ++ anchoredEntries entries
  | .alias .. => []
  | .void _ => []
  | .broken _ => []

/-- The nodes with an anchor among some items. -/
def anchoredItems : List Node → List (Nat × Node)
  | [] => []
  | n :: rest => n.anchored ++ anchoredItems rest

/-- The nodes with an anchor among some entries. -/
def anchoredEntries : List (Node × Node) → List (Nat × Node)
  | [] => []
  | (k, v) :: rest => k.anchored ++ v.anchored ++ anchoredEntries rest

end

/-- The node that an anchor's number means: the last one that got it. -/
def Document.node? (d : Document) (anchor : Nat) : Option Node :=
  (d.root.anchored.reverse.find? (·.1 == anchor)).map (·.2)

/-! ## Size -/

mutual

/-- The size of a tree: a collection counts twice, for its start and its end. -/
def Node.size : Node → Nat
  | .sequence _ items => 2 + sizeItems items
  | .mapping _ entries => 2 + sizeEntries entries
  | .broken _ => 0
  | _ => 1

/-- The size of some items. -/
def sizeItems : List Node → Nat
  | [] => 0
  | n :: rest => n.size + sizeItems rest

/-- The size of some entries. -/
def sizeEntries : List (Node × Node) → Nat
  | [] => 0
  | (k, v) :: rest => k.size + v.size + sizeEntries rest

end

end Lintscope.Yaml
