/-!
# YAML nodes

What a document consists of. A node may have a tag, which says what kind of value is meant, and may
be anchored under a name and referred to by it later on; `Node.expand?` puts the referred node in
the place of each reference.
-/

namespace Codespaces.Yaml

inductive Node where
  /-- A text; `plain` when it is neither quoted nor a block of lines. -/
  | scalar (plain : Bool) (text : String)
  | sequence (items : List Node)
  | mapping (entries : List (Node × Node))
  | tagged (tag : String) (node : Node)
  | anchored (name : String) (node : Node)
  | alias (name : String)
  deriving Inhabited

def Node.empty : Node := .scalar true ""

/-- The nodes that names stand for, the latest first. -/
abbrev Anchors := List (String × Node)

mutual

/-- Replaces references by what they refer to, in the order of the document. -/
def Node.expandFrom? (anchors : Anchors) : Node → Option (Node × Anchors)
  | .scalar plain text => some (.scalar plain text, anchors)
  | .sequence items => do
    let (items, anchors) ← expandItems? anchors items
    return (.sequence items, anchors)
  | .mapping entries => do
    let (entries, anchors) ← expandEntries? anchors entries
    return (.mapping entries, anchors)
  | .tagged tag node => do
    let (node, anchors) ← node.expandFrom? anchors
    return (.tagged tag node, anchors)
  | .anchored name node => do
    let (node, anchors) ← node.expandFrom? anchors
    return (node, (name, node) :: anchors)
  | .alias name => do
    let node ← anchors.lookup name
    return (node, anchors)

def expandItems? (anchors : Anchors) : List Node → Option (List Node × Anchors)
  | [] => some ([], anchors)
  | item :: items => do
    let (item, anchors) ← item.expandFrom? anchors
    let (items, anchors) ← expandItems? anchors items
    return (item :: items, anchors)

def expandEntries? (anchors : Anchors) :
    List (Node × Node) → Option (List (Node × Node) × Anchors)
  | [] => some ([], anchors)
  | (key, value) :: entries => do
    let (key, anchors) ← key.expandFrom? anchors
    let (value, anchors) ← value.expandFrom? anchors
    let (entries, anchors) ← expandEntries? anchors entries
    return ((key, value) :: entries, anchors)

end

/-- The node without anchors and references; none if a reference has nothing to refer to. -/
def Node.expand? (node : Node) : Option Node := (node.expandFrom? []).map (·.1)

end Codespaces.Yaml
