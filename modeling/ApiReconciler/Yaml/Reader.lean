import ApiReconciler.Yaml.Node
import ApiReconciler.Yaml.Plain

/-!
# `ApiReconciler.Yaml.Reader` — YAML documents

## Contents
- `Node.read`: the value of a node. The members of a mapping under the merge key come first, so
  that its own members replace them. `Found`: of several faults the outermost one counts.
- `parse`: the value of the only document of a text; null when there is none.
-/

namespace ApiReconciler.Yaml

/-! ## Kinds of nodes -/

/-- The common tags of scalars. -/
def scalarTags : List (String × Kind) :=
  [("null", .null), ("bool", .bool), ("int", .int), ("float", .float),
    ("timestamp", .timestamp), ("binary", .binary), ("str", .text), ("merge", .merge),
    ("value", .default)]

/-- The kind that a full tag names. -/
def kindOfTag? (name : List Char) : Option Kind :=
  (scalarTags.find? fun t => commonTags ++ t.1.toList = name).map Prod.snd

/-- The kind of a scalar: by its tag, by its shape when it is plain or asks for no tag, and a text
otherwise. -/
def kindOf? (tag : NodeTag) (isPlain : Bool) (text : List Char) : Option Kind :=
  match tag with
  | .absent => some (if isPlain then Kind.ofPlain text else .text)
  | .nonSpecific => some (Kind.ofPlain text)
  | .named name => kindOfTag? name

/-- Whether a collection has a common tag. -/
def hasTag (sort : String) (tag : NodeTag) : Bool := tag = .named (commonTags ++ sort.toList)

/-- Whether a collection is one of its usual sort: by its tag, or for lack of one. -/
def isUsual (sort : String) (tag : NodeTag) : Bool :=
  tag = .absent || tag = .nonSpecific || hasTag sort tag

/-- Whether a sequence stands for pairs. -/
def standsForPairs (tag : NodeTag) : Bool := hasTag "omap" tag || hasTag "pairs" tag

/-- Whether a node is the merge key. -/
def Node.isMerge : Node → Bool
  | .scalar tag isPlain text => kindOf? tag isPlain text = some .merge
  | _ => false

/-- The value of a scalar. -/
def readScalar (tag : NodeTag) (isPlain : Bool) (text : List Char) : Except Error Scalar :=
  match kindOf? tag isPlain text with
  | none => .error .malformed
  | some k => k.read text

/-- The key that a node stands for; the default mark is a text here. -/
def readKey : Node → Except Error Scalar
  | .scalar tag isPlain text =>
    match kindOf? tag isPlain text with
    | none => .error .malformed
    | some .default => .ok (.text (String.ofList text))
    | some k => k.read text
  | _ => .error .malformed

/-! ## Faults by depth -/

/-- A value, or a fault with the number of nodes around it. -/
abbrev Found (α : Type) := Except (Nat × Error) α

/-- A fault of a node itself. -/
def fault {α : Type} (e : Error) : Found α := .error (0, e)

/-- A reading of a node itself. -/
def here {α : Type} (r : Except Error α) : Found α := r.mapError fun e => (0, e)

/-- What is found one node further in. -/
def inside {α : Type} (r : Found α) : Found α := r.mapError fun e => (e.1 + 1, e.2)

/-- Two values. Of two faults the outer one counts, and the first one of those equally far in. -/
def both {α β : Type} (a : Found α) (b : Found β) : Found (α × β) :=
  match a, b with
  | .ok x, .ok y => .ok (x, y)
  | .error e, .error f => .error (if f.1 < e.1 then f else e)
  | .error e, .ok _ => .error e
  | .ok _, .error f => .error f

/-- Two lists as one. -/
def joined {α : Type} (a b : Found (List α)) : Found (List α) := (both a b).map fun r => r.1 ++ r.2

/-! ## Merging -/

mutual

/-- Whether a node may stand under the merge key: a mapping, or a list of mappings. -/
def Node.canMerge : Node → Bool
  | .scalar _ _ _ => false
  | .mapping _ members => canMergeAll members
  | .list _ items => areMappings items

/-- Whether all items are mappings whose members can be merged. -/
def areMappings : List Node → Bool
  | [] => true
  | n :: ns =>
    match n with
    | .mapping _ members => canMergeAll members && areMappings ns
    | _ => false

/-- Whether what stands under the merge keys of a mapping can be merged. -/
def canMergeAll : List (Node × Node) → Bool
  | [] => true
  | (k, v) :: ms => (!k.isMerge || v.canMerge) && canMergeAll ms

end

/-! ## Values -/

mutual

/-- The value of a node. A set is the list of its members. -/
def Node.read : Node → Found Value
  | .scalar tag isPlain text => here ((readScalar tag isPlain text).map .scalar)
  | .list tag items =>
    if isUsual "seq" tag then (inside (readItems items)).map .list
    else if standsForPairs tag then (inside (readPairs items)).map .list
    else fault .malformed
  | .mapping tag members =>
    if isUsual "map" tag then
      (inside (if canMergeAll members then joined (mergedMembers members) (ownMembers members)
        else fault .malformed)).map fun ms => .object (Object.ofList ms)
    else if hasTag "set" tag then
      (inside (if canMergeAll members then joined (mergedMembers members) (ownMembers members)
        else fault .malformed)).map fun ms =>
          .list ((Object.ofList ms).map fun m => .scalar m.1)
    else fault .malformed

/-- The values of items. -/
def readItems : List Node → Found (List Value)
  | [] => .ok []
  | n :: ns => (both n.read (readItems ns)).map fun r => r.1 :: r.2

/-- The pairs that mappings of one member stand for. -/
def readPairs : List Node → Found (List Value)
  | [] => .ok []
  | n :: ns =>
    match n with
    | .mapping _ [(k, v)] =>
      (both (both k.read v.read) (readPairs ns)).map fun r => .list [r.1.1, r.1.2] :: r.2
    | _ => fault .malformed

/-- The members that a mapping has itself. -/
def ownMembers : List (Node × Node) → Found (List (Scalar × Value))
  | [] => .ok []
  | (k, v) :: ms =>
    if k.isMerge then ownMembers ms
    else (both (here (readKey k)) (both v.read (ownMembers ms))).map fun r =>
      (r.1, r.2.1) :: r.2.2

/-- The members that the merge keys of a mapping add. -/
def mergedMembers : List (Node × Node) → Found (List (Scalar × Value))
  | [] => .ok []
  | (k, v) :: ms =>
    if k.isMerge then joined v.readMerged (mergedMembers ms) else mergedMembers ms

/-- The members that a node under the merge key adds: those of a mapping, or those of several. -/
def Node.readMerged : Node → Found (List (Scalar × Value))
  | .scalar _ _ _ => fault .malformed
  | .mapping _ members => joined (mergedMembers members) (ownMembers members)
  | .list _ items => readMergedItems items

/-- The members of several mappings, those of the first ones last. -/
def readMergedItems : List Node → Found (List (Scalar × Value))
  | [] => .ok []
  | n :: ns =>
    match n with
    | .mapping _ members =>
      joined (readMergedItems ns) (joined (mergedMembers members) (ownMembers members))
    | _ => fault .malformed

end

/-- The value of the only document of a text. -/
def parseChars (cs : List Char) : Except Error Value :=
  match (tokens? cs).bind document? with
  | none => .error .malformed
  | some none => .ok .null
  | some (some n) => n.read.mapError Prod.snd

/-- The value of the only document of a text. -/
def parse (text : String) : Except Error Value := parseChars text.toList

end ApiReconciler.Yaml
