import ApiReconciler.Yaml.Lexer

/-!
# `ApiReconciler.Yaml.Node` — the tree of a document

## Contents
- `Node`: scalars, lists and mappings, each with the tag it was given.
- `document?`: the tree that tokens describe; an empty stream has none, and a second document is
  malformed. An alias stands for the node that its anchor was put on, and for nothing inside that
  node itself.
-/

namespace ApiReconciler.Yaml

/-- The tag of a node: none, the mark that asks for no tag, or a full one. -/
inductive NodeTag
  | absent
  | nonSpecific
  | named (name : List Char)
deriving DecidableEq, Repr

/-- A node of a document. -/
inductive Node
  | scalar (tag : NodeTag) (isPlain : Bool) (text : List Char)
  | list (tag : NodeTag) (items : List Node)
  | mapping (tag : NodeTag) (members : List (Node × Node))
deriving Repr

/-- The node where nothing stands. -/
def Node.empty : Node := .scalar .absent true []

/-- What is left of the tokens, and the nodes with anchors so far. -/
structure Progress where
  tokens : List Token
  anchors : List (List Char × Node)
deriving Repr

/-- What tag handles stand for. -/
abbrev Handles := List (List Char × List Char)

/-- The beginning of the names of the common tags. -/
def commonTags : List Char := "tag:yaml.org,2002:".toList

/-- The handles that need no directive. -/
def defaultHandles : Handles := [(['!'], ['!']), (['!', '!'], commonTags)]

/-- The tag that is meant, none when its handle stands for nothing. -/
def Tag.resolve? (handles : Handles) (t : Tag) : Option NodeTag :=
  match t.handle with
  | none => some (if t.suffix = ['!'] then .nonSpecific else .named t.suffix)
  | some h =>
    (handles.lookup h).map fun front =>
      if front ++ t.suffix = ['!'] then .nonSpecific else .named (front ++ t.suffix)

/-- The anchor and the tag of a node. -/
structure Properties where
  anchor : Option (List Char)
  tag : Option Tag
deriving Repr

/-- The anchor and the tag at the front, in either order. -/
def takeProperties (ts : List Token) : Properties × List Token :=
  match ts with
  | .anchor a :: .tag t :: rest => (⟨some a, some t⟩, rest)
  | .anchor a :: rest => (⟨some a, none⟩, rest)
  | .tag t :: .anchor a :: rest => (⟨some a, some t⟩, rest)
  | .tag t :: rest => (⟨none, some t⟩, rest)
  | rest => (⟨none, none⟩, rest)

/-- With a node put under an anchor, if there is one. -/
def Progress.bindAnchor (p : Progress) (anchor : Option (List Char)) (n : Node) : Progress :=
  match anchor with
  | none => p
  | some a => { p with anchors := (a, n) :: p.anchors }

/-- Whether an anchor was put on a node before. -/
def Progress.isBound (p : Progress) (anchor : Option (List Char)) : Bool :=
  anchor.any fun a => (p.anchors.lookup a).isSome

/-- Whether a node is missing before a token of a block mapping. -/
def endsBlockNode (ts : List Token) : Bool :=
  match ts with
  | .key :: _ => true
  | .value :: _ => true
  | .blockEnd :: _ => true
  | _ => false

/-- Whether a node is missing in a sequence without a block of its own. -/
def endsLooseItem (ts : List Token) : Bool :=
  match ts with
  | .dash :: _ => true
  | .key :: _ => true
  | .value :: _ => true
  | .blockEnd :: _ => true
  | _ => false

/-- Whether a node is missing before a token inside brackets. -/
def endsFlowNode (close : Token) (isKey : Bool) (ts : List Token) : Bool :=
  match ts with
  | .comma :: _ => true
  | .value :: _ => isKey
  | t :: _ => t = close
  | [] => false

/-- The tokens behind the mark of a value, if it is there. -/
def takeValueMark? (ts : List Token) : Option (List Token) :=
  match ts with
  | .value :: rest => some rest
  | _ => none

mutual

/-- A node. Blocks may start unless it stands inside brackets, and `loose` sequences (in a mapping,
at the column of its keys) only where they may. -/
def node? (handles : Handles) : Nat → Bool → Bool → Progress → Option (Node × Progress)
  | 0, _, _, _ => none
  | fuel + 1, isBlock, loose, p =>
    match p.tokens with
    | .alias a :: rest => (p.anchors.lookup a).map fun n => (n, { p with tokens := rest })
    | _ => do
      let (given, rest) := takeProperties p.tokens
      let tag ← match given.tag with
        | none => some NodeTag.absent
        | some t => t.resolve? handles
      let isGiven := given.anchor.isSome || given.tag.isSome
      if p.isBound given.anchor then none
      else do
        let q := Progress.bindAnchor { p with tokens := rest } given.anchor Node.empty
        let (n, q) ← content? handles fuel isBlock loose isGiven tag q
        some (n, q.bindAnchor given.anchor n)

/-- What stands behind the anchor and the tag of a node. -/
def content? (handles : Handles) :
    Nat → Bool → Bool → Bool → NodeTag → Progress → Option (Node × Progress)
  | 0, _, _, _, _, _ => none
  | fuel + 1, isBlock, loose, isGiven, tag, p =>
    match p.tokens with
    | .dash :: _ =>
      if loose then (looseItems? handles fuel p).map fun r => (.list tag r.1, r.2)
      else if isGiven then some (.scalar tag true [], p)
      else none
    | .scalar text isPlain :: rest =>
      some (.scalar tag isPlain text, { p with tokens := rest })
    | .openList :: rest =>
      (flowItems? handles fuel true { p with tokens := rest }).map fun r => (.list tag r.1, r.2)
    | .openMapping :: rest =>
      (flowMembers? handles fuel true { p with tokens := rest }).map fun r =>
        (.mapping tag r.1, r.2)
    | .sequenceStart :: rest =>
      if isBlock then
        (blockItems? handles fuel { p with tokens := rest }).map fun r => (.list tag r.1, r.2)
      else if isGiven then some (.scalar tag true [], p)
      else none
    | .mappingStart :: rest =>
      if isBlock then
        (blockMembers? handles fuel { p with tokens := rest }).map fun r => (.mapping tag r.1, r.2)
      else if isGiven then some (.scalar tag true [], p)
      else none
    | _ => if isGiven then some (.scalar tag true [], p) else none

/-- The items of a block sequence, up to its end. -/
def blockItems? (handles : Handles) : Nat → Progress → Option (List Node × Progress)
  | 0, _ => none
  | fuel + 1, p =>
    match p.tokens with
    | .dash :: rest => do
      let p : Progress := { p with tokens := rest }
      let isEmpty := match rest with
        | .dash :: _ => true
        | .blockEnd :: _ => true
        | _ => false
      let (n, p) ← if isEmpty then some (Node.empty, p) else node? handles fuel true false p
      let (ns, p) ← blockItems? handles fuel p
      some (n :: ns, p)
    | .blockEnd :: rest => some ([], { p with tokens := rest })
    | _ => none

/-- The items of a sequence without a block of its own. -/
def looseItems? (handles : Handles) : Nat → Progress → Option (List Node × Progress)
  | 0, _ => none
  | fuel + 1, p =>
    match p.tokens with
    | .dash :: rest => do
      let p : Progress := { p with tokens := rest }
      let (n, p) ←
        if endsLooseItem rest then some (Node.empty, p) else node? handles fuel true false p
      let (ns, p) ← looseItems? handles fuel p
      some (n :: ns, p)
    | _ => some ([], p)

/-- The members of a block mapping, up to its end. -/
def blockMembers? (handles : Handles) : Nat → Progress → Option (List (Node × Node) × Progress)
  | 0, _ => none
  | fuel + 1, p =>
    match p.tokens with
    | .key :: rest => do
      let p : Progress := { p with tokens := rest }
      let (k, p) ←
        if endsBlockNode rest then some (Node.empty, p) else node? handles fuel true true p
      let (v, p) ← blockValue? handles fuel p
      let (ms, p) ← blockMembers? handles fuel p
      some ((k, v) :: ms, p)
    | .blockEnd :: rest => some ([], { p with tokens := rest })
    | _ => none

/-- The value of a member of a block mapping. -/
def blockValue? (handles : Handles) : Nat → Progress → Option (Node × Progress)
  | 0, _ => none
  | fuel + 1, p =>
    match takeValueMark? p.tokens with
    | none => some (Node.empty, p)
    | some rest =>
      let p : Progress := { p with tokens := rest }
      if endsBlockNode rest then some (Node.empty, p) else node? handles fuel true true p

/-- The items of a list in brackets, up to its end. A key makes an item a mapping of one member. -/
def flowItems? (handles : Handles) : Nat → Bool → Progress → Option (List Node × Progress)
  | 0, _, _ => none
  | fuel + 1, isFirst, p =>
    match p.tokens with
    | .closeList :: rest => some ([], { p with tokens := rest })
    | ts => do
      let ts ← if isFirst then some ts else
        match ts with
        | .comma :: rest => some rest
        | _ => none
      match ts with
      | .closeList :: rest => some ([], { p with tokens := rest })
      | .key :: rest => do
        let p : Progress := { p with tokens := rest }
        let (k, p) ← if endsFlowNode .closeList true rest then some (Node.empty, p)
          else node? handles fuel false false p
        let (v, p) ← flowValue? handles fuel .closeList p
        let (ns, p) ← flowItems? handles fuel false p
        some (.mapping .absent [(k, v)] :: ns, p)
      | _ => do
        let (n, p) ← node? handles fuel false false { p with tokens := ts }
        let (ns, p) ← flowItems? handles fuel false p
        some (n :: ns, p)

/-- The members of a mapping in braces, up to its end. -/
def flowMembers? (handles : Handles) :
    Nat → Bool → Progress → Option (List (Node × Node) × Progress)
  | 0, _, _ => none
  | fuel + 1, isFirst, p =>
    match p.tokens with
    | .closeMapping :: rest => some ([], { p with tokens := rest })
    | ts => do
      let ts ← if isFirst then some ts else
        match ts with
        | .comma :: rest => some rest
        | _ => none
      match ts with
      | .closeMapping :: rest => some ([], { p with tokens := rest })
      | .key :: rest => do
        let p : Progress := { p with tokens := rest }
        let (k, p) ← if endsFlowNode .closeMapping true rest then some (Node.empty, p)
          else node? handles fuel false false p
        let (v, p) ← flowValue? handles fuel .closeMapping p
        let (ms, p) ← flowMembers? handles fuel false p
        some ((k, v) :: ms, p)
      | _ => do
        let (k, p) ← node? handles fuel false false { p with tokens := ts }
        let (ms, p) ← flowMembers? handles fuel false p
        some ((k, Node.empty) :: ms, p)

/-- The value of a member inside brackets that end with a given token. -/
def flowValue? (handles : Handles) : Nat → Token → Progress → Option (Node × Progress)
  | 0, _, _ => none
  | fuel + 1, close, p =>
    match takeValueMark? p.tokens with
    | none => some (Node.empty, p)
    | some rest =>
      let p : Progress := { p with tokens := rest }
      if endsFlowNode close false rest then some (Node.empty, p)
      else node? handles fuel false false p

end

/-! ## Documents -/

/-- The handles that directives introduce, each once, with the tokens behind them. A version may be
named once. -/
def takeDirectives? : List Token → Bool → Handles → Option (Handles × List Token)
  | .directive (.version major) :: ts, hasVersion, handles =>
    if hasVersion ∨ major ≠ 1 then none else takeDirectives? ts true handles
  | .directive (.handle name target) :: ts, hasVersion, handles =>
    if (handles.lookup name).isSome then none
    else takeDirectives? ts hasVersion ((name, target) :: handles)
  | .directive .other :: ts, hasVersion, handles => takeDirectives? ts hasVersion handles
  | ts, _, handles => some (handles, ts)

/-- The node of a document behind its start; there may be nothing. -/
def documentNode? (handles : Handles) (fuel : Nat) (ts : List Token) :
    Option (Node × List Token) :=
  match ts with
  | [] => some (Node.empty, [])
  | .directive _ :: _ => some (Node.empty, ts)
  | .documentStart :: _ => some (Node.empty, ts)
  | .documentEnd :: _ => some (Node.empty, ts)
  | _ => (node? handles fuel true false ⟨ts, []⟩).map fun r => (r.1, r.2.tokens)

/-- Nothing but ends of documents. -/
def isFinished (ts : List Token) : Bool := ts.all (· = .documentEnd)

/-- The only document of a stream; `some none` for an empty stream. -/
def document? (ts : List Token) : Option (Option Node) :=
  let fuel := 4 * ts.length + 8
  let finish (r : Option (Node × List Token)) : Option (Option Node) :=
    match r with
    | some (n, rest) => if isFinished rest then some (some n) else none
    | none => none
  match ts with
  | [] => some none
  | .directive _ :: _ => do
    let (handles, rest) ← takeDirectives? ts false []
    match rest with
    | .documentStart :: rest => finish (documentNode? (handles ++ defaultHandles) fuel rest)
    | _ => none
  | .documentStart :: rest => finish (documentNode? defaultHandles fuel rest)
  | _ => finish ((node? defaultHandles fuel true false ⟨ts, []⟩).map fun r => (r.1, r.2.tokens))

end ApiReconciler.Yaml
