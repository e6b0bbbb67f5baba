import DeltaDebug.Yaml.Token

/-
  YAML documents: nodes, and how they are read from tokens. Aliases are replaced by what they
  stand for.
-/

namespace DeltaDebug.Yaml

/-- A value of a document. -/
inductive Node where
  | scalar (text : String) (style : Style) (tag : Option String)
  | sequence (items : List Node)
  | mapping (entries : List (Node × Node))
deriving Inhabited

/-- What stands where nothing is written. -/
def Node.nothing : Node := .scalar "" .plain none

/-- The anchors of a document so far; one whose node is not complete yet has none. -/
abbrev Anchors := List (String × Option Node)

/-- Prefixes of tags by their handles. -/
abbrev Handles := List (String × String)

/-- The handles that need no directive. -/
def defaultHandles : Handles := [("!", "!"), ("!!", "tag:yaml.org,2002:")]

/-- The full name of a tag. -/
def tagName (handles : Handles) (handle suffix : String) : Option String :=
  if handle = "" then some suffix else (handles.lookup handle).map (· ++ suffix)

/-- The properties before a node: an anchor and a tag, in either order, each at most once. -/
def properties (handles : Handles) : List Token → Option (Option String × Option String × List Token)
  | .anchor a :: .tag h s :: rest => do return (some a, some (← tagName handles h s), rest)
  | .anchor a :: rest => some (some a, none, rest)
  | .tag h s :: .anchor a :: rest => do return (some a, some (← tagName handles h s), rest)
  | .tag h s :: rest => do return (none, some (← tagName handles h s), rest)
  | ts => some (none, none, ts)

/-- A result of reading a part of a document. -/
abbrev Read (α : Type) := Option (α × Anchors × List Token)

mutual

/-- A node. `block` allows block collections, and `loose` a block sequence that is not indented
against the key before it. -/
def node (handles : Handles) : (fuel : Nat) → (block loose : Bool) → Anchors → List Token → Read Node
  | 0, _, _, _, _ => none
  | fuel + 1, block, loose, anchors, ts =>
    match ts with
    | .alias name :: rest =>
      match anchors.lookup name with
      | some (some n) => some (n, anchors, rest)
      | _ => none
    | ts =>
      match properties handles ts with
      | none => none
      | some (anchor, tag, ts) =>
        let opened : Anchors := match anchor with
          | some a => (a, none) :: anchors
          | none => anchors
        let finish : Read Node → Read Node
          | some (n, anchors, rest) =>
            match anchor with
            | some a => some (n, (a, some n) :: anchors, rest)
            | none => some (n, anchors, rest)
          | none => none
        match ts with
        | .blockEntry :: _ =>
          if loose then finish (looseSequence handles fuel [] opened ts)
          else if anchor.isSome || tag.isSome then
            finish (some (.scalar "" .plain tag, opened, ts))
          else none
        | .scalar text style :: rest => finish (some (.scalar text style tag, opened, rest))
        | .flowSequenceStart :: rest => finish (flowSequence handles fuel [] opened rest)
        | .flowMappingStart :: rest => finish (flowMapping handles fuel [] opened rest)
        | .blockSequenceStart :: rest =>
          if block then finish (blockSequence handles fuel [] opened rest)
          else if anchor.isSome || tag.isSome then
            finish (some (.scalar "" .plain tag, opened, ts))
          else none
        | .blockMappingStart :: rest =>
          if block then finish (blockMapping handles fuel [] opened rest)
          else if anchor.isSome || tag.isSome then
            finish (some (.scalar "" .plain tag, opened, ts))
          else none
        | ts =>
          if anchor.isSome || tag.isSome then finish (some (.scalar "" .plain tag, opened, ts))
          else none

/-- The items of a block sequence; `acc` holds them last first. -/
def blockSequence (handles : Handles) : (fuel : Nat) → (acc : List Node) → Anchors → List Token →
    Read Node
  | 0, _, _, _ => none
  | fuel + 1, acc, anchors, ts =>
    match ts with
    | .blockEnd :: rest => some (.sequence acc.reverse, anchors, rest)
    | .blockEntry :: rest =>
      match rest with
      | .blockEntry :: _ | .blockEnd :: _ =>
        blockSequence handles fuel (.nothing :: acc) anchors rest
      | _ =>
        match node handles fuel true false anchors rest with
        | some (n, anchors, rest) => blockSequence handles fuel (n :: acc) anchors rest
        | none => none
    | _ => none

/-- The items of a sequence that ends where its dashes do. -/
def looseSequence (handles : Handles) : (fuel : Nat) → (acc : List Node) → Anchors → List Token →
    Read Node
  | 0, _, _, _ => none
  | fuel + 1, acc, anchors, ts =>
    match ts with
    | .blockEntry :: rest =>
      match rest with
      | .blockEntry :: _ | .key :: _ | .value :: _ | .blockEnd :: _ =>
        looseSequence handles fuel (.nothing :: acc) anchors rest
      | _ =>
        match node handles fuel true false anchors rest with
        | some (n, anchors, rest) => looseSequence handles fuel (n :: acc) anchors rest
        | none => none
    | ts => some (.sequence acc.reverse, anchors, ts)

/-- The entries of a block mapping. -/
def blockMapping (handles : Handles) : (fuel : Nat) → (acc : List (Node × Node)) → Anchors →
    List Token → Read Node
  | 0, _, _, _ => none
  | fuel + 1, acc, anchors, ts =>
    match ts with
    | .blockEnd :: rest => some (.mapping acc.reverse, anchors, rest)
    | .key :: rest =>
      match blockPart handles fuel anchors rest with
      | none => none
      | some (k, anchors, rest) =>
        match rest with
        | .value :: rest =>
          match blockPart handles fuel anchors rest with
          | none => none
          | some (v, anchors, rest) => blockMapping handles fuel ((k, v) :: acc) anchors rest
        | rest => blockMapping handles fuel ((k, .nothing) :: acc) anchors rest
    | _ => none

/-- A key or value of a block mapping, which may be missing. -/
def blockPart (handles : Handles) : (fuel : Nat) → Anchors → List Token → Read Node
  | 0, _, _ => none
  | fuel + 1, anchors, ts =>
    match ts with
    | .key :: _ | .value :: _ | .blockEnd :: _ => some (.nothing, anchors, ts)
    | ts => node handles fuel true true anchors ts

/-- The items of a sequence in brackets. -/
def flowSequence (handles : Handles) : (fuel : Nat) → (acc : List Node) → Anchors → List Token →
    Read Node
  | 0, _, _, _ => none
  | fuel + 1, acc, anchors, ts =>
    let behind : Read Node → Read Node
      | some (n, anchors, .flowEntry :: rest) => flowSequence handles fuel (n :: acc) anchors rest
      | some (n, anchors, .flowSequenceEnd :: rest) =>
        some (.sequence (n :: acc).reverse, anchors, rest)
      | _ => none
    match ts with
    | .flowSequenceEnd :: rest => some (.sequence acc.reverse, anchors, rest)
    | .key :: rest =>
      match flowPart handles fuel anchors rest with
      | none => none
      | some (k, anchors, rest) =>
        match rest with
        | .value :: rest =>
          match flowPart handles fuel anchors rest with
          | none => none
          | some (v, anchors, rest) => behind (some (.mapping [(k, v)], anchors, rest))
        | rest => behind (some (.mapping [(k, .nothing)], anchors, rest))
    | ts => behind (node handles fuel false false anchors ts)

/-- The entries of a mapping in braces. -/
def flowMapping (handles : Handles) : (fuel : Nat) → (acc : List (Node × Node)) → Anchors →
    List Token → Read Node
  | 0, _, _, _ => none
  | fuel + 1, acc, anchors, ts =>
    let behind : Read (Node × Node) → Read Node
      | some (e, anchors, .flowEntry :: rest) => flowMapping handles fuel (e :: acc) anchors rest
      | some (e, anchors, .flowMappingEnd :: rest) =>
        some (.mapping (e :: acc).reverse, anchors, rest)
      | _ => none
    match ts with
    | .flowMappingEnd :: rest => some (.mapping acc.reverse, anchors, rest)
    | .key :: rest =>
      match flowPart handles fuel anchors rest with
      | none => none
      | some (k, anchors, rest) =>
        match rest with
        | .value :: rest =>
          match flowPart handles fuel anchors rest with
          | none => none
          | some (v, anchors, rest) => behind (some ((k, v), anchors, rest))
        | rest => behind (some ((k, .nothing), anchors, rest))
    | ts =>
      match node handles fuel false false anchors ts with
      | some (k, anchors, rest) => behind (some ((k, .nothing), anchors, rest))
      | none => none

/-- A key or value in brackets or braces, which may be missing. -/
def flowPart (handles : Handles) : (fuel : Nat) → Anchors → List Token → Read Node
  | 0, _, _ => none
  | fuel + 1, anchors, ts =>
    match ts with
    | .value :: _ | .flowEntry :: _ | .flowSequenceEnd :: _ | .flowMappingEnd :: _ =>
      some (.nothing, anchors, ts)
    | ts => node handles fuel false false anchors ts

end

/-- The directives before a document: at most one version, and each tag handle once. -/
def directives : (version : Bool) → Handles → List Token → Option (Handles × List Token)
  | version, handles, .versionDirective major minor :: rest =>
    if version || major ≠ 1 || (minor ≠ 1 && minor ≠ 2) then none
    else directives true handles rest
  | version, handles, .tagDirective h u :: rest =>
    if (handles.lookup h).isSome then none else directives version ((h, u) :: handles) rest
  | _, handles, ts => some (handles ++ defaultHandles, ts)

/-- What follows a document: marks of its end, and nothing else. -/
def onlyEnds : List Token → Bool
  | .documentEnd :: rest => onlyEnds rest
  | [.streamEnd] => true
  | _ => false

/-- What the texts of a stream come to. -/
inductive Stream where
  /-- There is no document. -/
  | empty
  | document (root : Node)

/-- Reads a stream of at most one document. -/
def stream (ts : List Token) : Option Stream :=
  let fuel := 3 * ts.length + 3
  match ts with
  | [.streamEnd] => some .empty
  | ts => do
    let (handles, rest) ← directives false [] ts
    let isExplicit : Bool := rest.head? == some .documentStart
    if !isExplicit && rest.length ≠ ts.length then none
    else
      let body := if isExplicit then rest.tail else rest
      match isExplicit, body with
      | true, .versionDirective _ _ :: _ | true, .tagDirective _ _ :: _ | true, .documentStart :: _ =>
        none
      | true, .documentEnd :: _ | true, .streamEnd :: _ =>
        if onlyEnds body then some (.document .nothing) else none
      | _, body =>
        match node handles fuel true false [] body with
        | some (n, _, rest) => if onlyEnds rest then some (.document n) else none
        | none => none

end DeltaDebug.Yaml
