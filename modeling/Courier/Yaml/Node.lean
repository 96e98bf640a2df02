import Courier.Yaml.Lexer

/-! The documents of a YAML text as trees.

Anchors are numbered, and an alias holds the number that its name has where it stands. A new name
gets the next number. A name that is used again gets the next number too, but does not use it up, so
that the next new name shares it. Aliases are looked up when the document is complete, and of nodes
that share a number the last one counts.

An alias of a scalar is that scalar once more. An alias of a collection stands for an empty
sequence: it is well formed wherever the collection is, and nothing here looks into one. -/
namespace Courier.Yaml

/-- A text with all that decides what it stands for. -/
structure Scalar where
  text : String
  style : Style
  tag : Option String
  deriving DecidableEq, Repr

/-- A tree of values. -/
inductive Node where
  | scalar (s : Scalar)
  /-- The node behind the anchor with this number. -/
  | alias (anchor : Nat)
  | sequence (items : List Node)
  | mapping (pairs : List (Node × Node))

namespace Node

/-- What is left to read, with the handles of tags that are known there, the names of anchors with
their numbers, and the nodes behind the anchors, the last one first. -/
structure Source where
  tokens : List Token
  handles : List (String × String)
  names : List (String × Nat) := []
  anchored : List (Nat × Node) := []

namespace Source

def next (s : Source) : Option Token := s.tokens.head?

def skip (s : Source) : Source := { s with tokens := s.tokens.tail }

/-- Whether one of these tokens is next, or none is left. -/
def atAny (s : Source) (tokens : List Token) : Bool :=
  match s.next with
  | some token => tokens.contains token
  | none => true

end Source

/-- What stands where a value is left out. -/
def emptyScalar (tag : Option String) : Node := .scalar ⟨"", .plain, tag⟩

/-- Anchor and tag in front of a node, in any order. -/
structure Properties where
  anchor : Option String := none
  tag : Option String := none

/-- A tag in full, if its handle is known. -/
def resolveTag? (handles : List (String × String)) (handle suffix : String) : Option String :=
  if handle = "" then some suffix else (handles.lookup handle).map (· ++ suffix)

/-- Takes an anchor, if one is next. -/
def anchorFirst (s : Source) : Option String × Source :=
  match s.next with
  | some (.anchor name) => (some name, s.skip)
  | _ => (none, s)

/-- Takes a tag, if one is next. -/
def tagFirst (s : Source) : Option (Option String × Source) :=
  match s.next with
  | some (.tag handle suffix) =>
    (resolveTag? s.handles handle suffix).map fun tag => (some tag, s.skip)
  | _ => some (none, s)

/-- Takes anchor and tag, in either order. -/
def properties (s : Source) : Option (Properties × Source) := do
  let (before, s) := anchorFirst s
  let (tag, s) ← tagFirst s
  let (after, s) := if before.isNone && tag.isSome then anchorFirst s else (none, s)
  return (⟨before.or after, tag⟩, s)

/-- Gives the node of an anchor its number. -/
def Properties.register (p : Properties) (node : Node) (s : Source) : Source :=
  match p.anchor with
  | some name =>
    let number := s.names.length
    { s with
      names := (name, number) :: s.names.filter (·.1 ≠ name)
      anchored := (number, node) :: s.anchored }
  | none => s

/-- A node that is nothing but its anchor or tag. -/
def emptyIfNamed (p : Properties) (s : Source) : Option (Node × Source) :=
  if p.anchor.isSome || p.tag.isSome then
    some (emptyScalar p.tag, p.register (emptyScalar p.tag) s)
  else none

mutual

/-- A node. A block collection may start only where `block` says so, and a sequence without an
indentation of its own only where `loose` does. -/
def read (block loose : Bool) : Nat → Source → Option (Node × Source)
  | 0, _ => none
  | fuel + 1, s =>
    match s.next with
    | some (.alias name) => (s.names.lookup name).map fun number => (.alias number, s.skip)
    | _ =>
      match properties s with
      | none => none
      | some (p, s) =>
        let inside := p.register (.sequence []) s
        match s.next with
        | some .blockEntry =>
          if loose then (readLoose fuel inside).map fun (items, s) => (.sequence items, s)
          else emptyIfNamed p s
        | some (.scalar text style) =>
          let node := Node.scalar ⟨text, style, p.tag⟩
          some (node, p.register node s.skip)
        | some .openSequence =>
          (readFlowItems true fuel inside.skip).map fun (items, s) => (.sequence items, s)
        | some .openMapping =>
          (readFlowPairs true fuel inside.skip).map fun (pairs, s) => (.mapping pairs, s)
        | some .blockSequence =>
          if block then (readItems fuel inside.skip).map fun (items, s) => (.sequence items, s)
          else emptyIfNamed p s
        | some .blockMapping =>
          if block then (readPairs fuel inside.skip).map fun (pairs, s) => (.mapping pairs, s)
          else emptyIfNamed p s
        | _ => emptyIfNamed p s

/-- A node, or an empty scalar in front of some tokens. -/
def readUnless (ends : List Token) (block loose : Bool) (fuel : Nat) (s : Source) :
    Option (Node × Source) :=
  match fuel with
  | 0 => none
  | fuel + 1 => if s.atAny ends then some (emptyScalar none, s) else read block loose fuel s

/-- The entries of a block sequence and its end. -/
def readItems : Nat → Source → Option (List Node × Source)
  | 0, _ => none
  | fuel + 1, s =>
    match s.next with
    | some .blockEntry =>
      match readUnless [.blockEntry, .blockEnd] true false fuel s.skip with
      | none => none
      | some (item, s) => (readItems fuel s).map fun (items, s) => (item :: items, s)
    | some .blockEnd => some ([], s.skip)
    | _ => none

/-- The entries of a sequence that ends where no further entry follows. -/
def readLoose : Nat → Source → Option (List Node × Source)
  | 0, _ => none
  | fuel + 1, s =>
    match s.next with
    | some .blockEntry =>
      match readUnless [.blockEntry, .key, .value, .blockEnd] true false fuel s.skip with
      | none => none
      | some (item, s) => (readLoose fuel s).map fun (items, s) => (item :: items, s)
    | _ => some ([], s)

/-- The pairs of a block mapping and its end. -/
def readPairs : Nat → Source → Option (List (Node × Node) × Source)
  | 0, _ => none
  | fuel + 1, s =>
    match s.next with
    | some .key =>
      match readUnless [.key, .value, .blockEnd] true true fuel s.skip with
      | none => none
      | some (key, s) =>
        match readValue fuel s with
        | none => none
        | some (value, s) => (readPairs fuel s).map fun (pairs, s) => ((key, value) :: pairs, s)
    | some .blockEnd => some ([], s.skip)
    | _ => none

/-- The value behind a key of a block mapping; it may be missing. -/
def readValue : Nat → Source → Option (Node × Source)
  | 0, _ => none
  | fuel + 1, s =>
    match s.next with
    | some .value => readUnless [.key, .value, .blockEnd] true true fuel s.skip
    | _ => some (emptyScalar none, s)

/-- The entries of a bracketed sequence and its end. Commas stand between entries, and one may stand
behind the last. A key token makes an entry a mapping of one pair. -/
def readFlowItems (first : Bool) : Nat → Source → Option (List Node × Source)
  | 0, _ => none
  | fuel + 1, s =>
    match s.next, first with
    | some .closeSequence, _ => some ([], s.skip)
    | some .flowEntry, false => readFlowItem fuel s.skip
    | _, true => readFlowItem fuel s
    | _, false => none

/-- An item between brackets, or the bracket that closes them. -/
def readFlowItem : Nat → Source → Option (List Node × Source)
  | 0, _ => none
  | fuel + 1, s =>
    match s.next with
    | some .closeSequence => some ([], s.skip)
    | some .key =>
      match readSinglePair fuel s.skip with
      | none => none
      | some (item, s) =>
        (readFlowItems false fuel s).map fun (items, s) => (item :: items, s)
    | _ =>
      match read false false fuel s with
      | none => none
      | some (item, s) =>
        (readFlowItems false fuel s).map fun (items, s) => (item :: items, s)

/-- A pair inside a bracketed sequence. A key that is missing takes the token in its place with
it. -/
def readSinglePair : Nat → Source → Option (Node × Source)
  | 0, _ => none
  | fuel + 1, s =>
    let key :=
      if s.atAny [.value, .flowEntry, .closeSequence] then some (emptyScalar none, s.skip)
      else read false false fuel s
    match key with
    | none => none
    | some (key, s) =>
      match s.next with
      | some .value =>
        (readUnless [.flowEntry, .closeSequence] false false fuel s.skip).map
          fun (value, s) => (.mapping [(key, value)], s)
      | _ => some (.mapping [(key, emptyScalar none)], s)

/-- The pairs of a bracketed mapping and its end. -/
def readFlowPairs (first : Bool) : Nat → Source → Option (List (Node × Node) × Source)
  | 0, _ => none
  | fuel + 1, s =>
    match s.next, first with
    | some .closeMapping, _ => some ([], s.skip)
    | some .flowEntry, false => readFlowPair fuel s.skip
    | _, true => readFlowPair fuel s
    | _, false => none

/-- A pair between braces, or the brace that closes them. -/
def readFlowPair : Nat → Source → Option (List (Node × Node) × Source)
  | 0, _ => none
  | fuel + 1, s =>
    match s.next with
    | some .closeMapping => some ([], s.skip)
    | some .key =>
      match readUnless [.value, .flowEntry, .closeMapping] false false fuel s.skip with
      | none => none
      | some (key, s) =>
        let value :=
          if s.next = some .value then
            readUnless [.flowEntry, .closeMapping] false false fuel s.skip
          else some (emptyScalar none, s)
        match value with
        | none => none
        | some (value, s) =>
          (readFlowPairs false fuel s).map fun (pairs, s) => ((key, value) :: pairs, s)
    | _ =>
      match read false false fuel s with
      | none => none
      | some (key, s) =>
        (readFlowPairs false fuel s).map fun (pairs, s) => ((key, emptyScalar none) :: pairs, s)

end

/-! ### Aliases -/

mutual

/-- Puts nodes in the place of their aliases. -/
def resolve (anchored : List (Nat × Node)) : Node → Node
  | .scalar s => .scalar s
  | .alias number => (anchored.lookup number).getD (.sequence [])
  | .sequence items => .sequence (resolveItems anchored items)
  | .mapping pairs => .mapping (resolvePairs anchored pairs)

def resolveItems (anchored : List (Nat × Node)) : List Node → List Node
  | [] => []
  | item :: rest => item.resolve anchored :: resolveItems anchored rest

def resolvePairs (anchored : List (Nat × Node)) : List (Node × Node) → List (Node × Node)
  | [] => []
  | (key, value) :: rest =>
    (key.resolve anchored, value.resolve anchored) :: resolvePairs anchored rest

end

/-! ### Documents -/

/-- The handles that every document has. -/
def defaultHandles : List (String × String) := [("!", "!"), ("!!", "tag:yaml.org,2002:")]

/-- The directives in front of a document: at most one version, which has to be 1.1 or 1.2, and at
most one meaning for each handle. -/
def readDirectives (versioned : Bool) (handles : List (String × String)) :
    List Token → Option (List (String × String) × List Token)
  | .versionDirective major minor :: rest =>
    if versioned || major ≠ 1 || (minor ≠ 1 && minor ≠ 2) then none
    else readDirectives true handles rest
  | .tagDirective handle value :: rest =>
    if (handles.lookup handle).isSome then none
    else readDirectives versioned ((handle, value) :: handles) rest
  | tokens => some (handles, tokens)

/-- Whether a token stands in front of a document, and not in one. -/
def opensDocument : Token → Bool
  | .versionDirective .. | .tagDirective .. | .documentStart => true
  | _ => false

/-- Whether anything stands in a document. -/
def hasContent : List Token → Bool
  | token :: _ => !opensDocument token && token ≠ .documentEnd
  | [] => false

/-- The content of a document. Every reader uses up a token or calls one that does, so that `fuel`
is enough. -/
def readContent (handles : List (String × String)) (tokens : List Token) :
    Option (Node × List Token) :=
  let fuel := 4 * tokens.length + 4
  (read true false fuel { tokens, handles := handles ++ defaultHandles }).map fun (node, s) =>
    (node.resolve s.anchored, s.tokens)

/-- A document behind its mark, or the first one without a mark. -/
def readDocument (first : Bool) (tokens : List Token) : Option (Node × List Token) :=
  match readDirectives false [] tokens with
  | none => none
  | some (handles, .documentStart :: rest) =>
    if hasContent rest then readContent handles rest else some (emptyScalar none, rest)
  | some _ =>
    if first && !(tokens.head?.map opensDocument).getD false then readContent [] tokens else none

/-- Documents up to the end. Each of them uses up a token. -/
def readDocuments (first : Bool) : Nat → List Token → Option (List Node)
  | 0, _ => none
  | steps + 1, tokens =>
    match if first then tokens else tokens.dropWhile (· = .documentEnd) with
    | [] => some []
    | tokens =>
      match readDocument first tokens with
      | none => none
      | some (node, rest) =>
        let rest := if rest.head? = some .documentEnd then rest.tail else rest
        (readDocuments false steps rest).map (node :: ·)

end Node

/-- The documents of a text. -/
def documents? (text : String) : Option (List Node) :=
  (tokens? text).bind fun tokens => Node.readDocuments true (tokens.length + 1) tokens

end Courier.Yaml
