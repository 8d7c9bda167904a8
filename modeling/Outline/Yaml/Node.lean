/-
The nodes of a document.

A document is one node: a scalar, a sequence or a mapping, each with the
tag it was given or has by its form. An alias stands for the node of its
anchor, so the node of a document holds no aliases. A node that would
hold itself is refused.
-/
import Outline.Yaml.Token

namespace Outline.Yaml

-- ================================================================ nodes

/-- A node. A tag is as written in the document; a scalar without one
takes it from its text if it is plain. -/
inductive Node where
  | scalar (tag : Option String) (plain : Bool) (text : String)
  | sequence (tag : Option String) (items : List Node)
  | mapping (tag : Option String) (entries : List (Node × Node))
deriving Repr, Inhabited

namespace Node

/-- The node of nothing. -/
def empty : Node := .scalar none true ""

end Node

-- =============================================================== parser

/-- What is left of the tokens, and the anchors so far. The node of an
anchor is missing while it is being read. -/
structure Parse where
  tokens : List Token
  anchors : List (String × Option Node) := []
deriving Inhabited

namespace Parse

/-- The next token. -/
def peek (p : Parse) : Option Token := p.tokens.head?

/-- Goes past the next token. -/
def next (p : Parse) : Parse := { p with tokens := p.tokens.drop 1 }

/-- Whether the next token is one of several. -/
def at_ (p : Parse) (ts : List Token) : Bool := p.peek.any (ts.contains ·)

/-- Sets the node of an anchor. -/
def bind (p : Parse) (anchor : Option String) (node : Option Node) : Parse :=
  match anchor with
  | none => p
  | some name =>
    { p with anchors := (name, node) :: p.anchors.filter (·.1 != name) }

/-- A new anchor; each name is given once. -/
def declare (p : Parse) (anchor : Option String) : Except ReadFault Parse :=
  match anchor with
  | some name =>
    if (p.anchors.lookup name).isSome then .error .malformed
    else .ok (p.bind anchor none)
  | none => .ok p

end Parse

/-- The handles of tags, with what they stand for. -/
abbrev Handles := List (String × String)

/-- The handles of a document that declares none. -/
def defaultHandles : Handles :=
  [("!", "!"), ("!!", "tag:yaml.org,2002:")]

/-- The tag that a handle and a suffix make. -/
def Handles.resolve (handles : Handles) (handle : Option String)
    (suffix : String) : Except ReadFault String :=
  match handle with
  | none => .ok suffix
  | some h =>
    match handles.lookup h with
    | some start => .ok (start ++ suffix)
    | none => .error .malformed

/-- The anchor and the tag before a node, in either order. -/
def properties (handles : Handles) (p : Parse) :
    Except ReadFault ((Option String × Option String) × Parse) :=
  match p.tokens with
  | .anchor a :: .tag h s :: rest => do
    return ((some a, some (← handles.resolve h s)), { p with tokens := rest })
  | .tag h s :: .anchor a :: rest => do
    return ((some a, some (← handles.resolve h s)), { p with tokens := rest })
  | .anchor a :: rest => .ok ((some a, none), { p with tokens := rest })
  | .tag h s :: rest => do
    return ((none, some (← handles.resolve h s)), { p with tokens := rest })
  | _ => .ok ((none, none), p)

/-- A scalar node. The tag `!` means that the text decides, as it does
for a plain scalar without a tag. -/
def scalarNode (tag : Option String) (plain : Bool) (text : String) : Node :=
  if tag == some "!" then .scalar none true text
  else .scalar tag (plain && tag.isNone) text

/-- The tag of a collection; `!` means none. -/
def collectionTag (tag : Option String) : Option String :=
  if tag == some "!" then none else tag

/-- Where a node may stand: in a block, in a block where entries need
no further indentation, or inside brackets. -/
inductive Place where
  | block
  | blockOrEntries
  | flow
deriving DecidableEq, Repr, Inhabited

mutual

/-- A node. -/
def readNode (handles : Handles) (place : Place) :
    Nat → Parse → Except ReadFault (Node × Parse)
  | 0, _ => .error .malformed
  | fuel + 1, p =>
    match p.peek with
    | some (.alias name) =>
      match p.anchors.lookup name with
      | some (some node) => .ok (node, p.next)
      | _ => .error .malformed
    | _ => do
      let ((anchor, tag), p) ← properties handles p
      let p ← p.declare anchor
      let (node, p) ← readContent handles place (anchor.isSome || tag.isSome)
        tag fuel p
      return (node, p.bind anchor (some node))

/-- A node without its properties; a node that has any may be empty. -/
def readContent (handles : Handles) (place : Place) (mayBeEmpty : Bool)
    (tag : Option String) : Nat → Parse → Except ReadFault (Node × Parse)
  | 0, _ => .error .malformed
  | fuel + 1, p =>
    let sequence (r : List Node × Parse) : Node × Parse :=
      (.sequence (collectionTag tag) r.1, r.2)
    let mapping (r : List (Node × Node) × Parse) : Node × Parse :=
      (.mapping (collectionTag tag) r.1, r.2)
    let absent : Except ReadFault (Node × Parse) :=
      if mayBeEmpty then .ok (scalarNode tag true "", p) else .error .malformed
    match p.peek with
    | some .entry =>
      if place == .blockOrEntries then
        return sequence (← readEntries handles fuel p [])
      else absent
    | some (.scalar text plain) => .ok (scalarNode tag plain text, p.next)
    | some .openBracket =>
      return sequence (← readItems handles fuel p.next [])
    | some .openBrace =>
      return mapping (← readPairs handles fuel p.next [])
    | some .sequenceStart =>
      if place == .flow then absent
      else return sequence (← readBlockItems handles fuel p.next [])
    | some .mappingStart =>
      if place == .flow then absent
      else return mapping (← readBlockPairs handles fuel p.next [])
    | _ => absent

/-- The entries of a block sequence up to its end. -/
def readBlockItems (handles : Handles) : Nat → Parse → List Node →
    Except ReadFault (List Node × Parse)
  | 0, _, _ => .error .malformed
  | fuel + 1, p, read =>
    match p.peek with
    | some .entry =>
      let p := p.next
      if p.at_ [.entry, .blockEnd] then
        readBlockItems handles fuel p (read ++ [.empty])
      else do
        let (node, p) ← readNode handles .block fuel p
        readBlockItems handles fuel p (read ++ [node])
    | some .blockEnd => .ok (read, p.next)
    | _ => .error .malformed

/-- Entries that stand in the column of their key. -/
def readEntries (handles : Handles) : Nat → Parse → List Node →
    Except ReadFault (List Node × Parse)
  | 0, _, _ => .error .malformed
  | fuel + 1, p, read =>
    match p.peek with
    | some .entry =>
      let p := p.next
      if p.at_ [.entry, .key, .value, .blockEnd] then
        readEntries handles fuel p (read ++ [.empty])
      else do
        let (node, p) ← readNode handles .block fuel p
        readEntries handles fuel p (read ++ [node])
    | _ => .ok (read, p)

/-- The pairs of a block mapping up to its end. -/
def readBlockPairs (handles : Handles) : Nat → Parse →
    List (Node × Node) → Except ReadFault (List (Node × Node) × Parse)
  | 0, _, _ => .error .malformed
  | fuel + 1, p, read =>
    match p.peek with
    | some .key => do
      let (key, p) ← readBlockPart handles fuel p.next
      let (value, p) ← match p.peek with
        | some .value => readBlockPart handles fuel p.next
        | _ => .ok (.empty, p)
      readBlockPairs handles fuel p (read ++ [(key, value)])
    | some .blockEnd => .ok (read, p.next)
    | _ => .error .malformed

/-- A key or value of a block mapping, which may be empty. -/
def readBlockPart (handles : Handles) :
    Nat → Parse → Except ReadFault (Node × Parse)
  | 0, _ => .error .malformed
  | fuel + 1, p =>
    if p.at_ [.key, .value, .blockEnd] then .ok (.empty, p)
    else readNode handles .blockOrEntries fuel p

/-- A node inside brackets, or nothing before one of the closing
tokens. -/
def readFlowPart (handles : Handles) (closing : List Token) :
    Nat → Parse → Except ReadFault (Node × Parse)
  | 0, _ => .error .malformed
  | fuel + 1, p =>
    if p.at_ closing then .ok (.empty, p) else readNode handles .flow fuel p

/-- A key with its value inside brackets. -/
def readPair (handles : Handles) (close : Token) :
    Nat → Parse → Except ReadFault ((Node × Node) × Parse)
  | 0, _ => .error .malformed
  | fuel + 1, p => do
    let (key, p) ← readFlowPart handles [.value, .comma, close] fuel p
    match p.peek with
    | some .value =>
      let (value, p) ← readFlowPart handles [.comma, close] fuel p.next
      return ((key, value), p)
    | _ => return ((key, .empty), p)

/-- The items of a flow sequence; a key makes a mapping of one pair. -/
def readItems (handles : Handles) : Nat → Parse → List Node →
    Except ReadFault (List Node × Parse)
  | 0, _, _ => .error .malformed
  | fuel + 1, p, read => do
    if p.peek == some .closeBracket then return (read, p.next)
    let p ← if read.isEmpty then pure p
      else if p.peek == some .comma then pure p.next
      else throw .malformed
    match p.peek with
    | some .closeBracket => return (read, p.next)
    | some .key =>
      let (pair, p) ← readPair handles .closeBracket fuel p.next
      readItems handles fuel p (read ++ [.mapping none [pair]])
    | _ =>
      let (node, p) ← readNode handles .flow fuel p
      readItems handles fuel p (read ++ [node])

/-- The pairs of a flow mapping; a node without a key mark has no
value. -/
def readPairs (handles : Handles) : Nat → Parse → List (Node × Node) →
    Except ReadFault (List (Node × Node) × Parse)
  | 0, _, _ => .error .malformed
  | fuel + 1, p, read => do
    if p.peek == some .closeBrace then return (read, p.next)
    let p ← if read.isEmpty then pure p
      else if p.peek == some .comma then pure p.next
      else throw .malformed
    match p.peek with
    | some .closeBrace => return (read, p.next)
    | some .key =>
      let (pair, p) ← readPair handles .closeBrace fuel p.next
      readPairs handles fuel p (read ++ [pair])
    | _ =>
      let (node, p) ← readNode handles .flow fuel p
      readPairs handles fuel p (read ++ [(node, .empty)])

end

-- ============================================================ documents

/-- The directives before a document: the handles they declare and the
tokens after them. A version and a handle are declared once. -/
def readDirectives : List Token → Bool → Handles →
    Except ReadFault (Handles × List Token)
  | .directive d :: rest, versioned, handles =>
    match d with
    | .version major =>
      if versioned || major ≠ 1 then .error .malformed
      else readDirectives rest true handles
    | .tag handle start =>
      if (handles.lookup handle).isSome then .error .malformed
      else readDirectives rest versioned (handles ++ [(handle, start)])
    | .other => readDirectives rest versioned handles
  | tokens, _, handles => .ok (handles, tokens)

/-- The tokens after a document: any number of end marks, and nothing
else. -/
def onlyEnds (tokens : List Token) : Bool :=
  tokens.all (· == .documentEnd)

/-- The node of a list of tokens, which hold at most one document. -/
def Node.ofTokens? (tokens : List Token) :
    Except ReadFault (Option Node) := do
  let explicit := match tokens.head? with
    | some (.directive _) => true
    | some .documentStart => true
    | _ => false
  if tokens.isEmpty then return none
  let (handles, tokens) ←
    if explicit then do
      let (handles, tokens) ← readDirectives tokens false []
      match tokens with
      | .documentStart :: rest => pure (handles ++ defaultHandles, rest)
      | _ => throw ReadFault.malformed
    else pure (defaultHandles, tokens)
  let empty := match tokens.head? with
    | none => explicit
    | some (.directive _) => explicit
    | some .documentStart => explicit
    | some .documentEnd => explicit
    | _ => false
  let (node, rest) ←
    if empty then pure (Node.empty, tokens)
    else do
      let (node, p) ← readNode handles .block (4 * tokens.length + 8)
        { tokens := tokens }
      pure (node, p.tokens)
  if onlyEnds rest then return some node else throw .malformed

end Outline.Yaml
