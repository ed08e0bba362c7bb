import StudyFlow.Yaml.Token

/-!
The nodes of a YAML document.

`Document.read` builds the tree of the first document of a text. Reading stops at the first fault:
the tree then ends in `Node.broken` where the text stopped making sense, so that what stands in
front of the fault can still be looked at in order. Aliases stay references to numbers: an anchor
gets the count of the names that have one already, so an anchor that is defined again shares its
number with the next new name, and the node that starts last has it.
-/

namespace StudyFlow.Yaml

/-- A node: a scalar, a collection, a reference to an anchored node, or the place of a fault. -/
inductive Node where
  | scalar (tag : Option String) (style : Style) (text : String)
  | seq (tag : Option String) (items : List Node)
  | map (tag : Option String) (entries : List (Node × Node))
  | alias (anchor : Nat)
  | broken
  deriving Inhabited

/-- The node of a place where nothing is written. -/
def Node.absent : Node := .scalar none .plain ""

/-- Tokens on their way to nodes. -/
structure Reader where
  tokens : List Token
  /-- Whether the tokens reach to the end of the text. -/
  atEnd : Bool
  /-- Tag handles with what they stand for. -/
  handles : List (String × String) := []
  /-- Anchor names with their numbers. -/
  names : List (String × Nat) := []
  /-- How many anchors were defined. -/
  defined : Nat := 0
  /-- Anchored nodes, each with the place of its anchor among all of them and with its number. -/
  anchors : List (Nat × Nat × Node) := []
  failed : Bool := false

/-- What may stand in front of a node. -/
structure Properties where
  anchor : Option String := none
  tag : Option (String × String) := none

namespace Reader

def fail (r : Reader) : Reader := { r with tokens := [], atEnd := false, failed := true }

def drop (r : Reader) : Reader := { r with tokens := r.tokens.drop 1 }

/-- Whether the text has a fault before its next token. -/
def isCut (r : Reader) : Bool := r.tokens.isEmpty && !r.atEnd

def nextIn (r : Reader) (ts : List Token) : Bool :=
  match r.tokens with
  | t :: _ => ts.contains t
  | [] => false

/-- Reads an anchor and a tag, in either order. -/
def properties (r : Reader) : Properties × Reader :=
  match r.tokens with
  | .anchor a :: .tag h s :: _ => ({ anchor := some a, tag := some (h, s) }, r.drop.drop)
  | .tag h s :: .anchor a :: _ => ({ anchor := some a, tag := some (h, s) }, r.drop.drop)
  | .anchor a :: _ => ({ anchor := some a }, r.drop)
  | .tag h s :: _ => ({ tag := some (h, s) }, r.drop)
  | _ => ({}, r)

def expansion? (r : Reader) (handle : String) : Option String :=
  match r.handles.lookup handle with
  | some e => some e
  | none =>
    if handle == "!" then some "!"
    else if handle == "!!" then some "tag:yaml.org,2002:"
    else none

/-- The whole tag, or none if its handle is not known. -/
def fullTag? (r : Reader) : Option (String × String) → Option (Option String)
  | none => some none
  | some (handle, suffix) =>
    if handle.isEmpty then some (some suffix)
    else (r.expansion? handle).map fun e => some (e ++ suffix)

/-- Gives an anchor name its number, together with the place of the anchor among all of them. -/
def define (r : Reader) (anchor : Option String) : Option (Nat × Nat) × Reader :=
  match anchor with
  | none => (none, r)
  | some a =>
    let n := r.names.length
    (some (r.defined, n),
      { r with names := (a, n) :: r.names.filter fun e => e.1 != a, defined := r.defined + 1 })

def record (r : Reader) (anchor : Option (Nat × Nat)) (n : Node) : Reader :=
  match anchor with
  | none => r
  | some (place, number) => { r with anchors := (place, number, n) :: r.anchors }

/-- The anchored nodes by number, the one that starts last in front. -/
def anchorTable (r : Reader) : List (Nat × Node) :=
  (r.anchors.mergeSort fun a b => b.1 ≤ a.1).map Prod.snd

mutual

/-- Reads a node. In block context block collections are allowed, and a sequence as the value of a
key may stand at the column of the key. -/
def node (block indentless : Bool) : Nat → Reader → Node × Reader
  | 0, r => (.broken, r.fail)
  | fuel + 1, r =>
    match r.tokens with
    | .alias a :: _ => match r.names.lookup a with
      | some k => (.alias k, r.drop)
      | none => (.broken, r.fail)
    | _ =>
      let (props, r) := r.properties
      match r.fullTag? props.tag with
      | none => (.broken, r.fail)
      | some tag =>
        let finish (number : Option (Nat × Nat)) (n : Node) (r : Reader) : Node × Reader :=
          (n, r.record number n)
        let items (n : Option (Nat × Nat)) (read : Reader → List Node × Reader) (r : Reader) :=
          let (xs, r) := read r
          finish n (.seq tag xs) r
        let entries (n : Option (Nat × Nat)) (read : Reader → List (Node × Node) × Reader)
          (r : Reader) :=
          let (xs, r) := read r
          finish n (.map tag xs) r
        let (number, defined) := r.define props.anchor
        match r.tokens with
        | .scalar style text :: _ =>
          finish number (.scalar tag style text) defined.drop
        | .flowSequenceStart :: _ => items number (flowItems true fuel) defined.drop
        | .flowMappingStart :: _ => entries number (flowEntries true fuel) defined.drop
        | t :: _ =>
          if indentless && t == .entry then items number (indentlessItems fuel) defined
          else if block && t == .sequenceStart then items number (blockItems fuel) defined.drop
          else if block && t == .mappingStart then entries number (blockEntries fuel) defined.drop
          else if props.anchor.isSome || props.tag.isSome then
            finish number (.scalar tag .plain "") defined
          else (.broken, r.fail)
        | [] =>
          if !r.isCut && (props.anchor.isSome || props.tag.isSome) then
            finish number (.scalar tag .plain "") defined
          else (.broken, r.fail)

/-- Reads a node unless one of the given tokens comes next, where nothing is written. -/
def nodeUnless (stops : List Token) (block indentless : Bool) : Nat → Reader → Node × Reader
  | 0, r => (.broken, r.fail)
  | fuel + 1, r => if r.nextIn stops then (.absent, r) else node block indentless fuel r

def blockItems : Nat → Reader → List Node × Reader
  | 0, r => ([.broken], r.fail)
  | fuel + 1, r =>
    match r.tokens with
    | .entry :: _ =>
      let (n, r) := nodeUnless [.entry, .blockEnd] true false fuel r.drop
      if r.failed then ([n], r)
      else
        let (ns, r) := blockItems fuel r
        (n :: ns, r)
    | .blockEnd :: _ => ([], r.drop)
    | _ => ([.broken], r.fail)

/-- The items of a block sequence at the column of its key. -/
def indentlessItems : Nat → Reader → List Node × Reader
  | 0, r => ([.broken], r.fail)
  | fuel + 1, r =>
    match r.tokens with
    | .entry :: _ =>
      let (n, r) := nodeUnless [.entry, .key, .value, .blockEnd] true false fuel r.drop
      if r.failed then ([n], r)
      else
        let (ns, r) := indentlessItems fuel r
        (n :: ns, r)
    | _ => if r.isCut then ([.broken], r.fail) else ([], r)

def blockEntries : Nat → Reader → List (Node × Node) × Reader
  | 0, r => ([(.broken, .broken)], r.fail)
  | fuel + 1, r =>
    match r.tokens with
    | .key :: _ =>
      let (k, r) := nodeUnless [.key, .value, .blockEnd] true true fuel r.drop
      if r.failed then ([(k, .broken)], r)
      else
        let (v, r) := valueUnless [.key, .value, .blockEnd] true true fuel r
        if r.failed then ([(k, v)], r)
        else
          let (es, r) := blockEntries fuel r
          ((k, v) :: es, r)
    | .blockEnd :: _ => ([], r.drop)
    | _ => ([(.broken, .broken)], r.fail)

/-- Reads the value after a key; without a colon nothing is written there. -/
def valueUnless (stops : List Token) (block indentless : Bool) : Nat → Reader → Node × Reader
  | 0, r => (.broken, r.fail)
  | fuel + 1, r =>
    match r.tokens with
    | .value :: _ => nodeUnless stops block indentless fuel r.drop
    | _ => if r.isCut then (.broken, r.fail) else (.absent, r)

/-- The items of a flow sequence, up to its closing bracket. -/
def flowItems (first : Bool) : Nat → Reader → List Node × Reader
  | 0, r => ([.broken], r.fail)
  | fuel + 1, r =>
    match r.tokens with
    | .flowSequenceEnd :: _ => ([], r.drop)
    | t :: _ =>
      if !first && t != .comma then ([.broken], r.fail)
      else
        let r := if first then r else r.drop
        match r.tokens with
        | .flowSequenceEnd :: _ => ([], r.drop)
        | .key :: _ =>
          let stops : List Token := [.comma, .flowSequenceEnd]
          let r := r.drop
          let (k, r) :=
            if r.nextIn (.value :: stops) then (.absent, r.drop) else node false false fuel r
          if r.failed then ([.map none [(k, .broken)]], r)
          else
            let (v, r) := valueUnless stops false false fuel r
            if r.failed then ([.map none [(k, v)]], r)
            else
              let (ns, r) := flowItems false fuel r
              (.map none [(k, v)] :: ns, r)
        | _ =>
          let (n, r) := node false false fuel r
          if r.failed then ([n], r)
          else
            let (ns, r) := flowItems false fuel r
            (n :: ns, r)
    | [] => ([.broken], r.fail)

/-- The entries of a flow mapping, up to its closing brace. -/
def flowEntries (first : Bool) : Nat → Reader → List (Node × Node) × Reader
  | 0, r => ([(.broken, .broken)], r.fail)
  | fuel + 1, r =>
    match r.tokens with
    | .flowMappingEnd :: _ => ([], r.drop)
    | t :: _ =>
      if !first && t != .comma then ([(.broken, .broken)], r.fail)
      else
        let r := if first then r else r.drop
        match r.tokens with
        | .flowMappingEnd :: _ => ([], r.drop)
        | .key :: _ =>
          let stops : List Token := [.comma, .flowMappingEnd]
          let (k, r) := nodeUnless (.value :: stops) false false fuel r.drop
          if r.failed then ([(k, .broken)], r)
          else
            let (v, r) := valueUnless stops false false fuel r
            if r.failed then ([(k, v)], r)
            else
              let (es, r) := flowEntries false fuel r
              ((k, v) :: es, r)
        | _ =>
          let (k, r) := node false false fuel r
          if r.failed then ([(k, .broken)], r)
          else if r.isCut then ([(k, .broken)], r.fail)
          else
            let (es, r) := flowEntries false fuel r
            ((k, .absent) :: es, r)
    | [] => ([(.broken, .broken)], r.fail)

end

/-- Reads the directives in front of a document and its start mark. -/
def directives : Nat → Bool → Reader → Reader
  | 0, _, r => r.fail
  | fuel + 1, versioned, r =>
    match r.tokens with
    | .version major minor :: _ =>
      if versioned || major != 1 || (minor != 1 && minor != 2) then r.fail
      else directives fuel true r.drop
    | .handle name expansion :: _ =>
      if (r.handles.lookup name).isSome then r.fail
      else directives fuel versioned { r.drop with handles := (name, expansion) :: r.handles }
    | .documentStart :: _ => r.drop
    | _ => r.fail

/-- Whether a document ends at the next token before anything is written in it. -/
def atDocumentEdge (r : Reader) : Bool :=
  match r.tokens with
  | .version _ _ :: _ => true
  | .handle _ _ :: _ => true
  | .documentStart :: _ => true
  | .documentEnd :: _ => true
  | [] => r.atEnd
  | _ => false

end Reader

/-- The size of a node: scalars and references count once, collections twice besides their
contents. -/
def Node.size : Node → Nat
  | .scalar _ _ _ => 1
  | .alias _ => 1
  | .broken => 0
  | .seq _ items => 2 + sizes items
  | .map _ entries => 2 + pairSizes entries
where
  /-- The sizes of some nodes together. -/
  sizes : List Node → Nat
    | [] => 0
    | n :: ns => n.size + sizes ns
  /-- The sizes of some entries together. -/
  pairSizes : List (Node × Node) → Nat
    | [] => 0
    | (k, v) :: es => k.size + v.size + pairSizes es

structure Document where
  /-- The node of the document, none if the text holds no document. -/
  root : Option Node
  anchors : List (Nat × Node)
  /-- Whether the text is one document without a fault. -/
  complete : Bool

def Document.read (text : String) : Document :=
  let (tokens, atEnd) := Token.scan text
  let fuel := 4 * tokens.length + 8
  let r : Reader := { tokens := tokens, atEnd := atEnd }
  let finish (n : Node) (r : Reader) : Document :=
    let rest := r.tokens.dropWhile (· == .documentEnd)
    { root := some n, anchors := r.anchorTable, complete := rest.isEmpty && r.atEnd && !r.failed }
  match tokens with
  | [] => if atEnd then ⟨none, [], true⟩ else ⟨some .broken, [], false⟩
  | .version _ _ :: _ | .handle _ _ :: _ | .documentStart :: _ =>
    let r := r.directives fuel false
    if r.failed then ⟨some .broken, [], false⟩
    else if r.atDocumentEdge then finish .absent r
    else
      let (n, r) := r.node true false fuel
      finish n r
  | _ =>
    let (n, r) := r.node true false fuel
    finish n r

end StudyFlow.Yaml
