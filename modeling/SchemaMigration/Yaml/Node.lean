import SchemaMigration.Yaml.Token

/-! # YAML nodes — what a text says

    A text says one node: a scalar, or a mapping from nodes to nodes.  A list has
    no place in settings, so a text with one says nothing.  An alias stands for
    the node that last got its anchor; a mapping cannot stand inside itself. -/

namespace SchemaMigration.Yaml

/-- A scalar or a mapping, each with its tag if it has one. -/
inductive Node where
  | scalar (tag : Option String) (style : Style) (text : String)
  | mapping (tag : Option String) (entries : List (Node × Node))

/-- The node of a place where nothing is written. -/
def Node.empty : Node := .scalar none .plain ""

/-- Where a reading stands: the tokens still to be read, the tag handles, and the
    anchors so far, newest first.  The node of an anchor is missing while its
    mapping is being read. -/
structure Reader where
  tokens : List Token
  handles : List (String × String)
  anchors : List (String × Option Node)

namespace Reader

/-- Past the tokens before `rest`. -/
def moveTo (r : Reader) (rest : List Token) : Reader := { r with tokens := rest }

/-- The tag that a handle and a suffix write. -/
def tag? (r : Reader) (handle suffix : String) : Option String :=
  if handle.isEmpty then some suffix else (r.handles.lookup handle).map (· ++ suffix)

/-- Reads an anchor and a tag, either of which may be missing or come first. -/
def properties (r : Reader) : Option (Option String × Option String × Reader) :=
  match r.tokens with
  | .anchor name :: .tag handle suffix :: rest =>
      (r.tag? handle suffix).map fun tag => (some name, some tag, r.moveTo rest)
  | .tag handle suffix :: .anchor name :: rest =>
      (r.tag? handle suffix).map fun tag => (some name, some tag, r.moveTo rest)
  | .anchor name :: rest => some (some name, none, r.moveTo rest)
  | .tag handle suffix :: rest =>
      (r.tag? handle suffix).map fun tag => (none, some tag, r.moveTo rest)
  | _ => some (none, none, r)

/-- Gives a node its anchor. -/
def define (r : Reader) (anchor : Option String) (node : Option Node) : Reader :=
  match anchor with
  | some name => { r with anchors := (name, node) :: r.anchors }
  | none => r

/-- Gives the newest anchor of a name that has no node yet its node. -/
def completeAnchor (name : String) (node : Node) :
    List (String × Option Node) → List (String × Option Node)
  | [] => []
  | (n, none) :: rest =>
      if n = name then (n, some node) :: rest else (n, none) :: completeAnchor name node rest
  | entry :: rest => entry :: completeAnchor name node rest

/-- Gives a mapping that has been read its anchor. -/
def complete (r : Reader) (anchor : Option String) (node : Node) : Reader :=
  match anchor with
  | some name => { r with anchors := completeAnchor name node r.anchors }
  | none => r

/-- The token that ends a place in a block mapping where nothing is written. -/
def endsBlockSlot : Option Token → Bool
  | some .key => true
  | some .value => true
  | some .blockEnd => true
  | _ => false

/-- The token that ends a place between braces where nothing is written. -/
def endsFlowSlot : Option Token → Bool
  | some .value => true
  | some .flowEntry => true
  | some .flowMappingEnd => true
  | _ => false

mutual

/-- Reads a node. -/
def node : Nat → Reader → Option (Node × Reader)
  | 0, _ => none
  | fuel + 1, r =>
      match r.tokens with
      | .alias name :: rest => do
          let known ← r.anchors.lookup name
          let found ← known
          pure (found, r.moveTo rest)
      | _ => do
          let (anchor, tag, r) ← r.properties
          match r.tokens with
          | .scalar style text :: rest =>
              -- a lone exclamation mark leaves a scalar without a tag
              let found := Node.scalar (tag.filter (· != "!")) style text
              pure (found, (r.moveTo rest).define anchor (some found))
          | .blockMappingStart :: rest => do
              let (entries, r) ← blockEntries fuel ((r.moveTo rest).define anchor none)
              let found := Node.mapping tag entries
              pure (found, r.complete anchor found)
          | .flowMappingStart :: rest => do
              let (entries, r) ← flowEntries true fuel ((r.moveTo rest).define anchor none)
              let found := Node.mapping tag entries
              pure (found, r.complete anchor found)
          | _ => do
              guard (anchor.isSome || tag.isSome)
              let found := Node.scalar tag .plain ""
              pure (found, r.define anchor (some found))

/-- Reads a key or a value of a block mapping, which may be missing. -/
def blockSlot : Nat → Reader → Option (Node × Reader)
  | 0, _ => none
  | fuel + 1, r => if endsBlockSlot r.tokens.head? then some (.empty, r) else node fuel r

/-- Reads a key or a value between braces, which may be missing. -/
def flowSlot : Nat → Reader → Option (Node × Reader)
  | 0, _ => none
  | fuel + 1, r => if endsFlowSlot r.tokens.head? then some (.empty, r) else node fuel r

/-- Reads the entries of a block mapping and its end. -/
def blockEntries : Nat → Reader → Option (List (Node × Node) × Reader)
  | 0, _ => none
  | fuel + 1, r =>
      match r.tokens with
      | .blockEnd :: rest => some ([], r.moveTo rest)
      | .key :: rest => do
          let (key, r) ← blockSlot fuel (r.moveTo rest)
          let (value, r) ←
            match r.tokens with
            | .value :: rest => blockSlot fuel (r.moveTo rest)
            | _ => some (.empty, r)
          let (more, r) ← blockEntries fuel r
          pure ((key, value) :: more, r)
      | _ => none

/-- Reads the entries between braces and the closing brace; a comma stands before
    every entry but the first, and may stand behind the last. -/
def flowEntries (first : Bool) : Nat → Reader → Option (List (Node × Node) × Reader)
  | 0, _ => none
  | fuel + 1, r => do
      let r ←
        match r.tokens with
        | .flowMappingEnd :: _ => some r
        | .flowEntry :: rest => if first then none else some (r.moveTo rest)
        | _ => if first then some r else none
      match r.tokens with
      | .flowMappingEnd :: rest => pure ([], r.moveTo rest)
      | .key :: rest => do
          let (key, r) ← flowSlot fuel (r.moveTo rest)
          let (value, r) ←
            match r.tokens with
            | .value :: rest => flowSlot fuel (r.moveTo rest)
            | _ => some (.empty, r)
          let (more, r) ← flowEntries false fuel r
          pure ((key, value) :: more, r)
      | _ => do
          let (key, r) ← node fuel r
          let (more, r) ← flowEntries false fuel r
          pure ((key, .empty) :: more, r)

end

/-- The tag handles that need no directive. -/
def standardHandles : List (String × String) :=
  [("!", "!"), ("!!", "tag:yaml.org,2002:")]

/-- Reads the directives before a document: a version at most once, and each tag
    handle at most once. -/
def directives : Bool → List (String × String) → List Token →
    Option (List (String × String) × List Token)
  | versioned, handles, .versionDirective major minor :: rest =>
      if !versioned && major == 1 && (minor == 1 || minor == 2) then directives true handles rest
      else none
  | versioned, handles, .tagDirective handle start :: rest =>
      if (handles.lookup handle).isSome then none
      else directives versioned ((handle, start) :: handles) rest
  | _, handles, rest => some (handles, rest)

/-- Whether a document ends before a token. -/
def endsDocument : Option Token → Bool
  | none => true
  | some (.versionDirective _ _) => true
  | some (.tagDirective _ _) => true
  | some .documentStart => true
  | some .documentEnd => true
  | _ => false

/-- Whether a document needs its start mark before a token. -/
def needsStart : Option Token → Bool
  | some (.versionDirective _ _) => true
  | some (.tagDirective _ _) => true
  | some .documentStart => true
  | _ => false

/-- Reads the node of a document. -/
def document (tokens : List Token) : Option (Node × List Token) := do
  let fuel := 2 * tokens.length + 4
  if needsStart tokens.head? then
    let (handles, rest) ← directives false [] tokens
    match rest with
    | .documentStart :: rest =>
        if endsDocument rest.head? then pure (.empty, rest)
        else
          let (found, r) ← node fuel ⟨rest, handles ++ standardHandles, []⟩
          pure (found, r.tokens)
    | _ => none
  else if tokens.isEmpty then pure (.empty, [])
  else
    let (found, r) ← node fuel ⟨tokens, standardHandles, []⟩
    pure (found, r.tokens)

end Reader

/-- The node that tokens say: one document, and only end marks behind it. -/
def Node.ofTokens? (tokens : List Token) : Option Node := do
  let (found, rest) ← Reader.document tokens
  guard (rest.all (· == .documentEnd))
  pure found

/-- The node that a text says, if it is one document. -/
def Node.ofText? (text : String) : Option Node :=
  (Token.ofText? text).bind Node.ofTokens?

end SchemaMigration.Yaml
