import SchemaMigration.Yaml.Value

/-! # YAML tokens — a text cut into its smallest parts

    Indentation opens and closes blocks, so the scanner keeps the columns of the
    blocks around it.  A key without its own mark is known as one only at the
    colon behind it: the scanner remembers where such a key could have started
    and puts its mark there afterwards.  A key of that kind must stand on one
    line and be no longer than 1024 characters. -/

namespace SchemaMigration.Yaml

/-- How a scalar was written. -/
inductive Style where
  | plain
  | quoted
  | literal
  | folded
  deriving DecidableEq, Repr

/-- The smallest parts of a text. -/
inductive Token where
  | versionDirective (major minor : Nat)
  | tagDirective (handle tagStart : String)
  | documentStart
  | documentEnd
  | blockSequenceStart
  | blockMappingStart
  | blockEnd
  | flowSequenceStart
  | flowSequenceEnd
  | flowMappingStart
  | flowMappingEnd
  | blockEntry
  | flowEntry
  | key
  | value
  | alias (name : String)
  | anchor (name : String)
  | tag (handle suffix : String)
  | scalar (style : Style) (text : String)
  deriving DecidableEq, Repr

/-- A place where a key may have started; a required one must be followed by a colon. -/
structure KeyStart where
  required : Bool
  position : Nat
  index : Nat
  line : Nat
  column : Nat

/-- The state between two tokens.  `tokens` is in reverse order, `keys` holds one
    place for each open bracket and one for the block, and a column of `none`
    stands for the outside of all blocks. -/
structure Scanner where
  cursor : Cursor
  tokens : List Token
  keyAllowed : Bool
  keys : List (Option KeyStart)
  indent : Option Nat
  indents : List (Option Nat)
  flowDepth : Nat

namespace Scanner

/-- The scanner at the start of a text. -/
def ofText (cs : List Char) : Scanner :=
  ⟨.ofText cs, [], true, [none], none, [], 0⟩

/-- Whether the scanner is inside brackets. -/
def inFlow (s : Scanner) : Bool := s.flowDepth != 0

/-- Adds a token. -/
def emit (s : Scanner) (t : Token) : Scanner := { s with tokens := t :: s.tokens }

/-- Adds a token before the ones from a position on. -/
def emitAt (s : Scanner) (position : Nat) (t : Token) : Scanner :=
  let later := s.tokens.length - position
  { s with tokens := s.tokens.take later ++ t :: s.tokens.drop later }

/-- Forgets the place where a key may have started; a required one must not be forgotten. -/
def dropKey (s : Scanner) : Option Scanner :=
  match s.keys with
  | some k :: rest => if k.required then none else some { s with keys := none :: rest }
  | _ => some s

/-- Remembers this place as one where a key may start. -/
def markKey (s : Scanner) : Option Scanner :=
  if s.keyAllowed then do
    let s ← s.dropKey
    let k : KeyStart :=
      { required := !s.inFlow && s.indent == some s.cursor.column
        position := s.tokens.length
        index := s.cursor.index
        line := s.cursor.line
        column := s.cursor.column }
    pure { s with keys := some k :: s.keys.drop 1 }
  else some s

/-- Forgets places that are too far away for a key. -/
def dropStaleKeys (s : Scanner) : Option Scanner := do
  let keys ← s.keys.mapM fun key =>
    match key with
    | none => some none
    | some k =>
        if k.line < s.cursor.line || k.index + 1024 < s.cursor.index then
          if k.required then none else some none
        else some (some k)
  pure { s with keys }

/-- Whether a column lies right of a block. -/
def deeper (indent : Option Nat) (column : Nat) : Bool :=
  match indent with
  | none => true
  | some i => i < column

/-- Opens a block at a column, unless it is open there already; its token goes
    before the ones from a position on. -/
def openBlock (s : Scanner) (column position : Nat) (t : Token) : Scanner :=
  if !s.inFlow && deeper s.indent column then
    ({ s with indents := s.indent :: s.indents, indent := some column }).emitAt position t
  else s

/-- Closes blocks while they lie right of a column. -/
def closeBlocksFrom (column : Option Nat) : List (Option Nat) → Scanner → Scanner
  | [], s => s
  | outer :: rest, s =>
      let outside :=
        match s.indent, column with
        | some i, some c => decide (c < i)
        | some _, none => true
        | none, _ => false
      if outside then
        closeBlocksFrom column rest
          ({ s with indent := outer, indents := rest }.emit .blockEnd)
      else s

/-- Closes blocks that end before a column; brackets keep blocks open. -/
def closeBlocks (s : Scanner) (column : Option Nat) : Scanner :=
  if s.inFlow then s else closeBlocksFrom column s.indents s

/-- Past white space, comments and line breaks. -/
def skipToToken : Nat → Scanner → Scanner
  | 0, s => s
  | fuel + 1, s =>
      let tabs := s.inFlow || !s.keyAllowed
      let c := s.cursor.skipWhile fun x => x == ' ' || (tabs && x == '\t')
      let c := if c.startsWith '#' then c.skipWhile fun x => !isBreak x else c
      match c.head? with
      | some x =>
          if isBreak x then
            skipToToken fuel
              { s with cursor := c.takeBreak.2, keyAllowed := s.keyAllowed || !s.inFlow }
          else { s with cursor := c }
      | none => { s with cursor := c }

/-- Reads digits of a version. -/
def readVersionNumber (c : Cursor) : Option (Nat × Cursor) :=
  let (digits, after) := c.span Char.isDigit
  if digits.isEmpty || digits.length > 9 then none
  else some (digits.foldl (fun n d => 10 * n + (d.toNat - 0x30)) 0, after)

/-- Reads a tag handle: an exclamation mark, and perhaps a name and another mark. -/
def readTagHandle (directive : Bool) (c : Cursor) : Option (String × Cursor) := do
  guard (c.startsWith '!')
  let (name, after) := (c.skip 1).span isNameChar
  if after.startsWith '!' then pure (String.ofList ('!' :: name ++ ['!']), after.skip 1)
  else do
    guard (!directive || name.isEmpty)
    pure (String.ofList ('!' :: name), after)

/-- The characters of a tag besides letters, digits and escapes. -/
def isTagChar (full : Bool) (c : Char) : Bool :=
  isNameChar c || ";/?:@&=+$.!~*'()".toList.contains c || (full && ",[]".toList.contains c)

/-- Reads the characters of a tag; escaped bytes keep their written form. -/
def readTagText (full : Bool) : Nat → Cursor → Option (List Char × Cursor)
  | 0, c => some ([], c)
  | fuel + 1, c =>
      match c.head? with
      | some '%' => do
          let digits := (c.skip 1).rest.take 2
          guard (digits.length = 2 && digits.all fun d => (hexDigit? d).isSome)
          let (more, after) ← readTagText full fuel (c.skip 3)
          pure ('%' :: digits ++ more, after)
      | some x =>
          if isTagChar full x then do
            let (more, after) ← readTagText full fuel (c.skip 1)
            pure (x :: more, after)
          else some ([], c)
      | none => some ([], c)

/-- Reads a tag of at least one character. -/
def readTagUri (full : Bool) (c : Cursor) : Option (String × Cursor) := do
  let (text, after) ← readTagText full (c.rest.length + 1) c
  guard (!text.isEmpty)
  pure (String.ofList text, after)

/-- Reads a directive from its percent sign to the end of its line. -/
def readDirective (c : Cursor) : Option (Token × Cursor) := do
  let (name, c) := (c.skip 1).span isNameChar
  guard (!name.isEmpty && endsToken c.head?)
  if name = "YAML".toList then do
    let (major, c) ← readVersionNumber (c.skipWhile isSpace)
    guard (c.startsWith '.')
    let (minor, c) ← readVersionNumber (c.skip 1)
    let after ← readLineEnd c
    pure (.versionDirective major minor, after)
  else if name = "TAG".toList then do
    let (handle, c) ← readTagHandle true (c.skipWhile isSpace)
    guard ((c.head?).any isSpace)
    let (tagStart, c) ← readTagUri true (c.skipWhile isSpace)
    guard (endsToken c.head?)
    let after ← readLineEnd c
    pure (.tagDirective handle tagStart, after)
  else none

/-- Reads the name of an anchor or alias after its mark. -/
def readAnchorName (c : Cursor) : Option (String × Cursor) := do
  let (name, after) := (c.skip 1).span isNameChar
  guard (!name.isEmpty)
  guard (endsToken after.head?
    || (after.head?).any fun x => "?:,]%@`".toList.contains x || x == '\x7d')
  pure (String.ofList name, after)

/-- Reads a tag: written in full between angle brackets, with a handle, or local. -/
def readTag (inFlow : Bool) (c : Cursor) : Option (Token × Cursor) := do
  let (t, after) ←
    if c.ahead? 1 = some '<' then do
      let (text, c) ← readTagUri true (c.skip 2)
      guard (c.startsWith '>')
      pure (Token.tag "" text, c.skip 1)
    else do
      let (handle, c) ← readTagHandle false c
      if handle.length > 1 && handle.toList.getLast? = some '!' then do
        let (suffix, c) ← readTagUri false c
        pure (Token.tag handle suffix, c)
      else do
        let (text, c) ← readTagText false (c.rest.length + 1) c
        let suffix := String.ofList (handle.toList.drop 1 ++ text)
        pure (if suffix.isEmpty then Token.tag "" "!" else Token.tag "!" suffix, c)
  guard (endsToken after.head? || (inFlow && after.startsWith ','))
  pure (t, after)

/-- Ends the text: all blocks close. -/
def finish (s : Scanner) : Option Scanner := do
  let c := s.cursor
  let c := if c.column = 0 then c else { c with column := 0, line := c.line + 1 }
  let s ← ({ s with cursor := c }.closeBlocks none).dropKey
  pure { s with keyAllowed := false }

/-- A mark between documents: all blocks close. -/
def documentMarker (s : Scanner) (t : Token) : Option Scanner := do
  let s ← (s.closeBlocks none).dropKey
  pure ({ s with keyAllowed := false, cursor := s.cursor.skip 3 }.emit t)

/-- A directive. -/
def directive (s : Scanner) : Option Scanner := do
  let s ← (s.closeBlocks none).dropKey
  let (t, after) ← readDirective s.cursor
  pure ({ s with keyAllowed := false, cursor := after }.emit t)

/-- An opening bracket. -/
def openFlow (s : Scanner) (t : Token) : Option Scanner := do
  let s ← s.markKey
  pure ({ s with
    keys := none :: s.keys
    flowDepth := s.flowDepth + 1
    keyAllowed := true
    cursor := s.cursor.skip 1 }.emit t)

/-- A closing bracket. -/
def closeFlow (s : Scanner) (t : Token) : Option Scanner := do
  let s ← s.dropKey
  let keys := if s.inFlow then s.keys.drop 1 else s.keys
  pure ({ s with
    keys
    flowDepth := s.flowDepth - 1
    keyAllowed := false
    cursor := s.cursor.skip 1 }.emit t)

/-- A comma. -/
def flowEntry (s : Scanner) : Option Scanner := do
  let s ← s.dropKey
  pure ({ s with keyAllowed := true, cursor := s.cursor.skip 1 }.emit .flowEntry)

/-- A mark that opens a block by itself: a hyphen, a question mark or a colon. -/
def blockMark (s : Scanner) (start : Token) : Option Scanner :=
  if s.inFlow then some s
  else if s.keyAllowed then some (s.openBlock s.cursor.column s.tokens.length start)
  else none

/-- A hyphen before an item. -/
def blockEntry (s : Scanner) : Option Scanner := do
  let s ← (← s.blockMark .blockSequenceStart).dropKey
  pure ({ s with keyAllowed := true, cursor := s.cursor.skip 1 }.emit .blockEntry)

/-- A question mark before a key. -/
def keyMark (s : Scanner) : Option Scanner := do
  let s ← (← s.blockMark .blockMappingStart).dropKey
  pure ({ s with keyAllowed := !s.inFlow, cursor := s.cursor.skip 1 }.emit .key)

/-- A colon before a value: the key before it gets its mark. -/
def valueMark (s : Scanner) : Option Scanner :=
  match s.keys with
  | some k :: rest =>
      let s := { s with keys := none :: rest, keyAllowed := false }
      let s := (s.emitAt k.position .key).openBlock k.column k.position .blockMappingStart
      some ({ s with cursor := s.cursor.skip 1 }.emit .value)
  | _ => do
      let s ← s.blockMark .blockMappingStart
      pure ({ s with keyAllowed := !s.inFlow, cursor := s.cursor.skip 1 }.emit .value)

/-- An anchor, an alias or a tag, read by a reader. -/
def property (s : Scanner) (read : Cursor → Option (Token × Cursor)) : Option Scanner := do
  let s ← s.markKey
  let (t, after) ← read s.cursor
  pure ({ s with keyAllowed := false, cursor := after }.emit t)

/-- A block scalar. -/
def blockScalar (s : Scanner) (isLiteral : Bool) : Option Scanner := do
  let s ← s.dropKey
  let (text, after) ← readBlock isLiteral s.indent s.cursor
  let style := if isLiteral then Style.literal else .folded
  pure ({ s with keyAllowed := true, cursor := after }.emit (.scalar style (String.ofList text)))

/-- A quoted scalar. -/
def quotedScalar (s : Scanner) (double : Bool) : Option Scanner := do
  let s ← s.markKey
  let (text, after) ← readQuoted double s.cursor
  pure ({ s with keyAllowed := false, cursor := after }.emit (.scalar .quoted (String.ofList text)))

/-- A plain scalar; behind a line end a new key may start. -/
def plainScalar (s : Scanner) : Option Scanner := do
  let s ← s.markKey
  let indent := match s.indent with
    | some i => i + 1
    | none => 0
  let (text, lineEnded, after) ← readPlain s.inFlow indent s.cursor
  pure ({ s with keyAllowed := lineEnded, cursor := after }.emit
    (.scalar .plain (String.ofList text)))

/-- The marks that cannot start a plain scalar. -/
def isIndicator (c : Char) : Bool :=
  "-?:,[]#&*!|>'\"%@`".toList.contains c || c == '\x7b' || c == '\x7d'

/-- Whether a plain scalar starts with a character before another. -/
def startsPlain (inFlow : Bool) (c : Char) (next : Option Char) : Bool :=
  (!isIndicator c && !isSpace c) || (c == '-' && !next.any isSpace)
    || (!inFlow && (c == '?' || c == ':') && !endsToken next)

/-- Reads one token; `none` inside the answer says that the text is at its end. -/
def step (s : Scanner) : Option (Option Scanner) := do
  let s ← (skipToToken (s.cursor.rest.length + 1) s).dropStaleKeys
  let s := s.closeBlocks (some s.cursor.column)
  let c := s.cursor
  match c.head? with
  | none => pure none
  | some x =>
      let next := c.ahead? 1
      let marked := s.inFlow || endsToken next
      let after ←
        if c.column = 0 && x == '%' then s.directive
        else if c.atMarker '-' then s.documentMarker .documentStart
        else if c.atMarker '.' then s.documentMarker .documentEnd
        else if x == '[' then s.openFlow .flowSequenceStart
        else if x == '\x7b' then s.openFlow .flowMappingStart
        else if x == ']' then s.closeFlow .flowSequenceEnd
        else if x == '\x7d' then s.closeFlow .flowMappingEnd
        else if x == ',' then s.flowEntry
        else if x == '-' && endsToken next then s.blockEntry
        else if x == '?' && marked then s.keyMark
        else if x == ':' && marked then s.valueMark
        else if x == '*' then
          s.property fun c => (readAnchorName c).map fun (name, after) => (.alias name, after)
        else if x == '&' then
          s.property fun c => (readAnchorName c).map fun (name, after) => (.anchor name, after)
        else if x == '!' then s.property (readTag s.inFlow)
        else if x == '|' && !s.inFlow then s.blockScalar true
        else if x == '>' && !s.inFlow then s.blockScalar false
        else if x == '\'' then s.quotedScalar false
        else if x == '"' then s.quotedScalar true
        else if startsPlain s.inFlow x next then s.plainScalar
        else none
      pure (some after)

/-- Reads tokens until the end of the text. -/
def runFrom : Nat → Scanner → Option Scanner
  | 0, _ => none
  | fuel + 1, s =>
      match s.step with
      | none => none
      | some (some after) => runFrom fuel after
      | some none => (skipToToken (s.cursor.rest.length + 1) s).finish

end Scanner

/-- The tokens of a text, if it has any reading.  A byte order mark before the
    text does not count. -/
def Token.ofText? (text : String) : Option (List Token) :=
  let cs := match text.toList with
    | c :: rest => if c.toNat = 0xFEFF then rest else c :: rest
    | [] => []
  if cs.all isAllowed then
    (Scanner.runFrom (cs.length + 2) (.ofText cs)).map fun s => s.tokens.reverse
  else none

end SchemaMigration.Yaml
