import SchemaMigration.Yaml.Cursor

/-! # Scalars in YAML text — plain, quoted and block values

    Each reader starts at the first character of a scalar and answers its value
    and the place after it, or nothing when the scalar is malformed.  A single
    line break inside a scalar folds into a blank, further breaks stay. -/

namespace SchemaMigration.Yaml

/-- The white space between two pieces of a scalar: the blanks of one line, or,
    once a line has ended, the first break and the later ones. -/
structure Gap where
  broken : Bool
  spaces : List Char
  firstBreak : List Char
  laterBreaks : List Char

namespace Gap

/-- No white space. -/
def none_ : Gap := ⟨false, [], [], []⟩

/-- What a gap is in the value. -/
def fold (g : Gap) : List Char :=
  if g.broken then
    if g.firstBreak = ['\n'] then if g.laterBreaks.isEmpty then [' '] else g.laterBreaks
    else g.firstBreak ++ g.laterBreaks
  else g.spaces

end Gap

/-- Reads white space.  In a plain scalar a tab left of its indentation is malformed. -/
def readGap (indent : Option Nat) : Nat → Gap → Cursor → Option (Gap × Cursor)
  | 0, g, c => some (g, c)
  | fuel + 1, g, c =>
      match c.head? with
      | some x =>
          if isSpace x then
            if g.broken && x == '\t' && indent.any (fun i => c.column < i) then none
            else if g.broken then readGap indent fuel g (c.skip 1)
            else readGap indent fuel { g with spaces := g.spaces ++ [x] } (c.skip 1)
          else if isBreak x then
            let (text, after) := c.takeBreak
            if g.broken then
              readGap indent fuel { g with laterBreaks := g.laterBreaks ++ text } after
            else
              readGap indent fuel { g with broken := true, spaces := [], firstBreak := text } after
          else some (g, c)
      | none => some (g, c)

/-- The value of a hexadecimal digit. -/
def hexDigit? (c : Char) : Option Nat :=
  if c.isDigit then some (c.toNat - 0x30)
  else if 'a' ≤ c ∧ c ≤ 'f' then some (c.toNat - 0x61 + 10)
  else if 'A' ≤ c ∧ c ≤ 'F' then some (c.toNat - 0x41 + 10)
  else none

/-- The number that hexadecimal digits write. -/
def hexNumber? : Nat → List Char → Option Nat
  | value, [] => some value
  | value, c :: rest => (hexDigit? c).bind fun d => hexNumber? (16 * value + d) rest

/-- The character that a letter after a backslash stands for. -/
def escapeLetter? (c : Char) : Option Nat :=
  match c with
  | '0' => some 0
  | 'a' => some 7
  | 'b' => some 8
  | 't' => some 9
  | '\t' => some 9
  | 'n' => some 10
  | 'v' => some 11
  | 'f' => some 12
  | 'r' => some 13
  | 'e' => some 27
  | ' ' => some 0x20
  | '"' => some 0x22
  | '/' => some 0x2F
  | '\\' => some 0x5C
  | 'N' => some 0x85
  | '_' => some 0xA0
  | 'L' => some 0x2028
  | 'P' => some 0x2029
  | _ => none

/-- How many hexadecimal digits follow a letter after a backslash. -/
def escapeWidth? (c : Char) : Option Nat :=
  match c with
  | 'x' => some 2
  | 'u' => some 4
  | 'U' => some 8
  | _ => none

/-- Reads an escape after its backslash. -/
def readEscape (c : Cursor) : Option (Char × Cursor) := do
  let letter ← c.head?
  let after := c.skip 1
  match escapeWidth? letter with
  | none => do
      let n ← escapeLetter? letter
      pure (Char.ofNat n, after)
  | some width => do
      let digits := after.rest.take width
      guard (digits.length = width)
      let n ← hexNumber? 0 digits
      guard (n ≤ 0x10FFFF ∧ ¬(0xD800 ≤ n ∧ n ≤ 0xDFFF))
      pure (Char.ofNat n, after.skip width)

/-- Reads the characters of a quoted scalar up to white space or its end, and
    whether an escaped line break ended them. -/
def readQuotedRun (double : Bool) : Nat → Cursor → Option (List Char × Bool × Cursor)
  | 0, c => some ([], false, c)
  | fuel + 1, c =>
      match c.head? with
      | none => some ([], false, c)
      | some x =>
          if isSpace x || isBreak x then some ([], false, c)
          else if !double && x == '\'' then
            if c.ahead? 1 = some '\'' then do
              let (cs, escaped, after) ← readQuotedRun double fuel (c.skip 2)
              pure ('\'' :: cs, escaped, after)
            else some ([], false, c)
          else if double && x == '"' then some ([], false, c)
          else if double && x == '\\' then
            if (c.ahead? 1).any isBreak then some ([], true, (c.skip 1).takeBreak.2)
            else do
              let (y, after) ← readEscape (c.skip 1)
              let (cs, escaped, after) ← readQuotedRun double fuel after
              pure (y :: cs, escaped, after)
          else do
            let (cs, escaped, after) ← readQuotedRun double fuel (c.skip 1)
            pure (x :: cs, escaped, after)

/-- Reads the inside of a quoted scalar and its closing quote. -/
def readQuotedFrom (double : Bool) : Nat → Cursor → Option (List Char × Cursor)
  | 0, _ => none
  | fuel + 1, c => do
      guard (!c.atDocumentMarker && !c.atEnd)
      let (cs, escaped, c) ← readQuotedRun double (c.rest.length + 1) c
      if c.startsWith (if double then '"' else '\'') then pure (cs, c.skip 1)
      else do
        -- after an escaped break nothing is folded in, and the next break counts as a later one
        let (gap, c) ← readGap none (c.rest.length + 1) { Gap.none_ with broken := escaped } c
        let (more, after) ← readQuotedFrom double fuel c
        pure (cs ++ gap.fold ++ more, after)

/-- Reads a quoted scalar from its opening quote. -/
def readQuoted (double : Bool) (c : Cursor) : Option (List Char × Cursor) :=
  readQuotedFrom double (c.rest.length + 1) (c.skip 1)

/-- Whether a character always ends a plain scalar inside brackets. -/
def isFlowMark (c : Char) : Bool :=
  c == ',' || c == '[' || c == ']' || c == '\x7b' || c == '\x7d'

/-- Reads the characters of a plain scalar up to white space or its end. -/
def readPlainRun (inFlow : Bool) : Nat → Cursor → Option (List Char × Cursor)
  | 0, c => some ([], c)
  | fuel + 1, c =>
      match c.head? with
      | none => some ([], c)
      | some x =>
          if isSpace x || isBreak x then some ([], c)
          else if inFlow && x == ':' && (c.ahead? 1).any (fun y => isFlowMark y || y == '?') then
            none
          else if (x == ':' && endsToken (c.ahead? 1)) || (inFlow && isFlowMark x) then some ([], c)
          else do
            let (cs, after) ← readPlainRun inFlow fuel (c.skip 1)
            pure (x :: cs, after)

/-- Reads a plain scalar after some of its value and the gap behind that: the
    value, whether a line ended behind it, and the place after it. -/
def readPlainFrom (inFlow : Bool) (indent : Nat) :
    Nat → List Char → Gap → Cursor → Option (List Char × Bool × Cursor)
  | 0, value, gap, c => some (value, gap.broken, c)
  | fuel + 1, value, gap, c =>
      if c.atDocumentMarker || c.startsWith '#' then some (value, gap.broken, c)
      else do
        let (run, after) ← readPlainRun inFlow (c.rest.length + 1) c
        let (value, gap) :=
          if run.isEmpty then (value, gap) else (value ++ gap.fold ++ run, Gap.none_)
        if (after.head?).any (fun x => isSpace x || isBreak x) then do
          let (gap, next) ← readGap (some indent) (after.rest.length + 1) gap after
          if !inFlow && next.column < indent then pure (value, gap.broken, next)
          else readPlainFrom inFlow indent fuel value gap next
        else pure (value, gap.broken, after)

/-- Reads a plain scalar; `indent` is the least column of its later lines. -/
def readPlain (inFlow : Bool) (indent : Nat) (c : Cursor) : Option (List Char × Bool × Cursor) :=
  readPlainFrom inFlow indent (c.rest.length + 1) [] Gap.none_ c

/-- What is done with the breaks at the end of a block scalar. -/
inductive Chomping where
  | strip
  | clip
  | keep

/-- The header of a block scalar: its chomping and its indentation, if it gives one. -/
structure BlockHeader where
  chomping : Chomping
  increment : Option Nat

/-- Reads an indentation indicator. -/
def readIncrement (c : Cursor) : Option (Option Nat × Cursor) :=
  match c.head? with
  | some x =>
      if x == '0' then none
      else if x.isDigit then some (some (x.toNat - 0x30), c.skip 1)
      else some (none, c)
  | none => some (none, c)

/-- Reads a chomping indicator. -/
def readChomping (c : Cursor) : Option Chomping × Cursor :=
  match c.head? with
  | some '+' => (some .keep, c.skip 1)
  | some '-' => (some .strip, c.skip 1)
  | _ => (none, c)

/-- Past blanks and a comment, to the break that must follow. -/
def readLineEnd (c : Cursor) : Option Cursor :=
  let c := c.skipWhile isSpace
  let c := if c.startsWith '#' then c.skipWhile fun x => !isBreak x else c
  match c.head? with
  | none => some c
  | some x => if isBreak x then some c.takeBreak.2 else none

/-- Reads the header of a block scalar after its indicator, up to the next line. -/
def readBlockHeader (c : Cursor) : Option (BlockHeader × Cursor) := do
  let (first, c) := readChomping c
  let (increment, c) ← readIncrement c
  let (second, c) := if first.isNone && increment.isSome then readChomping c else (first, c)
  let after ← readLineEnd c
  pure (⟨second.getD .clip, increment⟩, after)

/-- Reads the blank lines before a line of a block scalar: the breaks, the widest
    column reached, and the place after the indentation.  Without an indentation
    every leading space counts as one. -/
def readBlockBreaks (indent : Option Nat) :
    Nat → List Char → Nat → Cursor → Option (List Char × Nat × Cursor)
  | 0, breaks, widest, c => some (breaks, widest, c)
  | fuel + 1, breaks, widest, c =>
      let leading := (c.rest.takeWhile (· == ' ')).length
      let c := c.skip (match indent with
        | some i => min leading (i - c.column)
        | none => leading)
      let widest := max widest c.column
      let inside := match indent with
        | some i => decide (c.column < i)
        | none => true
      match c.head? with
      | none => some (breaks, widest, c)
      | some x =>
          if inside && x == '\t' then none
          else if isBreak x then
            let (text, after) := c.takeBreak
            readBlockBreaks indent fuel (breaks ++ text) widest after
          else some (breaks, widest, c)

/-- Reads the lines of a block scalar, after some of its value: the last break and
    the blank lines behind it are still open. -/
def readBlockLines (literal : Bool) (indent : Nat) :
    Nat → List Char → List Char → List Char → Bool → Cursor →
      Option (List Char × List Char × List Char × Cursor)
  | 0, value, leading, trailing, _, c => some (value, leading, trailing, c)
  | fuel + 1, value, leading, trailing, wasIndented, c =>
      if c.column = indent && !c.atEnd then do
        let isIndented := (c.head?).any isSpace
        let value :=
          if !literal && leading = ['\n'] && !wasIndented && !isIndented then
            value ++ (if trailing.isEmpty then [' '] else []) ++ trailing
          else value ++ leading ++ trailing
        let (line, after) := c.span fun x => !isBreak x
        let (leading, after) := after.takeBreak
        let (trailing, _, next) ← readBlockBreaks (some indent) (after.rest.length + 1) [] 0 after
        readBlockLines literal indent fuel (value ++ line) leading trailing isIndented next
      else some (value, leading, trailing, c)

/-- Reads a block scalar from its indicator; `outer` is the column of the block
    around it, if there is one. -/
def readBlock (literal : Bool) (outer : Option Nat) (c : Cursor) : Option (List Char × Cursor) := do
  let (header, c) ← readBlockHeader (c.skip 1)
  let fixed := header.increment.map fun n => outer.getD 0 + n
  let (trailing, widest, c) ← readBlockBreaks fixed (c.rest.length + 1) [] 0 c
  let least := match outer with
    | some n => n + 1
    | none => 1
  let indent := fixed.getD (max widest least)
  let (value, leading, trailing, c) ←
    readBlockLines literal indent (c.rest.length + 1) [] [] trailing false c
  match header.chomping with
  | .strip => pure (value, c)
  | .clip => pure (value ++ leading, c)
  | .keep => pure (value ++ leading ++ trailing, c)

end SchemaMigration.Yaml
