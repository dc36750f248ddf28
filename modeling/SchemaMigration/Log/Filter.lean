import SchemaMigration.Log
import SchemaMigration.Text.Blank
import SchemaMigration.Text.Fields
import SchemaMigration.Text.Number

/-! # Log filters — which lines are shown

    A filter is a list of directives at commas.  A directive is a level, a topic,
    or a topic with a level; it speaks about every topic that starts with its
    own, and shows all of them unless it names a level.  For each line the
    directive with the longest topic decides. -/

namespace SchemaMigration.Log

/-- The least urgent level that is shown, or nothing at all. -/
inductive Threshold where
  | off
  | from_ (least : Level)
  deriving DecidableEq, Repr

namespace Threshold

/-- Whether lines of a level are shown. -/
def shows : Threshold → Level → Bool
  | .off, _ => false
  | .from_ least, level => least.rank ≤ level.rank

/-- The threshold that a number names. -/
def ofNumber? : Nat → Option Threshold
  | 0 => some .off
  | 1 => some (.from_ .error)
  | 2 => some (.from_ .warn)
  | 3 => some (.from_ .info)
  | 4 => some (.from_ .debug)
  | 5 => some (.from_ .trace)
  | _ => none

/-- The threshold that a word names. -/
def ofText? (text : String) : Option Threshold :=
  match Text.digits? text.toList with
  | some n => ofNumber? n
  | none =>
      match Text.lowerAscii text with
      | "off" => some .off
      | "error" => some (.from_ .error)
      | "warn" => some (.from_ .warn)
      | "info" => some (.from_ .info)
      | "debug" => some (.from_ .debug)
      | "trace" => some (.from_ .trace)
      | _ => none

end Threshold

/-- What is shown of the topics that start with a text.  A directive about spans of
    time says nothing about lines. -/
inductive Directive where
  | topics (start : String) (threshold : Threshold)
  | spans
  deriving DecidableEq, Repr

namespace Directive

/-- Whether a directive can start with a character. -/
def canStart (c : Char) : Bool :=
  c.isAlphanum || c == '-' || c == ':' || c == '_'

/-- Reads a directive. -/
def read (text : String) : Option Directive :=
  let cs := (Text.trim text).toList
  if cs.contains '[' then (if cs.contains ']' then some .spans else none)
  else if !(cs.head?).any canStart then none
  else
    let topic := cs.takeWhile (· != '=')
    match cs.drop topic.length with
    | [] =>
        match Threshold.ofText? (String.ofList topic) with
        | some threshold => some (.topics "" threshold)
        | none => some (.topics (String.ofList topic) (.from_ .trace))
    | [_] => some (.topics (String.ofList topic) (.from_ .trace))
    | _ :: level =>
        (Threshold.ofText? (String.ofList level)).map (.topics (String.ofList topic))

/-- What a directive says about a topic, and how specific that is. -/
def about (topic : String) : Directive → Option (Nat × Threshold)
  | .topics start threshold =>
      if start.toList.isPrefixOf topic.toList then some (start.length, threshold) else none
  | .spans => none

end Directive

/-- Directives in the order in which they were given. -/
structure Filter where
  directives : List Directive
  deriving DecidableEq, Repr

namespace Filter

/-- Shows lines of every topic from a level on. -/
def from_ (least : Level) : Filter := ⟨[.topics "" (.from_ least)]⟩

/-- Reads a filter; an empty text shows errors. -/
def read (text : String) : Option Filter :=
  let parts := (Text.split ',' text).filter fun part => !part.isEmpty
  if parts.isEmpty then some (from_ .error)
  else (parts.mapM Directive.read).map Filter.mk

/-- The more specific of two statements; of equally specific ones, the later. -/
def stronger (a b : Option (Nat × Threshold)) : Option (Nat × Threshold) :=
  match a, b with
  | some (m, s), some (n, t) => if n < m then some (m, s) else some (n, t)
  | none, b => b
  | a, none => a

/-- Whether a line about a topic is shown. -/
def shows (f : Filter) (topic : String) (line : Line) : Bool :=
  match (f.directives.map (·.about topic)).foldl stronger none with
  | some (_, threshold) => threshold.shows line.level
  | none => false

/-- The filter of a program: the one asked for if it can be read, or else progress,
    and inner workings too when it is verbose. -/
def choose (asked : Option String) (verbose : Bool) : Filter :=
  (asked.bind read).getD (from_ (if verbose then .debug else .info))

end Filter

end SchemaMigration.Log
