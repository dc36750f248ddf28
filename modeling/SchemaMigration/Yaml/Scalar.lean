import SchemaMigration.Yaml.Node

/-! # Scalar values — the truth values and numbers that scalars write

    Only a scalar without quotes can be a null, a truth value or a number; a
    literal block can be one too when its tag says so.  A number may have a
    sign and the mark of a base, and no needless zero before its first digit. -/

namespace SchemaMigration.Yaml

/-- The start of the tags that every text knows. -/
def coreTag (name : String) : String := "tag:yaml.org,2002:" ++ name

/-- Whether a text writes the null. -/
def isNull (text : String) : Bool :=
  ["null", "Null", "NULL", "~"].contains text

/-- The truth value that a text writes. -/
def truth? (text : String) : Option Bool :=
  if ["true", "True", "TRUE"].contains text then some true
  else if ["false", "False", "FALSE"].contains text then some false
  else none

/-- The value of digits after a value. -/
def digitsFrom? (base : Nat) : Nat → List Char → Option Nat
  | value, [] => some value
  | value, c :: rest =>
      ((hexDigit? c).filter (· < base)).bind fun d => digitsFrom? base (base * value + d) rest

/-- The value of at least one digit. -/
def digits? (base : Nat) (cs : List Char) : Option Nat :=
  if cs.isEmpty then none else digitsFrom? base 0 cs

/-- The number that a text without a sign writes. -/
def magnitude? : List Char → Option Nat
  | '0' :: 'x' :: rest => digits? 16 rest
  | '0' :: 'o' :: rest => digits? 8 rest
  | '0' :: 'b' :: rest => digits? 2 rest
  | ['0'] => some 0
  | '0' :: _ => none
  | cs => digits? 10 cs

/-- The number that a text writes, if it is not negative. -/
def natural? (text : String) : Option Nat :=
  match text.toList with
  | '+' :: rest => magnitude? rest
  | cs => magnitude? cs

/-- The number that a text writes. -/
def integer? (text : String) : Option Int :=
  match text.toList with
  | '-' :: rest => (magnitude? rest).map fun n => -(n : Int)
  | _ => (natural? text).map Int.ofNat

namespace Node

/-- The text of a scalar that can be a value of the type that a tag names. -/
def valueText? (tagName : String) : Node → Option String
  | .scalar _ .plain text => some text
  | .scalar (some tag) .literal text => if tag = coreTag tagName then some text else none
  | _ => none

/-- The text of a scalar. -/
def text? : Node → Option String
  | .scalar _ _ text => some text
  | .mapping _ _ => none

/-- The truth value of a scalar. -/
def truth? (n : Node) : Option Bool := (n.valueText? "bool").bind Yaml.truth?

/-- The number of a scalar, if it is not negative. -/
def natural? (n : Node) : Option Nat := (n.valueText? "int").bind Yaml.natural?

/-- The number of a scalar. -/
def integer? (n : Node) : Option Int := (n.valueText? "int").bind Yaml.integer?

/-- Whether a node stands for a missing value, as nothing at all and a null do; a
    null tag on anything else is malformed. -/
def isMissing? : Node → Option Bool
  | .scalar none .plain text => some (text.isEmpty || isNull text)
  | .scalar (some tag) .plain text =>
      if tag = coreTag "null" then (if isNull text then some true else none) else some false
  | _ => some false

/-- The name of a choice: a text, or a local tag on nothing or a null. -/
def choice? : Node → Option String
  | .scalar (some tag) style text =>
      match tag.toList with
      | '!' :: c :: rest =>
          if style = .plain ∧ (text.isEmpty ∨ isNull text) then some (String.ofList (c :: rest))
          else none
      | _ => some text
  | .scalar none _ text => some text
  | .mapping _ _ => none

/-- The entries of a mapping; where nothing is written there are none. -/
def entries? : Node → Option (List (Node × Node))
  | .mapping _ entries => some entries
  | .scalar _ .plain text => if text.isEmpty then some [] else none
  | _ => none

end Node

end SchemaMigration.Yaml
