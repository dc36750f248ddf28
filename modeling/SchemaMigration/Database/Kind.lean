import SchemaMigration.Text.Blank

/-! # Database kinds — the logical databases of a server

    There are four, and they are processed in the order in which they are
    listed.  A mask selects kinds by one bit each. -/

namespace SchemaMigration

/-- One of the logical databases. -/
inductive Kind where
  | auth
  | characters
  | world
  | hotfixes
  deriving DecidableEq, Repr

namespace Kind

/-- Every kind, in processing order. -/
def all : List Kind := [.auth, .characters, .world, .hotfixes]

/-- The place in the processing order. -/
def rank : Kind → Nat
  | .auth => 0
  | .characters => 1
  | .world => 2
  | .hotfixes => 3

/-- The bit that selects the kind. -/
def flag (k : Kind) : Nat := 1 <<< k.rank

/-- The name of the kind in directories and settings. -/
def slug : Kind → String
  | .auth => "auth"
  | .characters => "characters"
  | .world => "world"
  | .hotfixes => "hotfixes"

/-- Whether a mask selects the kind. -/
def inMask (k : Kind) (mask : Nat) : Bool := mask.testBit k.rank

/-- The mask that selects the given kinds. -/
def maskOf (kinds : List Kind) : Nat :=
  kinds.foldl (fun mask k => mask ||| k.flag) 0

/-- The mask that selects every kind. -/
def fullMask : Nat := maskOf all

/-- The kind whose slug is given, letter for letter. -/
def ofSlug? (s : String) : Option Kind :=
  all.find? fun k => k.slug = s

/-- The kind an operator names: white space around the name and the case of its
    letters do not matter, and three kinds have a second name. -/
def ofName? (s : String) : Option Kind :=
  match Text.lowerAscii (Text.trim s) with
  | "auth" => some .auth
  | "login" => some .auth
  | "characters" => some .characters
  | "character" => some .characters
  | "world" => some .world
  | "hotfixes" => some .hotfixes
  | "hotfix" => some .hotfixes
  | _ => none

/-- Whether `a` is processed no later than `b`. -/
def le (a b : Kind) : Bool := a.rank ≤ b.rank

/-- The kinds in processing order; equal kinds keep their order. -/
def sort (kinds : List Kind) : List Kind := kinds.mergeSort le

/-- The list with a kind kept only where it does not repeat the one before it. -/
def dropRepeats : List Kind → List Kind
  | [] => []
  | [k] => [k]
  | a :: b :: rest => if a = b then dropRepeats (b :: rest) else a :: dropRepeats (b :: rest)

end Kind

end SchemaMigration
