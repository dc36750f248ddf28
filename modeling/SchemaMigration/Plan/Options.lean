/-! # Options — the switches of an update run -/

namespace SchemaMigration

/-- How files without a record of their own are treated, and how long records
    outlive their files. -/
structure Options where
  /-- Skip a pending script whose content another script already brings. -/
  redundancy : Bool
  /-- Move the record of a renamed script instead of running the script again. -/
  allowRehash : Bool
  /-- Archive the record of a script that turns up in the archive. -/
  archivedRedundancy : Bool
  /-- How many runs a record may stay without its file; a negative number keeps it for ever. -/
  deadRunLimit : Int
  deriving DecidableEq, Repr

namespace Options

/-- The switches of settings that name none. -/
def standard : Options := ⟨true, true, false, 3⟩

/-- The number of runs a record may stay without its file, if records are removed at all. -/
def limit? (o : Options) : Option Nat :=
  if o.deadRunLimit < 0 then none else some o.deadRunLimit.toNat

end Options

end SchemaMigration
