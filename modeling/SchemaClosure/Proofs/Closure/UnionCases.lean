import SchemaClosure.Proofs.Closure.Union

namespace SchemaClosure

namespace UnionSchema

variable {before before' cases cases' : List (Int32 × TypeRef)}

/-- The cases whose discriminators are declared before, each with the subtype that its discriminator is first declared for. -/
def repetitionsAfter (before : List (Int32 × TypeRef)) : List (Int32 × TypeRef) → List ((Int32 × TypeRef) × TypeRef)
  | [] => []
  | case :: rest => ((before.lookup case.1).map fun first => (case, first)).toList ++ repetitionsAfter (before ++ [case]) rest

def repetitions (cases : List (Int32 × TypeRef)) : List ((Int32 × TypeRef) × TypeRef) := repetitionsAfter [] cases

/-- One diagnostic for each case whose discriminator is declared before. -/
def duplicates (base : TypeRef) (cases : List (Int32 × TypeRef)) : List Diagnostic :=
  (repetitions cases).map fun (case, first) => duplicateDiscriminator base.identity case.1 first case.2

/-- One diagnostic for each case whose subtype is not below the base. -/
def foreigners (snapshot : Snapshot) (base : TypeRef) (cases : List (Int32 × TypeRef)) : List Diagnostic :=
  (cases.filter fun case => !snapshot.isSubtype case.2 base).map fun case => foreignSubtype base.identity case.1 case.2

namespace Draft

variable {snapshot : Snapshot} {base : TypeRef} {taken : List (Int32 × TypeRef)} {draft : Draft}

/-- What is known of a draft when some cases are taken. -/
structure Accounts (snapshot : Snapshot) (base : TypeRef) (taken : List (Int32 × TypeRef)) (draft : Draft) : Prop where
  lookup_kept (discriminator : Int32) : draft.kept.lookup discriminator = taken.lookup discriminator
  sublist : draft.kept.reverse.Sublist taken
  distinct : draft.kept.Pairwise fun first second => first.1 ≠ second.1
  perm : (draft.kept.reverse ++ (repetitions taken).map Prod.fst).Perm taken
  diagnostics : draft.diagnostics.Perm (duplicates base taken ++ foreigners snapshot base draft.kept.reverse)

end Draft

end UnionSchema

namespace Context

open UnionSchema

variable {context : Context} {type : TypeRef} {declaration : Declaration}

end Context

end SchemaClosure
