import SchemaClosure.Declaration.Basic

namespace SchemaClosure

/-- The declarations of one compilation, in the order of their names. What is asked of them is asked about types; a type that is not declared has empty answers. -/
structure Snapshot where
  declarations : List Declaration
  deriving DecidableEq, Repr

namespace Snapshot

def empty : Snapshot := ⟨[]⟩

def find? (snapshot : Snapshot) (name : String) : Option Declaration :=
  snapshot.declarations.find? (·.name == name)

def contains (snapshot : Snapshot) (name : String) : Bool := (snapshot.find? name).isSome

def size (snapshot : Snapshot) : Nat := snapshot.declarations.length

def declaration? (snapshot : Snapshot) (type : TypeRef) : Option Declaration := type.name?.bind snapshot.find?

/-- The declarations of a type and of the bases above it, nearest first, each with the arguments it has there. A base may lead back to the type through a type parameter, so the walk is given up after `limit` declarations. -/
def lineage (snapshot : Snapshot) : (limit : Nat) → TypeRef → Option (List (Declaration × TypeRef.Bindings))
  | 0, _ => none
  | limit + 1, type =>
    match snapshot.declaration? type with
    | none => some []
    | some declaration =>
      let bindings := declaration.bindings type
      match declaration.base with
      | none => some [(declaration, bindings)]
      | some base => (snapshot.lineage limit (base.substitute bindings)).map ((declaration, bindings) :: ·)

/-- A walk that ends is the same under every larger limit. -/
theorem lineage_mono {snapshot : Snapshot} {limit limit' : Nat} {type : TypeRef} {levels : List (Declaration × TypeRef.Bindings)}
    (h : snapshot.lineage limit type = some levels) (hle : limit ≤ limit') : snapshot.lineage limit' type = some levels := by
  induction limit generalizing limit' type levels with
  | zero => simp [lineage] at h
  | succ limit ih =>
    obtain ⟨more, rfl⟩ : ∃ more, limit' = more + 1 := ⟨limit' - 1, by omega⟩
    unfold lineage at h ⊢
    split at h
    · exact h
    · rename_i declaration hdeclaration
      simp only at h ⊢
      split at h
      · exact h
      · rename_i base hbase
        obtain ⟨above, habove, rfl⟩ := Option.map_eq_some_iff.mp h
        rw [ih habove (Nat.le_of_succ_le_succ hle)]
        rfl

/-- The fields and properties of a type, its own before those of its bases. -/
structure Members where
  fields : List Field
  properties : List Property
  deriving DecidableEq, Repr

namespace Members

def ofDeclaration (declaration : Declaration) (bindings : TypeRef.Bindings) : Members :=
  { fields := declaration.fields.map fun field => { field with type := field.type.substitute bindings }
    properties := declaration.properties.map fun property => { property with type := property.type.substitute bindings } }

def ofLevels (levels : List (Declaration × TypeRef.Bindings)) : Members :=
  let members := levels.map fun (declaration, bindings) => ofDeclaration declaration bindings
  { fields := members.flatMap (·.fields), properties := members.flatMap (·.properties) }

end Members

def members (snapshot : Snapshot) (limit : Nat) (type : TypeRef) : Option Members :=
  (snapshot.lineage limit type).map Members.ofLevels

/-- The constructors of a type. A class that declares none and is not abstract has the parameterless one. -/
def constructors (snapshot : Snapshot) (type : TypeRef) : List Constructor :=
  match snapshot.declaration? type with
  | none => []
  | some declaration =>
    if declaration.constructors.isEmpty && declaration.kind == .classType && !declaration.isAbstract then [{}]
    else
      let bindings := declaration.bindings type
      declaration.constructors.map fun constructor =>
        { constructor with parameters := constructor.parameters.map fun parameter =>
            { parameter with type := parameter.type.substitute bindings } }

def parents (declaration : Declaration) : List String :=
  (declaration.base.toList ++ declaration.interfaces).filterMap TypeRef.name?

/-- Adds a parent that has not been seen to the fresh ones, once. -/
def addFresh (seen fresh : List String) (parent : String) : List String :=
  if seen.contains parent || fresh.contains parent then fresh else fresh ++ [parent]

/-- The parents of a name that have not been seen, each once. -/
def freshParents (snapshot : Snapshot) (seen : List String) (name : String) : List String :=
  (((snapshot.find? name).map parents).getD []).foldl (addFresh seen) []

/-- Goes through pending names, the first one first, and adds the parents that have not been seen. -/
def climb (snapshot : Snapshot) : (fuel : Nat) → (seen pending : List String) → List String
  | 0, seen, _ => seen
  | _ + 1, seen, [] => seen
  | fuel + 1, seen, name :: rest =>
    let fresh := snapshot.freshParents seen name
    snapshot.climb fuel (seen ++ fresh) (fresh.reverse ++ rest)

/-- Enough for every name that is anywhere a parent, and for the name that the climb begins with. -/
def climbFuel (snapshot : Snapshot) : Nat := (snapshot.declarations.flatMap parents).length + 2

/-- The names of all bases and interfaces above a declared name, each once. -/
def supertypes (snapshot : Snapshot) (name : String) : List String := snapshot.climb snapshot.climbFuel [] [name]

def implementsInterface (snapshot : Snapshot) (type : TypeRef) (interface : String) : Bool :=
  type.name?.any fun name => (snapshot.supertypes name).contains interface

/-- A type is below itself, below its bases and below its interfaces. Arguments do not matter. -/
def isSubtype (snapshot : Snapshot) (type base : TypeRef) : Bool :=
  match type.name?, base.name? with
  | some name, some baseName => name == baseName || (snapshot.supertypes name).contains baseName
  | _, _ => false

def attributes (snapshot : Snapshot) (type : TypeRef) : Attributes :=
  ((snapshot.declaration? type).map (·.attributes)).getD []

def genericParameters (snapshot : Snapshot) (type : TypeRef) : List GenericParameter :=
  ((snapshot.declaration? type).map (·.parameters)).getD []

def underlyingType? (snapshot : Snapshot) (type : TypeRef) : Option String :=
  (snapshot.declaration? type).bind (·.underlyingType)

/-- A declaration and the declarations it is nested in, innermost first. Nesting goes through each declaration once at most. -/
def enclosing (snapshot : Snapshot) : (fuel : Nat) → Declaration → List Declaration
  | 0, declaration => [declaration]
  | fuel + 1, declaration =>
    match declaration.containingType.bind snapshot.find? with
    | none => [declaration]
    | some outer => declaration :: snapshot.enclosing fuel outer

/-- The accessibility of a type to codecs: that of the innermost level that is hidden from them, or the type's own. -/
def accessibility (snapshot : Snapshot) (type : TypeRef) : Accessibility :=
  match snapshot.declaration? type with
  | none => .publicAccess
  | some declaration =>
    let levels := (snapshot.enclosing snapshot.size declaration).map (·.accessibility)
    (levels.find? fun level => !level.isVisible).getD declaration.accessibility

def declaresMethod (snapshot : Snapshot) (type : TypeRef) (name : String) : Bool :=
  (snapshot.declaration? type).any fun declaration => declaration.methods.contains name

/-- The generic definition of a type, where it is declared as generic. -/
def definition? (snapshot : Snapshot) (type : TypeRef) : Option TypeRef :=
  ((snapshot.declaration? type).filter Declaration.isGeneric).map Declaration.definition

/-- Whether a type is a generic definition applied to its own parameters. -/
def isDefinition (snapshot : Snapshot) (type : TypeRef) : Bool := snapshot.definition? type == some type

end Snapshot

end SchemaClosure
