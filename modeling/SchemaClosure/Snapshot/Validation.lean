import SchemaClosure.Snapshot.Basic
import SchemaClosure.TypeRef.Parser

/-!
Assembling a snapshot. Names have to be there and to differ, nesting has to lead through declared types and to end, and so has the chain of bases. Then namespaces are filled in, and names of type parameters in scope become parameters.
-/

namespace SchemaClosure

inductive SnapshotError where
  | emptyName
  | duplicateType (name : String)
  | unknownContainingType (name containing : String)
  | cyclicNesting (name : String)
  | cyclicBase (name : String)
  deriving DecidableEq, Repr

def SnapshotError.message : SnapshotError → String
  | .emptyName => "a type declaration has an empty name"
  | .duplicateType name => s!"type `{name}` is declared more than once"
  | .unknownContainingType name containing => s!"type `{name}` is nested in undeclared type `{containing}`"
  | .cyclicNesting name => s!"type `{name}` is nested in itself"
  | .cyclicBase name => s!"base type chain of `{name}` is cyclic"

mutual

/-- Reads bare names of the parameters in scope as type parameters. -/
def TypeRef.bindParameters (scope : List String) : TypeRef → TypeRef
  | .named name [] => if scope.contains name then .parameter name else .named name []
  | .named name (first :: rest) => .named name (first.bindParameters scope :: TypeRef.bindAllParameters scope rest)
  | .parameter name => .parameter name
  | .array element rank => .array (element.bindParameters scope) rank
  | .tuple elements => .tuple (TypeRef.bindAllParameters scope elements)

def TypeRef.bindAllParameters (scope : List String) : List TypeRef → List TypeRef
  | [] => []
  | type :: rest => type.bindParameters scope :: TypeRef.bindAllParameters scope rest

end

theorem TypeRef.bindAllParameters_eq_map (scope : List String) (types : List TypeRef) :
    bindAllParameters scope types = types.map (bindParameters scope) := by
  induction types with
  | nil => rfl
  | cons type rest ih => simp [bindAllParameters, ih]

namespace Declaration

/-- Binds parameters in the subtype of a union case; other attributes mention no types. -/
def bindUnion (scope : List String) : Attribute → Attribute
  | .union discriminator subtype => .union discriminator (subtype.bindParameters scope)
  | other => other

/-- Binds the parameters in scope in every type that a declaration mentions. -/
def bindParameters (scope : List String) (declaration : Declaration) : Declaration :=
  { declaration with
    parameters := declaration.parameters.map fun parameter =>
      { parameter with constraintTypes := parameter.constraintTypes.map (·.bindParameters scope) }
    attributes := declaration.attributes.map (bindUnion scope)
    base := declaration.base.map (·.bindParameters scope)
    interfaces := declaration.interfaces.map (·.bindParameters scope)
    fields := declaration.fields.map fun field => { field with type := field.type.bindParameters scope }
    properties := declaration.properties.map fun property => { property with type := property.type.bindParameters scope }
    constructors := declaration.constructors.map fun constructor =>
      { constructor with parameters := constructor.parameters.map fun parameter =>
          { parameter with type := parameter.type.bindParameters scope } } }

end Declaration

namespace Snapshot

/-- Looks for an empty name or the second use of a name, in the order of the declarations. -/
def checkNames : (seen : List String) → List Declaration → Except SnapshotError Unit
  | _, [] => .ok ()
  | seen, declaration :: rest =>
    if declaration.name = "" then .error .emptyName
    else if seen.contains declaration.name then .error (.duplicateType declaration.name)
    else checkNames (declaration.name :: seen) rest

/-- The levels around `current`, which `inner` leads to from the declaration called `name`, latest first. A walk longer than the snapshot would pass a declaration twice. -/
def checkNesting (snapshot : Snapshot) (name : String) :
    (fuel : Nat) → (inner : List Declaration) → (current : Declaration) → Except SnapshotError (List Declaration)
  | 0, _, _ => .error (.cyclicNesting name)
  | fuel + 1, inner, current =>
    match current.containingType with
    | none => .ok (current :: inner).reverse
    | some containing =>
      if (current :: inner).any (·.name == containing) then .error (.cyclicNesting name)
      else
        match snapshot.find? containing with
        | none => .error (.unknownContainingType current.name containing)
        | some outer => snapshot.checkNesting name fuel (current :: inner) outer

/-- The namespace of the innermost of some nested declarations: the first that any of them states, or else what the outermost name has before its last dot. -/
def namespaceOf (levels : List Declaration) : Option String :=
  match levels.findSome? (·.namespaceName) with
  | some stated => some stated
  | none => levels.getLast?.bind fun outermost => (Text.splitAtLastDot outermost.name).map (·.1)

def scopeOf (levels : List Declaration) : List String :=
  levels.flatMap fun declaration => declaration.parameters.map (·.name)

/-- A declaration with its namespace and its parameters in place. -/
def complete (snapshot : Snapshot) (declaration : Declaration) : Except SnapshotError Declaration := do
  let levels ← snapshot.checkNesting declaration.name snapshot.size [] declaration
  return { declaration with namespaceName := namespaceOf levels }.bindParameters (scopeOf levels)

/-- Whether the bases above the declaration called `name` come to an end after at most `fuel` further names. Base names that are declared nowhere end the walk. -/
def basesEnd (snapshot : Snapshot) : (fuel : Nat) → (seen : List String) → (name : String) → Bool
  | 0, _, _ => false
  | fuel + 1, seen, name =>
    if seen.contains name then false
    else
      match (snapshot.find? name).bind fun declaration => declaration.base.bind TypeRef.name? with
      | none => true
      | some base => snapshot.basesEnd fuel (name :: seen) base

def checkBases (snapshot : Snapshot) (declaration : Declaration) : Except SnapshotError Unit :=
  if snapshot.basesEnd (snapshot.size + 2) [] declaration.name then .ok () else .error (.cyclicBase declaration.name)

/-- Assembles a snapshot. Names are checked in the given order, nesting and bases in the order of the names. -/
def ofDeclarations (declarations : List Declaration) : Except SnapshotError Snapshot := do
  checkNames [] declarations
  let ordered : Snapshot := ⟨declarations.mergeSort fun first second => first.name ≤ second.name⟩
  let snapshot : Snapshot := ⟨← ordered.declarations.mapM ordered.complete⟩
  snapshot.declarations.forM snapshot.checkBases
  return snapshot

theorem ofDeclarations_of_sorted {declarations : List Declaration}
    (h : declarations.Pairwise fun first second => first.name ≤ second.name) :
    ofDeclarations declarations = do
      checkNames [] declarations
      let snapshot : Snapshot := ⟨← declarations.mapM (Snapshot.mk declarations).complete⟩
      snapshot.declarations.forM snapshot.checkBases
      return snapshot := by
  have hsorted : declarations.mergeSort (fun first second => first.name ≤ second.name) = declarations :=
    List.mergeSort_of_pairwise (h.imp decide_eq_true)
  rw [ofDeclarations, hsorted]

mutual

/-- Reads arguments that name a declared parameter of the generic type around them as type parameters, unless a type of that name is declared. -/
def bindArguments (snapshot : Snapshot) (scope : List String) : TypeRef → TypeRef
  | .named name [] => if scope.contains name && !snapshot.contains name then .parameter name else .named name []
  | .named name (first :: rest) =>
    let inner := scope ++ ((snapshot.find? name).map fun declaration => declaration.parameters.map (·.name)).getD []
    .named name (snapshot.bindArguments inner first :: snapshot.bindAllArguments inner rest)
  | .parameter name => .parameter name
  | .array element rank => .array (snapshot.bindArguments scope element) rank
  | .tuple elements => .tuple (snapshot.bindAllArguments scope elements)

def bindAllArguments (snapshot : Snapshot) (scope : List String) : List TypeRef → List TypeRef
  | [] => []
  | type :: rest => snapshot.bindArguments scope type :: snapshot.bindAllArguments scope rest

end

/-- A type as a person writes it: a generic type applied to the names of its own parameters is the definition. -/
def resolveType (snapshot : Snapshot) (text : String) : Except TypeRef.ParseError TypeRef :=
  (TypeRef.parse text).map (snapshot.bindArguments [])

end Snapshot

end SchemaClosure
