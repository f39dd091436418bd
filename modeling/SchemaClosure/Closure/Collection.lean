import SchemaClosure.Closure.Shape

/-!
Collections. A type is resolved once into steps, which record entries of the model and visit further types; a collection carries out pending steps one by one, the steps of a type before those that were pending already. It ends when nothing is pending, at the first error, or when its signal is up at the discovery of a type.
-/

namespace SchemaClosure

inductive Step where
  | visit (edge : Edge)
  | record (entry : Entry)
  deriving DecidableEq, Repr

namespace Step

/-- A step on behalf of a type that was reached through a member. A visit that names no member of its own keeps that one. -/
def reachedThrough (member : Option String) : Step → Step
  | .visit edge => .visit { edge with member := edge.member <|> member }
  | .record entry => .record entry

end Step

/-- The steps that serve a type, and whether its members were laid out for them. -/
structure Resolution where
  steps : List Step
  laysOut : Bool
  deriving DecidableEq, Repr

namespace Context

def visits (types : List TypeRef) : List Step := types.map fun type => .visit (.ofType type)

def generic (type : TypeRef) (codecExpression : String) (isOpenGeneric : Bool) : Step :=
  .record (.generic { identity := type.identity, codecExpression, isOpenGeneric })

/-- A container with its arguments filled into the template. -/
def containerEntry (type : TypeRef) (template : String) (isOpenGeneric : Bool) : Step :=
  generic type (Catalog.instantiate template (CodecName.ofArguments type.arguments)) isOpenGeneric

/-- Decoding a look-up goes through the groupings and the sequences of its elements. -/
def lookupCompanions (lookup : TypeRef) : List Step :=
  match lookup.arguments with
  | _ :: element :: _ =>
    [.named Catalog.groupingName lookup.arguments, .named Catalog.enumerableName [element]].filterMap fun companion =>
      (Catalog.containerTemplate? companion.unboundSignature).map fun template =>
        containerEntry companion template lookup.isOpen
  | _ => []

def containerSteps (type : TypeRef) (template : String) : List Step :=
  visits type.arguments ++ [containerEntry type template type.isOpen] ++
    if type.unboundSignature = Catalog.lookupSignature then lookupCompanions type else []

/-- An optional value has an entry of its own unless it wraps a leaf or a declared class or interface. -/
def nullableSteps (context : Context) (type inner : TypeRef) : List Step :=
  visits [inner] ++
    if Catalog.isLeaf inner.identity.text || (context.snapshot.declaration? inner).any (·.kind.isReference) then []
    else [generic type (Catalog.instantiate Catalog.nullableTemplate inner.identity.text) type.isOpen]

def enumEntry (context : Context) (type : TypeRef) (declaration : Declaration) : Step :=
  .record (.enumeration {
    identity := type.identity
    underlyingType := (context.snapshot.underlyingType? type).getD "int"
    codecName := CodecName.ofDeclaration declaration
    namespaceName := declaration.namespaceName })

def objectSteps (context : Context) (limit : Nat) (type : TypeRef) (declaration : Declaration) :
    Option (Except CollectError Resolution) :=
  (context.resolveObject limit type declaration).map fun resolved =>
    resolved.map fun (schema, edges) => ⟨.record (.object schema) :: edges.map .visit, true⟩

def unionSteps (context : Context) (type : TypeRef) (declaration : Declaration) : Except CollectError Resolution :=
  (context.resolveUnion type declaration).map fun (schema, edges) => ⟨.record (.union schema) :: edges.map .visit, false⟩

/-- A definition is resolved as a union or an object, and then has the codec that takes type arguments. -/
def definitionSteps (context : Context) (limit : Nat) (type : TypeRef) (declaration : Declaration) :
    Option (Except CollectError Resolution) :=
  let resolved :=
    if declaration.isPolymorphicBase then some (context.unionSteps type declaration)
    else context.objectSteps limit type declaration
  let entry := generic type (CodecName.ofInstantiation declaration type.arguments) true
  resolved.map fun resolved => resolved.map fun resolution => { resolution with steps := resolution.steps ++ [entry] }

/-- An instantiation uses the codec of its definition, so it has no object of its own; but the types of its members, its definition and its arguments are visited. -/
def instantiationSteps (context : Context) (limit : Nat) (type : TypeRef) (declaration : Declaration) :
    Option (Except CollectError Resolution) :=
  let entry := generic type (CodecName.ofInstantiation declaration type.arguments) type.isOpen
  let last := visits (declaration.definition :: type.arguments) ++ [entry]
  if declaration.isPolymorphicBase then some (.ok ⟨last, false⟩)
  else
    (context.layout limit type declaration).map fun layout =>
      layout.map fun layout => ⟨layout.edges.map .visit ++ last, true⟩

def stepsOfShape (context : Context) (limit : Nat) (type : TypeRef) : Shape → Option (Except CollectError Resolution)
  | .served => some (.ok ⟨[], false⟩)
  | .array element template =>
    some (.ok ⟨[generic type (Catalog.instantiate template element.identity.text) element.isParameter], false⟩)
  | .nullable inner => some (.ok ⟨context.nullableSteps type inner, false⟩)
  | .container template => some (.ok ⟨containerSteps type template, false⟩)
  | .enumeration declaration => some (.ok ⟨[context.enumEntry type declaration], false⟩)
  | .definition declaration => context.definitionSteps limit type declaration
  | .instantiation declaration => context.instantiationSteps limit type declaration
  | .union declaration => some (context.unionSteps type declaration)
  | .object declaration => context.objectSteps limit type declaration

/-- The steps that serve a type in tuple-normal form; none if there are more than `limit` declarations to inherit from. -/
def resolve (context : Context) (limit : Nat) (type : TypeRef) : Option (Except CollectError Resolution) :=
  match context.classify type with
  | .error error => some (.error error)
  | .ok shape => context.stepsOfShape limit type shape

def objectSchema (context : Context) (limit : Nat) (type : TypeRef) : Option (Except CollectError ObjectSchema) :=
  let type := type.normalize
  match context.snapshot.declaration? type with
  | none => some (.error (.shape type .unresolved))
  | some declaration => (context.resolveObject limit type declaration).map fun resolved => resolved.map (·.1)

end Context

/-- A collection under way: the types discovered and the names of those laid out, latest first, the model so far, and the steps still to do. -/
structure Collection where
  visited : List TypeIdentity := []
  laidOut : List String := []
  model : Model := .empty
  pending : List Step := []
  deriving DecidableEq

/-- Tells when a collection should be given up. It is asked at the discovery of every type. -/
abbrev Signal := Collection → Bool

def Signal.never : Signal := fun _ => false

namespace Collection

def start (roots : List TypeRef) : Collection := { pending := Context.visits roots }

/-- Visits a type, given in tuple-normal form, with the steps `rest` after it. -/
def visit (context : Context) (limit : Nat) (raised : Bool) (collection : Collection) (member : Option String) (type : TypeRef)
    (rest : List Step) : Option (Except CollectError Collection) :=
  if collection.visited.contains type.identity then some (.ok { collection with pending := rest })
  else if raised then some (.error .cancelled)
  else
    match context.resolve limit type with
    | none => none
    | some (.error error) => some (.error (error.reachedThrough member))
    | some (.ok resolution) => some (.ok { collection with
        visited := type.identity :: collection.visited
        laidOut := (if resolution.laysOut then type.name?.toList else []) ++ collection.laidOut
        pending := resolution.steps.map (·.reachedThrough member) ++ rest })

def advance (context : Context) (limit : Nat) (raised : Bool) (collection : Collection) :
    Option (Except CollectError Collection) :=
  match collection.pending with
  | [] => some (.ok collection)
  | .record entry :: rest => some (.ok { collection with model := collection.model.record entry, pending := rest })
  | .visit edge :: rest => collection.visit context limit raised edge.member edge.target.normalize rest

/-- Carries out steps until nothing is pending. A collection may go on for ever, so it is left unfinished after `fuel` steps. -/
def run (context : Context) (signal : Signal) : (fuel : Nat) → Collection → Option (Except CollectError Model)
  | 0, _ => none
  | fuel + 1, collection =>
    if collection.pending.isEmpty then some (.ok collection.model)
    else
      match collection.advance context fuel (signal collection) with
      | none => none
      | some (.error error) => some (.error error)
      | some (.ok next) => next.run context signal fuel

end Collection

namespace Context

/-- The model of everything that the roots lead to. All roots are checked before any is visited. -/
def collect (context : Context) (signal : Signal) (fuel : Nat) (roots : List TypeRef) : Option (Except CollectError Model) :=
  let roots := roots.map TypeRef.normalize
  match roots.forM context.checkRoot with
  | .error error => some (.error error)
  | .ok () => (Collection.start roots).run context signal fuel

/-- Collects root sets one after another and adds their models to `merged`. -/
def collectSetsFrom (context : Context) (fuel : Nat) (merged : Model) : List (List TypeRef) → Option (Except CollectError Model)
  | [] => some (.ok merged)
  | roots :: rest =>
    match context.collect .never fuel roots with
    | none => none
    | some (.error error) => some (.error error)
    | some (.ok model) => context.collectSetsFrom fuel (merged.merge model) rest

/-- The merged models of root sets that are each collected on their own. The first set that fails decides the error. -/
def collectSets (context : Context) (fuel : Nat) (sets : List (List TypeRef)) : Option (Except CollectError Model) :=
  context.collectSetsFrom fuel .empty sets

end Context

end SchemaClosure
