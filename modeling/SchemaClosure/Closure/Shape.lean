import SchemaClosure.Closure.Resolver

namespace SchemaClosure

/-- How a collection serves a type. It is decided from the type alone, before anything that the type leads to is looked at. -/
inductive Shape where
  /-- A codec from elsewhere serves the type. -/
  | served
  | array (element : TypeRef) (template : String)
  | nullable (inner : TypeRef)
  | container (template : String)
  | enumeration (declaration : Declaration)
  /-- A generic type applied to its own parameters. -/
  | definition (declaration : Declaration)
  /-- A generic type applied to anything else. -/
  | instantiation (declaration : Declaration)
  | union (declaration : Declaration)
  | object (declaration : Declaration)
  deriving DecidableEq, Repr

namespace Context

def classifyDeclared (context : Context) (type : TypeRef) (declaration : Declaration) : Except CollectError Shape :=
  let accessibility := context.snapshot.accessibility type
  if declaration.attributes.formatter?.isSome then .ok .served
  else if !accessibility.isVisible then .error (.shape type (.inaccessible accessibility))
  else if declaration.kind = .enumType then .ok (.enumeration declaration)
  else if declaration.isPolymorphicBase && !declaration.isExternal && !declaration.attributes.hasUnions then
    .error (.shape type .unmarkedPolymorphic)
  else if declaration.isGeneric then
    .ok (if context.snapshot.isDefinition type then .definition declaration else .instantiation declaration)
  else if declaration.isExternal then .ok .served
  else if declaration.isPolymorphicBase then .ok (.union declaration)
  else .ok (.object declaration)

/-- The shape of a named type. A known container is one whether or not it is declared, but it cannot be a union as well. -/
def classifyNamed (context : Context) (type : TypeRef) : Except CollectError Shape :=
  let declaration? := context.snapshot.declaration? type
  let template? := if type.isGeneric then Catalog.containerTemplate? type.unboundSignature else none
  match template?, declaration? with
  | some template, declaration? =>
    if declaration?.any (·.attributes.hasUnions) then .error (.shape type .containerUnionCollision) else .ok (.container template)
  | none, none => .error (.shape type .unresolved)
  | none, some declaration => context.classifyDeclared type declaration

/-- The shape of a type in tuple-normal form. -/
def classify (context : Context) (type : TypeRef) : Except CollectError Shape :=
  let signature := type.identity.text
  if context.options.isTerminal signature then .ok .served
  else
    match type.arrayParts? with
    | some (element, rank) =>
      match Catalog.arrayTemplate? rank with
      | some template => .ok (.array element template)
      | none => .error (.shape type (.arrayRank rank))
    | none =>
      if (context.options.customCodec? signature).isSome || type.isParameter then .ok .served
      else
        match type.nullableInner? with
        | some inner => .ok (.nullable inner)
        | none => context.classifyNamed type

/-- What a type has to be for a collection to begin with it: a visible union base, serializable object or enum. -/
def checkRoot (context : Context) (root : TypeRef) : Except CollectError Unit :=
  match context.snapshot.declaration? root with
  | none => .error (.shape root .unresolved)
  | some declaration =>
    let accessibility := context.snapshot.accessibility root
    if !accessibility.isVisible then .error (.shape root (.inaccessible accessibility))
    else if declaration.isPolymorphicBase then
      if declaration.attributes.hasUnions then .ok () else .error (.missingUnion root.identity)
    else if declaration.kind = .enumType || declaration.attributes.object?.isSome then .ok ()
    else .error (.shape root .ineligibleRoot)

end Context

end SchemaClosure
