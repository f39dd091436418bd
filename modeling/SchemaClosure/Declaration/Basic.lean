import SchemaClosure.Declaration.Attribute
import SchemaClosure.Text.Dotted
import SchemaClosure.TypeRef.Printer

namespace SchemaClosure

inductive Accessibility where
  | publicAccess
  | internalAccess
  | protectedAccess
  | protectedInternal
  | privateProtected
  | privateAccess
  deriving DecidableEq, Repr, Inhabited

namespace Accessibility

def name : Accessibility → String
  | .publicAccess => "Public"
  | .internalAccess => "Internal"
  | .protectedAccess => "Protected"
  | .protectedInternal => "ProtectedInternal"
  | .privateProtected => "PrivateProtected"
  | .privateAccess => "Private"

/-- Generated codecs are part of the same compilation, so they see what is public or internal. -/
def isVisible : Accessibility → Bool
  | .publicAccess | .internalAccess => true
  | _ => false

end Accessibility

inductive TypeKind where
  | classType
  | structType
  | interfaceType
  | enumType
  deriving DecidableEq, Repr, Inhabited

def TypeKind.isReference : TypeKind → Bool
  | .classType | .interfaceType => true
  | _ => false

/-- A type parameter of a generic type, with its constraints. -/
structure GenericParameter where
  name : String := ""
  notNull : Bool := false
  referenceType : Bool := false
  nullableReferenceType : Bool := false
  valueType : Bool := false
  unmanaged : Bool := false
  constraintTypes : List TypeRef := []
  defaultConstructor : Bool := false
  deriving DecidableEq, Repr

/-- The constraints in the order the host language wants: the kinds, the constraint types, and the parameterless constructor last. -/
def GenericParameter.constraints (parameter : GenericParameter) : List String :=
  (if parameter.notNull then ["notnull"] else []) ++
  (if parameter.referenceType then [if parameter.nullableReferenceType then "class?" else "class"] else []) ++
  (if parameter.unmanaged then ["unmanaged"] else if parameter.valueType then ["struct"] else []) ++
  parameter.constraintTypes.map TypeRef.render ++
  (if parameter.defaultConstructor then ["new()"] else [])

structure Field where
  name : String
  type : TypeRef
  accessibility : Accessibility := .publicAccess
  isReadonly : Bool := false
  isStatic : Bool := false
  isCompilerGenerated : Bool := false
  attributes : Attributes := []
  deriving DecidableEq, Repr

namespace Field

def isReadable (field : Field) : Bool := !field.isStatic && field.accessibility.isVisible

def isWritable (field : Field) : Bool := field.isReadable && !field.isReadonly

end Field

/-- A property. An absent accessor has no accessibility. -/
structure Property where
  name : String
  type : TypeRef
  getter : Option Accessibility := some .publicAccess
  setter : Option Accessibility := some .publicAccess
  isStatic : Bool := false
  isIndexer : Bool := false
  isOverride : Bool := false
  attributes : Attributes := []
  deriving DecidableEq, Repr

namespace Property

def isReadable (property : Property) : Bool := !property.isStatic && property.getter.any Accessibility.isVisible

def isWritable (property : Property) : Bool := !property.isStatic && property.setter.any Accessibility.isVisible

end Property

structure Parameter where
  name : String
  type : TypeRef
  deriving DecidableEq, Repr

structure Constructor where
  accessibility : Accessibility := .publicAccess
  parameters : List Parameter := []
  attributes : Attributes := []
  deriving DecidableEq, Repr

def Constructor.isDesignated (constructor : Constructor) : Bool := constructor.attributes.isDesignated

/-- A named type. The name is fully qualified and has no arity; the name of a nested type begins with the name of the type around it. -/
structure Declaration where
  name : String := ""
  kind : TypeKind := .classType
  isAbstract : Bool := false
  accessibility : Accessibility := .publicAccess
  namespaceName : Option String := none
  containingType : Option String := none
  isExternal : Bool := false
  parameters : List GenericParameter := []
  attributes : Attributes := []
  base : Option TypeRef := none
  interfaces : List TypeRef := []
  fields : List Field := []
  properties : List Property := []
  constructors : List Constructor := []
  methods : List String := []
  underlyingType : Option String := none
  deriving DecidableEq, Repr

namespace Declaration

def simpleName (declaration : Declaration) : String := Text.lastSegment declaration.name

/-- The name without the namespace, `Outer.Inner` for a nested type; the full name where it is not below the namespace. -/
def relativeName (declaration : Declaration) : String :=
  (declaration.namespaceName.bind fun outer => Text.below? outer declaration.name).getD declaration.name

def isGeneric (declaration : Declaration) : Bool := !declaration.parameters.isEmpty

/-- The type applied to its own parameters. -/
def definition (declaration : Declaration) : TypeRef :=
  .named declaration.name (declaration.parameters.map fun parameter => .parameter parameter.name)

/-- Interfaces and abstract classes are met as their subtypes only. -/
def isPolymorphicBase (declaration : Declaration) : Bool :=
  declaration.kind == .interfaceType || (declaration.kind == .classType && declaration.isAbstract)

/-- The declared parameters with the arguments of an instantiation; nothing is bound where their numbers differ. Of parameters with one name the last counts. -/
def bindings (declaration : Declaration) (type : TypeRef) : TypeRef.Bindings :=
  if type.arguments.length = declaration.parameters.length then
    ((declaration.parameters.map (·.name)).zip type.arguments).reverse
  else []

end Declaration

end SchemaClosure
