import SchemaClosure.TypeRef.Basic

namespace SchemaClosure

/-- What a key attribute was applied to: an integer, a text, or nothing. -/
inductive KeyValue where
  | integer (value : Int32)
  | text (value : String)
  | null
  deriving DecidableEq, Repr

inductive Attribute where
  /-- Marks a class or struct as serializable, possibly with every member keyed by its name. -/
  | serializableObject (keyAsPropertyName : Bool)
  /-- One subtype of a union base and the number that stands for it. -/
  | union (discriminator : Int32) (subtype : TypeRef)
  /-- Designates the constructor that decoding uses. -/
  | serializationConstructor
  | key (value : KeyValue)
  | ignoreMember
  | ignoreDataMember
  /-- Names a codec written by hand. -/
  | customFormatter (formatter : String)
  deriving DecidableEq, Repr

abbrev Attributes := List Attribute

namespace Attributes

/-- Whether members are keyed by name, as the first object attribute has it; none without such an attribute. -/
def object? (attributes : Attributes) : Option Bool :=
  attributes.findSome? fun
    | .serializableObject keyAsPropertyName => some keyAsPropertyName
    | _ => none

def key? (attributes : Attributes) : Option KeyValue :=
  attributes.findSome? fun
    | .key value => some value
    | _ => none

def formatter? (attributes : Attributes) : Option String :=
  attributes.findSome? fun
    | .customFormatter formatter => some formatter
    | _ => none

def unions (attributes : Attributes) : List (Int32 × TypeRef) :=
  attributes.filterMap fun
    | .union discriminator subtype => some (discriminator, subtype)
    | _ => none

def hasUnions (attributes : Attributes) : Bool := !attributes.unions.isEmpty

/-- Either of the two ignore attributes keeps a member out. -/
def isIgnored (attributes : Attributes) : Bool :=
  attributes.any fun mark => mark == .ignoreMember || mark == .ignoreDataMember

def isDesignated (attributes : Attributes) : Bool := attributes.contains .serializationConstructor

end Attributes

end SchemaClosure
