import SchemaClosure.Diagnostic.Code

namespace SchemaClosure.DiagnosticCode

def page (lines : List String) : String := String.join (lines.map (· ++ "\n"))

/-- The explanation of a code: what the finding is, often with a declaration that shows it, and how to mend it. -/
def explanation : DiagnosticCode → String
  | .unsupportedShape => page [
    "# M1001: Unsupported Shape",
    "",
    "The type cannot be described by any generated codec.",
    "",
    "The most common cause is an array with more than four dimensions:",
    "",
    "```csharp",
    "[MessagePackObject]",
    "public class Grid",
    "\x7b",
    "    [Key(0)] public int[,,,,] Cells \x7b get; set; \x7d",
    "\x7d",
    "```",
    "",
    "## Solution",
    "",
    "Flatten the array to four dimensions or fewer, or register a custom",
    "formatter for the member."]
  | .unresolvedType => page [
    "# M1002: Unresolved Type",
    "",
    "A type reached through a member, argument, or union subtype is not present in",
    "the metadata snapshot and is not a built-in leaf or a known container.",
    "",
    "## Solution",
    "",
    "Add the declaration to the snapshot, list the type in `ignored_type_names`,",
    "or map it to a hand-written codec in `custom_formatter_catalog`."]
  | .inaccessibleType => page [
    "# M1003: Inaccessible Type",
    "",
    "Generated codecs can only reference public and internal types. The type, or",
    "one of the types it is nested in, is private or protected.",
    "",
    "```csharp",
    "public class Outer",
    "\x7b",
    "    private class Hidden \x7b \x7d",
    "\x7d",
    "```",
    "",
    "## Solution",
    "",
    "Make the type and every containing type `public` or `internal`."]
  | .containerUnionCollision => page [
    "# M1004: Container Union Collision",
    "",
    "A known container type (a list, dictionary, tuple, and so on) also carries",
    "union declarations. The built-in container codec and a union codec cannot both",
    "apply.",
    "",
    "## Solution",
    "",
    "Remove the union declarations, or wrap the container in a dedicated type."]
  | .ineligibleRoot => page [
    "# M1005: Ineligible Root",
    "",
    "A root passed to the collector is not one of:",
    "",
    "- a class or struct with the serializable-object attribute",
    "- an interface or abstract class with union declarations",
    "- an enum",
    "",
    "## Solution",
    "",
    "Annotate the root type, or pick the serializable type that contains it."]
  | .unmarkedPolymorphic => page [
    "# M1006: Unmarked Polymorphic Type",
    "",
    "A member's type is an interface or abstract class that declares no union",
    "subtypes. Only the declared type is known when decoding, so the concrete",
    "type behind the member cannot be chosen.",
    "",
    "```csharp",
    "public interface IAnimal \x7b \x7d",
    "",
    "[MessagePackObject]",
    "public class Zoo",
    "\x7b",
    "    [Key(0)] public IAnimal Star \x7b get; set; \x7d",
    "\x7d",
    "```",
    "",
    "## Solution",
    "",
    "Declare a union subtype for every concrete implementation of the member",
    "type, change the member to a concrete type, or register a custom codec for",
    "it in `customFormatterCatalog`."]
  | .mixedKeys => page [
    "# M2001: Mixed Key Mode",
    "",
    "All keyed members of a type must use the same kind of key. The first keyed",
    "member fixes the mode; this member uses the other kind.",
    "",
    "```csharp",
    "[MessagePackObject]",
    "public class Mixed",
    "\x7b",
    "    [Key(0)] public int Id \x7b get; set; \x7d",
    "    [Key(\"name\")] public string Name \x7b get; set; \x7d",
    "\x7d",
    "```",
    "",
    "## Solution",
    "",
    "Use integer keys everywhere, or string keys everywhere."]
  | .duplicateKey => page [
    "# M2002: Duplicate Member Key",
    "",
    "Two members of one type declare the same key. The first member keeps the key;",
    "the second is left out of the schema.",
    "",
    "```csharp",
    "[MessagePackObject]",
    "public class Widget",
    "\x7b",
    "    [Key(0)] public int Id \x7b get; set; \x7d",
    "    [Key(0)] public string Name \x7b get; set; \x7d",
    "\x7d",
    "```",
    "",
    "## Solution",
    "",
    "Give every member a unique key."]
  | .missingKey => page [
    "# M2003: Missing Key",
    "",
    "The type carries the serializable-object attribute and uses explicit keys, but",
    "a public member has no key attribute. The member is not serialized.",
    "",
    "## Solution",
    "",
    "Add a key attribute, or mark the member as ignored."]
  | .nullKey => page [
    "# M2004: Null Key",
    "",
    "A key attribute was applied with a null argument, so it names neither an",
    "integer nor a string key.",
    "",
    "## Solution",
    "",
    "Pass an integer or a string to the key attribute."]
  | .missingObjectAttribute => page [
    "# M2005: Missing Object Attribute",
    "",
    "A class or struct was reached while collecting the schema but does not carry",
    "the serializable-object attribute.",
    "",
    "## Solution",
    "",
    "Annotate the type, or exclude the member that references it."]
  | .noMatchingConstructor => page [
    "# M3001: No Viable Constructor",
    "",
    "No accessible constructor can be bound to the serialized members. Each",
    "parameter must match a readable member of identical type: by key index for",
    "integer-keyed types, or by case-insensitive name for string-keyed types.",
    "",
    "Reference types always need a bindable constructor. Value types may fall back",
    "to default construction.",
    "",
    "## Solution",
    "",
    "Add a parameterless constructor, or a constructor whose parameters line up",
    "with the keyed members."]
  | .ambiguousConstructor => page [
    "# M3002: Ambiguous Serialization Constructor",
    "",
    "More than one constructor is designated as the serialization constructor.",
    "",
    "## Solution",
    "",
    "Keep the designation on exactly one constructor."]
  | .constructorMismatch => page [
    "# M3003: Serialization Constructor Mismatch",
    "",
    "A designated serialization constructor has a parameter that matches no",
    "readable member of the same type. Designated constructors are never skipped in",
    "favor of other constructors.",
    "",
    "## Solution",
    "",
    "Rename or retype the parameter, or remove the designation."]
  | .missingUnion => page [
    "# M4001: Missing Union Declaration",
    "",
    "A root type is an interface or abstract class, but it declares no union",
    "subtypes, so there is no mapping from discriminators to concrete types.",
    "",
    "## Solution",
    "",
    "Add a union declaration for every concrete subtype, or pass a concrete",
    "serializable type as the root.",
    "",
    "Interfaces and abstract classes reached through a member instead of as a",
    "root are reported as M1006."]
  | .duplicateDiscriminator => page [
    "# M4002: Duplicate Discriminator",
    "",
    "Two union declarations on the same base use the same discriminator. The first",
    "declaration is kept.",
    "",
    "## Solution",
    "",
    "Give every subtype a unique discriminator."]
  | .foreignSubtype => page [
    "# M4003: Union Subtype Not Derived",
    "",
    "A union declaration names a subtype that neither derives from nor implements",
    "the union base.",
    "",
    "## Solution",
    "",
    "Derive the subtype from the base, or remove the declaration."]
  | .cancelled => page [
    "# M9001: Cancelled",
    "",
    "Collection was cancelled before the closure finished. No schema was produced."]
  | .invalidInput => page [
    "# M9002: Invalid Input",
    "",
    "The metadata snapshot, options file, or a root type expression could not be",
    "read or parsed.",
    "",
    "## Solution",
    "",
    "Check the file path and the JSON structure reported in the message."]
  | .ignoredKey => page [
    "# W1001: Key Ignored In Map Mode",
    "",
    "The type uses member names as keys, so key attributes on its members have no",
    "effect.",
    "",
    "## Solution",
    "",
    "Remove the key attributes, or switch the type back to explicit keys."]

end SchemaClosure.DiagnosticCode
