import SchemaClosure.TypeRef.Basic

namespace SchemaClosure

namespace TypeRef

mutual

/-- The written form, character by character. An optional value is written with a question mark; the commas between the brackets of an array are one fewer than its dimensions. -/
def chars : TypeRef → List Char
  | .named name arguments =>
    if name == nullableName && arguments.length == 1 then listChars arguments ++ ['?']
    else if arguments.isEmpty then name.toList
    else name.toList ++ '<' :: listChars arguments ++ ['>']
  | .parameter name => name.toList
  | .array element rank => element.chars ++ '[' :: List.replicate (rank - 1) ',' ++ [']']
  | .tuple elements => '(' :: listChars elements ++ [')']

/-- Types separated by a comma and a space. -/
def listChars : List TypeRef → List Char
  | [] => []
  | type :: rest => type.chars ++ tailChars rest

def tailChars : List TypeRef → List Char
  | [] => []
  | type :: rest => ',' :: ' ' :: type.chars ++ tailChars rest

end

theorem chars_named_nil (name : String) : (named name []).chars = name.toList := by
  simp [chars]

def render (type : TypeRef) : String := String.ofList type.chars

instance : ToString TypeRef := ⟨render⟩

theorem toList_render (type : TypeRef) : type.render.toList = type.chars := String.toList_ofList

/-- The name under which generic types of one arity are catalogued: the arguments are left out and their commas kept, as in `System.Tuple<,>`. -/
def unboundSignature (type : TypeRef) : String :=
  match type.normalize with
  | .named name (_ :: rest) => name ++ "<" ++ String.ofList (List.replicate rest.length ',') ++ ">"
  | other => other.render

end TypeRef

/-- The canonical key of a type. Types with the same key are one type to a closure. -/
structure TypeIdentity where
  text : String
  deriving DecidableEq, Repr, Inhabited

instance : ToString TypeIdentity := ⟨TypeIdentity.text⟩

def TypeRef.identity (type : TypeRef) : TypeIdentity := ⟨type.normalize.render⟩

end SchemaClosure
