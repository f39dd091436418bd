/-!
Type expressions as the host metadata writes them, and the operations that need no metadata: the tuple-normal form, substitution for type parameters, and the parameters that occur. `substitute_eq_of_agree` and `normalize_eq_self` are the facts that later modules lean on.
-/

namespace SchemaClosure

theorem mem_of_lookup_eq_some {α β : Type} [BEq α] [LawfulBEq α] {entries : List (α × β)} {key : α} {value : β}
    (h : entries.lookup key = some value) : (key, value) ∈ entries := by
  obtain ⟨before, after, hsplit, -⟩ := List.lookup_eq_some_iff.mp h
  rw [hsplit]
  exact List.mem_append_right _ List.mem_cons_self

/-- A type expression. A named type has its qualified name and its arguments, an array its element and its number of dimensions, which is not bounded here: a rank beyond 32 bits takes a text of as many commas. -/
inductive TypeRef where
  | named (name : String) (arguments : List TypeRef)
  | parameter (name : String)
  | array (element : TypeRef) (rank : Nat)
  | tuple (elements : List TypeRef)
  deriving Repr, Inhabited

namespace TypeRef

mutual

def beq : TypeRef → TypeRef → Bool
  | .named name arguments, .named name' arguments' => name == name' && beqList arguments arguments'
  | .parameter name, .parameter name' => name == name'
  | .array element rank, .array element' rank' => rank == rank' && beq element element'
  | .tuple elements, .tuple elements' => beqList elements elements'
  | _, _ => false

def beqList : List TypeRef → List TypeRef → Bool
  | [], [] => true
  | type :: rest, type' :: rest' => beq type type' && beqList rest rest'
  | _, _ => false

end

mutual

theorem beq_iff_eq : (first second : TypeRef) → beq first second = true ↔ first = second
  | .named _ arguments, .named _ arguments' => by simp [beq, beqList_iff_eq arguments arguments']
  | .parameter _, .parameter _ => by simp [beq]
  | .array element _, .array element' _ => by simp [beq, beq_iff_eq element element', and_comm]
  | .tuple elements, .tuple elements' => by simp [beq, beqList_iff_eq elements elements']
  | .named .., .parameter _ | .named .., .array .. | .named .., .tuple _ => by simp [beq]
  | .parameter _, .named .. | .parameter _, .array .. | .parameter _, .tuple _ => by simp [beq]
  | .array .., .named .. | .array .., .parameter _ | .array .., .tuple _ => by simp [beq]
  | .tuple _, .named .. | .tuple _, .parameter _ | .tuple _, .array .. => by simp [beq]

theorem beqList_iff_eq : (first second : List TypeRef) → beqList first second = true ↔ first = second
  | [], [] => by simp [beqList]
  | type :: rest, type' :: rest' => by simp [beqList, beq_iff_eq type type', beqList_iff_eq rest rest']
  | [], _ :: _ | _ :: _, [] => by simp [beqList]

end

instance : DecidableEq TypeRef := fun first second => decidable_of_iff (beq first second = true) (beq_iff_eq first second)

/-- The wrapper of optional values; with one argument it is written with a question mark. -/
def nullableName : String := "System.Nullable"

/-- The named type that stands for tuples. -/
def valueTupleName : String := "System.ValueTuple"

def nullable (inner : TypeRef) : TypeRef := .named nullableName [inner]

def name? : TypeRef → Option String
  | .named name _ => some name
  | _ => none

def arguments : TypeRef → List TypeRef
  | .named _ arguments => arguments
  | _ => []

def isGeneric (type : TypeRef) : Bool := !type.arguments.isEmpty

def isParameter : TypeRef → Bool
  | .parameter _ => true
  | _ => false

def arrayParts? : TypeRef → Option (TypeRef × Nat)
  | .array element rank => some (element, rank)
  | _ => none

theorem eq_array_of_arrayParts? {type element : TypeRef} {rank : Nat} (h : type.arrayParts? = some (element, rank)) :
    type = .array element rank := by
  cases type with
  | array own ownRank =>
    obtain ⟨rfl, rfl⟩ := Prod.mk.inj (Option.some.inj h)
    rfl
  | named name arguments => simp [arrayParts?] at h
  | parameter name => simp [arrayParts?] at h
  | tuple elements => simp [arrayParts?] at h

def nullableInner? : TypeRef → Option TypeRef
  | .named name [inner] => if name = nullableName then some inner else none
  | _ => none

def isNullable (type : TypeRef) : Bool := type.nullableInner?.isSome

mutual

def isOpen : TypeRef → Bool
  | .named _ arguments => anyOpen arguments
  | .parameter _ => true
  | .array element _ => element.isOpen
  | .tuple elements => anyOpen elements

def anyOpen : List TypeRef → Bool
  | [] => false
  | type :: rest => type.isOpen || anyOpen rest

end

theorem anyOpen_eq_any (types : List TypeRef) : anyOpen types = types.any isOpen := by
  induction types with
  | nil => rfl
  | cons type rest ih => simp [anyOpen, ih]

/-- Types for type parameters. A parameter with several types has the first. -/
abbrev Bindings := List (String × TypeRef)

mutual

/-- Puts types for the bound parameters, all at once; other parameters stay. -/
def substitute (bindings : Bindings) : TypeRef → TypeRef
  | .named name arguments => .named name (substituteAll bindings arguments)
  | .parameter name => (bindings.lookup name).getD (.parameter name)
  | .array element rank => .array (element.substitute bindings) rank
  | .tuple elements => .tuple (substituteAll bindings elements)

def substituteAll (bindings : Bindings) : List TypeRef → List TypeRef
  | [] => []
  | type :: rest => type.substitute bindings :: substituteAll bindings rest

end

theorem substituteAll_eq_map (bindings : Bindings) (types : List TypeRef) :
    substituteAll bindings types = types.map (substitute bindings) := by
  induction types with
  | nil => rfl
  | cons type rest ih => simp [substituteAll, ih]

mutual

/-- A substitution shows only in the parameters that it binds. -/
theorem substitute_eq_of_agree {bindings bindings' : Bindings} (h : ∀ name, bindings.lookup name = bindings'.lookup name) :
    (type : TypeRef) → type.substitute bindings = type.substitute bindings'
  | .named _ arguments => by simp [substitute, substituteAll_eq_of_agree h arguments]
  | .parameter name => by simp [substitute, h name]
  | .array element _ => by simp [substitute, substitute_eq_of_agree h element]
  | .tuple elements => by simp [substitute, substituteAll_eq_of_agree h elements]

theorem substituteAll_eq_of_agree {bindings bindings' : Bindings} (h : ∀ name, bindings.lookup name = bindings'.lookup name) :
    (types : List TypeRef) → substituteAll bindings types = substituteAll bindings' types
  | [] => rfl
  | type :: rest => by simp [substituteAll, substitute_eq_of_agree h type, substituteAll_eq_of_agree h rest]

end

/-- How many elements a tuple type holds before the rest goes into a tuple of its own. -/
def tupleLimit : Nat := 7

/-- Packs elements into a tuple type of at most `levels` further levels. -/
def packTuple : Nat → List TypeRef → TypeRef
  | 0, elements => .named valueTupleName elements
  | levels + 1, elements =>
    if elements.length ≤ tupleLimit then .named valueTupleName elements
    else .named valueTupleName (elements.take tupleLimit ++ [packTuple levels (elements.drop tupleLimit)])

/-- The named type of a tuple. Seven elements stand on a level, and the elements after them are packed into an eighth argument. -/
def tupleOf (elements : List TypeRef) : TypeRef := packTuple elements.length elements

theorem packTuple_eq_of_le {levels levels' : Nat} {elements : List TypeRef} (h : elements.length ≤ levels)
    (h' : elements.length ≤ levels') : packTuple levels elements = packTuple levels' elements := by
  induction levels generalizing levels' elements with
  | zero =>
    cases levels' with
    | zero => rfl
    | succ levels' => simp [packTuple, Nat.le_zero.mp h]
  | succ levels ih =>
    cases levels' with
    | zero => simp [packTuple, Nat.le_zero.mp h']
    | succ levels' =>
      unfold packTuple
      split
      · rfl
      · rename_i hlong
        have hdrop : (elements.drop tupleLimit).length = elements.length - tupleLimit := List.length_drop
        have hlimit : tupleLimit = 7 := rfl
        have hrest : packTuple levels (elements.drop tupleLimit) = packTuple levels' (elements.drop tupleLimit) :=
          ih (by omega) (by omega)
        rw [hrest]

theorem tupleOf_of_length_le {elements : List TypeRef} (h : elements.length ≤ tupleLimit) :
    tupleOf elements = .named valueTupleName elements := by
  unfold tupleOf
  cases elements with
  | nil => rfl
  | cons element rest => simp only [List.length_cons] at h ⊢; simp [packTuple, h]

theorem tupleOf_of_lt_length {elements : List TypeRef} (h : tupleLimit < elements.length) :
    tupleOf elements = .named valueTupleName (elements.take tupleLimit ++ [tupleOf (elements.drop tupleLimit)]) := by
  have hlimit : tupleLimit = 7 := rfl
  have hdrop : (elements.drop tupleLimit).length = elements.length - tupleLimit := List.length_drop
  obtain ⟨levels, hlevels⟩ : ∃ levels, elements.length = levels + 1 := ⟨elements.length - 1, by omega⟩
  have hpack : packTuple levels (elements.drop tupleLimit) = tupleOf (elements.drop tupleLimit) :=
    packTuple_eq_of_le (by omega) (Nat.le_refl _)
  rw [← hpack]
  unfold tupleOf
  rw [hlevels, packTuple, if_neg (by omega)]

mutual

/-- Writes every tuple as a named type. -/
def normalize : TypeRef → TypeRef
  | .named name arguments => .named name (normalizeAll arguments)
  | .parameter name => .parameter name
  | .array element rank => .array element.normalize rank
  | .tuple elements => tupleOf (normalizeAll elements)

def normalizeAll : List TypeRef → List TypeRef
  | [] => []
  | type :: rest => type.normalize :: normalizeAll rest

end

theorem normalizeAll_eq_map (types : List TypeRef) : normalizeAll types = types.map normalize := by
  induction types with
  | nil => rfl
  | cons type rest ih => simp [normalizeAll, ih]

mutual

/-- Whether a type holds no tuple, at any depth. -/
def isTupleFree : TypeRef → Bool
  | .named _ arguments => allTupleFree arguments
  | .parameter _ => true
  | .array element _ => element.isTupleFree
  | .tuple _ => false

def allTupleFree : List TypeRef → Bool
  | [] => true
  | type :: rest => type.isTupleFree && allTupleFree rest

end

theorem allTupleFree_eq_all (types : List TypeRef) : allTupleFree types = types.all isTupleFree := by
  induction types with
  | nil => rfl
  | cons type rest ih => simp [allTupleFree, ih]

mutual

theorem normalize_eq_self : {type : TypeRef} → type.isTupleFree = true → type.normalize = type
  | .named _ arguments, h => by
    rw [isTupleFree] at h
    simp [normalize, normalizeAll_eq_self h]
  | .parameter _, _ => rfl
  | .array element _, h => by
    rw [isTupleFree] at h
    simp [normalize, normalize_eq_self h]
  | .tuple _, h => by simp [isTupleFree] at h

theorem normalizeAll_eq_self : {types : List TypeRef} → allTupleFree types = true → normalizeAll types = types
  | [], _ => rfl
  | type :: rest, h => by
    simp only [allTupleFree, Bool.and_eq_true] at h
    simp [normalizeAll, normalize_eq_self h.1, normalizeAll_eq_self h.2]

end

end TypeRef

end SchemaClosure
