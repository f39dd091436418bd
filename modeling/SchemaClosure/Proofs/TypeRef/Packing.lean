import SchemaClosure.Closure.Shape
import SchemaClosure.Proofs.TypeRef.Subterm

/-!
Packed tuples. A tuple becomes a chain of named types, seven elements on a level; the chain holds the elements in their order, and every level of it is a known container, whatever the number of elements. Rewriting goes over the elements behind the seventh again and again, which ends, and changes nothing in them. No collection begins with a tuple, since roots have to be declared; but wherever another type leads to one, it is found in the catalog.
-/

namespace SchemaClosure

namespace TypeRef

mutual

/-- How tuples are rewritten. The elements come first; of more than seven, those behind the seventh make a tuple once more, which is rewritten like any other although its elements have been. -/
inductive Rewrites : TypeRef → TypeRef → Prop where
  | named {name : String} {arguments normal : List TypeRef} (harguments : RewritesAll arguments normal) :
      Rewrites (.named name arguments) (.named name normal)
  | parameter (name : String) : Rewrites (.parameter name) (.parameter name)
  | array {element normal : TypeRef} {rank : Nat} (helement : Rewrites element normal) :
      Rewrites (.array element rank) (.array normal rank)
  | shortTuple {elements normal : List TypeRef} (helements : RewritesAll elements normal) (hshort : normal.length ≤ tupleLimit) :
      Rewrites (.tuple elements) (.named valueTupleName normal)
  | longTuple {elements normal : List TypeRef} {rest : TypeRef} (helements : RewritesAll elements normal)
      (hlong : tupleLimit < normal.length) (hrest : Rewrites (.tuple (normal.drop tupleLimit)) rest) :
      Rewrites (.tuple elements) (.named valueTupleName (normal.take tupleLimit ++ [rest]))

inductive RewritesAll : List TypeRef → List TypeRef → Prop where
  | nil : RewritesAll [] []
  | cons {type normal : TypeRef} {rest rest' : List TypeRef} (htype : Rewrites type normal) (hrest : RewritesAll rest rest') :
      RewritesAll (type :: rest) (normal :: rest')

end

mutual

/-- What is rewritten is the tuple-normal form: the second time round the elements stay as they are. -/
theorem Rewrites.eq_normalize : {type normal : TypeRef} → Rewrites type normal → normal = type.normalize
  | _, _, .named harguments => by rw [normalize, harguments.eq_normalizeAll]
  | _, _, .parameter _ => rfl
  | _, _, .array helement => by rw [normalize, helement.eq_normalize]
  | _, _, .shortTuple helements hshort => by
    rw [helements.eq_normalizeAll] at hshort ⊢
    rw [normalize, tupleOf_of_length_le hshort]
  | .tuple elements, _, .longTuple helements hlong hrest => by
    have hdrop : normalizeAll ((normalizeAll elements).drop tupleLimit) = (normalizeAll elements).drop tupleLimit :=
      normalizeAll_eq_self (allTupleFree_drop (allTupleFree_normalizeAll elements) tupleLimit)
    rw [hrest.eq_normalize, normalize, normalize]
    rw [helements.eq_normalizeAll] at hlong ⊢
    rw [hdrop, tupleOf_of_lt_length hlong]

theorem RewritesAll.eq_normalizeAll : {types normal : List TypeRef} → RewritesAll types normal → normal = normalizeAll types
  | _, _, .nil => rfl
  | _, _, .cons htype hrest => by rw [normalizeAll, ← htype.eq_normalize, ← hrest.eq_normalizeAll]

end

mutual

theorem rewrites_self : {type : TypeRef} → type.isTupleFree = true → Rewrites type type
  | .named _ arguments, h => by
    rw [isTupleFree] at h
    exact .named (rewritesAll_self h)
  | .parameter name, _ => .parameter name
  | .array element _, h => by
    rw [isTupleFree] at h
    exact .array (rewrites_self h)
  | .tuple _, h => by simp [isTupleFree] at h

theorem rewritesAll_self : {types : List TypeRef} → allTupleFree types = true → RewritesAll types types
  | [], _ => .nil
  | type :: rest, h => by
    rw [allTupleFree, Bool.and_eq_true] at h
    exact .cons (rewrites_self h.1) (rewritesAll_self h.2)

end

/-- Rewriting a tuple ends once its elements have been rewritten: every further call has seven elements fewer. -/
theorem rewrites_tuple {elements normal : List TypeRef} (helements : RewritesAll elements normal) (hfree : allTupleFree normal = true) :
    Rewrites (.tuple elements) (tupleOf normal) := by
  induction normal using levelInduction generalizing elements with
  | short normal hshort =>
    rw [tupleOf_of_length_le hshort]
    exact .shortTuple helements hshort
  | long normal hlong ih =>
    have hrest := allTupleFree_drop hfree tupleLimit
    rw [tupleOf_of_lt_length hlong]
    exact .longTuple helements hlong (ih (rewritesAll_self hrest) hrest)

mutual

theorem rewrites_normalize : (type : TypeRef) → Rewrites type type.normalize
  | .named _ arguments => .named (rewritesAll_normalizeAll arguments)
  | .parameter name => .parameter name
  | .array element _ => .array (rewrites_normalize element)
  | .tuple elements => rewrites_tuple (rewritesAll_normalizeAll elements) (allTupleFree_normalizeAll elements)

theorem rewritesAll_normalizeAll : (types : List TypeRef) → RewritesAll types (normalizeAll types)
  | [] => .nil
  | type :: rest => .cons (rewrites_normalize type) (rewritesAll_normalizeAll rest)

end

/-- Rewriting ends for every type, and in its tuple-normal form. -/
theorem rewrites_iff {type normal : TypeRef} : Rewrites type normal ↔ normal = type.normalize := by
  constructor
  · exact Rewrites.eq_normalize
  · rintro rfl
    exact rewrites_normalize type

variable {name : String} {arguments elements : List TypeRef}

theorem tupleOf_eq_named (elements : List TypeRef) : tupleOf elements = .named valueTupleName (tupleOf elements).arguments := by
  by_cases hshort : elements.length ≤ tupleLimit
  · rw [tupleOf_of_length_le hshort, TypeRef.arguments]
  · rw [tupleOf_of_lt_length (Nat.lt_of_not_le hshort), TypeRef.arguments]

theorem arguments_tupleOf_of_length_le (h : elements.length ≤ tupleLimit) : (tupleOf elements).arguments = elements := by
  rw [tupleOf_of_length_le h, TypeRef.arguments]

theorem arguments_tupleOf_of_lt_length (h : tupleLimit < elements.length) :
    (tupleOf elements).arguments = elements.take tupleLimit ++ [tupleOf (elements.drop tupleLimit)] := by
  rw [tupleOf_of_lt_length h, TypeRef.arguments]

theorem take_arguments_tupleOf (elements : List TypeRef) : (tupleOf elements).arguments.take tupleLimit = elements.take tupleLimit := by
  by_cases hshort : elements.length ≤ tupleLimit
  · rw [arguments_tupleOf_of_length_le hshort]
  · have hlong : tupleLimit < elements.length := Nat.lt_of_not_le hshort
    rw [arguments_tupleOf_of_lt_length hlong, List.take_left' (List.length_take_of_le hlong.le)]

theorem length_arguments_tupleOf (elements : List TypeRef) :
    (tupleOf elements).arguments.length = min elements.length (tupleLimit + 1) := by
  by_cases hshort : elements.length ≤ tupleLimit
  · rw [arguments_tupleOf_of_length_le hshort]
    omega
  · have hlong : tupleLimit < elements.length := Nat.lt_of_not_le hshort
    rw [arguments_tupleOf_of_lt_length hlong, List.length_append, List.length_take_of_le hlong.le, List.length_singleton]
    omega

/-- The levels of a packed tuple, the outermost first. Behind seven arguments stands the next level. -/
def levels (type : TypeRef) : List TypeRef :=
  match type with
  | .named _ [_, _, _, _, _, _, _, rest] => type :: rest.levels
  | _ => [type]

/-- The elements of a packed tuple in their order, level by level. -/
def unpacked (type : TypeRef) : List TypeRef := type.levels.flatMap fun level => level.arguments.take tupleLimit

theorem levels_of_length_le (h : arguments.length ≤ tupleLimit) : (named name arguments).levels = [.named name arguments] := by
  unfold levels
  split
  · rename_i heq
    rw [(named.inj heq).2] at h
    simp [tupleLimit] at h
  · rfl

theorem levels_append {rest : TypeRef} (h : arguments.length = tupleLimit) :
    (named name (arguments ++ [rest])).levels = .named name (arguments ++ [rest]) :: rest.levels := by
  match arguments, h with
  | [_, _, _, _, _, _, _], _ => rfl

theorem levels_tupleOf_of_length_le (h : elements.length ≤ tupleLimit) : (tupleOf elements).levels = [tupleOf elements] := by
  rw [tupleOf_of_length_le h, levels_of_length_le h]

theorem levels_tupleOf_of_lt_length (h : tupleLimit < elements.length) :
    (tupleOf elements).levels = tupleOf elements :: (tupleOf (elements.drop tupleLimit)).levels := by
  rw [tupleOf_of_lt_length h, levels_append (List.length_take_of_le h.le)]

/-- Every level is itself a packed tuple, of elements that are left. -/
theorem exists_tupleOf_of_mem_levels (h : elements ≠ []) {level : TypeRef} (hlevel : level ∈ (tupleOf elements).levels) :
    ∃ rest, rest ≠ [] ∧ level = tupleOf rest := by
  induction elements using levelInduction with
  | short elements hshort =>
    rw [levels_tupleOf_of_length_le hshort, List.mem_singleton] at hlevel
    exact ⟨elements, h, hlevel⟩
  | long elements hlong ih =>
    rw [levels_tupleOf_of_lt_length hlong, List.mem_cons] at hlevel
    rcases hlevel with rfl | hlevel
    · exact ⟨elements, h, rfl⟩
    · exact ih (drop_tupleLimit_ne_nil hlong) hlevel

/-- Packing loses no element and keeps their order. -/
theorem unpacked_tupleOf (elements : List TypeRef) : (tupleOf elements).unpacked = elements := by
  induction elements using levelInduction with
  | short elements hshort =>
    rw [unpacked, levels_tupleOf_of_length_le hshort, List.flatMap_singleton, take_arguments_tupleOf]
    exact List.take_of_length_le hshort
  | long elements hlong ih =>
    calc (tupleOf elements).unpacked
        = (tupleOf elements).arguments.take tupleLimit ++ (tupleOf (elements.drop tupleLimit)).unpacked := by
          rw [unpacked, levels_tupleOf_of_lt_length hlong, List.flatMap_cons, unpacked]
      _ = elements.take tupleLimit ++ elements.drop tupleLimit := by rw [take_arguments_tupleOf, ih]
      _ = elements := List.take_append_drop tupleLimit elements

theorem unboundSignature_named (h : arguments ≠ []) :
    (named name arguments).unboundSignature = name ++ "<" ++ String.ofList (List.replicate (arguments.length - 1) ',') ++ ">" := by
  cases arguments with
  | nil => exact absurd rfl h
  | cons first rest => simp [unboundSignature, normalize, normalizeAll, normalizeAll_eq_map]

/-- The codec template of the named type that stands for tuples. -/
def valueTupleTemplate : String := "MsgPack::Formatters.ValueTupleFormatter<TREPLACE>"

/-- The catalog has the type with one to eight arguments. -/
theorem containerTemplate?_valueTuple : ∀ commas < 8,
    Catalog.containerTemplate? (valueTupleName ++ "<" ++ String.ofList (List.replicate commas ',') ++ ">") = some valueTupleTemplate := by
  decide +kernel

theorem arguments_tupleOf_ne_nil (h : elements ≠ []) : (tupleOf elements).arguments ≠ [] := by
  have hlength := List.length_pos_iff.mpr h
  apply List.ne_nil_of_length_pos
  rw [length_arguments_tupleOf]
  omega

/-- A packed tuple is a known container, however many elements it has. -/
theorem containerTemplate?_tupleOf (h : elements ≠ []) :
    Catalog.containerTemplate? (tupleOf elements).unboundSignature = some valueTupleTemplate := by
  have hlength := length_arguments_tupleOf elements
  have hlimit : tupleLimit = 7 := rfl
  rw [tupleOf_eq_named, unboundSignature_named (arguments_tupleOf_ne_nil h)]
  exact containerTemplate?_valueTuple _ (by omega)

theorem isGeneric_tupleOf (h : elements ≠ []) : (tupleOf elements).isGeneric = true := by
  simpa [isGeneric] using arguments_tupleOf_ne_nil h

end TypeRef

namespace Context

/-- A known container can be a union as well, which is an error of its own, but it need not be declared. -/
theorem classify_ne_unresolved {context : Context} {type : TypeRef} {template : String} (hgeneric : type.isGeneric = true)
    (htemplate : Catalog.containerTemplate? type.unboundSignature = some template) :
    context.classify type ≠ .error (.shape type .unresolved) := by
  intro h
  unfold classify classifyNamed at h
  simp only [hgeneric, htemplate, if_true] at h
  repeat' split at h
  all_goals simp [CollectError.shape] at h

end Context

namespace TypeRef

/-- What the named type that stands for a tuple is like. It begins with the first seven elements and goes on with the tuple of the others; it holds all of them, in tuple-normal form and in their order; and every level of it is a known container, so that none is left unresolved. -/
structure IsPackingOf (packed : TypeRef) (elements : List TypeRef) : Prop where
  name : packed.name? = some valueTupleName
  length : packed.arguments.length = min elements.length 8
  first : packed.arguments.take 7 = (elements.take 7).map normalize
  rest : 7 < elements.length → packed.arguments.drop 7 = [(tuple (elements.drop 7)).normalize]
  unpacked : packed.unpacked = elements.map normalize
  tupleFree : ∀ inner, tuple inner ∉ packed.subterms
  fixed : packed.normalize = packed
  catalogued : ∀ level ∈ packed.levels, Catalog.containerTemplate? level.unboundSignature = some valueTupleTemplate
  resolved : ∀ level ∈ packed.levels, ∀ context : Context, context.classify level ≠ .error (.shape level .unresolved)

variable {elements : List TypeRef}

theorem normalize_tuple (elements : List TypeRef) : (tuple elements).normalize = tupleOf (elements.map normalize) := by
  rw [normalize, normalizeAll_eq_map]

theorem isPackingOf_normalize (h : elements ≠ []) : (tuple elements).normalize.IsPackingOf elements := by
  have hne : elements.map normalize ≠ [] := List.map_eq_nil_iff.not.mpr h
  have hlevels : ∀ level ∈ (tuple elements).normalize.levels, level.isGeneric = true ∧
      Catalog.containerTemplate? level.unboundSignature = some valueTupleTemplate := by
    intro level hlevel
    rw [normalize_tuple] at hlevel
    obtain ⟨rest, hrest, rfl⟩ := exists_tupleOf_of_mem_levels hne hlevel
    exact ⟨isGeneric_tupleOf hrest, containerTemplate?_tupleOf hrest⟩
  constructor
  case name => rw [normalize_tuple, tupleOf_eq_named, name?]
  case length => rw [normalize_tuple, length_arguments_tupleOf, List.length_map, tupleLimit]
  case first =>
    rw [normalize_tuple, List.map_take]
    exact take_arguments_tupleOf _
  case rest =>
    intro hlong
    have hlong' : tupleLimit < (elements.map normalize).length := by rwa [List.length_map]
    rw [normalize_tuple, normalize_tuple, arguments_tupleOf_of_lt_length hlong', List.map_drop]
    exact List.drop_left' (List.length_take_of_le hlong'.le)
  case unpacked => rw [normalize_tuple, unpacked_tupleOf]
  case tupleFree =>
    intro inner hinner
    have hfree := isTupleFree_of_mem_subterms (isTupleFree_normalize _) hinner
    simp [isTupleFree] at hfree
  case fixed => exact normalize_normalize _
  case catalogued => exact fun level hlevel => (hlevels level hlevel).2
  case resolved =>
    intro level hlevel context
    obtain ⟨hgeneric, htemplate⟩ := hlevels level hlevel
    exact context.classify_ne_unresolved hgeneric htemplate

/-- **Tuples are packed whole, and into known containers.** Rewriting a tuple ends in one type, its tuple-normal form, and this is a packing of its elements, whatever their number and whatever they hold themselves. -/
theorem rewrites_tuple_isPackingOf (h : elements ≠ []) :
    (∀ packed, Rewrites (.tuple elements) packed ↔ packed = (tuple elements).normalize) ∧
      (tuple elements).normalize.IsPackingOf elements :=
  ⟨fun _ => rewrites_iff, isPackingOf_normalize h⟩

/-- A row of fifteen, with a pair where the second level begins. -/
def rowElements : List TypeRef :=
  List.replicate 7 (.named "int" []) ++ .tuple [.parameter "T", .named "string" []] :: List.replicate 7 (.named "long" [])

/-- The row takes three levels: the second begins with the pair, which is packed itself but is no level, and the third has the last element. -/
theorem isPackingOf_row :
    rowElements ≠ [] ∧ Rewrites (.tuple rowElements) (tuple rowElements).normalize ∧ (tuple rowElements).normalize.levels.length = 3 ∧
      (tuple rowElements).normalize.unpacked = rowElements.map normalize ∧
      ∀ level ∈ (tuple rowElements).normalize.levels,
        Catalog.containerTemplate? level.unboundSignature = some valueTupleTemplate := by
  have hne : rowElements ≠ [] := by decide
  obtain ⟨hrewrites, hpacking⟩ := rewrites_tuple_isPackingOf hne
  exact ⟨hne, (hrewrites _).mpr rfl, by decide +kernel, hpacking.unpacked, hpacking.catalogued⟩

end TypeRef

end SchemaClosure
