import SchemaClosure.Proofs.TypeRef.Grammar
import SchemaClosure.Proofs.TypeRef.Legibility

/-!
Reading back a written type. The written form of a legible type is one way of writing the type in the grammar, and so the reader makes the type of it again. Hence legible types with one identity have one normal form: `normalize_eq_of_identity_eq`.
-/

namespace SchemaClosure.TypeRef

variable {scope : List String}

theorem Spells.mark (c : Char) {tokens : List Token} {text : List Char} (h : Spells tokens text) :
    Spells (.mark c :: tokens) (c :: text) :=
  (Spells.token (.mark c)).append h

theorem Spells.bracket {tokens : List Token} {text : List Char} (c : Char) (h : Spells tokens text) :
    Spells (tokens ++ [.mark c]) (text ++ [c]) :=
  h.append (.token (.mark c))

theorem spells_commas (count : Nat) :
    Spells (List.replicate count (.mark ',') ++ [.mark ']']) (List.replicate count ',' ++ [']']) := by
  induction count with
  | zero => exact .token (.mark ']')
  | succ count ih => exact ih.mark ','

theorem isWhiteSpace_space : Text.isWhiteSpace ' ' = true := by decide

mutual

/-- The written form is derived by the grammar, for the type with its parameters as bare names. -/
theorem exists_derives_chars : (type : TypeRef) → type.isLegible scope = true →
    ∃ tokens, Derives (.type type.forgetParameters) tokens ∧ Spells tokens type.chars
  | .named name [], h => by
    have hname : isPath name.toList = true := (isLegible_named_iff.mp h).1
    refine ⟨[.word name.toList], .base ?_, chars_named_nil name ▸ .token (.word name.toList)⟩
    simpa [forgetParameters, forgetAllParameters] using Derives.path hname
  | .named name (first :: rest), h => by
    obtain ⟨hname, -, harguments⟩ := isLegible_named_iff.mp h
    obtain ⟨tokens, hlist, hspells⟩ := exists_derives_listChars (first :: rest) (List.cons_ne_nil first rest)
      (allLegible_iff.mpr harguments)
    unfold chars
    split
    · rename_i hnullable
      rw [Bool.and_eq_true] at hnullable
      obtain rfl : name = nullableName := eq_of_beq hnullable.1
      obtain rfl : rest = [] := by simpa using eq_of_beq hnullable.2
      cases hlist with
      | single hfirst => exact ⟨_, .optional hfirst, hspells.bracket '?'⟩
      | cons _ hrest => cases hrest
    · rw [if_neg (by simp), List.append_assoc, List.cons_append]
      refine ⟨_, .base ?_, (Spells.token (.word name.toList)).append ((hspells.bracket '>').mark '<')⟩
      simpa [forgetParameters] using Derives.generic hname hlist
  | .parameter name, h => by
    have hname : isPath name.toList = true := (isLegible_parameter_iff.mp h).1
    refine ⟨[.word name.toList], .base ?_, .token (.word name.toList)⟩
    simpa [forgetParameters] using Derives.path hname
  | .array element rank, h => by
    obtain ⟨hrank, helement⟩ := isLegible_array_iff.mp h
    obtain ⟨tokens, htype, hspells⟩ := exists_derives_chars element helement
    have harray := Derives.array (rank - 1) htype
    rw [Nat.sub_add_cancel hrank] at harray
    refine ⟨_, harray, ?_⟩
    rw [chars, List.append_assoc, List.cons_append]
    exact hspells.append ((spells_commas (rank - 1)).mark '[')
  | .tuple elements, h => by
    obtain ⟨hlength, helements⟩ := isLegible_tuple_iff.mp h
    have hne : elements ≠ [] := List.ne_nil_of_length_pos (Nat.zero_lt_of_lt hlength)
    obtain ⟨tokens, hlist, hspells⟩ := exists_derives_listChars elements hne (allLegible_iff.mpr helements)
    refine ⟨_, .base (.tuple ?_ hlist), (hspells.bracket ')').mark '('⟩
    rwa [forgetAllParameters_eq_map, List.length_map]

theorem exists_derives_listChars : (types : List TypeRef) → types ≠ [] → allLegible scope types = true →
    ∃ tokens, Derives (.list (forgetAllParameters types)) tokens ∧ Spells tokens (listChars types)
  | [], hne, _ => absurd rfl hne
  | [type], _, h => by
    rw [allLegible, Bool.and_eq_true] at h
    obtain ⟨tokens, htype, hspells⟩ := exists_derives_chars type h.1
    refine ⟨tokens, .single htype, ?_⟩
    rwa [listChars, tailChars, List.append_nil]
  | type :: next :: rest, _, h => by
    rw [allLegible, Bool.and_eq_true] at h
    obtain ⟨tokens, htype, hspells⟩ := exists_derives_chars type h.1
    obtain ⟨tokens', hrest, hspells'⟩ := exists_derives_listChars (next :: rest) (List.cons_ne_nil next rest) h.2
    have hblank : ∀ c ∈ [' '], Text.isWhiteSpace c = true := fun c hmem => List.mem_singleton.mp hmem ▸ isWhiteSpace_space
    exact ⟨_, .cons htype hrest, hspells.append ((hspells'.prepend hblank).mark ',')⟩

end

theorem isWritten_render {type : TypeRef} (h : type.isLegible scope = true) : IsWritten type.forgetParameters type.render := by
  obtain ⟨tokens, hderives, hspells⟩ := exists_derives_chars type h
  exact ⟨tokens, hderives, toList_render type ▸ hspells⟩

/-- Reading the written form of a legible type gives the type with its parameters as bare names. -/
theorem parse_render {type : TypeRef} (h : type.isLegible scope = true) : parse type.render = .ok type.forgetParameters :=
  parse_of_isWritten (isWritten_render h)

mutual

/-- Binding brings forgotten parameters back. -/
theorem bindParameters_forgetParameters : {type : TypeRef} → type.isLegible scope = true →
    type.forgetParameters.bindParameters scope = type
  | .named name [], h => by
    have hbare : name ∉ scope := (isLegible_named_iff.mp h).2.1 rfl
    simp [forgetParameters, forgetAllParameters, bindParameters, hbare]
  | .named name (first :: rest), h => by
    have harguments := (isLegible_named_iff.mp h).2.2
    have hfirst := bindParameters_forgetParameters (harguments first List.mem_cons_self)
    have hrest := bindAllParameters_forgetAllParameters
      (allLegible_iff.mpr fun argument hmem => harguments argument (List.mem_cons_of_mem first hmem))
    rw [forgetParameters, forgetAllParameters, bindParameters, hfirst, hrest]
  | .parameter name, h => by
    have hscope : name ∈ scope := (isLegible_parameter_iff.mp h).2
    simp [forgetParameters, bindParameters, hscope]
  | .array element _, h => by
    rw [forgetParameters, bindParameters, bindParameters_forgetParameters (isLegible_array_iff.mp h).2]
  | .tuple elements, h => by
    rw [forgetParameters, bindParameters, bindAllParameters_forgetAllParameters (allLegible_iff.mpr (isLegible_tuple_iff.mp h).2)]

theorem bindAllParameters_forgetAllParameters : {types : List TypeRef} → allLegible scope types = true →
    bindAllParameters scope (forgetAllParameters types) = types
  | [], _ => rfl
  | type :: rest, h => by
    rw [allLegible, Bool.and_eq_true] at h
    rw [forgetAllParameters, bindAllParameters, bindParameters_forgetParameters h.1, bindAllParameters_forgetAllParameters h.2]

end

/-- The written form tells legible types apart. -/
theorem eq_of_render_eq {first second : TypeRef} (hfirst : first.isLegible scope = true) (hsecond : second.isLegible scope = true)
    (h : first.render = second.render) : first = second := by
  have hparse : parse first.render = parse second.render := by rw [h]
  rw [parse_render hfirst, parse_render hsecond] at hparse
  rw [← bindParameters_forgetParameters hfirst, ← bindParameters_forgetParameters hsecond, Except.ok.inj hparse]

/-- Legible types with one identity differ in nothing but the way their tuples are written. -/
theorem normalize_eq_of_identity_eq {first second : TypeRef} (hfirst : first.isLegible scope = true)
    (hsecond : second.isLegible scope = true) (h : first.identity = second.identity) : first.normalize = second.normalize :=
  eq_of_render_eq (isLegible_normalize hfirst) (isLegible_normalize hsecond) (congrArg TypeIdentity.text h)

/-! What the reader returns is legible, so legible types are exactly those that come from a text. -/

theorem isPath_nullableName : isPath nullableName.toList = true := by decide +kernel

theorem isLegible_bare {name : String} (h : isPath name.toList = true) : (named name []).isLegible [] = true :=
  isLegible_named_iff.mpr ⟨h, fun _ => List.not_mem_nil, fun _ hmem => absurd hmem List.not_mem_nil⟩

def Phrase.IsLegible : Phrase → Prop
  | .type read | .base read => read.isLegible [] = true
  | .list types => types ≠ [] ∧ ∀ type ∈ types, type.isLegible [] = true

theorem Derives.isLegible {phrase : Phrase} {tokens : List Token} (h : Derives phrase tokens) : phrase.IsLegible := by
  induction h with
  | base _ ih => exact ih
  | optional _ ih =>
    refine isLegible_named_of_mem isPath_nullableName List.mem_cons_self ?_
    intro argument hmem
    rw [List.mem_singleton.mp hmem]
    exact ih
  | array commas _ ih => exact isLegible_array_iff.mpr ⟨Nat.succ_pos commas, ih⟩
  | tuple hlength _ ih => exact isLegible_tuple_iff.mpr ⟨hlength, ih.2⟩
  | path hpath => exact isLegible_bare (String.toList_ofList ▸ hpath)
  | generic hpath _ ih =>
    obtain ⟨first, hfirst⟩ := List.exists_mem_of_ne_nil _ ih.1
    exact isLegible_named_of_mem (String.toList_ofList ▸ hpath) hfirst ih.2
  | single _ ih =>
    refine ⟨List.cons_ne_nil _ _, ?_⟩
    intro type hmem
    rw [List.mem_singleton.mp hmem]
    exact ih
  | cons _ _ ih ihrest => exact ⟨List.cons_ne_nil _ _, List.forall_mem_cons.mpr ⟨ih, ihrest.2⟩⟩

theorem isLegible_of_parse {text : String} {type : TypeRef} (h : parse text = .ok type) : type.isLegible [] = true := by
  obtain ⟨tokens, hderives, -⟩ := isWritten_of_parse h
  exact hderives.isLegible

mutual

theorem isLegible_bindParameters : {type : TypeRef} → type.isLegible [] = true → (type.bindParameters scope).isLegible scope = true
  | .named name [], h => by
    have hname : isPath name.toList = true := (isLegible_named_iff.mp h).1
    rw [bindParameters]
    split
    · rename_i hscope
      exact isLegible_parameter_iff.mpr ⟨hname, by simpa using hscope⟩
    · rename_i hscope
      refine isLegible_named_iff.mpr ⟨hname, fun _ => by simpa using hscope, ?_⟩
      intro argument hmem
      exact absurd hmem List.not_mem_nil
  | .named name (first :: rest), h => by
    obtain ⟨hname, -, harguments⟩ := isLegible_named_iff.mp h
    have hfirst := isLegible_bindParameters (harguments first List.mem_cons_self)
    have hrest := allLegible_bindAllParameters
      (allLegible_iff.mpr fun argument hmem => harguments argument (List.mem_cons_of_mem first hmem))
    rw [bindParameters]
    exact isLegible_named_of_mem hname List.mem_cons_self (List.forall_mem_cons.mpr ⟨hfirst, allLegible_iff.mp hrest⟩)
  | .parameter _, h => by simp [isLegible] at h
  | .array element _, h => by
    obtain ⟨hrank, helement⟩ := isLegible_array_iff.mp h
    exact isLegible_array_iff.mpr ⟨hrank, isLegible_bindParameters helement⟩
  | .tuple elements, h => by
    obtain ⟨hlength, helements⟩ := isLegible_tuple_iff.mp h
    rw [bindParameters, isLegible_tuple_iff]
    refine ⟨?_, allLegible_iff.mp (allLegible_bindAllParameters (allLegible_iff.mpr helements))⟩
    rw [bindAllParameters_eq_map, List.length_map]
    exact hlength

theorem allLegible_bindAllParameters : {types : List TypeRef} → allLegible [] types = true →
    allLegible scope (bindAllParameters scope types) = true
  | [], _ => rfl
  | type :: rest, h => by
    rw [allLegible, Bool.and_eq_true] at h
    simp [bindAllParameters, allLegible, isLegible_bindParameters h.1, allLegible_bindAllParameters h.2]

end

/-- A type is legible just if it comes from a text whose names in scope are read as type parameters. -/
theorem isLegible_iff_exists_parse {type : TypeRef} :
    type.isLegible scope = true ↔ ∃ text read, parse text = .ok read ∧ read.bindParameters scope = type := by
  constructor
  · intro h
    exact ⟨type.render, type.forgetParameters, parse_render h, bindParameters_forgetParameters h⟩
  · rintro ⟨text, read, hparse, rfl⟩
    exact isLegible_bindParameters (isLegible_of_parse hparse)

/-- The types that a closure visits: legible types in tuple-normal form, which have different identities. -/
structure IsCanonical (scope : List String) (type : TypeRef) : Prop where
  isLegible : type.isLegible scope = true
  isTupleFree : type.isTupleFree = true

theorem isCanonical_normalize {type : TypeRef} (h : type.isLegible scope = true) : type.normalize.IsCanonical scope :=
  ⟨isLegible_normalize h, isTupleFree_normalize type⟩

theorem IsCanonical.normalize_eq {type : TypeRef} (h : type.IsCanonical scope) : type.normalize = type :=
  normalize_eq_self h.isTupleFree

theorem IsCanonical.eq_of_identity_eq {first second : TypeRef} (hfirst : first.IsCanonical scope)
    (hsecond : second.IsCanonical scope) (h : first.identity = second.identity) : first = second := by
  have hnormal := normalize_eq_of_identity_eq hfirst.isLegible hsecond.isLegible h
  rwa [hfirst.normalize_eq, hsecond.normalize_eq] at hnormal

theorem IsCanonical.of_mem_arguments {type argument : TypeRef} (h : type.IsCanonical scope) (hmem : argument ∈ type.arguments) :
    argument.IsCanonical scope :=
  ⟨isLegible_of_mem_arguments h.isLegible hmem, isTupleFree_of_mem_arguments h.isTupleFree hmem⟩

theorem isCanonical_named {name : String} {arguments : List TypeRef} {argument : TypeRef} (hname : isPath name.toList = true)
    (hmem : argument ∈ arguments) (h : ∀ argument ∈ arguments, argument.IsCanonical scope) :
    (named name arguments).IsCanonical scope := by
  refine ⟨isLegible_named_of_mem hname hmem fun argument hargument => (h argument hargument).isLegible, ?_⟩
  rw [TypeRef.isTupleFree, allTupleFree_eq_all, List.all_eq_true]
  intro argument hargument
  exact (h argument hargument).isTupleFree

end SchemaClosure.TypeRef
