import SchemaClosure.Proofs.Closure.RootEntries
import SchemaClosure.Proofs.Text.Dotted

/-!
When the codecs of two types come to have one name. A codec goes by the last segment of the name of its type, or by all segments below the namespace joined by underscores; so names can meet where a nested type goes by its last segment, where a type is not below its namespace, and where a name has an underscore of its own. They meet nowhere else, except that one declaration can be applied to several arguments.
-/

namespace SchemaClosure

namespace Declaration

/-- The name is below the namespace, if there is one. -/
def IsPlaced (declaration : Declaration) : Prop :=
  ∀ outer, declaration.namespaceName = some outer → (Text.below? outer declaration.name).isSome = true

/-- The codecs of generic types and of unions go by the last segment of the name. -/
def isBare (declaration : Declaration) : Bool := declaration.isGeneric || declaration.isPolymorphicBase

/-- The codec goes by the last segment, whether or not there are others below the namespace. -/
def GoesByLast (declaration : Declaration) : Prop := declaration.isBare = true ∨ '.' ∉ declaration.relativeName.toList

/-- The name of the codec of an object, an enum or a union. -/
def codecName (declaration : Declaration) : String :=
  if declaration.isBare then declaration.simpleName else Text.join declaration.relativeName

/-- How declarations with different names may still have codecs with one name: one of them is not below its namespace, but has a name that the other has below it; or both go by their last segment, and have the same. -/
inductive MayMeet (first second : Declaration) : Prop where
  | displaced (hrelative : first.relativeName = second.relativeName) (h : ¬first.IsPlaced ∨ ¬second.IsPlaced) : MayMeet first second
  | curtailed (hrelative : first.relativeName ≠ second.relativeName) (hsegment : first.simpleName = second.simpleName)
      (hfirst : first.GoesByLast) (hsecond : second.GoesByLast) : MayMeet first second

/-- There is an angle bracket in the name or in the namespace. -/
def IsBracketed (declaration : Declaration) : Prop :=
  '<' ∈ declaration.name.toList ∨ ∃ outer, declaration.namespaceName = some outer ∧ '<' ∈ outer.toList

variable {declaration first second : Declaration}

/-- What stands before the relative name of a declaration that is below its namespace. -/
def outerChars (declaration : Declaration) : List Char :=
  (declaration.namespaceName.map fun outer => outer.toList ++ ['.']).getD []

theorem toList_name (h : declaration.IsPlaced) :
    declaration.name.toList = declaration.outerChars ++ declaration.relativeName.toList := by
  unfold outerChars relativeName
  cases hnamespace : declaration.namespaceName with
  | none => rfl
  | some outer =>
    obtain ⟨below, hbelow⟩ := Option.isSome_iff_exists.mp (h outer hnamespace)
    simp [hbelow, Text.below?_eq_some_iff.mp hbelow]

/-- Below one namespace, different names stay different. -/
theorem displaced_of_relativeName_eq (hname : first.name ≠ second.name) (hnamespace : first.namespaceName = second.namespaceName)
    (h : first.relativeName = second.relativeName) : MayMeet first second := by
  refine .displaced h (not_and_or.mp ?_)
  rintro ⟨hfirst, hsecond⟩
  apply hname
  apply String.toList_injective
  rw [toList_name hfirst, toList_name hsecond, outerChars, outerChars, hnamespace, h]

/-- A name and its part below the namespace end alike. -/
theorem simpleName_eq (declaration : Declaration) : declaration.simpleName = Text.lastSegment declaration.relativeName := by
  unfold simpleName relativeName
  cases declaration.namespaceName with
  | none => rfl
  | some outer =>
    cases hbelow : Text.below? outer declaration.name with
    | none => simp [hbelow]
    | some below =>
      simp only [Option.bind_some, hbelow, Option.getD_some]
      exact Text.lastSegment_of_append (Text.below?_eq_some_iff.mp hbelow)

theorem codecName_of_goesByLast (h : declaration.GoesByLast) : declaration.codecName = declaration.simpleName := by
  unfold codecName
  split
  · rfl
  · rename_i hbare
    have hdot := h.resolve_left hbare
    rw [simpleName_eq, Text.lastSegment_of_dot_notMem hdot, Text.join_of_dot_notMem hdot]

theorem codecName_of_not_goesByLast (h : ¬declaration.GoesByLast) :
    declaration.codecName = Text.join declaration.relativeName ∧ '.' ∈ declaration.relativeName.toList := by
  rw [GoesByLast, not_or, not_not] at h
  exact ⟨if_neg h.1, h.2⟩

/-- A last segment is a joined name only with an underscore of its own. -/
theorem mixSeparators_of_simpleName_eq_join (hdot : '.' ∈ second.relativeName.toList)
    (h : first.simpleName = Text.join second.relativeName) : Text.MixSeparators first.relativeName second.relativeName := by
  rw [simpleName_eq] at h
  refine Or.inl ⟨?_, hdot⟩
  apply Text.mem_of_mem_lastSegment
  rw [h]
  exact Text.underscore_mem_join hdot

theorem mayMeet_of_codecName_eq (hname : first.name ≠ second.name) (hnamespace : first.namespaceName = second.namespaceName)
    (h : first.codecName = second.codecName) :
    MayMeet first second ∨ Text.MixSeparators first.relativeName second.relativeName := by
  by_cases hrelative : first.relativeName = second.relativeName
  · exact Or.inl (displaced_of_relativeName_eq hname hnamespace hrelative)
  · by_cases hfirst : first.GoesByLast
    · rw [codecName_of_goesByLast hfirst] at h
      by_cases hsecond : second.GoesByLast
      · rw [codecName_of_goesByLast hsecond] at h
        exact Or.inl (.curtailed hrelative h hfirst hsecond)
      · obtain ⟨hjoined, hdot⟩ := codecName_of_not_goesByLast hsecond
        exact Or.inr (mixSeparators_of_simpleName_eq_join hdot (h.trans hjoined))
    · obtain ⟨hjoined, hdot⟩ := codecName_of_not_goesByLast hfirst
      by_cases hsecond : second.GoesByLast
      · rw [codecName_of_goesByLast hsecond] at h
        exact Or.inr (Text.MixSeparators.symm (mixSeparators_of_simpleName_eq_join hdot (h.symm.trans hjoined)))
      · obtain ⟨hjoined', -⟩ := codecName_of_not_goesByLast hsecond
        exact Or.inr ((Text.eq_or_mixSeparators_of_join_eq (hjoined.symm.trans (h.trans hjoined'))).resolve_left hrelative)

/-- The qualified name of the codec, up to the word that ends it. -/
def codecPath (declaration : Declaration) : List Char := declaration.outerChars ++ declaration.simpleName.toList

theorem toList_ofInstantiation (declaration : Declaration) (arguments : List TypeRef) :
    (CodecName.ofInstantiation declaration arguments).toList =
      "Formatters::".toList ++ (declaration.codecPath ++ "Formatter".toList ++ '<' :: ((CodecName.ofArguments arguments).toList ++ ['>'])) := by
  unfold CodecName.ofInstantiation codecPath outerChars
  cases declaration.namespaceName <;> simp [List.append_assoc]

theorem bracket_notMem_codecPath (h : ¬declaration.IsBracketed) : '<' ∉ declaration.codecPath := by
  rw [IsBracketed, not_or, not_exists] at h
  rw [codecPath, List.mem_append, not_or]
  refine ⟨?_, fun hmem => h.1 (Text.mem_of_mem_lastSegment hmem)⟩
  unfold outerChars
  cases hnamespace : declaration.namespaceName with
  | none => exact List.not_mem_nil
  | some outer =>
    have houter : '<' ∉ outer.toList := fun hmem => h.2 outer ⟨hnamespace, hmem⟩
    simpa using houter

theorem eq_of_codecPath_eq (h : first.codecPath = second.codecPath) :
    first.namespaceName = second.namespaceName ∧ first.simpleName = second.simpleName := by
  have hfirst : '.' ∉ first.simpleName.toList := Text.dot_notMem_lastSegment _
  have hsecond : '.' ∉ second.simpleName.toList := Text.dot_notMem_lastSegment _
  unfold codecPath outerChars at h
  cases hnamespace : first.namespaceName with
  | none =>
    cases hnamespace' : second.namespaceName with
    | none =>
      simp only [hnamespace, hnamespace', Option.map_none, Option.getD_none, List.nil_append] at h
      exact ⟨rfl, String.toList_injective h⟩
    | some outer' =>
      simp only [hnamespace, hnamespace', Option.map_none, Option.map_some, Option.getD_none, Option.getD_some, List.nil_append] at h
      exact absurd (by simp [h]) hfirst
  | some outer =>
    cases hnamespace' : second.namespaceName with
    | none =>
      simp only [hnamespace, hnamespace', Option.map_none, Option.map_some, Option.getD_none, Option.getD_some, List.nil_append] at h
      exact absurd (by simp [← h]) hsecond
    | some outer' =>
      simp only [hnamespace, hnamespace', Option.map_some, Option.getD_some, List.append_assoc, List.singleton_append] at h
      obtain ⟨houter, hsegment⟩ := Text.eq_of_append_dot_eq hfirst hsecond h
      exact ⟨congrArg some (String.toList_injective houter), hsegment⟩

theorem mayMeet_of_ofInstantiation_eq (hname : first.name ≠ second.name) (hfirst : first.isGeneric = true)
    (hsecond : second.isGeneric = true) {arguments arguments' : List TypeRef}
    (h : CodecName.ofInstantiation first arguments = CodecName.ofInstantiation second arguments') :
    MayMeet first second ∨ first.IsBracketed ∨ second.IsBracketed := by
  by_cases hbracket : first.IsBracketed ∨ second.IsBracketed
  · exact Or.inr hbracket
  · rw [not_or] at hbracket
    have hchars := congrArg String.toList h
    rw [toList_ofInstantiation, toList_ofInstantiation, List.append_cancel_left_eq] at hchars
    have hword : '<' ∉ "Formatter".toList := by decide
    have hpath : first.codecPath ++ "Formatter".toList = second.codecPath ++ "Formatter".toList := by
      apply Text.eq_of_append_cons_eq _ _ hchars
      · exact List.mem_append.not.mpr (not_or.mpr ⟨bracket_notMem_codecPath hbracket.1, hword⟩)
      · exact List.mem_append.not.mpr (not_or.mpr ⟨bracket_notMem_codecPath hbracket.2, hword⟩)
    obtain ⟨hnamespace, hsegment⟩ := eq_of_codecPath_eq (List.append_cancel_right hpath)
    by_cases hrelative : first.relativeName = second.relativeName
    · exact Or.inl (displaced_of_relativeName_eq hname hnamespace hrelative)
    · exact Or.inl (.curtailed hrelative hsegment (Or.inl (by simp [isBare, hfirst])) (Or.inl (by simp [isBare, hsecond])))

/-- The kind of entry that is made from a declaration itself. -/
def entryKind (declaration : Declaration) : EntryKind :=
  if declaration.kind = .enumType then .enumeration else declaration.ownKind

end Declaration

/-- The namespace and the name of the codec of an object, an enum or a union. -/
def Entry.codec? : Entry → Option (Option String × String)
  | .object schema => some (schema.namespaceName, schema.codecName)
  | .enumeration schema => some (schema.namespaceName, schema.codecName)
  | .union schema => some (schema.namespaceName, schema.codecName)
  | .generic _ => none

namespace Context

/-- A type that can be reached yields the entry, and has the declaration. -/
structure IsMadeFrom (context : Context) (roots : List TypeRef) (entry : Entry) (type : TypeRef) (declaration : Declaration) : Prop where
  reachable : context.Reachable roots type
  yields : context.Yields type entry
  declared : context.snapshot.declaration? type = some declaration

/-- A generic entry of the model for a generic type of the user, and the declaration of that type. -/
structure IsInstanceOf (context : Context) (roots : List TypeRef) (model : Model) (schema : GenericSchema)
    (declaration : Declaration) : Prop where
  held : model.find? ⟨.generic, schema.identity.text⟩ = some (.generic schema)
  made : ∃ type shape, context.Reachable roots type ∧ context.classify type = .ok shape ∧
    (shape = .definition declaration ∨ shape = .instantiation declaration) ∧ context.ownGeneric? type shape = some schema

/-- How entries for two types come to share the name of a codec: one declaration that is applied to different arguments, or two whose names meet. -/
inductive SharesCodec (type type' : TypeRef) (declaration declaration' : Declaration) : Prop where
  | applied (hsame : declaration = declaration') (hplain : declaration.isGeneric = false)
      (harguments : type.isGeneric = true ∨ type'.isGeneric = true) : SharesCodec type type' declaration declaration'
  | enumeration (hsame : declaration = declaration') (hkind : declaration.kind = .enumType) (hgeneric : declaration.isGeneric = true) :
      SharesCodec type type' declaration declaration'
  | meeting (hne : declaration ≠ declaration') (h : declaration.MayMeet declaration') : SharesCodec type type' declaration declaration'
  | separators (hne : declaration ≠ declaration') (h : Text.MixSeparators declaration.relativeName declaration'.relativeName) :
      SharesCodec type type' declaration declaration'

variable {context : Context} {roots : List TypeRef} {type type' : TypeRef} {shape : Shape} {declaration declaration' : Declaration}
  {entry entry' : Entry} {codec : Option String × String} {model : Model}

theorem ofDeclaration_eq_codecName (h : declaration.isPolymorphicBase = false) :
    CodecName.ofDeclaration declaration = declaration.codecName := by
  rw [CodecName.ofDeclaration, Declaration.codecName, Declaration.isBare, h, Bool.or_false]
  rfl

/-- The codec of an entry is named after the declaration of its type, which also decides the kind of the entry. -/
theorem Yields.exists_declaration (h : context.Yields type entry) (hcodec : entry.codec? = some codec) :
    ∃ declaration, context.snapshot.declaration? type = some declaration ∧
      codec = (declaration.namespaceName, declaration.codecName) ∧ entry.kind = declaration.entryKind ∧
      (declaration.isGeneric = true → declaration.kind ≠ .enumType → type = declaration.definition) := by
  cases h with
  | @object shape declaration limit schema edges hshape hobject hschema =>
    obtain ⟨hdeclaration, -⟩ := declaration?_of_classify hshape (Shape.declaration?_of_object? hobject)
    obtain ⟨hkind, hbase, -⟩ := (suits_of_classify hshape).of_object? hobject
    obtain ⟨layout, -, hlaid, -⟩ := layout_of_resolveObject hschema
    obtain ⟨-, -, hname, hnamespace⟩ := declared_of_objectOfLayout hlaid
    refine ⟨declaration, hdeclaration, ?_, ?_, fun hgeneric _ => eq_definition_of_classify hshape (Or.inl hobject) hgeneric⟩
    · rw [← Option.some.inj hcodec, hname, hnamespace, ofDeclaration_eq_codecName hbase]
    · rw [Declaration.entryKind, if_neg hkind, Declaration.ownKind, hbase]
      rfl
  | @union shape declaration schema edges hshape hunion hschema =>
    obtain ⟨hdeclaration, -⟩ := declaration?_of_classify hshape (Shape.declaration?_of_union? hunion)
    obtain ⟨hkind, hbase, -⟩ := (suits_of_classify hshape).of_union? hunion
    refine ⟨declaration, hdeclaration, ?_, ?_, fun hgeneric _ => eq_definition_of_classify hshape (Or.inr hunion) hgeneric⟩
    · rw [← Option.some.inj hcodec, Declaration.codecName, Declaration.isBare, hbase, Bool.or_true, if_pos rfl]
      exact declared_of_resolveUnion hschema
    · rw [Declaration.entryKind, if_neg hkind, Declaration.ownKind, if_pos hbase]
      rfl
  | @enumeration declaration hshape =>
    obtain ⟨hdeclaration, -⟩ := declaration?_of_classify hshape rfl
    have hkind : declaration.kind = .enumType := suits_of_classify hshape
    have hbase : declaration.isPolymorphicBase = false := by simp [Declaration.isPolymorphicBase, hkind]
    refine ⟨declaration, hdeclaration, ?_, ?_, fun _ hother => absurd hkind hother⟩
    · rw [← Option.some.inj hcodec, ← ofDeclaration_eq_codecName hbase]
    · rw [Declaration.entryKind, if_pos hkind]
      rfl
  | generic hshape hschema => simp [Entry.codec?] at hcodec
  | companion hshape hlookup hmem htemplate => simp [Entry.codec?] at hcodec

theorem kind_ne_generic_of_codec? (h : entry.codec? = some codec) : entry.kind ≠ .generic := by
  cases entry with
  | generic schema => simp [Entry.codec?] at h
  | object schema => simp [Entry.kind]
  | enumeration schema => simp [Entry.kind]
  | union schema => simp [Entry.kind]

/-- Different types of one declaration share a codec only if it cannot tell arguments apart. -/
theorem sharesCodec_of_ne (hne : type ≠ type') (hdeclared : context.snapshot.declaration? type = some declaration)
    (hdeclared' : context.snapshot.declaration? type' = some declaration)
    (hdefinition : declaration.isGeneric = true → declaration.kind ≠ .enumType → type = declaration.definition)
    (hdefinition' : declaration.isGeneric = true → declaration.kind ≠ .enumType → type' = declaration.definition) :
    SharesCodec type type' declaration declaration := by
  by_cases hgeneric : declaration.isGeneric = true
  · by_cases hkind : declaration.kind = .enumType
    · exact .enumeration rfl hkind hgeneric
    · exact absurd ((hdefinition hgeneric hkind).trans (hdefinition' hgeneric hkind).symm) hne
  · refine .applied rfl (eq_false_of_ne_true hgeneric) ?_
    by_contra hplain
    rw [not_or] at hplain
    have harguments : type.arguments = [] := by simpa [TypeRef.isGeneric] using hplain.1
    have harguments' : type'.arguments = [] := by simpa [TypeRef.isGeneric] using hplain.2
    apply hne
    rw [Snapshot.eq_named_of_declaration? hdeclared, Snapshot.eq_named_of_declaration? hdeclared', harguments, harguments']

theorem IsInstanceOf.exists_arguments {schema : GenericSchema} (h : context.IsInstanceOf roots model schema declaration) :
    ∃ type, context.snapshot.declaration? type = some declaration ∧ declaration.isGeneric = true ∧
      schema.codecExpression = CodecName.ofInstantiation declaration type.arguments := by
  obtain ⟨type, shape, -, hshape, rfl | rfl, hschema⟩ := h.made
  · obtain ⟨hdeclaration, -⟩ := declaration?_of_classify hshape rfl
    exact ⟨type, hdeclaration, (suits_of_classify hshape).2.1,
      congrArg GenericSchema.codecExpression (Option.some.inj hschema).symm⟩
  · obtain ⟨hdeclaration, -⟩ := declaration?_of_classify hshape rfl
    exact ⟨type, hdeclaration, (suits_of_classify hshape).2.1,
      congrArg GenericSchema.codecExpression (Option.some.inj hschema).symm⟩

/-- Two entries of a model have codecs with one name only if their declarations make them share it; and entries for instantiations of different generic types have one codec only if the names of the types meet, or hold a bracket, as no name that can be written does. -/
theorem sharesCodec_of_collects (h : context.Collects roots (.ok model)) :
    (∀ key key' entry entry' codec, model.find? key = some entry → model.find? key' = some entry' → key ≠ key' →
        entry.codec? = some codec → entry'.codec? = some codec →
        ∃ type type' declaration declaration', context.IsMadeFrom roots entry type declaration ∧
          context.IsMadeFrom roots entry' type' declaration' ∧ SharesCodec type type' declaration declaration') ∧
      ∀ schema schema' declaration declaration', context.IsInstanceOf roots model schema declaration →
        context.IsInstanceOf roots model schema' declaration' → declaration ≠ declaration' →
        schema.codecExpression = schema'.codecExpression →
        declaration.MayMeet declaration' ∨ declaration.IsBracketed ∨ declaration'.IsBracketed := by
  constructor
  · intro key key' entry entry' codec hheld hheld' hkeys hcodec hcodec'
    obtain ⟨rfl, type, hreachable, hyields⟩ := held_of_collects h hheld
    obtain ⟨rfl, type', hreachable', hyields'⟩ := held_of_collects h hheld'
    obtain ⟨declaration, hdeclared, hname, hkind, hdefinition⟩ := hyields.exists_declaration hcodec
    obtain ⟨declaration', hdeclared', hname', hkind', hdefinition'⟩ := hyields'.exists_declaration hcodec'
    refine ⟨type, type', declaration, declaration', ⟨hreachable, hyields, hdeclared⟩, ⟨hreachable', hyields', hdeclared'⟩, ?_⟩
    by_cases hsame : declaration = declaration'
    · subst hsame
      refine sharesCodec_of_ne ?_ hdeclared hdeclared' hdefinition hdefinition'
      rintro rfl
      apply hkeys
      rw [Entry.key, Entry.key, hkind, hkind', hyields.identity_eq (kind_ne_generic_of_codec? hcodec),
        hyields'.identity_eq (kind_ne_generic_of_codec? hcodec')]
    · rw [hname, Prod.mk.injEq] at hname'
      have hnames : declaration.name ≠ declaration'.name := fun heq => hsame (Snapshot.eq_of_name_eq hdeclared hdeclared' heq)
      rcases Declaration.mayMeet_of_codecName_eq hnames hname'.1 hname'.2 with hmeet | hmixed
      · exact .meeting hsame hmeet
      · exact .separators hsame hmixed
  · intro schema schema' declaration declaration' hinstance hinstance' hne hcodec
    obtain ⟨type, hdeclared, hgeneric, hexpression⟩ := hinstance.exists_arguments
    obtain ⟨type', hdeclared', hgeneric', hexpression'⟩ := hinstance'.exists_arguments
    have hnames : declaration.name ≠ declaration'.name := fun heq => hne (Snapshot.eq_of_name_eq hdeclared hdeclared' heq)
    rw [hexpression, hexpression'] at hcodec
    exact Declaration.mayMeet_of_ofInstantiation_eq hnames hgeneric hgeneric' hcodec

def standDeclaration (name : String) (kind : TypeKind) (parameters : List String) (containing : Option String) : Declaration where
  name := name
  kind := kind
  namespaceName := some "Demo"
  containingType := containing
  parameters := parameters.map fun parameter => { name := parameter }
  attributes := [.serializableObject true]

/-- A pair of types for each way in which codecs can meet. -/
def bazaarDeclarations : List Declaration := [
  standDeclaration "Booth" .classType ["T"] none,
  standDeclaration "Demo.Booth" .classType ["T"] none,
  standDeclaration "Demo.Color" .enumType [] none,
  standDeclaration "Demo.East" .classType [] none,
  standDeclaration "Demo.East.Gate" .enumType [] (some "Demo.East"),
  { standDeclaration "Demo.East.Guild" .interfaceType [] (some "Demo.East") with attributes := [.union 0 (.named "Demo.West" [])] },
  standDeclaration "Demo.East.Stall" .classType ["T"] (some "Demo.East"),
  standDeclaration "Demo.East_Gate" .enumType [] none,
  standDeclaration "Demo.Guild" .enumType [] none,
  standDeclaration "Demo.Level" .enumType ["T"] none,
  { standDeclaration "Demo.West" .classType [] none with interfaces := [.named "Demo.East.Guild" []] },
  standDeclaration "Demo.West.Stall" .classType ["T"] (some "Demo.West")]

def bazaarContext : Context where
  snapshot := ⟨bazaarDeclarations⟩
  options := {}

def bazaarRoots : List TypeRef := [
  .named "Booth" [.parameter "T"], .named "Demo.Booth" [.parameter "T"],
  .named "Demo.Color" [], .named "Demo.Color" [.named "int" []],
  .named "Demo.East.Gate" [], .named "Demo.East_Gate" [],
  .named "Demo.East.Guild" [], .named "Demo.Guild" [],
  .named "Demo.East.Stall" [.parameter "T"], .named "Demo.West.Stall" [.parameter "T"],
  .named "Demo.Level" [.named "int" []], .named "Demo.Level" [.named "long" []]]

/-- Pairs of entries, each with the one name of their codecs. -/
def bazaarMeetings : List (EntryKey × EntryKey × String) := [
  (⟨.object, "Booth<T>"⟩, ⟨.object, "Demo.Booth<T>"⟩, "Booth"),
  (⟨.enumeration, "Demo.Color"⟩, ⟨.enumeration, "Demo.Color<int>"⟩, "Color"),
  (⟨.enumeration, "Demo.East.Gate"⟩, ⟨.enumeration, "Demo.East_Gate"⟩, "East_Gate"),
  (⟨.union, "Demo.East.Guild"⟩, ⟨.enumeration, "Demo.Guild"⟩, "Guild"),
  (⟨.object, "Demo.East.Stall<T>"⟩, ⟨.object, "Demo.West.Stall<T>"⟩, "Stall"),
  (⟨.enumeration, "Demo.Level<int>"⟩, ⟨.enumeration, "Demo.Level<long>"⟩, "Level")]

/-- Pairs of generic entries, each with their one codec. -/
def bazaarExpressions : List (String × String × String) := [
  ("Booth<T>", "Demo.Booth<T>", "Formatters::Demo.BoothFormatter<T>"),
  ("Demo.East.Stall<T>", "Demo.West.Stall<T>", "Formatters::Demo.StallFormatter<T>")]

theorem ofDeclarations_bazaarContext : Snapshot.ofDeclarations bazaarDeclarations = .ok bazaarContext.snapshot := by
  rw [Snapshot.ofDeclarations_of_sorted (by decide +kernel)]
  rfl

theorem exists_model_bazaar : ∃ model, bazaarContext.Collects bazaarRoots (.ok model) ∧
    (∀ meeting ∈ bazaarMeetings, (model.find? meeting.1).bind Entry.codec? = some (some "Demo", meeting.2.2) ∧
      (model.find? meeting.2.1).bind Entry.codec? = some (some "Demo", meeting.2.2)) ∧
    ∀ meeting ∈ bazaarExpressions, (model.generics.find? meeting.1).map (·.codecExpression) = some meeting.2.2 ∧
      (model.generics.find? meeting.2.1).map (·.codecExpression) = some meeting.2.2 := by
  have hfound : ((bazaarContext.collect .never 60 bazaarRoots).bind Except.toOption).map (fun model =>
      (bazaarMeetings.all fun meeting => (model.find? meeting.1).bind Entry.codec? == some (some "Demo", meeting.2.2) &&
        (model.find? meeting.2.1).bind Entry.codec? == some (some "Demo", meeting.2.2),
      bazaarExpressions.all fun meeting => (model.generics.find? meeting.1).map (·.codecExpression) == some meeting.2.2 &&
        (model.generics.find? meeting.2.1).map (·.codecExpression) == some meeting.2.2)) = some (true, true) := by decide +kernel
  obtain ⟨model, hcollects, hfound⟩ := exists_collects_of_map hfound
  obtain ⟨hmeetings, hexpressions⟩ := Prod.mk.inj hfound
  refine ⟨model, hcollects, ?_, ?_⟩
  · intro meeting hmem
    simpa using List.all_eq_true.mp hmeetings meeting hmem
  · intro meeting hmem
    simpa using List.all_eq_true.mp hexpressions meeting hmem

/-- Brackets, which no parsed name has: the one type ends where the argument of the other one begins. -/
def bracketContext : Context where
  snapshot := ⟨[standDeclaration "Demo.Fair" .classType ["T"] none, standDeclaration "Demo.FairFormatter<tea" .classType ["T"] none]⟩
  options := ({} : Options).ignoreType "teaFormatter<int"

def bracketRoots : List TypeRef := [
  .named "Demo.Fair" [.named "teaFormatter<int" []], .named "Demo.FairFormatter<tea" [.named "int" []]]

theorem ofDeclarations_bracketContext :
    Snapshot.ofDeclarations bracketContext.snapshot.declarations = .ok bracketContext.snapshot := by
  rw [Snapshot.ofDeclarations_of_sorted (by decide +kernel)]
  rfl

/-- Each way of meeting occurs: different entries of the bazaar have codecs with one name, and generic entries for different types have one codec. -/
theorem codec_eq_bazaar :
    (Snapshot.ofDeclarations bazaarDeclarations = .ok bazaarContext.snapshot ∧
      ∃ model, bazaarContext.Collects bazaarRoots (.ok model) ∧
        (∀ meeting ∈ bazaarMeetings, meeting.1 ≠ meeting.2.1 ∧
          (model.find? meeting.1).bind Entry.codec? = some (some "Demo", meeting.2.2) ∧
          (model.find? meeting.2.1).bind Entry.codec? = some (some "Demo", meeting.2.2)) ∧
        ∀ meeting ∈ bazaarExpressions, (model.generics.find? meeting.1).map (·.codecExpression) = some meeting.2.2 ∧
          (model.generics.find? meeting.2.1).map (·.codecExpression) = some meeting.2.2) ∧
    Snapshot.ofDeclarations bracketContext.snapshot.declarations = .ok bracketContext.snapshot ∧
      ∃ model, bracketContext.Collects bracketRoots (.ok model) ∧
        (model.generics.find? "Demo.Fair<teaFormatter<int>").map (·.codecExpression) =
          some "Formatters::Demo.FairFormatter<teaFormatter<int>" ∧
        (model.generics.find? "Demo.FairFormatter<tea<int>").map (·.codecExpression) =
          some "Formatters::Demo.FairFormatter<teaFormatter<int>" := by
  constructor
  · obtain ⟨model, hcollects, hmeetings, hexpressions⟩ := exists_model_bazaar
    have hkeys : ∀ meeting ∈ bazaarMeetings, meeting.1 ≠ meeting.2.1 := by decide +kernel
    exact ⟨ofDeclarations_bazaarContext, model, hcollects, fun meeting hmem => ⟨hkeys meeting hmem, hmeetings meeting hmem⟩,
      hexpressions⟩
  · have hfound : ((bracketContext.collect .never 20 bracketRoots).bind Except.toOption).map (fun model =>
        ((model.generics.find? "Demo.Fair<teaFormatter<int>").map (·.codecExpression),
        (model.generics.find? "Demo.FairFormatter<tea<int>").map (·.codecExpression))) =
          some (some "Formatters::Demo.FairFormatter<teaFormatter<int>",
            some "Formatters::Demo.FairFormatter<teaFormatter<int>") := by decide +kernel
    obtain ⟨model, hmodel, hfound⟩ := Option.map_eq_some_iff.mp hfound
    obtain ⟨hfair, hformatter⟩ := Prod.mk.inj hfound
    exact ⟨ofDeclarations_bracketContext, model, ⟨20, eq_ok_of_toOption hmodel⟩, hfair, hformatter⟩

/-- The stalls share a codec because of their declarations. -/
theorem sharesCodec_stalls :
    ∃ model east west, bazaarContext.Collects bazaarRoots (.ok model) ∧
      model.find? ⟨.object, "Demo.East.Stall<T>"⟩ = some east ∧ model.find? ⟨.object, "Demo.West.Stall<T>"⟩ = some west ∧
      ∃ type type' declaration declaration', bazaarContext.IsMadeFrom bazaarRoots east type declaration ∧
        bazaarContext.IsMadeFrom bazaarRoots west type' declaration' ∧ SharesCodec type type' declaration declaration' := by
  obtain ⟨model, hcollects, hmeetings, -⟩ := exists_model_bazaar
  have hmem : (⟨.object, "Demo.East.Stall<T>"⟩, ⟨.object, "Demo.West.Stall<T>"⟩, "Stall") ∈ bazaarMeetings := by decide
  obtain ⟨heast, hwest⟩ := hmeetings _ hmem
  obtain ⟨east, hheld, hcodec⟩ := Option.bind_eq_some_iff.mp heast
  obtain ⟨west, hheld', hcodec'⟩ := Option.bind_eq_some_iff.mp hwest
  refine ⟨model, east, west, hcollects, hheld, hheld', ?_⟩
  exact (sharesCodec_of_collects hcollects).1 _ _ east west _ hheld hheld' (by decide) hcodec hcodec'

end Context

end SchemaClosure
