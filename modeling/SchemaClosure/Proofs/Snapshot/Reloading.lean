import SchemaClosure.Proofs.Declaration.Decoded
import SchemaClosure.Proofs.Declaration.Printing
import SchemaClosure.Proofs.Snapshot.Nesting

namespace SchemaClosure

namespace TypeRef

variable {scope : List String}

mutual

/-- A bound parameter is written like the name it was. -/
theorem forgetParameters_bindParameters : (type : TypeRef) → (type.bindParameters scope).forgetParameters = type.forgetParameters
  | .named name [] => by
    rw [bindParameters]
    split <;> rfl
  | .named name (first :: rest) => by
    rw [bindParameters, forgetParameters, forgetParameters, forgetAllParameters, forgetAllParameters,
      forgetParameters_bindParameters first, forgetAllParameters_bindAllParameters rest]
  | .parameter _ => rfl
  | .array element _ => by rw [bindParameters, forgetParameters, forgetParameters, forgetParameters_bindParameters element]
  | .tuple elements => by rw [bindParameters, forgetParameters, forgetParameters, forgetAllParameters_bindAllParameters elements]

theorem forgetAllParameters_bindAllParameters : (types : List TypeRef) →
    forgetAllParameters (bindAllParameters scope types) = forgetAllParameters types
  | [] => rfl
  | type :: rest => by
    rw [bindAllParameters, forgetAllParameters, forgetAllParameters, forgetParameters_bindParameters type,
      forgetAllParameters_bindAllParameters rest]

end

end TypeRef

namespace Snapshot

variable {snapshot ordered : Snapshot} {declarations levels : List Declaration} {declaration completed current : Declaration} {start : String}
  {fuel : Nat}

/-- What a walk passes from a level on does not depend on what it passed before. -/
theorem exists_outer_of_checkNesting {inner : List Declaration} (h : ordered.checkNesting start fuel inner current = .ok levels)
    (start' : String) {inner' : List Declaration} (hsubset : inner' ⊆ inner) :
    ∃ outer, levels = inner.reverse ++ current :: outer ∧
      ordered.checkNesting start' fuel inner' current = .ok (inner'.reverse ++ current :: outer) := by
  induction fuel generalizing current inner inner' with
  | zero => simp [checkNesting] at h
  | succ fuel ih =>
    unfold checkNesting at h ⊢
    split at h
    · exact ⟨[], by simpa using (Except.ok.inj h).symm, by simp⟩
    · rename_i containing hcontaining
      split at h
      · simp at h
      · rename_i hnew
        have hsubset' : current :: inner' ⊆ current :: inner := List.cons_subset_cons current hsubset
        have hnew' : ¬(current :: inner').any (·.name == containing) = true := by
          rw [List.any_eq_true] at hnew ⊢
          rintro ⟨level, hlevel, hname⟩
          exact hnew ⟨level, hsubset' hlevel, hname⟩
        rw [if_neg hnew']
        split at h
        · simp at h
        · rename_i outermost hfind
          obtain ⟨outer, hlevels, hwalk⟩ := ih h hsubset'
          exact ⟨outermost :: outer, by simpa using hlevels, by simpa using hwalk⟩

/-- The levels around a level that is passed are the last ones of the levels passed. -/
theorem exists_suffix_of_checkNesting {inner : List Declaration}
    (h : ordered.checkNesting start fuel inner current = .ok (inner.reverse ++ levels)) {level : Declaration} (hlevel : level ∈ levels) :
    ∃ outer, level :: outer <:+ levels ∧ ordered.checkNesting level.name fuel [] level = .ok (level :: outer) := by
  induction fuel generalizing inner current levels with
  | zero => simp [checkNesting] at h
  | succ fuel ih =>
    obtain ⟨outer, hlevels, hown⟩ := exists_outer_of_checkNesting h level.name (List.nil_subset inner)
    obtain rfl := List.append_cancel_left hlevels
    rcases List.mem_cons.mp hlevel with rfl | hlevel
    · exact ⟨outer, List.suffix_refl _, hown⟩
    · unfold checkNesting at h
      split at h
      · have hnone := Except.ok.inj h
        simp only [List.reverse_cons, List.append_cancel_left_eq, List.cons.injEq, true_and] at hnone
        rw [← hnone] at hlevel
        exact absurd hlevel List.not_mem_nil
      · split at h
        · simp at h
        · split at h
          · simp at h
          · rename_i outermost hfind
            have hrest : ordered.checkNesting start fuel (current :: inner) outermost = .ok ((current :: inner).reverse ++ outer) := by
              simpa using h
            obtain ⟨around, hsuffix, hwalk⟩ := ih hrest hlevel
            exact ⟨around, hsuffix.trans (List.suffix_cons current outer), checkNesting_mono hwalk (Nat.le_succ fuel)⟩

theorem namespaceOf_eq_none_iff : namespaceOf levels = none ↔ (∀ level ∈ levels, level.namespaceName = none) ∧
    (levels.getLast?.bind fun outermost => (Text.splitAtLastDot outermost.name).map (·.1)) = none := by
  rw [namespaceOf]
  split
  · rename_i stated hstated
    obtain ⟨level, hlevel, hname⟩ := List.exists_of_findSome?_eq_some hstated
    simp only [reduceCtorEq, false_iff, not_and]
    intro hall
    rw [hall level hlevel] at hname
    simp at hname
  · rename_i hstated
    rw [List.findSome?_eq_none_iff] at hstated
    exact (and_iff_right hstated).symm

/-- Where nothing around a declaration gives it a namespace, the levels around it have none either. -/
theorem namespaceOf_of_suffix {inner : Declaration} {outer : List Declaration} (h : namespaceOf levels = none)
    (hsuffix : inner :: outer <:+ levels) : namespaceOf (inner :: outer) = none := by
  rw [namespaceOf_eq_none_iff] at h ⊢
  refine ⟨fun level hlevel => h.1 level (hsuffix.subset hlevel), ?_⟩
  obtain ⟨before, rfl⟩ := hsuffix
  simpa using h.2

/-- Filling in the namespaces changes none. -/
theorem namespaceOf_completed {levels' : List Declaration}
    (hlevels : ordered.checkNesting declaration.name ordered.size [] declaration = .ok levels)
    (hcompleted : List.Forall₂ (fun level completed => ordered.complete level = .ok completed) levels levels') :
    namespaceOf levels' = namespaceOf levels := by
  have hfilled {level completed : Declaration} {own : List Declaration} (h : ordered.complete level = .ok completed)
      (hown : ordered.checkNesting level.name ordered.size [] level = .ok own) : completed.namespaceName = namespaceOf own := by
    rw [complete, hown] at h
    rw [← Except.ok.inj h]
    rfl
  cases hnamespace : namespaceOf levels with
  | some stated =>
    obtain ⟨outer, rfl, -⟩ := exists_outer_of_checkNesting hlevels declaration.name (List.Subset.refl [])
    obtain ⟨filled, rest, hdeclaration, -, rfl⟩ := List.forall₂_cons_left_iff.mp hcompleted
    have hname : filled.namespaceName = some stated := (hfilled hdeclaration hlevels).trans hnamespace
    rw [namespaceOf, List.findSome?_cons, hname]
  | none =>
    rw [namespaceOf_eq_none_iff]
    refine ⟨?_, ?_⟩
    · intro filled hmem
      obtain ⟨level, hlevel, hdeclaration⟩ := exists_of_mem_mapM hcompleted hmem
      have hwalk : ordered.checkNesting declaration.name ordered.size [] declaration = .ok ([].reverse ++ levels) := hlevels
      obtain ⟨outer, hsuffix, hown⟩ := exists_suffix_of_checkNesting hwalk hlevel
      rw [hfilled hdeclaration hown]
      exact namespaceOf_of_suffix hnamespace hsuffix
    · have hderived (levels : List Declaration) :
          (levels.getLast?.bind fun outermost => (Text.splitAtLastDot outermost.name).map (·.1)) =
            (levels.map (·.name)).getLast?.bind fun name => (Text.splitAtLastDot name).map (·.1) := by
        rw [List.getLast?_map, Option.bind_map]
        rfl
      rw [hderived, names_of_complete hcompleted, ← hderived]
      exact (namespaceOf_eq_none_iff.mp hnamespace).2

/-- The declarations of a snapshot as a reader of their texts has them. -/
def forgetParameters (snapshot : Snapshot) : Snapshot := ⟨snapshot.declarations.map (·.mapTypes TypeRef.forgetParameters)⟩

/-- A completed declaration is the given one with a namespace, but for its type parameters. -/
theorem mapTypes_forgetParameters_of_read {scope : List String} (hread : ∀ type ∈ declaration.mentionedTypes, type.isLegible [] = true)
    (namespaceName : Option String) :
    (({ declaration with namespaceName } : Declaration).bindParameters scope).mapTypes TypeRef.forgetParameters =
      { declaration with namespaceName } := by
  rw [Declaration.bindParameters_eq_mapTypes, Declaration.mapTypes_mapTypes]
  apply Declaration.mapTypes_eq_self
  intro type htype
  rw [Function.comp_apply, TypeRef.forgetParameters_bindParameters,
    TypeRef.forgetParameters_eq_self (TypeRef.isOpen_eq_false_of_isLegible (hread type htype))]

theorem namespaceOf_map_mapTypes (f : TypeRef → TypeRef) (levels : List Declaration) :
    namespaceOf (levels.map (·.mapTypes f)) = namespaceOf levels := by
  simp [namespaceOf, List.findSome?_map, Function.comp_def, Option.bind_map]

theorem scopeOf_map_mapTypes (f : TypeRef → TypeRef) (levels : List Declaration) :
    scopeOf (levels.map (·.mapTypes f)) = scopeOf levels := by
  have hsame (level : Declaration) : (level.mapTypes f).parameters.map (·.name) = level.parameters.map (·.name) :=
    Declaration.parameterNames_mapTypes
  simp only [scopeOf, List.flatMap_map, hsame]

theorem scopeOf_completed {levels' : List Declaration}
    (h : List.Forall₂ (fun level completed => ordered.complete level = .ok completed) levels levels') : scopeOf levels' = scopeOf levels := by
  induction h with
  | nil => rfl
  | cons hlevel hrest ih =>
    obtain ⟨around, -, hcompleted⟩ := bind_eq_ok_iff.mp hlevel
    rw [scopeOf, scopeOf, List.flatMap_cons, List.flatMap_cons, ← Except.ok.inj hcompleted]
    exact congrArg₂ (· ++ ·) (Declaration.parameterNames_bindParameters (scopeOf around) _) ih

theorem checkNesting_forgetParameters (h : snapshot.checkNesting start snapshot.size [] current = .ok levels) :
    snapshot.forgetParameters.checkNesting start snapshot.forgetParameters.size [] (current.mapTypes TypeRef.forgetParameters) =
      .ok (levels.map (·.mapTypes TypeRef.forgetParameters)) := by
  let IsPlain (level plain : Declaration) : Prop := level.mapTypes TypeRef.forgetParameters = plain
  have hmap (levels : List Declaration) : List.Forall₂ IsPlain levels (levels.map (·.mapTypes TypeRef.forgetParameters)) :=
    List.forall₂_map_right_iff.mpr (List.forall₂_same.mpr fun _ _ => rfl)
  have hname {level plain : Declaration} (hplain : IsPlain level plain) : level.name = plain.name := by
    rw [← hplain, Declaration.name_mapTypes]
  have hcontaining {level plain : Declaration} (hplain : IsPlain level plain) : level.containingType = plain.containingType := by
    rw [← hplain, Declaration.containingType_mapTypes]
  have hfind (containing : String) : Option.Rel IsPlain (snapshot.find? containing) (snapshot.forgetParameters.find? containing) :=
    rel_find?_of_forall₂ (hmap snapshot.declarations) fun hplain => by rw [hname hplain]
  obtain ⟨plains, hplains, hsame⟩ := checkNesting_congr hname hcontaining (fun _ _ => hfind _) rfl .nil h
  have hlevels : levels.map (·.mapTypes TypeRef.forgetParameters) = plains := by
    rwa [← List.forall₂_eq_eq_eq, List.forall₂_map_left_iff]
  have hsize : snapshot.forgetParameters.size = snapshot.size := List.length_map _
  rw [hsize, hplains, hlevels]

theorem complete_forgetParameters
    (h : List.Forall₂ (fun declaration completed => ordered.complete declaration = .ok completed) ordered.declarations
      snapshot.declarations)
    (hcompleted : ordered.complete declaration = .ok completed)
    (hread : ∀ type ∈ declaration.mentionedTypes, type.isLegible [] = true) :
    snapshot.forgetParameters.complete (completed.mapTypes TypeRef.forgetParameters) = .ok completed := by
  obtain ⟨levels, levels', hlevels, hdeclaration, hlevels', hfilled⟩ := checkNesting_of_complete h hcompleted
  have hplain : completed.mapTypes TypeRef.forgetParameters = { declaration with namespaceName := namespaceOf levels } := by
    rw [hdeclaration, mapTypes_forgetParameters_of_read hread]
  have hnamespace : namespaceOf levels' = namespaceOf levels := namespaceOf_completed hlevels hfilled
  have hscope : scopeOf levels' = scopeOf levels := scopeOf_completed hfilled
  have hcomplete : snapshot.forgetParameters.complete (completed.mapTypes TypeRef.forgetParameters) =
      .ok (({ completed.mapTypes TypeRef.forgetParameters with namespaceName := namespaceOf levels } : Declaration).bindParameters
        (scopeOf levels)) := by
    rw [complete, Declaration.name_mapTypes, checkNesting_forgetParameters hlevels', ← hnamespace, ← hscope,
      ← namespaceOf_map_mapTypes TypeRef.forgetParameters levels', ← scopeOf_map_mapTypes TypeRef.forgetParameters levels']
    rfl
  rw [hcomplete, hplain, hdeclaration]

/-- The declarations of a snapshot stand in the order of their names. -/
theorem pairwise_names (h : ofDeclarations declarations = .ok snapshot) :
    snapshot.declarations.Pairwise fun first second => first.name ≤ second.name := by
  obtain ⟨⟨⟩, -, h⟩ := bind_eq_ok_iff.mp h
  obtain ⟨completed, hcompleted, h⟩ := bind_eq_ok_iff.mp h
  obtain ⟨⟨⟩, -, h⟩ := bind_eq_ok_iff.mp h
  rw [← Except.ok.inj h]
  have hnames := names_of_complete (mapM_eq_ok_iff.mp hcompleted)
  have hsorted := List.pairwise_map.mpr (pairwise_mergeSort_name declarations)
  rw [← hnames] at hsorted
  exact List.pairwise_map.mp hsorted

theorem ofDeclarations_forgetParameters (h : ofDeclarations declarations = .ok snapshot)
    (hread : ∀ declaration ∈ declarations, ∀ type ∈ declaration.mentionedTypes, type.isLegible [] = true) :
    ofDeclarations snapshot.forgetParameters.declarations = .ok snapshot := by
  obtain ⟨hnames, ordered, hperm, hcompleted, hbases⟩ := ofDeclarations_eq_ok h
  have hplain : snapshot.forgetParameters.declarations.map (·.name) = snapshot.declarations.map (·.name) := by
    simp [forgetParameters]
  have hsorted : snapshot.forgetParameters.declarations.Pairwise fun first second => first.name ≤ second.name := by
    have hnames := List.pairwise_map.mpr (pairwise_names h)
    rw [← hplain] at hnames
    exact List.pairwise_map.mp hnames
  have hnamed : "" ∉ snapshot.forgetParameters.declarations.map (·.name) := by
    rw [hplain, names_of_complete hcompleted, (hperm.map _).mem_iff]
    exact named_of_checkNames hnames
  have hdistinct : (snapshot.forgetParameters.declarations.map (·.name)).Nodup := by
    rw [hplain]
    exact nodup_names h
  have hcomplete : snapshot.forgetParameters.declarations.mapM snapshot.forgetParameters.complete = .ok snapshot.declarations := by
    rw [mapM_eq_ok_iff, forgetParameters, List.forall₂_map_left_iff, List.forall₂_same]
    intro completed hmem
    obtain ⟨given, hgiven, hfilled⟩ := exists_of_mem_mapM hcompleted hmem
    exact complete_forgetParameters hcompleted hfilled (hread given (hperm.mem_iff.mp hgiven))
  rw [ofDeclarations_of_sorted hsorted, checkNames_of_nodup hnamed hdistinct fun _ _ => List.not_mem_nil]
  change (do
    let reread : Snapshot := ⟨← snapshot.forgetParameters.declarations.mapM snapshot.forgetParameters.complete⟩
    reread.declarations.forM reread.checkBases
    return reread) = _
  rw [hcomplete]
  change (do snapshot.declarations.forM snapshot.checkBases; return snapshot) = _
  rw [forM_eq_ok_iff.mpr hbases]
  rfl

/-- The file of a snapshot that was read holds its declarations, with their type parameters as bare names. -/
theorem listOfFile?_fileOfList (h : ofDeclarations declarations = .ok snapshot) (hread : ∀ declaration ∈ declarations, declaration.IsRead) :
    Declaration.listOfFile? (Declaration.fileOfList snapshot.declarations) = some snapshot.forgetParameters.declarations := by
  have hdeclarations : Json.list? Declaration.ofJson? (.array (snapshot.declarations.map Declaration.toJson)) =
      some snapshot.forgetParameters.declarations := by
    apply Json.list?_array_map
    intro declaration hmem
    obtain ⟨given, hgiven, -, -, levels, -, rfl⟩ := exists_levels_of_mem h hmem
    obtain ⟨hmentioned, hmembers⟩ := hread given hgiven
    apply Declaration.ofJson?_toJson
    · rw [Declaration.mentionedTypes_bindParameters, List.forall_mem_map]
      exact fun type htype => TypeRef.readAs_forgetParameters (TypeRef.isLegible_bindParameters (hmentioned type htype))
    · rw [Declaration.bindParameters_eq_mapTypes, Declaration.memberAttributes_mapTypes]
      exact hmembers
  have hfile : Record.ofJsonExactly? ["types"] (Declaration.fileOfList snapshot.declarations) = some ⟨_⟩ :=
    Record.ofJsonExactly?_record (by simp) (by simp)
  rw [Declaration.listOfFile?, hfile]
  exact hdeclarations

/-- **A snapshot that was read from a file is read again from the text that its declarations are written as.** The text may have either layout; what is read again are declarations that make the same snapshot. -/
theorem reads_written {file : Json} (hfile : Declaration.listOfFile? file = some declarations)
    (h : ofDeclarations declarations = .ok snapshot) {text : String}
    (htext : text = (Declaration.fileOfList snapshot.declarations).compact ∨ text = (Declaration.fileOfList snapshot.declarations).pretty) :
    ∃ written, Json.parse? text = some written ∧
      ∃ reread, Declaration.listOfFile? written = some reread ∧ ofDeclarations reread = .ok snapshot := by
  have hread : ∀ declaration ∈ declarations, declaration.IsRead := Declaration.isRead_of_listOfFile? hfile
  have hplain := Declaration.isPlain_fileOfList snapshot.declarations
  refine ⟨Declaration.fileOfList snapshot.declarations, ?_, snapshot.forgetParameters.declarations, listOfFile?_fileOfList h hread,
    ofDeclarations_forgetParameters h fun declaration hmem => (hread declaration hmem).mentioned⟩
  rcases htext with rfl | rfl
  · exact Json.parse?_compact hplain
  · exact Json.parse?_pretty hplain

/-- A crate of things that can be compared, and a slip inside that may carry one of them. -/
def crateFile : Json := .record [("types", .array [
  .record [("name", .text "Demo.Crate"),
    ("type_params", .array [.record [("name", .text "T"), ("constraint_types", .texts ["System.IComparable<T>"])]]),
    ("attributes", .array [.record [("kind", .text "serializable_object")]]),
    ("properties", .array [.record [("name", .text "Content"), ("type", .text "T[]"), ("setter", .null),
      ("attributes", .array [.record [("kind", .text "key"), ("value", .integer 3)]])]])],
  .record [("name", .text "Demo.Crate.Slip"), ("containing_type", .text "Demo.Crate"),
    ("fields", .array [.record [("name", .text "Sample"), ("type", .text "T?"),
      ("attributes", .array [.record [("kind", .text "key"), ("value", .null)]])]])]])]

def crate : Declaration :=
  { name := "Demo.Crate"
    namespaceName := some "Demo"
    parameters := [{ name := "T", constraintTypes := [.named "System.IComparable" [.parameter "T"]] }]
    attributes := [.serializableObject false]
    properties := [{ name := "Content", type := .array (.parameter "T") 1, setter := none, attributes := [.key (.integer 3)] }] }

def crateSlip : Declaration :=
  { name := "Demo.Crate.Slip"
    namespaceName := some "Demo"
    containingType := some "Demo.Crate"
    fields := [{ name := "Sample", type := .named TypeRef.nullableName [.parameter "T"], attributes := [.key .null] }] }

/-- The declarations in the file, which tells neither namespaces nor type parameters. -/
def crateDeclarations : List Declaration := [
  { crate with
    namespaceName := none
    parameters := [{ name := "T", constraintTypes := [.named "System.IComparable" [.named "T" []]] }]
    properties := [{ name := "Content", type := .array (.named "T" []) 1, setter := none, attributes := [.key (.integer 3)] }] },
  { crateSlip with
    namespaceName := none
    fields := [{ name := "Sample", type := .named TypeRef.nullableName [.named "T" []], attributes := [.key .null] }] }]

theorem listOfFile?_crateFile : Declaration.listOfFile? crateFile = some crateDeclarations := by decide +kernel

theorem ofDeclarations_crateDeclarations : ofDeclarations crateDeclarations = .ok ⟨[crate, crateSlip]⟩ := by
  rw [ofDeclarations_of_sorted (by decide +kernel)]
  rfl

/-- The text of the crate tells its namespace, and that it has no setter, but its type parameter by name only. -/
theorem reads_written_crate : ∃ written, Json.parse? (Declaration.fileOfList [crate, crateSlip]).pretty = some written ∧
    ∃ reread, Declaration.listOfFile? written = some reread ∧ ofDeclarations reread = .ok ⟨[crate, crateSlip]⟩ :=
  reads_written listOfFile?_crateFile ofDeclarations_crateDeclarations (Or.inr rfl)

end Snapshot

end SchemaClosure
