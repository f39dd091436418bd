import SchemaClosure.Proofs.Closure.RootSets
import SchemaClosure.Proofs.Closure.Termination

namespace SchemaClosure

/-- Two models that mark the generic entries alike which both of them have. -/
def Model.MarksAlike (first second : Model) : Prop :=
  ∀ text schema schema', first.generics.find? text = some schema → second.generics.find? text = some schema' →
    schema.isOpenGeneric = schema'.isOpenGeneric

/-- Two models that differ at most in the marks of generic entries. -/
def Model.Agrees (first second : Model) : Prop :=
  ∀ key, (first.find? key).map Entry.withoutMark = (second.find? key).map Entry.withoutMark

namespace Context

variable {context : Context} {scope : List String} {root : TypeRef} {roots roots' : List TypeRef} {model model' : Model}

/-- What a root finds on its own comes first in the model of a collection that begins with it. -/
theorem collects_cons (hsnapshot : context.snapshot.isLegible scope = true)
    (hroots : ∀ other ∈ root :: roots, other.isLegible scope = true) (h : context.Collects (root :: roots) (.ok model)) :
    ∃ first rest, context.Collects [root] (.ok first) ∧ context.Collects roots (.ok rest) ∧ model = first.merge rest := by
  obtain ⟨first, hfirst⟩ : ∃ first, context.Collects [root] (.ok first) := by
    apply exists_collects_of_subset hsnapshot hroots h
    intro other hother
    rw [List.mem_singleton.mp hother]
    exact List.mem_cons_self
  obtain ⟨rest, hrest⟩ : ∃ rest, context.Collects roots (.ok rest) :=
    exists_collects_of_subset hsnapshot hroots h fun _ hmem => List.mem_cons_of_mem _ hmem
  have hsets : [[root], roots].flatten = root :: roots := by simp
  obtain ⟨outcome, hmerges, hflatten⟩ : ∃ outcome, context.MergesTo .empty [[root], roots] outcome ∧
      context.Collects [[root], roots].flatten outcome := by
    apply collects_flatten_of_checked hsnapshot
    · intro set hset other hother
      apply hroots
      rw [← hsets]
      exact List.mem_flatten.mpr ⟨set, hset, hother⟩
    · intro set hset other hother
      apply checked_of_collects h
      rw [← hsets]
      exact List.mem_flatten.mpr ⟨set, hset, hother⟩
    · exact List.forall_mem_cons.mpr ⟨⟨_, hfirst⟩, List.forall_mem_singleton.mpr ⟨_, hrest⟩⟩
  rw [hsets] at hflatten
  have hboth : context.MergesTo .empty [[root], roots] (.ok ((Model.empty.merge first).merge rest)) :=
    mergesTo_cons_ok hfirst (mergesTo_cons_ok hrest (mergesTo_nil _))
  rw [Model.empty_merge] at hboth
  rw [← collects_unique h hflatten] at hmerges
  exact ⟨first, rest, hfirst, hrest, Except.ok.inj (mergesTo_unique hmerges hboth)⟩

/-- What the model of a collection holds, one of its roots finds on its own. -/
theorem exists_root_of_find? (hsnapshot : context.snapshot.isLegible scope = true)
    (hroots : ∀ root ∈ roots, root.isLegible scope = true) (h : context.Collects roots (.ok model)) {key : EntryKey} {entry : Entry}
    (hentry : model.find? key = some entry) :
    ∃ root ∈ roots, ∃ own, context.Collects [root] (.ok own) ∧ own.find? key = some entry := by
  induction roots generalizing model with
  | nil =>
    have hempty : context.Collects [] (.ok .empty) := ⟨1, rfl⟩
    rw [Except.ok.inj (collects_unique h hempty), Model.find?_empty] at hentry
    simp at hentry
  | cons root roots ih =>
    obtain ⟨first, rest, hfirst, hrest, rfl⟩ := collects_cons hsnapshot hroots h
    rw [Model.find?_merge, Option.or_eq_some_iff] at hentry
    rcases hentry with hentry | ⟨-, hentry⟩
    · exact ⟨root, List.mem_cons_self, first, hfirst, hentry⟩
    · obtain ⟨other, hother, hown⟩ := ih (List.forall_mem_cons.mp hroots).2 hrest hentry
      exact ⟨other, List.mem_cons_of_mem _ hother, hown⟩

theorem IsModelOf.mono (h : context.IsModelOf roots model) (h' : context.IsModelOf roots' model')
    (hsubset : ∀ root ∈ roots, root ∈ roots') {key : EntryKey} {entry : Entry} (hentry : model.find? key = some entry) :
    ∃ old, model'.find? key = some old ∧ old.Agrees entry := by
  obtain ⟨hkey, type, htype, hyields⟩ := h.held hentry
  rw [← hkey]
  exact h'.yields (htype.mono hsubset) hyields

theorem IsModelOf.agrees (h : context.IsModelOf roots model) (h' : context.IsModelOf roots' model')
    (hmem : ∀ root, root ∈ roots ↔ root ∈ roots') : model.Agrees model' := by
  intro key
  cases hentry : model.find? key with
  | some entry =>
    obtain ⟨old, hold, hagrees⟩ := h.mono h' (fun root => (hmem root).mp) hentry
    rw [hold, Option.map_some, Option.map_some, hagrees]
  | none =>
    cases hentry' : model'.find? key with
    | none => rfl
    | some entry' =>
      obtain ⟨old, hold, -⟩ := h'.mono h (fun root => (hmem root).mpr) hentry'
      rw [hentry] at hold
      simp at hold

/-- Models of one closure mark a generic entry differently only if it is the sequence of the elements of an open look-up, and these are closed. -/
theorem IsModelOf.exists_lookup (hsnapshot : context.snapshot.isLegible scope = true)
    (hroots : ∀ root ∈ roots, root.isLegible scope = true) (h : context.IsModelOf roots model)
    (h' : context.IsModelOf roots' model') (hmem : ∀ root, root ∈ roots ↔ root ∈ roots') {text : String}
    {schema schema' : GenericSchema} (hschema : model.generics.find? text = some schema)
    (hschema' : model'.generics.find? text = some schema') (hmark : schema.isOpenGeneric ≠ schema'.isOpenGeneric) :
    ∃ lookup, context.Reachable roots lookup ∧ OpensElements lookup schema := by
  have hentry : model.find? ⟨.generic, text⟩ = some (.generic schema) := congrArg (Option.map Entry.generic) hschema
  have hentry' : model'.find? ⟨.generic, text⟩ = some (.generic schema') := congrArg (Option.map Entry.generic) hschema'
  obtain ⟨hkey, first, hfirst, hyields⟩ := h.held hentry
  obtain ⟨hkey', second, hsecond, hyields'⟩ := h'.held hentry'
  have hsecond := hsecond.mono fun root => (hmem root).mpr
  have hkeys : (Entry.generic schema).key = (Entry.generic schema').key := hkey.trans hkey'.symm
  have hidentity : schema.identity = schema'.identity := Entry.identity_eq_of_key_eq hkeys
  rcases (hyields.generic_agrees (hfirst.isCanonical hsnapshot hroots) (hsecond.isCanonical hsnapshot hroots) hyields'
    hidentity).2 with hsame | hopens | hopens
  · exact absurd hsame hmark
  · exact ⟨first, hfirst, hopens⟩
  · rw [OpensElements, ← hidentity] at hopens
    exact ⟨second, hsecond, hopens⟩

theorem eq_of_marksAlike {first second : Model} (h : first.MarksAlike second) {key : EntryKey} {entry entry' : Entry}
    (hentry : first.find? key = some entry) (hentry' : second.find? key = some entry') (hagrees : entry.Agrees entry') :
    entry = entry' := by
  by_cases hkind : entry.kind = .generic
  · obtain ⟨kind, text⟩ := key
    cases kind with
    | generic =>
      obtain ⟨schema, hschema, rfl⟩ := Option.map_eq_some_iff.mp hentry
      obtain ⟨schema', hschema', rfl⟩ := Option.map_eq_some_iff.mp hentry'
      obtain ⟨hidentity, hcodec⟩ := Entry.agrees_generic_iff.mp hagrees
      have hmark := h text schema schema' hschema hschema'
      cases schema
      cases schema'
      simp only at hidentity hcodec hmark
      rw [hidentity, hcodec, hmark]
    | object =>
      obtain ⟨schema, -, rfl⟩ := Option.map_eq_some_iff.mp hentry
      simp [Entry.kind] at hkind
    | enumeration =>
      obtain ⟨schema, -, rfl⟩ := Option.map_eq_some_iff.mp hentry
      simp [Entry.kind] at hkind
    | union =>
      obtain ⟨schema, -, rfl⟩ := Option.map_eq_some_iff.mp hentry
      simp [Entry.kind] at hkind
  · exact Entry.eq_of_agrees hagrees hkind

theorem find?_of_head (hsnapshot : context.snapshot.isLegible scope = true)
    (hroots : ∀ other ∈ root :: roots, other.isLegible scope = true) (h : context.Collects (root :: roots) (.ok model))
    {own : Model} (hown : context.Collects [root] (.ok own)) {text : String} {schema : GenericSchema}
    (hschema : own.generics.find? text = some schema) : model.generics.find? text = some schema := by
  obtain ⟨first, rest, hfirst, -, rfl⟩ := collects_cons hsnapshot hroots h
  rw [Except.ok.inj (collects_unique hfirst hown), Model.merge, OrderedMap.find?_merge, hschema]
  rfl

/-- Where the roots, each on its own, mark the generic entries alike that they share, their order makes no difference. -/
theorem eq_of_mem_iff (hsnapshot : context.snapshot.isLegible scope = true)
    (hroots : ∀ root ∈ roots, root.isLegible scope = true) (h : context.Collects roots (.ok model))
    (h' : context.Collects roots' (.ok model')) (hmem : ∀ root, root ∈ roots ↔ root ∈ roots')
    (hmarks : ∀ first ∈ roots, ∀ second ∈ roots, ∀ own own', context.Collects [first] (.ok own) →
      context.Collects [second] (.ok own') → own.MarksAlike own') : model = model' := by
  have hroots' : ∀ root ∈ roots', root.isLegible scope = true := fun root hroot => hroots root ((hmem root).mpr hroot)
  have hclosure := isModelOf_of_collects hsnapshot hroots h
  have hclosure' := isModelOf_of_collects hsnapshot hroots' h'
  apply Model.ext_find?
  intro key
  cases hentry : model.find? key with
  | none =>
    have hagrees := (hclosure.agrees hclosure' hmem) key
    rw [hentry, Option.map_none, eq_comm, Option.map_eq_none_iff] at hagrees
    exact hagrees.symm
  | some entry =>
    obtain ⟨entry', hentry', hagrees⟩ := hclosure.mono hclosure' (fun root => (hmem root).mp) hentry
    obtain ⟨first, hfirst, own, hown, hfound⟩ := exists_root_of_find? hsnapshot hroots h hentry
    obtain ⟨second, hsecond, own', hown', hfound'⟩ := exists_root_of_find? hsnapshot hroots' h' hentry'
    have halike := hmarks second ((hmem second).mpr hsecond) first hfirst own' own hown' hown
    rw [hentry', eq_of_marksAlike halike hfound' hfound hagrees]

/-- Roots in another order succeed if and only if they did before, and their models differ at most in the marks of sequences that an open look-up has for its closed elements. The models of all orders are the same if and only if the roots, each on its own, mark the generic entries alike that they share. -/
theorem collect_perm (hsnapshot : context.snapshot.isLegible scope = true)
    (hroots : ∀ root ∈ roots, root.isLegible scope = true) :
    (∀ roots', roots'.Perm roots →
        ((∃ model, context.Collects roots (.ok model)) ↔ ∃ model', context.Collects roots' (.ok model')) ∧
          ∀ model model', context.Collects roots (.ok model) → context.Collects roots' (.ok model') →
            model.Agrees model' ∧
              ∀ text schema schema', model.generics.find? text = some schema → model'.generics.find? text = some schema' →
                schema.isOpenGeneric ≠ schema'.isOpenGeneric →
                ∃ lookup, context.Reachable roots lookup ∧ OpensElements lookup schema) ∧
      ((∀ roots', roots'.Perm roots → ∀ model model', context.Collects roots (.ok model) →
          context.Collects roots' (.ok model') → model = model') ↔
        ((∃ model, context.Collects roots (.ok model)) → ∀ first ∈ roots, ∀ second ∈ roots, ∀ own own',
          context.Collects [first] (.ok own) → context.Collects [second] (.ok own') → own.MarksAlike own')) := by
  have hlegible {roots' : List TypeRef} (hperm : roots'.Perm roots) : ∀ root ∈ roots', root.isLegible scope = true :=
    fun root hroot => hroots root (hperm.mem_iff.mp hroot)
  refine ⟨?_, ?_, ?_⟩
  · intro roots' hperm
    refine ⟨⟨?_, ?_⟩, ?_⟩
    · rintro ⟨model, hmodel⟩
      exact exists_collects_of_subset hsnapshot hroots hmodel fun root => hperm.mem_iff.mp
    · rintro ⟨model', hmodel'⟩
      exact exists_collects_of_subset hsnapshot (hlegible hperm) hmodel' fun root => hperm.mem_iff.mpr
    · intro model model' hmodel hmodel'
      have hclosure := isModelOf_of_collects hsnapshot hroots hmodel
      have hclosure' := isModelOf_of_collects hsnapshot (hlegible hperm) hmodel'
      have hmem (root : TypeRef) : root ∈ roots ↔ root ∈ roots' := hperm.mem_iff.symm
      exact ⟨hclosure.agrees hclosure' hmem, fun _ _ _ => hclosure.exists_lookup hsnapshot hroots hclosure' hmem⟩
  · rintro hsame ⟨model, hmodel⟩ first hfirst second hsecond own own' hown hown' text schema schema' hschema hschema'
    have hhead {root : TypeRef} {own : Model} {schema : GenericSchema} (hroot : root ∈ roots)
        (hown : context.Collects [root] (.ok own)) (hschema : own.generics.find? text = some schema) :
        model.generics.find? text = some schema := by
      have hperm : (root :: roots.erase root).Perm roots := (List.perm_cons_erase hroot).symm
      obtain ⟨model', hmodel'⟩ := exists_collects_of_subset hsnapshot hroots hmodel fun root => hperm.mem_iff.mp
      rw [hsame _ hperm model model' hmodel hmodel']
      exact find?_of_head hsnapshot (hlegible hperm) hmodel' hown hschema
    have hfound := hhead hfirst hown hschema
    rw [hhead hsecond hown' hschema'] at hfound
    rw [Option.some.inj hfound]
  · intro hmarks roots' hperm model model' hmodel hmodel'
    exact eq_of_mem_iff hsnapshot hroots hmodel hmodel' (fun root => hperm.mem_iff.symm) (hmarks ⟨model, hmodel⟩)

theorem collects_plain_box :
    (∃ model, boxContext.Collects [boxType, plainType] (.ok model)) ∧ ∃ model, boxContext.Collects [plainType, boxType] (.ok model) := by
  have hlegible : ∀ root ∈ [boxType, plainType], root.isLegible ["T"] = true := by decide +kernel
  have hsome : ((boxContext.collect .never 40 [boxType, plainType]).bind Except.toOption).isSome = true := by decide +kernel
  obtain ⟨model, hmodel⟩ := Option.isSome_iff_exists.mp hsome
  have hcollects : ∃ model, boxContext.Collects [boxType, plainType] (.ok model) := ⟨model, 40, eq_ok_of_toOption hmodel⟩
  have hswap : [plainType, boxType].Perm [boxType, plainType] := List.Perm.swap _ _ _
  exact ⟨hcollects, (((collect_perm isLegible_boxContext hlegible).1 _ hswap).1.mp hcollects)⟩

/-- On behalf of the look-up of a box the sequence of integers is marked as open, on behalf of the plain type as closed; the first of them decides. -/
theorem collect_box_plain_ne :
    Snapshot.ofDeclarations [boxDeclaration, plainDeclaration, unionDeclaration] = .ok boxContext.snapshot ∧
      ∃ model model', boxContext.collect .never 40 [boxType, plainType] = some (.ok model) ∧
        boxContext.collect .never 40 [plainType, boxType] = some (.ok model') ∧
        (model.generics.find? "System.Collections.Generic.IEnumerable<int>").map (·.isOpenGeneric) = some true ∧
        (model'.generics.find? "System.Collections.Generic.IEnumerable<int>").map (·.isOpenGeneric) = some false := by
  have hmarks : (((boxContext.collect .never 40 [boxType, plainType]).bind Except.toOption).bind fun model =>
        (model.generics.find? "System.Collections.Generic.IEnumerable<int>").map (·.isOpenGeneric)) = some true ∧
      (((boxContext.collect .never 40 [plainType, boxType]).bind Except.toOption).bind fun model =>
        (model.generics.find? "System.Collections.Generic.IEnumerable<int>").map (·.isOpenGeneric)) = some false := by
    decide +kernel
  obtain ⟨model, hmodel, hmark⟩ := Option.bind_eq_some_iff.mp hmarks.1
  obtain ⟨model', hmodel', hmark'⟩ := Option.bind_eq_some_iff.mp hmarks.2
  exact ⟨ofDeclarations_boxContext, model, model', eq_ok_of_toOption hmodel, eq_ok_of_toOption hmodel', hmark, hmark'⟩

end Context

end SchemaClosure
