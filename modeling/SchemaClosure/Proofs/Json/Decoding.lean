import SchemaClosure.Json.Record

namespace SchemaClosure

namespace Json

variable {α β : Type} {decode : Json → Option β} {value : Json}

theorem nullable?_of_ne_null (h : value ≠ .null) : nullable? decode value = (decode value).map some := by
  cases value with
  | null => exact absurd rfl h
  | _ => rfl

theorem nullable?_optionalText (text? : Option String) : nullable? Json.text? (optionalText text?) = some text? := by
  cases text? <;> rfl

theorem list?_array_map {encode : α → Json} {view : α → β} {elements : List α}
    (h : ∀ element ∈ elements, decode (encode element) = some (view element)) :
    list? decode (.array (elements.map encode)) = some (elements.map view) := by
  rw [list?]
  induction elements with
  | nil => rfl
  | cons element rest ih =>
    obtain ⟨helement, hrest⟩ := List.forall_mem_cons.mp h
    rw [List.map_cons, List.mapM_cons, helement, ih hrest]
    rfl

theorem list?_texts (items : List String) : list? Json.text? (texts items) = some items := by
  have hitems : ∀ item ∈ items, Json.text? (text item) = some (id item) := fun item _ => rfl
  rw [texts, list?_array_map hitems, List.map_id]

/-- Whatever a decoder gives is of one kind. -/
def Yields (decode : Json → Option α) (Holds : α → Prop) : Prop := ∀ value element, decode value = some element → Holds element

theorem Yields.list {decode : Json → Option α} {Holds : α → Prop} (h : Yields decode Holds) :
    Yields (list? decode) fun elements => ∀ element ∈ elements, Holds element := by
  intro value elements hlist
  cases value with
  | array items =>
    rw [list?] at hlist
    induction items generalizing elements with
    | nil =>
      rw [← Option.some.inj hlist]
      exact fun element hmem => absurd hmem List.not_mem_nil
    | cons item rest ih =>
      rw [List.mapM_cons] at hlist
      obtain ⟨element, helement, hlist⟩ := Option.bind_eq_some_iff.mp hlist
      obtain ⟨others, hothers, hlist⟩ := Option.bind_eq_some_iff.mp hlist
      rw [← Option.some.inj hlist]
      exact List.forall_mem_cons.mpr ⟨h item element helement, ih others hothers⟩
  | _ => simp [list?] at hlist

theorem Yields.nullable {decode : Json → Option α} {Holds : α → Prop} (h : Yields decode Holds) :
    Yields (nullable? decode) fun element? => ∀ element ∈ element?, Holds element := by
  intro value element? hnullable
  by_cases hnull : value = .null
  · subst hnull
    rw [← Option.some.inj hnullable]
    exact fun element hmem => by simp at hmem
  · rw [nullable?_of_ne_null hnull] at hnullable
    obtain ⟨element, helement, rfl⟩ := Option.map_eq_some_iff.mp hnullable
    intro found hfound
    rw [← Option.some.inj hfound]
    exact h value element helement

end Json

namespace Record

variable {names : List String} {fields : List (String × Json)}

theorem foldlM_add? {before : List (String × Json)} (hnames : ∀ field ∈ fields, field.1 ∈ names)
    (hdistinct : ((before ++ fields).map (·.1)).Nodup) :
    (fields.map fun (name, value) => (some name, value)).foldlM (add? names) ⟨before⟩ = some ⟨before ++ fields⟩ := by
  induction fields generalizing before with
  | nil => rw [List.append_nil]; rfl
  | cons field rest ih =>
    obtain ⟨hname, hrest⟩ := List.forall_mem_cons.mp hnames
    have hnew : before.lookup field.1 = none := by
      rw [List.lookup_eq_none_iff]
      intro other hother
      rw [List.map_append, List.map_cons] at hdistinct
      have hne := (List.nodup_append.mp hdistinct).2.2 other.1 (List.mem_map_of_mem hother) field.1 List.mem_cons_self
      simpa using hne.symm
    have hadd : add? names ⟨before⟩ (some field.1, field.2) = some ⟨before ++ [field]⟩ := by
      simp [add?, find?, hname, hnew]
    rw [List.map_cons, List.foldlM_cons, hadd]
    have hsplit : before ++ field :: rest = (before ++ [field]) ++ rest := by simp
    rw [hsplit] at hdistinct ⊢
    exact ih hrest hdistinct

/-- A record that was written with its own fields, each once, is read as these. -/
theorem ofJson?_record (hnames : ∀ field ∈ fields, field.1 ∈ names) (hdistinct : (fields.map (·.1)).Nodup) :
    ofJson? names (.record fields) = some ⟨fields⟩ :=
  foldlM_add? hnames hdistinct

theorem ofJsonExactly?_record (hnames : ∀ field ∈ fields, field.1 ∈ names) (hdistinct : (fields.map (·.1)).Nodup) :
    ofJsonExactly? names (.record fields) = some ⟨fields⟩ := by
  have hall : ((fields.map fun (name, value) => (some name, value)).all fun member => member.1.any names.contains) = true := by
    rw [List.all_eq_true]
    intro member hmem
    obtain ⟨field, hfield, rfl⟩ := List.mem_map.mp hmem
    simpa using hnames field hfield
  rw [Json.record, ofJsonExactly?, if_pos hall]
  exact foldlM_add? hnames hdistinct

end Record

variable {α : Type} {record : Record} {name : String} {missing element : α} {decode : Json → Option α} {Holds : α → Prop}

theorem Json.Yields.of_optional (h : Json.Yields decode Holds) (hmissing : Holds missing)
    (hfield : record.optional name missing decode = some element) : Holds element := by
  unfold Record.optional at hfield
  split at hfield
  · exact h _ element hfield
  · rw [← Option.some.inj hfield]
    exact hmissing

theorem Json.Yields.of_required (h : Json.Yields decode Holds) (hfield : record.required name decode = some element) :
    Holds element := by
  obtain ⟨value, -, hvalue⟩ := Option.bind_eq_some_iff.mp hfield
  exact h value element hvalue

end SchemaClosure
