import SchemaClosure.Proofs.CommandLine.Items
import SchemaClosure.Proofs.Except

/-!
Reading the arguments of a collection, against the items that they give. One item changes a draft in one way, `Draft.adds_of_take`; a draft holds what the items read so far amount to, `Draft.Holds`; so the arguments are accepted, and mean what they mean, by their items alone: `parse_eq_ok_iff`. What is accepted can be written and read back.
-/

namespace SchemaClosure

namespace CommandLine

namespace Arguments

variable {draft next : Draft} {item : Item} {items read : List Item} {given arguments rest : List String} {argument value : String}
  {result : Arguments}

/-- The draft with one more item. Only a second snapshot is refused. -/
def Draft.take? (draft : Draft) : Item → Option Draft
  | .root name => some { draft with openSet := name :: draft.openSet }
  | .endOfSet => some draft.closeSet
  | .options file => some { draft with options := some file }
  | .format format => some { draft with format }
  | .color color => some { draft with color }
  | .snapshot file => if draft.snapshot.isNone then some { draft with snapshot := some file } else none

theorem parseFrom_single (h : Draft.takesValue argument = false) :
    parseFrom draft (argument :: rest) = draft.addSingle argument >>= fun next => parseFrom next rest := by
  cases rest with
  | nil => simp [parseFrom, h]
  | cons value rest => simp [parseFrom, h]

theorem parseFrom_valued (h : Draft.takesValue argument = true) :
    parseFrom draft (argument :: value :: rest) = draft.addValue argument value >>= fun next => parseFrom next rest := by
  simp [parseFrom, h]

theorem mem_flags_of_takesValue (h : Draft.takesValue argument = true) :
    (argument = "--root" ∨ argument = "-r") ∨ argument = "--options" ∨ argument = "--format" ∨ argument = "--color" := by
  simpa [Draft.takesValue, or_assoc] using h

theorem takesValue_of_head?_ne (h : argument.toList.head? ≠ some '-') : Draft.takesValue argument = false := by
  rw [← Bool.not_eq_true]
  intro htakes
  rcases mem_flags_of_takesValue htakes with (rfl | rfl) | rfl | rfl | rfl <;> exact h (by decide)

theorem addSingle_of_head?_ne (h : argument.toList.head? ≠ some '-') :
    draft.addSingle argument = .ok next ↔ draft.take? (.snapshot argument) = some next := by
  have hset : argument ≠ "--set" := by
    rintro rfl
    exact h (by decide)
  simp only [Draft.addSingle, if_neg hset, if_neg h, Draft.take?]
  cases draft.snapshot <;> simp

theorem addValue_of_root (h : argument = "--root" ∨ argument = "-r") :
    draft.addValue argument value = .ok { draft with openSet := value :: draft.openSet } := by
  rcases h with rfl | rfl <;> rfl

/-- The arguments that say an item do to a draft what the item does. -/
theorem parseFrom_append (h : item.IsGivenAs given) :
    parseFrom draft (given ++ rest) = .ok result ↔ ∃ next, draft.take? item = some next ∧ parseFrom next rest = .ok result := by
  cases h with
  | root name hflag =>
    have htakes : ∀ flag, flag = "--root" ∨ flag = "-r" → Draft.takesValue flag = true := by
      rintro _ (rfl | rfl) <;> rfl
    rw [List.cons_append, List.singleton_append, parseFrom_valued (htakes _ hflag), addValue_of_root hflag]
    simp [Draft.take?, bind, Except.bind]
  | endOfSet =>
    rw [List.singleton_append, parseFrom_single rfl]
    simp [Draft.addSingle, Draft.take?, bind, Except.bind]
  | options file =>
    rw [List.cons_append, List.singleton_append, parseFrom_valued rfl]
    simp [Draft.addValue, Draft.take?, bind, Except.bind]
  | format output =>
    rw [List.cons_append, List.singleton_append, parseFrom_valued rfl]
    simp [Draft.addValue, Draft.take?, OutputFormat.ofText_eq_ok_iff.mpr rfl, bind, Except.bind, Except.map]
  | color mode =>
    rw [List.cons_append, List.singleton_append, parseFrom_valued rfl]
    simp [Draft.addValue, Draft.take?, ColorMode.ofText_eq_ok_iff.mpr rfl, bind, Except.bind, Except.map]
  | snapshot hfile =>
    rw [List.singleton_append, parseFrom_single (takesValue_of_head?_ne hfile), bind_eq_ok_iff]
    simp only [addSingle_of_head?_ne hfile]

/-- Arguments that are read begin with an item. -/
theorem exists_isGivenAs (h : parseFrom draft (argument :: arguments) = .ok result) :
    ∃ (item : Item) (given rest : List String), item.IsGivenAs given ∧ argument :: arguments = given ++ rest := by
  cases htakes : Draft.takesValue argument with
  | true =>
    cases arguments with
    | nil => simp [parseFrom, htakes] at h
    | cons value rest =>
      rw [parseFrom_valued htakes, bind_eq_ok_iff] at h
      obtain ⟨next, hnext, -⟩ := h
      rcases mem_flags_of_takesValue htakes with hroot | rfl | rfl | rfl
      · exact ⟨.root value, _, rest, .root value hroot, rfl⟩
      · exact ⟨.options value, _, rest, .options value, rfl⟩
      · obtain ⟨output, houtput, -⟩ := map_eq_ok_iff.mp hnext
        obtain rfl := OutputFormat.ofText_eq_ok_iff.mp houtput
        exact ⟨.format output, _, rest, .format output, rfl⟩
      · obtain ⟨mode, hmode, -⟩ := map_eq_ok_iff.mp hnext
        obtain rfl := ColorMode.ofText_eq_ok_iff.mp hmode
        exact ⟨.color mode, _, rest, .color mode, rfl⟩
  | false =>
    rw [parseFrom_single htakes, bind_eq_ok_iff] at h
    obtain ⟨next, hnext, -⟩ := h
    unfold Draft.addSingle at hnext
    split at hnext
    · rename_i hset
      subst hset
      exact ⟨.endOfSet, _, arguments, .endOfSet, rfl⟩
    · split at hnext
      · simp at hnext
      · rename_i hfile
        exact ⟨.snapshot argument, _, arguments, .snapshot hfile, rfl⟩

theorem length_pos_of_isGivenAs (h : item.IsGivenAs given) : 0 < given.length := by
  cases h <;> exact Nat.succ_pos _

theorem exists_gives {draft : Draft} {arguments : List String} (h : parseFrom draft arguments = .ok result) :
    ∃ items, Gives arguments items := by
  -- An item takes one argument or two, so the recursion is on the number of those left.
  match arguments with
  | [] => exact ⟨[], .nil⟩
  | argument :: later =>
    obtain ⟨item, given, rest, hitem, hsplit⟩ := exists_isGivenAs h
    rw [hsplit, parseFrom_append hitem] at h
    obtain ⟨next, -, hrest⟩ := h
    have hshorter : rest.length < (argument :: later).length := by
      have hpos := length_pos_of_isGivenAs hitem
      rw [hsplit, List.length_append]
      omega
    obtain ⟨items, hitems⟩ := exists_gives hrest
    exact ⟨item :: items, hsplit ▸ .cons hitem hitems⟩
termination_by arguments.length
decreasing_by exact hshorter

/-- Going through the arguments is going through the items that they give. -/
theorem parseFrom_eq_ok_iff (h : Gives arguments items) :
    parseFrom draft arguments = .ok result ↔ ∃ last, items.foldlM Draft.take? draft = some last ∧ last.finish = .ok result := by
  induction h generalizing draft with
  | nil => simp [parseFrom]
  | cons hitem _ ih =>
    simp only [parseFrom_append hitem, ih, List.foldlM_cons, Option.bind_eq_bind, Option.bind_eq_some_iff]
    constructor
    · rintro ⟨next, hnext, last, hlast, hfinish⟩
      exact ⟨last, ⟨next, hnext, hlast⟩, hfinish⟩
    · rintro ⟨last, ⟨next, hnext, hlast⟩, hfinish⟩
      exact ⟨next, hnext, last, hlast, hfinish⟩

/-- What arguments mean by the items that they give: the one snapshot, the roots in their sets, and of all else what is given last. -/
structure IsGivenBy (result : Arguments) (items : List Item) : Prop where
  snapshot : items.filterMap Item.snapshot? = [result.snapshot]
  rootSets : result.rootSets = Item.rootSets items
  options : result.options = (items.filterMap Item.options?).getLast?
  format : result.format = (items.filterMap Item.format?).getLast?.getD .text
  color : result.color = (items.filterMap Item.color?).getLast?.getD .auto

theorem IsGivenBy.unique {other : Arguments} (h : result.IsGivenBy items) (hother : other.IsGivenBy items) : result = other := by
  obtain ⟨snapshot, sets, options, format, color⟩ := result
  obtain ⟨snapshot', sets', options', format', color'⟩ := other
  obtain ⟨hsnapshot, rfl, rfl, rfl, rfl⟩ := h
  obtain ⟨hsnapshot', rfl, rfl, rfl, rfl⟩ := hother
  obtain rfl : snapshot = snapshot' := List.singleton_inj.mp (hsnapshot.symm.trans hsnapshot')
  rfl

/-- The draft is what the items read so far amount to. The roots of the open set wait for the items to come. -/
structure Draft.Holds (draft : Draft) (read : List Item) : Prop where
  snapshot : read.filterMap Item.snapshot? = draft.snapshot.toList
  rootSets : ∀ later, Item.rootSets (read ++ later) =
    draft.closedSets.reverse ++ Item.rootSets (draft.openSet.reverse.map .root ++ later)
  options : (read.filterMap Item.options?).getLast? = draft.options
  format : (read.filterMap Item.format?).getLast?.getD .text = draft.format
  color : (read.filterMap Item.color?).getLast?.getD .auto = draft.color

theorem Draft.holds_start : Draft.Holds {} [] := ⟨rfl, fun _ => rfl, rfl, rfl, rfl⟩

/-- What an item changes in a draft. -/
structure Draft.Adds (draft : Draft) (item : Item) (next : Draft) : Prop where
  snapshot : next.snapshot.toList = draft.snapshot.toList ++ item.snapshot?.toList
  rootSets : ∀ later, draft.closedSets.reverse ++ Item.rootSets (draft.openSet.reverse.map .root ++ item :: later) =
    next.closedSets.reverse ++ Item.rootSets (next.openSet.reverse.map .root ++ later)
  options : next.options = item.options?.or draft.options
  format : next.format = item.format?.getD draft.format
  color : next.color = item.color?.getD draft.color

theorem Draft.closeSet_of_nil (h : draft.openSet = []) : draft.closeSet = draft := by
  rw [closeSet, h, List.isEmpty_nil, if_pos rfl]

theorem Draft.closeSet_of_ne_nil (h : draft.openSet ≠ []) :
    draft.closeSet = { draft with closedSets := draft.openSet.reverse :: draft.closedSets, openSet := [] } := by
  rw [closeSet, if_neg (by simpa using h)]

/-- The open set joins the closed ones, unless it is empty. -/
theorem Draft.adds_closeSet (draft : Draft) : draft.Adds .endOfSet draft.closeSet := by
  by_cases hopen : draft.openSet = []
  · rw [closeSet_of_nil hopen]
    refine ⟨by simp [Item.snapshot?], fun later => ?_, rfl, rfl, rfl⟩
    rw [Item.rootSets_roots_append_endOfSet, hopen]
    rfl
  · rw [closeSet_of_ne_nil hopen]
    refine ⟨by simp [Item.snapshot?], fun later => ?_, rfl, rfl, rfl⟩
    rw [Item.rootSets_roots_append_endOfSet]
    simp [hopen]

theorem Draft.adds_of_take (h : draft.take? item = some next) : draft.Adds item next := by
  have hkept : item.root? = none → item ≠ .endOfSet → ∀ later,
      draft.closedSets.reverse ++ Item.rootSets (draft.openSet.reverse.map .root ++ item :: later) =
        draft.closedSets.reverse ++ Item.rootSets (draft.openSet.reverse.map .root ++ later) :=
    fun hroot hend later => by rw [Item.rootSets_roots_append_cons _ hroot hend]
  cases item with
  | root name =>
    obtain rfl := Option.some.inj h
    exact ⟨by simp [Item.snapshot?], fun later => by simp, rfl, rfl, rfl⟩
  | endOfSet =>
    obtain rfl := Option.some.inj h
    exact draft.adds_closeSet
  | options file =>
    obtain rfl := Option.some.inj h
    exact ⟨by simp [Item.snapshot?], hkept rfl (by simp), rfl, rfl, rfl⟩
  | format output =>
    obtain rfl := Option.some.inj h
    exact ⟨by simp [Item.snapshot?], hkept rfl (by simp), rfl, rfl, rfl⟩
  | color mode =>
    obtain rfl := Option.some.inj h
    exact ⟨by simp [Item.snapshot?], hkept rfl (by simp), rfl, rfl, rfl⟩
  | snapshot file =>
    simp only [take?] at h
    split at h
    · rename_i hnone
      obtain rfl := Option.some.inj h
      exact ⟨by simp [Item.snapshot?, Option.isNone_iff_eq_none.mp hnone], hkept rfl (by simp), rfl, rfl, rfl⟩
    · simp at h

theorem getLast?_filterMap_concat {β : Type} (f : Item → Option β) (read : List Item) (item : Item) :
    ((read ++ [item]).filterMap f).getLast? = (f item).or (read.filterMap f).getLast? := by
  cases hitem : f item <;> simp [hitem]

/-- What an item adds to the draft it adds to the items. -/
theorem Draft.Holds.add (h : draft.Holds read) (hadds : draft.Adds item next) : next.Holds (read ++ [item]) where
  snapshot := by
    rw [hadds.snapshot, List.filterMap_append, h.snapshot]
    cases hitem : item.snapshot? <;> simp [hitem]
  rootSets later := by rw [List.append_assoc, List.singleton_append, h.rootSets, hadds.rootSets]
  options := by rw [getLast?_filterMap_concat, h.options, hadds.options]
  format := by
    rw [getLast?_filterMap_concat, hadds.format, ← h.format]
    cases item.format? <;> rfl
  color := by
    rw [getLast?_filterMap_concat, hadds.color, ← h.color]
    cases item.color? <;> rfl

theorem Draft.Holds.foldlM {last : Draft} (h : draft.Holds read) (hrun : items.foldlM Draft.take? draft = some last) :
    last.Holds (read ++ items) := by
  induction items generalizing draft read with
  | nil =>
    obtain rfl := Option.some.inj hrun
    rwa [List.append_nil]
  | cons item items ih =>
    rw [List.foldlM_cons, Option.bind_eq_bind, Option.bind_eq_some_iff] at hrun
    obtain ⟨next, hnext, hlast⟩ := hrun
    simpa using ih (h.add (Draft.adds_of_take hnext)) hlast

theorem exists_take (h : (draft.snapshot.toList ++ item.snapshot?.toList).length ≤ 1) : ∃ next, draft.take? item = some next := by
  cases item with
  | snapshot file =>
    cases hsnapshot : draft.snapshot with
    | none => exact ⟨_, by rw [Draft.take?, hsnapshot]; rfl⟩
    | some first => simp [hsnapshot, Item.snapshot?] at h
  | root name | endOfSet | options file | format output | color mode => exact ⟨_, rfl⟩

/-- Only a second snapshot stops a run. -/
theorem exists_foldlM_take (h : (draft.snapshot.toList ++ items.filterMap Item.snapshot?).length ≤ 1) :
    ∃ last, items.foldlM Draft.take? draft = some last := by
  induction items generalizing draft with
  | nil => exact ⟨draft, rfl⟩
  | cons item items ih =>
    have hcons : (item :: items).filterMap Item.snapshot? = item.snapshot?.toList ++ items.filterMap Item.snapshot? := by
      cases hitem : item.snapshot? <;> simp [hitem]
    rw [hcons, ← List.append_assoc] at h
    obtain ⟨next, hnext⟩ := exists_take (Nat.le_trans (List.sublist_append_left _ _).length_le h)
    rw [← (Draft.adds_of_take hnext).snapshot] at h
    obtain ⟨last, hlast⟩ := ih h
    exact ⟨last, by rw [List.foldlM_cons, hnext]; exact hlast⟩

/-- At the end the open set is closed. -/
theorem Draft.Holds.closedSets_closeSet (h : draft.Holds read) : draft.closeSet.closedSets.reverse = Item.rootSets read := by
  have hread := h.rootSets []
  rw [List.append_nil, List.append_nil, Item.rootSets_roots] at hread
  by_cases hopen : draft.openSet = []
  · rw [hread, closeSet_of_nil hopen, hopen]
    simp
  · rw [hread, closeSet_of_ne_nil hopen]
    simp [hopen]

theorem Draft.Holds.finish_eq_ok_iff (h : draft.Holds read) :
    draft.finish = .ok result ↔ result.IsGivenBy read ∧ read.filterMap Item.root? ≠ [] := by
  rw [Ne, ← Item.rootSets_eq_nil_iff, finish, h.closedSets_closeSet]
  have hread := h.snapshot
  cases hsnapshot : draft.snapshot with
  | none =>
    rw [hsnapshot] at hread
    simp only [reduceCtorEq, false_iff]
    rintro ⟨hgiven, -⟩
    exact absurd (hread.symm.trans hgiven.snapshot) (by simp)
  | some file =>
    rw [hsnapshot] at hread
    have hmade : IsGivenBy ⟨file, Item.rootSets read, draft.options, draft.format, draft.color⟩ read :=
      ⟨hread, rfl, h.options.symm, h.format.symm, h.color.symm⟩
    by_cases hsets : Item.rootSets read = []
    · simp [hsets]
    · simp only [List.isEmpty_iff, hsets, if_false, Except.ok.injEq, not_false_eq_true, and_true]
      constructor
      · rintro rfl
        exact hmade
      · intro hgiven
        exact hmade.unique hgiven

/-- Arguments are accepted by the items that they give. -/
theorem parse_eq_ok_iff (h : Gives arguments items) :
    parse arguments = .ok result ↔ result.IsGivenBy items ∧ items.filterMap Item.root? ≠ [] := by
  rw [parse, parseFrom_eq_ok_iff h]
  constructor
  · rintro ⟨last, hlast, hfinish⟩
    exact (Draft.holds_start.foldlM hlast).finish_eq_ok_iff.mp hfinish
  · intro hgiven
    obtain ⟨last, hlast⟩ : ∃ last, items.foldlM Draft.take? {} = some last := exists_foldlM_take (by simp [hgiven.1.snapshot])
    exact ⟨last, hlast, (Draft.holds_start.foldlM hlast).finish_eq_ok_iff.mpr hgiven⟩

end Arguments

/-- The usual way of saying an item. -/
def Item.arguments : Item → List String
  | .root name => ["--root", name]
  | .endOfSet => ["--set"]
  | .options file => ["--options", file]
  | .format output => ["--format", output.keyword]
  | .color mode => ["--color", mode.text]
  | .snapshot file => [file]

theorem Item.isGivenAs_arguments {item : Item} (h : ∀ file, item = .snapshot file → file.toList.head? ≠ some '-') :
    item.IsGivenAs item.arguments := by
  cases item with
  | root name => exact .root name (.inl rfl)
  | endOfSet => exact .endOfSet
  | options file => exact .options file
  | format output => exact .format output
  | color mode => exact .color mode
  | snapshot file => exact .snapshot (h file rfl)

theorem gives_flatMap {items : List Item} (h : ∀ file, .snapshot file ∈ items → file.toList.head? ≠ some '-') :
    Gives (items.flatMap Item.arguments) items := by
  induction items with
  | nil => exact .nil
  | cons item items ih =>
    exact .cons (Item.isGivenAs_arguments fun file heq => h file (heq ▸ List.mem_cons_self))
      (ih fun file hmem => h file (List.mem_cons_of_mem _ hmem))

namespace Arguments

variable {result : Arguments}

/-- The items of a root set and its end. -/
def setItems (set : List String) : List Item := set.map .root ++ [.endOfSet]

def items (result : Arguments) : List Item :=
  .snapshot result.snapshot :: (result.rootSets.flatMap setItems ++
    (result.options.toList.map .options ++ [.format result.format, .color result.color]))

/-- Arguments as a list of texts. -/
def written (result : Arguments) : List String := result.items.flatMap Item.arguments

theorem filterMap_setItems {β : Type} {f : Item → Option β} (hroot : ∀ name, f (.root name) = none) (hend : f .endOfSet = none)
    (sets : List (List String)) : (sets.flatMap setItems).filterMap f = [] := by
  rw [List.filterMap_eq_nil_iff]
  intro item hitem
  obtain ⟨set, -, hset⟩ := List.mem_flatMap.mp hitem
  simp only [setItems, List.mem_append, List.mem_map, List.mem_singleton] at hset
  obtain ⟨name, -, rfl⟩ | rfl := hset
  · exact hroot name
  · exact hend

theorem rootSets_setItems {sets : List (List String)} (h : ∀ set ∈ sets, set ≠ []) (later : List Item) :
    Item.rootSets (sets.flatMap setItems ++ later) = sets ++ Item.rootSets later := by
  induction sets with
  | nil => rfl
  | cons set sets ih =>
    obtain ⟨hset, hsets⟩ := List.forall_mem_cons.mp h
    rw [List.flatMap_cons, setItems, List.append_assoc, List.append_assoc, List.singleton_append, Item.rootSets_roots_append_endOfSet,
      ih hsets]
    simp [hset]

theorem filterMap_items {β : Type} {f : Item → Option β} (hroot : ∀ name, f (.root name) = none) (hend : f .endOfSet = none) :
    result.items.filterMap f = (.snapshot result.snapshot ::
      (result.options.toList.map .options ++ [.format result.format, .color result.color])).filterMap f := by
  rw [items, List.filterMap_cons, List.filterMap_cons, List.filterMap_append, filterMap_setItems hroot hend, List.nil_append]

theorem isGivenBy_items (h : ∀ set ∈ result.rootSets, set ≠ []) : result.IsGivenBy result.items := by
  refine ⟨?_, ?_, ?_, ?_, ?_⟩
  · rw [filterMap_items (fun _ => rfl) rfl]
    cases result.options <;> rfl
  · have hrest : Item.rootSets (result.options.toList.map .options ++ [.format result.format, .color result.color]) = [] := by
      rw [Item.rootSets_eq_nil_iff]
      cases result.options <;> rfl
    rw [items, Item.rootSets_cons rfl (by simp), rootSets_setItems h, hrest, List.append_nil]
  · rw [filterMap_items (fun _ => rfl) rfl]
    cases result.options <;> rfl
  · rw [filterMap_items (fun _ => rfl) rfl]
    cases result.options <;> rfl
  · rw [filterMap_items (fun _ => rfl) rfl]
    cases result.options <;> rfl

theorem parse_written (hsets : result.rootSets ≠ []) (hset : ∀ set ∈ result.rootSets, set ≠ [])
    (hsnapshot : result.snapshot.toList.head? ≠ some '-') : parse result.written = .ok result := by
  have hgiven := isGivenBy_items hset
  have hgives : Gives result.written result.items := by
    apply gives_flatMap
    intro file hmem
    have hfile : file ∈ result.items.filterMap Item.snapshot? := List.mem_filterMap.mpr ⟨_, hmem, rfl⟩
    rw [hgiven.snapshot, List.mem_singleton] at hfile
    rwa [hfile]
  refine (parse_eq_ok_iff hgives).mpr ⟨hgiven, ?_⟩
  rwa [Ne, ← Item.rootSets_eq_nil_iff, ← hgiven.rootSets]

/-- **Arguments are read from left to right, and mean what their items say.** They are accepted if they are items behind one another, one of them the snapshot and at least one a root. Then the root sets are the roots cut at the ends of sets, no set is empty and no root is lost; options, format and color are what is given last, or the default. Arguments that are written are read back. -/
theorem parse_isExact :
    (∀ arguments, (∃ result, parse arguments = .ok result) ↔
      ∃ items file, Gives arguments items ∧ items.filterMap Item.snapshot? = [file] ∧ items.filterMap Item.root? ≠ []) ∧
    (∀ arguments items result, Gives arguments items → parse arguments = .ok result →
      result.IsGivenBy items ∧ result.rootSets.flatten = items.filterMap Item.root? ∧ ∀ set ∈ result.rootSets, set ≠ []) ∧
    ∀ result : Arguments, result.rootSets ≠ [] → (∀ set ∈ result.rootSets, set ≠ []) → result.snapshot.toList.head? ≠ some '-' →
      parse result.written = .ok result := by
  refine ⟨fun arguments => ⟨?_, ?_⟩, ?_, fun result => parse_written⟩
  · rintro ⟨result, hresult⟩
    obtain ⟨items, hitems⟩ := exists_gives hresult
    obtain ⟨hgiven, hroots⟩ := (parse_eq_ok_iff hitems).mp hresult
    exact ⟨items, result.snapshot, hitems, hgiven.snapshot, hroots⟩
  · rintro ⟨items, file, hitems, hsnapshot, hroots⟩
    exact ⟨⟨file, Item.rootSets items, _, _, _⟩, (parse_eq_ok_iff hitems).mpr ⟨⟨hsnapshot, rfl, rfl, rfl, rfl⟩, hroots⟩⟩
  · intro arguments items result hitems hresult
    obtain ⟨hgiven, -⟩ := (parse_eq_ok_iff hitems).mp hresult
    refine ⟨hgiven, ?_, ?_⟩
    · rw [hgiven.rootSets, Item.flatten_rootSets]
    · intro set hmem
      rw [hgiven.rootSets] at hmem
      exact Item.ne_nil_of_mem_rootSets hmem

/-- A value that looks like the end of a set, two ends behind one another, and a color that is given twice. -/
def shopArguments : List String :=
  ["--root", "Demo.Shop", "-r", "--set", "--set", "--set", "--color", "never", "types.json", "-r", "Demo.Till", "--color", "always"]

def shopItems : List Item :=
  [.root "Demo.Shop", .root "--set", .endOfSet, .endOfSet, .color .never, .snapshot "types.json", .root "Demo.Till", .color .always]

def shopResult : Arguments :=
  { snapshot := "types.json", rootSets := [["Demo.Shop", "--set"], ["Demo.Till"]], color := .always }

theorem gives_shopArguments : Gives shopArguments shopItems :=
  .cons (.root _ (.inl rfl)) <| .cons (.root _ (.inr rfl)) <| .cons .endOfSet <| .cons .endOfSet <| .cons (.color .never) <|
    .cons (.snapshot (by decide)) <| .cons (.root _ (.inr rfl)) <| .cons (.color .always) .nil

theorem parse_isExact_shop :
    Gives shopArguments shopItems ∧ parse shopArguments = .ok shopResult ∧ shopResult.IsGivenBy shopItems ∧
      parse shopResult.written = .ok shopResult := by
  have hparse : parse shopArguments = .ok shopResult := by decide
  have hgiven := (parse_isExact.2.1 shopArguments shopItems shopResult gives_shopArguments hparse).1
  exact ⟨gives_shopArguments, hparse, hgiven, parse_isExact.2.2 shopResult (by decide) (by decide) (by decide)⟩

end Arguments

end CommandLine

end SchemaClosure
