import SchemaClosure.Json.Reader
import SchemaClosure.Proofs.Json.Literals

/-!
Reading back what was printed. Blanks between tokens do not matter, so both layouts of a value have the same tokens, and the reader makes the value of them again. That asks for strings with a text, and for integers of 64 bits as the only numbers.
-/

namespace SchemaClosure.Json

mutual

/-- Whether a value is printed so that nothing of it is lost. -/
def isPlain : Json → Bool
  | .null | .boolean _ => true
  | .integer value => decide (IsExact value)
  | .decimal _ => false
  | .string text => text.isSome
  | .array items => allPlain items
  | .object members => allMembersPlain members

def allPlain : List Json → Bool
  | [] => true
  | item :: rest => item.isPlain && allPlain rest

def allMembersPlain : List (Option String × Json) → Bool
  | [] => true
  | (name, value) :: rest => name.isSome && value.isPlain && allMembersPlain rest

end

@[simp] theorem isPlain_boolean (value : Bool) : (boolean value).isPlain = true := rfl

@[simp] theorem isPlain_text (text : String) : (Json.text text).isPlain = true := rfl

@[simp] theorem isPlain_optionalText (text? : Option String) : (optionalText text?).isPlain = true := by
  cases text? <;> rfl

theorem isPlain_array_map {α : Type} {encode : α → Json} {elements : List α} (h : ∀ element ∈ elements, (encode element).isPlain = true) :
    (array (elements.map encode)).isPlain = true := by
  rw [isPlain]
  induction elements with
  | nil => rfl
  | cons element rest ih =>
    obtain ⟨helement, hrest⟩ := List.forall_mem_cons.mp h
    rw [List.map_cons, allPlain, helement, ih hrest, Bool.and_self]

theorem isPlain_record {fields : List (String × Json)} (h : ∀ field ∈ fields, field.2.isPlain = true) : (record fields).isPlain = true := by
  rw [record, isPlain]
  induction fields with
  | nil => rfl
  | cons field rest ih =>
    obtain ⟨hfield, hrest⟩ := List.forall_mem_cons.mp h
    rw [List.map_cons, allMembersPlain, hfield, ih hrest]
    rfl

@[simp] theorem isPlain_texts (items : List String) : (texts items).isPlain = true := isPlain_array_map fun _ _ => rfl

@[simp] theorem isPlain_integer_toInt (value : Int32) : (integer value.toInt).isPlain = true := by
  have hleast : (-2147483648 : Int) ≤ value.toInt := Int32.minValue_le_toInt value
  have hgreatest : value.toInt ≤ (2147483647 : Int) := Int32.toInt_le value
  rw [isPlain, decide_eq_true_eq, IsExact]
  omega

mutual

/-- The tokens of a value. -/
def tokens : Json → List Token
  | .array [] => [.mark '[', .mark ']']
  | .array (item :: rest) => .mark '[' :: item.tokens ++ itemTokens rest ++ [.mark ']']
  | .object [] => [.mark '{', .mark '}']
  | .object ((name, value) :: rest) => .mark '{' :: .string name :: .mark ':' :: value.tokens ++ memberTokens rest ++ [.mark '}']
  | .string text => [.string text]
  | value => [.literal value]

def itemTokens : List Json → List Token
  | [] => []
  | item :: rest => .mark ',' :: item.tokens ++ itemTokens rest

def memberTokens : List (Option String × Json) → List Token
  | [] => []
  | (name, value) :: rest => .mark ',' :: .string name :: .mark ':' :: value.tokens ++ memberTokens rest

end

/-! Both layouts are one: they differ in what stands between the tokens. -/

mutual

/-- A value with a gap before every item and every member, and before the end, and some space after a colon. -/
def laidOut (gap : Nat → List Char) (space : List Char) (level : Nat) : Json → List Char
  | .array (item :: rest) =>
    '[' :: gap (level + 1) ++ item.laidOut gap space (level + 1) ++ laidOutItems gap space level rest ++ gap level ++ [']']
  | .object ((name, value) :: rest) =>
    '{' :: gap (level + 1) ++ stringChars name ++ ':' :: space ++ value.laidOut gap space (level + 1) ++
      laidOutMembers gap space level rest ++ gap level ++ ['}']
  | value => value.scalarChars

def laidOutItems (gap : Nat → List Char) (space : List Char) (level : Nat) : List Json → List Char
  | [] => []
  | item :: rest => ',' :: gap (level + 1) ++ item.laidOut gap space (level + 1) ++ laidOutItems gap space level rest

def laidOutMembers (gap : Nat → List Char) (space : List Char) (level : Nat) : List (Option String × Json) → List Char
  | [] => []
  | (name, value) :: rest =>
    ',' :: gap (level + 1) ++ stringChars name ++ ':' :: space ++ value.laidOut gap space (level + 1) ++
      laidOutMembers gap space level rest

end

mutual

theorem laidOut_compact (level : Nat) : (value : Json) → value.laidOut (fun _ => []) [] level = value.compactChars
  | .array [] | .object [] | .null | .boolean _ | .integer _ | .decimal _ | .string _ => rfl
  | .array (item :: rest) => by
    rw [laidOut, compactChars, laidOut_compact (level + 1) item, laidOutItems_compact level rest]
    simp
  | .object ((name, value) :: rest) => by
    rw [laidOut, compactChars, laidOut_compact (level + 1) value, laidOutMembers_compact level rest]
    simp

theorem laidOutItems_compact (level : Nat) : (items : List Json) → laidOutItems (fun _ => []) [] level items = compactItems items
  | [] => rfl
  | item :: rest => by
    rw [laidOutItems, compactItems, laidOut_compact (level + 1) item, laidOutItems_compact level rest]
    simp

theorem laidOutMembers_compact (level : Nat) : (members : List (Option String × Json)) →
    laidOutMembers (fun _ => []) [] level members = compactMembers members
  | [] => rfl
  | (name, value) :: rest => by
    rw [laidOutMembers, compactMembers, laidOut_compact (level + 1) value, laidOutMembers_compact level rest]
    simp

end

mutual

theorem laidOut_pretty (level : Nat) : (value : Json) → value.laidOut lineBreak [' '] level = value.prettyChars level
  | .array [] | .object [] | .null | .boolean _ | .integer _ | .decimal _ | .string _ => rfl
  | .array (item :: rest) => by
    rw [laidOut, prettyChars, laidOut_pretty (level + 1) item, laidOutItems_pretty level rest]
  | .object ((name, value) :: rest) => by
    rw [laidOut, prettyChars, laidOut_pretty (level + 1) value, laidOutMembers_pretty level rest]
    simp

theorem laidOutItems_pretty (level : Nat) : (items : List Json) → laidOutItems lineBreak [' '] level items = prettyItems level items
  | [] => rfl
  | item :: rest => by
    rw [laidOutItems, prettyItems, laidOut_pretty (level + 1) item, laidOutItems_pretty level rest]

theorem laidOutMembers_pretty (level : Nat) : (members : List (Option String × Json)) →
    laidOutMembers lineBreak [' '] level members = prettyMembers level members
  | [] => rfl
  | (name, value) :: rest => by
    rw [laidOutMembers, prettyMembers, laidOut_pretty (level + 1) value, laidOutMembers_pretty level rest]
    simp

end

/-- A text that begins outside of a literal. -/
def Delimited (text : List Char) : Prop := ∃ c rest, text = c :: rest ∧ isLiteralChar c = false

theorem delimited_cons {c : Char} (h : isLiteralChar c = false) (rest : List Char) : Delimited (c :: rest) := ⟨c, rest, rfl, h⟩

theorem isLiteralChar_of_isBlank {c : Char} (h : isBlank c = true) : isLiteralChar c = false := by
  simp only [isBlank, Bool.or_eq_true, beq_iff_eq] at h
  rcases h with ((rfl | rfl) | rfl) | rfl <;> rfl

theorem isBlank_of_isMark {c : Char} (h : isMark c = true) : isBlank c = false := by
  simp only [isMark, List.contains_iff_mem, List.mem_cons, List.not_mem_nil, or_false] at h
  rcases h with rfl | rfl | rfl | rfl | rfl | rfl <;> rfl

theorem Delimited.append {blanks text : List Char} (hblanks : blanks.all isBlank = true) (h : Delimited text) :
    Delimited (blanks ++ text) := by
  cases blanks with
  | nil => exact h
  | cons c rest =>
    rw [List.all_cons, Bool.and_eq_true] at hblanks
    exact delimited_cons (isLiteralChar_of_isBlank hblanks.1) _

/-- What reading the characters of some tokens does, where others follow. -/
def Scans (text : List Char) (tokens : List Token) : Prop :=
  ∀ (found : List Token) (tail : List Char), Delimited tail →
    (text ++ tail).foldlM Scanner.step ⟨found, .between⟩ = tail.foldlM Scanner.step ⟨tokens.reverse ++ found, .between⟩

variable {found : List Token} {tail : List Char}

theorem foldlM_blanks {blanks : List Char} (h : blanks.all isBlank = true) :
    (blanks ++ tail).foldlM Scanner.step ⟨found, .between⟩ = tail.foldlM Scanner.step ⟨found, .between⟩ := by
  induction blanks with
  | nil => rfl
  | cons c rest ih =>
    rw [List.all_cons, Bool.and_eq_true] at h
    have hstep : Scanner.step ⟨found, .between⟩ c = some ⟨found, .between⟩ := by
      rw [Scanner.step, Scanner.stepBetween, if_pos h.1]
    rw [List.cons_append, List.foldlM_cons, hstep]
    exact ih h.2

theorem foldlM_mark {c : Char} (h : isMark c = true) :
    (c :: tail).foldlM Scanner.step ⟨found, .between⟩ = tail.foldlM Scanner.step ⟨.mark c :: found, .between⟩ := by
  have hstep : Scanner.step ⟨found, .between⟩ c = some ⟨.mark c :: found, .between⟩ := by
    rw [Scanner.step, Scanner.stepBetween, if_neg (by simp [isBlank_of_isMark h]), if_pos h]
  rw [List.foldlM_cons, hstep]
  rfl

theorem foldlM_stringChars {text : Option String} (h : text.isSome = true) :
    (stringChars text ++ tail).foldlM Scanner.step ⟨found, .between⟩ = tail.foldlM Scanner.step ⟨.string text :: found, .between⟩ := by
  obtain ⟨text, rfl⟩ := Option.isSome_iff_exists.mp h
  rw [stringChars, List.foldlM_append, Option.getD_some, foldlM_quotedChars]
  rfl

/-- Letters are a literal as soon as something else follows. -/
theorem scans_letters {first : Char} {rest : List Char} {value : Json} (hletters : ∀ c ∈ first :: rest, isLiteralChar c = true)
    (h : literal? (first :: rest) = some value) : Scans (first :: rest) [.literal value] := by
  intro found tail ⟨c, others, htail, hdelimiter⟩
  obtain ⟨hfirst, hrest⟩ := List.forall_mem_cons.mp hletters
  have hbetween : Scanner.step ⟨found, .between⟩ first = some ⟨found, .letters [first]⟩ := by
    have hblank : isBlank first = false := by
      rw [← Bool.not_eq_true]
      intro hblank
      rw [isLiteralChar_of_isBlank hblank] at hfirst
      simp at hfirst
    have hmark : isMark first = false := by
      rw [← Bool.not_eq_true]
      intro hmark
      simp only [isMark, List.contains_iff_mem, List.mem_cons, List.not_mem_nil, or_false] at hmark
      rcases hmark with rfl | rfl | rfl | rfl | rfl | rfl <;> simp [isLiteralChar, Char.isAlphanum] at hfirst
    have hquote : first ≠ '"' := by
      rintro rfl
      simp [isLiteralChar] at hfirst
    simp [Scanner.step, Scanner.stepBetween, hblank, hmark, hquote, hfirst]
  have hrun (run letters : List Char) (hletters : ∀ c ∈ letters, isLiteralChar c = true) :
      letters.foldlM Scanner.step ⟨found, .letters run⟩ = some ⟨found, .letters (letters.reverse ++ run)⟩ := by
    induction letters generalizing run with
    | nil => rfl
    | cons c others ih =>
      obtain ⟨hc, hothers⟩ := List.forall_mem_cons.mp hletters
      have hstep : Scanner.step ⟨found, .letters run⟩ c = some ⟨found, .letters (c :: run)⟩ := if_pos hc
      rw [List.foldlM_cons, hstep]
      simpa using ih (c :: run) hothers
  have hend : Scanner.step ⟨found, .letters (rest.reverse ++ [first])⟩ c = Scanner.step ⟨.literal value :: found, .between⟩ c := by
    have hletters : literal? (rest.reverse ++ [first]).reverse = some value := by simpa using h
    simp only [Scanner.step, hdelimiter, Bool.false_eq_true, if_false, hletters, Option.bind_some]
  subst htail
  rw [List.cons_append, List.foldlM_cons, hbetween]
  change (rest ++ c :: others).foldlM Scanner.step ⟨found, .letters [first]⟩ = _
  rw [List.foldlM_append, hrun [first] rest hrest]
  change (c :: others).foldlM Scanner.step ⟨found, .letters (rest.reverse ++ [first])⟩ = _
  rw [List.foldlM_cons, List.foldlM_cons, hend]
  rfl

theorem scans_integer {value : Int} (h : IsExact value) : Scans (toString value).toList [.literal (.integer value)] := by
  have hletters : ∀ c ∈ integerLetters value, isLiteralChar c = true := by
    intro c hc
    rcases mem_integerLetters hc with rfl | hdigit
    · rfl
    · simp [isLiteralChar, Char.isAlphanum, hdigit]
  have hliteral := literal?_integerLetters h
  rw [toList_toString]
  cases hvalue : integerLetters value with
  | nil => simp [integerLetters, Nat.toDigits_ne_nil] at hvalue
  | cons first rest =>
    rw [hvalue] at hletters hliteral
    exact scans_letters hletters hliteral

variable {gap : Nat → List Char} {space : List Char}

theorem delimited_laidOutItems {level : Nat} {items : List Json} (h : Delimited tail) :
    Delimited (laidOutItems gap space level items ++ tail) := by
  cases items with
  | nil => exact h
  | cons item rest => exact delimited_cons rfl _

theorem delimited_laidOutMembers {level : Nat} {members : List (Option String × Json)} (h : Delimited tail) :
    Delimited (laidOutMembers gap space level members ++ tail) := by
  cases members with
  | nil => exact h
  | cons member rest => exact delimited_cons rfl _

mutual

/-- A value in either layout has the tokens of the value. -/
theorem scans_laidOut (hgap : ∀ level, (gap level).all isBlank = true) (hspace : space.all isBlank = true) (level : Nat) :
    (value : Json) → value.isPlain = true → Scans (value.laidOut gap space level) value.tokens
  | .null, _ => scans_letters (List.all_eq_true.mp rfl) rfl
  | .boolean true, _ => scans_letters (List.all_eq_true.mp rfl) rfl
  | .boolean false, _ => scans_letters (List.all_eq_true.mp rfl) rfl
  | .integer value, h => scans_integer (of_decide_eq_true h)
  | .string text, h => fun found tail _ => foldlM_stringChars h
  | .array [], _ => fun _ _ _ => rfl
  | .object [], _ => fun _ _ _ => rfl
  | .array (item :: rest), h => fun found tail htail => by
    rw [isPlain, allPlain, Bool.and_eq_true] at h
    have hend : Delimited (gap level ++ ']' :: tail) := (delimited_cons rfl tail).append (hgap level)
    have hitem := scans_laidOut hgap hspace (level + 1) item h.1
    have hrest := scans_laidOutItems hgap hspace level rest h.2
    simp only [laidOut, List.append_assoc, List.cons_append, List.nil_append]
    rw [foldlM_mark rfl, foldlM_blanks (hgap _), hitem _ _ (delimited_laidOutItems hend), hrest _ _ hend, foldlM_blanks (hgap _),
      foldlM_mark rfl]
    simp [tokens]
  | .object ((name, value) :: rest), h => fun found tail htail => by
    rw [isPlain, allMembersPlain, Bool.and_eq_true, Bool.and_eq_true] at h
    have hend : Delimited (gap level ++ '}' :: tail) := (delimited_cons rfl tail).append (hgap level)
    have hvalue := scans_laidOut hgap hspace (level + 1) value h.1.2
    have hrest := scans_laidOutMembers hgap hspace level rest h.2
    simp only [laidOut, List.append_assoc, List.cons_append, List.nil_append]
    rw [foldlM_mark rfl, foldlM_blanks (hgap _), foldlM_stringChars h.1.1, foldlM_mark rfl, foldlM_blanks hspace,
      hvalue _ _ (delimited_laidOutMembers hend), hrest _ _ hend, foldlM_blanks (hgap _), foldlM_mark rfl]
    simp [tokens]

theorem scans_laidOutItems (hgap : ∀ level, (gap level).all isBlank = true) (hspace : space.all isBlank = true) (level : Nat) :
    (items : List Json) → allPlain items = true → Scans (laidOutItems gap space level items) (itemTokens items)
  | [], _ => fun _ _ _ => rfl
  | item :: rest, h => fun found tail htail => by
    rw [allPlain, Bool.and_eq_true] at h
    have hitem := scans_laidOut hgap hspace (level + 1) item h.1
    have hrest := scans_laidOutItems hgap hspace level rest h.2
    simp only [laidOutItems, List.append_assoc, List.cons_append]
    rw [foldlM_mark rfl, foldlM_blanks (hgap _), hitem _ _ (delimited_laidOutItems htail), hrest _ _ htail]
    simp [itemTokens]

theorem scans_laidOutMembers (hgap : ∀ level, (gap level).all isBlank = true) (hspace : space.all isBlank = true) (level : Nat) :
    (members : List (Option String × Json)) → allMembersPlain members = true →
      Scans (laidOutMembers gap space level members) (memberTokens members)
  | [], _ => fun _ _ _ => rfl
  | (name, value) :: rest, h => fun found tail htail => by
    rw [allMembersPlain, Bool.and_eq_true, Bool.and_eq_true] at h
    have hvalue := scans_laidOut hgap hspace (level + 1) value h.1.2
    have hrest := scans_laidOutMembers hgap hspace level rest h.2
    simp only [laidOutMembers, List.append_assoc, List.cons_append]
    rw [foldlM_mark rfl, foldlM_blanks (hgap _), foldlM_stringChars h.1.1, foldlM_mark rfl, foldlM_blanks hspace,
      hvalue _ _ (delimited_laidOutMembers htail), hrest _ _ htail]
    simp [memberTokens]

end

/-- The end of a text is read like a blank. -/
theorem finish_eq_step_blank (scanner : Scanner) : scanner.finish = (scanner.step ' ').bind Scanner.finish := by
  obtain ⟨found, mode⟩ := scanner
  cases mode with
  | letters run =>
    have hstep : Scanner.step ⟨found, .letters run⟩ ' ' = (literal? run.reverse).map fun value => ⟨.literal value :: found, .between⟩ := by
      cases hliteral : literal? run.reverse <;> simp [Scanner.step, Scanner.stepBetween, isLiteralChar, isBlank, hliteral]
    rw [hstep]
    cases hliteral : literal? run.reverse <;> simp [Scanner.finish, hliteral]
  | _ => rfl

theorem tokens?_of_scans {text : List Char} {tokens : List Token} (h : Scans text tokens) : tokens? text = some tokens := by
  have hblank : tokens? text = ((text ++ [' ']).foldlM Scanner.step Scanner.start).bind Scanner.finish := by
    rw [tokens?, List.foldlM_append]
    cases text.foldlM Scanner.step Scanner.start with
    | none => rfl
    | some scanner =>
      have hlast : [' '].foldlM Scanner.step scanner = scanner.step ' ' := by
        rw [List.foldlM_cons]
        exact bind_pure _
      change scanner.finish = ([' '].foldlM Scanner.step scanner).bind Scanner.finish
      rw [hlast, finish_eq_step_blank]
  rw [hblank, Scanner.start, h [] [' '] (delimited_cons rfl [])]
  simp [Scanner.step, Scanner.stepBetween, isBlank, Scanner.finish]

/-- A value that stands first in an array is read like one that stands alone. -/
theorem foldlM_firstItem (stack : List Frame) (value : Json) (rest : List Token) :
    (value.tokens ++ rest).foldlM Reading.step ⟨stack, .firstItem⟩ =
      (value.tokens ++ rest).foldlM Reading.step ⟨.array [] :: stack, .value⟩ := by
  rcases value with _ | _ | _ | _ | _ | (_ | _) | (_ | _) <;> rfl

mutual

theorem foldlM_tokens (stack : List Frame) : (value : Json) → (rest : List Token) →
    (value.tokens ++ rest).foldlM Reading.step ⟨stack, .value⟩ = rest.foldlM Reading.step ⟨stack, .complete value⟩
  | .null, _ | .boolean _, _ | .integer _, _ | .decimal _, _ | .string _, _ | .array [], _ | .object [], _ => rfl
  | .array (item :: rest), others => by
    have hopen : (Json.array (item :: rest)).tokens ++ others = .mark '[' :: (item.tokens ++ (itemTokens rest ++ .mark ']' :: others)) := by
      simp [tokens]
    rw [hopen, List.foldlM_cons]
    change (item.tokens ++ (itemTokens rest ++ .mark ']' :: others)).foldlM Reading.step ⟨stack, .firstItem⟩ = _
    rw [foldlM_firstItem, foldlM_tokens (.array [] :: stack) item, foldlM_itemTokens stack [] item rest others]
    rfl
  | .object ((name, value) :: rest), others => by
    have hopen : (Json.object ((name, value) :: rest)).tokens ++ others =
        .mark '{' :: .string name :: .mark ':' :: (value.tokens ++ (memberTokens rest ++ .mark '}' :: others)) := by
      simp [tokens]
    rw [hopen, List.foldlM_cons]
    change (value.tokens ++ (memberTokens rest ++ .mark '}' :: others)).foldlM Reading.step ⟨.object [] name :: stack, .value⟩ = _
    rw [foldlM_tokens (.object [] name :: stack) value, foldlM_memberTokens stack [] name value rest others]
    rfl

/-- The other items of an array are put behind those that have been read. -/
theorem foldlM_itemTokens (stack : List Frame) (items : List Json) (item : Json) : (rest : List Json) → (others : List Token) →
    (itemTokens rest ++ .mark ']' :: others).foldlM Reading.step ⟨.array items :: stack, .complete item⟩ =
      others.foldlM Reading.step ⟨stack, .complete (.array ((item :: items).reverse ++ rest))⟩
  | [], others => by rw [List.append_nil]; rfl
  | next :: rest, others => by
    have hcomma : itemTokens (next :: rest) ++ .mark ']' :: others = .mark ',' :: (next.tokens ++ (itemTokens rest ++ .mark ']' :: others)) := by
      simp [itemTokens]
    rw [hcomma, List.foldlM_cons]
    change (next.tokens ++ (itemTokens rest ++ .mark ']' :: others)).foldlM Reading.step ⟨.array (item :: items) :: stack, .value⟩ = _
    rw [foldlM_tokens (.array (item :: items) :: stack) next, foldlM_itemTokens stack (item :: items) next rest others]
    simp

theorem foldlM_memberTokens (stack : List Frame) (members : List (Option String × Json)) (name : Option String) (value : Json) :
    (rest : List (Option String × Json)) → (others : List Token) →
    (memberTokens rest ++ .mark '}' :: others).foldlM Reading.step ⟨.object members name :: stack, .complete value⟩ =
      others.foldlM Reading.step ⟨stack, .complete (.object (((name, value) :: members).reverse ++ rest))⟩
  | [], others => by rw [List.append_nil]; rfl
  | (next, following) :: rest, others => by
    have hcomma : memberTokens ((next, following) :: rest) ++ .mark '}' :: others =
        .mark ',' :: .string next :: .mark ':' :: (following.tokens ++ (memberTokens rest ++ .mark '}' :: others)) := by
      simp [memberTokens]
    rw [hcomma, List.foldlM_cons]
    change (following.tokens ++ (memberTokens rest ++ .mark '}' :: others)).foldlM Reading.step
      ⟨.object ((name, value) :: members) next :: stack, .value⟩ = _
    rw [foldlM_tokens (.object ((name, value) :: members) next :: stack) following,
      foldlM_memberTokens stack ((name, value) :: members) next following rest others]
    simp

end

theorem ofTokens?_tokens (value : Json) : ofTokens? value.tokens = some value := by
  have hread := foldlM_tokens [] value []
  rw [List.append_nil] at hread
  rw [ofTokens?, Reading.start, hread]
  rfl

variable {value : Json}

/-- A text that scans to the tokens of a value is read as the value. -/
theorem parse?_of_scans {text : String} (h : Scans text.toList value.tokens) : parse? text = some value := by
  rw [parse?, tokens?_of_scans h]
  exact ofTokens?_tokens value

theorem parse?_laidOut (hgap : ∀ level, (gap level).all isBlank = true) (hspace : space.all isBlank = true) (level : Nat)
    (h : value.isPlain = true) : parse? (String.ofList (value.laidOut gap space level)) = some value := by
  apply parse?_of_scans
  rw [String.toList_ofList]
  exact scans_laidOut hgap hspace level value h

theorem parse?_compact (h : value.isPlain = true) : parse? value.compact = some value := by
  rw [compact, ← laidOut_compact 0]
  exact parse?_laidOut (fun _ => rfl) rfl 0 h

theorem parse?_pretty (h : value.isPlain = true) : parse? value.pretty = some value := by
  rw [pretty, ← laidOut_pretty 0]
  refine parse?_laidOut (fun level => ?_) rfl 0 h
  simp [lineBreak, isBlank]

end SchemaClosure.Json
