import SchemaClosure.Proofs.TypeRef.Scanning

/-!
Where a text is refused. Up to the place of the error the text is the beginning of a written type, and with the token that stands there it is no longer: `parse_error_isFirstOffense`. What has been read can be completed, since the stack says which brackets are open; and the reader looks at no token twice, so the refused token is refused in every text that is the same up to it.
-/

namespace SchemaClosure.TypeRef

/-- The text goes on to a written type. -/
def IsBeginning (text : String) : Prop := ∃ rest type, parse (text ++ rest) = .ok type

/-- The text before a place is the beginning of a written type, and with the token that stands at the place it is not. At the end of a text there is no token. -/
structure IsFirstOffense (before after : String) : Prop where
  isBeginning : IsBeginning before
  isRefused : ∀ token, firstToken? after.toList = some token →
    ∀ rest, firstToken? rest.toList = some token → ∀ type, parse (before ++ rest) ≠ .ok type

variable {tokens current : List Token} {type : TypeRef}

/-! What has been read can be completed. -/

theorem derives_placeholder : Derives (.type (.named "T" [])) [.word ['T']] := .base (.path (by decide))

/-- From the innermost bracket outwards: a list of arguments can be closed at once, a tuple after one more element. -/
theorem Opens.exists_derives {stack : List Frame} (h : Opens stack tokens) (htype : Derives (.type type) current) :
    ∃ more whole, Derives (.type whole) (tokens ++ current ++ more) := by
  -- Each frame makes of the type inside it the type that the next frame has inside.
  induction h generalizing type current with
  | nil => exact ⟨[], type, by simpa using htype⟩
  | arguments _ hpath hitems ih =>
    have hlist := hitems.close (.single htype)
    obtain ⟨more, whole, hwhole⟩ := ih (.base (.generic hpath hlist))
    exact ⟨.mark '>' :: more, whole, by simpa using hwhole⟩
  | elements _ hitems ih =>
    have hlist := hitems.close (.cons htype (.single derives_placeholder))
    obtain ⟨more, whole, hwhole⟩ := ih (.base (.tuple (by simp) hlist))
    exact ⟨.mark ',' :: .word ['T'] :: .mark ')' :: more, whole, by simpa using hwhole⟩

theorem Focus.Covers.exists_derives {focus : Focus} (h : focus.Covers current) :
    ∃ more type, Derives (.type type) (current ++ more) := by
  cases h with
  | opening => exact ⟨_, _, derives_placeholder⟩
  | path hpath => exact ⟨[], _, .base (.path hpath)⟩
  | complete htype => exact ⟨[], _, by simpa using htype⟩
  | brackets commas htype => exact ⟨[.mark ']'], _, by simpa using Derives.array commas htype⟩

theorem Reading.Covers.exists_derives {reading : Reading} (h : reading.Covers tokens) :
    ∃ more type, Derives (.type type) (tokens ++ more) := by
  obtain ⟨before, current, rfl, hstack, hfocus⟩ := h
  obtain ⟨more, type, htype⟩ := hfocus.exists_derives
  obtain ⟨closing, whole, hwhole⟩ := hstack.exists_derives htype
  exact ⟨more ++ closing, whole, by simpa using hwhole⟩

theorem spells_flatMap (tokens : List Token) : Spells tokens (tokens.flatMap Token.chars) := by
  induction tokens with
  | nil => exact .nil fun _ hmem => absurd hmem List.not_mem_nil
  | cons token rest ih => exact (Spells.token token).append ih

theorem isBeginning_of_covers {reading : Reading} (h : reading.Covers tokens) {read : List Char} (hspells : Spells tokens read) :
    IsBeginning (String.ofList read) := by
  obtain ⟨more, whole, hwhole⟩ := h.exists_derives
  refine ⟨String.ofList (more.flatMap Token.chars), whole, parse_of_isWritten ⟨_, hwhole, ?_⟩⟩
  rw [String.toList_append, String.toList_ofList, String.toList_ofList]
  exact hspells.append (spells_flatMap more)

theorem Reading.finish_ne_secondElement (reading : Reading) : reading.finish ≠ .error .secondElement := by
  obtain ⟨stack, focus⟩ := reading
  cases focus <;> rcases stack with _ | ⟨_ | _, outer⟩ <;> simp [finish, following]

theorem Reading.eq_mark_of_stepComplete {stack : List Frame} {token : Token}
    (h : stepComplete stack type token = .error .secondElement) : token = .mark ')' := by
  unfold stepComplete at h
  split at h
  · simp at h
  · simp at h
  · simp at h
  · simp at h
  · rfl
  · rcases stack with _ | ⟨_ | _, outer⟩ <;> simp [following] at h

theorem Reading.eq_mark_of_step {reading : Reading} {token : Token} (h : reading.step token = .error .secondElement) :
    token = .mark ')' := by
  obtain ⟨stack, focus⟩ := reading
  cases focus with
  | opening =>
    simp only [step] at h
    split at h
    · simp at h
    · simp at h
    · split at h <;> simp at h
  | path name =>
    simp only [step] at h
    split at h
    · simp at h
    · exact eq_mark_of_stepComplete h
  | complete type => exact eq_mark_of_stepComplete h
  | brackets element rank =>
    simp only [step] at h
    split at h <;> simp at h

/-- The reader stops behind the last lexeme, or at the first one that it cannot take. -/
theorem readFrom_eq_error {size place : Nat} {reading : Reading} {text : List Lexeme} {expectation : Expectation}
    (h : readFrom size reading text = .error (place, expectation)) :
    (∃ last, (text.map (·.token)).foldlM Reading.step reading = .ok last ∧ last.finish = .error expectation ∧ place = size) ∨
      ∃ before lexeme later between, text = before ++ lexeme :: later ∧
        (before.map (·.token)).foldlM Reading.step reading = .ok between ∧
        between.step lexeme.token = .error expectation ∧ place = refusalOffset lexeme.offset expectation := by
  induction text generalizing reading with
  | nil =>
    rw [readFrom] at h
    cases hfinish : reading.finish with
    | error cause =>
      simp only [hfinish, Except.mapError, Except.error.injEq, Prod.mk.injEq] at h
      exact .inl ⟨reading, rfl, h.2 ▸ hfinish, h.1.symm⟩
    | ok type => simp [hfinish, Except.mapError] at h
  | cons lexeme rest ih =>
    rw [readFrom] at h
    cases hstep : reading.step lexeme.token with
    | error cause =>
      simp only [hstep, Except.error.injEq, Prod.mk.injEq] at h
      obtain ⟨hplace, rfl⟩ := h
      exact .inr ⟨[], lexeme, rest, reading, rfl, rfl, hstep, hplace.symm⟩
    | ok next =>
      rw [hstep] at h
      rcases ih h with ⟨last, hread, hfinish⟩ | ⟨before, refused, later, between, rfl, hread, hrefused⟩
      · exact .inl ⟨last, (foldlM_step_cons hstep).trans hread, hfinish⟩
      · exact .inr ⟨lexeme :: before, refused, later, between, rfl, (foldlM_step_cons hstep).trans hread, hrefused⟩

/-- No text is accepted in which a lexeme stands that the reader cannot take there. -/
theorem parse_ne_ok_of_step {text : String} {before later : List Lexeme} {lexeme : Lexeme} {between : Reading} {expectation : Expectation}
    (hlexemes : lexemes text.toList = before ++ lexeme :: later)
    (hread : (before.map (·.token)).foldlM Reading.step .start = .ok between) (hstep : between.step lexeme.token = .error expectation) :
    parse text ≠ .ok type := by
  intro h
  obtain ⟨last, hlast, -⟩ := parse_eq_ok_iff.mp h
  rw [hlexemes, List.map_append, foldlM_step_append hread, List.map_cons, List.foldlM_cons, hstep] at hlast
  simp [bind, Except.bind] at hlast

theorem isFirstOffense_of_stands {before : List Lexeme} {lexeme : Lexeme} {read after : List Char} {between : Reading}
    {expectation : Expectation} (h : Stands 0 before lexeme read after)
    (hread : (before.map (·.token)).foldlM Reading.step .start = .ok between) (hstep : between.step lexeme.token = .error expectation) :
    IsFirstOffense (String.ofList read) (String.ofList after) where
  isBeginning := isBeginning_of_covers (Reading.covers_start.foldlM hread) h.spells
  isRefused token htoken rest hrest type := by
    rw [String.toList_ofList, h.firstToken] at htoken
    obtain rfl := Option.some.inj htoken
    obtain ⟨later, hlater⟩ := h.exchange rest.toList hrest
    have hlexemes : lexemes (String.ofList read ++ rest).toList = before ++ lexeme :: later := by
      rw [String.toList_append, String.toList_ofList]
      exact hlater.lexemes_eq
    exact parse_ne_ok_of_step hlexemes hread hstep

theorem isFirstOffense_end {text : String} (h : IsBeginning text) : IsFirstOffense text "" :=
  ⟨h, fun _ htoken => by simp [firstToken?] at htoken⟩

theorem refusalOffset_of_ne {expectation : Expectation} (h : expectation ≠ .secondElement) (offset : Nat) :
    refusalOffset offset expectation = offset := by
  cases expectation with
  | secondElement => exact absurd rfl h
  | typeName | closingBracket | furtherArgument | furtherElement | endOfText => rfl

theorem exists_eq_cons_of_firstToken? {text : List Char} {c : Char} (h : firstToken? text = some (.mark c)) :
    ∃ rest, text = c :: rest := by
  cases text with
  | nil => simp [firstToken?] at h
  | cons d rest =>
    simp only [firstToken?, Option.some.injEq] at h
    split at h
    · simp at h
    · exact ⟨rest, by rw [Token.mark.inj h]⟩

/-- Each error has its place; a tuple with one element is refused at its closing bracket. -/
theorem exists_isFirstOffense {text : String} {error : ParseError} (h : parse text = .error error) :
    ∃ before after, text = before ++ after ∧ error.offset = refusalOffset before.utf8ByteSize error.expectation ∧
      IsFirstOffense before after ∧ (error.expectation = .secondElement → firstToken? after.toList = some (.mark ')')) := by
  unfold parse at h
  cases hread : readFrom (byteLength text.toList) .start (lexemes text.toList) with
  | ok type => simp [hread, Except.mapError] at h
  | error cause =>
    obtain ⟨place, expectation⟩ := cause
    simp only [hread, Except.mapError, Except.error.injEq] at h
    subst h
    rcases readFrom_eq_error hread with ⟨last, hlast, hfinish, rfl⟩ | ⟨before, lexeme, later, between, hsplit, hbefore, hstep, rfl⟩
    · have hne : expectation ≠ .secondElement := by
        rintro rfl
        exact last.finish_ne_secondElement hfinish
      have hbeginning := isBeginning_of_covers (Reading.covers_start.foldlM hlast) (spells_lexemes text.toList)
      rw [String.ofList_toList] at hbeginning
      refine ⟨text, "", by simp, ?_, isFirstOffense_end hbeginning, fun heq => absurd heq hne⟩
      rw [refusalOffset_of_ne hne, ← utf8ByteSize_ofList, String.ofList_toList]
    · obtain ⟨read, after, htext, hstands⟩ := exists_stands (hsplit ▸ lexes_lexemes text.toList)
      refine ⟨String.ofList read, String.ofList after, ?_, ?_, isFirstOffense_of_stands hstands hbefore hstep, ?_⟩
      · rw [← String.ofList_append, ← htext, String.ofList_toList]
      · rw [hstands.offset_eq, Nat.zero_add, utf8ByteSize_ofList]
      · rintro rfl
        rw [String.toList_ofList, hstands.firstToken, Reading.eq_mark_of_step hstep]

theorem isValid_append (before after : String) : (String.Pos.Raw.mk before.utf8ByteSize).IsValid (before ++ after) :=
  String.Pos.Raw.isValid_iff_exists_append.mpr ⟨before, after, rfl, rfl⟩

/-- **An error is at the first offending place.** The offset is between two characters. What stands before it is the beginning of a written type; with the token that stands at it, a whole run of path characters or one other character, it is no longer. A tuple with one element is refused in the same sense at its closing bracket, one character before the offset. -/
theorem parse_error_isFirstOffense {text : String} {error : ParseError} (h : parse text = .error error) :
    (String.Pos.Raw.mk error.offset).IsValid text ∧
      (error.expectation ≠ .secondElement →
        ∃ before after, text = before ++ after ∧ before.utf8ByteSize = error.offset ∧ IsFirstOffense before after) ∧
      (error.expectation = .secondElement →
        ∃ before after, text = before ++ (")" ++ after) ∧ before.utf8ByteSize + 1 = error.offset ∧ IsFirstOffense before (")" ++ after)) := by
  obtain ⟨before, after, rfl, hoffset, hoffense, hbracket⟩ := exists_isFirstOffense h
  by_cases hsecond : error.expectation = .secondElement
  · obtain ⟨rest, hrest⟩ := exists_eq_cons_of_firstToken? (hbracket hsecond)
    obtain rfl : after = ")" ++ String.ofList rest := by
      rw [← String.toList_inj, hrest]
      simp
    have hsize : (before ++ ")").utf8ByteSize = error.offset := by
      rw [hoffset, hsecond, String.utf8ByteSize_append]
      rfl
    refine ⟨?_, fun hne => absurd hsecond hne, fun _ => ⟨before, _, rfl, ?_, hoffense⟩⟩
    · rw [← hsize, ← String.append_assoc]
      exact isValid_append _ _
    · rw [← hsize, String.utf8ByteSize_append]
      rfl
  · have hsize : before.utf8ByteSize = error.offset := by rw [hoffset, refusalOffset_of_ne hsecond]
    exact ⟨hsize ▸ isValid_append before after, fun _ => ⟨before, after, rfl, hsize, hoffense⟩, fun heq => absurd heq hsecond⟩

/-- Two letters of the first text have two bytes each. -/
theorem isFirstOffense_semicolon :
    parse "Demo.Größe<int;>" = .error ⟨"Demo.Größe<int;>", 16, .furtherArgument⟩ ∧
      (∃ before after, "Demo.Größe<int;>" = before ++ after ∧ before.utf8ByteSize = 16 ∧ IsFirstOffense before after) ∧
      parse "((int), string)" = .error ⟨"((int), string)", 6, .secondElement⟩ ∧
      ∃ before after, "((int), string)" = before ++ (")" ++ after) ∧ before.utf8ByteSize + 1 = 6 ∧ IsFirstOffense before (")" ++ after) := by
  have hsemicolon : parse "Demo.Größe<int;>" = .error ⟨"Demo.Größe<int;>", 16, .furtherArgument⟩ := by decide +kernel
  have hsingle : parse "((int), string)" = .error ⟨"((int), string)", 6, .secondElement⟩ := by decide +kernel
  exact ⟨hsemicolon, (parse_error_isFirstOffense hsemicolon).2.1 (by decide), hsingle, (parse_error_isFirstOffense hsingle).2.2 rfl⟩

end SchemaClosure.TypeRef
