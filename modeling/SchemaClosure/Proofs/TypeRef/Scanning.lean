import Mathlib.Data.List.TakeWhile
import SchemaClosure.Proofs.TypeRef.Grammar

/-!
Where the lexemes of a text stand. The scanner goes through a text character by character; taken word by word the text has the same lexemes, each with the number of bytes before it. The lexemes before a place do not depend on what follows it, as long as that begins with the same token: `exists_stands`.
-/

namespace SchemaClosure.TypeRef

/-- The token that a text begins with: all the path characters that stand there, or else one character of any other kind. -/
def firstToken? : List Char → Option Token
  | [] => none
  | c :: rest => some (if isPathChar c then .word (c :: rest.takeWhile isPathChar) else .mark c)

/-- The lexemes of a text with `offset` bytes before it, word by word. -/
inductive Lexes : Nat → List Char → List Lexeme → Prop where
  | nil {offset : Nat} : Lexes offset [] []
  | word {offset : Nat} {letters rest : List Char} {found : List Lexeme} (hletters : ∀ c ∈ letters, isPathChar c = true)
      (hne : letters ≠ []) (hend : ∀ c ∈ rest.head?, isPathChar c = false) (h : Lexes (offset + byteLength letters) rest found) :
      Lexes offset (letters ++ rest) (⟨.word letters, offset⟩ :: found)
  | blank {offset : Nat} {c : Char} {rest : List Char} {found : List Lexeme} (hblank : Text.isWhiteSpace c = true)
      (h : Lexes (offset + c.utf8Size) rest found) : Lexes offset (c :: rest) found
  | mark {offset : Nat} {c : Char} {rest : List Char} {found : List Lexeme} (hpath : isPathChar c = false)
      (hblank : Text.isWhiteSpace c = false) (h : Lexes (offset + c.utf8Size) rest found) :
      Lexes offset (c :: rest) (⟨.mark c, offset⟩ :: found)

variable {offset : Nat} {c : Char} {letters text rest : List Char} {found : List Lexeme} {token : Token}

theorem byteLength_append (first second : List Char) : byteLength (first ++ second) = byteLength first + byteLength second := by
  induction first with
  | nil => simp [byteLength]
  | cons c rest ih => simp [byteLength, ih, Nat.add_assoc]

theorem byteLength_reverse (text : List Char) : byteLength text.reverse = byteLength text := by
  induction text with
  | nil => rfl
  | cons c rest ih => simp [byteLength, byteLength_append, ih, Nat.add_comm]

theorem utf8ByteSize_ofList (text : List Char) : (String.ofList text).utf8ByteSize = byteLength text := by
  induction text with
  | nil => rfl
  | cons c rest ih =>
    have hcons : String.ofList (c :: rest) = String.singleton c ++ String.ofList rest := by
      rw [String.singleton_eq_ofList, ← String.ofList_append]
      rfl
    rw [hcons, String.utf8ByteSize_append, ih, String.utf8ByteSize_singleton, byteLength]

/-! Every text has its lexemes, and the scanner finds them. -/

theorem isPathChar_of_mem_head?_dropWhile (h : c ∈ (text.dropWhile isPathChar).head?) : isPathChar c = false := by
  rw [← List.find?_not_eq_head?_dropWhile] at h
  simpa using List.find?_some h

theorem Lexes.wholeWord (hpath : isPathChar c = true)
    (h : Lexes (offset + byteLength (c :: rest.takeWhile isPathChar)) (rest.dropWhile isPathChar) found) :
    Lexes offset (c :: rest) (⟨.word (c :: rest.takeWhile isPathChar), offset⟩ :: found) := by
  have hletters : ∀ d ∈ c :: rest.takeWhile isPathChar, isPathChar d = true :=
    List.forall_mem_cons.mpr ⟨hpath, fun d hmem => List.mem_takeWhile_imp hmem⟩
  have hword := Lexes.word hletters (List.cons_ne_nil _ _) (fun d hmem => isPathChar_of_mem_head?_dropWhile hmem) h
  rwa [List.cons_append, List.takeWhile_append_dropWhile] at hword

theorem exists_lexes (offset : Nat) (text : List Char) : ∃ found, Lexes offset text found := by
  match text with
  | [] => exact ⟨[], .nil⟩
  | c :: rest =>
    cases hpath : isPathChar c with
    | true =>
      obtain ⟨found, hfound⟩ := exists_lexes (offset + byteLength (c :: rest.takeWhile isPathChar)) (rest.dropWhile isPathChar)
      exact ⟨_, hfound.wholeWord hpath⟩
    | false =>
      obtain ⟨found, hfound⟩ := exists_lexes (offset + c.utf8Size) rest
      cases hblank : Text.isWhiteSpace c with
      | true => exact ⟨_, hfound.blank hblank⟩
      | false => exact ⟨_, hfound.mark hpath hblank⟩
termination_by text.length
decreasing_by
  · exact Nat.lt_succ_self _
  · exact Nat.lt_succ_of_le (List.dropWhile_suffix _).length_le

namespace Scanner

theorem offset_step (scanner : Scanner) (c : Char) : (scanner.step c).offset = scanner.offset + c.utf8Size := by
  unfold step
  split
  · rfl
  · split <;> rfl

theorem offset_foldl_step (text : List Char) (scanner : Scanner) :
    (text.foldl step scanner).offset = scanner.offset + byteLength text := by
  induction text generalizing scanner with
  | nil => rfl
  | cons c rest ih => rw [List.foldl_cons, ih, offset_step, byteLength, Nat.add_assoc]

theorem flush_foldl_letters {scanner : Scanner} (hletters : ∀ c ∈ letters, isPathChar c = true) (hne : letters ≠ [])
    (hrun : scanner.run = []) : (letters.foldl step scanner).flush = ⟨.word letters, scanner.offset⟩ :: scanner.flush := by
  obtain ⟨hfound, hread⟩ := foldl_step_letters hletters scanner
  rw [hrun, List.append_nil] at hread
  simp [flush, hfound, hread, hne, hrun, offset_foldl_step, byteLength_reverse]

theorem flush_step_blank (scanner : Scanner) (hblank : Text.isWhiteSpace c = true) : (scanner.step c).flush = scanner.flush := by
  simp [step, isPathChar_of_isWhiteSpace hblank, hblank, flush]

theorem flush_step_mark (scanner : Scanner) (hpath : isPathChar c = false) (hblank : Text.isWhiteSpace c = false) :
    (scanner.step c).flush = ⟨.mark c, scanner.offset⟩ :: scanner.flush := by
  simp [step, hpath, hblank, flush]

/-- A word that is growing is complete when the text does not go on with a letter. -/
theorem flush_foldl_of_lexes (h : Lexes offset text found) (scanner : Scanner) (hoffset : scanner.offset = offset)
    (hstart : scanner.run = [] ∨ ∀ c ∈ text.head?, isPathChar c = false) :
    (text.foldl step scanner).flush = found.reverse ++ scanner.flush := by
  induction h generalizing scanner with
  | nil => rfl
  | word hletters hne hend _ ih =>
    rename_i offset letters rest found
    have hrun : scanner.run = [] := by
      refine hstart.resolve_right fun hnone => ?_
      obtain ⟨c, letters, rfl⟩ := List.exists_cons_of_ne_nil hne
      exact absurd (hletters c List.mem_cons_self) (by simp [hnone c rfl])
    rw [List.foldl_append, ih _ (by rw [offset_foldl_step, hoffset]) (.inr hend), flush_foldl_letters hletters hne hrun, hoffset,
      List.reverse_cons, List.append_assoc, List.singleton_append]
  | blank hblank _ ih =>
    have hrun := (scanner.step_blank (isPathChar_of_isWhiteSpace hblank) hblank).2
    rw [List.foldl_cons, ih _ (by rw [offset_step, hoffset]) (.inl hrun), flush_step_blank scanner hblank]
  | mark hpath hblank _ ih =>
    have hrun := (scanner.step_mark hpath hblank).2
    rw [List.foldl_cons, ih _ (by rw [offset_step, hoffset]) (.inl hrun), flush_step_mark scanner hpath hblank, hoffset,
      List.reverse_cons, List.append_assoc, List.singleton_append]

end Scanner

theorem Lexes.lexemes_eq (h : Lexes 0 text found) : lexemes text = found := by
  have hflush := Scanner.flush_foldl_of_lexes h .start rfl (.inl rfl)
  rw [lexemes, hflush, List.reverse_append, List.reverse_reverse]
  rfl

theorem lexes_lexemes (text : List Char) : Lexes 0 text (lexemes text) := by
  obtain ⟨found, hfound⟩ := exists_lexes 0 text
  rwa [hfound.lexemes_eq]

theorem takeWhile_letters (hletters : ∀ c ∈ letters, isPathChar c = true) (hend : ∀ c ∈ rest.head?, isPathChar c = false) :
    (letters ++ rest).takeWhile isPathChar = letters := by
  rw [List.takeWhile_append_of_pos hletters]
  cases rest with
  | nil => simp
  | cons c rest => simp [hend c rfl]

theorem firstToken?_word (hletters : ∀ c ∈ letters, isPathChar c = true) (hne : letters ≠ [])
    (hend : ∀ c ∈ rest.head?, isPathChar c = false) : firstToken? (letters ++ rest) = some (.word letters) := by
  obtain ⟨c, letters, rfl⟩ := List.exists_cons_of_ne_nil hne
  obtain ⟨hfirst, hletters⟩ := List.forall_mem_cons.mp hletters
  rw [List.cons_append, firstToken?, if_pos hfirst, takeWhile_letters hletters hend]

theorem firstToken?_mark (hpath : isPathChar c = false) : firstToken? (c :: rest) = some (.mark c) := by
  simp [firstToken?, hpath]

theorem head?_eq_of_firstToken?_eq (h : firstToken? text = firstToken? rest) : text.head? = rest.head? := by
  cases text with
  | nil => cases rest <;> simp_all [firstToken?]
  | cons c text =>
    cases rest with
    | nil => simp [firstToken?] at h
    | cons d rest =>
      simp only [firstToken?, Option.some.injEq] at h
      split at h <;> split at h <;> simp_all

/-- The first token of a text is its first lexeme, if it is no white space. -/
theorem exists_lexes_of_firstToken? (offset : Nat) (h : firstToken? rest = some token)
    (hclear : ∀ c, token = .mark c → Text.isWhiteSpace c = false) : ∃ later, Lexes offset rest (⟨token, offset⟩ :: later) := by
  cases rest with
  | nil => simp [firstToken?] at h
  | cons c rest =>
    cases hpath : isPathChar c with
    | true =>
      obtain rfl : Token.word (c :: rest.takeWhile isPathChar) = token := by simpa [firstToken?, hpath] using h
      obtain ⟨later, hlater⟩ := exists_lexes (offset + byteLength (c :: rest.takeWhile isPathChar)) (rest.dropWhile isPathChar)
      exact ⟨later, hlater.wholeWord hpath⟩
    | false =>
      obtain rfl : Token.mark c = token := by simpa [firstToken?, hpath] using h
      obtain ⟨later, hlater⟩ := exists_lexes (offset + c.utf8Size) rest
      exact ⟨later, hlater.mark hpath (hclear c rfl)⟩

/-- A lexeme and the text on both sides of its place. The lexemes before it are found in what has been read, whatever text follows that begins with the same token. -/
structure Stands (offset : Nat) (before : List Lexeme) (lexeme : Lexeme) (read after : List Char) : Prop where
  offset_eq : lexeme.offset = offset + byteLength read
  firstToken : firstToken? after = some lexeme.token
  spells : Spells (before.map (·.token)) read
  exchange : ∀ rest, firstToken? rest = some lexeme.token → ∃ later, Lexes offset (read ++ rest) (before ++ lexeme :: later)

namespace Stands

variable {before : List Lexeme} {lexeme : Lexeme} {read after : List Char}

theorem here (h : firstToken? after = some token) (hclear : ∀ c, token = .mark c → Text.isWhiteSpace c = false) :
    Stands offset [] ⟨token, offset⟩ [] after where
  offset_eq := rfl
  firstToken := h
  spells := .nil fun _ hmem => absurd hmem List.not_mem_nil
  exchange _ hrest := exists_lexes_of_firstToken? offset hrest hclear

theorem blank (h : Stands (offset + c.utf8Size) before lexeme read after) (hblank : Text.isWhiteSpace c = true) :
    Stands offset before lexeme (c :: read) after where
  offset_eq := by rw [h.offset_eq, byteLength, Nat.add_assoc]
  firstToken := h.firstToken
  spells := by
    have hblanks : ∀ d ∈ [c], Text.isWhiteSpace d = true := fun d hmem => by rwa [List.mem_singleton.mp hmem]
    exact h.spells.prepend hblanks
  exchange rest hrest := by
    obtain ⟨later, hlater⟩ := h.exchange rest hrest
    exact ⟨later, hlater.blank hblank⟩

theorem mark (h : Stands (offset + c.utf8Size) before lexeme read after) (hpath : isPathChar c = false)
    (hblank : Text.isWhiteSpace c = false) : Stands offset (⟨.mark c, offset⟩ :: before) lexeme (c :: read) after where
  offset_eq := by rw [h.offset_eq, byteLength, Nat.add_assoc]
  firstToken := h.firstToken
  spells := (Spells.token (.mark c)).append h.spells
  exchange rest hrest := by
    obtain ⟨later, hlater⟩ := h.exchange rest hrest
    exact ⟨later, hlater.mark hpath hblank⟩

/-- What is exchanged begins like what was there, so the word does not grow. -/
theorem word (h : Stands (offset + byteLength letters) before lexeme read after) (hletters : ∀ c ∈ letters, isPathChar c = true)
    (hne : letters ≠ []) (hend : ∀ c ∈ (read ++ after).head?, isPathChar c = false) :
    Stands offset (⟨.word letters, offset⟩ :: before) lexeme (letters ++ read) after where
  offset_eq := by rw [h.offset_eq, byteLength_append, Nat.add_assoc]
  firstToken := h.firstToken
  spells := (Spells.token (.word letters)).append h.spells
  exchange rest hrest := by
    obtain ⟨later, hlater⟩ := h.exchange rest hrest
    have hhead : (read ++ rest).head? = (read ++ after).head? := by
      rw [List.head?_append, List.head?_append, head?_eq_of_firstToken?_eq (hrest.trans h.firstToken.symm)]
    rw [List.append_assoc]
    exact ⟨later, hlater.word hletters hne (hhead ▸ hend)⟩

end Stands

theorem exists_stands {before later : List Lexeme} {lexeme : Lexeme} (h : Lexes offset text (before ++ lexeme :: later)) :
    ∃ read after, text = read ++ after ∧ Stands offset before lexeme read after := by
  generalize hfound : before ++ lexeme :: later = found at h
  induction h generalizing before with
  | nil => simp at hfound
  | blank hblank _ ih =>
    obtain ⟨read, after, rfl, hstands⟩ := ih hfound
    exact ⟨_, after, rfl, hstands.blank hblank⟩
  | word hletters hne hend _ ih =>
    cases before with
    | nil =>
      obtain ⟨rfl, -⟩ := List.cons.inj hfound
      exact ⟨[], _, rfl, .here (firstToken?_word hletters hne hend) (by simp)⟩
    | cons first before =>
      obtain ⟨rfl, hrest⟩ := List.cons.inj hfound
      obtain ⟨read, after, rfl, hstands⟩ := ih hrest
      exact ⟨_, after, (List.append_assoc ..).symm, hstands.word hletters hne hend⟩
  | mark hpath hblank _ ih =>
    cases before with
    | nil =>
      obtain ⟨rfl, -⟩ := List.cons.inj hfound
      exact ⟨[], _, rfl, .here (firstToken?_mark hpath) fun d hd => Token.mark.inj hd ▸ hblank⟩
    | cons first before =>
      obtain ⟨rfl, hrest⟩ := List.cons.inj hfound
      obtain ⟨read, after, rfl, hstands⟩ := ih hrest
      exact ⟨_, after, rfl, hstands.mark hpath hblank⟩

end SchemaClosure.TypeRef
