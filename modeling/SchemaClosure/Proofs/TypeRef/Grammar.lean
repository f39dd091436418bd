import Mathlib.Data.List.Chain
import SchemaClosure.Proofs.Except
import SchemaClosure.Proofs.Text.Characters
import SchemaClosure.TypeRef.Parser

/-!
The grammar of written types, and the reader against it. A written type is a derivation over tokens, with white space anywhere between them; the reader accepts exactly these texts, and each in one way: `parse_eq_ok_iff_isWritten`.
-/

namespace SchemaClosure.TypeRef

/-- The marks of the grammar; every other character of a type belongs to a name or to white space. -/
def marks : List Char := ['?', '<', '>', '[', ',', ']', '(', ')']

/-- What a production stands for: a type, a type before its suffixes, or types with commas between them. -/
inductive Phrase where
  | type (type : TypeRef)
  | base (type : TypeRef)
  | list (types : List TypeRef)

/-- The productions. A type is a base and its suffixes; a base is a tuple or a name that may have arguments. -/
inductive Derives : Phrase → List Token → Prop where
  | base {type : TypeRef} {tokens : List Token} (h : Derives (.base type) tokens) : Derives (.type type) tokens
  | optional {type : TypeRef} {tokens : List Token} (h : Derives (.type type) tokens) :
      Derives (.type (nullable type)) (tokens ++ [.mark '?'])
  | array {type : TypeRef} {tokens : List Token} (commas : Nat) (h : Derives (.type type) tokens) :
      Derives (.type (.array type (commas + 1))) (tokens ++ .mark '[' :: (List.replicate commas (.mark ',') ++ [.mark ']']))
  | tuple {types : List TypeRef} {tokens : List Token} (hlength : 1 < types.length) (h : Derives (.list types) tokens) :
      Derives (.base (.tuple types)) (.mark '(' :: (tokens ++ [.mark ')']))
  | path {letters : List Char} (hpath : isPath letters = true) :
      Derives (.base (.named (String.ofList letters) [])) [.word letters]
  | generic {letters : List Char} {types : List TypeRef} {tokens : List Token} (hpath : isPath letters = true)
      (h : Derives (.list types) tokens) :
      Derives (.base (.named (String.ofList letters) types)) (.word letters :: .mark '<' :: (tokens ++ [.mark '>']))
  | single {type : TypeRef} {tokens : List Token} (h : Derives (.type type) tokens) : Derives (.list [type]) tokens
  | cons {type : TypeRef} {types : List TypeRef} {tokens rest : List Token} (h : Derives (.type type) tokens)
      (hrest : Derives (.list types) rest) : Derives (.list (type :: types)) (tokens ++ .mark ',' :: rest)

def Token.chars : Token → List Char
  | .word letters => letters
  | .mark c => [c]

/-- A text that consists of tokens, in their order, and of white space before and after them. -/
inductive Spells : List Token → List Char → Prop where
  | nil {blanks : List Char} (hblanks : ∀ c ∈ blanks, Text.isWhiteSpace c = true) : Spells [] blanks
  | cons {blanks rest : List Char} {token : Token} {tokens : List Token} (hblanks : ∀ c ∈ blanks, Text.isWhiteSpace c = true)
      (hrest : Spells tokens rest) : Spells (token :: tokens) (blanks ++ (token.chars ++ rest))

/-- The text is a way of writing the type. -/
def IsWritten (type : TypeRef) (text : String) : Prop := ∃ tokens, Derives (.type type) tokens ∧ Spells tokens text.toList

theorem Spells.prepend {blanks text : List Char} {tokens : List Token} (hblanks : ∀ c ∈ blanks, Text.isWhiteSpace c = true)
    (h : Spells tokens text) : Spells tokens (blanks ++ text) := by
  cases h with
  | nil hmore =>
    apply Spells.nil
    intro c hmem
    exact (List.mem_append.mp hmem).elim (hblanks c) (hmore c)
  | cons hmore hrest =>
    rw [← List.append_assoc]
    apply Spells.cons _ hrest
    intro c hmem
    exact (List.mem_append.mp hmem).elim (hblanks c) (hmore c)

theorem Spells.append {first second : List Token} {text rest : List Char} (h : Spells first text) (hrest : Spells second rest) :
    Spells (first ++ second) (text ++ rest) := by
  induction h with
  | nil hblanks => exact hrest.prepend hblanks
  | cons hblanks _ ih =>
    rw [List.append_assoc, List.append_assoc]
    exact .cons hblanks ih

theorem Spells.token (token : Token) : Spells [token] token.chars := by
  have hblanks : ∀ c ∈ ([] : List Char), Text.isWhiteSpace c = true := fun c hmem => absurd hmem List.not_mem_nil
  have htoken : Spells [token] ([] ++ (token.chars ++ [])) := .cons hblanks (.nil hblanks)
  simpa using htoken

/-- A token that the scanner cannot take for anything else. -/
def Token.IsClear : Token → Prop
  | .word letters => isPath letters = true
  | .mark c => isPathChar c = false ∧ Text.isWhiteSpace c = false

/-- Two words in a row would be scanned as one. -/
def Token.Apart : Token → Token → Prop
  | .word _, .word _ => False
  | _, _ => True

/-- Tokens that are found again wherever white space is put. -/
structure AreScannable (tokens : List Token) : Prop where
  clear : ∀ token ∈ tokens, token.IsClear
  apart : tokens.IsChain Token.Apart

theorem isChain_mark_cons {c : Char} {tokens : List Token} :
    (Token.mark c :: tokens).IsChain Token.Apart ↔ tokens.IsChain Token.Apart := by
  rw [List.isChain_cons]
  refine and_iff_right ?_
  intro token _
  exact trivial

theorem isChain_append_mark {c : Char} {tokens rest : List Token} :
    (tokens ++ Token.mark c :: rest).IsChain Token.Apart ↔ tokens.IsChain Token.Apart ∧ rest.IsChain Token.Apart := by
  rw [List.isChain_append, isChain_mark_cons]
  refine and_congr_right fun _ => and_iff_left ?_
  intro token _ next hnext
  rw [← Option.some.inj hnext]
  cases token <;> exact trivial

theorem isClear_mark {c : Char} (h : c ∈ marks) : (Token.mark c).IsClear := by
  have hmarks : marks.all (fun c => decide (c.toNat < 0x80) && !(c.isAlphanum || c == '_' || c == '.') && !Text.isWhiteSpace c) = true := by
    decide
  have hmark := List.all_eq_true.mp hmarks c h
  simp only [Bool.and_eq_true, decide_eq_true_eq, Bool.not_eq_true'] at hmark
  refine ⟨?_, hmark.2⟩
  rw [isPathChar, Text.isAlphanumeric_of_lt hmark.1.1]
  exact hmark.1.2

theorem AreScannable.mark {c : Char} {tokens : List Token} (hmark : c ∈ marks) (h : AreScannable tokens) :
    AreScannable (.mark c :: tokens) :=
  ⟨List.forall_mem_cons.mpr ⟨isClear_mark hmark, h.clear⟩, isChain_mark_cons.mpr h.apart⟩

theorem AreScannable.append {c : Char} {tokens rest : List Token} (hmark : c ∈ marks) (h : AreScannable tokens)
    (hrest : AreScannable rest) : AreScannable (tokens ++ .mark c :: rest) := by
  refine ⟨?_, isChain_append_mark.mpr ⟨h.apart, hrest.apart⟩⟩
  intro token hmem
  rcases List.mem_append.mp hmem with hmem | hmem
  · exact h.clear token hmem
  · exact (hrest.mark hmark).clear token hmem

theorem areScannable_nil : AreScannable [] := ⟨fun _ hmem => absurd hmem List.not_mem_nil, .nil⟩

theorem areScannable_word {letters : List Char} (h : isPath letters = true) : AreScannable [.word letters] := by
  refine ⟨?_, .singleton _⟩
  intro token hmem
  rw [List.mem_singleton.mp hmem]
  exact h

theorem areScannable_commas (commas : Nat) : AreScannable (List.replicate commas (.mark ',') ++ [.mark ']']) := by
  induction commas with
  | zero => exact areScannable_nil.mark (by decide)
  | succ commas ih => exact ih.mark (by decide)

/-- In a derivation a mark stands between any two words. -/
theorem Derives.areScannable {phrase : Phrase} {tokens : List Token} (h : Derives phrase tokens) : AreScannable tokens := by
  induction h with
  | base _ ih => exact ih
  | optional _ ih => exact ih.append (by decide) areScannable_nil
  | array commas _ ih => exact ih.append (by decide) (areScannable_commas commas)
  | tuple _ _ ih => exact (ih.append (by decide) areScannable_nil).mark (by decide)
  | path hpath => exact areScannable_word hpath
  | generic hpath _ ih =>
    exact (areScannable_word hpath).append (by decide) (ih.append (by decide) areScannable_nil)
  | single _ ih => exact ih
  | cons _ _ ih ihrest => exact ih.append (by decide) ihrest

theorem isPathChar_of_isWhiteSpace {c : Char} (h : Text.isWhiteSpace c = true) : isPathChar c = false := by
  have hunderscore : c ≠ '_' := by
    rintro rfl
    exact absurd h (by decide)
  have hdot : c ≠ '.' := by
    rintro rfl
    exact absurd h (by decide)
  simp [isPathChar, Text.isAlphanumeric_of_isWhiteSpace h, hunderscore, hdot]

namespace Scanner

variable {scanner : Scanner}

def tokens (scanner : Scanner) : List Token := (scanner.flush.map (·.token)).reverse

theorem tokens_of_run_eq_nil (h : scanner.run = []) : scanner.tokens = (scanner.found.map (·.token)).reverse := by
  simp [tokens, flush, h]

theorem tokens_of_run_ne_nil (h : scanner.run ≠ []) :
    scanner.tokens = (scanner.found.map (·.token)).reverse ++ [.word scanner.run.reverse] := by
  simp [tokens, flush, h]

theorem step_mark (scanner : Scanner) {c : Char} (hpath : isPathChar c = false) (hblank : Text.isWhiteSpace c = false) :
    (scanner.step c).tokens = scanner.tokens ++ [.mark c] ∧ (scanner.step c).run = [] := by
  simp [step, hpath, hblank, tokens, flush]

theorem step_blank (scanner : Scanner) {c : Char} (hpath : isPathChar c = false) (hblank : Text.isWhiteSpace c = true) :
    (scanner.step c).tokens = scanner.tokens ∧ (scanner.step c).run = [] := by
  simp [step, hpath, hblank, tokens, flush]

theorem step_letter (scanner : Scanner) {c : Char} (hpath : isPathChar c = true) :
    (scanner.step c).found = scanner.found ∧ (scanner.step c).run = c :: scanner.run := by
  simp [step, hpath]

/-! What the scanner finds spells the text. -/

/-- The text read so far consists of the tokens found and of the letters that are still growing into a word. -/
def Covers (scanner : Scanner) (read : List Char) : Prop :=
  ∃ before, Spells (scanner.found.map (·.token)).reverse before ∧ read = before ++ scanner.run.reverse

theorem Covers.spells {read : List Char} (h : scanner.Covers read) : Spells scanner.tokens read := by
  obtain ⟨before, hbefore, rfl⟩ := h
  by_cases hrun : scanner.run = []
  · rw [tokens_of_run_eq_nil hrun, hrun, List.reverse_nil, List.append_nil]
    exact hbefore
  · rw [tokens_of_run_ne_nil hrun]
    exact hbefore.append (.token (.word scanner.run.reverse))

theorem Covers.step {read : List Char} (h : scanner.Covers read) (c : Char) : (scanner.step c).Covers (read ++ [c]) := by
  cases hpath : isPathChar c with
  | true =>
    obtain ⟨hfound, hrun⟩ := scanner.step_letter hpath
    obtain ⟨before, hbefore, rfl⟩ := h
    refine ⟨before, hfound ▸ hbefore, ?_⟩
    rw [hrun, List.reverse_cons, List.append_assoc]
  | false =>
    cases hblank : Text.isWhiteSpace c with
    | true =>
      obtain ⟨htokens, hrun⟩ := scanner.step_blank hpath hblank
      have hend : Spells [] [c] := .nil fun d hmem => by rwa [List.mem_singleton.mp hmem]
      refine ⟨read ++ [c], ?_, by simp [hrun]⟩
      rw [← tokens_of_run_eq_nil hrun, htokens]
      simpa using h.spells.append hend
    | false =>
      obtain ⟨htokens, hrun⟩ := scanner.step_mark hpath hblank
      refine ⟨read ++ [c], ?_, by simp [hrun]⟩
      rw [← tokens_of_run_eq_nil hrun, htokens]
      exact h.spells.append (.token (.mark c))

theorem Covers.foldl {read : List Char} (h : scanner.Covers read) (text : List Char) :
    (text.foldl Scanner.step scanner).Covers (read ++ text) := by
  induction text generalizing scanner read with
  | nil => simpa using h
  | cons c rest ih => simpa using ih (h.step c)

/-! What spells a text is found by the scanner. -/

theorem foldl_step_letters {letters : List Char} (h : ∀ c ∈ letters, isPathChar c = true) (scanner : Scanner) :
    (letters.foldl step scanner).found = scanner.found ∧ (letters.foldl step scanner).run = letters.reverse ++ scanner.run := by
  induction letters generalizing scanner with
  | nil => simp
  | cons c letters ih =>
    obtain ⟨hfound, hrun⟩ := scanner.step_letter (h c List.mem_cons_self)
    obtain ⟨hfound', hrun'⟩ := ih (fun d hmem => h d (List.mem_cons_of_mem c hmem)) (scanner.step c)
    rw [List.foldl_cons, hfound', hfound, hrun', hrun]
    simp

theorem tokens_foldl_path {letters : List Char} (h : isPath letters = true) (hrun : scanner.run = []) :
    (letters.foldl step scanner).tokens = scanner.tokens ++ [.word letters] := by
  simp only [isPath, Bool.and_eq_true, Bool.not_eq_true', List.all_eq_true, List.isEmpty_eq_false_iff] at h
  obtain ⟨hfound, hletters⟩ := foldl_step_letters h.1.1.1.2 scanner
  rw [hrun, List.append_nil] at hletters
  have hne : (letters.foldl step scanner).run ≠ [] := by
    rw [hletters, Ne, List.reverse_eq_nil_iff]
    exact h.1.1.1.1
  rw [tokens_of_run_ne_nil hne, hletters, hfound, List.reverse_reverse, tokens_of_run_eq_nil hrun]

theorem foldl_step_blanks {blanks : List Char} (h : ∀ c ∈ blanks, Text.isWhiteSpace c = true) (scanner : Scanner) :
    (blanks.foldl step scanner).tokens = scanner.tokens ∧ (scanner.run = [] → (blanks.foldl step scanner).run = []) := by
  induction blanks generalizing scanner with
  | nil => exact ⟨rfl, id⟩
  | cons c rest ih =>
    have hblank := h c List.mem_cons_self
    obtain ⟨htokens, hrun⟩ := scanner.step_blank (isPathChar_of_isWhiteSpace hblank) hblank
    obtain ⟨htokens', hrun'⟩ := ih (fun d hmem => h d (List.mem_cons_of_mem c hmem)) (scanner.step c)
    exact ⟨htokens'.trans htokens, fun _ => hrun' hrun⟩

/-- A word can only be found where no other word is growing. -/
theorem tokens_foldl_of_spells {written : List Token} {text : List Char} (h : Spells written text) (hscan : AreScannable written)
    (scanner : Scanner) (hfirst : ∀ letters, .word letters ∈ written.head? → scanner.run = []) :
    (text.foldl step scanner).tokens = scanner.tokens ++ written := by
  induction h generalizing scanner with
  | nil hblanks => rw [(foldl_step_blanks hblanks scanner).1, List.append_nil]
  | cons hblanks _ ih =>
    rename_i blanks rest token later hlater
    obtain ⟨htokens, hrun⟩ := foldl_step_blanks hblanks scanner
    obtain ⟨hclear, hclears⟩ := List.forall_mem_cons.mp hscan.clear
    obtain ⟨hapart, hchain⟩ := List.isChain_cons.mp hscan.apart
    rw [List.foldl_append, List.foldl_append]
    cases token with
    | word letters =>
      have hword := tokens_foldl_path hclear (hrun (hfirst letters rfl))
      have hnext : ∀ letters', .word letters' ∈ later.head? → (letters.foldl step (blanks.foldl step scanner)).run = [] :=
        fun letters' hmem => absurd (hapart _ hmem) id
      rw [Token.chars, ih ⟨hclears, hchain⟩ _ hnext, hword, htokens, List.append_assoc, List.singleton_append]
    | mark c =>
      obtain ⟨hmark, hend⟩ := step_mark (blanks.foldl step scanner) hclear.1 hclear.2
      rw [Token.chars, List.foldl_cons, List.foldl_nil, ih ⟨hclears, hchain⟩ _ fun _ _ => hend, hmark, htokens, List.append_assoc,
        List.singleton_append]

end Scanner

/-- Every text consists of what the scanner finds in it. -/
theorem spells_lexemes (text : List Char) : Spells ((lexemes text).map (·.token)) text := by
  have hstart : Scanner.start.Covers [] := ⟨[], .nil fun c hmem => absurd hmem List.not_mem_nil, rfl⟩
  have hend := (hstart.foldl text).spells
  rwa [List.nil_append, Scanner.tokens, ← List.map_reverse] at hend

theorem map_token_lexemes {tokens : List Token} {text : List Char} (h : Spells tokens text) (hscan : AreScannable tokens) :
    (lexemes text).map (·.token) = tokens := by
  have hend := Scanner.tokens_foldl_of_spells h hscan Scanner.start fun _ _ => rfl
  have hstart : Scanner.start.tokens = [] := rfl
  rwa [hstart, List.nil_append, Scanner.tokens, ← List.map_reverse] at hend

/-! What the reader accepts is derived. The invariant splits the tokens read so far into those before the focus, which open the frames of the stack, and those of the focus. -/

/-- The type that is in the focus, where suffixes may follow it. After a bare name it is the name, though arguments may follow that as well. -/
def Focus.type? : Focus → Option TypeRef
  | .path name => some (.named name [])
  | .complete type => some type
  | .opening | .brackets .. => none

theorem finish_eq_ok_iff {reading : Reading} {type : TypeRef} :
    reading.finish = .ok type ↔ reading.stack = [] ∧ reading.focus.type? = some type := by
  obtain ⟨stack, focus⟩ := reading
  cases focus <;> cases stack <;> simp [Reading.finish, Focus.type?]

theorem step_mark_of_type? {focus : Focus} {type : TypeRef} (h : focus.type? = some type) (stack : List Frame) {c : Char} (hc : c ≠ '<') :
    Reading.step ⟨stack, focus⟩ (.mark c) = Reading.stepComplete stack type (.mark c) := by
  cases focus with
  | path name =>
    obtain rfl := Option.some.inj h
    simp [Reading.step, hc]
  | complete read =>
    obtain rfl := Option.some.inj h
    rfl
  | opening => simp [Focus.type?] at h
  | brackets element rank => simp [Focus.type?] at h

/-- Types with a comma behind each of them, latest first as in a frame. -/
inductive Items : List TypeRef → List Token → Prop where
  | nil : Items [] []
  | cons {type : TypeRef} {types : List TypeRef} {tokens rest : List Token} (h : Items types tokens)
      (htype : Derives (.type type) rest) : Items (type :: types) (tokens ++ (rest ++ [.mark ',']))

theorem Items.close {types last : List TypeRef} {tokens rest : List Token} (h : Items types tokens)
    (hlast : Derives (.list last) rest) : Derives (.list (types.reverse ++ last)) (tokens ++ rest) := by
  induction h generalizing last rest with
  | nil => exact hlast
  | cons _ htype ih =>
    have hlist := ih (.cons htype hlast)
    simpa using hlist

/-- The tokens that open a stack of frames, with the types that the frames hold. -/
inductive Opens : List Frame → List Token → Prop where
  | nil : Opens [] []
  | arguments {letters : List Char} {types : List TypeRef} {stack : List Frame} {tokens items : List Token} (h : Opens stack tokens)
      (hpath : isPath letters = true) (hitems : Items types items) :
      Opens (.arguments (String.ofList letters) types :: stack) (tokens ++ .word letters :: .mark '<' :: items)
  | elements {types : List TypeRef} {stack : List Frame} {tokens items : List Token} (h : Opens stack tokens)
      (hitems : Items types items) : Opens (.elements types :: stack) (tokens ++ .mark '(' :: items)

/-- The tokens that a focus has read. -/
inductive Focus.Covers : Focus → List Token → Prop where
  | opening : Covers .opening []
  | path {letters : List Char} (hpath : isPath letters = true) : Covers (.path (String.ofList letters)) [.word letters]
  | complete {type : TypeRef} {tokens : List Token} (h : Derives (.type type) tokens) : Covers (.complete type) tokens
  | brackets {type : TypeRef} {tokens : List Token} (commas : Nat) (h : Derives (.type type) tokens) :
      Covers (.brackets type (commas + 1)) (tokens ++ .mark '[' :: List.replicate commas (.mark ','))

theorem Focus.Covers.derives {focus : Focus} {type : TypeRef} {tokens : List Token} (h : focus.Covers tokens)
    (htype : focus.type? = some type) : Derives (.type type) tokens := by
  cases h with
  | path hpath => exact Option.some.inj htype ▸ .base (.path hpath)
  | complete hderives => exact Option.some.inj htype ▸ hderives
  | opening => simp [Focus.type?] at htype
  | brackets commas hderives => simp [Focus.type?] at htype

def Reading.Covers (reading : Reading) (tokens : List Token) : Prop :=
  ∃ before current, tokens = before ++ current ∧ Opens reading.stack before ∧ reading.focus.Covers current

namespace Reading

variable {reading next : Reading} {tokens : List Token} {token : Token}

theorem covers_start : start.Covers [] := ⟨[], [], rfl, .nil, .opening⟩

theorem covers_stepComplete {stack : List Frame} {type : TypeRef} {before current : List Token} (hstack : Opens stack before)
    (htype : Derives (.type type) current) (h : stepComplete stack type token = .ok next) :
    next.Covers (before ++ current ++ [token]) := by
  unfold stepComplete at h
  split at h
  · obtain rfl := Except.ok.inj h
    exact ⟨before, current ++ [.mark '?'], by simp, hstack, .complete (.optional htype)⟩
  · obtain rfl := Except.ok.inj h
    exact ⟨before, current ++ [.mark '['], by simp, hstack, .brackets 0 htype⟩
  · obtain rfl := Except.ok.inj h
    refine ⟨before ++ current ++ [.mark ','], [], by simp, ?_, .opening⟩
    cases hstack with
    | arguments hstack hpath hitems => simpa [Frame.push] using Opens.arguments hstack hpath (hitems.cons htype)
    | elements hstack hitems => simpa [Frame.push] using Opens.elements hstack (hitems.cons htype)
  · obtain rfl := Except.ok.inj h
    cases hstack with
    | arguments hstack hpath hitems =>
      rename_i outer letters opening items
      have hlist := hitems.close (.single htype)
      refine ⟨opening, .word letters :: .mark '<' :: ((items ++ current) ++ [.mark '>']), by simp, hstack, ?_⟩
      simpa using Focus.Covers.complete (.base (.generic hpath hlist))
  · split at h
    · simp at h
    · rename_i types outer hne
      obtain rfl := Except.ok.inj h
      cases hstack with
      | elements hstack hitems =>
        rename_i opening items
        have hlist := hitems.close (.single htype)
        have hlength : 1 < (types.reverse ++ [type]).length := by
          have hpos : types.length ≠ 0 := by simpa using hne
          simp only [List.length_append, List.length_reverse, List.length_singleton]
          omega
        refine ⟨opening, .mark '(' :: ((items ++ current) ++ [.mark ')']), by simp, hstack, ?_⟩
        simpa using Focus.Covers.complete (.base (.tuple hlength hlist))
  · simp at h

theorem Covers.step (hreading : reading.Covers tokens) (h : reading.step token = .ok next) : next.Covers (tokens ++ [token]) := by
  obtain ⟨stack, focus⟩ := reading
  obtain ⟨before, current, rfl, hstack, hfocus⟩ := hreading
  cases hfocus with
  | opening =>
    simp only [Reading.step] at h
    split at h
    · obtain rfl := Except.ok.inj h
      exact ⟨before ++ [.mark '('], [], by simp, .elements hstack .nil, .opening⟩
    · simp at h
    · split at h
      · rename_i letters hpath
        obtain rfl := Except.ok.inj h
        exact ⟨before, [.word letters], by simp, hstack, .path hpath⟩
      · simp at h
  | path hpath =>
    rename_i letters
    simp only [Reading.step] at h
    split at h
    · rename_i hopen
      obtain rfl := Except.ok.inj h
      subst hopen
      exact ⟨before ++ [.word letters, .mark '<'], [], by simp, .arguments hstack hpath .nil, .opening⟩
    · exact covers_stepComplete hstack (.base (.path hpath)) h
  | complete htype => exact covers_stepComplete hstack htype h
  | brackets commas htype =>
    rename_i type element
    simp only [Reading.step] at h
    split at h
    · obtain rfl := Except.ok.inj h
      refine ⟨before, element ++ .mark '[' :: List.replicate (commas + 1) (.mark ','), ?_, hstack, .brackets (commas + 1) htype⟩
      simp [List.replicate_succ']
    · obtain rfl := Except.ok.inj h
      refine ⟨before, element ++ .mark '[' :: (List.replicate commas (.mark ',') ++ [.mark ']']), by simp, hstack, ?_⟩
      exact .complete (.array commas htype)
    · simp at h

theorem Covers.foldlM {rest : List Token} (hreading : reading.Covers tokens) (h : rest.foldlM Reading.step reading = .ok next) :
    next.Covers (tokens ++ rest) := by
  induction rest generalizing reading tokens with
  | nil =>
    obtain rfl : reading = next := by simpa [pure, Except.pure] using h
    rwa [List.append_nil]
  | cons token rest ih =>
    rw [List.foldlM_cons, bind_eq_ok_iff] at h
    obtain ⟨after, hstep, hrest⟩ := h
    simpa using ih (hreading.step hstep) hrest

theorem Covers.derives {type : TypeRef} (hreading : reading.Covers tokens) (h : reading.finish = .ok type) :
    Derives (.type type) tokens := by
  obtain ⟨hdone, htype⟩ := finish_eq_ok_iff.mp h
  obtain ⟨before, current, rfl, hstack, hfocus⟩ := hreading
  rw [hdone] at hstack
  cases hstack with
  | nil => exact hfocus.derives htype

end Reading

theorem readFrom_eq_ok_iff {size : Nat} {reading : Reading} {text : List Lexeme} {type : TypeRef} :
    readFrom size reading text = .ok type ↔
      ∃ last, (text.map (·.token)).foldlM Reading.step reading = .ok last ∧ last.finish = .ok type := by
  induction text generalizing reading with
  | nil =>
    rw [readFrom, mapError_eq_ok_iff]
    simp [pure, Except.pure]
  | cons lexeme rest ih =>
    rw [readFrom, List.map_cons, List.foldlM_cons]
    cases hstep : reading.step lexeme.token with
    | error expectation => simp [bind, Except.bind]
    | ok next => exact ih

theorem parse_eq_ok_iff {text : String} {type : TypeRef} :
    parse text = .ok type ↔
      ∃ last, ((lexemes text.toList).map (·.token)).foldlM Reading.step .start = .ok last ∧ last.finish = .ok type := by
  rw [parse, mapError_eq_ok_iff, readFrom_eq_ok_iff]

/-- What the reader accepts is written in the grammar. -/
theorem isWritten_of_parse {text : String} {type : TypeRef} (h : parse text = .ok type) : IsWritten type text := by
  obtain ⟨last, hread, hfinish⟩ := parse_eq_ok_iff.mp h
  exact ⟨_, (Reading.covers_start.foldlM hread).derives hfinish, spells_lexemes text.toList⟩

/-! What is derived the reader accepts. -/

def Frame.pushAll (frame : Frame) (types : List TypeRef) : Frame := types.foldl (fun frame type => frame.push type) frame

theorem Frame.pushAll_arguments (name : String) (read types : List TypeRef) :
    (Frame.arguments name read).pushAll types = .arguments name (types.reverse ++ read) := by
  induction types generalizing read with
  | nil => rfl
  | cons type rest ih =>
    refine (ih (type :: read)).trans ?_
    rw [List.reverse_cons, List.append_assoc, List.singleton_append]

theorem Frame.pushAll_elements (read types : List TypeRef) :
    (Frame.elements read).pushAll types = .elements (types.reverse ++ read) := by
  induction types generalizing read with
  | nil => rfl
  | cons type rest ih =>
    refine (ih (type :: read)).trans ?_
    rw [List.reverse_cons, List.append_assoc, List.singleton_append]

theorem foldlM_step_commas (stack : List Frame) (element : TypeRef) (rank count : Nat) :
    (List.replicate count (Token.mark ',')).foldlM Reading.step ⟨stack, .brackets element rank⟩ =
      Except.ok ⟨stack, .brackets element (rank + count)⟩ := by
  induction count generalizing rank with
  | zero => rfl
  | succ count ih =>
    rw [List.replicate_succ, List.foldlM_cons]
    refine (ih (rank + 1)).trans ?_
    rw [Nat.add_right_comm, Nat.add_assoc]

theorem foldlM_step_append {start between : Reading} {first second : List Token} (h : first.foldlM Reading.step start = .ok between) :
    (first ++ second).foldlM Reading.step start = second.foldlM Reading.step between := by
  rw [List.foldlM_append, h]
  rfl

theorem foldlM_step_cons {start next : Reading} {token : Token} {rest : List Token} (h : start.step token = .ok next) :
    (token :: rest).foldlM Reading.step start = rest.foldlM Reading.step next := by
  rw [List.foldlM_cons, h]
  rfl

theorem step_word {letters : List Char} (h : isPath letters = true) (stack : List Frame) :
    Reading.step ⟨stack, .opening⟩ (.word letters) = .ok ⟨stack, .path (String.ofList letters)⟩ := by
  simp [Reading.step, h]

/-- What the reader makes of the tokens of a phrase: a type comes into the focus; of a list the last type does, and the others come into the frame. -/
def Phrase.IsReadFrom (tokens : List Token) : Phrase → Prop
  | .type read | .base read =>
    ∀ stack, ∃ focus : Focus, focus.type? = some read ∧ tokens.foldlM Reading.step ⟨stack, .opening⟩ = .ok ⟨stack, focus⟩
  | .list types => ∃ init last, types = init ++ [last] ∧ ∀ (frame : Frame) (stack : List Frame), ∃ focus : Focus, focus.type? = some last ∧
      tokens.foldlM Reading.step ⟨frame :: stack, .opening⟩ = .ok ⟨frame.pushAll init :: stack, focus⟩

theorem Derives.isReadFrom {phrase : Phrase} {tokens : List Token} (h : Derives phrase tokens) : phrase.IsReadFrom tokens := by
  induction h with
  | base _ ih => exact ih
  | optional _ ih =>
    intro stack
    obtain ⟨focus, hfocus, hread⟩ := ih stack
    refine ⟨.complete _, rfl, ?_⟩
    rw [foldlM_step_append hread, foldlM_step_cons (step_mark_of_type? hfocus stack (by decide))]
    rfl
  | array commas _ ih =>
    intro stack
    obtain ⟨focus, hfocus, hread⟩ := ih stack
    refine ⟨.complete _, rfl, ?_⟩
    rw [foldlM_step_append hread, foldlM_step_cons (step_mark_of_type? hfocus stack (by decide)),
      foldlM_step_append (foldlM_step_commas stack _ 1 commas), Nat.add_comm]
    rfl
  | tuple hlength _ ih =>
    intro stack
    obtain ⟨init, last, rfl, hlist⟩ := ih
    obtain ⟨focus, hfocus, hread⟩ := hlist (.elements []) stack
    have hinit : init ≠ [] := by
      rintro rfl
      simp at hlength
    have hclose : Reading.step ⟨(Frame.elements []).pushAll init :: stack, focus⟩ (.mark ')') =
        .ok ⟨stack, .complete (.tuple (init ++ [last]))⟩ := by
      rw [step_mark_of_type? hfocus _ (by decide), Frame.pushAll_elements]
      simp [Reading.stepComplete, hinit]
    refine ⟨.complete _, rfl, ?_⟩
    rw [foldlM_step_cons (by rfl), foldlM_step_append hread, foldlM_step_cons hclose]
    rfl
  | path hpath =>
    intro stack
    exact ⟨.path _, rfl, foldlM_step_cons (step_word hpath stack)⟩
  | generic hpath _ ih =>
    intro stack
    obtain ⟨init, last, rfl, hlist⟩ := ih
    rename_i letters _ _
    obtain ⟨focus, hfocus, hread⟩ := hlist (.arguments (String.ofList letters) []) stack
    have hclose : Reading.step ⟨(Frame.arguments (String.ofList letters) []).pushAll init :: stack, focus⟩ (.mark '>') =
        .ok ⟨stack, .complete (.named (String.ofList letters) (init ++ [last]))⟩ := by
      rw [step_mark_of_type? hfocus _ (by decide), Frame.pushAll_arguments]
      simp [Reading.stepComplete]
    refine ⟨.complete _, rfl, ?_⟩
    rw [foldlM_step_cons (step_word hpath stack), foldlM_step_cons (by rfl), foldlM_step_append hread, foldlM_step_cons hclose]
    rfl
  | single _ ih => exact ⟨[], _, rfl, fun frame stack => ih (frame :: stack)⟩
  | cons _ _ ih ihrest =>
    rename_i first rest _ _ _ _
    obtain ⟨init, last, rfl, hlist⟩ := ihrest
    refine ⟨first :: init, last, rfl, fun frame stack => ?_⟩
    obtain ⟨focus, hfocus, hread⟩ := ih (frame :: stack)
    obtain ⟨focus', hfocus', hread'⟩ := hlist (frame.push first) stack
    have hcomma : Reading.step ⟨frame :: stack, focus⟩ (.mark ',') = .ok ⟨frame.push first :: stack, .opening⟩ := by
      rw [step_mark_of_type? hfocus _ (by decide)]
      cases frame <;> rfl
    refine ⟨focus', hfocus', ?_⟩
    rw [foldlM_step_append hread, foldlM_step_cons hcomma, hread']
    rfl

/-- What is written in the grammar the reader accepts. -/
theorem parse_of_isWritten {text : String} {type : TypeRef} (h : IsWritten type text) : parse text = .ok type := by
  obtain ⟨tokens, hderives, hspells⟩ := h
  obtain ⟨focus, hfocus, hread⟩ := hderives.isReadFrom []
  refine parse_eq_ok_iff.mpr ⟨⟨[], focus⟩, ?_, finish_eq_ok_iff.mpr ⟨rfl, hfocus⟩⟩
  rwa [map_token_lexemes hspells hderives.areScannable]

/-- The reader accepts exactly the texts of the grammar: it returns the one type that the text is a way of writing, and an error just when there is none. -/
theorem parse_eq_ok_iff_isWritten (text : String) :
    (∀ type, parse text = .ok type ↔ IsWritten type text) ∧
      ((∃ error, parse text = .error error) ↔ ∀ type, ¬ IsWritten type text) ∧
      ∀ first second, IsWritten first text → IsWritten second text → first = second := by
  have hiff : ∀ type, parse text = .ok type ↔ IsWritten type text := fun type => ⟨isWritten_of_parse, parse_of_isWritten⟩
  refine ⟨hiff, ?_, ?_⟩
  · simp only [← hiff]
    cases parse text with
    | error error => simp
    | ok read => simp
  · intro first second hfirst hsecond
    rw [← hiff] at hfirst hsecond
    exact Except.ok.inj (hfirst.symm.trans hsecond)

example : parse " ( int ,A.B <T?>) [ , ] " = .ok (.array (.tuple [.named "int" [], .named "A.B" [nullable (.named "T" [])]]) 2) := by
  decide +kernel

end SchemaClosure.TypeRef
