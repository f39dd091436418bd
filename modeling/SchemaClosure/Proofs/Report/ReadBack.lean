import Mathlib.Data.List.Forall2
import SchemaClosure.Proofs.Json.Reading
import SchemaClosure.Report.Emitter

/-!
Reading back a report for other tools. Every list of it, of fields, of labels, of texts and of diagnostics, is its items with a comma between any two, and so has the tokens of an object or an array. The whole report is read as one array, with an object for each diagnostic: `parse?_report`.
-/

namespace SchemaClosure

namespace Json

theorem text_injective : Function.Injective text := by
  intro first second h
  exact Option.some.inj (Json.string.inj h)

theorem texts_injective : Function.Injective texts := by
  intro first second h
  exact List.map_injective_iff.mpr text_injective (Json.array.inj h)

theorem append_itemTokens (item : Json) (rest : List Json) :
    item.tokens ++ itemTokens rest = [Token.mark ','].intercalate (item.tokens :: rest.map tokens) := by
  induction rest generalizing item with
  | nil => simp [itemTokens]
  | cons next rest ih =>
    rw [List.map_cons, List.intercalate_cons_cons, ← ih next]
    simp [itemTokens]

theorem tokens_array (items : List Json) :
    (array items).tokens = .mark '[' :: ([Token.mark ','].intercalate (items.map tokens) ++ [.mark ']']) := by
  cases items with
  | nil => rfl
  | cons item rest => rw [List.map_cons, ← append_itemTokens, tokens, List.cons_append, List.cons_append]

def fieldTokens (field : String × Json) : List Token := .string (some field.1) :: .mark ':' :: field.2.tokens

theorem append_memberTokens (field : String × Json) (rest : List (String × Json)) :
    fieldTokens field ++ memberTokens (rest.map fun (name, value) => (some name, value)) =
      [Token.mark ','].intercalate (fieldTokens field :: rest.map fieldTokens) := by
  induction rest generalizing field with
  | nil => simp [memberTokens]
  | cons next rest ih =>
    rw [List.map_cons, List.map_cons, List.intercalate_cons_cons, ← ih next]
    simp [memberTokens, fieldTokens]

theorem tokens_record (fields : List (String × Json)) :
    (record fields).tokens = .mark '{' :: ([Token.mark ','].intercalate (fields.map fieldTokens) ++ [.mark '}']) := by
  cases fields with
  | nil => rfl
  | cons field rest =>
    rw [List.map_cons, ← append_memberTokens, record, List.map_cons, tokens]
    simp [fieldTokens]

variable {text text' blanks : List Char} {tokens tokens' : List Token} {c : Char}

theorem isLiteralChar_of_isMark (h : isMark c = true) : isLiteralChar c = false := by
  simp only [isMark, List.contains_iff_mem, List.mem_cons, List.not_mem_nil, or_false] at h
  rcases h with rfl | rfl | rfl | rfl | rfl | rfl <;> rfl

theorem scans_nil : Scans [] [] := fun _ _ _ => rfl

theorem Scans.indent (h : Scans text tokens) (hblanks : blanks.all isBlank = true) : Scans (blanks ++ text) tokens := by
  intro found tail htail
  rw [List.append_assoc, foldlM_blanks hblanks]
  exact h found tail htail

theorem Scans.trail (h : Scans text tokens) (hblanks : blanks.all isBlank = true) : Scans (text ++ blanks) tokens := by
  intro found tail htail
  rw [List.append_assoc, h found _ (htail.append hblanks), foldlM_blanks hblanks]

theorem Scans.mark (h : Scans text tokens) (hmark : isMark c = true) : Scans (c :: text) (.mark c :: tokens) := by
  intro found tail htail
  rw [List.cons_append, foldlM_mark hmark, h _ _ htail]
  simp

/-- A mark ends what stands before it, even the letters of a literal. -/
theorem Scans.append_mark (h : Scans text tokens) (hmark : isMark c = true) (h' : Scans text' tokens') :
    Scans (text ++ c :: text') (tokens ++ .mark c :: tokens') := by
  intro found tail htail
  rw [List.append_assoc, List.cons_append, h _ _ (delimited_cons (isLiteralChar_of_isMark hmark) _), foldlM_mark hmark, h' _ _ htail]
  simp

theorem scans_intercalate {texts : List (List Char)} {parts : List (List Token)} (h : List.Forall₂ Scans texts parts) :
    Scans ([',', '\n'].intercalate texts) ([Token.mark ','].intercalate parts) := by
  induction h with
  | nil => exact scans_nil
  | cons hfirst hrest ih =>
    cases hrest with
    | nil => simpa using hfirst
    | cons hsecond hothers =>
      rw [List.intercalate_cons_cons, List.intercalate_cons_cons]
      have hbreak : ['\n'].all isBlank = true := rfl
      simpa using hfirst.append_mark rfl (ih.indent hbreak)

end Json

namespace JsonList

open Json (Scans isBlank fieldTokens)

/-- Control characters have small codes, so four digits are enough to escape them. -/
theorem lt_of_isControl {c : Char} (h : isControl c = true) : c.toNat < 0x10000 := by
  simp only [isControl, Bool.or_eq_true, Bool.and_eq_true, decide_eq_true_eq] at h
  omega

theorem foldlM_escapeChar (found : List Json.Token) (units : List Nat) (c : Char) :
    (escapeChar c).foldlM Json.Scanner.step ⟨found, .quoted units⟩ = some ⟨found, .quoted (c.toNat :: units)⟩ := by
  unfold escapeChar
  split_ifs with hquote hbackslash hnewline hreturn htab hcontrol
  · subst hquote; rfl
  · subst hbackslash; rfl
  · subst hnewline; rfl
  · subst hreturn; rfl
  · subst htab; rfl
  · exact Json.foldlM_unicodeEscape found units (lt_of_isControl hcontrol)
  · have hplain : ¬c.toNat < 0x20 := by
      intro hlow
      simp [isControl, hlow] at hcontrol
    simp [Json.Scanner.step, hquote, hbackslash, hplain]

theorem scans_quoted (text : String) : Scans (quoted text).toList (Json.text text).tokens := by
  intro found tail _
  have hchars : (quoted text).toList = '"' :: text.toList.flatMap escapeChar ++ ['"'] := by simp [quoted]
  rw [hchars, List.foldlM_append, Json.foldlM_quoted foldlM_escapeChar]
  rfl

/-- A text that needs no escapes. -/
def IsBare (text : String) : Prop := quoted text = "\"" ++ text ++ "\""

instance (text : String) : Decidable (IsBare text) := inferInstanceAs (Decidable (_ = _))

theorem isBare_code (code : DiagnosticCode) : IsBare code.text := by cases code <;> decide

theorem isBare_severity (severity : Severity) : IsBare severity.text := by cases severity <;> decide

theorem scans_bare {text : String} (h : IsBare text) : Scans ("\"" ++ text ++ "\"").toList (Json.text text).tokens :=
  h ▸ scans_quoted text

theorem scans_boolean (value : Bool) : Scans (toString value).toList (Json.boolean value).tokens := by
  cases value <;> exact Json.scans_letters (List.all_eq_true.mp rfl) rfl

variable {indent name value : String} {texts : List String}

theorem scans_field {json : Json} (hindent : indent.toList.all isBlank = true) (hname : IsBare name)
    (h : Scans value.toList json.tokens) : Scans (fieldText indent name value).toList (fieldTokens (name, json)) := by
  have hspace : [' '].all isBlank = true := rfl
  simpa [fieldText, fieldTokens, Json.text, Json.tokens] using
    ((scans_bare hname).append_mark (c := ':') rfl (h.indent hspace)).indent hindent

theorem scans_separated {parts : List (List Json.Token)} (h : List.Forall₂ (fun text part => Scans text.toList part) texts parts) :
    Scans (",\n".intercalate texts).toList ([Json.Token.mark ','].intercalate parts) := by
  rw [String.toList_intercalate]
  exact Json.scans_intercalate (List.forall₂_map_left_iff.mpr h)

theorem forall₂_scans {α : Type} {text : α → String} {json : α → Json}
    (h : ∀ element, Scans (text element).toList (json element).tokens) (elements : List α) :
    List.Forall₂ (fun text item => Scans text.toList item.tokens) (elements.map text) (elements.map json) := by
  rw [List.forall₂_map_left_iff, List.forall₂_map_right_iff, List.forall₂_same]
  exact fun element _ => h element

/-- A text that is one character, apart from blanks. -/
def IsAlone (c : Char) (text : String) : Prop := text.toList.filter (!isBlank ·) = [c]

instance (c : Char) (text : String) : Decidable (IsAlone c text) := inferInstanceAs (Decidable (_ = _))

theorem IsAlone.exists_blanks {c : Char} {text : String} (h : IsAlone c text) :
    ∃ before after, text.toList = before ++ c :: after ∧ before.all isBlank = true ∧ after.all isBlank = true := by
  obtain ⟨before, after, htext, hbefore, -, hafter⟩ := List.filter_eq_cons_iff.mp h
  rw [List.filter_eq_nil_iff] at hafter
  exact ⟨before, after, htext, List.all_eq_true.mpr (by simpa using hbefore), List.all_eq_true.mpr (by simpa using hafter)⟩

theorem scans_enclosed {opening body closing : String} {c c' : Char} {tokens : List Json.Token} (hopening : IsAlone c opening)
    (hclosing : IsAlone c' closing) (hmark : Json.isMark c = true) (hmark' : Json.isMark c' = true) (h : Scans body.toList tokens) :
    Scans (opening ++ body ++ closing).toList (.mark c :: (tokens ++ [.mark c'])) := by
  obtain ⟨before, indent, hopening, hbefore, hindent⟩ := hopening.exists_blanks
  obtain ⟨gap, after, hclosing, hgap, hafter⟩ := hclosing.exists_blanks
  have hend : Scans after [] := by simpa using Json.scans_nil.indent hafter
  have hinner : Scans (indent ++ body.toList ++ gap) tokens := (h.indent hindent).trail hgap
  simpa [hopening, hclosing] using ((hinner.append_mark hmark' hend).mark hmark).indent hbefore

theorem scans_array {opening closing : String} {items : List Json} (hopening : IsAlone '[' opening) (hclosing : IsAlone ']' closing)
    (h : List.Forall₂ (fun text item => Scans text.toList item.tokens) texts items) :
    Scans (opening ++ ",\n".intercalate texts ++ closing).toList (Json.array items).tokens := by
  rw [Json.tokens_array]
  exact scans_enclosed hopening hclosing rfl rfl (scans_separated (List.forall₂_map_right_iff.mpr h))

theorem scans_record {opening closing : String} {fields : List (String × Json)} (hopening : IsAlone '{' opening)
    (hclosing : IsAlone '}' closing) (h : List.Forall₂ (fun text field => Scans text.toList (fieldTokens field)) texts fields) :
    Scans (opening ++ ",\n".intercalate texts ++ closing).toList (Json.record fields).tokens := by
  rw [Json.tokens_record]
  exact scans_enclosed hopening hclosing rfl rfl (scans_separated (List.forall₂_map_right_iff.mpr h))

theorem separated_eq (items : List String) : separated items = ",\n".intercalate items ++ (if items.isEmpty then "" else "\n") := by
  fun_induction separated items with
  | case1 => rfl
  | case2 item => simp
  | case3 item rest hrest ih =>
    cases rest with
    | nil => exact absurd rfl hrest
    | cons next others =>
      rw [ih, String.intercalate_cons_cons]
      simp [String.append_assoc]

theorem scans_list {items : List Json} (hname : IsBare name)
    (h : List.Forall₂ (fun text item => Scans text.toList item.tokens) texts items) :
    Scans (listText name texts).toList (fieldTokens (name, .array items)) := by
  have hclosing : IsAlone ']' ((if texts.isEmpty then "" else "\n") ++ "    ]") := by
    cases texts.isEmpty <;> decide
  have hitems := scans_array (by decide : IsAlone '[' "[\n") hclosing h
  have hindent : "    ".toList.all isBlank = true := rfl
  simpa [listText, fieldText, separated_eq] using scans_field hindent hname hitems

theorem scans_texts (hname : IsBare name) (items : List String) :
    Scans (textsText name items).toList (fieldTokens (name, .texts items)) := by
  refine scans_list hname (forall₂_scans ?_ items)
  intro item
  have hblanks : "      ".toList.all isBlank = true := rfl
  simpa using (scans_quoted item).indent hblanks

/-- What is read of a label: its subject, with a member only where it has one, its message, and whether it is primary. -/
def labelJson (label : Label) : Json :=
  .record (("type", .text label.subject.typeName) :: (label.subject.member.toList.map fun member => ("member", .text member)) ++
    [("message", .text label.message), ("primary", .boolean label.isPrimary)])

def diagnosticJson (diagnostic : Diagnostic) : Json :=
  .record [
    ("code", .text diagnostic.code.text), ("severity", .text diagnostic.severity.text), ("message", .text diagnostic.message),
    ("labels", .array (diagnostic.labels.map labelJson)), ("notes", .texts diagnostic.notes),
    ("suggestions", .texts diagnostic.suggestions)]

theorem labelJson_injective : Function.Injective labelJson := by
  rintro ⟨⟨typeName, member⟩, message, isPrimary⟩ ⟨⟨typeName', member'⟩, message', isPrimary'⟩ h
  cases member with
  | none =>
    cases member' with
    | none => simpa [labelJson, Json.record, Json.text_injective.eq_iff] using h
    | some name' => simp [labelJson, Json.record] at h
  | some name =>
    cases member' with
    | none => simp [labelJson, Json.record] at h
    | some name' => simpa [labelJson, Json.record, Json.text_injective.eq_iff, and_assoc] using h

/-- Nothing of a diagnostic is lost in what is read of it. -/
theorem diagnosticJson_injective : Function.Injective diagnosticJson := by
  rintro ⟨code, severity, message, labels, notes, suggestions⟩ ⟨code', severity', message', labels', notes', suggestions'⟩ h
  simp only [diagnosticJson, Json.record, List.map_cons, List.map_nil, Json.object.injEq, List.cons.injEq, Prod.mk.injEq, true_and,
    and_true, Json.text_injective.eq_iff, Json.array.injEq] at h
  obtain ⟨hcode, hseverity, rfl, hlabels, hnotes, hsuggestions⟩ := h
  obtain rfl := DiagnosticCode.text_injective hcode
  obtain rfl := Severity.text_injective hseverity
  obtain rfl := List.map_injective_iff.mpr labelJson_injective hlabels
  obtain rfl := Json.texts_injective hnotes
  obtain rfl := Json.texts_injective hsuggestions
  rfl

theorem scans_labelText (label : Label) : Scans (labelText label).toList (labelJson label).tokens := by
  obtain ⟨⟨typeName, member⟩, message, isPrimary⟩ := label
  have hindent : "        ".toList.all isBlank = true := rfl
  have htype := scans_field hindent (by decide : IsBare "type") (scans_quoted typeName)
  have hmessage := scans_field hindent (by decide : IsBare "message") (scans_quoted message)
  have hprimary := scans_field hindent (by decide : IsBare "primary") (scans_boolean isPrimary)
  have hopening : IsAlone '{' "      \x7b\n" := by decide
  have hclosing : IsAlone '}' "\n      \x7d" := by decide
  unfold labelText labelJson
  cases member with
  | none =>
    have hrecord := scans_record hopening hclosing (.cons htype (.cons hmessage (.cons hprimary .nil)))
    simpa only [Option.toList_none, List.map_nil, List.cons_append, List.nil_append, String.intercalate_cons_cons,
      String.intercalate_singleton, String.append_assoc, String.empty_append] using hrecord
  | some member =>
    have hmember := scans_field hindent (by decide : IsBare "member") (scans_quoted member)
    have hrecord := scans_record hopening hclosing (.cons htype (.cons hmember (.cons hmessage (.cons hprimary .nil))))
    simpa only [Option.toList_some, List.map_cons, List.map_nil, List.cons_append, List.nil_append, String.intercalate_cons_cons,
      String.intercalate_singleton, String.append_assoc] using hrecord

theorem scans_diagnosticText (diagnostic : Diagnostic) : Scans (diagnosticText diagnostic).toList (diagnosticJson diagnostic).tokens := by
  have hindent : "    ".toList.all isBlank = true := rfl
  have hcode := scans_field hindent (by decide : IsBare "code") (scans_bare (isBare_code diagnostic.code))
  have hseverity := scans_field hindent (by decide : IsBare "severity") (scans_bare (isBare_severity diagnostic.severity))
  have hmessage := scans_field hindent (by decide : IsBare "message") (scans_quoted diagnostic.message)
  have hlabels := scans_list (by decide : IsBare "labels") (forall₂_scans scans_labelText diagnostic.labels)
  have hnotes := scans_texts (by decide : IsBare "notes") diagnostic.notes
  have hsuggestions := scans_texts (by decide : IsBare "suggestions") diagnostic.suggestions
  have hrecord := scans_record (by decide : IsAlone '{' "  \x7b\n") (by decide : IsAlone '}' "\n  \x7d")
    (.cons hcode (.cons hseverity (.cons hmessage (.cons hlabels (.cons hnotes (.cons hsuggestions .nil))))))
  unfold diagnosticText diagnosticJson
  simpa only [String.intercalate_cons_cons, String.intercalate_singleton, String.append_assoc] using hrecord

/-- What an emitter writes for some diagnostics: with a comma between any two, and one in front if it has written before. -/
theorem emitAll_json (started : Bool) (diagnostics : List Diagnostic) :
    (Emitter.json started).emitAll diagnostics =
      ((if started && !diagnostics.isEmpty then ",\n" else "") ++ ",\n".intercalate (diagnostics.map diagnosticText),
        .json (started || !diagnostics.isEmpty)) := by
  induction diagnostics generalizing started with
  | nil => cases started <;> rfl
  | cons diagnostic rest ih =>
    simp only [Emitter.emitAll, Emitter.emit, ih true]
    cases rest with
    | nil => cases started <;> simp
    | cons next others => cases started <;> simp [String.append_assoc]

/-- The report of an emitter that has not written before is read as one array, with the diagnostics in their order. -/
theorem parse?_report (diagnostics : List Diagnostic) :
    Json.parse? ((Emitter.json false).report diagnostics).1 = some (.array (diagnostics.map diagnosticJson)) := by
  apply Json.parse?_of_scans
  rw [Emitter.report, emitAll_json, Bool.false_and, if_neg Bool.false_ne_true, String.empty_append]
  exact scans_array (by decide : IsAlone '[' "[\n") (by decide : IsAlone ']' "\n]\n") (forall₂_scans scans_diagnosticText diagnostics)

end JsonList

end SchemaClosure
