import SchemaClosure.Proofs.Report.ReadBack

namespace SchemaClosure

namespace Emitter

/-- An emitter of the same kind that has not written anything. -/
def fresh : Emitter → Emitter
  | .terminal colors => .terminal colors
  | .json _ => .json false

def isTerminal : Emitter → Bool
  | .terminal _ => true
  | .json _ => false

/-- What is written for some reports, one after another. -/
def written (emitter : Emitter) : List (List Diagnostic) → String
  | [] => ""
  | diagnostics :: rest => (emitter.report diagnostics).1 ++ (emitter.report diagnostics).2.written rest

/-- What emitters of the same kind write, with a fresh one for each report. -/
def writtenApart (emitter : Emitter) (reports : List (List Diagnostic)) : String :=
  String.join (reports.map fun diagnostics => (emitter.fresh.report diagnostics).1)

/-- The emitter as some reports leave it. -/
def after (emitter : Emitter) : List (List Diagnostic) → Emitter
  | [] => emitter
  | diagnostics :: rest => (emitter.report diagnostics).2.after rest

variable {colors started : Bool} {diagnostics : List Diagnostic} {reports : List (List Diagnostic)}

theorem emitAll_terminal : ((Emitter.terminal colors).emitAll diagnostics).2 = .terminal colors := by
  induction diagnostics with
  | nil => rfl
  | cons diagnostic rest ih => exact ih

theorem written_terminal : (Emitter.terminal colors).written reports = (Emitter.terminal colors).writtenApart reports := by
  induction reports with
  | nil => rfl
  | cons diagnostics rest ih =>
    have hkept : ((Emitter.terminal colors).report diagnostics).2 = .terminal colors := emitAll_terminal
    rw [written, hkept, ih, writtenApart, writtenApart, List.map_cons, String.join_cons]
    rfl

/-- Whether a report begins with a comma that belongs to an earlier one. -/
def continues (started : Bool) (diagnostics : List Diagnostic) : Bool := started && !diagnostics.isEmpty

theorem report_json :
    (Emitter.json started).report diagnostics =
      ("[\n" ++ ((if continues started diagnostics then ",\n" else "") ++
        ",\n".intercalate (diagnostics.map JsonList.diagnosticText)) ++ "\n]\n", .json (started || !diagnostics.isEmpty)) := by
  rw [report, JsonList.emitAll_json]
  rfl

theorem after_json : (Emitter.json started).after reports = .json (started || reports.any fun diagnostics => !diagnostics.isEmpty) := by
  induction reports generalizing started with
  | nil => simp [after]
  | cons diagnostics rest ih => rw [after, report_json, ih, List.any_cons, Bool.or_assoc]

theorem length_report_json (started : Bool) (diagnostics : List Diagnostic) :
    ((Emitter.json started).report diagnostics).1.length =
      ((Emitter.json false).report diagnostics).1.length + if continues started diagnostics then 2 else 0 := by
  have hcomma : ",\n".length = 2 := rfl
  have hfresh : continues false diagnostics = false := rfl
  rw [report_json, report_json, hfresh]
  cases continues started diagnostics <;> simp [hcomma]
  omega

theorem report_json_eq (h : continues started diagnostics = false) :
    ((Emitter.json started).report diagnostics).1 = ((Emitter.json false).report diagnostics).1 := by
  rw [report_json, report_json, h]
  rfl

theorem writtenApart_json_cons :
    (Emitter.json started).writtenApart (diagnostics :: reports) =
      ((Emitter.json false).report diagnostics).1 ++ (Emitter.json false).writtenApart reports := by
  rw [writtenApart, List.map_cons, String.join_cons]
  rfl

theorem written_json_cons :
    (Emitter.json started).written (diagnostics :: reports) =
      ((Emitter.json started).report diagnostics).1 ++ (Emitter.json (started || !diagnostics.isEmpty)).written reports := by
  rw [written, report_json]

/-- One list emitter never writes less than fresh ones. -/
theorem length_writtenApart_le (started : Bool) (reports : List (List Diagnostic)) :
    ((Emitter.json false).writtenApart reports).length ≤ ((Emitter.json started).written reports).length := by
  induction reports generalizing started with
  | nil => exact Nat.le_refl _
  | cons diagnostics rest ih =>
    rw [writtenApart_json_cons, written_json_cons, String.length_append, String.length_append, length_report_json started]
    have hrest := ih (started || !diagnostics.isEmpty)
    omega

/-- The first report is as a fresh emitter writes it, and so are the others: a comma too many cannot be made up for later. -/
theorem written_json_cons_eq_iff :
    (Emitter.json started).written (diagnostics :: reports) = (Emitter.json false).writtenApart (diagnostics :: reports) ↔
      continues started diagnostics = false ∧
        (Emitter.json (started || !diagnostics.isEmpty)).written reports = (Emitter.json false).writtenApart reports := by
  rw [written_json_cons, writtenApart_json_cons]
  constructor
  · intro h
    have hlength := congrArg String.length h
    have hrest := length_writtenApart_le (started || !diagnostics.isEmpty) reports
    rw [String.length_append, String.length_append, length_report_json started] at hlength
    have hfirst : continues started diagnostics = false := by
      by_contra hcomma
      rw [if_pos (eq_true_of_ne_false hcomma)] at hlength
      omega
    rw [report_json_eq hfirst] at h
    exact ⟨hfirst, String.append_right_inj _ |>.mp h⟩
  · rintro ⟨hfirst, hrest⟩
    rw [report_json_eq hfirst, hrest]

theorem continues_eq_false_iff : continues started diagnostics = false ↔ started = true → diagnostics = [] := by
  cases started <;> simp [continues]

/-- One list emitter writes what fresh ones would as long as at most one report is not empty. -/
theorem written_json_eq_iff :
    (Emitter.json started).written reports = (Emitter.json false).writtenApart reports ↔
      (started = true → ∀ diagnostics ∈ reports, diagnostics = []) ∧
        reports.Pairwise fun first second => first = [] ∨ second = [] := by
  induction reports generalizing started with
  | nil => simp [written, writtenApart]
  | cons diagnostics rest ih =>
    rw [written_json_cons_eq_iff, ih, continues_eq_false_iff, List.pairwise_cons, List.forall_mem_cons]
    cases diagnostics with
    | nil => simp
    | cons diagnostic others => cases started <;> simp +contextual

open Json (Scans)

open JsonList

/-- The report of a list emitter is read as an array, unless it begins with a comma. -/
theorem parse?_report_json :
    Json.parse? ((Emitter.json started).report diagnostics).1 =
      if continues started diagnostics then none else some (.array (diagnostics.map diagnosticJson)) := by
  have hopening : IsAlone '[' "[\n" := by decide
  have hclosing : IsAlone ']' "\n]\n" := by decide
  have hitems := forall₂_scans scans_diagnosticText diagnostics
  rw [report_json]
  cases hcomma : continues started diagnostics with
  | false =>
    apply Json.parse?_of_scans
    rw [if_neg Bool.false_ne_true, String.empty_append]
    exact scans_array hopening hclosing hitems
  | true =>
    cases diagnostics with
    | nil => simp [continues] at hcomma
    | cons diagnostic rest =>
      -- the text is that of a list whose first item is missing
      have hmissing : Scans "".toList [] := Json.scans_nil
      have htokens := scans_enclosed hopening hclosing rfl rfl
        (scans_separated (.cons hmissing (List.forall₂_map_right_iff.mpr hitems)))
      simp only [List.map_cons, String.intercalate_cons_cons, String.empty_append] at htokens
      rw [if_pos rfl, if_pos rfl, List.map_cons, Json.parse?, Json.tokens?_of_scans htokens]
      rfl

/-- One emitter writes for some reports what a fresh one for each would write if it writes for a terminal, or if at most one of the reports has any diagnostics, and in no other case. A report of a list emitter is read as an array if it is empty or all reports before it are, and as no JSON otherwise. -/
theorem written_eq_writtenApart_iff (emitter : Emitter) (reports earlier : List (List Diagnostic)) (diagnostics : List Diagnostic) :
    (emitter.fresh.written reports = emitter.writtenApart reports ↔
      emitter.isTerminal = true ∨ reports.Pairwise fun first second => first = [] ∨ second = []) ∧
      Json.parse? (((Emitter.json false).after earlier).report diagnostics).1 =
        if diagnostics = [] ∨ ∀ report ∈ earlier, report = [] then some (.array (diagnostics.map diagnosticJson)) else none := by
  constructor
  · cases emitter with
    | terminal colors => simp [fresh, isTerminal, written_terminal]
    | json started =>
      have hiff : (Emitter.json started).fresh.written reports = (Emitter.json started).writtenApart reports ↔ _ := written_json_eq_iff
      rw [hiff]
      simp [isTerminal]
  · have hcomma : continues (false || earlier.any fun report => !report.isEmpty) diagnostics = true ↔
        ¬(diagnostics = [] ∨ ∀ report ∈ earlier, report = []) := by
      simp only [continues, Bool.false_or, Bool.and_eq_true, List.any_eq_true, Bool.not_eq_true', List.isEmpty_eq_false_iff, not_or,
        not_forall]
      simp only [exists_prop, and_comm]
    rw [after_json, parse?_report_json]
    simp only [hcomma, ite_not]

def warningReport : List Diagnostic := [{ code := .ignoredKey, severity := .warning }]

/-- The second time, the emitter of a list writes more than a fresh one does, and what it writes is no JSON. -/
theorem written_warningReport_twice :
    (Emitter.json false).written [warningReport, warningReport] ≠ (Emitter.json false).writtenApart [warningReport, warningReport] ∧
      Json.parse? (((Emitter.json false).report warningReport).2.report warningReport).1 = none := by
  constructor
  · rw [ne_eq, written_json_eq_iff]
    simp [warningReport]
  · rw [report_json, parse?_report_json]
    rfl

end Emitter

end SchemaClosure
