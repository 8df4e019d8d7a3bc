import Mathlib.Data.List.Forall2
import MockData.Block.Pattern
import MockData.Proofs.Blocks
import MockData.Proofs.Literals
import MockData.Script.Module

/-!
Records as they are written, one entry a line between braces. Each is one block of the text that
holds it, and a pattern of its fields finds its values, whatever the strings among them say.
-/
namespace MockData.Script

open Text MockData.Field

def separator (later : List String) : List Char := if later = [] then ['\n'] else [',', '\n']

theorem lines_commas_cons (s : String) (later : List String) :
    (lines (commas (s :: later))).toList =
      s.toList ++ (separator later ++ (lines (commas later)).toList) := by
  cases later with
  | nil => simp [commas, lines, separator]
  | cons t rest => simp [commas, lines, separator]

theorem separator_eq_cons (later : List String) :
    ∃ c cs, separator later = c :: cs ∧ Ends c ∧ isSigned c = false := by
  by_cases last : later = []
  · exact ⟨'\n', [], by simp [separator, last], by decide, by decide⟩
  · exact ⟨',', ['\n'], by simp [separator, last], by decide, by decide⟩

theorem separator_apart (later : List String) : ∀ c ∈ separator later, isWord c = false := by
  rw [separator]
  split
  · simp [isWord, isAsciiWord]
  · simp [isWord, isAsciiWord]

theorem passes_separator (later : List String) : Passes (separator later) := by
  rw [separator]
  split
  · decide
  · decide

theorem passes_lines_commas {ls : List String} (passes : ∀ s ∈ ls, Passes s.toList) :
    Passes (lines (commas ls)).toList := by
  induction ls with
  | nil => exact Passes.nil
  | cons s later ih =>
    rw [lines_commas_cons]
    exact (passes s (by simp)).append
      ((passes_separator later).append (ih fun t member => passes t (by simp [member])))

def entryLine (e : String × Literal) : String := "    " ++ e.1 ++ ": " ++ e.2.render

def recordInner (entries : Entries) : List Char :=
  '\n' :: ((lines (commas (entries.map entryLine))).toList ++ [' ', ' '])

def recordBlock (entries : Entries) : List Char := '{' :: (recordInner entries ++ ['}'])

theorem toList_record (entries : Entries) :
    (Layout.record entries).toList = ' ' :: ' ' :: recordBlock entries := by
  have line : entryLine = fun e => "    " ++ e.1 ++ ": " ++ e.2.render := rfl
  simp [Layout.record, recordBlock, recordInner, line]

theorem passes_entryLine {e : String × Literal} (named : isName e.1) :
    Passes (entryLine e).toList := by
  have name := Passes.of_isName named
  have margin : Passes "    ".toList := by decide
  have colon : Passes ": ".toList := by decide
  simp only [entryLine, String.toList_append]
  exact ((margin.append name).append colon).append e.2.passes_render

theorem passes_recordInner {entries : Entries} (names : ∀ e ∈ entries, isName e.1) :
    Passes (recordInner entries) := by
  have lineFeed : Passes ['\n'] := by decide
  have margin : Passes [' ', ' '] := by decide
  refine lineFeed.append (Passes.append (passes_lines_commas ?_) margin)
  intro s member
  obtain ⟨e, isEntry, rfl⟩ := List.mem_map.mp member
  exact passes_entryLine (names e isEntry)

theorem texts_records {records : List Entries}
    (names : ∀ r ∈ records, ∀ e ∈ r, isName e.1) (cs : List Char) :
    Block.texts ((lines (commas (records.map Layout.record))).toList ++ cs) =
      records.map recordBlock ++ Block.texts cs := by
  induction records with
  | nil => rfl
  | cons r records ih =>
    have inner := passes_recordInner (names r (by simp))
    have margin : Passes [' ', ' '] := by decide
    have between := passes_separator (records.map Layout.record)
    have later := ih fun s member => names s (by simp [member])
    calc Block.texts ((lines (commas ((r :: records).map Layout.record))).toList ++ cs)
        = Block.texts ([' ', ' '] ++ '{' :: (recordInner r ++ '}' ::
            (separator (records.map Layout.record) ++
              ((lines (commas (records.map Layout.record))).toList ++ cs)))) := by
          rw [List.map_cons, lines_commas_cons, toList_record]
          simp [recordBlock]
      _ = recordBlock r ::
            Block.texts ((lines (commas (records.map Layout.record))).toList ++ cs) := by
          rw [Block.texts_passes margin, Block.texts_braced inner, Block.texts_passes between]
          rfl
      _ = (r :: records).map recordBlock ++ Block.texts cs := by rw [later]; rfl

structure Fits (e : String × Literal) (f : Field) : Prop where
  name_eq : f.name = e.1
  identifier : isIdentifier e.1
  isOfKind : e.2.isOfKind f.kind

theorem fits_text {name : String} (identifier : isIdentifier name) (s : String) :
    Fits (name, .text s) ⟨name, .text⟩ := ⟨rfl, identifier, rfl⟩

theorem isIdentifier_of_fits {entries : Entries} {fields : List Field}
    (fits : List.Forall₂ Fits entries fields) : ∀ e ∈ entries, isIdentifier e.1 := by
  induction fits with
  | nil => simp
  | cons fit _ ih =>
    intro e member
    rcases List.mem_cons.mp member with rfl | later
    · exact fit.identifier
    · exact ih e later

theorem margin_apart : ∀ c ∈ "    ".toList, isWord c = false := by simp [isWord, isAsciiWord]

theorem search_entryLine {e : String × Literal} {f : Field} (fit : Fits e f) {gap : List Char}
    (apart : ∀ c ∈ gap, isWord c = false) (before : Option Char) {c : Char} (ends : Ends c)
    (cs : List Char) :
    ∃ capture, search f.name.toList f.kind before (gap ++ ((entryLine e).toList ++ c :: cs)) =
      some (capture, c :: cs) ∧ capture.value? = some e.2.value := by
  have place : gap ++ ((entryLine e).toList ++ c :: cs) = (gap ++ "    ".toList) ++
      (e.1.toList ++ ([] ++ ':' :: ([' '] ++ (e.2.render.toList ++ c :: cs)))) := by
    simp [entryLine]
  have gaps := List.forall_mem_append.mpr ⟨apart, margin_apart⟩
  rw [place, fit.name_eq]
  exact search_named fit.identifier (reads_render fit.isOfKind) (by simp) gaps (by simp)
    (by simp [isBlank]) before ends cs

theorem matchFields_append_lines {entries : Entries} {fields : List Field}
    (fits : List.Forall₂ Fits entries fields) {gap : List Char}
    (apart : ∀ c ∈ gap, isWord c = false) (before : Option Char) (later : Entries)
    (fields' : List Field) (cs : List Char) :
    ∃ gap' before', (∀ c ∈ gap', isWord c = false) ∧
      BlockPattern.matchFields (fields ++ fields') before
        (gap ++ ((lines (commas ((entries ++ later).map entryLine))).toList ++ cs)) =
      (BlockPattern.matchFields fields' before'
        (gap' ++ ((lines (commas (later.map entryLine))).toList ++ cs))).map
          (entries.map (fun e => (e.1, e.2.value)) ++ ·) := by
  -- The gap before an entry is what the one before it leaves: no word, so no name in it.
  induction fits generalizing gap before with
  | nil => exact ⟨gap, before, apart, by simp⟩
  | @cons e f entries fields fit _ ih =>
    obtain ⟨c, rest, behind, ends, -⟩ := separator_eq_cons ((entries ++ later).map entryLine)
    obtain ⟨capture, found, value⟩ := search_entryLine fit apart before ends
      (rest ++ ((lines (commas ((entries ++ later).map entryLine))).toList ++ cs))
    obtain ⟨gap', before', apart', next⟩ :=
      ih (separator_apart ((entries ++ later).map entryLine)) capture.last?
    refine ⟨gap', before', apart', ?_⟩
    rw [behind, List.cons_append] at next
    rw [List.cons_append, List.cons_append, List.map_cons, lines_commas_cons, behind,
      List.append_assoc, List.append_assoc, List.cons_append, matchFields_cons found value, next,
      fit.name_eq, Option.map_map]
    rfl

theorem matchText_recordBlock {entries : Entries} {p : BlockPattern}
    (fits : List.Forall₂ Fits entries p.fields) :
    p.matchText (recordBlock entries) = some (entries.map fun e => (e.1, e.2.value)) := by
  have apart : ∀ c ∈ ['{', '\n'], isWord c = false := by simp [isWord, isAsciiWord]
  obtain ⟨gap, before, -, found⟩ :=
    matchFields_append_lines fits apart none [] [] [' ', ' ', '}']
  rw [BlockPattern.matchText, recordBlock, recordInner]
  simpa [BlockPattern.matchFields] using found

end MockData.Script
