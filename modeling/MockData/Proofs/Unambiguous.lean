import MockData.Proofs.Modules

/-!
Modules tell records apart: two lists of records over the same names, whatever their values, have
one text only if they are one list. Each literal says itself where it ends, so each record does,
and the separator behind a record says whether another one follows.
-/
namespace MockData.Script

open Text

theorem append_inj_of_class {p : Char → Bool} {a b : List Char} (inA : ∀ c ∈ a, p c)
    (inB : ∀ c ∈ b, p c) {c d : Char} (outC : p c = false) (outD : p d = false)
    {cs ds : List Char} (same : a ++ c :: cs = b ++ d :: ds) : a = b ∧ c :: cs = d :: ds := by
  have front := congrArg (List.takeWhile p) same
  rw [List.takeWhile_append_of_pos inA, List.takeWhile_append_of_pos inB,
    List.takeWhile_cons_of_neg (by simp [outC]), List.takeWhile_cons_of_neg (by simp [outD]),
    List.append_nil, List.append_nil] at front
  subst front
  exact ⟨rfl, List.append_cancel_left same⟩

theorem quoteBody_append_inj {a b cs ds : List Char}
    (same : quoteBody a ++ '"' :: cs = quoteBody b ++ '"' :: ds) : a = b ∧ cs = ds := by
  have read := literalBody_quoteBody a cs
  rw [same, literalBody_quoteBody] at read
  obtain ⟨body, rest⟩ := Prod.mk.inj (Option.some.inj read)
  exact ⟨by rw [← unescape_quoteBody a, ← body, unescape_quoteBody], rest.symm⟩

namespace Literal

/-- Whether a literal of this kind may start with the character. No two kinds share one. -/
def opensWith : Literal → Char → Bool
  | .text _, c => c == '"'
  | .int _, c => isSigned c
  | .null, c => c == 'n'

theorem exists_opensWith (l : Literal) : ∃ c cs, l.render.toList = c :: cs ∧ l.opensWith c := by
  cases l with
  | text s => exact ⟨'"', quoteBody s.toList ++ ['"'], by simp [render, quote], rfl⟩
  | null => exact ⟨'n', ['u', 'l', 'l'], rfl, rfl⟩
  | int n =>
    obtain ⟨c, cs, split, signed⟩ := exists_cons_toString n.toInt
    exact ⟨c, cs, split, signed c List.mem_cons_self⟩

theorem render_append_inj {l l' : Literal} {c c' : Char} (ends : isSigned c = false)
    (ends' : isSigned c' = false) {cs cs' : List Char}
    (same : l.render.toList ++ c :: cs = l'.render.toList ++ c' :: cs') :
    l = l' ∧ c :: cs = c' :: cs' := by
  -- Literals that start with one character are of one kind.
  have kinds : ∃ d, l.opensWith d ∧ l'.opensWith d := by
    obtain ⟨d, ds, written, opens⟩ := l.exists_opensWith
    obtain ⟨d', ds', written', opens'⟩ := l'.exists_opensWith
    rw [written, written'] at same
    obtain rfl : d = d' := (List.cons.inj same).1
    exact ⟨d, opens, opens'⟩
  have quote_apart : isSigned '"' = false := by decide
  have null_apart : isSigned 'n' = false := by decide
  cases l with
  | text s =>
    cases l' with
    | text s' =>
      obtain ⟨body, rest⟩ : s.toList = s'.toList ∧ c :: cs = c' :: cs' := by
        refine quoteBody_append_inj ?_
        simpa [render, quote] using same
      exact ⟨congrArg _ (String.toList_inj.mp body), rest⟩
    | int n | null => simp [opensWith, quote_apart] at kinds
  | int n =>
    cases l' with
    | int n' =>
      obtain ⟨digits, rest⟩ := append_inj_of_class (fun _ => isSigned_of_mem_toString)
        (fun _ => isSigned_of_mem_toString) ends ends' same
      have value := toString_injective (String.toList_inj.mp digits)
      exact ⟨congrArg _ (Int64.toInt_inj.mp value), rest⟩
    | text s | null => simp [opensWith, quote_apart, null_apart] at kinds
  | null =>
    cases l' with
    | null => exact ⟨rfl, List.append_cancel_left same⟩
    | text s | int n => simp [opensWith, null_apart] at kinds

end Literal

theorem separator_append_inj {later later' : List String} {cs cs' : List Char}
    (same : separator later ++ cs = separator later' ++ cs') : cs = cs' := by
  by_cases last : later = []
  · by_cases last' : later' = []
    · simpa [separator, last, last'] using same
    · simp [separator, last, last'] at same
  · by_cases last' : later' = []
    · simp [separator, last, last'] at same
    · simpa [separator, last, last'] using same

theorem entryLines_append_inj {es es' : Entries} (named : es.map (·.1) = es'.map (·.1))
    {cs cs' : List Char} (same : (lines (commas (es.map entryLine))).toList ++ cs =
      (lines (commas (es'.map entryLine))).toList ++ cs') : es = es' ∧ cs = cs' := by
  induction es generalizing es' with
  | nil =>
    obtain rfl : es' = [] := List.map_eq_nil_iff.mp named.symm
    exact ⟨rfl, same⟩
  | cons e es ih =>
    cases es' with
    | nil => cases named
    | cons e' es' =>
      obtain ⟨name, names⟩ := List.cons.inj named
      obtain ⟨c, sep, split, -, ends⟩ := separator_eq_cons (es.map entryLine)
      obtain ⟨c', sep', split', -, ends'⟩ := separator_eq_cons (es'.map entryLine)
      have values : e.2.render.toList ++
            c :: (sep ++ ((lines (commas (es.map entryLine))).toList ++ cs)) =
          e'.2.render.toList ++
            c' :: (sep' ++ ((lines (commas (es'.map entryLine))).toList ++ cs')) := by
        simpa [lines_commas_cons, entryLine, name, split, split'] using same
      obtain ⟨value, behind⟩ := Literal.render_append_inj ends ends' values
      rw [← List.cons_append, ← List.cons_append, ← split, ← split'] at behind
      obtain ⟨rfl, rest⟩ := ih names (separator_append_inj behind)
      exact ⟨congrArg (· :: es) (Prod.ext name value), rest⟩

theorem record_append_inj {r r' : Entries} (named : r.map (·.1) = r'.map (·.1))
    {cs cs' : List Char}
    (same : (Layout.record r).toList ++ cs = (Layout.record r').toList ++ cs') :
    r = r' ∧ cs = cs' := by
  simp only [toList_record, recordBlock, recordInner, List.cons_append, List.append_assoc,
    List.cons.injEq, true_and, List.nil_append] at same
  obtain ⟨entries, rest⟩ := entryLines_append_inj named same
  exact ⟨entries, by simpa using rest⟩

theorem lines_records_inj {names : List String} {rs rs' : List Entries}
    (keyed : ∀ r ∈ rs, r.map (·.1) = names) (keyed' : ∀ r ∈ rs', r.map (·.1) = names)
    (same : (lines (commas (rs.map Layout.record))).toList =
      (lines (commas (rs'.map Layout.record))).toList) : rs = rs' := by
  induction rs generalizing rs' with
  | nil =>
    cases rs' with
    | nil => rfl
    | cons r' rs' =>
      rw [List.map_cons, lines_commas_cons, toList_record] at same
      cases same
  | cons r rs ih =>
    cases rs' with
    | nil =>
      rw [List.map_cons, lines_commas_cons, toList_record] at same
      cases same
    | cons r' rs' =>
      rw [List.map_cons, List.map_cons, lines_commas_cons, lines_commas_cons] at same
      have named := (keyed r (by simp)).trans (keyed' r' (by simp)).symm
      obtain ⟨rfl, behind⟩ := record_append_inj named same
      have later := ih (fun s member => keyed s (by simp [member]))
        (fun s member => keyed' s (by simp [member])) (separator_append_inj behind)
      rw [later]

namespace Layout

theorem text_inj {layout : Layout} {names : List String} {rs rs' : List Entries}
    (keyed : ∀ r ∈ rs, r.map (·.1) = names) (keyed' : ∀ r ∈ rs', r.map (·.1) = names)
    (same : layout.text rs = layout.text rs') : rs = rs' := by
  rw [text_eq, text_eq] at same
  have chars := congrArg String.toList same
  simp only [String.toList_append] at chars
  exact lines_records_inj keyed keyed' (List.append_cancel_left (List.append_cancel_right chars))

/-- A good layout writes every list of records, and no two lists over the same names alike. -/
theorem render_eq_iff {layout : Layout} (good : layout.check = .ok ()) {names : List String}
    {rs rs' : List Entries} (keyed : ∀ r ∈ rs, r.map (·.1) = names)
    (keyed' : ∀ r ∈ rs', r.map (·.1) = names) :
    ∃ text text', layout.render rs = .ok text ∧ layout.render rs' = .ok text' ∧
      (text = text' ↔ rs = rs') := by
  refine ⟨layout.text rs, layout.text rs', ?_, ?_, text_inj keyed keyed', congrArg layout.text⟩
  · exact render_eq_ok.mpr ⟨good, rfl⟩
  · exact render_eq_ok.mpr ⟨good, rfl⟩

theorem render_eq_iff_rows :
    let layout : Layout :=
      ⟨["Rows"], "rows", "Helpers", "r", [⟨"findRow", .findFirst ⟨"id", "id"⟩⟩]⟩
    let rs : List Entries :=
      [[("id", .text "null"), ("due", .text "\"\n  \x7d,\n  \x7b\n    id: null,\n    due: \"")]]
    let rs' : List Entries :=
      [[("id", .null), ("due", .text "")], [("id", .null), ("due", .int (-1))]]
    layout.check = .ok () ∧ (∀ r ∈ rs, r.map (·.1) = ["id", "due"]) ∧
      (∀ r ∈ rs', r.map (·.1) = ["id", "due"]) ∧
      ∃ text text', layout.render rs = .ok text ∧ layout.render rs' = .ok text' ∧ text ≠ text' := by
  intro layout rs rs'
  have good : layout.check = .ok () := rfl
  have keyed : ∀ r ∈ rs, r.map (·.1) = ["id", "due"] := by decide
  have keyed' : ∀ r ∈ rs', r.map (·.1) = ["id", "due"] := by decide
  obtain ⟨text, text', rendered, rendered', same_iff⟩ := render_eq_iff good keyed keyed'
  have differ : rs ≠ rs' := by decide
  exact ⟨good, keyed, keyed', text, text', rendered, rendered', mt same_iff.mp differ⟩

end Layout

end MockData.Script
