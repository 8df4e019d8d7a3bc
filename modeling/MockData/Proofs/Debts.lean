import MockData.Proofs.SavingBooks

/-!
Saving books with a balance below zero. Their blocks match nothing: behind the balance only the
text of the status is left, and a field that stands in a string has no closed string of its own.
-/
namespace MockData

open Script MockData.Field Text

namespace Script

theorem getLast?_of_quoteChar {c : Char} {front back : List Char}
    (split : quoteChar c = front ++ '"' :: back) : front.getLast? = some '\\' := by
  rcases quoteChar_cases c with ⟨eq, notQuote, -⟩ | ⟨e, eq, -⟩ | ⟨eq, -⟩
  · have member : '"' ∈ [c] := by rw [← eq, split]; simp
    exact absurd (List.mem_singleton.mp member).symm notQuote
  · rw [eq] at split
    cases front with
    | nil => cases split
    | cons first front =>
      obtain ⟨rfl, rest⟩ := List.cons.inj split
      cases front with
      | nil => rfl
      | cons second front => simp at rest
  · have digit (n : Nat) := (hexDigit_ne (n % 16) (Nat.mod_lt n (by decide))).1
    have member : '"' ∈ '\\' :: 'u' :: hex4 c.toNat := by rw [← eq, split]; simp
    simp [hex4, fun n => (digit n).symm] at member

theorem getLast?_of_quoteBody {cs front back : List Char}
    (split : quoteBody cs = front ++ '"' :: back) : front.getLast? = some '\\' := by
  induction cs generalizing front with
  | nil => simp [quoteBody] at split
  | cons c cs ih =>
    rw [quoteBody, List.flatMap_cons] at split
    rcases List.append_eq_append_iff.mp split with ⟨more, rfl, later⟩ | ⟨more, own, rest⟩
    · rw [List.getLast?_append, ih later, Option.some_or]
    · cases more with
      | nil =>
        have early : ([] : List Char).getLast? = some '\\' := ih rest.symm
        cases early
      | cons d more =>
        obtain ⟨rfl, -⟩ := List.cons.inj rest
        exact getLast?_of_quoteChar own

variable {cs tail front back : List Char}

theorem eq_of_quote (alone : '"' ∉ tail)
    (split : quoteBody cs ++ '"' :: tail = front ++ '"' :: back)
    (bare : front.getLast? ≠ some '\\') : back = tail := by
  rcases List.append_eq_append_iff.mp split with ⟨more, -, later⟩ | ⟨more, own, rest⟩
  · cases more with
    | nil => exact (List.cons.inj later).2.symm
    | cons d more =>
      obtain ⟨-, behind⟩ := List.cons.inj later
      exact absurd (by simp [behind]) alone
  · cases more with
    | nil => exact (List.cons.inj rest).2
    | cons d more =>
      obtain ⟨rfl, -⟩ := List.cons.inj rest
      exact absurd (getLast?_of_quoteBody own) bare

theorem literalBody_eq_none (alone : '"' ∉ tail) : literalBody tail = none := by
  cases read : literalBody tail with
  | none => rfl
  | some p =>
    obtain ⟨body, rest⟩ := p
    exact absurd (by simp [(literalBody_lexed read).1]) alone

theorem getLast?_colon_blanks {blanks : List Char} (allBlank : ∀ c ∈ blanks, isBlank c)
    (front : List Char) : (front ++ ':' :: blanks).getLast? ≠ some '\\' := by
  intro last
  rw [List.getLast?_append, List.getLast?_cons, Option.some_or, Option.some_inj] at last
  cases ends : blanks.getLast? with
  | none =>
    rw [ends] at last
    cases last
  | some c =>
    rw [ends] at last
    obtain rfl : c = '\\' := last
    cases allBlank _ (List.mem_of_getLast? ends)

/-- A text field that opens before a literal is closed would have to end behind it. -/
theorem search_text_eq_none {name rest : List Char} (alone : '"' ∉ tail)
    (suffix : rest <:+ quoteBody cs ++ '"' :: tail) (before : Option Char) :
    search name .text before rest = none := by
  cases found : search name .text before rest with
  | none => rfl
  | some result =>
    obtain ⟨capture, rest'⟩ := result
    obtain ⟨front, before', back, rfl, here⟩ := exists_matchHere_of_search found
    obtain ⟨behind, value, rfl, colon, isValue⟩ := matchHere_eq_some here
    obtain ⟨more, opens, read⟩ : ∃ more, dropBlanks value = '"' :: more ∧
        literalBody more ≠ none := by
      rw [matchValue, stringLiteral.eq_def] at isValue
      split at isValue
      · rename_i more opens
        exact ⟨more, opens, fun unread => by simp [unread] at isValue⟩
      · cases isValue
    obtain ⟨blanks, rfl, -⟩ := exists_blanks colon
    obtain ⟨blanks', rfl, allBlank⟩ := exists_blanks opens
    obtain ⟨outer, whole⟩ := suffix
    have split : quoteBody cs ++ '"' :: tail =
        (outer ++ front ++ name ++ blanks ++ ':' :: blanks') ++ '"' :: more := by
      simp [← whole]
    have closing := eq_of_quote alone split (getLast?_colon_blanks allBlank _)
    exact absurd (literalBody_eq_none alone) (closing ▸ read)

theorem exists_lines_balance {n : Int64} (negative : n.toInt < 0) (s : String) :
    ∃ middle, 'b' ∉ middle ∧ ∀ cs, (lines (commas
      [entryLine ("balance", .int n), entryLine ("status", .text s)])).toList ++ cs =
        "    ".toList ++ ("balance".toList ++ ':' :: ' ' :: '-' ::
          (middle ++ '"' :: (quoteBody s.toList ++ '"' :: '\n' :: cs))) := by
  have digits := toList_toString_of_neg negative
  refine ⟨Nat.toDigits 10 n.toInt.natAbs ++ ",\n    status: ".toList, ?_, fun cs => ?_⟩
  · have letters : 'b' ∉ ",\n    status: ".toList := by decide
    intro member
    rcases List.mem_append.mp member with digit | letter
    · cases isAsciiDigit_toDigits digit
    · exact letters letter
  · simp [lines, commas, entryLine, Literal.render, quote, -Int.toString_eq_repr, digits]

theorem search_balance {n : Int64} (negative : n.toInt < 0) {gap : List Char}
    (apart : ∀ c ∈ gap, isWord c = false) (before : Option Char) (s : String) (cs : List Char) :
    search "balance".toList .unsigned before (gap ++ ((lines (commas
      [entryLine ("balance", .int n), entryLine ("status", .text s)])).toList ++ cs)) =
    search "balance".toList .unsigned (some '"') (quoteBody s.toList ++ '"' :: '\n' :: cs) := by
  obtain ⟨middle, between, text⟩ := exists_lines_balance negative s
  rw [text, ← List.append_assoc]
  generalize quoteBody s.toList ++ '"' :: '\n' :: cs = rest
  have identifier : isIdentifier "balance" := rfl
  have gaps := List.forall_mem_append.mpr ⟨apart, margin_apart⟩
  have signed : matchValue .unsigned (dropBlanks (' ' :: '-' :: (middle ++ '"' :: rest))) = none :=
    rfl
  obtain ⟨b, letters, name, passed⟩ := search_unnamed identifier signed (by simp) gaps before
  obtain ⟨rfl, rfl⟩ : 'b' = b ∧ "alance".toList = letters := by simpa using name
  have other : ∀ c ∈ ("alance: -".toList ++ middle) ++ ['"'], "balance".toList.head? ≠ some c := by
    intro c member head
    obtain rfl : 'b' = c := Option.some.inj head
    simp [between] at member
  rw [passed]
  simpa using search_skip (by simp) other rest

end Script

namespace SavingBook

def isDebt (b : SavingBook) : Bool := b.balance.toInt < 0

theorem matchFields_balance {n : Int64} (negative : n.toInt < 0) {gap : List Char}
    (apart : ∀ c ∈ gap, isWord c = false) (before : Option Char) (s : String) {cs : List Char}
    (alone : '"' ∉ cs) :
    BlockPattern.matchFields [⟨"balance", .unsigned⟩, ⟨"status", .text⟩] before
      (gap ++ ((lines (commas
        [entryLine ("balance", .int n), entryLine ("status", .text s)])).toList ++ cs)) = none := by
  rw [BlockPattern.matchFields, search_balance negative apart before]
  cases found : search "balance".toList .unsigned (some '"')
      (quoteBody s.toList ++ '"' :: '\n' :: cs) with
  | none => rfl
  | some result =>
    obtain ⟨capture, rest⟩ := result
    have suffix := suffix_of_search found
    have alone' : '"' ∉ '\n' :: cs := by simpa using alone
    have noStatus : BlockPattern.matchFields [⟨"status", .text⟩] capture.last? rest = none := by
      rw [BlockPattern.matchFields, search_text_eq_none alone' suffix]
      rfl
    simp [noStatus]

theorem matchText_of_isDebt {b : SavingBook} (debt : b.isDebt) :
    pattern.matchText (recordBlock b.entries) = none := by
  have negative : b.balance.toInt < 0 := of_decide_eq_true debt
  have apart : ∀ c ∈ ['{', '\n'], isWord c = false := by simp [isWord, isAsciiWord]
  obtain ⟨gap, before, apart', front⟩ := matchFields_append_lines b.fits_front apart none
    [("balance", .int b.balance), ("status", .text b.status)]
    [⟨"balance", .unsigned⟩, ⟨"status", .text⟩] [' ', ' ', '}']
  have entries : b.entries.take 6 ++ [("balance", .int b.balance), ("status", .text b.status)] =
      b.entries := rfl
  have fields : pattern.fields.take 6 ++ [⟨"balance", .unsigned⟩, ⟨"status", .text⟩] =
      pattern.fields := rfl
  rw [entries, fields, List.map_cons, List.map_cons, List.map_nil,
    matchFields_balance negative apart' before _ (by decide), Option.map_none] at front
  rw [BlockPattern.matchText, recordBlock, recordInner]
  simpa using front

theorem matchText_record (b : SavingBook) :
    pattern.matchText (recordBlock b.entries) = if b.isDebt then none else some b.values := by
  by_cases debt : b.isDebt
  · rw [if_pos debt, matchText_of_isDebt debt]
  · have nonneg : 0 ≤ b.balance.toInt := by simpa [isDebt] using debt
    rw [if_neg debt, matchText_recordBlock (fits_entries nonneg), map_entries_value]

theorem isIdentifier_entries (b : SavingBook) : ∀ e ∈ b.entries, isIdentifier e.1 := by
  simp only [entries, List.forall_mem_cons]
  decide

theorem filterMap_records (bs : List SavingBook) :
    (bs.map fun b => recordBlock b.entries).filterMap
        (fun t => (pattern.matchText t).map (t, ·)) =
      (bs.filter (!·.isDebt)).map fun b => (recordBlock b.entries, b.values) := by
  induction bs with
  | nil => rfl
  | cons b bs ih =>
    rw [List.map_cons, List.filterMap_cons, matchText_record, ih]
    cases debt : b.isDebt with
    | true => simp [debt]
    | false => simp [debt]

theorem countP_records (bs : List SavingBook) :
    (bs.map fun b => recordBlock b.entries).countP (fun t => (pattern.matchText t).isNone) =
      bs.countP isDebt := by
  rw [List.countP_map]
  refine List.countP_congr fun b _ => ?_
  rw [Function.comp_apply, matchText_record]
  cases b.isDebt with
  | true => simp
  | false => simp

/-- Of a list of books the module yields those without a debt, each from its own record. What is
skipped is the debts and the nine blocks of the helpers. -/
theorem ofText_render (bs : List SavingBook) :
    ∃ text, layout.render (bs.map entries) = .ok text ∧
      (Extraction.ofText pattern text).blocks.map (fun m => (m.block.text, m.values)) =
        (bs.filter (!·.isDebt)).map (fun b => (recordBlock b.entries, b.values)) ∧
      (Extraction.ofText pattern text).skipped = 9 + bs.countP isDebt ∧
      (Block.texts text.toList).take bs.length = bs.map (fun b => recordBlock b.entries) ∧
      ∀ b : SavingBook,
        pattern.matchText (recordBlock b.entries) = if b.isDebt then none else some b.values := by
  have identifiers : ∀ r ∈ bs.map entries, ∀ e ∈ r, isIdentifier e.1 := by
    intro r member
    obtain ⟨b, -, rfl⟩ := List.mem_map.mp member
    exact b.isIdentifier_entries
  have blocks := Layout.texts_text surrounds.front identifiers
  rw [List.map_map] at blocks
  have back : (Block.texts layout.back.toList).filterMap
      (fun t => (pattern.matchText t).map (t, ·)) = [] :=
    List.filterMap_eq_nil_iff.mpr fun t member => by
      rw [surrounds.matchText_back t member, Option.map_none]
  refine ⟨moduleText bs, render_layout bs, ?_, ?_, ?_, matchText_record⟩
  · have pairs := Extraction.blocks_ofBlocks pattern (Block.scan (moduleText bs).toList)
    have whole : (Block.scan (moduleText bs).toList).map Block.text = _ := blocks
    rw [whole, List.filterMap_append, back, List.append_nil] at pairs
    exact pairs.trans (filterMap_records bs)
  · have count := (Extraction.ofText_eq pattern (moduleText bs)).2
    rw [moduleText, blocks, List.countP_append, surrounds.countP_back] at count
    rw [moduleText, count, Nat.add_comm]
    exact congrArg (9 + ·) (countP_records bs)
  · rw [moduleText, blocks]
    exact List.take_left' (by simp)

end SavingBook

end MockData
