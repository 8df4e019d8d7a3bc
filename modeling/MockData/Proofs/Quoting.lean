import MockData.Field.Matching
import MockData.Proofs.Lexing
import MockData.Script.Literal

/-!
String literals as they are written, lexed and read back. The reader of a field and the lexer
agree on where a literal ends, and reading undoes quoting for every text.
-/
namespace MockData.Script

open Text MockData.Field

theorem literalBody_lexed {cs body rest : List Char} (read : literalBody cs = some (body, rest)) :
    cs = body ++ '"' :: rest ∧ (Mode.quoted '"').run body = .quoted '"' ∧
      (Mode.quoted '"').isQuiet body := by
  fun_induction literalBody cs generalizing body rest with
  | case1 => simp at read
  | case2 rest' =>
    obtain ⟨rfl, rfl⟩ : [] = body ∧ rest' = rest := by simpa using read
    simp [Mode.isQuiet]
  | case3 rest' => simp at read
  | case4 c rest' notLineFeed ih =>
    simp only [Option.map_eq_some_iff, Prod.mk.injEq] at read
    obtain ⟨⟨tail, rest''⟩, readTail, rfl, rfl⟩ := read
    obtain ⟨text, mode, quiet⟩ := ih readTail
    refine ⟨by simp [text], by simpa [Mode.next] using mode, ?_⟩
    simpa [Mode.isQuiet, Mode.isCode, Mode.next] using quiet
  | case5 c rest' notQuote notEscape ih =>
    simp only [Option.map_eq_some_iff, Prod.mk.injEq] at read
    obtain ⟨⟨tail, rest''⟩, readTail, rfl, rfl⟩ := read
    obtain ⟨text, mode, quiet⟩ := ih readTail
    have stays : (Mode.quoted '"').next c = .quoted '"' := by
      have hq : c ≠ '"' := notQuote
      have hb : c ≠ '\\' := by
        rintro rfl
        cases rest' with
        | nil => simp [literalBody] at readTail
        | cons d ds => exact notEscape d ds rfl rfl
      simp [Mode.next, hq, hb]
    refine ⟨by simp [text], by simpa [stays] using mode, ?_⟩
    simpa [Mode.isQuiet, Mode.isCode, stays] using quiet

/-- A character stands for itself, behind a backslash under its own or another letter, or as the
four digits of its code point. -/
theorem quoteChar_cases (c : Char) :
    (quoteChar c = [c] ∧ c ≠ '"' ∧ c ≠ '\\') ∨
    (∃ e, quoteChar c = ['\\', e] ∧ e ≠ '\n' ∧ e ≠ 'u' ∧ simpleEscape e = c) ∨
    (quoteChar c = '\\' :: 'u' :: hex4 c.toNat ∧ c.toNat < 0x2030) := by
  unfold quoteChar
  split
  case h_9 notEscape notQuote _ _ _ _ _ _ =>
    split
    · rename_i named
      simp only [Bool.or_eq_true, decide_eq_true_eq] at named
      exact Or.inr (Or.inr ⟨rfl, by omega⟩)
    · exact Or.inl ⟨rfl, notQuote, notEscape⟩
  all_goals exact Or.inr (Or.inl ⟨_, rfl, by decide, by decide, by decide⟩)

theorem hexDigit_ne : ∀ n < 16, hexDigit n ≠ '"' ∧ hexDigit n ≠ '\\' := by decide

theorem literalBody_cons {c : Char} (notQuote : c ≠ '"') (notEscape : c ≠ '\\') (cs : List Char) :
    literalBody (c :: cs) = (literalBody cs).map fun p => (c :: p.1, p.2) := by
  rw [literalBody.eq_def]
  split <;> simp_all

theorem literalBody_quoteChar (c : Char) (cs : List Char) :
    literalBody (quoteChar c ++ cs) =
      (literalBody cs).map fun p => (quoteChar c ++ p.1, p.2) := by
  rcases quoteChar_cases c with ⟨eq, notQuote, notEscape⟩ | ⟨e, eq, notLineFeed, -, -⟩ | ⟨eq, -⟩
  · simp [eq, literalBody_cons notQuote notEscape cs]
  · simp [eq, literalBody, notLineFeed]
  · have digit (n : Nat) := hexDigit_ne (n % 16) (Nat.mod_lt n (by decide))
    have step (n : Nat) (ds : List Char) := literalBody_cons (digit n).1 (digit n).2 ds
    simp [eq, hex4, literalBody, step, Option.map_map, Function.comp_def]

theorem literalBody_quoteBody (cs rest : List Char) :
    literalBody (quoteBody cs ++ '"' :: rest) = some (quoteBody cs, rest) := by
  induction cs with
  | nil => rfl
  | cons c cs ih =>
    rw [quoteBody, List.flatMap_cons, List.append_assoc, literalBody_quoteChar]
    rw [quoteBody] at ih
    simp [ih]

theorem passes_quote (s : String) : Passes (quote s).toList := by
  obtain ⟨-, mode, quiet⟩ := literalBody_lexed (literalBody_quoteBody s.toList [])
  have opening : Mode.code.next '"' = .quoted '"' := rfl
  constructor
  · simp only [quote, String.toList_ofList, List.cons_append, Mode.isQuiet, opening,
      Mode.isQuiet_append, quiet, mode]
    rfl
  · simp only [quote, String.toList_ofList, List.cons_append, Mode.run_cons, opening,
      Mode.run_append, mode]
    rfl

theorem joinUnits_unit {n : Nat} (low : n < 0xD800) (ps : List Piece) :
    joinUnits (.unit n :: ps) = ofUnit n :: joinUnits ps := by
  have notHigh : isHighSurrogate n = false := by simp [isHighSurrogate]; omega
  rcases ps with _ | ⟨_ | _, _⟩ <;> simp [joinUnits, notHigh]

theorem ofUnit_toNat (c : Char) : ofUnit c.toNat = c := by
  have valid : c.toNat.isValidChar := c.valid
  have same := Char.ofNat_toNat c
  rw [Char.ofNat, dif_pos valid] at same
  rw [ofUnit, dif_pos valid, same]

theorem unescape_quoteBody (cs : List Char) : unescape (quoteBody cs) = cs := by
  induction cs with
  | nil => rfl
  | cons c cs ih =>
    rw [unescape, quoteBody] at ih
    rw [unescape, quoteBody, List.flatMap_cons]
    rcases quoteChar_cases c with ⟨eq, -, notEscape⟩ | ⟨e, eq, -, notUnit, meaning⟩ | ⟨eq, small⟩
    · simp [eq, pieces, joinUnits, ih, notEscape]
    · simp [eq, pieces, joinUnits, ih, notUnit, meaning]
    · have value := hexValue?_hex4 (show c.toNat < 65536 by omega)
      simp only [hex4] at value
      simp [eq, hex4, pieces, value, joinUnits_unit (show c.toNat < 0xD800 by omega), ih,
        ofUnit_toNat]

end MockData.Script
