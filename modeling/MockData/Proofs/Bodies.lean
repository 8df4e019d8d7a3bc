import MockData.Json.Quoted
import MockData.Proofs.Searching
import MockData.Proofs.Units

/-!
Bodies of strings as the data format spells them. A text field that holds one has the text that its
units decode to, however they are spelled and whatever becomes of surrogates without a partner.
-/
namespace MockData

open Text

namespace Text

theorem hexDigit?_eq_some {c : Char} {n : Nat} (digit : hexDigit? c = some n) :
    n < 16 ∧ ((48 ≤ c.toNat ∧ c.toNat ≤ 57) ∨ (65 ≤ c.toNat ∧ c.toNat ≤ 70) ∨
      (97 ≤ c.toNat ∧ c.toNat ≤ 102)) := by
  have upTo {a b : Char} (between : a ≤ c ∧ c ≤ b) : a.toNat ≤ c.toNat ∧ c.toNat ≤ b.toNat := by
    rw [Char.le_def, Char.le_def, UInt32.le_iff_toNat_le, UInt32.le_iff_toNat_le] at between
    exact between
  rw [hexDigit?] at digit
  split at digit
  · rename_i numeral
    have bounds := upTo numeral
    cases digit
    simp at bounds ⊢
    omega
  · split at digit
    · rename_i lower
      have bounds := upTo lower
      cases digit
      simp at bounds ⊢
      omega
    · split at digit
      · rename_i upper
        have bounds := upTo upper
        cases digit
        simp at bounds ⊢
        omega
      · cases digit

theorem hexValue?_eq_some {a b c d : Char} {n : Nat} (digits : hexValue? [a, b, c, d] = some n) :
    (∀ e ∈ [a, b, c, d], ∃ m, hexDigit? e = some m) ∧ n < 0x10000 := by
  simp only [hexValue?, hexValue?.go, Option.bind_eq_some_iff] at digits
  obtain ⟨i, first, j, second, k, third, l, fourth, value⟩ := digits
  have := (hexDigit?_eq_some first).1
  have := (hexDigit?_eq_some second).1
  have := (hexDigit?_eq_some third).1
  have := (hexDigit?_eq_some fourth).1
  cases value
  exact ⟨by simp [first, second, third, fourth], by omega⟩

end Text

namespace Json

/-- A body and the units it spells: characters that stand for themselves, escapes of one letter,
and units in four hexadecimal digits. -/
inductive Spells : List Char → List Nat → Prop
  | nil : Spells [] []
  | raw {c : Char} {body : List Char} {us : List Nat} (printable : 0x20 ≤ c.toNat)
      (notQuote : c ≠ '"') (notEscape : c ≠ '\\') (later : Spells body us) :
      Spells (c :: body) (unitsOf c ++ us)
  | short {e c : Char} {body : List Char} {us : List Nat} (named : simpleEscape? e = some c)
      (later : Spells body us) : Spells ('\\' :: e :: body) (unitsOf c ++ us)
  | unit {a b c d : Char} {n : Nat} {body : List Char} {us : List Nat}
      (digits : hexValue? [a, b, c, d] = some n) (later : Spells body us) :
      Spells ('\\' :: 'u' :: a :: b :: c :: d :: body) (n :: us)

theorem simpleEscape?_eq_some {e c : Char} (named : simpleEscape? e = some c) :
    Script.simpleEscape e = c ∧ e ≠ 'u' ∧ e ≠ '\n' := by
  rw [simpleEscape?.eq_def] at named
  split at named
  case h_9 => cases named
  all_goals
    cases named
    exact ⟨rfl, by decide, by decide⟩

end Json

namespace Script

open MockData.Field
open Json (Spells simpleEscape?_eq_some)

variable {body : List Char} {us : List Nat}

theorem ne_of_hexDigit? {c : Char} {n : Nat} (digit : hexDigit? c = some n) :
    c ≠ '"' ∧ c ≠ '\\' := by
  constructor
  · rintro rfl
    cases digit
  · rintro rfl
    cases digit

theorem literalBody_of_spells (spells : Spells body us) (rest : List Char) :
    literalBody (body ++ '"' :: rest) = some (body, rest) := by
  induction spells with
  | nil => rfl
  | raw _ notQuote notEscape _ ih =>
    rw [List.cons_append, literalBody_cons notQuote notEscape, ih, Option.map_some]
  | short named _ ih =>
    simp [literalBody, (simpleEscape?_eq_some named).2.2, ih]
  | @unit a b c d n body us digits later ih =>
    have step : ∀ e ∈ [a, b, c, d], ∀ cs, literalBody (e :: cs) =
        (literalBody cs).map fun p => (e :: p.1, p.2) := by
      intro e member
      obtain ⟨m, digit⟩ := (hexValue?_eq_some digits).1 e member
      exact literalBody_cons (ne_of_hexDigit? digit).1 (ne_of_hexDigit? digit).2
    simp only [List.forall_mem_cons] at step
    obtain ⟨first, second, third, fourth, -⟩ := step
    simp [literalBody, first, second, third, fourth, ih]

theorem units_pieces_of_spells (spells : Spells body us) :
    (pieces body).flatMap Piece.units = us := by
  induction spells with
  | nil => rfl
  | raw _ _ notEscape _ ih => simp [pieces, notEscape, Piece.units, ih]
  | short named _ ih =>
    obtain ⟨meaning, notUnit, -⟩ := simpleEscape?_eq_some named
    simp [pieces, notUnit, meaning, Piece.units, ih]
  | unit digits _ ih => simp [pieces, digits, Piece.units, ih]

theorem lt_of_spells (spells : Spells body us) : ∀ n ∈ us, n < 0x10000 := by
  induction spells with
  | nil => simp
  | raw _ _ _ _ ih => exact List.forall_mem_append.mpr ⟨fun _ => lt_of_mem_unitsOf, ih⟩
  | short _ _ ih => exact List.forall_mem_append.mpr ⟨fun _ => lt_of_mem_unitsOf, ih⟩
  | unit digits _ ih => exact List.forall_mem_cons.mpr ⟨(hexValue?_eq_some digits).2, ih⟩

theorem decodes_unescape (spells : Spells body us) : Decodes us (unescape body) := by
  have same := units_pieces_of_spells spells
  have small : ∀ n ∈ (pieces body).flatMap Piece.units, n < 0x10000 := by
    rw [same]
    exact lt_of_spells spells
  have decodes := decodes_joinUnits small
  rwa [same] at decodes

def textField (name : String) (blanks blanks' body : List Char) : List Char :=
  name.toList ++ (blanks ++ ':' :: (blanks' ++ '"' :: (body ++ ['"'])))

theorem search_textField {name : String} {before : Option Char}
    {gap blanks blanks' rest : List Char} (allBlank : ∀ c ∈ blanks, isBlank c)
    (allBlank' : ∀ c ∈ blanks', isBlank c)
    (starts : isBoundary (gap.getLast?.or before) (textField name blanks blanks' body).head?)
    (misses : Misses name.toList .text before gap (textField name blanks blanks' body ++ rest))
    (spells : Spells body us) :
    search name.toList .text before (gap ++ (textField name blanks blanks' body ++ rest)) =
      some (.text body, rest) := by
  have layout : textField name blanks blanks' body ++ rest =
      name.toList ++ (blanks ++ ':' :: (blanks' ++ '"' :: (body ++ '"' :: rest))) := by
    simp [textField]
  have front : (textField name blanks blanks' body).head? =
      (textField name blanks blanks' body ++ rest).head? := by
    simp [textField]
  rw [front, layout] at starts
  have here := matchHere_append starts .text allBlank
  rw [dropBlanks_append allBlank', dropBlanks_cons (c := '"') rfl, matchValue, stringLiteral,
    literalBody_of_spells spells, ← layout] at here
  rw [search_of_misses misses, search_of_matchHere here]

/-- Wherever the search comes to a text field, its value is the one text that the units of its body
decode to. -/
theorem matchFields_textField {name : String} {before : Option Char}
    {gap blanks blanks' rest : List Char} (allBlank : ∀ c ∈ blanks, isBlank c)
    (allBlank' : ∀ c ∈ blanks', isBlank c)
    (starts : isBoundary (gap.getLast?.or before) (textField name blanks blanks' body).head?)
    (misses : Misses name.toList .text before gap (textField name blanks blanks' body ++ rest))
    (spells : Spells body us) (fields : List Field) :
    ∃ decoded : String, (∀ s : String, Decodes us s.toList ↔ s = decoded) ∧
      (∀ s : String, us = units s.toList → s = decoded) ∧
      BlockPattern.matchFields (⟨name, .text⟩ :: fields) before
          (gap ++ (textField name blanks blanks' body ++ rest)) =
        (BlockPattern.matchFields fields (some '"') rest).map ((name, .text decoded) :: ·) := by
  have decodes := decodes_unescape spells
  have only (s : String) : Decodes us s.toList ↔ s = String.ofList (unescape body) := by
    constructor
    · intro other
      have same := (joinUnits_of_decodes other).symm.trans (joinUnits_of_decodes decodes)
      rw [← same, String.ofList_toList]
    · rintro rfl
      rwa [String.toList_ofList]
  refine ⟨String.ofList (unescape body), only, ?_, ?_⟩
  · intro s denoted
    exact (only s).mp (denoted ▸ decodes_units s.toList)
  · have found := search_textField allBlank allBlank' starts misses spells
    exact matchFields_cons (f := ⟨name, .text⟩) found rfl fields

def strayBody : List Char := "\\ud83D\\uDE00\\/\\uD800\\u0041".toList

def strayUnits : List Nat := [0xD83D, 0xDE00, 0x2F, 0xD800, 0x41]

theorem spells_strayBody : Spells strayBody strayUnits :=
  .unit rfl (.unit rfl (.short (c := '/') rfl (.unit rfl (.unit rfl .nil))))

theorem matchFields_textField_stray : Spells strayBody strayUnits ∧
    BlockPattern.matchFields [⟨"id", .text⟩] none
      (['{', ' '] ++ (textField "id" [] [' '] strayBody ++ [' ', '}'])) =
        some [("id", .text "😀/\uFFFDA")] := by
  have misses : Misses "id".toList .text none ['{', ' ']
      (textField "id" [] [' '] strayBody ++ [' ', '}']) :=
    misses_cons_iff.mpr ⟨rfl, misses_cons_iff.mpr ⟨rfl, misses_nil⟩⟩
  have blank : ∀ c ∈ [' '], isBlank c := List.forall_mem_singleton.mpr rfl
  obtain ⟨decoded, only, -, matched⟩ := matchFields_textField (by simp) blank
    (by decide) misses spells_strayBody []
  have lone : Decodes [0xD800, 0x41] "\uFFFDA".toList :=
    .lone (.inl rfl) rfl (.char 'A' .nil)
  have decodes : Decodes strayUnits "😀/\uFFFDA".toList := .char '😀' (.char '/' lone)
  rw [← (only _).mp decodes] at matched
  exact ⟨spells_strayBody, matched⟩

end Script

end MockData
