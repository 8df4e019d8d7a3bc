import MockData.Proofs.Leaps
import MockData.Proofs.Occurrences

/-!
Where string literals end. The bytes of a literal are skipped with an index, two of them at a
backslash, even if this leads into the middle of a character; the lexer reads the characters one by
one; and a field takes the slice that its expression matches. All three come to the same place, if
no line feed is escaped, which the expression does not allow.
-/
namespace MockData.Script

open Text MockData.Field

def Mode.leavesAt : Mode → (offset : Nat) → List Char → Nat
  | _, offset, [] => offset
  | m, offset, c :: cs => if m.isCode then offset else (m.next c).leavesAt (offset + c.utf8Size) cs

theorem afterLiteral_backslash (quote : UInt8) (rest : List UInt8) :
    afterLiteral quote ('\\'.toUInt8 :: rest) = afterLiteral quote rest.tail := by
  cases rest with
  | nil => rfl
  | cons b rest => exact afterLiteral_escape quote b rest

theorem skipBody_add_length (text : List UInt8) (quote : UInt8) (i : Nat) :
    skipBody text quote i + (afterLiteral quote (text.drop i)).length = text.length := by
  fun_induction skipBody text quote i with
  | case1 i within escape ih =>
    rw [List.drop_eq_getElem_cons within, escape, afterLiteral_backslash, List.tail_drop]
    exact ih
  | case2 i within noEscape closes =>
    rw [List.drop_eq_getElem_cons within, afterLiteral_cons noEscape, if_pos closes,
      List.length_drop]
    omega
  | case3 i within noEscape other ih =>
    rw [List.drop_eq_getElem_cons within, afterLiteral_cons noEscape, if_neg other]
    exact ih
  | case4 i beyond =>
    rw [List.drop_eq_nil_of_le (by omega)]
    rfl

theorem afterLiteral_append_of_large {quote : UInt8} (small : quote.toNat < 128) {bs : List UInt8}
    (large : ∀ b ∈ bs, 128 ≤ b.toNat) (rest : List UInt8) :
    afterLiteral quote (bs ++ rest) = afterLiteral quote rest := by
  induction bs with
  | nil => rfl
  | cons b bs ih =>
    obtain ⟨first, later⟩ := List.forall_mem_cons.mp large
    have noEscape : b ≠ '\\'.toUInt8 := by
      rintro rfl
      revert first
      decide
    have noQuote : b ≠ quote := by
      rintro rfl
      omega
    rw [List.cons_append, afterLiteral_cons noEscape, if_neg noQuote, ih later]

theorem toUInt8_ne {c d : Char} (small : c.toNat < 128) (small' : d.toNat < 128) (other : c ≠ d) :
    c.toUInt8 ≠ d.toUInt8 :=
  fun same => other (eq_of_toUInt8_eq small small' same)

section

variable {q : Char} (quotes : isQuote q)
include quotes

theorem toNat_toUInt8_of_isQuote : q.toUInt8.toNat < 128 := by
  have small := toNat_lt_of_isQuote quotes
  rw [toNat_toUInt8 (by omega)]
  exact small

theorem afterLiteral_encode {c : Char} (noEscape : c ≠ '\\') (noQuote : c ≠ q)
    (rest : List UInt8) :
    afterLiteral q.toUInt8 (String.utf8EncodeChar c ++ rest) = afterLiteral q.toUInt8 rest := by
  by_cases small : c.toNat < 128
  · have noEscape' := toUInt8_ne small (by decide) noEscape
    have noQuote' := toUInt8_ne small (toNat_lt_of_isQuote quotes) noQuote
    rw [encode_of_small small, List.singleton_append, afterLiteral_cons noEscape', if_neg noQuote']
  · have large := le_toNat_of_mem_encode (show 128 ≤ c.toNat by omega)
    exact afterLiteral_append_of_large (toNat_toUInt8_of_isQuote quotes) large rest

/-- Of an escaped character the first byte is skipped with the backslash, and the others are passed
over. -/
theorem afterLiteral_escaped (c : Char) (rest : List UInt8) :
    afterLiteral q.toUInt8 ('\\'.toUInt8 :: (String.utf8EncodeChar c ++ rest)) =
      afterLiteral q.toUInt8 rest := by
  obtain ⟨b, bs, split, large⟩ := exists_encode c
  rw [split, List.cons_append, afterLiteral_escape]
  exact afterLiteral_append_of_large (toNat_toUInt8_of_isQuote quotes) large rest

end

namespace Mode

theorem leavesAt_code (offset : Nat) (cs : List Char) : code.leavesAt offset cs = offset := by
  cases cs <;> rfl

theorem leavesAt_quoted (q c : Char) (offset : Nat) (cs : List Char) :
    (quoted q).leavesAt offset (c :: cs) =
      ((quoted q).next c).leavesAt (offset + c.utf8Size) cs := rfl

theorem leavesAt_escaped (q c : Char) (offset : Nat) (cs : List Char) :
    (escaped q).leavesAt offset (c :: cs) = (quoted q).leavesAt (offset + c.utf8Size) cs := rfl

theorem leavesAt_add_length {q : Char} (quotes : isQuote q) (offset : Nat) (cs : List Char) :
    (quoted q).leavesAt offset cs + (afterLiteral q.toUInt8 (bytes cs)).length =
        offset + byteSize cs ∧
      (escaped q).leavesAt offset cs +
        (afterLiteral q.toUInt8 ('\\'.toUInt8 :: bytes cs)).length = offset + byteSize cs := by
  -- A backslash leads from the one mode to the other, so the induction is on both at once.
  induction cs generalizing offset with
  | nil => exact ⟨rfl, rfl⟩
  | cons c cs ih =>
    have later := ih (offset + c.utf8Size)
    rw [bytes_cons, byteSize, ← Nat.add_assoc]
    constructor
    · rw [leavesAt_quoted, Mode.next]
      by_cases escape : c = '\\'
      · subst escape
        rw [if_pos rfl, encode_of_small (by decide)]
        exact later.2
      · rw [if_neg escape]
        by_cases closes : c = q
        · subst closes
          have small := toNat_lt_of_isQuote quotes
          rw [if_pos rfl, leavesAt_code, encode_of_small small, List.singleton_append,
            afterLiteral_cons (toUInt8_ne small (by decide) escape), if_pos rfl, length_bytes]
        · rw [if_neg closes, afterLiteral_encode quotes escape closes]
          exact later.1
    · rw [leavesAt_escaped, afterLiteral_escaped quotes]
      exact later.1

end Mode

theorem skipLiteral_eq_leavesAt {q : Char} (quotes : isQuote q) (front after : List Char) :
    skipLiteral (bytes (front ++ q :: after)) (byteSize front) =
      (Mode.quoted q).leavesAt (byteSize front + 1) after := by
  have one := encode_of_small (toNat_lt_of_isQuote quotes)
  have split : bytes (front ++ q :: after) = bytes front ++ q.toUInt8 :: bytes after := by
    rw [bytes_append, bytes_cons, one, List.singleton_append]
  rw [split, ← length_bytes]
  have walked := skipBody_add_length (bytes front ++ q.toUInt8 :: bytes after) q.toUInt8
    ((bytes front).length + 1)
  have lexed := (Mode.leavesAt_add_length quotes ((bytes front).length + 1) after).1
  have behind : (bytes front ++ q.toUInt8 :: bytes after).drop ((bytes front).length + 1) =
      bytes after := by simp
  rw [behind, List.length_append, List.length_cons, length_bytes after] at walked
  have opening : skipLiteral (bytes front ++ q.toUInt8 :: bytes after) (bytes front).length =
      skipBody (bytes front ++ q.toUInt8 :: bytes after) q.toUInt8 ((bytes front).length + 1) := by
    simp [skipLiteral]
  rw [opening]
  omega

theorem leavesAt_eq {cs : List Char} (unbroken : ¬ ['\\', '\n'] <:+: cs) (offset : Nat) :
    (Mode.quoted '"').leavesAt offset cs =
      (literalBody cs).elim (offset + byteSize cs) fun p => offset + byteSize p.1 + 1 := by
  fun_induction literalBody cs generalizing offset with
  | case1 => rfl
  | case2 rest => exact Mode.leavesAt_code _ _
  | case3 rest => exact absurd (List.prefix_append ['\\', '\n'] rest).isInfix unbroken
  | case4 c rest notLineFeed ih =>
    have within : rest <:+: '\\' :: c :: rest := (List.suffix_append ['\\', c] rest).isInfix
    have later := ih (fun found => unbroken (found.trans within)) (offset + 1 + c.utf8Size)
    have both : (Mode.quoted '"').leavesAt offset ('\\' :: c :: rest) =
        (Mode.quoted '"').leavesAt (offset + 1 + c.utf8Size) rest := rfl
    have one : '\\'.utf8Size = 1 := rfl
    rw [both, later]
    cases literalBody rest with
    | none => simp only [Option.map_none, Option.elim_none, byteSize, one]; omega
    | some p => simp only [Option.map_some, Option.elim_some, byteSize, one]; omega
  | case5 c rest notQuote notEscape ih =>
    have notQuote : c ≠ '"' := notQuote
    by_cases escape : c = '\\'
    · -- A backslash at the very end takes nothing with it.
      cases rest with
      | nil =>
        rw [escape]
        rfl
      | cons d rest => exact absurd rfl (notEscape d rest escape)
    · have within : rest <:+: c :: rest := (List.suffix_cons c rest).isInfix
      have later := ih (fun found => unbroken (found.trans within)) (offset + c.utf8Size)
      rw [Mode.leavesAt_quoted, Mode.next, if_neg escape, if_neg notQuote, later]
      cases literalBody rest with
      | none => simp only [Option.map_none, Option.elim_none, byteSize]; omega
      | some p => simp only [Option.map_some, Option.elim_some, byteSize]; omega

/-- What it is for a literal to end at an offset, when its quote stands behind `front`. The lexer
leaves it there. It is the end of the slice that the expression of a literal matches from the quote
on, which is the one that a field takes, or the end of the text if the expression matches none. -/
structure LiteralEnds (front after : List Char) (stop : Nat) : Prop where
  lexed : (Mode.quoted '"').leavesAt (byteSize front + 1) after = stop
  matched : ∀ value rest, '"' :: after = value ++ rest →
    FieldKind.literal.Matches front.getLast? value rest.head? →
      byteSize (front ++ value) = stop ∧
        ∃ capture, stringLiteral ('"' :: after) = some (capture, rest)
  unmatched : (∀ value rest, '"' :: after = value ++ rest →
    ¬ FieldKind.literal.Matches front.getLast? value rest.head?) →
      byteSize (front ++ '"' :: after) = stop ∧ stringLiteral ('"' :: after) = none

theorem literalEnds_leavesAt (front : List Char) {after : List Char}
    (unbroken : ¬ ['\\', '\n'] <:+: after) :
    LiteralEnds front after ((Mode.quoted '"').leavesAt (byteSize front + 1) after) where
  lexed := rfl
  matched := by
    intro value rest split matched
    obtain ⟨body, rfl, isBody⟩ := matches_literal_iff.mp matched
    obtain rfl : after = body ++ '"' :: rest := by simpa using split
    have one : '"'.utf8Size = 1 := rfl
    refine ⟨?_, .text body, by rw [stringLiteral, isBody rest, Option.map_some]⟩
    rw [leavesAt_eq unbroken, isBody rest]
    simp only [byteSize_append, byteSize, one, Option.elim_some]
    omega
  unmatched := by
    intro noMatch
    have unread : literalBody after = none := by
      by_contra reads
      obtain ⟨⟨body, rest⟩, read⟩ := Option.ne_none_iff_exists'.mp reads
      have isLiteral : IsLiteral ('"' :: (body ++ ['"'])) := ⟨body, rfl, isBody_of_literalBody read⟩
      exact noMatch _ rest (by simp [(literalBody_lexed read).1])
        (matches_literal_iff.mpr isLiteral)
    have one : '"'.utf8Size = 1 := rfl
    refine ⟨?_, by rw [stringLiteral, unread, Option.map_none]⟩
    rw [leavesAt_eq unbroken, unread]
    simp only [byteSize_append, byteSize, one, Option.elim_none]
    omega

theorem literalEnds_skipLiteral {text : String} {front after : List Char}
    (split : text.toList = front ++ '"' :: after) (unbroken : ¬ ['\\', '\n'] <:+: after) :
    LiteralEnds front after (skipLiteral text.toUTF8.data.toList (byteSize front)) := by
  rw [toList_toUTF8, split, skipLiteral_eq_leavesAt rfl]
  exact literalEnds_leavesAt front unbroken

def escapedText : String := "a: \"\\é\\\"\\\\\" \"\\é\\"

def behindFirst : List Char := "\\é\\\"\\\\\" \"\\é\\".toList

def behindSecond : List Char := "\\é\\".toList

theorem literalEnds_skipLiteral_escaped :
    (escapedText.toList = "a: ".toList ++ '"' :: behindFirst ∧
      ¬ ['\\', '\n'] <:+: behindFirst ∧
      skipLiteral escapedText.toUTF8.data.toList 3 = 12) ∧
    (escapedText.toList = "a: \"\\é\\\"\\\\\" ".toList ++ '"' :: behindSecond ∧
      ¬ ['\\', '\n'] <:+: behindSecond ∧
      skipLiteral escapedText.toUTF8.data.toList 13 = 18) := by
  have split : escapedText.toList = "a: ".toList ++ '"' :: behindFirst := rfl
  have unbroken : ¬ ['\\', '\n'] <:+: behindFirst := by decide +kernel
  have read : stringLiteral ('"' :: behindFirst) =
      some (.text "\\é\\\"\\\\".toList, " \"\\é\\".toList) := rfl
  have isLiteral := (isLiteral_of_stringLiteral read).1
  have closed := (literalEnds_skipLiteral split unbroken).matched _ _ rfl
    (matches_literal_iff.mpr isLiteral)
  have split' : escapedText.toList =
      "a: \"\\é\\\"\\\\\" ".toList ++ '"' :: behindSecond := rfl
  have unbroken' : ¬ ['\\', '\n'] <:+: behindSecond := by decide +kernel
  have unread : stringLiteral ('"' :: behindSecond) = none := rfl
  have unclosed := (literalEnds_skipLiteral split' unbroken').unmatched (by
    intro value rest within matched
    obtain ⟨capture, taken, -⟩ := stringLiteral_of_isLiteral (matches_literal_iff.mp matched) rest
    rw [← within, unread] at taken
    cases taken)
  exact ⟨⟨split, unbroken, closed.1.symm⟩, split', unbroken', unclosed.1.symm⟩

end MockData.Script
