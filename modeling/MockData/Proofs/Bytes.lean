import MockData.Proofs.Lexing
import MockData.Text.Measure

/-!
The bytes of a text, each taken for the character of its number. No byte of a character beyond
ASCII means anything to the lexer, so it comes to the same mode by bytes as by characters.
-/
namespace MockData.Script

open Text

theorem toNat_ofUInt8 (b : UInt8) : (Char.ofUInt8 b).toNat = b.toNat := by
  have value : (Char.ofUInt8 b).toNat = b.toUInt32.toNat := rfl
  rw [value, UInt8.toNat_toUInt32]

theorem toNat_toUInt8 {c : Char} (small : c.toNat < 256) : c.toUInt8.toNat = c.toNat :=
  Nat.mod_eq_of_lt small

theorem eq_of_toUInt8_eq {c d : Char} (small : c.toNat < 128) (small' : d.toNat < 128)
    (same : c.toUInt8 = d.toUInt8) : c = d := by
  have size := toNat_toUInt8 (show c.toNat < 256 by omega)
  have size' := toNat_toUInt8 (show d.toNat < 256 by omega)
  exact Char.toNat_inj.mp (by rw [← size, ← size', same])

theorem ofUInt8_eq_iff {b : UInt8} {c : Char} (small : c.toNat < 256) :
    Char.ofUInt8 b = c ↔ b = c.toUInt8 := by
  have size := toNat_toUInt8 small
  constructor
  · intro same
    rw [← UInt8.toNat_inj, size, ← same, toNat_ofUInt8]
  · intro same
    rw [← Char.toNat_inj, toNat_ofUInt8, same, size]

theorem ofUInt8_ne {b : UInt8} {c : Char} (small : c.toNat < 256) (other : b ≠ c.toUInt8) :
    Char.ofUInt8 b ≠ c := fun same => other ((ofUInt8_eq_iff small).mp same)

theorem toNat_lt_of_isQuote {q : Char} (quotes : isQuote q) : q.toNat < 128 := by
  simp only [isQuote, Bool.or_eq_true, decide_eq_true_eq] at quotes
  rcases quotes with (rfl | rfl) | rfl <;> decide

namespace Mode

def runBytes (m : Mode) (bs : List UInt8) : Mode := m.run (bs.map Char.ofUInt8)

theorem runBytes_append (m : Mode) (a b : List UInt8) :
    m.runBytes (a ++ b) = (m.runBytes a).runBytes b := by
  rw [runBytes, List.map_append, run_append]
  rfl

/-- A mode that the lexer can come to: what opens a literal is a quote. -/
def Proper : Mode → Prop
  | .quoted q | .escaped q => isQuote q
  | _ => True

theorem Proper.next {m : Mode} (proper : m.Proper) (c : Char) : (m.next c).Proper := by
  have fromCode : (fromCode c).Proper := by
    rw [Mode.fromCode]
    split
    · assumption
    · split <;> trivial
  cases m with
  | code => exact fromCode
  | slash =>
    rw [Mode.next]
    split
    · trivial
    · split
      · trivial
      · exact fromCode
  | quoted q =>
    rw [Mode.next]
    split
    · exact proper
    · split
      · trivial
      · exact proper
  | escaped q => exact proper
  | lineComment | blockComment =>
    rw [Mode.next]
    split <;> trivial
  | star =>
    rw [Mode.next]
    split
    · trivial
    · split <;> trivial

/-- The mode after characters beyond ASCII, of which the lexer knows none. -/
def beyond : Mode → Mode
  | .code | .slash => .code
  | .quoted q | .escaped q => .quoted q
  | .lineComment => .lineComment
  | .blockComment | .star => .blockComment

theorem beyond_beyond (m : Mode) : m.beyond.beyond = m.beyond := by
  cases m <;> rfl

theorem next_of_large {m : Mode} (proper : m.Proper) {c : Char} (large : 128 ≤ c.toNat) :
    m.next c = m.beyond := by
  have differs : ∀ d : Char, d.toNat < 128 → c ≠ d := by
    rintro d small rfl
    omega
  have noQuote : ∀ q, isQuote q → c ≠ q := fun q quotes => differs q (toNat_lt_of_isQuote quotes)
  have noLexeme : fromCode c = .code := by
    have other : isQuote c = false := Bool.eq_false_iff.mpr fun quotes => noQuote c quotes rfl
    simp [fromCode, other, differs '/' (by decide)]
  have noSlash := differs '/' (by decide)
  have noStar := differs '*' (by decide)
  have noEscape := differs '\\' (by decide)
  have noLineFeed := differs '\n' (by decide)
  cases m with
  | quoted q => simp [Mode.next, beyond, noEscape, noQuote q proper]
  | code | slash | escaped q | lineComment | blockComment | star =>
    simp [Mode.next, beyond, noLexeme, noSlash, noStar, noLineFeed]

theorem runBytes_of_large {m : Mode} (proper : m.Proper) {bs : List UInt8} (nonempty : bs ≠ [])
    (large : ∀ b ∈ bs, 128 ≤ b.toNat) : m.runBytes bs = m.beyond := by
  induction bs generalizing m with
  | nil => contradiction
  | cons b bs ih =>
    have first := next_of_large proper (toNat_ofUInt8 b ▸ large b (by simp))
    cases bs with
    | nil => exact first
    | cons b' bs =>
      have later := ih (proper.next (.ofUInt8 b)) (by simp)
        fun d member => large d (by simp [member])
      rw [first, beyond_beyond] at later
      rw [← later, ← first]
      rfl

end Mode

theorem encode_of_small {c : Char} (small : c.toNat < 128) :
    String.utf8EncodeChar c = [c.toUInt8] := by
  have within : c.val.toNat ≤ 127 := by
    have : c.toNat = c.val.toNat := rfl
    omega
  simp only [String.utf8EncodeChar, within, ↓reduceIte]
  rfl

theorem le_toNat_of_mem_encode {c : Char} (large : 128 ≤ c.toNat) :
    ∀ b ∈ String.utf8EncodeChar c, 128 ≤ b.toNat := by
  have beyond : ¬ c.val.toNat ≤ 127 := by
    have : c.toNat = c.val.toNat := rfl
    omega
  intro b member
  simp only [String.utf8EncodeChar, beyond, ↓reduceIte] at member
  split at member
  · simp at member
    rcases member with rfl | rfl <;> simp <;> omega
  · split at member
    · simp at member
      rcases member with rfl | rfl | rfl <;> simp <;> omega
    · simp at member
      rcases member with rfl | rfl | rfl | rfl <;> simp <;> omega

theorem exists_encode (c : Char) : ∃ b bs, String.utf8EncodeChar c = b :: bs ∧
    ∀ d ∈ bs, 128 ≤ d.toNat := by
  by_cases small : c.toNat < 128
  · exact ⟨c.toUInt8, [], encode_of_small small, by simp⟩
  · have large := le_toNat_of_mem_encode (show 128 ≤ c.toNat by omega)
    obtain ⟨b, bs, split⟩ := List.exists_cons_of_ne_nil (String.utf8EncodeChar_ne_nil (c := c))
    rw [split] at large
    exact ⟨b, bs, split, fun d member => large d (by simp [member])⟩

def bytes (cs : List Char) : List UInt8 := cs.flatMap String.utf8EncodeChar

theorem bytes_cons (c : Char) (cs : List Char) :
    bytes (c :: cs) = String.utf8EncodeChar c ++ bytes cs := List.flatMap_cons

theorem bytes_append (a b : List Char) : bytes (a ++ b) = bytes a ++ bytes b :=
  List.flatMap_append

theorem length_bytes (cs : List Char) : (bytes cs).length = byteSize cs := by
  induction cs with
  | nil => rfl
  | cons c cs ih => rw [bytes_cons, List.length_append, String.length_utf8EncodeChar, ih, byteSize]

theorem toList_toUTF8 (text : String) : text.toUTF8.data.toList = bytes text.toList := by
  rw [String.toUTF8_eq_toByteArray, ← String.utf8Encode_toList, List.utf8Encode,
    List.data_toByteArray, bytes]

theorem utf8ByteSize_eq (text : String) : text.utf8ByteSize = byteSize text.toList := by
  rw [← length_bytes, ← toList_toUTF8, Array.length_toList, String.toUTF8_eq_toByteArray,
    ← String.size_toByteArray]
  rfl

theorem isValid_of_split {text : String} {front back : List Char}
    (split : text.toList = front ++ back) :
    (String.Pos.Raw.mk (byteSize front)).IsValid text := by
  refine String.Pos.Raw.isValid_iff_exists_append.mpr
    ⟨.ofList front, .ofList back, by rw [← String.ofList_append, ← split, String.ofList_toList], ?_⟩
  rw [String.rawEndPos, utf8ByteSize_eq, String.toList_ofList]

theorem Mode.runBytes_bytes {m : Mode} (proper : m.Proper) (cs : List Char) :
    m.runBytes (bytes cs) = m.run cs := by
  induction cs generalizing m with
  | nil => rfl
  | cons c cs ih =>
    have first : m.runBytes (String.utf8EncodeChar c) = m.next c := by
      by_cases small : c.toNat < 128
      · have same : Char.ofUInt8 c.toUInt8 = c := (ofUInt8_eq_iff (by omega)).mpr rfl
        rw [encode_of_small small, runBytes, List.map_singleton, same]
        rfl
      · have large : 128 ≤ c.toNat := by omega
        rw [runBytes_of_large proper String.utf8EncodeChar_ne_nil (le_toNat_of_mem_encode large),
          next_of_large proper large]
    rw [bytes_cons, runBytes_append, first, ih (proper.next c), run_cons]

theorem exists_of_bytes_eq {cs : List Char} {done rest : List UInt8} {c : Char}
    (small : c.toNat < 128) (split : bytes cs = done ++ c.toUInt8 :: rest) :
    ∃ front back, cs = front ++ c :: back ∧ bytes front = done := by
  induction cs generalizing done with
  | nil => simp [bytes] at split
  | cons d cs ih =>
    rw [bytes_cons] at split
    have size := toNat_toUInt8 (show c.toNat < 256 by omega)
    by_cases single : d.toNat < 128
    · rw [encode_of_small single] at split
      cases done with
      | nil =>
        obtain rfl := eq_of_toUInt8_eq single small (List.cons.inj split).1
        exact ⟨[], cs, rfl, rfl⟩
      | cons b done =>
        obtain ⟨rfl, later⟩ := List.cons.inj split
        obtain ⟨front, back, rfl, there⟩ := ih later
        exact ⟨d :: front, back, rfl, by rw [bytes_cons, encode_of_small single, there]; rfl⟩
    · -- The byte is none of this character, all of whose bytes are beyond ASCII.
      have large := le_toNat_of_mem_encode (show 128 ≤ d.toNat by omega)
      rcases List.append_eq_append_iff.mp split with ⟨more, rfl, later⟩ | ⟨inside, within, later⟩
      · obtain ⟨front, back, rfl, there⟩ := ih later
        exact ⟨d :: front, back, rfl, by rw [bytes_cons, there]⟩
      · cases inside with
        | nil =>
          have later' : bytes cs = [] ++ c.toUInt8 :: rest := later.symm
          obtain ⟨front, back, rfl, there⟩ := ih later'
          exact ⟨d :: front, back, rfl, by simp [bytes_cons, there, within]⟩
        | cons b inside =>
          obtain ⟨rfl, -⟩ := List.cons.inj later
          have := large c.toUInt8 (by simp [within])
          omega

end MockData.Script
