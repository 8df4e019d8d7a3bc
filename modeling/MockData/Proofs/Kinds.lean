import Mathlib.Data.List.Forall2
import MockData.Block.Pattern
import MockData.Proofs.Quoting

/-!
What the matchers of a field take from a text: a value as it is written, of the kind of the field.
The values that a pattern finds in a block have the names and the kinds of its fields.
-/
namespace MockData

def FieldValue.isOfKind : FieldValue → FieldKind → Bool
  | .text _, .text | .text _, .nullable | .null, .nullable => true
  | .unsigned _, .unsigned | .decimal _, .decimal => true
  | _, _ => false

namespace Field

open Script Text

namespace Capture

def written : Capture → List Char
  | .text body => '"' :: (body ++ ['"'])
  | .null => ['n', 'u', 'l', 'l']
  | .unsigned digits | .decimal digits => digits

def isOfKind : Capture → FieldKind → Bool
  | .text _, .text | .text _, .nullable | .null, .nullable => true
  | .unsigned _, .unsigned | .decimal _, .decimal => true
  | _, _ => false

theorem isOfKind_value {capture : Capture} {kind : FieldKind} {v : FieldValue}
    (ofKind : capture.isOfKind kind) (value : capture.value? = some v) : v.isOfKind kind := by
  cases capture with
  | text body | null | unsigned digits =>
    cases value
    cases kind with
    | text | nullable | unsigned | decimal => exact ofKind
  | decimal digits =>
    obtain ⟨x, -, rfl⟩ := Option.map_eq_some_iff.mp value
    cases kind with
    | text | nullable | unsigned | decimal => exact ofKind

end Capture

variable {cs rest : List Char} {capture : Capture}

theorem stringLiteral_eq_some (matched : stringLiteral cs = some (capture, rest)) :
    cs = capture.written ++ rest ∧ capture.isOfKind .text ∧ capture.isOfKind .nullable := by
  rw [stringLiteral.eq_def] at matched
  split at matched
  · obtain ⟨⟨body, rest'⟩, read, found⟩ := Option.map_eq_some_iff.mp matched
    cases found
    exact ⟨by simp [Capture.written, (literalBody_lexed read).1], rfl, rfl⟩
  · cases matched

theorem nullWord_eq_some (matched : nullWord cs = some (capture, rest)) :
    cs = capture.written ++ rest ∧ capture.isOfKind .nullable := by
  rw [nullWord.eq_def] at matched
  split at matched
  · split at matched
    · cases matched
      exact ⟨rfl, rfl⟩
    · cases matched
  · cases matched

theorem wholeNumber_eq_some (matched : wholeNumber cs = some (capture, rest)) :
    cs = capture.written ++ rest ∧ capture.isOfKind .unsigned := by
  have whole := takeDigits_append cs
  rw [wholeNumber] at matched
  split at matched
  · cases matched
  · rename_i taken
    cases matched
    rw [taken] at whole
    exact ⟨whole.symm, rfl⟩

theorem decimalNumber_eq_some (matched : decimalNumber cs = some (capture, rest)) :
    cs = capture.written ++ rest ∧ capture.isOfKind .decimal := by
  have whole := takeDigits_append cs
  rw [decimalNumber] at matched
  split at matched
  · rename_i point first
    have fraction := takeDigits_append point
    split at matched
    · cases matched
    · rename_i second
      cases matched
      rw [second] at fraction
      rw [first, ← fraction] at whole
      exact ⟨whole.symm, rfl⟩
  · cases matched
  · rename_i ds point _ first
    cases matched
    rw [first] at whole
    exact ⟨by simp [Capture.written, ← whole], rfl⟩
  · rename_i first
    cases matched
    rw [first] at whole
    exact ⟨whole.symm, rfl⟩

/-- A value stands at the front of the text as it is written, and it is of the kind asked for. -/
theorem matchValue_eq_some {kind : FieldKind}
    (matched : matchValue kind cs = some (capture, rest)) :
    cs = capture.written ++ rest ∧ capture.isOfKind kind := by
  cases kind with
  | text =>
    obtain ⟨split, ofKind, -⟩ := stringLiteral_eq_some matched
    exact ⟨split, ofKind⟩
  | nullable =>
    rw [matchValue, Option.or_eq_some_iff] at matched
    rcases matched with isNull | ⟨-, isText⟩
    · exact nullWord_eq_some isNull
    · obtain ⟨split, -, ofKind⟩ := stringLiteral_eq_some isText
      exact ⟨split, ofKind⟩
  | unsigned => exact wholeNumber_eq_some matched
  | decimal => exact decimalNumber_eq_some matched

theorem dropName_eq_some {name : List Char} (dropped : dropName name cs = some rest) :
    cs = name ++ rest := by
  fun_induction dropName name cs with
  | case1 cs => simpa using dropped
  | case2 => cases dropped
  | case3 n ns cs ih => rw [ih dropped, List.cons_append]
  | case4 => cases dropped

theorem matchHere_eq_some {name : List Char} {kind : FieldKind} {before : Option Char}
    (matched : matchHere name kind before cs = some (capture, rest)) :
    ∃ behind value, cs = name ++ behind ∧ dropBlanks behind = ':' :: value ∧
      matchValue kind (dropBlanks value) = some (capture, rest) := by
  rw [matchHere] at matched
  split at matched
  · cases matched
  · rename_i behind dropped
    split at matched
    · split at matched
      · rename_i value colon
        exact ⟨behind, value, dropName_eq_some dropped, colon, matched⟩
      · cases matched
    · cases matched

theorem exists_append_of_matchHere {name : List Char} {kind : FieldKind} {before : Option Char}
    (matched : matchHere name kind before cs = some (capture, rest)) :
    ∃ read, cs = name ++ (read ++ rest) := by
  obtain ⟨behind, value, split, colon, found⟩ := matchHere_eq_some matched
  have inValue : rest <:+ dropBlanks value := ⟨capture.written, (matchValue_eq_some found).1.symm⟩
  have inColon : dropBlanks value <:+ value := List.dropWhile_suffix _
  have inBehind : ':' :: value <:+ behind := colon ▸ List.dropWhile_suffix _
  obtain ⟨read, taken⟩ := (inValue.trans inColon).trans
    ((List.suffix_cons ':' value).trans inBehind)
  exact ⟨read, by rw [split, taken]⟩

theorem exists_matchHere_of_search {name : List Char} {kind : FieldKind} {before : Option Char}
    {found : Capture × List Char} (matched : search name kind before cs = some found) :
    ∃ front before' back, cs = front ++ back ∧ matchHere name kind before' back = some found := by
  induction cs generalizing before with
  | nil => exact ⟨[], before, [], rfl, matched⟩
  | cons c cs ih =>
    rw [search, Option.or_eq_some_iff] at matched
    rcases matched with first | ⟨-, later⟩
    · exact ⟨[], before, c :: cs, rfl, first⟩
    · obtain ⟨front, before', back, rfl, here⟩ := ih later
      exact ⟨c :: front, before', back, rfl, here⟩

theorem suffix_of_search {name : List Char} {kind : FieldKind} {before : Option Char}
    (matched : search name kind before cs = some (capture, rest)) : rest <:+ cs := by
  obtain ⟨front, _, back, rfl, here⟩ := exists_matchHere_of_search matched
  obtain ⟨read, rfl⟩ := exists_append_of_matchHere here
  exact ⟨front ++ (name ++ read), by simp⟩

theorem isOfKind_of_search {name : List Char} {kind : FieldKind} {before : Option Char}
    (matched : search name kind before cs = some (capture, rest)) : capture.isOfKind kind := by
  obtain ⟨_, _, _, -, here⟩ := exists_matchHere_of_search matched
  obtain ⟨_, _, -, -, value⟩ := matchHere_eq_some here
  exact (matchValue_eq_some value).2

end Field

def Field.Has (f : Field) (v : String × FieldValue) : Prop := v.1 = f.name ∧ v.2.isOfKind f.kind

theorem BlockPattern.has_of_matchFields {fields : List Field} {before : Option Char}
    {cs : List Char} {values : Values} (matched : matchFields fields before cs = some values) :
    List.Forall₂ Field.Has fields values := by
  induction fields generalizing before cs values with
  | nil =>
    cases matched
    exact .nil
  | cons f fields ih =>
    simp only [matchFields, Option.bind_eq_bind, Option.bind_eq_some_iff] at matched
    obtain ⟨⟨capture, rest⟩, found, value, read, later, others, result⟩ := matched
    cases result
    have ofKind := Field.isOfKind_of_search found
    exact .cons ⟨rfl, Field.Capture.isOfKind_value ofKind read⟩ (ih others)

theorem Extraction.matchText_of_mem {p : BlockPattern} {bs : List Block} {b : MatchedBlock}
    (member : b ∈ (ofBlocks p bs).blocks) :
    b.block ∈ bs ∧ p.matchText b.block.text = some b.values := by
  rw [blocks_eq] at member
  obtain ⟨block, isBlock, found⟩ := List.mem_filterMap.mp member
  obtain ⟨values, matched, rfl⟩ := Option.map_eq_some_iff.mp found
  exact ⟨isBlock, matched⟩

theorem Extraction.has_of_mem {p : BlockPattern} {bs : List Block} {b : MatchedBlock}
    (member : b ∈ (ofBlocks p bs).blocks) : List.Forall₂ Field.Has p.fields b.values :=
  BlockPattern.has_of_matchFields (matchText_of_mem member).2

namespace FieldValue

variable {v : FieldValue}

theorem exists_text (isText : v.isOfKind .text) : ∃ s, v.text? = some s := by
  cases v with
  | text s => exact ⟨s, rfl⟩
  | null | unsigned n | decimal x => cases isText

theorem exists_nullable (isNullable : v.isOfKind .nullable) : ∃ s, v.nullable? = some s := by
  cases v with
  | text s => exact ⟨some s, rfl⟩
  | null => exact ⟨none, rfl⟩
  | unsigned n | decimal x => cases isNullable

theorem exists_unsigned (isUnsigned : v.isOfKind .unsigned) : ∃ n, v.unsigned? = some n := by
  cases v with
  | unsigned n => exact ⟨n, rfl⟩
  | text s | null | decimal x => cases isUnsigned

theorem exists_decimal (isDecimal : v.isOfKind .decimal) : ∃ x, v.decimal? = some x := by
  cases v with
  | decimal x => exact ⟨x, rfl⟩
  | text s | null | unsigned n => cases isDecimal

end FieldValue

namespace MatchedBlock

variable {fields : List Field} {b : MatchedBlock}

theorem get?_of_has (has : List.Forall₂ Field.Has fields b.values) (name : String) {f : Field}
    (found : fields.find? (·.name = name) = some f) :
    ∃ v, b.get? name = some v ∧ v.isOfKind f.kind := by
  obtain ⟨block, values⟩ := b
  simp only [get?] at has ⊢
  induction has with
  | nil => cases found
  | @cons g v fields values same _ ih =>
    by_cases here : g.name = name
    · obtain rfl : g = f := by simpa [here] using found
      exact ⟨v.2, by simp [same.1, here], same.2⟩
    · have there : v.1 ≠ name := by rwa [same.1]
      rw [List.find?_cons_of_neg (by simpa using here)] at found
      rw [List.find?_cons_of_neg (by simpa using there)]
      exact ih found

theorem text?_of_has (has : List.Forall₂ Field.Has fields b.values) (name : String)
    (found : fields.find? (·.name = name) = some ⟨name, .text⟩) :
    ∃ s, b.text? name = some s := by
  obtain ⟨v, value, isText⟩ := get?_of_has has name found
  rw [text?, value, Option.bind_some]
  exact FieldValue.exists_text isText

end MatchedBlock

end MockData
