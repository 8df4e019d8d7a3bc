import MockData.Block.Pattern
import MockData.Proofs.Lexing

/-!
Where the search for a field ends: it passes over every place at which the first letter of the
name does not stand, and takes the name, the colon and the value that it meets, whatever blanks
are between them.
-/
namespace MockData.Script

open Text MockData.Field

def isIdentifier (name : String) : Bool :=
  match name.toList with
  | [] => false
  | c :: cs => isAsciiWord c && !isAsciiDigit c && cs.all isAsciiWord

theorem isAsciiWord_of_isIdentifier {name : String} (identifier : isIdentifier name) :
    name.toList ≠ [] ∧ ∀ c ∈ name.toList, isAsciiWord c := by
  rw [isIdentifier] at identifier
  split at identifier
  · contradiction
  · rename_i c cs letters
    simp only [Bool.and_eq_true, List.all_eq_true] at identifier
    rw [letters]
    exact ⟨by simp, by simpa using ⟨identifier.1.1, identifier.2⟩⟩

theorem toNat_lt_of_isAsciiWord {c : Char} (word : isAsciiWord c) : c.toNat < 0x80 := by
  simp only [isAsciiWord, Bool.or_eq_true, Bool.and_eq_true, decide_eq_true_eq, beq_iff_eq,
    Char.le_def, UInt32.le_iff_toNat_le] at word
  rcases word with ((word | word) | word) | rfl
  · exact Nat.lt_of_le_of_lt word.2 (by decide)
  · exact Nat.lt_of_le_of_lt word.2 (by decide)
  · exact Nat.lt_of_le_of_lt word.2 (by decide)
  · decide

theorem isWord_of_isAsciiWord {c : Char} (word : isAsciiWord c) : isWord c := by
  rw [isWord, if_pos (toNat_lt_of_isAsciiWord word), word]

theorem exists_letter_of_isIdentifier {name : String} (identifier : isIdentifier name) :
    ∃ c cs, name.toList = c :: cs ∧ isWord c ∧ isDigit c = false := by
  rw [isIdentifier] at identifier
  split at identifier
  · contradiction
  · rename_i c cs letters
    simp only [Bool.and_eq_true, Bool.not_eq_true'] at identifier
    have small := toNat_lt_of_isAsciiWord identifier.1.1
    refine ⟨c, cs, letters, isWord_of_isAsciiWord identifier.1.1, ?_⟩
    simp [isDigit, identifier.1.2, Nat.not_le.mpr small]

theorem isPlain_of_isAsciiWord {c : Char} (word : isAsciiWord c) : isPlain c :=
  isPlain_of_class (by decide) word

theorem isName_of_isIdentifier {name : String} (identifier : isIdentifier name) : isName name :=
  List.all_eq_true.mpr fun c member =>
    isPlain_of_isAsciiWord ((isAsciiWord_of_isIdentifier identifier).2 c member)

/-- A character that goes on no word and no number. -/
structure Ends (c : Char) : Prop where
  word : isWord c = false
  digit : isDigit c = false
  point : c ≠ '.'

instance (c : Char) : Decidable (Ends c) :=
  decidable_of_iff (isWord c = false ∧ isDigit c = false ∧ c ≠ '.')
    ⟨fun h => ⟨h.1, h.2.1, h.2.2⟩, fun h => ⟨h.word, h.digit, h.point⟩⟩

/-- A field of a kind takes the whole text, up to any character that ends it, for a value. -/
def Reads (kind : FieldKind) (text : List Char) (value : FieldValue) : Prop :=
  ∀ c cs, Ends c → ∃ capture, capture.value? = some value ∧
    matchValue kind (dropBlanks (text ++ c :: cs)) = some (capture, c :: cs)

theorem dropBlanks_append {blanks : List Char} (allBlank : ∀ c ∈ blanks, isBlank c)
    (cs : List Char) : dropBlanks (blanks ++ cs) = dropBlanks cs :=
  List.dropWhile_append_of_pos allBlank

theorem dropBlanks_cons {c : Char} (full : isBlank c = false) (cs : List Char) :
    dropBlanks (c :: cs) = c :: cs := by simp [dropBlanks, full]

theorem exists_blanks {cs ds : List Char} (dropped : dropBlanks cs = ds) :
    ∃ blanks, cs = blanks ++ ds ∧ ∀ c ∈ blanks, isBlank c := by
  refine ⟨cs.takeWhile isBlank, ?_, List.all_eq_true.mp List.all_takeWhile⟩
  rw [← dropped, dropBlanks, List.takeWhile_append_dropWhile]

theorem search_skip {name : List Char} {kind : FieldKind} {before : Option Char} {gap : List Char}
    {last : Char} (nonempty : name ≠ []) (apart : ∀ c ∈ gap ++ [last], name.head? ≠ some c)
    (cs : List Char) :
    search name kind before (gap ++ last :: cs) = search name kind (some last) cs := by
  have here : ∀ g before ds, name.head? ≠ some g → matchHere name kind before (g :: ds) = none := by
    intro g before ds other
    cases name with
    | nil => contradiction
    | cons n ns =>
      have differs : n ≠ g := by simpa using other
      simp [matchHere, dropName, differs]
  induction gap generalizing before with
  | nil => rw [List.nil_append, search, here last _ _ (apart last (by simp)), Option.none_or]
  | cons g gap ih =>
    rw [List.cons_append, search, here g _ _ (apart g (by simp)), Option.none_or]
    exact ih fun c member => apart c (List.mem_cons_of_mem g member)

theorem dropName_append (name cs : List Char) : dropName name (name ++ cs) = some cs := by
  induction name with
  | nil => rfl
  | cons n ns ih => simp [dropName, ih]

theorem matchHere_append {name blanks cs : List Char} {before : Option Char}
    (starts : isBoundary before (name ++ (blanks ++ ':' :: cs)).head?) (kind : FieldKind)
    (allBlank : ∀ c ∈ blanks, isBlank c) :
    matchHere name kind before (name ++ (blanks ++ ':' :: cs)) =
      matchValue kind (dropBlanks cs) := by
  have colon : dropBlanks (blanks ++ ':' :: cs) = ':' :: cs := by
    rw [dropBlanks_append allBlank, dropBlanks_cons rfl]
  simp only [matchHere, dropName_append, starts, colon, ↓reduceIte]

theorem matchHere_name {name : String} (identifier : isIdentifier name) {before : Option Char}
    (apart : before.any isWord = false) (kind : FieldKind) {blanks : List Char}
    (allBlank : ∀ c ∈ blanks, isBlank c) (cs : List Char) :
    matchHere name.toList kind before (name.toList ++ (blanks ++ ':' :: cs)) =
      matchValue kind (dropBlanks cs) := by
  obtain ⟨nonempty, words⟩ := isAsciiWord_of_isIdentifier identifier
  have boundary : isBoundary before (name.toList ++ (blanks ++ ':' :: cs)).head? := by
    cases letters : name.toList with
    | nil => contradiction
    | cons n ns =>
      have word : isWord n := isWord_of_isAsciiWord (words n (by simp [letters]))
      simp [isBoundary, apart, word]
  exact matchHere_append boundary kind allBlank

theorem search_of_matchHere {name : List Char} {kind : FieldKind} {before : Option Char}
    {cs : List Char} {found : Capture × List Char}
    (here : matchHere name kind before cs = some found) :
    search name kind before cs = some found := by
  cases cs with
  | nil => exact here
  | cons c cs => rw [search, here, Option.some_or]

/-- At no place of a gap, read with what stands behind it, the field can be taken. -/
def Misses (name : List Char) (kind : FieldKind) (before : Option Char) (gap tail : List Char) :
    Prop :=
  ∀ front back, gap = front ++ back → back ≠ [] →
    matchHere name kind (front.getLast?.or before) (back ++ tail) = none

theorem misses_nil {name : List Char} {kind : FieldKind} {before : Option Char}
    {tail : List Char} : Misses name kind before [] tail := by
  intro front back split nonempty
  exact absurd (List.append_eq_nil_iff.mp split.symm).2 nonempty

theorem misses_cons_iff {name : List Char} {kind : FieldKind} {before : Option Char} {c : Char}
    {gap tail : List Char} : Misses name kind before (c :: gap) tail ↔
      matchHere name kind before (c :: (gap ++ tail)) = none ∧
        Misses name kind (some c) gap tail := by
  constructor
  · intro misses
    refine ⟨misses [] (c :: gap) rfl (List.cons_ne_nil c gap), ?_⟩
    intro front back split nonempty
    have later := misses (c :: front) back (by rw [split, List.cons_append]) nonempty
    rwa [List.getLast?_cons, Option.some_or, ← Option.or_some] at later
  · rintro ⟨here, later⟩ front back split nonempty
    cases front with
    | nil =>
      obtain rfl : c :: gap = back := split
      exact here
    | cons d front =>
      obtain ⟨rfl, rfl⟩ := List.cons.inj split
      rw [List.getLast?_cons, Option.some_or, ← Option.or_some]
      exact later front back rfl nonempty

theorem search_of_misses {name : List Char} {kind : FieldKind} {before : Option Char}
    {gap tail : List Char} (misses : Misses name kind before gap tail) :
    search name kind before (gap ++ tail) = search name kind (gap.getLast?.or before) tail := by
  induction gap generalizing before with
  | nil => rfl
  | cons c gap ih =>
    obtain ⟨here, later⟩ := misses_cons_iff.mp misses
    rw [List.cons_append, search, here, Option.none_or, ih later, List.getLast?_cons,
      Option.some_or, ← Option.or_some]

theorem exists_misses_of_search {name : List Char} {kind : FieldKind} {before : Option Char}
    {cs : List Char} {found : Capture × List Char}
    (matched : search name kind before cs = some found) :
    ∃ gap tail, cs = gap ++ tail ∧ Misses name kind before gap tail ∧
      matchHere name kind (gap.getLast?.or before) tail = some found := by
  induction cs generalizing before with
  | nil => exact ⟨[], [], rfl, misses_nil, matched⟩
  | cons c cs ih =>
    rw [search, Option.or_eq_some_iff] at matched
    rcases matched with here | ⟨nowhere, later⟩
    · exact ⟨[], c :: cs, rfl, misses_nil, here⟩
    · obtain ⟨gap, tail, rfl, misses, there⟩ := ih later
      refine ⟨c :: gap, tail, rfl, misses_cons_iff.mpr ⟨nowhere, misses⟩, ?_⟩
      rwa [List.getLast?_cons, Option.some_or, ← Option.or_some]

theorem matchHere_of_search_eq_none {name : List Char} {kind : FieldKind} {before : Option Char}
    {front back : List Char} (nowhere : search name kind before (front ++ back) = none) :
    matchHere name kind (front.getLast?.or before) back = none := by
  induction front generalizing before with
  | nil =>
    cases back with
    | nil => exact nowhere
    | cons c back => exact (Option.or_eq_none_iff.mp nowhere).1
  | cons c front ih =>
    rw [List.getLast?_cons, Option.some_or, ← Option.or_some]
    exact ih (Option.or_eq_none_iff.mp nowhere).2

theorem search_gap {name : String} (identifier : isIdentifier name) {gap : List Char}
    (nonempty : gap ≠ []) (apart : ∀ c ∈ gap, isWord c = false) (kind : FieldKind)
    (before : Option Char) (cs : List Char) : ∃ last, (some last).any isWord = false ∧
      search name.toList kind before (gap ++ cs) = search name.toList kind (some last) cs := by
  obtain ⟨named, words⟩ := isAsciiWord_of_isIdentifier identifier
  obtain ⟨gap, last, rfl⟩ : ∃ front last, gap = front ++ [last] :=
    ⟨gap.dropLast, gap.getLast nonempty, (List.dropLast_concat_getLast nonempty).symm⟩
  have other : ∀ d ∈ gap ++ [last], name.toList.head? ≠ some d := by
    intro d member head
    have word := isWord_of_isAsciiWord (words d (List.mem_of_head? head))
    rw [apart d member] at word
    cases word
  exact ⟨last, apart last (by simp), by
    rw [List.append_assoc, List.singleton_append, search_skip named other]⟩

theorem search_named {name : String} (identifier : isIdentifier name) {kind : FieldKind}
    {text : List Char} {value : FieldValue} (reads : Reads kind text value) {gap : List Char}
    (nonempty : gap ≠ []) (apart : ∀ c ∈ gap, isWord c = false) {blanks blanks' : List Char}
    (allBlank : ∀ c ∈ blanks, isBlank c) (allBlank' : ∀ c ∈ blanks', isBlank c)
    (before : Option Char) {c : Char} (ends : Ends c) (cs : List Char) :
    ∃ capture, search name.toList kind before
      (gap ++ (name.toList ++ (blanks ++ ':' :: (blanks' ++ (text ++ c :: cs))))) =
        some (capture, c :: cs) ∧ capture.value? = some value := by
  obtain ⟨capture, isValue, taken⟩ := reads c cs ends
  obtain ⟨last, spaced, passed⟩ := search_gap identifier nonempty apart kind before
    (name.toList ++ (blanks ++ ':' :: (blanks' ++ (text ++ c :: cs))))
  have found := matchHere_name identifier spaced kind allBlank (blanks' ++ (text ++ c :: cs))
  rw [dropBlanks_append allBlank', taken] at found
  exact ⟨capture, by rw [passed, search_of_matchHere found], isValue⟩

theorem search_unnamed {name : String} (identifier : isIdentifier name) {kind : FieldKind}
    {cs : List Char} (notValue : matchValue kind (dropBlanks cs) = none) {gap : List Char}
    (nonempty : gap ≠ []) (apart : ∀ c ∈ gap, isWord c = false) (before : Option Char) :
    ∃ c letters, name.toList = c :: letters ∧
      search name.toList kind before (gap ++ (name.toList ++ ':' :: cs)) =
        search name.toList kind (some c) (letters ++ ':' :: cs) := by
  obtain ⟨last, spaced, passed⟩ := search_gap identifier nonempty apart kind before
    (name.toList ++ ':' :: cs)
  have noBlank : ∀ c ∈ ([] : List Char), isBlank c := by simp
  have here := matchHere_name identifier spaced kind noBlank cs
  rw [notValue, List.nil_append] at here
  cases letters : name.toList with
  | nil => exact absurd letters (isAsciiWord_of_isIdentifier identifier).1
  | cons c letters' =>
    rw [letters] at passed here
    refine ⟨c, letters', rfl, ?_⟩
    rw [passed, List.cons_append, search, ← List.cons_append, here, Option.none_or]

theorem matchFields_cons {f : Field} {before : Option Char} {cs rest : List Char}
    {capture : Capture} {value : FieldValue}
    (found : search f.name.toList f.kind before cs = some (capture, rest))
    (isValue : capture.value? = some value) (fields : List Field) :
    BlockPattern.matchFields (f :: fields) before cs =
      (BlockPattern.matchFields fields capture.last? rest).map ((f.name, value) :: ·) := by
  rw [BlockPattern.matchFields, found]
  simp only [Option.bind_eq_bind, Option.bind_some, isValue]
  cases BlockPattern.matchFields fields capture.last? rest with
  | none => rfl
  | some values => rfl

end MockData.Script
