import MockData.Proofs.Kinds
import MockData.Proofs.Spans

/-!
Where in a text the values of a block come from. The search for a field does not lex, so a name
inside a literal or a comment passes for a field: values come from the code exactly where a search
that is confined to the code finds the same.
-/
namespace MockData

open Script Text

namespace Script

/-- Whether the next character belongs to the code: neither does it stand in a literal or a
comment, nor does it open one. -/
def Mode.reads (m : Mode) : List Char → Bool
  | [] => false
  | c :: cs => m.isCode && !isQuote c && !(m == .slash && (c == '/' || c == '*')) &&
      !(c == '/' && (cs.head? == some '/' || cs.head? == some '*'))

theorem Mode.reads_brace {m : Mode} (code : m.isCode) {cs : List Char} : m.reads ('{' :: cs) := by
  simp [reads, code, isQuote]

def inCode (text before : List Char) : Bool :=
  (Mode.code.run before).reads (text.drop before.length)

theorem inCode_append (before tail : List Char) :
    inCode (before ++ tail) before = (Mode.code.run before).reads tail := by
  rw [inCode, List.drop_left]

end Script

namespace Field

/-- Searches among the places that `admits` allows; `seen` is what stands before in the block. -/
def searchAt (admits : List Char → List Char → Bool) (name : List Char) (kind : FieldKind) :
    (seen : List Char) → (before : Option Char) → List Char →
      Option (List Char × Capture × List Char)
  | _, _, [] => none
  | seen, before, c :: cs =>
    (if admits seen (c :: cs) then (matchHere name kind before (c :: cs)).map (seen, ·)
      else none).or (searchAt admits name kind (seen ++ [c]) (some c) cs)

theorem matchHere_nil (name : List Char) (kind : FieldKind) (before : Option Char) :
    matchHere name kind before [] = none := by
  rw [matchHere]
  cases name with
  | nil =>
    simp only [dropName, dropBlanks, List.dropWhile_nil]
    split
    · rfl
    · rfl
  | cons n ns => rfl

theorem search_eq (name : List Char) (kind : FieldKind) (seen : List Char) (before : Option Char)
    (cs : List Char) :
    search name kind before cs =
      (searchAt (fun _ _ => true) name kind seen before cs).map (·.2) := by
  induction cs generalizing seen before with
  | nil => rw [search, matchHere_nil, searchAt, Option.map_none]
  | cons c cs ih =>
    rw [search, searchAt, ih (seen ++ [c])]
    cases matchHere name kind before (c :: cs) with
    | none => simp
    | some found => simp

variable {admits : List Char → List Char → Bool} {name : List Char} {kind : FieldKind}
  {seen : List Char} {before : Option Char} {cs front rest : List Char} {capture : Capture}

theorem searchAt_eq_some
    (found : searchAt admits name kind seen before cs = some (front, capture, rest)) :
    ∃ read, seen ++ cs = front ++ (name ++ (read ++ rest)) ∧
      name ++ (read ++ rest) ≠ [] ∧ admits front (name ++ (read ++ rest)) := by
  induction cs generalizing seen before with
  | nil => cases found
  | cons c cs ih =>
    rw [searchAt, Option.or_eq_some_iff] at found
    rcases found with here | ⟨-, later⟩
    · split at here
      · rename_i admitted
        obtain ⟨⟨capture', rest'⟩, matched, same⟩ := Option.map_eq_some_iff.mp here
        cases same
        obtain ⟨read, split⟩ := exists_append_of_matchHere matched
        have nonempty := List.cons_ne_nil c cs
        rw [split] at admitted nonempty ⊢
        exact ⟨read, rfl, nonempty, admitted⟩
      · cases here
    · obtain ⟨read, split, nonempty, admitted⟩ := ih later
      exact ⟨read, by rw [← split, List.append_assoc, List.singleton_append], nonempty, admitted⟩

theorem searchAt_of_admits {tail : List Char}
    (found : searchAt (fun _ _ => true) name kind seen before cs = some (front, capture, rest))
    (split : seen ++ cs = front ++ tail) (admitted : admits front tail) :
    searchAt admits name kind seen before cs = some (front, capture, rest) := by
  induction cs generalizing seen before with
  | nil => cases found
  | cons c cs ih =>
    rw [searchAt] at found ⊢
    cases here : matchHere name kind before (c :: cs) with
    | some match' =>
      obtain ⟨rfl, same⟩ : seen = front ∧ match' = (capture, rest) := by
        simpa [here] using found
      obtain rfl : c :: cs = tail := List.append_cancel_left split
      simp [admitted, same]
    | none =>
      have later : searchAt (fun _ _ => true) name kind (seen ++ [c]) (some c) cs =
          some (front, capture, rest) := by simpa [here] using found
      have found' := ih later (by simpa using split)
      simp [found']

end Field

structure Place where
  before : List Char
  name : String
  value : FieldValue

namespace BlockPattern

def placesFrom (admits : List Char → List Char → Bool) :
    List Field → (seen : List Char) → (before : Option Char) → List Char → Option (List Place)
  | [], _, _, _ => some []
  | f :: fs, seen, before, cs => do
    let (front, capture, rest) ← Field.searchAt admits f.name.toList f.kind seen before cs
    let value ← capture.value?
    let places ← placesFrom admits fs ((seen ++ cs).take ((seen ++ cs).length - rest.length))
      capture.last? rest
    return ⟨front, f.name, value⟩ :: places

def places (p : BlockPattern) (block : List Char) : Option (List Place) :=
  placesFrom (fun _ _ => true) p.fields [] none block

def codePlaces (p : BlockPattern) (block : List Char) : Option (List Place) :=
  placesFrom (fun seen rest => (Mode.code.run seen).reads rest) p.fields [] none block

theorem matchFields_eq (fields : List Field) (seen : List Char) (before : Option Char)
    (cs : List Char) : matchFields fields before cs =
      (placesFrom (fun _ _ => true) fields seen before cs).map
        (·.map fun place => (place.name, place.value)) := by
  induction fields generalizing seen before cs with
  | nil => rfl
  | cons f fields ih =>
    rw [matchFields, placesFrom, Field.search_eq _ _ seen]
    cases Field.searchAt (fun _ _ => true) f.name.toList f.kind seen before cs with
    | none => rfl
    | some found =>
      obtain ⟨front, capture, rest⟩ := found
      have later := ih ((seen ++ cs).take ((seen ++ cs).length - rest.length)) capture.last? rest
      cases value : capture.value? with
      | none => simp [value]
      | some v =>
        simp only [Option.map_some, Option.bind_eq_bind, Option.bind_some, value, later]
        cases placesFrom (fun _ _ => true) fields
            ((seen ++ cs).take ((seen ++ cs).length - rest.length)) capture.last? rest with
        | none => rfl
        | some places => rfl

theorem matchText_eq_places (p : BlockPattern) (block : List Char) :
    p.matchText block = (p.places block).map (·.map fun place => (place.name, place.value)) :=
  matchFields_eq p.fields [] none block

variable {admits : List Char → List Char → Bool} {fields : List Field} {seen : List Char}
  {before : Option Char} {cs : List Char} {places : List Place}

theorem take_append_rest {text front name read rest : List Char}
    (split : text = front ++ (name ++ (read ++ rest))) :
    text.take (text.length - rest.length) ++ rest = text := by
  have behind : text = (front ++ (name ++ read)) ++ rest := by simp [split]
  have size : text.length - rest.length = (front ++ (name ++ read)).length := by
    rw [behind, List.length_append]
    omega
  rw [size, behind, List.take_left]

theorem admits_of_mem (found : placesFrom admits fields seen before cs = some places) :
    ∀ place ∈ places, ∃ tail, seen ++ cs = place.before ++ (place.name.toList ++ tail) ∧
      place.name.toList ++ tail ≠ [] ∧ admits place.before (place.name.toList ++ tail) := by
  induction fields generalizing seen before cs places with
  | nil =>
    cases found
    intro place member
    cases member
  | cons f fields ih =>
    simp only [placesFrom, Option.bind_eq_bind, Option.bind_eq_some_iff] at found
    obtain ⟨⟨front, capture, rest⟩, first, value, read, later, others, result⟩ := found
    obtain ⟨behind, split, admitted⟩ := Field.searchAt_eq_some first
    cases result
    intro place member
    rcases List.mem_cons.mp member with rfl | member
    · exact ⟨behind ++ rest, split, admitted⟩
    · have text := take_append_rest split
      obtain ⟨tail, there, admitted'⟩ := ih others place member
      exact ⟨tail, by rw [← text, there], admitted'⟩

theorem placesFrom_of_admits
    (found : placesFrom (fun _ _ => true) fields seen before cs = some places)
    (admitted : ∀ place ∈ places, ∀ tail, seen ++ cs = place.before ++ tail →
      admits place.before tail) :
    placesFrom admits fields seen before cs = some places := by
  induction fields generalizing seen before cs places with
  | nil => exact found
  | cons f fields ih =>
    simp only [placesFrom, Option.bind_eq_bind, Option.bind_eq_some_iff] at found
    obtain ⟨⟨front, capture, rest⟩, first, value, read, later, others, result⟩ := found
    obtain ⟨behind, split, -, -⟩ := Field.searchAt_eq_some first
    cases result
    have same := Field.searchAt_of_admits first split
      (admitted ⟨front, f.name, value⟩ (by simp) _ split)
    have text := take_append_rest split
    have others' := ih others fun place member tail there =>
      admitted place (by simp [member]) tail (by rw [← text, there])
    simp only [placesFrom, same, Option.bind_eq_bind, Option.bind_some, read, others']
    rfl

theorem codePlaces_eq_iff {p : BlockPattern} {block : List Char}
    (found : p.places block = some places) :
    p.codePlaces block = some places ↔ ∀ place ∈ places, inCode block place.before := by
  constructor
  · intro same place member
    obtain ⟨tail, split, -, reads⟩ := admits_of_mem same place member
    rw [List.nil_append] at split
    rw [split, inCode_append, reads]
  · intro code
    refine placesFrom_of_admits found fun place member tail split => ?_
    have reads := code place member
    rw [List.nil_append] at split
    rwa [split, inCode_append] at reads

end BlockPattern

theorem inCode_block {front inner back before tail : List Char}
    (code : (Mode.code.run front).isCode) (split : '{' :: (inner ++ ['}']) = before ++ tail)
    (nonempty : tail ≠ []) :
    inCode (front ++ '{' :: (inner ++ '}' :: back)) (front ++ before) =
      inCode ('{' :: (inner ++ ['}'])) before := by
  have text : front ++ '{' :: (inner ++ '}' :: back) = (front ++ before) ++ (tail ++ back) := by
    rw [List.append_assoc, ← List.append_assoc before, ← split]
    simp
  rw [text, inCode_append, split, inCode_append]
  have modes :
      (Mode.code.run (front ++ before)).reads tail = (Mode.code.run before).reads tail := by
    cases before with
    | nil =>
      obtain rfl : '{' :: (inner ++ ['}']) = tail := split
      rw [List.append_nil, Mode.run_nil, Mode.reads_brace code, Mode.reads_brace rfl]
    | cons c before =>
      obtain rfl : '{' = c := (List.cons.inj split).1
      rw [Mode.run_append, Mode.run_cons, Mode.run_cons,
        Mode.next_of_isCode code (by decide) (by decide)]
  -- Beyond the next character only one more is looked at, and the last of a block is its brace.
  rw [← modes]
  match tail with
  | [] => exact absurd rfl nonempty
  | c :: d :: tail => rfl
  | [c] =>
    have split' : ('{' :: inner) ++ ['}'] = before ++ [c] := split
    obtain rfl : '}' = c := List.singleton_inj.mp (List.append_inj' split' rfl).2
    simp [Mode.reads, isQuote]

/-- Every value that is reported comes from a field in the code of the text. -/
def FromCode (p : BlockPattern) (text : String) : Prop :=
  ∀ b ∈ (Extraction.ofText p text).blocks, ∃ front rest places,
    splitBytes? b.block.start text.toList = some (front, rest) ∧
    p.places b.block.text = some places ∧
    b.values = places.map (fun place => (place.name, place.value)) ∧
    ∀ place ∈ places, inCode text.toList (front ++ place.before)

theorem exists_places {p : BlockPattern} {text : String} {b : MatchedBlock}
    (member : b ∈ (Extraction.ofText p text).blocks) : ∃ front rest places,
      splitBytes? b.block.start text.toList = some (front, rest) ∧
      p.places b.block.text = some places ∧
      b.values = places.map (fun place => (place.name, place.value)) ∧
      ∀ place ∈ places, inCode text.toList (front ++ place.before) =
        inCode b.block.text place.before := by
  obtain ⟨isBlock, matched⟩ := Extraction.matchText_of_mem member
  obtain ⟨front, inner, back, split, block, code⟩ := Block.exists_of_mem_scan isBlock
  rw [BlockPattern.matchText_eq_places, Option.map_eq_some_iff] at matched
  obtain ⟨places, found, values⟩ := matched
  refine ⟨front, '{' :: (inner ++ '}' :: back), places, ?_, found, values.symm, ?_⟩
  · rw [split, block]
    exact splitBytes?_byteSize front _
  · intro place isPlace
    obtain ⟨tail, there, nonempty, -⟩ := BlockPattern.admits_of_mem found place isPlace
    rw [block, List.nil_append] at there
    rw [split, block]
    exact inCode_block code there nonempty

theorem fromCode_iff (p : BlockPattern) (text : String) : FromCode p text ↔
    ∀ b ∈ (Extraction.ofText p text).blocks,
      p.codePlaces b.block.text = p.places b.block.text := by
  constructor
  · intro fromCode b member
    obtain ⟨front, rest, places, start, found, values, code⟩ := fromCode b member
    obtain ⟨front', rest', places', start', found', -, same⟩ := exists_places member
    obtain ⟨rfl, rfl⟩ : front = front' ∧ rest = rest' := by simpa [start] using start'
    obtain rfl : places = places' := Option.some.inj (found.symm.trans found')
    rw [found, BlockPattern.codePlaces_eq_iff found]
    intro place isPlace
    rw [← same place isPlace]
    exact code place isPlace
  · intro confined b member
    obtain ⟨front, rest, places, start, found, values, same⟩ := exists_places member
    refine ⟨front, rest, places, start, found, values, ?_⟩
    intro place isPlace
    rw [same place isPlace]
    exact (BlockPattern.codePlaces_eq_iff found).mp ((confined b member).trans found) place isPlace

def amountPattern : BlockPattern := ⟨[⟨"id", .text⟩, ⟨"amount", .unsigned⟩], by simp⟩

def noteText : String := "\x7b id: \"A1\", note: \"amount: 9\", amount: 3 \x7d"

theorem not_fromCode_note : (Extraction.ofText amountPattern noteText).blocks.map (·.values) =
    [[("id", .text "A1"), ("amount", .unsigned 9)]] ∧ ¬ FromCode amountPattern noteText := by
  have blocks : (Extraction.ofText amountPattern noteText).blocks =
      [⟨⟨0, noteText.toList⟩, [("id", .text "A1"), ("amount", .unsigned 9)]⟩] := by rfl
  refine ⟨by rw [blocks]; rfl, ?_⟩
  intro fromCode
  obtain ⟨front, rest, places, start, found, -, code⟩ := fromCode _ (blocks ▸ List.mem_cons_self)
  obtain rfl : [] = front := by simpa [splitBytes?] using congrArg (Option.map Prod.fst) start
  have known : amountPattern.places noteText.toList = some [
      ⟨"\x7b ".toList, "id", .text "A1"⟩,
      ⟨"\x7b id: \"A1\", note: \"".toList, "amount", .unsigned 9⟩] := by rfl
  obtain rfl := Option.some.inj (known.symm.trans found)
  have inNote : inCode noteText.toList "\x7b id: \"A1\", note: \"".toList = false := by decide
  have claimed := code ⟨"\x7b id: \"A1\", note: \"".toList, "amount", .unsigned 9⟩ (by simp)
  rw [List.nil_append, inNote] at claimed
  cases claimed

end MockData
