import MockData.Proofs.Records

/-!
Modules: what a scan and a pattern find in the text of one. The blocks are the records, in their
order, and those of the helpers behind them.
-/
namespace MockData

open Script

namespace Extraction

theorem blocks_ofBlocks (p : BlockPattern) (bs : List Block) :
    (ofBlocks p bs).blocks.map (fun b => (b.block.text, b.values)) =
      (bs.map Block.text).filterMap fun t => (p.matchText t).map (t, ·) := by
  rw [blocks_eq, List.map_filterMap, List.filterMap_map]
  refine List.filterMap_congr fun b _ => ?_
  rw [found?, Option.map_map]
  rfl

theorem skipped_ofBlocks (p : BlockPattern) (bs : List Block) :
    (ofBlocks p bs).skipped = (bs.map Block.text).countP fun t => (p.matchText t).isNone := by
  induction bs with
  | nil => rfl
  | cons b bs ih =>
    have step : ofBlocks p (b :: bs) = add p b (ofBlocks p bs) := rfl
    cases found : p.matchText b.text with
    | some values => simp [step, add, found, ih]
    | none => simp [step, add, found, ih]

theorem ofText_eq (p : BlockPattern) (text : String) :
    (ofText p text).blocks.map (·.values) = (Block.texts text.toList).filterMap p.matchText ∧
      (ofText p text).skipped =
        (Block.texts text.toList).countP fun t => (p.matchText t).isNone := by
  refine ⟨?_, skipped_ofBlocks p (Block.scan text.toList)⟩
  have pairs := congrArg (List.map Prod.snd) (blocks_ofBlocks p (Block.scan text.toList))
  simp only [List.map_map, List.map_filterMap, Option.map_map, Function.comp_def,
    Option.map_id'] at pairs
  exact pairs

end Extraction

theorem BlockPattern.filterMap_matchText {p : BlockPattern} {items : List α}
    {block : α → List Char} {values : α → Values}
    (matched : ∀ a ∈ items, p.matchText (block a) = some (values a)) :
    (items.map block).filterMap p.matchText = items.map values ∧
      (items.map block).countP (fun t => (p.matchText t).isNone) = 0 := by
  constructor
  · have each : ∀ a ∈ items, (p.matchText ∘ block) a = (some ∘ values) a := matched
    rw [List.filterMap_map, List.filterMap_congr each]
    exact congrFun List.filterMap_eq_map items
  · refine List.countP_eq_zero.mpr fun t member => ?_
    obtain ⟨a, isItem, rfl⟩ := List.mem_map.mp member
    simp [matched a isItem]

theorem MatchedBlock.filterMap_of_values {bs : List MatchedBlock} {items : List α}
    {values : α → Values} {ofBlock? : MatchedBlock → Option β} {result : α → β}
    (each : ∀ b a, b.values = values a → ofBlock? b = some (result a))
    (same : bs.map (·.values) = items.map values) : bs.filterMap ofBlock? = items.map result := by
  induction bs generalizing items with
  | nil => rw [List.map_eq_nil_iff.mp same.symm]; rfl
  | cons b bs ih =>
    cases items with
    | nil => cases same
    | cons a items =>
      obtain ⟨first, later⟩ := List.cons.inj same
      rw [List.filterMap_cons, each b a first, ih later, List.map_cons]

namespace Script.Layout

def front (layout : Layout) : String :=
  comment layout.header ++ "\n" ++ "export const " ++ layout.list ++ " = [\n"

def back (layout : Layout) : String :=
  "];\n\n" ++ comment [layout.title] ++ String.join (layout.helpers.map layout.helper)
    ++ "export default " ++ layout.list ++ ";\n"

theorem text_eq (layout : Layout) (records : List Entries) :
    layout.text records =
      layout.front ++ lines (commas (records.map record)) ++ layout.back := by
  simp [text, front, back, String.append_assoc]

theorem texts_text {layout : Layout} (passes : Passes layout.front.toList)
    {records : List Entries} (identifiers : ∀ r ∈ records, ∀ e ∈ r, isIdentifier e.1) :
    Block.texts (layout.text records).toList =
      records.map recordBlock ++ Block.texts layout.back.toList := by
  have names : ∀ r ∈ records, ∀ e ∈ r, isName e.1 := fun r member e isEntry =>
    isName_of_isIdentifier (identifiers r member e isEntry)
  rw [text_eq, String.toList_append, String.toList_append, List.append_assoc,
    Block.texts_passes passes, texts_records names]

/-- A layout in which a pattern finds nothing but records: no block stands in front of these, and
none of the `n` behind them matches. -/
structure Surrounds (layout : Layout) (p : BlockPattern) (n : Nat) : Prop where
  front : Passes layout.front.toList
  back : (Block.texts layout.back.toList).map (fun t => (p.matchText t).isNone) =
    List.replicate n true

theorem Surrounds.length_back {layout : Layout} {p : BlockPattern} {n : Nat}
    (surrounds : Surrounds layout p n) : (Block.texts layout.back.toList).length = n := by
  simpa using congrArg List.length surrounds.back

theorem Surrounds.matchText_back {layout : Layout} {p : BlockPattern} {n : Nat}
    (surrounds : Surrounds layout p n) :
    ∀ t ∈ Block.texts layout.back.toList, p.matchText t = none := by
  intro t member
  have outcome := List.mem_map_of_mem (f := fun t => (p.matchText t).isNone) member
  rw [surrounds.back] at outcome
  simpa using List.eq_of_mem_replicate outcome

theorem Surrounds.countP_back {layout : Layout} {p : BlockPattern} {n : Nat}
    (surrounds : Surrounds layout p n) :
    (Block.texts layout.back.toList).countP (fun t => (p.matchText t).isNone) = n := by
  rw [← surrounds.length_back]
  exact List.countP_eq_length.mpr fun t member => by simp [surrounds.matchText_back t member]

theorem ofText_text {layout : Layout} {p : BlockPattern} {n : Nat}
    (surrounds : Surrounds layout p n) {records : List Entries}
    (fits : ∀ r ∈ records, List.Forall₂ Fits r p.fields) :
    (Extraction.ofText p (layout.text records)).blocks.map (·.values) =
        records.map (fun r => r.map fun e => (e.1, e.2.value)) ∧
      (Extraction.ofText p (layout.text records)).skipped = n := by
  have blocks := texts_text surrounds.front fun r member => isIdentifier_of_fits (fits r member)
  obtain ⟨values, own⟩ := BlockPattern.filterMap_matchText fun r isRecord =>
    matchText_recordBlock (fits r isRecord)
  obtain ⟨found, skipped⟩ := Extraction.ofText_eq p (layout.text records)
  constructor
  · rw [found, blocks, List.filterMap_append, values,
      List.filterMap_eq_nil_iff.mpr surrounds.matchText_back, List.append_nil]
  · rw [skipped, blocks, List.countP_append, own, Nat.zero_add, surrounds.countP_back]

end Script.Layout

end MockData
