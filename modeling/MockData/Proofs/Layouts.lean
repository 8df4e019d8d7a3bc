import MockData.Proofs.Functions
import MockData.Proofs.Modules

/-!
Modules of any layout. Whatever the strings in its records and helpers say, none gets out of its
literal: the blocks of a module are its records, in their order, and one for every helper. A pattern
with the fields of a record finds its entries there, one behind the other.
-/
namespace MockData.Script

open Text Block

/-- The lexer is in a comment before a text, after it and all along it. -/
def StaysInside : Mode → List Char → Prop
  | m, [] => m = .blockComment ∨ m = .star
  | m, c :: cs => (m = .blockComment ∨ m = .star) ∧ StaysInside (m.next c) cs

namespace StaysInside

variable {m : Mode} {a b : List Char}

theorem quiet_run (inside : StaysInside m a) :
    m.isQuiet a ∧ (m.run a = .blockComment ∨ m.run a = .star) := by
  induction a generalizing m with
  | nil => exact ⟨rfl, inside⟩
  | cons c a ih =>
    obtain ⟨now, later⟩ := inside
    obtain ⟨quiet, run⟩ := ih later
    have noCode : m.isCode = false := by rcases now with rfl | rfl <;> rfl
    exact ⟨by simp [Mode.isQuiet, noCode, quiet], run⟩

theorem append (inside : StaysInside m a) (later : StaysInside (m.run a) b) :
    StaysInside m (a ++ b) := by
  induction a generalizing m with
  | nil => exact later
  | cons c a ih => exact ⟨inside.1, ih inside.2 later⟩

end StaysInside

theorem staysInside (cs : List Char) :
    (¬ ['*', '/'] <:+: cs → StaysInside .blockComment cs) ∧
      (¬ ['*', '/'] <:+: '*' :: cs → StaysInside .star cs) := by
  -- A star that has just been read may be half of an end, so both modes are taken together.
  induction cs with
  | nil => exact ⟨fun _ => .inl rfl, fun _ => .inr rfl⟩
  | cons c cs ih =>
    have fewer {d : Char} {ds : List Char} (unended : ¬ ['*', '/'] <:+: d :: ds) :
        ¬ ['*', '/'] <:+: ds := fun found => unended (found.trans (List.suffix_cons d ds).isInfix)
    constructor
    · intro unended
      refine ⟨.inl rfl, ?_⟩
      by_cases star : c = '*'
      · subst star
        exact ih.2 unended
      · have next : Mode.blockComment.next c = .blockComment := by simp [Mode.next, star]
        rw [next]
        exact ih.1 (fewer unended)
    · intro unended
      refine ⟨.inr rfl, ?_⟩
      have slash : c ≠ '/' := by
        rintro rfl
        exact unended ⟨[], cs, rfl⟩
      by_cases star : c = '*'
      · subst star
        exact ih.2 (fewer unended)
      · have next : Mode.star.next c = .blockComment := by simp [Mode.next, slash, star]
        rw [next]
        exact ih.1 (fewer (fewer unended))

def commentLines (ls : List String) : List Char := (lines (ls.map (" * " ++ ·))).toList

theorem toList_comment (ls : List String) :
    (Layout.comment ls).toList =
      ['/', '*', '*', '\n'] ++ (commentLines ls ++ [' ', '*', '/', '\n']) := by
  rw [Layout.comment, List.cons_append, toList_lines_cons, toList_lines_append, commentLines]
  rfl

theorem staysInside_commentLines {ls : List String}
    (unended : ∀ l ∈ ls, ¬ ['*', '/'] <:+: l.toList) :
    StaysInside .blockComment (commentLines ls) ∧
      Mode.blockComment.run (commentLines ls) = .blockComment := by
  induction ls with
  | nil => exact ⟨.inl rfl, rfl⟩
  | cons l ls ih =>
    obtain ⟨inside, run⟩ := ih fun t member => unended t (by simp [member])
    have insideL := (staysInside l.toList).1 (unended l (by simp))
    have margin : StaysInside .blockComment " * ".toList := by simp [StaysInside, Mode.next]
    have lineFeed : (Mode.blockComment.run l.toList).next '\n' = .blockComment := by
      rcases insideL.quiet_run.2 with last | last <;> rw [last] <;> rfl
    have text : commentLines (l :: ls) =
        " * ".toList ++ (l.toList ++ '\n' :: commentLines ls) := by
      simp [commentLines, lines]
    rw [text]
    constructor
    · refine margin.append (insideL.append ⟨insideL.quiet_run.2, ?_⟩)
      rw [lineFeed]
      exact inside
    · rw [Mode.run_append, Mode.run_append, Mode.run_cons]
      exact (congrArg (Mode.run · (commentLines ls)) lineFeed).trans run

theorem passes_comment {ls : List String} (unended : ∀ l ∈ ls, ¬ ['*', '/'] <:+: l.toList) :
    Passes (Layout.comment ls).toList := by
  obtain ⟨inside, run⟩ := staysInside_commentLines unended
  have opening : Mode.code.isQuiet ['/', '*', '*', '\n'] ∧
      Mode.code.run ['/', '*', '*', '\n'] = .blockComment := by decide
  have closing : Mode.blockComment.isQuiet [' ', '*', '/', '\n'] ∧
      Mode.blockComment.run [' ', '*', '/', '\n'] = .code := by decide
  rw [toList_comment]
  constructor
  · rw [Mode.isQuiet_append, Mode.isQuiet_append, opening.1, opening.2, inside.quiet_run.1, run,
      closing.1]
    rfl
  · rw [Mode.run_append, Mode.run_append, opening.2, run, closing.2]

theorem turns_record {r : Entries} (names : ∀ e ∈ r, isName e.1) :
    Turns (Layout.record r).toList false 1 false := by
  have margin : Passes [' ', ' '] := by decide
  have inside := Turns.of_passes (passes_recordInner names) true
  rw [toList_record]
  exact .around (a := [' ', ' ']) margin inside .nil false

theorem turns_records {records : List Entries} (names : ∀ r ∈ records, ∀ e ∈ r, isName e.1) :
    Turns (lines (commas (records.map Layout.record))).toList false records.length false := by
  induction records with
  | nil => exact .of_passes .nil false
  | cons r records ih =>
    have between := Turns.of_passes (passes_separator (records.map Layout.record)) false
    have later := ih fun s member => names s (by simp [member])
    rw [List.map_cons, lines_commas_cons, List.length_cons, ← Nat.zero_add records.length,
      Nat.add_comm]
    exact (turns_record (names r (by simp))).append (between.append later)

theorem turns_each {α : Type} {items : List α} {text : α → List Char}
    (each : ∀ i ∈ items, Turns (text i) false 1 false) :
    Turns (items.flatMap text) false items.length false := by
  induction items with
  | nil => exact .of_passes .nil false
  | cons i items ih =>
    rw [List.flatMap_cons, List.length_cons, Nat.add_comm]
    exact (each i (by simp)).append (ih fun j member => each j (by simp [member]))

namespace Layout

def names (layout : Layout) : List String :=
  layout.list :: layout.item :: layout.helpers.flatMap Helper.names

structure Proper (layout : Layout) : Prop where
  names : ∀ x ∈ layout.names, isName x
  comments : ∀ l ∈ layout.title :: layout.header, ¬ ['*', '/'] <:+: l.toList

def upTo (layout : Layout) (rs : List Entries) : List Char :=
  layout.front.toList ++ (rs.flatMap fun r => (record r).toList ++ [',', '\n']) ++ [' ', ' ']

def upToHelper (layout : Layout) (records : List Entries) (hs : List Helper) : List Char :=
  layout.front.toList ++ (lines (commas (records.map record))).toList ++ "];\n\n".toList ++
    (comment [layout.title]).toList ++ hs.flatMap fun h => (layout.helper h).toList

variable {layout : Layout} {records : List Entries}

theorem toList_helpers (layout : Layout) (hs : List Helper) :
    (String.join (hs.map layout.helper)).toList =
      hs.flatMap fun h => (layout.helper h).toList := by
  induction hs with
  | nil => rfl
  | cons h hs ih => simp [ih]

theorem exists_lines_commas (rs : List Entries) (r : Entries) (rs' : List Entries) :
    ∃ rest, (lines (commas ((rs ++ r :: rs').map record))).toList =
      (rs.flatMap fun r => (record r).toList ++ [',', '\n']) ++ ((record r).toList ++ rest) := by
  induction rs with
  | nil => exact ⟨_, by rw [List.nil_append, List.map_cons, lines_commas_cons]; rfl⟩
  | cons s rs ih =>
    obtain ⟨rest, later⟩ := ih
    have between : separator ((rs ++ r :: rs').map record) = [',', '\n'] := by simp [separator]
    refine ⟨rest, ?_⟩
    rw [List.cons_append, List.map_cons, lines_commas_cons, between, later, List.flatMap_cons]
    simp

theorem exists_upTo (layout : Layout) (rs : List Entries) (r : Entries) (rs' : List Entries) :
    ∃ rest, (layout.text (rs ++ r :: rs')).toList = layout.upTo rs ++ (recordBlock r ++ rest) := by
  obtain ⟨rest, later⟩ := exists_lines_commas rs r rs'
  refine ⟨rest ++ layout.back.toList, ?_⟩
  rw [text_eq, String.toList_append, String.toList_append, later, toList_record]
  simp [upTo]

theorem exists_upToHelper {hs hs' : List Helper} {h : Helper}
    (split : layout.helpers = hs ++ h :: hs') (records : List Entries) :
    ∃ rest, (layout.text records).toList =
      layout.upToHelper records hs ++ ((layout.helper h).toList ++ rest) := by
  refine ⟨(hs'.flatMap fun h => (layout.helper h).toList) ++
    ("export default " ++ layout.list ++ ";\n").toList, ?_⟩
  have helpers := toList_helpers layout (hs ++ h :: hs')
  rw [List.flatMap_append, List.flatMap_cons] at helpers
  rw [text_eq, back, split]
  simp only [String.toList_append, helpers, upToHelper, List.append_assoc]

section Proper

variable (proper : layout.Proper)
include proper

theorem Proper.isName_list : isName layout.list := proper.names _ (by simp [Layout.names])

theorem Proper.passes_front : Passes layout.front.toList := by
  have header : Passes (comment layout.header).toList :=
    passes_comment fun l member => proper.comments l (by simp [member])
  have list := Passes.of_isName proper.isName_list
  exact passes_append (passes_append (passes_append (passes_append header (by decide))
    (by decide)) list) (by decide)

theorem Proper.passes_title : Passes (comment [layout.title]).toList :=
  passes_comment fun l member => proper.comments l (by simp_all)

theorem Proper.turns_helper {h : Helper} (member : h ∈ layout.helpers) :
    Turns (layout.helper h).toList false 1 false := by
  have own : ∀ x ∈ layout.list :: layout.item :: h.names, isName x := by
    intro x isOwn
    refine proper.names x ?_
    simp only [List.mem_cons] at isOwn
    rcases isOwn with rfl | rfl | isOwn
    · simp [Layout.names]
    · simp [Layout.names]
    · exact .tail _ (.tail _ (List.mem_flatMap.mpr ⟨h, member, isOwn⟩))
  have lineFeed : Passes "\n".toList := by decide
  rw [helper, String.toList_append]
  exact (Helper.turns own false).append (.of_passes lineFeed false)

theorem Proper.turns_helpers {hs : List Helper} (members : ∀ h ∈ hs, h ∈ layout.helpers) :
    Turns (hs.flatMap fun h => (layout.helper h).toList) false hs.length false :=
  turns_each fun h member => proper.turns_helper (members h member)

theorem Proper.turns_upTo {rs : List Entries} (fields : ∀ r ∈ rs, ∀ e ∈ r, isName e.1) :
    Turns (layout.upTo rs) false rs.length false := by
  have comma : Passes [',', '\n'] := by decide
  have margin : Passes [' ', ' '] := by decide
  have written : Turns (rs.flatMap fun r => (record r).toList ++ [',', '\n']) false rs.length
      false := by
    apply turns_each
    intro r member
    exact (turns_record (fields r member)).append (.of_passes comma false)
  have whole := ((Turns.of_passes proper.passes_front false).append written).append
    (.of_passes margin false)
  rwa [Nat.zero_add] at whole

theorem Proper.turns_upToHelper {records : List Entries} {hs : List Helper}
    (fields : ∀ r ∈ records, ∀ e ∈ r, isName e.1) (members : ∀ h ∈ hs, h ∈ layout.helpers) :
    Turns (layout.upToHelper records hs) false (records.length + hs.length) false := by
  have ends : Passes "];\n\n".toList := by decide
  have whole := ((((Turns.of_passes proper.passes_front false).append
    (turns_records fields)).append (.of_passes ends false)).append
      (.of_passes proper.passes_title false)).append (proper.turns_helpers members)
  rwa [Nat.zero_add] at whole

theorem Proper.turns_text {records : List Entries}
    (fields : ∀ r ∈ records, ∀ e ∈ r, isName e.1) :
    Turns (layout.text records).toList false (records.length + layout.helpers.length) false := by
  have last : Passes ("export default " ++ layout.list ++ ";\n").toList :=
    passes_append (passes_append (by decide) (.of_isName proper.isName_list)) (by decide)
  have whole := (proper.turns_upToHelper fields fun _ member => member).append
    (.of_passes last false)
  have text : (layout.text records).toList = layout.upToHelper records layout.helpers ++
      ("export default " ++ layout.list ++ ";\n").toList := by
    rw [text_eq, back]
    simp only [String.toList_append, toList_helpers, upToHelper, List.append_assoc]
  rwa [text]

end Proper

/-- What a scan finds in the text of a module: the records at their places, then the one block of
each helper at its own. -/
structure Scanned (layout : Layout) (records : List Entries) (text : List Char) : Prop where
  length_eq : (scan text).length = records.length + layout.helpers.length
  record : ∀ rs r rs', records = rs ++ r :: rs' →
    layout.upTo rs ++ recordBlock r <+: text ∧
      (scan text)[rs.length]? = some ⟨byteSize (layout.upTo rs), recordBlock r⟩
  helper : ∀ hs h hs', layout.helpers = hs ++ h :: hs' →
    layout.upToHelper records hs ++ (layout.helper h).toList <+: text ∧
      ∃ b, scan (layout.helper h).toList = [b] ∧
        (scan text)[records.length + hs.length]? =
          some (b.shift (byteSize (layout.upToHelper records hs)))

theorem getElem?_scan {a b : List Char} {n : Nat} (turns : Turns a false n false) :
    (scan (a ++ b))[n]? = (scan b)[0]?.map (Block.shift (byteSize a)) := by
  obtain ⟨settles, length⟩ := turns.settles
  rw [scan_append settles, List.getElem?_append_right (by omega), length, Nat.sub_self,
    List.getElem?_map]

theorem scanned_of_render {layout : Layout} {records : List Entries} {text : String}
    (rendered : layout.render records = .ok text) (proper : layout.Proper)
    (fields : ∀ r ∈ records, ∀ e ∈ r, isName e.1) :
    layout.Scanned records text.toList := by
  obtain ⟨-, rfl⟩ := render_eq_ok.mp rendered
  constructor
  · exact (proper.turns_text fields).settles.2
  · intro rs r rs' split
    obtain ⟨rest, text⟩ := exists_upTo layout rs r rs'
    -- What is in front settles, so the record is scanned as it is on its own.
    have before := proper.turns_upTo fun s (member : s ∈ rs) => fields s (by simp [split, member])
    have inside := passes_recordInner (fields r (by simp [split]))
    rw [split, text]
    constructor
    · exact ⟨rest, List.append_assoc ..⟩
    · have braced : recordBlock r ++ rest = '{' :: (recordInner r ++ '}' :: rest) := by
        simp [recordBlock]
      rw [getElem?_scan before, braced, scan_braced inside]
      rfl
  · intro hs h hs' split
    obtain ⟨rest, text⟩ := exists_upToHelper split records
    have before := proper.turns_upToHelper fields fun g (member : g ∈ hs) => by simp [split, member]
    obtain ⟨settles, length⟩ := (proper.turns_helper (h := h) (by simp [split])).settles
    obtain ⟨b, one⟩ := List.length_eq_one_iff.mp length
    rw [text]
    constructor
    · exact ⟨rest, List.append_assoc ..⟩
    · refine ⟨b, one, ?_⟩
      rw [getElem?_scan before, scan_append settles, one]
      rfl

def crowded : Layout where
  header := ["\x7b \"/*\"", "a * / \x7d"]
  list := "books"
  title := "`'\x7b*"
  item := "book"
  helpers := [
    ⟨"byId", .findFirst ⟨"id", "bookid"⟩⟩,
    ⟨"ofOwner", .findAll ⟨"owner", "customerid"⟩⟩,
    ⟨"active", .findWhere "status" "\"\x7d /* \x7b\\"⟩,
    ⟨"add", .add "book"⟩,
    ⟨"update", .update ⟨"id", "bookid"⟩⟩,
    ⟨"pay", .updateBalance ⟨"id", "byId", "found", "balance"⟩⟩,
    ⟨"close", .close ⟨"id", "byId", "found", "balance"⟩ "status" "'\x7d\n//\x7b"⟩,
    ⟨"remove", .delete ⟨"id", "bookid"⟩⟩]

def crowdedRecords : List Entries := [
  [("bookid", .text "\x7d;\n*/ \x7b"), ("balance", .int (-7)), ("maturity", .null)],
  [("bookid", .text "\\\"\x7d"), ("été", .text "`\x7b`")],
  []]

theorem scanned_crowded : ∃ text, crowded.render crowdedRecords = .ok text ∧ crowded.Proper ∧
    (∀ r ∈ crowdedRecords, ∀ e ∈ r, isName e.1) ∧ crowded.Scanned crowdedRecords text.toList := by
  have proper : crowded.Proper := ⟨by decide, by decide +kernel⟩
  have fields : ∀ r ∈ crowdedRecords, ∀ e ∈ r, isName e.1 := by decide
  have rendered : crowded.render crowdedRecords = .ok (crowded.text crowdedRecords) := rfl
  exact ⟨_, rendered, proper, fields, scanned_of_render rendered proper fields⟩

theorem matchText_of_render {layout : Layout} {before after : List Entries} {r : Entries}
    {text : String} (rendered : layout.render (before ++ r :: after) = .ok text) (nonempty : r ≠ [])
    {fields : List Field} (fits : List.Forall₂ Fits r fields) :
    ∃ p rest, BlockPattern.ofFields? fields = .ok p ∧
      text.toList = layout.upTo before ++ (recordBlock r ++ rest) ∧
      p.matchText (recordBlock r) = some (r.map fun e => (e.1, e.2.value)) := by
  obtain ⟨-, rfl⟩ := render_eq_ok.mp rendered
  obtain ⟨rest, place⟩ := exists_upTo layout before r after
  have fields_ne_nil : fields ≠ [] := by
    rintro rfl
    exact nonempty (List.forall₂_nil_right_iff.mp fits)
  have accepted : BlockPattern.ofFields? fields = .ok ⟨fields, fields_ne_nil⟩ :=
    dif_neg fields_ne_nil
  exact ⟨_, rest, accepted, place, matchText_recordBlock fits⟩

theorem matchText_of_render_repeated :
    let layout : Layout := ⟨["Rows"], "rows", "Helpers", "row", []⟩
    let before : List Entries := [[("id", .int 1), ("idx", .int 2)]]
    let r : Entries :=
      [("id", .text "\",\n  \x7d\nidx: 3, id: null"), ("id", .null), ("bookid", .int 7),
        ("idx", .text "\\"), ("id", .int 0)]
    let fields : List Field :=
      [⟨"id", .text⟩, ⟨"id", .nullable⟩, ⟨"bookid", .unsigned⟩, ⟨"idx", .nullable⟩,
        ⟨"id", .unsigned⟩]
    ∃ text, layout.render (before ++ r :: []) = .ok text ∧ r ≠ [] ∧ List.Forall₂ Fits r fields ∧
      ∃ p rest, BlockPattern.ofFields? fields = .ok p ∧
        text.toList = layout.upTo before ++ (recordBlock r ++ rest) ∧
        p.matchText (recordBlock r) =
          some [("id", .text "\",\n  \x7d\nidx: 3, id: null"), ("id", .null),
            ("bookid", .unsigned 7), ("idx", .text "\\"), ("id", .unsigned 0)] := by
  intro layout before r fields
  have rendered : layout.render (before ++ r :: []) = .ok (layout.text (before ++ r :: [])) := rfl
  have nonempty : r ≠ [] := by simp [r]
  have fits : List.Forall₂ Fits r fields :=
    .cons ⟨rfl, by decide, rfl⟩ <| .cons ⟨rfl, by decide, rfl⟩ <|
      .cons ⟨rfl, by decide, rfl⟩ <| .cons ⟨rfl, by decide, rfl⟩ <|
      .cons ⟨rfl, by decide, rfl⟩ .nil
  exact ⟨_, rendered, nonempty, fits, matchText_of_render rendered nonempty fits⟩

end Layout

end MockData.Script
