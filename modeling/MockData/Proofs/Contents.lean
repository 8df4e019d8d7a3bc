import MockData.Proofs.Machines
import MockData.Proofs.ReadingBack

/-!
The contents of a module and its text. From the text of a layout with free names, whatever its
strings say, come back the name of the list, the records, and each helper as its function.
-/
namespace MockData.Script

open Text Reader

def entryTokens (e : String × Literal) : List Token := .name e.1 :: .mark ':' :: e.2.tokens

def recordTokens (es : Entries) : List Token :=
  .mark '{' :: (commaTokens (es.map entryTokens) ++ [.mark '}'])

theorem lexes_record {es : Entries} (fields : ∀ e ∈ es, isFree e.1) :
    Lexes (Layout.record es).toList (recordTokens es) := by
  have margin : Lexes "    ".toList [] := rfl
  have colon : Lexes ": ".toList [.mark ':'] := rfl
  have opening : Lexes "  \x7b\n".toList [.mark '{'] := rfl
  have closing : Lexes "  \x7d".toList [.mark '}'] := rfl
  have inner : LexesLines (commas (es.map entryLine)) (commaTokens (es.map entryTokens)) :=
    .commas fun e isEntry => lexes_append (lexes_append (lexes_append margin
      (lexes_name (fields e isEntry)) (.of_last rfl)) colon (.of_head rfl)) e.2.lexes (.behind rfl)
  exact lexes_append (lexes_append opening inner.lexes (.of_last rfl)) closing (.of_head rfl)

theorem read_entryTokens (e : String × Literal) (ts : List Token) :
    readEntry (entryTokens e ++ ts) = some (e, ts) := by
  simp [readEntry, entryTokens, identifier, take, e.2.read_tokens]

theorem read_recordTokens (es : Entries) (ts : List Token) :
    readRecord (recordTokens es ++ ts) = some (es, ts) := by
  have inner : separated readEntry (.mark '}')
      (commaTokens (es.map entryTokens) ++ .mark '}' :: ts) = some (es, ts) :=
    separated_append (by decide) (fun e _ _ _ _ => read_entryTokens e _) (fun _ _ _ => rfl) ts
  simp [readRecord, recordTokens, take, inner]

theorem closed_comment {ls : List String} (unended : ∀ l ∈ ls, ¬ ['*', '/'] <:+: l.toList) :
    Closed (Layout.comment ls).toList [] := by
  refine ⟨lexes_comment unended, fun cs => .of_last ?_⟩
  rw [toList_comment, List.getLast?_append, List.getLast?_append]
  rfl

namespace Layout

variable {layout : Layout}

/-- The layout has free names, and lines of comments that do not end these. -/
structure Readable (layout : Layout) : Prop where
  names : ∀ x ∈ layout.names, isFree x
  comments : ∀ l ∈ layout.title :: layout.header, ¬ ['*', '/'] <:+: l.toList

def contents (layout : Layout) (records : List Entries) : Contents :=
  ⟨layout.list, records, layout.functions⟩

def tokens (layout : Layout) (records : List Entries) : List Token :=
  .keyword "export" :: .keyword "const" :: .name layout.list :: .sign "=" :: .mark '[' ::
    (commaTokens (records.map recordTokens) ++ .mark ']' :: .mark ';' ::
      (layout.functions.flatMap Function.tokens ++
        [.keyword "export", .keyword "default", .name layout.list, .mark ';']))

theorem Readable.names_function (readable : layout.Readable) :
    ∀ f ∈ layout.functions, ∀ x ∈ f.names, isFree x := by
  intro f member
  obtain ⟨h, isHelper, rfl⟩ := List.mem_map.mp member
  refine Helper.forall_names_function (by decide) fun x isOwn => readable.names x ?_
  simp only [List.mem_cons] at isOwn
  rcases isOwn with rfl | rfl | isOwn
  · simp [Layout.names]
  · simp [Layout.names]
  · exact .tail _ (.tail _ (List.mem_flatMap.mpr ⟨h, isHelper, isOwn⟩))

theorem Readable.closed_helpers (readable : layout.Readable) :
    Closed (String.join (layout.helpers.map layout.helper)).toList
      (layout.functions.flatMap Function.tokens) := by
  have text : (String.join (layout.helpers.map layout.helper)).toList =
      layout.functions.flatMap fun f => f.render.toList ++ ['\n'] := by
    rw [toList_helpers, functions, List.flatMap_map]
    simp [helper]
  rw [text]
  exact .flatMap fun f member =>
    .of_lineFeed (Function.closed (readable.names_function f member)).lexes

theorem Readable.lexes_text (readable : layout.Readable) {records : List Entries}
    (fields : ∀ r ∈ records, ∀ e ∈ r, isFree e.1) :
    Lexes (layout.text records).toList (layout.tokens records) := by
  have header : Closed (comment layout.header).toList [] :=
    closed_comment fun l member => readable.comments l (by simp [member])
  have title : Closed (comment [layout.title]).toList [] :=
    closed_comment fun l member => readable.comments l (by simp_all)
  have list := lexes_name (readable.names layout.list (by simp [Layout.names]))
  have gap : Lexes "\n".toList [] := rfl
  have const : Lexes "export const ".toList [.keyword "export", .keyword "const"] := rfl
  have opening : Lexes " = [\n".toList [.sign "=", .mark '['] := rfl
  have closing : Lexes "];\n\n".toList [.mark ']', .mark ';'] := rfl
  have default : Lexes "export default ".toList [.keyword "export", .keyword "default"] := rfl
  have ending : Lexes ";\n".toList [.mark ';'] := rfl
  have inner : LexesLines (commas (records.map record)) (commaTokens (records.map recordTokens)) :=
    .commas fun r isRecord => lexes_record (fields r isRecord)
  have front := lexes_append (lexes_append (lexes_append (lexes_append header.lexes gap
    (.of_head rfl)) const (.behind rfl)) list (.behind rfl)) opening (.of_head rfl)
  have data := lexes_append (lexes_append front inner.lexes (.behind rfl)) closing (.of_head rfl)
  have back := lexes_append (lexes_append default list (.of_last rfl)) ending (.of_head rfl)
  have helpers := title.append readable.closed_helpers
  have whole := data.append (helpers.lexes.append back (helpers.apart _)) (.behind rfl)
  simpa [text, tokens] using whole

theorem read_tokens (layout : Layout) (records : List Entries) :
    Contents.read (layout.tokens records) = some (layout.contents records, []) := by
  let ending : List Token := [.keyword "export", .keyword "default", .name layout.list, .mark ';']
  let behind := .mark ';' :: (layout.functions.flatMap Function.tokens ++ (ending ++ []))
  have data : separated readRecord (.mark ']')
      (commaTokens (records.map recordTokens) ++ .mark ']' :: behind) = some (records, behind) :=
    separated_append (by decide) (fun r _ _ _ _ => read_recordTokens r _) (fun _ _ _ => rfl) behind
  have functions : sequence Function.read ending
      (layout.functions.flatMap Function.tokens ++ (ending ++ [])) = some (layout.functions, []) :=
    sequence_append ending (fun f _ => f.read_tokens)
      (fun f _ => ⟨by simp [Function.tokens], fun ts => by simp [ending, Function.tokens, take]⟩) []
  simp only [behind, ending, List.append_nil] at data functions
  simp [Contents.read, tokens, identifier, take, data, functions, contents]

theorem Readable.ofText?_text (readable : layout.Readable) {records : List Entries}
    (fields : ∀ r ∈ records, ∀ e ∈ r, isFree e.1) :
    Contents.ofText? (layout.text records) = some (layout.contents records) := by
  rw [Contents.ofText?, (readable.lexes_text fields : tokens? _ = _)]
  simp [read_tokens]

theorem Readable.ofText?_helper (readable : layout.Readable) {h : Helper}
    (member : h ∈ layout.helpers) :
    Function.ofText? (layout.helper h) = some (h.function layout.list layout.item) := by
  have isFunction : h.function layout.list layout.item ∈ layout.functions :=
    List.mem_map.mpr ⟨h, member, rfl⟩
  have lexes := (Function.closed (readable.names_function _ isFunction)).lexes
  have lineFeed : Lexes "\n".toList [] := rfl
  have whole := lexes_append lexes lineFeed (.of_head rfl)
  rw [List.append_nil] at whole
  rw [Function.ofText?, helper, (whole : tokens? _ = _)]
  have read := (h.function layout.list layout.item).read_tokens []
  rw [List.append_nil] at read
  simp [read]

end Layout

end MockData.Script
