import MockData.Proofs.Modules
import MockData.Proofs.Numerals
import MockData.SavingBook.Legacy

/-!
Former saving books as anyone may write them: blanks wherever they can stand, numbers of any
length and other text around the blocks. All the books are found, and nothing else is.
-/
namespace MockData

open Text Script MockData.Field

namespace Script

def Blanks := { cs : List Char // ∀ c ∈ cs, isBlank c }

def Filler := { cs : List Char // ∀ c ∈ cs, isPlain c }

theorem Blanks.passes (b : Blanks) : Passes b.val :=
  Passes.of_isPlain fun c member => isPlain_of_isBlank (b.property c member)

theorem Blanks.isWord_eq_false (b : Blanks) : ∀ c ∈ b.val, isWord c = false :=
  fun c member => (ends_of_isBlank (b.property c member)).word

structure Spacing where
  beforeName : Blanks
  behindName : Blanks
  beforeValue : Blanks
  behindValue : Blanks

structure Part where
  name : String
  text : List Char
  value : FieldValue
  spacing : Spacing

namespace Part

def written (p : Part) : List Char :=
  p.spacing.beforeName.val ++ (p.name.toList ++ (p.spacing.behindName.val ++ ':' ::
    (p.spacing.beforeValue.val ++ (p.text ++ p.spacing.behindValue.val))))

structure Fits (p : Part) (f : Field) : Prop where
  name_eq : f.name = p.name
  identifier : isIdentifier p.name
  reads : Reads f.kind p.text p.value
  passes : Passes p.text

variable {p : Part} {f : Field}

theorem Fits.passes_written (fits : p.Fits f) : Passes p.written := by
  have name := Passes.of_isName (isName_of_isIdentifier fits.identifier)
  have colon : Passes [':'] := by decide
  have value :=
    p.spacing.beforeValue.passes.append (fits.passes.append p.spacing.behindValue.passes)
  exact p.spacing.beforeName.passes.append
    (name.append (p.spacing.behindName.passes.append (colon.append value)))

theorem Fits.search_written (fits : p.Fits f) {gap : List Char} (nonempty : gap ≠ [])
    (apart : ∀ c ∈ gap, isWord c = false) (before : Option Char) {c : Char} (ends : Ends c)
    (cs : List Char) :
    ∃ capture, search f.name.toList f.kind before (gap ++ (p.written ++ c :: cs)) =
      some (capture, p.spacing.behindValue.val ++ c :: cs) ∧ capture.value? = some p.value := by
  obtain ⟨d, ds, behind, ends'⟩ := exists_ends_cons p.spacing.behindValue.property ends cs
  have place : gap ++ (p.written ++ c :: cs) = (gap ++ p.spacing.beforeName.val) ++
      (p.name.toList ++ (p.spacing.behindName.val ++ ':' ::
        (p.spacing.beforeValue.val ++ (p.text ++ d :: ds)))) := by
    simp [written, behind]
  have gaps := List.forall_mem_append.mpr ⟨apart, p.spacing.beforeName.isWord_eq_false⟩
  rw [place, behind, fits.name_eq]
  exact search_named fits.identifier fits.reads (by simp [nonempty]) gaps
    p.spacing.behindName.property p.spacing.beforeValue.property before ends' ds

end Part

def inner (parts : List Part) : List Char := [','].intercalate (parts.map Part.written)

def draftBlock (parts : List Part) : List Char := '{' :: (inner parts ++ ['}'])

theorem inner_cons_cons (p q : Part) (parts : List Part) :
    inner (p :: q :: parts) = p.written ++ ',' :: inner (q :: parts) := by
  simp [inner, List.intercalate_cons_cons]

theorem inner_singleton (p : Part) : inner [p] = p.written := List.intercalate_singleton

theorem passes_inner {parts : List Part} {fields : List Field}
    (fits : List.Forall₂ Part.Fits parts fields) : Passes (inner parts) := by
  induction fits with
  | nil => exact Passes.nil
  | cons fit later ih =>
    cases later with
    | nil =>
      rw [inner_singleton]
      exact fit.passes_written
    | cons fit' later =>
      have comma : Passes [','] := by decide
      rw [inner_cons_cons]
      exact fit.passes_written.append (comma.append ih)

theorem matchFields_inner {parts : List Part} {fields : List Field}
    (fits : List.Forall₂ Part.Fits parts fields) {gap : List Char} (nonempty : gap ≠ [])
    (apart : ∀ c ∈ gap, isWord c = false) (before : Option Char) {c : Char} (ends : Ends c)
    (cs : List Char) :
    BlockPattern.matchFields fields before (gap ++ (inner parts ++ c :: cs)) =
      some (parts.map fun p => (p.name, p.value)) := by
  -- The gap before a field is what the one before it leaves: its blanks and the comma.
  induction fits generalizing gap before with
  | nil => rfl
  | @cons p f _ _ fit later ih =>
    rw [List.map_cons, ← fit.name_eq]
    cases later with
    | nil =>
      obtain ⟨capture, found, value⟩ := fit.search_written nonempty apart before ends cs
      rw [inner_singleton, matchFields_cons found value]
      rfl
    | @cons q _ parts _ fit' later =>
      obtain ⟨capture, found, value⟩ := fit.search_written nonempty apart before
        (c := ',') (by decide) (inner (q :: parts) ++ c :: cs)
      have comma : ∀ d ∈ [','], isWord d = false := by simp [isWord, isAsciiWord]
      have gap' := List.forall_mem_append.mpr ⟨p.spacing.behindValue.isWord_eq_false, comma⟩
      have next := ih (by simp) gap' capture.last?
      rw [List.append_assoc, List.singleton_append] at next
      rw [inner_cons_cons, List.append_assoc, List.cons_append, matchFields_cons found value, next]
      rfl

theorem matchText_draftBlock {parts : List Part} {p : BlockPattern}
    (fits : List.Forall₂ Part.Fits parts p.fields) :
    p.matchText (draftBlock parts) = some (parts.map fun q => (q.name, q.value)) := by
  have apart : ∀ c ∈ ['{'], isWord c = false := by simp [isWord, isAsciiWord]
  exact matchFields_inner fits (List.cons_ne_nil '{' []) apart none (by decide) []

theorem texts_drafts (drafts : List (List Part × Filler))
    (passes : ∀ d ∈ drafts, Passes (inner d.1)) :
    Block.texts (drafts.flatMap fun d => draftBlock d.1 ++ d.2.val) =
      drafts.map fun d => draftBlock d.1 := by
  induction drafts with
  | nil => rfl
  | cons d drafts ih =>
    have later := ih fun e member => passes e (by simp [member])
    have split : draftBlock d.1 ++ d.2.val ++ (drafts.flatMap fun d => draftBlock d.1 ++ d.2.val) =
        '{' :: (inner d.1 ++ '}' :: (d.2.val ++
          drafts.flatMap fun d => draftBlock d.1 ++ d.2.val)) := by
      simp [draftBlock]
    rw [List.flatMap_cons, split, Block.texts_braced (passes d (by simp)),
      Block.texts_passes (Passes.of_isPlain d.2.property), later]
    rfl

end Script

namespace LegacyBook

/-- A former book before it is written: the maturity date may be absent, and there are blanks
around the name and the value of each field. -/
structure Draft where
  id : String
  customerId : String
  typeId : String
  registerTime : String
  maturityDate : Option String
  initialDeposit : Numeral
  currentBalance : Numeral
  interestRate : Decimal
  status : String
  spacing : String → Spacing

namespace Draft

def literal (d : Draft) (name : String) (l : Literal) : Part :=
  ⟨name, l.render.toList, l.value, d.spacing name⟩

def numeral (d : Draft) (name : String) (n : Numeral) : Part :=
  ⟨name, n.digits, .unsigned n.saturated, d.spacing name⟩

def decimal (d : Draft) (name : String) (x : Decimal) : Part :=
  ⟨name, x.written, .decimal x.value, d.spacing name⟩

def parts (d : Draft) : List Part := [
  d.literal "bookid" (.text d.id),
  d.literal "customerid" (.text d.customerId),
  d.literal "typeid" (.text d.typeId),
  d.literal "registertime" (.text d.registerTime),
  d.literal "maturitydate" (.ofText? d.maturityDate),
  d.numeral "initialdeposit" d.initialDeposit,
  d.numeral "currentbalance" d.currentBalance,
  d.decimal "interestrate" d.interestRate,
  d.literal "status" (.text d.status)]

def book (d : Draft) : LegacyBook where
  id := d.id
  customerId := d.customerId
  typeId := d.typeId
  registerTime := d.registerTime
  maturityDate := d.maturityDate
  initialDeposit := d.initialDeposit.saturated
  currentBalance := d.currentBalance.saturated
  interestRate := d.interestRate.value
  status := d.status

theorem fits_literal (d : Draft) {name : String} (identifier : isIdentifier name) {l : Literal}
    {kind : FieldKind} (ofKind : l.isOfKind kind) : (d.literal name l).Fits ⟨name, kind⟩ :=
  ⟨rfl, identifier, reads_render ofKind, l.passes_render⟩

theorem fits_numeral (d : Draft) {name : String} (identifier : isIdentifier name) (n : Numeral) :
    (d.numeral name n).Fits ⟨name, .unsigned⟩ := ⟨rfl, identifier, n.reads, n.passes⟩

theorem fits_decimal (d : Draft) {name : String} (identifier : isIdentifier name) (x : Decimal) :
    (d.decimal name x).Fits ⟨name, .decimal⟩ := ⟨rfl, identifier, x.reads, x.passes⟩

theorem fits_parts (d : Draft) : List.Forall₂ Part.Fits d.parts pattern.fields := by
  have date : (Literal.ofText? d.maturityDate).isOfKind .nullable := by
    cases d.maturityDate with
    | none => rfl
    | some s => rfl
  exact .cons (d.fits_literal rfl rfl) (.cons (d.fits_literal rfl rfl)
    (.cons (d.fits_literal rfl rfl) (.cons (d.fits_literal rfl rfl)
      (.cons (d.fits_literal rfl date)
        (.cons (d.fits_numeral rfl _) (.cons (d.fits_numeral rfl _) (.cons (d.fits_decimal rfl _)
          (.cons (d.fits_literal rfl rfl) .nil))))))))

theorem ofBlock?_of_values (b : MatchedBlock) (d : Draft)
    (values : b.values = d.parts.map fun p => (p.name, p.value)) : ofBlock? b = some d.book := by
  cases date : d.maturityDate with
  | none =>
    simp [ofBlock?, MatchedBlock.text?, MatchedBlock.get?, values, parts, literal, numeral,
      decimal, book, date, Literal.ofText?, Literal.value, FieldValue.text?,
      FieldValue.nullable?, FieldValue.unsigned?, FieldValue.decimal?]
  | some s =>
    simp [ofBlock?, MatchedBlock.text?, MatchedBlock.get?, values, parts, literal, numeral,
      decimal, book, date, Literal.ofText?, Literal.value, FieldValue.text?,
      FieldValue.nullable?, FieldValue.unsigned?, FieldValue.decimal?]

end Draft

def draftText (front : Filler) (drafts : List (Draft × Filler)) : String :=
  String.ofList (front.val ++ drafts.flatMap fun d => draftBlock d.1.parts ++ d.2.val)

theorem texts_draftText (front : Filler) (drafts : List (Draft × Filler)) :
    Block.texts (draftText front drafts).toList = drafts.map fun d => draftBlock d.1.parts := by
  have blocks := texts_drafts (drafts.map fun d => (d.1.parts, d.2)) (by
    intro d member
    obtain ⟨d', -, rfl⟩ := List.mem_map.mp member
    exact passes_inner d'.1.fits_parts)
  rw [List.flatMap_map, List.map_map] at blocks
  rw [draftText, String.toList_ofList, Block.texts_passes (Passes.of_isPlain front.property)]
  exact blocks

/-- The books of drafts are all found, in their order, and no block is left over. -/
theorem extract_draftText (front : Filler) (drafts : List (Draft × Filler)) :
    extract (draftText front drafts) = (drafts.map fun d => d.1.book, 0) := by
  obtain ⟨found, skipped⟩ := Extraction.ofText_eq pattern (draftText front drafts)
  obtain ⟨values, noneLeft⟩ := BlockPattern.filterMap_matchText fun (d : Draft × Filler)
    (_ : d ∈ drafts) => matchText_draftBlock d.1.fits_parts
  rw [texts_draftText, values] at found
  rw [texts_draftText, noneLeft] at skipped
  rw [extract, skipped, MatchedBlock.filterMap_of_values
    (fun b d values => d.1.ofBlock?_of_values b values) found]

end LegacyBook

end MockData
