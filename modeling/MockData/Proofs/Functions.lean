import Mathlib.Algebra.Ring.Nat
import MockData.Proofs.Records
import MockData.Script.Helper

/-!
Functions as they are written. A function whose names are proper and whose braces are those of its
syntax has a number of innermost blocks that its syntax tells, and that is one for every helper.
-/
namespace MockData

open Script Text

namespace Block

/-- Read in code, with a brace open before it or not, the text ends so many blocks and leaves a
brace open or not. -/
def Turns (cs : List Char) (before : Bool) (count : Nat) (after : Bool) : Prop :=
  ∀ s : Scan, s.mode = .code → s.pending.isSome = before →
    (s.blocks cs).length = count ∧ (s.run cs).mode = .code ∧ (s.run cs).pending.isSome = after

namespace Turns

variable {a b : List Char} {o o' o'' : Bool} {m n : Nat}

theorem append (ha : Turns a o m o') (hb : Turns b o' n o'') : Turns (a ++ b) o (m + n) o'' := by
  intro s code pending
  obtain ⟨countA, codeA, pendingA⟩ := ha s code pending
  obtain ⟨countB, codeB, pendingB⟩ := hb (s.run a) codeA pendingA
  rw [Scan.blocks_append, Scan.run_append, List.length_append, countA, countB]
  exact ⟨rfl, codeB, pendingB⟩

theorem of_passes (passes : Passes a) (o : Bool) : Turns a o 0 o := by
  intro s code pending
  have quiet : s.mode.isQuiet a := by
    rw [code]
    exact passes.quiet
  obtain ⟨blocks, run⟩ := Scan.quiet_run quiet
  rw [blocks, run, code]
  exact ⟨rfl, passes.run_code, by simpa using pending⟩

theorem opening (o : Bool) : Turns ['{'] o 0 true := by
  intro s code _
  simp [Scan.blocks, Scan.closes, Scan.run, Scan.next, Scan.nextPending, code, Mode.isCode,
    Mode.next, Mode.fromCode, isQuote]

theorem closing (o : Bool) : Turns ['}'] o o.toNat false := by
  intro s code pending
  cases held : s.pending with
  | none =>
    obtain rfl : false = o := by rw [← pending, held]; rfl
    simp [Scan.blocks, Scan.closes, Scan.run, Scan.next, Scan.nextPending, code, Mode.isCode,
      Mode.next, Mode.fromCode, isQuote, held]
  | some p =>
    obtain rfl : true = o := by rw [← pending, held]; rfl
    simp [Scan.blocks, Scan.closes, Scan.run, Scan.next, Scan.nextPending, code, Mode.isCode,
      Mode.next, Mode.fromCode, isQuote, held]

/-- Braces around a text are a block of their own if there is none inside. -/
theorem around {inner : List Char} (front : Passes a) (inside : Turns inner true n (n == 0))
    (back : Passes b) (o : Bool) : Turns (a ++ '{' :: (inner ++ '}' :: b)) o (max 1 n) false := by
  have whole := (of_passes front o).append ((opening o).append
    (inside.append ((closing (n == 0)).append (of_passes back false))))
  have count : 0 + (0 + (n + ((n == 0).toNat + 0))) = max 1 n := by
    cases n with
    | zero => rfl
    | succ n => simp
  rwa [count] at whole

theorem settles (turns : Turns a false n false) : Settles a ∧ (scan a).length = n := by
  obtain ⟨count, code, pending⟩ := turns .start rfl rfl
  have noneOpen : (Scan.start.run a).pending = none :=
    Option.isNone_iff_eq_none.mp (by simpa using pending)
  exact ⟨settles_iff.mpr ⟨code, noneOpen⟩, count⟩

theorem flatMap {α : Type} {items : List α} {text : α → List Char} {count : α → Nat}
    (each : ∀ i ∈ items, ∀ o, Turns (text i) o (count i) (o && count i == 0)) (o : Bool) :
    Turns (items.flatMap text) o (items.map count).sum (o && (items.map count).sum == 0) := by
  -- The brace that was open stays so behind a text exactly if that has ended no block.
  induction items generalizing o with
  | nil => simpa using of_passes .nil o
  | cons i items ih =>
    have first := each i (by simp) o
    have later := ih (fun j member => each j (by simp [member])) (o && count i == 0)
    have both := first.append later
    have noneEnds : (count i + (items.map count).sum == 0) =
        (count i == 0 && (items.map count).sum == 0) := by
      rw [Bool.eq_iff_iff]
      simp [Nat.add_eq_zero_iff]
    rw [List.flatMap_cons, List.map_cons, List.sum_cons, noneEnds, ← Bool.and_assoc]
    exact both

end Turns

end Block

namespace Script

open Block

def Operand.names : Operand → List String
  | .literal _ => []
  | .name x => [x]
  | .field x f => [x, f]
  | .item list index => [list, index]

def Member.names : Member → List String
  | .spread o => o.names
  | .same x => [x]
  | .entry key o => key :: o.names

def Expr.names : Expr → List String
  | .operand o => o.names
  | .search _ list item field value => list :: item :: field :: value.names
  | .call f x => [f, x]
  | .takeOut list index => [list, index]

def Step.names : Step → List String
  | .bind x e => x :: e.names
  | .set place o => place.names ++ o.names
  | .merge place members => place.names ++ members.flatMap Member.names
  | .increase place x => x :: place.names
  | .push list x => [list, x]
  | .answer e => e.names
  | .answerObject members => members.flatMap Member.names

def Condition.names : Condition → List String
  | .present x | .found x => [x]

def Statement.names : Statement → List String
  | .step s => s.names
  | .guarded c steps => c.names ++ steps.flatMap Step.names

def Function.names (f : Function) : List String :=
  f.name :: f.params ++ f.body.flatMap Statement.names

def Step.blocks : Step → Nat
  | .merge .. | .answerObject _ => 1
  | _ => 0

def Statement.blocks : Statement → Nat
  | .step s => s.blocks
  | .guarded _ steps => max 1 (steps.map Step.blocks).sum

def Function.blocks (f : Function) : Nat := max 1 (f.body.map Statement.blocks).sum

theorem passes_append {a b : String} (ha : Passes a.toList) (hb : Passes b.toList) :
    Passes (a ++ b).toList := by
  rw [String.toList_append]
  exact ha.append hb

theorem passes_intercalate {ls : List String} (passes : ∀ s ∈ ls, Passes s.toList) :
    Passes (", ".intercalate ls).toList := by
  have comma : Passes ", ".toList := by decide
  rw [String.toList_intercalate]
  induction ls with
  | nil => exact .nil
  | cons s later ih =>
    have first := passes s (by simp)
    cases later with
    | nil => simpa using first
    | cons t later =>
      rw [List.map_cons, List.map_cons, List.intercalate_cons_cons]
      exact (first.append comma).append (ih fun u member => passes u (by simp [member]))

variable {list item x : String}

theorem Operand.passes {o : Operand} (names : ∀ x ∈ o.names, isName x) :
    Passes o.render.toList := by
  cases o with
  | literal l => exact l.passes_render
  | name x => exact .of_isName (names x (by simp [Operand.names]))
  | field x f =>
    have ofX := Passes.of_isName (names x (by simp [Operand.names]))
    have ofF := Passes.of_isName (names f (by simp [Operand.names]))
    exact passes_append (passes_append ofX (by decide)) ofF
  | item list index =>
    have ofList := Passes.of_isName (names list (by simp [Operand.names]))
    have ofIndex := Passes.of_isName (names index (by simp [Operand.names]))
    exact passes_append (passes_append (passes_append ofList (by decide)) ofIndex) (by decide)

theorem Member.passes {m : Member} (names : ∀ x ∈ m.names, isName x) :
    Passes m.render.toList := by
  cases m with
  | spread o => exact passes_append (by decide) (Operand.passes names)
  | same x => exact .of_isName (names x (by simp [Member.names]))
  | entry key o =>
    have ofKey := Passes.of_isName (names key (by simp [Member.names]))
    have value : Passes o.render.toList :=
      Operand.passes fun x member => names x (by simp [Member.names, member])
    exact passes_append (passes_append ofKey (by decide)) value

theorem Search.passes (how : Search) : Passes how.render.toList := by
  cases how with
  | find | filter | findIndex => decide

theorem Expr.passes {e : Expr} (names : ∀ x ∈ e.names, isName x) : Passes e.render.toList := by
  cases e with
  | operand o => exact Operand.passes names
  | search how list item field value =>
    have ofList := Passes.of_isName (names list (by simp [Expr.names]))
    have ofItem := Passes.of_isName (names item (by simp [Expr.names]))
    have ofField := Passes.of_isName (names field (by simp [Expr.names]))
    have ofValue : Passes value.render.toList :=
      Operand.passes fun x member => names x (by simp [Expr.names, member])
    simp only [Expr.render, String.append_assoc]
    refine passes_append ofList (passes_append (by decide) (passes_append how.passes ?_))
    refine passes_append (by decide) (passes_append ofItem (passes_append (by decide) ?_))
    refine passes_append ofItem (passes_append (by decide) (passes_append ofField ?_))
    exact passes_append (by decide) (passes_append ofValue (by decide))
  | call f x =>
    have ofF := Passes.of_isName (names f (by simp [Expr.names]))
    have ofX := Passes.of_isName (names x (by simp [Expr.names]))
    exact passes_append (passes_append (passes_append ofF (by decide)) ofX) (by decide)
  | takeOut list index =>
    have ofList := Passes.of_isName (names list (by simp [Expr.names]))
    have ofIndex := Passes.of_isName (names index (by simp [Expr.names]))
    exact passes_append (passes_append (passes_append ofList (by decide)) ofIndex) (by decide)

theorem Condition.passes {c : Condition} (names : ∀ x ∈ c.names, isName x) :
    Passes c.render.toList := by
  cases c with
  | present x => exact .of_isName (names x (by simp [Condition.names]))
  | found x => exact passes_append (.of_isName (names x (by simp [Condition.names]))) (by decide)

theorem toList_lines_cons (s : String) (ls : List String) :
    (lines (s :: ls)).toList = s.toList ++ '\n' :: (lines ls).toList := by
  simp [lines]

theorem toList_lines_append (a b : List String) :
    (lines (a ++ b)).toList = (lines a).toList ++ (lines b).toList := by
  simp [lines]

theorem turns_line {s : String} (passes : Passes s.toList) (o : Bool) :
    Turns (lines [s]).toList o 0 (o && (0 : Nat) == 0) := by
  have lineFeed : Passes ['\n'] := by decide
  rw [toList_lines_cons, beq_self_eq_true, Bool.and_true]
  exact .of_passes (passes.append lineFeed) o

theorem turns_object {front inner : List Char} (ofFront : Passes front) (ofInner : Passes inner)
    (o : Bool) :
    Turns (front ++ '{' :: (inner ++ '}' :: [';', '\n'])) o 1 (o && (1 : Nat) == 0) := by
  have back : Passes [';', '\n'] := by decide
  rw [show (o && (1 : Nat) == 0) = false from Bool.and_false o]
  exact .around ofFront (.of_passes ofInner true) back o

section Steps

variable {margin : String} (blank : Passes margin.toList)
include blank

theorem turns_merge {place : Operand} {members : List Member} (ofPlace : Passes place.render.toList)
    (each : ∀ m ∈ members, Passes m.render.toList) (o : Bool) :
    Turns (lines (Step.render margin (.merge place members))).toList o 1
      (o && (1 : Nat) == 0) := by
  have ofMembers : Passes (", ".intercalate (members.map Member.render)).toList := by
    refine passes_intercalate fun text member => ?_
    obtain ⟨m, isMember, rfl⟩ := List.mem_map.mp member
    exact each m isMember
  have assigned : Passes " = ".toList := by decide
  have gap : Passes " ".toList := by decide
  have whole := turns_object ((blank.append ofPlace).append assigned)
    ((gap.append ofMembers).append gap) o
  have text : (lines (Step.render margin (.merge place members))).toList =
      ((margin.toList ++ place.render.toList) ++ " = ".toList) ++ '{' ::
        (((" ".toList ++ (", ".intercalate (members.map Member.render)).toList) ++ " ".toList) ++
          '}' :: [';', '\n']) := by
    simp [Step.render, lines]
  rw [text]
  exact whole

theorem turns_answerObject {members : List Member}
    (each : ∀ m ∈ members, Passes m.render.toList) (o : Bool) :
    Turns (lines (Step.render margin (.answerObject members))).toList o 1
      (o && (1 : Nat) == 0) := by
  let entries := commas (members.map fun m => margin ++ "  " ++ m.render)
  have ofEntries : Passes (lines entries).toList := by
    refine passes_lines_commas fun text member => ?_
    obtain ⟨m, isMember, rfl⟩ := List.mem_map.mp member
    exact passes_append (passes_append blank (by decide)) (each m isMember)
  have word : Passes "return ".toList := by decide
  have lineFeed : Passes ['\n'] := by decide
  have whole := turns_object (blank.append word) ((lineFeed.append ofEntries).append blank) o
  have text : (lines (Step.render margin (.answerObject members))).toList =
      (margin.toList ++ "return ".toList) ++ '{' ::
        ((['\n'] ++ (lines entries).toList ++ margin.toList) ++ '}' :: [';', '\n']) := by
    rw [Step.render, List.cons_append, toList_lines_cons, toList_lines_append]
    simp [entries, lines]
  rw [text]
  exact whole

theorem Step.turns {s : Step} (names : ∀ x ∈ s.names, isName x) (o : Bool) :
    Turns (lines (s.render margin)).toList o s.blocks (o && s.blocks == 0) := by
  -- All but the last two are lines without a brace, and those two close the brace that they open.
  cases s with
  | bind x e =>
    have ofX := Passes.of_isName (names x (by simp [Step.names]))
    have ofE : Passes e.render.toList :=
      Expr.passes fun y member => names y (by simp [Step.names, member])
    refine turns_line (passes_append (passes_append (passes_append ?_ ?_) ofE) (by decide)) o
    · exact passes_append (passes_append blank (by decide)) ofX
    · decide
  | set place value =>
    have ofPlace : Passes place.render.toList :=
      Operand.passes fun y member => names y (by simp [Step.names, member])
    have ofValue : Passes value.render.toList :=
      Operand.passes fun y member => names y (by simp [Step.names, member])
    refine turns_line (passes_append (passes_append (passes_append ?_ ?_) ofValue) (by decide)) o
    · exact passes_append blank ofPlace
    · decide
  | increase place x =>
    have ofPlace : Passes place.render.toList :=
      Operand.passes fun y member => names y (by simp [Step.names, member])
    have ofX := Passes.of_isName (names x (by simp [Step.names]))
    refine turns_line (passes_append (passes_append (passes_append ?_ ?_) ofX) (by decide)) o
    · exact passes_append blank ofPlace
    · decide
  | push list x =>
    have ofList := Passes.of_isName (names list (by simp [Step.names]))
    have ofX := Passes.of_isName (names x (by simp [Step.names]))
    refine turns_line (passes_append (passes_append (passes_append ?_ ?_) ofX) (by decide)) o
    · exact passes_append blank ofList
    · decide
  | answer e =>
    have ofE : Passes e.render.toList := Expr.passes names
    exact turns_line (passes_append (passes_append (passes_append blank (by decide)) ofE)
      (by decide)) o
  | merge place members =>
    have ofPlace : Passes place.render.toList :=
      Operand.passes fun y member => names y (by simp [Step.names, member])
    refine turns_merge blank ofPlace (fun m isMember => Member.passes fun y member => ?_) o
    exact names y (List.mem_append_right _ (List.mem_flatMap.mpr ⟨m, isMember, member⟩))
  | answerObject members =>
    refine turns_answerObject blank (fun m isMember => Member.passes fun y member => ?_) o
    exact names y (List.mem_flatMap.mpr ⟨m, isMember, member⟩)

end Steps

theorem toList_lines_flatMap {α : Type} (items : List α) (render : α → List String) :
    (lines (items.flatMap render)).toList = items.flatMap fun i => (lines (render i)).toList := by
  induction items with
  | nil => rfl
  | cons i items ih => rw [List.flatMap_cons, toList_lines_append, ih, List.flatMap_cons]

theorem turns_nested {α : Type} {items : List α} {render : α → List String} {blocks : α → Nat}
    (each : ∀ i ∈ items, ∀ o, Turns (lines (render i)).toList o (blocks i) (o && blocks i == 0))
    {front margin back : List Char} (ofFront : Passes front) (ofMargin : Passes margin)
    (ofBack : Passes back) (o : Bool) :
    Turns (front ++ '{' :: (('\n' :: (lines (items.flatMap render)).toList ++ margin) ++
      '}' :: back)) o (max 1 (items.map blocks).sum) false := by
  have lineFeed : Passes ['\n'] := by decide
  have inside := Turns.flatMap each true
  rw [← toList_lines_flatMap, Bool.true_and] at inside
  have inner := ((Turns.of_passes lineFeed true).append inside).append (.of_passes ofMargin _)
  rw [Nat.zero_add, Nat.add_zero] at inner
  exact .around ofFront inner ofBack o

theorem Statement.turns {s : Statement} (names : ∀ x ∈ s.names, isName x) (o : Bool) :
    Turns (lines s.render).toList o s.blocks (o && s.blocks == 0) := by
  cases s with
  | step s => exact Step.turns (by decide) names o
  | guarded c steps =>
    have ofC : Passes c.render.toList :=
      Condition.passes fun y member => names y (List.mem_append_left _ member)
    have head : Passes ("  if (" ++ c.render ++ ") ").toList :=
      passes_append (passes_append (by decide) ofC) (by decide)
    have each : ∀ s ∈ steps, ∀ o, Turns (lines (Step.render "    " s)).toList o s.blocks
        (o && s.blocks == 0) := fun s isStep => Step.turns (by decide) fun y member =>
      names y (List.mem_append_right _ (List.mem_flatMap.mpr ⟨s, isStep, member⟩))
    have margin : Passes [' ', ' '] := by decide
    have lineFeed : Passes ['\n'] := by decide
    have whole := turns_nested each head margin lineFeed o
    have text : (lines (Statement.render (.guarded c steps))).toList =
        ("  if (" ++ c.render ++ ") ").toList ++ '{' ::
          (('\n' :: (lines (steps.flatMap (Step.render "    "))).toList ++ [' ', ' ']) ++
            '}' :: ['\n']) := by
      rw [Statement.render, List.cons_append, toList_lines_cons, toList_lines_append]
      simp [lines]
    have noneLeft : (o && Statement.blocks (.guarded c steps) == 0) = false := by
      simp [Statement.blocks]
    rw [text, noneLeft]
    exact whole

theorem Function.turns {f : Function} (names : ∀ x ∈ f.names, isName x) (o : Bool) :
    Turns f.render.toList o f.blocks false := by
  have ofName := Passes.of_isName (names f.name (by simp [Function.names]))
  have ofParams : Passes (", ".intercalate f.params).toList := passes_intercalate fun x member =>
    .of_isName (names x (by simp [Function.names, member]))
  have head : Passes ("export const " ++ f.name ++ " = (" ++ ", ".intercalate f.params ++
      ") => ").toList :=
    passes_append (passes_append (passes_append (passes_append (by decide) ofName) (by decide))
      ofParams) (by decide)
  have each : ∀ s ∈ f.body, ∀ o, Turns (lines s.render).toList o s.blocks
      (o && s.blocks == 0) := fun s isStatement => Statement.turns fun y member =>
    names y (List.mem_append_right _ (List.mem_flatMap.mpr ⟨s, isStatement, member⟩))
  have last : Passes [';', '\n'] := by decide
  have whole := turns_nested each head .nil last o
  have text : f.render.toList = ("export const " ++ f.name ++ " = (" ++
      ", ".intercalate f.params ++ ") => ").toList ++ '{' ::
        (('\n' :: (lines (f.body.flatMap Statement.render)).toList ++ []) ++
          '}' :: [';', '\n']) := by
    rw [Function.render, List.cons_append, toList_lines_cons, toList_lines_append]
    simp [lines]
  rw [text]
  exact whole

def Key.names (key : Key) : List String := [key.param, key.field]

def BalanceAccess.names (access : BalanceAccess) : List String :=
  [access.param, access.lookup, access.binding, access.balance]

def HelperKind.names : HelperKind → List String
  | .findFirst key | .findAll key | .update key | .delete key => key.names
  | .findWhere field _ => [field]
  | .add param => [param]
  | .updateBalance access => access.names
  | .close access status _ => status :: access.names

/-- The names in a helper: its own, and those of its parameters, of the fields that it looks at, of
its variable, and of the helper that it calls. -/
def Helper.names (h : Helper) : List String := h.name :: h.kind.names

def bodyNames : List String :=
  ["index", "updates", "amount", "deleted", "oldBalance", "balanceBefore", "balanceAfter",
    "finalBalance"]

theorem Helper.forall_names_function {p : String → Prop} (common : ∀ x ∈ bodyNames, p x)
    {h : Helper} {list item : String} (names : ∀ x ∈ list :: item :: h.names, p x) :
    ∀ x ∈ (h.function list item).names, p x := by
  simp only [bodyNames, List.forall_mem_cons] at common
  obtain ⟨name, kind⟩ := h
  cases kind <;>
    simp_all [Helper.names, HelperKind.names, Key.names, BalanceAccess.names, Helper.function,
      Function.names, HelperKind.params, HelperKind.body, HelperKind.search, HelperKind.bindIndex,
      HelperKind.answerNull, Statement.names, Step.names, Expr.names, Operand.names, Member.names,
      Condition.names]

theorem Helper.blocks_function (h : Helper) (list item : String) :
    (h.function list item).blocks = 1 := by
  obtain ⟨name, kind⟩ := h
  cases kind with
  | findFirst | findAll | findWhere | add | update | updateBalance | close | delete => rfl

theorem Helper.turns {h : Helper} {list item : String}
    (names : ∀ x ∈ list :: item :: h.names, isName x) (o : Bool) :
    Turns (h.function list item).render.toList o 1 false := by
  have turns := Function.turns (Helper.forall_names_function (by decide) names) o
  rwa [h.blocks_function] at turns

end Script

end MockData
