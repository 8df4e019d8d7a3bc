import MockData.Command.Run
import MockData.Proofs.Overwriting
import MockData.Proofs.Sparing

/-!
What the command leaves when it succeeds. The report is written after the module, whatever is
under its path by then, and so it may take the place of the module that the command tells of.
-/
namespace MockData.Command

open Disk Generation Plan Written

structure Ending where
  told : String
  announced : String
  module : Written
  report : Option Written
  input : Option String
  deriving DecidableEq, Repr

def reportOf (stamp : Stamp) (options : Options) (report : RunReport) : Option Written :=
  (options.lookup "report").map fun path =>
    ⟨path, report.toJson.render .pretty, stamp.reportToken⟩

namespace Ending

def ofCustomers (stamp : Stamp) (settings : Settings) (options : Options)
    (run : Run CustomerStore) : Ending where
  told := customersText run
  announced := run.outputPath
  module := ⟨(options.lookup "out").getD settings.customers.output,
    Customer.moduleText run.store.customers, stamp.moduleToken⟩
  report := reportOf stamp options run.report
  input := none

def ofSavingBooks (stamp : Stamp) (settings : Settings) (options : Options)
    (run : Run SavingBookStore) : Ending where
  told := savingBooksText run
  announced := run.outputPath
  module := ⟨(options.lookup "out").getD settings.savingBooks.output,
    SavingBook.moduleText run.store.books, stamp.moduleToken⟩
  report := reportOf stamp options run.report
  input := some ((options.lookup "input").getD settings.savingBooks.input)

def writes (e : Ending) : List Written := e.report.toList ++ [e.module]

structure Fresh (e : Ending) (d : Disk) : Prop where
  input : ∀ p ∈ e.input, ∀ l, d.locate (.ofText p) = .ok l →
    ∀ w ∈ e.writes, w.temporary? ≠ l.head?
  module : ∀ r ∈ e.report, r.temporary? ≠ (Path.ofText e.module.path).fileName?

/-- The module is where the command tells, and the input is as it was. -/
structure Truthful (e : Ending) (d d' : Disk) : Prop where
  announced : e.announced = e.module.path
  module : d'.read (.ofText e.module.path) = .ok e.module.text.toUTF8
  input : ∀ p ∈ e.input, d'.read (.ofText p) = d.read (.ofText p)

/-- The report has another place than the module, and what the input is overwritten with, if with
anything, is what it was. -/
structure Apart (e : Ending) (d d' : Disk) : Prop where
  report : ∀ r ∈ e.report, d'.locate (.ofText r.path) ≠ d'.locate (.ofText e.module.path)
  input : ∀ p ∈ e.input, ∀ l, d.locate (.ofText p) = .ok l →
    ∀ w ∈ last? e.writes d' l, d.read (.ofText p) = .ok w.text.toUTF8

end Ending

inductive Ends (stamp : Stamp) (args : Arguments) (d d' : Disk) : Ending → Prop
  | customers {settings : Settings} {run : Run CustomerStore}
      (about : args.subcommand = .customers)
      (loaded : ((Settings.load args.config).run d).1 = .ok settings)
      (ran : (customers stamp settings args.options).run d = (.ok run, d')) :
      Ends stamp args d d' (.ofCustomers stamp settings args.options run)
  | savingBooks {settings : Settings} {run : Run SavingBookStore}
      (about : args.subcommand = .savingBooks)
      (loaded : ((Settings.load args.config).run d).1 = .ok settings)
      (ran : (savingBooks stamp settings args.options).run d = (.ok run, d')) :
      Ends stamp args d d' (.ofSavingBooks stamp settings args.options run)

variable {stamp : Stamp} {args : Arguments} {d d' : Disk} {e : Ending}

theorem only_load (path : String) : (Settings.load path).Only (·.isQuery) := by
  refine Only.bind (Only.attempt (a := .probe _) rfl) fun r => ?_
  rcases r with e | there | there
  case ok.true =>
    refine Only.bind (only_readText (.ofText path)).mapError fun s => ?_
    split
    · exact trivial
    · exact trivial
  all_goals exact trivial

theorem ends_of_perform {output : String}
    (ran : (perform stamp args).run d = (.ok output, d')) :
    ∃ e, Ends stamp args d d' e ∧ e.told = output := by
  obtain ⟨settings, d₁, loaded, ran⟩ := run_bind_eq_ok ran
  have loaded' := run_mapError_eq_ok loaded
  obtain rfl : d = d₁ :=
    ((only_load args.config).run_of_isQuery d).symm.trans (congrArg Prod.snd loaded')
  obtain ⟨u, d₂, checked, ran⟩ := run_bind_eq_ok ran
  obtain rfl : d = d₂ := congrArg Prod.snd (run_mapError_eq_ok checked)
  split at ran
  · rename_i about
    obtain ⟨run, d₃, made, last⟩ := run_bind_eq_ok ran
    obtain ⟨rfl, rfl⟩ : customersText run = output ∧ d₃ = d' := by simpa using last
    exact ⟨_, .customers about (congrArg Prod.fst loaded') (run_mapError_eq_ok made), rfl⟩
  · rename_i about
    obtain ⟨run, d₃, made, last⟩ := run_bind_eq_ok ran
    obtain ⟨rfl, rfl⟩ : savingBooksText run = output ∧ d₃ = d' := by simpa using last
    exact ⟨_, .savingBooks about (congrArg Prod.fst loaded') (run_mapError_eq_ok made), rfl⟩

theorem status_ne_zero (e : CommandError) : e.status ≠ 0 := by
  rw [CommandError.status.eq_def]
  split
  · decide
  · decide

theorem ends_of_plan {ε : Type} {texts : List String} {outcome : Outcome}
    (parsed : Arguments.ofList texts = .ok args)
    (ran : (plan stamp texts : Plan ε Outcome).run d = (.ok outcome, d'))
    (succeeded : outcome.status = 0) : ∃ e, Ends stamp args d d' e ∧ e.told = outcome.output := by
  rw [plan, parsed] at ran
  simp only [run_settle] at ran
  obtain ⟨settled, rfl⟩ := Prod.mk.inj ran
  cases performed : ((perform stamp args).run d).1 with
  | error e =>
    rw [performed] at settled
    obtain rfl : e.outcome = outcome := Except.ok.inj settled
    exact absurd succeeded (status_ne_zero e)
  | ok output =>
    rw [performed] at settled
    obtain rfl : ⟨0, output, ""⟩ = outcome := Except.ok.inj settled
    exact ends_of_perform (Prod.ext performed rfl)

theorem done_of_writeModule {path text token : String} {bytes : UInt64}
    (ran : (writeModule path text token).run d = (.ok bytes, d')) :
    Done d [⟨path, text, token⟩] d' := by
  obtain ⟨⟨⟩, d₁, written, last⟩ := run_bind_eq_ok ran
  obtain rfl : d₁ = d' := congrArg Prod.snd last
  exact .cons .nil (run_mapError_eq_ok written)

theorem done_of_generateCustomers {output : String} {customers : List Customer}
    {run : Run CustomerStore}
    (ran : (generateCustomers stamp output customers).run d = (.ok run, d')) :
    run.outputPath = output ∧
      Done d [⟨output, Customer.moduleText run.store.customers, stamp.moduleToken⟩] d' := by
  obtain ⟨issues, d₁, valid, ran⟩ := run_bind_eq_ok ran
  obtain rfl : d = d₁ := congrArg Prod.snd (run_mapError_eq_ok valid)
  obtain ⟨bytes, d₂, written, ran⟩ := run_bind_eq_ok ran
  obtain ⟨duration, d₃, timed, ran⟩ := run_bind_eq_ok ran
  obtain rfl : d₂ = d₃ := congrArg Prod.snd timed
  cases ran
  exact ⟨rfl, done_of_writeModule written⟩

theorem done_of_transformSavingBooks {options : SavingBookOptions} {run : Run SavingBookStore}
    (ran : (transformSavingBooks stamp options).run d = (.ok run, d')) :
    (∃ data, d.read (.ofText options.input) = .ok data) ∧ run.outputPath = options.output ∧
      Done d [⟨options.output, SavingBook.moduleText run.store.books, stamp.moduleToken⟩] d' := by
  rcases refused_or_writes stamp options d with ⟨failed, -⟩ | ⟨text, directory, writes⟩
  · rw [ran] at failed
    cases failed
  · rw [run_of_writes stamp writes] at ran
    obtain ⟨bytes, d₁, written, ran⟩ := run_bind_eq_ok ran
    obtain ⟨duration, d₂, timed, ran⟩ := run_bind_eq_ok ran
    obtain rfl : d₁ = d₂ := congrArg Prod.snd timed
    cases ran
    have read := (readInput_eq_ok (Prod.ext writes.read rfl)).2
    exact ⟨⟨_, read⟩, rfl, done_of_writeModule written⟩

theorem of_withReport {σ : Type} {options : Options} {p : GenerationPlan (Run σ)} {run : Run σ}
    (ran : (withReport stamp (options.lookup "report") p).run d = (.ok run, d')) :
    ∃ d₁, p.run d = (.ok run, d₁) ∧ ∀ {ws : List Written}, Done d ws d₁ →
      Done d ((reportOf stamp options run.report).toList ++ ws) d' := by
  obtain ⟨run', d₁, made, ran⟩ := run_bind_eq_ok ran
  rw [reportOf]
  cases given : options.lookup "report" with
  | none =>
    rw [given] at ran
    cases ran
    exact ⟨_, made, fun done => done⟩
  | some path =>
    rw [given] at ran
    obtain ⟨⟨⟩, d₂, written, last⟩ := run_bind_eq_ok ran
    cases last
    exact ⟨d₁, made, fun done => .cons done (run_mapError_eq_ok written)⟩

theorem head?_render_object (style : Json.Style) (ms : List (String × Json.Value)) :
    ((Json.Value.object ms).render style).toList.head? = some '\x7b' := by
  rw [Json.Value.render, String.toList_ofList, Json.Value.chars, Json.enclose]
  split <;> rfl

theorem head?_text (layout : Script.Layout) (records : List Script.Entries) :
    (layout.text records).toList.head? = some '/' := by
  simp [Script.Layout.text, Script.Layout.comment, Script.lines, String.join_cons]

theorem head?_of_reportOf {options : Options} {report : RunReport} :
    ∀ r ∈ reportOf stamp options report, r.text.toList.head? = some '\x7b' := by
  intro r member
  obtain ⟨path, -, rfl⟩ := Option.map_eq_some_iff.mp member
  exact head?_render_object .pretty _

structure Ending.Sound (e : Ending) (d d' : Disk) : Prop where
  announced : e.announced = e.module.path
  done : Done d e.writes d'
  readable : ∀ p ∈ e.input, ∃ data, d.read (.ofText p) = .ok data
  head_report : ∀ r ∈ e.report, r.text.toList.head? = some '\x7b'
  head_module : e.module.text.toList.head? = some '/'

theorem Ends.sound (ends : Ends stamp args d d' e) : e.Sound d d' := by
  cases ends with
  | customers about loaded ran =>
    obtain ⟨d₁, made, reported⟩ := of_withReport ran
    obtain ⟨announced, done⟩ := done_of_generateCustomers made
    exact {
      announced := announced
      done := reported done
      readable := fun p given => nomatch given
      head_report := head?_of_reportOf
      head_module := head?_text Customer.layout _ }
  | savingBooks about loaded ran =>
    obtain ⟨d₁, made, reported⟩ := of_withReport ran
    obtain ⟨readable, announced, done⟩ := done_of_transformSavingBooks made
    exact {
      announced := announced
      done := reported done
      readable := by
        rintro p ⟨⟩
        exact readable
      head_report := head?_of_reportOf
      head_module := head?_text SavingBook.layout _ }

namespace Ending

theorem mem_writes {w : Written} : w ∈ e.writes ↔ w ∈ e.report ∨ w = e.module := by
  simp [writes]

theorem separate_writes (fresh : e.Fresh d) : Separate e.writes := by
  rw [writes, Separate]
  cases reported : e.report with
  | none => simp
  | some r => simpa using fresh.module r reported

theorem Sound.report_ne (sound : e.Sound d d') {r : Written} (reported : r ∈ e.report) :
    r.text.toUTF8 ≠ e.module.text.toUTF8 := by
  intro same
  have heads := sound.head_report r reported
  rw [String.toByteArray_inj.mp same, sound.head_module] at heads
  exact absurd heads (by decide)

theorem Sound.read_report (sound : e.Sound d d') {r : Written} (reported : r ∈ e.report) :
    d'.read (.ofText r.path) = .ok r.text.toUTF8 := by
  have done := sound.done
  rw [writes, Option.mem_def.mp reported] at done
  cases done with
  | cons earlier ran => exact read_of_writeFile ran

theorem Sound.not_truthful (sound : e.Sound d d') {r : Written} (reported : r ∈ e.report)
    (same : r.path = e.module.path ∨
      r.path ∈ e.input ∧ d.read (.ofText r.path) ≠ .ok r.text.toUTF8) : ¬ e.Truthful d d' := by
  intro truthful
  have after := sound.read_report reported
  rcases same with path | ⟨given, other⟩
  · rw [path, truthful.module] at after
    exact sound.report_ne reported (Except.ok.inj after).symm
  · rw [truthful.input r.path given] at after
    exact other after

theorem Sound.module_iff (sound : e.Sound d d') (fresh : e.Fresh d) :
    d'.read (.ofText e.module.path) = .ok e.module.text.toUTF8 ↔
      ∀ r ∈ e.report, d'.locate (.ofText r.path) ≠ d'.locate (.ofText e.module.path) := by
  obtain ⟨l, -, holds⟩ := holds_self_of_done sound.done (separate_writes fresh) e.module
    (mem_writes.mpr (.inr rfl))
  have leads : e.module.leadsTo d' l := leadsTo_iff.mpr holds.1
  rw [holds.read, holds.1, writes]
  cases reported : e.report with
  | none => simp [dataAt_cons, leads]
  | some r =>
    have other : r.text.toByteArray ≠ e.module.text.toByteArray := sound.report_ne reported
    by_cases covered : r.leadsTo d' l
    · simp [dataAt_cons, covered, other, leadsTo_iff.mp covered]
    · have apart : d'.locate (.ofText r.path) ≠ .ok l := fun same => covered (leadsTo_iff.mpr same)
      simp [dataAt_cons, covered, leads, apart]

theorem Sound.input_iff (sound : e.Sound d d') (fresh : e.Fresh d) {p : String}
    (given : p ∈ e.input) : d'.read (.ofText p) = d.read (.ofText p) ↔
      ∀ l, d.locate (.ofText p) = .ok l →
        ∀ w ∈ last? e.writes d' l, d.read (.ofText p) = .ok w.text.toUTF8 := by
  obtain ⟨old, read⟩ := sound.readable p given
  obtain ⟨l, holds⟩ := read_eq_ok.mp read
  have after := holds_of_done sound.done (separate_writes fresh) (fresh.input p given l holds.1)
    holds
  rw [after.read, read]
  constructor
  · intro same m located w last
    obtain rfl : l = m := Except.ok.inj (holds.1.symm.trans located)
    rw [← same, dataAt, Option.mem_def.mp last]
  · intro same
    rw [dataAt]
    cases last : last? e.writes d' l with
    | none => rfl
    | some w => exact (same l holds.1 w last).symm

theorem Sound.truthful_iff (sound : e.Sound d d') (fresh : e.Fresh d) :
    e.Truthful d d' ↔ e.Apart d d' := by
  constructor
  · rintro ⟨-, module, input⟩
    exact ⟨(sound.module_iff fresh).mp module,
      fun p given => (sound.input_iff fresh given).mp (input p given)⟩
  · rintro ⟨report, input⟩
    exact ⟨sound.announced, (sound.module_iff fresh).mpr report,
      fun p given => (sound.input_iff fresh given).mpr (input p given)⟩

theorem Sound.apart_of_names (sound : e.Sound d d') (fresh : e.Fresh d)
    (report : ∀ r ∈ e.report,
      (Path.ofText r.path).fileName? ≠ (Path.ofText e.module.path).fileName?)
    (input : ∀ p ∈ e.input, ∀ l, d.locate (.ofText p) = .ok l →
      ∀ w ∈ e.writes, (Path.ofText w.path).fileName? ≠ l.head?) : e.Apart d d' := by
  have lies := holds_self_of_done sound.done (separate_writes fresh)
  constructor
  · intro r reported same
    obtain ⟨l, named, holds⟩ := lies r (mem_writes.mpr (.inl reported))
    obtain ⟨m, named', holds'⟩ := lies e.module (mem_writes.mpr (.inr rfl))
    rw [holds.1, holds'.1] at same
    obtain rfl : l = m := Except.ok.inj same
    exact report r reported (named.trans named'.symm)
  · intro p given l located w last
    obtain ⟨member, leads⟩ := of_mem_last? last
    obtain ⟨m, named, holds⟩ := lies w member
    obtain rfl : m = l := Except.ok.inj (holds.1.symm.trans (leadsTo_iff.mp leads))
    exact absurd named (input p given m located w member)

end Ending

/-- What a command that succeeds has told is true exactly if the report and the module have not
come to lie over one another or over the input. -/
theorem truthful_iff_apart {ε : Type} {texts : List String} {outcome : Outcome}
    (parsed : Arguments.ofList texts = .ok args)
    (ran : (plan stamp texts : Plan ε Outcome).run d = (.ok outcome, d'))
    (succeeded : outcome.status = 0) :
    ∃ e, Ends stamp args d d' e ∧ e.told = outcome.output ∧
      (e.Fresh d → (e.Truthful d d' ↔ e.Apart d d')) := by
  obtain ⟨e, ends, told⟩ := ends_of_plan parsed ran succeeded
  exact ⟨e, ends, told, ends.sound.truthful_iff⟩

def reportingTo (path : String) : Arguments := ⟨"mockgen.toml", .savingBooks, [("report", path)]⟩

def reportingTexts (path : String) : List String := ["saving-books", "--report", path]

def singleBook : Outcome :=
  ⟨0, "Found 1 saving books\nGenerated savingBooks_new.js\nTotal books transformed: 1\n", ""⟩

theorem load_sample : ((Settings.load "mockgen.toml").run sampleDisk).1 = .ok {} := by
  decide +kernel

theorem name_module : (Path.ofText "savingBooks_new.js").fileName? = some "savingBooks_new.js" := by
  decide +kernel

theorem ends_sample {path : String} (ends : Ends sampleStamp (reportingTo path) sampleDisk d' e) :
    e.input = some "savingBooks.js" ∧
      ∃ text report, e.module = ⟨"savingBooks_new.js", text, sampleStamp.moduleToken⟩ ∧
        e.report = some ⟨path, report, sampleStamp.reportToken⟩ := by
  cases ends with
  | customers about loaded ran => cases about
  | savingBooks about loaded ran =>
    cases load_sample.symm.trans loaded
    exact ⟨rfl, _, _, rfl, rfl⟩

theorem fresh_sample {path name : String} (named : (Path.ofText path).fileName? = some name)
    (other : temporaryName name sampleStamp.reportToken ∉ ["savingBooks.js", "savingBooks_new.js"])
    (ends : Ends sampleStamp (reportingTo path) sampleDisk d' e) : e.Fresh sampleDisk := by
  obtain ⟨input, text, report, module, reported⟩ := ends_sample ends
  have other' : temporaryName "savingBooks_new.js" sampleStamp.moduleToken ≠ "savingBooks.js" := by
    decide +kernel
  rw [List.mem_cons, List.mem_singleton, not_or] at other
  constructor
  · rintro p given l located
    obtain rfl : "savingBooks.js" = p := Option.some.inj (input.symm.trans given)
    obtain rfl : ["savingBooks.js"] = l := Except.ok.inj (locate_input_detour.symm.trans located)
    simp [Ending.writes, reported, module, temporary?, named, name_module, other.1, other']
  · rintro r given
    obtain rfl := Option.some.inj (reported.symm.trans given)
    simp [module, temporary?, named, name_module, other.2]

theorem truthful_iff_apart_beside : ∃ d' e,
    (plan sampleStamp (reportingTexts "report.json") : Plan DiskError Outcome).run sampleDisk =
      (.ok singleBook, d') ∧
    Ends sampleStamp (reportingTo "report.json") sampleDisk d' e ∧ e.told = singleBook.output ∧
    e.Fresh sampleDisk ∧ e.Apart sampleDisk d' ∧ e.Truthful sampleDisk d' := by
  have parsed : Arguments.ofList (reportingTexts "report.json") =
      .ok (reportingTo "report.json") := by decide +kernel
  have outcome : ((plan sampleStamp (reportingTexts "report.json") :
      Plan DiskError Outcome).run sampleDisk).1 = .ok singleBook := by decide +kernel
  have named : (Path.ofText "report.json").fileName? = some "report.json" := by decide +kernel
  obtain ⟨d', ran⟩ := exists_run outcome
  obtain ⟨e, ends, told, holds⟩ := truthful_iff_apart parsed ran rfl
  have fresh := fresh_sample named (by decide +kernel) ends
  have apart : e.Apart sampleDisk d' := by
    obtain ⟨input, text, report, module, reported⟩ := ends_sample ends
    refine ends.sound.apart_of_names fresh ?_ ?_
    · rintro r given
      obtain rfl := Option.some.inj (reported.symm.trans given)
      simp [module, named, name_module]
    · rintro p given l located
      obtain rfl : "savingBooks.js" = p := Option.some.inj (input.symm.trans given)
      obtain rfl : ["savingBooks.js"] = l := Except.ok.inj (locate_input_detour.symm.trans located)
      simp [Ending.writes, reported, module, named, name_module]
  exact ⟨d', e, ran, ends, told, fresh, apart, (holds fresh).mpr apart⟩

theorem read_sample : sampleDisk.read (.ofText "savingBooks.js") = .ok sampleInput.toUTF8 :=
  read_eq_ok.mpr ⟨_, locate_input_detour, rfl⟩

def Misleads (path : String) : Prop := ∃ d' e,
  Arguments.ofList (reportingTexts path) = .ok (reportingTo path) ∧
  (plan sampleStamp (reportingTexts path) : Plan DiskError Outcome).run sampleDisk =
    (.ok singleBook, d') ∧
  Ends sampleStamp (reportingTo path) sampleDisk d' e ∧ e.told = singleBook.output ∧
  ¬ e.Truthful sampleDisk d'

theorem misleads_of_same_path {path : String}
    (parsed : Arguments.ofList (reportingTexts path) = .ok (reportingTo path))
    (outcome : ((plan sampleStamp (reportingTexts path) : Plan DiskError Outcome).run
      sampleDisk).1 = .ok singleBook)
    (same : path = "savingBooks_new.js" ∨ path = "savingBooks.js") : Misleads path := by
  obtain ⟨d', ran⟩ := exists_run outcome
  obtain ⟨e, ends, told⟩ := ends_of_plan parsed ran rfl
  obtain ⟨input, text, report, module, reported⟩ := ends_sample ends
  refine ⟨d', e, parsed, ran, ends, told, ends.sound.not_truthful reported ?_⟩
  rcases same with rfl | rfl
  · exact .inl (by rw [module])
  · refine .inr ⟨input, ?_⟩
    rw [read_sample]
    intro same
    have heads := ends.sound.head_report _ reported
    rw [← String.toByteArray_inj.mp (Except.ok.inj same)] at heads
    exact absurd heads (by decide +kernel)

theorem misleads_module_input : Misleads "savingBooks_new.js" ∧ Misleads "savingBooks.js" := by
  constructor
  · exact misleads_of_same_path (by decide +kernel) (by decide +kernel) (.inl rfl)
  · exact misleads_of_same_path (by decide +kernel) (by decide +kernel) (.inr rfl)

end MockData.Command
