import MockData.Proofs.Atomicity

/-!
The temporary file of a write that fails on the way. It is removed when it cannot take the name of
the destination, but not when it cannot be filled or brought to the disk.
-/
namespace MockData.Plan

open Disk

variable {p temporary : Path} {name token : String} {data : ByteArray} {d d₁ d' : Disk}
  {a : Action} {e : DiskError} {r : Except DiskError Unit}

inductive Delivers (p temporary : Path) (data : ByteArray) : Action → Prop
  | fill : Delivers p temporary data (.append temporary data)
  | settle : Delivers p temporary data (.sync temporary)
  | rename : Delivers p temporary data (.rename temporary p)

theorem withFileName_ne_parent (p : Path) (s : String) : p.withFileName s ≠ p.parent := by
  intro same
  have lengths := congrArg (fun q : Path => q.steps.length) same
  simp [Path.withFileName, Path.parent] at lengths

theorem exists_file_of_fails (named : temporary.fileName? = some name)
    (created : d.create temporary = .ok d₁) (failed : d₁.Fails (.append temporary data) d') :
    ∃ l old, l.head? = some name ∧ d'.file? l = some old := by
  cases failed with
  | clean a =>
    obtain ⟨l, s, placed, -, -, rfl⟩ := create_eq_ok created
    refine ⟨s :: l, .empty, (fileName?_of_place placed).symm.trans named, ?_⟩
    exact file?_eq_some_iff.mpr (get?_put_self d _ (List.cons_ne_nil s l))
  | partly split written =>
    obtain ⟨l, old, located, found, rfl⟩ := append_eq_ok written
    have nonempty := ne_nil_of_not_isDirectory (not_isDirectory_of_file found)
    exact ⟨l, _, head?_of_locate named located,
      file?_eq_some_iff.mpr (get?_put_self d₁ _ nonempty)⟩

theorem Filled.exists_lands (filled : Filled d temporary data d₁)
    (bare : temporary.ending = .bare) : ∃ l, Alters (· = l) d d₁ ∧ d₁.Lands temporary l ∧
      d₁.get? l = some (.file data) := by
  obtain ⟨d₀, created, appended⟩ := filled
  obtain ⟨l, d₀', d₁', created', appended', alters, lands, found⟩ :=
    exists_filled (free_of_create bare created) data
  obtain rfl : d₀ = d₀' := Except.ok.inj (created.symm.trans created')
  obtain rfl : d₁ = d₁' := Except.ok.inj (appended.symm.trans appended')
  exact ⟨l, alters, lands, found⟩

theorem Filled.exists_file (filled : Filled d temporary data d₁)
    (bare : temporary.ending = .bare) (named : temporary.fileName? = some name) :
    ∃ l old, l.head? = some name ∧ d₁.file? l = some old := by
  obtain ⟨l, -, ⟨m, s, placed, -, -, rfl⟩, found⟩ := filled.exists_lands bare
  exact ⟨s :: m, data, (fileName?_of_place placed).symm.trans named, file?_eq_some_iff.mpr found⟩

theorem Filled.exists_remove (filled : Filled d temporary data d₁)
    (bare : temporary.ending = .bare) : ∃ d', d₁.remove temporary = .ok d' := by
  obtain ⟨l, -, lands, found⟩ := filled.exists_lands bare
  exact ⟨d₁.erase l, remove_of_lands lands found⟩

theorem Filled.untaken_of_remove
    (filled : Filled d (p.withFileName (temporaryName name token)) data d₁)
    (removed : d₁.remove (p.withFileName (temporaryName name token)) = .ok d')
    (untaken : Untaken d p token) : Untaken d' p token := by
  obtain ⟨l, alters, lands, found⟩ := filled.exists_lands rfl
  obtain rfl := Except.ok.inj ((remove_of_lands lands found).symm.trans removed)
  intro name' m old named there
  by_cases same : temporaryName name' token :: m = l
  · subst same
    rw [get?_erase_self d₁ (List.cons_ne_nil _ m)] at there
    cases there
  · rw [get?_erase_of_ne d₁ same, alters.get?_eq _ same] at there
    exact untaken name' m old named there

theorem not_untaken_of_file (named : p.fileName? = some name)
    (left : ∃ l old, l.head? = some (temporaryName name token) ∧ d.file? l = some old) :
    ¬ Untaken d p token := by
  obtain ⟨l, old, own, found⟩ := left
  exact fun untaken => untaken.head?_ne named found own

theorem cleans_up_of_delivery (named : p.fileName? = some name) (untaken : Untaken d p token)
    (late : Delivers p (p.withFileName (temporaryName name token)) data a)
    (delivery : Delivery p (p.withFileName (temporaryName name token)) data d d' [(a, e)] r) :
    r = .error e ∧ (Untaken d' p token ↔
      a = .rename (p.withFileName (temporaryName name token)) p) := by
  generalize only : [(a, e)] = faults at delivery
  cases delivery with
  | unopened stops =>
    subst only
    obtain ⟨rfl, -, -⟩ := stops.of_single
    cases late
  | unfilled created stops =>
    subst only
    obtain ⟨rfl, rfl, failed⟩ := stops.of_single
    have left := not_untaken_of_file named (exists_file_of_fails rfl created failed)
    exact ⟨rfl, by simp [left]⟩
  | unsettled filled stops =>
    subst only
    obtain ⟨rfl, rfl, ⟨-⟩⟩ := stops.of_single
    have left := not_untaken_of_file named (filled.exists_file rfl rfl)
    exact ⟨rfl, by simp [left]⟩
  | removed filled stops removed =>
    subst only
    obtain ⟨rfl, rfl, ⟨-⟩⟩ := stops.of_single
    exact ⟨rfl, by simp [filled.untaken_of_remove removed untaken]⟩
  | unremoved filled stops stops' =>
    rcases List.singleton_eq_append_iff.mp only with ⟨rfl, rfl⟩ | ⟨rfl, rfl⟩
    · obtain ⟨rfl, -, -⟩ := stops'.of_single
      cases late
    · obtain ⟨rfl, rfl, ⟨-⟩⟩ := stops.of_single
      cases stops' with
      | own refused =>
        -- nothing keeps the temporary file from being removed
        obtain ⟨d₂, removed⟩ := filled.exists_remove rfl
        have worked : (d'.perform (.remove (p.withFileName (temporaryName name token)))).1 =
          .ok () := congrArg Prod.fst (changed_of_ok removed)
        exact absurd (worked.symm.trans refused) nofun
  | renamed filled renamed late' =>
    have sync := late' (a, e) (only ▸ List.mem_singleton_self _)
    obtain rfl : a = .sync p.parent := sync
    generalize other : p.parent = parent at late
    cases late
    exact absurd other.symm (withFileName_ne_parent p _)

/-- When one step fails between the opening of the temporary file and the rename, or the rename
itself, the write fails with that error; and it leaves no temporary file exactly if the step is the
rename. -/
theorem cleans_up_iff (untaken : Untaken d p token) (named : p.fileName? = some name)
    (late : Delivers p (p.withFileName (temporaryName name token)) data a)
    (fares : Fares [(a, e)] (writeFile p data token) d r d') :
    r = .error e ∧ (Untaken d' p token ↔
      a = .rename (p.withFileName (temporaryName name token)) p) := by
  have others : ∀ {r d'} {faults : List (Action × DiskError)},
      Fares faults (makeDirectories p.start p.steps.tail) d r d' → (a, e) ∉ faults := by
    intro r d' faults made member
    have only : (makeDirectories p.start p.steps.tail).Only fun b =>
        ¬ Delivers p (p.withFileName (temporaryName name token)) data b :=
      only_makeDirectories (fun _ => nofun) (fun _ => nofun) p.start p.steps.tail
    exact only.of_mem_faults made (a, e) member late
  rw [writeFile_eq] at fares
  rcases fares.of_bind with ⟨e', rfl, made⟩ | ⟨fs, gs, ⟨⟩, d₁, split, made, put⟩
  · exact absurd (List.mem_singleton_self _) (others made)
  · rcases List.singleton_eq_append_iff.mp split with ⟨rfl, rfl⟩ | ⟨rfl, rfl⟩
    · have same := (grown_of_fares made).1
      exact cleans_up_of_delivery named (untaken.of_sameFiles same) late
        (delivery_of_putInPlace named put)
    · exact absurd (List.mem_singleton_self _) (others made)

theorem cleans_up_iff_fullDisk :
    Untaken moduleDisk modulePath "7" ∧ modulePath.fileName? = some "mod.js" ∧
      Fares [(.append moduleTemporary "new".toUTF8, fullDisk)]
        (writeFile modulePath "new".toUTF8 "7") moduleDisk (.error fullDisk)
          (halfwayDisk "n".toUTF8) ∧
      ¬ Untaken (halfwayDisk "n".toUTF8) modulePath "7" ∧
      Fares [(.rename moduleTemporary modulePath, fullDisk)]
        (writeFile modulePath "new".toUTF8 "7") moduleDisk (.error fullDisk)
          ((halfwayDisk "new".toUTF8).erase [".mod.js.7.tmp", "out"]) ∧
      Untaken ((halfwayDisk "new".toUTF8).erase [".mod.js.7.tmp", "out"]) modulePath "7" := by
  have named : modulePath.fileName? = some "mod.js" := by decide +kernel
  have unmoved : Fares [(.rename moduleTemporary modulePath, fullDisk)]
      (writeFile modulePath "new".toUTF8 "7") moduleDisk (.error fullDisk)
        ((halfwayDisk "new".toUTF8).erase [".mod.js.7.tmp", "out"]) :=
    .works (.works (.works (.works (.works (.fails (.clean _) (.works (.done _ _)))))))
  have unfilled := (cleans_up_iff untaken_moduleDisk named .fill fares_fullDisk).2
  have unrenamed := (cleans_up_iff untaken_moduleDisk named .rename unmoved).2
  exact ⟨untaken_moduleDisk, named, fares_fullDisk, mt unfilled.mp nofun, unmoved,
    unrenamed.mpr rfl⟩

theorem not_cleans_up :
    ¬ ∀ (p : Path) (data : ByteArray) (token name : String) (d d' : Disk) (a : Action)
      (e : DiskError) (r : Except DiskError Unit),
      Untaken d p token → p.fileName? = some name →
      Delivers p (p.withFileName (temporaryName name token)) data a →
      Fares [(a, e)] (writeFile p data token) d r d' →
      (∃ e', r = .error e') ∧ Untaken d' p token := by
  intro cleans
  have named : modulePath.fileName? = some "mod.js" := by decide +kernel
  have untaken := (cleans _ _ _ _ _ _ _ _ _ untaken_moduleDisk named .fill fares_fullDisk).2
  have left : (halfwayDisk "n".toUTF8).get? [temporaryName "mod.js" "7", "out"] =
      some (.file "n".toUTF8) := by rfl
  exact untaken "mod.js" _ _ named left

end MockData.Plan
