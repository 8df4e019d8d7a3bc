import Mathlib.Data.List.Forall2
import MockData.Json.Record
import MockData.Proofs.Keys
import MockData.Proofs.Reading

/-!
Arrays, objects and records are read back part by part. Members of a record, in their order and
perhaps without the optional ones, are said to fill it when reading them one after the other makes
one value of the record out of another.
-/
namespace MockData.Json

open Text

variable {style : Style} {α : Type}

theorem intercalate_comma (p : List Char) (ps : List (List Char)) :
    [','].intercalate (p :: ps) = p ++ ps.flatMap (',' :: ·) := by
  induction ps generalizing p with
  | nil => simp
  | cons q qs ih => simp [ih]

def more (style : Style) (depth : Nat) (closing : Char) (parts : List (List Char))
    (rest : List Char) : List Char :=
  parts.flatMap (fun part => ',' :: (style.gap (depth + 1) ++ part))
    ++ (style.gap depth ++ closing :: rest)

theorem more_cons (depth : Nat) (closing : Char) (part : List Char) (parts : List (List Char))
    (rest : List Char) : more style depth closing (part :: parts) rest =
      ',' :: (style.gap (depth + 1) ++ (part ++ more style depth closing parts rest)) := by
  simp [more]

theorem enclose_nil (depth : Nat) (opening closing : Char) (rest : List Char) :
    enclose style depth opening closing [] ++ rest = opening :: closing :: rest := rfl

theorem enclose_cons (depth : Nat) (opening closing : Char) (part : List Char)
    (parts : List (List Char)) (rest : List Char) :
    enclose style depth opening closing (part :: parts) ++ rest =
      opening :: (style.gap (depth + 1) ++ (part ++ more style depth closing parts rest)) := by
  simp [enclose, intercalate_comma, more, List.flatMap_map]

theorem length_lt_more (style : Style) (depth : Nat) (closing : Char) (parts : List (List Char))
    (rest : List Char) : parts.length < (more style depth closing parts rest).length := by
  induction parts with
  | nil =>
    simp only [more, List.flatMap_nil, List.nil_append, List.length_append, List.length_cons,
      List.length_nil]
    omega
  | cons part parts ih =>
    rw [more_cons]
    simp only [List.length_cons, List.length_append]
    omega

theorem stops_of_isBlank {c : Char} (blank : isBlank c) (cs : List Char) : Stops (c :: cs) := by
  simp only [isBlank, Bool.or_eq_true, decide_eq_true_eq] at blank
  rintro _ ⟨⟩
  rcases blank with ((rfl | rfl) | rfl) | rfl <;> decide

theorem stops_bracket (rest : List Char) : Stops (']' :: rest) := by
  rintro _ ⟨⟩
  decide

theorem stops_brace (rest : List Char) : Stops ('\x7d' :: rest) := by
  rintro _ ⟨⟩
  decide

theorem stops_more (plain : style.Plain) (depth : Nat) {closing : Char} {rest : List Char}
    (stops : Stops (closing :: rest)) (parts : List (List Char)) :
    Stops (more style depth closing parts rest) := by
  cases parts with
  | cons part parts =>
    rw [more_cons]
    rintro _ ⟨⟩
    decide
  | nil =>
    rw [more, List.flatMap_nil, List.nil_append]
    cases gap : style.gap depth with
    | nil => exact stops
    | cons c cs => exact stops_of_isBlank (plain.gap depth c (gap ▸ List.mem_cons_self)) _

theorem itemChars_eq_map (depth : Nat) (vs : List Value) :
    Value.itemChars style depth vs = vs.map (Value.chars style depth) := by
  induction vs with
  | nil => rfl
  | cons v vs ih => rw [Value.itemChars, ih, List.map_cons]

def memberText (style : Style) (depth : Nat) (m : String × Value) : List Char :=
  quote m.1 ++ style.colon ++ m.2.chars style depth

theorem memberChars_eq_map (depth : Nat) (ms : List (String × Value)) :
    Value.memberChars style depth ms = ms.map (memberText style depth) := by
  induction ms with
  | nil => rfl
  | cons m ms ih => rw [Value.memberChars, ih, List.map_cons]; rfl

theorem nextItem_closing {blanks : List Char} (allBlank : ∀ c ∈ blanks, isBlank c) (first : Bool)
    (rest : List Char) : nextItem first (blanks ++ ']' :: rest) = .ok (.inr rest) := by
  rw [nextItem, dropBlanks_append allBlank, dropBlanks_cons rfl]
  rfl

theorem nextItem_first {blanks : List Char} (allBlank : ∀ c ∈ blanks, isBlank c) {c : Char}
    (solid : isBlank c = false) (unclosed : c ≠ ']') (cs : List Char) :
    nextItem true (blanks ++ c :: cs) = .ok (.inl (c :: cs)) := by
  rw [nextItem, dropBlanks_append allBlank, dropBlanks_cons solid]
  split <;> simp_all

theorem nextItem_comma {blanks : List Char} (allBlank : ∀ c ∈ blanks, isBlank c) {c : Char}
    (solid : isBlank c = false) (unclosed : c ≠ ']') (cs : List Char) :
    nextItem false (',' :: (blanks ++ c :: cs)) = .ok (.inl (c :: cs)) := by
  have reached : dropBlanks (blanks ++ c :: cs) = c :: cs := by
    rw [dropBlanks_append allBlank, dropBlanks_cons solid]
  rw [nextItem, dropBlanks_cons rfl]
  simp [reached, unclosed]

theorem nextMember_closing {blanks : List Char} (allBlank : ∀ c ∈ blanks, isBlank c)
    (first : Bool) (rest : List Char) :
    nextMember first (blanks ++ '\x7d' :: rest) = .ok (.inr rest) := by
  rw [nextMember, dropBlanks_append allBlank, dropBlanks_cons rfl]
  rfl

theorem quote_append (s : String) (cs : List Char) :
    quote s ++ cs = '"' :: (s.toList.flatMap quoteChar ++ '"' :: cs) := by
  simp [quote]

theorem nextMember_first {blanks : List Char} (allBlank : ∀ c ∈ blanks, isBlank c) (name : String)
    (cs : List Char) : nextMember true (blanks ++ (quote name ++ cs)) = .ok (.inl (name, cs)) := by
  rw [nextMember, dropBlanks_append allBlank, quote_append, dropBlanks_cons rfl]
  simp [quotedRest_flatMap, Except.map]

theorem nextMember_comma {blanks : List Char} (allBlank : ∀ c ∈ blanks, isBlank c) (name : String)
    (cs : List Char) :
    nextMember false (',' :: (blanks ++ (quote name ++ cs))) = .ok (.inl (name, cs)) := by
  have reached : dropBlanks (blanks ++ (quote name ++ cs)) =
      '"' :: (name.toList.flatMap quoteChar ++ '"' :: cs) := by
    rw [dropBlanks_append allBlank, quote_append, dropBlanks_cons rfl]
  rw [nextMember, dropBlanks_cons rfl]
  simp [reached, quotedRest_flatMap, Except.map]

theorem colon_append (plain : style.Plain) : ∃ blanks, (∀ c ∈ blanks, isBlank c) ∧
    ∀ cs, colon (style.colon ++ cs) = .ok (blanks ++ cs) := by
  obtain ⟨blanks, eq, allBlank⟩ := plain.colon
  refine ⟨blanks, allBlank, fun cs => ?_⟩
  rw [eq, colon, List.cons_append, dropBlanks_cons rfl]
  rfl

def Value.Opens (style : Style) (v : Value) : Prop :=
  ∀ depth, ∃ c cs, v.chars style depth = c :: cs ∧ isBlank c = false ∧ c ≠ ']'

theorem opens_object (ms : List (String × Value)) : (Value.object ms).Opens style := by
  intro depth
  rw [Value.chars, enclose]
  split
  · exact ⟨_, _, rfl, rfl, by decide⟩
  · exact ⟨_, _, rfl, rfl, by decide⟩

theorem itemsFrom_more {read : Reader α} (plain : style.Plain) {vs : List Value} {as : List α}
    (takes : List.Forall₂ (fun v a => Takes read style v a ∧ v.Opens style) vs as) (depth : Nat)
    (rest : List Char) {fuel : Nat} (enough : vs.length < fuel) :
    itemsFrom read fuel false
      (more style depth ']' (vs.map (Value.chars style (depth + 1))) rest) = .ok (as, rest) := by
  induction takes generalizing fuel with
  | nil =>
    obtain ⟨fuel, rfl⟩ := Nat.exists_eq_add_of_lt enough
    have ended := nextItem_closing (plain.gap depth) false rest
    simp [itemsFrom, more, ended, bind, Except.bind, pure, Except.pure]
  | @cons v a vs as first later ih =>
    obtain ⟨fuel, rfl⟩ : ∃ n, fuel = n + 1 := ⟨fuel - 1, by omega⟩
    have after := @ih fuel (by simpa using enough)
    obtain ⟨c, cs, chars, solid, unclosed⟩ := first.2 (depth + 1)
    have taken := first.1 (depth + 1) [] _ (by simp) (stops_more plain depth
      (stops_bracket rest) (vs.map (Value.chars style (depth + 1))))
    rw [List.nil_append, chars, List.cons_append] at taken
    rw [List.map_cons, more_cons, chars, List.cons_append, itemsFrom,
      nextItem_comma (plain.gap (depth + 1)) solid unclosed]
    simp [bind, Except.bind, pure, Except.pure, taken, after]

theorem itemsFrom_true {read : Reader α} {v : Value} (opens : v.Opens style) (plain : style.Plain)
    (depth fuel : Nat) (cs : List Char) :
    itemsFrom read fuel true (style.gap depth ++ (v.chars style depth ++ cs)) =
      itemsFrom read fuel false (',' :: (style.gap depth ++ (v.chars style depth ++ cs))) := by
  obtain ⟨c, ds, chars, solid, unclosed⟩ := opens depth
  cases fuel with
  | zero => rfl
  | succ fuel =>
    rw [itemsFrom, itemsFrom, chars, List.cons_append,
      nextItem_first (plain.gap depth) solid unclosed,
      nextItem_comma (plain.gap depth) solid unclosed]

theorem takes_items {read : Reader α} (plain : style.Plain) {vs : List Value} {as : List α}
    (takes : List.Forall₂ (fun v a => Takes read style v a ∧ v.Opens style) vs as) :
    Takes (items read) style (.array vs) as := by
  intro depth blanks rest allBlank _
  have enough := length_lt_more style depth ']'
    (vs.map (Value.chars style (depth + 1))) rest
  rw [List.length_map] at enough
  have taken := itemsFrom_more plain takes depth rest enough
  rw [items, dropBlanks_append allBlank, Value.chars, itemChars_eq_map]
  cases takes with
  | nil =>
    have ended := @nextItem_closing [] (by simp) true rest
    rw [List.nil_append] at ended
    rw [List.map_nil, enclose_nil, dropBlanks_cons rfl]
    simp [itemsFrom, ended, bind, Except.bind, pure, Except.pure]
  | cons first later =>
    rw [List.map_cons, more_cons] at taken
    rw [List.map_cons, enclose_cons, dropBlanks_cons rfl]
    simp only [itemsFrom_true first.2 plain]
    exact taken

theorem memberText_append (depth : Nat) (name : String) (v : Value) (cs : List Char) :
    memberText style depth (name, v) ++ cs =
      quote name ++ (style.colon ++ (v.chars style depth ++ cs)) := by
  simp [memberText]

theorem read_colon {read : Reader α} (plain : style.Plain) {v : Value} {a : α}
    (takes : Takes read style v a) (depth : Nat) {rest : List Char} (stops : Stops rest) :
    ∃ cs, colon (style.colon ++ (v.chars style depth ++ rest)) = .ok cs ∧
      read cs = .ok (a, rest) := by
  obtain ⟨blanks, allBlank, reached⟩ := colon_append plain
  exact ⟨_, reached _, takes depth blanks rest allBlank stops⟩

theorem pairsFrom_more {read : Reader α} (plain : style.Plain) {ms : List (String × Value)}
    {as : List (String × α)}
    (takes : List.Forall₂ (fun m a => m.1 = a.1 ∧ Takes read style m.2 a.2) ms as) (depth : Nat)
    (rest : List Char) {fuel : Nat} (enough : ms.length < fuel) :
    pairsFrom read fuel false
      (more style depth '\x7d' (ms.map (memberText style (depth + 1))) rest) = .ok (as, rest) := by
  induction takes generalizing fuel with
  | nil =>
    obtain ⟨fuel, rfl⟩ := Nat.exists_eq_add_of_lt enough
    have ended := nextMember_closing (plain.gap depth) false rest
    simp [pairsFrom, more, ended, bind, Except.bind, pure, Except.pure]
  | @cons m a ms as first later ih =>
    obtain ⟨fuel, rfl⟩ : ∃ n, fuel = n + 1 := ⟨fuel - 1, by omega⟩
    obtain ⟨name, v⟩ := m
    obtain ⟨_, a⟩ := a
    obtain ⟨rfl, takes⟩ := first
    have after := @ih fuel (by simpa using enough)
    obtain ⟨cs, reached, taken⟩ := read_colon plain takes (depth + 1) (stops_more plain depth
      (stops_brace rest) (ms.map (memberText style (depth + 1))))
    rw [List.map_cons, more_cons, memberText_append, pairsFrom,
      nextMember_comma (plain.gap (depth + 1))]
    simp [bind, Except.bind, pure, Except.pure, reached, taken, after]

theorem pairsFrom_true {read : Reader α} (plain : style.Plain) (depth fuel : Nat) (name : String)
    (cs : List Char) : pairsFrom read fuel true (style.gap depth ++ (quote name ++ cs)) =
      pairsFrom read fuel false (',' :: (style.gap depth ++ (quote name ++ cs))) := by
  cases fuel with
  | zero => rfl
  | succ fuel =>
    rw [pairsFrom, pairsFrom, nextMember_first (plain.gap depth),
      nextMember_comma (plain.gap depth)]

theorem takes_pairs {read : Reader α} (plain : style.Plain) {ms : List (String × Value)}
    {as : List (String × α)}
    (takes : List.Forall₂ (fun m a => m.1 = a.1 ∧ Takes read style m.2 a.2) ms as) :
    Takes (pairs read) style (.object ms) as := by
  intro depth blanks rest allBlank _
  have enough := length_lt_more style depth '\x7d'
    (ms.map (memberText style (depth + 1))) rest
  rw [List.length_map] at enough
  have taken := pairsFrom_more plain takes depth rest enough
  rw [pairs, dropBlanks_append allBlank, Value.chars, memberChars_eq_map]
  cases takes with
  | nil =>
    have ended := @nextMember_closing [] (by simp) true rest
    rw [List.nil_append] at ended
    rw [List.map_nil, enclose_nil, dropBlanks_cons rfl]
    simp [pairsFrom, ended, bind, Except.bind, pure, Except.pure]
  | cons first later =>
    rw [List.map_cons, more_cons, memberText_append] at taken
    rw [List.map_cons, enclose_cons, dropBlanks_cons rfl, memberText_append]
    simp only [pairsFrom_true plain]
    exact taken

/-- Members of a record, in its order, that make `b` of `a` when they are read. -/
inductive Fills (style : Style) : List (Member α) → α → List (String × Value) → α → Prop
  | done (a : α) : Fills style [] a [] a
  | written {m : Member α} {members : List (Member α)} {a b : α} {v : Value} {f : α → α}
      {ms : List (String × Value)} (taken : Takes m.read style v f)
      (later : Fills style members (f a) ms b) :
      Fills style (m :: members) a ((m.name, v) :: ms) b
  | omitted {m : Member α} {members : List (Member α)} {a b : α} {ms : List (String × Value)}
      (may : m.absence ≠ .refused) (later : Fills style members a ms b) :
      Fills style (m :: members) a ms b

variable {members : List (Member α)} {a b : α} {ms : List (String × Value)}

theorem takes_orNull_text (s : String) : Takes (orNull text) style (.text s) (some s) := by
  intro depth blanks rest allBlank stops
  have taken := @takes_text style s depth [] rest (by simp) stops
  rw [List.nil_append, Value.chars, quote_append] at taken
  rw [orNull, dropBlanks_append allBlank, Value.chars, quote_append, dropBlanks_cons rfl]
  simp [taken, Except.map]

theorem takes_ofText? (o : Option String) : Takes (orNull text) style (.ofText? o) o := by
  cases o with
  | some s => exact takes_orNull_text s
  | none =>
    intro depth blanks rest allBlank _
    rw [orNull, dropBlanks_append allBlank, Value.ofText?, Value.chars, List.cons_append,
      dropBlanks_cons rfl]
    rfl

theorem Fills.required {β : Type} {read : Reader β} {v : Value} {x : β} {name : String}
    {set : β → α → α} (taken : Takes read style v x)
    (later : Fills style members (set x a) ms b) :
    Fills style (.required name read set :: members) a ((name, v) :: ms) b := by
  refine .written (f := set x) (fun depth blanks rest allBlank stops => ?_) later
  simp [Member.required, taken depth blanks rest allBlank stops, Except.map]

theorem Fills.optional {β : Type} {read : Reader β} {v : Value} {x : Option β} {name : String}
    {absence : Absence} {set : Option β → α → α} (taken : Takes (orNull read) style v x)
    (later : Fills style members (set x a) ms b) :
    Fills style (.optional absence name read set :: members) a ((name, v) :: ms) b := by
  refine .written (f := set x) (fun depth blanks rest allBlank stops => ?_) later
  simp [Member.optional, taken depth blanks rest allBlank stops, Except.map]

/-- An optional member is left out where it would be null; the blank is then its value. -/
theorem Fills.text? {o : Option String} {name : String} {set : Option String → α → α}
    (same : set none a = a) (later : Fills style members (set o a) ms b) :
    Fills style (.optional .allowed name text set :: members) a
      ((o.map fun s => (name, .text s)).toList ++ ms) b := by
  cases o with
  | none => exact .omitted (by simp [Member.optional]) (same ▸ later)
  | some s => exact .optional (takes_orNull_text s) later

theorem Fills.names (fills : Fills style members a ms b) :
    (ms.map (·.1)).Sublist (members.map (·.name)) ∧
      ∀ m ∈ members, m.absence = .refused → m.name ∈ ms.map (·.1) := by
  induction fills with
  | done a => simp
  | written _ _ ih =>
    refine ⟨ih.1.cons_cons _, fun m member needed => ?_⟩
    rcases List.mem_cons.mp member with rfl | member
    · exact List.mem_cons_self
    · exact List.mem_cons_of_mem _ (ih.2 m member needed)
  | omitted may _ ih =>
    refine ⟨ih.1.cons _, fun m member needed => ?_⟩
    rcases List.mem_cons.mp member with rfl | member
    · exact absurd needed may
    · exact ih.2 m member needed

theorem Fills.eq_of_nil : ∀ {members : List (Member α)} {a : α},
    Fills style members a [] b → b = a
  | _, _, .done _ => rfl
  | _, _, .omitted _ later => later.eq_of_nil

theorem membersFrom_closing {r : Record α} {blanks : List Char} (allBlank : ∀ c ∈ blanks, isBlank c)
    (seen : List String) (complete : r.missing? seen = none) (fuel : Nat) (first : Bool) (a : α)
    (rest : List Char) :
    r.membersFrom (fuel + 1) first seen a (blanks ++ '\x7d' :: rest) = .ok (a, rest) := by
  simp [Record.membersFrom, nextMember_closing allBlank, complete, bind, Except.bind, pure,
    Except.pure]

theorem membersFrom_more {r : Record α} (plain : style.Plain)
    (distinct : (r.members.map (·.name)).Nodup) (fills : Fills style members a ms b)
    (own : ∀ m ∈ members, m ∈ r.members) (seen : List String)
    (fresh : (ms.map (·.1) ++ seen).Nodup)
    (complete : ∀ m ∈ r.members, m.absence = .refused → m.name ∈ ms.map (·.1) ++ seen) (depth : Nat)
    (rest : List Char) {fuel : Nat} (enough : ms.length < fuel) :
    r.membersFrom fuel false seen a
      (more style depth '\x7d' (ms.map (memberText style (depth + 1))) rest) = .ok (b, rest) := by
  induction fills generalizing seen fuel with
  | done a =>
    obtain ⟨fuel, rfl⟩ := Nat.exists_eq_add_of_lt enough
    exact membersFrom_closing (plain.gap depth) seen (by simpa [Record.missing?] using complete) _
      false a rest
  | omitted _ _ ih =>
    exact ih (fun m member => own m (by simp [member])) seen fresh complete enough
  | @written m members a b v f ms taken later ih =>
    obtain ⟨fuel, rfl⟩ : ∃ n, fuel = n + 1 := ⟨fuel - 1, by omega⟩
    have found := find?_of_mem distinct (own m (by simp))
    have new : m.name ∉ seen := by simp_all
    have after := @ih (fun m member => own m (by simp [member])) (m.name :: seen)
      (by simpa [List.nodup_middle] using fresh)
      (by simpa [or_left_comm, or_assoc] using complete) fuel (by simpa using enough)
    obtain ⟨cs, reached, taken⟩ := read_colon plain taken (depth + 1) (stops_more plain depth
      (stops_brace rest) (ms.map (memberText style (depth + 1))))
    rw [List.map_cons, more_cons, memberText_append, Record.membersFrom,
      nextMember_comma (plain.gap (depth + 1))]
    simp [bind, Except.bind, found, new, reached, taken, after]

theorem membersFrom_true (r : Record α) (plain : style.Plain) (depth fuel : Nat)
    (seen : List String) (a : α) (name : String) (cs : List Char) :
    r.membersFrom fuel true seen a (style.gap depth ++ (quote name ++ cs)) =
      r.membersFrom fuel false seen a (',' :: (style.gap depth ++ (quote name ++ cs))) := by
  cases fuel with
  | zero => rfl
  | succ fuel =>
    rw [Record.membersFrom, Record.membersFrom, nextMember_first (plain.gap depth),
      nextMember_comma (plain.gap depth)]

theorem takes_record {r : Record α} (plain : style.Plain)
    (distinct : (r.members.map (·.name)).Nodup) (fills : Fills style r.members r.blank ms b) :
    Takes r.read style (.object ms) b := by
  intro depth blanks rest allBlank _
  obtain ⟨ordered, complete⟩ := fills.names
  have enough := length_lt_more style depth '\x7d'
    (ms.map (memberText style (depth + 1))) rest
  rw [List.length_map] at enough
  have taken := membersFrom_more plain distinct fills (fun _ member => member) []
    (by simpa using ordered.nodup distinct) (by simpa using complete) depth rest enough
  rw [Record.read, dropBlanks_append allBlank, Value.chars, memberChars_eq_map]
  cases ms with
  | nil =>
    have nothing : r.missing? [] = none := by simpa [Record.missing?] using complete
    have ended := @membersFrom_closing _ _ [] (by simp) [] nothing rest.length true r.blank rest
    rw [List.nil_append] at ended
    rw [List.map_nil, enclose_nil, dropBlanks_cons rfl, fills.eq_of_nil]
    exact ended
  | cons m ms =>
    rw [List.map_cons, more_cons, memberText_append] at taken
    rw [List.map_cons, enclose_cons, dropBlanks_cons rfl, memberText_append]
    simp only [membersFrom_true r plain]
    exact taken

theorem ofText?_render {r : Record α} {v : Value} (takes : Takes r.read style v a) :
    r.ofText? (v.render style) = .ok a := by
  have taken := takes 0 [] [] (by simp) stops_nil
  rw [List.nil_append, List.append_nil] at taken
  simp [Record.ofText?, Reader.whole, Value.render, taken, dropBlanks, bind, Except.bind, pure,
    Except.pure]

end MockData.Json
