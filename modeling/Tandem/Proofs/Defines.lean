import Tandem.Assembly.Assembler
import Tandem.Command.Options
import Tandem.Proofs.Assembly.Grammar
import Tandem.Proofs.Table

set_option autoImplicit false

/-!
Definitions from several places. Visiting sequences one after another is visiting their
concatenation, up to wherever the visitor stops. As those that are stored later win, the
equate in force for a name comes from the command line, else from the settings, else from the
duo, else from the assembler.
-/

namespace Tandem

/-! ### Visiting -/

namespace Defines

section Visiting

variable {κ ν σ : Type}

theorem visit_append (visitor : σ → κ × ν → σ × Bool) (s : σ)
    (first second : List (κ × ν)) :
    visit visitor s (first ++ second) =
      match visit visitor s first with
      | (s, true) => visit visitor s second
      | (s, false) => (s, false) := by
  induction first generalizing s with
  | nil => rfl
  | cons entry rest inductionHypothesis =>
      rw [List.cons_append, visit, visit]
      rcases visitor s entry with ⟨next, _ | _⟩
      · rfl
      · exact inductionHypothesis next

@[simp]
theorem visitAll_eq_visit_flatten (visitor : σ → κ × ν → σ × Bool) (s : σ)
    (sequences : List (List (κ × ν))) :
    visitAll visitor s sequences = visit visitor s sequences.flatten := by
  induction sequences generalizing s with
  | nil => rfl
  | cons sequence rest inductionHypothesis =>
      rw [visitAll, List.flatten_cons, visit_append]
      rcases visit visitor s sequence with ⟨next, _ | _⟩
      · rfl
      · exact inductionHypothesis next

/-- A collector that is not there yet takes as many entries as it still needs. -/
theorem visit_collector {stop : Nat} {seen : List (κ × ν)} (below : seen.length < stop)
    (entries : List (κ × ν)) :
    (visit (collector stop) seen entries).1 =
      (entries.take (stop - seen.length)).reverse ++ seen := by
  induction entries generalizing seen with
  | nil => simp [visit]
  | cons entry rest inductionHypothesis =>
      have more : stop - seen.length = (stop - (seen.length + 1)) + 1 := by omega
      rw [visit, collector, more, List.take_succ_cons, List.reverse_cons, List.append_assoc]
      by_cases reached : seen.length + 1 = stop
      · simp [reached]
      · have stillBelow : (entry :: seen).length < stop := by
          simp only [List.length_cons]
          omega
        simp only [reached, ne_eq, not_false_eq_true, decide_true]
        exact inductionHypothesis stillBelow

@[simp]
theorem visit_collector_zero (seen entries : List (κ × ν)) :
    (visit (collector 0) seen entries).1 = entries.reverse ++ seen := by
  induction entries generalizing seen with
  | nil => rfl
  | cons entry rest inductionHypothesis =>
      rw [List.reverse_cons, List.append_assoc]
      exact inductionHypothesis (entry :: seen)

theorem upTo_eq_take {stop : Nat} (positive : 0 < stop) (sequences : List (List (κ × ν))) :
    upTo stop sequences = sequences.flatten.take stop := by
  rw [upTo, visitAll_eq_visit_flatten, visit_collector positive, List.append_nil,
    List.reverse_reverse]
  rfl

@[simp]
theorem all_eq_flatten (sequences : List (List (κ × ν))) :
    all sequences = sequences.flatten := by
  rw [all, upTo, visitAll_eq_visit_flatten, visit_collector_zero, List.append_nil,
    List.reverse_reverse]

end Visiting

end Defines

/-! ### The command line -/

theorem Text.cut_append {b : UInt8} {before : Text} (first : b ∉ before) (after : Text) :
    Text.cut b (before ++ b :: after) = some (before, after) := by
  induction before with
  | nil => simp [cut]
  | cons c before inductionHypothesis =>
      obtain ⟨other, below⟩ := not_or.mp (mt List.mem_cons.mpr first)
      simp [cut, Ne.symm other, inductionHypothesis below]

namespace Options

/-- The arguments that give a definition. -/
def definition (d : Text × Text) : List Text := [Text.ofString "-D", d.1 ++ 61 :: d.2]

theorem assign_define (o : Options) {d : Text × Text} (named : d.1 ≠ [] ∧ 61 ∉ d.1) :
    o.assign .define (d.1 ++ 61 :: d.2) = .ok { o with defines := o.defines ++ [d] } := by
  obtain ⟨name, value⟩ := d
  obtain ⟨b, rest, rfl⟩ := List.exists_cons_of_ne_nil named.1
  have parsed : Defines.parse? (b :: rest ++ 61 :: value) = some (b :: rest, value) := by
    rw [Defines.parse?, Text.cut_append named.2]
  simp only [assign, parsed]

theorem parse_definition (o : Options) {d : Text × Text} (named : d.1 ≠ [] ∧ 61 ∉ d.1)
    (rest : List Text) :
    o.parse (definition d ++ rest) =
      ({ o with defines := o.defines ++ [d] } : Options).parse rest := by
  have flag : Text.ofString "-D" = [45, 68] := by decide
  have known : Flag.ofName? [68] = some .define := by decide +kernel
  rw [definition, flag, List.cons_append, List.cons_append, List.nil_append, Options.parse]
  simp [flagText?, splitValue, Text.cut, known, Flag.isSwitch, assign_define o named]

theorem parse_definitions (o : Options) {given : List (Text × Text)}
    (named : ∀ d ∈ given, d.1 ≠ [] ∧ 61 ∉ d.1) :
    o.parse (given.flatMap definition) = .ok ({ o with defines := o.defines ++ given }, []) := by
  induction given generalizing o with
  | nil => simp [Options.parse]
  | cons d given inductionHypothesis =>
      obtain ⟨first, others⟩ := List.forall_mem_cons.mp named
      rw [List.flatMap_cons, parse_definition o first, inductionHypothesis _ others,
        List.append_assoc, List.singleton_append]

end Options

/-! ### Settings -/

namespace Settings

theorem keeps_foldlM {ε α β : Type} (holds : α → Prop) {f : α → β → Except ε α}
    (keeps : ∀ a b next, holds a → f a b = .ok next → holds next) {l : List β}
    {a result : α} (start : holds a) (done : l.foldlM f a = .ok result) : holds result := by
  induction l generalizing a with
  | nil => exact Except.ok.inj done ▸ start
  | cons b l inductionHypothesis =>
      rw [List.foldlM_cons] at done
      obtain ⟨next, first, others⟩ := Assembly.exists_of_bind_eq_ok done
      exact inductionHypothesis (keeps a b next start first) others

theorem distinct_definitions {defines result : Table Text} {value : Toml.Value}
    (distinct : (defines.map (·.1)).Nodup) (read : definitions defines value = .ok result) :
    (result.map (·.1)).Nodup := by
  unfold definitions at read
  split at read
  next entries =>
    refine keeps_foldlM (fun defines : Table Text => (defines.map (·.1)).Nodup) ?_ distinct read
    rintro defines ⟨name, value⟩ next distinct stored
    obtain ⟨text, _, inserted⟩ := Assembly.exists_of_bind_eq_ok stored
    exact Except.ok.inj inserted ▸ Table.distinct_insert distinct name text
  next => exact Except.ok.inj read ▸ distinct

/-- The definitions in settings that were read have distinct names. -/
theorem distinct_defines_of_parse {document : Text} {s : Settings} (read : parse document = .ok s) :
    (s.defines.map (·.1)).Nodup := by
  unfold parse at read
  split at read
  next => contradiction
  next entries =>
    obtain ⟨program, _, read⟩ := Assembly.exists_of_bind_eq_ok read
    obtain ⟨stepLimit, _, read⟩ := Assembly.exists_of_bind_eq_ok read
    obtain ⟨verbose, _, read⟩ := Assembly.exists_of_bind_eq_ok read
    obtain ⟨trace, _, read⟩ := Assembly.exists_of_bind_eq_ok read
    obtain ⟨report, _, read⟩ := Assembly.exists_of_bind_eq_ok read
    obtain ⟨defines, readDefines, read⟩ := Assembly.exists_of_bind_eq_ok read
    have distinct : (defines.map (·.1)).Nodup :=
      keeps_foldlM (fun defines : Table Text => (defines.map (·.1)).Nodup)
        (fun _ _ _ => distinct_definitions) Table.distinct_empty readDefines
    split at read
    next => contradiction
    next => exact Except.ok.inj read ▸ distinct

end Settings

/-! ### The equate in force -/

namespace Defines

/-- The last value for a name on the command line, else that in the settings, else that of the duo,
else that of the assembler. -/
def inForce? (configured : Table Text) (given : List (Text × Text)) (name : Text) : Option Text :=
  (Table.lastValue? given name).or <|
    (configured.find? name).or <|
      (Table.find? Duo.defines name).or (Table.find? Assembly.builtinEquates name)

theorem distinct_duo : (Duo.defines.map (·.1)).Nodup := by decide +kernel

theorem find?_start {configured : Table Text} {given predefined : List (Text × Text)} {name : Text}
    (last : Table.lastValue? predefined name =
      (Table.lastValue? given name).or
        ((configured.find? name).or (Table.find? Duo.defines name))) :
    (Assembly.Draft.start predefined).equates.find? name = inForce? configured given name := by
  have stored : (Assembly.Draft.start predefined).equates.find? name =
      (Table.lastValue? predefined name).or (Table.find? Assembly.builtinEquates name) :=
    Table.find?_insertAll _ predefined name
  rw [stored, last, Option.or_assoc, Option.or_assoc, inForce?]

/-- The entries of the two tables may be visited in any order. -/
theorem lastValue?_all {configured : Table Text} (distinct : (configured.map (·.1)).Nodup)
    (given : List (Text × Text)) {known listed : List (Text × Text)}
    (knownOrder : known.Perm Duo.defines) (listedOrder : listed.Perm (configured.insertAll given))
    (name : Text) :
    Table.lastValue? (all [known, listed]) name =
      (Table.lastValue? given name).or
        ((configured.find? name).or (Table.find? Duo.defines name)) := by
  have merged : all [known, listed] = known ++ listed := by simp
  rw [merged, Table.lastValue?_append, Table.lastValue?_of_perm distinct_duo knownOrder,
    Table.lastValue?_of_perm (Table.distinct_insertAll distinct given) listedOrder,
    Table.find?_insertAll, Option.or_assoc]

/-- What was visited may be stored in a table first, whose entries then come in any order. -/
theorem lastValue?_of_perm_ofEntries {entries predefined : List (Text × Text)}
    (stored : predefined.Perm (Table.ofEntries entries)) (name : Text) :
    Table.lastValue? predefined name = Table.lastValue? entries name := by
  rw [Table.lastValue?_of_perm (Table.distinct_insertAll Table.distinct_empty entries) stored,
    Table.find?_insertAll]
  exact Option.or_none

/-- Visiting sequences in turn is visiting their concatenation, whatever the visitor does. One that
stops at its n-th entry, which is not before the first, is shown exactly the first n; one that never
stops is shown all. With any definitions in the settings and any definitions `NAME=VALUE` given as
options, each cut at its first `=`, assembling starts with the equates of `inForce?`. This does not
depend on the order in which the entries of the tables are visited, nor on that in which the result
is taken out of a table again. -/
theorem later_definitions_win :
    (∀ (κ ν σ : Type) (sequences : List (List (κ × ν))),
      (∀ (visitor : σ → κ × ν → σ × Bool) (s : σ),
        visitAll visitor s sequences = visit visitor s sequences.flatten) ∧
      (∀ n, 0 < n → upTo n sequences = sequences.flatten.take n) ∧
      all sequences = sequences.flatten) ∧
    ∀ (o : Options) (s : Settings) (given : List (Text × Text)),
      o.defines = [] → (s.defines.map (·.1)).Nodup →
      (∀ d ∈ given, d.1 ≠ [] ∧ 61 ∉ d.1) →
      ∃ options, o.parse (given.flatMap Options.definition) = .ok (options, []) ∧
        ∀ name,
          (Assembly.Draft.start
            (forProgram (options.apply s).defines options.defines)).equates.find? name =
              inForce? s.defines given name ∧
            ∀ known listed predefined : List (Text × Text), known.Perm Duo.defines →
              listed.Perm ((options.apply s).defines.insertAll options.defines) →
              predefined.Perm (Table.ofEntries (all [known, listed])) →
              (Assembly.Draft.start predefined).equates.find? name =
                inForce? s.defines given name := by
  refine ⟨?_, ?_⟩
  · intro κ ν σ sequences
    exact ⟨fun visitor s => visitAll_eq_visit_flatten visitor s sequences,
      fun n positive => upTo_eq_take positive sequences, all_eq_flatten sequences⟩
  · intro o s given nothing distinct named
    refine ⟨{ o with defines := given }, ?_, ?_⟩
    · rw [Options.parse_definitions o named, nothing, List.nil_append]
    · intro name
      constructor
      · exact find?_start (lastValue?_all distinct given (.refl _) (.refl _) name)
      · intro known listed predefined knownOrder listedOrder stored
        apply find?_start
        rw [lastValue?_of_perm_ofEntries stored]
        exact lastValue?_all distinct given knownOrder listedOrder name

/-- Settings that define anew what the duo and the assembler define. -/
def overlapping : Text := "[defines]\nN = '2'\nPID_REGISTER = 'q'\nLINENO = '9'\n"

/-- Definitions of which one is given twice and one has a second `=`. -/
def repeated : List (Text × Text) := [("N", "3"), ("EVEN", "0=0"), ("N", "4")]

theorem later_definitions_win_overlapping :
    upTo 2 [[], [(0, true)], [], [(1, false), (2, true)]] = [(0, true), (1, false)] ∧
      (∀ d ∈ repeated, d.1 ≠ [] ∧ 61 ∉ d.1) ∧
      ∃ s options, Settings.parse overlapping = .ok s ∧ (s.defines.map (·.1)).Nodup ∧
        Options.parse {} (repeated.flatMap Options.definition) = .ok (options, []) ∧
        (["N", "EVEN", "PID_REGISTER", "LINENO", "INSTANCE_COUNT", "M"].map fun name =>
            (Assembly.Draft.start
              (forProgram (options.apply s).defines options.defines)).equates.find?
              (Text.ofString name)) =
          [some (Text.ofString "4"), some (Text.ofString "0=0"), some (Text.ofString "q"),
            some (Text.ofString "9"), some (Text.ofString "2"), none] := by
  have named : ∀ d ∈ repeated, d.1 ≠ [] ∧ 61 ∉ d.1 := by decide +kernel
  have configured : (Settings.parse overlapping).toOption.map (·.defines) =
      some ([("LINENO", "9"), ("PID_REGISTER", "q"), ("N", "2")] : Table Text) := by decide +kernel
  obtain ⟨visiting, starting⟩ := later_definitions_win
  obtain ⟨_, stopped, _⟩ :=
    visiting Nat Bool Unit [[], [(0, true)], [], [(1, false), (2, true)]]
  refine ⟨stopped 2 (by decide), named, ?_⟩
  cases loaded : Settings.parse overlapping with
  | error failure =>
      rw [loaded] at configured
      contradiction
  | ok s =>
      rw [loaded] at configured
      have distinct := Settings.distinct_defines_of_parse loaded
      obtain ⟨options, parsed, inForce⟩ := starting {} s repeated rfl distinct named
      refine ⟨s, options, rfl, distinct, parsed, ?_⟩
      simp only [inForce, Option.some.inj configured]
      decide +kernel

end Defines

end Tandem
