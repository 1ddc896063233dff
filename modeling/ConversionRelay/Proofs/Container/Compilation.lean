import ConversionRelay.Container.Compilation
import ConversionRelay.Proofs.Config.Generation
import ConversionRelay.Proofs.Json.Document
import ConversionRelay.Proofs.OrderedMap
import ConversionRelay.Proofs.Run
/-!
When compiling a text comes to a result.

Whatever a text spells is an export, unless it is nested too deeply or has too long a number for the
reader. Records that do not bind are skipped, whatever they are made of, and so compiling depends on
nothing but the names that the others bind. A name that is a list or an object is refused where it
is bound. A name of another kind that is not a text is bound, but it is in the way when signals are
looked for by their names in lower case: a signal is found in spite of it only if the foremost of
its names stands before.

Main statement: compiling a text succeeds exactly if the names do not get in the way, and then all
records that bind contribute (`Compilation.ofText_compiles`).
-/
namespace ConversionRelay

open OrderedMap Text

namespace Export

/-- The export that a document is, whatever it is. -/
def resolved : Value → Export
  | .object document => ofFields document
  | _ => empty

/-- The export that a reading leads to, unless the reader gave up. -/
def ofRead : Except Json.ReadError Value → Except Fault Export
  | .ok document => .ok (resolved document)
  | .error (.malformed _) => .ok empty
  | .error other => .error (.json other)

theorem ofReading_outcome (reading : Except Json.ReadError Value) (lines : List LogLine) :
    ∃ after, (ofReading reading).outcomeBehind lines = (ofRead reading, after) := by
  cases reading with
  | ok document => cases document <;> exact ⟨_, rfl⟩
  | error problem => cases problem <;> exact ⟨_, rfl⟩

/-- A reader that leads to no export gave up on the text. -/
theorem error_of_ofRead {reading : Except Json.ReadError Value} {fault : Fault}
    (fails : ofRead reading = .error fault) :
    ∃ problem, reading = .error problem ∧ fault = .json problem := by
  cases reading with
  | ok document => cases fails
  | error problem => cases problem <;> cases fails <;> exact ⟨_, rfl, rfl⟩

end Export

namespace Compilation

/-- The compilation of an export with the bindings of its records and the signals among them. -/
def assembled (found : Export) (customer : Value) (bindings : Bindings) (signals : Signals) :
    Compilation :=
  let referenced := Reference.variablesOfAll (found.tags.map .object)
  { config := .ofEvents customer signals.events
    format := found.format
    referenced
    bindings
    coverage := Coverage.ofVariables referenced bindings }

/-- What compiling an export comes to, without the lines that are written. -/
def result (found : Export) (customer : Value) : Except Fault Compilation :=
  match Bindings.ofRecords found.records with
  | .error fault => .error fault
  | .ok bindings => (Signals.ofBindings bindings).map (assembled found customer bindings)

/-- An export is compiled if its records bind and the signals are found among the bindings. -/
theorem result_eq_ok {found : Export} {customer : Value} {compiled : Compilation} :
    result found customer = .ok compiled ↔ ∃ bindings signals,
      Bindings.ofRecords found.records = .ok bindings ∧
        Signals.ofBindings bindings = .ok signals ∧
        compiled = assembled found customer bindings signals := by
  constructor
  · intro compiles
    unfold result at compiles
    split at compiles
    · cases compiles
    · rename_i bindings binds
      cases finds : Signals.ofBindings bindings with
      | error fault =>
        rw [finds] at compiles
        cases compiles
      | ok signals =>
        rw [finds] at compiles
        cases compiles
        exact ⟨bindings, signals, binds, finds, rfl⟩
  · rintro ⟨bindings, signals, binds, finds, rfl⟩
    rw [result, binds]
    dsimp only
    rw [finds]
    rfl

theorem ofExport_outcome (found : Export) (customer : Value) (lines : List LogLine) :
    ∃ after, (ofExport found customer).outcomeBehind lines = (result found customer, after) := by
  unfold result
  cases binds : Bindings.ofRecords found.records with
  | error fault =>
    rw [ofExport, binds]
    exact ⟨_, rfl⟩
  | ok bindings =>
    dsimp only
    rw [ofExport, binds, Logged.outcomeBehind_bind_ok (Logged.outcomeBehind_ofExcept _ _),
      Logged.outcomeBehind_bind_ok (Logged.outcomeBehind_write _ _ _ _),
      Logged.outcomeBehind_bind_ok (Logged.outcomeBehind_write _ _ _ _), CustomerConfig.generate]
    cases Signals.ofBindings bindings with
    | error fault => exact ⟨_, rfl⟩
    | ok signals => exact ⟨_, rfl⟩

/-- Whatever is loaded is compiled. -/
theorem outcome_of_load {files : FileTree} {source : ExportSource} {loaded : Except Fault Export}
    {after : List LogLine} (loads : (Export.load files source).outcomeBehind [] = (loaded, after))
    (customer : Value) : ∃ lines,
      (ofSource files source customer).outcome = (loaded.bind (result · customer), lines) := by
  cases loaded with
  | error fault =>
    refine ⟨after, ?_⟩
    rw [ofSource, Logged.outcome, run_bind_of_state]
    rw [Logged.outcomeBehind] at loads
    rw [loads]
    rfl
  | ok found =>
    obtain ⟨lines, compiles⟩ := ofExport_outcome found customer after
    exact ⟨lines, (Logged.outcomeBehind_bind_ok loads).trans compiles⟩

/-- What was compiled was loaded first. -/
theorem ofSource_eq_ok {files : FileTree} {source : ExportSource} {customer : Value}
    {compiled : Compilation} : (ofSource files source customer).outcome.1 = .ok compiled ↔
      ∃ found, (Export.load files source).outcome.1 = .ok found ∧
        result found customer = .ok compiled := by
  obtain ⟨lines, runs⟩ := outcome_of_load (Prod.mk.eta.symm :
    (Export.load files source).outcomeBehind [] = _) customer
  rw [runs]
  change ((Export.load files source).outcome.1.bind (result · customer)) = _ ↔ _
  cases (Export.load files source).outcome.1 with
  | error fault => exact iff_of_false nofun nofun
  | ok found => simp [Except.bind]

/-- What compiling a text comes to. -/
theorem ofText_result (files : FileTree) (text : Text) (customer : Value) :
    (ofSource files (.text text) customer).outcome.1 =
      (Export.ofRead (Json.parse text)).bind (result · customer) := by
  obtain ⟨after, reads⟩ := Export.ofReading_outcome (Json.parse text) []
  have loads : (Export.load files (.text text)).outcomeBehind [] =
      (Export.ofRead (Json.parse text), after) := reads
  obtain ⟨lines, runs⟩ := outcome_of_load loads customer
  exact congrArg Prod.fst runs

/-- What compiling a loaded export comes to. -/
theorem loaded_result (files : FileTree) (found : Export) (customer : Value) :
    (ofSource files (.loaded found) customer).outcome.1 = result found customer := by
  have loads : (Export.load files (.loaded found)).outcomeBehind [] = (.ok found, []) := rfl
  obtain ⟨lines, runs⟩ := outcome_of_load loads customer
  exact congrArg Prod.fst runs

/-- What compiling a document comes to. -/
theorem document_result (files : FileTree) (document : Fields) (customer : Value) :
    (ofSource files (.document (.object document)) customer).outcome.1 =
      result (Export.ofFields document) customer := loaded_result files _ customer

end Compilation

namespace Bindings

/-- What records bind, those that do not bind left out. -/
def bound (records : List Value) : List (Value × Value) := records.filterMap ofRecord?

/-- Records that do not bind are skipped. The first name that cannot be a key is refused; if there
is none, all that is bound is kept. -/
theorem ofRecords_eq (records : List Value) :
    ofRecords records = match (bound records).find? fun entry => !entry.1.isKey with
      | some (name, _) => .error (.notKey name.kind)
      | none => .ok (ofPairs (bound records)) := by
  suffices general : ∀ before : Bindings,
      records.foldlM bind before = match (bound records).find? fun entry => !entry.1.isKey with
        | some (name, _) => .error (.notKey name.kind)
        | none => .ok (update before (bound records)) from general []
  induction records with
  | nil => exact fun _ => rfl
  | cons record rest ih =>
    intro before
    rw [List.foldlM_cons, bound, List.filterMap_cons]
    cases binds : ofRecord? record with
    | none =>
      rw [bind_of_ofRecord?_eq_none binds]
      exact ih before
    | some entry =>
      obtain ⟨name, path⟩ := entry
      rw [bind, binds]
      by_cases key : name.isKey = true
      · simp only [key, if_true, List.find?_cons, Bool.not_true]
        exact ih (put before name path)
      · simp only [key, List.find?_cons]
        rfl

/-- If no name is refused, all that is bound is kept. -/
theorem eq_of_ofRecords {records : List Value} {bindings : Bindings}
    (binds : ofRecords records = .ok bindings) : bindings = ofPairs (bound records) := by
  rw [ofRecords_eq] at binds
  split at binds
  · cases binds
  · cases binds
    rfl

end Bindings

section Names

/-- Whether a value is a text. -/
def Value.isText : Value → Bool
  | .string _ => true
  | _ => false

namespace Bindings

/-- The names that are bound before the first one that is not a text, in lower case. -/
def leadingNames : Bindings → List Text
  | (.string name, _) :: rest => lower name :: leadingNames rest
  | _ => []

/-- The first name that is not a text. -/
def oddName? (bindings : Bindings) : Option Value :=
  (bindings.find? fun entry => !entry.1.isText).map Prod.fst

theorem pathOf?_of_texts {bindings : Bindings} (texts : bindings.oddName? = none) (wanted : Text) :
    ∃ path?, pathOf? wanted bindings = .ok path? := by
  induction bindings with
  | nil => exact ⟨none, rfl⟩
  | cons entry rest ih =>
    obtain ⟨name, path⟩ := entry
    cases name with
    | string name =>
      obtain ⟨path?, found⟩ := ih texts
      rw [pathOf?]
      split
      · exact ⟨some path, rfl⟩
      · exact ⟨path?, found⟩
    | _ => cases texts

/-- A name that is not a text is in the way of every name that does not stand before it. -/
theorem pathOf?_of_oddName? {bindings : Bindings} {odd : Value} (is : bindings.oddName? = some odd)
    (wanted : Text) :
    if wanted ∈ leadingNames bindings then ∃ path, pathOf? wanted bindings = .ok (some path)
    else pathOf? wanted bindings = .error (.lacks odd.kind "lower") := by
  induction bindings with
  | nil => cases is
  | cons entry rest ih =>
    obtain ⟨name, path⟩ := entry
    cases name with
    | string name =>
      have later := ih is
      rw [pathOf?, leadingNames]
      by_cases same : lower name = wanted
      · subst same
        simp
      · have other : wanted ≠ lower name := Ne.symm same
        simpa [same, other] using later
    | _ =>
      cases is
      rfl

/-- Of several names that are looked for in turn, a name that is not a text is in the way unless the
first of them stands before it. -/
theorem firstPathOf?_of_oddName? {bindings : Bindings} {odd : Value}
    (is : bindings.oddName? = some odd) (candidate : Text) (others : List Text) :
    if lower candidate ∈ leadingNames bindings then
      ∃ path, firstPathOf? bindings (candidate :: others) = .ok (some path)
    else firstPathOf? bindings (candidate :: others) = .error (.lacks odd.kind "lower") := by
  have first := pathOf?_of_oddName? is (lower candidate)
  rw [firstPathOf?]
  split at first
  · rename_i stands
    obtain ⟨path, found⟩ := first
    rw [if_pos stands, found]
    exact ⟨path, rfl⟩
  · rename_i behind
    rw [if_neg behind, first]

theorem firstPathOf?_of_texts {bindings : Bindings} (texts : bindings.oddName? = none)
    (candidates : List Text) : ∃ path?, firstPathOf? bindings candidates = .ok path? := by
  induction candidates with
  | nil => exact ⟨none, rfl⟩
  | cons candidate others ih =>
    obtain ⟨path?, found⟩ := pathOf?_of_texts texts (lower candidate)
    rw [firstPathOf?, found]
    cases path? with
    | some path => exact ⟨some path, rfl⟩
    | none => exact ih

end Bindings

/-- What fails has failed at once or later. -/
theorem bind_eq_error {ε α β : Type} {found : Except ε α} {next : α → Except ε β} {problem : ε}
    (fails : found.bind next = .error problem) :
    found = .error problem ∨ ∃ a, found = .ok a ∧ next a = .error problem := by
  cases found with
  | error other =>
    cases fails
    exact .inl rfl
  | ok a => exact .inr ⟨a, rfl, fails⟩

/-- The most telling name of a signal. -/
def Signal.foremost (signal : Signal) : Text := signal.candidates.headD ""

theorem Signal.candidates_eq (signal : Signal) :
    ∃ others, signal.candidates = signal.foremost :: others := by
  cases signal <;> exact ⟨_, rfl⟩

theorem Signal.lower_foremost (signal : Signal) : lower signal.foremost = signal.foremost := by
  obtain ⟨others, is⟩ := signal.candidates_eq
  apply lower_candidate signal
  rw [is]
  exact List.mem_cons_self

namespace Signals

theorem pathOf_of_texts {bindings : Bindings} (texts : bindings.oddName? = none)
    (signal : Signal) : ∃ path, pathOf bindings signal = .ok path := by
  obtain ⟨path?, found⟩ := Bindings.firstPathOf?_of_texts texts signal.candidates
  exact ⟨Value.ofOption path?, by rw [pathOf, found]; rfl⟩

theorem pathOf_of_oddName? {bindings : Bindings} {odd : Value} (is : bindings.oddName? = some odd)
    (signal : Signal) :
    if signal.foremost ∈ bindings.leadingNames then ∃ path, pathOf bindings signal = .ok path
    else pathOf bindings signal = .error (.lacks odd.kind "lower") := by
  obtain ⟨others, candidates⟩ := signal.candidates_eq
  have first := Bindings.firstPathOf?_of_oddName? is signal.foremost others
  rw [signal.lower_foremost, ← candidates] at first
  split at first
  · rename_i stands
    obtain ⟨path, found⟩ := first
    rw [if_pos stands, pathOf, found]
    exact ⟨path, rfl⟩
  · rename_i behind
    rw [if_neg behind, pathOf, first]
    rfl

/-- Signals are those of bindings exactly if the path of each is the one that is found for it. -/
theorem ofBindings_eq_ok {bindings : Bindings} {signals : Signals} :
    ofBindings bindings = .ok signals ↔
      ∀ signal, pathOf bindings signal = .ok (signals.path signal) := by
  constructor
  · intro found signal
    unfold ofBindings at found
    obtain ⟨amount, isAmount, found⟩ := Json.bind_eq_ok found
    obtain ⟨currency, isCurrency, found⟩ := Json.bind_eq_ok found
    obtain ⟨email, isEmail, found⟩ := Json.bind_eq_ok found
    obtain ⟨phone, isPhone, found⟩ := Json.bind_eq_ok found
    obtain ⟨productId, isProductId, found⟩ := Json.bind_eq_ok found
    obtain ⟨productName, isProductName, found⟩ := Json.bind_eq_ok found
    cases found
    cases signal with
    | amount => exact isAmount
    | currency => exact isCurrency
    | email => exact isEmail
    | phone => exact isPhone
    | productId => exact isProductId
    | productName => exact isProductName
  · intro found
    simp only [ofBindings, found]
    rfl

/-- What keeps the signals from being found keeps one of them from being found. -/
theorem pathOf_of_ofBindings_eq_error {bindings : Bindings} {fault : Fault}
    (fails : ofBindings bindings = .error fault) :
    ∃ signal, pathOf bindings signal = .error fault := by
  unfold ofBindings at fails
  obtain fails | ⟨_, _, fails⟩ := bind_eq_error fails
  · exact ⟨.amount, fails⟩
  obtain fails | ⟨_, _, fails⟩ := bind_eq_error fails
  · exact ⟨.currency, fails⟩
  obtain fails | ⟨_, _, fails⟩ := bind_eq_error fails
  · exact ⟨.email, fails⟩
  obtain fails | ⟨_, _, fails⟩ := bind_eq_error fails
  · exact ⟨.phone, fails⟩
  obtain fails | ⟨_, _, fails⟩ := bind_eq_error fails
  · exact ⟨.productId, fails⟩
  obtain fails | ⟨_, _, fails⟩ := bind_eq_error fails
  · exact ⟨.productName, fails⟩
  cases fails

theorem ofBindings_of_found {bindings : Bindings}
    (found : ∀ signal, ∃ path, pathOf bindings signal = .ok path) :
    ∃ signals, ofBindings bindings = .ok signals := by
  cases is : ofBindings bindings with
  | ok signals => exact ⟨signals, rfl⟩
  | error fault =>
    obtain ⟨signal, fails⟩ := pathOf_of_ofBindings_eq_error is
    obtain ⟨path, found⟩ := found signal
    cases fails.symm.trans found

/-- If each signal is found or fails for one and the same reason, and one does fail, then that is
the reason why the signals are not found. -/
theorem ofBindings_of_failed {bindings : Bindings} {fault : Fault}
    (ends : ∀ signal, (∃ path, pathOf bindings signal = .ok path) ∨
      pathOf bindings signal = .error fault)
    {signal : Signal} (failed : pathOf bindings signal = .error fault) :
    ofBindings bindings = .error fault := by
  cases is : ofBindings bindings with
  | ok signals => cases failed.symm.trans (ofBindings_eq_ok.mp is signal)
  | error other =>
    obtain ⟨signal, fails⟩ := pathOf_of_ofBindings_eq_error is
    obtain ⟨path, found⟩ | same := ends signal
    · cases fails.symm.trans found
    · cases fails.symm.trans same
      rfl

/-- The signals of bindings are found unless a name that is not a text is in the way of one. -/
theorem ofBindings_of_texts {bindings : Bindings} (texts : bindings.oddName? = none) :
    ∃ signals, ofBindings bindings = .ok signals :=
  ofBindings_of_found (pathOf_of_texts texts)

theorem ofBindings_of_foremost {bindings : Bindings} {odd : Value}
    (is : bindings.oddName? = some odd)
    (stand : ∀ signal : Signal, signal.foremost ∈ bindings.leadingNames) :
    ∃ signals, ofBindings bindings = .ok signals := by
  apply ofBindings_of_found
  intro signal
  have found := pathOf_of_oddName? is signal
  rwa [if_pos (stand signal)] at found

theorem ofBindings_of_oddName? {bindings : Bindings} {odd : Value}
    (is : bindings.oddName? = some odd) {signal : Signal}
    (behind : signal.foremost ∉ bindings.leadingNames) :
    ofBindings bindings = .error (.lacks odd.kind "lower") := by
  have fails := pathOf_of_oddName? is signal
  rw [if_neg behind] at fails
  apply ofBindings_of_failed ?_ fails
  intro other
  have ends := pathOf_of_oddName? is other
  split at ends
  · exact .inl ends
  · exact .inr ends

end Signals

end Names

section Compiling

/-- The bindings of an export, as long as no name is refused. -/
def Export.bindings (found : Export) : Bindings := ofPairs (Bindings.bound found.records)

/-- The names that the records of an export bind do not get in the way of compiling it. -/
structure Export.Unobstructed (found : Export) : Prop where
  /-- No name is a list or an object. -/
  keys : ∀ entry ∈ Bindings.bound found.records, entry.1.isKey = true
  /-- All names are texts, or the foremost name of every signal is bound before the first that is
  not. -/
  signals : found.bindings.oddName? = none ∨
    ∀ signal : Signal, signal.foremost ∈ found.bindings.leadingNames

namespace Compilation

variable {found : Export}

theorem result_of_keys (keys : ∀ entry ∈ Bindings.bound found.records, entry.1.isKey = true)
    (customer : Value) : result found customer =
      (Signals.ofBindings found.bindings).map (assembled found customer found.bindings) := by
  have none : (Bindings.bound found.records).find? (fun entry => !entry.1.isKey) = none := by
    simpa using keys
  rw [result, Bindings.ofRecords_eq, none]
  rfl

theorem result_of_unobstructed (free : found.Unobstructed) (customer : Value) : ∃ signals,
    Signals.ofBindings found.bindings = .ok signals ∧
      result found customer = .ok (assembled found customer found.bindings signals) := by
  have finds : ∃ signals, Signals.ofBindings found.bindings = .ok signals := by
    rcases free.signals with texts | stand
    · exact Signals.ofBindings_of_texts texts
    · cases odd : found.bindings.oddName? with
      | none => exact Signals.ofBindings_of_texts odd
      | some name => exact Signals.ofBindings_of_foremost odd stand
  obtain ⟨signals, finds⟩ := finds
  refine ⟨signals, finds, ?_⟩
  rw [result_of_keys free.keys, finds]
  rfl

/-- A name that gets in the way is not a text, and the fault tells of which kind it is. -/
theorem result_of_obstructed (obstructed : ¬found.Unobstructed) (customer : Value) :
    ∃ fault, result found customer = .error fault ∧
      ∃ name ∈ keys (Bindings.bound found.records), name.isText = false ∧
        (fault = .notKey name.kind ∨ fault = .lacks name.kind "lower") := by
  cases refused : (Bindings.bound found.records).find? fun entry => !entry.1.isKey with
  | some entry =>
    obtain ⟨name, path⟩ := entry
    have noKey : name.isKey = false := by simpa using List.find?_some refused
    have noText : name.isText = false := by
      cases name <;> simp_all [Value.isKey, Value.isText]
    refine ⟨.notKey name.kind, ?_, name, ?_, noText, .inl rfl⟩
    · rw [result, Bindings.ofRecords_eq, refused]
    · exact List.mem_map_of_mem (List.mem_of_find?_eq_some refused)
  | none =>
    have allKeys : ∀ entry ∈ Bindings.bound found.records, entry.1.isKey = true := by
      simpa using refused
    have odd : found.bindings.oddName? ≠ none := fun texts => obstructed ⟨allKeys, .inl texts⟩
    obtain ⟨name, is⟩ := Option.ne_none_iff_exists'.mp odd
    obtain ⟨entry, first, rfl⟩ := Option.map_eq_some_iff.mp is
    have member : entry.1 ∈ keys (Bindings.bound found.records) :=
      keys_ofPairs_subset (List.mem_map_of_mem (List.mem_of_find?_eq_some first))
    have noText : entry.1.isText = false := by simpa using List.find?_some first
    have behind : ¬∀ signal : Signal, signal.foremost ∈ found.bindings.leadingNames :=
      fun stand => obstructed ⟨allKeys, .inr stand⟩
    obtain ⟨signal, behind⟩ := Classical.not_forall.mp behind
    refine ⟨.lacks entry.1.kind "lower", ?_, entry.1, member, noText, .inr rfl⟩
    rw [result_of_keys allKeys, Signals.ofBindings_of_oddName? is behind]
    rfl

/-- Compiling a text comes to a result exactly if the text spells an export, be it an empty one for
want of sense, and no name that is bound gets in the way. Then the records that bind nothing are
skipped and all others contribute, in order. Otherwise the reader gave up on the text, or the fault
tells of a bound name that is not a text. -/
theorem ofText_compiles (files : FileTree) (text : Text) (customer : Value) :
    let outcome := (ofSource files (.text text) customer).outcome.1
    ((∃ compiled, outcome = .ok compiled) ↔
      ∃ found, Export.ofRead (Json.parse text) = .ok found ∧ found.Unobstructed) ∧
    (∀ compiled, outcome = .ok compiled → ∃ found signals,
      Export.ofRead (Json.parse text) = .ok found ∧
        Signals.ofBindings found.bindings = .ok signals ∧
        compiled = assembled found customer found.bindings signals) ∧
    ∀ fault, outcome = .error fault →
      (∃ problem, Json.parse text = .error problem ∧ fault = .json problem) ∨
      ∃ found name, Export.ofRead (Json.parse text) = .ok found ∧
        name ∈ keys (Bindings.bound found.records) ∧ name.isText = false ∧
        (fault = .notKey name.kind ∨ fault = .lacks name.kind "lower") := by
  intro outcome
  have comes : outcome = (Export.ofRead (Json.parse text)).bind (result · customer) :=
    ofText_result files text customer
  rw [comes]
  cases read : Export.ofRead (Json.parse text) with
  | error fault =>
    obtain ⟨problem, parsed, rfl⟩ := Export.error_of_ofRead read
    refine ⟨iff_of_false nofun nofun, nofun, ?_⟩
    rintro _ ⟨⟩
    exact .inl ⟨problem, parsed, rfl⟩
  | ok found =>
    by_cases free : found.Unobstructed
    · obtain ⟨signals, finds, compiles⟩ := result_of_unobstructed free customer
      rw [Except.bind, compiles]
      refine ⟨iff_of_true ⟨_, rfl⟩ ⟨found, rfl, free⟩, ?_, nofun⟩
      rintro _ ⟨⟩
      exact ⟨found, signals, rfl, finds, rfl⟩
    · obtain ⟨fault, fails, name, bound, noText, tells⟩ := result_of_obstructed free customer
      rw [Except.bind, fails]
      refine ⟨iff_of_false nofun ?_, nofun, ?_⟩
      · rintro ⟨_, ⟨⟩, unobstructed⟩
        exact free unobstructed
      rintro _ ⟨⟩
      exact .inr ⟨found, name, rfl, bound, noText, tells⟩

section Raising

open Json

/-- The record of a variable with a path. -/
def variableRecord (name : Value) (path : Text) : Value :=
  .object [("name", name), ("parameter", .array [.object
    [("key", .string Bindings.pathParameter), ("value", .string path)]])]

/-- An export that holds nothing but records of variables. -/
def exportOf (records : List Value) : Value := .object [("macro", .array records)]

theorem legible_variableRecord {name : Value} (scalar : Legible Limits.standard 983 name)
    (path : Text) : Legible Limits.standard 984 (variableRecord name path) := by
  refine .object 983 _ (List.forall_mem_cons.mpr ⟨scalar, List.forall_mem_singleton.mpr ?_⟩)
  refine .array 982 _ (List.forall_mem_singleton.mpr (.object 981 _ ?_))
  exact List.forall_mem_cons.mpr ⟨.string 981 _, List.forall_mem_singleton.mpr (.string 981 _)⟩

theorem parse_exportOf {layout : Layout} (unsorted : layout.sorted = false)
    (escaped : layout.escaped = true) {records : List Value}
    (legible : ∀ record ∈ records, Legible Limits.standard 984 record) :
    parse (print layout (exportOf records)) = .ok (reread (exportOf records)) :=
  parse_print unsorted escaped
    (.object 985 _ (List.forall_mem_singleton.mpr (.array 984 _ legible)))

/-- A variable that is named by a number keeps the whole export from being compiled, although the
variable beside it is in order: without the one, the other is bound. -/
theorem ofText_raises :
    let numbered : Text := "\x7b\"name\": 7, \"parameter\": " ++
      "[\x7b\"key\": \"dataLayerVariable\", \"value\": \"x\"\x7d]\x7d, "
    let revenue : Text := "\x7b\"name\": \"Revenue\", \"parameter\": " ++
      "[\x7b\"key\": \"dataLayerVariable\", \"value\": \"total\"\x7d]\x7d"
    let exported (records : Text) : Text := "\x7b\"macro\": [" ++ records ++ "]\x7d"
    let outcome (records : Text) :=
      (ofSource .empty (.text (exported records)) (.string "acme")).outcome.1
    (∃ compiled, outcome revenue = .ok compiled ∧
        compiled.bindings = [(.string "Revenue", .string "total")]) ∧
      outcome (numbered ++ revenue) = .error (.lacks .int "lower") ∧
      ¬∀ text customer, ∃ compiled,
        (ofSource .empty (.text text) customer).outcome.1 = .ok compiled := by
  intro numbered revenue exported outcome
  let named := variableRecord (.string "Revenue") "total"
  let odd := variableRecord (.int 7) "x"
  have legible : Legible Limits.standard 984 named := legible_variableRecord (.string 983 _) "total"
  have legible' : Legible Limits.standard 984 odd :=
    legible_variableRecord (.int 983 7 (scalarText_int (by decide))) "x"
  have first : exported revenue = print .line (exportOf [named]) := by decide +kernel
  have both : exported (numbered ++ revenue) = print .line (exportOf [odd, named]) := by
    decide +kernel
  have sound := ofText_result .empty (exported revenue) (.string "acme")
  have broken := ofText_result .empty (exported (numbered ++ revenue)) (.string "acme")
  rw [first, parse_exportOf rfl rfl (List.forall_mem_singleton.mpr legible), ← first] at sound
  rw [both, parse_exportOf rfl rfl (List.forall_mem_cons.mpr
    ⟨legible', List.forall_mem_singleton.mpr legible⟩), ← both] at broken
  have fails : outcome (numbered ++ revenue) = .error (.lacks .int "lower") :=
    broken.trans rfl
  have free : (Export.resolved (exportOf [named])).Unobstructed :=
    ⟨List.forall_mem_singleton.mpr rfl, .inl rfl⟩
  obtain ⟨signals, _, compiles⟩ := result_of_unobstructed free (.string "acme")
  refine ⟨⟨_, sound.trans compiles, rfl⟩, fails, ?_⟩
  intro always
  obtain ⟨compiled, returns⟩ := always (exported (numbered ++ revenue)) (.string "acme")
  cases fails.symm.trans returns

end Raising

end Compilation

end Compiling

end ConversionRelay
