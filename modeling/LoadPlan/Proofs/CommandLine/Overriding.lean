import LoadPlan.CommandLine.Session
import LoadPlan.Proofs.Config.Reading
import Mathlib.Data.List.Nodup

/-!
# Options of the command line over those of a file

The options of the command line are put into the mapping of a file under their first names, and only then are
the two names of an option taken for one.  An entry that is already there keeps its place.  So an option of
the command line counts, unless the file has the option under its first name and behind that once more: what
stands last is then still what the file says.

* `Setting.isShadowed` — whether an option that is put into a mapping does not count there.
* `given?_insert`, `given?_insert_of_ne` — what a mapping gives for an option after an entry has been put
  into it.
* `Overrides.value?` — the options of the command line.
* `given?_overlay` — what a mapping gives for an option after all of them have been put into it.
* `IsLayered` — a configuration that is read from a file and the command line.
* **`effectiveConfig_layered`** — the effective configuration is one.
* **`option_shadowed`** — a mapping in which an option of the command line does not count.
-/

namespace LoadPlan

namespace Config

/-! ## Entries for an option -/

section

variable {name other : Text}

/-- The last entry for an option counts. -/
lemma given?_cons (entry : Value × Value) (rest : Entries) : given? (entry :: rest) name other =
    (given? rest name other).or (if names name other entry.1 then some entry.2 else none) := by
  rw [given?, given?, List.reverse_cons, List.find?_append, List.find?_singleton]
  cases List.find? _ rest.reverse with
  | none =>
      rw [Option.none_or, Option.map_none, Option.none_or]
      split_ifs <;> rfl
  | some found => rfl

/-- Whether a mapping has an entry for an option. -/
def hasOption (name other : Text) (entries : Entries) : Bool :=
  entries.any fun entry => names name other entry.1

lemma isSome_given? (entries : Entries) :
    (given? entries name other).isSome = hasOption name other entries := by
  induction entries with
  | nil => rfl
  | cons entry rest ih =>
      rw [given?_cons, Option.isSome_or, ih, hasOption, hasOption, List.any_cons, Bool.or_comm]
      split_ifs with h
      · rw [h]; rfl
      · rw [Bool.not_eq_true] at h
        rw [h]; rfl

/-! ## Putting an entry into a mapping -/

/-- **Whether an option that is put into a mapping does not count**: behind the entry with its first name,
there is another entry for it. -/
def isShadowed (name other : Text) : Entries → Bool
  | [] => false
  | (key, _) :: rest =>
    if key.sameKey (.text name) then hasOption name other rest else isShadowed name other rest

/-- **An option that is put into a mapping counts** unless it is shadowed; then the mapping gives what it gave
before. -/
lemma given?_insert (v : Value) (entries : Entries) :
    given? (entries.insert (.text name) v) name other =
      if isShadowed name other entries then given? entries name other else some v := by
  induction entries with
  | nil =>
      rw [Entries.insert, given?_cons, if_pos (names_iff.mpr (.inl rfl))]
      rfl
  | cons entry rest ih =>
      obtain ⟨key, old⟩ := entry
      rw [Entries.insert, isShadowed]
      by_cases hkey : key.sameKey (.text name) = true
      · -- the entry keeps its place: it counts exactly if nothing behind it is for the option
        have hnames : names name other key = true := names_iff.mpr (.inl (Value.sameKey_text_iff.mp hkey))
        rw [if_pos hkey, if_pos hkey, given?_cons, given?_cons, if_pos hnames, if_pos hnames, ← isSome_given?]
        cases given? rest name other <;> rfl
      · rw [if_neg hkey, if_neg hkey, given?_cons, given?_cons, ih]
        split_ifs <;> rfl

variable {key : Text}

/-- An entry for something else is none for an option. -/
lemma names_of_ne (hname : key ≠ name) (hother : key ≠ other) : names name other (.text key) = false := by
  rw [← Bool.not_eq_true, names_iff, not_or]
  exact ⟨fun h => hname (Value.text.inj h), fun h => hother (Value.text.inj h)⟩

/-- Entries for other options do not matter. -/
lemma given?_insert_of_ne (hname : key ≠ name) (hother : key ≠ other) (v : Value) (entries : Entries) :
    given? (entries.insert (.text key) v) name other = given? entries name other := by
  have hno := names_of_ne hname hother
  induction entries with
  | nil =>
      rw [Entries.insert, given?_cons, hno]
      rfl
  | cons entry rest ih =>
      obtain ⟨found, old⟩ := entry
      rw [Entries.insert]
      by_cases hfound : found.sameKey (.text key) = true
      · rw [if_pos hfound, given?_cons, given?_cons, Value.sameKey_text_iff.mp hfound, hno]
        rfl
      · rw [if_neg hfound, given?_cons, given?_cons, ih]

lemma isShadowed_insert_of_ne (hname : key ≠ name) (hother : key ≠ other) (v : Value) (entries : Entries) :
    isShadowed name other (entries.insert (.text key) v) = isShadowed name other entries := by
  have hno := names_of_ne hname hother
  have hkey : (Value.text key).sameKey (.text name) = false := by
    rw [← Bool.not_eq_true, Value.sameKey_text_iff]
    exact fun h => hname (Value.text.inj h)
  induction entries with
  | nil =>
      rw [Entries.insert, isShadowed, isShadowed, hkey]
      rfl
  | cons entry rest ih =>
      obtain ⟨found, old⟩ := entry
      rw [Entries.insert]
      by_cases hfound : found.sameKey (.text key) = true
      · rw [if_pos hfound, isShadowed, isShadowed]
      · rw [if_neg hfound, isShadowed, isShadowed, ih, ← isSome_given?, ← isSome_given?,
          given?_insert_of_ne hname hother]

end

end Config

namespace CommandLine

open Config

/-! ## Options of the command line -/

/-- **The value of an option on the command line**; nothing when it is not given. -/
def Overrides.value? (overrides : Overrides) : Setting → Option Value
  | .threadCount => overrides.threadCount?.map fun n : Nat => .int n
  | .rampUpTime => overrides.rampUpTime?.map fun n : Nat => .int n
  | .loopCount => overrides.loopCount?.map fun n : Nat => .int n
  | .duration => overrides.duration?.map fun n : Nat => .int n
  | .baseUrl => overrides.baseUrl?.map .text
  | .testPlanName => overrides.testPlanName?.map .text
  | .groupingStrategy => overrides.groupingStrategy?.map fun s => .text s.name
  | .addAssertions => overrides.addAssertions?.map .bool
  | .addCorrelation => overrides.addCorrelation?.map .bool
  | .generateCsvConfig => overrides.generateCsvConfig?.map .bool
  | .enableReporting => overrides.enableReporting?.map .bool
  | _ => none

/-- The entries for some options of the command line. -/
def Overrides.entriesFor (overrides : Overrides) (settings : List Setting) : Entries :=
  settings.flatMap fun s => ((overrides.value? s).map fun v => (Value.text s.name, v)).toList

lemma Overrides.toEntries_eq (overrides : Overrides) :
    overrides.toEntries = overrides.entriesFor Setting.all := by
  rw [toEntries, entriesFor, Setting.all]
  simp only [value?, List.flatMap_cons, List.flatMap_nil, Option.map_none, Option.toList_none,
    List.nil_append, List.append_nil, List.append_assoc]
  rfl

/-- Options that are put into a mapping one after another. -/
lemma overlay_entriesFor (overrides : Overrides) (t : Setting) (settings : List Setting) (file : Entries) :
    overlay file (overrides.entriesFor (t :: settings)) =
      overlay (match overrides.value? t with
        | none => file
        | some v => file.insert (.text t.name) v) (overrides.entriesFor settings) := by
  rw [Overrides.entriesFor, List.flatMap_cons, overlay, List.foldl_append]
  cases overrides.value? t <;> rfl

/-- **What a mapping gives for an option** after options of the command line have been put into it: what the
command line gives, if the option is one of them and not shadowed, and otherwise what it gave before. -/
lemma given?_overlay (overrides : Overrides) (s : Setting) :
    ∀ (settings : List Setting) (file : Entries), settings.Nodup →
      given? (overlay file (overrides.entriesFor settings)) s.name s.other =
        match if s ∈ settings then overrides.value? s else none with
        | none => given? file s.name s.other
        | some v => if isShadowed s.name s.other file then given? file s.name s.other else some v
  | [], _, _ => rfl
  | t :: settings, file, hnodup => by
      obtain ⟨hfresh, hrest⟩ := List.nodup_cons.mp hnodup
      rw [overlay_entriesFor, given?_overlay overrides s settings _ hrest]
      by_cases hsame : s = t
      · -- the option itself: it is put into the mapping here and nowhere else
        subst hsame
        rw [if_neg hfresh, if_pos List.mem_cons_self]
        cases overrides.value? s with
        | none => rfl
        | some v => exact given?_insert v file
      · obtain ⟨hname, hother⟩ := Setting.name_apart s (Setting.mem_all s) t (Setting.mem_all t) hsame
        have hmem : s ∈ t :: settings ↔ s ∈ settings := by
          rw [List.mem_cons, or_iff_right hsame]
        simp only [hmem]
        cases overrides.value? t with
        | none => rfl
        | some w =>
            dsimp only
            rw [given?_insert_of_ne hname hother, isShadowed_insert_of_ne hname hother]

/-! ## Effective configurations -/

/-- **The value that an option is to have**: that of the command line, unless it is shadowed in the file, and
otherwise that of the file. -/
def effective (file : Entries) (overrides : Overrides) (s : Setting) : Value :=
  match overrides.value? s with
  | none => fileValue file s
  | some v => if isShadowed s.name s.other file then fileValue file s else v

lemma fileValue_overlay (file : Entries) (overrides : Overrides) (s : Setting) :
    fileValue (overlay file overrides.toEntries) s = effective file overrides s := by
  have hnodup : Setting.all.Nodup := by decide
  rw [fileValue, given, Overrides.toEntries_eq, given?_overlay overrides s _ file hnodup,
    if_pos (Setting.mem_all s), effective]
  cases overrides.value? s with
  | none => rfl
  | some v =>
      dsimp only
      split_ifs with hshadowed
      · rfl
      · rfl

/-- **A configuration that is read from a file and the command line.** -/
structure IsLayered (file : Entries) (overrides : Overrides) (made : Except Fault Config) : Prop where
  /-- It is read exactly if every option accepts the value that it is to have. -/
  succeeds : (∃ config, made = .ok config) ↔ ∀ s : Setting, s.accepts (effective file overrides s) = true
  /-- An option of the command line has its value from there, unless it is shadowed. -/
  given : ∀ config, made = .ok config → ∀ s v, overrides.value? s = some v →
    isShadowed s.name s.other file = false → config.value s = v
  /-- Where it is shadowed, it has its value from the file. -/
  shadowed : ∀ config, made = .ok config → ∀ s, isShadowed s.name s.other file = true →
    config.value s = fileValue file s
  /-- An option that is not on the command line has its value from the file. -/
  kept : ∀ config, made = .ok config → ∀ s, overrides.value? s = none → config.value s = fileValue file s
  /-- The values from the file are those that a configuration has that is read from the file alone. -/
  alone : ∀ config, Config.ofEntries file = .ok config → ∀ s, config.value s = fileValue file s

/-- A configuration is read from a file and the command line. -/
lemma isLayered_overlay (file : Entries) (overrides : Overrides) :
    IsLayered file overrides (Config.ofEntries (overlay file overrides.toEntries)) := by
  have hvalue : ∀ config, Config.ofEntries (overlay file overrides.toEntries) = .ok config →
      ∀ s, config.value s = effective file overrides s := by
    intro config h s
    rw [value_of_ofEntries h, fileValue_overlay]
  refine ⟨?_, ?_, ?_, ?_, fun config h => value_of_ofEntries h⟩
  · rw [exists_ofEntries_iff]
    exact forall_congr' fun s => by rw [fileValue_overlay]
  · intro config h s v hgiven hfree
    rw [hvalue config h, effective, hgiven]
    exact if_neg (Bool.eq_false_iff.mp hfree)
  · intro config h s hshadowed
    rw [hvalue config h, effective]
    cases overrides.value? s with
    | none => rfl
    | some v => exact if_pos hshadowed
  · intro config h s hnone
    rw [hvalue config h, effective, hnone]

/-- **The effective configuration** is read from the file and the command line, if the file can be read. -/
theorem effectiveConfig_layered (reader : YamlReader) (folder : Folder) (options? : Option Text)
    (overrides : Overrides) :
    match fileOptions reader folder options? with
    | .error fault => effectiveConfig reader folder options? overrides = .error fault
    | .ok file => IsLayered file overrides (effectiveConfig reader folder options? overrides) := by
  rw [effectiveConfig]
  cases fileOptions reader folder options? with
  | error fault => rfl
  | ok file =>
      rw [ok_bind]
      exact isLayered_overlay file overrides

/-! ## An example -/

/-- A mapping that has an option under both of its names. -/
def twiceGiven : Entries := [(.text "thread_count", .int 1), (.text "threadCount", .int 2)]

/-- **An option of the command line need not count**: with five virtual users on the command line, the mapping
of the example still leads to two. -/
theorem option_shadowed : ∃ config,
    Config.ofEntries (overlay twiceGiven (Overrides.toEntries { threadCount? := some 5 })) = .ok config ∧
      Overrides.value? { threadCount? := some 5 } .threadCount = some (.int 5) ∧
      config.value .threadCount = .int 2 := ⟨_, rfl, rfl, rfl⟩

end CommandLine

end LoadPlan
