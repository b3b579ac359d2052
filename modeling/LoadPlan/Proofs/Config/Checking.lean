import LoadPlan.Proofs.Config.Reading
import LoadPlan.Proofs.Value.Spelling
import Mathlib.Data.List.Nodup

/-!
# Checking a configuration

What a mapping gives for an option is what its last entry under one of the two names has.  If an option may not
have that, no configuration is read, and the fault is about the first such option in the order of the checks.

* `Gives` — what a mapping gives for an option; `gives_iff` — it is what is read.
* `Setting.Admits`, `IsValid` — the values that an option may have, and configurations with such values.
* `Offends` — the first option that may not have what a mapping gives for it.
* `ofEntries_of_offends` — the fault is that of its check.
* **`ofEntries_checked`** — mappings are checked, and valid configurations are read from their own mappings.
* **`longRate_unnamed`** — there is no fault about an option if the value is too long to be shown.
-/

namespace LoadPlan

namespace Config

variable {entries : Entries} {s : Setting} {v : Value}

/-! ## What a mapping gives -/

/-- The names of an option, as keys of a mapping. -/
def Setting.Names (s : Setting) (key : Value) : Prop := key = .text s.name ∨ key = .text s.other

/-- **What a mapping gives for an option.**  Entries with other keys do not matter. -/
inductive Gives (entries : Entries) (s : Setting) : Value → Prop where
  /-- The last entry for the option counts. -/
  | last {before after : Entries} {key v : Value} (h : entries = before ++ (key, v) :: after)
    (hkey : s.Names key) (hafter : ∀ entry ∈ after, ¬ s.Names entry.1) : Gives entries s v
  /-- Without any entry the option is as usual. -/
  | usual (hnone : ∀ entry ∈ entries, ¬ s.Names entry.1) : Gives entries s (Config.usual.value s)

lemma names_eq_false_iff {key : Value} : names s.name s.other key = false ↔ ¬ s.Names key := by
  rw [← Bool.not_eq_true, names_iff, Setting.Names]

/-- **What a mapping gives is what is read.** -/
lemma gives_iff : Gives entries s v ↔ v = fileValue entries s := by
  constructor
  · rintro (⟨h, hkey, hafter⟩ | hnone)
    · have hlast : given? entries s.name s.other = some v :=
        given?_eq_some_iff.mpr ⟨_, _, _, h, names_iff.mpr hkey,
          fun entry hentry => names_eq_false_iff.mpr (hafter entry hentry)⟩
      rw [fileValue, given, hlast, Option.getD_some]
    · have hno : given? entries s.name s.other = none :=
        given?_eq_none_iff.mpr fun entry hentry => names_eq_false_iff.mpr (hnone entry hentry)
      rw [fileValue, given, hno, Option.getD_none]
  · rintro rfl
    rw [fileValue, given]
    cases hgiven : given? entries s.name s.other with
    | none =>
        exact .usual fun entry hentry => names_eq_false_iff.mp (given?_eq_none_iff.mp hgiven entry hentry)
    | some w =>
        obtain ⟨before, key, after, h, hkey, hafter⟩ := given?_eq_some_iff.mp hgiven
        exact .last h (names_iff.mp hkey) fun entry hentry => names_eq_false_iff.mp (hafter entry hentry)

/-! ## Values that an option may have -/

/-- **The values that an option may have.**  Only integers are numbers, and a way to group operations is given by
its name. -/
def Setting.Admits : Setting → Value → Prop
  | threadCount, v | rampUpTime, v | loopCount, v | connectionTimeout, v | responseTimeout, v
  | responseTimeThreshold, v | throughputThreshold, v => ∃ n : Nat, 0 < n ∧ v = .int n
  | duration, v => v = .null ∨ ∃ n : Nat, 0 < n ∧ v = .int n
  | errorRateThreshold, v => ∃ n : Nat, n ≤ 100 ∧ v = .int n
  | groupingStrategy, v => ∃ strategy : Strategy, v = .text strategy.name
  | baseUrl, _ | testPlanName, _ | addAssertions, _ | addCorrelation, _ | generateCsvConfig, _
  | followRedirects, _ | useKeepAlive, _ | enableReporting, _ => True

lemma positive?_eq_some_iff {n : Nat} : positive? v = some n ↔ 0 < n ∧ v = .int n := by
  constructor
  · intro h
    obtain rfl := int_of_positive? h
    rw [positive?] at h
    split_ifs at h with hpositive
    exact ⟨Int.natCast_pos.mp hpositive, rfl⟩
  · rintro ⟨hpositive, rfl⟩
    exact if_pos (Int.natCast_pos.mpr hpositive)

lemma percentage?_eq_some_iff {n : Nat} : percentage? v = some n ↔ n ≤ 100 ∧ v = .int n := by
  constructor
  · intro h
    obtain rfl := int_of_percentage? h
    rw [percentage?] at h
    split_ifs at h with hbounds
    exact ⟨Int.ofNat_le.mp hbounds.2, rfl⟩
  · rintro ⟨hle, rfl⟩
    exact if_pos ⟨Int.natCast_nonneg n, Int.ofNat_le.mpr hle⟩

lemma strategy?_eq_some_iff {strategy : Strategy} :
    Setting.strategy? v = some strategy ↔ v = .text strategy.name := by
  refine ⟨text_of_strategy?, ?_⟩
  rintro rfl
  cases strategy <;> decide

lemma isSome_positive?_iff : (positive? v).isSome = true ↔ ∃ n : Nat, 0 < n ∧ v = .int n := by
  rw [Option.isSome_iff_exists]
  exact exists_congr fun n => positive?_eq_some_iff

lemma isSome_duration?_iff :
    (Setting.duration? v).isSome = true ↔ v = .null ∨ ∃ n : Nat, 0 < n ∧ v = .int n := by
  unfold Setting.duration?
  split
  · exact iff_of_true rfl (.inl rfl)
  · next hnull => rw [Option.isSome_map, isSome_positive?_iff, or_iff_right hnull]

lemma Setting.accepts_iff : s.accepts v = true ↔ s.Admits v := by
  cases s with
  | duration => exact isSome_duration?_iff
  | errorRateThreshold =>
      exact Option.isSome_iff_exists.trans (exists_congr fun n => percentage?_eq_some_iff)
  | groupingStrategy =>
      exact Option.isSome_iff_exists.trans (exists_congr fun strategy => strategy?_eq_some_iff)
  | threadCount | rampUpTime | loopCount | connectionTimeout | responseTimeout | responseTimeThreshold
  | throughputThreshold => exact isSome_positive?_iff
  | _ => exact iff_of_true rfl trivial

/-- An option may have what is given for it. -/
lemma admits_given_iff :
    (∀ v, Gives entries s v → s.Admits v) ↔ s.accepts (fileValue entries s) = true := by
  simp only [gives_iff, forall_eq, Setting.accepts_iff]

/-- **A valid configuration**: every option has a value that it may have. -/
def IsValid (config : Config) : Prop := ∀ s : Setting, s.Admits (config.value s)

/-! ## The mapping of a configuration -/

section

variable {m n : Nat} {d d' : Option Nat} {strategy strategy' : Strategy} {config other : Config}

lemma int_injective (h : Value.int m = .int n) : m = n := Int.ofNat.inj (Value.int.inj h)

lemma duration_injective (h : (d.map fun n : Nat => Value.int n).getD .null =
    (d'.map fun n : Nat => Value.int n).getD .null) : d = d' := by
  match d, d' with
  | none, none => rfl
  | none, some n => cases h
  | some m, none => cases h
  | some m, some n => exact congrArg some (int_injective h)

lemma strategy_injective (h : Value.text strategy.name = .text strategy'.name) : strategy = strategy' := by
  have hread := strategy?_eq_some_iff.mpr h
  rw [strategy?_eq_some_iff.mpr rfl] at hread
  exact Option.some.inj hread

/-- A configuration is determined by the values of its options. -/
lemma eq_of_value (h : ∀ s, config.value s = other.value s) : config = other := by
  cases config
  cases other
  rw [mk.injEq]
  exact ⟨int_injective (h .threadCount), int_injective (h .rampUpTime), int_injective (h .loopCount),
    duration_injective (h .duration), h .baseUrl, h .testPlanName, strategy_injective (h .groupingStrategy),
    h .addAssertions, h .addCorrelation, h .generateCsvConfig, h .followRedirects, h .useKeepAlive,
    h .enableReporting, int_injective (h .connectionTimeout), int_injective (h .responseTimeout),
    int_injective (h .responseTimeThreshold), int_injective (h .throughputThreshold),
    int_injective (h .errorRateThreshold)⟩

end

/-- The mapping of a configuration gives the values of its options. -/
lemma gives_toEntries (config : Config) (s : Setting) : Gives config.toEntries s (config.value s) := by
  have hnodup : Setting.all.Nodup := by decide
  obtain ⟨before, after, hall⟩ := List.append_of_mem (Setting.mem_all s)
  rw [hall] at hnodup
  have hfresh : s ∉ after := (List.nodup_cons.mp hnodup.of_append_right).1
  have hentries : config.toEntries = before.map (fun t => (.text t.name, config.value t)) ++
      (.text s.name, config.value s) :: after.map fun t => (.text t.name, config.value t) := by
    rw [toEntries_eq, hall, List.map_append, List.map_cons]
  refine .last hentries (.inl rfl) ?_
  intro entry hentry
  obtain ⟨t, ht, rfl⟩ := List.mem_map.mp hentry
  have hne : s ≠ t := fun heq => hfresh (heq ▸ ht)
  obtain ⟨hname, hother⟩ := Setting.name_apart s (Setting.mem_all s) t (Setting.mem_all t) hne
  rintro (hkey | hkey)
  · exact hname (Value.text.inj hkey)
  · exact hother (Value.text.inj hkey)

/-- **A valid configuration is read from its own mapping**, and no other is. -/
theorem ofEntries_toEntries_iff {config : Config} : ofEntries config.toEntries = .ok config ↔ config.IsValid := by
  have hvalue : ∀ s, fileValue config.toEntries s = config.value s :=
    fun s => (gives_iff.mp (gives_toEntries config s)).symm
  have hread : (∃ other, ofEntries config.toEntries = .ok other) ↔ config.IsValid := by
    rw [exists_ofEntries_iff]
    exact forall_congr' fun s => by rw [hvalue, Setting.accepts_iff]
  rw [← hread]
  refine ⟨fun h => ⟨config, h⟩, fun ⟨other, h⟩ => ?_⟩
  have heq : other = config := eq_of_value fun s => (value_of_ofEntries h s).trans (hvalue s)
  rw [h, heq]

/-! ## The first option that is refused -/

/-- **An option offends** if it may not have what is given for it, and all options that are checked before it
may. -/
structure Offends (entries : Entries) (s : Setting) (v : Value) : Prop where
  /-- The value is given for the option. -/
  given : Gives entries s v
  /-- The option may not have it. -/
  refused : ¬ s.Admits v
  /-- The options that are checked before may have what is given for them. -/
  first : ∃ earlier later, Setting.checked = earlier ++ s :: later ∧
    ∀ t ∈ earlier, ∀ w, Gives entries t w → t.Admits w

/-- **The check of an option that offends** decides. -/
theorem ofEntries_of_offends {fault : Fault} (h : Offends entries s v) (hcheck : s.check v = .error fault) :
    ofEntries entries = .error fault := by
  obtain ⟨earlier, later, hchecked, hearlier⟩ := h.first
  have hv := gives_iff.mp h.given
  subst hv
  have hpassed : ∀ t ∈ earlier, t.check (fileValue entries t) = .ok () := fun t ht =>
    Setting.check_eq_ok_iff.mpr (admits_given_iff.mp (hearlier t ht))
  rw [← discard_except_eq_error_iff, discard_ofEntries, forM_eq_error_iff]
  exact ⟨earlier, s, later, hchecked, hpassed, hcheck⟩

/-- Without a configuration, an option offends. -/
lemma exists_offends {fault : Fault} (h : ofEntries entries = .error fault) : ∃ s v, Offends entries s v := by
  rw [← discard_except_eq_error_iff, discard_ofEntries, forM_eq_error_iff] at h
  obtain ⟨earlier, s, later, hchecked, hearlier, hs⟩ := h
  refine ⟨s, fileValue entries s, gives_iff.mpr rfl, fun hadmits => ?_, earlier, later, hchecked,
    fun t ht => admits_given_iff.mpr (Setting.check_eq_ok_iff.mp (hearlier t ht))⟩
  rw [Setting.check_eq_ok_iff.mpr (Setting.accepts_iff.mpr hadmits)] at hs
  cases hs

lemma Setting.check_of_not_admits (h : ¬ s.Admits v) : s.check v = refuse (s.quoted v) s.refusal :=
  if_neg fun haccepts => h (accepts_iff.mp haccepts)

/-- Faults show all values but those that are too long. -/
lemma Setting.spelled_quoted (s : Setting) (v : Value) : Spelled v.isSpellable (s.quoted v) := by
  unfold quoted
  split_ifs
  · exact v.spelled_shown
  · exact v.spelled_literal

/-- There is no fault about an option whose value is too long. -/
lemma ofEntries_of_unspellable (h : Offends entries s v) (hlong : v.isSpellable = false) :
    ofEntries entries = .error .tooManyDigits := by
  have hcheck := Setting.check_of_not_admits h.refused
  rcases s.spelled_quoted v with ⟨hspellable, -⟩ | ⟨-, hquoted⟩
  · rw [hlong] at hspellable
    cases hspellable
  · rw [hquoted] at hcheck
    exact ofEntries_of_offends h hcheck

/-! ## Checked mappings -/

/-- **A mapping that is checked.** -/
structure IsChecked (entries : Entries) (made : Except Fault Config) : Prop where
  /-- A configuration is read exactly if every option may have what is given for it. -/
  succeeds : (∃ config, made = .ok config) ↔ ∀ s v, Gives entries s v → s.Admits v
  /-- Its options have what is given for them. -/
  given : ∀ config, made = .ok config → ∀ s, Gives entries s (config.value s)
  /-- Otherwise an option offends. -/
  fails : (∃ config, made = .ok config) ∨ ∃ s v, Offends entries s v
  /-- The fault is about this option, and shows the value. -/
  refused : ∀ s v, Offends entries s v → v.isSpellable = true → ∃ shown, s.quoted v = .ok shown ∧
    made = .error (.config (s.refusal shown)) ∧ (s.refusal shown).option? = some s.name
  /-- If the value cannot be shown, there is no such fault. -/
  unshown : ∀ s v, Offends entries s v → v.isSpellable = false → made = .error .tooManyDigits

lemma isChecked_ofEntries (entries : Entries) : IsChecked entries (ofEntries entries) where
  succeeds := by
    rw [exists_ofEntries_iff]
    exact forall_congr' fun s => admits_given_iff.symm
  given config h s := gives_iff.mpr (value_of_ofEntries h s)
  fails := by
    cases h : ofEntries entries with
    | error fault => exact .inr (exists_offends h)
    | ok config => exact .inl ⟨config, rfl⟩
  refused s v h hspellable := by
    obtain ⟨shown, hshown⟩ := (s.spelled_quoted v).exists_of_true hspellable
    have hcheck := Setting.check_of_not_admits h.refused
    rw [hshown] at hcheck
    exact ⟨shown, hshown, ofEntries_of_offends h hcheck, s.option?_refusal shown⟩
  unshown _ _ := ofEntries_of_unspellable

/-- **Configurations are checked.**  Every mapping is, and exactly the valid configurations are read from their
own mappings. -/
theorem ofEntries_checked (entries : Entries) (config : Config) :
    IsChecked entries (ofEntries entries) ∧ (ofEntries config.toEntries = .ok config ↔ config.IsValid) :=
  ⟨isChecked_ofEntries entries, ofEntries_toEntries_iff⟩

/-- A mapping with mistakes.  The number of repetitions is given twice, and the value that counts is no number. -/
def mistaken : Entries :=
  [ (.text "loop_count", .int 2), (.text "colour", .text "blue"), (.text "loopCount", .bool true),
    (.text "duration", .int 0) ]

/-- The first mistake is reported, and the usual configuration is read from its own mapping. -/
theorem mistaken_checked : Offends mistaken .loopCount (.bool true) ∧
    ofEntries mistaken = .error (.config (.notPositive "loop_count" "True")) ∧
      ofEntries usual.toEntries = .ok usual := by
  have hearlier : ∀ t ∈ [Setting.threadCount, .rampUpTime], t.accepts (fileValue mistaken t) = true := by decide
  have hoffends : Offends mistaken .loopCount (.bool true) :=
    ⟨gives_iff.mpr rfl, by rintro ⟨n, -, ⟨⟩⟩, _, _, rfl, fun t ht => admits_given_iff.mpr (hearlier t ht)⟩
  have husual : ∀ s ∈ Setting.all, s.accepts (usual.value s) = true := by decide
  obtain ⟨hchecked, hvalid⟩ := ofEntries_checked mistaken usual
  obtain ⟨shown, hshown, hfault, -⟩ := hchecked.refused _ _ hoffends rfl
  obtain rfl := Except.ok.inj hshown
  exact ⟨hoffends, hfault, hvalid.mpr fun s => Setting.accepts_iff.mp (husual s (Setting.mem_all s))⟩

/-- A mapping with a percentage that has no decimal text. -/
def longRate : Entries := [(.text "error_rate_threshold", .int (Nat.pow 10 maxDigits : Nat))]

/-- **An option can offend without being named**, if its value is a number that is too long to be shown. -/
theorem longRate_unnamed :
    Offends longRate .errorRateThreshold (.int (Nat.pow 10 maxDigits : Nat)) ∧
      ofEntries longRate = .error .tooManyDigits := by
  have hearlier : ∀ t ∈ [Setting.threadCount, .rampUpTime, .loopCount, .connectionTimeout, .responseTimeout,
      .responseTimeThreshold, .throughputThreshold, .duration],
      t.accepts (fileValue longRate t) = true := by decide
  have hlong : (Value.int (Nat.pow 10 maxDigits : Nat)).isSpellable = false := by
    rw [Value.isSpellable, decide_eq_false_iff_not, Int.natAbs_natCast]
    exact Nat.lt_irrefl _
  have hrefused : ¬ Setting.errorRateThreshold.Admits (.int (Nat.pow 10 maxDigits : Nat)) := by
    have hten : 1 < 10 := by decide
    have hlarge : ∀ {e : Nat}, 2 < e → 100 < Nat.pow 10 e := fun he => Nat.pow_lt_pow_right hten he
    rintro ⟨n, hn, h⟩
    have hmore : 100 < Nat.pow 10 maxDigits := hlarge (by decide)
    rw [int_injective h] at hmore
    exact absurd hn (Nat.not_le.mpr hmore)
  have hoffends : Offends longRate .errorRateThreshold (.int (Nat.pow 10 maxDigits : Nat)) :=
    ⟨gives_iff.mpr rfl, hrefused, _, _, rfl, fun t ht => admits_given_iff.mpr (hearlier t ht)⟩
  exact ⟨hoffends, ofEntries_of_unspellable hoffends hlong⟩

end Config

end LoadPlan
