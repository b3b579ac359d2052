import LoadPlan.Config
import LoadPlan.Proofs.Outcome
import Mathlib.Tactic.SplitIfs

/-!
# Reading a configuration

A configuration is read from a mapping option by option.  Every option has two names there, and its value is
the last one that is given under either of them, or else the usual one.  The reading succeeds if all of these
values are accepted.

* `Config.Setting` — the options, with their two names; `Config.value` — their values in a configuration.
* `Setting.accepts` — the values that an option can have; `Setting.check` — the check that it has one of them.
* `given?_eq_some_iff`, `fileValue` — the last entry for an option, and what a mapping has for it.
* `readAs` — the form in which each option is read.
* `discard_ofEntries` — a configuration is read by checks, in a fixed order.
* **`value_of_ofEntries`**, **`exists_ofEntries_iff`** — a configuration that is read has what the mapping
  has, and it is read exactly if all options accept it.
-/

namespace LoadPlan

namespace Config

/-! ## Options -/

/-- **An option of a configuration.** -/
inductive Setting where
  /-- The number of virtual users of a group. -/
  | threadCount
  /-- The seconds in which they are started. -/
  | rampUpTime
  /-- How often each of them repeats the requests. -/
  | loopCount
  /-- The seconds after which a test ends. -/
  | duration
  /-- The address that requests go to. -/
  | baseUrl
  /-- The name of the plan. -/
  | testPlanName
  /-- The way to group operations. -/
  | groupingStrategy
  /-- Whether responses are checked. -/
  | addAssertions
  /-- Whether fields of responses are kept. -/
  | addCorrelation
  /-- Whether groups read test data from a file. -/
  | generateCsvConfig
  /-- Whether redirections are followed. -/
  | followRedirects
  /-- Whether connections are kept. -/
  | useKeepAlive
  /-- Whether groups have listeners. -/
  | enableReporting
  /-- The milliseconds after which connecting fails. -/
  | connectionTimeout
  /-- The milliseconds after which a response fails. -/
  | responseTimeout
  /-- The milliseconds within which a response is good. -/
  | responseTimeThreshold
  /-- The number of requests per second that is expected. -/
  | throughputThreshold
  /-- The percentage of errors that is accepted. -/
  | errorRateThreshold
deriving DecidableEq

namespace Setting

/-- All options, in the order in which a configuration lists them. -/
def all : List Setting :=
  [ threadCount, rampUpTime, loopCount, duration, baseUrl, testPlanName, groupingStrategy, addAssertions,
    addCorrelation, generateCsvConfig, followRedirects, useKeepAlive, enableReporting, connectionTimeout,
    responseTimeout, responseTimeThreshold, throughputThreshold, errorRateThreshold ]

lemma mem_all (s : Setting) : s ∈ all := by
  cases s <;> decide

/-- The name of an option. -/
def name : Setting → Text
  | threadCount => "thread_count"
  | rampUpTime => "ramp_up_time"
  | loopCount => "loop_count"
  | duration => "duration"
  | baseUrl => "base_url"
  | testPlanName => "test_plan_name"
  | groupingStrategy => "grouping_strategy"
  | addAssertions => "add_assertions"
  | addCorrelation => "add_correlation"
  | generateCsvConfig => "generate_csv_config"
  | followRedirects => "follow_redirects"
  | useKeepAlive => "use_keep_alive"
  | enableReporting => "enable_reporting"
  | connectionTimeout => "connection_timeout"
  | responseTimeout => "response_timeout"
  | responseTimeThreshold => "response_time_threshold"
  | throughputThreshold => "throughput_threshold"
  | errorRateThreshold => "error_rate_threshold"

/-- The other name of an option, in which capitals begin its words. -/
def other : Setting → Text
  | threadCount => "threadCount"
  | rampUpTime => "rampUpTime"
  | loopCount => "loopCount"
  | duration => "duration"
  | baseUrl => "baseUrl"
  | testPlanName => "testPlanName"
  | groupingStrategy => "groupingStrategy"
  | addAssertions => "addAssertions"
  | addCorrelation => "addCorrelation"
  | generateCsvConfig => "generateCsvConfig"
  | followRedirects => "followRedirects"
  | useKeepAlive => "useKeepAlive"
  | enableReporting => "enableReporting"
  | connectionTimeout => "connectionTimeout"
  | responseTimeout => "responseTimeout"
  | responseTimeThreshold => "responseTimeThreshold"
  | throughputThreshold => "throughputThreshold"
  | errorRateThreshold => "errorRateThreshold"

/-- No name of an option is a name of another one. -/
lemma name_apart : ∀ s ∈ all, ∀ t ∈ all, s ≠ t → t.name ≠ s.name ∧ t.name ≠ s.other := by decide +kernel

/-- The way to group operations that a value names. -/
def strategy? : Value → Option Strategy
  | .text name => Strategy.ofName? name
  | _ => none

/-- The duration that a value is; nothing is one. -/
def duration? : Value → Option (Option Nat)
  | .null => some none
  | v => (positive? v).map some

/-- **Whether an option can have a value.** -/
def accepts (s : Setting) (v : Value) : Bool :=
  match s with
  | threadCount | rampUpTime | loopCount | connectionTimeout | responseTimeout | responseTimeThreshold
  | throughputThreshold => (positive? v).isSome
  | duration => (duration? v).isSome
  | errorRateThreshold => (percentage? v).isSome
  | groupingStrategy => (strategy? v).isSome
  | baseUrl | testPlanName | addAssertions | addCorrelation | generateCsvConfig | followRedirects
  | useKeepAlive | enableReporting => true

end Setting

open Setting

/-- **The value of an option.** -/
def value (config : Config) : Setting → Value
  | .threadCount => .int config.threadCount
  | .rampUpTime => .int config.rampUpTime
  | .loopCount => .int config.loopCount
  | .duration => (config.duration?.map fun n : Nat => Value.int n).getD .null
  | .baseUrl => config.baseUrl
  | .testPlanName => config.testPlanName
  | .groupingStrategy => .text config.groupingStrategy.name
  | .addAssertions => config.addAssertions
  | .addCorrelation => config.addCorrelation
  | .generateCsvConfig => config.generateCsvConfig
  | .followRedirects => config.followRedirects
  | .useKeepAlive => config.useKeepAlive
  | .enableReporting => config.enableReporting
  | .connectionTimeout => .int config.connectionTimeout
  | .responseTimeout => .int config.responseTimeout
  | .responseTimeThreshold => .int config.responseTimeThreshold
  | .throughputThreshold => .int config.throughputThreshold
  | .errorRateThreshold => .int config.errorRateThreshold

/-- The mapping of a configuration has the values of all options, under their names. -/
lemma toEntries_eq (config : Config) :
    config.toEntries = all.map fun s => (.text s.name, config.value s) := rfl

/-- **What a mapping has for an option**: its last value under either name, or else the usual one. -/
def fileValue (entries : Entries) (s : Setting) : Value := given entries s.name s.other (usual.value s)

/-! ## Entries for an option -/

section

variable {entries : Entries} {name other : Text}

lemma names_iff {key : Value} : names name other key = true ↔ key = .text name ∨ key = .text other := by
  cases key with
  | text t =>
      rw [names, Bool.or_eq_true, decide_eq_true_eq, decide_eq_true_eq, Value.text.injEq, Value.text.injEq]
  | _ => exact iff_of_false Bool.false_ne_true (by rintro (h | h) <;> cases h)

/-- **The last entry for an option counts.** -/
lemma given?_eq_some_iff {v : Value} : given? entries name other = some v ↔ ∃ before key after,
    entries = before ++ (key, v) :: after ∧ names name other key = true ∧
      ∀ entry ∈ after, names name other entry.1 = false := by
  rw [given?, Option.map_eq_some_iff]
  constructor
  · rintro ⟨⟨key, v⟩, hfound, rfl⟩
    obtain ⟨hkey, after, before, hentries, hafter⟩ := List.find?_eq_some_iff_append.mp hfound
    refine ⟨before.reverse, key, after.reverse, ?_, hkey, fun entry hentry => ?_⟩
    · rw [List.reverse_eq_iff.mp hentries]
      simp only [List.reverse_append, List.reverse_cons, List.append_assoc, List.singleton_append]
    · exact (Bool.not_eq_true' _).mp (hafter entry (List.mem_reverse.mp hentry))
  · rintro ⟨before, key, after, rfl, hkey, hafter⟩
    refine ⟨(key, v), List.find?_eq_some_iff_append.mpr ⟨hkey, after.reverse, before.reverse, ?_, ?_⟩, rfl⟩
    · simp only [List.reverse_append, List.reverse_cons, List.append_assoc, List.singleton_append]
    · exact fun entry hentry => congrArg not (hafter entry (List.mem_reverse.mp hentry))

lemma given?_eq_none_iff : given? entries name other = none ↔
    ∀ entry ∈ entries, names name other entry.1 = false := by
  rw [given?, Option.map_eq_none_iff, List.find?_eq_none]
  simp only [List.mem_reverse, Bool.not_eq_true]

end

/-! ## Reading one option -/

section

variable {entries : Entries} {name other : Text}

lemma int_of_positive? {v : Value} {n : Nat} (h : positive? v = some n) : v = .int n := by
  cases v with
  | int i =>
      rw [positive?] at h
      split_ifs at h with hpositive
      rw [← Option.some.inj h, Int.toNat_of_nonneg (Int.le_of_lt hpositive)]
  | _ => cases h

lemma int_of_percentage? {v : Value} {n : Nat} (h : percentage? v = some n) : v = .int n := by
  cases v with
  | int i =>
      rw [percentage?] at h
      split_ifs at h with hbounds
      rw [← Option.some.inj h, Int.toNat_of_nonneg hbounds.1]
  | _ => cases h

lemma text_of_strategy? {v : Value} {strategy : Strategy} (h : strategy? v = some strategy) :
    v = .text strategy.name := by
  cases v with
  | text name =>
      rw [strategy?, Strategy.ofName?] at h
      split_ifs at h with htag hpath
      · rw [← Option.some.inj h, htag]
      · rw [← Option.some.inj h, hpath]
  | _ => cases h

lemma value_of_duration? {v : Value} {d : Option Nat} (h : Setting.duration? v = some d) :
    (d.map fun n : Nat => Value.int n).getD .null = v := by
  unfold Setting.duration? at h
  split at h
  · rw [← Option.some.inj h]
    rfl
  · obtain ⟨n, hn, rfl⟩ := Option.map_eq_some_iff.mp h
    exact (int_of_positive? hn).symm

lemma refuse_ne_ok {α : Type} (shown : Except Fault Text) (fault : Text → ConfigFault) (a : α) :
    refuse shown fault ≠ .ok a := by
  intro h
  cases shown <;> cases h

/-- What a value is read as, or else the fault for it. -/
def readAs {α : Type} (read? : Value → Option α) (refused : Value → Except Fault α) (v : Value) :
    Except Fault α :=
  match read? v with
  | some a => .ok a
  | none => refused v

section

variable {α : Type} {read? : Value → Option α} {shown : Value → Except Fault Text}
  {fault : Text → ConfigFault} {v : Value}

lemma readAs_eq_ok_iff {a : α} :
    readAs read? (fun v => refuse (shown v) fault) v = .ok a ↔ read? v = some a := by
  unfold readAs
  cases read? v with
  | none => exact iff_of_false (refuse_ne_ok _ _ a) (Option.some_ne_none a).symm
  | some b =>
      exact ⟨fun h => congrArg some (Except.ok.inj h), fun h => congrArg Except.ok (Option.some.inj h)⟩

lemma discard_readAs : discard (readAs read? (fun v => refuse (shown v) fault) v) =
    if (read? v).isSome then .ok () else refuse (shown v) fault := by
  unfold readAs
  cases read? v with
  | none =>
      dsimp only
      cases shown v <;> rfl
  | some a => rfl

end

/-- A positive number is read from what the mapping has for it. -/
lemma positive_eq_readAs {usual : Nat} (h : 0 < usual) : positive entries name other usual =
    readAs positive? (fun v => refuse v.literal (.notPositive name))
      (given entries name other (.int usual)) := by
  have husual : positive? (.int usual) = some usual := if_pos (Int.natCast_pos.mpr h)
  unfold positive given
  cases given? entries name other with
  | none => rw [Option.getD_none, readAs, husual]
  | some v =>
      rw [Option.getD_some, readAs]
      dsimp only
      cases positive? v <;> rfl

/-- So is the percentage of errors. -/
lemma errorRateOf_eq_readAs : errorRateOf entries =
    readAs percentage? (fun v => refuse v.literal .notPercentage)
      (given entries "error_rate_threshold" "errorRateThreshold" (.int 5)) := by
  unfold errorRateOf given
  cases given? entries "error_rate_threshold" "errorRateThreshold" with
  | none => rfl
  | some v =>
      rw [Option.getD_some, readAs]
      dsimp only
      cases percentage? v <;> rfl

/-- So is the duration. -/
lemma durationOf_eq_readAs : durationOf entries =
    readAs Setting.duration? (fun v => refuse v.literal .badDuration)
      (given entries "duration" "duration" .null) := by
  unfold durationOf
  generalize given entries "duration" "duration" .null = v
  cases v with
  | int i =>
      have hnumber : Setting.duration? (.int i) = (positive? (.int i)).map some := rfl
      rw [readAs, hnumber]
      dsimp only
      cases positive? (.int i) <;> rfl
  | _ => rfl

/-- So is the way to group operations. -/
lemma strategyOf_eq_readAs : strategyOf entries =
    readAs strategy? (fun v => refuse v.shown .unknownStrategy)
      (given entries "grouping_strategy" "groupingStrategy" (.text "by-tag")) := by
  unfold strategyOf given
  cases given? entries "grouping_strategy" "groupingStrategy" with
  | none => rfl
  | some v =>
      cases v with
      | text name =>
          rw [Option.getD_some, readAs, strategy?]
          dsimp only
          cases Strategy.ofName? name <;> rfl
      | _ => rfl

end

/-! ## Checks -/

/-- The options whose values are checked, in the order in which this is done. -/
def Setting.checked : List Setting :=
  [ threadCount, rampUpTime, loopCount, connectionTimeout, responseTimeout, responseTimeThreshold,
    throughputThreshold, duration, errorRateThreshold, groupingStrategy ]

/-- All others can have any value. -/
lemma Setting.accepts_of_notMem {s : Setting} (h : s ∉ checked) (v : Value) : s.accepts v = true := by
  cases s <;> first | rfl | exact absurd (by decide) h

/-- The fault for a value that an option cannot have. -/
def Setting.refusal : Setting → Text → ConfigFault
  | duration => .badDuration
  | errorRateThreshold => .notPercentage
  | groupingStrategy => .unknownStrategy
  | s => .notPositive s.name

/-- The fault is about the option. -/
lemma Setting.option?_refusal (s : Setting) (shown : Text) : (s.refusal shown).option? = some s.name := by
  cases s <;> rfl

/-- What the fault shows of the value. -/
def Setting.quoted (s : Setting) (v : Value) : Except Fault Text :=
  if s = groupingStrategy then v.shown else v.literal

/-- **The check of an option.** -/
def Setting.check (s : Setting) (v : Value) : Except Fault Unit :=
  if s.accepts v then .ok () else refuse (s.quoted v) s.refusal

lemma Setting.check_eq_ok_iff {s : Setting} {v : Value} : s.check v = .ok () ↔ s.accepts v = true := by
  unfold check
  split_ifs with h
  · exact iff_of_true rfl h
  · exact iff_of_false (refuse_ne_ok _ _ _) h

/-! ## Reading all options -/

section

variable {entries : Entries} {config : Config}

/-- **A configuration that is read** has what the mapping has. -/
theorem value_of_ofEntries (h : ofEntries entries = .ok config) (s : Setting) :
    config.value s = fileValue entries s := by
  obtain ⟨threadCount, hthreads, h⟩ := exists_of_except_bind h
  obtain ⟨rampUpTime, hramp, h⟩ := exists_of_except_bind h
  obtain ⟨loopCount, hloops, h⟩ := exists_of_except_bind h
  obtain ⟨connectionTimeout, hconnection, h⟩ := exists_of_except_bind h
  obtain ⟨responseTimeout, hresponse, h⟩ := exists_of_except_bind h
  obtain ⟨responseTimeThreshold, htime, h⟩ := exists_of_except_bind h
  obtain ⟨throughputThreshold, hthroughput, h⟩ := exists_of_except_bind h
  obtain ⟨duration?, hduration, h⟩ := exists_of_except_bind h
  obtain ⟨errorRateThreshold, herrors, h⟩ := exists_of_except_bind h
  obtain ⟨groupingStrategy, hstrategy, h⟩ := exists_of_except_bind h
  obtain rfl := Except.ok.inj h
  rw [durationOf_eq_readAs, readAs_eq_ok_iff] at hduration
  rw [errorRateOf_eq_readAs, readAs_eq_ok_iff] at herrors
  rw [strategyOf_eq_readAs, readAs_eq_ok_iff] at hstrategy
  have hcount : ∀ {name other : Text} {usual n : Nat}, 0 < usual →
      positive entries name other usual = .ok n → .int n = given entries name other (.int usual) := by
    intro name other usual n husual hread
    rw [positive_eq_readAs husual, readAs_eq_ok_iff] at hread
    exact (int_of_positive? hread).symm
  cases s with
  | threadCount => exact hcount (by decide) hthreads
  | rampUpTime => exact hcount (by decide) hramp
  | loopCount => exact hcount (by decide) hloops
  | connectionTimeout => exact hcount (by decide) hconnection
  | responseTimeout => exact hcount (by decide) hresponse
  | responseTimeThreshold => exact hcount (by decide) htime
  | throughputThreshold => exact hcount (by decide) hthroughput
  -- the options that are not counts have a fault of their own
  | duration => exact value_of_duration? hduration
  | errorRateThreshold => exact (int_of_percentage? herrors).symm
  | groupingStrategy => exact (text_of_strategy? hstrategy).symm
  -- all others have any value
  | _ => rfl

/-- **A configuration is read by checks**, one after another. -/
theorem discard_ofEntries : discard (ofEntries entries) =
    forM Setting.checked fun s => s.check (fileValue entries s) := by
  have hread : discard (ofEntries entries) = _ :=
    discard_except_bind fun _ => discard_except_bind fun _ => discard_except_bind fun _ =>
    discard_except_bind fun _ => discard_except_bind fun _ => discard_except_bind fun _ =>
    discard_except_bind fun _ => discard_except_bind fun _ => discard_except_bind fun _ =>
    discard_except_bind fun _ => discard_except_pure _
  rw [hread]
  simp (disch := decide) only [positive_eq_readAs, durationOf_eq_readAs, errorRateOf_eq_readAs,
    strategyOf_eq_readAs, discard_readAs]
  rfl

/-- **A configuration is read** exactly if every option accepts what the mapping has for it. -/
theorem exists_ofEntries_iff : (∃ config, ofEntries entries = .ok config) ↔
    ∀ s : Setting, s.accepts (fileValue entries s) = true := by
  rw [← discard_except_eq_ok_iff, discard_ofEntries, forM_eq_ok_iff]
  constructor
  · intro h s
    by_cases hs : s ∈ Setting.checked
    · exact Setting.check_eq_ok_iff.mp (h s hs)
    · exact Setting.accepts_of_notMem hs _
  · exact fun h s _ => Setting.check_eq_ok_iff.mpr (h s)

end

end Config

end LoadPlan
