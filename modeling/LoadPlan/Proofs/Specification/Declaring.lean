import LoadPlan.Proofs.Json.Stopping
import LoadPlan.Proofs.Specification.Reading
import LoadPlan.Proofs.Text.Cutting
import LoadPlan.Yaml.Document

/-!
# What is declared of a text

A declared format decides only which reader is tried first: a text that is not JSON is read as YAML in any
case, and the text of a JSON mapping is read as JSON unless YAML is declared.  What the reader of YAML makes of
a text does not matter for that.

* `Text.trim_append`, `Text.exists_append_trim` — a text without the white space at its ends.
* `Format.Declares`, `Format.ofContentType?_eq_some_iff` — what declares a format.
* `Format.ofSource_of_brace` — the text of a JSON mapping is taken for JSON.
* **`Specification.read_declared`** — what a declaration changes.
* `Specification.longRow_not_read_alike` — a number with too many digits keeps a text from being read as YAML.
-/

namespace LoadPlan

/-! ## White space and separators -/

namespace Text

/-- **A text without white space at its ends.** -/
structure IsTrimmed (t : Text) : Prop where
  /-- There is none at the front. -/
  front : ∀ r, t.head? = some r → r.isBlank = false
  /-- There is none at the end. -/
  back : ∀ r, t.getLast? = some r → r.isBlank = false

lemma dropWhile_isBlank {t : Text} (h : ∀ r, t.head? = some r → r.isBlank = false) :
    t.dropWhile Rune.isBlank = t := by
  cases t with
  | nil => rfl
  | cons r t => rw [List.dropWhile_cons, if_neg (by rw [h r rfl]; exact Bool.false_ne_true)]

lemma trimEnd_isBlank {t : Text} (h : ∀ r, t.getLast? = some r → r.isBlank = false) :
    t.trimEnd Rune.isBlank = t := by
  rw [trimEnd, dropWhile_isBlank, List.reverse_reverse]
  rwa [List.head?_reverse]

/-- White space around a text is removed. -/
lemma trim_append {lead name trail : Text} (hlead : ∀ r ∈ lead, r.isBlank = true)
    (htrail : ∀ r ∈ trail, r.isBlank = true) (hname : name.IsTrimmed) :
    trim (lead ++ name ++ trail) = name := by
  have hend : trimEnd Rune.isBlank (name ++ trail) = name := by
    have hreverse : ∀ r ∈ trail.reverse, r.isBlank = true := fun r hr =>
      htrail r (List.mem_reverse.mp hr)
    rw [trimEnd, List.reverse_append, List.dropWhile_append_of_pos hreverse]
    exact trimEnd_isBlank hname.back
  rw [trim, trimWith, List.append_assoc, List.dropWhile_append_of_pos hlead]
  cases name with
  | nil =>
      have hall : trail.dropWhile Rune.isBlank = [] := List.dropWhile_eq_nil_iff.mpr htrail
      rw [List.nil_append, hall]
      rfl
  | cons r name =>
      rw [List.cons_append, List.dropWhile_cons, if_neg (by rw [hname.front r rfl]; exact Bool.false_ne_true)]
      exact hend

/-- Behind white space that is dropped there is none. -/
lemma isBlank_of_head?_dropWhile {t : Text} {r : Rune}
    (h : (t.dropWhile Rune.isBlank).head? = some r) : r.isBlank = false := by
  have hfirst := List.head?_dropWhile_not Rune.isBlank t
  rw [h] at hfirst
  exact hfirst

/-- Every text is what is left of it, with white space around that. -/
lemma exists_append_trim (t : Text) : ∃ lead trail, t = lead ++ t.trim ++ trail ∧
    (∀ r ∈ lead, r.isBlank = true) ∧ (∀ r ∈ trail, r.isBlank = true) ∧ t.trim.IsTrimmed := by
  have hcut : t.trim ++ (t.dropWhile Rune.isBlank).rtakeWhile Rune.isBlank =
      t.dropWhile Rune.isBlank := List.rdropWhile_append_rtakeWhile
  refine ⟨t.takeWhile Rune.isBlank, (t.dropWhile Rune.isBlank).rtakeWhile Rune.isBlank, ?_,
    fun r => List.mem_takeWhile_imp, fun r => List.mem_rtakeWhile_imp, fun r hr => ?_, fun r hr => ?_⟩
  · rw [List.append_assoc, hcut, List.takeWhile_append_dropWhile]
  · refine isBlank_of_head?_dropWhile (t := t) ?_
    rw [← hcut, List.head?_append, hr, Option.some_or]
  · rw [trim, trimWith, trimEnd, List.getLast?_reverse] at hr
    exact isBlank_of_head?_dropWhile hr

/-- Every text is what comes before a separator, and perhaps the separator with something after it. -/
lemma exists_append_before (separator : Rune) (t : Text) : separator ∉ t.before separator ∧
    ∃ rest, t = t.before separator ++ rest ∧ (rest = [] ∨ ∃ more, rest = separator :: more) := by
  induction t with
  | nil => exact ⟨List.not_mem_nil, [], rfl, .inl rfl⟩
  | cons r t ih =>
      by_cases hr : r = separator
      · have hbefore : before separator (r :: t) = [] := by
          rw [before, List.takeWhile_cons, if_neg fun hne => bne_iff_ne.mp hne hr]
        rw [hbefore]
        exact ⟨List.not_mem_nil, r :: t, rfl, .inr ⟨t, by rw [hr]⟩⟩
      · have hbefore : before separator (r :: t) = r :: before separator t := by
          rw [before, List.takeWhile_cons, if_pos (bne_iff_ne.mpr hr), before]
        obtain ⟨hnot, rest, ht, hrest⟩ := ih
        rw [hbefore, List.mem_cons, not_or]
        exact ⟨⟨Ne.symm hr, hnot⟩, rest, congrArg (r :: ·) ht, hrest⟩

lemma before_append {separator : Rune} {name rest : Text} (h : separator ∉ name)
    (hrest : rest = [] ∨ ∃ more, rest = separator :: more) : before separator (name ++ rest) = name := by
  rcases hrest with rfl | ⟨more, rfl⟩
  · rw [List.append_nil, before_of_notMem h]
  · exact (cut_append h more).1

end Text

/-! ## Names of formats -/

namespace Format

/-- The names of a format. -/
def names : Format → List Text
  | json => jsonNames
  | yaml => yamlNames

/-- How the names of media types end that are written in a format. -/
def ending : Format → Text
  | json => "+json"
  | yaml => "+yaml"

/-- A name that stands for a format. -/
def Names (format : Format) (name : Text) : Prop := name ∈ format.names ∨ format.ending <:+ name

/-- **What declares a format**: a name of it in any case, perhaps with white space around it and with
parameters after a semicolon. -/
inductive Declares (format : Format) : Text → Prop where
  | intro {lead name trail parameters : Text} (hlead : ∀ r ∈ lead, r.isBlank = true)
    (htrail : ∀ r ∈ trail, r.isBlank = true) (hname : name.IsTrimmed)
    (hseparator : (';' : Rune) ∉ name)
    (hparameters : parameters = [] ∨ ∃ more, parameters = (';' : Rune) :: more)
    (hnames : format.Names name.lower) : Declares format (lead ++ name ++ trail ++ parameters)

/-- No name stands for both formats. -/
lemma Names.not_yaml {name : Text} (h : json.Names name) : ¬ yaml.Names name := by
  have hapart : ∀ name ∈ json.names, name ∉ yaml.names := by decide
  have hjson : ∀ name ∈ yaml.names, ¬ json.ending <:+ name := by decide
  have hyaml : ∀ name ∈ json.names, ¬ yaml.ending <:+ name := by decide
  have hending : ¬ json.ending <:+ yaml.ending := by decide
  rcases h with h | h
  · rintro (hother | hother)
    · exact hapart name h hother
    · exact hyaml name h hother
  · rintro (hother | hother)
    · exact hjson name hother h
    · exact hending (List.suffix_of_suffix_length_le h hother (Nat.le_refl _))

lemma names_iff (format : Format) {name : Text} :
    (format.names.contains name || name.endsWith format.ending) = true ↔ format.Names name := by
  rw [Bool.or_eq_true, List.contains_iff_mem, Text.endsWith, List.isSuffixOf_iff_suffix, Names]

/-- What is declared stands for a format by its name alone. -/
lemma ofContentType?_iff_names {format : Format} {declared : Text} :
    ofContentType? declared = some format ↔ format.Names (declared.before ';').trim.lower := by
  unfold ofContentType?
  dsimp only
  split_ifs with hjson hyaml
  · have hnames := (names_iff json).mp hjson
    cases format with
    | json => exact iff_of_true rfl hnames
    | yaml => exact iff_of_false (by rintro ⟨⟩) hnames.not_yaml
  · have hnot := mt (names_iff json).mpr hjson
    cases format with
    | json => exact iff_of_false (by rintro ⟨⟩) hnot
    | yaml => exact iff_of_true rfl ((names_iff yaml).mp hyaml)
  · refine iff_of_false (by rintro ⟨⟩) ?_
    cases format with
    | json => exact mt (names_iff json).mpr hjson
    | yaml => exact mt (names_iff yaml).mpr hyaml

/-- The semicolon is no white space. -/
lemma notMem_of_isBlank {space : Text} (h : ∀ r ∈ space, r.isBlank = true) : (';' : Rune) ∉ space :=
  fun hmem => absurd (h _ hmem) (by decide)

/-- **The format that a text declares.** -/
lemma ofContentType?_eq_some_iff {format : Format} {declared : Text} :
    ofContentType? declared = some format ↔ format.Declares declared := by
  rw [ofContentType?_iff_names]
  constructor
  · intro hnames
    obtain ⟨hnot, parameters, hdeclared, hparameters⟩ := Text.exists_append_before ';' declared
    obtain ⟨lead, trail, hcut, hlead, htrail, hname⟩ := Text.exists_append_trim (declared.before ';')
    have hseparator : (';' : Rune) ∉ (declared.before ';').trim := by
      intro hmem
      rw [hcut] at hnot
      exact hnot (List.mem_append_left _ (List.mem_append_right _ hmem))
    rw [hdeclared, hcut]
    exact .intro hlead htrail hname hseparator hparameters hnames
  · rintro ⟨hlead, htrail, hname, hseparator, hparameters, hnames⟩
    rw [Text.before_append _ hparameters, Text.trim_append hlead htrail hname]
    · exact hnames
    · simp only [List.mem_append, not_or]
      exact ⟨⟨notMem_of_isBlank hlead, hseparator⟩, notMem_of_isBlank htrail⟩

/-! ## What is tried -/

section

variable {source : List Char}

lemma isBlank_of_isSpace {c : Char} (h : Json.isSpace c = true) : (Rune.ofChar c).isBlank = true := by
  simp only [Json.isSpace, Bool.or_eq_true, decide_eq_true_eq] at h
  rcases h with ((rfl | rfl) | rfl) | rfl <;> rfl

/-- **The text of a JSON mapping is taken for JSON**: its brace is its first character apart from white
space, of which JSON knows less than there is. -/
lemma ofSource_of_brace {more : List Char} (h : Json.skipSpace source = '\x7b' :: more) :
    ofSource source = json := by
  have hcut : source.takeWhile Json.isSpace ++ '\x7b' :: more = source := by
    rw [← h]
    exact List.takeWhile_append_dropWhile
  have hspace : ∀ c ∈ source.takeWhile Json.isSpace, (Rune.ofChar c).isBlank = true :=
    fun c hc => isBlank_of_isSpace (List.mem_takeWhile_imp hc)
  have hbrace : ¬ (Rune.ofChar '\x7b').isBlank = true := by decide
  rw [ofSource, ← hcut, List.dropWhile_append_of_pos hspace, List.dropWhile_cons, if_neg hbrace]
  rfl

/-- What declares no YAML changes nothing for a text that is taken for JSON. -/
lemma detect_of_not_yaml {declared : Option Text} (hsource : ofSource source = json)
    (h : ∀ name, declared = some name → ¬ yaml.Declares name) : detect source declared = json := by
  rw [detect]
  cases declared with
  | none => exact hsource
  | some name =>
      rw [Option.bind_some]
      cases hname : ofContentType? name with
      | none => exact hsource
      | some format =>
          cases format with
          | json => rfl
          | yaml => exact (h name rfl (ofContentType?_eq_some_iff.mp hname)).elim

/-- What comes of a text that is taken for JSON, by what the JSON reader makes of it. -/
def afterJson (reader : YamlReader) (source : List Char) : Except Fault Value → Except Fault Value
  | .error .malformed => decodeYaml reader source
  | result => result

lemma decode_json (reader : YamlReader) (source : List Char) :
    json.decode reader source = afterJson reader source (Json.decode source) := rfl

/-- A text that is not JSON is read as YAML. -/
lemma decode_of_malformed (h : Json.decode source = .error .malformed) (reader : YamlReader)
    (format : Format) : format.decode reader source = decodeYaml reader source := by
  cases format with
  | json => rw [decode_json, h, afterJson]
  | yaml => rfl

end

end Format

namespace Specification

section

variable {reader : YamlReader} {source : List Char} {declared : Option Text} {configured : Value}

/-- A text with a character other than white space is not blank. -/
lemma not_isBlankSource {c : Char} (hmem : c ∈ source) (hc : (Rune.ofChar c).isBlank = false) :
    ¬ IsBlankSource source := by
  intro hblank
  rw [hblank c hmem] at hc
  cases hc

lemma read_of_malformed (h : Json.decode source = .error .malformed) (declared other : Option Text) :
    read reader source declared configured = read reader source other configured := by
  by_cases hblank : IsBlankSource source
  · rw [read_of_blank hblank, read_of_blank hblank]
  · rw [read_of_not_blank hblank, read_of_not_blank hblank, Format.decode_of_malformed h,
      Format.decode_of_malformed h]

lemma read_of_map {entries : Entries} (h : Json.decode source = .ok (.map entries))
    (hdeclared : ∀ name, declared = some name → ¬ Format.yaml.Declares name) :
    read reader source declared configured = ofDocument (.map entries) configured := by
  obtain ⟨more, hmore⟩ := Json.exists_of_decode_map h
  have hmem : '\x7b' ∈ source := by
    refine (Json.skipSpace_suffix source).subset ?_
    rw [hmore]
    exact List.mem_cons_self
  have hblank := not_isBlankSource hmem (by decide)
  refine read_of_decodes ⟨hblank, ?_⟩
  rw [Format.detect_of_not_yaml (Format.ofSource_of_brace hmore) hdeclared, Format.decode_json, h]
  rfl

/-- A digit is not white space. -/
lemma isBlank_of_isAsciiDigit {c : Char} (h : isAsciiDigit c = true) :
    (Rune.ofChar c).isBlank = false := by
  have hcode : 0x30 ≤ (Rune.ofChar c).code ∧ (Rune.ofChar c).code ≤ 0x39 := toNat_of_isAsciiDigit h
  simp [Rune.isBlank, Rune.within, blankRanges]
  omega

lemma read_of_badNumeral (h : Json.decode source = .error .badNumeral) :
    read reader source declared configured =
      match Format.detect source declared with
      | .json => .error .badNumeral
      | .yaml => Format.decodeYaml reader source >>= fun document => ofDocument document configured := by
  obtain ⟨row, ⟨before, after, rfl⟩, hlength, hdigits⟩ := Json.hasLongRow_of_badNumeral h
  obtain ⟨c, hc⟩ := List.exists_mem_of_length_pos (Nat.zero_lt_of_lt hlength)
  have hmem : c ∈ before ++ row ++ after :=
    List.mem_append_left after (List.mem_append_right before hc)
  rw [read_of_not_blank (not_isBlankSource hmem (isBlank_of_isAsciiDigit (hdigits c hc)))]
  cases Format.detect (before ++ row ++ after) declared with
  | json =>
      rw [Format.decode_json, h]
      rfl
  | yaml => rfl

end

/-- **What is declared cannot spoil a document**, as far as the JSON reader does not come upon a number with
too many digits.  A text without a JSON value is then read as YAML, whatever is declared, and the text of a
JSON mapping as JSON unless YAML is declared.  At such a number the reader stops before it sees whether the
text is JSON, and then it matters for what the text is taken. -/
theorem read_declared (reader : YamlReader) (source : List Char) (configured : Value) :
    ((∀ value, Json.decode source ≠ .ok value) → Json.decode source ≠ .error .badNumeral →
      ∀ declared, read reader source declared configured = read reader source none configured) ∧
    (∀ entries, Json.decode source = .ok (.map entries) → ∀ declared : Option Text,
      (∀ name, declared = some name → ¬ Format.yaml.Declares name) →
        read reader source declared configured = ofDocument (.map entries) configured) ∧
    (Json.decode source = .error .badNumeral → Json.HasLongRow source ∧ ∀ declared,
      read reader source declared configured =
        match Format.detect source declared with
        | .json => .error .badNumeral
        | .yaml => Format.decodeYaml reader source >>= fun document => ofDocument document configured) := by
  refine ⟨fun hno hnumeral declared => ?_, fun entries hmap declared => read_of_map hmap, fun hnumeral => ?_⟩
  · rcases Json.decode_cases source with ⟨value, hvalue⟩ | hmalformed | ⟨hother, -⟩
    · exact (hno value hvalue).elim
    · exact read_of_malformed hmalformed declared none
    · exact (hnumeral hother).elim
  · exact ⟨Json.hasLongRow_of_badNumeral hnumeral, fun declared => read_of_badNumeral hnumeral⟩

/-! ### A number with too many digits -/

/-- A row of ones, and behind it a character that neither format allows. -/
def longRow (length : Nat) : List Char := List.replicate length '1' ++ ['\x00']

section

variable {length : Nat}

lemma decode_longRow (h : maxDigits < length) : Json.decode (longRow length) = .error .badNumeral := by
  have hne : length ≠ 0 := Nat.ne_zero_of_lt h
  refine Json.decode_of_long_row ?_ ?_ ?_ (by decide)
  · rw [List.length_replicate]
    exact h
  · intro c hc
    rw [List.eq_of_mem_replicate hc]
    rfl
  · rw [List.head?_replicate, if_neg hne]
    decide

lemma ofSource_longRow (h : length ≠ 0) : Format.ofSource (longRow length) = .yaml := by
  obtain ⟨n, rfl⟩ := Nat.exists_eq_succ_of_ne_zero h
  rfl

lemma ofText_longRow : Yaml.reader.ofText (longRow length) = .error (.refused Yaml.refusal) := by
  have hstray : (['\x00'] : List Char).all Yaml.isAllowed = false := rfl
  have hsource : Yaml.Source.ofChars (longRow length) = ⟨[], some .malformed⟩ := by
    rw [Yaml.Source.ofChars, longRow, List.all_append, hstray, Bool.and_false]
    exact if_neg Bool.false_ne_true
  show Yaml.decode none (.ofChars (longRow length)) = _
  rw [hsource]
  rfl

lemma isUndecodable_longRow (h : length ≠ 0) : IsUndecodable Yaml.reader (longRow length) none where
  notBlank := by
    have hmem : '1' ∈ longRow length :=
      List.mem_append_left _ (List.mem_replicate.mpr ⟨h, rfl⟩)
    exact not_isBlankSource hmem (isBlank_of_isAsciiDigit rfl)
  notJson hjson := by
    rw [Format.detect, Option.bind_none, Option.getD_none, ofSource_longRow h] at hjson
    cases hjson
  notYaml := ⟨Yaml.refusal, ofText_longRow⟩

lemma read_longRow (h : length ≠ 0) (configured : Value) :
    read Yaml.reader (longRow length) none configured =
      .error (.spec (.undecodable Yaml.refusal)) := by
  have hdecode : Format.decodeYaml Yaml.reader (longRow length) =
      .error (.spec (.undecodable Yaml.refusal)) :=
    decodeYaml_eq_error_iff.mpr ⟨Yaml.refusal, ofText_longRow, rfl⟩
  rw [read_of_not_blank (isUndecodable_longRow h).notBlank, Format.detect, Option.bind_none,
    Option.getD_none, ofSource_longRow h]
  exact congrArg (· >>= fun document => ofDocument document configured) hdecode

end

/-- A media type of JSON, with a parameter. -/
def mediaType : Text := "Application/JSON; charset=utf-8"

lemma declares_mediaType : Format.json.Declares mediaType := by
  have hcut : mediaType = [] ++ ("Application/JSON" : Text) ++ [] ++ ("; charset=utf-8" : Text) := rfl
  have hlower : Text.lower "Application/JSON" = "application/json" := by decide
  have hname : Text.IsTrimmed "Application/JSON" := by
    constructor <;> rintro r ⟨⟩ <;> rfl
  rw [hcut]
  refine .intro (List.forall_mem_nil _) (List.forall_mem_nil _) hname (by decide) (.inr ⟨_, rfl⟩) (.inl ?_)
  rw [hlower]
  decide

lemma ofContentType?_mediaType : Format.ofContentType? mediaType = some .json :=
  Format.ofContentType?_eq_some_iff.mpr declares_mediaType

lemma detect_mediaType (source : List Char) : Format.detect source (some mediaType) = .json := by
  rw [Format.detect, Option.bind_some, ofContentType?_mediaType, Option.getD_some]

/-- A text that is not JSON, an empty JSON mapping, and a number with too many digits, each declared to be
JSON. -/
theorem read_declared_mediaType :
    (∀ value, Json.decode "a".toList ≠ .ok value) ∧ Json.decode "a".toList ≠ .error .badNumeral ∧
      read Yaml.reader "a".toList (some mediaType) .null = read Yaml.reader "a".toList none .null ∧
    Json.decode "\x7b\x7d".toList = .ok (.map []) ∧
      (∀ name, some mediaType = some name → ¬ Format.yaml.Declares name) ∧
      read Yaml.reader "\x7b\x7d".toList (some mediaType) .null = .error (.spec .noPaths) ∧
    Json.decode (longRow (maxDigits + 1)) = .error .badNumeral ∧
      read Yaml.reader (longRow (maxDigits + 1)) (some mediaType) .null = .error .badNumeral := by
  have hword : Json.decode "a".toList = .error .malformed := rfl
  have hno : ∀ value, Json.decode "a".toList ≠ .ok value := by
    rw [hword]
    rintro value ⟨⟩
  have hnumeral : Json.decode "a".toList ≠ .error .badNumeral := by
    rw [hword]
    rintro ⟨⟩
  have hmap : Json.decode "\x7b\x7d".toList = .ok (.map []) := rfl
  have hdeclared : ∀ name, some mediaType = some name → ¬ Format.yaml.Declares name := by
    rintro name ⟨⟩ hyaml
    have hformat := ofContentType?_mediaType.symm.trans (Format.ofContentType?_eq_some_iff.mpr hyaml)
    cases hformat
  have hlong := decode_longRow (Nat.lt_succ_self maxDigits)
  refine ⟨hno, hnumeral, (read_declared Yaml.reader _ .null).1 hno hnumeral (some mediaType), hmap, hdeclared,
    ?_, hlong, ?_⟩
  · exact ((read_declared Yaml.reader _ .null).2.1 [] hmap (some mediaType) hdeclared).trans rfl
  · rw [((read_declared Yaml.reader _ .null).2.2 hlong).2 (some mediaType), detect_mediaType]

/-- **A text that is not JSON is not read as YAML** where it is taken for JSON, if there is a number with too
many digits in front of what is wrong with it. -/
theorem longRow_not_read_alike :
    (∀ value, Json.decode (longRow (maxDigits + 1)) ≠ .ok value) ∧
      read Yaml.reader (longRow (maxDigits + 1)) none .null = .error (.spec (.undecodable Yaml.refusal)) ∧
      read Yaml.reader (longRow (maxDigits + 1)) (some mediaType) .null = .error .badNumeral := by
  have hlong := decode_longRow (Nat.lt_succ_self maxDigits)
  refine ⟨?_, read_longRow (Nat.succ_ne_zero maxDigits) .null, ?_⟩
  · rw [hlong]
    rintro value ⟨⟩
  · rw [read_of_badNumeral hlong, detect_mediaType]

end Specification

end LoadPlan
