import LoadPlan.CommandLine.Session
import LoadPlan.Proofs.Text.Cutting
import LoadPlan.Proofs.Text.LetterCase

/-!
# Output names that stay in the working directory

The file of a plan is named after the plan: the words of its name in lower case, with hyphens between them.

* `pieces_join` — words with a hyphen between neighbours are read again as they were.  All that is said of the
  characters between the words follows from this one equation.
* `collapse`, `outputName_eq` — the same name by steps: lower case, deletion, one hyphen for each run of
  separators, and no hyphen at either end.
* `IsSafeStem` — a text that names nothing but a file, in whatever directory it is put.
* `write_ofText`, `written?_deliver`, `exists_deliver_of_generate` — where a file of such a name comes to lie.
* **`outputName_staysHere`** — every plan has an output name of that kind, and its stem has the same.
-/

namespace LoadPlan.CommandLine

/-! ## Pieces and words -/

section

variable {separates : Rune → Bool} {s : Rune}

lemma pieces_eq (separates : Rune → Bool) (t : Text) : pieces separates t = t.splitOnP separates := by
  induction t with
  | nil =>
      rw [List.splitOnP_nil]
      rfl
  | cons r rest ih =>
      rw [List.splitOnP_cons_eq_if_modifyHead, pieces, ih]
      split_ifs
      · rfl
      · cases hpieces : rest.splitOnP separates with
        | nil => exact absurd hpieces (List.splitOnP_ne_nil _ _)
        | cons piece more => rfl

/-- **A text is cut at each separator.** -/
lemma pieces_append (hs : separates s = true) (x y : Text) :
    pieces separates (x ++ s :: y) = pieces separates x ++ pieces separates y := by
  simp only [pieces_eq, List.splitOnP_append_cons x y hs]

lemma pieces_of_plain {t : Text} (h : ∀ r ∈ t, separates r = false) : pieces separates t = [t] := by
  rw [pieces_eq, List.splitOnP_eq_singleton h]

/-- The pieces of a text have its characters, without the separators. -/
lemma mem_of_mem_pieces {t piece : Text} (h : piece ∈ pieces separates t) :
    ∀ r ∈ piece, r ∈ t ∧ separates r = false := by
  induction t generalizing piece with
  | nil =>
      obtain rfl := List.mem_singleton.mp h
      intro r hr
      cases hr
  | cons first rest ih =>
      have hrest : ∀ {piece : Text}, piece ∈ pieces separates rest →
          ∀ r ∈ piece, r ∈ first :: rest ∧ separates r = false := by
        intro piece hpiece r hr
        obtain ⟨hmem, hplain⟩ := ih hpiece r hr
        exact ⟨List.mem_cons_of_mem first hmem, hplain⟩
      rw [pieces_eq, List.splitOnP_cons_eq_if_modifyHead, ← pieces_eq] at h
      split_ifs at h with hfirst
      · rcases List.mem_cons.mp h with rfl | h
        · intro r hr
          cases hr
        · exact hrest h
      · rw [Bool.not_eq_true] at hfirst
        cases hpieces : pieces separates rest with
        | nil =>
            rw [hpieces] at h
            cases h
        | cons next more =>
            rw [hpieces, List.modifyHead_cons] at h
            rcases List.mem_cons.mp h with rfl | h
            · intro r hr
              rcases List.mem_cons.mp hr with rfl | hr
              · exact ⟨List.mem_cons_self, hfirst⟩
              · exact hrest (hpieces ▸ List.mem_cons_self) r hr
            · exact hrest (hpieces ▸ List.mem_cons_of_mem next h)

end

lemma join_cons_cons (w next : Text) (ws : List Text) :
    Text.join "-" (w :: next :: ws) = w ++ ('-' : Rune) :: Text.join "-" (next :: ws) := by
  rw [Text.join, List.append_assoc]
  rfl

lemma join_ne_nil {w : Text} (h : w ≠ []) (ws : List Text) : Text.join "-" (w :: ws) ≠ [] := by
  cases ws with
  | nil => exact h
  | cons next ws =>
      rw [join_cons_cons]
      exact List.append_ne_nil_of_left_ne_nil h _

/-- The characters of words with a hyphen between neighbours. -/
lemma mem_join {ws : List Text} {r : Rune} (h : r ∈ Text.join "-" ws) :
    r = ('-' : Rune) ∨ ∃ w ∈ ws, r ∈ w := by
  induction ws with
  | nil => cases h
  | cons w ws ih =>
      cases ws with
      | nil => exact .inr ⟨w, List.mem_cons_self, h⟩
      | cons next ws =>
          rw [join_cons_cons, List.mem_append, List.mem_cons] at h
          rcases h with h | rfl | h
          · exact .inr ⟨w, List.mem_cons_self, h⟩
          · exact .inl rfl
          · exact (ih h).imp id fun ⟨v, hv, hr⟩ => ⟨v, List.mem_cons_of_mem w hv, hr⟩

/-- **Words with a hyphen between neighbours are read again as they were.** -/
lemma pieces_join {ws : List Text} (hne : ws ≠ []) (h : ∀ w ∈ ws, ∀ r ∈ w, separatesWords r = false) :
    pieces separatesWords (Text.join "-" ws) = ws := by
  induction ws with
  | nil => exact absurd rfl hne
  | cons w ws ih =>
      obtain ⟨hw, hws⟩ := List.forall_mem_cons.mp h
      cases ws with
      | nil => exact pieces_of_plain hw
      | cons next ws =>
          rw [join_cons_cons, pieces_append (by decide), pieces_of_plain hw, ih (List.cons_ne_nil _ _) hws]
          rfl

/-! ## Words of a name -/

/-- **A word of a name.** -/
structure IsNameWord (w : Text) : Prop where
  /-- There is something of it. -/
  ne_nil : w ≠ []
  /-- It consists of letters and numbers. -/
  plain : ∀ r ∈ w, r.isWord = true ∧ separatesWords r = false
  /-- It is in lower case. -/
  settled : ∀ r ∈ w, r.IsSettled

/-- The words for a plan whose name has none. -/
def usualWords : List Text := ["test", "plan"]

/-- The words of the name of a plan, or the usual ones. -/
def nameWords (planName : Text) : List Text :=
  match words (planName.lower.filter isNamed) with
  | [] => usualWords
  | w :: ws => w :: ws

/-- The output name without its suffix. -/
def stemOf (planName : Text) : Text := Text.join "-" (nameWords planName)

lemma nameWords_ne_nil (planName : Text) : nameWords planName ≠ [] := by
  unfold nameWords
  split
  · exact List.cons_ne_nil _ _
  · exact List.cons_ne_nil _ _

lemma isNameWord_of_mem_words {planName w : Text} (h : w ∈ words (planName.lower.filter isNamed)) :
    IsNameWord w := by
  rw [words, List.mem_filter] at h
  obtain ⟨hpiece, hne⟩ := h
  have hmem := mem_of_mem_pieces hpiece
  refine ⟨by simpa using hne, fun r hr => ?_, fun r hr => ?_⟩
  · obtain ⟨hnamed, hplain⟩ := hmem r hr
    have hword := (List.mem_filter.mp hnamed).2
    rw [isNamed, hplain, Bool.or_false] at hword
    exact ⟨hword, hplain⟩
  · exact Text.isSettled_of_mem_lower (List.mem_filter.mp (hmem r hr).1).1

/-- The usual words are the words of a name as well. -/
lemma words_usual : words (("test-plan" : Text).lower.filter isNamed) = usualWords := by
  decide +kernel

lemma isNameWord_of_mem_nameWords {planName w : Text} (h : w ∈ nameWords planName) : IsNameWord w := by
  unfold nameWords at h
  split at h
  · rw [← words_usual] at h
    exact isNameWord_of_mem_words h
  · rename_i hwords
    rw [← hwords] at h
    exact isNameWord_of_mem_words h

/-! ## Stems -/

section

variable {ws : List Text}

lemma plain_of_mem_join (h : ∀ w ∈ ws, IsNameWord w) {r : Rune} (hr : r ∈ Text.join "-" ws) :
    r = ('-' : Rune) ∨ r.isWord = true ∧ separatesWords r = false := by
  rcases mem_join hr with rfl | ⟨w, hw, hmem⟩
  · exact .inl rfl
  · exact .inr ((h w hw).plain r hmem)

lemma nil_notMem_pieces_join (hne : ws ≠ []) (h : ∀ w ∈ ws, IsNameWord w) :
    ([] : Text) ∉ pieces separatesWords (Text.join "-" ws) := by
  rw [pieces_join hne fun w hw r hr => ((h w hw).plain r hr).2]
  exact fun hmem => (h [] hmem).ne_nil rfl

lemma words_join (hne : ws ≠ []) (h : ∀ w ∈ ws, IsNameWord w) : words (Text.join "-" ws) = ws := by
  rw [words, pieces_join hne fun w hw r hr => ((h w hw).plain r hr).2, List.filter_eq_self]
  intro w hw
  simp [(h w hw).ne_nil]

lemma lower_join (h : ∀ w ∈ ws, IsNameWord w) : (Text.join "-" ws).lower = Text.join "-" ws := by
  have hhyphen : Rune.IsSettled ('-' : Rune) := by
    unfold Rune.IsSettled
    decide +kernel
  refine Text.lower_of_isSettled fun r hr => ?_
  rcases mem_join hr with rfl | ⟨w, hw, hmem⟩
  · exact hhyphen
  · exact (h w hw).settled r hmem

lemma filter_join (h : ∀ w ∈ ws, IsNameWord w) :
    (Text.join "-" ws).filter isNamed = Text.join "-" ws := by
  rw [List.filter_eq_self]
  intro r hr
  rw [isNamed, Bool.or_eq_true]
  rcases plain_of_mem_join h hr with rfl | ⟨hword, -⟩
  · exact .inr (by decide)
  · exact .inl hword

/-- **A name that is put together from words has these words.** -/
lemma nameWords_join (hne : ws ≠ []) (h : ∀ w ∈ ws, IsNameWord w) : nameWords (Text.join "-" ws) = ws := by
  rw [nameWords, lower_join h, filter_join h, words_join hne h]
  cases ws with
  | nil => exact absurd rfl hne
  | cons w ws => rfl

end

lemma stemOf_stemOf (planName : Text) : stemOf (stemOf planName) = stemOf planName := by
  rw [stemOf, stemOf, nameWords_join (nameWords_ne_nil planName) fun w => isNameWord_of_mem_nameWords]

lemma outputName_eq_stemOf (planName : Text) : outputName planName = stemOf planName ++ ".jmx" := by
  rw [outputName, stemOf, nameWords]
  cases hwords : words (planName.lower.filter isNamed) with
  | nil => rfl
  | cons w ws =>
      have hne := join_ne_nil (isNameWord_of_mem_words (hwords ▸ List.mem_cons_self)).ne_nil ws
      rw [Text.orElse, if_neg (by simpa using hne)]

/-! ## The name by steps

A character that is deleted may stand between two separators, and one that is kept between two runs of them.
So the steps have to be taken one after another, and the hyphens are put in after the last deletion.
-/

/-- A hyphen for each run of separators, unless the run goes on from before. -/
def collapseAfter (separated : Bool) : Text → Text
  | [] => []
  | r :: rest =>
    if separatesWords r then
      if separated then collapseAfter true rest else '-' :: collapseAfter true rest
    else r :: collapseAfter false rest

/-- **One hyphen for each run of separators.** -/
def collapse (t : Text) : Text := collapseAfter false t

def isHyphen (r : Rune) : Bool := r = '-'

section

variable {r : Rune} {rest w : Text}

lemma isHyphen_of_plain (h : separatesWords r = false) : ¬ isHyphen r = true := by
  rw [separatesWords, Bool.or_eq_false_iff] at h
  exact Bool.eq_false_iff.mp h.2

lemma collapseAfter_separator (h : separatesWords r = true) (separated : Bool) :
    collapseAfter separated (r :: rest) =
      if separated then collapseAfter true rest else '-' :: collapseAfter true rest := by
  rw [collapseAfter, if_pos h]

lemma collapseAfter_plain (h : separatesWords r = false) (separated : Bool) :
    collapseAfter separated (r :: rest) = r :: collapseAfter false rest := by
  rw [collapseAfter, h]
  rfl

/-- The hyphen at the front is that of a run there. -/
lemma dropWhile_collapseAfter (separated : Bool) (t : Text) :
    (collapseAfter separated t).dropWhile isHyphen = collapseAfter true t := by
  induction t generalizing separated with
  | nil => rfl
  | cons r rest ih =>
      cases hr : separatesWords r with
      | true =>
          rw [collapseAfter_separator hr, collapseAfter_separator hr]
          cases separated with
          | true => exact ih true
          | false => exact ih true
      | false =>
          rw [collapseAfter_plain hr, collapseAfter_plain hr]
          exact List.dropWhile_cons_of_neg (isHyphen_of_plain hr)

lemma trimEnd_of_plain (h : ∀ r ∈ w, separatesWords r = false) : w.trimEnd isHyphen = w := by
  rw [Text.trimEnd_eq, List.rdropWhile_eq_self_iff]
  exact fun hne => isHyphen_of_plain (h _ (List.getLast_mem hne))

lemma trimEnd_hyphen_cons (t : Text) : Text.trimEnd isHyphen ('-' :: t) =
    if t.trimEnd isHyphen = [] then [] else ('-' : Rune) :: t.trimEnd isHyphen :=
  Text.trimEnd_append isHyphen ['-'] t

lemma words_of_plain (hne : w ≠ []) (h : ∀ r ∈ w, separatesWords r = false) : words w = [w] := by
  rw [words, pieces_of_plain h, List.filter_eq_self]
  intro v hv
  obtain rfl := List.mem_singleton.mp hv
  simpa using hne

lemma words_append (hr : separatesWords r = true) (x y : Text) :
    words (x ++ r :: y) = words x ++ words y := by
  rw [words, pieces_append hr, List.filter_append]
  rfl

lemma ne_nil_of_mem_words {t : Text} (h : w ∈ words t) : w ≠ [] := by
  simpa using (List.mem_filter.mp h).2

/-- **What is collapsed and trimmed is its words**, with a hyphen between neighbours.  Of the first word, some
may have been read. -/
lemma trimEnd_collapseAfter (h : ∀ r ∈ w, separatesWords r = false) (t : Text) :
    (w ++ collapseAfter w.isEmpty t).trimEnd isHyphen = Text.join "-" (words (w ++ t)) := by
  induction t generalizing w with
  | nil =>
      rw [collapseAfter, List.append_nil, trimEnd_of_plain h]
      by_cases hne : w = []
      · rw [hne]
        rfl
      · rw [words_of_plain hne h]
        rfl
  | cons r rest ih =>
      have hrest : (collapseAfter true rest).trimEnd isHyphen = Text.join "-" (words rest) :=
        ih (w := []) fun r hr => nomatch hr
      cases hr : separatesWords r with
      | true =>
          rw [words_append hr, collapseAfter_separator hr]
          cases w with
          | nil => exact hrest
          | cons first more =>
              -- a word has ended, and the hyphen behind it stays if there is another one
              rw [words_of_plain (List.cons_ne_nil _ _) h, List.isEmpty_cons, if_neg Bool.false_ne_true,
                Text.trimEnd_append, trimEnd_hyphen_cons, hrest, trimEnd_of_plain h, List.singleton_append]
              cases hwords : words rest with
              | nil => rfl
              | cons next ws =>
                  have hne := join_ne_nil (ne_nil_of_mem_words (hwords ▸ List.mem_cons_self)) ws
                  rw [if_neg hne, if_neg (List.cons_ne_nil _ _), join_cons_cons]
      | false =>
          have hlonger : ∀ x ∈ w ++ [r], separatesWords x = false := by
            intro x hx
            rcases List.mem_append.mp hx with hx | hx
            · exact h x hx
            · rwa [List.mem_singleton.mp hx]
          have hbegun : (w ++ [r]).isEmpty = false := by simp
          have hgo := ih hlonger
          rwa [hbegun, List.append_assoc, List.append_assoc, List.singleton_append, List.singleton_append,
            ← collapseAfter_plain hr w.isEmpty] at hgo

end

/-- **The output name by steps**: lower case, deletion, collapsing, trimming. -/
theorem outputName_eq (planName : Text) : outputName planName =
    ((collapse (planName.lower.filter isNamed)).trimWith isHyphen).orElse "test-plan" ++ ".jmx" := by
  have hsteps := trimEnd_collapseAfter (w := []) (fun r hr => nomatch hr) (planName.lower.filter isNamed)
  rw [Text.trimWith, collapse, dropWhile_collapseAfter]
  exact congrArg (fun stem : Text => stem.orElse "test-plan" ++ ".jmx") hsteps.symm

/-- Two separators that a deletion has brought together become one hyphen. -/
example : outputName "Load _!- TEST (*)" = "load-test.jmx" := by decide +kernel

/-! ## Safe stems -/

/-- **A text that names nothing but a file**, in whatever directory it is put. -/
structure IsSafeStem (stem : Text) : Prop where
  /-- There is something of it. -/
  ne_nil : stem ≠ []
  /-- It leads into no other directory. -/
  noSeparator : ('/' : Rune) ∉ stem ∧ ('\\' : Rune) ∉ stem
  /-- It has no suffix. -/
  noPoint : ('.' : Rune) ∉ stem
  /-- It has no white space. -/
  noBlank : ∀ r ∈ stem, r.isBlank = false
  /-- Nor has it a low line. -/
  noLowLine : ('_' : Rune) ∉ stem
  /-- It does not begin with a hyphen. -/
  head?_ne : stem.head? ≠ some ('-' : Rune)
  /-- It does not end with one. -/
  getLast?_ne : stem.getLast? ≠ some ('-' : Rune)
  /-- No two hyphens follow each other. -/
  noTwins : ¬ [('-' : Rune), '-'] <:+: stem

/-- **The stem of an output name is safe.** -/
lemma isSafeStem_stemOf (planName : Text) : IsSafeStem (stemOf planName) := by
  have hplain : ∀ r ∈ stemOf planName, r = ('-' : Rune) ∨ r.isWord = true ∧ separatesWords r = false :=
    fun r hr => plain_of_mem_join (fun w => isNameWord_of_mem_nameWords) hr
  have hnil : ([] : Text) ∉ pieces separatesWords (stemOf planName) :=
    nil_notMem_pieces_join (nameWords_ne_nil planName) fun w => isNameWord_of_mem_nameWords
  have hhyphen : separatesWords ('-' : Rune) = true := by decide
  have hstrange : ∀ r ∈ ("/\\." : Text), r ≠ ('-' : Rune) ∧ r.isWord = false := by decide +kernel
  have hno : ∀ r ∈ ("/\\." : Text), r ∉ stemOf planName := by
    intro r hr hmem
    obtain ⟨hne, hword⟩ := hstrange r hr
    rcases hplain r hmem with rfl | ⟨hyes, -⟩
    · exact hne rfl
    · rw [hword] at hyes
      cases hyes
  refine ⟨?_, ⟨hno _ (by decide), hno _ (by decide)⟩, hno _ (by decide), ?_, ?_, ?_, ?_, ?_⟩
  · intro hempty
    rw [hempty] at hnil
    exact hnil List.mem_cons_self
  · intro r hr
    rcases hplain r hr with rfl | ⟨-, hseparates⟩
    · decide
    · simp only [separatesWords, Bool.or_eq_false_iff] at hseparates
      exact hseparates.1.1
  · intro hmem
    rcases hplain _ hmem with heq | ⟨-, hseparates⟩
    · exact absurd heq (by decide)
    · exact absurd hseparates (by decide)
  · -- in front of a hyphen, after one, and between two there would be an empty piece
    intro hhead
    obtain ⟨rest, hrest⟩ := List.head?_eq_some_iff.mp hhead
    rw [hrest, ← List.nil_append (_ :: rest), pieces_append hhyphen] at hnil
    exact hnil List.mem_cons_self
  · intro hlast
    obtain ⟨front, hfront⟩ := List.getLast?_eq_some_iff.mp hlast
    rw [hfront, pieces_append hhyphen] at hnil
    exact hnil (List.mem_append_right _ List.mem_cons_self)
  · rintro ⟨front, back, hwhole⟩
    rw [← hwhole, List.append_assoc, List.cons_append, pieces_append hhyphen] at hnil
    rw [← List.nil_append ([('-' : Rune)] ++ back), List.singleton_append, pieces_append hhyphen] at hnil
    exact hnil (List.mem_append_right _ List.mem_cons_self)

/-! ## Where the file comes to lie -/

/-- **The place of a file of a name** in the working directory.  There is none if the name is too long for a
file system, or if a directory has it. -/
def landing (folder : Folder) (name : Text) : Option Place :=
  if Path.isLongName name then none
  else
    match folder.entry? [name] with
    | some .directory => none
    | _ => some [name]

lemma eq_of_landing {folder : Folder} {name : Text} {place : Place} (h : landing folder name = some place) :
    place = [name] := by
  unfold landing at h
  split_ifs at h
  split at h
  · cases h
  · exact (Option.some.inj h).symm

section

variable {name : Text}

lemma ofText_of_noSeparator (h : ('/' : Rune) ∉ name) : Path.ofText name = ⟨false, [name]⟩ := by
  have hstart : name.startsWith "/" = false := by
    rw [← Bool.not_eq_true, Text.startsWith, List.isPrefixOf_iff_prefix]
    exact fun hfront => h (hfront.subset List.mem_cons_self)
  rw [Path.ofText, hstart, if_neg Bool.false_ne_true, Text.splitOn_eq, List.splitOn_eq_singleton h]

/-- What is longer than a name for a directory itself is a name in it. -/
lemma not_isIdle_of_long (h : 2 < name.length) : Path.isIdle name = false := by
  rw [← Bool.not_eq_true, Path.isIdle, Bool.or_eq_true, List.isEmpty_iff, decide_eq_true_eq]
  rintro (rfl | rfl)
  · exact absurd h (by decide)
  · exact absurd h (by decide)

lemma step_of_long (h : 2 < name.length) (place : Place) : place.step name = place ++ [name] := by
  have hup : name ≠ ".." := by
    rintro rfl
    exact absurd h (by decide)
  rw [Place.step, not_isIdle_of_long h, if_neg Bool.false_ne_true, if_neg hup]

/-- **A file of a name in the working directory is put there**, if it can be. -/
lemma write_ofText (hseparator : ('/' : Rune) ∉ name) (hlong : 2 < name.length) (folder : Folder)
    (octets : List Nat) : folder.write (Path.ofText name) octets =
      if Path.isLongName name then .error .nameTooLong
      else
        match folder.entry? [name] with
        | some .directory => .error .isDirectory
        | _ => .ok (folder.set [name] (.file octets), [name]) := by
  have htidy : (Path.ofText name).tidy = ⟨false, [name]⟩ := by
    rw [ofText_of_noSeparator hseparator, Path.tidy, List.filter_singleton, not_isIdle_of_long hlong]
    rfl
  have hparent : ¬ Path.isLong ⟨false, [name].dropLast⟩ = true := Bool.false_ne_true
  have hmade : folder.makeDirectories (Place.start ⟨false, [name]⟩) [name].dropLast = .ok (folder, []) := rfl
  have hpath : Path.isLong ⟨false, [name]⟩ = true → Path.isLongName name = true := by
    have hwritten : Path.written ⟨false, [name]⟩ = name := rfl
    simp only [Path.isLong, hwritten, Path.isLongName, decide_eq_true_eq]
    exact Nat.lt_trans (by decide)
  rw [Folder.write, htidy]
  dsimp only
  rw [if_neg hparent, hmade, ok_bind]
  by_cases h : Path.isLong ⟨false, [name]⟩ = true
  · rw [if_pos h, if_pos (hpath h)]
    rfl
  · rw [if_neg h]
    show folder.writeIn [] name octets = _
    unfold Folder.writeIn
    generalize hplace : Place.step [] name = place
    obtain rfl : [name] = place := (step_of_long hlong []).symm.trans hplace
    rfl

end

section

variable {output? : Option Text} {config : Config} {planName : Text}

lemma separator_notMem_outputName (planName : Text) : ('/' : Rune) ∉ outputName planName := by
  rw [outputName_eq_stemOf, List.mem_append, not_or]
  exact ⟨(isSafeStem_stemOf planName).noSeparator.1, by decide⟩

lemma length_outputName (planName : Text) : 2 < (outputName planName).length := by
  have hsuffix : (".jmx" : Text).length = 4 := rfl
  rw [outputName_eq_stemOf, List.length_append, hsuffix]
  omega

/-- Without an output path, a plan is written to a path made from its name. -/
lemma outputPath_of_none (houtput : output?.getD [] = []) (hname : config.testPlanName = .text planName) :
    outputPath output? config = .ok (Path.ofText (outputName planName)) := by
  unfold outputPath
  rw [hname]
  cases output? with
  | none => rfl
  | some path =>
      obtain rfl : path = [] := houtput
      rfl

/-- **Where the file of a plan comes to lie**, if there is no output path. -/
lemma written?_deliver (houtput : output?.getD [] = []) (hname : config.testPlanName = .text planName)
    (folder : Folder) (directory : Text) (opening : List Item) (result : Compilation) (xml : Text) :
    (deliver folder directory opening output? config result xml).written? =
      (landing folder (outputName planName)).map fun place => (place, xml) := by
  rw [deliver, outputPath_of_none houtput hname, ok_bind,
    write_ofText (separator_notMem_outputName planName) (length_outputName planName), landing]
  split_ifs
  · rfl
  · cases folder.entry? [outputName planName] with
    | none => rfl
    | some entry =>
        cases entry with
        | directory => rfl
        | file octets => rfl

/-- What a run has written has been delivered, after the configuration has been read. -/
lemma exists_deliver_of_generate {reader : YamlReader} {folder : Folder} {directory document : Text}
    {options? : Option Text} {overrides : Overrides} {written : Place × Text}
    (h : (generate reader folder directory document output? options? overrides).written? = some written) :
    ∃ config opening result xml, effectiveConfig reader folder options? overrides = .ok config ∧
      (deliver folder directory opening output? config result xml).written? = some written := by
  unfold generate at h
  split at h
  · cases h
  · cases h
  · rename_i config hconfig
    unfold compileFile at h
    split at h
    · cases h
    · cases h
    · dsimp only at h
      split at h
      · cases h
      · cases h
      · exact ⟨config, _, _, _, hconfig, h⟩

end

/-! ## Output names -/

/-- **An output name that stays in the working directory.** -/
structure StaysHere (planName stem : Text) : Prop where
  /-- It is a stem with a suffix. -/
  name_eq : outputName planName = stem ++ ".jmx"
  /-- The stem is what the name of the plan comes to by steps. -/
  steps : stem = ((collapse (planName.lower.filter isNamed)).trimWith isHyphen).orElse "test-plan"
  /-- The stem is safe. -/
  safe : IsSafeStem stem
  /-- It has the same output name. -/
  repeats : outputName stem = outputName planName
  /-- A plan of the name is written to that file in the working directory, if there can be one. -/
  delivered : ∀ folder directory opening output? config result xml, output?.getD [] = [] →
    config.testPlanName = .text planName →
      (deliver folder directory opening output? config result xml).written? =
        (landing folder (stem ++ ".jmx")).map fun place => (place, xml)
  /-- Whatever a run writes for the plan is that file. -/
  placed : ∀ reader folder directory document output? options? overrides config place xml,
    output?.getD [] = [] → effectiveConfig reader folder options? overrides = .ok config →
      config.testPlanName = .text planName →
        (generate reader folder directory document output? options? overrides).written? = some (place, xml) →
          place = [stem ++ ".jmx"]

/-- **Every plan has an output name that stays in the working directory.** -/
theorem outputName_staysHere (planName : Text) : ∃ stem, StaysHere planName stem := by
  have hname := outputName_eq_stemOf planName
  refine ⟨stemOf planName, hname, ?_, isSafeStem_stemOf planName, ?_, ?_, ?_⟩
  · exact List.append_cancel_right (hname.symm.trans (outputName_eq planName))
  · rw [hname, outputName_eq_stemOf, stemOf_stemOf]
  · intro folder directory opening output? config result xml houtput hplan
    rw [← hname]
    exact written?_deliver houtput hplan folder directory opening result xml
  · intro reader folder directory document output? options? overrides config place xml houtput hconfig hplan
      hwritten
    obtain ⟨other, opening, result, text, hother, hdelivered⟩ := exists_deliver_of_generate hwritten
    obtain rfl := Except.ok.inj (hother.symm.trans hconfig)
    rw [written?_deliver houtput hplan, Option.map_eq_some_iff] at hdelivered
    obtain ⟨landed, hlanded, hsame⟩ := hdelivered
    obtain ⟨rfl, -⟩ := Prod.mk.inj hsame
    rw [← hname, eq_of_landing hlanded]

/-- The plan of a name with separators and a character that is deleted, in an empty folder. -/
theorem outputName_staysHere_loadTest :
    (deliver ⟨[]⟩ [] [] none { Config.usual with testPlanName := .text "Load _! TEST" }
      (.compiled "<jmeterTestPlan/>" 1 1 Log.empty) "<jmeterTestPlan/>").written? =
        some ([("load-test.jmx" : Text)], ("<jmeterTestPlan/>" : Text)) := by
  obtain ⟨stem, h⟩ := outputName_staysHere "Load _! TEST"
  have hfree : landing ⟨[]⟩ (outputName "Load _! TEST") = some [("load-test.jmx" : Text)] := by decide +kernel
  rw [h.delivered _ _ _ _ _ _ _ rfl rfl, ← h.name_eq, hfree]
  rfl

end LoadPlan.CommandLine
