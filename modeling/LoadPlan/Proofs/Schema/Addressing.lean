import LoadPlan.Proofs.Number.Decimal
import LoadPlan.Proofs.Text.Cutting
import LoadPlan.Schema.Pointer
import Mathlib.Data.List.Forall2

/-!
# References and the paths that they spell

Every value in a document stands at the end of a path of keys and positions, and a path can be written as
a reference.  A step of a reference is a key in a mapping and a position in a sequence, so what a step says
depends on where it is taken.

* `Step`, `lead` — paths, and the value that a path leads to.
* `escape`, `unescape_escape` — keys are written without slashes, and read back.
* `reference` — a path as a reference.
* **`target_reference`** — every mapping in a document is the target of the reference to its path, unless
  the path has a position of too many digits.
* `Step.Reads`, `LeadsTo` — the paths that the steps of a reference can be read as, and where they lead.
* `HasPositions` — wherever digits stand for a position, they have a value.
* **`target_eq_some_iff`**, **`exists_target_iff`** — a reference finds the mapping that it leads to, and its
  lookup comes to an end exactly if its positions have values.
-/

namespace LoadPlan.Pointer

/-! ## Paths -/

/-- **A step of a path.** -/
inductive Step where
  /-- By key into a mapping. -/
  | key (k : Text)
  /-- By position into a sequence. -/
  | index (n : Nat)
deriving DecidableEq

/-- What a step leads to. -/
def Step.take : Step → Value → Option Value
  | key k, .map entries => Entries.get? k entries
  | index n, .list items => items[n]?
  | _, _ => none

/-- **What a path leads to.** -/
def lead : List Step → Value → Option Value
  | [], value => some value
  | step :: path, value => (step.take value).bind (lead path)

/-! ## Writing paths -/

/-- A key without slashes: tildes are written with a zero, and then slashes as a tilde with a one. -/
def escape (key : Text) : Text := (key.replace "~" "~0").replace "/" "~1"

/-- A step as it is written in a reference. -/
def Step.token : Step → Text
  | key k => escape k
  | index n => Text.ofNat n

/-- **A path as a reference.** -/
def reference (path : List Step) : Text := "#/" ++ Text.join "/" (path.map Step.token)

/-- What a code point of a key is written as. -/
def escapeRune (c : Rune) : Text := if c = '~' then "~0" else if c = '/' then "~1" else [c]

lemma escape_eq (key : Text) :
    escape key = (key.replace [('~' : Rune)] "~0").replace [('/' : Rune)] "~1" := rfl

lemma unescape_eq (token : Text) :
    unescape token =
      (token.replace [('~' : Rune), ('1' : Rune)] "/").replace [('~' : Rune), ('0' : Rune)] "~" := rfl

/-- Keys are written code point by code point. -/
lemma escape_cons (c : Rune) (rest : Text) : escape (c :: rest) = escapeRune c ++ escape rest := by
  by_cases htilde : c = '~'
  · subst htilde
    have hwritten : ("~0" : Text) ++ rest.replace [('~' : Rune)] "~0" =
        ('~' : Rune) :: ('0' : Rune) :: rest.replace [('~' : Rune)] "~0" := rfl
    rw [escape_eq, Text.replace_single, hwritten, Text.replace_cons_of_ne _ _ _ (by decide),
      Text.replace_cons_of_ne _ _ _ (by decide)]
    rfl
  · rw [escape_eq, Text.replace_cons_of_ne _ _ _ htilde, escapeRune, if_neg htilde]
    by_cases hslash : c = '/'
    · subst hslash
      rw [Text.replace_single, if_pos rfl]
      rfl
    · rw [Text.replace_cons_of_ne _ _ _ hslash, if_neg hslash]
      rfl

lemma unescape_cons {c : Rune} (h : c ≠ '~') (rest : Text) : unescape (c :: rest) = c :: unescape rest := by
  rw [unescape_eq, Text.replace_cons_of_ne _ _ _ h, Text.replace_cons_of_ne _ _ _ h]
  rfl

/-- What is written for a code point is read as that code point, whatever follows. -/
lemma unescape_escapeRune (c : Rune) (rest : Text) :
    unescape (escapeRune c ++ rest) = c :: unescape rest := by
  by_cases htilde : c = '~'
  · subst htilde
    have hwritten : escapeRune '~' ++ rest = ('~' : Rune) :: ('0' : Rune) :: rest := rfl
    have hother : (('0' : Rune) :: rest).head? ≠ some ('1' : Rune) := by
      rw [List.head?_cons]
      decide
    rw [hwritten, unescape_eq, Text.replace_cons_of_head?_ne _ _ fun _ => hother,
      Text.replace_cons_of_ne (c := ('0' : Rune)) _ _ _ (by decide), Text.replace_pair]
    rfl
  · by_cases hslash : c = '/'
    · subst hslash
      have hwritten : escapeRune '/' ++ rest = ('~' : Rune) :: ('1' : Rune) :: rest := rfl
      have hread : ("/" : Text) ++ rest.replace [('~' : Rune), ('1' : Rune)] "/" =
          ('/' : Rune) :: rest.replace [('~' : Rune), ('1' : Rune)] "/" := rfl
      rw [hwritten, unescape_eq, Text.replace_pair, hread, Text.replace_cons_of_ne _ _ _ (by decide)]
      rfl
    · rw [escapeRune, if_neg htilde, if_neg hslash, List.singleton_append, unescape_cons htilde]

/-- **A key is read back from what is written for it.** -/
theorem unescape_escape (key : Text) : unescape (escape key) = key := by
  induction key with
  | nil => rfl
  | cons c rest ih => rw [escape_cons, unescape_escapeRune, ih]

lemma slash_notMem_escape (key : Text) : ('/' : Rune) ∉ escape key := by
  induction key with
  | nil => exact List.not_mem_nil
  | cons c rest ih =>
      rw [escape_cons, List.mem_append, not_or]
      refine ⟨?_, ih⟩
      unfold escapeRune
      split_ifs with htilde hslash
      · decide
      · decide
      · rw [List.mem_singleton]
        exact Ne.symm hslash

/-! ## Reading paths back -/

/-- A step as it is read from a reference. -/
def Step.text : Step → Text
  | key k => k
  | index n => Text.ofNat n

/-- Whether a position can be read: it has not too many digits. -/
def Step.isShort : Step → Bool
  | key _ => true
  | index n => n < Nat.pow 10 maxDigits

lemma isShort_key (k : Text) : (Step.key k).isShort = true := rfl

lemma isShort_index {n : Nat} (h : n < 10) : (Step.index n).isShort = true := by
  rw [Step.isShort, decide_eq_true_iff]
  exact lt_pow_of_lt (e := 1) h (by decide)

lemma notMem_ofNat {r : Rune} (h : r.isDigit = false) (n : Nat) : r ∉ Text.ofNat n := by
  have hdigits := Text.isDigits_ofNat n
  rw [Text.isDigits, Bool.and_eq_true, List.all_eq_true] at hdigits
  intro hmem
  rw [hdigits.2 r hmem] at h
  cases h

lemma unescape_of_notMem {token : Text} (h : ('~' : Rune) ∉ token) : unescape token = token := by
  induction token with
  | nil => rfl
  | cons c rest ih =>
      rw [List.mem_cons, not_or] at h
      rw [unescape_cons (Ne.symm h.1), ih h.2]

lemma unescape_token (step : Step) : unescape step.token = step.text := by
  cases step with
  | key k => exact unescape_escape k
  | index n => exact unescape_of_notMem (notMem_ofNat (by decide) n)

lemma slash_notMem_token (step : Step) : ('/' : Rune) ∉ step.token := by
  cases step with
  | key k => exact slash_notMem_escape k
  | index n => exact notMem_ofNat (by decide) n

/-- The steps of a path are read back. -/
lemma tokens?_reference {path : List Step} (hne : path ≠ []) :
    tokens? (reference path) = some (path.map Step.text) := by
  have hstart : Text.startsWith (reference path) "#/" = true :=
    List.isPrefixOf_iff_prefix.mpr (List.prefix_append _ _)
  have hrest : (reference path).drop 2 = Text.join "/" (path.map Step.token) := rfl
  have hpieces : ∀ piece ∈ path.map Step.token, ('/' : Rune) ∉ piece :=
    List.forall_mem_map.mpr fun step _ => slash_notMem_token step
  have hcut : List.splitOn ('/' : Rune) (Text.join "/" (path.map Step.token)) = path.map Step.token := by
    rw [Text.join_eq_intercalate]
    exact List.splitOn_intercalate _ hpieces (mt List.map_eq_nil_iff.mp hne)
  rw [tokens?, if_pos hstart, hrest, Text.splitOn_eq, hcut, List.map_map]
  exact congrArg some (List.map_congr_left fun step _ => unescape_token step)

/-- Every local reference has a step. -/
lemma ne_nil_of_tokens? {reference : Text} {tokens : List Text} (h : tokens? reference = some tokens) :
    tokens ≠ [] := by
  rw [tokens?] at h
  split_ifs at h
  obtain rfl := Option.some.inj h
  rw [Text.splitOn_eq]
  exact mt List.map_eq_nil_iff.mp (List.splitOn_ne_nil _ _)

lemma position_ofNat (n : Nat) :
    position (Text.ofNat n) = if n < Nat.pow 10 maxDigits then .ok n else .error .badIndex := by
  rw [position, Text.ofNat, Text.toChars_ofChars, readInteger?_toDigits]
  split_ifs <;> rfl

/-- A step is taken as it is read, unless it is a position of too many digits. -/
lemma step_text {s : Step} {value next : Value} (h : s.take value = some next) :
    step s.text value = if s.isShort then .ok (some next) else .error .badIndex := by
  cases s with
  | key k =>
      cases value with
      | map entries => exact congrArg Except.ok h
      | _ => cases h
  | index n =>
      cases value with
      | list items =>
          rw [Step.text, step, if_pos (Text.isDigits_ofNat n), position_ofNat]
          by_cases hn : n < Nat.pow 10 maxDigits
          · rw [if_pos hn, Step.isShort, if_pos (decide_eq_true hn)]
            exact congrArg Except.ok h
          · rw [if_neg hn, Step.isShort, if_neg (mt of_decide_eq_true hn)]
            rfl
      | _ => cases h

lemma walk_texts {last : Value} : ∀ {path : List Step} {value : Value}, lead path value = some last →
    walk (path.map Step.text) value =
      if path.all Step.isShort then .ok (some last) else .error .badIndex
  | [], value, h => congrArg Except.ok h
  | s :: path, value, h => by
      obtain ⟨next, hnext, hlast⟩ := Option.bind_eq_some_iff.mp h
      rw [List.map_cons, walk, step_text hnext, List.all_cons]
      cases s.isShort with
      | true => exact walk_texts hlast
      | false => rfl

/-! ## Targets -/

/-- **Every mapping is addressable.**  The reference to the path of a mapping has that mapping as its
target.  Keys of all kinds can stand in the path: with slashes and tildes, empty ones, and ones that look
like positions.  Positions can be as large as numbers that can be read, and a larger one stops the
lookup. -/
theorem target_reference {document : Value} {path : List Step} {entries : Entries} (hne : path ≠ [])
    (h : lead path document = some (.map entries)) :
    target document (reference path) =
      if path.all Step.isShort then .ok (some entries) else .error .badIndex := by
  rw [target, tokens?_reference hne]
  dsimp only
  rw [walk_texts h]
  split_ifs <;> rfl

/-- A document with keys that have to be escaped or look like something else, and a sequence. -/
def oddDocument : Value :=
  .map [(.text "a/b", .map [(.text "~01", .list [.null,
    .map [(.text "", .map [(.text "1", .map [(.text "type", .text "string")])])]])])]

/-- The path of the innermost mapping. -/
def oddPath : List Step := [.key "a/b", .key "~01", .index 1, .key "", .key "1"]

/-- The innermost mapping is found at its path. -/
theorem target_reference_odd : oddPath ≠ [] ∧
    lead oddPath oddDocument = some (.map [(.text "type", .text "string")]) ∧
      reference oddPath = "#/a~1b/~001/1//1" ∧
        target oddDocument "#/a~1b/~001/1//1" = .ok (some [(.text "type", .text "string")]) := by
  have hne : oddPath ≠ [] := List.cons_ne_nil _ _
  have hlead : lead oddPath oddDocument = some (.map [(.text "type", .text "string")]) := rfl
  have hreference : reference oddPath = "#/a~1b/~001/1//1" := by decide
  have hshort : oddPath.all Step.isShort = true := by
    have hone : (Step.index 1).isShort = true := isShort_index (by decide)
    simp only [oddPath, List.all_cons, List.all_nil, hone, isShort_key, Bool.and_self]
  have htarget := target_reference hne hlead
  rw [hreference, if_pos hshort] at htarget
  exact ⟨hne, hlead, hreference, htarget⟩

/-! ## The paths that a reference spells -/

/-- How a step of a reference can be read: as a key, or as a position if it consists of digits. -/
def Step.Reads (token : Text) : Step → Prop
  | key k => token = k
  | index n => token.isDigits = true ∧ position token = .ok n

/-- **A path that steps can be read as, and the value at its end.** -/
def Reaches (tokens : List Text) (value last : Value) : Prop :=
  ∃ path, List.Forall₂ Step.Reads tokens path ∧ lead path value = some last

/-- **The mapping that a reference leads to**: it spells the path of that mapping. -/
def LeadsTo (document : Value) (reference : Text) (entries : Entries) : Prop :=
  ∃ tokens, tokens? reference = some tokens ∧ Reaches tokens document (.map entries)

/-- Wherever digits stand for a position in a sequence, they have a value. -/
def HasPositionsFrom (tokens : List Text) (value : Value) : Prop :=
  ∀ front token back items, tokens = front ++ token :: back → Reaches front value (.list items) →
    token.isDigits = true → ∃ n, position token = .ok n

/-- **A reference whose positions have values.** -/
def HasPositions (document : Value) (reference : Text) : Prop :=
  ∀ tokens, tokens? reference = some tokens → HasPositionsFrom tokens document

section

variable {token : Text} {tokens : List Text} {value next last : Value}

lemma step_eq_some_iff :
    step token value = .ok (some next) ↔ ∃ s : Step, s.Reads token ∧ s.take value = some next := by
  constructor
  · intro h
    unfold step at h
    split at h
    · exact ⟨.key token, rfl, Except.ok.inj h⟩
    · split_ifs at h with hdigits
      · cases hposition : position token with
        | error fault =>
            rw [hposition] at h
            cases h
        | ok n =>
            rw [hposition] at h
            exact ⟨.index n, ⟨hdigits, hposition⟩, Except.ok.inj h⟩
      · cases Except.ok.inj h
    · cases Except.ok.inj h
  · rintro ⟨s, hreads, htake⟩
    cases s with
    | key k =>
        obtain rfl := hreads
        cases value with
        | map entries => exact congrArg Except.ok htake
        | _ => cases htake
    | index n =>
        obtain ⟨hdigits, hposition⟩ := hreads
        cases value with
        | list items =>
            rw [step, if_pos hdigits, hposition]
            exact congrArg Except.ok htake
        | _ => cases htake

/-- A step into a mapping is by key. -/
lemma walk_map (token : Text) (tokens : List Text) (entries : Entries) :
    walk (token :: tokens) (.map entries) =
      match Entries.get? token entries with
      | some next => walk tokens next
      | none => .ok none := by
  rw [walk, step]
  cases Entries.get? token entries <;> rfl

lemma reaches_nil : Reaches [] value last ↔ value = last := by
  constructor
  · rintro ⟨path, hpath, hlead⟩
    obtain rfl := List.forall₂_nil_left_iff.mp hpath
    exact Option.some.inj hlead
  · rintro rfl
    exact ⟨[], .nil, rfl⟩

lemma reaches_cons :
    Reaches (token :: tokens) value last ↔
      ∃ next, step token value = .ok (some next) ∧ Reaches tokens next last := by
  constructor
  · rintro ⟨path, hpath, hlead⟩
    obtain ⟨s, rest, hreads, hrest, rfl⟩ := List.forall₂_cons_left_iff.mp hpath
    obtain ⟨next, htake, hlast⟩ := Option.bind_eq_some_iff.mp hlead
    exact ⟨next, step_eq_some_iff.mpr ⟨s, hreads, htake⟩, rest, hrest, hlast⟩
  · rintro ⟨next, hstep, path, hpath, hlead⟩
    obtain ⟨s, hreads, htake⟩ := step_eq_some_iff.mp hstep
    exact ⟨s :: path, .cons hreads hpath, Option.bind_eq_some_iff.mpr ⟨next, htake, hlead⟩⟩

/-- A walk that arrives has gone a path. -/
lemma walk_eq_some_iff : ∀ {tokens : List Text} {value : Value},
    walk tokens value = .ok (some last) ↔ Reaches tokens value last
  | [], value => by
      rw [reaches_nil, walk, Except.ok.injEq, Option.some.injEq]
  | token :: tokens, value => by
      rw [reaches_cons, walk]
      constructor
      · intro h
        obtain ⟨found, hfound, hwalk⟩ := exists_of_except_bind h
        cases found with
        | none => cases Except.ok.inj hwalk
        | some next => exact ⟨next, hfound, walk_eq_some_iff.mp hwalk⟩
      · rintro ⟨next, hstep, hreaches⟩
        rw [hstep]
        exact walk_eq_some_iff.mpr hreaches

lemma hasPositionsFrom_cons :
    HasPositionsFrom (token :: tokens) value ↔
      (∃ found, step token value = .ok found) ∧
        ∀ next, step token value = .ok (some next) → HasPositionsFrom tokens next := by
  constructor
  · intro h
    refine ⟨?_, fun next hnext front other back items hsplit hreaches => ?_⟩
    · unfold step
      split
      · exact ⟨_, rfl⟩
      · rename_i items
        split_ifs with hdigits
        · obtain ⟨n, hn⟩ := h [] token tokens items rfl (reaches_nil.mpr rfl) hdigits
          rw [hn]
          exact ⟨_, rfl⟩
        · exact ⟨_, rfl⟩
      · exact ⟨_, rfl⟩
    · exact h (token :: front) other back items (congrArg (token :: ·) hsplit)
        (reaches_cons.mpr ⟨next, hnext, hreaches⟩)
  · rintro ⟨⟨found, hfound⟩, hrest⟩ front other back items hsplit hreaches hdigits
    cases front with
    | nil =>
        obtain ⟨rfl, rfl⟩ := List.cons.inj hsplit
        obtain rfl := reaches_nil.mp hreaches
        rw [step, if_pos hdigits] at hfound
        cases hposition : position token with
        | error fault =>
            rw [hposition] at hfound
            cases hfound
        | ok n => exact ⟨n, rfl⟩
    | cons first front =>
        obtain ⟨rfl, rfl⟩ := List.cons.inj hsplit
        obtain ⟨next, hnext, hreaches⟩ := reaches_cons.mp hreaches
        exact hrest next hnext front other back items rfl hreaches hdigits

/-- A walk comes to an end exactly if the positions on it have values. -/
lemma exists_walk_iff : ∀ {tokens : List Text} {value : Value},
    (∃ found, walk tokens value = .ok found) ↔ HasPositionsFrom tokens value
  | [], value => by
      refine iff_of_true ⟨some value, rfl⟩ fun front token back items hsplit => ?_
      exact absurd hsplit.symm (List.append_ne_nil_of_right_ne_nil front (List.cons_ne_nil token back))
  | token :: tokens, value => by
      rw [hasPositionsFrom_cons]
      constructor
      · rintro ⟨found, h⟩
        obtain ⟨first, hfirst, hwalk⟩ := exists_of_except_bind h
        refine ⟨⟨first, hfirst⟩, fun next hnext => exists_walk_iff.mp ?_⟩
        obtain rfl := Except.ok.inj (hfirst.symm.trans hnext)
        exact ⟨found, hwalk⟩
      · rintro ⟨⟨found, hfound⟩, hrest⟩
        rw [walk, hfound]
        cases found with
        | none => exact ⟨none, rfl⟩
        | some next => exact exists_walk_iff.mpr (hrest next hfound)

end

section

variable {document : Value} {reference : Text}

/-- **A reference finds the mapping that it leads to.** -/
theorem target_eq_some_iff {entries : Entries} :
    target document reference = .ok (some entries) ↔ LeadsTo document reference entries := by
  unfold target LeadsTo
  cases tokens? reference with
  | none => simp
  | some tokens =>
      simp only [Option.some.injEq, exists_eq_left', ← walk_eq_some_iff]
      cases walk tokens document with
      | error fault => simp [Except.map]
      | ok last => rcases last with _ | ⟨_ | _ | _⟩ <;> simp [Except.map, Value.entries?]

/-- **A lookup comes to an end exactly if the positions of the reference have values.** -/
theorem exists_target_iff :
    (∃ found, target document reference = .ok found) ↔ HasPositions document reference := by
  unfold target HasPositions
  cases tokens? reference with
  | none => simp
  | some tokens =>
      simp only [Option.some.injEq, forall_eq', ← exists_walk_iff]
      cases walk tokens document <;> simp [Except.map]

/-- **Nothing is found at a reference** that leads to no mapping. -/
theorem target_eq_none_iff :
    target document reference = .ok none ↔
      HasPositions document reference ∧ ∀ entries, ¬ LeadsTo document reference entries := by
  simp only [← exists_target_iff, ← target_eq_some_iff]
  cases target document reference with
  | error fault => simp
  | ok found => cases found <;> simp

end

end LoadPlan.Pointer
