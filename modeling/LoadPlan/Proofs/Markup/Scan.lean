import LoadPlan.Markup.Reader
import Mathlib.Data.List.Forall2
import Mathlib.Tactic.Lemma
import Mathlib.Tactic.SplitIfs

/-!
# Reading what has been written, token by token

The writer puts names, escaped texts and tags one after another.  Here each of them is met at the
beginning of some characters, and the reader is shown to pass over it and over nothing else.

* `Markup.isName` — names without abbreviations.
* `Markup.delimiters` — the characters that stand around names.
* `Rune.isMark` — the characters that are written as references.
* `Text.mark_induction` — a text is a run without marks, or such a run, a mark and a text.
* `Text.asValue` — a text as it is read in an attribute.
* `Written.Says` — an attribute, as it is written, says a name and a value.
* `token_run`, `token_reference`, `token_closing`, **`token_opening`** — the tokens of a document.
-/

namespace LoadPlan

namespace Markup

/-! ## Steps of a reader -/

namespace Scan

variable {α β : Type}

lemma bind_of_ok {x : Scan α} {f : α → Scan β} {source rest : Text} {a : α}
    (h : x source = .ok (a, rest)) : (x >>= f) source = f a rest := by
  show (x source >>= fun pair => f pair.1 pair.2) = _
  rw [h]
  rfl

lemma peek_cons (r : Rune) (rest : Text) : peek (r :: rest) = .ok (r, r :: rest) := rfl

lemma skip_cons (r : Rune) (rest : Text) : skip (r :: rest) = .ok ((), rest) := rfl

lemma left_eq (source : Text) : left source = .ok (source.length, source) := rfl

lemma expect_cons (r : Rune) (rest : Text) : expect r (r :: rest) = .ok ((), rest) := by
  rw [expect, bind_of_ok (peek_cons r rest), if_pos rfl, skip_cons]

/-- A run of accepted characters is taken up to the first that is not. -/
lemma takeWhile_append {accept : Rune → Bool} {run : Text} (h : ∀ r ∈ run, accept r = true)
    {stop : Rune} (hstop : accept stop = false) (rest : Text) :
    Scan.takeWhile accept (run ++ stop :: rest) = .ok (run, stop :: rest) := by
  have hdrop : (run ++ stop :: rest).dropWhile accept = stop :: rest := by
    rw [List.dropWhile_append_of_pos h, List.dropWhile_cons_of_neg (by simp [hstop])]
  have htake : (run ++ stop :: rest).takeWhile accept = run := by
    rw [List.takeWhile_append_of_pos h, List.takeWhile_cons_of_neg (by simp [hstop]),
      List.append_nil]
  show Except.ok _ = _
  rw [hdrop, htake]

lemma skipSpace_cons {r : Rune} (h : isSpace r = false) (rest : Text) :
    skipSpace (r :: rest) = .ok ((), r :: rest) := by
  have hnone : Scan.takeWhile isSpace ([] ++ r :: rest) = .ok ([], r :: rest) :=
    takeWhile_append (List.forall_mem_nil _) h rest
  exact bind_of_ok hnone

lemma skipSpace_blank {r : Rune} (h : isSpace r = false) (rest : Text) :
    skipSpace ((' ' : Rune) :: r :: rest) = .ok ((), r :: rest) := by
  have hblank : ∀ s ∈ [(' ' : Rune)], isSpace s = true := by decide
  exact bind_of_ok (takeWhile_append hblank h rest)

end Scan

/-! ## Names -/

/-- **Names without abbreviations.** -/
def isName : Text → Bool
  | [] => false
  | r :: rest => r.isNameStart && rest.all Rune.isNamePart

lemma isNamePart_of_isNameStart {r : Rune} (h : r.isNameStart = true) : r.isNamePart = true := by
  rw [Rune.isNamePart, h, Bool.true_or]

lemma isNamePart_of_mem {name : Text} (h : isName name = true) :
    ∀ r ∈ name, r.isNamePart = true := by
  cases name with
  | nil => exact nomatch h
  | cons first others =>
      rw [isName, Bool.and_eq_true, List.all_eq_true] at h
      intro r hr
      rcases List.mem_cons.mp hr with rfl | hr
      · exact isNamePart_of_isNameStart h.1
      · exact h.2 r hr

/-- **The characters that the format puts around names.** -/
def delimiters : List Rune :=
  ['\t', '\n', '\r', ' ', '!', '"', '#', '/', ':', ';', '=', '>', '?']

lemma isNamePart_delimiter : ∀ s ∈ delimiters, s.isNamePart = false := by decide +kernel

lemma ne_delimiter {r s : Rune} (hr : r.isNamePart = true) (hs : s ∈ delimiters) : r ≠ s := by
  rintro rfl
  exact absurd hr (by simp [isNamePart_delimiter r hs])

lemma isSpace_of_isNamePart {r : Rune} (h : r.isNamePart = true) : isSpace r = false := by
  simp only [isSpace, Bool.or_eq_false_iff, decide_eq_false_iff_not]
  refine ⟨⟨⟨?_, ?_⟩, ?_⟩, ?_⟩ <;> exact ne_delimiter h (by decide)

/-- **Words** of ASCII letters. -/
def isWord (t : Text) : Bool := !t.isEmpty && t.all Rune.isAsciiLetter

lemma isNameStart_of_isAsciiLetter {r : Rune} (h : r.isAsciiLetter = true) :
    r.isNameStart = true := by
  have hupper : (0x41, 0x5A) ∈ nameStartRanges := .head _
  have hlower : (0x61, 0x7A) ∈ nameStartRanges := .tail _ (.tail _ (.head _))
  rw [Rune.isAsciiLetter, Bool.or_eq_true] at h
  exact List.any_eq_true.mpr (h.elim (⟨_, hupper, ·⟩) (⟨_, hlower, ·⟩))

/-- A literal is a word if its characters are, which can be evaluated. -/
lemma isWord_literal {cs : List Char} (h : isWord (.ofChars cs) = true) :
    isWord (.ofString (String.ofList cs)) = true := by
  rwa [Text.ofString_ofList]

lemma isName_of_isWord {t : Text} (h : isWord t = true) : isName t = true := by
  cases t with
  | nil => exact nomatch h
  | cons r rest =>
      rw [isWord, List.isEmpty_cons, Bool.not_false, Bool.true_and, List.all_cons,
        Bool.and_eq_true, List.all_eq_true] at h
      rw [isName, isNameStart_of_isAsciiLetter h.1, Bool.true_and, List.all_eq_true]
      exact fun s hs => isNamePart_of_isNameStart (isNameStart_of_isAsciiLetter (h.2 s hs))

lemma exists_cons_of_isName {name : Text} (h : isName name = true) :
    ∃ r rest, name = r :: rest ∧ r.isNameStart = true := by
  cases name with
  | nil => exact nomatch h
  | cons r rest => exact ⟨r, rest, rfl, (Bool.and_eq_true_iff.mp h).1⟩

namespace Scan

/-- A name is read up to the first character that is in no name. -/
lemma name_append {t : Text} (h : isName t = true) {stop : Rune} (hstop : stop.isNamePart = false)
    (rest : Text) : name (t ++ stop :: rest) = .ok (t, stop :: rest) := by
  have htake : Scan.takeWhile Rune.isNamePart (t ++ stop :: rest) = .ok (t, stop :: rest) :=
    takeWhile_append (isNamePart_of_mem h) hstop rest
  obtain ⟨first, others, rfl, hfirst⟩ := exists_cons_of_isName h
  rw [name, List.cons_append, bind_of_ok (peek_cons _ _), if_pos hfirst]
  exact htake

lemma longName_append {t : Text} (h : isName t = true) {stop : Rune}
    (hstop : stop.isNamePart = false) (hcolon : stop ≠ (':' : Rune)) (rest : Text) :
    longName (t ++ stop :: rest) = .ok (t, stop :: rest) := by
  rw [longName, bind_of_ok (name_append h hstop rest), bind_of_ok (peek_cons _ _), if_neg hcolon]
  rfl

end Scan

end Markup

/-! ## Marks -/

/-- **The characters that are written as references.** -/
def Rune.isMark (r : Rune) : Bool := r = '&' || r = '<' || r = '>' || r = '"'

/-- **A text is a run without marks, or such a run, a mark and a text.** -/
theorem Text.mark_induction {motive : Text → Prop}
    (run : ∀ t, (∀ r ∈ t, r.isMark = false) → motive t)
    (mark : ∀ t m rest, (∀ r ∈ t, r.isMark = false) → m.isMark = true → motive rest →
      motive (t ++ m :: rest)) : ∀ t, motive t := by
  have hafter : ∀ rest t : Text, (∀ r ∈ t, r.isMark = false) → motive (t ++ rest) := by
    intro rest
    induction rest with
    | nil =>
        intro t ht
        rw [List.append_nil]
        exact run t ht
    | cons r rest ih =>
        intro t ht
        cases hr : r.isMark with
        | true => exact mark t r rest ht hr (ih [] (List.forall_mem_nil _))
        | false =>
            rw [← List.singleton_append, ← List.append_assoc]
            refine ih (t ++ [r]) fun s hs => ?_
            rcases List.mem_append.mp hs with hs | hs
            · exact ht s hs
            · rwa [List.mem_singleton.mp hs]
  exact fun t => hafter t [] (List.forall_mem_nil _)

lemma Rune.isMark_cases {r : Rune} (h : r.isMark = true) :
    r = '&' ∨ r = '<' ∨ r = '>' ∨ r = '"' := by
  simpa only [isMark, Bool.or_eq_true, decide_eq_true_eq, or_assoc] using h

/-- Every line end begins with a return or is a line feed. -/
lemma Text.lineFeeds_cons {r : Rune} (h : r ≠ ('\r' : Rune)) (rest : Text) :
    Text.lineFeeds (r :: rest) = r :: rest.lineFeeds := by
  cases rest with
  | nil => simp only [lineFeeds, if_neg h]
  | cons s rest => simp only [lineFeeds, if_neg h]

/-- A text without returns is read as it is. -/
lemma Text.lineFeeds_eq_self {t : Text} (h : ∀ r ∈ t, r ≠ ('\r' : Rune)) : t.lineFeeds = t := by
  induction t with
  | nil => rfl
  | cons r t ih =>
      rw [lineFeeds_cons (h r List.mem_cons_self), ih fun s hs => h s (List.mem_cons_of_mem r hs)]

lemma Text.isEmpty_lineFeeds : ∀ t : Text, t.lineFeeds.isEmpty = t.isEmpty
  | [] => rfl
  | [r] => by
      rw [lineFeeds]
      split_ifs <;> rfl
  | r :: s :: t => by
      have hmore := isEmpty_lineFeeds (s :: t)
      rw [lineFeeds]
      split_ifs
      · rw [hmore]; rfl
      · rfl
      · rfl

/-- Line ends before and after a mark do not belong together. -/
lemma Text.lineFeeds_append_mark {m : Rune} (hm : m.isMark = true) (rest : Text) :
    ∀ t : Text, Text.lineFeeds (t ++ m :: rest) = t.lineFeeds ++ m :: rest.lineFeeds
  | [] => by
      refine Text.lineFeeds_cons ?_ rest
      rcases Rune.isMark_cases hm with rfl | rfl | rfl | rfl <;> decide
  | [r] => by
      have hfeed : m ≠ ('\n' : Rune) := by
        rcases Rune.isMark_cases hm with rfl | rfl | rfl | rfl <;> decide
      have hlast := lineFeeds_append_mark hm rest []
      rw [List.nil_append] at hlast
      rw [List.singleton_append, lineFeeds, lineFeeds, hlast, if_neg hfeed]
      split_ifs <;> rfl
  | r :: s :: t => by
      have hinner := lineFeeds_append_mark hm rest (s :: t)
      rw [List.cons_append] at hinner
      rw [List.cons_append, List.cons_append, lineFeeds, lineFeeds, hinner]
      split_ifs <;> rfl

/-- **A text as it is read in an attribute**: all its white space is blanks. -/
def Text.asValue (t : Text) : Text :=
  t.lineFeeds.map fun r => if Markup.isSpace r then (' ' : Rune) else r

/-- **White space that an attribute does not keep**: a tabulator or one of the characters of line ends. -/
def Rune.IsBreak (r : Rune) : Prop := r = '\t' ∨ r = '\n' ∨ r = '\r'

lemma Text.asValue_eq_self {t : Text} (h : ∀ r ∈ t, ¬ r.IsBreak) : t.asValue = t := by
  have hfeeds : t.lineFeeds = t := lineFeeds_eq_self fun r hr hreturn => h r hr (.inr (.inr hreturn))
  rw [asValue, hfeeds]
  refine (List.map_congr_left fun r hr => ?_).trans (List.map_id t)
  split_ifs with hspace
  · rcases (by simpa [Markup.isSpace, or_assoc] using hspace) with rfl | htab | hreturn | hfeed
    · rfl
    · exact absurd (.inl htab) (h r hr)
    · exact absurd (.inr (.inr hreturn)) (h r hr)
    · exact absurd (.inr (.inl hfeed)) (h r hr)
  · rfl

lemma Text.not_isBreak_of_mem_asValue {t : Text} : ∀ r ∈ t.asValue, ¬ r.IsBreak := by
  intro r hr hbreak
  obtain ⟨s, -, rfl⟩ := List.mem_map.mp hr
  split_ifs at hbreak with hspace
  · rcases hbreak with h | h | h <;> exact absurd h (by decide)
  · refine hspace ?_
    rcases hbreak with rfl | rfl | rfl <;> rfl

/-- **A text is read as it was in an attribute** if it has no such white space. -/
lemma Text.asValue_eq_self_iff {t : Text} : t.asValue = t ↔ ∀ r ∈ t, ¬ r.IsBreak := by
  refine ⟨fun h => ?_, asValue_eq_self⟩
  rw [← h]
  exact not_isBreak_of_mem_asValue

/-- A return is read as a line feed, also where one follows it. -/
lemma Text.feed_mem_lineFeeds : ∀ {t : Text}, (('\r' : Rune) ∈ t) → (('\n' : Rune) ∈ t.lineFeeds)
  | [r], h => by
      obtain rfl := List.mem_singleton.mp h
      rw [lineFeeds, if_pos rfl]
      exact List.mem_cons_self
  | r :: s :: rest, h => by
      have hmore : (('\r' : Rune) ∈ s :: rest) → (('\n' : Rune) ∈ Text.lineFeeds (s :: rest)) :=
        feed_mem_lineFeeds
      rw [lineFeeds]
      split_ifs with hreturn hfeed
      · rw [hfeed, lineFeeds_cons (by decide)]
        exact List.mem_cons_self
      · exact List.mem_cons_self
      · have hrest := (List.mem_cons.mp h).resolve_left (Ne.symm hreturn)
        exact List.mem_cons_of_mem r (hmore hrest)

/-- Only a text without white space is read as one. -/
lemma Text.asValue_eq_iff {t word : Text} (hword : ∀ r ∈ word, Markup.isSpace r = false) :
    t.asValue = word ↔ t = word := by
  refine ⟨?_, ?_⟩
  · rintro rfl
    have hfeeds : ∀ r ∈ t.lineFeeds, Markup.isSpace r = false := by
      intro r hr
      by_contra hspace
      have hblank := hword _ (List.mem_map_of_mem hr)
      rw [if_pos (Bool.not_eq_false _ ▸ hspace)] at hblank
      cases hblank
    have hnone : ∀ r ∈ t, r ≠ ('\r' : Rune) := by
      rintro r hr rfl
      exact absurd (hfeeds _ (feed_mem_lineFeeds hr)) (by decide)
    rw [lineFeeds_eq_self hnone] at hfeeds
    refine (asValue_eq_self fun r hr hbreak => ?_).symm
    rcases hbreak with rfl | rfl | rfl <;> exact absurd (hfeeds _ hr) (by decide)
  · rintro rfl
    refine asValue_eq_self fun r hr hbreak => ?_
    rcases hbreak with rfl | rfl | rfl <;> exact absurd (hword _ hr) (by decide)

lemma Text.asValue_append_mark {m : Rune} (hm : m.isMark = true) (t rest : Text) :
    Text.asValue (t ++ m :: rest) = t.asValue ++ m :: rest.asValue := by
  have hspace : Markup.isSpace m = false := by
    rcases Rune.isMark_cases hm with rfl | rfl | rfl | rfl <;> decide
  rw [asValue, lineFeeds_append_mark hm, List.map_append, List.map_cons, hspace]
  rfl

namespace Markup

lemma escape_of_not_mark {r : Rune} (h : r.isMark = false) : escape r = [r] := by
  simp only [Rune.isMark, Bool.or_eq_false_iff, decide_eq_false_iff_not] at h
  obtain ⟨⟨⟨hamp, hlt⟩, hgt⟩, hquot⟩ := h
  rw [escape, if_neg hamp, if_neg hlt, if_neg hgt, if_neg hquot]

lemma flatMap_escape_run {t : Text} (h : ∀ r ∈ t, r.isMark = false) : t.flatMap escape = t := by
  induction t with
  | nil => rfl
  | cons r t ih =>
      rw [List.flatMap_cons, escape_of_not_mark (h r List.mem_cons_self),
        ih fun s hs => h s (List.mem_cons_of_mem r hs)]
      rfl

/-- A mark is written as a reference to it. -/
lemma escape_mark {m : Rune} (h : m.isMark = true) :
    ∃ name, escape m = ('&' : Rune) :: (name ++ [(';' : Rune)]) ∧ isName name = true ∧
      (Reference.named name).rune = .ok m := by
  rcases Rune.isMark_cases h with rfl | rfl | rfl | rfl
  · exact ⟨"amp", rfl, isName_of_isWord (isWord_literal (by decide)), rfl⟩
  · exact ⟨"lt", rfl, isName_of_isWord (isWord_literal (by decide)), rfl⟩
  · exact ⟨"gt", rfl, isName_of_isWord (isWord_literal (by decide)), rfl⟩
  · exact ⟨"quot", rfl, isName_of_isWord (isWord_literal (by decide)), rfl⟩

lemma flatMap_escape_mark {t : Text} (ht : ∀ r ∈ t, r.isMark = false) (m : Rune) (rest : Text) :
    (t ++ m :: rest).flatMap escape = t ++ (escape m ++ rest.flatMap escape) := by
  rw [List.flatMap_append, flatMap_escape_run ht, List.flatMap_cons]

/-- A list does not get shorter when something is written for each item. -/
lemma length_le_flatMap {α : Type} {write : α → Text} (h : ∀ a, write a ≠ []) :
    ∀ xs : List α, xs.length ≤ (xs.flatMap write).length
  | [] => Nat.le_refl 0
  | x :: xs => by
      have hone : 0 < (write x).length := List.length_pos_iff.mpr (h x)
      have hmore := length_le_flatMap h xs
      rw [List.flatMap_cons, List.length_append, List.length_cons]
      omega

lemma escape_ne_nil (r : Rune) : escape r ≠ [] := by
  unfold escape
  split_ifs <;> exact List.cons_ne_nil _ _

/-! ## References -/

lemma Scan.reference_append {name : Text} (h : isName name = true) (rest : Text) :
    Scan.reference (name ++ (';' : Rune) :: rest) = .ok (.named name, rest) := by
  have hstop : (';' : Rune).isNamePart = false := isNamePart_delimiter _ (by decide)
  have hread := Scan.name_append h hstop rest
  obtain ⟨first, others, rfl, hfirst⟩ := exists_cons_of_isName h
  have hnumber : first ≠ ('#' : Rune) :=
    ne_delimiter (isNamePart_of_isNameStart hfirst) (by decide)
  rw [List.cons_append, Scan.reference, Scan.bind_of_ok (Scan.peek_cons _ _), if_neg hnumber,
    ← List.cons_append, Scan.bind_of_ok hread, Scan.bind_of_ok (Scan.expect_cons _ _)]
  rfl

/-! ## Attributes -/

/-- Whether XML can carry every character of a text. -/
def isLegal (t : Text) : Bool := t.all fun r => !r.isIllegal

lemma isLegal_append {s t : Text} :
    isLegal (s ++ t) = true ↔ isLegal s = true ∧ isLegal t = true := by
  rw [isLegal, isLegal, isLegal, List.all_append, Bool.and_eq_true]

lemma isLegal_literal {cs : List Char} (h : isLegal (.ofChars cs) = true) :
    isLegal (.ofString (String.ofList cs)) = true := by
  rwa [Text.ofString_ofList]

lemma isLegal_iff {t : Text} : isLegal t = true ↔ ∀ r ∈ t, r.isIllegal = false := by
  simp [isLegal]

/-- **Pieces of a value say a text**, wherever their tag starts. -/
def Piece.Say (pieces : List Piece) (t : Text) : Prop :=
  ∀ start, (do return (← pieces.mapM (Piece.meaning start)).flatten) = Except.ok t

lemma Piece.say_run (t : Text) : Piece.Say [.run t] t.asValue := by
  intro start
  show Except.ok (List.flatten [t.asValue]) = _
  rw [List.flatten_singleton]

lemma Piece.say_reference {t : Text} {m : Rune} {target : Reference} (h : target.rune = .ok m)
    (place : Nat) {pieces : List Piece} {s : Text} (hs : Piece.Say pieces s) :
    Piece.Say (.run t :: .reference target place :: pieces) (t.asValue ++ m :: s) := by
  intro start
  have hrest := hs start
  have hmark : Piece.meaning start (.reference target place) = .ok [m] := by
    rw [Piece.meaning, h]
  rw [List.mapM_cons, List.mapM_cons, hmark]
  cases hparts : pieces.mapM (Piece.meaning start) with
  | error halt => rw [hparts] at hrest; exact nomatch hrest
  | ok parts =>
      rw [hparts] at hrest
      have hflat : parts.flatten = s := Except.ok.inj hrest
      show Except.ok (List.flatten (t.asValue :: [m] :: parts)) = _
      rw [List.flatten_cons, List.flatten_cons, hflat]
      rfl

namespace Scan

lemma isPlainIn_of_run {t : Text} (hmark : ∀ r ∈ t, r.isMark = false) (hlegal : isLegal t = true) :
    ∀ r ∈ t, isPlainIn ('"' : Rune) r = true := by
  intro r hr
  have hm := hmark r hr
  simp only [Rune.isMark, Bool.or_eq_false_iff, decide_eq_false_iff_not] at hm
  simp [isPlainIn, isLegal_iff.mp hlegal r hr, hm.2, hm.1.1.2, hm.1.1.1]

/-- **The value of an attribute is read**, up to the mark that closes it.  There are fewer references
in it than characters. -/
lemma pieces_append : ∀ t : Text, isLegal t = true → ∀ (rounds : Nat) (rest : Text),
    t.length < rounds → ∃ read,
      pieces ('"' : Rune) rounds (t.flatMap escape ++ ('"' : Rune) :: rest) = .ok (read, rest) ∧
        Piece.Say read t.asValue := by
  refine Text.mark_induction ?_ ?_
  · intro t hmark hlegal rounds rest hrounds
    obtain ⟨rounds, rfl⟩ : ∃ n, rounds = n + 1 := ⟨rounds - 1, by omega⟩
    have hstop : isPlainIn ('"' : Rune) ('"' : Rune) = false := by decide
    refine ⟨[.run t], ?_, Piece.say_run t⟩
    rw [flatMap_escape_run hmark, pieces,
      bind_of_ok (takeWhile_append (isPlainIn_of_run hmark hlegal) hstop rest),
      bind_of_ok (peek_cons _ _), if_pos rfl, bind_of_ok (skip_cons _ _)]
    rfl
  · intro t m more hmark hm ih hlegal rounds rest hrounds
    obtain ⟨rounds, rfl⟩ : ∃ n, rounds = n + 1 := ⟨rounds - 1, by omega⟩
    have hstop : isPlainIn ('"' : Rune) ('&' : Rune) = false := by decide
    have hother : ¬ ('&' : Rune) = '"' := by decide
    rw [isLegal_append] at hlegal
    have hmore : isLegal more = true := by
      have htail := hlegal.2
      rw [isLegal, List.all_cons, Bool.and_eq_true] at htail
      exact htail.2
    rw [List.length_append, List.length_cons] at hrounds
    obtain ⟨name, hname, hisName, hrune⟩ := escape_mark hm
    obtain ⟨read, hread, hsay⟩ := ih hmore rounds rest (by omega)
    let after : Text := name ++ (';' : Rune) :: (more.flatMap escape ++ ('"' : Rune) :: rest)
    have hsource : (t ++ m :: more).flatMap escape ++ ('"' : Rune) :: rest =
        t ++ ('&' : Rune) :: after := by
      simp [flatMap_escape_mark hmark, hname, after]
    rw [Text.asValue_append_mark hm, hsource]
    refine ⟨.run t :: .reference (.named name) (after.length + 1) :: read, ?_,
      Piece.say_reference hrune _ hsay⟩
    rw [pieces,
      bind_of_ok (takeWhile_append (isPlainIn_of_run hmark hlegal.1) hstop _),
      bind_of_ok (peek_cons _ _), if_neg hother, if_pos rfl, bind_of_ok (left_eq _),
      bind_of_ok (skip_cons _ _), bind_of_ok (reference_append hisName _), bind_of_ok hread]
    rfl

end Scan

/-- **An attribute, as it is written, says a name and a value**, wherever its tag starts. -/
structure Written.Says (written : Written) (said : Text × Text) : Prop where
  /-- The name is as it is written. -/
  name : written.name = said.1
  /-- The value has to be understood. -/
  value : ∀ start, written.value start = .ok said.2

lemma Scan.attributePart_append {name t : Text} (hname : isName name = true)
    (hlegal : isLegal t = true) (rest : Text) : ∃ written,
      Scan.attributePart
          (name ++ (Text.ofString "=\"" ++ (t.flatMap escape ++ ('"' : Rune) :: rest))) =
        .ok (written, rest) ∧ Written.Says written (name, t.asValue) := by
  have hstop : ('=' : Rune).isNamePart = false := isNamePart_delimiter _ (by decide)
  have hcolon : ('=' : Rune) ≠ ':' := by decide
  have hequals : isSpace ('=' : Rune) = false := by decide
  have hquote : isSpace ('"' : Rune) = false := by decide
  have hrounds : t.length <
      (t.flatMap escape ++ ('"' : Rune) :: rest).length + 1 := by
    rw [List.length_append]
    have hle := length_le_flatMap escape_ne_nil t
    omega
  obtain ⟨read, hread, hsay⟩ := Scan.pieces_append t hlegal _ rest hrounds
  let source : Text := name ++ ('=' : Rune) :: ('"' : Rune) ::
    (t.flatMap escape ++ ('"' : Rune) :: rest)
  refine ⟨⟨name, source.length, read⟩, ?_, rfl, fun start => hsay start⟩
  show Scan.attributePart source = _
  rw [Scan.attributePart, Scan.bind_of_ok (Scan.left_eq _),
    Scan.bind_of_ok (Scan.longName_append hname hstop hcolon _),
    Scan.bind_of_ok (Scan.skipSpace_cons hequals _), Scan.bind_of_ok (Scan.expect_cons _ _),
    Scan.bind_of_ok (Scan.skipSpace_cons hquote _), Scan.bind_of_ok (Scan.peek_cons _ _),
    if_pos (.inl rfl), Scan.bind_of_ok (Scan.skip_cons _ _), Scan.bind_of_ok (Scan.left_eq _),
    Scan.bind_of_ok hread]
  rfl

/-! ## Tags -/

/-- **Attributes that can be read again**: their names have no abbreviations and declare none, and
their values are texts that XML can carry. -/
def isReadable : Text × AttributeValue → Bool
  | (name, .text t) => isName name && (declared? name).isNone && isLegal t
  | (_, .raw _) => false

/-- What an attribute says when it is read. -/
def said : Text × AttributeValue → Text × Text
  | (name, .text t) => (name, t.asValue)
  | (name, .raw t) => (name, t)

def tagEnd (closed : Bool) : Text := if closed then "/>" else ">"

/-- What follows the name of an element in the tag that opens it begins with a character that is in
no name. -/
lemma exists_stop (attributes : Attributes) (closed : Bool) (rest : Text) :
    ∃ stop more, attributes.flatMap (attributeText escape) ++ (tagEnd closed ++ rest) =
      stop :: more ∧ stop.isNamePart = false ∧ stop ≠ (':' : Rune) := by
  cases attributes with
  | nil =>
      cases closed with
      | true => exact ⟨('/' : Rune), _, rfl, isNamePart_delimiter _ (by decide), by decide⟩
      | false => exact ⟨('>' : Rune), _, rfl, isNamePart_delimiter _ (by decide), by decide⟩
  | cons first others =>
      exact ⟨(' ' : Rune), _, rfl, isNamePart_delimiter _ (by decide), by decide⟩

/-- **The attributes of a tag are read**, and whether it closes the element, too. -/
lemma Scan.attributeParts_append (closed : Bool) (rest : Text) :
    ∀ (attributes : Attributes) (rounds : Nat), (∀ a ∈ attributes, isReadable a = true) →
      attributes.length < rounds → ∃ written,
        Scan.attributeParts rounds
            (attributes.flatMap (attributeText escape) ++ (tagEnd closed ++ rest)) =
          .ok ((written, closed), rest) ∧
        List.Forall₂ Written.Says written (attributes.map said)
  | [], rounds + 1, _, _ => by
      refine ⟨[], ?_, .nil⟩
      cases closed with
      | true =>
          show Scan.attributeParts _ (('/' : Rune) :: ('>' : Rune) :: rest) = _
          rw [Scan.attributeParts, Scan.bind_of_ok (Scan.peek_cons _ _), if_neg (by decide),
            if_pos rfl, Scan.bind_of_ok (Scan.skip_cons _ _), Scan.bind_of_ok (Scan.expect_cons _ _)]
          rfl
      | false =>
          show Scan.attributeParts _ (('>' : Rune) :: rest) = _
          rw [Scan.attributeParts, Scan.bind_of_ok (Scan.peek_cons _ _), if_pos rfl,
            Scan.bind_of_ok (Scan.skip_cons _ _)]
          rfl
  | (name, .raw t) :: others, _, hread, _ => by
      simp [isReadable] at hread
  | (name, .text t) :: others, rounds + 1, hread, hrounds => by
      rw [List.length_cons] at hrounds
      have hfirst := hread _ List.mem_cons_self
      simp only [isReadable, Bool.and_eq_true] at hfirst
      obtain ⟨⟨hname, -⟩, hlegal⟩ := hfirst
      obtain ⟨written, hwritten, hsaid⟩ := Scan.attributeParts_append closed rest others rounds
        (fun a ha => hread a (List.mem_cons_of_mem _ ha)) (by omega)
      obtain ⟨first, hfirst, hfirstSays⟩ := Scan.attributePart_append hname hlegal
        (others.flatMap (attributeText escape) ++ (tagEnd closed ++ rest))
      refine ⟨first :: written, ?_, .cons hfirstSays hsaid⟩
      obtain ⟨r, name, rfl, hstart⟩ := exists_cons_of_isName hname
      have hpart := isNamePart_of_isNameStart hstart
      have hend : ¬ (r = '>' ∨ r = '/') := fun h =>
        h.elim (ne_delimiter hpart (by decide)) (ne_delimiter hpart (by decide))
      have hsource : ((r :: name, .text t) :: others).flatMap (attributeText escape) ++
          (tagEnd closed ++ rest) = (' ' : Rune) :: r :: (name ++ (Text.ofString "=\"" ++
            (t.flatMap escape ++ ('"' : Rune) :: (others.flatMap (attributeText escape) ++
              (tagEnd closed ++ rest))))) := by
        simp only [List.flatMap_cons, attributeText, AttributeValue.written, List.append_assoc]
        rfl
      rw [hsource, Scan.attributeParts, Scan.bind_of_ok (Scan.peek_cons _ _), if_neg (by decide),
        if_neg (by decide), if_pos (by decide),
        Scan.bind_of_ok (Scan.skipSpace_blank (isSpace_of_isNamePart hpart) _),
        Scan.bind_of_ok (Scan.peek_cons _ _), if_neg hend, ← List.cons_append,
        Scan.bind_of_ok hfirst, Scan.bind_of_ok hwritten]
      rfl

/-! ## Tokens -/

/-- What begins a tag or a reference. -/
def isStop (r : Rune) : Bool := r = '<' || r = '&'

lemma isStop_cases {r : Rune} (h : isStop r = true) : r = '<' ∨ r = '&' := by
  simpa only [isStop, Bool.or_eq_true, decide_eq_true_eq] using h

/-- A run does not begin with what ends a passage without escapes, since that holds a mark. -/
lemma startsWith_run {t : Text} (hmark : ∀ r ∈ t, r.isMark = false) {stop : Rune}
    (hstop : isStop stop = true) (rest : Text) :
    Text.startsWith (t ++ stop :: rest) "]>" = false := by
  have hclose : ('>' : Rune) ≠ stop := by rcases isStop_cases hstop with rfl | rfl <;> decide
  have hopen : (']' : Rune) ≠ stop := by rcases isStop_cases hstop with rfl | rfl <;> decide
  show List.isPrefixOf [(']' : Rune), ('>' : Rune)] (t ++ stop :: rest) = false
  match t, hmark with
  | [], _ => simp [List.isPrefixOf, hopen]
  | [r], _ => simp [List.isPrefixOf, hclose]
  | r :: s :: t, hmark =>
      have hs : s.isMark = false := hmark s (List.mem_cons_of_mem r List.mem_cons_self)
      have hother : ('>' : Rune) ≠ s := by
        rintro rfl
        exact absurd hs (by decide)
      simp [List.isPrefixOf, hother]

/-- A run is cut off in front of a tag or a reference. -/
lemma cutText_append {stop : Rune} (hstop : isStop stop = true) (rest : Text) :
    ∀ t : Text, (∀ r ∈ t, r.isMark = false) → isLegal t = true →
      cutText (t ++ stop :: rest) = .ok (t, stop :: rest)
  | [], _, _ => by
      rw [List.nil_append, cutText, if_pos (isStop_cases hstop)]
  | r :: t, hmark, hlegal => by
      have hr := hmark r List.mem_cons_self
      have htail : ∀ s ∈ t, s.isMark = false := fun s hs => hmark s (List.mem_cons_of_mem r hs)
      simp only [Rune.isMark, Bool.or_eq_false_iff, decide_eq_false_iff_not] at hr
      rw [← List.singleton_append, isLegal_append] at hlegal
      have hillegal : r.isIllegal = false :=
        isLegal_iff.mp hlegal.1 r (List.mem_singleton_self r)
      have hplain : ¬ (r = '<' ∨ r = '&') := fun h => h.elim hr.1.1.2 hr.1.1.1
      rw [List.cons_append, cutText, if_neg hplain, if_neg (by simp [hillegal]),
        if_neg (by simp [startsWith_run htail hstop]), cutText_append hstop rest t htail hlegal.2]
      rfl

/-- **A run of text is a token.** -/
lemma token_run {t : Text} (hne : t ≠ []) (hmark : ∀ r ∈ t, r.isMark = false)
    (hlegal : isLegal t = true) {stop : Rune} (hstop : isStop stop = true) (rest : Text) :
    token (t ++ stop :: rest) = .ok (.run t.lineFeeds, stop :: rest) := by
  have hcut := cutText_append hstop rest t hmark hlegal
  obtain ⟨r, t, rfl⟩ := List.exists_cons_of_ne_nil hne
  have hr := hmark r List.mem_cons_self
  simp only [Rune.isMark, Bool.or_eq_false_iff, decide_eq_false_iff_not] at hr
  rw [List.cons_append, token, Scan.bind_of_ok (Scan.peek_cons _ _), if_neg hr.1.1.2,
    if_neg hr.1.1.1]
  exact Scan.bind_of_ok hcut

/-- **A reference is a token.** -/
lemma token_reference {name : Text} (h : isName name = true) (rest : Text) :
    token (('&' : Rune) :: (name ++ (';' : Rune) :: rest)) =
      .ok (.reference (.named name), rest) := by
  rw [token, Scan.bind_of_ok (Scan.peek_cons _ _), if_neg (by decide), if_pos rfl,
    Scan.bind_of_ok (Scan.skip_cons _ _), Scan.bind_of_ok (Scan.reference_append h rest)]
  rfl

/-- **A tag that closes an element is a token.** -/
lemma token_closing {tag : Text} (h : isName tag = true) (rest : Text) : ∃ left,
    token (closingTag tag ++ rest) = .ok (.closing tag left, rest) := by
  let after : Text := tag ++ ('>' : Rune) :: rest
  have hsource : closingTag tag ++ rest = ('<' : Rune) :: ('/' : Rune) :: after := by
    simp only [closingTag, List.append_assoc]
    rfl
  have haccept : ∀ r ∈ tag, (r.isNamePart || r = (':' : Rune)) = true := by
    intro r hr
    rw [isNamePart_of_mem h r hr, Bool.true_or]
  have hstop : (('>' : Rune).isNamePart || ('>' : Rune) = (':' : Rune)) = false := by
    rw [isNamePart_delimiter _ (by decide)]
    decide
  have hname := Scan.takeWhile_append haccept hstop rest
  have hspace : isSpace ('>' : Rune) = false := by decide
  refine ⟨after.length, ?_⟩
  obtain ⟨r, tag, rfl, hstart⟩ := exists_cons_of_isName h
  have hpeek : Scan.peek after = .ok (r, after) := Scan.peek_cons r (tag ++ _)
  rw [hsource, token, Scan.bind_of_ok (Scan.peek_cons _ _), if_pos rfl,
    Scan.bind_of_ok (Scan.skip_cons _ _), Scan.bracketed, Scan.bind_of_ok (Scan.peek_cons _ _),
    if_pos rfl, Scan.bind_of_ok (Scan.skip_cons _ _), Scan.closing,
    Scan.bind_of_ok (Scan.left_eq _), Scan.bind_of_ok hpeek, if_pos hstart,
    Scan.bind_of_ok hname, Scan.bind_of_ok (Scan.skipSpace_cons hspace _),
    Scan.bind_of_ok (Scan.expect_cons _ _)]
  rfl

/-- **A tag that opens an element is a token**, and its attributes say what they should. -/
lemma token_opening {tag : Text} (h : isName tag = true) {attributes : Attributes}
    (hread : ∀ a ∈ attributes, isReadable a = true) (closed : Bool) (rest : Text) : ∃ written,
      token (openingTag escape tag attributes ++ (tagEnd closed ++ rest)) =
          .ok (.opening tag written closed, rest) ∧
        List.Forall₂ Written.Says written (attributes.map said) := by
  let after : Text := attributes.flatMap (attributeText escape) ++ (tagEnd closed ++ rest)
  have hsource : openingTag escape tag attributes ++ (tagEnd closed ++ rest) =
      ('<' : Rune) :: (tag ++ after) := by
    simp only [openingTag, List.append_assoc]
    rfl
  have hrounds : attributes.length < after.length + 1 := by
    have hwritten : ∀ a, attributeText escape a ≠ [] := fun a => List.cons_ne_nil (' ' : Rune) _
    have hle := length_le_flatMap hwritten attributes
    show _ < (_ ++ _ : Text).length + 1
    rw [List.length_append]
    omega
  obtain ⟨written, hwritten, hsaid⟩ :=
    Scan.attributeParts_append closed rest attributes (after.length + 1) hread hrounds
  obtain ⟨stop, more, hstop, hpart, hcolon⟩ := exists_stop attributes closed rest
  have hname : Scan.longName (tag ++ after) = .ok (tag, after) := by
    show Scan.longName (tag ++ (attributes.flatMap _ ++ _)) = .ok (tag, attributes.flatMap _ ++ _)
    rw [hstop]
    exact Scan.longName_append h hpart hcolon more
  refine ⟨written, ?_, hsaid⟩
  obtain ⟨r, tag, rfl, hstart⟩ := exists_cons_of_isName h
  have hr := isNamePart_of_isNameStart hstart
  rw [hsource, token, Scan.bind_of_ok (Scan.peek_cons _ _), if_pos rfl,
    Scan.bind_of_ok (Scan.skip_cons _ _), Scan.bracketed, List.cons_append,
    Scan.bind_of_ok (Scan.peek_cons _ _), if_neg (ne_delimiter hr (by decide)),
    if_neg (ne_delimiter hr (by decide)), if_neg (ne_delimiter hr (by decide)),
    ← List.cons_append, Scan.bind_of_ok hname,
    Scan.bind_of_ok (Scan.left_eq _), Scan.bind_of_ok hwritten]
  rfl

end Markup

end LoadPlan
