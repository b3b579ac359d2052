import LoadPlan.Proofs.Json.RoundTrip
import Mathlib.Data.List.Infix
import Mathlib.Data.List.TakeWhile

/-!
# What stops the JSON reader

A text has no value since it is not of the format, or since there is a number in it with too many digits,
which the reader can come upon before it sees that the text is not of the format.

* `HasLongRow` — a text with a row of digits that is too long for a number.
* `Reads`, `reads_value` — what can come of reading a part of a text.
* **`decode_cases`** — what can come of reading all of it.
* `decode_of_long_row` — at a row that is too long the reader stops, whatever follows it.
* `exists_of_decode_map` — the text of a mapping begins with a brace, apart from white space.
-/

namespace LoadPlan.Json

/-! ## Parts of a text -/

/-- **A text with a row of digits that is too long for a number.** -/
def HasLongRow (cs : List Char) : Prop :=
  ∃ row, row <:+: cs ∧ maxDigits < row.length ∧ ∀ c ∈ row, isAsciiDigit c = true

lemma HasLongRow.mono {cs ds : List Char} (h : HasLongRow cs) (hend : cs <:+ ds) : HasLongRow ds := by
  obtain ⟨row, hrow, hlong, hdigits⟩ := h
  exact ⟨row, hrow.trans hend.isInfix, hlong, hdigits⟩

/-- **What can come of reading a part of a text.** -/
inductive Reads {α : Type} (cs : List Char) : Except TextFault (α × List Char) → Prop where
  /-- What is left is an end of the text. -/
  | ok {a : α} {left : List Char} (h : left <:+ cs) : Reads cs (.ok (a, left))
  /-- The text is not of the format. -/
  | malformed : Reads cs (.error .malformed)
  /-- There is a number with too many digits. -/
  | badNumeral (h : HasLongRow cs) : Reads cs (.error .badNumeral)

namespace Reads

variable {α β : Type} {cs ds : List Char} {outcome : Except TextFault (α × List Char)}

lemma mono (h : Reads cs outcome) (hend : cs <:+ ds) : Reads ds outcome := by
  cases h with
  | ok h => exact .ok (h.trans hend)
  | malformed => exact .malformed
  | badNumeral h => exact .badNumeral (h.mono hend)

lemma map (h : Reads cs outcome) (f : α → β) :
    Reads cs (outcome.map fun (a, left) => (f a, left)) := by
  cases h with
  | ok h => exact .ok h
  | malformed => exact .malformed
  | badNumeral h => exact .badNumeral h

/-- One part after another. -/
lemma bind {next : α × List Char → Except TextFault (β × List Char)} (h : Reads cs outcome)
    (hnext : ∀ a left, left <:+ cs → Reads cs (next (a, left))) : Reads cs (outcome >>= next) := by
  cases h with
  | ok h => exact hnext _ _ h
  | malformed => exact .malformed
  | badNumeral h => exact .badNumeral h

end Reads

lemma skipSpace_suffix (cs : List Char) : skipSpace cs <:+ cs := List.dropWhile_suffix isSpace

/-- What follows a character behind white space is an end of the text as well. -/
lemma suffix_of_skipSpace {cs ds rest : List Char} {c : Char} (h : skipSpace cs = c :: rest)
    (hend : cs <:+ ds) : rest <:+ ds := by
  have hspace := (skipSpace_suffix cs).trans hend
  rw [h] at hspace
  exact (List.suffix_cons c rest).trans hspace

/-! ## Texts and numbers -/

lemma reads_runes (cs : List Char) : Reads cs (readRunes cs) := by
  induction cs using readRunes.induct with
  | case1 => exact .malformed
  | case2 rest => exact .ok (List.suffix_cons _ _)
  | case3 a b c d rest hrune =>
      rw [readRunes, hrune]
      exact .malformed
  | case4 a b c d rest r hrune ih =>
      rw [readRunes, hrune]
      exact (ih.map _).mono ⟨['\\', 'u', a, b, c, d], rfl⟩
  | case5 c rest hnumber hescape =>
      rw [readRunes, hescape]
      · exact .malformed
      · exact hnumber
  | case6 c rest hnumber r hescape ih =>
      rw [readRunes, hescape]
      · exact (ih.map _).mono ⟨['\\', c], rfl⟩
      · exact hnumber
  | case7 c rest hmark hnumber hescape hcontrol =>
      rw [readRunes, if_pos hcontrol]
      · exact .malformed
      · exact hmark
      · exact hnumber
      · exact hescape
  | case8 c rest hmark hnumber hescape hcontrol ih =>
      rw [readRunes, if_neg hcontrol]
      · exact (ih.map _).mono (List.suffix_cons c rest)
      · exact hmark
      · exact hnumber
      · exact hescape

lemma reads_text (cs : List Char) : Reads cs (readText cs) := (reads_runes cs).map joinPairs

/-- The whole part is a row of digits, and the rest of the text follows it. -/
lemma wholePart_append (cs : List Char) :
    (wholePart cs).1 ++ (wholePart cs).2 = cs ∧ ∀ c ∈ (wholePart cs).1, isAsciiDigit c = true := by
  unfold wholePart
  split
  · refine ⟨rfl, ?_⟩
    rw [List.forall_mem_singleton]
    rfl
  · exact ⟨List.takeWhile_append_dropWhile, fun c => List.mem_takeWhile_imp⟩

lemma fractionPart_suffix (cs : List Char) : (fractionPart cs).2 <:+ cs := by
  unfold fractionPart
  split
  · rename_i rest
    dsimp only
    split_ifs
    · exact List.suffix_rfl
    · exact (List.dropWhile_suffix _).trans (List.suffix_cons _ _)
  · exact List.suffix_rfl

lemma splitSign_suffix (cs : List Char) : (splitSign cs).2 <:+ cs := by
  unfold splitSign
  split
  · exact List.suffix_cons _ _
  · exact List.suffix_cons _ _
  · exact List.suffix_rfl

lemma exponentPart_suffix (cs : List Char) : (exponentPart cs).2 <:+ cs := by
  unfold exponentPart
  split
  · exact List.suffix_rfl
  · rename_i mark rest
    dsimp only
    split
    · split
      · exact List.suffix_rfl
      · exact ((List.dropWhile_suffix _).trans (splitSign_suffix rest)).trans (List.suffix_cons mark rest)
    · exact List.suffix_rfl

lemma reads_unsigned (negative : Bool) (cs : List Char) : Reads cs (readUnsigned negative cs) := by
  obtain ⟨happend, hdigits⟩ := wholePart_append cs
  have hend : (exponentPart (fractionPart (wholePart cs).2).2).2 <:+ cs :=
    ((exponentPart_suffix _).trans (fractionPart_suffix _)).trans ⟨_, happend⟩
  unfold readUnsigned
  dsimp only
  split
  · exact .malformed
  · split
    · by_cases hlong : maxDigits < (wholePart cs).1.length
      · rw [readNatural, if_pos hlong]
        exact .badNumeral ⟨_, ⟨[], _, happend⟩, hlong, hdigits⟩
      · rw [readNatural, if_neg hlong]
        exact .ok hend
    · exact .ok hend

lemma reads_number (cs : List Char) : Reads cs (readNumber cs) := by
  unfold readNumber
  split
  · exact .ok ⟨['N', 'a', 'N'], rfl⟩
  · exact .ok ⟨"Infinity".toList, rfl⟩
  · exact .ok ⟨"-Infinity".toList, rfl⟩
  · exact (reads_unsigned true _).mono (List.suffix_cons _ _)
  · exact reads_unsigned false cs

/-! ## Values -/

mutual

/-- **What can come of reading a value.** -/
theorem reads_value : ∀ (steps : Nat) (cs : List Char), Reads cs (readValue steps cs)
  | 0, _ => .malformed
  | steps + 1, cs => by
      unfold readValue
      split
      · rename_i hzero
        cases hzero
      · rename_i rest _
        exact ((reads_text rest).map Value.text).mono (List.suffix_cons _ rest)
      · exact .ok ⟨"null".toList, rfl⟩
      · exact .ok ⟨"true".toList, rfl⟩
      · exact .ok ⟨"false".toList, rfl⟩
      · rename_i rest hsteps
        obtain rfl := Nat.succ.inj hsteps
        have hrest : rest <:+ '[' :: rest := List.suffix_cons _ rest
        split
        · rename_i left hclose
          exact .ok (suffix_of_skipSpace hclose hrest)
        · exact ((reads_items steps _).map Value.list).mono ((skipSpace_suffix rest).trans hrest)
      · rename_i rest hsteps
        obtain rfl := Nat.succ.inj hsteps
        have hrest : rest <:+ '\x7b' :: rest := List.suffix_cons _ rest
        split
        · rename_i left hclose
          exact .ok (suffix_of_skipSpace hclose hrest)
        · exact ((reads_members steps _).map fun members =>
            Value.map (Entries.ofPairs members)).mono ((skipSpace_suffix rest).trans hrest)
      · exact reads_number _

theorem reads_items : ∀ (steps : Nat) (cs : List Char), Reads cs (readItems steps cs)
  | 0, _ => .malformed
  | steps + 1, cs => by
      rw [readItems]
      refine (reads_value steps cs).bind fun item afterItem hitem => ?_
      dsimp only
      split
      · rename_i rest hclose
        exact .ok (suffix_of_skipSpace hclose hitem)
      · rename_i rest hcomma
        have hrest := (skipSpace_suffix rest).trans (suffix_of_skipSpace hcomma hitem)
        exact ((reads_items steps _).mono hrest).bind fun items left hleft => .ok hleft
      · exact .malformed

theorem reads_members : ∀ (steps : Nat) (cs : List Char), Reads cs (readMembers steps cs)
  | 0, _ => .malformed
  | steps + 1, cs => by
      unfold readMembers
      split
      · rename_i hzero
        cases hzero
      · rename_i rest hsteps
        obtain rfl := Nat.succ.inj hsteps
        refine ((reads_text rest).mono (List.suffix_cons _ rest)).bind fun key afterKey hkey => ?_
        dsimp only
        split
        · rename_i more hcolon
          have hmore := (skipSpace_suffix more).trans (suffix_of_skipSpace hcolon hkey)
          refine ((reads_value steps _).mono hmore).bind fun value afterValue hvalue => ?_
          dsimp only
          split
          · rename_i left hclose
            exact .ok (suffix_of_skipSpace hclose hvalue)
          · rename_i others hcomma
            have hothers := (skipSpace_suffix others).trans (suffix_of_skipSpace hcomma hvalue)
            exact ((reads_members steps _).mono hothers).bind fun members left hleft => .ok hleft
          · exact .malformed
        · exact .malformed
      · exact .malformed

end

/-! ## Whole texts -/

section

variable {source left : List Char} {value : Value}

/-- After the value of a text there may be white space, and anything else is not of the format. -/
lemma decode_of_readValue
    (h : readValue (source.length + 1) (skipSpace source) = .ok (value, left)) :
    decode source = if skipSpace left = [] then .ok value else .error .malformed := by
  rw [decode, readDocument, h]
  dsimp only [bind, Except.bind]
  cases skipSpace left <;> rfl

lemma decode_of_error {fault : TextFault}
    (h : readValue (source.length + 1) (skipSpace source) = .error fault) :
    decode source = .error fault.fault := by
  rw [decode, readDocument, h]
  rfl

end

/-- **What can come of reading a whole text**: its value, or a fault since it is not of the format or since
a number in it has too many digits. -/
theorem decode_cases (source : List Char) :
    (∃ value, decode source = .ok value) ∨ decode source = .error .malformed ∨
      decode source = .error .badNumeral ∧ HasLongRow source := by
  have h := (reads_value (source.length + 1) (skipSpace source)).mono (skipSpace_suffix source)
  cases hvalue : readValue (source.length + 1) (skipSpace source) with
  | error fault =>
      rw [hvalue] at h
      rw [decode_of_error hvalue]
      cases h with
      | malformed => exact .inr (.inl rfl)
      | badNumeral h => exact .inr (.inr ⟨rfl, h⟩)
  | ok found =>
      rw [decode_of_readValue hvalue]
      split_ifs
      · exact .inl ⟨_, rfl⟩
      · exact .inr (.inl rfl)

lemma hasLongRow_of_badNumeral {source : List Char} (h : decode source = .error .badNumeral) :
    HasLongRow source := by
  rcases decode_cases source with ⟨value, hvalue⟩ | hmalformed | ⟨-, hlong⟩
  · rw [hvalue] at h
    cases h
  · rw [hmalformed] at h
    cases h
  · exact hlong

/-! ### Rows of digits that are too long -/

section

variable {row rest : List Char} {stray : Char}

lemma isSpace_of_isAsciiDigit {c : Char} (h : isAsciiDigit c = true) : isSpace c = false := by
  by_contra hspace
  simp only [isSpace, Bool.not_eq_false, Bool.or_eq_true, decide_eq_true_eq] at hspace
  rcases hspace with ((rfl | rfl) | rfl) | rfl <;> cases h

/-- **At a row of digits that is too long the reader stops**, and so it does not come to see what follows. -/
lemma decode_of_long_row (hlong : maxDigits < row.length)
    (hdigits : ∀ c ∈ row, isAsciiDigit c = true) (hzero : row.head? ≠ some '0')
    (hstray : isAsciiDigit stray = false ∧ stray ≠ '.' ∧ stray ≠ 'e' ∧ stray ≠ 'E') :
    decode (row ++ stray :: rest) = .error .badNumeral := by
  obtain ⟨hdigit, hpoint, hlower, hupper⟩ := hstray
  have hne : row ≠ [] := List.ne_nil_of_length_pos (Nat.zero_lt_of_lt hlong)
  have hwhole : wholePart (row ++ stray :: rest) = (row, stray :: rest) :=
    wholePart_row hdigits hne hzero (List.takeWhile_cons_of_neg (ne_true_of_eq_false hdigit))
  have hfraction : fractionPart (stray :: rest) = ([], stray :: rest) := by
    rw [fractionPart]
    exact fun _ hcons => hpoint (List.cons.inj hcons).1
  have hexponent : exponentPart (stray :: rest) = (none, stray :: rest) := by
    rw [exponentPart, if_neg (not_or.mpr ⟨hlower, hupper⟩)]
  have hread : readUnsigned false (row ++ stray :: rest) = .error .badNumeral := by
    simp only [readUnsigned, hwhole, hfraction, hexponent, readNatural, if_pos hlong,
      List.isEmpty_eq_false_iff.mpr hne]
    rfl
  obtain ⟨c, cs, rfl⟩ := List.exists_cons_of_ne_nil hne
  have hc : isAsciiDigit c = true := hdigits c List.mem_cons_self
  have hspace : ¬ isSpace c = true := ne_true_of_eq_false (isSpace_of_isAsciiDigit hc)
  have hvalue (steps : Nat) :
      readValue (steps + 1) (skipSpace (c :: cs ++ stray :: rest)) = .error .badNumeral := by
    rw [List.cons_append, skipSpace, List.dropWhile_cons_of_neg hspace, readValue_of_first (.inl hc),
      readNumber_of_digit hc]
    exact hread
  exact decode_of_error (hvalue _)

end

/-! ### Mappings -/

lemma readUnsigned_ne_map {negative : Bool} {cs left : List Char} {entries : Entries} :
    readUnsigned negative cs ≠ .ok (.map entries, left) := by
  intro h
  unfold readUnsigned at h
  dsimp only at h
  split at h
  · cases h
  · split at h
    · cases hwhole : readNatural (wholePart cs).1 with
      | error fault =>
          rw [hwhole] at h
          cases h
      | ok magnitude =>
          rw [hwhole] at h
          cases h
    · cases h

lemma readNumber_ne_map {cs left : List Char} {entries : Entries} :
    readNumber cs ≠ .ok (.map entries, left) := by
  intro h
  unfold readNumber at h
  split at h
  · cases h
  · cases h
  · cases h
  · exact readUnsigned_ne_map h
  · exact readUnsigned_ne_map h

/-- What is made of a part of a text is made of something. -/
lemma exists_of_map {α : Type} {outcome : Except TextFault (α × List Char)} {f : α → Value} {value : Value}
    {left : List Char} (h : (outcome.map fun (a, left) => (f a, left)) = .ok (value, left)) :
    ∃ a, value = f a := by
  cases outcome with
  | error fault => cases h
  | ok found =>
      cases h
      exact ⟨_, rfl⟩

/-- A mapping begins with a brace. -/
lemma exists_of_readValue_map {steps : Nat} {cs left : List Char} {entries : Entries}
    (h : readValue steps cs = .ok (.map entries, left)) : ∃ more, cs = '\x7b' :: more := by
  unfold readValue at h
  split at h
  · cases h
  · obtain ⟨t, ht⟩ := exists_of_map h
    cases ht
  · cases h
  · cases h
  · cases h
  · split at h
    · cases h
    · obtain ⟨items, hitems⟩ := exists_of_map h
      cases hitems
  · exact ⟨_, rfl⟩
  · exact absurd h readNumber_ne_map

lemma exists_of_decode_map {source : List Char} {entries : Entries}
    (h : decode source = .ok (.map entries)) : ∃ more, skipSpace source = '\x7b' :: more := by
  cases hvalue : readValue (source.length + 1) (skipSpace source) with
  | error fault =>
      rw [decode_of_error hvalue] at h
      cases h
  | ok found =>
      rw [decode_of_readValue hvalue] at h
      split_ifs at h
      obtain ⟨value, left⟩ := found
      obtain rfl := Except.ok.inj h
      exact exists_of_readValue_map hvalue

end LoadPlan.Json
