import LoadPlan.Json.Reader
import LoadPlan.Json.Writer
import LoadPlan.Proofs.Number.Decimal
import Mathlib.Tactic.IntervalCases
import Mathlib.Tactic.Lemma
import Mathlib.Tactic.SplitIfs

/-!
# Texts and numbers in JSON are read back

What is written for a text or an integer is read as that text or integer, whatever follows.

* `Rune.isPortable` — a code point that reading and writing carry through.
* **`readText_quote`** — a quoted text is read back, up to its closing mark.
* `Closes` — what may follow a value.
* **`readNumber_ofInt`** — the decimal text of an integer is read back, provided that it is not too
  long and that what follows does not go on with the number.
-/

namespace LoadPlan

/-! ## Code points -/

/-- A code point that is no surrogate and not one of the last two of the first plane. -/
def Rune.isPortable (r : Rune) : Bool := !r.isSurrogate && r.code != 0xFFFE && r.code != 0xFFFF

/-- A portable code point that is no control character either. -/
def Rune.isHarmless (r : Rune) : Bool := 0x20 ≤ r.code && r.isPortable

lemma Rune.not_isSurrogate_of_isPortable {r : Rune} (h : r.isPortable = true) :
    r.isSurrogate = false := by
  simp only [isPortable, Bool.and_eq_true, Bool.not_eq_true'] at h
  exact h.1.1

/-- Code points other than surrogates are characters. -/
lemma Rune.code_toChar {r : Rune} (h : r.isSurrogate = false) : r.toChar.toNat = r.code := by
  have hvalid : r.code.isValidChar := by
    have hlt := r.code_lt
    simp only [isSurrogate, Bool.and_eq_false_iff, decide_eq_false_iff_not] at h
    simp only [Nat.isValidChar]
    omega
  rw [toChar, h, if_neg Bool.false_ne_true, Char.ofNat, dif_pos hvalid]
  rfl

lemma Rune.ofChar_toChar {r : Rune} (h : r.isSurrogate = false) : Rune.ofChar r.toChar = r := by
  rw [Rune.eq_iff_code]
  exact Rune.code_toChar h

@[simp] lemma Text.toChars_append (s t : Text) : (s ++ t).toChars = s.toChars ++ t.toChars :=
  List.map_append

@[simp] lemma Text.toChars_ofString (s : String) : (Text.ofString s).toChars = s.toList :=
  Text.toChars_ofChars s.toList

@[simp] lemma Text.toChars_cons (r : Rune) (t : Text) :
    Text.toChars (r :: t) = r.toChar :: t.toChars := rfl

@[simp] lemma Text.toChars_nil : Text.toChars [] = [] := rfl

@[simp] lemma Text.length_ofString (s : String) : (Text.ofString s).length = s.length := by
  rw [Text.ofString, Text.ofChars, List.length_map, String.length_toList]

@[simp] lemma Text.length_toChars (t : Text) : t.toChars.length = t.length := List.length_map _

namespace Json

/-! ## Texts -/

/-- Escapes by number are those of control characters. -/
lemma exists_unitEscape {n : Nat} (h : n < 0x20) : ∃ a b c d,
    (unitEscape n).toChars = ['\\', 'u', a, b, c, d] ∧ hexRune? a b c d = some (Rune.ofCode n) := by
  simp only [unitEscape, Text.toChars_append, Text.toChars_ofString]
  interval_cases n <;> exact ⟨_, _, _, _, rfl, by decide⟩

/-- An escape that is no number is a letter, which stands for the code point. -/
lemma exists_letter {r : Rune} {escape : Text} (h : shortForm? r = some escape) : ∃ c,
    Text.toChars escape = ['\\', c] ∧ c ≠ 'u' ∧ shortEscape? c = some r := by
  unfold shortForm? at h
  split_ifs at h with hmark hreverse hfeed hreturn htab hback hform
  all_goals
    obtain rfl := Option.some.inj h
    subst r
  · exact ⟨'"', rfl, by decide, by decide⟩
  · exact ⟨'\\', rfl, by decide, by decide⟩
  · exact ⟨'n', rfl, by decide, by decide⟩
  · exact ⟨'r', rfl, by decide, by decide⟩
  · exact ⟨'t', rfl, by decide, by decide⟩
  · exact ⟨'b', rfl, by decide, by decide⟩
  · exact ⟨'f', rfl, by decide, by decide⟩

/-- What has no escape is no control character and none of the two marks. -/
lemma plain_of_no_letter {r : Rune} (h : r.isPortable = true) (hform : shortForm? r = none)
    (hcode : ¬ r.code < 0x20) :
    r.toChar ≠ '"' ∧ r.toChar ≠ '\\' ∧ ¬ r.toChar ≤ '\x1f' := by
  have hchar := Rune.ofChar_toChar (Rune.not_isSurrogate_of_isPortable h)
  refine ⟨?_, ?_, ?_⟩
  · intro hmark
    rw [← hchar, hmark] at hform
    cases hform
  · intro hmark
    rw [← hchar, hmark] at hform
    cases hform
  · intro hle
    have hnat : r.toChar.toNat ≤ 31 := hle
    rw [Rune.code_toChar (Rune.not_isSurrogate_of_isPortable h)] at hnat
    omega

lemma readRunes_plain {c : Char} (hmark : c ≠ '"') (hreverse : c ≠ '\\') (hcontrol : ¬ c ≤ '\x1f')
    (cs : List Char) :
    readRunes (c :: cs) = (readRunes cs).map fun (t, left) => ((c : Rune) :: t, left) := by
  rw [readRunes]
  · rw [if_neg (not_or.mpr ⟨hcontrol, hreverse⟩)]
  · exact hmark
  · exact fun _ _ _ _ _ hc => absurd hc hreverse
  · exact fun _ _ hc => absurd hc hreverse

/-- **A code point inside a text is read back**, whether it is written with an escape or not. -/
lemma readRunes_quoteRune {r : Rune} (h : r.isPortable = true) (cs : List Char) :
    readRunes (Text.toChars (quoteRune r) ++ cs) =
      (readRunes cs).map fun (t, left) => (r :: t, left) := by
  unfold quoteRune
  cases hform : shortForm? r with
  | some escape =>
      obtain ⟨c, hchars, hu, hletter⟩ := exists_letter hform
      simp [hchars, readRunes, hu, hletter]
  | none =>
      by_cases hcode : r.code < 0x20
      · obtain ⟨a, b, c, d, hchars, hrune⟩ := exists_unitEscape hcode
        simp [hcode, hchars, readRunes, hrune]
      · obtain ⟨hmark, hreverse, hcontrol⟩ := plain_of_no_letter h hform hcode
        have hchar := Rune.ofChar_toChar (Rune.not_isSurrogate_of_isPortable h)
        simp [hcode, readRunes_plain hmark hreverse hcontrol, hchar]

lemma readRunes_quote {t : Text} (h : t.all Rune.isPortable = true) (rest : List Char) :
    readRunes (Text.toChars (t.flatMap quoteRune) ++ '"' :: rest) = .ok (t, rest) := by
  induction t with
  | nil => rfl
  | cons r t ih =>
      rw [List.all_cons, Bool.and_eq_true] at h
      rw [List.flatMap_cons, Text.toChars_append, List.append_assoc, readRunes_quoteRune h.1,
        ih h.2]
      rfl

/-- Nothing is joined where there are no surrogates. -/
lemma joinPairs_eq_self : ∀ {t : Text}, t.all Rune.isPortable = true → joinPairs t = t
  | [], _ => rfl
  | [_], _ => rfl
  | high :: low :: rest, h => by
      rw [List.all_cons, Bool.and_eq_true] at h
      have hhigh : high.isHighSurrogate = false := by
        have hsurrogate := Rune.not_isSurrogate_of_isPortable h.1
        simp only [Rune.isSurrogate, Rune.isHighSurrogate, Bool.and_eq_false_iff,
          decide_eq_false_iff_not] at hsurrogate ⊢
        omega
      rw [joinPairs, hhigh, joinPairs_eq_self h.2]
      rfl

/-- **A quoted text is read back.** -/
theorem readText_quote {t : Text} (h : t.all Rune.isPortable = true) (rest : List Char) :
    readText (Text.toChars (t.flatMap quoteRune) ++ '"' :: rest) = .ok (t, rest) := by
  rw [readText, readRunes_quote h]
  show Except.ok (joinPairs t, rest) = _
  rw [joinPairs_eq_self h]

/-! ## Integers -/

/-- **What may follow a value**: the end, a comma, or what closes a sequence or a mapping. -/
def Closes (cs : List Char) : Prop := ∀ c ∈ cs.head?, c = ',' ∨ c = ']' ∨ c = '\x7d'

section

variable {rest : List Char}

lemma Closes.head {c : Char} {cs : List Char} (h : Closes (c :: cs)) :
    c = ',' ∨ c = ']' ∨ c = '\x7d' := h c rfl

/-- What follows a value does not go on with a row of digits. -/
lemma Closes.takeWhile (h : Closes rest) : rest.takeWhile isAsciiDigit = [] := by
  cases rest with
  | nil => rfl
  | cons c cs => rcases h.head with rfl | rfl | rfl <;> rfl

lemma Closes.fractionPart (h : Closes rest) : fractionPart rest = ([], rest) := by
  cases rest with
  | nil => rfl
  | cons c cs => rcases h.head with rfl | rfl | rfl <;> rfl

lemma Closes.exponentPart (h : Closes rest) : exponentPart rest = (none, rest) := by
  cases rest with
  | nil => rfl
  | cons c cs => rcases h.head with rfl | rfl | rfl <;> rfl

end

/-- The first digit of a number above zero is no zero. -/
lemma exists_first_digit {n : Nat} (h : 0 < n) : ∃ c cs, Nat.toDigits 10 n = c :: cs ∧ c ≠ '0' := by
  induction n using Nat.strong_induction_on with
  | _ n ih =>
      by_cases hsmall : n < 10
      · refine ⟨n.digitChar, [], Nat.toDigits_of_lt_base hsmall, ?_⟩
        interval_cases n <;> decide
      · obtain ⟨c, cs, hdigits, hc⟩ := ih (n / 10) (by omega) (by omega)
        refine ⟨c, cs ++ [(n % 10).digitChar], ?_, hc⟩
        rw [Nat.toDigits_of_base_le (by decide) (by omega), hdigits, List.cons_append]

/-- A row of digits that does not begin with a zero is a whole part, up to the first character that is no
digit. -/
lemma wholePart_row {row rest : List Char} (hdigits : ∀ c ∈ row, isAsciiDigit c = true) (hne : row ≠ [])
    (hzero : row.head? ≠ some '0') (hrest : rest.takeWhile isAsciiDigit = []) :
    wholePart (row ++ rest) = (row, rest) := by
  have hleft : rest.dropWhile isAsciiDigit = rest := by
    have hcut : rest.takeWhile isAsciiDigit ++ rest.dropWhile isAsciiDigit = rest :=
      List.takeWhile_append_dropWhile
    rwa [hrest, List.nil_append] at hcut
  obtain ⟨c, cs, rfl⟩ := List.exists_cons_of_ne_nil hne
  have hrow : wholePart (c :: cs ++ rest) =
      ((c :: cs ++ rest).takeWhile isAsciiDigit, (c :: cs ++ rest).dropWhile isAsciiDigit) := by
    rw [List.cons_append, wholePart]
    rintro _ ⟨rfl, -⟩
    exact hzero rfl
  rw [hrow, List.takeWhile_append_of_pos hdigits, hrest, List.dropWhile_append_of_pos hdigits, hleft,
    List.append_nil]

/-- The digits of a number are all of its whole part. -/
lemma wholePart_toDigits (n : Nat) {rest : List Char} (h : Closes rest) :
    wholePart (Nat.toDigits 10 n ++ rest) = (Nat.toDigits 10 n, rest) := by
  rcases Nat.eq_zero_or_pos n with rfl | hpos
  · rfl
  · obtain ⟨c, cs, hdigits, hc⟩ := exists_first_digit hpos
    refine wholePart_row (fun _ => isAsciiDigit_of_mem) ?_ ?_ h.takeWhile
    · rw [hdigits]
      exact List.cons_ne_nil c cs
    · rw [hdigits]
      exact fun hzero => hc (Option.some.inj hzero)

lemma readUnsigned_toDigits (negative : Bool) {n : Nat} (hn : n < Nat.pow 10 maxDigits)
    {rest : List Char} (h : Closes rest) :
    readUnsigned negative (Nat.toDigits 10 n ++ rest) =
      .ok (.int (if negative then -(n : Int) else n), rest) := by
  have hsome : (Nat.toDigits 10 n).isEmpty = false := by
    rw [List.isEmpty_eq_false_iff, ← List.length_pos_iff]
    exact Nat.length_toDigits_pos
  simp only [readUnsigned, wholePart_toDigits n h, hsome, h.fractionPart, h.exponentPart,
    readNatural_toDigits hn]
  rfl

/-- A number that begins with a digit has no sign and is no word. -/
lemma readNumber_of_digit {c : Char} (hc : isAsciiDigit c = true) (cs : List Char) :
    readNumber (c :: cs) = readUnsigned false (c :: cs) := by
  unfold readNumber
  split
  all_goals first
    | rfl
    | rename_i heq
      obtain ⟨rfl, -⟩ := List.cons.inj heq
      exact absurd hc (by decide)

lemma readNumber_of_sign {c : Char} (hc : isAsciiDigit c = true) (cs : List Char) :
    readNumber ('-' :: c :: cs) = readUnsigned true (c :: cs) := by
  rw [readNumber]
  intro rest hcons
  obtain ⟨rfl, -⟩ := List.cons.inj hcons
  exact absurd hc (by decide)

/-- **The decimal text of an integer is read back.** -/
theorem readNumber_ofInt {i : Int} (hi : i.natAbs < Nat.pow 10 maxDigits) {rest : List Char}
    (h : Closes rest) :
    readNumber (Text.toChars (Text.ofInt i) ++ rest) = .ok (.int i, rest) := by
  cases i with
  | ofNat n =>
      obtain ⟨c, cs, hdigits⟩ := List.exists_cons_of_length_pos
        (Nat.length_toDigits_pos : 0 < (Nat.toDigits 10 n).length)
      have hc : isAsciiDigit c = true := isAsciiDigit_of_mem (hdigits ▸ List.mem_cons_self)
      have hread := readUnsigned_toDigits false (show n < _ from hi) h
      rw [Text.ofInt, Text.ofNat, Text.toChars_ofChars]
      rw [hdigits] at hread
      rw [hdigits, List.cons_append, readNumber_of_digit hc]
      exact hread
  | negSucc n =>
      obtain ⟨c, cs, hdigits⟩ := List.exists_cons_of_length_pos
        (Nat.length_toDigits_pos : 0 < (Nat.toDigits 10 (n + 1)).length)
      have hc : isAsciiDigit c = true := isAsciiDigit_of_mem (hdigits ▸ List.mem_cons_self)
      have hread := readUnsigned_toDigits true (show n + 1 < _ from hi) h
      rw [hdigits] at hread
      rw [Text.ofInt, Text.toChars_cons, Text.ofNat, Text.toChars_ofChars, Rune.toChar_ofChar,
        hdigits, List.cons_append, List.cons_append, readNumber_of_sign hc]
      exact hread

end Json

end LoadPlan
