/-!
# Text

The text that documents, diagnostics and plans are made of.

* `Rune` — one code point.  Unlike `Char` it may be a surrogate: an escape inside a document can
  name one on its own, and such a text has to be carried as far as the plan, where the surrogate
  is removed and reported.
* `Text` — a list of runes.  A string literal is a text by coercion.
* Cutting and searching — `splitOn`, `trimWith`, `contains`, `replace`, each by recursion on the
  list, so that a statement about one of them is proved by induction.
* `Rune.isBlank` — the white space of the Unicode character database, together with the four
  information separators of ASCII.
* `Text.hash` — the polynomial in 31 whose coefficients are the code points, in 32-bit arithmetic
  with sign.
-/

namespace LoadPlan

/-! ## Code points -/

/-- **A code point**, surrogates included. -/
structure Rune where
  /-- The number of the code point. -/
  code : Nat
  /-- No code point lies beyond the last plane. -/
  code_lt : code < 0x110000
deriving DecidableEq

namespace Rune

/-- A character is a code point. -/
def ofChar (c : Char) : Rune where
  code := c.toNat
  code_lt := by
    rcases c.valid with h | ⟨_, h⟩
    · show c.val.toNat < _
      omega
    · show c.val.toNat < _
      omega

instance : Coe Char Rune := ⟨ofChar⟩

/-- The replacement character stands for what is no code point. -/
def replacement : Rune := ⟨0xFFFD, by decide⟩

/-- The code point of a number; `replacement` when there is none. -/
def ofCode (n : Nat) : Rune := if h : n < 0x110000 then ⟨n, h⟩ else replacement

theorem code_ofCode {n : Nat} (h : n < 0x110000) : (ofCode n).code = n := by
  rw [ofCode, dif_pos h]

@[simp] theorem ofCode_code (r : Rune) : ofCode r.code = r := dif_pos r.code_lt

/-- Code points are the same if their numbers are. -/
theorem eq_iff_code {r s : Rune} : r = s ↔ r.code = s.code := by
  cases r
  cases s
  rw [Rune.mk.injEq]

/-- Surrogates are the code points that no character has. -/
def isSurrogate (r : Rune) : Bool := 0xD800 ≤ r.code && r.code ≤ 0xDFFF

/-- A surrogate that opens a pair. -/
def isHighSurrogate (r : Rune) : Bool := 0xD800 ≤ r.code && r.code ≤ 0xDBFF

/-- A surrogate that closes a pair. -/
def isLowSurrogate (r : Rune) : Bool := 0xDC00 ≤ r.code && r.code ≤ 0xDFFF

/-- The code point that a pair of surrogates stands for. -/
def ofPair (high low : Rune) : Rune :=
  ofCode (0x10000 + (high.code - 0xD800) * 0x400 + (low.code - 0xDC00))

/-- The character of a code point; a surrogate has none and becomes the replacement character. -/
def toChar (r : Rune) : Char := if r.isSurrogate then '\uFFFD' else Char.ofNat r.code

theorem ofChar_inj {c d : Char} : ofChar c = ofChar d ↔ c = d := by
  rw [ofChar, ofChar, Rune.mk.injEq]
  exact Char.toNat_inj

/-- Characters are carried through. -/
@[simp] theorem toChar_ofChar (c : Char) : (ofChar c).toChar = c := by
  have hscalar : (ofChar c).isSurrogate = false := by
    simp only [isSurrogate, ofChar, Bool.and_eq_false_iff]
    rcases c.valid with h | ⟨h, -⟩
    · exact .inl (decide_eq_false (by show ¬ 0xD800 ≤ c.val.toNat; omega))
    · exact .inr (decide_eq_false (by show ¬ c.val.toNat ≤ 0xDFFF; omega))
  rw [toChar, hscalar]
  exact Char.ofNat_toNat c

/-- The first 128 code points. -/
def isAscii (r : Rune) : Bool := r.code < 0x80

def isAsciiLetter (r : Rune) : Bool :=
  (0x41 ≤ r.code && r.code ≤ 0x5A) || (0x61 ≤ r.code && r.code ≤ 0x7A)

def isAsciiDigit (r : Rune) : Bool := 0x30 ≤ r.code && r.code ≤ 0x39

/-- Membership in a table of inclusive ranges of code points. -/
def within (ranges : List (Nat × Nat)) (r : Rune) : Bool :=
  ranges.any fun range => range.1 ≤ r.code && r.code ≤ range.2

end Rune

/-! ## Texts -/

/-- **A text** is a list of code points. -/
abbrev Text := List Rune

namespace Text

def ofChars (cs : List Char) : Text := cs.map Rune.ofChar

def ofString (s : String) : Text := ofChars s.toList

instance : Coe String Text := ⟨ofString⟩

/-- The characters of a text, with surrogates replaced. -/
def toChars (t : Text) : List Char := t.map Rune.toChar

/-- The string of a text, with surrogates replaced. -/
def toString (t : Text) : String := String.ofList t.toChars

theorem ofString_inj {s t : String} : ofString s = ofString t ↔ s = t := by
  rw [ofString, ofString, ofChars, ofChars, List.map_inj_right fun _ _ => Rune.ofChar_inj.mp]
  exact String.toList_inj

/-- The text of a literal is evaluated without its bytes. -/
theorem ofString_ofList (cs : List Char) : ofString (String.ofList cs) = ofChars cs := by
  rw [ofString, String.toList_ofList]

@[simp] theorem toChars_ofChars (cs : List Char) : toChars (ofChars cs) = cs := by
  have hsame : Rune.toChar ∘ Rune.ofChar = id := funext Rune.toChar_ofChar
  rw [toChars, ofChars, List.map_map, hsame, List.map_id]

/-- The decimal text of a natural number. -/
def ofNat (n : Nat) : Text := ofChars (Nat.toDigits 10 n)

/-- The decimal text of an integer, with a minus sign below zero. -/
def ofInt : Int → Text
  | .ofNat n => ofNat n
  | .negSucc n => Rune.ofChar '-' :: ofNat (n + 1)

/-- The decimal text of a number, filled with zeros on the left up to a width. -/
def ofNatPadded (width n : Nat) : Text :=
  List.replicate (width - (ofNat n).length) ('0' : Rune) ++ ofNat n

/-- The hexadecimal text of a number in lower case, filled with zeros on the left up to a width. -/
def ofHexPadded (width n : Nat) : Text :=
  let digits := ofChars (Nat.toDigits 16 n)
  List.replicate (width - digits.length) ('0' : Rune) ++ digits

def orElse (t usual : Text) : Text := if t.isEmpty then usual else t

def startsWith (t start : Text) : Bool := start.isPrefixOf t

def endsWith (t stop : Text) : Bool := stop.isSuffixOf t

/-- Whether one text occurs inside another. -/
def contains : Text → Text → Bool
  | [], needle => needle.isEmpty
  | c :: rest, needle => needle.isPrefixOf (c :: rest) || contains rest needle

/-- The pieces of a text between the occurrences of a separator: always one more than those. -/
def splitOn (separator : Rune) : Text → List Text
  | [] => [[]]
  | c :: rest =>
    if c = separator then [] :: splitOn separator rest
    else
      match splitOn separator rest with
      | [] => [[c]]
      | piece :: pieces => (c :: piece) :: pieces

/-- The text before the first occurrence of a separator; all of it when there is none. -/
def before (separator : Rune) (t : Text) : Text := t.takeWhile (· != separator)

/-- The text after the first occurrence of a separator, when there is one. -/
def after? (separator : Rune) : Text → Option Text
  | [] => none
  | c :: rest => if c = separator then some rest else after? separator rest

/-- The text after the last occurrence of a separator; all of it when there is none. -/
def afterLast (separator : Rune) (t : Text) : Text :=
  match after? separator t with
  | none => t
  | some rest => go separator rest.length rest
where
  /-- Cuts at most as many times as the text has code points. -/
  go (separator : Rune) : Nat → Text → Text
    | 0, rest => rest
    | n + 1, rest =>
      match after? separator rest with
      | none => rest
      | some shorter => go separator n shorter

/-- Removes from the end what a predicate accepts. -/
def trimEnd (drop : Rune → Bool) (t : Text) : Text := (t.reverse.dropWhile drop).reverse

/-- Removes from both ends what a predicate accepts. -/
def trimWith (drop : Rune → Bool) (t : Text) : Text := trimEnd drop (t.dropWhile drop)

/-- Replaces every occurrence of a pattern, from the left and without overlaps. -/
def replace (t pattern replacement : Text) : Text := go 0 t
where
  /-- The number says how many code points of a replaced occurrence are still to be passed. -/
  go : Nat → Text → Text
    | _, [] => []
    | passing + 1, _ :: rest => go passing rest
    | 0, c :: rest =>
      if pattern.isPrefixOf (c :: rest) then replacement ++ go (pattern.length - 1) rest
      else c :: go 0 rest

/-- The pieces one after another, with a separator between neighbours. -/
def join (separator : Text) : List Text → Text
  | [] => []
  | [piece] => piece
  | piece :: next :: pieces => piece ++ separator ++ join separator (next :: pieces)

end Text

/-! ## White space -/

/-- The ranges of blank code points. -/
def blankRanges : List (Nat × Nat) :=
  [ (0x9, 0xD), (0x1C, 0x20), (0x85, 0x85), (0xA0, 0xA0), (0x1680, 0x1680), (0x2000, 0x200A),
    (0x2028, 0x2029), (0x202F, 0x202F), (0x205F, 0x205F), (0x3000, 0x3000) ]

/-- Whether a code point is white space. -/
def Rune.isBlank (r : Rune) : Bool := r.within blankRanges

/-- A text without the white space at its ends. -/
def Text.trim (t : Text) : Text := t.trimWith Rune.isBlank

/-- Whether a text holds white space only. -/
def Text.isBlank (t : Text) : Bool := t.all Rune.isBlank

/-! ## Hashes -/

/-- A number of 32 bits read with sign. -/
def signed32 (n : Nat) : Int := if n < Nat.pow 2 31 then n else n - (Nat.pow 2 32 : Nat)

/-- **The hash of a text.** -/
def Text.hash (t : Text) : Int :=
  signed32 (t.foldl (fun h r => (31 * h + r.code) % Nat.pow 2 32) 0)

end LoadPlan
