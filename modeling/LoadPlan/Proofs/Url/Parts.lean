import LoadPlan.Proofs.Number.Decimal
import LoadPlan.Proofs.Operation.Verb
import LoadPlan.Proofs.Text.Cutting
import LoadPlan.Url

/-!
# The parts of an address

An address is cut into a scheme, an authority and a path at its signs, whatever else stands in it.  Whether
there is a server in the authority shows only afterwards.

* `Url.cut`, `Url.split?_eq` — the parts of any text, and when they are taken.
* `Url.NamesServer` — an address whose authority can be read and has a host, with a sound port or none.
* `Url.isRooted_path` — after an authority the path is empty or begins with a slash.
* `Url.IsScheme`, `Url.IsAuthority`, `Url.IsPath` — parts that stand in an address as they are.
* **`Url.split?_written`** — an address that is put together from such parts has these parts.
* `Url.hostAndPort_written`, `Url.host?_written`, `Url.port?_written` — and so has its authority.
-/

namespace LoadPlan

namespace Url

/-! ## Cutting any text -/

/-- A text without what is passed over when it is cut. -/
def cleaned (source : Text) : Text :=
  (source.dropWhile isLeadIn).filter fun (r : Rune) => r != '\t' && r != '\r' && r != '\n'

/-- **The parts of a text**, whether or not its authority can be read. -/
def cut (source : Text) : Url :=
  let scheme := (splitScheme (cleaned source)).1
  let parts := splitAuthority (splitScheme (cleaned source)).2
  let path := (parts.2.before '#').before '?'
  { scheme
    authority := parts.1
    path := if schemesWithParameters.contains scheme then dropParameters path else path }

lemma split?_eq (source : Text) :
    split? source =
      if bracketsAgree (cut source).authority && !(cut source).authority.any Rune.hidesDelimiter then
        some (cut source)
      else none := rfl

/-! ## Hosts and ports -/

/-- **A port that can be read**: none, or digits of a number of at most sixteen bits. -/
def IsPort (t : Text) : Prop :=
  t = [] ∨ (∀ r ∈ t, r.isAsciiDigit = true) ∧ t.length ≤ maxDigits ∧ digitsValue 10 t.toChars ≤ 65535

/-- **An address that names a server**: its authority can be read and has a host, and the port is sound. -/
structure NamesServer (address : Text) : Prop where
  /-- Brackets come in pairs, around a literal address. -/
  brackets : bracketsAgree (cut address).authority = true
  /-- No character of the authority stands for a delimiter. -/
  plain : ∀ r ∈ (cut address).authority, r.hidesDelimiter = false
  /-- There is a host. -/
  host : (cut address).hostAndPort.1 ≠ []
  /-- There is no port, or it can be read. -/
  port : IsPort (cut address).hostAndPort.2

section

variable {url : Url}

lemma isSome_port?_iff : url.port?.isSome = true ↔ IsPort url.hostAndPort.2 := by
  unfold port? IsPort readNatural
  dsimp only
  by_cases hempty : url.hostAndPort.2 = []
  · simp [hempty]
  · by_cases hdigits : url.hostAndPort.2.all Rune.isAsciiDigit = true
    · rw [if_neg (mt List.isEmpty_iff.mp hempty), if_pos hdigits]
      rw [List.all_eq_true] at hdigits
      rw [or_iff_right hempty, and_iff_right hdigits, Text.toChars, List.length_map]
      by_cases hlong : maxDigits < url.hostAndPort.2.length
      · simp [hlong]
      · by_cases hvalue : digitsValue 10 (url.hostAndPort.2.map Rune.toChar) ≤ 65535
        · simp [hlong, hvalue, Nat.not_lt.mp hlong]
        · simp [hlong, hvalue]
    · rw [if_neg (mt List.isEmpty_iff.mp hempty), if_neg hdigits]
      rw [List.all_eq_true] at hdigits
      simp [hempty, hdigits]

/-- A port has sixteen bits at most. -/
lemma le_of_port? {n : Nat} (h : url.port? = some (some n)) : n ≤ 65535 := by
  unfold port? at h
  dsimp only at h
  split_ifs at h with hempty hdigits
  · cases h
  · split at h
    · split_ifs at h with hvalue
      obtain rfl := Option.some.inj (Option.some.inj h)
      exact hvalue
    · cases h

lemma isSome_host?_iff : url.host?.isSome = true ↔ url.hostAndPort.1 ≠ [] := by
  unfold host?
  dsimp only
  rw [← List.isEmpty_eq_false_iff]
  cases url.hostAndPort.1.isEmpty <;> simp

end

end Url

/-- Lower case leaves something of every character. -/
lemma Text.lowerAt_ne_nil (after : Bool) (r : Rune) (rest : Text) : lowerAt after r rest ≠ [] := by
  unfold lowerAt
  split_ifs <;> exact List.cons_ne_nil _ _

lemma Text.lower_ne_nil {t : Text} (h : t ≠ []) : t.lower ≠ [] := by
  cases t with
  | nil => exact absurd rfl h
  | cons r rest =>
      rw [lower, lowerFrom]
      exact List.append_ne_nil_of_left_ne_nil (lowerAt_ne_nil _ _ _) _

namespace Url

/-- A host is not empty. -/
lemma ne_nil_of_host? {url : Url} {host : Text} (h : url.host? = some host) : host ≠ [] := by
  unfold host? at h
  dsimp only at h
  split_ifs at h with hempty
  obtain rfl := Option.some.inj h
  by_cases haddress : url.hostAndPort.1.before '%' = []
  · -- nothing is cut off, so all that is written is left
    rw [haddress, List.length_nil, List.drop_zero]
    exact List.append_ne_nil_of_right_ne_nil _ (List.isEmpty_eq_false_iff.mp (Bool.not_eq_true _ ▸ hempty))
  · exact List.append_ne_nil_of_left_ne_nil (Text.lower_ne_nil haddress) _

/-! ## Paths -/

/-- **A path as it follows an authority**: nothing, or a text that begins with a slash. -/
def IsRooted (path : Text) : Prop := path = [] ∨ ∃ rest, path = ('/' : Rune) :: rest

lemma isRooted_of_prefix {path front : Text} (h : IsRooted path) (hfront : front <+: path) :
    IsRooted front := by
  obtain rfl | ⟨rest, rfl⟩ := h
  · exact .inl (List.prefix_nil.mp hfront)
  · cases front with
    | nil => exact .inl rfl
    | cons c front =>
        obtain ⟨rfl, -⟩ := List.cons_prefix_cons.mp hfront
        exact .inr ⟨front, rfl⟩

lemma isRooted_before {path : Text} (h : IsRooted path) (separator : Rune) :
    IsRooted (path.before separator) :=
  isRooted_of_prefix h (List.takeWhile_prefix _)

/-- Only the last part of a path has its parameters cut off. -/
lemma isRooted_dropParameters {path : Text} (h : IsRooted path) : IsRooted (dropParameters path) := by
  obtain rfl | ⟨rest, rfl⟩ := h
  · exact .inl rfl
  · have hlast := (Text.afterLast_cons_suffix ('/' : Rune) rest).length_le
    obtain ⟨n, hn⟩ : ∃ n, (('/' : Rune) :: rest).length -
        (Text.afterLast '/' (('/' : Rune) :: rest)).length = n + 1 := by
      rw [List.length_cons]
      exact ⟨rest.length - (Text.afterLast '/' (('/' : Rune) :: rest)).length, by omega⟩
    right
    rw [dropParameters, hn, List.take_succ_cons]
    exact ⟨_, rfl⟩

/-- **After an authority the path is empty or begins with a slash.** -/
lemma isRooted_path {source : Text} (h : (cut source).authority ≠ []) : IsRooted (cut source).path := by
  have hrest : ∀ t : Text, (splitAuthority t).1 ≠ [] →
      IsRooted (((splitAuthority t).2.before '#').before '?') := by
    intro t ht
    unfold splitAuthority at ht ⊢
    dsimp only at ht ⊢
    split_ifs at ht ⊢ with hslashes
    · dsimp only
      cases hfollows : List.dropWhile (!endsAuthority ·) (t.drop 2) with
      | nil => exact .inl rfl
      | cons c rest =>
          have hends : endsAuthority c = true := by
            have := List.head?_dropWhile_not (!endsAuthority ·) (t.drop 2)
            rw [hfollows, List.head?_cons] at this
            exact Bool.not_eq_false' .. ▸ this
          simp only [endsAuthority, Bool.or_eq_true, decide_eq_true_eq] at hends
          -- an authority ends at a slash or in front of what is no path
          obtain (rfl | rfl) | rfl := hends
          · exact isRooted_before (isRooted_before (.inr ⟨rest, rfl⟩) _) _
          · exact .inl rfl
          · exact .inl rfl
    · exact absurd rfl ht
  have hpath := hrest _ h
  unfold cut
  dsimp only
  split_ifs
  · exact isRooted_dropParameters hpath
  · exact hpath

end Url

/-! ## Putting an address together -/

namespace Rune

def isSmallLetter (r : Rune) : Bool := 0x61 ≤ r.code && r.code ≤ 0x7A

/-- A small letter or a digit of ASCII, or one of some signs. -/
def isSmallPlain (signs : Text) (r : Rune) : Bool :=
  r.isSmallLetter || r.isAsciiDigit || List.contains signs r

section

variable {signs : Text} {r : Rune}

lemma ne_of_isSmallPlain {other : Rune} (h : r.isSmallPlain signs = true)
    (hother : other.isSmallPlain signs = false) : r ≠ other := by
  rintro rfl
  rw [h] at hother
  cases hother

/-- Plain characters are of ASCII and no capitals, if the signs are so. -/
lemma plain_of_isSmallPlain (hsigns : ∀ s ∈ signs, s.code < 0x41 ∨ 0x5A < s.code ∧ s.code < 0x80)
    (h : r.isSmallPlain signs = true) : r.code < 0x41 ∨ 0x5A < r.code ∧ r.code < 0x80 := by
  simp only [isSmallPlain, isSmallLetter, isAsciiDigit, Bool.or_eq_true, Bool.and_eq_true, decide_eq_true_eq,
    List.contains_iff_mem] at h
  obtain (h | h) | h := h
  · omega
  · omega
  · exact hsigns r h

lemma asciiLower_eq_self (h : r.code < 0x41 ∨ 0x5A < r.code) : r.asciiLower = r := by
  rw [asciiLower, if_neg (by omega)]

lemma not_hidesDelimiter_of_ascii (h : r.code < 0x80) : r.hidesDelimiter = false := by
  have hbeyond : ∀ n ∈ delimiterLookAlikes, 0x80 ≤ n := by decide
  rw [hidesDelimiter, ← Bool.not_eq_true, List.contains_iff_mem]
  exact fun hmem => absurd (hbeyond _ hmem) (Nat.not_le.mpr h)

end

end Rune

/-- Lower case leaves plain texts as they are. -/
lemma Text.lower_eq_self {t : Text} (h : ∀ r ∈ t, r.code < 0x41 ∨ 0x5A < r.code ∧ r.code < 0x80) :
    t.lower = t := by
  have hascii : t.lower = t.map Rune.asciiLower := lowerFrom_of_ascii false fun r hr => by
    have := h r hr
    omega
  rw [hascii]
  refine (List.map_congr_left fun r hr => Rune.asciiLower_eq_self ?_).trans (List.map_id t)
  have := h r hr
  omega

namespace Url

/-- **A scheme in lower case**: a letter, and then letters, digits and three signs. -/
structure IsScheme (scheme : Text) : Prop where
  /-- It begins with a letter. -/
  letter : ∃ first rest, scheme = first :: rest ∧ first.isSmallLetter = true
  /-- Other characters are letters, digits or signs. -/
  plain : ∀ r ∈ scheme, r.isSmallPlain "+-." = true

/-- **A path that stands in an address as it is**: it begins with a slash unless it is empty, and has nothing
that ends a path or is passed over. -/
structure IsPath (path : Text) : Prop where
  /-- It begins with a slash. -/
  rooted : IsRooted path
  /-- Nothing in it ends it, and nothing is passed over. -/
  kept : ∀ r ∈ path, r ∉ (";?#\t\r\n" : Text)

/-- **Host and port as they are written**: small letters, digits and signs. -/
def IsAuthority (authority : Text) : Prop := ∀ r ∈ authority, r.isSmallPlain ".-_:" = true

/-- A host that is written in small letters, digits and signs. -/
def IsHost (host : Text) : Prop := host ≠ [] ∧ ∀ r ∈ host, r.isSmallPlain ".-_" = true

/-- A port behind a host. -/
def portPart (port : Text) : Text := if port = [] then [] else (':' : Rune) :: port

section

variable {scheme authority path : Text}

lemma IsScheme.lower_eq (h : IsScheme scheme) : scheme.lower = scheme :=
  Text.lower_eq_self fun r hr => Rune.plain_of_isSmallPlain (by decide) (h.plain r hr)

lemma IsScheme.head? (h : IsScheme scheme) : scheme.head?.any Rune.isAsciiLetter = true := by
  obtain ⟨first, rest, rfl, hfirst⟩ := h.letter
  rw [List.head?_cons, Option.any_some, Rune.isAsciiLetter, Bool.or_eq_true]
  exact .inr hfirst

lemma IsScheme.all (h : IsScheme scheme) : scheme.all isSchemeRune = true := by
  rw [List.all_eq_true]
  intro r hr
  have hplain := h.plain r hr
  have hsigns : ∀ s ∈ ("+-." : Text), isSchemeRune s = true := by decide
  simp only [Rune.isSmallPlain, Bool.or_eq_true, List.contains_iff_mem] at hplain
  obtain (hletter | hdigit) | hsign := hplain
  · rw [isSchemeRune, Rune.isAsciiLetter, show (decide (0x61 ≤ r.code) && decide (r.code ≤ 0x7A)) = true
      from hletter]
    simp
  · rw [isSchemeRune, hdigit]
    simp
  · exact hsigns r hsign

lemma IsScheme.notMem (h : IsScheme scheme) {r : Rune} (hr : r.isSmallPlain "+-." = false) : r ∉ scheme :=
  fun hmem => Rune.ne_of_isSmallPlain (h.plain r hmem) hr rfl

lemma IsAuthority.notMem (h : IsAuthority authority) {r : Rune} (hr : r.isSmallPlain ".-_:" = false) :
    r ∉ authority :=
  fun hmem => Rune.ne_of_isSmallPlain (h r hmem) hr rfl

lemma IsPath.notMem (h : IsPath path) {r : Rune} (hr : r ∈ (";?#\t\r\n" : Text)) : r ∉ path :=
  fun hmem => h.kept r hmem hr

/-- The scheme is cut off at the first colon. -/
lemma splitScheme_written (h : IsScheme scheme) (rest : Text) :
    splitScheme (scheme ++ (':' : Rune) :: rest) = (scheme, rest) := by
  obtain ⟨hbefore, hafter⟩ := Text.cut_append (h.notMem (by decide) : (':' : Rune) ∉ scheme) rest
  rw [splitScheme, hbefore, hafter]
  dsimp only
  rw [h.head?, h.all, h.lower_eq]
  rfl

/-- The authority goes up to the path. -/
lemma splitAuthority_written (hauthority : ∀ r ∈ authority, endsAuthority r = false) (h : IsPath path) :
    splitAuthority (('/' : Rune) :: ('/' : Rune) :: (authority ++ path)) = (authority, path) := by
  have hkept : ∀ r ∈ authority, (!endsAuthority r) = true := fun r hr => by rw [hauthority r hr]; rfl
  have hstart : Text.startsWith (('/' : Rune) :: ('/' : Rune) :: (authority ++ path)) "//" = true :=
    List.isPrefixOf_iff_prefix.mpr (List.prefix_append [('/' : Rune), ('/' : Rune)] _)
  have hpath : path.takeWhile (!endsAuthority ·) = [] ∧ path.dropWhile (!endsAuthority ·) = path := by
    obtain rfl | ⟨rest, rfl⟩ := h.rooted
    · exact ⟨rfl, rfl⟩
    · exact ⟨rfl, rfl⟩
  rw [splitAuthority, if_pos hstart]
  show ((authority ++ path).takeWhile _, (authority ++ path).dropWhile _) = _
  rw [List.takeWhile_append_of_pos hkept, List.dropWhile_append_of_pos hkept, hpath.1, hpath.2,
    List.append_nil]

/-- A path without parameters is left as it is. -/
lemma dropParameters_eq_self (h : (';' : Rune) ∉ path) : dropParameters path = path := by
  obtain ⟨front, hfront⟩ := Text.afterLast_suffix ('/' : Rune) path
  have hlast : (';' : Rune) ∉ path.afterLast '/' := fun hmem => h (Text.afterLast_subset _ _ hmem)
  rw [dropParameters, Text.before_of_notMem hlast]
  have hlength : path.length - (path.afterLast '/').length = front.length := by
    conv_lhs => rw [← hfront, List.length_append, hfront]
    omega
  rw [hlength]
  conv_lhs => rw [← hfront, List.take_left' rfl, hfront]
  exact hfront

lemma cleaned_eq_self {source : Text} (hfront : ∀ r, source.head? = some r → isLeadIn r = false)
    (h : ∀ r ∈ source, r ∉ ("\t\r\n" : Text)) : cleaned source = source := by
  have hdrop : source.dropWhile isLeadIn = source := by
    cases source with
    | nil => rfl
    | cons r rest => rw [List.dropWhile_cons_of_neg]; rw [hfront r rfl]; exact Bool.false_ne_true
  rw [cleaned, hdrop, List.filter_eq_self]
  intro r hr
  have hnot := h r hr
  have hmem : ("\t\r\n" : Text) = [('\t' : Rune), '\r', '\n'] := rfl
  rw [hmem] at hnot
  simpa [not_or, and_assoc] using hnot

/-- **An address that is put together is cut into its parts.** -/
theorem cut_written (hscheme : IsScheme scheme) (hauthority : IsAuthority authority) (hpath : IsPath path) :
    cut (scheme ++ "://" ++ authority ++ path) = ⟨scheme, authority, path⟩ := by
  have hshape : scheme ++ "://" ++ authority ++ path =
      scheme ++ (':' : Rune) :: ('/' : Rune) :: ('/' : Rune) :: (authority ++ path) := by
    simp only [List.append_assoc]
    rfl
  have hclean : cleaned (scheme ++ "://" ++ authority ++ path) = scheme ++ "://" ++ authority ++ path := by
    refine cleaned_eq_self ?_ ?_
    · obtain ⟨first, rest, rfl, hfirst⟩ := hscheme.letter
      rintro r ⟨⟩
      simp only [Rune.isSmallLetter, Bool.and_eq_true, decide_eq_true_eq] at hfirst
      exact decide_eq_false (by omega)
    · have hplain : ∀ r ∈ ("\t\r\n" : Text), r.isSmallPlain "+-." = false ∧ r.isSmallPlain ".-_:" = false ∧
          r ∉ ("://" : Text) ∧ r ∈ (";?#\t\r\n" : Text) := by decide
      intro r hr hpassed
      obtain ⟨hinScheme, hinAuthority, hinSigns, hinPath⟩ := hplain r hpassed
      rw [List.mem_append, List.mem_append, List.mem_append] at hr
      obtain ((hr | hr) | hr) | hr := hr
      · exact hscheme.notMem hinScheme hr
      · exact hinSigns hr
      · exact hauthority.notMem hinAuthority hr
      · exact hpath.notMem hinPath hr
  have hends : ∀ r ∈ authority, endsAuthority r = false := by
    intro r hr
    have hne := fun (other : Rune) (hother : other.isSmallPlain ".-_:" = false) =>
      Rune.ne_of_isSmallPlain (hauthority r hr) hother
    rw [endsAuthority, decide_eq_false (hne '/' (by decide)), decide_eq_false (hne '?' (by decide)),
      decide_eq_false (hne '#' (by decide))]
    rfl
  have hlast : (path.before '#').before '?' = path := by
    rw [Text.before_of_notMem (hpath.notMem (by decide)), Text.before_of_notMem (hpath.notMem (by decide))]
  unfold cut
  rw [hclean, hshape, splitScheme_written hscheme]
  dsimp only
  rw [splitAuthority_written hends hpath]
  dsimp only
  rw [hlast, dropParameters_eq_self (hpath.notMem (by decide)), ite_self]

/-- **An address that is put together has its parts.** -/
theorem split?_written (hscheme : IsScheme scheme) (hauthority : IsAuthority authority)
    (hpath : IsPath path) :
    split? (scheme ++ "://" ++ authority ++ path) = some ⟨scheme, authority, path⟩ := by
  have hbrackets : bracketsAgree authority = true := by
    have hopen : ('[' : Rune) ∉ authority := hauthority.notMem (by decide)
    have hclose : (']' : Rune) ∉ authority := hauthority.notMem (by decide)
    rw [← List.contains_iff_mem, Bool.not_eq_true] at hopen hclose
    rw [bracketsAgree, hopen, hclose]
  have hplain : authority.any Rune.hidesDelimiter = false := by
    refine List.any_eq_false.mpr fun r hr => ?_
    have hascii := Rune.plain_of_isSmallPlain (by decide) (hauthority r hr)
    rw [Rune.not_hidesDelimiter_of_ascii (by omega)]
    exact Bool.false_ne_true
  rw [split?_eq, cut_written hscheme hauthority hpath, hbrackets, hplain]
  rfl

end

/-! ## Host and port -/

section

variable {url : Url} {host port : Text}

lemma isAuthority_written (hhost : IsHost host) (hport : ∀ r ∈ port, r.isAsciiDigit = true) :
    IsAuthority (host ++ portPart port) := by
  have hmore : ∀ {r : Rune}, r.isSmallPlain ".-_" = true → r.isSmallPlain ".-_:" = true := by
    intro r hr
    have hsigns : ∀ s ∈ (".-_" : Text), List.contains (".-_:" : Text) s = true := by decide
    simp only [Rune.isSmallPlain, Bool.or_eq_true] at hr ⊢
    exact hr.imp_right fun hsign => hsigns r (List.contains_iff_mem.mp hsign)
  have hdigit : ∀ r ∈ port, r.isSmallPlain ".-_:" = true := fun r hr => by
    rw [Rune.isSmallPlain, hport r hr, Bool.or_true, Bool.true_or]
  rw [portPart]
  refine List.forall_mem_append.mpr ⟨fun r hr => hmore (hhost.2 r hr), ?_⟩
  split_ifs
  · exact List.forall_mem_nil _
  · exact List.forall_mem_cons.mpr ⟨by decide, hdigit⟩

/-- **Host and port are found again** in an authority that is put together. -/
lemma hostAndPort_written (hhost : IsHost host) (hport : ∀ r ∈ port, r.isAsciiDigit = true)
    (h : url.authority = host ++ portPart port) : url.hostAndPort = (host, port) := by
  have hauthority := isAuthority_written hhost hport
  have hcolon : (':' : Rune) ∉ host := fun hmem => Rune.ne_of_isSmallPlain (hhost.2 _ hmem) (by decide) rfl
  have hpart : url.hostPart = host ++ portPart port := by
    rw [hostPart, h, withoutUser, Text.afterLast_of_notMem (hauthority.notMem (by decide))]
  rw [hostAndPort, hpart, Text.after?_of_notMem (hauthority.notMem (by decide))]
  dsimp only
  rw [portPart]
  split_ifs with hempty
  · rw [List.append_nil, Text.before_of_notMem hcolon, Text.after?_of_notMem hcolon, hempty]
    rfl
  · obtain ⟨hbefore, hafter⟩ := Text.cut_append hcolon port
    rw [hbefore, hafter]
    rfl

lemma host?_written (hhost : IsHost host) (h : url.hostAndPort.1 = host) : url.host? = some host := by
  have hzone : ('%' : Rune) ∉ host := fun hmem => Rune.ne_of_isSmallPlain (hhost.2 _ hmem) (by decide) rfl
  have hlower : host.lower = host :=
    Text.lower_eq_self fun r hr => Rune.plain_of_isSmallPlain (by decide) (hhost.2 r hr)
  rw [host?, h, List.isEmpty_eq_false_iff.mpr hhost.1, Text.before_of_notMem hzone]
  show some (host.lower ++ host.drop host.length) = some host
  rw [hlower, List.drop_length, List.append_nil]

lemma port?_written {n : Nat} (hn : n ≤ 65535) (h : url.hostAndPort.2 = Text.ofNat n) :
    url.port? = some (some n) := by
  have hdigits : (Text.ofNat n).all Rune.isAsciiDigit = true := List.all_eq_true.mpr Text.isAsciiDigit_ofNat
  have hread : readNatural (Text.ofNat n).toChars = .ok n := by
    rw [Text.ofNat, Text.toChars_ofChars]
    exact readNatural_toDigits (lt_pow_of_lt (e := 5) (Nat.lt_of_le_of_lt hn (by decide)) (by decide))
  rw [port?, h, List.isEmpty_eq_false_iff.mpr (Text.ofNat_ne_nil n), hdigits]
  simp only [hread, hn, Bool.false_eq_true, if_true, if_false]

end

end Url

end LoadPlan
