import LoadPlan.Proofs.Json.Parts
import LoadPlan.Proofs.Value.Spelling

/-!
# Values in JSON are read back

Compact JSON loses nothing of the values that JSON can say, floating point numbers apart.

* `Value.isPortable` — nothing, truth values, integers, texts, and lists and mappings of these; the
  keys of a mapping are texts, and different ones.
* **`spelled_compact`** — a portable value is written exactly if its integers are not too long.
* `readValue_compact` — a written value is read back, whatever follows it.
* **`decode_compact`** — the whole text of a value is decoded to the value, with its entries in their
  order.
* **`all_isHarmless_compact`** — there is no control character in what is written.
-/

namespace LoadPlan

namespace Value

mutual

/-- **A value that compact JSON carries through.** -/
def isPortable : Value → Bool
  | null | bool _ | int _ => true
  | text t => t.all Rune.isPortable
  | list items => areAllPortable items
  | map entries => areEntriesPortable entries
  | _ => false

def areAllPortable : List Value → Bool
  | [] => true
  | item :: items => item.isPortable && areAllPortable items

/-- Keys are texts, and no key comes twice. -/
def areEntriesPortable : List (Value × Value) → Bool
  | [] => true
  | (.text key, value) :: entries =>
    key.all Rune.isPortable && value.isPortable
      && !entries.any (fun entry => (text key).sameKey entry.1) && areEntriesPortable entries
  | _ => false

end

end Value

namespace Json

open Value

/-! ## Which values are written -/

mutual

/-- **A portable value is written exactly if its integers are not too long.** -/
lemma spelled_compact : ∀ v : Value, v.isPortable = true → Spelled v.isSpellable (compact v)
  | .null, _ | .bool _, _ | .text _, _ => .ok _
  | .int i, _ => spelled_integerText i
  | .list items, h => (spelled_compactItems items h).map
  | .map entries, h => (spelled_compactEntries entries h).map

lemma spelled_compactItems : ∀ items : List Value, areAllPortable items = true →
    Spelled (areSpellable items) (compactItems items)
  | [], _ => .ok []
  | item :: items, h => by
      rw [areAllPortable, Bool.and_eq_true] at h
      exact (spelled_compact item h.1).bind fun _ => (spelled_compactItems items h.2).map

lemma spelled_compactEntries : ∀ entries : List (Value × Value), areEntriesPortable entries = true →
    Spelled (entriesSpellable entries) (compactEntries entries)
  | [], _ => .ok []
  | (.text key, value) :: entries, h => by
      simp only [areEntriesPortable, Bool.and_eq_true] at h
      obtain ⟨⟨⟨-, hvalue⟩, -⟩, hentries⟩ := h
      exact (spelled_compact value hvalue).bind fun _ => (spelled_compactEntries entries hentries).map

end

/-! ## How a value begins and ends -/

/-- **How a value begins**: not with white space, and not with what closes a sequence. -/
def Opens (cs : List Char) : Prop := ∃ c more, cs = c :: more ∧ isSpace c = false ∧ c ≠ ']'

lemma Opens.append {cs : List Char} (h : Opens cs) (rest : List Char) : Opens (cs ++ rest) := by
  obtain ⟨c, more, rfl, hspace, hclose⟩ := h
  exact ⟨c, more ++ rest, rfl, hspace, hclose⟩

lemma Opens.skipSpace {cs : List Char} (h : Opens cs) : skipSpace cs = cs := by
  obtain ⟨c, more, rfl, hspace, -⟩ := h
  simp [Json.skipSpace, hspace]

lemma Opens.length_pos {t : Text} (h : Opens t.toChars) : 0 < t.length := by
  obtain ⟨c, more, hcons, -⟩ := h
  rw [← Text.length_toChars, hcons]
  exact Nat.succ_pos _

/-- An integer begins with a digit or a sign. -/
lemma exists_first_of_ofInt (i : Int) : ∃ c cs, Text.toChars (Text.ofInt i) = c :: cs ∧
    (isAsciiDigit c = true ∨ c = '-') := by
  cases i with
  | ofNat n =>
      obtain ⟨c, cs, hdigits⟩ := List.exists_cons_of_length_pos
        (Nat.length_toDigits_pos : 0 < (Nat.toDigits 10 n).length)
      refine ⟨c, cs, ?_, .inl (isAsciiDigit_of_mem (hdigits ▸ List.mem_cons_self))⟩
      rw [Text.ofInt, Text.ofNat, Text.toChars_ofChars, hdigits]
  | negSucc n => exact ⟨'-', _, rfl, .inr rfl⟩

lemma opens_ofInt (i : Int) : Opens (Text.toChars (Text.ofInt i)) := by
  obtain ⟨c, cs, hchars, hc⟩ := exists_first_of_ofInt i
  refine ⟨c, cs, hchars, ?_, ?_⟩
  · by_contra hspace
    simp only [isSpace, Bool.not_eq_false, Bool.or_eq_true, decide_eq_true_eq] at hspace
    rcases hspace with ((rfl | rfl) | rfl) | rfl <;> revert hc <;> decide
  · rintro rfl
    revert hc
    decide

lemma opens_compact {v : Value} (h : v.isPortable = true) {w : Text} (hw : compact v = .ok w) :
    Opens w.toChars := by
  cases v with
  | null =>
      obtain rfl := Except.ok.inj hw
      exact ⟨'n', _, rfl, rfl, by decide⟩
  | bool b =>
      obtain rfl := Except.ok.inj hw
      cases b with
      | true => exact ⟨'t', _, rfl, rfl, by decide⟩
      | false => exact ⟨'f', _, rfl, rfl, by decide⟩
  | int i =>
      rw [compact] at hw
      rw [(integerText_eq_ok_iff.mp hw).2]
      exact opens_ofInt i
  | text t =>
      obtain rfl := Except.ok.inj hw
      exact ⟨'"', _, rfl, rfl, by decide⟩
  | list items =>
      obtain ⟨ws, -, hw⟩ := exists_of_except_bind hw
      obtain rfl := Except.ok.inj hw
      exact ⟨'[', _, rfl, rfl, by decide⟩
  | map entries =>
      obtain ⟨ws, -, hw⟩ := exists_of_except_bind hw
      obtain rfl := Except.ok.inj hw
      exact ⟨'\x7b', _, rfl, rfl, by decide⟩
  | _ => cases h

lemma closes_cons {c : Char} (h : c = ',' ∨ c = ']' ∨ c = '\x7d') (cs : List Char) :
    Closes (c :: cs) := by
  rintro d hd
  obtain rfl := Option.some.inj hd
  exact h

/-! ## Values are read back -/

/-- What begins with a digit or a sign is a number. -/
lemma readValue_of_first {c : Char} (hc : isAsciiDigit c = true ∨ c = '-') (steps : Nat)
    (cs : List Char) : readValue (steps + 1) (c :: cs) = readNumber (c :: cs) := by
  unfold readValue
  split
  all_goals first
    | rfl
    | rename_i heq
      cases heq
      exact absurd hc (by decide)
    | rename_i heq
      cases heq

section

variable {steps : Nat} {cs rest : List Char}

lemma toChars_quote (t : Text) (rest : List Char) :
    Text.toChars (quote t) ++ rest = '"' :: (Text.toChars (t.flatMap quoteRune) ++ '"' :: rest) := by
  simp [quote]

lemma readValue_quote {t : Text} (h : t.all Rune.isPortable = true) :
    readValue (steps + 1) (Text.toChars (quote t) ++ rest) = .ok (.text t, rest) := by
  rw [toChars_quote, readValue, readText_quote h]
  rfl

/-- A list whose first item is known to be there is read by its items. -/
lemma readValue_list (h : Opens cs) :
    readValue (steps + 1) ('[' :: cs) =
      (readItems steps cs).map fun (items, left) => (.list items, left) := by
  rw [readValue, h.skipSpace]
  obtain ⟨c, more, rfl, -, hclose⟩ := h
  split
  · rename_i heq
    exact absurd (List.cons.inj heq).1 hclose
  · rfl

/-- A mapping whose first key is known to be there is read by its members. -/
lemma readValue_map (cs : List Char) :
    readValue (steps + 1) ('\x7b' :: '"' :: cs) =
      (readMembers steps ('"' :: cs)).map fun (members, left) =>
        (.map (Entries.ofPairs members), left) := by
  rw [readValue]
  rfl

lemma readItems_last {item : Value} (h : readValue steps cs = .ok (item, ']' :: rest)) :
    readItems (steps + 1) cs = .ok ([item], rest) := by
  rw [readItems, h]
  rfl

lemma readItems_comma {item : Value} {items : List Value} {more : List Char}
    (h : readValue steps cs = .ok (item, ',' :: more)) (hopens : Opens more)
    (hmore : readItems steps more = .ok (items, rest)) :
    readItems (steps + 1) cs = .ok (item :: items, rest) := by
  rw [readItems, h]
  show (readItems steps (skipSpace more) >>= fun found => pure (item :: found.1, found.2)) = _
  rw [hopens.skipSpace, hmore]
  rfl

/-- The key of a member and the colon after it are passed over. -/
lemma readMembers_key {key : Text} (hkey : key.all Rune.isPortable = true) {value : Value}
    {left : List Char} (hopens : Opens cs) (h : readValue steps cs = .ok (value, left)) :
    readMembers (steps + 1) (Text.toChars (quote key) ++ ':' :: cs) =
      (do
        match skipSpace left with
        | '\x7d' :: rest => return ([(.text key, value)], rest)
        | ',' :: more =>
          let (members, rest) ← readMembers steps (skipSpace more)
          return ((.text key, value) :: members, rest)
        | _ => throw .malformed) := by
  rw [toChars_quote, readMembers, readText_quote hkey]
  show (readValue steps (skipSpace cs) >>= _) = _
  rw [hopens.skipSpace, h]
  rfl

end

/-! ## Keys in their order -/

lemma insert_of_not_any {entries : Entries} {key value : Value}
    (h : entries.any (fun entry => entry.1.sameKey key) = false) :
    Entries.insert key value entries = entries ++ [(key, value)] := by
  induction entries with
  | nil => rfl
  | cons entry entries ih =>
      obtain ⟨k, v⟩ := entry
      rw [List.any_cons, Bool.or_eq_false_iff] at h
      simp [Entries.insert, h.1, ih h.2]

/-- Entries with different keys that are put one after another stand in their order. -/
lemma foldl_insert_of_portable : ∀ {entries : Entries}, areEntriesPortable entries = true →
    ∀ {start : Entries}, (∀ entry ∈ start, ∀ later ∈ entries, entry.1.sameKey later.1 = false) →
      entries.foldl (fun found entry => Entries.insert entry.1 entry.2 found) start =
        start ++ entries
  | [], _, start, _ => by simp
  | (.text key, value) :: entries, h, start, hstart => by
      simp only [areEntriesPortable, Bool.and_eq_true, Bool.not_eq_true'] at h
      obtain ⟨⟨-, hfresh⟩, hentries⟩ := h
      have hnone : start.any (fun entry => entry.1.sameKey (.text key)) = false := by
        rw [List.any_eq_false]
        intro entry hentry
        simp [hstart entry hentry (.text key, value) List.mem_cons_self]
      have hmore : ∀ entry ∈ start ++ [(.text key, value)], ∀ later ∈ entries,
          entry.1.sameKey later.1 = false := by
        intro entry hentry later hlater
        rcases List.mem_append.mp hentry with hentry | hentry
        · exact hstart entry hentry later (List.mem_cons_of_mem _ hlater)
        · obtain rfl := List.mem_singleton.mp hentry
          simpa using List.any_eq_false.mp hfresh later hlater
      rw [List.foldl_cons, insert_of_not_any hnone, foldl_insert_of_portable hentries hmore,
        List.append_assoc]
      rfl

lemma ofPairs_of_portable {entries : Entries} (h : areEntriesPortable entries = true) :
    Entries.ofPairs entries = entries :=
  foldl_insert_of_portable h fun _ hentry => absurd hentry List.not_mem_nil

/-! ## Items and members -/

/-- Items are written one by one. -/
lemma exists_of_compactItems {item : Value} {items : List Value} {ws : List Text}
    (h : compactItems (item :: items) = .ok ws) :
    ∃ w more, compact item = .ok w ∧ compactItems items = .ok more ∧ ws = w :: more := by
  obtain ⟨w, hw, h⟩ := exists_of_except_bind h
  obtain ⟨more, hmore, h⟩ := exists_of_except_bind h
  exact ⟨w, more, hw, hmore, (Except.ok.inj h).symm⟩

lemma exists_of_compactEntries {key : Text} {value : Value} {entries : List (Value × Value)}
    {ws : List Text} (h : compactEntries ((.text key, value) :: entries) = .ok ws) :
    ∃ w more, compact value = .ok w ∧ compactEntries entries = .ok more ∧
      ws = (quote key ++ ":" ++ w) :: more := by
  obtain ⟨t, hkey, h⟩ := exists_of_except_bind h
  obtain rfl := Except.ok.inj hkey
  obtain ⟨w, hw, h⟩ := exists_of_except_bind h
  obtain ⟨more, hmore, h⟩ := exists_of_except_bind h
  exact ⟨w, more, hw, hmore, (Except.ok.inj h).symm⟩

lemma exists_cons_of_compactEntries {entry : Value × Value} {entries : List (Value × Value)}
    {ws : List Text} (h : compactEntries (entry :: entries) = .ok ws) :
    ∃ w more, ws = w :: more := by
  obtain ⟨t, -, h⟩ := exists_of_except_bind h
  obtain ⟨w, -, h⟩ := exists_of_except_bind h
  obtain ⟨more, -, h⟩ := exists_of_except_bind h
  exact ⟨_, more, (Except.ok.inj h).symm⟩

lemma skipSpace_mark (cs : List Char) : skipSpace ('"' :: cs) = '"' :: cs := rfl

/-- The first member begins with the mark of its key. -/
lemma exists_of_members {entry : Value × Value} {entries : List (Value × Value)} {ws : List Text}
    (h : areEntriesPortable (entry :: entries) = true)
    (hws : compactEntries (entry :: entries) = .ok ws) :
    ∃ cs, Text.toChars (Text.join "," ws) = '"' :: cs := by
  obtain ⟨key, value⟩ := entry
  cases key with
  | text key =>
      obtain ⟨w, more, -, -, rfl⟩ := exists_of_compactEntries hws
      cases more with
      | nil => exact ⟨_, rfl⟩
      | cons next more => exact ⟨_, rfl⟩
  | _ => cases h

/-- Brackets and braces are two code points more. -/
lemma length_between {opening closing : Text} (ho : opening.length = 1) (hc : closing.length = 1)
    (t : Text) : List.length (opening ++ t ++ closing) = t.length + 2 := by
  rw [List.length_append, List.length_append, ho, hc]
  omega

lemma opens_join {w : Text} (h : Opens w.toChars) (ws : List Text) :
    Opens (Text.toChars (Text.join "," (w :: ws))) := by
  cases ws with
  | nil => exact h
  | cons next ws =>
      rw [Text.join, Text.toChars_append, Text.toChars_append, List.append_assoc]
      exact h.append _

mutual

/-- **A written value is read back**, whatever follows it. -/
theorem readValue_compact : ∀ v : Value, v.isPortable = true → ∀ w : Text, compact v = .ok w →
    ∀ (steps : Nat) (rest : List Char), w.length ≤ steps → Closes rest →
      readValue steps (w.toChars ++ rest) = .ok (v, rest)
  | .null, _ => by
      intro w hw steps rest hsteps _
      obtain rfl := Except.ok.inj hw
      obtain ⟨steps, rfl⟩ := Nat.exists_eq_add_of_le' hsteps
      rfl
  | .bool b, _ => by
      intro w hw steps rest hsteps _
      obtain rfl := Except.ok.inj hw
      cases b with
      | true =>
          obtain ⟨steps, rfl⟩ := Nat.exists_eq_add_of_le' hsteps
          rfl
      | false =>
          obtain ⟨steps, rfl⟩ := Nat.exists_eq_add_of_le' hsteps
          rfl
  | .int i, h => by
      intro w hw steps rest hsteps hrest
      have hpos := (opens_compact h hw).length_pos
      rw [compact] at hw
      obtain ⟨hlt, rfl⟩ := integerText_eq_ok_iff.mp hw
      obtain ⟨steps, rfl⟩ := Nat.exists_eq_succ_of_ne_zero (n := steps) (by omega)
      obtain ⟨c, cs, hchars, hc⟩ := exists_first_of_ofInt i
      have hread := readNumber_ofInt hlt hrest
      rw [hchars] at hread ⊢
      rw [← hread]
      exact readValue_of_first hc steps _
  | .text t, h => by
      intro w hw steps rest hsteps _
      have hpos := (opens_compact h hw).length_pos
      obtain rfl := Except.ok.inj hw
      obtain ⟨steps, rfl⟩ := Nat.exists_eq_succ_of_ne_zero (n := steps) (by omega)
      exact readValue_quote h
  | .list [], h => by
      intro w hw steps rest hsteps _
      obtain rfl := Except.ok.inj hw
      obtain ⟨steps, rfl⟩ := Nat.exists_eq_add_of_le' hsteps
      rfl
  | .list (item :: items), h => by
      intro w hw steps rest hsteps _
      obtain ⟨ws, hws, hw⟩ := exists_of_except_bind hw
      obtain rfl := Except.ok.inj hw
      rw [length_between rfl rfl] at hsteps
      obtain ⟨steps, rfl⟩ := Nat.exists_eq_succ_of_ne_zero (n := steps) (by omega)
      have hread := readItems_compact (item :: items) (List.cons_ne_nil _ _) h ws hws steps rest
        (by omega)
      obtain ⟨first, more, hfirst, -, rfl⟩ := exists_of_compactItems hws
      rw [isPortable, areAllPortable, Bool.and_eq_true] at h
      have hopens := opens_join (opens_compact h.1 hfirst) more
      have hchars : Text.toChars ("[" ++ Text.join "," (first :: more) ++ "]") ++ rest =
          '[' :: (Text.toChars (Text.join "," (first :: more)) ++ ']' :: rest) := by simp
      rw [hchars, readValue_list (hopens.append _), hread]
      rfl
  | .map [], h => by
      intro w hw steps rest hsteps _
      obtain rfl := Except.ok.inj hw
      obtain ⟨steps, rfl⟩ := Nat.exists_eq_add_of_le' hsteps
      rfl
  | .map (entry :: entries), h => by
      intro w hw steps rest hsteps _
      obtain ⟨ws, hws, hw⟩ := exists_of_except_bind hw
      obtain rfl := Except.ok.inj hw
      rw [length_between rfl rfl] at hsteps
      obtain ⟨steps, rfl⟩ := Nat.exists_eq_succ_of_ne_zero (n := steps) (by omega)
      have hread := readMembers_compact (entry :: entries) (List.cons_ne_nil _ _) h ws hws steps
        rest (by omega)
      have hchars : Text.toChars ("\x7b" ++ Text.join "," ws ++ "\x7d") ++ rest =
          '\x7b' :: (Text.toChars (Text.join "," ws) ++ '\x7d' :: rest) := by simp
      obtain ⟨cs, hcs⟩ := exists_of_members h hws
      rw [hchars]
      rw [hcs, List.cons_append] at hread ⊢
      rw [readValue_map, hread]
      show Except.ok (Value.map (Entries.ofPairs (entry :: entries)), rest) = _
      rw [ofPairs_of_portable h]

/-- **Written items are read back.** -/
theorem readItems_compact : ∀ items : List Value, items ≠ [] → areAllPortable items = true →
    ∀ ws : List Text, compactItems items = .ok ws → ∀ (steps : Nat) (rest : List Char),
      (Text.join "," ws).length < steps →
        readItems steps (Text.toChars (Text.join "," ws) ++ ']' :: rest) = .ok (items, rest)
  | [], hne, _ => absurd rfl hne
  | [item], _, h => by
      intro ws hws steps rest hsteps
      obtain ⟨w, more, hw, hmore, rfl⟩ := exists_of_compactItems hws
      obtain rfl := Except.ok.inj hmore
      rw [areAllPortable, Bool.and_eq_true] at h
      rw [Text.join] at hsteps ⊢
      obtain ⟨steps, rfl⟩ := Nat.exists_eq_succ_of_ne_zero (n := steps) (by omega)
      exact readItems_last (readValue_compact item h.1 w hw steps _ (by omega)
        (closes_cons (.inr (.inl rfl)) rest))
  | item :: next :: items, _, h => by
      intro ws hws steps rest hsteps
      obtain ⟨w, more, hw, hmore, rfl⟩ := exists_of_compactItems hws
      have hnext := exists_of_compactItems hmore
      rw [areAllPortable, Bool.and_eq_true] at h
      obtain ⟨second, others, hsecond, -, rfl⟩ := hnext
      have hopens := opens_join (opens_compact (Bool.and_eq_true_iff.mp h.2).1 hsecond) others
      rw [Text.join] at hsteps ⊢
      simp only [List.length_append, Text.length_ofString, show ",".length = 1 from rfl] at hsteps
      obtain ⟨steps, rfl⟩ := Nat.exists_eq_succ_of_ne_zero (n := steps) (by omega)
      have hmore := readItems_compact (next :: items) (List.cons_ne_nil _ _) h.2 _ hmore steps
        rest (by omega)
      have hread := readValue_compact item h.1 w hw steps
        (',' :: (Text.toChars (Text.join "," (second :: others)) ++ ']' :: rest)) (by omega)
        (closes_cons (.inl rfl) _)
      have hchars : Text.toChars (w ++ "," ++ Text.join "," (second :: others)) ++ ']' :: rest =
          w.toChars ++ ',' :: (Text.toChars (Text.join "," (second :: others)) ++ ']' :: rest) := by
        simp
      rw [hchars]
      exact readItems_comma hread (hopens.append _) hmore

/-- **Written members are read back.** -/
theorem readMembers_compact : ∀ entries : List (Value × Value), entries ≠ [] →
    areEntriesPortable entries = true → ∀ ws : List Text, compactEntries entries = .ok ws →
      ∀ (steps : Nat) (rest : List Char), (Text.join "," ws).length < steps →
        readMembers steps (Text.toChars (Text.join "," ws) ++ '\x7d' :: rest) =
          .ok (entries, rest)
  | [], hne, _ => absurd rfl hne
  | [(.text key, value)], _, h => by
      intro ws hws steps rest hsteps
      obtain ⟨w, more, hw, hmore, rfl⟩ := exists_of_compactEntries hws
      obtain rfl := Except.ok.inj hmore
      simp only [areEntriesPortable, Bool.and_eq_true] at h
      obtain ⟨⟨⟨hkey, hvalue⟩, -⟩, -⟩ := h
      rw [Text.join] at hsteps ⊢
      simp at hsteps
      obtain ⟨steps, rfl⟩ := Nat.exists_eq_succ_of_ne_zero (n := steps) (by omega)
      have hread := readValue_compact value hvalue w hw steps ('\x7d' :: rest) (by omega)
        (closes_cons (.inr (.inr rfl)) rest)
      have hchars : Text.toChars (quote key ++ ":" ++ w) ++ '\x7d' :: rest =
          Text.toChars (quote key) ++ ':' :: (w.toChars ++ '\x7d' :: rest) := by simp
      rw [hchars, readMembers_key hkey ((opens_compact hvalue hw).append _) hread]
      rfl
  | (.text key, value) :: next :: entries, _, h => by
      intro ws hws steps rest hsteps
      obtain ⟨w, more, hw, hmore, rfl⟩ := exists_of_compactEntries hws
      rw [areEntriesPortable, Bool.and_eq_true, Bool.and_eq_true, Bool.and_eq_true] at h
      obtain ⟨⟨⟨hkey, hvalue⟩, -⟩, hentries⟩ := h
      obtain ⟨second, others, rfl⟩ := exists_cons_of_compactEntries hmore
      obtain ⟨cs, hcs⟩ := exists_of_members hentries hmore
      rw [Text.join] at hsteps ⊢
      simp only [List.length_append, Text.length_ofString, show ",".length = 1 from rfl] at hsteps
      obtain ⟨steps, rfl⟩ := Nat.exists_eq_succ_of_ne_zero (n := steps) (by omega)
      have hrest := readMembers_compact (next :: entries) (List.cons_ne_nil _ _) hentries _ hmore
        steps rest (by omega)
      have hread := readValue_compact value hvalue w hw steps
        (',' :: (Text.toChars (Text.join "," (second :: others)) ++ '\x7d' :: rest)) (by omega)
        (closes_cons (.inl rfl) _)
      have hchars : Text.toChars (quote key ++ ":" ++ w ++ "," ++ Text.join "," (second :: others))
          ++ '\x7d' :: rest = Text.toChars (quote key) ++ ':' :: (w.toChars ++
            ',' :: (Text.toChars (Text.join "," (second :: others)) ++ '\x7d' :: rest)) := by
        simp
      rw [hchars, readMembers_key hkey ((opens_compact hvalue hw).append _) hread]
      show (readMembers steps (skipSpace _) >>= _) = _
      rw [hcs] at hrest ⊢
      rw [List.cons_append, skipSpace_mark, ← List.cons_append, hrest]
      rfl

end

/-- **The whole text of a value is decoded to the value.** -/
theorem decode_compact {v : Value} (h : v.isPortable = true) {w : Text} (hw : compact v = .ok w) :
    decode w.toChars = .ok v := by
  have hopens := opens_compact h hw
  have hread := readValue_compact v h w hw (w.toChars.length + 1) []
    (by rw [Text.length_toChars]; omega) (fun _ hc => absurd hc (by simp))
  rw [List.append_nil] at hread
  rw [decode, readDocument, hopens.skipSpace, hread]
  rfl

/-! ## Characters -/

lemma isHarmless_of_isAsciiDigit {c : Char} (h : isAsciiDigit c = true) :
    (Rune.ofChar c).isHarmless = true := by
  simp only [isAsciiDigit, Bool.and_eq_true, decide_eq_true_eq] at h
  have hlow : 48 ≤ (Rune.ofChar c).code := h.1
  have hhigh : (Rune.ofChar c).code ≤ 57 := h.2
  simp [Rune.isHarmless, Rune.isPortable, Rune.isSurrogate]
  omega

lemma all_isHarmless_ofNat (n : Nat) : (Text.ofNat n).all Rune.isHarmless = true := by
  rw [Text.ofNat, Text.ofChars, List.all_map, List.all_eq_true]
  exact fun c hc => isHarmless_of_isAsciiDigit (isAsciiDigit_of_mem hc)

lemma all_isHarmless_ofInt : ∀ i : Int, (Text.ofInt i).all Rune.isHarmless = true
  | .ofNat n => all_isHarmless_ofNat n
  | .negSucc n => by
      rw [Text.ofInt, List.all_cons, all_isHarmless_ofNat]
      rfl

lemma all_isHarmless_shortForm {r : Rune} {escape : Text} (h : shortForm? r = some escape) :
    escape.all Rune.isHarmless = true := by
  unfold shortForm? at h
  split_ifs at h
  all_goals
    obtain rfl := Option.some.inj h
    decide

/-- Control characters are hidden in escapes. -/
lemma all_isHarmless_quoteRune {r : Rune} (h : r.isPortable = true) :
    (quoteRune r).all Rune.isHarmless = true := by
  unfold quoteRune
  cases hform : shortForm? r with
  | some escape => exact all_isHarmless_shortForm hform
  | none =>
      by_cases hcode : r.code < 0x20
      · simp only [hcode, if_true]
        generalize r.code = n at hcode
        interval_cases n <;> decide
      · simp [hcode, Rune.isHarmless, h]
        omega

lemma all_isHarmless_quote {t : Text} (h : t.all Rune.isPortable = true) :
    (quote t).all Rune.isHarmless = true := by
  have hinside : (t.flatMap quoteRune).all Rune.isHarmless = true := by
    rw [List.all_flatMap, List.all_eq_true]
    exact fun r hr => all_isHarmless_quoteRune (List.all_eq_true.mp h r hr)
  rw [quote, List.all_append, List.all_append, hinside]
  decide

lemma all_isHarmless_join : ∀ {ws : List Text}, (∀ w ∈ ws, w.all Rune.isHarmless = true) →
    (Text.join "," ws).all Rune.isHarmless = true
  | [], _ => rfl
  | [w], h => h w List.mem_cons_self
  | w :: next :: ws, h => by
      have hrest := all_isHarmless_join fun other hother => h other (List.mem_cons_of_mem w hother)
      rw [Text.join, List.all_append, List.all_append, hrest, h w List.mem_cons_self]
      decide

mutual

/-- **What is written for a portable value holds no control characters** and nothing that cannot
stand in a document. -/
theorem all_isHarmless_compact : ∀ v : Value, v.isPortable = true → ∀ w : Text,
    compact v = .ok w → w.all Rune.isHarmless = true
  | .null, _ => by
      intro w hw
      obtain rfl := Except.ok.inj hw
      decide
  | .bool b, _ => by
      intro w hw
      obtain rfl := Except.ok.inj hw
      cases b <;> decide
  | .int i, _ => by
      intro w hw
      rw [compact] at hw
      obtain ⟨-, rfl⟩ := integerText_eq_ok_iff.mp hw
      exact all_isHarmless_ofInt i
  | .text t, h => by
      intro w hw
      obtain rfl := Except.ok.inj hw
      exact all_isHarmless_quote h
  | .list items, h => by
      intro w hw
      obtain ⟨ws, hws, hw⟩ := exists_of_except_bind hw
      obtain rfl := Except.ok.inj hw
      have hinside := all_isHarmless_join (all_isHarmless_compactItems items h ws hws)
      rw [List.all_append, List.all_append, hinside]
      decide
  | .map entries, h => by
      intro w hw
      obtain ⟨ws, hws, hw⟩ := exists_of_except_bind hw
      obtain rfl := Except.ok.inj hw
      have hinside := all_isHarmless_join (all_isHarmless_compactEntries entries h ws hws)
      rw [List.all_append, List.all_append, hinside]
      decide

theorem all_isHarmless_compactItems : ∀ items : List Value, areAllPortable items = true →
    ∀ ws : List Text, compactItems items = .ok ws → ∀ w ∈ ws, w.all Rune.isHarmless = true
  | [], _ => by
      intro ws hws w hw
      obtain rfl := Except.ok.inj hws
      cases hw
  | item :: items, h => by
      intro ws hws
      obtain ⟨first, more, hfirst, hmore, rfl⟩ := exists_of_compactItems hws
      rw [areAllPortable, Bool.and_eq_true] at h
      rw [List.forall_mem_cons]
      exact ⟨all_isHarmless_compact item h.1 first hfirst,
        all_isHarmless_compactItems items h.2 more hmore⟩

theorem all_isHarmless_compactEntries : ∀ entries : List (Value × Value),
    areEntriesPortable entries = true → ∀ ws : List Text, compactEntries entries = .ok ws →
      ∀ w ∈ ws, w.all Rune.isHarmless = true
  | [], _ => by
      intro ws hws w hw
      obtain rfl := Except.ok.inj hws
      cases hw
  | (.text key, value) :: entries, h => by
      intro ws hws
      obtain ⟨first, more, hfirst, hmore, rfl⟩ := exists_of_compactEntries hws
      rw [areEntriesPortable, Bool.and_eq_true, Bool.and_eq_true, Bool.and_eq_true] at h
      obtain ⟨⟨⟨hkey, hvalue⟩, -⟩, hentries⟩ := h
      rw [List.forall_mem_cons]
      refine ⟨?_, all_isHarmless_compactEntries entries hentries more hmore⟩
      rw [List.all_append, List.all_append, all_isHarmless_quote hkey,
        all_isHarmless_compact value hvalue first hfirst]
      decide

end

end Json

end LoadPlan
