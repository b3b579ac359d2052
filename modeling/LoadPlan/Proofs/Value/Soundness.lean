import LoadPlan.Json.Writer
import LoadPlan.Proofs.Outcome
import LoadPlan.Proofs.Plan.Typed
import LoadPlan.Proofs.Value.Spelling
import LoadPlan.Schema.Resolution
import LoadPlan.Schema.Sample

/-!
# Sound documents

Which documents can be compiled, whatever else they hold.  A value in a document is used by the key it
stands under, and some keys do not take every value: what a schema proposes has to have a form in JSON,
a bound has to be a number that both kinds of numbers can be compared with, a reference must not ask
for a position that has no value, and security schemes have texts for names.

* `Value.isEncodable` — values with a form in JSON, once their dates and times are texts.
* **`spelled_compact_jsonSafe`** — such a value is written exactly if its integers are not too long.
* `Value.IsSendable` — values that can be sent.
* `Value.suits` — the values that can stand under a key.
* `Value.IsSound` — values in which everything is where it can be, and not too much of it.
* `IsSound.get?`, `IsSound.of_mem` — parts of sound values are sound.
-/

namespace LoadPlan

namespace Value

/-! ## Values with a form in JSON -/

mutual

/-- **Whether a value can be sent**, as JSON or as the fields of a form, once its dates and times are
texts.  Keys have to be texts, since they name the fields. -/
def isEncodable : Value → Bool
  | bytes _ | set _ => false
  | list items => areEncodable items
  | tuple items => areEncodable items
  | map entries => entriesEncodable entries
  | _ => true

def areEncodable : List Value → Bool
  | [] => true
  | item :: items => item.isEncodable && areEncodable items

def entriesEncodable : List (Value × Value) → Bool
  | [] => true
  | (key, value) :: entries => key.isText && (value.isEncodable && entriesEncodable entries)

end

mutual

/-- **A value with a form in JSON is written exactly if its integers are not too long.** -/
lemma spelled_compact_jsonSafe : ∀ v : Value, v.isEncodable = true →
    Spelled v.isSpellable (Json.compact v.jsonSafe)
  | null, _ | bool _, _ | float _, _ | text _, _ | date _, _ | moment _, _ | clock _, _ => .ok _
  | int i, _ => spelled_integerText i
  | list items, h => (spelled_compactItems_jsonSafe items h).map
  | tuple items, h => (spelled_compactItems_jsonSafe items h).map
  | map entries, h => (spelled_compactEntries_jsonSafe entries h).map

lemma spelled_compactItems_jsonSafe : ∀ items : List Value, areEncodable items = true →
    Spelled (areSpellable items) (Json.compactItems (itemsJsonSafe items))
  | [], _ => .ok []
  | item :: items, h => by
      rw [areEncodable, Bool.and_eq_true] at h
      exact (spelled_compact_jsonSafe item h.1).bind fun _ =>
        (spelled_compactItems_jsonSafe items h.2).map

lemma spelled_compactEntries_jsonSafe : ∀ entries : List (Value × Value),
    entriesEncodable entries = true →
      Spelled (entriesSpellable entries) (Json.compactEntries (entriesJsonSafe entries))
  | [], _ => .ok []
  | (text key, value) :: entries, h => by
      rw [entriesEncodable, Bool.and_eq_true, Bool.and_eq_true] at h
      exact (spelled_compact_jsonSafe value h.2.1).bind fun _ =>
        (spelled_compactEntries_jsonSafe entries h.2.2).map

end

mutual

lemma jsonSafe_jsonSafe : ∀ v : Value, v.jsonSafe.jsonSafe = v.jsonSafe
  | null | bool _ | int _ | float _ | text _ | date _ | moment _ | clock _ | bytes _ | set _ => rfl
  | list items => congrArg list (itemsJsonSafe_itemsJsonSafe items)
  | tuple items => congrArg list (itemsJsonSafe_itemsJsonSafe items)
  | map entries => congrArg map (entriesJsonSafe_entriesJsonSafe entries)

lemma itemsJsonSafe_itemsJsonSafe : ∀ items : List Value,
    itemsJsonSafe (itemsJsonSafe items) = itemsJsonSafe items
  | [] => rfl
  | item :: items => by
      rw [itemsJsonSafe, itemsJsonSafe, jsonSafe_jsonSafe item, itemsJsonSafe_itemsJsonSafe items]

lemma entriesJsonSafe_entriesJsonSafe : ∀ entries : List (Value × Value),
    entriesJsonSafe (entriesJsonSafe entries) = entriesJsonSafe entries
  | [] => rfl
  | (key, value) :: entries => by
      rw [entriesJsonSafe, entriesJsonSafe, jsonSafe_jsonSafe value,
        entriesJsonSafe_entriesJsonSafe entries]

end

mutual

lemma isEncodable_jsonSafe : ∀ v : Value, v.jsonSafe.isEncodable = v.isEncodable
  | null | bool _ | int _ | float _ | text _ | date _ | moment _ | clock _ | bytes _ | set _ => rfl
  | list items => areEncodable_jsonSafe items
  | tuple items => areEncodable_jsonSafe items
  | map entries => entriesEncodable_jsonSafe entries

lemma areEncodable_jsonSafe : ∀ items : List Value,
    areEncodable (itemsJsonSafe items) = areEncodable items
  | [] => rfl
  | item :: items => by
      rw [itemsJsonSafe, areEncodable, areEncodable, isEncodable_jsonSafe item,
        areEncodable_jsonSafe items]

lemma entriesEncodable_jsonSafe : ∀ entries : List (Value × Value),
    entriesEncodable (entriesJsonSafe entries) = entriesEncodable entries
  | [] => rfl
  | (key, value) :: entries => by
      rw [entriesJsonSafe, entriesEncodable, entriesEncodable, isEncodable_jsonSafe value,
        entriesEncodable_jsonSafe entries]

end

mutual

lemma isSpellable_jsonSafe : ∀ v : Value, v.jsonSafe.isSpellable = v.isSpellable
  | null | bool _ | int _ | float _ | text _ | date _ | moment _ | clock _ | bytes _ | set _ => rfl
  | list items => areSpellable_jsonSafe items
  | tuple items => areSpellable_jsonSafe items
  | map entries => entriesSpellable_jsonSafe entries

lemma areSpellable_jsonSafe : ∀ items : List Value,
    areSpellable (itemsJsonSafe items) = areSpellable items
  | [] => rfl
  | item :: items => by
      rw [itemsJsonSafe, areSpellable, areSpellable, isSpellable_jsonSafe item,
        areSpellable_jsonSafe items]

lemma entriesSpellable_jsonSafe : ∀ entries : List (Value × Value),
    entriesSpellable (entriesJsonSafe entries) = entriesSpellable entries
  | [] => rfl
  | (key, value) :: entries => by
      rw [entriesJsonSafe, entriesSpellable, entriesSpellable, isSpellable_jsonSafe value,
        entriesSpellable_jsonSafe entries]

end

/-- **A value that can be written**: JSON has a form for it, and its integers are not too long. -/
structure IsSendable (v : Value) : Prop where
  /-- JSON has a form for it. -/
  encodable : v.isEncodable = true
  /-- Its integers are not too long. -/
  spellable : v.isSpellable = true

lemma IsSendable.jsonSafe {v : Value} (h : v.IsSendable) : v.jsonSafe.IsSendable :=
  ⟨(isEncodable_jsonSafe v).trans h.encodable, (isSpellable_jsonSafe v).trans h.spellable⟩

lemma IsSendable.yields {v : Value} (h : v.IsSendable) :
    Yields (fun _ => True) (Json.compact v.jsonSafe) :=
  .of_exists ((spelled_compact_jsonSafe v h.encodable).exists_of_true h.spellable)

end Value

/-! ## Keys and the values under them -/

/-- **Whether a number is one of those that the format has.** -/
def Double.isRegular : Double → Bool
  | .finite _ significand exponent => significand < Nat.pow 2 53 && exponent ≤ 971
  | _ => false

/-- **Whether a number can be a bound**: it is finite, and if it is an integer it is not too long and there
is a floating point number near it. -/
def Numeric.isBound : Numeric → Bool
  | .int i => (Value.int i).isSpellable && (Double.ofInt? i).isSome
  | .float x => x.isRegular

/-- **Whether all positions in a reference have values.** -/
def Pointer.isSound (reference : Text) : Bool :=
  ((tokens? reference).getD []).all fun token =>
    !token.isDigits || (readInteger? 10 token.toChars).isSome

namespace Value

def isSoundReference : Value → Bool
  | text reference => Pointer.isSound reference
  | _ => true

/-- Truth values are no bounds, and do not matter where one is expected. -/
def isSoundBound : Value → Bool
  | int i => (Numeric.int i).isBound
  | float x => (Numeric.float x).isBound
  | _ => true

/-- Whether all keys of a mapping are texts. -/
def hasTextKeys : Value → Bool
  | map entries => entries.all fun (key, _) => key.isText
  | _ => true

/-- The keys that a schema or a parameter proposes values under. -/
def proposalKeys : List Text := ["example", "examples", "enum", "default"]

/-- The keys that security schemes stand under. -/
def schemeKeys : List Text := ["securitySchemes", "securityDefinitions"]

/-- **Whether a value can stand under a key.** -/
def suits (key : Text) (value : Value) : Bool :=
  if key = "$ref" then value.isSoundReference
  else if key = "minimum" ∨ key = "maximum" then value.isSoundBound
  else if proposalKeys.contains key then value.isEncodable
  else if schemeKeys.contains key then value.hasTextKeys
  else true

mutual

/-- **Whether all values in a document suit their keys.**  Nothing is looked up in tuples and sets. -/
def isSuitable : Value → Bool
  | list items => areSuitable items
  | map entries => entriesSuitable entries
  | _ => true

def areSuitable : List Value → Bool
  | [] => true
  | item :: items => item.isSuitable && areSuitable items

def entriesSuitable : List (Value × Value) → Bool
  | [] => true
  | (text key, value) :: entries =>
    value.suits key && (value.isSuitable && entriesSuitable entries)
  | (_, value) :: entries => value.isSuitable && entriesSuitable entries

end

mutual

/-- The number of values in a document, itself included. -/
def nodes : Value → Nat
  | list items => 1 + itemsNodes items
  | map entries => 1 + entriesNodes entries
  | _ => 1

def itemsNodes : List Value → Nat
  | [] => 0
  | item :: items => item.nodes + itemsNodes items

def entriesNodes : List (Value × Value) → Nat
  | [] => 0
  | (_, value) :: entries => value.nodes + entriesNodes entries

end

/-- **A sound part of a document**: all values in it suit their keys, no integer is too long, and the
number of values is limited. -/
structure IsSound (limit : Nat) (v : Value) : Prop where
  /-- Integers are not too long. -/
  spellable : v.isSpellable = true
  /-- Values suit their keys. -/
  suitable : v.isSuitable = true
  /-- There are not too many values. -/
  nodes_le : v.nodes ≤ limit

instance (limit : Nat) (v : Value) : Decidable (v.IsSound limit) :=
  decidable_of_iff (v.isSpellable = true ∧ v.isSuitable = true ∧ v.nodes ≤ limit)
    ⟨fun ⟨hspellable, hsuitable, hnodes⟩ => ⟨hspellable, hsuitable, hnodes⟩,
      fun h => ⟨h.1, h.2, h.3⟩⟩

/-- The number of digits of a number that no document has as many values as. -/
def nodeDigits : Nat := 700

/-- More values than any document has. -/
def maxNodes : Nat := Nat.pow 10 nodeDigits

/-! ## Parts of sound documents -/

lemma nodes_pos (v : Value) : 0 < v.nodes := by
  cases v <;> simp only [nodes] <;> omega

lemma isSuitable_of_mem {items : List Value} (h : areSuitable items = true) :
    ∀ item ∈ items, item.isSuitable = true := by
  induction items with
  | nil => exact List.forall_mem_nil _
  | cons first rest ih =>
      rw [areSuitable, Bool.and_eq_true] at h
      exact List.forall_mem_cons.mpr ⟨h.1, ih h.2⟩

lemma isSuitable_of_mem_entries {entries : Entries} (h : entriesSuitable entries = true) :
    ∀ entry ∈ entries, entry.2.isSuitable = true ∧
      ∀ key, entry.1 = text key → entry.2.suits key = true := by
  induction entries with
  | nil => exact List.forall_mem_nil _
  | cons first rest ih =>
      obtain ⟨key, value⟩ := first
      rw [List.forall_mem_cons]
      cases key with
      | text name =>
          rw [entriesSuitable, Bool.and_eq_true, Bool.and_eq_true] at h
          refine ⟨⟨h.2.1, ?_⟩, ih h.2.2⟩
          rintro key ⟨⟩
          exact h.1
      | _ =>
          rw [entriesSuitable, Bool.and_eq_true] at h
          · refine ⟨⟨h.1, ?_⟩, ih h.2⟩
            rintro key ⟨⟩
          · rintro name ⟨⟩

lemma nodes_le_of_mem {items : List Value} : ∀ item ∈ items, item.nodes ≤ itemsNodes items := by
  induction items with
  | nil => exact List.forall_mem_nil _
  | cons first rest ih =>
      rw [List.forall_mem_cons, itemsNodes]
      exact ⟨Nat.le_add_right _ _, fun item hitem => Nat.le_add_left_of_le (ih item hitem)⟩

lemma nodes_le_of_mem_entries {entries : Entries} :
    ∀ entry ∈ entries, entry.2.nodes ≤ entriesNodes entries := by
  induction entries with
  | nil => exact List.forall_mem_nil _
  | cons first rest ih =>
      rw [List.forall_mem_cons, entriesNodes]
      exact ⟨Nat.le_add_right _ _, fun entry hentry => Nat.le_add_left_of_le (ih entry hentry)⟩

lemma nodes_get?_le {entries : Entries} {key : Text} {value : Value}
    (h : entries.get? key = some value) : value.nodes ≤ entriesNodes entries :=
  nodes_le_of_mem_entries _ (Entries.mem_of_get? h)

/-- What stands under two keys are different parts of a mapping. -/
lemma nodes_get?_add_le {key other : Text} (hne : key ≠ other) {value more : Value} :
    ∀ {entries : Entries}, entries.get? key = some value → entries.get? other = some more →
      value.nodes + more.nodes ≤ entriesNodes entries
  | (k, v) :: rest, h, h' => by
      rw [entriesNodes]
      cases k with
      | text name =>
          rw [Entries.get?] at h h'
          split_ifs at h h' with hkey hother
          · exact absurd (hkey.symm.trans hother) hne
          · obtain rfl := Option.some.inj h
            exact Nat.add_le_add_left (nodes_get?_le h') _
          · obtain rfl := Option.some.inj h'
            rw [Nat.add_comm]
            exact Nat.add_le_add_left (nodes_get?_le h) _
          · exact Nat.le_add_left_of_le (nodes_get?_add_le hne h h')
      | _ => exact Nat.le_add_left_of_le (nodes_get?_add_le hne h h')

lemma get?_of_items? {entries : Entries} {key : Text} {items : List Value}
    (h : entries.items? key = some items) : entries.get? key = some (list items) := by
  unfold Entries.items? at h
  split at h
  · rename_i hfound
    obtain rfl := Option.some.inj h
    exact hfound
  · cases h

lemma get?_of_section? {entries more : Entries} {key : Text}
    (h : entries.section? key = some more) : entries.get? key = some (map more) := by
  unfold Entries.section? at h
  split at h
  · rename_i hfound
    obtain rfl := Option.some.inj h
    exact hfound
  · cases h

lemma nodes_items?_le {entries : Entries} {key : Text} {items : List Value}
    (h : entries.items? key = some items) : 1 + itemsNodes items ≤ entriesNodes entries :=
  nodes_get?_le (get?_of_items? h)

lemma nodes_section?_le {entries more : Entries} {key : Text}
    (h : entries.section? key = some more) : 1 + entriesNodes more ≤ entriesNodes entries :=
  nodes_get?_le (get?_of_section? h)

section

variable {limit : Nat}

lemma IsSound.of_mem {items : List Value} (h : (list items).IsSound limit) :
    ∀ item ∈ items, item.IsSound limit := by
  intro item hitem
  have hnodes := nodes_le_of_mem item hitem
  have hlimit := h.nodes_le
  rw [nodes] at hlimit
  exact ⟨isSpellable_of_mem h.spellable item hitem, isSuitable_of_mem h.suitable item hitem, by omega⟩

lemma IsSound.of_mem_entries {entries : Entries} (h : (map entries).IsSound limit) :
    ∀ entry ∈ entries, entry.1.isSpellable = true ∧ entry.2.IsSound limit := by
  intro entry hentry
  have hnodes := nodes_le_of_mem_entries entry hentry
  have hlimit := h.nodes_le
  rw [nodes] at hlimit
  obtain ⟨hkey, hvalue⟩ := isSpellable_of_mem_entries h.spellable entry hentry
  exact ⟨hkey, hvalue, (isSuitable_of_mem_entries h.suitable entry hentry).1, by omega⟩

lemma IsSound.of_cons_entries {key value : Value} {entries : Entries}
    (h : (map ((key, value) :: entries)).IsSound limit) :
    key.isSpellable = true ∧ value.IsSound limit ∧ (map entries).IsSound limit := by
  obtain ⟨hkey, hvalue⟩ := h.of_mem_entries _ List.mem_cons_self
  refine ⟨hkey, hvalue, ?_⟩
  obtain ⟨hspellable, hsuitable, hnodes⟩ := h
  rw [isSpellable, entriesSpellable, Bool.and_eq_true, Bool.and_eq_true] at hspellable
  rw [nodes, entriesNodes] at hnodes
  refine ⟨hspellable.2.2, ?_, by rw [nodes]; omega⟩
  rw [isSuitable] at hsuitable ⊢
  cases key with
  | text name =>
      rw [entriesSuitable, Bool.and_eq_true, Bool.and_eq_true] at hsuitable
      exact hsuitable.2.2
  | _ =>
      rw [entriesSuitable, Bool.and_eq_true] at hsuitable
      · exact hsuitable.2
      · rintro name ⟨⟩

/-- What stands under a key is sound, and suits the key. -/
lemma IsSound.get? {entries : Entries} (h : (map entries).IsSound limit) {key : Text} {value : Value}
    (hvalue : entries.get? key = some value) : value.IsSound limit ∧ value.suits key = true := by
  have hmem := Entries.mem_of_get? hvalue
  exact ⟨(h.of_mem_entries _ hmem).2, (isSuitable_of_mem_entries h.suitable _ hmem).2 key rfl⟩

/-- Where anything is sound, nothing and an empty mapping are. -/
lemma IsSound.null {v : Value} (h : v.IsSound limit) : null.IsSound limit :=
  ⟨rfl, rfl, Nat.le_trans (nodes_pos v) h.nodes_le⟩

lemma IsSound.empty {v : Value} (h : v.IsSound limit) : (map []).IsSound limit :=
  ⟨rfl, rfl, Nat.le_trans (nodes_pos v) h.nodes_le⟩

lemma IsSound.getD {entries : Entries} (h : (map entries).IsSound limit) (key : Text) :
    (entries.getD key).IsSound limit := by
  unfold Entries.getD
  cases hfound : entries.get? key with
  | none => exact h.null
  | some value => exact (h.get? hfound).1

lemma IsSound.items? {entries : Entries} (h : (map entries).IsSound limit) {key : Text}
    {items : List Value} (hitems : entries.items? key = some items) :
    (list items).IsSound limit :=
  (h.get? (get?_of_items? hitems)).1

lemma IsSound.section? {entries more : Entries} (h : (map entries).IsSound limit) {key : Text}
    (hmore : entries.section? key = some more) : (map more).IsSound limit :=
  (h.get? (get?_of_section? hmore)).1

lemma IsSound.entries? {v : Value} (h : v.IsSound limit) {entries : Entries}
    (hentries : v.entries? = some entries) : (map entries).IsSound limit := by
  cases v with
  | map more =>
      obtain rfl := Option.some.inj hentries
      exact h
  | _ => cases hentries

lemma IsSound.yields_shown {v : Value} (h : v.IsSound limit) : Yields (fun _ => True) v.shown :=
  .of_exists ((spelled_shown v).exists_of_true h.spellable)

/-- Proposed values can be sent. -/
lemma IsSound.proposal {entries : Entries} (h : (map entries).IsSound limit) {key : Text}
    (hkey : key ∈ proposalKeys) {value : Value} (hvalue : entries.get? key = some value) :
    value.IsSendable := by
  obtain ⟨hsound, hsuits⟩ := h.get? hvalue
  refine ⟨?_, hsound.spellable⟩
  simp only [proposalKeys, List.mem_cons, List.not_mem_nil, or_false] at hkey
  rcases hkey with rfl | rfl | rfl | rfl <;> exact hsuits

end

end Value

end LoadPlan
