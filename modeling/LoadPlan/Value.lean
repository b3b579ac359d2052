import LoadPlan.Calendar
import LoadPlan.Number.Numeral
import LoadPlan.Number.Seating
import LoadPlan.Number.Shortest
import LoadPlan.Text.Printable

/-!
# Document values

The values that documents and configurations are made of.

* `Value` — one inductive type for everything that JSON and YAML can say.  Mappings keep their
  entries in insertion order, and their keys may be of almost any kind.
* `Value.isKey`, `Value.sameKey` — what can be a key, and when two keys are one.
* `Entries.get?`, `Entries.insert`, `Entries.ofPairs` — mappings as lists of entries.
* `Value.isTruthy`, `Value.kind` — truth, and the name of a value's kind.
* `Value.shown`, `Value.literal` — the text that a value is inserted into other texts with, and the
  text that messages quote it with.
-/

namespace LoadPlan

/-- **A document value.** -/
inductive Value where
  /-- Nothing. -/
  | null
  /-- A truth value. -/
  | bool (b : Bool)
  /-- An integer of any size. -/
  | int (i : Int)
  /-- A floating point number. -/
  | float (x : Double)
  /-- A text. -/
  | text (t : Text)
  /-- A sequence. -/
  | list (items : List Value)
  /-- A sequence of fixed length, as ordered mappings have for an entry. -/
  | tuple (items : List Value)
  /-- A mapping, in insertion order. -/
  | map (entries : List (Value × Value))
  /-- A day. -/
  | date (d : Date)
  /-- A moment. -/
  | moment (m : Moment)
  /-- A time of day. -/
  | clock (c : Clock)
  /-- Bytes. -/
  | bytes (octets : List UInt8)
  /-- A set, in insertion order. -/
  | set (items : List Value)

instance : Coe Text Value := ⟨Value.text⟩
instance : Inhabited Value := ⟨Value.null⟩

namespace Value

/-- The number that a value is: truth values count as one and zero. -/
def numeric? : Value → Option Numeric
  | bool b => some (.int (if b then 1 else 0))
  | int i => some (.int i)
  | float x => some (.float x)
  | _ => none

/-- Whether two values that have no parts are the same key.  Numbers of all kinds are compared by
value, everything else within its kind. -/
def sameLeaf (a b : Value) : Bool :=
  match a.numeric?, b.numeric? with
  | some x, some y => x.eq y
  | _, _ =>
    match a, b with
    | null, null => true
    | text s, text t => s = t
    | date d, date e => d = e
    | moment m, moment n => m.same n
    | clock c, clock d => c = d
    | bytes s, bytes t => s = t
    | _, _ => false

mutual

/-- **When two keys are one.**  Tuples are compared item by item; lists, mappings and sets are no
keys. -/
def sameKey (a b : Value) : Bool :=
  match a, b with
  | tuple items, tuple others => sameKeys items others
  | a, b => sameLeaf a b

/-- Whether the keys in two sequences are the same in pairs. -/
def sameKeys : List Value → List Value → Bool
  | [], [] => true
  | item :: items, other :: others => sameKey item other && sameKeys items others
  | _, _ => false

end

mutual

/-- **Whether a value can be a key.**  Lists, mappings and sets cannot, nor can tuples that hold
one. -/
def isKey : Value → Bool
  | list _ | map _ | set _ => false
  | tuple items => areKeys items
  | _ => true

/-- Whether all values of a sequence can be keys. -/
def areKeys : List Value → Bool
  | [] => true
  | item :: items => isKey item && areKeys items

end

/-- A key that is the same as a text is the text. -/
theorem sameKey_text_iff {key : Value} {name : Text} :
    key.sameKey (.text name) = true ↔ key = .text name := by
  cases key with
  | text t =>
      show decide (t = name) = true ↔ _
      rw [decide_eq_true_eq, Value.text.injEq]
  | _ => exact iff_of_false Bool.false_ne_true Value.noConfusion

/-- Whether a value counts as true where a condition is asked for. -/
def isTruthy : Value → Bool
  | null => false
  | bool b => b
  | int i => i != 0
  | float x => !x.isZero
  | text t => !t.isEmpty
  | list items => !items.isEmpty
  | tuple items => !items.isEmpty
  | map entries => !entries.isEmpty
  | date _ => true
  | moment _ => true
  | clock _ => true
  | bytes octets => !octets.isEmpty
  | set items => !items.isEmpty

/-- The name of a value's kind. -/
def kind : Value → Text
  | null => "NoneType"
  | bool _ => "bool"
  | int _ => "int"
  | float _ => "float"
  | text _ => "str"
  | list _ => "list"
  | tuple _ => "tuple"
  | map _ => "dict"
  | date _ => "date"
  | moment _ => "datetime"
  | clock _ => "time"
  | bytes _ => "bytes"
  | set _ => "set"

end Value

/-! ## Mappings -/

/-- **The entries of a mapping**, in insertion order. -/
abbrev Entries := List (Value × Value)

namespace Entries

/-- The value under a key that is a text. -/
def get? (key : Text) : Entries → Option Value
  | [] => none
  | (.text k, v) :: rest => if k = key then some v else get? key rest
  | _ :: rest => get? key rest

/-- The value under a key that is a text, and nothing when the key is missing. -/
def getD (entries : Entries) (key : Text) : Value := (entries.get? key).getD .null

/-- Puts a value under a key.  A key that is already there keeps its place and its spelling. -/
def insert (key value : Value) : Entries → Entries
  | [] => [(key, value)]
  | (k, v) :: rest =>
    if k.sameKey key then (k, value) :: rest else (k, v) :: insert key value rest

/-- An entry for another text is passed over. -/
theorem get?_cons_of_ne {key : Text} {found : Value} (h : found ≠ .text key) (value : Value)
    (rest : Entries) : get? key ((found, value) :: rest) = get? key rest := by
  cases found with
  | text t => exact if_neg fun same => h (congrArg Value.text same)
  | _ => rfl

theorem get?_insert_self (key : Text) (value : Value) (entries : Entries) :
    get? key (insert (.text key) value entries) = some value := by
  induction entries with
  | nil => exact if_pos rfl
  | cons entry rest ih =>
      obtain ⟨found, old⟩ := entry
      by_cases same : found.sameKey (.text key) = true
      · rw [insert, if_pos same, Value.sameKey_text_iff.mp same]
        exact if_pos rfl
      · rw [insert, if_neg same, get?_cons_of_ne (fun h => same (Value.sameKey_text_iff.mpr h)), ih]

/-- What is put under one key is not found under another. -/
theorem get?_insert_of_ne {key other : Text} (h : key ≠ other) (value : Value) (entries : Entries) :
    get? other (insert (.text key) value entries) = get? other entries := by
  have hne : Value.text key ≠ .text other := fun same => h (Value.text.inj same)
  induction entries with
  | nil => exact get?_cons_of_ne hne value []
  | cons entry rest ih =>
      obtain ⟨found, old⟩ := entry
      by_cases same : found.sameKey (.text key) = true
      · obtain rfl := Value.sameKey_text_iff.mp same
        rw [insert, if_pos same, get?_cons_of_ne hne, get?_cons_of_ne hne]
      · rw [insert, if_neg same]
        by_cases hfound : found = .text other
        · rw [hfound, get?, get?, if_pos rfl, if_pos rfl]
        · rw [get?_cons_of_ne hfound, get?_cons_of_ne hfound, ih]

/-- The mapping of a list of pairs: a later pair replaces the value of an earlier one. -/
def ofPairs (pairs : List (Value × Value)) : Entries :=
  pairs.foldl (fun entries (key, value) => insert key value entries) []

/-- The mapping of a list of pairs, unless something in it that cannot be a key is one. -/
def ofPairs? (pairs : List (Value × Value)) : Option Entries :=
  if pairs.all fun (key, _) => key.isKey then some (ofPairs pairs) else none

end Entries

def Value.entries? : Value → Option Entries
  | .map entries => some entries
  | _ => none

/-! ## Spelling -/

namespace Value

/-- Day, month and year as arguments. -/
def dateArguments (d : Date) : Text :=
  Text.ofNat d.year ++ ", " ++ Text.ofNat d.month ++ ", " ++ Text.ofNat d.day

/-- Hour and minute as arguments, then seconds and microseconds as far as they are needed. -/
def clockArguments (c : Clock) : Text :=
  let short := Text.ofNat c.hour ++ ", " ++ Text.ofNat c.minute
  if c.microsecond ≠ 0 then
    short ++ ", " ++ Text.ofNat c.second ++ ", " ++ Text.ofNat c.microsecond
  else if c.second ≠ 0 then short ++ ", " ++ Text.ofNat c.second
  else short

/-- A distance from universal time as an argument: whole days first, then the seconds left over,
which are never negative. -/
def offsetArgument (offset : Int) : Text :=
  if offset = 0 then ", tzinfo=datetime.timezone.utc"
  else
    let days := Int.fdiv offset 86400
    let seconds := Int.fmod offset 86400
    let parts : List Text :=
      (if days = 0 then [] else ["days=" ++ Text.ofInt days])
        ++ (if seconds = 0 then [] else ["seconds=" ++ Text.ofInt seconds])
    ", tzinfo=datetime.timezone(datetime.timedelta(" ++ Text.join ", " parts ++ "))"

/-- One byte between quotation marks. -/
def byteIn (mark : Rune) (octet : UInt8) : Text :=
  let r := Rune.ofCode octet.toNat
  if r = mark || r = '\\' then ['\\', r]
  else if r = '\t' then "\\t"
  else if r = '\n' then "\\n"
  else if r = '\r' then "\\r"
  else if 0x20 ≤ r.code && r.code < 0x7F then [r]
  else "\\x" ++ Text.ofHexPadded 2 r.code

/-- Bytes between quotation marks. -/
def bytesLiteral (octets : List UInt8) : Text :=
  let mark : Rune := if 0x27 ∈ octets ∧ ¬ 0x22 ∈ octets then '"' else '\''
  "b" ++ mark :: octets.flatMap (byteIn mark) ++ [mark]

mutual

/-- **The text that messages quote a value with.**  There is none for an integer that is too long,
nor for anything that holds one. -/
def literal : Value → Except Fault Text
  | null => .ok "None"
  | bool b => .ok (if b then "True" else "False")
  | int i => integerText i
  | float x => .ok x.text
  | text t => .ok t.quoted
  | list items => do return "[" ++ Text.join ", " (← literals items) ++ "]"
  | tuple [item] => do return "(" ++ (← literal item) ++ ",)"
  | tuple items => do return "(" ++ Text.join ", " (← literals items) ++ ")"
  | map entries => do return "\x7b" ++ Text.join ", " (← entryLiterals entries) ++ "\x7d"
  | date d => .ok ("datetime.date(" ++ dateArguments d ++ ")")
  | moment m =>
    .ok ("datetime.datetime(" ++ dateArguments m.date ++ ", " ++ clockArguments m.clock
      ++ (m.offset.map offsetArgument).getD [] ++ ")")
  | clock c => .ok ("datetime.time(" ++ clockArguments c ++ ")")
  | bytes octets => .ok (bytesLiteral octets)
  | set [] => .ok "set()"
  | set items => do
    let members := arranged (items.map numeric?) (← literals items)
    return "\x7b" ++ Text.join ", " members ++ "\x7d"

def literals : List Value → Except Fault (List Text)
  | [] => .ok []
  | item :: items => do return (← literal item) :: (← literals items)

def entryLiterals : List (Value × Value) → Except Fault (List Text)
  | [] => .ok []
  | (key, value) :: entries => do
    let entry := (← literal key) ++ ": " ++ (← literal value)
    return entry :: (← entryLiterals entries)

end

/-- **The text that a value is inserted into other texts with**: a text as it is, calendar values in
ISO form, anything else as messages quote it. -/
def shown : Value → Except Fault Text
  | text t => .ok t
  | date d => .ok d.iso
  | moment m => .ok (m.isoWith " ")
  | clock c => .ok c.iso
  | value => value.literal

end Value

end LoadPlan
