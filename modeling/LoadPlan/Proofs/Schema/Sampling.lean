import LoadPlan.Proofs.Value.Soundness

/-!
# Sound schemas have samples

* `Schema.IsSound` — a schema whose proposals can be sent and whose bounds are bounds.
* `Schema.nodes` — the number of schemas in a schema, which no sample has more identifiers than.
* `Sample.Numbers` — a stage of making a sample that comes to an end, finds something with a property,
  and uses up no more than a number of identifiers.
* **`numbers_sample`** — a sound schema has a sample, and the sample can be sent.
-/

namespace LoadPlan

/-! ## Sound schemas -/

/-- The proposed value can be sent. -/
def Declared.IsSound (declared : Declared) : Prop :=
  ∀ value, declared.value? = some value → value.IsSendable

namespace Schema

mutual

/-- **A sound schema**: its proposals can be sent, and its bounds are bounds. -/
def IsSound : Schema → Prop
  | object declared properties => declared.IsSound ∧ PropertiesSound properties
  | array declared items => declared.IsSound ∧ ItemSound items
  | string declared _ => declared.IsSound
  | integer declared minimum maximum =>
    declared.IsSound ∧ minimum.all Numeric.isBound = true ∧ maximum.all Numeric.isBound = true
  | number declared minimum maximum =>
    declared.IsSound ∧ minimum.all Numeric.isBound = true ∧ maximum.all Numeric.isBound = true
  | boolean declared => declared.IsSound
  | reference declared _ => declared.IsSound
  | bare _ => False

def PropertiesSound : List (Text × Schema) → Prop
  | [] => True
  | (_, schema) :: rest => schema.IsSound ∧ PropertiesSound rest

def ItemSound : Option Schema → Prop
  | none => True
  | some schema => schema.IsSound

end

mutual

/-- **The number of schemas in a schema**, itself included. -/
def nodes : Schema → Nat
  | object _ properties => 1 + propertiesNodes properties
  | array _ items => 1 + itemNodes items
  | _ => 1

def propertiesNodes : List (Text × Schema) → Nat
  | [] => 0
  | (_, schema) :: rest => schema.nodes + propertiesNodes rest

def itemNodes : Option Schema → Nat
  | none => 0
  | some schema => schema.nodes

end

end Schema

/-- **A sample**: a value that can be sent as it is. -/
structure Value.IsSample (v : Value) : Prop extends v.IsSendable where
  /-- There are no dates and times in it. -/
  safe : v.jsonSafe = v

lemma Value.IsSendable.isSample {v : Value} (h : v.IsSendable) : v.jsonSafe.IsSample :=
  ⟨h.jsonSafe, jsonSafe_jsonSafe v⟩

/-! ## Integers that are not too long -/

/-- An integer that is not too long. -/
def IsShort (i : Int) : Prop := (Value.int i).isSpellable = true

lemma isShort_iff {i : Int} : IsShort i ↔ i.natAbs < Nat.pow 10 maxDigits := by
  rw [IsShort, Value.isSpellable, decide_eq_true_iff]

lemma IsShort.isSample {i : Int} (h : IsShort i) : (Value.int i).IsSample := ⟨⟨rfl, h⟩, rfl⟩

lemma IsShort.of_natAbs_le {i j : Int} (hj : IsShort j) (h : i.natAbs ≤ j.natAbs) : IsShort i :=
  isShort_iff.mpr (Nat.lt_of_le_of_lt h (isShort_iff.mp hj))

lemma pow_two_le {exponent limit : Nat} (h : exponent ≤ limit) :
    Nat.pow 2 exponent ≤ Nat.pow 10 limit :=
  Nat.le_trans (Nat.pow_le_pow_left (show 2 ≤ 10 by decide) exponent)
    (Nat.pow_le_pow_right (by decide) h)

lemma isShort_of_lt {i : Int} {e : Nat} (h : i.natAbs < Nat.pow 2 e) (he : e ≤ maxDigits) :
    IsShort i :=
  isShort_iff.mpr (Nat.lt_of_lt_of_le h (pow_two_le he))

lemma yields_integerText {i : Int} (h : IsShort i) : Yields (fun _ => True) (integerText i) :=
  .of_exists ((Value.spelled_integerText i).exists_of_true h)

lemma mul_pow_lt {factor exponent a b limit : Nat} (hfactor : factor < Nat.pow 2 a)
    (hexponent : exponent ≤ b) (hlimit : a + b ≤ limit) :
    factor * Nat.pow 2 exponent < Nat.pow 10 limit :=
  calc factor * Nat.pow 2 exponent
      ≤ factor * Nat.pow 2 b :=
        Nat.mul_le_mul_left _ (Nat.pow_le_pow_right (by decide) hexponent)
    _ < Nat.pow 2 a * Nat.pow 2 b :=
        Nat.mul_lt_mul_of_pos_right hfactor (Nat.pow_pos (by decide))
    _ = Nat.pow 2 (a + b) := (Nat.pow_add 2 a b).symm
    _ ≤ Nat.pow 10 limit := pow_two_le hlimit

namespace Double

variable {x : Double}

lemma isShort_of_toFraction? (h : x.isRegular = true) :
    ∃ n d, x.toFraction? = some (n, d) ∧ IsShort n := by
  cases x with
  | finite negative significand exponent =>
      rw [isRegular, Bool.and_eq_true, decide_eq_true_eq, decide_eq_true_eq] at h
      refine ⟨_, _, rfl, isShort_iff.mpr ?_⟩
      have hmagnitude : significand * Nat.pow 2 exponent.toNat < Nat.pow 10 maxDigits :=
        mul_pow_lt (b := 971) h.1 (by omega) (by decide)
      split_ifs
      · rw [Int.natAbs_neg, Int.natAbs_natCast]
        exact hmagnitude
      · rw [Int.natAbs_natCast]
        exact hmagnitude
  | _ => cases h

/-- The integers next to a number that the format has are not too long. -/
lemma isShort_of_floor? (h : x.isRegular = true) : ∃ i, x.floor? = some i ∧ IsShort i := by
  obtain ⟨n, d, hfraction, hn⟩ := isShort_of_toFraction? h
  refine ⟨Int.fdiv n d, by rw [floor?, hfraction]; rfl, hn.of_natAbs_le ?_⟩
  exact Int.natAbs_fdiv_le_natAbs n d

lemma isShort_of_ceil? (h : x.isRegular = true) : ∃ i, x.ceil? = some i ∧ IsShort i := by
  obtain ⟨n, d, hfraction, hn⟩ := isShort_of_toFraction? h
  refine ⟨-Int.fdiv (-n) d, by rw [ceil?, hfraction]; rfl, hn.of_natAbs_le ?_⟩
  rw [Int.natAbs_neg, ← Int.natAbs_neg n]
  exact Int.natAbs_fdiv_le_natAbs (-n) d

end Double

namespace Sample

/-! ## Bounds -/

/-- A way of rounding that finds integers which are not too long. -/
def RoundsShort (round : Double → Option Int) : Prop :=
  ∀ x : Double, x.isRegular = true → ∃ i, round x = some i ∧ IsShort i

lemma yields_integerBound {round : Double → Option Int} (hround : RoundsShort round)
    {bound : Numeric} (h : bound.isBound = true) : Yields IsShort (integerBound round bound) := by
  cases bound with
  | int i =>
      rw [Numeric.isBound, Bool.and_eq_true] at h
      exact .ok h.1
  | float x =>
      obtain ⟨i, hi, hshort⟩ := hround x h
      cases x with
      | finite negative significand exponent =>
          refine ⟨i, ?_, hshort⟩
          rw [integerBound, hi]
          · rintro ⟨⟩
          · rintro b ⟨⟩
      | _ => cases h

lemma yields_integerBounds {round : Double → Option Int} (hround : RoundsShort round)
    {bound : Option Numeric} (h : bound.all Numeric.isBound = true) :
    Yields (fun found : Option Int => ∀ i, found = some i → IsShort i)
      (bound.mapM (integerBound round)) := by
  cases bound with
  | none => exact .ok_none
  | some bound => exact (yields_integerBound hround h).bind fun _ => .ok_some

lemma isShort_clampInt {value : Int} {lower upper : Option Int} (hvalue : IsShort value)
    (hlower : ∀ i, lower = some i → IsShort i) (hupper : ∀ i, upper = some i → IsShort i) :
    IsShort (clampInt value lower upper) := by
  have hraised : ∀ raised, IsShort raised → IsShort (clampInt raised none upper) := by
    intro raised h
    cases upper with
    | none => exact h
    | some bound =>
        show IsShort (if bound < raised then bound else raised)
        split_ifs
        · exact hupper bound rfl
        · exact h
  cases lower with
  | none => exact hraised value hvalue
  | some bound =>
      refine hraised (if value < bound then bound else value) ?_
      split_ifs
      · exact hlower bound rfl
      · exact hvalue

/-- A number that there is a floating point number near. -/
def HasDouble (x : Numeric) : Prop := ∃ y, toDouble x = .ok y

lemma hasDouble_of_isBound {bounds : Option Numeric} (h : bounds.all Numeric.isBound = true)
    (bound : Numeric) (hbound : bounds = some bound) : HasDouble bound := by
  obtain rfl := hbound
  replace h : bound.isBound = true := h
  cases bound with
  | float x => exact ⟨x, rfl⟩
  | int i =>
      rw [Numeric.isBound, Bool.and_eq_true] at h
      obtain ⟨x, hx⟩ := Option.isSome_iff_exists.mp h.2
      exact ⟨x, by rw [toDouble, hx]⟩

lemma hasDouble_clamp {value : Numeric} {lower upper : Option Numeric} (hvalue : HasDouble value)
    (hlower : ∀ bound, lower = some bound → HasDouble bound)
    (hupper : ∀ bound, upper = some bound → HasDouble bound) :
    HasDouble (clamp value lower upper) := by
  have hraised : ∀ raised, HasDouble raised → HasDouble (clamp raised none upper) := by
    intro raised h
    cases upper with
    | none => exact h
    | some bound =>
        show HasDouble (if bound.lt raised then bound else raised)
        split_ifs
        · exact hupper bound rfl
        · exact h
  cases lower with
  | none => exact hraised value hvalue
  | some bound =>
      refine hraised (if value.lt bound then bound else value) ?_
      split_ifs
      · exact hlower bound rfl
      · exact hvalue

/-- A number has a sample if there are floating point numbers near its bounds. -/
lemma yields_number (name : Text) {minimum maximum : Option Numeric}
    (hminimum : ∀ bound, minimum = some bound → HasDouble bound)
    (hmaximum : ∀ bound, maximum = some bound → HasDouble bound) :
    Yields (fun _ => True) (Sample.number name minimum maximum) :=
  .of_exists (hasDouble_clamp ⟨_, rfl⟩ hminimum hmaximum)

/-! ## Stages of making a sample -/

/-- **A stage that finds something with a property and uses up at most a number of identifiers**, as
long as these are not too long. -/
def Numbers {α : Type} (motive : α → Prop) (count : Nat) (stage : Numbering α) : Prop :=
  ∀ start : Int, 0 ≤ start → start + count ≤ (Nat.pow 10 maxDigits : Nat) →
    ∃ a after, startedAt start stage = (.ok a, after) ∧ motive a ∧ start ≤ after ∧
      after ≤ start + count

namespace Numbers

variable {α β : Type} {motive : α → Prop} {target : β → Prop} {n m : Nat}
variable {stage : Numbering α}

lemma pure {a : α} (h : motive a) : Numbers motive n (Pure.pure a) := by
  intro start _ _
  exact ⟨a, start, rfl, h, Int.le_refl start, Int.le_add_of_nonneg_right (Int.natCast_nonneg n)⟩

lemma bind {next : α → Numbering β} (h : Numbers motive n stage)
    (hnext : ∀ a, motive a → Numbers target m (next a)) :
    Numbers target (n + m) (stage >>= next) := by
  intro start hstart hlimit
  rw [Int.natCast_add] at hlimit ⊢
  obtain ⟨a, after, hstage, hmotive, hle, hadd⟩ := h start hstart (by omega)
  obtain ⟨b, last, hlast, htarget, hle', hadd'⟩ := hnext a hmotive after (by omega) (by omega)
  refine ⟨b, last, ?_, htarget, by omega, by omega⟩
  rw [startedAt_bind_of_ok hstage, hlast]

lemma map {f : α → β} (h : Numbers motive n stage) (hf : ∀ a, motive a → target (f a)) :
    Numbers target n (stage >>= fun a => Pure.pure (f a)) :=
  h.bind fun a ha => pure (n := 0) (hf a ha)

lemma lift {outcome : Except Fault α} (h : Yields motive outcome) :
    Numbers motive 0 (liftM outcome) := by
  intro start _ _
  obtain ⟨a, rfl, hmotive⟩ := h
  refine ⟨a, start, startedAt_lift start _, hmotive, Int.le_refl start, ?_⟩
  exact Int.le_add_of_nonneg_right (Int.natCast_nonneg 0)

end Numbers

lemma numbers_nextNumber : Numbers IsShort 1 nextNumber := by
  intro start hstart hlimit
  refine ⟨start, start + 1, startedAt_nextNumber start, isShort_iff.mpr ?_, ?_, Int.le_refl _⟩
  · show start.natAbs < _
    omega
  · show start ≤ start + 1
    omega

lemma numbers_text (name : Text) (format : Option Text) :
    Numbers (fun _ => True) 1 (Sample.text name format) := by
  unfold Sample.text
  dsimp only
  split_ifs
  · exact numbers_nextNumber.bind (m := 0) fun _ hnumber => .lift (yields_integerText hnumber)
  · exact .pure trivial
  · exact .pure trivial

/-- What a hint says is what one of the hints says. -/
lemma hinted?_mem {α : Type} {name : Text} {hints : List (List Text × α)} {a : α}
    (h : hinted? name hints = some a) : ∃ words, (words, a) ∈ hints := by
  obtain ⟨hint, hfound, rfl⟩ := Option.map_eq_some_iff.mp h
  exact ⟨hint.1, List.mem_of_find?_eq_some hfound⟩

lemma numbers_plainInteger (name : Text) : Numbers IsShort 1 (plainInteger name) := by
  unfold plainInteger
  dsimp only
  split_ifs
  · exact numbers_nextNumber
  · have hhints : ∀ hint ∈ integerHints, hint.2.natAbs < Nat.pow 2 11 := by decide
    refine .pure ?_
    cases hfound : hinted? name.lower integerHints with
    | none => exact isShort_of_lt (e := 1) (by decide) (by decide)
    | some i =>
        obtain ⟨words, hmem⟩ := hinted?_mem hfound
        exact isShort_of_lt (hhints _ hmem) (by decide)

lemma numbers_integer (name : Text) {minimum maximum : Option Numeric}
    (hminimum : minimum.all Numeric.isBound = true) (hmaximum : maximum.all Numeric.isBound = true) :
    Numbers IsShort 1 (Sample.integer name minimum maximum) := by
  refine (numbers_plainInteger name).bind (m := 0) fun value hvalue => ?_
  refine (Numbers.lift (yields_integerBounds (fun _ => Double.isShort_of_ceil?) hminimum)).bind
    (m := 0) fun lower hlower => ?_
  refine (Numbers.lift (yields_integerBounds (fun _ => Double.isShort_of_floor?) hmaximum)).bind
    (m := 0) fun upper hupper => ?_
  exact .pure (isShort_clampInt hvalue hlower hupper)

lemma numbers_proposedOr {declared : Declared} (hdeclared : declared.IsSound) {count : Nat}
    {other : Numbering Value} (hother : Numbers Value.IsSample count other) :
    Numbers Value.IsSample count (proposedOr declared other) := by
  unfold proposedOr
  split
  · rename_i value hvalue
    exact .pure (hdeclared value hvalue).isSample
  · exact hother

/-! ## Samples of schemas -/

/-- Entries whose values are samples, under keys that are texts. -/
def AreSamples (entries : List (Value × Value)) : Prop := (Value.map entries).IsSample

lemma areSamples_nil : AreSamples [] := ⟨⟨rfl, rfl⟩, rfl⟩

lemma areSamples_cons {name : Text} {value : Value} {entries : List (Value × Value)}
    (hvalue : value.IsSample) (hentries : AreSamples entries) :
    AreSamples ((.text name, value) :: entries) where
  encodable := by
    show (true && (value.isEncodable && Value.entriesEncodable entries)) = true
    rw [hvalue.encodable]
    exact hentries.encodable
  spellable := by
    show (true && (value.isSpellable && Value.entriesSpellable entries)) = true
    rw [hvalue.spellable]
    exact hentries.spellable
  safe := by
    have hsafe := Value.map.inj hentries.safe
    rw [Value.jsonSafe, entriesJsonSafe, hvalue.safe, hsafe]

lemma isSample_singleton {value : Value} (h : value.IsSample) : (Value.list [value]).IsSample where
  encodable := by
    show (value.isEncodable && true) = true
    rw [h.encodable]
    rfl
  spellable := by
    show (value.isSpellable && true) = true
    rw [h.spellable]
    rfl
  safe := by rw [Value.jsonSafe, itemsJsonSafe, itemsJsonSafe, h.safe]

mutual

/-- **A sound schema has a sample**, which can be sent. -/
theorem numbers_sample (name : Text) : ∀ schema : Schema, schema.IsSound →
    Numbers Value.IsSample schema.nodes (schema.sample name)
  | .object declared properties, h => by
      rw [Schema.IsSound] at h
      refine numbers_proposedOr h.1 ?_
      rw [Schema.nodes, Nat.add_comm]
      exact (numbers_propertySamples properties h.2).bind fun entries hentries => .pure hentries
  | .array declared items, h => by
      rw [Schema.IsSound] at h
      refine numbers_proposedOr h.1 ?_
      rw [Schema.nodes, Nat.add_comm]
      exact (numbers_itemSample items h.2).bind fun found hfound => .pure hfound
  | .string declared format, h =>
      numbers_proposedOr h ((numbers_text name format).map fun _ _ => ⟨⟨rfl, rfl⟩, rfl⟩)
  | .integer declared minimum maximum, h => by
      rw [Schema.IsSound] at h
      exact numbers_proposedOr h.1 ((numbers_integer name h.2.1 h.2.2).map fun _ hi => hi.isSample)
  | .number declared minimum maximum, h => by
      rw [Schema.IsSound] at h
      refine numbers_proposedOr h.1 ?_
      have hnumber := yields_number name (hasDouble_of_isBound h.2.1) (hasDouble_of_isBound h.2.2)
      exact (Numbers.lift hnumber).bind (m := 1) fun x _ => .pure ⟨⟨rfl, rfl⟩, rfl⟩
  | .boolean declared, h => numbers_proposedOr h (.pure ⟨⟨rfl, rfl⟩, rfl⟩)
  | .reference declared _, h => numbers_proposedOr h (.pure areSamples_nil)
  | .bare declared, h => by
      rw [Schema.IsSound] at h
      exact h.elim

theorem numbers_propertySamples : ∀ properties : List (Text × Schema),
    Schema.PropertiesSound properties →
      Numbers AreSamples (Schema.propertiesNodes properties) (propertySamples properties)
  | [], _ => .pure areSamples_nil
  | (name, schema) :: rest, h => by
      rw [Schema.PropertiesSound] at h
      rw [Schema.propertiesNodes]
      refine (numbers_sample name schema h.1).bind fun value hvalue => ?_
      exact (numbers_propertySamples rest h.2).map fun entries hentries =>
        areSamples_cons hvalue hentries

theorem numbers_itemSample : ∀ items : Option Schema, Schema.ItemSound items →
    Numbers (fun found => (Value.list found).IsSample) (Schema.itemNodes items) (itemSample items)
  | none, _ => .pure ⟨⟨rfl, rfl⟩, rfl⟩
  | some schema, h => (numbers_sample [] schema h).map fun _ hvalue => isSample_singleton hvalue

end

end Sample

/-- **A sound schema has a sample**, unless there are so many schemas in it that its identifiers become
too long. -/
theorem yields_sampleFrom {schema : Schema} (h : schema.IsSound)
    (hnodes : 1 + schema.nodes ≤ Nat.pow 10 maxDigits) (name : Text) :
    Yields Value.IsSample (schema.sampleFrom 1 name) := by
  have hlimit : (1 : Int) + schema.nodes ≤ (Nat.pow 10 maxDigits : Nat) := by omega
  obtain ⟨sample, after, hsample, hmotive, -⟩ :=
    Sample.numbers_sample name schema h 1 (by decide) hlimit
  refine ⟨sample, ?_, hmotive⟩
  rw [Schema.sampleFrom, hsample]

end LoadPlan
