import LoadPlan.Proofs.Number.Exact
import LoadPlan.Proofs.Schema.Numbering
import LoadPlan.Proofs.Schema.Sampling

/-!
# Samples conform to their schemas

* `IsBetween` — an integer between bounds.
* `Schema.IsBounded` — a schema whose bounds are finite, without references in it.
* `Schema.Conforms` — a value that a schema describes.
* `IsShortFrom` — identifiers whose numbers can be written down.
* `Sample.Fulfils` — a stage of making a sample that comes to an end exactly if a condition holds for the
  number that it starts from, and then finds something with a property.
* **`Sample.fulfils_sample`** — this for the sample of a schema.
* **`Synthesizer.sample_conforms`** — every sample conforms, and there is one as long as the identifiers
  among its texts can be written down.
-/

namespace LoadPlan

/-! ## Bounds -/

/-- **An integer between bounds**, as far as there are any. -/
structure IsBetween (minimum maximum : Option Numeric) (i : Int) : Prop where
  minimum_le : ∀ q ∈ minimum.bind Numeric.exact?, q ≤ i
  le_maximum : ∀ q ∈ maximum.bind Numeric.exact?, i ≤ q

/-- A number that is no infinity, and not not-a-number. -/
def Numeric.IsFinite (bound : Numeric) : Prop := ∃ q, bound.exact? = some q

/-- A number in the range of the floating point format. -/
def Numeric.IsInRange (bound : Numeric) : Prop :=
  ∃ q, bound.exact? = some q ∧ |q| ≤ Double.largest

namespace Sample

lemma hasDouble_of_isInRange {bound : Numeric} (h : bound.IsInRange) : HasDouble bound := by
  obtain ⟨q, hq, hle⟩ := h
  cases bound with
  | float x => exact ⟨x, rfl⟩
  | int i =>
      obtain rfl := Option.some.inj hq
      have hnatAbs : i.natAbs ≤ Double.largest := by
        rw [← Int.cast_abs, Int.abs_eq_natAbs] at hle
        exact_mod_cast hle
      obtain ⟨x, hx⟩ := Double.ofInt?_of_le hnatAbs
      exact ⟨x, by rw [toDouble, hx]⟩

/-- A finite bound is rounded as what it is exactly. -/
lemma integerBound_of_exact {round : Double → Option Int} {nearest : ℚ → Int}
    (hround : ∀ x q, x.exact? = some q → round x = some (nearest q))
    (hinteger : ∀ i : Int, nearest i = i) {bound : Numeric} {q : ℚ} (h : bound.exact? = some q) :
    integerBound round bound = .ok (nearest q) := by
  cases bound with
  | int i =>
      obtain rfl := Option.some.inj h
      rw [integerBound, hinteger]
  | float x =>
      have hx := hround x q h
      cases x with
      | nan => cases h
      | infinite negative => cases h
      | finite negative significand exponent =>
          rw [integerBound, hx]
          · rintro ⟨⟩
          · rintro _ ⟨⟩

lemma mapM_integerBound {round : Double → Option Int} {nearest : ℚ → Int}
    (hround : ∀ x q, x.exact? = some q → round x = some (nearest q))
    (hinteger : ∀ i : Int, nearest i = i) {bounds : Option Numeric}
    (h : ∀ bound ∈ bounds, bound.IsFinite) :
    bounds.mapM (integerBound round) = .ok ((bounds.bind Numeric.exact?).map nearest) := by
  cases bounds with
  | none => rfl
  | some bound =>
      obtain ⟨q, hq⟩ := h bound rfl
      rw [Option.mapM_some, integerBound_of_exact hround hinteger hq, Option.bind_some, hq]
      rfl

/-- **An integer that is moved between bounds is between them**, if there is anything between them. -/
lemma between_clampInt {lower upper : Option Int} {i : Int} (hlower : ∀ l ∈ lower, l ≤ i)
    (hupper : ∀ u ∈ upper, i ≤ u) (value : Int) :
    (∀ l ∈ lower, l ≤ clampInt value lower upper) ∧ ∀ u ∈ upper, clampInt value lower upper ≤ u := by
  unfold clampInt
  cases lower <;> cases upper <;> simp only [Option.mem_def, Option.some.injEq, forall_eq', reduceCtorEq,
    false_implies, implies_true, true_and, and_true] at hlower hupper ⊢ <;> split_ifs <;> omega

/-- The same for bounds that are rounded towards each other: no integer between them is lost. -/
lemma isBetween_clampInt {minimum maximum : Option Numeric} {i : Int} (h : IsBetween minimum maximum i)
    (value : Int) :
    IsBetween minimum maximum (clampInt value ((minimum.bind Numeric.exact?).map Int.ceil)
      ((maximum.bind Numeric.exact?).map Int.floor)) := by
  have hlower : ∀ l ∈ (minimum.bind Numeric.exact?).map Int.ceil, l ≤ i := by
    intro l hl
    obtain ⟨q, hq, rfl⟩ := Option.map_eq_some_iff.mp hl
    exact Int.ceil_le.mpr (h.minimum_le q hq)
  have hupper : ∀ u ∈ (maximum.bind Numeric.exact?).map Int.floor, i ≤ u := by
    intro u hu
    obtain ⟨q, hq, rfl⟩ := Option.map_eq_some_iff.mp hu
    exact Int.le_floor.mpr (h.le_maximum q hq)
  obtain ⟨hle, hge⟩ := between_clampInt hlower hupper value
  exact ⟨fun q hq => Int.ceil_le.mp (hle _ (Option.mem_map_of_mem Int.ceil hq)),
    fun q hq => Int.le_floor.mp (hge _ (Option.mem_map_of_mem Int.floor hq))⟩

end Sample

/-! ## What a schema describes -/

namespace Schema

mutual

/-- **A schema with finite bounds**, and without references in it. -/
def IsBounded : Schema → Prop
  | object _ properties => PropertiesBounded properties
  | array _ items => ItemBounded items
  | string _ _ => True
  | integer _ minimum maximum =>
    (∀ bound ∈ minimum, bound.IsFinite) ∧ ∀ bound ∈ maximum, bound.IsFinite
  | number _ minimum maximum =>
    (∀ bound ∈ minimum, bound.IsInRange) ∧ ∀ bound ∈ maximum, bound.IsInRange
  | boolean _ => True
  | reference _ _ => False
  | bare _ => False

def PropertiesBounded : List (Text × Schema) → Prop
  | [] => True
  | (_, schema) :: rest => schema.IsBounded ∧ PropertiesBounded rest

def ItemBounded : Option Schema → Prop
  | none => True
  | some schema => schema.IsBounded

end

mutual

/-- **A value that a schema describes.** -/
inductive Conforms : Schema → Value → Prop where
  /-- Where a value is proposed it is this one. -/
  | proposed {schema : Schema} {value : Value} (h : schema.declared.value? = some value) :
    Conforms schema value.jsonSafe
  | object {declared : Declared} {properties : List (Text × Schema)} {entries : List (Value × Value)}
    (hnone : declared.value? = none) (h : PropertiesConform properties entries) :
    Conforms (.object declared properties) (.map entries)
  | emptyArray {declared : Declared} (hnone : declared.value? = none) :
    Conforms (.array declared none) (.list [])
  | array {declared : Declared} {items : Schema} {value : Value} (hnone : declared.value? = none)
    (h : Conforms items value) : Conforms (.array declared (some items)) (.list [value])
  | string {declared : Declared} {format : Option Text} {text : Text}
    (hnone : declared.value? = none) : Conforms (.string declared format) (.text text)
  /-- An integer is between the bounds if there is one at all. -/
  | integer {declared : Declared} {minimum maximum : Option Numeric} {found : Int}
    (hnone : declared.value? = none)
    (h : ∀ i, IsBetween minimum maximum i → IsBetween minimum maximum found) :
    Conforms (.integer declared minimum maximum) (.int found)
  | number {declared : Declared} {minimum maximum : Option Numeric} {found : Double}
    (hnone : declared.value? = none) : Conforms (.number declared minimum maximum) (.float found)
  | boolean {declared : Declared} {found : Bool} (hnone : declared.value? = none) :
    Conforms (.boolean declared) (.bool found)

/-- Each property stands under its name, in the order in which they are declared. -/
inductive PropertiesConform : List (Text × Schema) → List (Value × Value) → Prop where
  | nil : PropertiesConform [] []
  | cons {name : Text} {schema : Schema} {value : Value} {rest : List (Text × Schema)}
    {entries : List (Value × Value)} (h : Conforms schema value)
    (hrest : PropertiesConform rest entries) :
    PropertiesConform ((name, schema) :: rest) ((.text name, value) :: entries)

end

end Schema

/-! ## Numbers that can be written down -/

/-- A text, where a sample is made. -/
def Site.IsText (site : Site) : Prop := ∃ declared format, site.schema = .string declared format

/-- **The identifiers among the texts get numbers that can be written down**, if the first identifier gets a
number. -/
def IsShortFrom (identifiers : List Site) (number : Int) : Prop :=
  InTurn (fun site given => site.IsText → IsShort given) identifiers number

section

variable {identifiers more : List Site} {number : Int}

lemma isShortFrom_append : IsShortFrom (identifiers ++ more) number ↔
    IsShortFrom identifiers number ∧ IsShortFrom more (number + identifiers.length) :=
  inTurn_append

lemma isShortFrom_under (position : Nat) :
    IsShortFrom (identifiers.map (Site.under position)) number ↔ IsShortFrom identifiers number :=
  inTurn_map (Site.under position)

end

namespace Sample

/-! ## Samples that are made -/

/-- **A stage that comes to an end exactly if a condition holds for the number that it starts from**, and
then finds something with a property.  Otherwise it stops at a number that cannot be written down. -/
structure Fulfils {α : Type} (condition : Int → Prop) (motive : α → Prop) (stage : Numbering α) :
    Prop where
  of_condition : ∀ number, condition number →
    ∃ a after, startedAt number stage = (.ok a, after) ∧ motive a
  of_not : ∀ number, ¬ condition number →
    ∃ after, startedAt number stage = (.error .tooManyDigits, after)

/-- A condition that always holds. -/
def always (_ : Int) : Prop := True

namespace Fulfils

variable {α β : Type} {condition other : Int → Prop} {motive : α → Prop} {target : β → Prop}
variable {stage : Numbering α} {next : α → Numbering β}

lemma congr (h : Fulfils condition motive stage) (hiff : ∀ number, condition number ↔ other number) :
    Fulfils other motive stage where
  of_condition number hother := h.of_condition number ((hiff number).mpr hother)
  of_not number hother := h.of_not number (hother ∘ (hiff number).mp)

lemma lift {outcome : Except Fault α} (h : Yields motive outcome) :
    Fulfils always motive (liftM outcome) where
  of_condition number _ := by
    obtain ⟨a, rfl, hmotive⟩ := h
    exact ⟨a, number, startedAt_lift number _, hmotive⟩
  of_not _ hnot := (hnot trivial).elim

lemma pure {a : α} (h : motive a) : Fulfils always motive (Pure.pure a) := lift (.ok h)

/-- After a stage that takes a certain number of numbers, the rest of it counts from there. -/
lemma bind {count : Nat} {taken : Int → α → Prop} (htaken : Spends count taken stage)
    (h : Fulfils condition motive stage) (hnext : ∀ a, motive a → Fulfils other target (next a)) :
    Fulfils (fun number => condition number ∧ other (number + count)) target (stage >>= next) where
  of_condition number := by
    rintro ⟨hcondition, hother⟩
    obtain ⟨a, after, hstage, hmotive⟩ := h.of_condition number hcondition
    obtain ⟨rfl, -⟩ := htaken.of_ok hstage
    rw [startedAt_bind_of_ok hstage]
    exact (hnext a hmotive).of_condition _ hother
  of_not number hnot := by
    by_cases hcondition : condition number
    · obtain ⟨a, after, hstage, hmotive⟩ := h.of_condition number hcondition
      obtain ⟨rfl, -⟩ := htaken.of_ok hstage
      rw [startedAt_bind_of_ok hstage]
      exact (hnext a hmotive).of_not _ fun hother => hnot ⟨hcondition, hother⟩
    · obtain ⟨after, hstage⟩ := h.of_not number hcondition
      exact ⟨after, startedAt_bind_of_error hstage next⟩

/-- A stage after which nothing can stop. -/
lemma bind_always (h : Fulfils condition motive stage)
    (hnext : ∀ a, motive a → Fulfils always target (next a)) :
    Fulfils condition target (stage >>= next) where
  of_condition number hcondition := by
    obtain ⟨a, after, hstage, hmotive⟩ := h.of_condition number hcondition
    rw [startedAt_bind_of_ok hstage]
    exact (hnext a hmotive).of_condition after trivial
  of_not number hcondition := by
    obtain ⟨after, hstage⟩ := h.of_not number hcondition
    exact ⟨after, startedAt_bind_of_error hstage next⟩

lemma map {f : α → β} (h : Fulfils condition motive stage) (hf : ∀ a, motive a → target (f a)) :
    Fulfils condition target (stage >>= fun a => Pure.pure (f a)) :=
  h.bind_always fun a ha => pure (hf a ha)

end Fulfils

lemma fulfils_nextNumber : Fulfils always (fun _ => True) nextNumber where
  of_condition number _ := ⟨number, number + 1, startedAt_nextNumber number, trivial⟩
  of_not _ hnot := (hnot trivial).elim

/-- An identifier is written down exactly if its number can be. -/
lemma fulfils_identifierText :
    Fulfils IsShort (fun _ => True) (do integerText (← nextNumber)) where
  of_condition number hshort := by
    rw [startedAt_bind_of_ok (startedAt_nextNumber number)]
    exact (Fulfils.lift (yields_integerText hshort)).of_condition (number + 1) trivial
  of_not number hlong := by
    rw [startedAt_bind_of_ok (startedAt_nextNumber number), startedAt_lift]
    rcases Value.spelled_integerText number with ⟨hshort, -⟩ | ⟨-, hfault⟩
    · exact (hlong (isShort_iff.mpr (of_decide_eq_true hshort))).elim
    · exact ⟨number + 1, by rw [hfault]⟩

lemma isShortFrom_string {name : Text} {declared : Declared} {format : Option Text} {number : Int} :
    IsShortFrom (Site.identifiers [⟨[], name, .string declared format⟩]) number ↔
      (name.lower.contains "id" = true → IsShort number) := by
  have hsite : Site.isIdentifier ⟨[], name, .string declared format⟩ = name.lower.contains "id" := rfl
  have htext : Site.IsText ⟨[], name, .string declared format⟩ := ⟨declared, format, rfl⟩
  by_cases hid : name.lower.contains "id" = true
  · rw [Site.identifiers_of_identifier (hsite.trans hid), IsShortFrom, inTurn_singleton]
    exact ⟨fun h _ => h htext, fun h _ => h hid⟩
  · rw [Site.identifiers_of_other (hsite ▸ hid)]
    exact iff_of_true (inTurn_nil _ number) fun h => (hid h).elim

lemma fulfils_text (name : Text) (declared : Declared) (format : Option Text) :
    Fulfils (IsShortFrom (Site.identifiers [⟨[], name, .string declared format⟩])) (fun _ => True)
      (Sample.text name format) := by
  unfold Sample.text
  dsimp only
  split_ifs with hid
  · exact fulfils_identifierText.congr fun number => by simp only [isShortFrom_string, hid, true_implies]
  · exact (Fulfils.pure trivial).congr fun number =>
      iff_of_true trivial (isShortFrom_string.mpr fun h => (hid h).elim)
  · exact (Fulfils.pure trivial).congr fun number =>
      iff_of_true trivial (isShortFrom_string.mpr fun h => (hid h).elim)

lemma fulfils_plainInteger (name : Text) : Fulfils always (fun _ => True) (plainInteger name) := by
  unfold plainInteger
  dsimp only
  split_ifs
  · exact fulfils_nextNumber
  · exact .pure trivial

lemma fulfils_integer (name : Text) {minimum maximum : Option Numeric}
    (hminimum : ∀ bound ∈ minimum, bound.IsFinite) (hmaximum : ∀ bound ∈ maximum, bound.IsFinite) :
    Fulfils always (fun found => ∀ i, IsBetween minimum maximum i → IsBetween minimum maximum found)
      (Sample.integer name minimum maximum) := by
  have hceil : Yields (· = (minimum.bind Numeric.exact?).map Int.ceil)
      (minimum.mapM (integerBound Double.ceil?)) :=
    ⟨_, mapM_integerBound (fun _ _ => Double.ceil?_of_exact) Int.ceil_intCast hminimum, rfl⟩
  have hfloor : Yields (· = (maximum.bind Numeric.exact?).map Int.floor)
      (maximum.mapM (integerBound Double.floor?)) :=
    ⟨_, mapM_integerBound (fun _ _ => Double.floor?_of_exact) Int.floor_intCast hmaximum, rfl⟩
  refine (fulfils_plainInteger name).bind_always fun value _ => ?_
  refine (Fulfils.lift hceil).bind_always fun lower hlower => ?_
  refine (Fulfils.lift hfloor).bind_always fun upper hupper => ?_
  rw [hlower, hupper]
  exact .pure fun i hi => isBetween_clampInt hi value

/-- A proposal is there whatever number comes next. -/
lemma fulfils_proposedOr {declared : Declared} {motive : Value → Prop} {sites : List Site}
    {other : Numbering Value}
    (hproposed : ∀ value, declared.value? = some value → motive value.jsonSafe)
    (hother : declared.value? = none → Fulfils (IsShortFrom (Site.identifiers sites)) motive other) :
    Fulfils (IsShortFrom (Site.identifiers (declared.sitesOr sites))) motive
      (proposedOr declared other) := by
  unfold proposedOr Declared.sitesOr
  cases hvalue : declared.value? with
  | none => exact hother hvalue
  | some value =>
      exact (Fulfils.pure (hproposed value hvalue)).congr fun number =>
        iff_of_true trivial (inTurn_nil _ number)

/-- Something other than a text can always be written down. -/
lemma isShortFrom_other {site : Site} (h : ¬ site.IsText) (number : Int) :
    IsShortFrom (Site.identifiers [site]) number := by
  intro i found hfound htext
  obtain hmem := List.mem_of_getElem? hfound
  obtain rfl := List.mem_singleton.mp (List.mem_filter.mp hmem).1
  exact (h htext).elim

lemma fulfils_other {site : Site} {motive : Value → Prop} {stage : Numbering Value}
    (hsite : ¬ site.IsText) (h : Fulfils always motive stage) :
    Fulfils (IsShortFrom (Site.identifiers [site])) motive stage :=
  h.congr fun number => iff_of_true trivial (isShortFrom_other hsite number)

mutual

/-- **The sample of a schema conforms to it**, and there is one exactly if its identifiers can be written
down. -/
lemma fulfils_sample (name : Text) : ∀ schema : Schema, schema.IsBounded →
    Fulfils (IsShortFrom (schema.identifiers name)) schema.Conforms (schema.sample name)
  | .object declared properties, h => by
      rw [Schema.IsBounded] at h
      rw [Schema.sample, Schema.identifiers, Schema.sites]
      refine fulfils_proposedOr (fun _ h => .proposed h) fun hnone => ?_
      exact (fulfils_propertySamples 0 properties h).map fun _ => .object hnone
  | .array declared items, h => by
      rw [Schema.IsBounded] at h
      rw [Schema.sample, Schema.identifiers, Schema.sites]
      refine fulfils_proposedOr (fun _ h => .proposed h) fun hnone => ?_
      exact (fulfils_itemSample items h).map fun _ hfound => hfound declared hnone
  | .string declared format, h => by
      rw [Schema.sample, Schema.identifiers, Schema.sites]
      refine fulfils_proposedOr (fun _ h => .proposed h) fun hnone => ?_
      exact (fulfils_text name declared format).map fun _ _ => .string hnone
  | .integer declared minimum maximum, h => by
      rw [Schema.IsBounded] at h
      rw [Schema.sample, Schema.identifiers, Schema.sites]
      refine fulfils_proposedOr (fun _ h => .proposed h) fun hnone => ?_
      refine fulfils_other (by rintro ⟨_, _, ⟨⟩⟩) ?_
      exact (fulfils_integer name h.1 h.2).map fun _ => .integer hnone
  | .number declared minimum maximum, h => by
      rw [Schema.IsBounded] at h
      rw [Schema.sample, Schema.identifiers, Schema.sites]
      refine fulfils_proposedOr (fun _ h => .proposed h) fun hnone => ?_
      refine fulfils_other (by rintro ⟨_, _, ⟨⟩⟩) ?_
      have hnumber := yields_number name (fun bound hbound => hasDouble_of_isInRange (h.1 bound hbound))
        (fun bound hbound => hasDouble_of_isInRange (h.2 bound hbound))
      exact (Fulfils.lift hnumber).map fun _ _ => .number hnone
  | .boolean declared, h => by
      rw [Schema.sample, Schema.identifiers, Schema.sites]
      refine fulfils_proposedOr (fun _ h => .proposed h) fun hnone => ?_
      exact fulfils_other (by rintro ⟨_, _, ⟨⟩⟩) (.pure (.boolean hnone))
  | .reference declared _, h => by
      rw [Schema.IsBounded] at h
      exact h.elim
  | .bare declared, h => by
      rw [Schema.IsBounded] at h
      exact h.elim

lemma fulfils_propertySamples (position : Nat) : ∀ properties : List (Text × Schema),
    Schema.PropertiesBounded properties →
      Fulfils (IsShortFrom (Site.identifiers (Schema.propertySites position properties)))
        (Schema.PropertiesConform properties) (propertySamples properties)
  | [], _ => by
      rw [Schema.propertySites, propertySamples]
      exact (Fulfils.pure .nil).congr fun number => iff_of_true trivial (inTurn_nil _ number)
  | (name, schema) :: rest, h => by
      rw [Schema.PropertiesBounded] at h
      rw [Schema.propertySites, propertySamples, Site.identifiers_append, Site.identifiers_under]
      refine Fulfils.congr (Fulfils.bind (spends_sample name schema) (fulfils_sample name schema h.1)
        fun value hvalue => (fulfils_propertySamples (position + 1) rest h.2).map fun _ => .cons hvalue) ?_
      intro number
      rw [isShortFrom_append, isShortFrom_under, List.length_map]
      rfl

lemma fulfils_itemSample : ∀ items : Option Schema, Schema.ItemBounded items →
    Fulfils (IsShortFrom (Site.identifiers (Schema.itemSites items)))
      (fun found => ∀ declared : Declared, declared.value? = none →
        Schema.Conforms (.array declared items) (.list found)) (itemSample items)
  | none, _ => by
      rw [Schema.itemSites, itemSample]
      exact (Fulfils.pure fun _ => .emptyArray).congr fun number =>
        iff_of_true trivial (inTurn_nil _ number)
  | some schema, h => by
      rw [Schema.ItemBounded] at h
      rw [Schema.itemSites, itemSample, Site.identifiers_under]
      refine Fulfils.congr ((fulfils_sample [] schema h).map fun _ hvalue _ hnone => .array hnone hvalue) ?_
      exact fun number => (isShortFrom_under 0).symm

end

end Sample

namespace Synthesizer

section

variable {synthesizer : Synthesizer} {schema : Schema} {name : Text}

lemma conforms_synthesize (hbounded : schema.IsBounded)
    (hshort : IsShortFrom (schema.identifiers name) synthesizer.start) :
    Yields schema.Conforms (synthesizer.synthesize schema name).1 := by
  obtain ⟨value, after, hsample, hconforms⟩ :=
    (Sample.fulfils_sample name schema hbounded).of_condition _ hshort
  rw [startedAt_sample] at hsample
  exact ⟨value, (Prod.mk.inj hsample).1, hconforms⟩

lemma synthesize_of_long (hbounded : schema.IsBounded)
    (hlong : ¬ IsShortFrom (schema.identifiers name) synthesizer.start) :
    (synthesizer.synthesize schema name).1 = .error .tooManyDigits := by
  obtain ⟨after, hsample⟩ := (Sample.fulfils_sample name schema hbounded).of_not _ hlong
  rw [startedAt_sample] at hsample
  exact (Prod.mk.inj hsample).1

end

/-- **Samples conform to their schemas.**  A sample is made exactly if the identifiers among its texts can
be written down; otherwise the making of it stops. -/
theorem sample_conforms (synthesizer : Synthesizer) {schema : Schema} (hbounded : schema.IsBounded)
    (name : Text) :
    (IsShortFrom (schema.identifiers name) synthesizer.start →
      Yields schema.Conforms (synthesizer.synthesize schema name).1) ∧
      (¬ IsShortFrom (schema.identifiers name) synthesizer.start →
        (synthesizer.synthesize schema name).1 = .error .tooManyDigits) :=
  ⟨conforms_synthesize hbounded, synthesize_of_long hbounded⟩

/-- An order with a number between two and a half and nine, and a list of remarks. -/
def order : Schema :=
  .object .none [("orderId", .integer .none (some (.float (.ofRatio false 5 2))) (some (.int 9))),
    ("remarks", .array .none (some (.string .none none)))]

theorem sample_conforms_order :
    order.IsBounded ∧ IsShortFrom (order.identifiers []) 1 ∧
      Yields order.Conforms ((fresh 1).synthesize order []).1 := by
  have hbounded : order.IsBounded := by
    simp only [order, Schema.IsBounded, Schema.PropertiesBounded, Schema.ItemBounded, and_true]
    refine ⟨?_, ?_⟩ <;> rintro _ ⟨⟩ <;> exact ⟨_, rfl⟩
  have hshort : IsShortFrom (order.identifiers []) 1 := by
    have hidentifiers : order.identifiers [] = [⟨[0], "orderId",
      .integer .none (some (.float (.ofRatio false 5 2))) (some (.int 9))⟩] := rfl
    rw [hidentifiers, IsShortFrom, inTurn_singleton]
    rintro ⟨_, _, ⟨⟩⟩
  exact ⟨hbounded, hshort, (sample_conforms (fresh 1) hbounded []).1 hshort⟩

/-- Two identifiers that are texts. -/
def receipt : Schema :=
  .object .none [("orderId", .string .none none), ("userId", .string .none none)]

/-- The last number that can be written down. -/
def lastNumber : Int := (Nat.pow 10 maxDigits : Nat) - 1

/-- **The making of a sample can stop**, at an identifier that cannot be written down. -/
theorem synthesize_receipt :
    receipt.IsBounded ∧ ((fresh lastNumber).synthesize receipt []).1 = .error .tooManyDigits := by
  have hbounded : receipt.IsBounded := by
    simp only [receipt, Schema.IsBounded, Schema.PropertiesBounded, and_self]
  have hlong : ¬ IsShortFrom (receipt.identifiers []) lastNumber := by
    intro h
    have hshort := h 1 ⟨[1], "userId", .string .none none⟩ rfl ⟨_, _, rfl⟩
    rw [isShort_iff, lastNumber, Int.natCast_one, Int.sub_add_cancel, Int.natAbs_natCast] at hshort
    exact Nat.lt_irrefl _ hshort
  exact ⟨hbounded, synthesize_of_long hbounded hlong⟩

end Synthesizer

end LoadPlan
