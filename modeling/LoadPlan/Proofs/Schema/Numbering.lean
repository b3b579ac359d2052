import LoadPlan.Proofs.Value.Spelling
import LoadPlan.Schema.Sample

/-!
# The numbers of identifiers

The identifiers of a sample are numbered one after another, and nothing else takes a number.

* `Site`, `Schema.sites` — the schemas in a schema for which a sample is made, each with its place and
  its name.
* `Schema.sites_sorted` — they are listed in the order of their places.
* `Schema.identifiers` — the texts and integers among them whose name says that they are identifiers.
* `Value.at?` — the value at a place.
* `InTurn` — identifiers that get numbers in turn.
* `Numbered` — a value that shows these numbers.
* `Sample.Spends` — a stage of making a sample that takes a certain number of numbers.
* **`Sample.spends_sample`** — the numbers that the sample of a schema takes.
* **`Synthesizer.identifiers_numbered`** — this for every sample, whatever was made before it.
-/

namespace LoadPlan

/-! ## Sites -/

/-- **A schema for which a sample is made**, in a larger one. -/
structure Site where
  /-- The positions that lead to it, of properties and of items. -/
  place : List Nat
  /-- The name of the property that it is for, which is empty where there is none. -/
  name : Text
  schema : Schema

namespace Site

/-- The same site in a schema that has its own at a position. -/
def under (position : Nat) (site : Site) : Site := { site with place := position :: site.place }

/-- **An identifier**: a text or an integer whose name says so. -/
def isIdentifier (site : Site) : Bool :=
  match site.schema with
  | .string _ _ | .integer _ _ _ => site.name.lower.contains "id"
  | _ => false

/-- The identifiers among some sites. -/
def identifiers (sites : List Site) : List Site := sites.filter isIdentifier

lemma identifiers_of_identifier {site : Site} (h : site.isIdentifier = true) :
    identifiers [site] = [site] := List.filter_cons_of_pos h

lemma identifiers_of_other {site : Site} (h : ¬ site.isIdentifier = true) : identifiers [site] = [] :=
  List.filter_cons_of_neg h

lemma identifiers_append (sites more : List Site) :
    identifiers (sites ++ more) = identifiers sites ++ identifiers more := List.filter_append sites more

lemma identifiers_under (position : Nat) (sites : List Site) :
    identifiers (sites.map (under position)) = (identifiers sites).map (under position) :=
  List.filter_map

end Site

/-- Sites, unless a value is proposed. -/
def Declared.sitesOr (declared : Declared) (sites : List Site) : List Site :=
  if declared.value?.isSome then [] else sites

namespace Schema

mutual

/-- **The schemas for which a sample is made**, in the order in which they are declared.  None is made
where a value is proposed. -/
def sites (name : Text) : Schema → List Site
  | object declared properties =>
    declared.sitesOr (⟨[], name, object declared properties⟩ :: propertySites 0 properties)
  | array declared items => declared.sitesOr (⟨[], name, array declared items⟩ :: itemSites items)
  | string declared format => declared.sitesOr [⟨[], name, string declared format⟩]
  | integer declared minimum maximum =>
    declared.sitesOr [⟨[], name, integer declared minimum maximum⟩]
  | number declared minimum maximum => declared.sitesOr [⟨[], name, number declared minimum maximum⟩]
  | boolean declared => declared.sitesOr [⟨[], name, boolean declared⟩]
  | reference declared pointer => declared.sitesOr [⟨[], name, reference declared pointer⟩]
  | bare declared => declared.sitesOr [⟨[], name, bare declared⟩]

/-- The sites in properties, of which the first has a position. -/
def propertySites (position : Nat) : List (Text × Schema) → List Site
  | [] => []
  | (name, schema) :: rest =>
    (schema.sites name).map (Site.under position) ++ propertySites (position + 1) rest

def itemSites : Option Schema → List Site
  | none => []
  | some schema => (schema.sites []).map (Site.under 0)

end

/-- **The identifiers of a schema**, in the order in which they are declared. -/
def identifiers (name : Text) (schema : Schema) : List Site := Site.identifiers (schema.sites name)

/-! ### The order of sites -/

/-- The sites in properties are at positions from the first one on. -/
lemma exists_of_mem_propertySites {properties : List (Text × Schema)} {position : Nat} {site : Site}
    (h : site ∈ propertySites position properties) :
    ∃ p rest, site.place = p :: rest ∧ position ≤ p := by
  induction properties generalizing position with
  | nil =>
      rw [propertySites] at h
      cases h
  | cons property rest ih =>
      rw [propertySites, List.mem_append, List.mem_map] at h
      rcases h with ⟨inner, -, rfl⟩ | h
      · exact ⟨position, inner.place, rfl, Nat.le_refl _⟩
      · obtain ⟨p, others, hplace, hle⟩ := ih h
        exact ⟨p, others, hplace, by omega⟩

/-- Sites in the order of their places: one that others are in is before them, and of two properties the
first is. -/
def IsSorted (sites : List Site) : Prop := (sites.map Site.place).Pairwise (· < ·)

lemma IsSorted.under {sites : List Site} (h : IsSorted sites) (position : Nat) :
    IsSorted (sites.map (Site.under position)) := by
  rw [IsSorted, List.pairwise_map] at h
  rw [IsSorted, List.map_map, List.pairwise_map]
  exact h.imp fun hlt => List.cons_lt_cons_iff.mpr (.inr ⟨rfl, hlt⟩)

lemma isSorted_cons {sites : List Site} (h : IsSorted sites)
    (hplaces : ∀ site ∈ sites, site.place ≠ []) (name : Text) (schema : Schema) :
    IsSorted (⟨[], name, schema⟩ :: sites) := by
  refine List.pairwise_cons.mpr ⟨fun place hplace => ?_, h⟩
  obtain ⟨site, hsite, rfl⟩ := List.mem_map.mp hplace
  obtain ⟨position, rest, hcons⟩ := List.exists_cons_of_ne_nil (hplaces site hsite)
  rw [hcons]
  exact List.nil_lt_cons position rest

lemma isSorted_sitesOr {sites : List Site} (h : IsSorted sites) (declared : Declared) :
    IsSorted (declared.sitesOr sites) := by
  unfold Declared.sitesOr
  split_ifs
  · exact List.Pairwise.nil
  · exact h

lemma isSorted_singleton (site : Site) : IsSorted [site] := List.pairwise_singleton _ site.place

mutual

/-- **Sites are listed in the order of their places.** -/
lemma sites_sorted (name : Text) : ∀ schema : Schema, IsSorted (schema.sites name)
  | object declared properties => by
      rw [sites]
      refine isSorted_sitesOr (isSorted_cons (propertySites_sorted 0 properties) ?_ name _) declared
      intro site hsite
      obtain ⟨p, rest, hplace, -⟩ := exists_of_mem_propertySites hsite
      rw [hplace]
      exact List.cons_ne_nil p rest
  | array declared items => by
      rw [sites]
      refine isSorted_sitesOr (isSorted_cons (itemSites_sorted items) ?_ name _) declared
      intro site hsite
      cases items with
      | none => cases hsite
      | some schema =>
          obtain ⟨inner, -, rfl⟩ := List.mem_map.mp hsite
          exact List.cons_ne_nil 0 inner.place
  | string declared _ | integer declared _ _ | number declared _ _ | boolean declared
  | reference declared _ | bare declared => isSorted_sitesOr (isSorted_singleton _) declared

lemma propertySites_sorted (position : Nat) :
    ∀ properties : List (Text × Schema), IsSorted (propertySites position properties)
  | [] => List.Pairwise.nil
  | (name, schema) :: rest => by
      rw [propertySites, IsSorted, List.map_append, List.pairwise_append]
      refine ⟨(sites_sorted name schema).under position, propertySites_sorted (position + 1) rest, ?_⟩
      intro first hfirst second hsecond
      obtain ⟨_, hinner, rfl⟩ := List.mem_map.mp hfirst
      obtain ⟨inner, -, rfl⟩ := List.mem_map.mp hinner
      obtain ⟨site, hsite, rfl⟩ := List.mem_map.mp hsecond
      obtain ⟨p, others, hplace, hle⟩ := exists_of_mem_propertySites hsite
      rw [hplace]
      exact List.cons_lt_cons_iff.mpr (.inl (by omega))

lemma itemSites_sorted : ∀ items : Option Schema, IsSorted (itemSites items)
  | none => List.Pairwise.nil
  | some schema => (sites_sorted [] schema).under 0

end

end Schema

/-! ## Values at places -/

/-- **The value at a place**: at each position is that of an entry or an item. -/
def Value.at? : List Nat → Value → Option Value
  | [], value => some value
  | position :: rest, .map entries => entries[position]?.bind fun entry => at? rest entry.2
  | position :: rest, .list items => items[position]?.bind (at? rest)
  | _ :: _, _ => none

lemma Value.at?_entry (front : List (Value × Value)) (key value : Value)
    (back : List (Value × Value)) (rest : List Nat) :
    (map (front ++ (key, value) :: back)).at? (front.length :: rest) = value.at? rest := by
  rw [at?, List.getElem?_append_right (Nat.le_refl _), Nat.sub_self]
  rfl

/-- **What a number becomes in a sample**: it is written down, or it is moved between the bounds. -/
inductive Schema.ShowsNumber (number : Int) : Schema → Value → Prop where
  | text {declared : Declared} {format : Option Text} :
    ShowsNumber number (.string declared format) (.text (Text.ofInt number))
  | integer {declared : Declared} {minimum maximum : Option Numeric} {lower upper : Option Int}
    (hlower : minimum.mapM (Sample.integerBound Double.ceil?) = .ok lower)
    (hupper : maximum.mapM (Sample.integerBound Double.floor?) = .ok upper) :
    ShowsNumber number (.integer declared minimum maximum)
      (.int (Sample.clampInt number lower upper))

/-! ## Numbers in turn -/

/-- **Identifiers get numbers in turn**, the first of them a given one, and each has a property with its
number. -/
def InTurn (property : Site → Int → Prop) (identifiers : List Site) (number : Int) : Prop :=
  ∀ (i : Nat) (site : Site), identifiers[i]? = some site → property site (number + i)

section

variable {property other : Site → Int → Prop} {identifiers more : List Site} {number : Int}

lemma inTurn_nil (property : Site → Int → Prop) (number : Int) : InTurn property [] number := by
  rintro i site ⟨⟩

lemma inTurn_singleton {site : Site} : InTurn property [site] number ↔ property site number := by
  constructor
  · intro h
    have hsite := h 0 site rfl
    rwa [Int.natCast_zero, Int.add_zero] at hsite
  · rintro h (_ | i) found hfound
    · obtain rfl := Option.some.inj hfound
      rwa [Int.natCast_zero, Int.add_zero]
    · cases hfound

lemma inTurn_append :
    InTurn property (identifiers ++ more) number ↔
      InTurn property identifiers number ∧ InTurn property more (number + identifiers.length) := by
  constructor
  · refine fun h => ⟨fun i site hsite => h i site ?_, fun i site hsite => ?_⟩
    · rw [List.getElem?_append_left (List.getElem?_eq_some_iff.mp hsite).1]
      exact hsite
    · rw [Int.add_assoc, ← Int.natCast_add]
      refine h _ site ?_
      rw [List.getElem?_append_right (Nat.le_add_right _ i), Nat.add_sub_cancel_left]
      exact hsite
  · rintro ⟨h, hmore⟩ i site hsite
    rw [List.getElem?_append] at hsite
    split_ifs at hsite with hi
    · exact h i site hsite
    · have hproperty := hmore _ site hsite
      rwa [Int.add_assoc, ← Int.natCast_add, Nat.add_sub_cancel' (Nat.le_of_not_lt hi)] at hproperty

lemma inTurn_map (f : Site → Site) :
    InTurn property (identifiers.map f) number ↔
      InTurn (fun site => property (f site)) identifiers number := by
  constructor
  · intro h i site hsite
    refine h i (f site) ?_
    rw [List.getElem?_map, hsite]
    rfl
  · intro h i site hsite
    rw [List.getElem?_map, Option.map_eq_some_iff] at hsite
    obtain ⟨site, hsite, rfl⟩ := hsite
    exact h i site hsite

lemma InTurn.imp (h : InTurn property identifiers number)
    (himp : ∀ site number, property site number → other site number) :
    InTurn other identifiers number :=
  fun i site hsite => himp site _ (h i site hsite)

end

/-- **Identifiers are numbered** in a value, from a number on. -/
def Numbered (identifiers : List Site) (number : Int) (value : Value) : Prop :=
  InTurn (fun site given => ∃ found, value.at? site.place = some found ∧
    site.schema.ShowsNumber given found) identifiers number

namespace Numbered

variable {identifiers more : List Site} {number : Int} {value inner : Value}

lemma nil : Numbered [] number value := inTurn_nil _ number

lemma singleton {name : Text} {schema : Schema} (h : schema.ShowsNumber number value) :
    Numbered [⟨[], name, schema⟩] number value :=
  inTurn_singleton.mpr ⟨value, rfl, h⟩

lemma append (h : Numbered identifiers number value)
    (hmore : Numbered more (number + identifiers.length) value) :
    Numbered (identifiers ++ more) number value :=
  inTurn_append.mpr ⟨h, hmore⟩

lemma under {position : Nat} (h : Numbered identifiers number inner)
    (hat : ∀ rest, value.at? (position :: rest) = inner.at? rest) :
    Numbered (identifiers.map (Site.under position)) number value := by
  refine (inTurn_map _).mpr (h.imp fun site given hshown => ?_)
  obtain ⟨found, hfound, hshows⟩ := hshown
  exact ⟨found, (hat site.place).trans hfound, hshows⟩

end Numbered

namespace Sample

/-! ## Numbers that are taken -/

/-- **A stage that takes a certain number of numbers**, and finds something that fits to the first of them
if it comes to an end. -/
structure Spends {α : Type} (count : Nat) (motive : Int → α → Prop) (stage : Numbering α) : Prop where
  /-- If it comes to an end, it has taken them all. -/
  of_ok : ∀ {number a after}, startedAt number stage = (.ok a, after) →
    after = number + count ∧ motive number a
  /-- If it stops, it may have taken some of them. -/
  of_error : ∀ {number fault after}, startedAt number stage = (.error fault, after) →
    number ≤ after ∧ after ≤ number + count

namespace Spends

variable {α β : Type} {motive : Int → α → Prop} {target : Int → β → Prop} {n m : Nat}
variable {stage : Numbering α}

lemma imp {other : Int → α → Prop} (h : Spends n motive stage)
    (himp : ∀ number a, motive number a → other number a) : Spends n other stage where
  of_ok hstage := ⟨(h.of_ok hstage).1, himp _ _ (h.of_ok hstage).2⟩
  of_error := h.of_error

lemma lift {outcome : Except Fault α} (h : ∀ number a, outcome = .ok a → motive number a) :
    Spends 0 motive (liftM outcome) where
  of_ok {number a after} hstage := by
    rw [startedAt_lift] at hstage
    obtain ⟨rfl, rfl⟩ := Prod.mk.inj hstage
    exact ⟨(Int.add_zero number).symm, h number a rfl⟩
  of_error {number fault after} hstage := by
    rw [startedAt_lift] at hstage
    obtain ⟨-, rfl⟩ := Prod.mk.inj hstage
    exact ⟨Int.le_refl number, Int.le_of_eq (Int.add_zero number).symm⟩

lemma pure {a : α} (h : ∀ number, motive number a) : Spends 0 motive (Pure.pure a) := by
  have hlift : Spends 0 motive (liftM (Except.ok a : Except Fault α)) :=
    lift fun number _ ha => Except.ok.inj ha ▸ h number
  exact hlift

/-- Where a stage stops, nothing is found. -/
lemma throw {fault : Fault} : Spends 0 motive (throwThe Fault fault : Numbering α) := by
  have hlift : Spends 0 motive (liftM (Except.error fault : Except Fault α)) :=
    lift (by rintro _ _ ⟨⟩)
  exact hlift

/-- What is found after a stage fits to the number that this leaves. -/
lemma bind {next : α → Numbering β} (h : Spends n motive stage)
    (hnext : ∀ a, Spends m (fun after b => ∀ number, after = number + n → motive number a →
      target number b) (next a)) :
    Spends (n + m) target (stage >>= next) where
  of_ok {number b last} hstage := by
    rcases hfirst : startedAt number stage with ⟨_ | a, after⟩
    · rw [startedAt_bind_of_error hfirst] at hstage
      cases hstage
    · rw [startedAt_bind_of_ok hfirst] at hstage
      obtain ⟨hafter, hmotive⟩ := h.of_ok hfirst
      obtain ⟨hlast, htarget⟩ := (hnext a).of_ok hstage
      exact ⟨by omega, htarget number hafter hmotive⟩
  of_error {number fault last} hstage := by
    rcases hfirst : startedAt number stage with ⟨_ | a, after⟩
    · rw [startedAt_bind_of_error hfirst] at hstage
      obtain ⟨-, rfl⟩ := Prod.mk.inj hstage
      have hle := h.of_error hfirst
      omega
    · rw [startedAt_bind_of_ok hfirst] at hstage
      have hafter := (h.of_ok hfirst).1
      have hle := (hnext a).of_error hstage
      omega

lemma map {f : α → β} (h : Spends n motive stage)
    (hf : ∀ number a, motive number a → target number (f a)) :
    Spends n target (stage >>= fun a => Pure.pure (f a)) :=
  h.bind (m := 0) fun a => pure fun _ number _ => hf number a

end Spends

lemma spends_nextNumber : Spends 1 (fun number found => found = number) nextNumber where
  of_ok hstage := by
    rw [startedAt_nextNumber] at hstage
    obtain ⟨hfound, rfl⟩ := Prod.mk.inj hstage
    exact ⟨rfl, (Except.ok.inj hfound).symm⟩
  of_error hstage := by
    rw [startedAt_nextNumber] at hstage
    cases hstage

/-- Whether a name is that of an identifier, as a number of numbers. -/
def takenBy (name : Text) : Nat := if name.lower.contains "id" then 1 else 0

lemma spends_text (name : Text) (format : Option Text) :
    Spends (takenBy name)
      (fun number text => name.lower.contains "id" = true → text = Text.ofInt number)
      (Sample.text name format) := by
  unfold Sample.text takenBy
  dsimp only
  split_ifs with hid
  · refine spends_nextNumber.bind (m := 0) fun number => .lift ?_
    rintro after text htext number hafter rfl -
    exact (integerText_eq_ok_iff.mp htext).2
  · exact .pure fun _ h => (hid h).elim
  · exact .pure fun _ h => (hid h).elim

lemma spends_plainInteger (name : Text) :
    Spends (takenBy name)
      (fun number found => name.lower.contains "id" = true → found = number)
      (plainInteger name) := by
  unfold plainInteger takenBy
  dsimp only
  split_ifs with hid
  · exact spends_nextNumber.imp fun _ _ h _ => h
  · exact .pure fun _ h => (hid h).elim

lemma spends_integer (name : Text) (declared : Declared) (minimum maximum : Option Numeric) :
    Spends (takenBy name)
      (fun number found => name.lower.contains "id" = true →
        (Schema.integer declared minimum maximum).ShowsNumber number (.int found))
      (Sample.integer name minimum maximum) := by
  refine (spends_plainInteger name).bind (m := 0) fun value => ?_
  refine Spends.bind (n := 0) (m := 0) (.lift fun _ _ hlower => hlower) fun lower => ?_
  refine Spends.bind (n := 0) (m := 0) (.lift fun _ _ hupper => hupper) fun upper => ?_
  refine .pure fun _ _ _ hupper _ _ hlower number _ hvalue hid => ?_
  rw [hvalue hid]
  exact .integer hlower hupper

/-- **A stage that takes a number for each identifier among some sites**, in turn. -/
def SpendsOn {α : Type} (sites : List Site) (shape : α → Value) (stage : Numbering α) : Prop :=
  Spends (Site.identifiers sites).length
    (fun number a => Numbered (Site.identifiers sites) number (shape a)) stage

lemma spendsOn_proposedOr {sites : List Site} {other : Numbering Value} (h : SpendsOn sites id other)
    (declared : Declared) : SpendsOn (declared.sitesOr sites) id (proposedOr declared other) := by
  unfold proposedOr Declared.sitesOr
  cases declared.value? with
  | none => exact h
  | some value => exact .pure fun _ => .nil

/-- A text or an integer takes a number if it is an identifier. -/
lemma spendsOn_singleton {name : Text} {schema : Schema} {stage : Numbering Value}
    (hidentifier : Site.isIdentifier ⟨[], name, schema⟩ = name.lower.contains "id")
    (h : Spends (takenBy name)
      (fun number value => name.lower.contains "id" = true → schema.ShowsNumber number value) stage) :
    SpendsOn [⟨[], name, schema⟩] id stage := by
  unfold takenBy at h
  unfold SpendsOn
  split_ifs at h with hid
  · rw [Site.identifiers_of_identifier (hidentifier.trans hid)]
    exact h.imp fun _ _ hvalue => .singleton (hvalue hid)
  · rw [Site.identifiers_of_other (hidentifier ▸ hid)]
    exact h.imp fun _ _ _ => .nil

lemma spendsOn_other {site : Site} (hother : site.isIdentifier = false) {stage : Numbering Value}
    (h : Spends 0 (fun _ _ => True) stage) : SpendsOn [site] id stage := by
  rw [SpendsOn, Site.identifiers_of_other (ne_true_of_eq_false hother)]
  exact h.imp fun _ _ _ => .nil

mutual

/-- **The numbers that the sample of a schema takes.** -/
lemma spends_sample (name : Text) : ∀ schema : Schema,
    SpendsOn (schema.sites name) id (schema.sample name)
  | .object declared properties => by
      rw [Schema.sample, Schema.sites]
      refine spendsOn_proposedOr ?_ declared
      exact (spends_propertySamples [] properties).map fun _ _ h => h
  | .array declared items => by
      rw [Schema.sample, Schema.sites]
      refine spendsOn_proposedOr ?_ declared
      exact (spends_itemSample items).map fun _ _ h => h
  | .string declared format => by
      rw [Schema.sample, Schema.sites]
      refine spendsOn_proposedOr (spendsOn_singleton rfl ((spends_text name format).map ?_)) declared
      rintro number _ htext hid
      rw [htext hid]
      exact .text
  | .integer declared minimum maximum => by
      rw [Schema.sample, Schema.sites]
      refine spendsOn_proposedOr (spendsOn_singleton rfl ?_) declared
      exact (spends_integer name declared minimum maximum).map fun _ _ h => h
  | .number declared minimum maximum => by
      rw [Schema.sample, Schema.sites]
      refine spendsOn_proposedOr (spendsOn_other rfl ?_) declared
      exact Spends.map (motive := fun _ _ => True) (.lift fun _ _ _ => trivial) fun _ _ h => h
  | .boolean declared => by
      rw [Schema.sample, Schema.sites]
      exact spendsOn_proposedOr (spendsOn_other rfl (.pure fun _ => trivial)) declared
  | .reference declared _ => by
      rw [Schema.sample, Schema.sites]
      exact spendsOn_proposedOr (spendsOn_other rfl (.pure fun _ => trivial)) declared
  | .bare declared => by
      rw [Schema.sample, Schema.sites]
      exact spendsOn_proposedOr (spendsOn_other rfl .throw) declared

lemma spends_propertySamples (front : List (Value × Value)) : ∀ properties : List (Text × Schema),
    SpendsOn (Schema.propertySites front.length properties) (fun entries => .map (front ++ entries))
      (propertySamples properties)
  | [] => by
      rw [Schema.propertySites, propertySamples]
      exact .pure fun _ => .nil
  | (name, schema) :: rest => by
      rw [Schema.propertySites, propertySamples, SpendsOn, Site.identifiers_append,
        Site.identifiers_under, List.length_append, List.length_map]
      refine (spends_sample name schema).bind fun value => ?_
      -- for the rest of the properties this one is in front
      have hrest := spends_propertySamples (front ++ [(.text name, value)]) rest
      rw [List.length_append, List.length_singleton] at hrest
      refine hrest.map fun after entries hentries number hafter hvalue => ?_
      dsimp only at hentries
      rw [List.append_assoc, List.singleton_append] at hentries
      refine (Numbered.under hvalue fun place => Value.at?_entry front _ value entries place).append ?_
      rw [List.length_map, ← hafter]
      exact hentries

lemma spends_itemSample : ∀ items : Option Schema,
    SpendsOn (Schema.itemSites items) Value.list (itemSample items)
  | none => by
      rw [Schema.itemSites, itemSample]
      exact .pure fun _ => .nil
  | some schema => by
      rw [Schema.itemSites, itemSample, SpendsOn, Site.identifiers_under, List.length_map]
      exact (spends_sample [] schema).map fun _ _ hvalue => hvalue.under fun _ => rfl

end

end Sample

namespace Synthesizer

/-! ## Samples one after another -/

/-- A sample does not depend on what was made before it. -/
lemma synthesize_fresh (synthesizer : Synthesizer) (schema : Schema) (name : Text) :
    (synthesizer.synthesize schema name).1 = ((fresh synthesizer.start).synthesize schema name).1 := rfl

lemma start_synthesize (synthesizer : Synthesizer) (schema : Schema) (name : Text) :
    (synthesizer.synthesize schema name).2.start = synthesizer.start := rfl

lemma series_cons (synthesizer : Synthesizer) (call : Schema × Text) (rest : List (Schema × Text)) :
    synthesizer.series (call :: rest) =
      (synthesizer.synthesize call.1 call.2).1 ::
        (synthesizer.synthesize call.1 call.2).2.series rest := rfl

/-- **Samples do not depend on each other**, not even where the making of one stops. -/
lemma series_eq (synthesizer : Synthesizer) (calls : List (Schema × Text)) :
    synthesizer.series calls =
      calls.map fun call => ((fresh synthesizer.start).synthesize call.1 call.2).1 := by
  induction calls generalizing synthesizer with
  | nil => rfl
  | cons call rest ih =>
      rw [series_cons, List.map_cons, synthesize_fresh, ih, start_synthesize]

lemma startedAt_sample (synthesizer : Synthesizer) (schema : Schema) (name : Text) :
    Sample.startedAt synthesizer.start (schema.sample name) =
      ((synthesizer.synthesize schema name).1, (synthesizer.synthesize schema name).2.next) := rfl

/-- **Identifiers are numbered one after another.**  In each sample they get the numbers from the start on,
in the order of their places, and nothing else takes a number; and samples do not depend on each
other. -/
theorem identifiers_numbered (synthesizer : Synthesizer) :
    (∀ (schema : Schema) (name : Text), Schema.IsSorted (schema.identifiers name) ∧
      (∀ value, (synthesizer.synthesize schema name).1 = .ok value →
        (synthesizer.synthesize schema name).2.next =
          synthesizer.start + (schema.identifiers name).length ∧
        Numbered (schema.identifiers name) synthesizer.start value) ∧
      ∀ fault, (synthesizer.synthesize schema name).1 = .error fault →
        synthesizer.start ≤ (synthesizer.synthesize schema name).2.next ∧
        (synthesizer.synthesize schema name).2.next ≤
          synthesizer.start + (schema.identifiers name).length) ∧
      ∀ calls, synthesizer.series calls =
        calls.map fun call => ((fresh synthesizer.start).synthesize call.1 call.2).1 := by
  refine ⟨fun schema name => ⟨?_, fun value h => ?_, fun fault h => ?_⟩, series_eq synthesizer⟩
  · exact (Schema.sites_sorted name schema).sublist ((List.filter_sublist).map Site.place)
  · exact (Sample.spends_sample name schema).of_ok
      ((startedAt_sample synthesizer schema name).trans (Prod.ext h rfl))
  · exact (Sample.spends_sample name schema).of_error
      ((startedAt_sample synthesizer schema name).trans (Prod.ext h rfl))

/-- The number of an order is moved up to its bound, and the one of its customer follows the number that
it got. -/
theorem identifiers_numbered_order :
    let order : Schema := .object .none
      [("orderId", .integer .none (some (.int 100)) none),
        ("customer", .object .none [("name", .string .none none), ("userId", .integer .none none none)])]
    let sample : Value := .map [(.text "orderId", .int 100), (.text "customer", .map
      [(.text "name", .text "sampleName"), (.text "userId", .int 8)])]
    ((fresh 7).synthesize order []).1 = .ok sample ∧
      ((fresh 7).synthesize order []).2.next = 9 ∧ Numbered (order.identifiers []) 7 sample := by
  intro order sample
  have hsample : ((fresh 7).synthesize order []).1 = .ok sample := by
    rfl
  obtain ⟨-, hok, -⟩ := (identifiers_numbered (fresh 7)).1 order []
  exact ⟨hsample, hok sample hsample⟩

end Synthesizer

end LoadPlan
