import LoadPlan.Proofs.Schema.Course
import LoadPlan.Proofs.Schema.Sampling

/-!
# Sound documents have sound schemas

In a sound document every reference can be followed or is remarked on, and the resolution of a value
comes to an end with a schema whose sample can be made.

* `yields_target` — a sound reference leads to a sound mapping, or nowhere.
* `Schema.Fits` — a sound schema with no more than a number of schemas in it.
* **`Resolver.yields_run`** — a sound value has a sound schema.  Each level that a reference is followed on
  multiplies the number of schemas by no more than the number of values in the document.
-/

namespace LoadPlan

open Value

/-! ## References -/

namespace Pointer

variable {limit : Nat}

lemma yields_position {token : Text} (h : (readInteger? 10 token.toChars).isSome = true) :
    Yields (fun _ => True) (position token) := by
  obtain ⟨i, hi⟩ := Option.isSome_iff_exists.mp h
  unfold position
  rw [hi]
  exact .ok trivial

/-- A step leads to a part. -/
lemma yields_step {token : Text}
    (htoken : token.isDigits = true → (readInteger? 10 token.toChars).isSome = true) {value : Value}
    (h : value.IsSound limit) :
    Yields (fun found => ∀ v, found = some v → v.IsSound limit) (step token value) := by
  unfold step
  split
  · refine .ok fun v hv => (h.get? hv).1
  · split_ifs with hdigits
    · refine (yields_position (htoken hdigits)).map fun n _ v hv => ?_
      exact h.of_mem v (List.mem_of_getElem? hv)
    · exact .ok_none
  · exact .ok_none

lemma yields_walk : ∀ {tokens : List Text} {value : Value},
    (∀ token ∈ tokens, token.isDigits = true → (readInteger? 10 token.toChars).isSome = true) →
      value.IsSound limit →
        Yields (fun found => ∀ v, found = some v → v.IsSound limit) (walk tokens value)
  | [], value, _, h => .ok_some h
  | token :: tokens, value, htokens, h => by
      rw [List.forall_mem_cons] at htokens
      refine (yields_step htokens.1 h).bind fun found hfound => ?_
      cases found with
      | none => exact .ok_none
      | some next => exact yields_walk htokens.2 (hfound next rfl)

/-- **A sound reference leads to a sound mapping**, or nowhere. -/
lemma yields_target {document : Value} {reference : Text} (hreference : isSound reference = true)
    (h : document.IsSound limit) :
    Yields (fun found => ∀ entries, found = some entries → (Value.map entries).IsSound limit)
      (target document reference) := by
  unfold target
  cases htokens : tokens? reference with
  | none => exact .ok_none
  | some tokens =>
      rw [isSound, htokens, Option.getD_some, List.all_eq_true] at hreference
      have hpositions : ∀ token ∈ tokens,
          token.isDigits = true → (readInteger? 10 token.toChars).isSome = true := by
        intro token hmem hdigits
        have hsome := hreference token hmem
        rw [hdigits] at hsome
        exact hsome
      refine (yields_walk hpositions h).map fun found hfound entries hentries => ?_
      obtain ⟨v, rfl, hv⟩ := Option.bind_eq_some_iff.mp hentries
      exact (hfound v rfl).entries? hv

end Pointer

/-! ## Schemas from their parts -/

namespace Schema

/-- **A sound schema of a limited size.** -/
structure Fits (bound : Nat) (schema : Schema) : Prop where
  /-- It is sound. -/
  sound : schema.IsSound
  /-- There are not too many schemas in it. -/
  nodes_le : schema.nodes ≤ bound

/-- Sound properties of a limited size. -/
structure PropertiesFit (bound : Nat) (properties : Properties) : Prop where
  /-- They are sound. -/
  sound : PropertiesSound properties
  /-- There are not too many schemas in them. -/
  nodes_le : propertiesNodes properties ≤ bound

/-- The number of schemas in some schemas, themselves included. -/
def allNodes : List Schema → Nat
  | [] => 0
  | schema :: rest => schema.nodes + allNodes rest

/-- Sound schemas of a limited size altogether. -/
structure AllFit (bound : Nat) (schemas : List Schema) : Prop where
  /-- Each of them is sound. -/
  sound : ∀ schema ∈ schemas, schema.IsSound
  /-- There are not too many schemas in them. -/
  nodes_le : allNodes schemas ≤ bound

lemma nodes_le_allNodes {schema : Schema} : ∀ {schemas : List Schema}, schema ∈ schemas →
    schema.nodes ≤ allNodes schemas
  | first :: rest, h => by
      rw [allNodes]
      rcases List.mem_cons.mp h with rfl | hmem
      · exact Nat.le_add_right _ _
      · exact Nat.le_add_left_of_le (nodes_le_allNodes hmem)

section

variable {bound more : Nat} {schema : Schema}

lemma Fits.mono (h : schema.Fits bound) (hle : bound ≤ more) : schema.Fits more :=
  ⟨h.sound, Nat.le_trans h.nodes_le hle⟩

lemma isSound_declaredNone : Declared.none.IsSound := by
  rintro value ⟨⟩

lemma fits_emptyObject (h : 0 < bound) : emptyObject.Fits bound :=
  ⟨⟨isSound_declaredNone, trivial⟩, h⟩

lemma isSound_withDeclared {declared : Declared} (hdeclared : declared.IsSound)
    (h : schema.IsSound) : (schema.withDeclared declared).IsSound := by
  cases schema with
  | object | array | integer | number =>
      rw [IsSound] at h
      exact ⟨hdeclared, h.2⟩
  | string | boolean | reference => exact hdeclared
  | bare =>
      rw [IsSound] at h
      exact h.elim

lemma nodes_withDeclared (declared : Declared) (schema : Schema) :
    (schema.withDeclared declared).nodes = schema.nodes := by
  cases schema <;> rfl

lemma Fits.withExample {example? : Option Value} (h : schema.Fits bound)
    (hexample : ∀ value, example? = some value → value.IsSendable) :
    (schema.withExample example?).Fits bound := by
  cases example? with
  | none => exact h
  | some value =>
      refine ⟨isSound_withDeclared ?_ h.sound,
        Nat.le_trans (Nat.le_of_eq (nodes_withDeclared _ _)) h.nodes_le⟩
      rintro proposed ⟨⟩
      exact hexample value rfl

lemma PropertiesFit.insert (name : Text) {properties : Properties} (h : schema.Fits more)
    (hproperties : PropertiesFit bound properties) :
    PropertiesFit (more + bound) (Properties.insert name schema properties) := by
  induction properties generalizing bound with
  | nil =>
      refine ⟨⟨h.sound, trivial⟩, ?_⟩
      have hnodes := h.nodes_le
      simp only [Properties.insert, propertiesNodes]
      omega
  | cons first rest ih =>
      obtain ⟨key, old⟩ := first
      obtain ⟨hsound, hnodes⟩ := hproperties
      rw [PropertiesSound] at hsound
      rw [propertiesNodes] at hnodes
      have hle := h.nodes_le
      rw [Properties.insert]
      split_ifs
      · refine ⟨⟨h.sound, hsound.2⟩, ?_⟩
        rw [propertiesNodes]
        omega
      · have hrest := ih ⟨hsound.2, Nat.le_refl _⟩
        have hmore := hrest.nodes_le
        refine ⟨⟨hsound.1, hrest.sound⟩, ?_⟩
        rw [propertiesNodes]
        omega

lemma PropertiesFit.update {added : Properties} : ∀ {bound more : Nat} {properties : Properties},
    PropertiesFit bound properties → PropertiesFit more added →
      PropertiesFit (more + bound) (properties.update added) := by
  induction added with
  | nil =>
      intro bound more properties hproperties _
      exact ⟨hproperties.sound, Nat.le_add_left_of_le hproperties.nodes_le⟩
  | cons first rest ih =>
      obtain ⟨name, schema⟩ := first
      rintro bound more properties hproperties ⟨hsound, hnodes⟩
      rw [PropertiesSound] at hsound
      rw [propertiesNodes] at hnodes
      have hfirst := hproperties.insert name ⟨hsound.1, Nat.le_refl _⟩
      have hall := ih hfirst ⟨hsound.2, Nat.le_refl _⟩
      have hle := hall.nodes_le
      exact ⟨hall.sound, Nat.le_trans hle (by omega)⟩

/-- The properties of an object, none of anything else. -/
lemma propertiesFit_properties? (h : schema.Fits bound) :
    PropertiesFit bound (schema.properties?.getD []) := by
  cases schema with
  | object declared properties =>
      obtain ⟨hsound, hnodes⟩ := h
      rw [IsSound] at hsound
      rw [nodes] at hnodes
      exact ⟨hsound.2, Nat.le_of_add_left_le hnodes⟩
  | _ => exact ⟨trivial, Nat.zero_le _⟩

/-- The properties of some members, one after another. -/
lemma AllFit.properties {members : List Schema} : ∀ {bound more : Nat} {merged : Properties},
    PropertiesFit bound merged → AllFit more members →
      PropertiesFit (more + bound) (members.foldl (fun merged member =>
        Properties.update merged (member.properties?.getD [])) merged) := by
  induction members with
  | nil =>
      intro bound more merged hmerged _
      exact ⟨hmerged.sound, Nat.le_add_left_of_le hmerged.nodes_le⟩
  | cons first rest ih =>
      rintro bound more merged hmerged ⟨hsound, hnodes⟩
      rw [List.forall_mem_cons] at hsound
      rw [allNodes] at hnodes
      have hfirst := hmerged.update (propertiesFit_properties? ⟨hsound.1, Nat.le_refl first.nodes⟩)
      have hall := ih hfirst ⟨hsound.2, Nat.le_refl _⟩
      exact ⟨hall.sound, Nat.le_trans hall.nodes_le (by omega)⟩

lemma PropertiesFit.object {declared : Declared} (hdeclared : declared.IsSound)
    {properties : Properties} (h : PropertiesFit bound properties) :
    (Schema.object declared properties).Fits (1 + bound) :=
  ⟨⟨hdeclared, h.sound⟩, Nat.add_le_add_left h.nodes_le 1⟩

lemma Fits.array {declared : Declared} (hdeclared : declared.IsSound) (h : schema.Fits bound) :
    (Schema.array declared (some schema)).Fits (1 + bound) :=
  ⟨⟨hdeclared, h.sound⟩, Nat.add_le_add_left h.nodes_le 1⟩

/-- A conjunction is no larger than its members and its own properties. -/
lemma AllFit.merge {declared : Declared} (hdeclared : declared.IsSound) {members : List Schema}
    {own : Properties} (hmembers : AllFit bound members) (hown : PropertiesFit more own) :
    (mergeMembers declared members own).Fits (1 + (bound + more)) := by
  rw [Nat.add_comm bound more]
  have hmerged : PropertiesFit 0 [] := ⟨trivial, Nat.le_refl 0⟩
  exact ((hmembers.properties hmerged).update hown).object hdeclared

end

end Schema

/-! ## Schemas of sound values -/

namespace Schema

variable {limit : Nat} {raw : Entries}

/-- The example in a sound mapping can be sent. -/
lemma isSendable_example? (h : (Value.map raw).IsSound limit) :
    ∀ value, (Declared.ofEntries raw).example? = some value → value.IsSendable := by
  intro value hvalue
  have hget : raw.get? "example" = some value := hvalue
  exact h.proposal (by decide) hget

/-- What a sound mapping proposes can be sent. -/
lemma isSound_ofEntries (h : (Value.map raw).IsSound limit) : (Declared.ofEntries raw).IsSound := by
  have hfirst : ∀ {key : Text}, key ∈ proposalKeys → ∀ {items : List Value} {value : Value},
      raw.items? key = some items → items.head? = some value → value.IsSendable := by
    intro key hkey items value hitems hvalue
    have hlist := h.proposal hkey (get?_of_items? hitems)
    obtain ⟨rest, rfl⟩ := List.head?_eq_some_iff.mp hvalue
    obtain ⟨hencodable, hspellable⟩ := hlist
    rw [isEncodable, areEncodable, Bool.and_eq_true] at hencodable
    rw [isSpellable, areSpellable, Bool.and_eq_true] at hspellable
    exact ⟨hencodable.1, hspellable.1⟩
  intro value hvalue
  unfold Declared.value? at hvalue
  rw [Option.or_eq_some_iff, Option.or_eq_some_iff] at hvalue
  rcases hvalue with hexample | ⟨-, hexamples | ⟨-, henum⟩⟩
  · exact isSendable_example? h value hexample
  · obtain ⟨items, hitems, hhead⟩ := Option.bind_eq_some_iff.mp hexamples
    exact hfirst (by decide) hitems hhead
  · obtain ⟨items, hitems, hhead⟩ := Option.bind_eq_some_iff.mp henum
    exact hfirst (by decide) hitems hhead

/-- The bounds in a sound mapping are bounds. -/
lemma all_isBound_bound? (h : (Value.map raw).IsSound limit) {key : Text}
    (hkey : key = "minimum" ∨ key = "maximum") : (bound? raw key).all Numeric.isBound = true := by
  have hsuits : ∀ {value : Value}, raw.get? key = some value → value.isSoundBound = true := by
    intro value hvalue
    have hsuits := (h.get? hvalue).2
    rcases hkey with rfl | rfl <;> exact hsuits
  unfold bound?
  split
  · rename_i i hfound
    have hbound := hsuits hfound
    rw [isSoundBound] at hbound
    rw [Option.all_some, hbound]
  · rename_i x hfound
    have hbound := hsuits hfound
    rw [isSoundBound] at hbound
    rw [Option.all_some, hbound]
  · rfl

lemma fits_plainSchema (h : (Value.map raw).IsSound limit) : (plainSchema raw).Fits 1 := by
  have hdeclared := isSound_ofEntries h
  have hminimum := all_isBound_bound? h (.inl rfl)
  have hmaximum := all_isBound_bound? h (.inr rfl)
  unfold plainSchema
  dsimp only
  split
  · exact ⟨⟨hdeclared, trivial⟩, Nat.le_refl 1⟩
  · split_ifs
    · exact ⟨hdeclared, Nat.le_refl 1⟩
    · exact ⟨⟨hdeclared, hminimum, hmaximum⟩, Nat.le_refl 1⟩
    · exact ⟨⟨hdeclared, hminimum, hmaximum⟩, Nat.le_refl 1⟩
    · exact ⟨hdeclared, Nat.le_refl 1⟩
    · exact ⟨hdeclared, Nat.le_refl 1⟩
    · exact ⟨⟨hdeclared, trivial⟩, Nat.le_refl 1⟩

/-- The alternative that a mapping stands for is a part of it. -/
lemma of_choice? (h : (Value.map raw).IsSound limit) {alternative : Value}
    (hchoice : Resolver.choice? raw = some alternative) :
    alternative.IsSound limit ∧ alternative.nodes ≤ entriesNodes raw := by
  have hfirst : ∀ {key : Text} {first : Value} {rest : List Value},
      raw.items? key = some (first :: rest) →
        first.IsSound limit ∧ first.nodes ≤ entriesNodes raw := by
    intro key first rest hitems
    have hnodes := nodes_items?_le hitems
    rw [itemsNodes] at hnodes
    exact ⟨(h.items? hitems).of_mem first List.mem_cons_self, by omega⟩
  unfold Resolver.choice? at hchoice
  split_ifs at hchoice
  unfold alternative? at hchoice
  split at hchoice
  · obtain rfl := Option.some.inj hchoice
    exact hfirst ‹_›
  · split at hchoice
    · obtain rfl := Option.some.inj hchoice
      exact hfirst ‹_›
    · cases hchoice

end Schema

/-! ## Resolution -/

namespace Resolver

open Schema

variable {r : Resolver} {limit : Nat}

/-- The number of schemas that one value can have become with some levels left. -/
def growth (limit hops : Nat) : Nat := Nat.pow (limit + 1) hops

lemma growth_pos (limit hops : Nat) : 0 < growth limit hops := Nat.pow_pos (Nat.succ_pos limit)

lemma growth_mono (limit : Nat) {hops more : Nat} (h : hops ≤ more) :
    growth limit hops ≤ growth limit more :=
  Nat.pow_le_pow_right (Nat.succ_pos limit) h

lemma growth_succ (limit hops : Nat) :
    growth limit (hops + 1) = growth limit hops * limit + growth limit hops :=
  Nat.mul_succ (growth limit hops) limit

/-- The number of values among the properties that a mapping declares itself. -/
def ownNodes (raw : Entries) : Nat := ((raw.section? "properties").map entriesNodes).getD 0

lemma ownNodes_le (raw : Entries) : ownNodes raw ≤ entriesNodes raw := by
  unfold ownNodes
  cases hsection : raw.section? "properties" with
  | none => exact Nat.zero_le _
  | some entries => exact Nat.le_of_add_left_le (nodes_section?_le hsection)

/-- The members of a conjunction and its own properties are different parts of it. -/
lemma items_add_ownNodes_le {raw : Entries} {members : List Value}
    (h : raw.items? "allOf" = some members) :
    itemsNodes members + ownNodes raw ≤ entriesNodes raw := by
  have hmembers := nodes_items?_le h
  unfold ownNodes
  cases hsection : raw.section? "properties" with
  | none => exact Nat.le_of_add_left_le hmembers
  | some entries =>
      have hne : ("allOf" : Text) ≠ "properties" := by decide
      have hboth := nodes_get?_add_le hne (get?_of_items? h) (get?_of_section? hsection)
      rw [Value.nodes, Value.nodes] at hboth
      rw [Option.map_some, Option.getD_some]
      omega

/-- The values of the properties are the ones that are counted. -/
lemma itemsNodes_ofProperties (raw : Entries) :
    itemsNodes ((Row.ofProperties raw).map Prod.snd) = ownNodes raw := by
  have hentries : ∀ entries : Entries,
      itemsNodes ((entries.map fun entry => (entry.1.shown, entry.2)).map Prod.snd) =
        entriesNodes entries := by
    intro entries
    induction entries with
    | nil => rfl
    | cons entry rest ih => exact congrArg (entry.2.nodes + ·) ih
  unfold Row.ofProperties ownNodes
  cases raw.section? "properties" with
  | none => rfl
  | some entries => exact hentries entries

/-- What is made of the target of a reference is no more than one level allows. -/
lemma mul_growth_le (limit hops : Nat) {count : Nat} (h : 0 < count) :
    limit * growth limit hops ≤ count * growth limit (hops + 1) :=
  calc limit * growth limit hops
      ≤ growth limit (hops + 1) := by
        rw [growth_succ, Nat.mul_comm]
        exact Nat.le_add_right _ _
    _ ≤ count * growth limit (hops + 1) := Nat.le_mul_of_pos_left _ h

/-! ### Parts of sound values -/

section

variable {raw : Entries} {value part : Value}

lemma isSound_of_mem_properties (h : (Value.map raw).IsSound limit) :
    ∀ entry ∈ Row.ofProperties raw, (∃ name, entry.1 = .ok name) ∧ entry.2.IsSound limit := by
  unfold Row.ofProperties
  cases hsection : raw.section? "properties" with
  | none => exact List.forall_mem_nil _
  | some entries =>
      refine List.forall_mem_map.mpr fun entry hentry => ?_
      obtain ⟨hname, hvalue⟩ := (h.section? hsection).of_mem_entries entry hentry
      exact ⟨(spelled_shown entry.1).exists_of_true hname, hvalue⟩

/-- **Parts of a sound value are sound.** -/
lemma isSound_of_mem_parts (h : value.IsSound limit) (hpart : part ∈ value.form.parts) :
    part.IsSound limit := by
  have hof := value.form_of
  have hproperties : ∀ {raw : Entries}, value = .map raw →
      part ∈ (Row.ofProperties raw).map Prod.snd → part.IsSound limit := by
    rintro raw rfl hmem
    obtain ⟨entry, hentry, rfl⟩ := List.mem_map.mp hmem
    exact (isSound_of_mem_properties h entry hentry).2
  generalize value.form = form at hpart hof
  cases form with
  | conjunction raw members =>
      obtain ⟨rfl, hitems⟩ := hof
      rcases List.mem_append.mp hpart with hmem | hmem
      · exact (h.items? hitems).of_mem part hmem
      · exact hproperties rfl hmem
  | choice raw alternative =>
      obtain ⟨rfl, hchoice⟩ := hof
      obtain rfl := List.mem_singleton.mp hpart
      exact (of_choice? h hchoice).1
  | object raw => exact hproperties hof hpart
  | array raw items =>
      obtain ⟨rfl, hsection⟩ := hof
      cases items with
      | none => cases hpart
      | some items =>
          obtain rfl := List.mem_singleton.mp hpart
          exact h.section? hsection
  | unknown | reference _ | plain _ => cases hpart

end

/-! ### Schemas from parts -/

section

variable {depth : Int} {bound : Nat}

/-- A row of sound values has sound schemas, no larger than the values allow. -/
lemma yields_row {row : Row} (hnames : ∀ entry ∈ row, ∃ name, entry.1 = .ok name)
    (h : ∀ c ∈ r.reached depth row, (r.run c).Yields (Fits (c.raw.nodes * bound))) :
    (r.row depth row).Yields (PropertiesFit (itemsNodes (row.map Prod.snd) * bound)) := by
  induction row with
  | nil => exact .pure ⟨trivial, Nat.zero_le _⟩
  | cons entry rest ih =>
      obtain ⟨shown, raw⟩ := entry
      rw [List.forall_mem_cons] at hnames
      obtain ⟨⟨name, rfl⟩, hrest⟩ := hnames
      rw [forall_mem_reached_cons] at h
      obtain ⟨hfirst, hothers⟩ := h
      have hreturns : (r.run ⟨depth, raw⟩).Returns := by
        obtain ⟨schema, houtcome, -⟩ := hfirst
        exact ⟨schema, houtcome⟩
      rw [row_cons_ok]
      refine hfirst.bind fun schema hschema => ?_
      refine (ih hrest (hothers hreturns)).bind fun more hmore => .pure ⟨⟨hschema.sound, hmore.sound⟩, ?_⟩
      rw [List.map_cons, itemsNodes, Nat.add_mul]
      exact Nat.add_le_add hschema.nodes_le hmore.nodes_le

/-- The schemas of a row, without their names. -/
lemma PropertiesFit.allFit {properties : Properties} {count : Nat} (h : PropertiesFit count properties) :
    AllFit count (properties.map Prod.snd) := by
  induction properties generalizing count with
  | nil => exact ⟨List.forall_mem_nil _, h.nodes_le⟩
  | cons first rest ih =>
      obtain ⟨hsound, hnodes⟩ := h
      have hrest := ih ⟨hsound.2, Nat.le_refl _⟩
      refine ⟨List.forall_mem_cons.mpr ⟨hsound.1, hrest.sound⟩, Nat.le_trans ?_ hnodes⟩
      exact Nat.add_le_add_left hrest.nodes_le _

lemma yields_membersAt {members : List Value}
    (h : ∀ c ∈ r.reached depth (.ofMembers members), (r.run c).Yields (Fits (c.raw.nodes * bound))) :
    (r.membersAt depth members).Yields (AllFit (itemsNodes members * bound)) := by
  have hvalues : (Row.ofMembers members).map Prod.snd = members := by
    rw [Row.ofMembers, List.map_map]
    exact List.map_id members
  have hnames : ∀ entry ∈ Row.ofMembers members, ∃ name, entry.1 = .ok name :=
    List.forall_mem_map.mpr fun raw _ => ⟨[], rfl⟩
  have hrow := yields_row hnames h
  rw [hvalues] at hrow
  exact hrow.bind fun row hfits => .pure (PropertiesFit.allFit hfits)

lemma yields_ownAt {raw : Entries} (hraw : (Value.map raw).IsSound limit)
    (h : ∀ c ∈ r.reached (depth + 1) (.ofProperties raw),
      (r.run c).Yields (Fits (c.raw.nodes * bound))) :
    (r.ownAt depth raw).Yields (PropertiesFit (ownNodes raw * bound)) := by
  have hrow := yields_row (fun entry hentry => (isSound_of_mem_properties hraw entry hentry).1) h
  rw [itemsNodes_ofProperties] at hrow
  have hnone : PropertiesFit 0 [] := ⟨trivial, Nat.le_refl 0⟩
  exact hrow.bind fun own hown => .pure (hnone.update hown)

lemma one_le_mul (hbound : 0 < bound) (count : Nat) : 1 ≤ (1 + count) * bound :=
  Nat.mul_pos (Nat.add_pos_left Nat.one_pos count) hbound

/-- What is made of a part, and one schema for the whole. -/
lemma one_add_mul_le {part whole : Nat} (hbound : 0 < bound) (h : part ≤ whole) :
    1 + part * bound ≤ (1 + whole) * bound := by
  rw [Nat.add_mul, Nat.one_mul]
  exact Nat.add_le_add hbound (Nat.mul_le_mul_right _ h)

lemma yields_conjunction (hbound : 0 < bound) {raw : Entries} {members : List Value}
    (hraw : (Value.map raw).IsSound limit) (hitems : raw.items? "allOf" = some members)
    (hmembers : ∀ c ∈ r.reached depth (.ofMembers members),
      (r.run c).Yields (Fits (c.raw.nodes * bound)))
    (hown : ∀ c ∈ r.reached (depth + 1) (r.ownRow depth (.conjunction raw members)),
      (r.run c).Yields (Fits (c.raw.nodes * bound))) :
    (r.resolveForm depth (.conjunction raw members)).Yields
      (Fits ((1 + entriesNodes raw) * bound)) := by
  have hparts := items_add_ownNodes_le hitems
  obtain ⟨schemas, houtcome, hschemas⟩ := yields_membersAt hmembers
  refine Report.Yields.of_ok houtcome ?_
  cases hlone : lone? schemas with
  | some member =>
      have hmem := mem_of_lone hlone
      have hmember : member.Fits ((1 + entriesNodes raw) * bound) := by
        refine ⟨hschemas.sound member hmem, Nat.le_trans (nodes_le_allNodes hmem) ?_⟩
        exact Nat.le_trans hschemas.nodes_le (Nat.mul_le_mul_right _ (by omega))
      rw [conjoinedAt_of_lone hlone]
      exact .pure (hmember.withExample (isSendable_example? hraw))
  | none =>
      rw [ownRow_of_merged houtcome hlone] at hown
      rw [conjoinedAt_of_merged hlone]
      refine (yields_ownAt hraw hown).bind fun own howns => .pure ?_
      refine (hschemas.merge (isSound_ofEntries hraw) howns).mono ?_
      rw [← Nat.add_mul]
      exact one_add_mul_le hbound hparts

/-- A form of a sound value has a sound schema, no larger than its parts allow. -/
lemma yields_resolveForm (hbound : 0 < bound) {value : Value} {form : Form} (hof : form.Of value)
    (hvalue : value.IsSound limit) (hform : ∀ pointer, form ≠ .reference pointer)
    (hinner : ∀ c ∈ r.inner depth form, (r.run c).Yields (Fits (c.raw.nodes * bound)))
    (hown : ∀ c ∈ r.reached (depth + 1) (r.ownRow depth form),
      (r.run c).Yields (Fits (c.raw.nodes * bound))) :
    (r.resolveForm depth form).Yields (Fits (value.nodes * bound)) := by
  cases form with
  | unknown => exact .pure (fits_emptyObject (Nat.mul_pos value.nodes_pos hbound))
  | reference pointer => exact (hform pointer rfl).elim
  | conjunction raw members =>
      obtain ⟨rfl, hitems⟩ := hof
      exact yields_conjunction hbound hvalue hitems hinner hown
  | choice raw alternative =>
      obtain ⟨rfl, hchoice⟩ := hof
      refine (hinner _ (List.mem_singleton_self _)).bind fun schema hschema => .pure ?_
      have hexample := hschema.withExample (isSendable_example? hvalue)
      have hnodes := (of_choice? hvalue hchoice).2
      exact hexample.mono (Nat.mul_le_mul_right _ (Nat.le_add_left_of_le hnodes))
  | object raw =>
      obtain rfl := hof
      refine (yields_ownAt hvalue hown).bind fun own h => .pure ?_
      exact (h.object (isSound_ofEntries hvalue)).mono (one_add_mul_le hbound (ownNodes_le raw))
  | array raw items =>
      obtain ⟨rfl, hsection⟩ := hof
      cases items with
      | none => exact .pure ⟨⟨isSound_ofEntries hvalue, trivial⟩, one_le_mul hbound _⟩
      | some items =>
          refine (hinner _ (List.mem_singleton_self _)).bind fun schema hschema => .pure ?_
          refine (hschema.array (isSound_ofEntries hvalue)).mono ?_
          exact one_add_mul_le hbound (nodes_section?_le hsection)
  | plain raw =>
      obtain rfl := hof
      exact .pure ((fits_plainSchema hvalue).mono (one_le_mul hbound _))

end

/-! ### Sound values -/

/-- A sound value that is a reference can be looked up. -/
lemma yields_target_of_form (hr : r.document.IsSound limit) {value : Value} (h : value.IsSound limit)
    {pointer : Text} (hform : value.form = .reference pointer) :
    Yields (fun found => ∀ entries, found = some entries → (Value.map entries).IsSound limit)
      (Pointer.target r.document pointer) := by
  have hof := value.form_of
  rw [hform] at hof
  obtain ⟨raw, rfl, href⟩ := hof
  exact Pointer.yields_target (h.get? href).2 hr

/-- **A sound value has a sound schema.** -/
theorem yields_run (hlimit : Yields (fun _ => True) (integerText r.maxDepth))
    (hr : r.document.IsSound limit) (call : Call) : call.raw.IsSound limit →
      (r.run call).Yields (Fits (call.raw.nodes * growth limit (r.levelsAt call.depth))) := by
  induction call using call_induction (r := r) with
  | step call ih =>
    intro h
    have hempty : emptyObject.Fits (call.raw.nodes * growth limit (r.levelsAt call.depth)) :=
      fits_emptyObject (Nat.mul_pos call.raw.nodes_pos (growth_pos limit _))
    cases r.course call with
    | found hlook htarget =>
        rename_i pointer target
        obtain ⟨found, hfound, hsounds⟩ := yields_target_of_form hr h hlook.1
        obtain rfl := Except.ok.inj (htarget.symm.trans hfound)
        have hsound := hsounds target rfl
        rw [nested_of_found hlook htarget, List.forall_mem_singleton] at ih
        rw [run_of_found hlook htarget, levelsAt_of_lt hlook.2]
        refine (ih hsound).imp fun schema hschema => hschema.mono ?_
        exact Nat.le_trans (Nat.mul_le_mul_right _ hsound.nodes_le)
          (mul_growth_le limit _ call.raw.nodes_pos)
    | missing hlook htarget =>
        rw [run_of_missing hlook htarget]
        exact .pure hempty
    | failed hlook htarget =>
        obtain ⟨found, hfound, -⟩ := yields_target_of_form hr h hlook.1
        rw [htarget] at hfound
        cases hfound
    | limited hlimited hshown =>
        rw [run_of_limited hlimited hshown]
        exact .pure hempty
    | unnamed hlimited hshown =>
        obtain ⟨text, htext, -⟩ := hlimit
        rw [hshown] at htext
        cases htext
    | direct hform =>
        have hparts : ∀ c ∈ r.nested call, (r.run c).Yields
            (Fits (c.raw.nodes * growth limit (r.levelsAt call.depth))) := by
          intro c hc
          rcases mem_nested hc with ⟨pointer, hlook, -⟩ | ⟨hpart, hdepth, -⟩
          · exact (hform pointer hlook.1).elim
          · refine (ih c hc (isSound_of_mem_parts h hpart)).imp fun schema hschema => hschema.mono ?_
            exact Nat.mul_le_mul_left _ (growth_mono limit (levelsAt_anti hdepth))
        rw [nested, List.forall_mem_append] at hparts
        rw [run, resolve_eq]
        exact yields_resolveForm (growth_pos limit _) call.raw.form_of h hform hparts.1 hparts.2

/-! ## Samples of sound values -/

/-- Five levels of growth stay below a power of ten. -/
lemma one_add_mul_growth_five_le {limit a b : Nat} (hlimit : limit + 1 ≤ Nat.pow 10 a)
    (h : a * 6 ≤ b) : 1 + limit * growth limit 5 ≤ Nat.pow 10 b :=
  calc 1 + limit * growth limit 5
      ≤ growth limit 5 + limit * growth limit 5 := Nat.add_le_add_right (growth_pos limit 5) _
    _ = growth limit (5 + 1) := by rw [growth_succ limit 5, Nat.mul_comm limit, Nat.add_comm]
    _ ≤ (Nat.pow 10 a) ^ 6 := Nat.pow_le_pow_left hlimit 6
    _ = Nat.pow 10 (a * 6) := (Nat.pow_mul 10 a 6).symm
    _ ≤ Nat.pow 10 b := Nat.pow_le_pow_right (by decide) h

lemma succ_pow_le (a : Nat) : Nat.pow 10 a + 1 ≤ Nat.pow 10 (a + 1) := by
  have hpos : 1 ≤ Nat.pow 10 a := Nat.pow_pos (by decide)
  calc Nat.pow 10 a + 1
      ≤ Nat.pow 10 a * 10 := by omega
    _ = Nat.pow 10 (a + 1) := (Nat.pow_succ 10 a).symm

lemma one_add_maxNodes_mul_le : 1 + maxNodes * growth maxNodes 5 ≤ Nat.pow 10 maxDigits := by
  refine one_add_mul_growth_five_le (a := nodeDigits + 1) ?_ (by decide)
  unfold maxNodes
  exact succ_pow_le nodeDigits

/-- **A sound value in a sound document has a sample**, when references are followed to the usual
depth. -/
theorem yields_sample (hdocument : r.document.IsSound maxNodes) (hdepth : r.maxDepth = usualDepth)
    {raw : Value} (h : raw.IsSound maxNodes) (name : Text) :
    (r.resolve 0 raw).Yields fun schema => Yields IsSample (schema.sampleFrom 1 name) := by
  have hlevels : r.levelsAt 0 = 5 := by
    rw [levelsAt, hdepth]
    rfl
  have hlimit : Yields (fun _ => True) (integerText r.maxDepth) := by
    rw [hdepth]
    exact yields_integerText (isShort_of_lt (e := 3) (by decide) (by decide))
  have hrun := yields_run hlimit hdocument ⟨0, raw⟩ h
  rw [hlevels] at hrun
  refine hrun.imp fun schema hschema => ?_
  refine yields_sampleFrom hschema.sound ?_ name
  have hnodes := Nat.le_trans hschema.nodes_le (Nat.mul_le_mul_right _ h.nodes_le)
  exact Nat.le_trans (Nat.add_le_add_left hnodes 1) one_add_maxNodes_mul_le

end Resolver

end LoadPlan
