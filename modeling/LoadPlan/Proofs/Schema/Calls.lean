import LoadPlan.Proofs.Outcome
import LoadPlan.Proofs.Schema.Forms

/-!
# The calls of a resolution

To resolve a value at a depth is a call, and to resolve the parts of the value and the target of a
reference are the calls that it makes.

* `Resolver.Call`, `Resolver.nested` — a call, and the calls that it makes itself.
* `Resolver.calls` — a call with all that are made in it, in the order in which they are made.
* `Resolver.mem_nested` — a call leads one level deeper, or to a part of its value.
* `Resolver.call_induction` — what is handed on from the calls that a call makes to it holds of every call.
* `Resolver.notes_row`, `Resolver.returns_row_iff` — what is remarked in a row, and when it comes to an end.
-/

namespace LoadPlan

/-! ## Parts of a form -/

/-- The values in a value that are resolved with it. -/
def Form.parts : Form → List Value
  | conjunction raw members => members ++ (Row.ofProperties raw).map Prod.snd
  | choice _ alternative => [alternative]
  | object raw => (Row.ofProperties raw).map Prod.snd
  | array _ (some items) => [.map items]
  | _ => []

namespace Value

variable {raw : Entries} {value part : Value}

lemma sizeOf_lt_of_map (h : sizeOf part < sizeOf raw) : sizeOf part < sizeOf (map raw) := by
  rw [map.sizeOf_spec]
  omega

lemma sizeOf_lt_of_mem_items {key : Text} {items : List Value} (h : raw.items? key = some items)
    (hmem : part ∈ items) : sizeOf part < sizeOf (map raw) :=
  sizeOf_lt_of_map (Nat.lt_trans (List.sizeOf_lt_of_mem hmem) (Entries.sizeOf_items? h))

lemma sizeOf_lt_of_mem_properties (h : part ∈ (Row.ofProperties raw).map Prod.snd) :
    sizeOf part < sizeOf (map raw) := by
  unfold Row.ofProperties at h
  cases hsection : raw.section? "properties" with
  | none =>
      rw [hsection] at h
      cases h
  | some entries =>
      rw [hsection, Option.getD_some, List.map_map, List.mem_map] at h
      obtain ⟨⟨name, _⟩, hmem, rfl⟩ := h
      have hentry := List.sizeOf_lt_of_mem hmem
      have hentries := Entries.sizeOf_section? hsection
      rw [Prod.mk.sizeOf_spec] at hentry
      exact sizeOf_lt_of_map (by dsimp only [Function.comp]; omega)

/-- Parts are smaller than the value. -/
lemma sizeOf_lt_of_mem_parts (h : part ∈ value.form.parts) : sizeOf part < sizeOf value := by
  have hof := value.form_of
  generalize value.form = form at h hof
  cases form with
  | conjunction raw members =>
      obtain ⟨rfl, hitems⟩ := hof
      rcases List.mem_append.mp h with hmem | hmem
      · exact sizeOf_lt_of_mem_items hitems hmem
      · exact sizeOf_lt_of_mem_properties hmem
  | choice raw alternative =>
      obtain ⟨rfl, hchoice⟩ := hof
      obtain rfl := List.mem_singleton.mp h
      unfold Resolver.choice? at hchoice
      split_ifs at hchoice
      exact sizeOf_lt_of_map (sizeOf_alternative? hchoice)
  | object raw =>
      obtain rfl := hof
      exact sizeOf_lt_of_mem_properties h
  | array raw items =>
      obtain ⟨rfl, hsection⟩ := hof
      cases items with
      | none => cases h
      | some items =>
          obtain rfl := List.mem_singleton.mp h
          have hitems := Entries.sizeOf_section? hsection
          rw [map.sizeOf_spec, map.sizeOf_spec]
          omega
  | unknown | reference _ | plain _ => cases h

end Value

/-! ## Calls -/

namespace Resolver

/-- **A call**: a value is resolved at a depth. -/
structure Call where
  /-- The depth. -/
  depth : Int
  /-- The value. -/
  raw : Value

section

variable (r : Resolver)

/-- The report of a call. -/
def run (call : Call) : Report Schema := r.resolve call.depth call.raw

/-- The calls that a row makes.  A name without text stops it, and so does a value that is not
resolved. -/
def reached (depth : Int) : Row → List Call
  | [] => []
  | (.error _, _) :: _ => []
  | (.ok _, raw) :: rest =>
    match (r.run ⟨depth, raw⟩).outcome with
    | .error _ => [⟨depth, raw⟩]
    | .ok _ => ⟨depth, raw⟩ :: reached depth rest

/-- The properties that are resolved for a form: those of an object, and those that a conjunction
declares itself, unless one member is all of it. -/
def ownRow (depth : Int) : Form → Row
  | .object raw => .ofProperties raw
  | .conjunction raw members =>
    match (r.membersAt depth members).outcome with
    | .error _ => []
    | .ok schemas => if (lone? schemas).isSome then [] else .ofProperties raw
  | _ => []

/-- The calls that are made for a form before its own properties are resolved. -/
def inner (depth : Int) : Form → List Call
  | .reference pointer =>
    if depth < r.maxDepth then
      match Pointer.target r.document pointer with
      | .ok (some target) => [⟨depth + 1, .map target⟩]
      | _ => []
    else []
  | .conjunction _ members => r.reached depth (.ofMembers members)
  | .choice _ alternative => [⟨depth, alternative⟩]
  | .array _ (some items) => [⟨depth + 1, .map items⟩]
  | _ => []

/-- **The calls that a call makes itself**, in their order. -/
def nested (call : Call) : List Call :=
  r.inner call.depth call.raw.form ++
    r.reached (call.depth + 1) (r.ownRow call.depth call.raw.form)

/-- A schema that is a reference. -/
def referring (pointer : Text) : Value := .map [(.text "$ref", .text pointer)]

/-- A call that looks a reference up. -/
def LooksUp (call : Call) (pointer : Text) : Prop :=
  call.raw.form = .reference pointer ∧ call.depth < r.maxDepth

/-- A call of a reference at the limit. -/
def IsLimited (call : Call) (pointer : Text) : Prop :=
  call.raw.form = .reference pointer ∧ r.maxDepth ≤ call.depth

variable {r} {call c : Call} {depth : Int}

lemma mem_reached {row : Row} (h : c ∈ r.reached depth row) :
    c.depth = depth ∧ c.raw ∈ row.map Prod.snd := by
  induction row with
  | nil => cases h
  | cons entry rest ih =>
      obtain ⟨_ | name, raw⟩ := entry
      · cases h
      · rw [List.map_cons, List.mem_cons]
        rw [reached] at h
        split at h
        · obtain rfl := List.mem_singleton.mp h
          exact ⟨rfl, .inl rfl⟩
        · rcases List.mem_cons.mp h with rfl | hmem
          · exact ⟨rfl, .inl rfl⟩
          · exact ⟨(ih hmem).1, .inr (ih hmem).2⟩

lemma mem_inner {form : Form} (h : c ∈ r.inner depth form) :
    (∃ pointer, form = .reference pointer ∧ depth < r.maxDepth ∧ c.depth = depth + 1) ∨
      c.raw ∈ form.parts ∧ depth ≤ c.depth ∧ c.depth ≤ depth + 1 := by
  cases form with
  | reference pointer =>
      rw [inner] at h
      split_ifs at h with hlimit
      · split at h
        · obtain rfl := List.mem_singleton.mp h
          exact .inl ⟨pointer, rfl, hlimit, rfl⟩
        · cases h
      · cases h
  | conjunction raw members =>
      obtain ⟨hdepth, hmem⟩ := mem_reached h
      have hmember : c.raw ∈ members := by
        rw [Row.ofMembers, List.map_map] at hmem
        simpa using hmem
      exact .inr ⟨List.mem_append_left _ hmember, by omega, by omega⟩
  | choice raw alternative =>
      obtain rfl := List.mem_singleton.mp h
      exact .inr ⟨List.mem_singleton_self _, Int.le_refl _, by dsimp only; omega⟩
  | array raw items =>
      cases items with
      | none => cases h
      | some items =>
          obtain rfl := List.mem_singleton.mp h
          exact .inr ⟨List.mem_singleton_self _, by dsimp only; omega, Int.le_refl _⟩
  | unknown | object _ | plain _ => cases h

lemma mem_parts_of_ownRow {form : Form} {part : Value}
    (h : part ∈ (r.ownRow depth form).map Prod.snd) : part ∈ form.parts := by
  cases form with
  | object raw => exact h
  | conjunction raw members =>
      rw [ownRow] at h
      split at h
      · cases h
      · split_ifs at h
        · cases h
        · exact List.mem_append_right _ h
  | unknown | reference _ | choice _ _ | array _ _ | plain _ => cases h

/-- **A call that is made in a call** resolves the target of a reference one level deeper, or it resolves
a part, at most one level deeper. -/
lemma mem_nested (h : c ∈ r.nested call) :
    (∃ pointer, r.LooksUp call pointer ∧ c.depth = call.depth + 1) ∨
      c.raw ∈ call.raw.form.parts ∧ call.depth ≤ c.depth ∧ c.depth ≤ call.depth + 1 := by
  rcases List.mem_append.mp h with hinner | hown
  · rcases mem_inner hinner with ⟨pointer, hform, hlimit, hdepth⟩ | hpart
    · exact .inl ⟨pointer, ⟨hform, hlimit⟩, hdepth⟩
    · exact .inr hpart
  · obtain ⟨hdepth, hmem⟩ := mem_reached hown
    exact .inr ⟨mem_parts_of_ownRow hmem, by omega, by omega⟩

/-- Every call that is made in a call has fewer levels left, or a smaller value. -/
lemma lt_of_mem_nested (h : c ∈ r.nested call) :
    Prod.Lex (· < ·) (· < ·) (r.levelsAt c.depth, sizeOf c.raw)
      (r.levelsAt call.depth, sizeOf call.raw) := by
  rcases mem_nested h with ⟨pointer, ⟨-, hlimit⟩, hdepth⟩ | ⟨hpart, hdepth, -⟩
  · refine .left _ _ ?_
    rw [hdepth, levelsAt_of_lt hlimit]
    exact Nat.lt_succ_self _
  · exact Prod.Lex.right' _ (levelsAt_anti hdepth) (Value.sizeOf_lt_of_mem_parts hpart)

/-- **A call with all that are made in it**, in the order in which they are made. -/
def calls (r : Resolver) (call : Call) : List Call :=
  call :: (r.nested call).attach.flatMap fun c => r.calls c.1
termination_by (r.levelsAt call.depth, sizeOf call.raw)
decreasing_by exact lt_of_mem_nested c.2

lemma calls_eq (r : Resolver) (call : Call) :
    r.calls call = call :: (r.nested call).flatMap r.calls := by
  rw [calls]
  refine congrArg (call :: ·) ?_
  calc (r.nested call).attach.flatMap (fun c => r.calls c.1)
      = ((r.nested call).attach.map Subtype.val).flatMap r.calls := by rw [List.flatMap_map]
    _ = (r.nested call).flatMap r.calls := by rw [List.attach_map_subtype_val]

/-- What is true of a call if it is true of the calls that it makes, is true of every call. -/
lemma call_induction {motive : Call → Prop}
    (step : ∀ call, (∀ c ∈ r.nested call, motive c) → motive call) (call : Call) : motive call := by
  induction call using calls.induct (r := r) with
  | case1 call ih => exact step call fun c hc => ih ⟨c, hc⟩

end

/-! ## Rows -/

section

variable {r : Resolver} {depth : Int}

lemma row_cons_ok (name : Text) (raw : Value) (rest : Row) :
    r.row depth ((.ok name, raw) :: rest) =
      (r.run ⟨depth, raw⟩ >>= fun schema => r.row depth rest >>= fun more =>
        pure ((name, schema) :: more)) :=
  Report.pure_then name _

/-- The first value of a row is resolved, and the others if it is. -/
lemma forall_mem_reached_cons {motive : Call → Prop} (name : Text) (raw : Value) (rest : Row) :
    (∀ c ∈ r.reached depth ((.ok name, raw) :: rest), motive c) ↔
      motive ⟨depth, raw⟩ ∧ ((r.run ⟨depth, raw⟩).Returns → ∀ c ∈ r.reached depth rest, motive c) := by
  rw [reached]
  cases houtcome : (r.run ⟨depth, raw⟩).outcome with
  | error fault =>
      rw [List.forall_mem_singleton]
      exact (and_iff_left fun hreturns =>
        (Report.not_returns_of_error houtcome hreturns).elim).symm
  | ok schema =>
      have hreturns : (r.run ⟨depth, raw⟩).Returns := ⟨schema, houtcome⟩
      rw [List.forall_mem_cons, forall_prop_of_true hreturns]

/-- What is remarked in a row is what its calls remark. -/
lemma notes_row (row : Row) :
    (r.row depth row).notes = (r.reached depth row).flatMap fun c => (r.run c).notes := by
  induction row with
  | nil => rfl
  | cons entry rest ih =>
      obtain ⟨_ | name, raw⟩ := entry
      · rfl
      · rw [row_cons_ok, reached]
        cases houtcome : (r.run ⟨depth, raw⟩).outcome with
        | error fault =>
            rw [Report.bind_of_error houtcome]
            exact (List.append_nil _).symm
        | ok schema =>
            rw [Report.bind_of_ok houtcome, Report.notes_bind_pure, ih]
            rfl

/-- A row comes to an end exactly if its names have texts and its calls come to an end. -/
lemma returns_row_iff (row : Row) :
    (r.row depth row).Returns ↔
      (∀ entry ∈ row, ∃ name, entry.1 = .ok name) ∧ ∀ c ∈ r.reached depth row, (r.run c).Returns := by
  induction row with
  | nil => exact iff_of_true (Report.returns_pure _) ⟨List.forall_mem_nil _, List.forall_mem_nil _⟩
  | cons entry rest ih =>
      obtain ⟨fault | name, raw⟩ := entry
      · refine iff_of_false (Report.not_returns_of_error rfl) fun h => ?_
        obtain ⟨name, hname⟩ := h.1 _ List.mem_cons_self
        cases hname
      · have hrow : (r.row depth ((.ok name, raw) :: rest)).Returns ↔
            (r.run ⟨depth, raw⟩).Returns ∧ (r.row depth rest).Returns := by
          rw [row_cons_ok, Report.returns_bind_iff]
          simp only [Report.returns_bind_pure]
          exact exists_and_right
        have hname : ∃ shown, (.ok name : Except Fault Text) = .ok shown := ⟨name, rfl⟩
        rw [hrow, ih, List.forall_mem_cons, forall_mem_reached_cons]
        constructor
        · rintro ⟨hfirst, hnames, hcalls⟩
          exact ⟨⟨hname, hnames⟩, hfirst, fun _ => hcalls⟩
        · rintro ⟨⟨-, hnames⟩, hfirst, hcalls⟩
          exact ⟨hfirst, hnames, hcalls hfirst⟩

end

end Resolver

end LoadPlan
