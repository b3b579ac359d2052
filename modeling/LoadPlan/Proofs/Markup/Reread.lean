import LoadPlan.Proofs.Markup.Scan
import LoadPlan.Proofs.Text.Cutting

/-!
# A document is read back

The layout of a file puts every element on a line of its own, with blanks in front of it that are no
part of what was to be written.  A reader that knows nothing of the layout finds them as texts.

* `isOrderly` — markup whose elements hold a text or elements, but not both, and whose names,
  attributes and texts can be read again.
* `reread` — what a reader finds in the layout of such markup, down to the last blank.
* `Leads` — from some open elements to others, while some characters are read.
* `leads_block` — the layout of an element leads to the element.
* **`readDocument_document`** — a document is read back.
* `withoutMargins`, `asRead` — leaving out white space between tags, and what is found then.
-/

namespace LoadPlan.Markup

/-! ## Attributes -/

/-- Attributes that say names and values are read as these, unless names are declared or repeated. -/
lemma readAttributes_of_says (start : Nat) {written : List Written} {pairs : List (Text × Text)}
    (h : List.Forall₂ Written.Says written pairs) :
    ∀ seen : List Text, (∀ pair ∈ pairs, declared? pair.1 = none ∧ pair.1 ∉ seen) →
      (pairs.map Prod.fst).Nodup → readAttributes start seen written = .ok pairs := by
  induction h with
  | nil => exact fun _ _ _ => rfl
  | @cons written pair others pairs hfirst _ ih =>
      intro seen hseen hdistinct
      obtain ⟨hdeclared, hnew⟩ := hseen pair List.mem_cons_self
      rw [List.map_cons, List.nodup_cons] at hdistinct
      have hothers : readAttributes start (pair.1 :: seen) others = .ok pairs := by
        refine ih (pair.1 :: seen) (fun other hother => ?_) hdistinct.2
        obtain ⟨hdeclared, hunseen⟩ := hseen other (List.mem_cons_of_mem pair hother)
        refine ⟨hdeclared, fun hmem => ?_⟩
        rcases List.mem_cons.mp hmem with heq | hmem
        · exact hdistinct.1 (heq ▸ List.mem_map_of_mem hother)
        · exact hunseen hmem
      rw [readAttributes, hfirst.name, if_neg hnew, hfirst.value start]
      simp only [bind_pure_comp, hdeclared, hothers]
      rfl

lemma meaningOf_of_isName (scope : Scope) (start : Nat) {name : Text} (h : isName name = true) :
    meaningOf scope start name = .ok none := by
  have hcolon : (':' : Rune) ∉ name := fun hmem => ne_delimiter (isNamePart_of_mem h _ hmem) (by decide) rfl
  rw [meaningOf, abbreviation?, Text.after?_of_notMem hcolon]
  rfl

/-- Names without abbreviations do not clash when abbreviations are written out. -/
lemma checkLongNames_of_isName (scope : Scope) (start : Nat) (seen : List (Text × Option Text)) :
    ∀ names : List Text, (∀ name ∈ names, isName name = true) →
      checkLongNames scope start seen names = .ok ()
  | [], _ => rfl
  | name :: names, h => by
      rw [checkLongNames, meaningOf_of_isName scope start (h name List.mem_cons_self)]
      exact checkLongNames_of_isName scope start seen names
        fun other hother => h other (List.mem_cons_of_mem name hother)

/-- What can be read again of attributes. -/
def rereadAttributes (attributes : Attributes) : Attributes :=
  attributes.map fun pair => ((said pair).1, .text (said pair).2)

lemma said_fst : ∀ pair : Text × AttributeValue, (said pair).1 = pair.1
  | (_, .text _) | (_, .raw _) => rfl

lemma isReadable_name : ∀ {pair : Text × AttributeValue}, isReadable pair = true →
    isName pair.1 = true ∧ declared? pair.1 = none
  | (name, .text t), h => by
      simp only [isReadable, Bool.and_eq_true, Option.isNone_iff_eq_none] at h
      exact h.1
  | (_, .raw _), h => nomatch h

/-- **What a tag opens**: an element with its attributes as they are read, inside of which no more
abbreviations are known than outside. -/
lemma opened_of_says (scope : Scope) (start : Nat) {tag : Text} (htag : isName tag = true)
    {attributes : Attributes} (hread : ∀ pair ∈ attributes, isReadable pair = true)
    (hdistinct : (attributes.map Prod.fst).Nodup) {written : List Written}
    (hsaid : List.Forall₂ Written.Says written (attributes.map said)) :
    opened scope start tag written = .ok (rereadAttributes attributes, scope) := by
  have hnames : (attributes.map said).map Prod.fst = attributes.map Prod.fst := by
    rw [List.map_map]
    exact List.map_congr_left fun pair _ => said_fst pair
  have hpairs : ∀ pair ∈ attributes.map said, isName pair.1 = true ∧ declared? pair.1 = none := by
    intro pair hpair
    obtain ⟨a, ha, rfl⟩ := List.mem_map.mp hpair
    rw [said_fst]
    exact isReadable_name (hread a ha)
  have hvalues : readAttributes start [] written = .ok (attributes.map said) :=
    readAttributes_of_says start hsaid [] (fun pair hpair => ⟨(hpairs pair hpair).2,
      List.not_mem_nil⟩) (hnames ▸ hdistinct)
  have hnone : declarations (attributes.map said) = [] := by
    refine List.filterMap_eq_nil_iff.mpr fun (name, value) hpair => ?_
    show (declared? name).join.map _ = none
    rw [(hpairs _ hpair).2]
    rfl
  have hsplit : (attributes.map said).partition (fun pair => (declared? pair.1).isSome) =
      ([], attributes.map said) := by
    rw [List.partition_eq_filter_filter, List.filter_eq_nil_iff.mpr, List.filter_eq_self.mpr]
    · intro pair hpair
      simp [(hpairs pair hpair).2]
    · intro pair hpair
      simp [(hpairs pair hpair).2]
  have hclash : checkLongNames scope start [] ((attributes.map said).map Prod.fst) = .ok () := by
    refine checkLongNames_of_isName scope start [] _ fun name hname => ?_
    obtain ⟨pair, hpair, rfl⟩ := List.mem_map.mp hname
    exact (hpairs pair hpair).1
  simp only [opened, hvalues, hnone, hsplit, hclash, meaningOf_of_isName scope start htag, bind,
    Except.bind, List.nil_append]
  rw [rereadAttributes, List.map_map]
  rfl

/-! ## Steps of reading -/

/-- **From some open elements to others**, while some characters are read.  Reading is bounded by a
number of rounds; there are enough of them as long as there are more than characters. -/
def Leads (frames : List Frame) (source : Text) (others : List Frame) (rest : Text) : Prop :=
  ∀ rounds, source.length < rounds → ∃ left, rest.length < left ∧
    readInside rounds frames source = readInside left others rest

lemma Leads.refl (frames : List Frame) (source : Text) : Leads frames source frames source :=
  fun rounds hrounds => ⟨rounds, hrounds, rfl⟩

lemma Leads.trans {a b c : List Frame} {s t u : Text} (h : Leads a s b t) (h' : Leads b t c u) :
    Leads a s c u := by
  intro rounds hrounds
  obtain ⟨left, hleft, heq⟩ := h rounds hrounds
  obtain ⟨last, hlast, heq'⟩ := h' left hleft
  exact ⟨last, hlast, heq.trans heq'⟩

lemma nextToken_of_token {source rest : Text} {read : Token}
    (h : token source = .ok (read, rest)) : nextToken source = .ok (read, rest) := by
  rw [nextToken, h]

lemma Leads.of_token {frame : Frame} {outer others : List Frame} {source rest : Text} {read : Token}
    (h : token source = .ok (read, rest)) (hrest : rest.length < source.length)
    (hstep : step frame outer source.length read = .ok (.inr others)) :
    Leads (frame :: outer) source others rest := by
  intro rounds hrounds
  obtain ⟨rounds, rfl⟩ : ∃ n, rounds = n + 1 := ⟨rounds - 1, by omega⟩
  refine ⟨rounds, by omega, ?_⟩
  cases source with
  | nil => exact absurd hrest (Nat.not_lt_zero _)
  | cons r source =>
      rw [readInside, nextToken_of_token h]
      simp only [bind, Except.bind, hstep]
      rfl

lemma step_of_part {frame : Frame} {outer : List Frame} {start : Nat} {read : Token} {part : Markup}
    (h : partOf? start read = .ok (some part)) :
    step frame outer start read = .ok (.inr (frame.add part :: outer)) := by
  cases read with
  | opening name attributes closed => cases h
  | closing name left => cases h
  | _ =>
      rw [step]
      · rw [h]
        rfl
      · nofun
      · nofun

/-! ## Texts -/

/-- One text more, if there is one. -/
def Frame.addText (frame : Frame) (t : Text) : Frame :=
  if t.isEmpty then frame else frame.add (.text t)

lemma Frame.addText_addText (frame : Frame) (s t : Text) :
    (frame.addText s).addText t = frame.addText (s ++ t) := by
  cases s with
  | nil => rfl
  | cons r s =>
      cases t with
      | nil => rw [List.append_nil]; rfl
      | cons u t =>
          obtain ⟨tag, attributes, scope, content⟩ := frame
          match content with
          | [] | .element _ _ _ :: _ | .literal _ :: _ | .comment _ :: _
          | .instruction _ _ :: _ => rfl
          | .text v :: before =>
              simp [addText, add]

/-- **A text is read** up to the tag that follows it. -/
lemma leads_text (outer : List Frame) (rest : Text) : ∀ t : Text, isLegal t = true →
    ∀ frame : Frame, Leads (frame :: outer) (t.flatMap escape ++ ('<' : Rune) :: rest)
      (frame.addText t.lineFeeds :: outer) (('<' : Rune) :: rest) := by
  have hrun : ∀ t : Text, (∀ r ∈ t, r.isMark = false) → isLegal t = true →
      ∀ (frame : Frame) (stop : Rune) (more : Text), isStop stop = true →
        Leads (frame :: outer) (t ++ stop :: more) (frame.addText t.lineFeeds :: outer)
          (stop :: more) := by
    intro t hmark hlegal frame stop more hstop
    cases t with
    | nil => exact Leads.refl _ _
    | cons r t =>
        have hfeeds : (Text.lineFeeds (r :: t)).isEmpty = false := Text.isEmpty_lineFeeds (r :: t)
        refine Leads.of_token (token_run (List.cons_ne_nil r t) hmark hlegal hstop more) ?_ ?_
        · rw [List.length_append, List.length_cons, List.length_cons]
          omega
        · rw [Frame.addText, hfeeds]
          exact step_of_part rfl
  refine Text.mark_induction ?_ ?_
  · intro t hmark hlegal frame
    rw [flatMap_escape_run hmark]
    exact hrun t hmark hlegal frame _ rest (by decide)
  · intro t m more hmark hm ih hlegal frame
    rw [isLegal_append] at hlegal
    have hmore : isLegal more = true := by
      have htail := hlegal.2
      rw [← List.singleton_append, isLegal_append] at htail
      exact htail.2
    obtain ⟨name, hname, hisName, hrune⟩ := escape_mark hm
    have hsource : (t ++ m :: more).flatMap escape ++ ('<' : Rune) :: rest = t ++ ('&' : Rune) ::
        (name ++ (';' : Rune) :: (more.flatMap escape ++ ('<' : Rune) :: rest)) := by
      simp [flatMap_escape_mark hmark, hname]
    have hfeeds : frame.addText (t ++ m :: more).lineFeeds =
        ((frame.addText t.lineFeeds).addText [m]).addText more.lineFeeds := by
      rw [Frame.addText_addText, Frame.addText_addText, Text.lineFeeds_append_mark hm]
      rfl
    rw [hsource, hfeeds]
    refine (hrun t hmark hlegal.1 frame _ _ (by decide)).trans
      (Leads.trans (Leads.of_token (token_reference hisName _) ?_ ?_) (ih hmore _))
    · simp only [List.length_cons, List.length_append]
      omega
    · refine step_of_part ?_
      rw [partOf?, hrune]

/-! ## Layouts -/

/-- The text of an element that holds no elements. -/
def onlyText? : List Markup → Option Text
  | [] => some []
  | [text t] => some t
  | _ => none

lemma eq_of_onlyText? : ∀ {content : List Markup} {t : Text}, onlyText? content = some t →
    content = [] ∨ content = [text t]
  | [], _, _ => .inl rfl
  | [text _], _, h => .inr (Option.some.inj h ▸ rfl)
  | [element _ _ _], _, h | [literal _], _, h | [comment _], _, h | [instruction _ _], _, h =>
    nomatch h
  | first :: _ :: _, _, h => by cases first <;> exact nomatch h

mutual

/-- **Markup that can be read again**: every element has names and attributes that can be read, and
holds either a text that XML can carry or other such elements. -/
def isOrderly : Markup → Bool
  | element tag attributes content =>
    isName tag && attributes.all isReadable && decide (attributes.map Prod.fst).Nodup &&
      (match onlyText? content with
        | some t => isLegal t
        | none => areAllOrderly content)
  | _ => false

def areAllOrderly : List Markup → Bool
  | [] => true
  | child :: children => child.isOrderly && areAllOrderly children

end

/-- The text of an element, if there is one. -/
def textPart (t : Text) : List Markup := if t.isEmpty then [] else [text t]

mutual

/-- **What a reader finds in the layout of an element**: its attributes and texts as they are read,
and the white space around the elements below it. -/
def reread (level : Nat) : Markup → Markup
  | element tag attributes content =>
    element tag (rereadAttributes attributes)
      (match onlyText? content with
        | some t => textPart t.lineFeeds
        | none => allReread level content)
  | part => part

def allReread (level : Nat) : List Markup → List Markup
  | [] => [text (('\n' : Rune) :: margin level)]
  | child :: children =>
    text (('\n' : Rune) :: margin (level + 1)) :: child.reread (level + 1)
      :: allReread level children

end

/-- What a reader finds between the tags of an element. -/
def rereadInside (level : Nat) (content : List Markup) : List Markup :=
  match onlyText? content with
  | some t => textPart t.lineFeeds
  | none => allReread level content

lemma reread_element (level : Nat) (tag : Text) (attributes : Attributes) (content : List Markup) :
    reread level (element tag attributes content) =
      element tag (rereadAttributes attributes) (rereadInside level content) := rfl

/-- What is written between the tags of an element. -/
def inside (level : Nat) (content : List Markup) : Text :=
  match onlyText? content with
  | some t => t.flatMap escape
  | none => ('\n' : Rune) :: (allLines (level + 1) content ++ margin level)

/-- Whether the tag that opens an element closes it, too. -/
def isClosed (content : List Markup) : Bool := onlyText? content = some []

/-- **The layout of an element**, without the margin in front and the end of its last line. -/
def block (level : Nat) : Markup → Text
  | element tag attributes content =>
    openingTag escape tag attributes ++ (tagEnd (isClosed content) ++
      if isClosed content then [] else inside level content ++ closingTag tag)
  | _ => []

lemma isMark_margin (level : Nat) : ∀ r ∈ margin level, r.isMark = false := by
  intro r hr
  rw [List.eq_of_mem_replicate hr]
  decide

lemma isLegal_margin (level : Nat) : isLegal (margin level) = true := by
  rw [isLegal_iff]
  intro r hr
  rw [List.eq_of_mem_replicate hr]
  decide

lemma inline?_eq : ∀ {content : List Markup},
    (onlyText? content = none → areAllOrderly content = true) →
      inline? content = (onlyText? content).map fun t => t.flatMap escape
  | [], _ | [text _], _ | [element _ _ _], _ => rfl
  | first :: _ :: _, _ => by cases first <;> rfl
  | [literal _], h | [comment _], h | [instruction _ _], h => nomatch h rfl

/-- An element that can be read again has a line of its own, or several. -/
lemma lines_eq_block (level : Nat) : ∀ {part : Markup}, part.isOrderly = true →
    part.lines level = margin level ++ (part.block level ++ [('\n' : Rune)])
  | element tag attributes content, h => by
      simp only [isOrderly, Bool.and_eq_true] at h
      have hinline := inline?_eq fun hnone : onlyText? content = none => by simpa [hnone] using h.2
      cases hcase : onlyText? content with
      | none =>
          simp only [hcase, Option.map_none] at hinline
          simp only [lines, hinline, block, isClosed, inside, hcase, tagEnd, reduceCtorEq,
            decide_false, Bool.false_eq_true, if_false, List.append_assoc, List.cons_append]
          rfl
      | some t =>
          simp only [hcase, Option.map_some] at hinline
          cases t with
          | nil =>
              simp only [List.flatMap_nil] at hinline
              simp only [lines, hinline, block, isClosed, hcase, tagEnd, decide_true, if_true,
                List.append_assoc]
              rfl
          | cons r t =>
              obtain ⟨u, more, hwritten⟩ := List.exists_cons_of_ne_nil (escape_ne_nil r)
              rw [List.flatMap_cons, hwritten, List.cons_append] at hinline
              simp only [lines, hinline, block, isClosed, inside, hcase, tagEnd,
                Option.some.injEq, reduceCtorEq, decide_false, Bool.false_eq_true, if_false,
                List.append_assoc, List.cons_append, List.flatMap_cons, hwritten]
              rfl

lemma exists_block (level : Nat) : ∀ {part : Markup}, part.isOrderly = true →
    ∃ rest, part.block level = ('<' : Rune) :: rest
  | element _ _ _, _ => ⟨_, rfl⟩

lemma exists_reread (level : Nat) : ∀ {part : Markup}, part.isOrderly = true →
    ∃ tag attributes content, part.reread level = element tag attributes content
  | element _ _ _, _ => ⟨_, _, _, rfl⟩

/-! ## Reading elements -/

/-- An element is no text: nothing is joined to it. -/
lemma Frame.add_element (frame : Frame) (tag : Text) (attributes : Attributes)
    (content : List Markup) :
    frame.add (element tag attributes content) =
      { frame with content := element tag attributes content :: frame.content } := rfl

/-- White space at the beginning of an element, or after one that it holds, is a text of its own. -/
lemma Frame.add_text {frame : Frame} (h : ∀ t more, frame.content ≠ text t :: more) (t : Text) :
    frame.add (text t) = { frame with content := text t :: frame.content } := by
  obtain ⟨tag, attributes, scope, content⟩ := frame
  cases content with
  | nil => rfl
  | cons first more =>
      cases first with
      | text s => exact absurd rfl (h s more)
      | _ => rfl

/-- The end of a line and the blanks of the next are read as one text. -/
lemma leads_margin (level : Nat) (outer : List Frame) (rest : Text) {frame : Frame}
    (h : ∀ t more, frame.content ≠ text t :: more) :
    Leads (frame :: outer) (('\n' : Rune) :: (margin level ++ ('<' : Rune) :: rest))
      ({ frame with content := text (('\n' : Rune) :: margin level) :: frame.content } :: outer)
      (('<' : Rune) :: rest) := by
  have hmark : ∀ r ∈ ('\n' : Rune) :: margin level, r.isMark = false :=
    List.forall_mem_cons.mpr ⟨by decide, isMark_margin level⟩
  have hlegal : isLegal (('\n' : Rune) :: margin level) = true :=
    isLegal_iff.mpr (List.forall_mem_cons.mpr ⟨by decide, isLegal_iff.mp (isLegal_margin level)⟩)
  have hreturn : ∀ r ∈ ('\n' : Rune) :: margin level, r ≠ ('\r' : Rune) := by
    refine List.forall_mem_cons.mpr ⟨by decide, fun r hr => ?_⟩
    rw [List.eq_of_mem_replicate hr]
    decide
  have hread := leads_text outer rest (('\n' : Rune) :: margin level) hlegal frame
  rw [flatMap_escape_run hmark, Text.lineFeeds_eq_self hreturn] at hread
  rw [← Frame.add_text h]
  exact hread

/-- What is between the tags of an element is read, provided that the elements there are. -/
lemma leads_inside {level : Nat} {content : List Markup} (tag : Text) (attributes : Attributes)
    (scope : Scope) (outer : List Frame) (rest : Text)
    (h : (match onlyText? content with
      | some t => isLegal t
      | none => areAllOrderly content) = true)
    (hall : areAllOrderly content = true → Leads (⟨tag, attributes, scope, []⟩ :: outer)
      (('\n' : Rune) :: (allLines (level + 1) content ++ (margin level ++ ('<' : Rune) :: rest)))
      (⟨tag, attributes, scope, (allReread level content).reverse ++ []⟩ :: outer)
      (('<' : Rune) :: rest)) :
    Leads (⟨tag, attributes, scope, []⟩ :: outer) (inside level content ++ ('<' : Rune) :: rest)
      (⟨tag, attributes, scope, (rereadInside level content).reverse⟩ :: outer)
      (('<' : Rune) :: rest) := by
  cases hcase : onlyText? content with
  | none =>
      simp only [hcase] at h
      simp only [inside, rereadInside, hcase, List.cons_append, List.append_assoc]
      rw [← List.append_nil (allReread level content).reverse]
      exact hall h
  | some t =>
      simp only [hcase] at h
      have hread := leads_text outer rest t h ⟨tag, attributes, scope, []⟩
      simp only [inside, rereadInside, hcase]
      have hframe : Frame.addText ⟨tag, attributes, scope, []⟩ t.lineFeeds =
          ⟨tag, attributes, scope, (textPart t.lineFeeds).reverse⟩ := by
        unfold Frame.addText textPart
        split_ifs <;> rfl
      rw [← hframe]
      exact hread

/-- A tag opens an element, which is complete if the tag closes it, too. -/
lemma Leads.of_opening {tag : Text} {attributes : Attributes} {closed : Bool} {rest : Text}
    {written : List Written} {frame : Frame} {read : Attributes}
    (htoken : token (openingTag escape tag attributes ++ (tagEnd closed ++ rest)) =
      .ok (.opening tag written closed, rest))
    (hopened : ∀ start, opened frame.scope start tag written = .ok (read, frame.scope))
    (outer : List Frame) :
    Leads (frame :: outer) (openingTag escape tag attributes ++ (tagEnd closed ++ rest))
      (if closed then frame.add (element tag read []) :: outer
        else ⟨tag, read, frame.scope, []⟩ :: frame :: outer) rest := by
  refine Leads.of_token htoken ?_ ?_
  · show _ < (('<' : Rune) :: tag ++ _ ++ _ : Text).length
    simp only [List.cons_append, List.length_cons, List.length_append]
    omega
  · rw [step, hopened]
    rfl

/-- A tag closes the element, which is put into the one around it. -/
lemma Leads.of_closing (frame : Frame) (around : Frame) (outer : List Frame)
    (h : isName frame.tag = true) (rest : Text) :
    Leads (frame :: around :: outer) (closingTag frame.tag ++ rest)
      (around.add frame.closed :: outer) rest := by
  obtain ⟨left, htoken⟩ := token_closing h rest
  refine Leads.of_token htoken ?_ ?_
  · show rest.length <
      (('<' : Rune) :: ('/' : Rune) :: (frame.tag ++ Text.ofString ">") ++ rest).length
    simp only [List.cons_append, List.length_cons, List.length_append]
    omega
  · rw [step, if_pos rfl]
    rfl

mutual

/-- **The layout of an element leads to the element.** -/
theorem leads_block : ∀ (part : Markup) (level : Nat) (frame : Frame) (outer : List Frame)
    (rest : Text), part.isOrderly = true →
      Leads (frame :: outer) (part.block level ++ rest) (frame.add (part.reread level) :: outer) rest
  | element tag attributes content, level, frame, outer, rest, h => by
      simp only [isOrderly, Bool.and_eq_true, List.all_eq_true, decide_eq_true_eq] at h
      obtain ⟨⟨⟨htag, hread⟩, hdistinct⟩, hcontent⟩ := h
      let after : Text := if isClosed content then [] else inside level content ++ closingTag tag
      obtain ⟨written, htoken, hsaid⟩ := token_opening htag hread (isClosed content) (after ++ rest)
      have hopening := Leads.of_opening htoken
        (fun start => opened_of_says frame.scope start htag hread hdistinct hsaid) outer
      rw [block, List.append_assoc, List.append_assoc]
      refine hopening.trans ?_
      cases hclosed : isClosed content with
      | true =>
          have honly : onlyText? content = some [] := by simpa [isClosed] using hclosed
          simp only [after, hclosed, if_true, reread_element, rereadInside, honly]
          exact Leads.refl _ _
      | false =>
          -- the white space and the elements in between, and then the tag that closes the element
          have hbelow := leads_inside tag (rereadAttributes attributes) frame.scope
            (frame :: outer) (('/' : Rune) :: (tag ++ Text.ofString ">" ++ rest)) hcontent
            fun hall => leads_allLines content level ⟨_, _, _, []⟩ _ _ hall
              fun _ _ heq => (List.cons_ne_nil _ _ heq.symm).elim
          have hclosing := Leads.of_closing ⟨tag, rereadAttributes attributes, frame.scope,
            (rereadInside level content).reverse⟩ frame outer htag rest
          rw [Frame.closed, List.reverse_reverse] at hclosing
          simp only [after, hclosed, Bool.false_eq_true, if_false, List.append_assoc]
          exact hbelow.trans hclosing

/-- The elements below an element are read, with the white space in front of each and after the
last. -/
theorem leads_allLines : ∀ (children : List Markup) (level : Nat) (frame : Frame)
    (outer : List Frame) (rest : Text), areAllOrderly children = true →
      (∀ t more, frame.content ≠ text t :: more) →
      Leads (frame :: outer)
        (('\n' : Rune) :: (allLines (level + 1) children ++ (margin level ++ ('<' : Rune) :: rest)))
        ({ frame with content := (allReread level children).reverse ++ frame.content } :: outer)
        (('<' : Rune) :: rest)
  | [], level, frame, outer, rest, _, hframe => leads_margin level outer rest hframe
  | child :: children, level, frame, outer, rest, h, hframe => by
      simp only [areAllOrderly, Bool.and_eq_true] at h
      let more : Text := ('\n' : Rune) :: (allLines (level + 1) children ++
        (margin level ++ ('<' : Rune) :: rest))
      obtain ⟨later, hlater⟩ := exists_block (level + 1) h.1
      obtain ⟨tag, attributes, content, hreread⟩ := exists_reread (level + 1) h.1
      let margined : Frame :=
        { frame with content := text (('\n' : Rune) :: margin (level + 1)) :: frame.content }
      have hmargin := leads_margin (level + 1) outer (later ++ more) hframe
      have hchild := leads_block child (level + 1) margined outer more h.1
      rw [hlater, hreread, Frame.add_element] at hchild
      have hothers := leads_allLines children level
        { margined with content := element tag attributes content :: margined.content } outer rest
        h.2 (fun _ _ heq => by cases heq)
      have hall := hmargin.trans (hchild.trans hothers)
      simpa [margined, more, allLines, lines_eq_block (level + 1) h.1, hlater, allReread, hreread]
        using hall

end

end LoadPlan.Markup
