import LoadPlan.Proofs.Markup.Reread
import LoadPlan.Text.Utf8

/-!
# Documents

What holds of the document of orderly markup as a whole.

* `readDocument` — reading a document with its first line.
* **`readDocument_document`** — a reader finds in a document what `reread` says.
* `withoutMargins` — what is left when white space around elements is passed over.
* `asRead` — markup with its attributes and texts as they are read.
* **`withoutMargins_reread`** — nothing but white space has been added by the layout.
* `Rune.IsXmlCharacter`, **`isXmlCharacter_of_mem_document`** — the characters of a document are
  characters of the format.
-/

namespace LoadPlan

namespace Markup

/-! ## The root -/

/-- **Reading a document**, the first line of which says what format it has. -/
def readDocument (source : Text) : Except RenderFault Markup :=
  if declaration.isPrefixOf source then read (source.drop declaration.length) else read source

lemma readInside_closing (frame : Frame) (h : isName frame.tag = true) (rounds : Nat)
    (rest : Text) :
    readInside (rounds + 1) [frame] (closingTag frame.tag ++ rest) = .ok (frame.closed, rest) := by
  obtain ⟨left, htoken⟩ := token_closing h rest
  have hsource : closingTag frame.tag ++ rest =
      ('<' : Rune) :: ('/' : Rune) :: (frame.tag ++ Text.ofString ">" ++ rest) := rfl
  rw [hsource] at htoken ⊢
  rw [readInside, nextToken_of_token htoken]
  simp only [bind, Except.bind, step, if_true]
  rfl

/-- The root of a document is read, and what follows it is left. -/
lemma readRoot_block : ∀ {root : Markup}, root.isOrderly = true → ∀ rest : Text,
    readRoot (root.block 0 ++ rest) = .ok (root.reread 0, rest)
  | element tag attributes content, h, rest => by
      simp only [isOrderly, Bool.and_eq_true, List.all_eq_true, decide_eq_true_eq] at h
      obtain ⟨⟨⟨htag, hread⟩, hdistinct⟩, hcontent⟩ := h
      let after : Text := if isClosed content then [] else inside 0 content ++ closingTag tag
      obtain ⟨written, htoken, hsaid⟩ := token_opening htag hread (isClosed content) (after ++ rest)
      have hopened := fun start =>
        opened_of_says Scope.start start htag hread hdistinct hsaid
      have hsource : (element tag attributes content).block 0 ++ rest =
          openingTag escape tag attributes ++ (tagEnd (isClosed content) ++ (after ++ rest)) := by
        rw [block, List.append_assoc, List.append_assoc]
      have hroot : readRoot ((element tag attributes content).block 0 ++ rest) =
          if isClosed content then
            .ok (element tag (rereadAttributes attributes) [], after ++ rest)
          else readInside ((after ++ rest).length + 1)
            [⟨tag, rereadAttributes attributes, Scope.start, []⟩] (after ++ rest) := by
        obtain ⟨r, source, hcons⟩ : ∃ r source, openingTag escape tag attributes ++
            (tagEnd (isClosed content) ++ (after ++ rest)) = r :: source := ⟨_, _, rfl⟩
        rw [hcons] at htoken
        rw [hsource, hcons, readRoot, nextToken_of_token htoken]
        simp only [List.isEmpty_cons, Bool.false_eq_true, if_false, bind, Except.bind, hopened]
        cases isClosed content <;> rfl
      rw [hroot, reread_element]
      cases hclosed : isClosed content with
      | true =>
          have honly : onlyText? content = some [] := by simpa [isClosed] using hclosed
          simp only [after, hclosed, if_true, rereadInside, honly]
          rfl
      | false =>
          -- the bound that reading starts with is enough to reach the tag that closes the root
          have hbelow := leads_inside tag (rereadAttributes attributes) Scope.start []
            (('/' : Rune) :: (tag ++ Text.ofString ">" ++ rest)) hcontent
            fun hall => leads_allLines content 0 ⟨_, _, _, []⟩ _ _ hall
              fun _ _ heq => (List.cons_ne_nil _ _ heq.symm).elim
          obtain ⟨left, hleft, hinside⟩ := hbelow _ (Nat.lt_succ_self _)
          obtain ⟨rounds, rfl⟩ : ∃ n, left = n + 1 := ⟨left - 1, by omega⟩
          simp only [after, hclosed, Bool.false_eq_true, if_false, List.append_assoc]
          refine hinside.trans ?_
          have hclosing := readInside_closing ⟨tag, rereadAttributes attributes, Scope.start,
            (rereadInside 0 content).reverse⟩ htag rounds rest
          rw [Frame.closed, List.reverse_reverse] at hclosing
          exact hclosing

/-- **A document is read back**: a reader finds the elements, and the white space around them. -/
theorem readDocument_document {root : Markup} (h : root.isOrderly = true) :
    readDocument root.document = .ok (root.reread 0) := by
  have hlines : root.lines 0 = root.block 0 ++ [('\n' : Rune)] := lines_eq_block 0 h
  have hprefix : declaration.isPrefixOf (declaration ++ root.lines 0) = true :=
    List.isPrefixOf_iff_prefix.mpr (List.prefix_append _ _)
  have hrest : remainder ([('\n' : Rune)].length + 1) [('\n' : Rune)] = .ok () := by rfl
  have hwhole : readWhole (root.lines 0) = .ok (root.reread 0) := by
    rw [hlines, readWhole, readRoot_block h]
    simp only [bind, Except.bind, hrest]
    rfl
  rw [readDocument, document, if_pos hprefix, List.drop_left, read, hwhole]

/-! ## Margins -/

/-- Whether a part is white space. -/
def isBlank : Markup → Bool
  | text t => t.all isSpace
  | _ => false

/-- Whether a part is an element. -/
def isElement : Markup → Bool
  | element _ _ _ => true
  | _ => false

mutual

/-- **What is left when white space is passed over** that stands next to elements. -/
def withoutMargins : Markup → Markup
  | element tag attributes content =>
    element tag attributes (if content.any isElement then allWithoutMargins content else content)
  | part => part

def allWithoutMargins : List Markup → List Markup
  | [] => []
  | part :: parts =>
    if part.isBlank then allWithoutMargins parts
    else part.withoutMargins :: allWithoutMargins parts

end

mutual

/-- **Markup with its attributes and texts as they are read.** -/
def asRead : Markup → Markup
  | element tag attributes content =>
    element tag (rereadAttributes attributes)
      (match onlyText? content with
        | some t => textPart t.lineFeeds
        | none => allAsRead content)
  | part => part

def allAsRead : List Markup → List Markup
  | [] => []
  | part :: parts => part.asRead :: allAsRead parts

end

lemma isBlank_margin (level : Nat) : (text (('\n' : Rune) :: margin level)).isBlank = true := by
  have hspace : ∀ r ∈ margin level, isSpace r = true := by
    intro r hr
    rw [List.eq_of_mem_replicate hr]
    decide
  rw [isBlank, List.all_cons, List.all_eq_true.mpr hspace]
  rfl

lemma isBlank_of_isOrderly : ∀ {part : Markup} (level : Nat), part.isOrderly = true →
    (part.reread level).isBlank = false
  | element _ _ _, _, _ => rfl

/-- Orderly content other than a text has elements. -/
lemma any_isElement_allReread (level : Nat) : ∀ {content : List Markup},
    onlyText? content = none → areAllOrderly content = true →
      (allReread level content).any isElement = true
  | element _ _ _ :: _, _, _ => rfl
  | text _ :: _, _, h | literal _ :: _, _, h | comment _ :: _, _, h
  | instruction _ _ :: _, _, h => nomatch h

lemma any_isElement_textPart (t : Text) : (textPart t).any isElement = false := by
  unfold textPart
  split_ifs <;> rfl

mutual

/-- **Nothing but white space has been added by the layout** of an element. -/
theorem withoutMargins_reread : ∀ (part : Markup) (level : Nat), part.isOrderly = true →
    (part.reread level).withoutMargins = part.asRead
  | element tag attributes content, level, h => by
      simp only [isOrderly, Bool.and_eq_true] at h
      have hcontent := h.2
      rw [reread_element, withoutMargins, asRead, rereadInside]
      cases hcase : onlyText? content with
      | none =>
          simp only [hcase] at hcontent
          simp only [any_isElement_allReread level hcase hcontent, if_true,
            allWithoutMargins_allReread content level hcontent]
      | some t => simp only [any_isElement_textPart, Bool.false_eq_true, if_false]

theorem allWithoutMargins_allReread : ∀ (content : List Markup) (level : Nat),
    areAllOrderly content = true → allWithoutMargins (allReread level content) = allAsRead content
  | [], level, _ => by
      rw [allReread, allWithoutMargins, if_pos (isBlank_margin level)]
      rfl
  | child :: children, level, h => by
      simp only [areAllOrderly, Bool.and_eq_true] at h
      rw [allReread, allWithoutMargins, if_pos (isBlank_margin (level + 1)), allWithoutMargins,
        isBlank_of_isOrderly (level + 1) h.1, withoutMargins_reread child (level + 1) h.1,
        allWithoutMargins_allReread children level h.2]
      rfl

end

end Markup

/-! ## Characters -/

/-- **The characters of the format**: tabulator, line feed, return, and all others from the blank on
but for surrogates and the last two of the first plane. -/
def Rune.IsXmlCharacter (r : Rune) : Prop :=
  r.code = 0x9 ∨ r.code = 0xA ∨ r.code = 0xD ∨ (0x20 ≤ r.code ∧ r.code ≤ 0xD7FF) ∨
    (0xE000 ≤ r.code ∧ r.code ≤ 0xFFFD) ∨ (0x10000 ≤ r.code ∧ r.code ≤ 0x10FFFF)

/-- What is left out of texts is what is no character of the format. -/
lemma Rune.isIllegal_eq_false_iff {r : Rune} : r.isIllegal = false ↔ r.IsXmlCharacter := by
  have hlt := r.code_lt
  simp only [isIllegal, isSurrogate, IsXmlCharacter, Bool.or_eq_false_iff, Bool.and_eq_false_iff,
    decide_eq_false_iff_not]
  omega

/-- The tables of names hold no surrogates and no control characters. -/
lemma Rune.isIllegal_of_isNamePart {r : Rune} (h : r.isNamePart = true) : r.isIllegal = false := by
  have htable : ∀ range ∈ nameStartRanges ++ nameExtraRanges,
      0x20 ≤ range.1 ∧ range.2 ≤ 0xD7FF := by decide +kernel
  have hwithin : ∃ range ∈ nameStartRanges ++ nameExtraRanges,
      range.1 ≤ r.code ∧ r.code ≤ range.2 := by
    simp only [isNamePart, isNameStart, within, Bool.or_eq_true, List.any_eq_true,
      Bool.and_eq_true, decide_eq_true_eq] at h
    rcases h with ⟨range, hmem, hrange⟩ | ⟨range, hmem, hrange⟩
    · exact ⟨range, List.mem_append_left _ hmem, hrange⟩
    · exact ⟨range, List.mem_append_right _ hmem, hrange⟩
  obtain ⟨range, hmem, hlow, hhigh⟩ := hwithin
  obtain ⟨hmin, hmax⟩ := htable range hmem
  exact isIllegal_eq_false_iff.mpr (.inr (.inr (.inr (.inl ⟨by omega, by omega⟩))))

namespace Markup

lemma isLegal_flatMap {α : Type} {write : α → Text} {xs : List α}
    (h : ∀ x ∈ xs, isLegal (write x) = true) : isLegal (xs.flatMap write) = true := by
  rw [isLegal_iff]
  intro r hr
  obtain ⟨x, hx, hr⟩ := List.mem_flatMap.mp hr
  exact isLegal_iff.mp (h x hx) r hr

lemma isLegal_of_isName {name : Text} (h : isName name = true) : isLegal name = true :=
  isLegal_iff.mpr fun r hr => Rune.isIllegal_of_isNamePart (isNamePart_of_mem h r hr)

lemma isLegal_singleton {r : Rune} (h : r.isIllegal = false) : isLegal [r] = true :=
  isLegal_iff.mpr (List.forall_mem_singleton.mpr h)

lemma isLegal_escape {r : Rune} (h : r.isIllegal = false) : isLegal (escape r) = true := by
  unfold escape
  split_ifs
  iterate 4 decide
  exact isLegal_singleton h

lemma isLegal_escapeText {r : Rune} (h : r.isIllegal = false) : isLegal (escapeText r) = true := by
  unfold escapeText
  split_ifs
  · exact isLegal_singleton h
  · exact isLegal_escape h

lemma isLegal_escapeAttribute {r : Rune} (h : r.isIllegal = false) :
    isLegal (escapeAttribute r) = true := by
  unfold escapeAttribute
  split_ifs
  iterate 3 decide
  exact isLegal_escape h

lemma isLegal_openingTag {escaped : Rune → Text}
    (hescaped : ∀ r : Rune, r.isIllegal = false → isLegal (escaped r) = true) {tag : Text}
    (htag : isName tag = true) {attributes : Attributes}
    (hread : ∀ pair ∈ attributes, isReadable pair = true) :
    isLegal (openingTag escaped tag attributes) = true := by
  have hattribute : ∀ pair ∈ attributes, isLegal (attributeText escaped pair) = true := by
    intro pair hpair
    obtain ⟨name, value⟩ := pair
    have h := hread _ hpair
    cases value with
    | raw t => exact nomatch h
    | text t =>
        simp only [isReadable, Bool.and_eq_true] at h
        have hvalue : isLegal (t.flatMap escaped) = true :=
          isLegal_flatMap fun r hr => hescaped r (isLegal_iff.mp h.2 r hr)
        simp only [attributeText, AttributeValue.written, isLegal_append]
        exact ⟨⟨⟨⟨by decide, isLegal_of_isName h.1.1⟩, by decide⟩, hvalue⟩, by decide⟩
  simp only [openingTag, isLegal_append]
  exact ⟨⟨by decide, isLegal_of_isName htag⟩, isLegal_flatMap hattribute⟩

lemma isLegal_closingTag {tag : Text} (h : isName tag = true) :
    isLegal (closingTag tag) = true := by
  simp only [closingTag, isLegal_append]
  exact ⟨⟨by decide, isLegal_of_isName h⟩, by decide⟩

lemma isLegal_tagEnd (closed : Bool) : isLegal (tagEnd closed) = true := by
  cases closed <;> decide

mutual

/-- **The layout of orderly markup can be carried by XML.** -/
theorem isLegal_block : ∀ (part : Markup) (level : Nat), part.isOrderly = true →
    isLegal (part.block level) = true
  | element tag attributes content, level, h => by
      simp only [isOrderly, Bool.and_eq_true, List.all_eq_true] at h
      obtain ⟨⟨⟨htag, hread⟩, -⟩, hcontent⟩ := h
      have hinside : isLegal (inside level content) = true := by
        cases hcase : onlyText? content with
        | none =>
            simp only [hcase] at hcontent
            rw [inside, hcase, ← List.singleton_append, isLegal_append, isLegal_append]
            exact ⟨by decide, isLegal_allLines content (level + 1) hcontent, isLegal_margin level⟩
        | some t =>
            simp only [hcase] at hcontent
            rw [inside, hcase]
            exact isLegal_flatMap fun r hr => isLegal_escape (isLegal_iff.mp hcontent r hr)
      rw [block, isLegal_append, isLegal_append]
      refine ⟨isLegal_openingTag (fun _ => isLegal_escape) htag hread, isLegal_tagEnd _, ?_⟩
      split_ifs
      · rfl
      · exact isLegal_append.mpr ⟨hinside, isLegal_closingTag htag⟩

theorem isLegal_allLines : ∀ (parts : List Markup) (level : Nat), areAllOrderly parts = true →
    isLegal (allLines level parts) = true
  | [], _, _ => rfl
  | part :: parts, level, h => by
      simp only [areAllOrderly, Bool.and_eq_true] at h
      rw [allLines, lines_eq_block level h.1, isLegal_append, isLegal_append, isLegal_append]
      exact ⟨⟨isLegal_margin level, isLegal_block part level h.1, by decide⟩,
        isLegal_allLines parts level h.2⟩

end

/-- **The characters of a document are characters of the format.** -/
theorem isXmlCharacter_of_mem_document {root : Markup} (h : root.isOrderly = true) :
    ∀ r ∈ root.document, r.IsXmlCharacter := by
  have hdocument : isLegal root.document = true := by
    rw [document, lines_eq_block 0 h, isLegal_append, isLegal_append, isLegal_append]
    exact ⟨by decide, isLegal_margin 0, isLegal_block root 0 h, by decide⟩
  exact fun r hr => Rune.isIllegal_eq_false_iff.mp (isLegal_iff.mp hdocument r hr)

/-! ## The layout on one line -/

mutual

/-- **On one line, orderly markup can be carried by XML, too.** -/
theorem isLegal_compact : ∀ part : Markup, part.isOrderly = true → isLegal part.compact = true
  | element tag attributes content, h => by
      simp only [isOrderly, Bool.and_eq_true, List.all_eq_true] at h
      obtain ⟨⟨⟨htag, hread⟩, -⟩, hcontent⟩ := h
      have hinside : isLegal (allCompact content) = true := by
        cases hcase : onlyText? content with
        | none =>
            simp only [hcase] at hcontent
            exact isLegal_allCompact content hcontent
        | some t =>
            simp only [hcase] at hcontent
            rcases eq_of_onlyText? hcase with rfl | rfl
            · rfl
            · rw [allCompact, allCompact, List.append_nil, compact]
              exact isLegal_flatMap fun r hr => isLegal_escapeText (isLegal_iff.mp hcontent r hr)
      rw [compact, isLegal_append]
      refine ⟨isLegal_openingTag (fun _ => isLegal_escapeAttribute) htag hread, ?_⟩
      split_ifs
      · decide
      · simp only [isLegal_append]
        exact ⟨⟨by decide, hinside⟩, isLegal_closingTag htag⟩

theorem isLegal_allCompact : ∀ parts : List Markup, areAllOrderly parts = true →
    isLegal (allCompact parts) = true
  | [], _ => rfl
  | part :: parts, h => by
      simp only [areAllOrderly, Bool.and_eq_true] at h
      rw [allCompact, isLegal_append]
      exact ⟨isLegal_compact part h.1, isLegal_allCompact parts h.2⟩

end

mutual

/-- **Orderly markup holds no raw markup.** -/
theorem isPlain_of_isOrderly : ∀ part : Markup, part.isOrderly = true → part.isPlain = true
  | element tag attributes content, h => by
      simp only [isOrderly, Bool.and_eq_true, List.all_eq_true] at h
      obtain ⟨⟨⟨-, hread⟩, -⟩, hcontent⟩ := h
      have htexts : attributes.all (·.2.isText) = true := by
        rw [List.all_eq_true]
        intro pair hpair
        obtain ⟨name, value⟩ := pair
        cases value with
        | text t => rfl
        | raw t => exact nomatch hread _ hpair
      rw [isPlain, htexts, Bool.true_and]
      cases hcase : onlyText? content with
      | none =>
          simp only [hcase] at hcontent
          exact areAllPlain_of_areAllOrderly content hcontent
      | some t => rcases eq_of_onlyText? hcase with rfl | rfl <;> rfl

theorem areAllPlain_of_areAllOrderly : ∀ parts : List Markup, areAllOrderly parts = true →
    areAllPlain parts = true
  | [], _ => rfl
  | part :: parts, h => by
      simp only [areAllOrderly, Bool.and_eq_true] at h
      rw [areAllPlain, isPlain_of_isOrderly part h.1, areAllPlain_of_areAllOrderly parts h.2]
      rfl

end

/-! ## Line ends -/

end Markup

lemma Text.mem_lineFeeds : ∀ {t : Text} {r : Rune}, r ∈ t.lineFeeds →
    r ≠ ('\r' : Rune) ∧ (r ∈ t ∨ r = ('\n' : Rune))
  | [s], r, h => by
      rw [lineFeeds] at h
      split_ifs at h with hs
      · rw [List.mem_singleton.mp h]
        exact ⟨by decide, .inr rfl⟩
      · rw [List.mem_singleton.mp h]
        exact ⟨hs, .inl List.mem_cons_self⟩
  | s :: u :: rest, r, h => by
      have hrest : r ∈ Text.lineFeeds (u :: rest) →
          r ≠ ('\r' : Rune) ∧ (r ∈ s :: u :: rest ∨ r = ('\n' : Rune)) := by
        intro hmem
        obtain ⟨hne, hin⟩ := mem_lineFeeds hmem
        exact ⟨hne, hin.imp_left (List.mem_cons_of_mem s)⟩
      rw [lineFeeds] at h
      split_ifs at h with hs hu
      · exact hrest h
      · rcases List.mem_cons.mp h with rfl | h
        · exact ⟨by decide, .inr rfl⟩
        · exact hrest h
      · rcases List.mem_cons.mp h with rfl | h
        · exact ⟨hs, .inl List.mem_cons_self⟩
        · exact hrest h

lemma Text.lineFeeds_lineFeeds (t : Text) : t.lineFeeds.lineFeeds = t.lineFeeds :=
  Text.lineFeeds_eq_self fun _ hr => (Text.mem_lineFeeds hr).1

namespace Markup

lemma isLegal_lineFeeds {t : Text} (h : isLegal t = true) : isLegal t.lineFeeds = true := by
  rw [isLegal_iff]
  intro r hr
  rcases (Text.mem_lineFeeds hr).2 with hr | rfl
  · exact isLegal_iff.mp h r hr
  · decide

/-- The text of an element has the line ends of the text that is read. -/
lemma onlyText?_allWithLineFeeds : ∀ content : List Markup,
    onlyText? (allWithLineFeeds content) = (onlyText? content).map Text.lineFeeds
  | [] | [text _] | [element _ _ _] | [literal _] | [comment _] | [instruction _ _] => rfl
  | first :: _ :: _ => by cases first <;> rfl

mutual

/-- Reading line ends keeps orderly markup orderly. -/
theorem isOrderly_withLineFeeds : ∀ part : Markup, part.isOrderly = true →
    part.withLineFeeds.isOrderly = true
  | element tag attributes content, h => by
      simp only [isOrderly, Bool.and_eq_true] at h
      obtain ⟨hopening, hcontent⟩ := h
      rw [withLineFeeds]
      simp only [isOrderly, Bool.and_eq_true, onlyText?_allWithLineFeeds]
      refine ⟨hopening, ?_⟩
      cases hcase : onlyText? content with
      | none =>
          simp only [hcase] at hcontent
          exact areAllOrderly_allWithLineFeeds content hcontent
      | some t =>
          simp only [hcase] at hcontent
          exact isLegal_lineFeeds hcontent

theorem areAllOrderly_allWithLineFeeds : ∀ parts : List Markup, areAllOrderly parts = true →
    areAllOrderly (allWithLineFeeds parts) = true
  | [], _ => rfl
  | part :: parts, h => by
      simp only [areAllOrderly, Bool.and_eq_true] at h
      rw [allWithLineFeeds, areAllOrderly, isOrderly_withLineFeeds part h.1,
        areAllOrderly_allWithLineFeeds parts h.2]
      rfl

end

mutual

/-- Line ends that have been read are read again as they are. -/
theorem asRead_withLineFeeds : ∀ part : Markup, part.isOrderly = true →
    part.withLineFeeds.asRead = part.asRead
  | element tag attributes content, h => by
      simp only [isOrderly, Bool.and_eq_true] at h
      obtain ⟨-, hcontent⟩ := h
      rw [withLineFeeds, asRead, asRead, onlyText?_allWithLineFeeds]
      cases hcase : onlyText? content with
      | none =>
          simp only [hcase] at hcontent
          simp only [Option.map_none, allAsRead_allWithLineFeeds content hcontent]
      | some t => simp only [Option.map_some, Text.lineFeeds_lineFeeds]

theorem allAsRead_allWithLineFeeds : ∀ parts : List Markup, areAllOrderly parts = true →
    allAsRead (allWithLineFeeds parts) = allAsRead parts
  | [], _ => rfl
  | part :: parts, h => by
      simp only [areAllOrderly, Bool.and_eq_true] at h
      rw [allWithLineFeeds, allAsRead, allAsRead, asRead_withLineFeeds part h.1,
        allAsRead_allWithLineFeeds parts h.2]

end

end Markup

end LoadPlan
