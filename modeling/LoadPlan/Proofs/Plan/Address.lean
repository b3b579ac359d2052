import LoadPlan.Plan.Server
import LoadPlan.Proofs.Operation.Verb
import LoadPlan.Proofs.Text.Cutting

/-!
# Where the parts of an address come from

The server of a plan is cut out of an address.  Cutting adds no characters, and neither does lower case add
any that stand before the letters; so a comma in a part of the server is one of the address.

* `Text.mem_of_mem_lower` — what lower case has of signs and digits, the text has.
* `Url.parts_of_split?` — the parts of a URL.
* **`comma_ofBaseUrl`** — protocol and port have no commas, host and path have them from the address.
-/

namespace LoadPlan

/-! ## Lower case -/

namespace Text

/-- What stands before the capitals is in the lower case of a code point only if it is the code point. -/
lemma eq_of_mem_lowerAt {r x : Rune} (hr : r.code < 0x41) {after : Bool} {rest : Text}
    (h : r ∈ lowerAt after x rest) : r = x := by
  rcases Nat.lt_or_ge x.code 0x80 with hascii | hother
  · rw [lowerAt_of_ascii hascii, List.mem_singleton] at h
    rw [h, Rune.code_asciiLower] at hr
    rw [h, Rune.eq_iff_code, Rune.code_asciiLower]
    split_ifs at hr ⊢ with hcapital
    · omega
    · rfl
  · -- beyond ASCII there is nothing whose lower case begins before the letters
    exfalso
    unfold lowerAt at h
    split_ifs at h
    · rw [List.mem_singleton.mp h] at hr
      exact absurd hr (by decide)
    · rw [List.mem_singleton.mp h] at hr
      exact absurd hr (by decide)
    · rcases List.mem_cons.mp h with rfl | h
      · exact absurd hr (by decide)
      · rw [List.mem_singleton.mp h] at hr
        exact absurd hr (by decide)
    · have := Rune.apply_lowerRuns_of_not_ascii hother
      rw [List.mem_singleton.mp h] at hr
      omega

lemma mem_of_mem_lowerFrom {r : Rune} (hr : r.code < 0x41) : ∀ {t : Text} {after : Bool},
    r ∈ lowerFrom after t → r ∈ t
  | x :: t, after, h => by
      rw [lowerFrom, List.mem_append] at h
      rcases h with h | h
      · exact eq_of_mem_lowerAt hr h ▸ List.mem_cons_self
      · exact List.mem_cons_of_mem x (mem_of_mem_lowerFrom hr h)

/-- What stands before the capitals is in the lower case of a text only if it is in the text. -/
lemma mem_of_mem_lower {r : Rune} (hr : r.code < 0x41) {t : Text} (h : r ∈ t.lower) : r ∈ t :=
  mem_of_mem_lowerFrom hr h

lemma comma_notMem_of_isFigures {t : Text} (h : t.IsFigures) : (',' : Rune) ∉ t :=
  fun hmem => absurd (h _ hmem) (by decide)

end Text

/-! ## The parts of a URL -/

namespace Url

lemma splitScheme_snd_subset (t : Text) : (splitScheme t).2 ⊆ t := by
  unfold splitScheme
  dsimp only
  split
  · rename_i hrest
    split_ifs
    · exact Text.subset_of_after? hrest
    · exact List.Subset.refl t
  · exact List.Subset.refl t

/-- A scheme has no comma. -/
lemma comma_notMem_splitScheme (t : Text) : (',' : Rune) ∉ (splitScheme t).1 := by
  unfold splitScheme
  dsimp only
  split
  · split_ifs with hscheme
    · intro hcomma
      have hmem := Text.mem_of_mem_lower (by decide) hcomma
      rw [Bool.and_eq_true, List.all_eq_true] at hscheme
      exact absurd (hscheme.2 _ hmem) (by decide)
    · exact List.not_mem_nil
  · exact List.not_mem_nil

lemma splitAuthority_subset (t : Text) : (splitAuthority t).1 ⊆ t ∧ (splitAuthority t).2 ⊆ t := by
  unfold splitAuthority
  dsimp only
  split_ifs
  · exact ⟨List.Subset.trans (List.takeWhile_prefix _).subset (List.drop_subset 2 t),
      List.Subset.trans (List.dropWhile_subset _) (List.drop_subset 2 t)⟩
  · exact ⟨List.nil_subset t, List.Subset.refl t⟩

lemma dropParameters_subset (path : Text) : dropParameters path ⊆ path :=
  List.append_subset.mpr ⟨List.take_subset _ path,
    List.Subset.trans (Text.before_subset _ _) (Text.afterLast_subset _ path)⟩

/-- **The parts of a URL** have the characters of the source, and the scheme has no comma. -/
lemma parts_of_split? {source : Text} {url : Url} (h : split? source = some url) :
    (',' : Rune) ∉ url.scheme ∧ url.authority ⊆ source ∧ url.path ⊆ source := by
  unfold split? at h
  dsimp only at h
  generalize ht : (source.dropWhile isLeadIn).filter _ = t at h
  have hsource : t ⊆ source := by
    rw [← ht]
    exact List.Subset.trans List.filter_sublist.subset (List.dropWhile_subset _)
  have hscheme := comma_notMem_splitScheme t
  have hrest := List.Subset.trans (splitScheme_snd_subset t) hsource
  obtain ⟨hauthority, hafter⟩ := splitAuthority_subset (splitScheme t).2
  have hpath : ((splitAuthority (splitScheme t).2).2.before '#').before '?' ⊆ source :=
    List.Subset.trans (List.Subset.trans (Text.before_subset _ _) (Text.before_subset _ _))
      (List.Subset.trans hafter hrest)
  split_ifs at h
  · obtain rfl := Option.some.inj h
    exact ⟨hscheme, List.Subset.trans hauthority hrest,
      List.Subset.trans (dropParameters_subset _) hpath⟩
  · obtain rfl := Option.some.inj h
    exact ⟨hscheme, List.Subset.trans hauthority hrest, hpath⟩

/-- A comma in the host is one of the authority. -/
lemma comma_host? {url : Url} {host : Text} (h : url.host? = some host) (hcomma : (',' : Rune) ∈ host) :
    (',' : Rune) ∈ url.authority := by
  have hwritten : url.hostAndPort.1 ⊆ url.authority := by
    refine List.Subset.trans ?_ (Text.afterLast_subset '@' url.authority)
    rw [hostAndPort]
    split
    · rename_i hbracketed
      exact List.Subset.trans (Text.before_subset _ _) (Text.subset_of_after? hbracketed)
    · exact Text.before_subset _ _
  unfold host? at h
  dsimp only at h
  split_ifs at h
  obtain rfl := Option.some.inj h
  rcases List.mem_append.mp hcomma with hlower | hzone
  · exact hwritten (Text.before_subset _ _ (Text.mem_of_mem_lower (by decide) hlower))
  · exact hwritten (List.drop_subset _ _ hzone)

end Url

namespace Plan

namespace Server

lemma comma_notMem_portText (port : Option Nat) : (',' : Rune) ∉ portText port := by
  unfold portText
  split
  · exact List.not_mem_nil
  · exact List.not_mem_nil
  · exact Text.comma_notMem_of_isFigures (Text.isFigures_ofNat _)

lemma comma_notMem_orElse {t usual : Text} (ht : (',' : Rune) ∉ t) (husual : (',' : Rune) ∉ usual) :
    (',' : Rune) ∉ t.orElse usual := by
  rw [Text.orElse]
  split_ifs
  · exact husual
  · exact ht

/-- The base path of an address without a host has the characters of the address. -/
lemma lonePath_subset (address : Text) : lonePath (Url.split? address) ⊆ address := by
  unfold lonePath
  split
  · exact List.nil_subset _
  · rename_i url hurl
    obtain ⟨-, -, hpath⟩ := Url.parts_of_split? hurl
    split_ifs
    · exact List.Subset.trans (Text.trimEnd_subset _ _) hpath
    · exact List.nil_subset _

/-- **Commas in the parts of an address**: protocol and port have none, and if the address has none, neither
have the host and the path. -/
lemma comma_ofBaseUrl {address : Text} {server : Server}
    (h : (Server.ofBaseUrl address).outcome = .ok server) :
    (',' : Rune) ∉ server.protocol ∧ (',' : Rune) ∉ server.port ∧
      ((',' : Rune) ∈ server.host → (',' : Rune) ∈ address) ∧
      ((',' : Rune) ∈ server.basePath → (',' : Rune) ∈ address) := by
  unfold ofBaseUrl at h
  dsimp only at h
  split at h
  · rename_i found hfound
    obtain rfl := Except.ok.inj h
    obtain ⟨url, hurl, hserver⟩ := Option.bind_eq_some_iff.mp hfound
    obtain ⟨hscheme, hauthority, hpath⟩ := Url.parts_of_split? hurl
    unfold ofUrl? at hserver
    split at hserver
    · rename_i port host hport hhost
      obtain rfl := Option.some.inj hserver
      exact ⟨comma_notMem_orElse hscheme (by decide), comma_notMem_portText port,
        fun hcomma => hauthority (Url.comma_host? hhost hcomma),
        fun hcomma => hpath (Text.trimEnd_subset _ _ hcomma)⟩
    · cases hserver
  · obtain ⟨u, -, h⟩ := Report.exists_of_bind h
    obtain rfl := Except.ok.inj h
    have hprotocol : (',' : Rune) ∉ ("http" : Text) := by decide
    have hhost : (',' : Rune) ∉ ("localhost" : Text) := by decide
    exact ⟨hprotocol, List.not_mem_nil, fun hcomma => absurd hcomma hhost,
      fun hcomma => lonePath_subset address hcomma⟩

end Server

end Plan

end LoadPlan
