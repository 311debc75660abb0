import HomeEntities.Proofs.Text.CaseMapping
import HomeEntities.Text.Slug
import Mathlib.Data.List.SplitBy

/-! # Slugs

The words of a text are its maximal runs of letters and digits (`words`). The pass that makes a slug
looks back at what it has made; a pass that remembers what it has passed over needs no look back and
no trimming, and makes the same (`joinWords`, `dropWhile_foldl_pushSlug`). Cut at the ends of its
words, a text consists of words and gaps in turn (`Alternates`), and over these that pass is
followed one group at a time: what it makes is the words with an underscore between neighbours
(`joinWords_false`). A slug is of that form whatever the text (`isSlug_slugify`), with words of
lower-case letters, so it is its own slug (`IsSlug.slugify_eq`). -/

namespace HomeEntities.Text

/-- Whether both characters are letters or digits, or neither. -/
def sameKind (a b : Char) : Bool := isAlphanumeric a == isAlphanumeric b

/-- The maximal runs of letters and digits. -/
def words (cs : List Char) : List (List Char) := (cs.splitBy sameKind).filter (·.all isAlphanumeric)

/-! ### A pass without a look back -/

theorem isAlphanumeric_underscore : isAlphanumeric '_' = false := by decide

/-- The words of a text, one underscore between neighbours. `started` holds once a character has
been kept, `gap` when something was left out since the last one kept. -/
def joinWords (started gap : Bool) : List Char → List Char
  | [] => []
  | c :: cs =>
    if isAlphanumeric c then
      if started && gap then '_' :: c :: joinWords true false cs else c :: joinWords true false cs
    else joinWords started true cs

/-- A slug up to the last character kept, and an underscore for the gap after it. The last character
comes first. -/
def withGap (gap : Bool) (kept : List Char) : List Char :=
  if !kept.isEmpty && gap then '_' :: kept else kept

theorem pushSlug_withGap {kept : List Char} {c : Char} (hkept : kept.head? ≠ some '_')
    (hc : isAlphanumeric c = false) (gap : Bool) :
    pushSlug (withGap gap kept) c = withGap true kept := by
  cases kept with
  | nil => simp [withGap, pushSlug, hc]
  | cons d kept =>
    have hd : d ≠ '_' := by simpa using hkept
    cases gap <;> simp [withGap, pushSlug, hc, hd]

/-- **The two passes make the same.** -/
theorem dropWhile_foldl_pushSlug (cs kept : List Char)
    (hkept : kept.head? ≠ some '_') (gap : Bool) :
    (cs.foldl pushSlug (withGap gap kept)).dropWhile (· == '_') =
      (joinWords (!kept.isEmpty) gap cs).reverse ++ kept := by
  induction cs generalizing kept gap with
  | nil =>
    cases kept with
    | nil => rfl
    | cons d kept =>
      have hd : d ≠ '_' := by simpa using hkept
      cases gap <;> simp [withGap, joinWords, hd]
  | cons c cs ih =>
    rw [List.foldl_cons]
    cases hc : isAlphanumeric c with
    | false => rw [pushSlug_withGap hkept hc, ih kept hkept, joinWords, if_neg (by simp [hc])]
    | true =>
      have hne : c ≠ '_' := fun h => by rw [h, isAlphanumeric_underscore] at hc; cases hc
      have hpush : pushSlug (withGap gap kept) c = withGap false (c :: withGap gap kept) := by
        simp [pushSlug, withGap, hc]
      rw [hpush, ih _ (by simpa using hne), joinWords, if_pos hc]
      unfold withGap
      split <;> simp

theorem slugify_eq_joinWords (text : String) : slugify text =
    match joinWords false false (lowercaseAll text.toList) with
    | [] => "unnamed"
    | slug => String.ofList slug := by
  have hpass : ((lowercaseAll text.toList).foldl pushSlug []).dropWhile (· == '_') =
      (joinWords false false (lowercaseAll text.toList)).reverse ++ [] :=
    dropWhile_foldl_pushSlug _ [] (by simp) false
  unfold slugify
  simp only [hpass, List.append_nil, List.isEmpty_reverse, List.reverse_reverse]
  cases joinWords false false (lowercaseAll text.toList) <;> rfl

/-! ### Words and gaps in turn -/

/-- Groups of characters that are letters and digits, or none, in turn; `kind` tells which of the
two the first one is, if there is one. -/
inductive Alternates : Bool → List (List Char) → Prop
  | nil (kind : Bool) : Alternates kind []
  | cons {kind : Bool} {g : List Char} {gs : List (List Char)} (hne : g ≠ [])
      (hkind : ∀ c ∈ g, isAlphanumeric c = kind) (hgs : Alternates (!kind) gs) :
      Alternates kind (g :: gs)

theorem kind_of_isChain {c : Char} {g : List Char}
    (h : (c :: g).IsChain fun a b => sameKind a b = true) :
    ∀ d ∈ c :: g, isAlphanumeric d = isAlphanumeric c := by
  induction g generalizing c with
  | nil => simp
  | cons b g ih =>
    obtain ⟨hcb, hg⟩ := List.isChain_cons_cons.mp h
    intro d hd
    rcases List.mem_cons.mp hd with rfl | hd
    · rfl
    · rw [ih hg d hd, beq_iff_eq.mp hcb]

theorem exists_alternates_of_isChain {gs : List (List Char)} (hnil : [] ∉ gs)
    (hchain : ∀ g ∈ gs, g.IsChain fun a b => sameKind a b = true)
    (hcut : gs.IsChain fun g g' => ∃ hg hg', sameKind (g.getLast hg) (g'.head hg') = false) :
    ∃ kind, Alternates kind gs := by
  induction gs with
  | nil => exact ⟨true, .nil true⟩
  | cons g gs ih =>
    obtain ⟨c, g, rfl⟩ := List.exists_cons_of_ne_nil fun h => hnil (h ▸ List.mem_cons_self)
    have hkind := kind_of_isChain (hchain _ List.mem_cons_self)
    obtain ⟨kind, halt⟩ := ih (fun h => hnil (List.mem_cons_of_mem _ h))
      (fun g' hg' => hchain g' (List.mem_cons_of_mem _ hg')) hcut.tail
    refine ⟨isAlphanumeric c, .cons (by simp) hkind ?_⟩
    cases halt with
    | nil => exact .nil _
    | @cons _ g' gs' hne hkind' hgs' =>
      -- the last character before the cut and the first one behind it are of two kinds
      obtain ⟨hg, hg', hdiffer⟩ := (List.isChain_cons_cons.mp hcut).1
      rw [sameKind, hkind _ (List.getLast_mem hg), hkind' _ (List.head_mem hg'),
        beq_eq_false_iff_ne] at hdiffer
      obtain rfl : (!isAlphanumeric c) = kind := (Bool.eq_not_of_ne hdiffer.symm).symm
      exact .cons hne hkind' hgs'

/-- **A text cut at the ends of its words** consists of words and gaps in turn. -/
theorem exists_alternates (cs : List Char) : ∃ kind, Alternates kind (cs.splitBy sameKind) :=
  exists_alternates_of_isChain (List.nil_notMem_splitBy _ cs)
    (fun _ hg => List.isChain_of_mem_splitBy hg) (List.isChain_getLast_head_splitBy _ cs)

/-! ### The pass over a text -/

theorem joinWords_word {w : List Char} (h : ∀ c ∈ w, isAlphanumeric c = true) (rest : List Char) :
    joinWords true false (w ++ rest) = w ++ joinWords true false rest := by
  induction w with
  | nil => rfl
  | cons c w ih =>
    have hc := h c List.mem_cons_self
    have hw := ih fun d hd => h d (List.mem_cons_of_mem _ hd)
    simp [joinWords, hc, hw]

/-- A word is kept, after an underscore if there is a word before it and a gap between them. -/
theorem joinWords_append_word {w : List Char} (hne : w ≠ [])
    (h : ∀ c ∈ w, isAlphanumeric c = true) (started gap : Bool) (rest : List Char) :
    joinWords started gap (w ++ rest) =
      (if started && gap then ['_'] else []) ++ w ++ joinWords true false rest := by
  obtain ⟨c, w, rfl⟩ := List.exists_cons_of_ne_nil hne
  have hc := h c List.mem_cons_self
  have hw := joinWords_word (fun d hd => h d (List.mem_cons_of_mem _ hd)) rest
  simp only [List.cons_append, joinWords, hc, if_true, hw]
  split <;> simp

theorem joinWords_append_gap {g : List Char} (hne : g ≠ [])
    (h : ∀ c ∈ g, isAlphanumeric c = false) (started gap : Bool) (rest : List Char) :
    joinWords started gap (g ++ rest) = joinWords started true rest := by
  induction g generalizing gap with
  | nil => exact absurd rfl hne
  | cons c g ih =>
    have hc := h c List.mem_cons_self
    rw [List.cons_append, joinWords, if_neg (by simp [hc])]
    by_cases hg : g = []
    · rw [hg, List.nil_append]
    · exact ih hg (fun d hd => h d (List.mem_cons_of_mem _ hd)) true

theorem filter_cons_word {w : List Char} {gs : List (List Char)}
    (h : ∀ c ∈ w, isAlphanumeric c = true) :
    (w :: gs).filter (·.all isAlphanumeric) = w :: gs.filter (·.all isAlphanumeric) :=
  List.filter_cons_of_pos (List.all_eq_true.mpr h)

theorem filter_cons_gap {g : List Char} {gs : List (List Char)} (hne : g ≠ [])
    (h : ∀ c ∈ g, isAlphanumeric c = false) :
    (g :: gs).filter (·.all isAlphanumeric) = gs.filter (·.all isAlphanumeric) := by
  refine List.filter_cons_of_neg fun hall => ?_
  obtain ⟨c, g, rfl⟩ := List.exists_cons_of_ne_nil hne
  have hc := List.all_eq_true.mp hall c List.mem_cons_self
  rw [h c List.mem_cons_self] at hc
  cases hc

theorem intercalate_cons (w : List Char) (ws : List (List Char)) :
    ['_'].intercalate (w :: ws) = w ++ ws.flatMap ('_' :: ·) := by
  induction ws generalizing w with
  | nil => simp
  | cons v ws ih => rw [List.intercalate_cons_cons, ih]; simp

namespace Alternates

variable {kind : Bool} {gs : List (List Char)}

theorem joinWords_true (h : Alternates kind gs) : ∀ {gap : Bool}, (kind = true → gap = true) →
    joinWords true gap gs.flatten =
      (gs.filter (·.all isAlphanumeric)).flatMap ('_' :: ·) := by
  induction h with
  | nil => intro gap _; rfl
  | @cons kind g gs hne hkind hgs ih =>
    intro gap hgap
    rw [List.flatten_cons]
    cases kind with
    | true =>
      rw [joinWords_append_word hne hkind, hgap rfl, ih (by simp), filter_cons_word hkind]
      simp
    | false =>
      rw [joinWords_append_gap hne hkind, ih (by simp), filter_cons_gap hne hkind]

theorem joinWords_false (h : Alternates kind gs) (gap : Bool) : joinWords false gap gs.flatten =
    ['_'].intercalate (gs.filter (·.all isAlphanumeric)) := by
  induction h generalizing gap with
  | nil => rfl
  | @cons kind g gs hne hkind hgs ih =>
    rw [List.flatten_cons]
    cases kind with
    | true =>
      rw [joinWords_append_word hne hkind, hgs.joinWords_true (by simp), filter_cons_word hkind,
        intercalate_cons]
      simp
    | false => rw [joinWords_append_gap hne hkind, ih, filter_cons_gap hne hkind]

end Alternates

/-- **The pass over a text joins its words.** -/
theorem joinWords_eq_intercalate (cs : List Char) :
    joinWords false false cs = ['_'].intercalate (words cs) := by
  obtain ⟨kind, halt⟩ := exists_alternates cs
  have hjoin := halt.joinWords_false false
  rwa [List.flatten_splitBy] at hjoin

/-! ### The form of slugs -/

/-- A word in lower case. -/
structure IsWord (w : List Char) : Prop where
  ne_nil : w ≠ []
  alphanumeric : ∀ c ∈ w, isAlphanumeric c = true
  lower : ∀ c ∈ w, lowercase c = [c]

/-- Words in lower case with one underscore between neighbours. -/
inductive IsSlug : List Char → Prop
  | word {w : List Char} (hw : IsWord w) : IsSlug w
  | join {w cs : List Char} (hw : IsWord w) (hcs : IsSlug cs) : IsSlug (w ++ '_' :: cs)

theorem IsWord.underscore_notMem {w : List Char} (h : IsWord w) : '_' ∉ w := by
  intro hmem
  have := h.alphanumeric '_' hmem
  rw [isAlphanumeric_underscore] at this
  cases this

theorem isSlug_intercalate {ws : List (List Char)} (hne : ws ≠ []) (h : ∀ w ∈ ws, IsWord w) :
    IsSlug (['_'].intercalate ws) := by
  induction ws with
  | nil => exact absurd rfl hne
  | cons w ws ih =>
    have hw := h w List.mem_cons_self
    cases ws with
    | nil => simpa using IsSlug.word hw
    | cons v ws =>
      rw [List.intercalate_cons_cons, List.append_assoc, List.singleton_append]
      exact .join hw (ih (by simp) fun u hu => h u (List.mem_cons_of_mem _ hu))

namespace IsSlug

variable {cs : List Char}

theorem ne_nil (h : IsSlug cs) : cs ≠ [] := by
  cases h with
  | word hw => exact hw.ne_nil
  | join => simp

theorem head?_ne (h : IsSlug cs) : cs.head? ≠ some '_' := by
  intro hhead
  cases h with
  | word hw => exact hw.underscore_notMem (List.mem_of_head? hhead)
  | join hw =>
    rw [List.head?_append_of_ne_nil _ hw.ne_nil] at hhead
    exact hw.underscore_notMem (List.mem_of_head? hhead)

theorem getLast?_ne (h : IsSlug cs) : cs.getLast? ≠ some '_' := by
  induction h with
  | word hw => exact fun hlast => hw.underscore_notMem (List.mem_of_getLast? hlast)
  | @join w cs hw hcs ih =>
    obtain ⟨c, cs, rfl⟩ := List.exists_cons_of_ne_nil hcs.ne_nil
    rwa [List.getLast?_append_of_ne_nil _ (by simp), List.getLast?_cons_cons]

theorem mem (h : IsSlug cs) :
    ∀ c ∈ cs, (c = '_' ∨ isAlphanumeric c = true) ∧ lowercase c = [c] := by
  induction h with
  | word hw => exact fun c hc => ⟨Or.inr (hw.alphanumeric c hc), hw.lower c hc⟩
  | join hw hcs ih =>
    intro c hc
    rcases List.mem_append.mp hc with hc | hc
    · exact ⟨Or.inr (hw.alphanumeric c hc), hw.lower c hc⟩
    · rcases List.mem_cons.mp hc with rfl | hc
      · exact ⟨Or.inl rfl, by decide⟩
      · exact ih c hc

theorem isChain (h : IsSlug cs) : cs.IsChain fun a b => ¬ (a = '_' ∧ b = '_') := by
  have hword : ∀ {w : List Char}, IsWord w → w.IsChain fun a b => ¬ (a = '_' ∧ b = '_') := by
    intro w hw
    refine List.Pairwise.isChain (List.pairwise_of_forall_mem_list fun a ha b _ hab => ?_)
    exact hw.underscore_notMem (hab.1 ▸ ha)
  induction h with
  | word hw => exact hword hw
  | join hw hcs ih =>
    refine List.isChain_append.mpr ⟨hword hw, List.isChain_cons.mpr ⟨?_, ih⟩, ?_⟩
    · intro b hb hab
      exact hcs.head?_ne (hab.2 ▸ hb)
    · intro a ha b _ hab
      exact hw.underscore_notMem (hab.1 ▸ List.mem_of_getLast? ha)

theorem not_infix (h : IsSlug cs) : ¬ ['_', '_'] <:+: cs := by
  intro hinfix
  have := h.isChain.infix hinfix
  simp at this

theorem joinWords_eq (h : IsSlug cs) : ∀ started gap, joinWords started gap cs =
    (if started && gap then ['_'] else []) ++ cs := by
  induction h with
  | @word w hw =>
    intro started gap
    have hjoin := joinWords_append_word hw.ne_nil hw.alphanumeric started gap []
    simpa [joinWords] using hjoin
  | @join w cs hw hcs ih =>
    intro started gap
    have hgap : joinWords true false ('_' :: cs) = joinWords true true cs := by
      rw [joinWords, if_neg (by simp [isAlphanumeric_underscore])]
    rw [joinWords_append_word hw.ne_nil hw.alphanumeric, hgap, ih true true, List.append_assoc]
    rfl

/-- **A slug is its own slug.** -/
theorem slugify_eq (h : IsSlug cs) : slugify (String.ofList cs) = String.ofList cs := by
  have hlower : lowercaseAll cs = cs :=
    (List.flatMap_congr fun c hc => (h.mem c hc).2).trans (List.flatMap_singleton' cs)
  have hpass : joinWords false false cs = cs := h.joinWords_eq false false
  rw [slugify_eq_joinWords, String.toList_ofList, hlower, hpass]
  split
  · exact absurd rfl h.ne_nil
  · rfl

end IsSlug

/-! ### Slugs of texts -/

theorem isWord_of_mem_words {cs w : List Char} (h : w ∈ words (lowercaseAll cs)) : IsWord w := by
  obtain ⟨hgroup, hall⟩ := List.mem_filter.mp h
  refine ⟨List.ne_nil_of_mem_splitBy hgroup, List.all_eq_true.mp hall, fun c hc => ?_⟩
  have hmem : c ∈ lowercaseAll cs := by
    rw [← List.flatten_splitBy sameKind (lowercaseAll cs)]
    exact List.mem_flatten.mpr ⟨w, hgroup, hc⟩
  obtain ⟨d, -, hd⟩ := List.mem_flatMap.mp hmem
  exact lowercase_of_mem hd

theorem isWord_unnamed : IsWord "unnamed".toList := by
  have hlower : ("unnamed".toList.all fun c => lowercase c == [c]) = true := by decide
  exact ⟨by decide, List.all_eq_true.mp (by decide),
    fun c hc => beq_iff_eq.mp (List.all_eq_true.mp hlower c hc)⟩

theorem slugify_eq_words (text : String) : slugify text =
    if words (lowercaseAll text.toList) = [] then "unnamed"
    else String.ofList (['_'].intercalate (words (lowercaseAll text.toList))) := by
  rw [slugify_eq_joinWords, joinWords_eq_intercalate]
  split_ifs with h
  · rw [h]; rfl
  · have hne := (isSlug_intercalate h fun w hw => isWord_of_mem_words hw).ne_nil
    split
    · rename_i hnil
      exact absurd hnil hne
    · rfl

theorem isSlug_slugify (text : String) : IsSlug (slugify text).toList := by
  rw [slugify_eq_words]
  split_ifs with h
  · exact .word isWord_unnamed
  · rw [String.toList_ofList]
    exact isSlug_intercalate h fun w hw => isWord_of_mem_words hw

/-- **Slugs.** The slug of a text is made of the maximal runs of letters and digits in its
lower-case form, with one underscore between neighbours, or is `unnamed` if there are none. So it
is not empty, neither begins nor ends with an underscore, has no two of them in a row and no other
character but letters and digits, and is its own slug. -/
theorem slugify_joins_words (text : String) :
    slugify text = (if words (lowercaseAll text.toList) = [] then "unnamed"
      else String.ofList (['_'].intercalate (words (lowercaseAll text.toList)))) ∧
    slugify text ≠ "" ∧
    (slugify text).toList.head? ≠ some '_' ∧
    (slugify text).toList.getLast? ≠ some '_' ∧
    ¬ ['_', '_'] <:+: (slugify text).toList ∧
    (∀ c ∈ (slugify text).toList, c = '_' ∨ isAlphanumeric c = true) ∧
    slugify (slugify text) = slugify text := by
  have hslug := isSlug_slugify text
  refine ⟨slugify_eq_words text, fun hempty => hslug.ne_nil ?_, hslug.head?_ne, hslug.getLast?_ne,
    hslug.not_infix, fun c hc => (hslug.mem c hc).1, ?_⟩
  · rw [hempty]; rfl
  · simpa using hslug.slugify_eq

/-- The dot that comes with the small form of a dotted capital parts words. -/
example : slugify "İstanbul, Hall (2) " = "i_stanbul_hall_2" := by decide +kernel

end HomeEntities.Text
