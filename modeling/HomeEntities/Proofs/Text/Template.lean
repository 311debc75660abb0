import HomeEntities.Text.Template
import Mathlib.Data.List.Infix

/-! # Marks in templates

Filling goes over a text once, from left to right. Before a mark nothing changes, and after it the
search goes on behind it, not in the value; so if the mark stands in one place only (`StandsOnce`),
what stands before and after it is kept (`StandsOnce.fill_eq`). `occurrences` counts the places. -/

namespace HomeEntities.Text

/-- In how many places of a text a mark begins. -/
def occurrences (mark text : List Char) : Nat := text.tails.countP mark.isPrefixOf

section Occurrences
variable {mark : List Char}

theorem occurrences_cons (c : Char) (cs : List Char) : occurrences mark (c :: cs) =
    occurrences mark cs + if mark.isPrefixOf (c :: cs) then 1 else 0 := by
  rw [occurrences, List.tails_cons, List.countP_cons]
  rfl

theorem occurrences_le_append (cs rest : List Char) :
    occurrences mark rest ≤ occurrences mark (cs ++ rest) := by
  induction cs with
  | nil => exact Nat.le_refl _
  | cons c cs ih =>
    rw [List.cons_append, occurrences_cons]
    exact Nat.le_trans ih (Nat.le_add_right _ _)

theorem occurrences_mark_append (hm : mark ≠ []) (rest : List Char) :
    occurrences mark rest + 1 ≤ occurrences mark (mark ++ rest) := by
  obtain ⟨c, cs, rfl⟩ := List.exists_cons_of_ne_nil hm
  have hprefix : (c :: cs).isPrefixOf (c :: cs ++ rest) = true :=
    List.isPrefixOf_iff_prefix.mpr (List.prefix_append _ _)
  rw [List.cons_append] at hprefix ⊢
  rw [occurrences_cons, if_pos hprefix]
  exact Nat.add_le_add_right (occurrences_le_append cs rest) 1

theorem occurrences_append_of_notMem {c : Char} {cs text : List Char} (h : c ∉ text)
    (rest : List Char) : occurrences (c :: cs) (text ++ rest) = occurrences (c :: cs) rest := by
  induction text with
  | nil => rfl
  | cons d text ih =>
    have hd : c ≠ d := fun hd => h (hd ▸ List.mem_cons_self)
    have htext : c ∉ text := fun hmem => h (List.mem_cons_of_mem d hmem)
    have hprefix : ¬ (c :: cs).isPrefixOf (d :: (text ++ rest)) = true := by
      rw [List.isPrefixOf_iff_prefix, List.cons_prefix_cons]
      exact fun hp => hd hp.1
    rw [List.cons_append, occurrences_cons, if_neg hprefix, ih htext, Nat.add_zero]

end Occurrences

/-! ### Filling -/

section Fill
variable {mark : List Char} (value : List Char)

theorem fillFrom_length_append (cs rest : List Char) :
    fillFrom mark value cs.length (cs ++ rest) = fillFrom mark value 0 rest := by
  induction cs with
  | nil => rfl
  | cons c cs ih => exact ih

theorem fillFrom_of_occurrences_eq_zero {text : List Char} (h : occurrences mark text = 0) :
    fillFrom mark value 0 text = text := by
  induction text with
  | nil => rfl
  | cons c cs ih =>
    rw [occurrences_cons, Nat.add_eq_zero_iff] at h
    have hprefix : ¬ mark.isPrefixOf (c :: cs) = true := fun hp => by simp [hp] at h
    rw [fillFrom, if_neg hprefix, ih h.1]

/-- **One mark** gives way to the value, and what stands around it is kept. -/
theorem fillFrom_of_occurrences_eq_one (hm : mark ≠ []) {before after : List Char}
    (h : occurrences mark (before ++ (mark ++ after)) = 1) :
    fillFrom mark value 0 (before ++ (mark ++ after)) = before ++ (value ++ after) := by
  have hmark := occurrences_mark_append hm after
  induction before with
  | nil =>
    rw [List.nil_append] at h ⊢
    have hafter : occurrences mark after = 0 := by omega
    obtain ⟨c, cs, rfl⟩ := List.exists_cons_of_ne_nil hm
    have hprefix : (c :: cs).isPrefixOf (c :: (cs ++ after)) = true :=
      List.isPrefixOf_iff_prefix.mpr (List.prefix_append (c :: cs) after)
    rw [List.cons_append, fillFrom, if_pos hprefix, List.length_cons, Nat.add_sub_cancel,
      fillFrom_length_append, fillFrom_of_occurrences_eq_zero value hafter]
    rfl
  | cons c cs ih =>
    -- the mark stands further on, so that it does not begin here
    have hrest := @occurrences_le_append mark cs (mark ++ after)
    rw [List.cons_append, occurrences_cons] at h
    have hprefix : ¬ mark.isPrefixOf (c :: (cs ++ (mark ++ after))) = true := by
      intro hp
      rw [if_pos hp] at h
      omega
    rw [if_neg hprefix, Nat.add_zero] at h
    rw [List.cons_append, fillFrom, if_neg hprefix, ih h, List.cons_append]

end Fill

/-- A mark stands in a text in one place, between two parts. -/
structure StandsOnce (mark before after text : String) : Prop where
  eq : text = before ++ mark ++ after
  once : occurrences mark.toList text.toList = 1

/-- **Filling a mark that stands once.** -/
theorem StandsOnce.fill_eq {mark before after text : String} (h : StandsOnce mark before after text)
    (hm : mark.toList ≠ []) (value : String) : fill mark value text = before ++ value ++ after := by
  have htext : text.toList = before.toList ++ (mark.toList ++ after.toList) := by
    rw [h.eq, String.toList_append, String.toList_append, List.append_assoc]
  have hfill := fillFrom_of_occurrences_eq_one value.toList hm (htext ▸ h.once)
  rw [fill, htext, hfill, String.ofList_append, String.ofList_append, String.ofList_toList,
    String.ofList_toList, String.ofList_toList, String.append_assoc]

end HomeEntities.Text
