import Mathlib.Data.List.Induction
import Mathlib.Data.List.Nodup

/-! # First occurrences

Of the elements of a list with one key the first is kept (`firsts`) and the others are repeats
(`repeats`). Both are described by the list itself, without the growing set of keys that a program
would use for them: an element is kept if looking for its key finds it (`mem_firsts`), which among
the elements with a property means that no other like it stands before it (`mem_firsts_filter_iff`).
The elements kept are those at the positions before which their key does not occur
(`firsts_eq_map_get`). -/

namespace HomeEntities

section Firsts
variable {α κ : Type} [DecidableEq κ] (key : α → κ)

/-- The elements whose key has not occurred before them. -/
def firsts : List α → List α
  | [] => []
  | a :: l => a :: (firsts l).filter (key · ≠ key a)

/-- The elements whose key has occurred before them, or is one of `seen`. -/
def repeats (seen : List κ) : List α → List α
  | [] => []
  | a :: l => if key a ∈ seen then a :: repeats (key a :: seen) l else repeats (key a :: seen) l

theorem mem_map_firsts {k : κ} : ∀ {l : List α}, k ∈ (firsts key l).map key ↔ k ∈ l.map key
  | [] => Iff.rfl
  | a :: l => by
    have ih := mem_map_firsts (k := k) (l := l)
    simp only [List.mem_map] at ih
    simp only [firsts, List.map_cons, List.mem_cons, List.mem_map, List.mem_filter,
      decide_eq_true_eq]
    constructor
    · rintro (rfl | ⟨b, ⟨hb, -⟩, rfl⟩)
      · exact Or.inl rfl
      · exact Or.inr (ih.mp ⟨b, hb, rfl⟩)
    · rintro (rfl | h)
      · exact Or.inl rfl
      · by_cases hk : k = key a
        · exact Or.inl hk
        · obtain ⟨b, hb, rfl⟩ := ih.mpr h
          exact Or.inr ⟨b, ⟨hb, hk⟩, rfl⟩

theorem mem_firsts {a : α} : ∀ {l : List α},
    a ∈ firsts key l ↔ l.find? (key · = key a) = some a
  | [] => by simp [firsts]
  | b :: l => by
    have ih := mem_firsts (a := a) (l := l)
    by_cases h : key b = key a
    · simp [firsts, h, eq_comm]
    · have hab : a ≠ b := fun e => h (by rw [e])
      simp [firsts, h, hab, ih, Ne.symm h]

theorem mem_of_mem_firsts {a : α} {l : List α} (h : a ∈ firsts key l) : a ∈ l :=
  List.mem_of_find?_eq_some ((mem_firsts key).mp h)

theorem nodup_map_firsts (l : List α) : ((firsts key l).map key).Nodup := by
  induction l with
  | nil => exact List.nodup_nil
  | cons a l ih =>
    rw [firsts, List.map_cons, List.nodup_cons]
    refine ⟨fun h => ?_, ih.sublist (List.filter_sublist.map key)⟩
    obtain ⟨b, hb, hk⟩ := List.mem_map.mp h
    simp [hk] at hb

theorem firsts_concat (l : List α) (a : α) :
    firsts key (l ++ [a]) = firsts key l ++ if key a ∈ l.map key then [] else [a] := by
  induction l with
  | nil => simp [firsts]
  | cons b l ih =>
    simp only [List.cons_append, firsts, ih, List.filter_append, List.map_cons, List.mem_cons]
    by_cases hb : key a = key b
    · by_cases hl : key a ∈ l.map key <;> simp [hb]
    · by_cases hl : key a ∈ l.map key <;> simp [hb, hl]

theorem repeats_concat (l : List α) (a : α) : ∀ seen : List κ,
    repeats key seen (l ++ [a]) =
      repeats key seen l ++ if key a ∈ l.map key ∨ key a ∈ seen then [a] else [] := by
  induction l with
  | nil => intro seen; simp [repeats]
  | cons b l ih =>
    intro seen
    have hor : (key a ∈ l.map key ∨ key a ∈ key b :: seen) ↔
        (key a ∈ (b :: l).map key ∨ key a ∈ seen) := by
      simp only [List.map_cons, List.mem_cons]; tauto
    simp only [List.cons_append, repeats, ih, hor]
    split_ifs <;> simp

theorem filter_firsts (q : κ → Bool) (l : List α) :
    (firsts key l).filter (fun a => q (key a)) = firsts key (l.filter fun a => q (key a)) := by
  induction l with
  | nil => rfl
  | cons a l ih =>
    by_cases h : q (key a) = true
    · simp only [firsts, List.filter_cons_of_pos (p := fun a => q (key a)) h]
      rw [List.filter_comm, ih]
    · have hn {t : List α} : (a :: t).filter (fun a => q (key a)) = t.filter fun a => q (key a) :=
        List.filter_cons_of_neg h
      rw [firsts, hn, hn, ← ih, List.filter_filter]
      refine List.filter_congr fun b _ => ?_
      by_cases hb : key b = key a <;> simp [hb, h]

theorem firsts_eq_self {l : List α} (h : (l.map key).Nodup) : firsts key l = l := by
  induction l with
  | nil => rfl
  | cons a l ih =>
    rw [List.map_cons, List.nodup_cons] at h
    rw [firsts, ih h.2, List.filter_eq_self.mpr]
    intro b hb
    have : key b ≠ key a := fun e => h.1 (e ▸ List.mem_map_of_mem hb)
    simpa using this

/-- Lists without common keys do not take first occurrences from each other. -/
theorem firsts_append {l l' : List α} (h : ∀ a ∈ l, ∀ b ∈ l', key b ≠ key a) :
    firsts key (l ++ l') = firsts key l ++ firsts key l' := by
  induction l with
  | nil => rfl
  | cons a l ih =>
    have hkeep : (firsts key l').filter (key · ≠ key a) = firsts key l' := by
      refine List.filter_eq_self.mpr fun b hb => decide_eq_true ?_
      exact h a List.mem_cons_self b (mem_of_mem_firsts key hb)
    rw [List.cons_append, firsts, ih fun b hb => h b (List.mem_cons_of_mem a hb),
      List.filter_append, hkeep, firsts, List.cons_append]

theorem firsts_map {β : Type} (f : β → α) (l : List β) :
    firsts key (l.map f) = (firsts (fun b => key (f b)) l).map f := by
  induction l with
  | nil => rfl
  | cons b l ih => simp only [List.map_cons, firsts, ih, List.filter_map, Function.comp_def]

theorem firsts_congr {ι : Type} [DecidableEq ι] {key' : α → ι} : ∀ {l : List α},
    (∀ a ∈ l, ∀ b ∈ l, key a = key b ↔ key' a = key' b) → firsts key l = firsts key' l
  | [], _ => rfl
  | a :: l, h => by
    have ih := firsts_congr fun b hb c hc => h b (List.mem_cons_of_mem a hb) c
      (List.mem_cons_of_mem a hc)
    rw [firsts, firsts, ih]
    congr 1
    refine List.filter_congr fun b hb => decide_eq_decide.mpr (not_congr ?_)
    exact h b (List.mem_cons_of_mem a (mem_of_mem_firsts key' hb)) a List.mem_cons_self

/-- Among the elements with a property, one is the first of its key unless one like that stands
before it. -/
theorem mem_firsts_filter_iff {p : α → Bool} {a : α} {l : List α} (hl : l.Nodup) (ha : a ∈ l)
    (hp : p a = true) : a ∈ firsts key (l.filter p) ↔
      ¬ ∃ before after, l = before ++ a :: after ∧ ∃ b ∈ before, p b = true ∧ key b = key a := by
  rw [mem_firsts]
  constructor
  · rintro h ⟨before, after, rfl, b, hb, hpb, hk⟩
    rw [List.filter_append, List.find?_append] at h
    have hsome : ((before.filter p).find? (key · = key a)).isSome = true :=
      List.find?_isSome.mpr ⟨b, List.mem_filter.mpr ⟨hb, hpb⟩, decide_eq_true hk⟩
    obtain ⟨c, hc⟩ := Option.isSome_iff_exists.mp hsome
    rw [hc, Option.some_or, Option.some.injEq] at h
    subst h
    have hmem : c ∈ before := List.mem_of_mem_filter (List.mem_of_find?_eq_some hc)
    exact (List.nodup_append.mp hl).2.2 c hmem c List.mem_cons_self rfl
  · intro h
    obtain ⟨before, after, rfl⟩ := List.append_of_mem ha
    have hnone : (before.filter p).find? (key · = key a) = none := by
      rw [List.find?_eq_none]
      intro b hb hk
      obtain ⟨hb, hpb⟩ := List.mem_filter.mp hb
      exact h ⟨before, after, rfl, b, hb, hpb, of_decide_eq_true hk⟩
    rw [List.filter_append, List.filter_cons_of_pos hp, List.find?_append, hnone, Option.none_or]
    exact List.find?_cons_of_pos (decide_eq_true rfl)

theorem mem_repeats_of_mem_seen {a : α} : ∀ {l : List α} {seen : List κ}, key a ∈ seen → a ∈ l →
    a ∈ repeats key seen l
  | b :: l, seen, hs, ha => by
    rcases List.mem_cons.mp ha with rfl | ha
    · rw [repeats, if_pos hs]; exact List.mem_cons_self
    · have ih := mem_repeats_of_mem_seen (List.mem_cons_of_mem (key b) hs) ha
      rw [repeats]
      split_ifs
      · exact List.mem_cons_of_mem b ih
      · exact ih

theorem mem_repeats_of_notMem_firsts {a : α} : ∀ {l : List α} {seen : List κ}, a ∈ l →
    a ∉ firsts key l → a ∈ repeats key seen l
  | b :: l, seen, ha, hf => by
    have hab : a ≠ b := fun h => hf (by rw [firsts, h]; exact List.mem_cons_self)
    have ha : a ∈ l := (List.mem_cons.mp ha).resolve_left hab
    have htail : a ∈ repeats key (key b :: seen) l := by
      by_cases hk : key a = key b
      · exact mem_repeats_of_mem_seen key (hk ▸ List.mem_cons_self) ha
      · refine mem_repeats_of_notMem_firsts ha fun hm => hf ?_
        rw [firsts]
        exact List.mem_cons_of_mem b (List.mem_filter.mpr ⟨hm, decide_eq_true hk⟩)
    rw [repeats]
    split_ifs
    · exact List.mem_cons_of_mem b htail
    · exact htail

theorem mem_repeats {a : α} : ∀ {l : List α} {seen : List κ}, a ∈ repeats key seen l →
    ∃ before after, l = before ++ a :: after ∧ (key a ∈ before.map key ∨ key a ∈ seen)
  | [], seen, h => by simp [repeats] at h
  | b :: l, seen, h => by
    have tail : a ∈ repeats key (key b :: seen) l → ∃ before after, b :: l = before ++ a :: after ∧
        (key a ∈ before.map key ∨ key a ∈ seen) := by
      intro ha
      obtain ⟨before, after, rfl, hk⟩ := mem_repeats ha
      refine ⟨b :: before, after, rfl, ?_⟩
      simp only [List.map_cons, List.mem_cons] at hk ⊢
      tauto
    unfold repeats at h
    split_ifs at h with hb
    · rcases List.mem_cons.mp h with rfl | h
      · exact ⟨[], l, rfl, Or.inr hb⟩
      · exact tail h
    · exact tail h

/-- Of every list some elements are firsts and the others are repeats. -/
theorem length_firsts_add_length_repeats (l : List α) :
    (firsts key l).length + (repeats key [] l).length = l.length := by
  induction l using List.reverseRecOn with
  | nil => rfl
  | append_singleton l a ih =>
    rw [firsts_concat, repeats_concat]
    by_cases h : key a ∈ l.map key
    · rw [if_pos h, if_pos (Or.inl h)]
      simp only [List.append_nil, List.length_append, List.length_singleton]
      omega
    · rw [if_neg h, if_neg (by simpa using h)]
      simp only [List.append_nil, List.length_append, List.length_singleton]
      omega

/-! ### Positions -/

/-- The positions of a list before which its key does not occur. -/
def firstPositions (l : List α) : List (Fin l.length) :=
  (List.finRange l.length).filter fun i => ∀ j < i, key (l.get j) ≠ key (l.get i)

theorem firstPositions_cons (a : α) (l : List α) : firstPositions key (a :: l) =
    0 :: ((firstPositions key l).filter fun i => key (l.get i) ≠ key a).map Fin.succ := by
  have hhead : ∀ j : Fin (a :: l).length, ¬ j < (0 : Fin (l.length + 1)) :=
    fun j => Nat.not_lt_zero j
  have htail : ∀ i : Fin l.length,
      (∀ j < i.succ, key ((a :: l).get j) ≠ key ((a :: l).get i.succ)) ↔
        (∀ j < i, key (l.get j) ≠ key (l.get i)) ∧ key (l.get i) ≠ key a := by
    intro i
    rw [Fin.forall_fin_succ]
    constructor
    · rintro ⟨h₀, h⟩
      exact ⟨fun j hj => h j (Fin.succ_lt_succ_iff.mpr hj), (h₀ (Fin.succ_pos i)).symm⟩
    · rintro ⟨h, h₀⟩
      exact ⟨fun _ => h₀.symm, fun j hj => h j (Fin.succ_lt_succ_iff.mp hj)⟩
  unfold firstPositions
  rw [show List.finRange (a :: l).length = 0 :: (List.finRange l.length).map Fin.succ from
    List.finRange_succ, List.filter_cons_of_pos, List.filter_map, List.filter_filter]
  · congr 2
    refine List.filter_congr fun i _ => ?_
    rw [Function.comp_apply, ← Bool.decide_and, decide_eq_decide]
    exact (htail i).trans and_comm
  · exact decide_eq_true fun j hj => absurd hj (hhead j)

/-- The elements kept stand at these positions, in order. -/
theorem firsts_eq_map_get : ∀ l : List α, firsts key l = (firstPositions key l).map l.get
  | [] => rfl
  | a :: l => by
    rw [firsts, firstPositions_cons, List.map_cons, List.map_map, firsts_eq_map_get l,
      List.filter_map]
    rfl

end Firsts

end HomeEntities
