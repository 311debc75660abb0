import HomeEntities.Setup.EntityId
import Mathlib.Algebra.Group.Nat.Defs
import Mathlib.Data.Finset.Card
import Mathlib.Data.List.Nodup
import Mathlib.Data.List.Perm.Subperm
import Mathlib.Data.Nat.Find

/-! # Free ids

The search for a free id always finds one. Numbers give different ids (`numbered_inj`), none of them
the id that gets the number (`numbered_ne_base`); so if that id is taken, as many numbers as there
are ids taken cannot all be taken besides (`exists_numbered_notMem`), and the search, which stops at
the first that is not (`firstFree_eq`), stops in time. `freeId_cases` says what it finds, which
depends on no other ids than those it may try (`freeId_congr`). Taken for a set, the ids bound the
search by their number, so that it comes to the same end with a counter of 32 bits
(`firstFree32_eq`). -/

namespace HomeEntities

/-! ### Numbered ids -/

/-- Different numbers give different ids, since the number can be read back from its digits. -/
theorem numbered_inj {base : String} {m n : Nat} : numbered base m = numbered base n ↔ m = n := by
  refine ⟨fun h => ?_, fun h => h ▸ rfl⟩
  have hdigits : (Nat.repr m).toList = (Nat.repr n).toList :=
    congrArg String.toList ((String.append_right_inj _).mp h)
  rw [Nat.toList_repr, Nat.toList_repr] at hdigits
  have hread := congrArg (Nat.ofDigitChars 10 · 0) hdigits
  rwa [Nat.ofDigitChars_toDigits (by decide) le_rfl,
    Nat.ofDigitChars_toDigits (by decide) le_rfl] at hread

theorem numbered_ne_base (base : String) (n : Nat) : numbered base n ≠ base := by
  intro h
  have hl := congrArg String.length h
  unfold numbered at hl
  rw [String.length_append, String.length_append] at hl
  have : "_".length = 1 := rfl
  omega

/-- **A number is free** among as many as there are ids taken, if the id itself is taken. -/
theorem exists_numbered_notMem {base : String} {taken : List String} (h : base ∈ taken) (n : Nat) :
    ∃ k < taken.length, numbered base (n + k) ∉ taken := by
  by_contra hall
  push Not at hall
  let candidates := base :: (List.range taken.length).map fun k => numbered base (n + k)
  have hnodup : candidates.Nodup := by
    refine List.nodup_cons.mpr ⟨fun hb => ?_, List.nodup_range.map fun a b hab => ?_⟩
    · obtain ⟨k, -, hk⟩ := List.mem_map.mp hb
      exact numbered_ne_base _ _ hk
    · exact Nat.add_left_cancel (numbered_inj.mp hab)
  have hsub : candidates ⊆ taken := by
    intro id hid
    rcases List.mem_cons.mp hid with rfl | hid
    · exact h
    · obtain ⟨k, hk, rfl⟩ := List.mem_map.mp hid
      exact hall k (List.mem_range.mp hk)
  have hlen := (hnodup.subperm hsub).length_le
  simp only [candidates, List.length_cons, List.length_map, List.length_range] at hlen
  omega

/-! ### The search -/

theorem firstFree_eq {base : String} {taken : List String} : ∀ {k fuel n : Nat}, k < fuel →
    (∀ j < k, numbered base (n + j) ∈ taken) → numbered base (n + k) ∉ taken →
      firstFree base taken fuel n = numbered base (n + k)
  | 0, fuel + 1, n, _, _, hfree => by
    rw [firstFree, if_neg]
    · rfl
    · simpa using hfree
  | k + 1, fuel + 1, n, hk, htaken, hfree => by
    have hhead : taken.contains (numbered base n) = true := by
      simpa using htaken 0 (Nat.succ_pos k)
    have hnext : n + (k + 1) = n + 1 + k := by omega
    rw [firstFree, if_pos hhead, hnext]
    refine firstFree_eq (by omega) (fun j hj => ?_) (hnext ▸ hfree)
    have := htaken (j + 1) (by omega)
    rwa [show n + (j + 1) = n + 1 + j by omega] at this

/-- What the search for a free id finds: the id itself if it is free, else the id with the least
number from two on with which it is free. -/
inductive FreeId (base : String) (taken : List String) : String → Prop
  | base (h : base ∉ taken) : FreeId base taken base
  | numbered {n : Nat} (h : base ∈ taken) (hn : 2 ≤ n) (hle : n ≤ taken.length + 1)
      (hfree : numbered base n ∉ taken)
      (hleast : ∀ m, 2 ≤ m → m < n → HomeEntities.numbered base m ∈ taken) :
      FreeId base taken (HomeEntities.numbered base n)

/-- **The search for a free id.** -/
theorem freeId_cases (base : String) (taken : List String) :
    FreeId base taken (freeId base taken) := by
  unfold freeId
  by_cases h : base ∈ taken
  · rw [if_pos (by simpa using h)]
    have hex := exists_numbered_notMem h 2
    let k := Nat.find hex
    obtain ⟨hk, hfree⟩ := Nat.find_spec hex
    have htaken : ∀ j < k, numbered base (2 + j) ∈ taken := by
      intro j hj
      by_contra hn
      exact Nat.find_min hex hj ⟨lt_trans hj hk, hn⟩
    rw [firstFree_eq (Nat.lt_succ_of_lt hk) htaken hfree]
    refine .numbered h (by omega) (by omega) hfree fun m hm hlt => ?_
    have := htaken (m - 2) (by omega)
    rwa [show 2 + (m - 2) = m by omega] at this
  · rw [if_neg (by simpa using h)]
    exact .base h

theorem freeId_notMem (base : String) (taken : List String) : freeId base taken ∉ taken := by
  generalize hid : freeId base taken = id
  cases hid ▸ freeId_cases base taken with
  | base h => exact h
  | numbered _ _ _ hfree => exact hfree

theorem FreeId.eq_of_taken_iff {base : String} {taken taken' : List String} {id id' : String}
    (h : FreeId base taken id) (h' : FreeId base taken' id') (hb : base ∈ taken ↔ base ∈ taken')
    (hn : ∀ n, HomeEntities.numbered base n ∈ taken ↔ HomeEntities.numbered base n ∈ taken') :
    id = id' := by
  cases h with
  | base hfree =>
    cases h' with
    | base => rfl
    | numbered htaken' => exact absurd (hb.mpr htaken') hfree
  | @numbered m htaken hm _ hfree hleast =>
    cases h' with
    | base hfree' => exact absurd (hb.mp htaken) hfree'
    | @numbered n _ hn' _ hfree' hleast' =>
      rcases Nat.lt_trichotomy m n with hlt | rfl | hlt
      · exact absurd ((hn m).mpr (hleast' m hm hlt)) hfree
      · rfl
      · exact absurd ((hn n).mp (hleast n hn' hlt)) hfree'

theorem freeId_congr {base : String} {taken taken' : List String}
    (hb : base ∈ taken ↔ base ∈ taken')
    (hn : ∀ n, numbered base n ∈ taken ↔ numbered base n ∈ taken') :
    freeId base taken = freeId base taken' :=
  (freeId_cases base taken).eq_of_taken_iff (freeId_cases base taken') hb hn

theorem freeId_cases_dedup (base : String) (taken : List String) :
    FreeId base taken.dedup (freeId base taken) := by
  have hcongr : freeId base taken = freeId base taken.dedup :=
    freeId_congr List.mem_dedup.symm fun n => List.mem_dedup.symm
  rw [hcongr]
  exact freeId_cases base taken.dedup

/-! ### A counter of 32 bits -/

theorem toInt_add_one {n : Int32} (h : n ≠ Int32.maxValue) : (n + 1).toInt = n.toInt + 1 := by
  have hlt := n.toInt_lt
  have hle := n.le_toInt
  have hne : n.toInt ≠ 2 ^ 31 - 1 := fun e => h (Int32.toInt_inj.mp (e.trans (by decide)))
  have hone : (1 : Int32).toInt = 1 := by decide
  rw [Int32.toInt_add, hone, Int.bmod_eq_of_le] <;> omega

/-- The search for a free number with a counter of 32 signed bits, which alone bounds it. The
counter is moved on when its number is taken up; nothing is found if it cannot be. -/
def firstFree32 (base : String) (taken : List String) (n : Int32) : Option String :=
  if n = Int32.maxValue then none
  else
    let id := base ++ "_" ++ toString n
    if taken.contains id then firstFree32 base taken (n + 1) else some id
termination_by (Int32.maxValue.toInt - n.toInt).toNat
decreasing_by
  rename_i hn _
  have hlt := n.toInt_lt
  have hmax : Int32.maxValue.toInt = 2 ^ 31 - 1 := by decide
  have hne : n.toInt ≠ Int32.maxValue.toInt := fun h => hn (Int32.toInt_inj.mp h)
  rw [toInt_add_one hn]
  omega

/-- The search for a free id with a counter of 32 signed bits. -/
def freeId32 (base : String) (taken : List String) : Option String :=
  if taken.contains base then firstFree32 base taken 2 else some base

theorem append_toString_eq (base : String) {n : Int32} {m : Nat} (hn : n.toInt = m) :
    base ++ "_" ++ toString n = numbered base m := by
  have hs : toString n = toString n.toInt := rfl
  rw [hs, hn]
  rfl

/-- The search with a counter stops at the first number that is free, if the counter can be moved
on so far. -/
theorem firstFree32_eq {base : String} {taken : List String} : ∀ {k m : Nat} {n : Int32},
    n.toInt = m → m + k < 2 ^ 31 - 1 → (∀ j < k, numbered base (m + j) ∈ taken) →
      numbered base (m + k) ∉ taken → firstFree32 base taken n = some (numbered base (m + k))
  | k, m, n, hn, hlt, htaken, hfree => by
    have hmax : Int32.maxValue.toInt = 2 ^ 31 - 1 := by decide
    have hne : n ≠ Int32.maxValue := by
      rintro rfl
      omega
    rw [firstFree32, if_neg hne]
    simp only [append_toString_eq base hn, List.contains_iff_mem]
    cases k with
    | zero => rw [if_neg (by simpa using hfree), Nat.add_zero]
    | succ k =>
      have hnext : m + (k + 1) = m + 1 + k := by omega
      have hstep : (n + 1).toInt = (m + 1 : Nat) := by
        rw [toInt_add_one hne, hn]
        rfl
      have hhead : numbered base m ∈ taken := htaken 0 (Nat.succ_pos k)
      rw [if_pos hhead, hnext]
      refine firstFree32_eq hstep (by omega) (fun j hj => ?_) (hnext ▸ hfree)
      have := htaken (j + 1) (by omega)
      rwa [show m + (j + 1) = m + 1 + j by omega] at this

/-- **The search for a free id** ends, however many ids are taken, at one that is not: at the id
itself if it is free, and else at the id with the least number from two on with which it is free.
That number is at most one more than the number of ids taken, so that any search that may go so far
finds it, and that a counter of 32 bits is enough while fewer than `2 ^ 31 - 2` ids are taken. -/
theorem freeId_leastFree (base : String) (taken : List String) :
    freeId base taken ∉ taken ∧
    (base ∉ taken → freeId base taken = base) ∧
    (base ∈ taken → ∃ n, freeId base taken = numbered base n ∧ 2 ≤ n ∧
      n ≤ taken.toFinset.card + 1 ∧ (∀ m, 2 ≤ m → m < n → numbered base m ∈ taken) ∧
      ∀ fuel, n ≤ fuel + 1 → firstFree base taken fuel 2 = numbered base n) ∧
    (taken.toFinset.card < 2 ^ 31 - 2 → freeId32 base taken = some (freeId base taken)) := by
  have hnotMem := freeId_notMem base taken
  have hcases := freeId_cases_dedup base taken
  generalize freeId base taken = id at hnotMem hcases ⊢
  refine ⟨hnotMem, ?_⟩
  unfold freeId32
  cases hcases with
  | base h =>
    rw [List.mem_dedup] at h
    rw [if_neg (by simpa using h)]
    exact ⟨fun _ => rfl, fun hmem => absurd hmem h, fun _ => rfl⟩
  | @numbered n h hn hle hfree hleast =>
    simp only [List.mem_dedup] at h hfree hleast
    rw [← List.card_toFinset] at hle
    rw [if_pos (by simpa using h)]
    obtain ⟨k, rfl⟩ := Nat.exists_eq_add_of_le hn
    have htaken : ∀ j < k, HomeEntities.numbered base (2 + j) ∈ taken := fun j hj =>
      hleast (2 + j) (by omega) (by omega)
    refine ⟨fun hmem => absurd h hmem, fun _ => ⟨2 + k, rfl, hn, hle, hleast, ?_⟩, fun hcard => ?_⟩
    · intro fuel hfuel
      exact firstFree_eq (by omega) htaken hfree
    · exact firstFree32_eq rfl (by omega) htaken hfree

/-- Of the ids taken one stands twice, and one has another's number already. -/
theorem freeId_leastFree_lamp :
    let taken := ["switch.lamp_2", "switch.lamp", "switch.lamp", "switch.lamp_2_2"]
    "switch.lamp" ∈ taken ∧ taken.toFinset.card < 2 ^ 31 - 2 ∧
      (∃ n ≤ taken.toFinset.card + 1, freeId "switch.lamp" taken = numbered "switch.lamp" n) ∧
      freeId "switch.lamp" taken = "switch.lamp_3" ∧
      freeId32 "switch.lamp" taken = some "switch.lamp_3" := by
  intro taken
  have hmem : "switch.lamp" ∈ taken := by decide
  have hcard : taken.toFinset.card = 3 := by decide
  have hid : freeId "switch.lamp" taken = "switch.lamp_3" := by decide
  have hsmall : taken.toFinset.card < 2 ^ 31 - 2 := by omega
  obtain ⟨-, -, hnumbered, hcounter⟩ := freeId_leastFree "switch.lamp" taken
  obtain ⟨n, hn, -, hle, -⟩ := hnumbered hmem
  exact ⟨hmem, hsmall, ⟨n, hle, hn⟩, hid, hid ▸ hcounter hsmall⟩

end HomeEntities
