import HomeEntities.Text.Lowercase
import HomeEntities.Text.Uppercase
import Mathlib.Algebra.Group.Nat.Defs
import Mathlib.Data.List.Basic
import Mathlib.Data.Nat.Basic

/-! # Case mappings settle

Both case mappings have one shape (`mapCase`): expansions for some code points, runs for others, and
the rest stay. Mapping an image once more changes nothing (`lowercase_of_mem`, `uppercase_of_mem`),
since no image is moved itself. That is a fact about the tables, decided once for each: the code
points that a mapping moves and those that it moves them to have no number in common (`settles`).
The two lists are compared as numbers with one bit for each code point. -/

namespace HomeEntities.Text

/-! ### Sets of code points -/

/-- The number with the bits of a list set. -/
def mask (ns : List Nat) : Nat := ns.foldr (fun n bits => bits ||| 2 ^ n) 0

theorem testBit_mask {ns : List Nat} {n : Nat} : (mask ns).testBit n = true ↔ n ∈ ns := by
  induction ns with
  | nil => simp [mask]
  | cons m ns ih =>
    have hcons : mask (m :: ns) = mask ns ||| 2 ^ m := rfl
    rw [hcons, Nat.testBit_or, Bool.or_eq_true, ih, Nat.testBit_two_pow, decide_eq_true_eq,
      List.mem_cons, or_comm, eq_comm]

theorem notMem_of_mask {ms ns : List Nat} (h : mask ms &&& mask ns = 0) {n : Nat} (hn : n ∈ ns) :
    n ∉ ms := by
  intro hm
  have hbit := congrArg (Nat.testBit · n) h
  simp only [Nat.testBit_and, testBit_mask.mpr hm, testBit_mask.mpr hn, Nat.zero_testBit] at hbit
  cases hbit

/-! ### Runs -/

namespace CaseRun

variable {run : CaseRun} {runs : List CaseRun} {n : Nat}

/-- The code points that a run moves. -/
def points (run : CaseRun) : List Nat :=
  List.range' run.first ((run.last - run.first) / run.step + 1) run.step

theorem mem_points (h : run.holds n = true) : n ∈ run.points := by
  simp only [holds, Bool.and_eq_true, decide_eq_true_eq, beq_iff_eq] at h
  obtain ⟨⟨hfirst, hlast⟩, hstep⟩ := h
  refine List.mem_range'.mpr ⟨(n - run.first) / run.step, ?_, ?_⟩
  · exact Nat.lt_succ_of_le (Nat.div_le_div_right (Nat.sub_le_sub_right hlast _))
  · rw [Nat.mul_div_cancel' (Nat.dvd_of_mod_eq_zero hstep)]
    omega

/-- A search along runs ends nowhere, or at one that moves the code point. -/
theorem find?_cases (runs : List CaseRun) (n : Nat) :
    find? runs n = none ∨ ∃ run ∈ runs, n ∈ run.points ∧ find? runs n = some (run.image n) := by
  induction runs with
  | nil => exact Or.inl rfl
  | cons run runs ih =>
    unfold find?
    split_ifs with hfirst hholds
    · exact Or.inl rfl
    · exact Or.inr ⟨run, List.mem_cons_self, mem_points hholds, rfl⟩
    · rcases ih with ih | ⟨run', hmem, ih⟩
      · exact Or.inl ih
      · exact Or.inr ⟨run', List.mem_cons_of_mem _ hmem, ih⟩

end CaseRun

/-! ### Mappings -/

/-- The image of a character by a list of expansions, or else by a list of runs. -/
def mapCase (expansions : List (Nat × List Nat)) (runs : List CaseRun) (c : Char) : List Char :=
  match expansions.lookup c.toNat with
  | some image => image.map Char.ofNat
  | none => [shiftChar runs c]

/-- The code points that a mapping moves. -/
def moved (expansions : List (Nat × List Nat)) (runs : List CaseRun) : List Nat :=
  expansions.map (·.1) ++ runs.flatMap (·.points)

/-- The code points that a mapping moves others to; the null character stands in for those of no
character. -/
def images (expansions : List (Nat × List Nat)) (runs : List CaseRun) : List Nat :=
  0 :: expansions.flatMap (·.2) ++ runs.flatMap fun run => run.points.map run.image

/-- Whether a mapping moves none of its images. -/
def settles (expansions : List (Nat × List Nat)) (runs : List CaseRun) : Bool :=
  mask (moved expansions runs) &&& mask (images expansions runs) == 0

variable {expansions : List (Nat × List Nat)} {runs : List CaseRun} {c d : Char}

theorem toNat_ofNat_mem_images {n : Nat} (h : n ∈ images expansions runs) :
    (Char.ofNat n).toNat ∈ images expansions runs := by
  by_cases hn : n.isValidChar
  · have hself : (Char.ofNat n).toNat = n := by
      rw [Char.ofNat, dif_pos hn]
      rfl
    rwa [hself]
  · rw [Char.ofNat, dif_neg hn]
    exact List.mem_cons_self

/-- A character in the image of another is one of the images, or the other itself, which then
stays. -/
theorem mem_mapCase_cases (h : d ∈ mapCase expansions runs c) :
    d.toNat ∈ images expansions runs ∨ (d = c ∧ mapCase expansions runs c = [c]) := by
  unfold mapCase at h ⊢
  cases hlookup : expansions.lookup c.toNat with
  | some image =>
    rw [hlookup] at h
    obtain ⟨n, hn, rfl⟩ := List.mem_map.mp h
    obtain ⟨before, after, hsplit, -⟩ := List.lookup_eq_some_iff.mp hlookup
    left
    apply toNat_ofNat_mem_images
    simp only [images, hsplit, List.flatMap_append, List.flatMap_cons, List.mem_cons,
      List.mem_append, List.cons_append]
    tauto
  | none =>
    rw [hlookup, List.mem_singleton, shiftChar] at h
    rcases CaseRun.find?_cases runs c.toNat with hnone | ⟨run, hrun, hpoint, hsome⟩
    · rw [hnone] at h
      exact Or.inr ⟨h, by rw [shiftChar, hnone]⟩
    · rw [hsome] at h
      left
      rw [h]
      apply toNat_ofNat_mem_images
      refine List.mem_append_right _ (List.mem_flatMap.mpr ⟨run, hrun, ?_⟩)
      exact List.mem_map_of_mem hpoint

theorem mapCase_of_notMem_moved (h : c.toNat ∉ moved expansions runs) :
    mapCase expansions runs c = [c] := by
  rw [moved, List.mem_append, not_or, List.mem_map, List.mem_flatMap] at h
  obtain ⟨hexpansions, hruns⟩ := h
  have hlookup : expansions.lookup c.toNat = none := by
    rw [List.lookup_eq_none_iff]
    intro e he
    have hne : c.toNat ≠ e.1 := fun heq => hexpansions ⟨e, he, heq.symm⟩
    simpa using hne
  have hfind : CaseRun.find? runs c.toNat = none := by
    rcases CaseRun.find?_cases runs c.toNat with hnone | ⟨run, hrun, hpoint, -⟩
    · exact hnone
    · exact absurd ⟨run, hrun, hpoint⟩ hruns
  rw [mapCase, hlookup, shiftChar, hfind]

/-- **An image stays** under a mapping that settles. -/
theorem mapCase_of_mem (h : settles expansions runs = true) (hd : d ∈ mapCase expansions runs c) :
    mapCase expansions runs d = [d] := by
  rcases mem_mapCase_cases hd with himage | ⟨rfl, hself⟩
  · exact mapCase_of_notMem_moved (notMem_of_mask (beq_iff_eq.mp h) himage)
  · exact hself

/-! ### Lower case -/

/-- The one character with a longer lower-case image. -/
def lowercaseExpansions : List (Nat × List Nat) := [(0x130, [0x69, 0x307])]

theorem lowercase_eq_mapCase (c : Char) :
    lowercase c = mapCase lowercaseExpansions lowercaseRuns c := by
  by_cases h : c = '\u0130'
  · rw [h]; rfl
  · have hne : (c.toNat == 0x130) = false := beq_false_of_ne fun hn => h (Char.toNat_inj.mp hn)
    rw [lowercase, if_neg h, mapCase, lowercaseExpansions, List.lookup_cons, hne]
    rfl

theorem settles_lowercase : settles lowercaseExpansions lowercaseRuns = true := by decide +kernel

theorem lowercase_of_mem (h : d ∈ lowercase c) : lowercase d = [d] := by
  rw [lowercase_eq_mapCase] at h ⊢
  exact mapCase_of_mem settles_lowercase h

/-! ### Upper case -/

theorem settles_uppercase : settles uppercaseExpansions uppercaseRuns = true := by decide +kernel

theorem uppercase_of_mem (h : d ∈ uppercase c) : uppercase d = [d] :=
  mapCase_of_mem settles_uppercase h

theorem eq_of_mem_uppercase (hd : d.toNat ∉ images uppercaseExpansions uppercaseRuns)
    (h : d ∈ uppercase c) : c = d := by
  rcases mem_mapCase_cases h with himage | ⟨hself, -⟩
  · exact absurd himage hd
  · exact hself.symm

theorem uppercase_of_isLower (h : c.isLower = true) : uppercase c = [c.toUpper] := by
  have htable : ∀ n ∈ List.range' 97 26, uppercase (Char.ofNat n) = [(Char.ofNat n).toUpper] := by
    decide +kernel
  have hmem : c.toNat ∈ List.range' 97 26 := by
    have hrange : (c.val ≥ 97 && c.val ≤ 122) = true := h
    rw [Bool.and_eq_true, decide_eq_true_eq, decide_eq_true_eq] at hrange
    exact List.mem_range'_1.mpr ⟨hrange.1, Nat.lt_succ_of_le hrange.2⟩
  simpa using htable c.toNat hmem

theorem uppercase_toUpper (c : Char) : uppercase c.toUpper = uppercase c := by
  by_cases h : c.isLower = true
  · have hcapital : c.toUpper ∈ uppercase c := by
      rw [uppercase_of_isLower h]
      exact List.mem_singleton_self _
    rw [uppercase_of_isLower h, uppercase_of_mem hcapital]
  · have hself : c.toUpper = c := dif_neg fun hrange =>
      h (Bool.and_eq_true_iff.mpr ⟨decide_eq_true hrange.1, decide_eq_true hrange.2⟩)
    rw [hself]

end HomeEntities.Text
