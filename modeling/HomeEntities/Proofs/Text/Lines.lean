import HomeEntities.Proofs.Text.Slug
import HomeEntities.Text.Quoted
import Mathlib.Algebra.GroupWithZero.Nat

/-! # Lines

A text consists of lines if each of them has a line end behind it and none inside (`HasLines`), so
that there are as many lines as line ends (`HasLines.length_eq`). Texts with a line end behind each
of them are lines if none of them has one inside; if one has, there are more lines than texts
(`exists_hasLines_iff`). Slugs, quoted texts and the digits of numbers never have one. -/

namespace HomeEntities.Text

/-- The text consists of these lines, each with a line end behind it and none inside. -/
structure HasLines (text : String) (lines : List String) : Prop where
  eq : text = String.join (lines.map (· ++ "\n"))
  whole : ∀ line ∈ lines, '\n' ∉ line.toList

/-- The number of line ends in a text. -/
def lineEnds (text : String) : Nat := text.toList.count '\n'

theorem lineEnds_eq_zero {text : String} : lineEnds text = 0 ↔ '\n' ∉ text.toList :=
  List.count_eq_zero

theorem lineEnds_append (s t : String) : lineEnds (s ++ t) = lineEnds s + lineEnds t := by
  rw [lineEnds, String.toList_append, List.count_append]
  rfl

theorem lineEnds_join (texts : List String) : lineEnds (String.join (texts.map (· ++ "\n"))) =
    texts.length + (texts.map lineEnds).sum := by
  rw [lineEnds, String.toList_join]
  induction texts with
  | nil => rfl
  | cons text texts ih =>
    have hend : List.count '\n' (text ++ "\n").toList = lineEnds text + 1 :=
      lineEnds_append text "\n"
    rw [List.map_cons, List.flatMap_cons, List.count_append, ih, hend, List.map_cons,
      List.sum_cons, List.length_cons]
    omega

/-- **There are as many lines as line ends.** -/
theorem HasLines.length_eq {text : String} {lines : List String} (h : HasLines text lines) :
    lines.length = lineEnds text := by
  have hsum : (lines.map lineEnds).sum = 0 := by
    refine List.sum_eq_zero_iff_forall_eq_nat.mpr fun n hn => ?_
    obtain ⟨line, hline, rfl⟩ := List.mem_map.mp hn
    exact lineEnds_eq_zero.mpr (h.whole line hline)
  rw [h.eq, lineEnds_join, hsum, Nat.add_zero]

/-- **Texts one below the other** make as many lines as there are texts if and only if there is no
line end in any of them; they are the lines then. -/
theorem exists_hasLines_iff {texts : List String} :
    (∃ lines, HasLines (String.join (texts.map (· ++ "\n"))) lines ∧
      lines.length = texts.length) ↔ ∀ text ∈ texts, '\n' ∉ text.toList := by
  constructor
  · rintro ⟨lines, hlines, hlen⟩ text hmem
    have hsum : (texts.map lineEnds).sum = 0 := by
      have hends := hlines.length_eq
      rw [lineEnds_join] at hends
      omega
    exact lineEnds_eq_zero.mp
      (List.sum_eq_zero_iff_forall_eq_nat.mp hsum _ (List.mem_map_of_mem hmem))
  · intro h
    exact ⟨texts, ⟨rfl, h⟩, rfl⟩

/-! ### Texts without line ends -/

theorem newline_notMem_append {s t : String} :
    '\n' ∉ (s ++ t).toList ↔ '\n' ∉ s.toList ∧ '\n' ∉ t.toList := by
  rw [String.toList_append, List.mem_append, not_or]

theorem newline_notMem_slugify (text : String) : '\n' ∉ (slugify text).toList := by
  intro hmem
  have hletter : isAlphanumeric '\n' = false := by decide
  rcases ((isSlug_slugify text).mem _ hmem).1 with h | h
  · exact absurd h (by decide)
  · rw [hletter] at h
    cases h

theorem newline_notMem_toDigits {base : Nat} (hbase : 1 < base) (n : Nat) :
    '\n' ∉ Nat.toDigits base n := by
  have hdigit : ∀ d : Nat, '\n' ∉ [d.digitChar] := fun d hmem =>
    Nat.digitChar_ne '\n' (by decide) (List.mem_singleton.mp hmem).symm
  induction n using Nat.strong_induction_on with
  | _ n ih =>
    rw [Nat.toDigits_eq_if hbase]
    split
    · exact hdigit n
    · have hlt : n / base < n := Nat.div_lt_self (by omega) hbase
      rw [List.mem_append, not_or]
      exact ⟨ih _ hlt, hdigit _⟩

theorem newline_notMem_toString (n : Nat) : '\n' ∉ (toString n).toList := by
  show '\n' ∉ (Nat.repr n).toList
  rw [Nat.toList_repr]
  exact newline_notMem_toDigits (by decide) n

theorem newline_notMem_escapeChar (c : Char) : '\n' ∉ escapeChar c := by
  unfold escapeChar
  split
  -- the common escapes are fixed texts; a line end has one, and so is none of the characters left
  case h_7 hne _ _ =>
    split
    · rw [List.mem_singleton]
      exact fun h => hne h.symm
    · simp only [List.mem_append, not_or]
      exact ⟨⟨by decide, newline_notMem_toDigits (by decide) c.toNat⟩, by decide⟩
  all_goals decide

/-- **Quoted texts** stand on one line. -/
theorem newline_notMem_quoted (text : String) : '\n' ∉ (quoted text).toList := by
  rw [quoted, String.toList_ofList, List.mem_cons, List.mem_append, List.mem_flatMap]
  rintro (h | ⟨c, -, hc⟩ | h)
  · exact absurd h (by decide)
  · exact newline_notMem_escapeChar c hc
  · exact absurd h (by decide)

end HomeEntities.Text
