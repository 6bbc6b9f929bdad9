import Texdown.FreeName
import Mathlib.Data.List.Nodup
import Mathlib.Data.List.Perm.Subperm

/-!
# File names that are free

Numbers behind a stem make different names, so among one more of them than are taken one is free.

Results:
* `freeName_not_mem`, `firstFree_freeName`: a free name is not taken, and has the least number.
-/
namespace Texdown

/-! ## Numbers -/

theorem ofNat_injective : Function.Injective Text.ofNat :=
  Function.LeftInverse.injective (g := (Nat.ofDigitChars 10 · 0)) fun _ => Nat.ofDigitChars_ten_toDigits

theorem numbered_succ (stem suffix : Text) (n : Nat) :
    numbered stem suffix (n + 1) = stem ++ '-' :: Text.ofNat (n + 1) ++ suffix := if_neg n.succ_ne_zero

/-- Different numbers make different names. -/
theorem numbered_injective (stem suffix : Text) : Function.Injective (numbered stem suffix) := by
  intro a b h
  have hlen := congrArg List.length h
  cases a with
  | zero =>
    cases b with
    | zero => rfl
    | succ b =>
      simp only [numbered_zero, numbered_succ, List.length_append, List.length_cons] at hlen
      omega
  | succ a =>
    cases b with
    | zero =>
      simp only [numbered_zero, numbered_succ, List.length_append, List.length_cons] at hlen
      omega
    | succ b =>
      rw [numbered_succ, numbered_succ, List.append_cancel_right_eq, List.append_cancel_left_eq] at h
      exact ofNat_injective (List.cons.inj h).2

/-- All names in front of the first free one are taken, and it is free unless it is the last one that is
looked at. -/
theorem firstFree_spec (isTaken : Text → Bool) (stem suffix : Text) (fuel n : Nat) :
    (∀ j, n ≤ j → j < firstFree isTaken stem suffix fuel n → isTaken (numbered stem suffix j) = true) ∧
      (firstFree isTaken stem suffix fuel n = n + fuel ∨
        isTaken (numbered stem suffix (firstFree isTaken stem suffix fuel n)) = false) := by
  induction fuel generalizing n with
  | zero => exact ⟨fun j h1 h2 => absurd h2 (Nat.not_lt.2 h1), .inl rfl⟩
  | succ fuel ih =>
    simp only [firstFree]
    split
    · rename_i htaken
      obtain ⟨hbefore, hfree⟩ := ih (n + 1)
      refine ⟨fun j h1 h2 => ?_, hfree.imp_left fun h => by omega⟩
      rcases Nat.eq_or_lt_of_le h1 with rfl | hlt
      · exact htaken
      · exact hbefore j hlt h2
    · rename_i hfree
      exact ⟨fun j h1 h2 => absurd h2 (Nat.not_lt.2 h1), .inr (by simpa using hfree)⟩

/-- Not all of more names than are taken can be taken. -/
theorem freeName_not_mem (taken : List Text) (stem suffix : Text) :
    freeName taken stem suffix ∉ taken := by
  obtain ⟨hbefore, hlast | hfree⟩ := firstFree_spec taken.contains stem suffix taken.length 0
  · -- Then one more name would be taken than there are.
    intro hmem
    rw [Nat.zero_add] at hlast
    have hall : (List.range (taken.length + 1)).map (numbered stem suffix) ⊆ taken := by
      intro name hname
      obtain ⟨j, hj, rfl⟩ := List.mem_map.1 hname
      rcases Nat.eq_or_lt_of_le (Nat.le_of_lt_succ (List.mem_range.1 hj)) with rfl | hlt
      · rw [freeName, hlast] at hmem
        exact hmem
      · exact List.contains_iff_mem.1 (hbefore j (Nat.zero_le j) (by rw [hlast]; exact hlt))
    have hdistinct : ((List.range (taken.length + 1)).map (numbered stem suffix)).Nodup :=
      List.nodup_range.map (numbered_injective stem suffix)
    have hle := (List.subperm_of_subset hdistinct hall).length_le
    simp only [List.length_map, List.length_range] at hle
    omega
  · simpa [freeName] using hfree

/-- A name is the first free one: its stem and its suffix if that is free, or else with the least number in
between that makes it free. -/
structure FirstFree (taken : List Text) (stem suffix name : Text) : Prop where
  free : name ∉ taken
  least : ∃ k, name = numbered stem suffix k ∧ ∀ j < k, numbered stem suffix j ∈ taken

theorem firstFree_freeName (taken : List Text) (stem suffix : Text) :
    FirstFree taken stem suffix (freeName taken stem suffix) := by
  refine ⟨freeName_not_mem taken stem suffix, _, rfl, fun j hj => ?_⟩
  have hbefore := (firstFree_spec taken.contains stem suffix taken.length 0).1 j (Nat.zero_le j) hj
  exact List.contains_iff_mem.1 hbefore

/-- A text without a separator is one part. -/
theorem Text.splitOn_of_not_mem {sep : Char} {t : Text} (h : sep ∉ t) : Text.splitOn sep t = [t] := by
  induction t with
  | nil => rfl
  | cons c r ih =>
    rw [List.mem_cons, not_or] at h
    rw [Text.splitOn, if_neg (Ne.symm h.1), ih h.2]

end Texdown
