import SchemaMigration.Database.Kind

/-! # Kinds — their order, and masks as sets of them

    Kinds are sorted by rank, lists of them are freed of repetitions, and sets of them are
    written as masks.

    * `pairwise_dropRepeats`: a list in order without repeats is strictly ascending;
    * `inMask_maskOf`: the mask of a list selects what is in the list. -/

namespace SchemaMigration.Kind

variable {j k : Kind} {kinds : List Kind}

/-! ## The order -/

/-- Every kind has a rank of its own. -/
theorem rank_inj : j.rank = k.rank ↔ j = k := by
  cases j <;> cases k <;> decide

theorem mem_all (k : Kind) : k ∈ all := by
  cases k <;> decide

theorem pairwise_all : all.Pairwise fun a b => a.rank < b.rank := by decide

theorem le_trans (a b c : Kind) (hab : a.le b = true) (hbc : b.le c = true) :
    a.le c = true := by
  rw [le, decide_eq_true_eq] at hab hbc ⊢
  exact Nat.le_trans hab hbc

theorem le_total (a b : Kind) : (a.le b || b.le a) = true := by
  rw [le, le, Bool.or_eq_true, decide_eq_true_eq, decide_eq_true_eq]
  exact Nat.le_total _ _

theorem mem_sort : k ∈ sort kinds ↔ k ∈ kinds := (List.mergeSort_perm kinds le).mem_iff

theorem pairwise_sort (kinds : List Kind) :
    (sort kinds).Pairwise fun a b => a.rank ≤ b.rank :=
  (List.pairwise_mergeSort le_trans le_total kinds).imp of_decide_eq_true

/-- Dropping repeats drops no kind altogether. -/
theorem mem_dropRepeats : k ∈ dropRepeats kinds ↔ k ∈ kinds := by
  fun_induction dropRepeats kinds with
  | case1 => rfl
  | case2 => rfl
  | case3 b rest ih =>
      rw [ih]
      exact ⟨List.mem_cons_of_mem b, fun h => (List.mem_cons.mp h).elim (· ▸ List.mem_cons_self) id⟩
  | case4 a b rest hne ih => rw [List.mem_cons, ih, List.mem_cons (b := a)]

/-- In a list in order, equal kinds stand side by side, and so only one of them is kept. -/
theorem pairwise_dropRepeats (h : kinds.Pairwise fun a b => a.rank ≤ b.rank) :
    (dropRepeats kinds).Pairwise fun a b => a.rank < b.rank := by
  fun_induction dropRepeats kinds with
  | case1 => exact .nil
  | case2 k => exact List.pairwise_singleton _ k
  | case3 b rest ih => exact ih (List.pairwise_cons.mp h).2
  | case4 a b rest hne ih =>
      obtain ⟨ha, hrest⟩ := List.pairwise_cons.mp h
      refine List.pairwise_cons.mpr ⟨fun k hk => ?_, ih hrest⟩
      have hab : a.rank < b.rank :=
        Nat.lt_of_le_of_ne (ha b List.mem_cons_self) fun heq => hne (rank_inj.mp heq)
      rcases List.mem_cons.mp (mem_dropRepeats.mp hk) with rfl | hk
      · exact hab
      · exact Nat.lt_of_lt_of_le hab ((List.pairwise_cons.mp hrest).1 k hk)

/-! ## Masks -/

/-- The flag of a kind is a mask with that kind alone. -/
theorem inMask_flag : k.inMask j.flag = true ↔ k = j := by
  rw [inMask, flag, Nat.one_shiftLeft, Nat.testBit_two_pow, decide_eq_true_eq, rank_inj]
  exact eq_comm

/-- The mask of a list selects the kinds in the list. -/
theorem inMask_maskOf : k.inMask (maskOf kinds) = true ↔ k ∈ kinds := by
  have hfold (mask : Nat) : k.inMask (kinds.foldl (fun mask j => mask ||| j.flag) mask) = true
      ↔ k.inMask mask = true ∨ k ∈ kinds := by
    induction kinds generalizing mask with
    | nil => exact (or_iff_left List.not_mem_nil).symm
    | cons j rest ih =>
        have hor : k.inMask (mask ||| j.flag) = (k.inMask mask || k.inMask j.flag) :=
          Nat.testBit_or _ _ _
        rw [List.foldl_cons, ih, hor, Bool.or_eq_true, inMask_flag, List.mem_cons, or_assoc]
  have hnone : k.inMask 0 = false := Nat.zero_testBit _
  rw [maskOf, hfold, hnone]
  exact or_iff_right Bool.false_ne_true

end SchemaMigration.Kind
