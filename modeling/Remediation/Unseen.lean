/-!
# Names not yet seen

The number of names of a list that a path has not come by.  Searches that never come by a name twice
end, because this number falls with every name that they come by (`unseen_lt`).
-/

set_option autoImplicit false

namespace Remediation

/-- The number of names that have not been seen. -/
def unseen (names seen : List String) : Nat := (names.filter (· ∉ seen)).length

/-- Who has seen more has less to see. -/
theorem unseen_le {names seen more : List String} (h : ∀ x ∈ seen, x ∈ more) :
    unseen names more ≤ unseen names seen := by
  unfold unseen
  simp only [← List.countP_eq_length_filter]
  refine List.countP_mono_left fun x _ hx => ?_
  simp only [decide_eq_true_eq] at hx ⊢
  exact fun hs => hx (h x hs)

/-- Who sees a name for the first time has one less to see. -/
theorem unseen_lt {names seen more : List String} {v : String} (hv : v ∈ names) (hs : v ∉ seen)
    (hm : v ∈ more) (h : ∀ x ∈ seen, x ∈ more) : unseen names more < unseen names seen := by
  induction names with
  | nil => simp at hv
  | cons n ns ih =>
    have le : unseen ns more ≤ unseen ns seen := unseen_le h
    unfold unseen at le ih ⊢
    by_cases hn : n = v
    · subst hn
      rw [List.filter_cons_of_neg (by simpa using hm), List.filter_cons_of_pos (by simpa using hs),
        List.length_cons]
      omega
    · have hv' : v ∈ ns := by
        rcases List.mem_cons.1 hv with e | e
        · exact absurd e.symm hn
        · exact e
      have lt := ih hv'
      by_cases hns : n ∈ seen
      · rw [List.filter_cons_of_neg (by simpa using h n hns),
          List.filter_cons_of_neg (by simpa using hns)]
        exact lt
      · by_cases hnm : n ∈ more
        · rw [List.filter_cons_of_neg (by simpa using hnm),
            List.filter_cons_of_pos (by simpa using hns), List.length_cons]
          omega
        · rw [List.filter_cons_of_pos (by simpa using hnm),
            List.filter_cons_of_pos (by simpa using hns), List.length_cons, List.length_cons]
          omega

/-- A name that is put in front is seen. -/
theorem unseen_cons_lt {names seen : List String} {v : String} (hv : v ∈ names) (hs : v ∉ seen) :
    unseen names (v :: seen) < unseen names seen :=
  unseen_lt hv hs (by simp) fun _ hx => List.mem_cons_of_mem _ hx

/-- A name that is put behind is seen. -/
theorem unseen_concat_lt {names seen : List String} {v : String} (hv : v ∈ names) (hs : v ∉ seen) :
    unseen names (seen ++ [v]) < unseen names seen :=
  unseen_lt hv hs (by simp) fun _ hx => List.mem_append_left _ hx

end Remediation
