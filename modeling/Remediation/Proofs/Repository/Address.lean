import Mathlib.Data.List.DropRight
import Remediation.Proofs.Text.Cut
import Remediation.Repository
/-!
# Addresses of repositories

An address ends in the owner and the name of its repository, whatever stands in front of them: a
scheme, a user, a host with a port, groups.  Behind the name a `.git` and slashes may follow, which
belong to neither (`addressFields_of_parts`).
-/

set_option autoImplicit false

namespace Remediation.Repository

open Text (splitChars splitChars_append_cons splitChars_of_notMem)

variable {c : Char} {cs : List Char}

/-! ## Ends that are cut off -/

theorem trimEnd_eq_rdropWhile (c : Char) (cs : List Char) :
    trimEnd c cs = cs.rdropWhile (· = c) := rfl

theorem trimEnd_append_replicate (c : Char) (cs : List Char) (n : Nat) :
    trimEnd c (cs ++ List.replicate n c) = trimEnd c cs := by
  induction n with
  | zero => rw [List.replicate_zero, List.append_nil]
  | succ n ih =>
    rw [List.replicate_succ', ← List.append_assoc, trimEnd_eq_rdropWhile, List.rdropWhile_concat,
      if_pos (decide_eq_true rfl), ← trimEnd_eq_rdropWhile, ih]

/-- Nothing is cut off behind a text in which the character does not stand. -/
theorem trimEnd_append_of_notMem (front : List Char) (hne : cs ≠ []) (h : c ∉ cs) :
    trimEnd c (front ++ cs) = front ++ cs := by
  rw [trimEnd_eq_rdropWhile, List.rdropWhile_eq_self_iff]
  intro hfront hlast
  rw [List.getLast_append_of_ne_nil hfront hne, decide_eq_true_eq] at hlast
  exact h (hlast ▸ List.getLast_mem hne)

theorem dropEnding_append (ending cs : List Char) : dropEnding ending (cs ++ ending) = cs := by
  have hends : ending.isSuffixOf (cs ++ ending) = true :=
    List.isSuffixOf_iff_suffix.2 (List.suffix_append cs ending)
  simp [dropEnding, hends]

theorem dropEnding_of_not_suffix {ending : List Char} (h : ¬ ending <:+ cs) :
    dropEnding ending cs = cs :=
  if_neg (mt List.isSuffixOf_iff_suffix.1 h)

/-! ## The parts of an address -/

/-- A part of an address: a text that is not empty, without the characters that part addresses. -/
structure IsPart (cs : List Char) : Prop where
  ne_nil : cs ≠ []
  slashes : '/' ∉ cs
  colons : ':' ∉ cs

theorem IsPart.append {ending : List Char} (h : IsPart cs) (hslashes : '/' ∉ ending)
    (hcolons : ':' ∉ ending) : IsPart (cs ++ ending) where
  ne_nil := List.append_ne_nil_of_left_ne_nil h.ne_nil ending
  slashes := fun hmem => (List.mem_append.1 hmem).elim h.slashes hslashes
  colons := fun hmem => (List.mem_append.1 hmem).elim h.colons hcolons

/-- A character as it parts addresses: a colon does so as a slash does. -/
def parting (c : Char) : Char := if c = ':' then '/' else c

theorem addressParts_eq (address : List Char) :
    addressParts address = splitChars '/' (trimEnd '/' (address.map parting)) := rfl

theorem IsPart.map_parting (h : IsPart cs) : cs.map parting = cs := by
  have hsame : ∀ c ∈ cs, parting c = c := by
    intro c hc
    exact if_neg fun hcolon : c = ':' => h.colons (hcolon ▸ hc)
  rw [List.map_congr_left hsame, List.map_id']

/-- The last two parts of an address are parts of it, whatever stands in front of them and however many
slashes stand behind. -/
theorem addressParts_append {sep : Char} (hsep : sep = '/' ∨ sep = ':') {owner name : List Char}
    (howner : IsPart owner) (hname : IsPart name) (lead : List Char) (slashes : Nat) :
    addressParts (lead ++ sep :: (owner ++ '/' :: name) ++ List.replicate slashes '/') =
      splitChars '/' (lead.map parting) ++ [owner, name] := by
  have hparting : parting sep = '/' := by rcases hsep with rfl | rfl <;> rfl
  have hslash : parting '/' = '/' := rfl
  have hmap : (lead ++ sep :: (owner ++ '/' :: name) ++ List.replicate slashes '/').map parting =
      lead.map parting ++ '/' :: (owner ++ '/' :: name) ++ List.replicate slashes '/' := by
    simp only [List.map_append, List.map_cons, List.map_replicate, hparting, hslash,
      howner.map_parting, hname.map_parting]
  -- The name has no slash at its end, so that those behind it are all that is cut off.
  have hfront : lead.map parting ++ '/' :: (owner ++ '/' :: name) =
      (lead.map parting ++ '/' :: owner ++ ['/']) ++ name := by simp
  have htrim : trimEnd '/' (lead.map parting ++ '/' :: (owner ++ '/' :: name)) =
      lead.map parting ++ '/' :: (owner ++ '/' :: name) := by
    rw [hfront]
    exact trimEnd_append_of_notMem _ hname.ne_nil hname.slashes
  rw [addressParts_eq, hmap, trimEnd_append_replicate, htrim, splitChars_append_cons,
    splitChars_append_cons, splitChars_of_notMem howner.slashes, splitChars_of_notMem hname.slashes]
  rfl

/-- An address that ends in an owner and a name tells both of them, and the ending that may follow the
name does not count. -/
theorem ownerAndName?_append {sep : Char} (hsep : sep = '/' ∨ sep = ':')
    {owner name ending : List Char} (howner : IsPart owner) (hname : IsPart name)
    (hbare : ¬ nameEnding <:+ name) (hending : ending = [] ∨ ending = nameEnding)
    (lead : List Char) (slashes : Nat) :
    ownerAndName?
        (lead ++ sep :: (owner ++ '/' :: (name ++ ending)) ++ List.replicate slashes '/') =
      some (owner, name) := by
  have hplain : '/' ∉ ending ∧ ':' ∉ ending := by
    rcases hending with rfl | rfl <;> decide
  have hdrop : dropEnding nameEnding (name ++ ending) = name := by
    rcases hending with rfl | rfl
    · rw [List.append_nil, dropEnding_of_not_suffix hbare]
    · exact dropEnding_append nameEnding name
  rw [ownerAndName?, addressParts_append hsep howner (hname.append hplain.1 hplain.2),
    List.reverse_append]
  simp [hdrop]

/-- An address tells where the repository is, which is the whole of it, and its last two parts: the
owner, and the name without the ending and the slashes that may follow it. -/
theorem addressFields_of_parts {lead owner name ending : String} {sep : Char}
    (hsep : sep = '/' ∨ sep = ':') (howner : IsPart owner.toList) (hname : IsPart name.toList)
    (hbare : ∀ front, name ≠ front ++ ".git") (hending : ending = "" ∨ ending = ".git")
    (slashes : Nat) {address : String}
    (haddress : address = lead ++ String.singleton sep ++ owner ++ "/" ++ name ++ ending ++
      String.ofList (List.replicate slashes '/')) :
    addressFields address =
      [("project_repo", .text address), ("organization", .text owner), ("repo_name", .text name)] := by
  have hchars : address.toList =
      lead.toList ++ sep :: (owner.toList ++ '/' :: (name.toList ++ ending.toList)) ++
        List.replicate slashes '/' := by
    simp [haddress]
  have hsuffix : ¬ nameEnding <:+ name.toList := by
    rintro ⟨front, hfront⟩
    refine hbare (String.ofList front) (String.toList_inj.1 ?_)
    rw [← hfront]
    simp [nameEnding]
  have hknown : ending.toList = [] ∨ ending.toList = nameEnding := by
    rcases hending with rfl | rfl
    · exact Or.inl rfl
    · exact Or.inr rfl
  rw [addressFields, hchars, ownerAndName?_append hsep howner hname hsuffix hknown]
  simp

/-- Behind a user, a port, groups and a colon the last two parts are found; a name may end in part of
the ending. -/
theorem addressFields_of_parts_grouped :
    IsPart "acme".toList ∧ IsPart "widgets.github".toList ∧
    (∀ front, "widgets.github" ≠ front ++ ".git") ∧
    addressFields "ssh://git@forge:2222/tools:acme/widgets.github.git//" =
      [("project_repo", .text "ssh://git@forge:2222/tools:acme/widgets.github.git//"),
        ("organization", .text "acme"), ("repo_name", .text "widgets.github")] := by
  have howner : IsPart "acme".toList := ⟨by decide, by decide, by decide⟩
  have hname : IsPart "widgets.github".toList := ⟨by decide, by decide, by decide⟩
  have hbare : ∀ front, "widgets.github" ≠ front ++ ".git" := by
    intro front heq
    have hsuffix : ".git".toList <:+ "widgets.github".toList :=
      ⟨front.toList, by rw [← String.toList_append, ← heq]⟩
    exact absurd hsuffix (by decide)
  have haddress : "ssh://git@forge:2222/tools:acme/widgets.github.git//" =
      "ssh://git@forge:2222/tools" ++ String.singleton ':' ++ "acme" ++ "/" ++ "widgets.github" ++
        ".git" ++ String.ofList (List.replicate 2 '/') := by decide
  exact ⟨howner, hname, hbare,
    addressFields_of_parts (Or.inr rfl) howner hname hbare (Or.inr rfl) 2 haddress⟩

end Remediation.Repository
