import AsyncBody.FreshName
import Mathlib.Data.List.Find
import Mathlib.Data.List.Perm.Subperm
import Mathlib.Data.List.Nodup

/-!
A fresh name is the first candidate that is free, and becomes taken. The names that a run of
requests hands out are distinct and none of them was taken before; all of them start with an
underscore, and no other taken names matter for the choice of them. Names that are taken beside them
do not matter either.
-/
namespace AsyncBody.NameSupply

theorem toString_injective : Function.Injective (toString : ℕ → String) := by
  intro m n h
  have hlist := congrArg String.toList h
  have hvalue := congrArg (fun digits => Nat.ofDigitChars 10 digits 0) hlist
  simpa [Nat.toString_eq_ofList_toDigits] using hvalue

theorem candidate_injective (stem : String) : Function.Injective (candidate stem) := by
  have suffix_ne : ∀ n : ℕ, stem ++ toString (n+1) ≠ stem := by
    intro n h
    have hlist := congrArg String.toList h
    rw [String.toList_append] at hlist
    have hnil := List.append_right_eq_self.mp hlist
    have hlength := congrArg List.length hnil
    simp at hlength
  intro m n h
  cases m with
  | zero =>
    cases n with
    | zero => rfl
    | succ n => exact (suffix_ne n h.symm).elim
  | succ m =>
    cases n with
    | zero => exact (suffix_ne m h).elim
    | succ n =>
      have hlist := congrArg String.toList h
      simp only [candidate,String.toList_append] at hlist
      exact toString_injective (String.toList_injective (List.append_cancel_left hlist))

/-- One of the first candidates is free, for there are more of them than names that are taken. -/
theorem exists_free (supply : NameSupply) (stem : String) :
    ∃ n ∈ List.range (supply.taken.length+1), candidate stem n ∉ supply.taken := by
  by_contra h
  push Not at h
  have hnodup : ((List.range (supply.taken.length+1)).map (candidate stem)).Nodup :=
    List.Nodup.map (candidate_injective stem) List.nodup_range
  have hsub : (List.range (supply.taken.length+1)).map (candidate stem) ⊆ supply.taken := by
    intro name hname
    obtain ⟨n,hn,rfl⟩ := List.mem_map.mp hname
    exact h n hn
  have hlength := (List.subperm_of_subset hnodup hsub).length_le
  rw [List.length_map,List.length_range] at hlength
  omega

theorem exists_first (supply : NameSupply) (stem : String) :
    ∃ n, supply.firstFree stem = candidate stem n ∧ candidate stem n ∉ supply.taken ∧
      ∀ m < n, candidate stem m ∈ supply.taken := by
  obtain ⟨k,hk,hfree⟩ := exists_free supply stem
  have hsome : ((List.range (supply.taken.length+1)).find?
      ((! supply.taken.contains ·) ∘ candidate stem)).isSome = true := by
    rw [List.find?_isSome]
    exact ⟨k,hk,by simpa using hfree⟩
  obtain ⟨n,hn⟩ := Option.isSome_iff_exists.mp hsome
  obtain ⟨hnfree,-,hbefore⟩ := List.find?_range_eq_some.mp hn
  refine ⟨n,?_,by simpa using hnfree,by simpa using hbefore⟩
  rw [firstFree,List.find?_map,hn]
  rfl

theorem firstFree_not_mem (supply : NameSupply) (stem : String) :
    supply.firstFree stem ∉ supply.taken := by
  obtain ⟨n,hname,hfree,-⟩ := exists_first supply stem
  exact hname ▸ hfree

theorem fresh_not_mem (supply : NameSupply) (base : String) :
    (supply.fresh base).1 ∉ supply.taken := firstFree_not_mem supply (stem base)

@[simp] theorem fresh_taken (supply : NameSupply) (base : String) :
    (supply.fresh base).2.taken = (supply.fresh base).1 :: supply.taken := rfl

/-- `Draws s names t`: some requests lead from `s` to `t` and hand out `names`, in this order. -/
inductive Draws : NameSupply → List String → NameSupply → Prop where
  | none {s : NameSupply} : Draws s [] s
  | fresh {s t : NameSupply} {names : List String} (base : String)
      (h : Draws (s.fresh base).2 names t) : Draws s ((s.fresh base).1 :: names) t

namespace Draws

theorem one (s : NameSupply) (base : String) :
    Draws s [(s.fresh base).1] (s.fresh base).2 := .fresh base .none

theorem append {s t u : NameSupply} {first rest : List String} (hfirst : Draws s first t)
    (hrest : Draws t rest u) : Draws s (first++rest) u := by
  induction hfirst with
  | none => exact hrest
  | fresh base _ ih => exact .fresh base (ih hrest)

theorem taken_eq {s t : NameSupply} {names : List String} (h : Draws s names t) :
    t.taken = names.reverse ++ s.taken := by
  induction h with
  | none => rfl
  | fresh base _ ih => rw [ih,fresh_taken,List.reverse_cons,List.append_assoc,List.singleton_append]

theorem not_mem_taken {s t : NameSupply} {names : List String} (h : Draws s names t) :
    ∀ name ∈ names, name ∉ s.taken := by
  induction h with
  | none =>
    intro name hname
    cases hname
  | fresh base _ ih =>
    intro name hname
    rcases List.mem_cons.mp hname with rfl | hname
    · exact fresh_not_mem _ base
    · exact fun hm => ih name hname (List.mem_cons_of_mem _ hm)

theorem nodup {s t : NameSupply} {names : List String} (h : Draws s names t) : names.Nodup := by
  induction h with
  | none => exact List.nodup_nil
  | fresh base hrest ih =>
    rw [List.nodup_cons]
    exact ⟨fun hm => hrest.not_mem_taken _ hm List.mem_cons_self,ih⟩

end Draws

/-- A name is of the kind that supplies hand out: it starts with an underscore. -/
def IsSynthetic (name : String) : Prop := name.toList.head? = some '_'

instance (name : String) : Decidable (IsSynthetic name) :=
  inferInstanceAs (Decidable (_ = _))

theorem candidate_synthetic (base : String) (n : ℕ) : IsSynthetic (candidate (stem base) n) := by
  cases n with
  | zero => simp [IsSynthetic,candidate,stem,String.toList_append]
  | succ n => simp [IsSynthetic,candidate,stem,String.toList_append]

theorem fresh_synthetic (supply : NameSupply) (base : String) :
    IsSynthetic (supply.fresh base).1 := by
  obtain ⟨n,hname,-⟩ := exists_first supply (stem base)
  show IsSynthetic (supply.firstFree (stem base))
  rw [hname]
  exact candidate_synthetic base n

/-- The name that one supply hands out is also handed out by another in which more is taken, but not
that name. -/
theorem fresh_eq_of {s t : NameSupply} {base : String}
    (hmore : ∀ name, IsSynthetic name → name ∈ s.taken → name ∈ t.taken)
    (hfree : (s.fresh base).1 ∉ t.taken) : (t.fresh base).1 = (s.fresh base).1 := by
  replace hfree : s.firstFree (stem base) ∉ t.taken := hfree
  show t.firstFree (stem base) = s.firstFree (stem base)
  obtain ⟨n,hn,-,hbefore⟩ := exists_first s (stem base)
  obtain ⟨m,hm,hmfree,hmbefore⟩ := exists_first t (stem base)
  rw [hn] at hfree ⊢
  rw [hm]
  rcases Nat.lt_trichotomy m n with hlt | rfl | hgt
  · exact absurd (hmore _ (candidate_synthetic base m) (hbefore m hlt)) hmfree
  · rfl
  · exact absurd (hmbefore n hgt) hfree

def draw : List String → NameSupply → List String × NameSupply
  | [], s => ([],s)
  | base :: rest, s =>
    let (name,t) := s.fresh base
    let (names,u) := draw rest t
    (name :: names,u)

theorem draw_draws (bases : List String) (s : NameSupply) :
    Draws s (s.draw bases).1 (s.draw bases).2 := by
  induction bases generalizing s with
  | nil => exact .none
  | cons base rest ih => exact .fresh base (ih _)

theorem draw_append (first rest : List String) (s : NameSupply) :
    s.draw (first++rest) =
      ((s.draw first).1 ++ ((s.draw first).2.draw rest).1,((s.draw first).2.draw rest).2) := by
  induction first generalizing s with
  | nil => rfl
  | cons base first ih =>
    simp only [List.cons_append,draw,ih]

theorem draw_length (bases : List String) (s : NameSupply) :
    (s.draw bases).1.length = bases.length := by
  induction bases generalizing s with
  | nil => rfl
  | cons base rest ih => exact congrArg (·+1) (ih _)

theorem draw_synthetic (bases : List String) (s : NameSupply) :
    ∀ name ∈ (s.draw bases).1, IsSynthetic name := by
  induction bases generalizing s with
  | nil => exact nofun
  | cons base rest ih => exact List.forall_mem_cons.mpr ⟨fresh_synthetic s base,ih _⟩

theorem draw_eq_of {s t : NameSupply} {bases : List String}
    (hmore : ∀ name, IsSynthetic name → name ∈ s.taken → name ∈ t.taken)
    (hfree : ∀ name ∈ (s.draw bases).1, name ∉ t.taken) :
    (t.draw bases).1 = (s.draw bases).1 := by
  induction bases generalizing s t with
  | nil => rfl
  | cons base rest ih =>
    have hname := fresh_eq_of hmore (hfree _ List.mem_cons_self)
    have hrest : ((t.fresh base).2.draw rest).1 = ((s.fresh base).2.draw rest).1 := by
      refine ih (fun name hsynthetic hmem => ?_) fun name hmem htaken => ?_
      · rw [fresh_taken] at hmem ⊢
        rw [hname]
        exact List.mem_cons.mpr ((List.mem_cons.mp hmem).imp_right (hmore name hsynthetic))
      · rw [fresh_taken,hname] at htaken
        rcases List.mem_cons.mp htaken with rfl | htaken
        · exact (draw_draws rest _).not_mem_taken _ hmem List.mem_cons_self
        · exact hfree name (.tail _ hmem) htaken
    exact List.cons_eq_cons.mpr ⟨hname,hrest⟩

/-- Only the taken names that start with an underscore matter. -/
theorem draw_eq_of_iff {s t : NameSupply}
    (h : ∀ name, IsSynthetic name → (name ∈ s.taken ↔ name ∈ t.taken)) (bases : List String) :
    (t.draw bases).1 = (s.draw bases).1 := by
  refine draw_eq_of (fun name hsynthetic => (h name hsynthetic).mp) fun name hmem => ?_
  rw [← h name (draw_synthetic bases s name hmem)]
  exact (draw_draws bases s).not_mem_taken name hmem

/-- In two supplies as many names are taken, and the same ones among those that start with an
underscore. -/
structure Alike (s t : NameSupply) : Prop where
  length : s.taken.length = t.taken.length
  mem : ∀ name, IsSynthetic name → (name ∈ s.taken ↔ name ∈ t.taken)

end AsyncBody.NameSupply
