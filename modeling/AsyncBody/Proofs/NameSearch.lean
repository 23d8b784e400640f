import AsyncBody.Proofs.FreshName
import Mathlib.Data.Finset.Card

/-!
The search for a fresh name: it tests the candidates of a stem one after another and ends at the
first that is free, after one candidate more than there are taken names at most. What it finds is an
identifier that can be bound.
-/
namespace AsyncBody.NameSupply

open Text (isIdContinue isBindingIdentifier isIdentifierName reservedWords)

/-- `Searches taken stem n tried`: the search that begins at the candidate of number `n` tests the
candidates `tried`, all of them taken but the last. -/
inductive Searches (taken : List String) (stem : String) : ℕ → List String → Prop where
  | free {n : ℕ} (h : candidate stem n ∉ taken) : Searches taken stem n [candidate stem n]
  | next {n : ℕ} {tried : List String} (h : candidate stem n ∈ taken)
      (hrest : Searches taken stem (n+1) tried) :
      Searches taken stem n (candidate stem n :: tried)

namespace Searches

variable {taken : List String} {stem : String} {n : ℕ} {tried other : List String}

theorem unique (h : Searches taken stem n tried) (hother : Searches taken stem n other) :
    other = tried := by
  induction h generalizing other with
  | free hfree =>
    cases hother with
    | free => rfl
    | next htaken => exact absurd htaken hfree
  | next htaken _ ih =>
    cases hother with
    | free hfree => exact absurd htaken hfree
    | next _ hrest => rw [ih hrest]

theorem of_first {k : ℕ} (hfree : candidate stem (n+k) ∉ taken)
    (htaken : ∀ m < k, candidate stem (n+m) ∈ taken) :
    Searches taken stem n ((List.range (k+1)).map fun m => candidate stem (n+m)) := by
  induction k generalizing n with
  | zero => exact .free hfree
  | succ k ih =>
    have hrest := ih (n := n+1) (by rwa [Nat.add_right_comm]) fun m hm => by
      rw [Nat.add_right_comm]
      exact htaken (m+1) (by omega)
    rw [List.range_succ_eq_map,List.map_cons,List.map_map]
    have hstep : (fun m => candidate stem (n+m)) ∘ Nat.succ = fun m => candidate stem (n+1+m) := by
      funext m
      simp [Nat.add_comm,Nat.add_left_comm]
    rw [hstep]
    exact .next (htaken 0 (by omega)) hrest

end Searches

/-- The candidates below the first free one are distinct and taken, so there are no more of them
than taken names. -/
theorem first_le_card {taken : List String} {stem : String} {n : ℕ}
    (hbefore : ∀ m < n, candidate stem m ∈ taken) : n ≤ taken.toFinset.card := by
  have hsub : (Finset.range n).image (candidate stem) ⊆ taken.toFinset := by
    intro name hname
    obtain ⟨m,hm,rfl⟩ := Finset.mem_image.mp hname
    exact List.mem_toFinset.mpr (hbefore m (Finset.mem_range.mp hm))
  have hcard := Finset.card_le_card hsub
  rwa [Finset.card_image_of_injective _ (candidate_injective stem),Finset.card_range] at hcard

theorem sanitize_continues (base : String) : (sanitize base).toList.all isIdContinue = true := by
  unfold sanitize
  split
  · decide
  · simp only [String.toList_ofList,List.all_map,List.all_eq_true,Function.comp_apply]
    intro c _
    split
    · assumption
    · decide

theorem isIdContinue_of_isDigit {c : Char} (h : c.isDigit = true) : isIdContinue c = true := by
  have hascii : Text.isAscii c = true := by
    simp only [Char.isDigit,Bool.and_eq_true,decide_eq_true_eq,UInt32.le_iff_toNat_le] at h
    have hle : c.toNat ≤ 57 := h.2
    simp only [Text.isAscii,decide_eq_true_eq]
    omega
  simp [isIdContinue,hascii,Char.isAlphanum,h]

theorem candidate_continues (base : String) (n : ℕ) :
    (candidate (sanitize base) n).toList.all isIdContinue = true := by
  cases n with
  | zero => exact sanitize_continues base
  | succ n =>
    rw [candidate,String.toList_append,List.all_append,sanitize_continues,Bool.true_and,
      List.all_eq_true]
    intro c hc
    rw [Nat.toString_eq_ofList_toDigits,String.toList_ofList] at hc
    exact isIdContinue_of_isDigit (Nat.isDigit_of_mem_toDigits (by omega) (by omega) hc)

theorem candidate_stem (base : String) (n : ℕ) :
    candidate (stem base) n = "_" ++ candidate (sanitize base) n := by
  cases n with
  | zero => rfl
  | succ n => exact String.append_assoc

theorem not_mem_reservedWords {name : String} (h : IsSynthetic name) : name ∉ reservedWords := by
  have hnone : ∀ word ∈ reservedWords, ¬ IsSynthetic word := by decide
  exact fun hmem => hnone name hmem h

theorem candidate_isBindingIdentifier (base : String) (n : ℕ) :
    isBindingIdentifier (candidate (stem base) n) = true := by
  have hname : isIdentifierName (candidate (stem base) n).toList = true := by
    have hstart : Text.isIdStart '_' = true := by decide
    rw [candidate_stem,String.toList_append]
    exact Bool.and_eq_true_iff.mpr ⟨hstart,candidate_continues base n⟩
  have hreserved := not_mem_reservedWords (candidate_synthetic base n)
  simp [isBindingIdentifier,hname,hreserved]

/-- A request for a name is a search for the least free candidate. It tests no more candidates than
there are taken names and one; what it finds can be bound, was free, and is the only name that
becomes taken. So the names of any run of requests are distinct. -/
theorem fresh_least_free (supply : NameSupply) (base : String) (bases : List String) :
    (∃ tried, (∀ other, Searches supply.taken (stem base) 0 other ↔ other = tried) ∧
      tried.length ≤ supply.taken.toFinset.card + 1 ∧
      tried.getLast? = some (supply.fresh base).1) ∧
    (supply.fresh base).1 ∉ supply.taken ∧
    (supply.fresh base).2.taken = (supply.fresh base).1 :: supply.taken ∧
    isBindingIdentifier (supply.fresh base).1 = true ∧
    ((supply.fresh base).1 = "_" ++ sanitize base ∨
      ∃ n ≥ 1, (supply.fresh base).1 = "_" ++ sanitize base ++ toString n ∧
        "_" ++ sanitize base ∈ supply.taken ∧
        ∀ m ≥ 1, m < n → "_" ++ sanitize base ++ toString m ∈ supply.taken) ∧
    (supply.draw bases).1.Nodup := by
  obtain ⟨n,hname,hfree,hbefore⟩ := exists_first supply (stem base)
  replace hname : (supply.fresh base).1 = candidate (stem base) n := hname
  refine ⟨?search,fresh_not_mem supply base,fresh_taken supply base,?identifier,?least,
    (draw_draws bases supply).nodup⟩
  case search =>
    have hsearch : Searches supply.taken (stem base) 0
        ((List.range (n+1)).map fun m => candidate (stem base) (0+m)) :=
      .of_first (by rwa [Nat.zero_add]) fun m hm => by rw [Nat.zero_add]; exact hbefore m hm
    refine ⟨_,fun other => ⟨hsearch.unique,fun h => h ▸ hsearch⟩,?_,?_⟩
    · have hcard := first_le_card hbefore
      simpa using hcard
    · simp [List.range_succ,hname]
  case identifier =>
    rw [hname]
    exact candidate_isBindingIdentifier base n
  case least =>
    rw [hname]
    cases n with
    | zero => exact .inl rfl
    | succ n =>
      refine .inr ⟨n+1,by omega,rfl,hbefore 0 (by omega),fun m hm hlt => ?_⟩
      obtain ⟨k,rfl⟩ := Nat.exists_eq_add_of_le' hm
      exact hbefore (k+1) hlt

/-- A base without identifier characters, of which the stem and the first suffix are taken. -/
example : (NameSupply.fresh ⟨["_ref1","_ref","$import"]⟩ "").1 = "_ref2" := by decide

end AsyncBody.NameSupply
