import AsyncBody.Proofs.SecondLowering

/-!
A script inside the function that takes the hook: every use of the hook in it is shadowed by the
parameter. So the analysis of shadowing, which reads a tree from the outside, must find there
exactly the uses that routing, which starts inside, would replace.
-/
namespace AsyncBody

open Hook

namespace Node

theorem hasUse_iff_uses_ne_nil (hook : String) (n : Node) :
    n.HasUse ↔ (route hook n).uses ≠ [] := by
  rw [route_uses,ne_eq,List.filterMap_eq_nil_iff]
  push Not
  simp only [HasUse,← use?_isSome_iff,Option.isSome_iff_ne_none]

theorem shadowedUsesAll_perm {hook : String} {items : List Node}
    (h : ∀ item ∈ items, (shadowedUses hook true item).Perm (route hook item).uses) :
    (shadowedUsesAll hook true items).Perm (routeAll hook items).uses := by
  induction items with
  | nil => exact .refl _
  | cons item rest ih =>
    exact (h item List.mem_cons_self).append (ih fun other hother => h other (.tail _ hother))

/-- In a scope that rebinds the hook, the uses that are shadowed are those that routing replaces. -/
theorem shadowedUses_perm (hook : String) (n : Node) :
    (shadowedUses hook true n).Perm (route hook n).uses := by
  induction n using Node.induction with
  | absent => exact .refl _
  | many items ih => exact shadowedUsesAll_perm ih
  | node span form parts ih =>
    have hparts := shadowedUsesAll_perm ih
    rw [route]
    dsimp only
    rw [use?_routeAll]
    by_cases hswitch : form = .switchStatement ∧ ∃ discriminant cases, parts = [discriminant,cases]
    · obtain ⟨rfl,discriminant,cases,rfl⟩ := hswitch
      have hnone : use? (node span .switchStatement [discriminant,cases]) = none := rfl
      rw [shadowedUses_switch,Bool.true_or,hnone]
      simpa only [shadowedUsesAll,List.append_nil,Option.toList_none] using hparts
    · have hnot : ∀ discriminant cases, form = .switchStatement → parts ≠ [discriminant,cases] :=
        fun discriminant cases hform hparts => hswitch ⟨hform,discriminant,cases,hparts⟩
      rw [shadowedUses_node hnot,Bool.true_or,if_pos rfl]
      -- The analysis meets a use before the uses inside it, routing after them.
      exact (hparts.append_left _).trans List.perm_append_comm

end Node

namespace Program

section Wrapped

variable (options : Options) (s : Program)

theorem wrap_topLevelNames : (options.wrap s).topLevelNames = [] := rfl

theorem wrap_route_uses (hook : String) :
    ((options.wrap s).route hook).uses = (s.route hook).uses := by
  simp [Options.wrap,Options.asyncFunction,Options.parameter,Program.route,Node.routeAll,Node.route,
    Ident.pattern,use?]

theorem wrap_shadowedUses :
    (options.wrap s).shadowedUses options.importName =
      Node.shadowedUsesAll options.importName true s.body := by
  simp [Options.wrap,Options.asyncFunction,Options.parameter,Program.shadowedUses,
    Node.shadowedUsesAll,Node.shadowedUses,Ident.pattern,Ident.named,rebinds,bindsParameter,
    bindsPattern,bindsOwnName,Node.items,Node.boundIdents,namesIn,use?]

theorem wrap_shadowedUses_perm :
    ((options.wrap s).shadowedUses options.importName).Perm (s.route options.importName).uses := by
  rw [wrap_shadowedUses]
  exact Node.shadowedUsesAll_perm fun item _ => Node.shadowedUses_perm options.importName item

/-- A function around a script is refused as a module exactly if routing would replace some
expression of the script, and then since the hook is shadowed, at the places of just these
expressions. Else it is kept as it is, with `return {}` after it. -/
theorem wrap_toFunctionBody (hvalid : options.validate = .ok ()) :
    ((∃ e, ((options.wrap s).toFunctionBody options).result = .error e) ↔
      0 < (Router.visit ⟨options.importName,0⟩ s).2.replaced) ∧
    (0 < (Router.visit ⟨options.importName,0⟩ s).2.replaced →
      ((options.wrap s).toFunctionBody options).result =
        .error (.importNameShadowed options.importName)) ∧
    ((Router.visit ⟨options.importName,0⟩ s).2.replaced = 0 →
      (options.wrap s).toFunctionBody options =
        ⟨.ok ((options.wrap s).withReturns 1),[.finished 0 0 0]⟩) ∧
    ((options.wrap s).shadowedUses options.importName).Perm (s.route options.importName).uses := by
  let wrapped := options.wrap s
  have hperm := wrap_shadowedUses_perm options s
  have hreplaced : (Router.visit ⟨options.importName,0⟩ s).2.replaced =
      (wrapped.shadowedUses options.importName).length :=
    (Nat.zero_add _).trans hperm.length_eq.symm
  have htop : options.importName ∉ wrapped.topLevelNames := by
    rw [wrap_topLevelNames]
    exact List.not_mem_nil
  have hshadowed (hpos : 0 < (Router.visit ⟨options.importName,0⟩ s).2.replaced) :
      (wrapped.toFunctionBody options).result = .error (.importNameShadowed options.importName) := by
    rw [hreplaced] at hpos
    exact toFunctionBody_eq_shadowed.mpr ⟨hvalid,rfl,htop,List.ne_nil_of_length_pos hpos⟩
  have hkept (hzero : (Router.visit ⟨options.importName,0⟩ s).2.replaced = 0) :
      wrapped.toFunctionBody options = ⟨.ok (wrapped.withReturns 1),[.finished 0 0 0]⟩ := by
    have hnil : wrapped.shadowedUses options.importName = [] :=
      List.eq_nil_of_length_eq_zero (hreplaced.symm.trans hzero)
    have hunused : (wrapped.route options.importName).uses = [] := by
      rw [wrap_route_uses]
      exact List.nil_perm.mp (hnil ▸ hperm)
    have huseless : ∀ n ∈ wrapped.body, ¬ n.HasUse := by
      intro n hn huse
      refine (Node.hasUse_iff_uses_ne_nil options.importName (.many wrapped.body)).mp ?_ hunused
      exact Node.hasUse_many.mpr ⟨n,hn,huse⟩
    have hlower := lower_eq_withReturns rfl rfl huseless
      (List.forall_mem_singleton.mpr rfl) options.importName (.ofProgram wrapped options.importName)
    rw [toFunctionBody_of_clear hvalid htop hnil,hlower]
  refine ⟨⟨?_,fun hpos => ⟨_,hshadowed hpos⟩⟩,hshadowed,hkept,hperm⟩
  rintro ⟨e,he⟩
  by_contra hzero
  rw [hkept (Nat.eq_zero_of_not_pos hzero)] at he
  cases he

end Wrapped

/-- Two uses, one inside the other, are found under the parameter; an empty script is kept. -/
theorem nestedUses_wrapped :
    (({} : Options).wrap Router.nestedUses).shadowedUses "$import" =
      [.dynamicImport ⟨1,5⟩,.importMeta ⟨3,4⟩] ∧
    ((({} : Options).wrap Router.nestedUses).toFunctionBody {}).result =
      .error (.importNameShadowed "$import") ∧
    (({} : Options).wrap ⟨.script,⟨1,9⟩,[],none⟩).toFunctionBody {} =
      ⟨.ok ((({} : Options).wrap ⟨.script,⟨1,9⟩,[],none⟩).withReturns 1),[.finished 0 0 0]⟩ :=
  ⟨by decide,(wrap_toFunctionBody {} Router.nestedUses rfl).2.1 (by decide),
    (wrap_toFunctionBody {} ⟨.script,⟨1,9⟩,[],none⟩ rfl).2.2.1 rfl⟩

end Program
end AsyncBody
