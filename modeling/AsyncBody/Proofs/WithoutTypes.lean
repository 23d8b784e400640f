import AsyncBody.Proofs.ExportTable
import AsyncBody.Proofs.SecondLowering
import AsyncBody.Proofs.SuppliedNames
import Mathlib.Logic.Equiv.Basic

/-!
A program without its imports and exports of types. It is lowered to the same body, up to the fresh
names: with less spelled, other names are free, but as many are handed out and in the same places.
-/
namespace AsyncBody

open Hook Node NameSupply

namespace Node

/-- Whether an item is erased with the types: it imports or exports types alone, or it gives a name
to the module for scripts. -/
def isErased : Node → Bool
  | .node _ (.importDeclaration specifiers _ typeOnly _) [_] =>
    typeOnly || (! specifiers.isEmpty && specifiers.all (·.isType))
  | .node _ (.exportNamed specifiers source typeOnly) [_] =>
    typeOnly || (source.isSome && ! specifiers.isEmpty && specifiers.all (·.isType))
  | .node _ (.exportAll _ typeOnly) [_] => typeOnly
  | .node _ (.importEquals _ typeOnly _) [_] => typeOnly
  | .node _ (.exportAsNamespace _) _ => true
  | _ => false

def trimmed : Node → Node
  | .node span (.importDeclaration specifiers source typeOnly phase) [attributes] =>
    .node span (.importDeclaration (specifiers.filter (! ·.isType)) source typeOnly phase)
      [attributes]
  | .node span (.exportNamed specifiers source typeOnly) [attributes] =>
    .node span (.exportNamed (specifiers.filter (! ·.isType)) source typeOnly) [attributes]
  | item => item

/-- The second list of items is the first without some of what is erased with the types. -/
inductive Untyped : List Node → List Node → Prop where
  | nil : Untyped [] []
  | keep {n : Node} {ns ms : List Node} (rest : Untyped ns ms) : Untyped (n::ns) (n::ms)
  | trim {n : Node} {ns ms : List Node} (h : n.isErased = false) (rest : Untyped ns ms) :
      Untyped (n::ns) (n.trimmed::ms)
  | erase {n : Node} {ns ms : List Node} (h : n.isErased = true) (rest : Untyped ns ms) :
      Untyped (n::ns) ms

end Node

/-- The second program is the first without some of its imports and exports of types. -/
structure Program.Untyped (p q : Program) : Prop where
  span : q.span = p.span
  body : Node.Untyped p.body q.body

def Program.withoutTypes (p : Program) : Program :=
  { p with body := (p.body.filter (! ·.isErased)).map Node.trimmed }

theorem Node.untyped_filter (ns : List Node) :
    Node.Untyped ns ((ns.filter (! ·.isErased)).map Node.trimmed) := by
  induction ns with
  | nil => exact .nil
  | cons n rest ih =>
    cases h : n.isErased with
    | true =>
      rw [List.filter_cons_of_neg (by simp [h])]
      exact .erase h ih
    | false =>
      rw [List.filter_cons_of_pos (by simp [h])]
      exact .trim h ih

theorem Program.untyped_withoutTypes (p : Program) : p.Untyped p.withoutTypes :=
  ⟨rfl,Node.untyped_filter p.body⟩

namespace Node

theorem trimmed_cases (n : Node) : n.trimmed = n ∨
    (∃ span specifiers source typeOnly phase attributes,
      n = .node span (.importDeclaration specifiers source typeOnly phase) [attributes]) ∨
    ∃ span specifiers source typeOnly attributes,
      n = .node span (.exportNamed specifiers source typeOnly) [attributes] := by
  unfold trimmed
  split
  · exact .inr (.inl ⟨_,_,_,_,_,_,rfl⟩)
  · exact .inr (.inr ⟨_,_,_,_,_,rfl⟩)
  · exact .inl rfl

theorem collectedVars_trimmed (n : Node) : n.trimmed.collectedVars = n.collectedVars := by
  obtain h | ⟨_,_,_,_,_,_,rfl⟩ | ⟨_,_,_,_,_,rfl⟩ := n.trimmed_cases
  · rw [h]
  · rfl
  · rfl

theorem itemNames_trimmed (n : Node) : n.trimmed.itemNames ⊆ n.itemNames := by
  obtain h | ⟨_,specifiers,_,_,_,_,rfl⟩ | ⟨_,_,_,_,_,rfl⟩ := n.trimmed_cases
  · rw [h]
    exact List.Subset.refl _
  · exact List.map_subset _ (List.filter_subset_self ..)
  · exact List.Subset.refl _

theorem shadowedUses_trimmed (hook : String) (n : Node) :
    shadowedUses hook false n.trimmed = shadowedUses hook false n := by
  obtain h | ⟨_,_,_,_,_,_,rfl⟩ | ⟨_,_,_,_,_,rfl⟩ := n.trimmed_cases
  · rw [h]
  · rfl
  · rfl

theorem spelled_trimmed (n : Node) : n.trimmed.spelled ⊆ n.spelled := by
  have happend : ∀ {α : Type} (l : List α) (f : α → Bool) (g : α → List String) (rest : List String),
      (l.filter f).flatMap g ++ rest ⊆ l.flatMap g ++ rest := by
    intro α l f g rest x hx
    rcases List.mem_append.mp hx with hx | hx
    · obtain ⟨a,ha,hx⟩ := List.mem_flatMap.mp hx
      exact List.mem_append_left _ (List.mem_flatMap.mpr ⟨a,(List.mem_filter.mp ha).1,hx⟩)
    · exact List.mem_append_right _ hx
  obtain h | ⟨_,specifiers,_,_,_,_,rfl⟩ | ⟨_,_,_,_,_,rfl⟩ := n.trimmed_cases
  · rw [h]
    exact List.Subset.refl _
  · exact happend ..
  · exact happend ..

theorem freshBases_trimmed (n : Node) : n.trimmed.freshBases = n.freshBases := by
  obtain h | ⟨_,_,_,_,_,_,rfl⟩ | ⟨_,specifiers,source,typeOnly,_,rfl⟩ := n.trimmed_cases
  · rw [h]
  · rfl
  · cases source with
    | none => rfl
    | some source =>
      cases typeOnly with
      | true => rfl
      | false =>
        show ((specifiers.filter _).filter _).map _ = (specifiers.filter _).map _
        rw [List.filter_filter]
        simp

theorem freshBases_erased {n : Node} (h : n.isErased = true) : n.freshBases = [] := by
  unfold isErased at h
  split at h
  · rfl
  · rename_i specifiers source typeOnly _
    cases typeOnly with
    | true => cases source <;> rfl
    | false =>
      cases source with
      | none => rfl
      | some source =>
        show (specifiers.filter _).map _ = []
        rw [Lowering.filter_isType_eq_nil_iff.mpr (Bool.and_eq_true_iff.mp h).2]
        rfl
  · subst h
    rfl
  · rfl
  · rfl
  · cases h

theorem exists_dropEvent {n : Node} (h : n.isErased = true) :
    ∃ event, n.dropEvent = some event := by
  unfold isErased at h
  split at h
  · rename_i typeOnly _ _
    cases typeOnly with
    | true => exact ⟨_,rfl⟩
    | false =>
      rw [dropEvent,if_neg Bool.false_ne_true]
      exact ⟨_,if_pos h⟩
  · rename_i source typeOnly _
    cases typeOnly with
    | true => exact ⟨_,rfl⟩
    | false =>
      cases source with
      | none => cases h
      | some source =>
        rw [dropEvent,if_neg Bool.false_ne_true,Option.bind_some]
        exact ⟨_,if_pos h⟩
  · subst h
    exact ⟨_,rfl⟩
  · subst h
    exact ⟨_,rfl⟩
  · exact ⟨_,rfl⟩
  · cases h

theorem isErased_of_dropEvent {n : Node} {event : Event} (h : n.dropEvent = some event) :
    n.isErased = true := by
  unfold dropEvent at h
  split at h
  · rename_i typeOnly _ _
    cases typeOnly with
    | true => rfl
    | false =>
      rw [if_neg Bool.false_ne_true] at h
      split at h
      · assumption
      · cases h
  · rename_i source typeOnly _
    cases typeOnly with
    | true => rfl
    | false =>
      rw [if_neg Bool.false_ne_true] at h
      obtain ⟨source,rfl,h⟩ := Option.bind_eq_some_iff.mp h
      split at h
      · assumption
      · cases h
  · rfl
  · rfl
  · rfl
  · cases h

theorem not_all_filter {α : Type} (l : List α) (f : α → Bool) :
    (! (l.filter (! f ·)).isEmpty && (l.filter (! f ·)).all f) = false := by
  cases h : l.filter (! f ·) with
  | nil => rfl
  | cons a rest =>
    have ha : a ∈ l.filter (! f ·) := h ▸ List.mem_cons_self
    have hfalse : f a = false := by simpa using (List.mem_filter.mp ha).2
    simp [hfalse]

end Node

namespace Lowering

theorem loaded_filter (specifiers : List ImportSpecifier) :
    (specifiers.filter (! ·.isType)).filterMap ImportSpecifier.loaded =
      specifiers.filterMap ImportSpecifier.loaded := by
  rw [List.filterMap_filter]
  refine List.filterMap_congr fun specifier _ => ?_
  cases h : specifier.isType with
  | true => exact ((ImportSpecifier.loaded_eq_none_iff specifier).mpr h).symm
  | false => rfl

theorem localExport_type {specifier : ExportSpecifier} (h : specifier.isType = true) :
    localExport specifier = none := by
  unfold localExport
  split
  · cases h
  · rfl

theorem localExport_filter (specifiers : List ExportSpecifier) :
    (specifiers.filter (! ·.isType)).filterMap localExport = specifiers.filterMap localExport := by
  rw [List.filterMap_filter]
  refine List.filterMap_congr fun specifier _ => ?_
  cases h : specifier.isType with
  | true => exact (localExport_type h).symm
  | false => rfl

theorem Loads.trimmed {n : Node} {names : List String} {m : ModuleLoad} (h : Loads n names m) :
    Loads n.trimmed names m := by
  cases h with
  | @imported span specifiers source phase attributes =>
    have htrimmed : Loads (Node.node span (.importDeclaration specifiers source false phase)
        [attributes]).trimmed [] _ := .imported (not_all_filter specifiers (·.isType))
    rw [loaded_filter] at htrimmed
    exact htrimmed
  | @reexported span specifiers source attributes names _ hlength =>
    have hfilter : (specifiers.filter (! ·.isType)).filter (! ·.isType) =
        specifiers.filter (! ·.isType) := by
      rw [List.filter_filter]
      simp
    rw [← hfilter] at hlength
    have htrimmed : Loads (Node.node span (.exportNamed specifiers (some source) false)
        [attributes]).trimmed names _ := .reexported (not_all_filter specifiers (·.isType)) hlength
    rw [hfilter] at htrimmed
    exact htrimmed
  | star => exact .star

/-- An item that is not erased becomes the same without its specifiers of types. -/
theorem Lowers.trimmed {hook : String} {n : Node} {names : List String} {l : Lowered}
    (h : Lowers hook n names l) (hkept : n.isErased = false) : Lowers hook n.trimmed names l := by
  obtain htrimmed | ⟨span,specifiers,source,typeOnly,phase,attributes,rfl⟩ |
    ⟨span,specifiers,source,typeOnly,attributes,rfl⟩ := n.trimmed_cases
  · rw [htrimmed]
    exact h
  · cases h with
    | kept h => cases h
    | dropped h => cases hkept.symm.trans (isErased_of_dropEvent h)
    | loaded h => exact .loaded h.trimmed
  · cases h with
    | kept h => cases h
    | dropped h => cases hkept.symm.trans (isErased_of_dropEvent h)
    | loaded h => exact .loaded h.trimmed
    | listed =>
      rw [← localExport_filter]
      exact .listed

theorem item_trimmed (hook : String) {n : Node} (h : n.isErased = false) (s : NameSupply) :
    item hook (route hook n.trimmed).result s = item hook (route hook n).result s := by
  have htrimmed := (item_lowers hook n s).trimmed h
  rw [← freshBases_trimmed] at htrimmed
  refine Prod.ext ((item_lowers hook n.trimmed s).unique htrimmed) ?_
  rw [item_supply,item_supply,freshBases_trimmed]

theorem item_erased (hook : String) {n : Node} (h : n.isErased = true) (s : NameSupply) :
    ∃ event, item hook (route hook n).result s = (.dropped event,s) := by
  obtain ⟨event,hevent⟩ := exists_dropEvent h
  refine ⟨event,Prod.ext ((item_lowers hook n s).eq_dropped hevent) ?_⟩
  rw [item_supply,freshBases_erased h]
  rfl

end Lowering

namespace Node

theorem isElided_of_isErased {n : Node} (h : n.isErased = true) :
    n.isElided = true ∨ n.moduleRequest = none := by
  unfold isErased at h
  split at h
  · exact .inl h
  · rename_i specifiers source typeOnly _
    cases source with
    | none => exact .inr rfl
    | some source => exact .inl h
  · exact .inl h
  · exact .inl h
  · exact .inr rfl
  · cases h

theorem request_trimmed {n : Node} (h : n.isErased = false) :
    (if ! n.trimmed.isElided then n.trimmed.moduleRequest else none) =
      if ! n.isElided then n.moduleRequest else none := by
  obtain htrimmed | ⟨span,specifiers,source,typeOnly,phase,attributes,rfl⟩ |
    ⟨span,specifiers,source,typeOnly,attributes,rfl⟩ := n.trimmed_cases
  · rw [htrimmed]
  · obtain ⟨rfl,-⟩ := Bool.or_eq_false_iff.mp h
    have hkept : isElided (.node span (.importDeclaration specifiers source false phase)
      [attributes]) = false := h
    have hvalues : isElided (trimmed <| .node span (.importDeclaration specifiers source false phase)
      [attributes]) = false := not_all_filter specifiers (·.isType)
    rw [hkept,hvalues]
    rfl
  · obtain ⟨rfl,-⟩ := Bool.or_eq_false_iff.mp h
    cases source with
    | none => exact (ite_self none).trans (ite_self none).symm
    | some source =>
      have hkept : isElided (.node span (.exportNamed specifiers (some source) false)
        [attributes]) = false := h
      have hvalues : isElided (trimmed <| .node span (.exportNamed specifiers (some source) false)
        [attributes]) = false := not_all_filter specifiers (·.isType)
      rw [hkept,hvalues]
      rfl

namespace Untyped

variable {ns ms : List Node}

theorem exists_of_mem (h : Untyped ns ms) {m : Node} (hm : m ∈ ms) :
    ∃ n ∈ ns, m = n ∨ m = n.trimmed := by
  induction h with
  | nil => cases hm
  | @keep n _ _ _ ih =>
    rcases List.mem_cons.mp hm with rfl | hm
    · exact ⟨_,List.mem_cons_self,.inl rfl⟩
    · obtain ⟨n,hn,hcases⟩ := ih hm
      exact ⟨n,.tail _ hn,hcases⟩
  | @trim n _ _ _ _ ih =>
    rcases List.mem_cons.mp hm with rfl | hm
    · exact ⟨n,List.mem_cons_self,.inr rfl⟩
    · obtain ⟨n,hn,hcases⟩ := ih hm
      exact ⟨n,.tail _ hn,hcases⟩
  | erase _ _ ih =>
    obtain ⟨n,hn,hcases⟩ := ih hm
    exact ⟨n,.tail _ hn,hcases⟩

theorem flatMap_subset {α : Type} {f : Node → List α} (hf : ∀ n : Node, f n.trimmed ⊆ f n)
    (h : Untyped ns ms) : ms.flatMap f ⊆ ns.flatMap f := by
  intro x hx
  obtain ⟨m,hm,hx⟩ := List.mem_flatMap.mp hx
  obtain ⟨n,hn,rfl | rfl⟩ := h.exists_of_mem hm
  · exact List.mem_flatMap.mpr ⟨m,hn,hx⟩
  · exact List.mem_flatMap.mpr ⟨n,hn,hf n hx⟩

theorem filterMap_eq {α : Type} {f : Node → Option α}
    (htrimmed : ∀ n : Node, n.isErased = false → f n.trimmed = f n)
    (herased : ∀ n : Node, n.isErased = true → f n = none) (h : Untyped ns ms) :
    ms.filterMap f = ns.filterMap f := by
  induction h with
  | nil => rfl
  | keep _ ih => rw [List.filterMap_cons,List.filterMap_cons,ih]
  | trim hkept _ ih => rw [List.filterMap_cons,List.filterMap_cons,ih,htrimmed _ hkept]
  | erase h _ ih => rw [ih,List.filterMap_cons_none (herased _ h)]

theorem freshBases (h : Untyped ns ms) : ms.flatMap Node.freshBases = ns.flatMap Node.freshBases := by
  induction h with
  | nil => rfl
  | keep _ ih => rw [List.flatMap_cons,List.flatMap_cons,ih]
  | trim _ _ ih => rw [List.flatMap_cons,List.flatMap_cons,ih,freshBases_trimmed]
  | erase h _ ih => rw [ih,List.flatMap_cons,freshBases_erased h,List.nil_append]

theorem items_flatMap (hook : String) {α : Type} {f : Lowering.Lowered → List α}
    (hf : ∀ event, f (.dropped event) = []) (h : Untyped ns ms) (s : NameSupply) :
    (Lowering.items hook (routeAll hook ms).result s).1.flatMap f =
      (Lowering.items hook (routeAll hook ns).result s).1.flatMap f := by
  have hcons : ∀ (n : Node) (rest : List Node) (s : NameSupply),
      (Lowering.items hook (routeAll hook (n::rest)).result s).1.flatMap f =
        f (Lowering.item hook (route hook n).result s).1 ++
          (Lowering.items hook (routeAll hook rest).result
            (Lowering.item hook (route hook n).result s).2).1.flatMap f := fun _ _ _ => rfl
  induction h generalizing s with
  | nil => rfl
  | keep _ ih => rw [hcons,hcons,ih]
  | trim hkept _ ih => rw [hcons,hcons,ih,Lowering.item_trimmed hook hkept]
  | erase herased _ ih =>
    obtain ⟨event,hitem⟩ := Lowering.item_erased hook herased s
    rw [hcons,hitem,hf event,ih,List.nil_append]

end Untyped

end Node

def Holding.rename (ρ : String → String) : Holding → Holding
  | .named exported held => .named exported (ρ held)
  | .star held => .star (ρ held)

theorem Export.holding_retouch (ρ : String → String) (hρ : Function.Injective ρ) (e : Export) :
    (e.retouch (.rename ρ hρ)).holding = e.holding.rename ρ := by
  cases e with
  | named exported value => cases exported <;> rfl
  | spread => rfl

/-- Two lists of different names, of the same length, are renamed into each other by a permutation
of the names in them. -/
theorem exists_perm_map_eq {as bs : List String} (ha : as.Nodup) (hb : bs.Nodup)
    (hlength : as.length = bs.length) :
    ∃ ρ : Equiv.Perm String, as.map ρ = bs ∧ ∀ x, x ∉ as → x ∉ bs → ρ x = x := by
  induction as generalizing bs with
  | nil =>
    obtain rfl := List.eq_nil_of_length_eq_zero hlength.symm
    exact ⟨Equiv.refl String,rfl,fun _ _ _ => rfl⟩
  | cons a as ih =>
    cases bs with
    | nil => cases hlength
    | cons b bs =>
      obtain ⟨ha,has⟩ := List.nodup_cons.mp ha
      obtain ⟨hb,hbs⟩ := List.nodup_cons.mp hb
      obtain ⟨ρ,hmap,hfix⟩ := ih has hbs (Nat.succ.inj hlength)
      -- What the permutation of the rest makes of the first name is exchanged with its new name.
      refine ⟨ρ.trans (Equiv.swap (ρ a) b),?_,fun x hxa hxb => ?_⟩
      · have hrest : as.map (ρ.trans (Equiv.swap (ρ a) b)) = as.map ρ := by
          refine List.map_congr_left fun x hx => Equiv.swap_apply_of_ne_of_ne ?_ ?_
          · exact fun h => ha (ρ.injective h ▸ hx)
          · exact fun h => hb (hmap ▸ h ▸ List.mem_map_of_mem hx)
        rw [List.map_cons,hrest,hmap,Equiv.trans_apply,Equiv.swap_apply_left]
      · have hx : ρ x = x := hfix x (fun h => hxa (.tail _ h)) fun h => hxb (.tail _ h)
        rw [Equiv.trans_apply,hx]
        refine Equiv.swap_apply_of_ne_of_ne (fun h => hxa ?_) fun h => hxb (h ▸ List.mem_cons_self)
        rw [← hx] at h
        exact ρ.injective h ▸ List.mem_cons_self

namespace Program

open Lowering

def exportTable (hook : String) (p : Program) : List Export :=
  (items hook (p.route hook).result.body (.ofProgram p hook)).1.flatMap (·.exports)

theorem supplyAfter_eq (hook : String) (p : Program) :
    p.supplyAfter hook = ((NameSupply.ofProgram p hook).draw p.freshBases).2 :=
  items_supply hook p.body (.ofProgram p hook)

namespace Untyped

variable {p q : Program}

theorem spelled (h : p.Untyped q) : spelledAll q.body ⊆ spelledAll p.body := by
  rw [spelledAll_eq,spelledAll_eq]
  exact h.body.flatMap_subset spelled_trimmed

theorem topLevelNames (h : p.Untyped q) : q.topLevelNames ⊆ p.topLevelNames := by
  have hcollected : collectedVarsAll q.body ⊆ collectedVarsAll p.body := by
    rw [collectedVarsAll_eq,collectedVarsAll_eq]
    exact h.body.flatMap_subset fun n => (n.collectedVars_trimmed ▸ List.Subset.refl _)
  intro x hx
  rcases List.mem_append.mp hx with hx | hx
  · exact List.mem_append_left _ (hcollected hx)
  · exact List.mem_append_right _ (h.body.flatMap_subset itemNames_trimmed hx)

theorem shadowedUses {hook : String} (h : p.Untyped q) (hnone : p.shadowedUses hook = []) :
    q.shadowedUses hook = [] := by
  have hitems := shadowedUsesAll_eq_nil.mp hnone
  refine shadowedUsesAll_eq_nil.mpr fun m hm => ?_
  obtain ⟨n,hn,rfl | rfl⟩ := h.body.exists_of_mem hm
  · exact hitems m hn
  · rw [shadowedUses_trimmed]
    exact hitems n hn

theorem moduleRequests (h : p.Untyped q) : q.moduleRequests = p.moduleRequests := by
  rw [Program.moduleRequests,Program.moduleRequests,List.filterMap_filter,List.filterMap_filter]
  refine h.body.filterMap_eq (fun n => request_trimmed) fun n herased => ?_
  rcases isElided_of_isErased herased with helided | hnone
  · rw [helided]
    rfl
  · rw [hnone]
    exact ite_self none

theorem exports (h : p.Untyped q) (hook : String) (s : NameSupply) :
    (items hook (routeAll hook q.body).result s).1.flatMap (·.exports) =
      (items hook (routeAll hook p.body).result s).1.flatMap (·.exports) :=
  h.body.items_flatMap hook (fun _ => rfl) s

/-- With the same names taken, types make no difference. -/
theorem lower_eq (h : p.Untyped q) (hook : String) (s : NameSupply) :
    (q.lower hook s).result = (p.lower hook s).result := by
  have hstatements := h.body.items_flatMap hook (f := (·.statement.toList)) (fun _ => rfl) s
  rw [← List.filterMap_eq_flatMap_toList,← List.filterMap_eq_flatMap_toList] at hstatements
  rw [lower_eq_assemble,lower_eq_assemble,← routeAll_result,← routeAll_result]
  simp only [assemble,hstatements,h.exports hook s,h.span]

/-- With other fresh names, the second program exports the same, with those in their place. -/
theorem exportTable_retouch {hook : String} {τ : Retouch} (h : p.Untyped q)
    (hitems : (items hook (routeAll hook q.body).result (.ofProgram q hook)).1 =
      (items hook (routeAll hook q.body).result (.ofProgram p hook)).1.map (·.retouch τ)) :
    q.exportTable hook = (p.exportTable hook).map (·.retouch τ) := by
  let s := NameSupply.ofProgram p hook
  calc
    q.exportTable hook =
        (items hook (routeAll hook q.body).result (.ofProgram q hook)).1.flatMap (·.exports) := rfl
    _ = (items hook (routeAll hook q.body).result s).1.flatMap
        fun l => l.exports.map (·.retouch τ) := by
      rw [hitems,List.flatMap_map]
      rfl
    _ = ((items hook (routeAll hook q.body).result s).1.flatMap (·.exports)).map (·.retouch τ) :=
      List.map_flatMap.symm
    _ = (p.exportTable hook).map (·.retouch τ) := by
      rw [h.exports]
      rfl

theorem freshBases (h : p.Untyped q) : q.freshBases = p.freshBases := h.body.freshBases

/-- The fresh names for the two programs are renamed into each other. No name that the second
program spells is, and none without an underscore at its start. -/
theorem exists_rename (h : p.Untyped q) (hook : String) :
    ∃ ρ : Equiv.Perm String,
      ((NameSupply.ofProgram q hook).draw q.freshBases).1 =
        ((NameSupply.ofProgram p hook).draw p.freshBases).1.map ρ ∧
      (∀ x, x ∉ ((NameSupply.ofProgram p hook).draw p.freshBases).1 →
        x ∉ ((NameSupply.ofProgram q hook).draw q.freshBases).1 → ρ x = x) ∧
      (∀ x ∈ hook :: spelledAll q.body, ρ x = x) ∧ ∀ x, ¬ IsSynthetic x → ρ x = x := by
  let s := NameSupply.ofProgram p hook
  let t := NameSupply.ofProgram q hook
  have hs := draw_draws p.freshBases s
  have ht := draw_draws q.freshBases t
  have hlength : (s.draw p.freshBases).1.length = (t.draw q.freshBases).1.length := by
    rw [draw_length,draw_length,h.freshBases]
  obtain ⟨ρ,hmap,hfix⟩ := exists_perm_map_eq hs.nodup ht.nodup hlength
  refine ⟨ρ,hmap.symm,hfix,fun x hx => ?_,fun x hx => ?_⟩
  · have htaken : x ∈ s.taken := (List.mem_cons.mp hx).elim (· ▸ List.mem_cons_self) fun hx =>
      .tail _ (h.spelled hx)
    exact hfix x (fun hname => hs.not_mem_taken x hname htaken) fun hname =>
      ht.not_mem_taken x hname hx
  · exact hfix x (fun hname => hx (draw_synthetic _ s x hname)) fun hname =>
      hx (draw_synthetic _ t x hname)

end Untyped

/-- A program that is accepted is also accepted without imports and exports of types. Its body is
the same then but for the fresh names, which are renamed one to one: it has the same statements,
loads the same modules, and exports the same names in the same order. -/
theorem toFunctionBody_untyped (options : Options) (p q body : Program) (h : p.Untyped q)
    (hok : (p.toFunctionBody options).result = .ok body) :
    ∃ (ρ : Equiv.Perm String) (names : List String),
      (q.toFunctionBody options).result = .ok (body.retouch (.rename ρ ρ.injective)) ∧
      (p.supplyAfter options.importName).taken =
        names.reverse ++ (NameSupply.ofProgram p options.importName).taken ∧
      (q.supplyAfter options.importName).taken =
        (names.map ρ).reverse ++ (NameSupply.ofProgram q options.importName).taken ∧
      (∀ x, x ∉ names → x ∉ names.map ρ → ρ x = x) ∧
      (∀ x ∈ options.importName :: spelledAll q.body, ρ x = x) ∧
      body.body.getLast? =
        some (Export.returnStatement p.span (p.exportTable options.importName)) ∧
      (body.retouch (.rename ρ ρ.injective)).body.getLast? =
        some (Export.returnStatement q.span (q.exportTable options.importName)) ∧
      (q.exportTable options.importName).map Export.holding =
        (p.exportTable options.importName).map (·.holding.rename ρ) ∧
      q.moduleRequests = p.moduleRequests := by
  obtain ⟨hvalid,htop,huses,rfl⟩ := toFunctionBody_eq_ok.mp hok
  let hook := options.importName
  let s := NameSupply.ofProgram p hook
  let t := NameSupply.ofProgram q hook
  obtain ⟨ρ,hnames,hfix,hkept,hplain⟩ := h.exists_rename hook
  let τ : Retouch := .rename ρ ρ.injective
  have hspelled : ∀ x ∈ spelledAll q.body, τ.Keeps x := fun x hx => hkept x (.tail _ hx)
  have hdraw : (t.draw q.freshBases).1 = (s.draw q.freshBases).1.map τ.name := by
    rw [hnames,h.freshBases]
    rfl
  have hlower : (q.lower hook t).result = (p.lower hook s).result.retouch τ := by
    rw [lower_retouch (τ := τ) rfl (hkept hook List.mem_cons_self) (hplain "default" (by decide))
      hspelled hdraw,h.lower_eq]
  have htable : q.exportTable hook = (p.exportTable hook).map (·.retouch τ) :=
    h.exportTable_retouch
      (items_retouch (τ := τ) rfl (hkept hook List.mem_cons_self) hspelled hdraw)
  refine ⟨ρ,(s.draw p.freshBases).1,?_,?_,?_,?_,hkept,?_,?_,?_,h.moduleRequests⟩
  · rw [toFunctionBody_of_clear hvalid (fun hmem => htop (h.topLevelNames hmem))
      (h.shadowedUses huses)]
    exact congrArg Except.ok hlower
  · rw [supplyAfter_eq,(draw_draws p.freshBases s).taken_eq]
  · rw [supplyAfter_eq,(draw_draws q.freshBases t).taken_eq,hnames]
  · rw [← hnames]
    exact hfix
  · rw [lower_body]
    exact List.getLast?_concat
  · rw [← hlower,lower_body]
    exact List.getLast?_concat
  · rw [htable,List.map_map]
    exact List.map_congr_left fun e _ => Export.holding_retouch ρ ρ.injective e

/-- A type that is imported as `_default`, types beside values in an import and in a list of
re-exports, a list of re-exports with types only, a name for scripts, and a default export. -/
def typedItems : Program :=
  let id (name : String) : Ident := .named name .nowhere
  let module (name : String) : StringLiteral := .plain name .nowhere
  let type (name : String) : ExportSpecifier := .named .nowhere (.ident (id name)) none true
  ⟨.module,.nowhere,
    [ .node .nowhere (.importDeclaration [.default .nowhere (id "_default")] (module "t") true
        .evaluation) [.absent],
      .node .nowhere (.importDeclaration [.named .nowhere (id "T") none true,
        .named .nowhere (id "x") none false] (module "m") false .evaluation) [.absent],
      .node .nowhere (.exportNamed [type "_y",.named .nowhere (.ident (id "y")) none false]
        (some (module "n")) false) [.absent],
      .node .nowhere (.exportNamed [type "V"] (some (module "v")) false) [.absent],
      .node .nowhere (.exportAsNamespace (id "Typed")) [],
      .node .nowhere .exportDefaultExpression [(id "x").reference] ],none⟩

theorem typedItems_untyped :
    ∃ body, (typedItems.toFunctionBody {}).result = .ok body ∧
      body.body.flatMap Node.declared = [(.lexical,"x"),(.lexical,"_y1"),(.lexical,"_default1")] ∧
      typedItems.withoutTypes.body.length = 3 ∧
      ∃ ρ : Equiv.Perm String,
        (typedItems.withoutTypes.toFunctionBody {}).result =
          .ok (body.retouch (.rename ρ ρ.injective)) ∧
        ρ "x" = "x" ∧ ρ "_y1" = "_y" ∧ ρ "_default1" = "_default" := by
  let body := (typedItems.lower "$import" (.ofProgram typedItems "$import")).result
  have hok : (typedItems.toFunctionBody {}).result = .ok body :=
    toFunctionBody_eq_ok.mpr ⟨rfl,by decide,by decide,rfl⟩
  obtain ⟨ρ,names,hlowered,htaken,htaken',-,hkept,-⟩ :=
    toFunctionBody_untyped {} typedItems typedItems.withoutTypes body
      typedItems.untyped_withoutTypes hok
  have hnames : names.reverse = ["_default1","_y1"] := by
    refine List.append_cancel_right (htaken.symm.trans ?_)
    decide +kernel
  have hrenamed : (names.map ρ).reverse = ["_default","_y"] := by
    refine List.append_cancel_right (htaken'.symm.trans ?_)
    decide +kernel
  rw [← List.map_reverse,hnames] at hrenamed
  obtain ⟨hdefault,hrest⟩ := List.cons_eq_cons.mp hrenamed
  refine ⟨body,hok,by decide +kernel,by decide,ρ,hlowered,hkept "x" ?_,?_,hdefault⟩
  · decide
  · exact List.singleton_inj.mp hrest

end Program

end AsyncBody
