import AsyncBody.Proofs.SecondLowering
import AsyncBody.Proofs.SuppliedNames

/-!
Exports written at length: a declaration, or an import of what is exported again, followed by a list
of its names. A program is lowered to the same body with the longer form, up to places.
-/
namespace AsyncBody

open Hook Node NameSupply Lowering

theorem Ident.name_eq_of_unplace {i j : Ident} (h : i.retouch .unplace = j.retouch .unplace) :
    i.name = j.name := by
  have hname : (i.retouch .unplace).name = (j.retouch .unplace).name := congrArg Ident.name h
  exact hname

theorem ExportName.names_eq_of_unplace {a b : ExportName}
    (h : a.retouch .unplace = b.retouch .unplace) :
    a.idents.map (·.name) = b.idents.map (·.name) := by
  have hretouched : ∀ c : ExportName,
      (c.retouch .unplace).idents.map (·.name) = c.idents.map (·.name) := fun c => by cases c <;> rfl
  rw [← hretouched a,← hretouched b]
  exact congrArg (fun c : ExportName => c.idents.map (·.name)) h

def Node.localList (span : Span) (specifiers : List ExportSpecifier) : Node :=
  .node span (.exportNamed specifiers none false) [.absent]

/-- A specifier of a local list names an identifier, to be exported under its own name. -/
inductive ExportSpecifier.Lists : Ident → ExportSpecifier → Prop where
  | intro {i j : Ident} {span : Span} (h : j.retouch .unplace = i.retouch .unplace) :
      Lists i (.named span (.ident j) none false)

/-- A specifier with a source is split in two, around a local: one imports into the local what the
other exports again. -/
inductive ExportSpecifier.Split (name : String) :
    ExportSpecifier → ImportSpecifier → ExportSpecifier → Prop where
  | named {span place at_ a b : Span} {inner imported listed : ExportName}
      {exported : Option ExportName} (himported : imported.retouch .unplace = inner.retouch .unplace)
      (hlisted : listed.retouch .unplace = (exported.getD inner).retouch .unplace) :
      Split name (.named span inner exported false)
        (.named place (.named name a) (some imported) false)
        (.named at_ (.ident (.named name b)) (some listed) false)
  | whole {span place at_ a b : Span} {exported listed : ExportName}
      (hlisted : listed.retouch .unplace = exported.retouch .unplace) :
      Split name (.whole span exported) (.whole place (.named name a))
        (.named at_ (.ident (.named name b)) (some listed) false)
  | default {place at_ a b : Span} {exported : Ident} {listed : ExportName}
      (hlisted : listed.retouch .unplace = (ExportName.ident exported).retouch .unplace) :
      Split name (.default exported) (.default place (.named name a))
        (.named at_ (.ident (.named name b)) (some listed) false)

inductive ExportSpecifier.Splits :
    List ExportSpecifier → List String → List ImportSpecifier → List ExportSpecifier → Prop where
  | nil : Splits [] [] [] []
  | cons {specifier listed : ExportSpecifier} {name : String} {imported : ImportSpecifier}
      {specifiers list : List ExportSpecifier} {names : List String} {imports : List ImportSpecifier}
      (first : Split name specifier imported listed) (rest : Splits specifiers names imports list) :
      Splits (specifier::specifiers) (name::names) (imported::imports) (listed::list)

/-- `Longer hook s item longer`: the longer form of an export that is lowered with the names of `s`
taken. A re-export imports into the locals that it is lowered with. -/
inductive Node.Longer (hook : String) (s : NameSupply) : Node → List Node → Prop where
  | declaration {span place : Span} {declaration : Node} {list : List ExportSpecifier}
      (hdeclaration : declaration.isDeclaration = true) (hvalue : declaration.leavesValue = true)
      (h : List.Forall₂ ExportSpecifier.Lists declaration.declaredIdents list) :
      Longer hook s (.node span .exportDeclaration [declaration]) [declaration,localList place list]
  | default {span place a b : Span} {declaration : Node} {f g i : Ident}
      (hname : declaration.ownName = some f) (hg : g.retouch .unplace = f.retouch .unplace)
      (hi : i.retouch .unplace = f.retouch .unplace) :
      Longer hook s (.node span .exportDefaultDeclaration [declaration])
        [namedAs g declaration,
          localList place [.named a (.ident i) (some (.ident (.named "default" b))) false]]
  | reexport {span at_ place : Span} {specifiers list : List ExportSpecifier} {names : List String}
      {imports : List ImportSpecifier} {source source' : StringLiteral} {attributes : Node}
      (hnames : (item hook (route hook (.node span (.exportNamed specifiers (some source) false)
        [attributes])).result s).1.exports.map (·.value.name) = names)
      (h : ExportSpecifier.Splits specifiers names imports list)
      (hsource : source'.retouch .unplace = source.retouch .unplace) :
      Longer hook s (.node span (.exportNamed specifiers (some source) false) [attributes])
        [.node at_ (.importDeclaration imports source' false .evaluation) [attributes],
          localList place list]

/-- What a list of items becomes in the place of one that is lowered with the names of `s` taken: it
spells the fresh names itself, and otherwise binds and becomes the same. -/
structure Node.Replaces (hook : String) (s : NameSupply) (n : Node) (longer : List Node) : Prop where
  bases : longer.flatMap freshBases = []
  spelled : ∀ x, IsSynthetic x →
    (x ∈ spelledAll longer ↔ x ∈ n.spelled ∨ x ∈ (s.draw n.freshBases).1)
  names : longer.flatMap itemNames ⊆ n.itemNames ++ (s.draw n.freshBases).1
  collected : longer.flatMap collectedVars = n.collectedVars
  uses : hook ∉ n.itemNames → shadowedUses hook false n = [] →
    ∀ item ∈ longer, shadowedUses hook false item = []
  statements : ∀ t, ((Lowering.items hook (routeAll hook longer).result t).1.filterMap
    (·.statement)).map (·.retouch .unplace) =
      (item hook (route hook n).result s).1.statement.toList.map (·.retouch .unplace)
  exports : ∀ t, ((Lowering.items hook (routeAll hook longer).result t).1.flatMap (·.exports)).map
    (·.retouch .unplace) =
      (item hook (route hook n).result s).1.exports.map (·.retouch .unplace)

theorem Lowering.items_append (hook : String) (ns ms : List Node) (s : NameSupply) :
    (items hook (routeAll hook (ns++ms)).result s).1 =
      (items hook (routeAll hook ns).result s).1 ++
        (items hook (routeAll hook ms).result (s.draw (ns.flatMap freshBases)).2).1 := by
  induction ns generalizing s with
  | nil => rfl
  | cons n rest ih =>
    rw [List.flatMap_cons,draw_append,← item_supply hook n s]
    exact congrArg _ (ih _)

theorem Program.assemble_unplace {ls ks : List Lowered} {span : Span}
    (hstatements : (ks.filterMap (·.statement)).map (·.retouch .unplace) =
      (ls.filterMap (·.statement)).map (·.retouch .unplace))
    (hexports : (ks.flatMap (·.exports)).map (·.retouch .unplace) =
      (ls.flatMap (·.exports)).map (·.retouch .unplace)) (uses uses' : List HookUse) :
    (assemble span uses ks).result.retouch .unplace =
      (assemble span uses' ls).result.retouch .unplace := by
  have hreturn : ∀ table : List Export, (Export.returnStatement span table).retouch .unplace =
      Export.returnStatement .nowhere (table.map (·.retouch .unplace)) := fun table =>
    Export.returnStatement_retouch (fun e _ => by cases e; exacts [fun _ _ => rfl,trivial]) span
  simp only [assemble,Program.retouch,retouchAll_eq,List.map_append,List.map_singleton,hreturn,
    hstatements,hexports]

section Replaced

variable {hook : String} {p q : Program} {before longer after : List Node} {n : Node}
  (hp : p.body = before ++ n::after) (hq : q.body = before ++ (longer++after))
  (h : n.Replaces hook ((NameSupply.ofProgram p hook).draw (before.flatMap freshBases)).2 longer)

include hp hq h

namespace Node.Replaces

theorem mem_taken {x : String} (hx : IsSynthetic x) :
    x ∈ (NameSupply.ofProgram q hook).taken ↔ x ∈ (NameSupply.ofProgram p hook).taken ∨
      x ∈ (((NameSupply.ofProgram p hook).draw (before.flatMap freshBases)).2.draw
        n.freshBases).1 := by
  have hlonger := h.spelled x hx
  rw [spelledAll_eq] at hlonger
  simp only [NameSupply.ofProgram,List.mem_cons,hp,hq,spelledAll_eq,List.flatMap_append,
    List.flatMap_cons,List.mem_append,hlonger]
  tauto

/-- The items before are given the same names: those of the item were free for them, and not the
first to be. -/
theorem draw_before :
    ((NameSupply.ofProgram q hook).draw (before.flatMap freshBases)).1 =
      ((NameSupply.ofProgram p hook).draw (before.flatMap freshBases)).1 := by
  have hfirst := draw_draws (before.flatMap freshBases) (NameSupply.ofProgram p hook)
  refine draw_eq_of (fun x hx hmem => (h.mem_taken hp hq hx).mpr (.inl hmem)) fun x hmem htaken => ?_
  have hx := draw_synthetic _ _ x hmem
  rcases (h.mem_taken hp hq hx).mp htaken with htaken | hname
  · exact hfirst.not_mem_taken x hmem htaken
  · refine (draw_draws n.freshBases _).not_mem_taken x hname ?_
    rw [hfirst.taken_eq]
    exact List.mem_append_left _ (List.mem_reverse.mpr hmem)

theorem draw_after (bases : List String) :
    (((NameSupply.ofProgram q hook).draw (before.flatMap freshBases)).2.draw bases).1 =
      ((((NameSupply.ofProgram p hook).draw (before.flatMap freshBases)).2.draw
        n.freshBases).2.draw bases).1 := by
  refine draw_eq_of_iff (fun x hx => ?_) bases
  rw [(draw_draws n.freshBases _).taken_eq,(draw_draws _ (NameSupply.ofProgram q hook)).taken_eq,
    h.draw_before hp hq,List.mem_append,List.mem_append,h.mem_taken hp hq hx,
    (draw_draws _ (NameSupply.ofProgram p hook)).taken_eq,List.mem_append,List.mem_reverse,
    List.mem_reverse]
  tauto

theorem lower_unplace (hspan : q.span = p.span) :
    (q.lower hook (.ofProgram q hook)).result.retouch .unplace =
      (p.lower hook (.ofProgram p hook)).result.retouch .unplace := by
  let s := NameSupply.ofProgram p hook
  let t := NameSupply.ofProgram q hook
  let s' := (s.draw (before.flatMap freshBases)).2
  let t' := (t.draw (before.flatMap freshBases)).2
  have hbefore : (Lowering.items hook (routeAll hook before).result t).1 =
      (Lowering.items hook (routeAll hook before).result s).1 := items_eq_of_draw (h.draw_before hp hq)
  have hafter : (Lowering.items hook (routeAll hook after).result t').1 =
      (Lowering.items hook (routeAll hook after).result (s'.draw n.freshBases).2).1 :=
    items_eq_of_draw (h.draw_after hp hq _)
  have hps : (Lowering.items hook (routeAll hook p.body).result s).1 =
      (Lowering.items hook (routeAll hook before).result s).1 ++
        (item hook (route hook n).result s').1 ::
          (Lowering.items hook (routeAll hook after).result (s'.draw n.freshBases).2).1 := by
    rw [hp,items_append,← item_supply hook n s']
    rfl
  have hqs : (Lowering.items hook (routeAll hook q.body).result t).1 =
      (Lowering.items hook (routeAll hook before).result s).1 ++
        ((Lowering.items hook (routeAll hook longer).result t').1 ++
          (Lowering.items hook (routeAll hook after).result (s'.draw n.freshBases).2).1) := by
    rw [hq,items_append,hbefore,items_append,h.bases,← hafter]
    rfl
  rw [Program.lower_eq_assemble,Program.lower_eq_assemble,← routeAll_result,← routeAll_result,hspan,
    hps,hqs]
  refine Program.assemble_unplace ?_ ?_ _ _
  · have hstatements := h.statements t'
    rw [List.filterMap_append,List.filterMap_append,List.filterMap_append,List.filterMap_cons,
      List.map_append,List.map_append,List.map_append,hstatements]
    cases (item hook (route hook n).result s').1.statement <;> rfl
  · have hexports := h.exports t'
    rw [List.flatMap_append,List.flatMap_append,List.flatMap_append,List.flatMap_cons,
      List.map_append,List.map_append,List.map_append,List.map_append,hexports]

theorem not_mem_topLevelNames (htop : hook ∉ p.topLevelNames) : hook ∉ q.topLevelNames := by
  have hfree : hook ∉
      (((NameSupply.ofProgram p hook).draw (before.flatMap freshBases)).2.draw n.freshBases).1 := by
    intro hname
    refine (draw_draws n.freshBases _).not_mem_taken hook hname ?_
    rw [(draw_draws _ (NameSupply.ofProgram p hook)).taken_eq]
    exact List.mem_append_right _ List.mem_cons_self
  have hnames : hook ∈ longer.flatMap itemNames → hook ∈ n.itemNames := fun hmem =>
    (List.mem_append.mp (h.names hmem)).resolve_right hfree
  rw [Program.topLevelNames,collectedVarsAll_eq,hp] at htop
  rw [Program.topLevelNames,collectedVarsAll_eq,hq]
  simp only [List.flatMap_append,List.flatMap_cons,List.mem_append,not_or,h.collected] at htop ⊢
  tauto

theorem shadowedUses_eq_nil (htop : hook ∉ p.topLevelNames) (huses : p.shadowedUses hook = []) :
    q.shadowedUses hook = [] := by
  have hn : n ∈ p.body := hp ▸ List.mem_append_right _ List.mem_cons_self
  have hitems := shadowedUsesAll_eq_nil.mp huses
  have hnames : hook ∉ n.itemNames := fun hmem =>
    htop (List.mem_append_right _ (List.mem_flatMap.mpr ⟨n,hn,hmem⟩))
  refine shadowedUsesAll_eq_nil.mpr fun item hitem => ?_
  rw [hq,List.mem_append,List.mem_append] at hitem
  rcases hitem with hitem | hitem | hitem
  · exact hitems item (hp ▸ List.mem_append_left _ hitem)
  · exact h.uses hnames (hitems n hn) item hitem
  · exact hitems item (hp ▸ List.mem_append_right _ (.tail _ hitem))

end Node.Replaces

end Replaced

section Forms

variable {hook : String} {s : NameSupply}

/-- An item may be replaced by one that becomes the same statement, followed by a list of its
exports. -/
theorem Node.Replaces.of_list {n m : Node} {place : Span} {list : List ExportSpecifier}
    (hbases : m.freshBases = [])
    (hspelled : ∀ x, IsSynthetic x → (x ∈ m.spelled ∨ (∃ specifier ∈ list,
      x ∈ specifier.idents.map (·.name)) ↔ x ∈ n.spelled ∨ x ∈ (s.draw n.freshBases).1))
    (hnames : m.itemNames ⊆ n.itemNames ++ (s.draw n.freshBases).1)
    (hcollected : m.collectedVars = n.collectedVars)
    (huses : hook ∉ n.itemNames → shadowedUses hook false n = [] → shadowedUses hook false m = [])
    (hstatement : ∀ t, (item hook (route hook m).result t).1.statement.map (·.retouch .unplace) =
      (item hook (route hook n).result s).1.statement.map (·.retouch .unplace))
    (hnone : ∀ t, (item hook (route hook m).result t).1.exports = [])
    (hexports : (list.filterMap localExport).map (·.retouch .unplace) =
      (item hook (route hook n).result s).1.exports.map (·.retouch .unplace)) :
    Replaces hook s n [m,localList place list] := by
  have hitems : ∀ t, (Lowering.items hook (routeAll hook [m,localList place list]).result t).1 =
      [(item hook (route hook m).result t).1,
        { exports := list.filterMap localExport, events := [.localExports] }] := fun _ => rfl
  refine ⟨?_,fun x hx => ?_,?_,?_,fun htop hnil => ?_,fun t => ?_,fun t => ?_⟩
  · rw [List.flatMap_cons,hbases]
    rfl
  · rw [← hspelled x hx]
    simp [spelledAll,localList,Node.spelled,Form.spelled]
  · rw [List.flatMap_cons]
    exact List.append_subset.mpr ⟨hnames,List.nil_subset _⟩
  · rw [List.flatMap_cons,hcollected]
    exact List.append_nil _
  · refine List.forall_mem_cons.mpr ⟨huses htop hnil,List.forall_mem_singleton.mpr rfl⟩
  · have hmap : ∀ l : Lowered, l.statement.toList.map (·.retouch .unplace) =
        (l.statement.map (·.retouch .unplace)).toList := fun l => by cases l.statement <;> rfl
    rw [hitems,hmap,← hstatement t]
    cases hm : (item hook (route hook m).result t).1.statement <;> simp [hm]
  · rw [hitems,List.flatMap_cons,hnone t,← hexports]
    simp

theorem isLowered_of_isDeclaration {n : Node} (h : n.isDeclaration = true) : isLowered n = false := by
  unfold isLowered
  split
  all_goals first
    | cases h
    | rfl

theorem itemNames_of_isDeclaration {n : Node} (h : n.isDeclaration = true) :
    n.itemNames = n.valueNames := by
  unfold itemNames
  split
  all_goals first
    | cases h
    | exact if_pos h

theorem lists_exports {ids : List Ident} {list : List ExportSpecifier}
    (h : List.Forall₂ ExportSpecifier.Lists ids list) :
    (list.filterMap localExport).map (·.retouch .unplace) =
      (ids.map Export.own).map (·.retouch .unplace) := by
  induction h with
  | nil => rfl
  | cons first rest ih =>
    obtain ⟨hlike⟩ := first
    exact List.cons_eq_cons.mpr ⟨congrArg (fun i : Ident => Export.named (.ident i) i) hlike,ih⟩

theorem lists_idents {ids : List Ident} {list : List ExportSpecifier}
    (h : List.Forall₂ ExportSpecifier.Lists ids list) :
    ∀ specifier ∈ list, ∀ x ∈ specifier.idents.map (·.name), x ∈ ids.map (·.name) := by
  induction h with
  | nil => exact nofun
  | cons first rest ih =>
    obtain ⟨hlike⟩ := first
    refine List.forall_mem_cons.mpr ⟨fun x hx => ?_,fun specifier hmem x hx => ?_⟩
    · obtain rfl := List.mem_singleton.mp hx
      exact List.mem_cons.mpr (.inl (Ident.name_eq_of_unplace hlike))
    · exact .tail _ (ih specifier hmem x hx)

theorem Node.Longer.replaces_declaration {span place : Span} {declaration : Node}
    {list : List ExportSpecifier} (hdeclaration : declaration.isDeclaration = true)
    (hvalue : declaration.leavesValue = true)
    (h : List.Forall₂ ExportSpecifier.Lists declaration.declaredIdents list) :
    Replaces hook s (.node span .exportDeclaration [declaration])
      [declaration,localList place list] := by
  have hlowered := isLowered_of_isDeclaration hdeclaration
  have hspelled : (node span .exportDeclaration [declaration]).spelled = declaration.spelled :=
    List.append_nil _
  have huses : shadowedUses hook false (.node span .exportDeclaration [declaration]) =
      shadowedUses hook false declaration := List.append_nil _
  refine .of_list (freshBases_kept hlowered) (fun x hx => ?_) ?_ ?_ (fun _ hnil => ?_) (fun t => ?_)
    (fun t => ?_) ?_
  · rw [hspelled]
    refine ⟨fun hx => .inl (hx.elim id ?_),fun hx => .inl (hx.resolve_right List.not_mem_nil)⟩
    rintro ⟨specifier,hmem,hx⟩
    obtain ⟨id,hid,rfl⟩ := List.mem_map.mp (lists_idents h specifier hmem x hx)
    exact mentioned_spelled (declaredIdents_mentioned hid)
  · rw [itemNames_of_isDeclaration hdeclaration]
    exact List.subset_append_left ..
  · exact (List.append_nil _).symm
  · rw [← hnil,huses]
  · rw [(item_lowers hook declaration t).eq_kept hlowered]
    rfl
  · rw [(item_lowers hook declaration t).eq_kept hlowered]
    rfl
  · let routed := (route hook declaration).result
    have hown : (item hook (route hook (.node span .exportDeclaration [declaration])).result
        s).1.exports =
        (if routed.leavesValue then routed.declaredIdents else []).map Export.own := rfl
    rw [lists_exports h,hown,leavesValue_route,declaredIdents_route,if_pos hvalue]

theorem item_default {declaration : Node} {f : Ident} (hname : declaration.ownName = some f)
    (span : Span) (s : NameSupply) :
    (item hook (route hook (.node span .exportDefaultDeclaration [declaration])).result s).1 =
      defaultDeclaration f (namedAs f (route hook declaration).result) := by
  have hbases : (node span .exportDefaultDeclaration [declaration]).freshBases = [] := by
    rw [freshBases_default,hname,Option.isNone_some,Bool.and_false]
    rfl
  have hlowers := item_lowers hook (.node span .exportDefaultDeclaration [declaration]) s
  rw [hbases] at hlowers
  exact hlowers.unique (.ownDefault hname)

theorem item_namedAs {declaration : Node} {f : Ident} (hname : declaration.ownName = some f)
    (g : Ident) (s : NameSupply) :
    (item hook (route hook (namedAs g declaration)).result s).1 =
      .kept (namedAs g (route hook declaration).result) := by
  cases declaration with
  | absent | many => cases hname
  | node place form parts =>
    cases form with
    | functionExpression | classExpression => rfl
    | _ => cases hname

theorem namedAs_unplace {f g : Ident} (h : g.retouch .unplace = f.retouch .unplace) (n : Node) :
    (namedAs g n).retouch .unplace = (namedAs f n).retouch .unplace := by
  cases n with
  | absent | many => rfl
  | node span form parts =>
    cases form with
    | functionExpression | classExpression => simp only [namedAs,Node.retouch,Form.retouch,h]
    | _ => rfl

theorem Node.Longer.replaces_default {span place a b : Span} {declaration : Node} {f g i : Ident}
    (hname : declaration.ownName = some f) (hg : g.retouch .unplace = f.retouch .unplace)
    (hi : i.retouch .unplace = f.retouch .unplace) :
    Replaces hook s (.node span .exportDefaultDeclaration [declaration]) [namedAs g declaration,
      localList place [.named a (.ident i) (some (.ident (.named "default" b))) false]] := by
  cases declaration with
  | absent | many => cases hname
  | node at_ form parts =>
    cases form with
    | functionExpression name | classExpression name =>
      obtain rfl : name = some f := hname
      refine .of_list rfl (fun x hx => ?_) ?_ rfl (fun htop hnil => ?_) (fun t => ?_) (fun _ => rfl) ?_
      · -- A fresh name is never `default`, which only the longer form spells.
        have hdefault : "default" ≠ x := fun h => absurd (h ▸ hx) (by decide)
        have hlisted : (ExportSpecifier.named a (.ident i) (some (.ident (.named "default" b)))
            false).idents.map (·.name) = [f.name,"default"] :=
          congrArg (· :: ["default"]) (Ident.name_eq_of_unplace hi)
        simp only [List.mem_singleton,exists_eq_left,hlisted]
        simp only [namedAs,Node.spelled,Form.spelled,spelledAll,Ident.name_eq_of_unplace hg,
          Option.toList_some,List.map_cons,List.map_nil,List.nil_append,List.append_nil,
          List.cons_append,List.mem_cons,List.not_mem_nil,Node.freshBases,draw,hdefault.symm,or_false]
        tauto
      · show [g.name] ⊆ [f.name] ++ _
        rw [Ident.name_eq_of_unplace hg]
        exact List.subset_append_left ..
      · -- The own name of an expression rebinds nothing here: it is not that of the hook.
        have hown : bindsOwnName hook (some f) = false := by
          refine eq_false_of_ne_true fun h => htop ?_
          obtain ⟨id,hid,hhook⟩ := List.any_eq_true.mp h
          obtain rfl := List.mem_singleton.mp hid
          exact eq_of_beq hhook ▸ List.mem_cons_self
        have hparts : shadowedUsesAll hook (bindsOwnName hook (some f)) parts = [] :=
          (List.append_nil _).symm.trans hnil
        rw [hown] at hparts
        exact hparts
      · rw [item_default rfl,item_namedAs rfl]
        exact congrArg some (namedAs_unplace hg _)
      · rw [item_default rfl]
        exact congrArg (fun j : Ident => [Export.named (.ident (.named "default" .nowhere)) j]) hi
    | _ => cases hname

namespace ExportSpecifier

variable {specifier listed : ExportSpecifier} {imported : ImportSpecifier} {name : String}

namespace Split

theorem isType_eq_false (h : Split name specifier imported listed) : specifier.isType = false := by
  cases h <;> rfl

theorem imports_isType_eq_false (h : Split name specifier imported listed) :
    imported.isType = false := by
  cases h <;> rfl

theorem bound_name (h : Split name specifier imported listed) : imported.bound.name = name := by
  cases h <;> rfl

theorem loaded (h : Split name specifier imported listed) (span : Span) :
    imported.loaded.map (·.retouch .unplace) =
      some ((specifier.through span name).1.retouch .unplace) := by
  have hkeeps : ∀ a : ExportName, ∀ i ∈ a.idents, Retouch.unplace.Keeps i.name := fun _ _ _ => rfl
  cases h with
  | named himported hlisted =>
    refine congrArg some ?_
    show (Loaded.named _ _).retouch .unplace = (Loaded.named _ _).retouch .unplace
    rw [Loaded.named_retouch (hkeeps _),Loaded.named_retouch (hkeeps _)]
    exact congrArg (Loaded.named · (.named name .nowhere)) himported
  | whole => rfl
  | default => rfl

theorem exports (h : Split name specifier imported listed) (span : Span) :
    (localExport listed).map (·.retouch .unplace) =
      some ((specifier.through span name).2.retouch .unplace) := by
  have hnamed : ∀ {a b : ExportName} {c d : Span}, a.retouch .unplace = b.retouch .unplace →
      some ((Export.named a (.named name c)).retouch .unplace) =
        some ((Export.named b (.named name d)).retouch .unplace) := fun hlike =>
    congrArg (fun a => some (Export.named a (.named name .nowhere))) hlike
  cases h with
  | named himported hlisted => exact hnamed hlisted
  | whole hlisted => exact hnamed hlisted
  | default hlisted => exact hnamed hlisted

theorem spelled (h : Split name specifier imported listed) (x : String) :
    x ∈ imported.idents.map (·.name) ∨ x ∈ listed.idents.map (·.name) ↔
      x ∈ specifier.idents.map (·.name) ∨ x = name := by
  have hlocal : ∀ (span a : Span) (listed : ExportName),
      (ExportSpecifier.named span (.ident (.named name a)) (some listed) false).idents.map (·.name) =
        name :: listed.idents.map (·.name) := by
    intro span a listed
    simp [idents,ExportName.idents,Ident.named]
  cases h with
  | @named span place _ a _ inner imported listed exported himported hlisted =>
    have hfirst : (ImportSpecifier.named place (.named name a) (some imported) false).idents.map
        (·.name) = name :: inner.idents.map (·.name) := by
      simp [← ExportName.names_eq_of_unplace himported,ImportSpecifier.idents,Ident.named]
    rw [hfirst,hlocal,ExportName.names_eq_of_unplace hlisted]
    cases exported with
    | none =>
      have hold : (ExportSpecifier.named span inner none false).idents = inner.idents :=
        List.append_nil _
      rw [hold]
      simp only [Option.getD_none,List.mem_cons]
      tauto
    | some exported =>
      have hold : (ExportSpecifier.named span inner (some exported) false).idents =
          inner.idents ++ exported.idents :=
        congrArg (inner.idents ++ ·) (List.append_nil _)
      rw [hold,List.map_append]
      simp only [Option.getD_some,List.mem_cons,List.mem_append]
      tauto
  | @whole span _ _ _ _ exported _ hlisted =>
    have hold : (ExportSpecifier.whole span exported).idents = exported.idents := rfl
    rw [hlocal,ExportName.names_eq_of_unplace hlisted,hold]
    simp only [ImportSpecifier.idents,Ident.named,List.map_cons,List.map_nil,List.mem_cons,
      List.not_mem_nil,or_false]
    tauto
  | @default _ _ _ _ exported _ hlisted =>
    have hold : (ExportSpecifier.default exported).idents = (ExportName.ident exported).idents := rfl
    rw [hlocal,ExportName.names_eq_of_unplace hlisted,hold]
    simp only [ImportSpecifier.idents,Ident.named,List.map_cons,List.map_nil,List.mem_cons,
      List.not_mem_nil,or_false]
    tauto

end Split

namespace Splits

variable {specifiers list : List ExportSpecifier} {names : List String}
  {imports : List ImportSpecifier}

theorem filter_eq (h : Splits specifiers names imports list) :
    specifiers.filter (! ·.isType) = specifiers := by
  induction h with
  | nil => rfl
  | cons first _ ih => rw [List.filter_cons_of_pos (by simp [first.isType_eq_false]),ih]

theorem bound_names (h : Splits specifiers names imports list) :
    imports.map (·.bound.name) = names := by
  induction h with
  | nil => rfl
  | cons first _ ih => rw [List.map_cons,first.bound_name,ih]

theorem loaded (h : Splits specifiers names imports list) (span : Span) :
    (imports.filterMap ImportSpecifier.loaded).map (·.retouch .unplace) =
      (specifiers.zipWith (·.through span) names).map (·.1.retouch .unplace) := by
  induction h with
  | nil => rfl
  | @cons specifier _ name imported _ _ _ _ first _ ih =>
    obtain ⟨l,hl,hlike⟩ := Option.map_eq_some_iff.mp (first.loaded span)
    rw [List.filterMap_cons_some hl,List.map_cons,List.zipWith_cons_cons,List.map_cons,hlike,ih]

theorem exports (h : Splits specifiers names imports list) (span : Span) :
    (list.filterMap localExport).map (·.retouch .unplace) =
      (specifiers.zipWith (·.through span) names).map (·.2.retouch .unplace) := by
  induction h with
  | nil => rfl
  | cons first _ ih =>
    obtain ⟨e,he,hlike⟩ := Option.map_eq_some_iff.mp (first.exports span)
    rw [List.filterMap_cons_some he,List.map_cons,List.zipWith_cons_cons,List.map_cons,hlike,ih]

theorem not_all_types (h : Splits specifiers names imports list) :
    (! specifiers.isEmpty && specifiers.all (·.isType)) = false ∧
      (! imports.isEmpty && imports.all (·.isType)) = false := by
  cases h with
  | nil => exact ⟨rfl,rfl⟩
  | cons first _ =>
    rw [List.all_cons,List.all_cons,first.isType_eq_false,first.imports_isType_eq_false]
    exact ⟨rfl,rfl⟩

theorem spelled (h : Splits specifiers names imports list) (x : String) :
    (∃ imported ∈ imports, x ∈ imported.idents.map (·.name)) ∨
      (∃ listed ∈ list, x ∈ listed.idents.map (·.name)) ↔
    (∃ specifier ∈ specifiers, x ∈ specifier.idents.map (·.name)) ∨ x ∈ names := by
  induction h with
  | nil => simp
  | cons first _ ih =>
    have hfirst := first.spelled x
    rw [List.exists_mem_cons_iff,List.exists_mem_cons_iff,List.exists_mem_cons_iff,List.mem_cons]
    exact or_or_or_comm.trans ((or_congr hfirst ih).trans or_or_or_comm)

end Splits

end ExportSpecifier

/-- What a re-export becomes whose specifiers are split: it exports through the names that are
drawn. -/
theorem item_reexport {specifiers list : List ExportSpecifier} {names : List String}
    {imports : List ImportSpecifier} (h : ExportSpecifier.Splits specifiers names imports list)
    (hook : String) (span : Span) (source : StringLiteral) (attributes : Node) (s : NameSupply) :
    let entries := specifiers.zipWith (·.through span) (s.draw (specifiers.map (·.base))).1
    (item hook (route hook (.node span (.exportNamed specifiers (some source) false)
      [attributes])).result s).1 =
      ModuleLoad.lowered ⟨span,source,attributes,entries.map (·.1),entries.map (·.2),
        .reexportLoaded source.value⟩ hook := by
  let n : Node := .node span (.exportNamed specifiers (some source) false) [attributes]
  have hbases : n.freshBases = specifiers.map (·.base) := congrArg (List.map _) h.filter_eq
  have hlength := draw_length n.freshBases s
  rw [hbases,List.length_map,← h.filter_eq] at hlength
  have hlowers := item_lowers hook n s
  rw [hbases] at hlowers
  rw [hlowers.eq_loaded (.reexported h.not_all_types.1 (by rw [← hlength,h.filter_eq])),h.filter_eq]

theorem through_names (span : Span) {specifiers : List ExportSpecifier} {names : List String}
    (h : specifiers.length = names.length) :
    (specifiers.zipWith (·.through span) names).map (·.2.value.name) = names := by
  induction specifiers generalizing names with
  | nil => exact (List.eq_nil_of_length_eq_zero h.symm).symm
  | cons specifier rest ih =>
    cases names with
    | nil => cases h
    | cons name names =>
      have hname : (specifier.through span name).2.value.name = name := by cases specifier <;> rfl
      rw [List.zipWith_cons_cons,List.map_cons,hname,ih (Nat.succ.inj h)]

theorem Node.Longer.replaces_reexport {span at_ place : Span} {specifiers list : List ExportSpecifier}
    {names : List String} {imports : List ImportSpecifier} {source source' : StringLiteral}
    {attributes : Node}
    (hnames : (item hook (route hook (.node span (.exportNamed specifiers (some source) false)
      [attributes])).result s).1.exports.map (·.value.name) = names)
    (h : ExportSpecifier.Splits specifiers names imports list)
    (hsource : source'.retouch .unplace = source.retouch .unplace) :
    Replaces hook s (.node span (.exportNamed specifiers (some source) false) [attributes])
      [.node at_ (.importDeclaration imports source' false .evaluation) [attributes],
        localList place list] := by
  have hitem := item_reexport h hook span source attributes s
  have hbases : (Node.node span (.exportNamed specifiers (some source) false)
      [attributes]).freshBases = specifiers.map (·.base) := congrArg (List.map _) h.filter_eq
  have hdrawn : (s.draw (specifiers.map (·.base))).1 = names := by
    rw [← hnames,hitem,ModuleLoad.lowered,List.map_map]
    exact (through_names span (by rw [draw_length,List.length_map])).symm
  rw [hdrawn] at hitem
  have himport : ∀ t, (item hook (route hook (.node at_ (.importDeclaration imports source' false
      .evaluation) [attributes])).result t).1 =
        ModuleLoad.lowered ⟨at_,source',attributes,imports.filterMap ImportSpecifier.loaded,[],
          .importLoaded source'.value⟩ hook :=
    fun t => (item_lowers hook _ t).eq_loaded (.imported h.not_all_types.2)
  refine .of_list rfl (fun x hx => ?_) ?_ rfl (fun _ hnil => hnil) (fun t => ?_) (fun t => ?_) ?_
  · have hm : x ∈ (Node.node at_ (.importDeclaration imports source' false .evaluation)
        [attributes]).spelled ↔ (∃ imported ∈ imports, x ∈ imported.idents.map (·.name)) ∨
          x ∈ spelledAll [attributes] := List.mem_append.trans (or_congr_left List.mem_flatMap)
    have hn : x ∈ (Node.node span (.exportNamed specifiers (some source) false)
        [attributes]).spelled ↔ (∃ specifier ∈ specifiers, x ∈ specifier.idents.map (·.name)) ∨
          x ∈ spelledAll [attributes] := List.mem_append.trans (or_congr_left List.mem_flatMap)
    rw [hm,hn,hbases,hdrawn,or_right_comm,h.spelled x,or_right_comm]
  · rw [hbases,hdrawn]
    exact List.subset_append_of_subset_right _ (h.bound_names ▸ List.Subset.refl _)
  · have hrequest : (⟨source',(route hook attributes).result⟩ : Request).retouch .unplace =
        (⟨source,(route hook attributes).result⟩ : Request).retouch .unplace :=
      congrArg (Request.mk · _) hsource
    have hload : (loadStatement hook at_ ⟨source',(route hook attributes).result⟩
        (imports.filterMap ImportSpecifier.loaded)).retouch .unplace =
          (loadStatement hook span ⟨source,(route hook attributes).result⟩
            ((specifiers.zipWith (·.through span) names).map (·.1))).retouch .unplace := by
      rw [loadStatement_retouch,loadStatement_retouch,h.loaded span,List.map_map,hrequest]
      rfl
    rw [himport,hitem]
    exact congrArg some hload
  · rw [himport]
    rfl
  · rw [hitem,h.exports span,ModuleLoad.lowered,List.map_map]
    rfl

theorem Node.Longer.replaces {n : Node} {longer : List Node} (h : Longer hook s n longer) :
    Replaces hook s n longer := by
  cases h with
  | declaration hdeclaration hvalue h => exact replaces_declaration hdeclaration hvalue h
  | default hname hg hi => exact replaces_default hname hg hi
  | reexport hnames h hsource => exact replaces_reexport hnames h hsource

end Forms

namespace Program

/-- A program that is accepted is also accepted with the longer form of one of its exports, and has
the same body then, up to places: a declaration and a list of the names that it binds, a named
function or class and a list of it as the default, or an import into the fresh locals of a re-export
and a list of what these export. -/
theorem toFunctionBody_longer (options : Options) (p body : Program) (before after longer : List Node)
    (n : Node) (hbody : p.body = before ++ n::after)
    (hlonger : n.Longer options.importName (items options.importName
      (routeAll options.importName before).result (.ofProgram p options.importName)).2 longer)
    (hok : (p.toFunctionBody options).result = .ok body) :
    ∃ body' : Program,
      (toFunctionBody options { p with body := before ++ longer ++ after }).result = .ok body' ∧
      body'.retouch .unplace = body.retouch .unplace := by
  obtain ⟨hvalid,htop,huses,rfl⟩ := toFunctionBody_eq_ok.mp hok
  let q : Program := { p with body := before ++ longer ++ after }
  have hq : q.body = before ++ (longer++after) := List.append_assoc ..
  rw [items_supply] at hlonger
  have hreplaces := hlonger.replaces
  refine ⟨(q.lower options.importName (.ofProgram q options.importName)).result,?_,
    hreplaces.lower_unplace hbody hq rfl⟩
  rw [toFunctionBody_of_clear hvalid (hreplaces.not_mem_topLevelNames hbody hq htop)
    (hreplaces.shadowedUses_eq_nil hbody hq htop huses)]

/-- `export const _a = x`, in which `_a` is what a re-export of `a` would go through. -/
def exportedConstant : Node :=
  .node .nowhere .exportDeclaration [.node .nowhere (.variableDeclaration 0 .const false)
    [.many [.node .nowhere (.declarator false) [(Ident.named "_a" .nowhere).pattern,
      (Ident.named "x" .nowhere).reference]]]]

/-- `export default function f() {}`. -/
def exportedFunction : Node :=
  .node .nowhere .exportDefaultDeclaration [.node .nowhere
    (.functionExpression (some (.named "f" .nowhere))) [.node .nowhere (.function 0 false false)
      [.many [],.many [],.node .nowhere (.block 0) [.many []],.absent,.absent]]]

/-- `export { a, default as b } from 'm'`. -/
def exportedAgain : Node :=
  .node .nowhere (.exportNamed
    [.named .nowhere (.ident (.named "a" .nowhere)) none false,
      .named .nowhere (.ident (.named "default" .nowhere)) (some (.ident (.named "b" .nowhere))) false]
    (some (.plain "m" .nowhere)) false) [.absent]

def exportedForms : Program :=
  ⟨.module,.nowhere,[exportedConstant,exportedFunction,exportedAgain],none⟩

def longerForms (place : Span) : List (List Node) :=
  let id (name : String) : Ident := .named name place
  let listed (name exported : String) : ExportSpecifier :=
    .named place (.ident (id name)) (some (.ident (id exported))) false
  let constant : Node := .node .nowhere (.variableDeclaration 0 .const false)
    [.many [.node .nowhere (.declarator false) [(Ident.named "_a" .nowhere).pattern,
      (Ident.named "x" .nowhere).reference]]]
  let function : Node := .node .nowhere (.functionDeclaration (id "f") false)
    [.node .nowhere (.function 0 false false)
      [.many [],.many [],.node .nowhere (.block 0) [.many []],.absent,.absent]]
  let imported : Node := .node place (.importDeclaration
    [.named place (id "_a1") (some (.ident (id "a"))) false,
      .named place (id "_b") (some (.ident (id "default"))) false]
    (.plain "m" place) false .evaluation) [.absent]
  [[constant,localList place [.named place (.ident (id "_a")) none false]],
    [function,localList place [listed "f" "default"]],
    [imported,localList place [listed "_a1" "a",listed "_b" "b"]]]

theorem exportedForms_longer :
    ∃ body, (exportedForms.toFunctionBody {}).result = .ok body ∧
      List.Forall₂ (fun (around : List Node × List Node) longer => ∃ body' : Program,
        (toFunctionBody {} { exportedForms with body := around.1 ++ longer ++ around.2 }).result =
          .ok body' ∧ body'.retouch .unplace = body.retouch .unplace)
        [([],[exportedFunction,exportedAgain]),([exportedConstant],[exportedAgain]),
          ([exportedConstant,exportedFunction],[])] (longerForms ⟨7,9⟩) := by
  let body := (exportedForms.lower "$import" (.ofProgram exportedForms "$import")).result
  have hok : (exportedForms.toFunctionBody {}).result = .ok body :=
    toFunctionBody_eq_ok.mpr ⟨rfl,by decide,by decide,rfl⟩
  refine ⟨body,hok,.cons ?_ (.cons ?_ (.cons ?_ .nil))⟩
  · exact toFunctionBody_longer {} exportedForms body [] [exportedFunction,exportedAgain] _
      exportedConstant rfl (.declaration rfl rfl (.cons ⟨rfl⟩ .nil)) hok
  · exact toFunctionBody_longer {} exportedForms body [exportedConstant] [exportedAgain] _
      exportedFunction rfl (.default rfl rfl rfl) hok
  · refine toFunctionBody_longer {} exportedForms body [exportedConstant,exportedFunction] [] _
      exportedAgain rfl (.reexport ?_ (.cons (.named rfl rfl) (.cons (.named rfl rfl) .nil)) rfl) hok
    decide +kernel

end Program

end AsyncBody
