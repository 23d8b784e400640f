import AsyncBody.Proofs.Collision
import AsyncBody.Proofs.LoweredStatements

/-!
Lowering the body of a function once more. Nothing is left in it to lower, so it only gets one more
`return`, of no exports; it is refused only for a hook that it binds at its top level.
-/
namespace AsyncBody

open Hook Node Lowering

namespace Node

variable {hook : String}

theorem routeAll_eq_self {items : List Node} (h : ∀ item ∈ items, route hook item = ⟨item,[]⟩) :
    routeAll hook items = ⟨items,[]⟩ := by
  induction items with
  | nil => rfl
  | cons item rest ih =>
    rw [routeAll,h item List.mem_cons_self,ih fun other hother => h other (.tail _ hother)]
    rfl

theorem route_eq_self {n : Node} (h : ¬ n.HasUse) : route hook n = ⟨n,[]⟩ := by
  induction n using Node.induction with
  | absent => rfl
  | many items ih =>
    rw [hasUse_many] at h
    rw [route,routeAll_eq_self fun item hitem => ih item hitem fun huse => h ⟨item,hitem,huse⟩]
  | node span form parts ih =>
    rw [hasUse_node,← use?_isSome_iff] at h
    have hnone : use? (node span form parts) = none :=
      Option.not_isSome_iff_eq_none.mp fun huse => h (.inl huse)
    have hparts : routeAll hook parts = ⟨parts,[]⟩ :=
      routeAll_eq_self fun part hpart => ih part hpart fun huse => h (.inr ⟨part,hpart,huse⟩)
    have hself : replace hook (node span form parts) = node span form parts := by
      obtain ⟨hr,-⟩ | ⟨_,_,_,_,_,hn,-⟩ | ⟨_,_,hn,-⟩ := replace_cases hook (node span form parts)
      · exact hr
      · rw [hn] at hnone
        cases hnone
      · rw [hn] at hnone
        cases hnone
    simp only [route,hparts,hself,hnone,Option.toList_none,List.append_nil]

theorem HasShadowedUse.hasUse {n : Node} (h : n.HasShadowedUse hook) : n.HasUse := by
  induction n using Node.induction with
  | absent =>
    obtain ⟨_,_,_,hmem,-⟩ := h
    cases List.mem_singleton.mp hmem
  | many items ih =>
    obtain ⟨item,hitem,h⟩ := hasShadowedUse_many.mp h
    exact hasUse_many.mpr ⟨item,hitem,ih item hitem h⟩
  | node span form parts ih =>
    rcases hasShadowedUse_node.mp h with ⟨i,part,hi,-,huse⟩ | ⟨part,hpart,h⟩
    · exact hasUse_node.mpr (.inr ⟨part,List.mem_of_getElem? hi,huse⟩)
    · exact hasUse_node.mpr (.inr ⟨part,hpart,ih part hpart h⟩)

theorem default_of_wellPlaced {n : Node} (hplaced : n.wellPlaced .statement = true) {span : Span}
    {declaration : Node} (hn : n = .node span .exportDefaultDeclaration [declaration]) :
    declaration.valueNames = [] ∧ declaration.hoistedVars = [] := by
  subst hn
  have hdefault : declaration.wellPlaced .default = true :=
    (wellPlaced_node_iff.mp hplaced).2 0 declaration rfl
  refine ⟨?_,hoistedVars_of_inert hdefault rfl⟩
  cases declaration with
  | absent => rfl
  | many => cases hdefault
  | node place form parts =>
    cases form with
    | functionExpression | classExpression | interfaceDeclaration => rfl
    | _ => cases (wellPlaced_node_iff.mp hdefault).1

end Node

namespace Lowering.Settled

variable {statement : Node} {x : String}

theorem itemNames (h : Settled statement) : statement.itemNames ⊆ statement.valueNames := by
  intro x hx
  have hparts : ∀ {span form parts}, statement = .node span form parts →
      parts.length = form.layout.parts.length := by
    rintro span form parts rfl
    exact (shaped_node_iff.mp h.fits.shaped).1
  have hkept := h.kept
  unfold Node.itemNames at hx
  split at hx
  · obtain ⟨part,rfl⟩ := List.length_eq_one_iff.mp (hparts rfl)
    cases hkept
  · cases hkept
  · cases hkept
  · cases hkept
  · obtain ⟨part,rfl⟩ := List.length_eq_one_iff.mp (hparts rfl)
    cases hkept
  · split at hx
    · exact hx
    · cases hx

/-- No import is left, of types neither. -/
theorem not_importsType (h : Settled statement) : ¬ ImportsType x statement := by
  have hshape := h.fits.shaped
  have hkept := h.kept
  intro himports
  cases himports with
  | declaration | specifier | reference =>
    obtain ⟨part,rfl⟩ := List.length_eq_one_iff.mp (shaped_node_iff.mp hshape).1
    cases hkept

end Lowering.Settled

theorem Lowering.items_eq_kept {ns : List Node} (h : ∀ n ∈ ns, isLowered n = false) (hook : String)
    (s : NameSupply) : items hook ns s = (ns.map .kept,s) := by
  induction ns generalizing s with
  | nil => rfl
  | cons n rest ih =>
    rw [items_cons,item_kept hook (h n List.mem_cons_self),
      ih fun other hother => h other (List.mem_cons_of_mem _ hother)]
    rfl

namespace Program

structure Settled (q : Program) : Prop where
  script : q.kind = .script
  bare : q.interpreter = none
  statements : ∀ statement ∈ q.body, Lowering.Settled statement

def withReturns (q : Program) (n : Nat) : Program :=
  { q with body := q.body ++ List.replicate n (Export.returnStatement q.span []) }

theorem withReturns_zero (q : Program) : q.withReturns 0 = q := by
  simp [withReturns]

theorem withReturns_withReturns (q : Program) (n m : Nat) :
    (q.withReturns n).withReturns m = q.withReturns (n+m) := by
  simp only [withReturns,List.append_assoc,List.replicate_append_replicate]

theorem lower_eq_withReturns {q : Program} (hscript : q.kind = .script) (hbare : q.interpreter = none)
    (huseless : ∀ n ∈ q.body, ¬ n.HasUse) (hkept : ∀ n ∈ q.body, isLowered n = false) (hook : String)
    (supply : NameSupply) : q.lower hook supply = ⟨q.withReturns 1,[.finished 0 0 0]⟩ := by
  have hrouted : q.route hook = ⟨q,[]⟩ := by
    rw [Program.route,routeAll_eq_self fun n hn => route_eq_self (huseless n hn)]
  have hitems : items hook q.body supply = (q.body.map .kept,supply) :=
    items_eq_kept hkept hook supply
  have hstatements : (q.body.map Lowered.kept).filterMap (·.statement) = q.body := by
    simp [List.filterMap_map,Function.comp_def,Lowered.kept]
  have hexports : (q.body.map Lowered.kept).flatMap (·.exports) = [] := by
    simp [List.flatMap_map,Lowered.kept]
  have hevents : (q.body.map Lowered.kept).flatMap (·.events) = [] := by
    simp [List.flatMap_map,Lowered.kept]
  have hrequests : (q.body.map Lowered.kept).foldr (·.requests + ·) 0 = 0 := by
    rw [List.foldr_map]
    exact List.foldr_fixed' (fun _ => rfl) q.body
  simp only [Program.lower,hrouted,hitems,hstatements,hexports,hevents,hrequests]
  rw [withReturns,hscript,hbare]
  rfl

namespace Settled

variable {q : Program} {next : Options}

theorem lower (h : q.Settled) (hook : String) (supply : NameSupply) :
    q.lower hook supply = ⟨q.withReturns 1,[.finished 0 0 0]⟩ :=
  lower_eq_withReturns h.script h.bare (fun n hn => (h.statements n hn).fits.useless)
    (fun n hn => (h.statements n hn).kept) hook supply

theorem mem_topLevelNames_iff (h : q.Settled) {x : String} :
    x ∈ q.topLevelNames ↔ ∃ statement ∈ q.body, BindsAtTop x statement := by
  have hshape : q.shaped = true :=
    (Node.shapedAll_iff q.body).mpr fun n hn => (h.statements n hn).fits.shaped
  have hplaced : q.wellPlaced = true :=
    Node.wellPlacedAll_iff.mpr fun n hn => (h.statements n hn).fits.placed
  rw [Program.mem_topLevelNames_iff hshape hplaced]
  refine exists_congr fun n => and_congr_right fun hn => ?_
  exact or_iff_left (h.statements n hn).not_importsType

theorem collectedVars (h : q.Settled) : collectedVarsAll q.body = hoistedVarsAll q.body := by
  rw [collectedVarsAll_eq,hoistedVarsAll_eq]
  exact List.flatMap_congr fun n hn =>
    collectedVars_eq_hoistedVars (h.statements n hn).fits.shaped (h.statements n hn).fits.placed

theorem shadowedUses (h : q.Settled) (hook : String) : q.shadowedUses hook = [] := by
  refine (shadowedUses_eq_nil_iff hook q).mpr fun hshadowed => ?_
  obtain ⟨n,hn,huse⟩ := hasUse_many.mp hshadowed.hasUse
  exact (h.statements n hn).fits.useless huse

/-- A settled script only gets one more `return`. -/
theorem toFunctionBody (h : q.Settled) (hvalid : next.validate = .ok ())
    (htop : next.importName ∉ q.topLevelNames) :
    q.toFunctionBody next = ⟨.ok (q.withReturns 1),[.finished 0 0 0]⟩ := by
  rw [toFunctionBody_of_clear hvalid htop (h.shadowedUses _),h.lower]

theorem withReturns (h : q.Settled) (n : Nat) : (q.withReturns n).Settled := by
  refine ⟨h.script,h.bare,fun statement hmem => ?_⟩
  rcases List.mem_append.mp hmem with hmem | hmem
  · exact h.statements statement hmem
  · rw [List.eq_of_mem_replicate hmem]
    exact Export.returnStatement_settled q.span []

end Settled

theorem withReturns_topLevelNames (q : Program) (n : Nat) :
    (q.withReturns n).topLevelNames = q.topLevelNames := by
  have hitems : (List.replicate n (Export.returnStatement q.span [])).flatMap itemNames = [] := by
    rw [List.flatMap_replicate]
    exact List.flatten_replicate_nil
  have hcollected :
      (List.replicate n (Export.returnStatement q.span [])).flatMap collectedVars = [] := by
    rw [List.flatMap_replicate]
    exact List.flatten_replicate_nil
  rw [topLevelNames,topLevelNames,withReturns,collectedVarsAll_eq,collectedVarsAll_eq,
    List.flatMap_append,List.flatMap_append,hitems,hcollected,List.append_nil,List.append_nil]

/-- Each further hook that is not bound at the top level leaves one more `return`. -/
theorem Settled.foldlM {q : Program} (h : q.Settled) {later : List Options}
    (hvalid : ∀ next ∈ later, next.validate = .ok ())
    (htop : ∀ next ∈ later, next.importName ∉ q.topLevelNames) :
    later.foldlM (fun q next => (Program.toFunctionBody next q).result) q =
      .ok (q.withReturns later.length) := by
  induction later generalizing q with
  | nil => exact congrArg Except.ok q.withReturns_zero.symm
  | cons next rest ih =>
    have hfirst := h.toFunctionBody (hvalid next List.mem_cons_self) (htop next List.mem_cons_self)
    have hrest := ih (h.withReturns 1) (fun other hother => hvalid other (.tail _ hother))
      fun other hother => by
        rw [withReturns_topLevelNames]
        exact htop other (.tail _ hother)
    rw [List.foldlM_cons,hfirst,List.length_cons,Nat.add_comm,← withReturns_withReturns]
    exact hrest

section Lowered

variable {options : Options} {p body : Program}

theorem settled_of_lower (hshape : p.shaped = true) (hplaced : p.wellPlaced = true)
    (hook : String) (supply : NameSupply) : (p.lower hook supply).result.Settled := by
  refine ⟨rfl,rfl,fun statement hmem => ?_⟩
  obtain ⟨item,hitem,t,hstatement⟩ | ⟨table,rfl⟩ := mem_lower_body hmem
  · exact (item_lowers hook item t).settled ((shapedAll_iff p.body).mp hshape item hitem)
      (wellPlacedAll_iff.mp hplaced item hitem) statement hstatement
  · exact Export.returnStatement_settled _ _

theorem importName_not_mem_topLevelNames (hshape : p.shaped = true) (hplaced : p.wellPlaced = true)
    (hok : (p.toFunctionBody options).result = .ok body) :
    options.importName ∉ body.topLevelNames := by
  obtain ⟨-,htop,-,rfl⟩ := toFunctionBody_eq_ok.mp hok
  have hsettled := settled_of_lower hshape hplaced options.importName
    (.ofProgram p options.importName)
  obtain ⟨made,hdraws,hsubset,-,hhoisted⟩ := lower_keeps options.importName p
  have hdefault : ∀ item ∈ p.body, ∀ span declaration,
      item = .node span .exportDefaultDeclaration [declaration] →
        declaration.valueNames = [] ∧ declaration.hoistedVars = [] := fun item hitem _ _ =>
    default_of_wellPlaced (wellPlacedAll_iff.mp hplaced item hitem)
  rw [topLevelNames,hsettled.collectedVars,hhoisted]
  intro h
  rcases List.mem_append.mp h with h | h
  · obtain ⟨item,hitem,h⟩ := List.mem_flatMap.mp h
    rw [itemHoisted_eq fun _ _ hn => (hdefault item hitem _ _ hn).2] at h
    refine htop (List.mem_append_left _ ?_)
    rw [collectedVarsAll_eq]
    exact List.mem_flatMap.mpr ⟨item,hitem,mem_collectedVars_of_hoistedVars h⟩
  · obtain ⟨statement,hmem,h⟩ := List.mem_flatMap.mp h
    have hdeclared : (statement.bindingKind,options.importName) ∈ statement.declared :=
      List.mem_map_of_mem ((hsettled.statements statement hmem).itemNames h)
    rcases List.mem_append.mp (hsubset (List.mem_flatMap.mpr ⟨statement,hmem,hdeclared⟩)) with h | h
    · obtain ⟨item,hitem,h⟩ := List.mem_flatMap.mp h
      refine htop (List.mem_append_right _ (List.mem_flatMap.mpr ⟨item,hitem,?_⟩))
      exact itemDeclared_itemNames (fun _ _ hn => (hdefault item hitem _ _ hn).1) h
    · exact hdraws.not_mem_taken _ (List.mem_map_of_mem h) List.mem_cons_self

/-- A body is lowered again, for the same hook or another, to itself and `return {}`: nothing in it
is replaced or loaded. It is refused for a hook that it binds at its top level, which never is the
one it was made for, and for no other. Lowering it for a list of hooks leaves one `return {}` for
each. -/
theorem toFunctionBody_again (hshape : p.shaped = true) (hplaced : p.wellPlaced = true)
    (hok : (p.toFunctionBody options).result = .ok body) :
    (∀ next : Options, next.validate = .ok () →
      (∀ name, (body.toFunctionBody next).result ≠ .error (.importNameShadowed name)) ∧
      ((body.toFunctionBody next).result = .error (.importNameCollision next.importName) ↔
        ∃ statement ∈ body.body, BindsAtTop next.importName statement) ∧
      ((∀ statement ∈ body.body, ¬ BindsAtTop next.importName statement) →
        body.toFunctionBody next = ⟨.ok (body.withReturns 1),[.finished 0 0 0]⟩)) ∧
    (∀ statement ∈ body.body, ¬ BindsAtTop options.importName statement) ∧
    ∀ later : List Options,
      (∀ next ∈ later, next.validate = .ok () ∧
        ∀ statement ∈ body.body, ¬ BindsAtTop next.importName statement) →
      (options :: later).foldlM (fun q next => (Program.toFunctionBody next q).result) p =
        .ok (body.withReturns later.length) := by
  have hbound := importName_not_mem_topLevelNames hshape hplaced hok
  have hsettled : body.Settled := by
    obtain ⟨-,-,-,rfl⟩ := toFunctionBody_eq_ok.mp hok
    exact settled_of_lower hshape hplaced _ _
  have hfree : ∀ {next : Options}, (∀ statement ∈ body.body, ¬ BindsAtTop next.importName statement) →
      next.importName ∉ body.topLevelNames := by
    intro next h htop
    obtain ⟨statement,hmem,hbinds⟩ := hsettled.mem_topLevelNames_iff.mp htop
    exact h statement hmem hbinds
  refine ⟨fun next hvalid => ⟨fun name h => ?_,?_,fun h => ?_⟩,fun statement hmem hbinds => ?_,
    fun later hlater => ?_⟩
  · exact (toFunctionBody_eq_shadowed.mp h).2.2.2 (hsettled.shadowedUses _)
  · rw [toFunctionBody_eq_collision,← hsettled.mem_topLevelNames_iff]
    exact ⟨fun h => h.2.2,fun h => ⟨hvalid,rfl,h⟩⟩
  · exact hsettled.toFunctionBody hvalid (hfree h)
  · exact hbound (hsettled.mem_topLevelNames_iff.mpr ⟨statement,hmem,hbinds⟩)
  · rw [List.foldlM_cons,hok]
    exact hsettled.foldlM (fun next hnext => (hlater next hnext).1)
      fun next hnext => hfree (hlater next hnext).2

end Lowered

/-- A body is lowered twice more: for the same hook, and for another. -/
theorem mixedItems_again :
    ∃ body, (mixedItems.toFunctionBody {}).result = .ok body ∧
      [{},{},⟨"load"⟩].foldlM (fun q next => (Program.toFunctionBody next q).result) mixedItems =
        .ok (body.withReturns 2) := by
  let body := (mixedItems.lower "$import" (.ofProgram mixedItems "$import")).result
  have hok : (mixedItems.toFunctionBody {}).result = .ok body :=
    toFunctionBody_eq_ok.mpr ⟨rfl,by decide +kernel,by decide +kernel,rfl⟩
  obtain ⟨hnext,hfree,hlater⟩ := toFunctionBody_again (by decide) (by decide) hok
  have hload : ∀ statement ∈ body.body, ¬ BindsAtTop "load" statement := by
    intro statement hmem hbinds
    have hcollision := (hnext ⟨"load"⟩ rfl).2.1.mpr ⟨statement,hmem,hbinds⟩
    exact absurd (toFunctionBody_eq_collision.mp hcollision).2.2 (by decide +kernel)
  refine ⟨body,hok,hlater [{},⟨"load"⟩] ?_⟩
  exact List.forall_mem_cons.mpr ⟨⟨rfl,hfree⟩,List.forall_mem_singleton.mpr ⟨rfl,hload⟩⟩

/-- `type T = import("m", { with: { get a() { var foo; } } });` -/
def typeAccessor : Program :=
  let hidden : Node := .node .nowhere (.variableDeclaration 0 .var false)
    [.many [.node .nowhere (.declarator false) [(Ident.named "foo" .nowhere).pattern,.absent]]]
  let accessor : Node := .node .nowhere .getter
    [.leaf .nowhere (.propertyName "a"),.absent,.node .nowhere (.block 0) [.many [hidden]]]
  let options : Node := .node .nowhere .importOptions [.node .nowhere .object [.many [accessor]]]
  ⟨.module,.nowhere,[.node .nowhere (.typeAlias false (.named "T" .nowhere)) [.absent,
    .node .nowhere .importType
      [(StringLiteral.plain "m" .nowhere).toNode,.absent,.absent,options]]],none⟩

/-- A type keeps the attributes of its imports, and the variable of an accessor among them is taken
for one of the body: a hook of its name is refused, though the body does not bind it at its top
level. -/
theorem typeAccessor_refused :
    typeAccessor.shaped = true ∧ (⟨"foo"⟩ : Options).validate = .ok () ∧
      ∃ body, (typeAccessor.toFunctionBody {}).result = .ok body ∧
        (body.toFunctionBody ⟨"foo"⟩).result = .error (.importNameCollision "foo") ∧
        ∀ statement ∈ body.body, ¬ BindsAtTop "foo" statement := by
  refine ⟨by decide,rfl,_,rfl,rfl,?_⟩
  refine List.forall_mem_cons.mpr ⟨fun h => ?_,List.forall_mem_singleton.mpr fun h => ?_⟩
  all_goals cases h with
  | declared h hx => cases h <;> cases hx
  | hoisted h =>
    cases h with
    | nested hmem => cases hmem

end Program

end AsyncBody
