import AsyncBody.Proofs.LoweredItems

/-!
The statements of a function body declare what the items of the program declare, kind by kind, and
one fresh name for each synthetic local.
-/
namespace AsyncBody

namespace Loaded

def bound : Loaded → List Ident
  | .whole id => [id]
  | .property pattern => pattern.boundIdents

theorem boundIdents_pattern (id : Ident) : id.pattern.boundIdents = [id] := rfl

@[simp] theorem bound_named (imported : ExportName) (id : Ident) :
    (named imported id).bound = [id] := by
  unfold named
  split
  · split <;> rfl
  · rfl

theorem whole?_named (imported : ExportName) (id : Ident) : (named imported id).whole? = none := by
  unfold named
  split
  · split <;> rfl
  · rfl

theorem bound_perm (names : List Loaded) :
    (names.flatMap bound).Perm
      (names.filterMap whole? ++ (names.filterMap property?).flatMap Node.boundIdents) := by
  induction names with
  | nil => exact .refl _
  | cons name rest ih =>
    cases name with
    | whole id => exact ih.cons id
    | property pattern =>
      rw [List.flatMap_cons]
      refine (ih.append_left _).trans ?_
      exact List.perm_append_comm_assoc ..

end Loaded

namespace Lowering

/-- The names that a load binds: the last name for the module object, and those of the pattern. -/
def loadedIdents (names : List Loaded) : List Ident :=
  (names.filterMap Loaded.whole?).getLast?.toList ++
    (names.filterMap Loaded.property?).flatMap Node.boundIdents

theorem loadStatement_declared (hook : String) (span : Span) (request : Request)
    (names : List Loaded) :
    (loadStatement hook span request names).declared =
      (loadedIdents names).map fun id => (.lexical,id.name) := by
  have hpatterns (properties : List Node) :
      (properties.flatMap Node.boundIdents).map (fun id => (BindingKind.lexical,id.name)) =
        ((Node.boundIdentsAll properties).map (·.name)).map fun name => (.lexical,name) := by
    rw [Node.boundIdentsAll_eq,List.map_map]
    rfl
  dsimp only [loadStatement,loadedIdents]
  cases (names.filterMap Loaded.whole?).getLast? with
  | none =>
    cases hprops : names.filterMap Loaded.property? with
    | nil => rfl
    | cons pattern rest =>
      simp only [Option.toList_none,List.nil_append,hpatterns]
      simp [constDeclaration,objectPattern,declarator,Node.declared,Node.valueNames,
        Node.bindingKind,Node.leavesValue,Node.declaredIdents,Node.declaratorIdents,
        Node.boundIdents]
  | some id =>
    cases hprops : names.filterMap Loaded.property? with
    | nil => rfl
    | cons pattern rest =>
      simp only [List.map_append,hpatterns]
      simp [constDeclaration,objectPattern,declarator,Node.declared,Node.valueNames,
        Node.bindingKind,Node.leavesValue,Node.declaredIdents,Node.declaratorIdents,
        Node.boundIdents,Loaded.boundIdents_pattern]

theorem loadedIdents_subset (names : List Loaded) :
    loadedIdents names ⊆ names.flatMap Loaded.bound := by
  intro id hid
  refine (Loaded.bound_perm names).mem_iff.mpr ?_
  rcases List.mem_append.mp hid with hid | hid
  · exact List.mem_append_left _ (List.mem_of_getLast? (by simpa using hid))
  · exact List.mem_append_right _ hid

/-- Nothing is lost if the module object is bound as a whole at most once. -/
theorem loadedIdents_perm {names : List Loaded}
    (h : (names.filterMap Loaded.whole?).length ≤ 1) :
    (loadedIdents names).Perm (names.flatMap Loaded.bound) := by
  have hlast : (names.filterMap Loaded.whole?).getLast?.toList = names.filterMap Loaded.whole? := by
    match hw : names.filterMap Loaded.whole? with
    | [] => rfl
    | [_] => rfl
    | _ :: _ :: _ =>
      rw [hw] at h
      simp at h
  rw [loadedIdents,hlast]
  exact (Loaded.bound_perm names).symm

end Lowering

theorem ImportSpecifier.bound_of_loaded {s : ImportSpecifier} {l : Loaded} (h : s.loaded = some l) :
    l.bound = [s.bound] := by
  cases s with
  | named _ id imported typeOnly =>
    cases typeOnly with
    | true => cases h
    | false =>
      obtain rfl := Option.some.inj h
      exact Loaded.bound_named ..
  | default =>
    obtain rfl := Option.some.inj h
    rfl
  | whole =>
    obtain rfl := Option.some.inj h
    rfl

theorem ImportSpecifier.loaded_bound (specifiers : List ImportSpecifier) :
    (specifiers.filterMap ImportSpecifier.loaded).flatMap Loaded.bound =
      (specifiers.filter (! ·.isType)).map ImportSpecifier.bound := by
  induction specifiers with
  | nil => rfl
  | cons s rest ih =>
    cases h : s.loaded with
    | none =>
      have ht := (loaded_eq_none_iff s).mp h
      rw [List.filterMap_cons_none h,ih,List.filter_cons_of_neg (by simp [ht])]
    | some l =>
      have ht : s.isType = false := by
        rw [← Bool.not_eq_true,← loaded_eq_none_iff,h]
        simp
      rw [List.filterMap_cons_some h,List.flatMap_cons,ih,bound_of_loaded h,
        List.filter_cons_of_pos (by simp [ht])]
      rfl

theorem ImportSpecifier.loaded_isWhole {s : ImportSpecifier} {l : Loaded}
    (h : s.loaded = some l) : l.whole?.isSome = s.isWhole := by
  cases s with
  | named _ id imported typeOnly =>
    cases typeOnly with
    | true => cases h
    | false =>
      obtain rfl := Option.some.inj h
      rw [Loaded.whole?_named]
      rfl
  | default =>
    obtain rfl := Option.some.inj h
    rfl
  | whole =>
    obtain rfl := Option.some.inj h
    rfl

theorem ImportSpecifier.loaded_whole (specifiers : List ImportSpecifier) :
    ((specifiers.filterMap ImportSpecifier.loaded).filterMap Loaded.whole?).length =
      specifiers.countP (·.isWhole) := by
  rw [List.length_filterMap_eq_countP,List.countP_filterMap]
  refine List.countP_congr fun s _ => ?_
  cases h : s.loaded with
  | none =>
    cases s with
    | named => simp [isWhole]
    | default => cases h
    | whole => cases h
  | some l => simp [loaded_isWhole h]

namespace Lowering

open NameSupply

def Lowered.declared (l : Lowered) : List Declared := l.statement.toList.flatMap Node.declared

/-- What the lowering of an item declares is what the item does, and `made` beside it. -/
structure Lowered.Keeps (item : Node) (made : List Declared) (l : Lowered) : Prop where
  subset : l.declared ⊆ item.itemDeclared ++ made
  perm : item.bindsWholeOnce = true → l.declared.Perm (item.itemDeclared ++ made)
  hoisted : Node.hoistedVarsAll l.statement.toList = item.itemHoisted

theorem Lowered.Keeps.of_perm {item : Node} {made : List Declared} {l : Lowered}
    (hperm : l.declared.Perm (item.itemDeclared ++ made))
    (hhoisted : Node.hoistedVarsAll l.statement.toList = item.itemHoisted) : l.Keeps item made :=
  ⟨hperm.subset,fun _ => hperm,hhoisted⟩

theorem loadStatement_hoistedVars (hook : String) (span : Span) (request : Request)
    (names : List Loaded) : (loadStatement hook span request names).hoistedVars = [] := by
  dsimp only [loadStatement]
  split <;> rfl

def lexicalOf (ids : List Ident) : List Declared := ids.map fun id => (.lexical,id.name)

theorem Lowered.Keeps.of_load {hook : String} {span : Span} {request : Request}
    {names : List Loaded} {item : Node} {made : List Declared} {l : Lowered}
    (hl : l.statement = some (loadStatement hook span request names))
    (hbound : lexicalOf (names.flatMap Loaded.bound) = item.itemDeclared ++ made)
    (hwhole : item.bindsWholeOnce = true → (names.filterMap Loaded.whole?).length ≤ 1)
    (hhoisted : item.itemHoisted = []) : l.Keeps item made := by
  have hdeclared : l.declared = lexicalOf (loadedIdents names) := by
    rw [Lowered.declared,hl]
    simp [loadStatement_declared,lexicalOf]
  refine ⟨?_,?_,?_⟩
  · rw [hdeclared,← hbound]
    exact List.map_subset _ (loadedIdents_subset names)
  · intro honce
    rw [hdeclared,← hbound]
    exact (loadedIdents_perm (hwhole honce)).map _
  · rw [hl,hhoisted]
    simp [Node.hoistedVarsAll_eq,loadStatement_hoistedVars]

theorem Lowered.Keeps.of_dropped {item : Node} {l : Lowered} (hl : l.statement = none)
    (hdeclared : item.itemDeclared = []) (hhoisted : item.itemHoisted = []) : l.Keeps item [] := by
  refine .of_perm ?_ ?_
  · rw [Lowered.declared,hl,hdeclared]
    exact .refl _
  · rw [hl,hhoisted]
    rfl

theorem through_bound (span : Span) (specifier : ExportSpecifier) (name : String) :
    lexicalOf (specifier.through span name).1.bound = [(.lexical,name)] := by
  cases specifier with
  | named =>
    rw [ExportSpecifier.through,Loaded.bound_named]
    rfl
  | default | whole => rfl

theorem through_isWhole (span : Span) (specifier : ExportSpecifier) (name : String) :
    (specifier.through span name).1.whole?.isSome = specifier.isWhole := by
  cases specifier with
  | named =>
    rw [ExportSpecifier.through,Loaded.whole?_named]
    rfl
  | default | whole => rfl

section Through

variable (span : Span) {specifiers : List ExportSpecifier} {names : List String}

theorem zipWith_through_bound (h : names.length = specifiers.length) :
    lexicalOf (((specifiers.zipWith (·.through span) names).map (·.1)).flatMap Loaded.bound) =
      names.map fun name => (.lexical,name) := by
  induction specifiers generalizing names with
  | nil => rw [List.eq_nil_of_length_eq_zero h]; rfl
  | cons specifier rest ih =>
    cases names with
    | nil => cases h
    | cons name names =>
      rw [List.zipWith_cons_cons,List.map_cons,List.flatMap_cons,lexicalOf,List.map_append,
        List.map_cons,← ih (Nat.succ.inj h)]
      exact congrArg (· ++ _) (through_bound span specifier name)

theorem zipWith_through_whole (h : names.length = specifiers.length) :
    (((specifiers.zipWith (·.through span) names).map (·.1)).filterMap Loaded.whole?).length =
      specifiers.countP (·.isWhole) := by
  rw [List.length_filterMap_eq_countP,List.countP_map]
  induction specifiers generalizing names with
  | nil => rfl
  | cons specifier rest ih =>
    cases names with
    | nil => cases h
    | cons name names =>
      rw [List.zipWith_cons_cons,List.countP_cons,List.countP_cons,ih (Nat.succ.inj h)]
      simp only [Function.comp,through_isWhole]

end Through

theorem itemDeclared_of_dropEvent {n : Node} {event : Event} (h : n.dropEvent = some event) :
    n.itemDeclared = [] ∧ n.itemHoisted = [] := by
  unfold Node.dropEvent at h
  split at h
  · rename_i specifiers _ typeOnly _ _
    cases typeOnly with
    | true => exact ⟨rfl,rfl⟩
    | false =>
      refine ⟨?_,rfl⟩
      rw [if_neg Bool.false_ne_true] at h
      split at h
      · rename_i htypes
        have hall := List.all_eq_true.mp (Bool.and_eq_true_iff.mp htypes).2
        show (specifiers.filter (! ·.isType)).map _ = []
        rw [List.map_eq_nil_iff,List.filter_eq_nil_iff]
        exact fun specifier hmem => by simp [hall specifier hmem]
      · cases h
  all_goals first
    | exact ⟨rfl,rfl⟩
    | cases h

theorem itemDeclared_kept {n : Node} (h : isLowered n = false) : n.itemDeclared = n.declared := by
  unfold Node.itemDeclared
  split
  all_goals first
    | cases h
    | rfl

theorem itemHoisted_kept {n : Node} (h : isLowered n = false) : n.itemHoisted = n.hoistedVars := by
  unfold Node.itemHoisted
  split
  all_goals first
    | cases h
    | rfl

theorem Lowered.Keeps.of_routed {item statement : Node} {l : Lowered} (hook : String)
    (hl : l.statement = some (Node.route hook statement).result)
    (hdeclared : item.itemDeclared = statement.declared)
    (hhoisted : item.itemHoisted = statement.hoistedVars) : l.Keeps item [] := by
  refine .of_perm ?_ ?_
  · rw [Lowered.declared,hl,hdeclared,List.append_nil,Option.toList_some,List.flatMap_singleton,
      Node.declared_route]
  · rw [hl,hhoisted,Option.toList_some,Node.hoistedVarsAll_eq,List.flatMap_singleton,
      Node.hoistedVars_route]

theorem Loads.whole {n : Node} {names : List String} {m : ModuleLoad} (h : Loads n names m)
    (honce : n.bindsWholeOnce = true) : (m.names.filterMap Loaded.whole?).length ≤ 1 := by
  cases h with
  | imported =>
    rw [ImportSpecifier.loaded_whole]
    simpa [Node.bindsWholeOnce] using honce
  | @reexported span specifiers source attributes names h hlength =>
    have hcount : specifiers.countP (·.isWhole) ≤ 1 := by simpa [Node.bindsWholeOnce] using honce
    rw [zipWith_through_whole span hlength]
    exact Nat.le_trans (List.Sublist.countP_le List.filter_sublist) hcount
  | star => exact Nat.zero_le _

theorem Loads.keeps {n : Node} {names : List String} {m : ModuleLoad} (h : Loads n names m)
    (hook : String) : (m.lowered hook).Keeps n (names.map fun name => (.lexical,name)) := by
  have hwhole := h.whole
  cases h with
  | imported =>
    refine .of_load rfl ?_ hwhole rfl
    rw [ImportSpecifier.loaded_bound]
    simp [lexicalOf,Node.itemDeclared]
  | reexported h hlength => exact .of_load rfl (zipWith_through_bound _ hlength) hwhole rfl
  | star => exact .of_load rfl rfl hwhole rfl

theorem Lowers.keeps {hook : String} {n : Node} {names : List String} {l : Lowered}
    (h : Lowers hook n names l) :
    ∃ made : List Declared, made.map Prod.snd = names ∧ l.Keeps n made := by
  cases h with
  | kept h => exact ⟨[],rfl,.of_routed hook rfl (itemDeclared_kept h) (itemHoisted_kept h)⟩
  | dropped h =>
    obtain ⟨hdeclared,hhoisted⟩ := itemDeclared_of_dropEvent h
    exact ⟨[],rfl,.of_dropped rfl hdeclared hhoisted⟩
  | loaded h => exact ⟨_,by rw [List.map_map]; exact List.map_id _,h.keeps hook⟩
  | exported => exact ⟨[],rfl,.of_routed hook rfl rfl (List.append_nil _)⟩
  | listed => exact ⟨[],rfl,.of_dropped rfl rfl rfl⟩
  | @ownDefault _ declaration _ h =>
    refine ⟨[],rfl,?_⟩
    unfold Node.ownName at h
    split at h
    · obtain rfl := h
      exact .of_perm (.refl _) rfl
    · obtain rfl := h
      exact .of_perm (.refl _) rfl
    · cases h
  | @freshDefault _ declaration name hnameable h =>
    unfold Node.isNameable at hnameable
    split at hnameable
    · obtain rfl := h
      exact ⟨[(.function,name)],rfl,.of_perm (.refl _) rfl⟩
    · obtain rfl := h
      exact ⟨[(.lexical,name)],rfl,.of_perm (.refl _) rfl⟩
    · cases hnameable
  | @otherDefault _ declaration h =>
    refine ⟨[],rfl,.of_routed hook rfl ?_ rfl⟩
    show declaration.defaultDeclared = _
    unfold Node.defaultDeclared
    split
    · cases h
    · cases h
    · rfl
  | @defaultValue _ _ name | @assignedValue _ _ name =>
    exact ⟨[(.lexical,name)],rfl,.of_perm (.refl _) rfl⟩
  | reference => exact ⟨[],rfl,.of_perm (.refl _) rfl⟩

theorem item_keeps (hook : String) (n : Node) (s : NameSupply) :
    ∃ made, Draws s (made.map Prod.snd) (item hook (Node.route hook n).result s).2 ∧
      (item hook (Node.route hook n).result s).1.Keeps n made := by
  obtain ⟨made,hnames,hkeeps⟩ := (item_lowers hook n s).keeps
  refine ⟨made,?_,hkeeps⟩
  rw [hnames,item_supply]
  exact draw_draws _ s

theorem items_keep (hook : String) (ns : List Node) (s : NameSupply) :
    ∃ made, Draws s (made.map Prod.snd) (items hook (Node.routeAll hook ns).result s).2 ∧
      (items hook (Node.routeAll hook ns).result s).1.flatMap Lowered.declared ⊆
        ns.flatMap Node.itemDeclared ++ made ∧
      ((∀ n ∈ ns, n.bindsWholeOnce = true) →
        ((items hook (Node.routeAll hook ns).result s).1.flatMap Lowered.declared).Perm
          (ns.flatMap Node.itemDeclared ++ made)) ∧
      Node.hoistedVarsAll ((items hook (Node.routeAll hook ns).result s).1.filterMap (·.statement)) =
        ns.flatMap Node.itemHoisted := by
  induction ns generalizing s with
  | nil => exact ⟨[],.none,List.Subset.refl _,fun _ => .refl _,rfl⟩
  | cons n rest ih =>
    obtain ⟨made,hdraws,hkeeps⟩ := item_keeps hook n s
    obtain ⟨others,hothers,hsubset,hperm,hhoisted⟩ := ih (item hook (Node.route hook n).result s).2
    have hswap : (n.itemDeclared ++ made ++ (rest.flatMap Node.itemDeclared ++ others)).Perm
        ((n::rest).flatMap Node.itemDeclared ++ (made++others)) := by
      rw [List.flatMap_cons,List.append_assoc,List.append_assoc]
      exact (List.perm_append_comm_assoc ..).append_left _
    refine ⟨made++others,?_,?_,?_,?_⟩
    · rw [List.map_append]
      exact hdraws.append hothers
    · rw [List.flatMap_cons]
      intro d hd
      refine hswap.subset ?_
      rcases List.mem_append.mp hd with hd | hd
      · exact List.mem_append_left _ (hkeeps.subset hd)
      · exact List.mem_append_right _ (hsubset hd)
    · intro honce
      rw [List.flatMap_cons]
      have hfirst := hkeeps.perm (honce n List.mem_cons_self)
      have hrest := hperm fun n hn => honce n (List.mem_cons_of_mem _ hn)
      exact (hfirst.append hrest).trans hswap
    · rw [items_route_cons,statements_cons,List.flatMap_cons,← hkeeps.hoisted,← hhoisted]
      simp only [Node.hoistedVarsAll_eq,List.flatMap_append]

theorem exists_item_of_mem {hook : String} {statement : Node} {ns : List Node} {s : NameSupply}
    (h : statement ∈ (items hook ns s).1.filterMap (·.statement)) :
    ∃ n ∈ ns, ∃ t, (item hook n t).1.statement = some statement := by
  induction ns generalizing s with
  | nil => cases h
  | cons n rest ih =>
    obtain ⟨l,hl,hstatement⟩ := List.mem_filterMap.mp h
    rcases List.mem_cons.mp hl with rfl | hl
    · exact ⟨n,List.mem_cons_self,s,hstatement⟩
    · obtain ⟨m,hm,t,hm'⟩ := ih (List.mem_filterMap.mpr ⟨l,hl,hstatement⟩)
      exact ⟨m,List.mem_cons_of_mem _ hm,t,hm'⟩

end Lowering

theorem Options.validate_eq_error {options : Options} {e : ConfigError}
    (h : options.validate = .error e) : e = .invalidImportName options.importName := by
  rw [validate] at h
  split at h <;> cases h
  rfl

namespace Program

def supplyAfter (hook : String) (p : Program) : NameSupply :=
  (Lowering.items hook (p.route hook).result.body (.ofProgram p hook)).2

theorem toFunctionBody_eq_ok {options : Options} {p body : Program} :
    (p.toFunctionBody options).result = .ok body ↔
      options.validate = .ok () ∧ options.importName ∉ p.topLevelNames ∧
        p.shadowedUses options.importName = [] ∧
        (p.lower options.importName (.ofProgram p options.importName)).result = body := by
  dsimp only [toFunctionBody]
  cases options.validate with
  | error e => simp
  | ok =>
    by_cases htop : options.importName ∈ p.topLevelNames
    · simp [htop]
    · by_cases hshadowed : p.shadowedUses options.importName = []
      · simp [htop,hshadowed]
      · simp [htop,hshadowed]

theorem toFunctionBody_of_clear {options : Options} {p : Program} (hvalid : options.validate = .ok ())
    (htop : options.importName ∉ p.topLevelNames)
    (huses : p.shadowedUses options.importName = []) :
    p.toFunctionBody options =
      ⟨.ok (p.lower options.importName (.ofProgram p options.importName)).result,
        (p.lower options.importName (.ofProgram p options.importName)).events⟩ := by
  simp [toFunctionBody,hvalid,htop,huses]

/-- A program is refused for a hook that it binds at the top level before its scopes are looked
at. -/
theorem toFunctionBody_eq_collision {options : Options} {p : Program} {name : String} :
    (p.toFunctionBody options).result = .error (.importNameCollision name) ↔
      options.validate = .ok () ∧ name = options.importName ∧
        options.importName ∈ p.topLevelNames := by
  dsimp only [toFunctionBody]
  cases hvalid : options.validate with
  | error e =>
    simp [Options.validate_eq_error hvalid]
  | ok =>
    by_cases htop : options.importName ∈ p.topLevelNames
    · simp [htop,eq_comm (a := name)]
    · by_cases hshadowed : p.shadowedUses options.importName = []
      · simp [htop,hshadowed]
      · simp [htop,hshadowed]

theorem toFunctionBody_eq_shadowed {options : Options} {p : Program} {name : String} :
    (p.toFunctionBody options).result = .error (.importNameShadowed name) ↔
      options.validate = .ok () ∧ name = options.importName ∧
        options.importName ∉ p.topLevelNames ∧ p.shadowedUses options.importName ≠ [] := by
  dsimp only [toFunctionBody]
  cases hvalid : options.validate with
  | error e =>
    simp [Options.validate_eq_error hvalid]
  | ok =>
    by_cases htop : options.importName ∈ p.topLevelNames
    · simp [htop]
    · by_cases hshadowed : p.shadowedUses options.importName = []
      · simp [htop,hshadowed]
      · simp [htop,hshadowed,eq_comm (a := name)]

theorem lower_body (hook : String) (supply : NameSupply) (p : Program) :
    (p.lower hook supply).result.body =
      (Lowering.items hook (p.route hook).result.body supply).1.filterMap (·.statement) ++
        [Export.returnStatement p.span
          ((Lowering.items hook (p.route hook).result.body supply).1.flatMap (·.exports))] := rfl

theorem route_body (hook : String) (p : Program) :
    (p.route hook).result.body = p.body.map fun n => (Node.route hook n).result :=
  Node.routeAll_result hook p.body

def assemble (span : Span) (uses : List HookUse) (items : List Lowering.Lowered) :
    Reported Program :=
  let exports := items.flatMap (·.exports)
  { result := ⟨.script,span,
      items.filterMap (·.statement) ++ [Export.returnStatement span exports],none⟩
    events := uses.map .replaced ++ items.flatMap (·.events) ++
      [.finished (items.foldr (·.requests + ·) 0) exports.length uses.length] }

theorem lower_eq_assemble (p : Program) (hook : String) (supply : NameSupply) :
    p.lower hook supply = assemble p.span (p.route hook).uses
      (Lowering.items hook (p.body.map fun n => (Node.route hook n).result) supply).1 := by
  rw [← route_body]
  rfl

/-- The statements of a body come from the items of the program, the last one apart. -/
theorem mem_lower_body {hook : String} {p : Program} {supply : NameSupply} {statement : Node}
    (h : statement ∈ (p.lower hook supply).result.body) :
    (∃ n ∈ p.body, ∃ s, (Lowering.item hook (Node.route hook n).result s).1.statement =
      some statement) ∨ ∃ table, statement = Export.returnStatement p.span table := by
  rw [lower_body,route_body] at h
  rcases List.mem_append.mp h with h | h
  · obtain ⟨_,hrouted,s,hstatement⟩ := Lowering.exists_item_of_mem h
    obtain ⟨n,hn,rfl⟩ := List.mem_map.mp hrouted
    exact .inl ⟨n,hn,s,hstatement⟩
  · exact .inr ⟨_,List.mem_singleton.mp h⟩

theorem lower_declared (hook : String) (supply : NameSupply) (p : Program) :
    (p.lower hook supply).result.body.flatMap Node.declared =
      (Lowering.items hook (p.route hook).result.body supply).1.flatMap
        Lowering.Lowered.declared := by
  rw [lower_body,List.flatMap_append]
  have hreturn (table : List Export) :
      [Export.returnStatement p.span table].flatMap Node.declared = [] := rfl
  rw [hreturn,List.append_nil]
  induction (Lowering.items hook (p.route hook).result.body supply).1 with
  | nil => rfl
  | cons l rest ih =>
    rw [List.flatMap_cons,← ih]
    cases hstatement : l.statement with
    | none =>
      rw [List.filterMap_cons_none hstatement,Lowering.Lowered.declared,hstatement]
      rfl
    | some statement =>
      rw [List.filterMap_cons_some hstatement,Lowering.Lowered.declared,hstatement]
      simp

theorem lower_hoistedVars (hook : String) (supply : NameSupply) (p : Program) :
    Node.hoistedVarsAll (p.lower hook supply).result.body =
      Node.hoistedVarsAll
        ((Lowering.items hook (p.route hook).result.body supply).1.filterMap (·.statement)) := by
  rw [lower_body,Node.hoistedVarsAll_eq,List.flatMap_append,← Node.hoistedVarsAll_eq]
  exact List.append_nil _

theorem lower_keeps (hook : String) (p : Program) :
    ∃ made : List Declared,
      NameSupply.Draws (.ofProgram p hook) (made.map Prod.snd) (p.supplyAfter hook) ∧
      (p.lower hook (.ofProgram p hook)).result.body.flatMap Node.declared ⊆
        p.body.flatMap Node.itemDeclared ++ made ∧
      ((∀ item ∈ p.body, item.bindsWholeOnce = true) →
        ((p.lower hook (.ofProgram p hook)).result.body.flatMap Node.declared).Perm
          (p.body.flatMap Node.itemDeclared ++ made)) ∧
      Node.hoistedVarsAll (p.lower hook (.ofProgram p hook)).result.body =
        p.body.flatMap Node.itemHoisted := by
  rw [lower_declared,lower_hoistedVars]
  exact Lowering.items_keep hook p.body (.ofProgram p hook)

/-- A program that is accepted becomes a body that declares what its items declare, kind by kind,
and beside that exactly the names that were handed out, each once. These are new to the program, so
they capture no reference and clash with no declaration. -/
theorem toFunctionBody_declared (options : Options) (p body : Program)
    (hwhole : ∀ item ∈ p.body, item.bindsWholeOnce = true)
    (hok : (p.toFunctionBody options).result = .ok body) :
    ∃ synthetic : List Declared,
      (p.supplyAfter options.importName).taken =
        (synthetic.map Prod.snd).reverse ++ (NameSupply.ofProgram p options.importName).taken ∧
      (body.body.flatMap Node.declared).Perm (p.body.flatMap Node.itemDeclared ++ synthetic) ∧
      Node.hoistedVarsAll body.body = p.body.flatMap Node.itemHoisted ∧
      (synthetic.map Prod.snd).Nodup ∧
      (∀ name ∈ synthetic.map Prod.snd,
        name ≠ options.importName ∧ name ∉ Node.spelledAll p.body) ∧
      ((lexicalNames (p.body.flatMap Node.itemDeclared)).Nodup →
        (lexicalNames (body.body.flatMap Node.declared)).Nodup) ∧
      (NoLexicalClash (p.body.flatMap Node.itemDeclared) (p.body.flatMap Node.itemHoisted) →
        NoLexicalClash (body.body.flatMap Node.declared) (Node.hoistedVarsAll body.body)) := by
  obtain ⟨-,-,-,rfl⟩ := toFunctionBody_eq_ok.mp hok
  let hook := options.importName
  obtain ⟨synthetic,hdraws,-,hperm,hhoisted⟩ := lower_keeps hook p
  have hnew : ∀ name ∈ synthetic.map Prod.snd, name ≠ hook ∧ name ∉ Node.spelledAll p.body := by
    intro name hname
    have hfree := hdraws.not_mem_taken name hname
    exact ⟨fun h => hfree (h ▸ List.mem_cons_self),fun h => hfree (List.mem_cons_of_mem _ h)⟩
  have hout := hperm hwhole
  rw [hhoisted]
  have hfresh : ∀ name ∈ synthetic.map Prod.snd,
      name ∉ (p.body.flatMap Node.itemDeclared).map Prod.snd ∧
        name ∉ p.body.flatMap Node.itemHoisted := by
    intro name hname
    have hspelled := (hnew name hname).2
    rw [Node.spelledAll_eq] at hspelled
    constructor
    · intro h
      obtain ⟨d,hd,rfl⟩ := List.mem_map.mp h
      obtain ⟨item,hitem,hd⟩ := List.mem_flatMap.mp hd
      exact hspelled (List.mem_flatMap.mpr
        ⟨item,hitem,Node.mentioned_spelled (Node.itemDeclared_mentioned hd)⟩)
    · intro h
      obtain ⟨item,hitem,h⟩ := List.mem_flatMap.mp h
      exact hspelled (List.mem_flatMap.mpr
        ⟨item,hitem,Node.mentioned_spelled (Node.itemHoisted_mentioned h)⟩)
  refine ⟨synthetic,hdraws.taken_eq,hout,rfl,hdraws.nodup,hnew,?_,?_⟩
  · intro hlexical
    refine (NoLexicalClash.lexicalNames_perm hout).nodup_iff.mpr ?_
    exact NoLexicalClash.lexicalNames_append_nodup hlexical hdraws.nodup
      fun name hname => (hfresh name hname).1
  · exact fun hclash => (hclash.append hdraws.nodup hfresh).of_perm hout

/-- A program with an item of every kind that binds names; `_a` is spelled, so the re-export of `a`
gets the name `_a1`. -/
def mixedItems : Program :=
  let id (name : String) : Ident := .named name .nowhere
  let module (name : String) : StringLiteral := .plain name .nowhere
  ⟨.module,.nowhere,
    [ .node .nowhere (.importDeclaration [.default .nowhere (id "d"),.whole .nowhere (id "ns")]
        (module "m") false .evaluation) [.absent],
      .node .nowhere (.exportNamed [.named .nowhere (.ident (id "a")) none false,
        .whole .nowhere (.ident (id "all"))] (some (module "m")) false) [.absent],
      .node .nowhere (.exportAll (module "s") false) [.absent],
      .node .nowhere .exportDeclaration [.node .nowhere (.variableDeclaration 0 .var false)
        [.many [.node .nowhere (.declarator false) [(id "_a").pattern,.absent]]]],
      .node .nowhere .exportDefaultDeclaration [.node .nowhere (.functionExpression none)
        [.node .nowhere (.function 0 false false)
          [.many [],.many [],.node .nowhere (.block 0) [.many []],.absent,.absent]]] ],none⟩

theorem mixedItems_toFunctionBody :
    ∃ body, (mixedItems.toFunctionBody {}).result = .ok body ∧
      body.body.flatMap Node.declared = [(.lexical,"ns"),(.lexical,"d"),(.lexical,"_all"),
        (.lexical,"_a1"),(.lexical,"_unused"),(.lexical,"_exportAll"),(.variable,"_a"),
        (.function,"_default")] ∧
      ∃ synthetic, (body.body.flatMap Node.declared).Perm
        (mixedItems.body.flatMap Node.itemDeclared ++ synthetic) ∧
        (synthetic.map Prod.snd).Nodup := by
  let body := (mixedItems.lower "$import" (.ofProgram mixedItems "$import")).result
  have hok : (mixedItems.toFunctionBody {}).result = .ok body :=
    toFunctionBody_eq_ok.mpr ⟨rfl,by decide +kernel,by decide +kernel,rfl⟩
  obtain ⟨synthetic,-,hperm,-,hnodup,-⟩ :=
    toFunctionBody_declared {} mixedItems body (by decide) hok
  exact ⟨body,hok,by decide +kernel,synthetic,hperm,hnodup⟩

end Program

end AsyncBody
