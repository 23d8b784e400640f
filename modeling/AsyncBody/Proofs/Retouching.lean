import AsyncBody.Proofs.ItemOrder

/-!
A change of the places and of the names in a tree. What the lowering generates is changed where its
ingredients are, as long as the names under which modules import and export stay.
-/
namespace AsyncBody

open Hook Node

/-- A change of places and of names, which keeps different names different. -/
structure Retouch where
  place : Span → Span
  name : String → String
  nowhere : place .nowhere = .nowhere
  injective : Function.Injective name

namespace Retouch

def unplace : Retouch := ⟨fun _ => .nowhere,id,rfl,Function.injective_id⟩

def rename (ρ : String → String) (hρ : Function.Injective ρ) : Retouch := ⟨id,ρ,rfl,hρ⟩

def placing (τ : Retouch) : Retouch := ⟨τ.place,id,τ.nowhere,Function.injective_id⟩

def Keeps (τ : Retouch) (x : String) : Prop := τ.name x = x

theorem Keeps.eq_iff {τ : Retouch} {x : String} (h : τ.Keeps x) (y : String) :
    x = τ.name y ↔ x = y := by
  constructor
  · intro heq
    exact τ.injective (h.trans heq)
  · rintro rfl
    exact h.symm

end Retouch

def Ident.retouch (τ : Retouch) (id : Ident) : Ident :=
  { id with span := τ.place id.span, name := τ.name id.name }

def StringLiteral.retouch (τ : Retouch) (s : StringLiteral) : StringLiteral :=
  { s with span := τ.place s.span }

def ExportName.retouch (τ : Retouch) : ExportName → ExportName
  | .ident name => .ident (name.retouch τ)
  | .string name => .string (name.retouch τ)

def ModuleName.retouch (τ : Retouch) : ModuleName → ModuleName
  | .ident name => .ident (name.retouch τ)
  | .string name => .string (name.retouch τ)

def ImportSpecifier.retouch (τ : Retouch) : ImportSpecifier → ImportSpecifier
  | .named span bound imported typeOnly =>
    .named (τ.place span) (bound.retouch τ) (imported.map (·.retouch τ.placing)) typeOnly
  | .default span bound => .default (τ.place span) (bound.retouch τ)
  | .whole span bound => .whole (τ.place span) (bound.retouch τ)

def ExportSpecifier.retouch (τ : Retouch) : ExportSpecifier → ExportSpecifier
  | .named span inner exported typeOnly =>
    .named (τ.place span) (inner.retouch τ) (exported.map (·.retouch τ.placing)) typeOnly
  | .default exported => .default (exported.retouch τ.placing)
  | .whole span exported => .whole (τ.place span) (exported.retouch τ.placing)

/-- Changes the identifiers that a form holds, and the places. Names of properties stay, and those
of the exports of a module. -/
def Form.retouch (τ : Retouch) : Form → Form
  | .ident ctxt name optional => .ident ctxt (τ.name name) optional
  | .binding ctxt name optional => .binding ctxt (τ.name name) optional
  | .argument dots => .argument (dots.map τ.place)
  | .spread dots => .spread (τ.place dots)
  | .restElement dots => .restElement (τ.place dots)
  | .functionExpression name => .functionExpression (name.map (·.retouch τ))
  | .classExpression name => .classExpression (name.map (·.retouch τ))
  | .functionDeclaration name declare => .functionDeclaration (name.retouch τ) declare
  | .classDeclaration name declare => .classDeclaration (name.retouch τ) declare
  | .enumDeclaration declare isConst name => .enumDeclaration declare isConst (name.retouch τ)
  | .moduleDeclaration declare global isNamespace name =>
    .moduleDeclaration declare global isNamespace (name.retouch τ)
  | .namespaceDeclaration declare global name =>
    .namespaceDeclaration declare global (name.retouch τ)
  | .interfaceDeclaration name declare => .interfaceDeclaration (name.retouch τ) declare
  | .typeAlias declare name => .typeAlias declare (name.retouch τ)
  | .importDeclaration specifiers source typeOnly phase =>
    .importDeclaration (specifiers.map (·.retouch τ)) (source.retouch τ) typeOnly phase
  | .exportNamed specifiers none typeOnly =>
    .exportNamed (specifiers.map (·.retouch τ)) none typeOnly
  | .exportNamed specifiers (some source) typeOnly =>
    .exportNamed (specifiers.map (·.retouch τ.placing)) (some (source.retouch τ)) typeOnly
  | .exportAll source typeOnly => .exportAll (source.retouch τ) typeOnly
  | .importEquals isExport typeOnly name => .importEquals isExport typeOnly (name.retouch τ)
  | .externalModule source => .externalModule (source.retouch τ)
  | .exportAsNamespace name => .exportAsNamespace (name.retouch τ)
  | form => form

namespace Node

mutual

def retouch (τ : Retouch) : Node → Node
  | .absent => .absent
  | .many items => .many (retouchAll τ items)
  | .node span form parts => .node (τ.place span) (form.retouch τ) (retouchAll τ parts)

def retouchAll (τ : Retouch) : List Node → List Node
  | [] => []
  | item :: rest => retouch τ item :: retouchAll τ rest

end

end Node

def Program.retouch (τ : Retouch) (p : Program) : Program :=
  { p with span := τ.place p.span, body := Node.retouchAll τ p.body }

section Kept

variable {τ : Retouch}

theorem Ident.retouch_of_keeps (hplace : τ.place = id) {i : Ident} (h : τ.Keeps i.name) :
    i.retouch τ = i := by
  rw [retouch,hplace,h]
  rfl

theorem StringLiteral.retouch_eq_self (hplace : τ.place = id) (s : StringLiteral) :
    s.retouch τ = s := by
  rw [retouch,hplace]
  rfl

theorem ExportName.retouch_of_keeps (hplace : τ.place = id) {name : ExportName}
    (h : ∀ i ∈ name.idents, τ.Keeps i.name) : name.retouch τ = name := by
  cases name with
  | ident name => exact congrArg ident (Ident.retouch_of_keeps hplace (h name List.mem_cons_self))
  | string name => exact congrArg string (StringLiteral.retouch_eq_self hplace name)

theorem ExportName.retouch_placing (hplace : τ.place = id) (name : ExportName) :
    name.retouch τ.placing = name :=
  retouch_of_keeps (τ := τ.placing) hplace fun _ _ => rfl

theorem ImportSpecifier.retouch_of_keeps (hplace : τ.place = id) {s : ImportSpecifier}
    (h : τ.Keeps s.bound.name) : s.retouch τ = s := by
  have hbound : s.bound.retouch τ = s.bound := Ident.retouch_of_keeps hplace h
  cases s with
  | named span bound imported typeOnly =>
    have himported : imported.map (·.retouch τ.placing) = imported := by
      cases imported with
      | none => rfl
      | some imported => exact congrArg some (ExportName.retouch_placing hplace imported)
    rw [retouch,himported,hplace]
    exact congrArg (named span · imported typeOnly) hbound
  | default span bound | whole span bound =>
    rw [retouch,hplace]
    exact congrArg _ hbound

theorem ExportSpecifier.retouch_of_keeps (hplace : τ.place = id) {s : ExportSpecifier}
    (h : ∀ i ∈ s.inner, τ.Keeps i.name) : s.retouch τ = s := by
  cases s with
  | named span inner exported typeOnly =>
    have hinner : inner.retouch τ = inner := ExportName.retouch_of_keeps hplace h
    have hexported : exported.map (·.retouch τ.placing) = exported := by
      cases exported with
      | none => rfl
      | some exported => exact congrArg some (ExportName.retouch_placing hplace exported)
    rw [retouch,hinner,hexported,hplace]
    rfl
  | default exported =>
    exact congrArg default (Ident.retouch_of_keeps (τ := τ.placing) hplace rfl)
  | whole span exported =>
    rw [retouch,ExportName.retouch_placing hplace,hplace]
    rfl

theorem Form.retouch_of_keeps (hplace : τ.place = id) {form : Form}
    (h : ∀ x ∈ form.mentioned, τ.Keeps x) : form.retouch τ = form := by
  have hone : ∀ {i : Ident}, (∀ x ∈ [i.name], τ.Keeps x) → i.retouch τ = i := fun hi =>
    Ident.retouch_of_keeps hplace (hi _ List.mem_cons_self)
  have hoption : ∀ {name : Option Ident}, (∀ x ∈ name.toList.map (·.name), τ.Keeps x) →
      name.map (·.retouch τ) = name := by
    intro name hname
    cases name with
    | none => rfl
    | some i => exact congrArg some (hone hname)
  have hliteral := fun s : StringLiteral => StringLiteral.retouch_eq_self hplace s
  unfold Form.retouch
  split
  · rw [h _ List.mem_cons_self]
  · rw [h _ List.mem_cons_self]
  · simp [hplace]
  · rw [hplace]; rfl
  · rw [hplace]; rfl
  · rw [hoption h]
  · rw [hoption h]
  iterate 3 rw [hone h]
  · rename_i name
    cases name with
    | ident name => rw [ModuleName.retouch,hone h]
    | string name => rw [ModuleName.retouch,hliteral]
  iterate 3 rw [hone h]
  · rename_i specifiers _ _ _
    rw [hliteral,List.map_congr_left (g := id),List.map_id]
    intro s hs
    exact ImportSpecifier.retouch_of_keeps hplace (h _ (List.mem_map.mpr ⟨s,hs,rfl⟩))
  · rename_i specifiers _
    rw [List.map_congr_left (g := id),List.map_id]
    intro s hs
    refine ExportSpecifier.retouch_of_keeps hplace fun i hi => h _ ?_
    exact List.mem_flatMap.mpr ⟨s,hs,List.mem_map_of_mem hi⟩
  · rw [hliteral,List.map_congr_left (g := id),List.map_id]
    intro s _
    exact ExportSpecifier.retouch_of_keeps (τ := τ.placing) hplace fun _ _ => rfl
  · rw [hliteral]
  · rw [hone h]
  · rw [hliteral]
  · rw [hone h]
  · rfl

end Kept

namespace Node

variable {τ : Retouch}

theorem retouchAll_eq (items : List Node) : retouchAll τ items = items.map (retouch τ) := by
  induction items with
  | nil => rfl
  | cons item rest ih => rw [retouchAll,ih,List.map_cons]

theorem retouch_of_keeps (hplace : τ.place = id) {n : Node} (h : ∀ x ∈ n.spelled, τ.Keeps x) :
    n.retouch τ = n := by
  have hitems : ∀ {items : List Node}, (∀ item ∈ items, (∀ x ∈ item.spelled, τ.Keeps x) →
      item.retouch τ = item) → (∀ x ∈ spelledAll items, τ.Keeps x) → retouchAll τ items = items := by
    intro items ih hall
    rw [spelledAll_eq] at hall
    rw [retouchAll_eq,List.map_congr_left (g := id),List.map_id]
    exact fun item hitem => ih item hitem fun x hx => hall x (List.mem_flatMap.mpr ⟨item,hitem,hx⟩)
  induction n using Node.induction with
  | absent => rfl
  | many items ih => rw [retouch,hitems ih h]
  | node span form parts ih =>
    have hform : form.retouch τ = form := Form.retouch_of_keeps hplace fun x hx =>
      h x (List.mem_append_left _ (form.mentioned_spelled hx))
    rw [retouch,hform,hitems ih fun x hx => h x (List.mem_append_right _ hx),hplace]
    rfl

theorem retouch_nowhere {form : Form} (h : form.retouch τ = form) (parts : List Node) :
    (node .nowhere form parts).retouch τ = node .nowhere form (retouchAll τ parts) := by
  rw [retouch,h,τ.nowhere]

theorem span_retouch (n : Node) : (n.retouch τ).span = τ.place n.span := by
  cases n with
  | node => rfl
  | absent | many => exact τ.nowhere.symm

theorem isPresent_retouch (n : Node) : (n.retouch τ).isPresent = n.isPresent := by
  cases n <;> rfl

theorem replace_retouch (hook : String) (n : Node) :
    (replace hook n).retouch τ = replace (τ.name hook) (n.retouch τ) := by
  cases n with
  | absent | many => rfl
  | node span form parts =>
    cases form with
    | call ctxt =>
      match parts with
      | [] | .absent :: _ | .many _ :: _ => rfl
      | .node place callee inner :: rest =>
        cases callee with
        | importKeyword phase => cases phase <;> rfl
        | exportNamed _ source _ => cases source <;> rfl
        | _ => rfl
    | metaProperty kind => cases kind <;> rfl
    | exportNamed _ source _ => cases source <;> rfl
    | _ => rfl

/-- Routing a retouched tree is retouching the routed one. -/
theorem route_retouch (hook : String) (n : Node) :
    (route hook n).result.retouch τ = (route (τ.name hook) (n.retouch τ)).result := by
  have hitems : ∀ {items : List Node}, (∀ item ∈ items,
      (route hook item).result.retouch τ = (route (τ.name hook) (item.retouch τ)).result) →
      retouchAll τ (routeAll hook items).result =
        (routeAll (τ.name hook) (retouchAll τ items)).result := by
    intro items ih
    rw [retouchAll_eq,retouchAll_eq,routeAll_result,routeAll_result,List.map_map,List.map_map]
    exact List.map_congr_left ih
  induction n using Node.induction with
  | absent => rfl
  | many items ih => exact congrArg many (hitems ih)
  | node span form parts ih =>
    have hreplaced := replace_retouch (τ := τ) hook (.node span form (routeAll hook parts).result)
    rw [retouch,hitems ih] at hreplaced
    exact hreplaced

end Node

section Generated

variable {τ : Retouch}

theorem Ident.retouch_reference (i : Ident) :
    i.reference.retouch τ = (i.retouch τ).reference := rfl

theorem Ident.retouch_pattern (i : Ident) : i.pattern.retouch τ = (i.retouch τ).pattern := rfl

theorem Ident.retouch_named (name : String) (span : Span) :
    (Ident.named name span).retouch τ = .named (τ.name name) (τ.place span) := rfl

namespace Loaded

def retouch (τ : Retouch) : Loaded → Loaded
  | .whole bound => .whole (bound.retouch τ)
  | .property pattern => .property (pattern.retouch τ)

theorem keyed_retouch (key : Node) (bound : Ident) :
    (keyed key bound).retouch τ = keyed (key.retouch τ) (bound.retouch τ) :=
  congrArg Loaded.property (Node.retouch_nowhere rfl [key,bound.pattern])

theorem key_retouch (name : ExportName) :
    (key name).retouch τ = key (name.retouch τ.placing) := by
  cases name <;> rfl

theorem default_retouch (bound : Ident) :
    (default bound).retouch τ = default (bound.retouch τ) := keyed_retouch ..

theorem rest_retouch (bound : Ident) : (rest bound).retouch τ = rest (bound.retouch τ) :=
  congrArg (fun dots => Loaded.property (.node (bound.retouch τ).span (.restElement dots)
    [(bound.retouch τ).pattern,.absent])) τ.nowhere

theorem named_retouch {imported : ExportName} (h : ∀ i ∈ imported.idents, τ.Keeps i.name)
    (bound : Ident) :
    (named imported bound).retouch τ = named (imported.retouch τ.placing) (bound.retouch τ) := by
  cases imported with
  | string name => exact (keyed_retouch ..).trans (congrArg (keyed · _) (key_retouch _))
  | ident name =>
    have hname := (h name List.mem_cons_self).eq_iff bound.name
    have hiff : (name.retouch τ.placing).name = (bound.retouch τ).name ↔ name.name = bound.name :=
      hname
    rw [named,ExportName.retouch,named]
    by_cases heq : name.name = bound.name
    · rw [if_pos heq,if_pos (hiff.mpr heq)]
      rfl
    · rw [if_neg heq,if_neg fun h => heq (hiff.mp h)]
      exact (keyed_retouch ..).trans (congrArg (keyed · _) (key_retouch _))

theorem whole?_retouch (l : Loaded) : (l.retouch τ).whole? = l.whole?.map (·.retouch τ) := by
  cases l <;> rfl

theorem property?_retouch (l : Loaded) :
    (l.retouch τ).property? = l.property?.map (·.retouch τ) := by
  cases l <;> rfl

end Loaded

namespace Lowering

def Request.retouch (τ : Retouch) (r : Request) : Request :=
  ⟨r.source.retouch τ,r.attributes.retouch τ⟩

theorem argument_retouch (value : Node) :
    (node .nowhere (.argument none) [value]).retouch τ =
      node .nowhere (.argument none) [value.retouch τ] := retouch_nowhere rfl [value]

theorem options_retouch (attributes : Node) :
    (Request.options attributes).retouch τ = Request.options (attributes.retouch τ) := by
  have hkey : (leaf .nowhere (.propertyName "with")).retouch τ =
      leaf .nowhere (.propertyName "with") := retouch_nowhere rfl []
  have hproperty : (node .nowhere .keyValue
      [leaf .nowhere (.propertyName "with"),attributes]).retouch τ =
        node .nowhere .keyValue [leaf .nowhere (.propertyName "with"),attributes.retouch τ] :=
    (retouch_nowhere rfl _).trans
      (congrArg (fun key => node .nowhere .keyValue [key,attributes.retouch τ]) hkey)
  rw [Request.options,Request.options,span_retouch]
  exact congrArg (fun property => node (τ.place attributes.span) .object [many [property]]) hproperty

theorem arguments_retouch (r : Request) :
    retouchAll τ r.arguments = (r.retouch τ).arguments := by
  have hpresent : (r.retouch τ).attributes.isPresent = r.attributes.isPresent :=
    isPresent_retouch r.attributes
  rw [retouchAll_eq,Request.arguments,Request.arguments,hpresent,List.map_cons,argument_retouch]
  refine congrArg₂ List.cons rfl ?_
  split
  · exact congrArg ([·]) ((argument_retouch _).trans
      (congrArg (fun value => node .nowhere (.argument none) [value]) (options_retouch _)))
  · rfl

theorem load_retouch (r : Request) (hook : String) (span : Span) :
    (r.load hook span).retouch τ = (r.retouch τ).load (τ.name hook) (τ.place span) :=
  congrArg (fun arguments => node (τ.place span) .await [node (τ.place span) (.call 0)
    [(Ident.named (τ.name hook) (τ.place span)).reference,many arguments,.absent]])
    (arguments_retouch r)

theorem declarator_retouch (pattern value : Node) :
    (declarator pattern value).retouch τ = declarator (pattern.retouch τ) (value.retouch τ) :=
  retouch_nowhere rfl [pattern,value]

theorem constDeclaration_retouch (span : Span) (declarators : List Node) :
    (constDeclaration span declarators).retouch τ =
      constDeclaration (τ.place span) (declarators.map (·.retouch τ)) :=
  congrArg (constDeclaration (τ.place span)) (retouchAll_eq declarators)

theorem objectPattern_retouch (span : Span) (properties : List Node) :
    (objectPattern span properties).retouch τ =
      objectPattern (τ.place span) (properties.map (·.retouch τ)) :=
  congrArg (objectPattern (τ.place span)) (retouchAll_eq properties)

theorem loadStatement_retouch (hook : String) (span : Span) (r : Request) (names : List Loaded) :
    (loadStatement hook span r names).retouch τ =
      loadStatement (τ.name hook) (τ.place span) (r.retouch τ) (names.map (·.retouch τ)) := by
  have hproperties : (names.map (·.retouch τ)).filterMap Loaded.property? =
      (names.filterMap Loaded.property?).map (·.retouch τ) := by
    rw [List.filterMap_map,List.map_filterMap]
    exact List.filterMap_congr fun l _ => Loaded.property?_retouch l
  have hwhole : ((names.map (·.retouch τ)).filterMap Loaded.whole?).getLast? =
      (names.filterMap Loaded.whole?).getLast?.map (·.retouch τ) := by
    rw [List.filterMap_map,← List.getLast?_map,List.map_filterMap]
    exact congrArg _ (List.filterMap_congr fun l _ => Loaded.whole?_retouch l)
  dsimp only [loadStatement]
  rw [hproperties,hwhole]
  cases (names.filterMap Loaded.whole?).getLast? with
  | none =>
    cases names.filterMap Loaded.property? with
    | nil => exact congrArg (fun value => Node.node _ .expressionStatement [value]) (load_retouch ..)
    | cons pattern rest =>
      simp [constDeclaration_retouch,declarator_retouch,objectPattern_retouch,load_retouch]
  | some bound =>
    cases names.filterMap Loaded.property? with
    | nil => simp [constDeclaration_retouch,declarator_retouch,load_retouch,Ident.retouch_pattern]
    | cons pattern rest =>
      simp [constDeclaration_retouch,declarator_retouch,objectPattern_retouch,load_retouch,
        Ident.retouch_pattern,Ident.retouch_reference]

end Lowering

namespace Export

def retouch (τ : Retouch) : Export → Export
  | .named exported value => .named (exported.retouch τ.placing) (value.retouch τ)
  | .spread value => .spread (value.retouch τ)

def NameKept (τ : Retouch) : Export → Prop
  | .named exported _ => ∀ i ∈ exported.idents, τ.Keeps i.name
  | .spread _ => True

theorem isSpread_retouch (e : Export) : (e.retouch τ).isSpread = e.isSpread := by
  cases e <;> rfl

theorem key_retouch (name : ExportName) : (key name).retouch τ = key (name.retouch τ.placing) := by
  cases name with
  | string name => rfl
  | ident name =>
    have hname : (name.retouch τ.placing).name = name.name := rfl
    rw [key,ExportName.retouch,key,hname]
    split <;> rfl

theorem property_retouch {e : Export} (h : e.NameKept τ) :
    e.property.retouch τ = (e.retouch τ).property := by
  cases e with
  | spread value =>
    exact congrArg (fun place => node place (.spread place) [(value.retouch τ).reference]) τ.nowhere
  | named exported value =>
    have hshort : isShorthand (exported.retouch τ.placing) (value.retouch τ) =
        isShorthand exported value := by
      cases exported with
      | string name => rfl
      | ident name =>
        have hname : name.name = τ.name value.name ↔ name.name = value.name :=
          (h name List.mem_cons_self).eq_iff value.name
        have hbeq : (name.name == τ.name value.name) = (name.name == value.name) := by
          rw [Bool.eq_iff_iff,beq_iff_eq,beq_iff_eq]
          exact hname
        exact congrArg (name.name != "__proto__" && ·) hbeq
    rw [property,retouch,property,hshort]
    split
    · rfl
    · exact (retouch_nowhere rfl [key exported,value.reference]).trans
        (congrArg (fun key => node .nowhere .keyValue [key,(value.retouch τ).reference])
          (key_retouch exported))

theorem returnStatement_retouch {table : List Export} (h : ∀ e ∈ table, e.NameKept τ)
    (span : Span) :
    (returnStatement span table).retouch τ =
      returnStatement (τ.place span) (table.map (·.retouch τ)) := by
  have hproperties : (properties table).map (·.retouch τ) = properties (table.map (·.retouch τ)) := by
    have hfilter : ∀ f : Export → Bool, (∀ e : Export, f (e.retouch τ) = f e) →
        (table.map (·.retouch τ)).filter f = (table.filter f).map (·.retouch τ) := by
      intro f hf
      rw [List.filter_map]
      exact congrArg (List.map _) (List.filter_congr fun e _ => hf e)
    rw [properties,properties,hfilter _ isSpread_retouch,
      hfilter _ fun e => congrArg (! ·) (isSpread_retouch e),← List.map_append,List.map_map,
      List.map_map]
    refine List.map_congr_left fun e he => property_retouch (h e ?_)
    rcases List.mem_append.mp he with he | he
    · exact (List.mem_filter.mp he).1
    · exact (List.mem_filter.mp he).1
  simp [returnStatement,Node.retouch,retouchAll,retouchAll_eq,Form.retouch,hproperties]

end Export

end Generated

end AsyncBody
