import AsyncBody.Proofs.ModuleMeaning

/-!
The order of a function body: every item of the program becomes at most one statement, at its place,
and the modules that items ask for are loaded once for each item, in the order of the items.
-/
namespace AsyncBody

namespace Node

/-- Whether an item imports or exports types only: it is marked so, or it lists specifiers and each
of them is a type. -/
def isElided : Node → Bool
  | .node _ (.importDeclaration specifiers _ typeOnly _) _ =>
    typeOnly || (! specifiers.isEmpty && specifiers.all (·.isType))
  | .node _ (.exportNamed specifiers _ typeOnly) _ =>
    typeOnly || (! specifiers.isEmpty && specifiers.all (·.isType))
  | .node _ (.exportAll _ typeOnly) _ => typeOnly
  | .node _ (.importEquals _ typeOnly _) _ => typeOnly
  | _ => false

/-- The expression `await import(source)`, with the argument `{ with: attributes }` if there are
attributes. -/
def awaitImport (span : Span) (source : StringLiteral) (attributes : Node) : Node :=
  let argument (value : Node) : Node := .node .nowhere (.argument none) [value]
  let options : Node := .node attributes.span .object
    [.many [.node .nowhere .keyValue [.leaf .nowhere (.propertyName "with"),attributes]]]
  .node span .await [.node span (.call 0) [.leaf span (.importKeyword .evaluation),
    .many (argument source.toNode :: if attributes.isPresent then [argument options] else []),
    .absent]]

def externalSource : Node → Option StringLiteral
  | .node _ (.externalModule source) _ => some source
  | _ => none

/-- What an item asks for, if it names a module, as a dynamic import in its place asks for it. -/
def moduleRequest : Node → Option Node
  | .node span (.importDeclaration _ source ..) [attributes] =>
    some (awaitImport span source attributes)
  | .node span (.exportNamed _ (some source) _) [attributes] =>
    some (awaitImport span source attributes)
  | .node span (.exportAll source _) [attributes] => some (awaitImport span source attributes)
  | .node span (.importEquals ..) [reference] =>
    reference.externalSource.map fun source => awaitImport span source .absent
  | _ => none

def isCall : Node → Bool
  | .node _ (.call _) _ => true
  | _ => false

def calls (n : Node) : Bool := n.subtrees.any isCall

end Node

def Program.moduleRequests (p : Program) : List Node :=
  (p.body.filter (! ·.isElided)).filterMap Node.moduleRequest

namespace Lowering

open Node

/-- A statement evaluates a value once and nothing else that calls: it drops the value, or it binds
names to it or to what it holds. -/
inductive Uses (value : Node) : Node → Prop where
  | drop {span : Span} : Uses value (.node span .expressionStatement [value])
  | bind {span : Span} {pattern : Node} (h : pattern.calls = false) :
      Uses value (constDeclaration span [declarator pattern value])
  | bindWhole {span : Span} {id : Ident} {pattern : Node} (h : pattern.calls = false) :
      Uses value (constDeclaration span
        [declarator id.pattern value,declarator pattern id.reference])

/-- `Becomes hook item statement loads`: the statement, if any, that an item becomes, and the loads
of modules that are generated in it. -/
inductive Becomes (hook : String) : Node → Option Node → List Node → Prop where
  | kept {n : Node} (h : isLowered n = false) : Becomes hook n (some (route hook n).result) []
  | exported {span : Span} {declaration : Node} :
      Becomes hook (.node span .exportDeclaration [declaration])
        (some (route hook declaration).result) []
  | default {span : Span} {declaration : Node} {id : Ident}
      (hname : ∀ name ∈ declaration.ownName, name = id) :
      Becomes hook (.node span .exportDefaultDeclaration [declaration])
        (some (namedAs id (route hook declaration).result)) []
  | value {span : Span} {form : Form} {value : Node} {id : Ident}
      (hform : form = .exportDefaultExpression ∨ form = .exportAssignment) :
      Becomes hook (.node span form [value])
        (some (constDeclaration span [declarator id.pattern (route hook value).result])) []
  | entity {span : Span} {isExport : Bool} {name id : Ident} {reference : Node}
      (hreference : reference.externalSource = none) (hname : id.name = name.name) :
      Becomes hook (.node span (.importEquals isExport false name) [reference])
        (some (constDeclaration span
          [declarator id.pattern (entityExpression (route hook reference).result)])) []
  | loaded {n load statement : Node} (helided : n.isElided = false)
      (hload : n.moduleRequest = some load) (h : Uses (route hook load).result statement) :
      Becomes hook n (some statement) [(route hook load).result]
  | elided {n : Node} (h : n.isElided = true) : Becomes hook n none []
  | localList {span : Span} {specifiers : List ExportSpecifier} {typeOnly : Bool} {part : Node} :
      Becomes hook (.node span (.exportNamed specifiers none typeOnly) [part]) none []
  | asNamespace {span : Span} {name : Ident} {parts : List Node} :
      Becomes hook (.node span (.exportAsNamespace name) parts) none []

end Lowering

section Loads

open Node Lowering

theorem Node.span_route (hook : String) (n : Node) : (route hook n).result.span = n.span :=
  apply_route_eq hook Node.span (fun _ _ _ _ => rfl) (fun _ _ => rfl) (fun _ => rfl)
    (fun _ _ _ => rfl) n

/-- A load is what routing makes of a dynamic import in its place. -/
theorem Node.route_awaitImport (hook : String) (span : Span) (source : StringLiteral)
    (attributes : Node) :
    (route hook (awaitImport span source attributes)).result =
      (⟨source,(route hook attributes).result⟩ : Request).load hook span := by
  have hrouted := isPresent_route hook attributes
  cases hpresent : attributes.isPresent with
  | false =>
    simp only [awaitImport,Request.load,Request.arguments,hrouted,hpresent]
    rfl
  | true =>
    simp only [awaitImport,Request.load,Request.arguments,Request.options,hrouted,hpresent,if_true,
      span_route]
    rfl

def Loaded.Callless (l : Loaded) : Prop := ∀ pattern ∈ l.property?, pattern.calls = false

inductive Loaded.Plain : Loaded → Prop where
  | whole (bound : Ident) : Plain (whole bound)
  | keyed (name : ExportName) (bound : Ident) : Plain (keyed (key name) bound)
  | shorthand (bound : Ident) : Plain (shorthand bound)
  | rest (bound : Ident) : Plain (rest bound)

theorem Loaded.Plain.callless {l : Loaded} (h : l.Plain) : l.Callless := by
  cases h with
  | whole => exact fun _ h => nomatch h
  | keyed name => cases name <;> rintro _ ⟨⟩ <;> rfl
  | shorthand | rest =>
    rintro _ ⟨⟩
    rfl

theorem Loaded.plain_named (imported : ExportName) (id : Ident) : (named imported id).Plain := by
  unfold named
  split
  · split
    · exact .shorthand id
    · exact .keyed _ id
  · exact .keyed _ id

theorem Loaded.plain_default (id : Ident) : (default id).Plain :=
  .keyed (.ident (.named "default" id.span)) id

theorem ImportSpecifier.plain_of_loaded {s : ImportSpecifier} {l : Loaded}
    (h : s.loaded = some l) : l.Plain := by
  cases s with
  | named _ bound imported typeOnly =>
    cases typeOnly with
    | true => cases h
    | false =>
      obtain rfl := Option.some.inj h
      exact Loaded.plain_named _ _
  | default =>
    obtain rfl := Option.some.inj h
    exact Loaded.plain_default _
  | whole =>
    obtain rfl := Option.some.inj h
    exact .whole _

theorem ImportSpecifier.loaded_plain (specifiers : List ImportSpecifier) :
    ∀ l ∈ specifiers.filterMap loaded, l.Plain := by
  intro l hl
  obtain ⟨_,-,hs⟩ := List.mem_filterMap.mp hl
  exact plain_of_loaded hs

end Loads

namespace Lowering

open Node

theorem calls_objectPattern {properties : List Node}
    (h : ∀ pattern ∈ properties, pattern.calls = false) (span : Span) :
    (objectPattern span properties).calls = false := by
  simp only [calls,List.any_eq_false] at h ⊢
  intro n hn
  simp only [objectPattern,subtrees,subtreesAll,subtreesAll_eq,List.mem_append,List.mem_flatMap,
    List.mem_singleton,List.append_nil] at hn
  rcases hn with ((⟨pattern,hpattern,hn⟩ | rfl) | rfl) | rfl
  · exact h pattern hpattern n hn
  all_goals exact Bool.false_ne_true

theorem loadStatement_uses {names : List Loaded} (h : ∀ l ∈ names, l.Plain) (hook : String)
    (span : Span) (request : Request) :
    Uses (request.load hook span) (loadStatement hook span request names) := by
  have hpatterns : (objectPattern span (names.filterMap Loaded.property?)).calls = false := by
    refine calls_objectPattern (fun pattern hpattern => ?_) span
    obtain ⟨l,hl,hproperty⟩ := List.mem_filterMap.mp hpattern
    exact (h l hl).callless pattern hproperty
  dsimp only [loadStatement]
  split
  · exact .drop
  · exact .bind hpatterns
  · exact .bind rfl
  · exact .bindWhole hpatterns

theorem through_plain (span : Span) (specifier : ExportSpecifier) (name : String) :
    (specifier.through span name).1.Plain := by
  cases specifier with
  | named => exact Loaded.plain_named _ _
  | default => exact Loaded.plain_default _
  | whole => exact .whole _

theorem Loads.plain {n : Node} {names : List String} {m : ModuleLoad} (h : Loads n names m) :
    ∀ l ∈ m.names, l.Plain := by
  cases h with
  | imported => exact ImportSpecifier.loaded_plain _
  | reexported =>
    intro l hl
    obtain ⟨entry,hentry,rfl⟩ := List.mem_map.mp hl
    obtain ⟨specifier,-,name,-,rfl⟩ := exists_of_mem_through hentry
    exact through_plain ..
  | star =>
    exact List.forall_mem_cons.mpr
      ⟨Loaded.plain_default _,List.forall_mem_singleton.mpr (.rest _)⟩

theorem Loads.isElided {n : Node} {names : List String} {m : ModuleLoad} (h : Loads n names m) :
    n.isElided = false := by
  cases h with
  | imported h | reexported h => exact h
  | star => rfl

theorem Loads.moduleRequest {n : Node} {names : List String} {m : ModuleLoad}
    (h : Loads n names m) : n.moduleRequest = some (awaitImport m.span m.source m.attributes) := by
  cases h <;> rfl

theorem ModuleLoad.request_eq (m : ModuleLoad) (hook : String) :
    (m.request hook).load hook m.span =
      (route hook (awaitImport m.span m.source m.attributes)).result :=
  (route_awaitImport ..).symm

section References

variable (hook : String) (span : Span)

theorem externalSource_route (n : Node) :
    (route hook n).result.externalSource = n.externalSource := by
  refine apply_route_eq hook externalSource (fun _ _ _ _ => rfl) (fun _ _ => rfl) (fun _ => rfl) ?_ n
  intro span form parts
  cases form with
  | _ => rfl

theorem referenceValue_external {reference : Node} {source : StringLiteral}
    (h : reference.externalSource = some source) :
    (referenceValue hook span reference).1 =
      (route hook (awaitImport span source .absent)).result := by
  rw [route_awaitImport]
  unfold externalSource at h
  split at h
  · obtain rfl := Option.some.inj h
    rfl
  · cases h

theorem referenceValue_entity {reference : Node} (h : reference.externalSource = none) :
    (referenceValue hook span reference).1 = entityExpression reference := by
  unfold referenceValue
  split
  · cases h
  · rfl

theorem referenceValue_becomes (isExport : Bool) (name : Ident) (reference : Node) :
    ∃ loads, Becomes hook (.node span (.importEquals isExport false name) [reference])
      (some (constDeclaration span [declarator (Ident.named name.name name.span).pattern
        (referenceValue hook span (route hook reference).result).1])) loads := by
  have hrouted := externalSource_route hook reference
  cases hsource : reference.externalSource with
  | none =>
    rw [referenceValue_entity hook span (hrouted.trans hsource)]
    exact ⟨[],.entity hsource rfl⟩
  | some source =>
    rw [referenceValue_external hook span (hrouted.trans hsource)]
    refine ⟨_,.loaded rfl ?_ (.bind rfl)⟩
    rw [moduleRequest,hsource]
    rfl

end References

theorem Becomes.of_dropEvent {hook : String} {n : Node} {event : Event}
    (h : n.dropEvent = some event) : Becomes hook n none [] := by
  unfold dropEvent at h
  split at h
  · rename_i typeOnly _ _
    cases typeOnly with
    | true => exact .elided rfl
    | false =>
      rw [if_neg Bool.false_ne_true] at h
      split at h
      · rename_i htypes
        exact .elided htypes
      · cases h
  · rename_i source typeOnly _
    cases source with
    | none => exact .localList
    | some source =>
      cases typeOnly with
      | true => exact .elided rfl
      | false =>
        rw [if_neg Bool.false_ne_true,Option.bind_some] at h
        split at h
        · rename_i htypes
          exact .elided htypes
        · cases h
  · exact .elided rfl
  · exact .elided rfl
  · exact .asNamespace
  · cases h

/-- What an item becomes, and what it asks for. -/
theorem Lowers.becomes {hook : String} {n : Node} {names : List String} {l : Lowered}
    (h : Lowers hook n names l) : ∃ loads, Becomes hook n l.statement loads := by
  cases h with
  | kept h => exact ⟨[],.kept h⟩
  | dropped h => exact ⟨[],.of_dropEvent h⟩
  | @loaded _ _ m h =>
    have huses := loadStatement_uses h.plain hook m.span (m.request hook)
    rw [m.request_eq] at huses
    exact ⟨_,.loaded h.isElided h.moduleRequest huses⟩
  | exported => exact ⟨[],.exported⟩
  | listed => exact ⟨[],.localList⟩
  | ownDefault h =>
    exact ⟨[],.default fun name hname => Option.some.inj (hname.symm.trans h)⟩
  | freshDefault _ h => exact ⟨[],.default fun name hname => by cases hname.symm.trans h⟩
  | @otherDefault span declaration h =>
    rw [← namedAs_of_other ((isNameable_route hook declaration).trans h) (.named "" span)]
    refine ⟨[],.default fun name hname => ?_⟩
    cases h.symm.trans (isNameable_of_ownName hname)
  | defaultValue => exact ⟨[],.value (.inl rfl)⟩
  | assignedValue => exact ⟨[],.value (.inr rfl)⟩
  | reference => exact referenceValue_becomes ..

theorem items_become (hook : String) (ns : List Node) (s : NameSupply) :
    ∃ steps : List (Option Node × List Node),
      List.Forall₂ (fun n step => Becomes hook n step.1 step.2) ns steps ∧
      (items hook (routeAll hook ns).result s).1.filterMap (·.statement) =
        steps.filterMap Prod.fst := by
  have h : List.Forall₂ (fun n l => ∃ loads, Becomes hook n l.statement loads) ns
      (items hook (routeAll hook ns).result s).1 :=
    items_forall₂ hook (fun n _ s => (item_lowers hook n s).becomes) s
  generalize (items hook (routeAll hook ns).result s).1 = lowered at h
  induction h with
  | nil => exact ⟨[],.nil,rfl⟩
  | cons hfirst _ ih =>
    obtain ⟨loads,hfirst⟩ := hfirst
    obtain ⟨steps,hrest,hstatements⟩ := ih
    refine ⟨(_,loads)::steps,.cons hfirst hrest,?_⟩
    rw [List.filterMap_cons,List.filterMap_cons,hstatements]

theorem moduleRequest_eq_none {n : Node} (h : isLowered n = false) : n.moduleRequest = none := by
  unfold moduleRequest
  split
  all_goals first
    | cases h
    | rfl

/-- The load in what an item becomes is the one that it asks for, if it is not elided. -/
theorem Becomes.loads_eq {hook : String} {n : Node} {statement : Option Node} {loads : List Node}
    (h : Becomes hook n statement loads) :
    loads = if n.isElided then []
      else n.moduleRequest.toList.map fun load => (route hook load).result := by
  cases h with
  | kept h =>
    rw [moduleRequest_eq_none h]
    exact (ite_self _).symm
  | exported | default | asNamespace => rfl
  | value hform => rcases hform with rfl | rfl <;> rfl
  | entity hreference =>
    rw [moduleRequest,hreference]
    rfl
  | loaded helided hload _ =>
    rw [helided,hload]
    rfl
  | elided h =>
    rw [h]
    rfl
  | localList => exact (ite_self _).symm

theorem becomes_loads {hook : String} {ns : List Node} {steps : List (Option Node × List Node)}
    (h : List.Forall₂ (fun n step => Becomes hook n step.1 step.2) ns steps) :
    steps.flatMap Prod.snd = ((ns.filter (! ·.isElided)).filterMap moduleRequest).map
      fun load => (route hook load).result := by
  induction h with
  | nil => rfl
  | @cons n step ns steps hfirst _ ih =>
    rw [List.flatMap_cons,ih,hfirst.loads_eq]
    cases helided : n.isElided with
    | true => rw [List.filter_cons_of_neg (by simp [helided]),if_pos rfl,List.nil_append]
    | false =>
      rw [List.filter_cons_of_pos (by simp [helided]),if_neg Bool.false_ne_true]
      cases hload : n.moduleRequest with
      | none => rw [List.filterMap_cons_none hload]; rfl
      | some load => rw [List.filterMap_cons_some hload]; rfl

end Lowering

namespace Program

open Lowering

/-- The body of a program is made of what its items become, in their order, and a `return`. Modules
are loaded for each item that asks for one, also if another asks for the same, and in their
order. -/
theorem toFunctionBody_items (options : Options) (p body : Program)
    (hok : (p.toFunctionBody options).result = .ok body) :
    ∃ (steps : List (Option Node × List Node)) (exports : Node),
      List.Forall₂ (fun n step => Becomes options.importName n step.1 step.2) p.body steps ∧
      body.body = steps.filterMap Prod.fst ++ [.node p.span .returnStatement [exports]] ∧
      steps.flatMap Prod.snd =
        p.moduleRequests.map fun load => (Node.route options.importName load).result := by
  obtain ⟨-,-,-,rfl⟩ := toFunctionBody_eq_ok.mp hok
  obtain ⟨steps,hsteps,hstatements⟩ :=
    items_become options.importName p.body (.ofProgram p options.importName)
  have hbody := lower_body options.importName (.ofProgram p options.importName) p
  unfold Program.route at hbody
  rw [hstatements] at hbody
  exact ⟨steps,_,hsteps,hbody,becomes_loads hsteps⟩

/-- A statement with a dynamic import, four items that ask for a module, three of them for the same,
an import of a type, and a class without a name. -/
def repeatedLoads : Program :=
  let id (name : String) : Ident := .named name .nowhere
  let module (name : String) : StringLiteral := .plain name .nowhere
  let json : Node := .node .nowhere .object [.many [.node .nowhere .keyValue
    [.leaf .nowhere (.propertyName "type"),(module "json").toNode]]]
  ⟨.module,.nowhere,
    [ .node .nowhere (.importDeclaration [] (module "m") false .evaluation) [.absent],
      .node .nowhere .expressionStatement [.node .nowhere (.call 0)
        [.leaf .nowhere (.importKeyword .evaluation),.many [],.absent]],
      .node .nowhere (.importDeclaration [.named .nowhere (id "T") none true] (module "t") false
        .evaluation) [.absent],
      .node .nowhere (.importDeclaration [.named .nowhere (id "x") none false] (module "m") false
        .evaluation) [json],
      .node .nowhere .exportDefaultDeclaration [.node .nowhere (.classExpression none)
        [.node .nowhere (.classBody 0 false) []]],
      .node .nowhere (.exportNamed [] (some (module "m")) false) [.absent],
      .node .nowhere (.importEquals false false (id "q"))
        [.node .nowhere (.externalModule (module "q")) []] ],none⟩

theorem repeatedLoads_toFunctionBody :
    ∃ body, (repeatedLoads.toFunctionBody {}).result = .ok body ∧ body.body.length = 7 ∧
      ∃ (steps : List (Option Node × List Node)) (exports : Node),
        List.Forall₂ (fun n step => Becomes "$import" n step.1 step.2) repeatedLoads.body steps ∧
        body.body = steps.filterMap Prod.fst ++ [.node .nowhere .returnStatement [exports]] ∧
        steps.flatMap Prod.snd = ["m","m","m","q"].zipWith
          (fun name attributes => (⟨.plain name .nowhere,attributes⟩ : Request).load "$import" .nowhere)
          [.absent,.node .nowhere .object [.many [.node .nowhere .keyValue
            [.leaf .nowhere (.propertyName "type"),.leaf .nowhere (.string "json" none)]]],
            .absent,.absent] := by
  let body := (repeatedLoads.lower "$import" (.ofProgram repeatedLoads "$import")).result
  have hok : (repeatedLoads.toFunctionBody {}).result = .ok body :=
    toFunctionBody_eq_ok.mpr ⟨rfl,by decide,by decide,rfl⟩
  obtain ⟨steps,exports,hsteps,hbody,hloads⟩ := toFunctionBody_items {} repeatedLoads body hok
  exact ⟨body,hok,rfl,steps,exports,hsteps,hbody,hloads⟩

end Program

end AsyncBody
