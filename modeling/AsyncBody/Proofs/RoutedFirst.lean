import AsyncBody.Proofs.HookChoice
import AsyncBody.Proofs.SecondLowering
import AsyncBody.Proofs.SuppliedNames

/-!
A program that is routed before it is lowered: it binds what it did and spells nothing new but the
hook and a name of a property, so it is lowered to the same body, and nothing in it is shadowed.
-/
namespace AsyncBody

open Hook Node NameSupply

namespace Node

variable {hook : String}

theorem itemNames_default (span : Span) (declaration : Node) :
    (node span .exportDefaultDeclaration [declaration]).itemNames =
      declaration.ownName.toList.map (·.name) := by
  cases declaration with
  | absent | many => rfl
  | node place form parts =>
    cases form with
    | _ => rfl

theorem itemNames_route (n : Node) : (route hook n).result.itemNames = n.itemNames := by
  have h := valueNames_route hook n
  cases n with
  | absent | many => rfl
  | node span form parts =>
    rw [apply_route hook itemNames (fun _ _ _ _ => rfl) fun _ _ => rfl]
    cases form with
    | exportDeclaration =>
      match parts with
      | [] | _ :: _ :: _ => rfl
      | [declaration] => exact valueNames_route hook declaration
    | exportDefaultDeclaration =>
      match parts with
      | [] => rfl
      | [declaration] =>
        show (node span .exportDefaultDeclaration [(route hook declaration).result]).itemNames = _
        rw [itemNames_default,itemNames_default,Lowering.ownName_route]
      | first :: _ :: _ =>
        have hnone : ∀ (first second : Node) (rest : List Node),
            (node span .exportDefaultDeclaration (first::second::rest)).itemNames = [] := by
          intro first second rest
          simp [itemNames,isDeclaration]
        exact (hnone ..).trans (hnone ..).symm
    | classDeclaration | functionDeclaration | variableDeclaration | usingDeclaration
    | enumDeclaration | moduleDeclaration | interfaceDeclaration | typeAlias => exact h
    | _ => rfl

theorem not_hasUse_route (n : Node) : ¬ (route hook n).result.HasUse := by
  rintro ⟨use,hmem,huse⟩
  rw [← use?_isSome_iff,use?_of_mem_route hook n use hmem] at huse
  cases huse

/-- Routing spells the hook and its property, and leaves out nothing that is spelled. -/
theorem mem_spelled_route {n : Node} (hshape : n.shaped = true) {x : String} (hhook : x ≠ hook)
    (hmeta : x ≠ "meta") : x ∈ (route hook n).result.spelled ↔ x ∈ n.spelled := by
  have hitems : ∀ {items : List Node}, (∀ item ∈ items,
      (x ∈ (route hook item).result.spelled ↔ x ∈ item.spelled)) →
      (x ∈ spelledAll (routeAll hook items).result ↔ x ∈ spelledAll items) := by
    intro items ih
    simp only [Lowering.mem_spelledAll,routeAll_result,List.mem_map,exists_exists_and_eq_and]
    exact exists_congr fun item => and_congr_right fun hitem => ih item hitem
  have hidentifier : ∀ place, x ∉ (identifier hook place).spelled := fun _ h =>
    hhook (List.mem_singleton.mp h)
  induction n using Node.induction with
  | absent => rfl
  | many items ih =>
    rw [shaped,shapedAll_iff] at hshape
    exact hitems fun item hitem => ih item hitem (hshape item hitem)
  | node span form parts ih =>
    obtain ⟨hlength,hparts⟩ := shaped_node_iff.mp hshape
    obtain ⟨hr,-⟩ | ⟨ctxt,place,inner,rest,rfl,rfl,hr⟩ | ⟨rfl,hr⟩ :=
      route_node_cases hook span form parts
    · rw [hr,spelled,spelled,List.mem_append,List.mem_append,
        hitems fun part hpart => ih part hpart (hparts part hpart)]
    · -- The keyword is a leaf, so nothing is lost with it.
      obtain rfl : inner = [] := List.eq_nil_of_length_eq_zero
        (shaped_node_iff.mp (hparts _ List.mem_cons_self)).1
      have hrest := hitems fun part hpart =>
        ih part (.tail _ hpart) (hparts part (.tail _ hpart))
      rw [hr,spelled,spelled,spelledAll,spelledAll,List.mem_append,List.mem_append,List.mem_append,
        List.mem_append,hrest]
      exact or_congr_right (or_congr_left (iff_of_false (hidentifier place) List.not_mem_nil))
    · obtain rfl : parts = [] := List.eq_nil_of_length_eq_zero hlength
      rw [hr]
      refine iff_of_false ?_ List.not_mem_nil
      simp [metaRead,spelled,spelledAll,Form.spelled,leaf,identifier,Ident.reference,Ident.named,
        hhook,hmeta]

end Node

namespace Program

variable (p : Program) (hook : String)

theorem route_useless : ∀ n ∈ (p.route hook).result.body, ¬ n.HasUse := by
  intro n hn
  rw [route_body] at hn
  obtain ⟨item,-,rfl⟩ := List.mem_map.mp hn
  exact Node.not_hasUse_route item

theorem route_route (other : String) :
    (p.route hook).result.route other = ⟨(p.route hook).result,[]⟩ := by
  rw [Program.route,routeAll_eq_self fun n hn => route_eq_self (route_useless p hook n hn)]

theorem topLevelNames_route : (p.route hook).result.topLevelNames = p.topLevelNames := by
  have hcollected : (p.body.map fun n => (Node.route hook n).result).flatMap collectedVars =
      p.body.flatMap collectedVars := by
    rw [List.flatMap_map]
    simp only [collectedVars_route]
  have hnames : (p.body.map fun n => (Node.route hook n).result).flatMap itemNames =
      p.body.flatMap itemNames := by
    rw [List.flatMap_map]
    simp only [itemNames_route]
  rw [topLevelNames,topLevelNames,route_body,collectedVarsAll_eq,collectedVarsAll_eq,hcollected,hnames]

theorem shadowedUses_route (other : String) : (p.route hook).result.shadowedUses other = [] := by
  refine (shadowedUses_eq_nil_iff other _).mpr fun hshadowed => ?_
  obtain ⟨n,hn,huse⟩ := hasUse_many.mp hshadowed.hasUse
  exact route_useless p hook n hn huse

/-- Routing takes no name that could be handed out. -/
theorem ofProgram_route {p : Program} (hshape : p.shaped = true) {name : String}
    (hname : IsSynthetic name) :
    name ∈ (NameSupply.ofProgram p hook).taken ↔
      name ∈ (NameSupply.ofProgram (p.route hook).result hook).taken := by
  have hmeta : name ≠ "meta" := by
    rintro rfl
    exact absurd hname (by decide)
  show name ∈ hook :: spelledAll p.body ↔ name ∈ hook :: spelledAll (p.route hook).result.body
  by_cases hhook : name = hook
  · simp [hhook]
  · rw [Program.shaped,shapedAll_iff] at hshape
    simp only [List.mem_cons,hhook,false_or,Lowering.mem_spelledAll,route_body,List.mem_map,
      exists_exists_and_eq_and]
    refine exists_congr fun n => and_congr_right fun hn => ?_
    exact (Node.mem_spelled_route (hshape n hn) hhook hmeta).symm

/-- Items that are routed already become what they do else. -/
theorem items_route_again {p : Program} (hshape : p.shaped = true) :
    (Lowering.items hook ((p.route hook).result.route hook).result.body
        (.ofProgram (p.route hook).result hook)).1 =
      (Lowering.items hook (p.route hook).result.body (.ofProgram p hook)).1 := by
  rw [route_route]
  exact Lowering.items_eq_of_draw (draw_eq_of_iff (fun _ => ofProgram_route hook hshape) _)

/-- If a program is lowered, it is also lowered if it is routed before, to the same body, and then
no use of the hook is replaced any more. A program that is routed is refused for no hook since its
name is rebound around a use. -/
theorem toFunctionBody_visit :
    (∀ (options : Options) (body : Program) (replaced : Nat), p.shaped = true →
      (p.toFunctionBody options).result = .ok body →
      ∃ (reported : List Event) (imports exports : Nat),
        (p.toFunctionBody options).events =
          (p.route options.importName).uses.map .replaced ++ reported ++
            [.finished imports exports (p.route options.importName).uses.length] ∧
        (Router.visit ⟨options.importName,replaced⟩ p).1.toFunctionBody options =
          ⟨.ok body,reported ++ [.finished imports exports 0]⟩ ∧
        ((Router.visit ⟨options.importName,replaced⟩ p).1.route options.importName).uses = []) ∧
    ∀ (r : Router) (next : Options) (name : String),
      ((r.visit p).1.toFunctionBody next).result ≠ .error (.importNameShadowed name) := by
  refine ⟨fun options body replaced hshape hok => ?_,fun r next name h => ?_⟩
  · obtain ⟨hvalid,htop,huses,rfl⟩ := toFunctionBody_eq_ok.mp hok
    let hook := options.importName
    let visited := (p.route hook).result
    let items := (Lowering.items hook (p.route hook).result.body (.ofProgram p hook)).1
    have hfirst : p.lower hook (.ofProgram p hook) =
        assemble p.span (p.route hook).uses items := by
      rw [lower_eq_assemble,← route_body]
    have hsecond : visited.lower hook (.ofProgram visited hook) = assemble p.span [] items := by
      rw [lower_eq_assemble,← route_body,items_route_again hook hshape,route_route]
      rfl
    have hclear : visited.toFunctionBody options = _ :=
      toFunctionBody_of_clear hvalid (topLevelNames_route p hook ▸ htop)
        (shadowedUses_route p hook hook)
    refine ⟨items.flatMap (·.events),items.foldr (·.requests + ·) 0,
      (items.flatMap (·.exports)).length,?_,?_,?_⟩
    · rw [toFunctionBody_of_clear hvalid htop huses,hfirst]
      rfl
    · show visited.toFunctionBody options = _
      rw [hclear,hsecond,hfirst]
      rfl
    · exact congrArg Routed.uses (route_route p hook hook)
  · exact (toFunctionBody_eq_shadowed.mp h).2.2.2 (shadowedUses_route p r.hook next.importName)

/-- The body is the same with the name `_default` in it, and for no hook a use is shadowed. -/
theorem attributedImport_visit :
    ∃ body, (attributedImport.toFunctionBody {}).result = .ok body ∧
      ((Router.visit ⟨"$import",0⟩ attributedImport).1.toFunctionBody {}).result = .ok body ∧
      body.body.flatMap declared = [(.lexical,"x"),(.lexical,"_default")] ∧
      ((Router.visit ⟨"$import",0⟩ attributedImport).1.toFunctionBody ⟨"load"⟩).result ≠
        .error (.importNameShadowed "load") := by
  let body := (attributedImport.lower "$import" (.ofProgram attributedImport "$import")).result
  have hok : (attributedImport.toFunctionBody {}).result = .ok body :=
    toFunctionBody_eq_ok.mpr ⟨rfl,by decide,by decide,rfl⟩
  obtain ⟨hvisit,hshadowed⟩ := toFunctionBody_visit attributedImport
  obtain ⟨_,_,_,-,hsecond,-⟩ := hvisit {} body 0 (by decide) hok
  exact ⟨body,hok,congrArg Reported.result hsecond,by decide,hshadowed _ _ _⟩

end Program

end AsyncBody
