import AsyncBody.Proofs.ExportTable

/-!
The names that the `return` of a body reads, and which of them the body binds once types are erased.
-/
namespace AsyncBody

namespace Node

def lacksBody : Node → Bool
  | .node _ (.function ..) (_ :: _ :: body :: _) => ! body.isPresent
  | _ => false

def isSignature : Node → Bool
  | .node _ (.functionDeclaration ..) [function] => function.lacksBody
  | _ => false

def isDefaultSignature : Node → Bool
  | .node _ (.functionExpression _) [function] => function.lacksBody
  | declaration => declaration.isSignature

def isItemSignature : Node → Bool
  | .node _ .exportDeclaration [declaration] => declaration.isSignature
  | .node _ .exportDefaultDeclaration [declaration] => declaration.isDefaultSignature
  | statement => statement.isSignature

/-- A statement binds a name by a declaration that is left when types are erased. Of a function
without a body nothing is left, though `declared` has its name. -/
def BindsValue (x : String) (statement : Node) : Prop :=
  (x ∈ statement.valueNames ∧ statement.isSignature = false) ∨ x ∈ statement.hoistedVars

/-- An item of a module binds a name by a declaration that is left when types are erased. -/
def ItemBindsValue (x : String) (item : Node) : Prop :=
  (x ∈ item.itemDeclared.map Prod.snd ∧ item.isItemSignature = false) ∨ x ∈ item.itemHoisted

instance (x : String) (statement : Node) : Decidable (BindsValue x statement) :=
  inferInstanceAs (Decidable (_ ∨ _))

instance (x : String) (item : Node) : Decidable (ItemBindsValue x item) :=
  inferInstanceAs (Decidable (_ ∨ _))

def readName? : Node → Option String
  | .node _ (.ident _ name _) _ => some name
  | .node _ .keyValue [_,.node _ (.ident _ name _) _] => some name
  | .node _ (.spread _) [.node _ (.ident _ name _) _] => some name
  | _ => none

def returnedNames : Node → List String
  | .node _ .returnStatement [.node _ .object [.many properties]] => properties.filterMap readName?
  | _ => []

def listedNames : Node → List String
  | .node _ (.exportNamed specifiers none false) [_] =>
    specifiers.filterMap fun s => s.local?.map (·.name)
  | _ => []

/-- An item exports a function without a body, and declares no name but `x`. -/
def ExportsSignature (x : String) (item : Node) : Prop :=
  item.exporting = true ∧ item.isItemSignature = true ∧ ∀ d ∈ item.itemDeclared, d.2 = x

end Node

def Program.returnedNames (p : Program) : List String :=
  p.body.getLast?.toList.flatMap Node.returnedNames

def Holding.held : Holding → String
  | .named _ held => held
  | .star held => held

theorem Export.readName?_property (e : Export) : e.property.readName? = some e.holding.held := by
  cases e with
  | spread => rfl
  | named exported value =>
    rw [property]
    split <;> rfl

theorem Export.mem_returnedNames {span : Span} {table : List Export} {x : String} :
    x ∈ (returnStatement span table).returnedNames ↔ ∃ h ∈ table.map holding, h.held = x := by
  have hread : (properties table).filterMap Node.readName? =
      (table.filter isSpread ++ table.filter (! isSpread ·)).map fun e => e.holding.held := by
    rw [properties,List.filterMap_map]
    exact List.filterMap_eq_map_iff_forall_eq_some.mpr fun e _ => readName?_property e
  show x ∈ (properties table).filterMap Node.readName? ↔ _
  rw [hread]
  simp only [List.mem_map,List.mem_append,List.mem_filter]
  grind

namespace Node

section Routing

variable (hook : String)

theorem lacksBody_route (n : Node) : (route hook n).result.lacksBody = n.lacksBody := by
  refine apply_route_eq hook lacksBody (fun _ _ _ _ => rfl) (fun _ _ => rfl) (fun _ => rfl) ?_ n
  intro span form parts
  cases form with
  | function =>
    match parts with
    | [] | [_] | [_,_] => rfl
    | _ :: _ :: body :: _ => exact congrArg (! ·) (isPresent_route hook body)
  | _ => rfl

theorem isSignature_route (n : Node) : (route hook n).result.isSignature = n.isSignature := by
  refine apply_route_eq hook isSignature (fun _ _ _ _ => rfl) (fun _ _ => rfl) (fun _ => rfl) ?_ n
  intro span form parts
  cases form with
  | functionDeclaration =>
    match parts with
    | [] | _ :: _ :: _ => rfl
    | [function] => exact lacksBody_route hook function
  | _ => rfl

theorem isDefaultSignature_route (n : Node) :
    (route hook n).result.isDefaultSignature = n.isDefaultSignature := by
  refine apply_route_eq hook isDefaultSignature (fun _ _ _ _ => rfl) (fun _ _ => rfl)
    (fun _ => rfl) ?_ n
  intro span form parts
  cases form with
  | functionExpression | functionDeclaration =>
    match parts with
    | [] | _ :: _ :: _ => rfl
    | [function] => exact lacksBody_route hook function
  | _ => rfl

end Routing

theorem isItemSignature_kept {n : Node} (h : Lowering.isLowered n = false) :
    n.isItemSignature = n.isSignature := by
  unfold isItemSignature
  split
  all_goals first
    | cases h
    | rfl

end Node

namespace Lowering

open Node NameSupply

variable {hook : String} {n : Node} {x : String}

theorem isSignature_namedAs (id : Ident) (declaration : Node) :
    (namedAs id declaration).isSignature = declaration.isDefaultSignature := by
  cases declaration with
  | absent => rfl
  | many items => rfl
  | node span form parts =>
    cases form with
    | functionExpression =>
      match parts with
      | [] | [_] | _ :: _ :: _ => rfl
    | _ => rfl

theorem isItemSignature_of_request {load : Node} (h : n.moduleRequest = some load) :
    n.isItemSignature = false := by
  unfold moduleRequest at h
  split at h
  · rfl
  · rfl
  · rfl
  · rfl
  · cases h

theorem Becomes.isSignature {statement : Option Node} {loads : List Node}
    (h : Becomes hook n statement loads) :
    ∀ node ∈ statement, node.isSignature = n.isItemSignature := by
  cases h with
  | kept h =>
    rintro _ ⟨⟩
    rw [isItemSignature_kept h,isSignature_route]
  | exported =>
    rintro _ ⟨⟩
    exact isSignature_route ..
  | default =>
    rintro _ ⟨⟩
    rw [isSignature_namedAs,isDefaultSignature_route]
    rfl
  | value hform =>
    rintro _ ⟨⟩
    rcases hform with rfl | rfl <;> rfl
  | entity =>
    rintro _ ⟨⟩
    rfl
  | loaded _ hload huses =>
    rintro _ ⟨⟩
    rw [isItemSignature_of_request hload]
    cases huses <;> rfl
  | elided | localList | asNamespace =>
    intro _ hnone
    cases hnone

/-- What an item becomes binds what the item does, names apart that are made for it. -/
theorem item_binds (hook : String) {n : Node} (honce : n.bindsWholeOnce = true) (s : NameSupply) :
    ∃ made, Draws s made (item hook (route hook n).result s).2 ∧ ∀ x ∉ made,
      ((∃ statement ∈ (item hook (route hook n).result s).1.statement, statement.BindsValue x) ↔
        n.ItemBindsValue x) := by
  obtain ⟨made,hdraws,hkeeps⟩ := item_keeps hook n s
  obtain ⟨loads,hbecomes⟩ := (item_lowers hook n s).becomes
  refine ⟨made.map Prod.snd,hdraws,fun x hx => ?_⟩
  have hperm := (hkeeps.perm honce).map Prod.snd
  have hhoisted := hkeeps.hoisted
  rw [List.map_append] at hperm
  have hdeclared : x ∈ (item hook (route hook n).result s).1.declared.map Prod.snd ↔
      x ∈ n.itemDeclared.map Prod.snd := by
    rw [hperm.mem_iff,List.mem_append,or_iff_left hx]
  have hsignature := hbecomes.isSignature
  rw [Lowered.declared] at hdeclared
  cases hstatement : (item hook (route hook n).result s).1.statement with
  | none =>
    rw [hstatement] at hdeclared hhoisted
    rw [ItemBindsValue,← hhoisted,← hdeclared]
    simp [hoistedVarsAll]
  | some statement =>
    rw [hstatement] at hdeclared hhoisted hsignature
    have hnames : statement.declared.map Prod.snd = statement.valueNames := by
      rw [Node.declared,List.map_map]
      exact List.map_id _
    rw [Option.toList_some,List.flatMap_singleton,hnames] at hdeclared
    rw [Option.toList_some,hoistedVarsAll,hoistedVarsAll,List.append_nil] at hhoisted
    have hsame := hsignature statement rfl
    rw [ItemBindsValue,← hhoisted,← hdeclared,← hsame]
    simp [BindsValue]

theorem items_bind (hook : String) {ns : List Node} (honce : ∀ n ∈ ns, n.bindsWholeOnce = true)
    (s : NameSupply) :
    ∃ made, Draws s made (items hook (routeAll hook ns).result s).2 ∧ ∀ x ∉ made,
      ((∃ l ∈ (items hook (routeAll hook ns).result s).1, ∃ statement ∈ l.statement,
        statement.BindsValue x) ↔ ∃ n ∈ ns, n.ItemBindsValue x) := by
  induction ns generalizing s with
  | nil => exact ⟨[],.none,fun x _ => ⟨nofun,nofun⟩⟩
  | cons n rest ih =>
    obtain ⟨made,hdraws,hfirst⟩ := item_binds hook (honce n List.mem_cons_self) s
    obtain ⟨others,hothers,hrest⟩ := ih (fun n hn => honce n (List.mem_cons_of_mem _ hn))
      (item hook (route hook n).result s).2
    refine ⟨made++others,hdraws.append hothers,fun x hx => ?_⟩
    rw [List.mem_append,not_or] at hx
    rw [List.exists_mem_cons_iff,← hfirst x hx.1,← hrest x hx.2]
    exact List.exists_mem_cons_iff ..

theorem constDeclaration_valueNames (span : Span) (declarators : List Node) :
    (constDeclaration span declarators).valueNames =
      (declarators.flatMap declaratorIdent).map (·.name) := rfl

theorem mem_objectPattern {properties : List Node} {property : Node} {key name : String}
    (hmem : property ∈ properties) (h : Execution.Reads property key name) (span : Span) :
    name ∈ (objectPattern span properties).boundIdents.map (·.name) := by
  have hname : property.boundIdents.map (·.name) = [name] := by
    cases h <;> rfl
  show name ∈ (boundIdentsAll properties).map (·.name)
  rw [boundIdentsAll_eq,List.map_flatMap]
  exact List.mem_flatMap.mpr ⟨property,hmem,hname ▸ List.mem_singleton.mpr rfl⟩

theorem Holds.binds {load statement : Node} {key : Option String} {name : String}
    (h : Holds load statement key name) : statement.BindsValue name := by
  refine .inl ?_
  cases h with
  | whole => exact ⟨List.mem_cons_self,rfl⟩
  | @key _ place _ _ _ _ hmem hreads =>
    refine ⟨?_,rfl⟩
    rw [constDeclaration_valueNames,List.flatMap_singleton]
    exact mem_objectPattern hmem hreads place
  | @keyOfWhole _ place _ _ _ _ _ hmem hreads =>
    refine ⟨?_,rfl⟩
    rw [constDeclaration_valueNames,List.flatMap_cons,List.flatMap_singleton,List.map_append]
    exact List.mem_append_right _ (mem_objectPattern hmem hreads place)

theorem HoldsRest.binds {load statement : Node} {name : String} (h : HoldsRest load statement name) :
    statement.BindsValue name := by
  cases h with
  | @intro _ _ _ _ first _ id hreads =>
    refine .inl ⟨?_,rfl⟩
    rw [constDeclaration_valueNames,List.flatMap_singleton]
    show _ ∈ (first.boundIdents ++ [id]).map (·.name)
    simp

theorem declaredIdents_of_signature {n : Node} (h : n.isSignature = true) :
    ∃ id, n.declaredIdents = [id] := by
  unfold Node.isSignature at h
  split at h
  · exact ⟨_,rfl⟩
  · cases h

theorem declaration_binds {span : Span} {declaration : Node} (hx : x ∈ declaration.valueNames) :
    (route hook declaration).result.BindsValue x ∨
      ExportsSignature x (.node span .exportDeclaration [declaration]) := by
  cases hsignature : declaration.isSignature with
  | false =>
    refine .inl (.inl ⟨?_,?_⟩)
    · rw [valueNames_route]
      exact hx
    · rw [isSignature_route]
      exact hsignature
  | true =>
    refine .inr ⟨rfl,hsignature,fun d hd => ?_⟩
    obtain ⟨name,hname,rfl⟩ := List.mem_map.mp hd
    obtain ⟨id,hid⟩ := declaredIdents_of_signature hsignature
    have honly : ∀ y ∈ declaration.valueNames, y = id.name := by
      intro y hy
      rw [valueNames,hid] at hy
      split at hy
      · exact List.mem_singleton.mp hy
      · cases hy
    exact (honly name hname).trans (honly x hx).symm

theorem default_binds {span : Span} {declaration : Node} {id : Ident}
    (hexporting : exporting (.node span .exportDefaultDeclaration [declaration]) = true)
    (hname : ∀ name ∈ declaration.ownName, name = id) :
    (namedAs id (route hook declaration).result).BindsValue id.name ∨
      ExportsSignature id.name (.node span .exportDefaultDeclaration [declaration]) := by
  cases hsignature : declaration.isDefaultSignature with
  | false =>
    refine .inl (.inl ⟨?_,?_⟩)
    · cases declaration with
      | absent => cases hexporting
      | many items => cases hexporting
      | node place form parts =>
        cases form with
        | functionExpression | classExpression => exact List.mem_cons_self
        | _ => cases hexporting
    · rw [isSignature_namedAs,isDefaultSignature_route]
      exact hsignature
  | true =>
    refine .inr ⟨hexporting,hsignature,fun d hd => ?_⟩
    cases declaration with
    | absent => cases hexporting
    | many items => cases hexporting
    | node place form parts =>
      cases form with
      | functionExpression name | classExpression name =>
        obtain ⟨own,hown,rfl⟩ := List.mem_map.mp hd
        exact congrArg Ident.name (hname own (Option.mem_toList.mp hown))
      | _ => cases hexporting

/-- A local that holds an export is bound by what the item becomes, or it is one of a local list, or
the item is a signature. -/
theorem Exports.binds {statement : Option Node} {held : List Holding}
    (h : Exports hook n statement held) (hshape : n.shaped = true)
    (honce : n.bindsWholeOnce = true) {holding : Holding} (hmem : holding ∈ held) :
    (∃ node ∈ statement, node.BindsValue holding.held) ∨ holding.held ∈ n.listedNames ∨
      ExportsSignature holding.held n := by
  cases h with
  | @declaration span declaration names hleaves =>
    have hdeclaration := (shaped_node_iff.mp hshape).2 declaration List.mem_cons_self
    obtain ⟨x,hx,rfl⟩ := List.mem_map.mp hmem
    rw [(leaves_iff hdeclaration).mp hleaves] at hx
    rcases declaration_binds hx with hbinds | hsignature
    · exact .inl ⟨_,rfl,hbinds⟩
    · exact .inr (.inr hsignature)
  | localList =>
    obtain ⟨s,hs,hlocal⟩ := List.mem_filterMap.mp hmem
    obtain ⟨id,hid,rfl⟩ := Option.map_eq_some_iff.mp hlocal
    refine .inr (.inl (List.mem_filterMap.mpr ⟨s,hs,?_⟩))
    rw [hid]
    rfl
  | reexport hpasses =>
    obtain ⟨s,-,⟨hholds⟩⟩ := exists_of_mem_forall₂ hpasses hmem
    obtain ⟨node,hnode,hholds⟩ := hholds honce
    exact .inl ⟨node,hnode,hholds.binds⟩
  | star hrest =>
    obtain rfl := List.mem_singleton.mp hmem
    exact .inl ⟨_,rfl,hrest.binds⟩
  | default hexporting hname =>
    obtain rfl := List.mem_singleton.mp hmem
    rcases default_binds hexporting hname with hbinds | hsignature
    · exact .inl ⟨_,rfl,hbinds⟩
    · exact .inr (.inr hsignature)
  | value hform =>
    obtain rfl := List.mem_singleton.mp hmem
    exact .inl ⟨_,rfl,.inl ⟨List.mem_cons_self,rfl⟩⟩
  | importEquals =>
    obtain rfl := List.mem_singleton.mp hmem
    exact .inl ⟨_,rfl,.inl ⟨List.mem_cons_self,rfl⟩⟩
  | nothing => cases hmem

theorem Exports.listed {statement : Option Node} {held : List Holding}
    (h : Exports hook n statement held) (hx : x ∈ n.listedNames) :
    ∃ holding ∈ held, holding.held = x := by
  unfold listedNames at hx
  split at hx
  · cases h with
    | localList =>
      obtain ⟨specifier,hmem,hlocal⟩ := List.mem_filterMap.mp hx
      obtain ⟨id,hid,rfl⟩ := Option.map_eq_some_iff.mp hlocal
      refine ⟨.named specifier.exportedName id.name,?_,rfl⟩
      refine List.mem_filterMap.mpr ⟨specifier,hmem,?_⟩
      rw [hid]
      rfl
    | value hform => rcases hform with h | h <;> cases h
    | nothing h => cases h
  · cases hx

end Lowering

namespace Program

open Lowering

section Lowered

variable (hook : String) (supply : NameSupply) (p : Program) {x : String}

theorem mem_lower_returnedNames :
    x ∈ (p.lower hook supply).result.returnedNames ↔
      ∃ l ∈ (items hook (p.route hook).result.body supply).1,
        ∃ holding ∈ l.exports.map Export.holding, holding.held = x := by
  rw [returnedNames,lower_body,List.getLast?_concat,Option.toList_some,List.flatMap_singleton,
    Export.mem_returnedNames,List.map_flatMap]
  simp only [List.mem_flatMap]
  exact ⟨fun ⟨h,⟨l,hl,hh⟩,hx⟩ => ⟨l,hl,h,hh,hx⟩,fun ⟨l,hl,h,hh,hx⟩ => ⟨h,⟨l,hl,hh⟩,hx⟩⟩

theorem exists_lower_binds :
    (∃ statement ∈ (p.lower hook supply).result.body, statement.BindsValue x) ↔
      ∃ l ∈ (items hook (p.route hook).result.body supply).1, ∃ statement ∈ l.statement,
        statement.BindsValue x := by
  have hreturn (table : List Export) :
      ¬ (Export.returnStatement p.span table).BindsValue x := by
    rintro (⟨h,-⟩ | h) <;> cases h
  rw [lower_body]
  simp only [List.mem_append,List.mem_filterMap,List.mem_singleton]
  constructor
  · rintro ⟨statement,⟨l,hl,hstatement⟩ | rfl,hx⟩
    · exact ⟨l,hl,statement,hstatement,hx⟩
    · exact absurd hx (hreturn _)
  · rintro ⟨l,hl,statement,hstatement,hx⟩
    exact ⟨statement,.inl ⟨l,hl,hstatement⟩,hx⟩

end Lowered

/-- What the `return` of a body reads, and what the body binds. A name that the program spells is
bound by the body exactly if an item binds it at run time. The names of local lists are read in any
case, also those that only types bind; any other name that is read is bound, unless it is exported
as the name of a function without a body. -/
theorem toFunctionBody_returned (options : Options) (p body : Program) (hshape : p.shaped = true)
    (honce : ∀ item ∈ p.body, item.bindsWholeOnce = true)
    (hok : (p.toFunctionBody options).result = .ok body) :
    (∀ x ∈ Node.spelledAll p.body, (∃ statement ∈ body.body, statement.BindsValue x) ↔
      ∃ item ∈ p.body, item.ItemBindsValue x) ∧
    (∀ item ∈ p.body, ∀ x ∈ item.listedNames, x ∈ body.returnedNames) ∧
    ∀ x ∈ body.returnedNames, (∃ statement ∈ body.body, statement.BindsValue x) ∨
      ∃ item ∈ p.body, x ∈ item.listedNames ∨ item.ExportsSignature x := by
  obtain ⟨-,-,-,rfl⟩ := toFunctionBody_eq_ok.mp hok
  let hook := options.importName
  let lowered := (items hook (p.route hook).result.body (.ofProgram p hook)).1
  have hshapes := (Node.shapedAll_iff p.body).mp hshape
  have hexports : List.Forall₂ (fun n l => Exports hook n l.statement (l.exports.map Export.holding))
      p.body lowered := items_export hook hshapes _
  refine ⟨fun x hx => ?_,fun item hitem x hx => ?_,fun x hx => ?_⟩
  · obtain ⟨made,hdraws,hbinds⟩ := items_bind hook honce (.ofProgram p hook)
    -- The names made for exports are none of those that the program spells.
    have hfresh : x ∉ made := fun hmade =>
      hdraws.not_mem_taken x hmade (List.mem_cons_of_mem _ hx)
    rw [exists_lower_binds]
    exact hbinds x hfresh
  · obtain ⟨l,hl,hexport⟩ := exists_of_mem_forall₂ (List.Forall₂.flip hexports) hitem
    exact (mem_lower_returnedNames ..).mpr ⟨l,hl,hexport.listed hx⟩
  · obtain ⟨l,hl,holding,hmem,rfl⟩ := (mem_lower_returnedNames ..).mp hx
    obtain ⟨item,hitem,hexport⟩ := exists_of_mem_forall₂ hexports hl
    rcases hexport.binds (hshapes item hitem) (honce item hitem) hmem with
      ⟨statement,hstatement,hbound⟩ | hother
    · exact .inl ((exists_lower_binds ..).mpr ⟨l,hl,statement,hstatement,hbound⟩)
    · exact .inr ⟨item,hitem,hother⟩

/-- An interface and a function in one local list, and a function that is exported without a
body. -/
def listedInterface : Program :=
  let id (name : String) : Ident := .named name .nowhere
  let function (body : Node) : Node :=
    .node .nowhere (.function 0 false false) [.many [],.many [],body,.absent,.absent]
  let listed (name : String) : ExportSpecifier := .named .nowhere (.ident (id name)) none false
  ⟨.module,.nowhere,
    [ .node .nowhere (.interfaceDeclaration (id "I") false)
        [.absent,.many [],.node .nowhere .interfaceBody [.many []]],
      .node .nowhere (.functionDeclaration (id "f") false)
        [function (.node .nowhere (.block 0) [.many []])],
      .node .nowhere (.exportNamed [listed "I",listed "f"] none false) [.absent],
      .node .nowhere .exportDeclaration
        [.node .nowhere (.functionDeclaration (id "g") false) [function .absent]] ],none⟩

theorem listedInterface_returned :
    ∃ body, (listedInterface.toFunctionBody {}).result = .ok body ∧
      (∀ x ∈ ["I","f"], x ∈ body.returnedNames) ∧ "g" ∈ body.returnedNames ∧
      (∃ statement ∈ body.body, statement.BindsValue "f") ∧
      ∀ x ∈ ["I","g"], ¬ ∃ statement ∈ body.body, statement.BindsValue x := by
  let body := (listedInterface.lower "$import" (.ofProgram listedInterface "$import")).result
  have hok : (listedInterface.toFunctionBody {}).result = .ok body :=
    toFunctionBody_eq_ok.mpr ⟨rfl,by decide,by decide,rfl⟩
  obtain ⟨hbound,hlisted,-⟩ :=
    toFunctionBody_returned {} listedInterface body (by decide) (by decide) hok
  obtain ⟨item,hitem,hnames⟩ : ∃ item ∈ listedInterface.body, item.listedNames = ["I","f"] :=
    ⟨_,List.mem_cons_of_mem _ (List.mem_cons_of_mem _ List.mem_cons_self),rfl⟩
  have hspelled : ∀ x ∈ ["I","g"], x ∈ Node.spelledAll listedInterface.body := by decide
  have herased : ∀ x ∈ ["I","g"], ¬ ∃ item ∈ listedInterface.body, item.ItemBindsValue x := by decide
  refine ⟨body,hok,hnames ▸ hlisted item hitem,by decide,(hbound "f" (by decide)).mpr (by decide),?_⟩
  intro x hx
  rw [hbound x (hspelled x hx)]
  exact herased x hx

/-- The module `interface I {} export { I };`. -/
def exportedInterface : Program :=
  let id : Ident := .named "I" .nowhere
  ⟨.module,.nowhere,
    [ .node .nowhere (.interfaceDeclaration id false)
        [.absent,.many [],.node .nowhere .interfaceBody [.many []]],
      .node .nowhere (.exportNamed [.named .nowhere (.ident id) none false] none false) [.absent] ],none⟩

theorem exportedInterface_dangling :
    ∃ body, (exportedInterface.toFunctionBody {}).result = .ok body ∧
      "I" ∈ body.returnedNames ∧ ¬ ∃ statement ∈ body.body, statement.BindsValue "I" :=
  ⟨(exportedInterface.lower "$import" (.ofProgram exportedInterface "$import")).result,
    toFunctionBody_eq_ok.mpr ⟨rfl,by decide,by decide,rfl⟩,by decide,by decide⟩

end Program
end AsyncBody
