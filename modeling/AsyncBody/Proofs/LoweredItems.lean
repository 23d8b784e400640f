import AsyncBody.FunctionBody
import AsyncBody.Proofs.Declarations
import AsyncBody.Proofs.FreshName

/-!
What an item of a module becomes, case by case, with the fresh names that are drawn for it. What is
shown of items further on is shown of these cases.
-/
namespace AsyncBody

namespace ExportSpecifier

def base : ExportSpecifier → String
  | .named _ inner exported _ => Lowering.baseOf (exported.getD inner)
  | .whole _ exported => Lowering.baseOf exported
  | .default exported => exported.name

def through (span : Span) (specifier : ExportSpecifier) (name : String) : Loaded × Export :=
  match specifier with
  | .named _ inner exported _ =>
    (.named inner (.named name span),.named (exported.getD inner) (.named name span))
  | .whole place exported => (.whole (.named name place),.named exported (.named name place))
  | .default exported =>
    (.default (.named name exported.span),.named (.ident exported) (.named name exported.span))

end ExportSpecifier

namespace Node

/-- The bases of the fresh names that an item asks for. -/
def freshBases : Node → List String
  | .node _ (.exportNamed specifiers (some _) false) [_] =>
    (specifiers.filter (! ·.isType)).map ExportSpecifier.base
  | .node _ (.exportAll _ false) [_] => ["unused","exportAll"]
  | .node _ .exportDefaultDeclaration [.node _ (.functionExpression none) _]
  | .node _ .exportDefaultDeclaration [.node _ (.classExpression none) _]
  | .node _ .exportDefaultExpression [_] | .node _ .exportAssignment [_] => ["default"]
  | _ => []

def namedAs (id : Ident) : Node → Node
  | .node span (.functionExpression _) parts => .node span (.functionDeclaration id false) parts
  | .node span (.classExpression _) parts => .node span (.classDeclaration id false) parts
  | declaration => declaration

def ownName : Node → Option Ident
  | .node _ (.functionExpression name) _ => name
  | .node _ (.classExpression name) _ => name
  | _ => none

def isNameable : Node → Bool
  | .node _ (.functionExpression _) _ | .node _ (.classExpression _) _ => true
  | _ => false

def dropEvent : Node → Option Event
  | .node _ (.importDeclaration specifiers source typeOnly _) [_] =>
    if typeOnly then some (.typeImportDropped source.value)
    else if ! specifiers.isEmpty && specifiers.all (·.isType) then
      some (.typeSpecifiersDropped source.value)
    else none
  | .node _ (.exportNamed specifiers source typeOnly) [_] =>
    if typeOnly then some .typeExportDropped
    else source.bind fun source =>
      if ! specifiers.isEmpty && specifiers.all (·.isType) then
        some (.typeReexportsDropped source.value)
      else none
  | .node _ (.exportAll source true) [_] => some (.typeStarDropped source.value)
  | .node _ (.importEquals _ true name) [_] => some (.typeAliasDropped name.name)
  | .node _ (.exportAsNamespace name) _ => some (.namespaceExportDropped name.name)
  | _ => none

end Node

namespace Lowering

open Node NameSupply

/-- Whether an item is lowered in a way of its own. -/
def isLowered : Node → Bool
  | .node _ (.importDeclaration ..) [_] | .node _ .exportDeclaration [_]
  | .node _ (.exportNamed ..) [_] | .node _ (.exportAll ..) [_]
  | .node _ .exportDefaultDeclaration [_] | .node _ .exportDefaultExpression [_]
  | .node _ .exportAssignment [_] | .node _ (.exportAsNamespace _) _
  | .node _ (.importEquals ..) [_] => true
  | _ => false

theorem isLowered_route (hook : String) (n : Node) :
    isLowered (route hook n).result = isLowered n := by
  cases n with
  | absent => rfl
  | many items => rfl
  | node span form parts =>
    rw [apply_route hook isLowered (fun _ _ _ _ => rfl) fun _ _ => rfl]
    cases form with
    | importDeclaration | exportDeclaration | exportNamed | exportAll | exportDefaultDeclaration
    | exportDefaultExpression | exportAssignment | importEquals =>
      match parts with
      | [] | [_] | _ :: _ :: _ => rfl
    | _ => rfl

structure ModuleLoad where
  span : Span
  source : StringLiteral
  attributes : Node
  names : List Loaded
  exports : List Export
  event : Event

namespace ModuleLoad

def request (m : ModuleLoad) (hook : String) : Request :=
  ⟨m.source,(route hook m.attributes).result⟩

def statement (m : ModuleLoad) (hook : String) : Node :=
  loadStatement hook m.span (m.request hook) m.names

def lowered (m : ModuleLoad) (hook : String) : Lowered :=
  { statement := some (m.statement hook)
    exports := m.exports
    requests := 1
    events := [m.event] }

end ModuleLoad

def Lowered.constant (span : Span) (id : Ident) (value : Node) (exports : List Export)
    (requests : Nat) (event : Event) : Lowered :=
  { statement := some (constDeclaration span [declarator id.pattern value])
    exports := exports
    requests := requests
    events := [event] }

/-- `Loads n names m`: an item loads a module, with these fresh names. -/
inductive Loads : Node → List String → ModuleLoad → Prop where
  | imported {span : Span} {specifiers : List ImportSpecifier} {source : StringLiteral}
      {phase : ImportPhase} {attributes : Node}
      (h : (! specifiers.isEmpty && specifiers.all (·.isType)) = false) :
      Loads (.node span (.importDeclaration specifiers source false phase) [attributes]) []
        ⟨span,source,attributes,specifiers.filterMap ImportSpecifier.loaded,[],
          .importLoaded source.value⟩
  | reexported {span : Span} {specifiers : List ExportSpecifier} {source : StringLiteral}
      {attributes : Node} {names : List String}
      (h : (! specifiers.isEmpty && specifiers.all (·.isType)) = false)
      (hlength : names.length = (specifiers.filter (! ·.isType)).length) :
      Loads (.node span (.exportNamed specifiers (some source) false) [attributes]) names
        ⟨span,source,attributes,
          ((specifiers.filter (! ·.isType)).zipWith (·.through span) names).map (·.1),
          ((specifiers.filter (! ·.isType)).zipWith (·.through span) names).map (·.2),
          .reexportLoaded source.value⟩
  | star {span : Span} {source : StringLiteral} {attributes : Node} {unused rest : String} :
      Loads (.node span (.exportAll source false) [attributes]) [unused,rest]
        ⟨span,source,attributes,[.default (.named unused span),.rest (.named rest span)],
          [.spread (.named rest span)],.starLoaded source.value⟩

/-- `Lowers hook n names l`: what an item becomes, routed and with these fresh names. -/
inductive Lowers (hook : String) : Node → List String → Lowered → Prop where
  | kept {n : Node} (h : isLowered n = false) : Lowers hook n [] (.kept (route hook n).result)
  | dropped {n : Node} {event : Event} (h : n.dropEvent = some event) :
      Lowers hook n [] (.dropped event)
  | loaded {n : Node} {names : List String} {m : ModuleLoad} (h : Loads n names m) :
      Lowers hook n names (m.lowered hook)
  | exported {span : Span} {declaration : Node} {ids : List Ident}
      (hids : ids = if declaration.leavesValue then declaration.declaredIdents else []) :
      Lowers hook (.node span .exportDeclaration [declaration]) []
        { statement := some (route hook declaration).result
          exports := ids.map .own
          events := [.exportDeclared ids.length] }
  | listed {span : Span} {specifiers : List ExportSpecifier} {attributes : Node} :
      Lowers hook (.node span (.exportNamed specifiers none false) [attributes]) []
        { exports := specifiers.filterMap localExport, events := [.localExports] }
  | ownDefault {span : Span} {declaration : Node} {id : Ident} (h : declaration.ownName = some id) :
      Lowers hook (.node span .exportDefaultDeclaration [declaration]) []
        (defaultDeclaration id (namedAs id (route hook declaration).result))
  | freshDefault {span : Span} {declaration : Node} {name : String}
      (hnameable : declaration.isNameable = true) (h : declaration.ownName = none) :
      Lowers hook (.node span .exportDefaultDeclaration [declaration]) [name]
        (defaultDeclaration (.named name span)
          (namedAs (.named name span) (route hook declaration).result))
  | otherDefault {span : Span} {declaration : Node} (h : declaration.isNameable = false) :
      Lowers hook (.node span .exportDefaultDeclaration [declaration]) []
        { statement := some (route hook declaration).result, events := [.defaultInterface] }
  | defaultValue {span : Span} {value : Node} {name : String} :
      Lowers hook (.node span .exportDefaultExpression [value]) [name]
        (.constant span (.named name span) (route hook value).result [.default (.named name span)] 0
          .defaultExpression)
  | assignedValue {span : Span} {value : Node} {name : String} :
      Lowers hook (.node span .exportAssignment [value]) [name]
        (.constant span (.named name span) (route hook value).result [.default (.named name span)] 0
          .exportAssigned)
  | reference {span : Span} {isExport : Bool} {name : Ident} {reference : Node} :
      Lowers hook (.node span (.importEquals isExport false name) [reference]) []
        (.constant span (.named name.name name.span)
          (referenceValue hook span (route hook reference).result).1
          (if isExport then [.own name] else [])
          (referenceValue hook span (route hook reference).result).2 (.importEquals name.name))

theorem exists_of_mem_through {span : Span} {specifiers : List ExportSpecifier}
    {names : List String} {entry : Loaded × Export}
    (h : entry ∈ specifiers.zipWith (·.through span) names) :
    ∃ specifier ∈ specifiers, ∃ name ∈ names, specifier.through span name = entry := by
  rw [← List.map_uncurry_zip_eq_zipWith] at h
  obtain ⟨⟨specifier,name⟩,hmem,rfl⟩ := List.mem_map.mp h
  exact ⟨specifier,(List.of_mem_zip hmem).1,name,(List.of_mem_zip hmem).2,rfl⟩

theorem reexport_type {specifier : ExportSpecifier} (h : specifier.isType = true) (span : Span)
    (s : NameSupply) : reexport span specifier s = (none,s) := by
  cases specifier with
  | named _ _ _ typeOnly =>
    obtain rfl : typeOnly = true := h
    rfl
  | default | whole => cases h

theorem reexport_through {specifier : ExportSpecifier} (h : specifier.isType = false) (span : Span)
    (s : NameSupply) :
    reexport span specifier s =
      (some (specifier.through span (s.fresh specifier.base).1),(s.fresh specifier.base).2) := by
  cases specifier with
  | named _ _ _ typeOnly =>
    obtain rfl : typeOnly = false := h
    rfl
  | default | whole => rfl

/-- The specifiers that are no types go through the names drawn for them, one each. -/
theorem reexports_eq (span : Span) (specifiers : List ExportSpecifier) (s : NameSupply) :
    reexports span specifiers s =
      let values := specifiers.filter (! ·.isType)
      let drawn := s.draw (values.map (·.base))
      (values.zipWith (·.through span) drawn.1,drawn.2) := by
  induction specifiers generalizing s with
  | nil => rfl
  | cons specifier rest ih =>
    have hrest := ih (reexport span specifier s).2
    have hcons : reexports span (specifier::rest) s =
        ((reexport span specifier s).1.toList ++
          (reexports span rest (reexport span specifier s).2).1,
          (reexports span rest (reexport span specifier s).2).2) := rfl
    rw [hcons,hrest]
    cases htype : specifier.isType with
    | true =>
      rw [reexport_type htype,List.filter_cons_of_neg (by simp [htype])]
      rfl
    | false =>
      rw [reexport_through htype,List.filter_cons_of_pos (by simp [htype])]
      rfl

end Lowering

theorem ImportSpecifier.loaded_eq_none_iff (s : ImportSpecifier) :
    s.loaded = none ↔ s.isType = true := by
  cases s with
  | named _ _ _ typeOnly => cases typeOnly <;> simp [loaded,isType]
  | default => simp [loaded,isType]
  | whole => simp [loaded,isType]

theorem ImportSpecifier.loaded_isEmpty (specifiers : List ImportSpecifier) :
    (specifiers.filterMap loaded).isEmpty = specifiers.all (·.isType) := by
  rw [Bool.eq_iff_iff,List.isEmpty_iff,List.filterMap_eq_nil_iff,List.all_eq_true]
  exact forall₂_congr fun s _ => s.loaded_eq_none_iff

namespace Lowering

open Node NameSupply

variable (hook : String)

theorem importDeclaration_lowers (span : Span) (specifiers : List ImportSpecifier)
    (source : StringLiteral) (typeOnly : Bool) (phase : ImportPhase) (attributes : Node) :
    Lowers hook (.node span (.importDeclaration specifiers source typeOnly phase) [attributes]) []
      (importDeclaration hook span specifiers ⟨source,(route hook attributes).result⟩ typeOnly) := by
  cases typeOnly with
  | true => exact .dropped rfl
  | false =>
    dsimp only [importDeclaration]
    rw [if_neg Bool.false_ne_true,ImportSpecifier.loaded_isEmpty,Bool.and_comm]
    split
    · rename_i hdropped
      refine .dropped ?_
      rw [dropEvent,if_neg Bool.false_ne_true,if_pos hdropped]
    · rename_i hloaded
      exact .loaded (.imported (eq_false_of_ne_true hloaded))

theorem exportDeclaration_lowers (span : Span) (declaration : Node) :
    Lowers hook (.node span .exportDeclaration [declaration]) []
      (exportDeclaration (route hook declaration).result) := by
  dsimp only [exportDeclaration]
  rw [leavesValue_route,declaredIdents_route]
  exact .exported rfl

theorem filter_isType_eq_nil_iff {specifiers : List ExportSpecifier} :
    specifiers.filter (! ·.isType) = [] ↔ specifiers.all (·.isType) = true := by
  rw [List.filter_eq_nil_iff,List.all_eq_true]
  exact forall₂_congr fun specifier _ => by simp

theorem exportFrom_lowers (span : Span) (specifiers : List ExportSpecifier) (source : StringLiteral)
    (attributes : Node) (s : NameSupply) :
    let drawn := s.draw ((specifiers.filter (! ·.isType)).map (·.base))
    let lowered := exportFrom hook span specifiers ⟨source,(route hook attributes).result⟩ s
    Lowers hook (.node span (.exportNamed specifiers (some source) false) [attributes]) drawn.1
      lowered.1 ∧ lowered.2 = drawn.2 := by
  have hlength := draw_length ((specifiers.filter (! ·.isType)).map (·.base)) s
  rw [List.length_map] at hlength
  simp only [exportFrom,bind,StateT.bind,reexports_eq]
  generalize s.draw _ = drawn at hlength ⊢
  have hempty : ((specifiers.filter (! ·.isType)).zipWith (·.through span) drawn.1).isEmpty =
      specifiers.all (·.isType) := by
    rw [Bool.eq_iff_iff,← filter_isType_eq_nil_iff,List.isEmpty_iff,List.zipWith_eq_nil_iff]
    exact or_iff_left_of_imp fun hnil => List.eq_nil_of_length_eq_zero (by rw [← hlength,hnil]; rfl)
  rw [hempty,Bool.and_comm]
  split
  · rename_i htypes
    have hvalues := filter_isType_eq_nil_iff.mpr (Bool.and_eq_true_iff.mp htypes).2
    have hnone : drawn.1 = [] := List.eq_nil_of_length_eq_zero (by rw [hlength,hvalues]; rfl)
    rw [hnone]
    refine ⟨.dropped ?_,rfl⟩
    rw [dropEvent,if_neg Bool.false_ne_true,Option.bind_some,if_pos htypes]
  · rename_i hloaded
    exact ⟨.loaded (.reexported (eq_false_of_ne_true hloaded) hlength),rfl⟩

theorem ownName_route (n : Node) : (route hook n).result.ownName = n.ownName := by
  refine apply_route_eq hook ownName (fun _ _ _ _ => rfl) (fun _ _ => rfl) (fun _ => rfl) ?_ n
  intro span form parts
  cases form with
  | _ => rfl

theorem isNameable_route (n : Node) : (route hook n).result.isNameable = n.isNameable := by
  refine apply_route_eq hook isNameable (fun _ _ _ _ => rfl) (fun _ _ => rfl) (fun _ => rfl) ?_ n
  intro span form parts
  cases form with
  | _ => rfl

theorem exportDefaultDeclaration_of_ownName {declaration : Node} {id : Ident}
    (h : declaration.ownName = some id) (span : Span) (s : NameSupply) :
    exportDefaultDeclaration span declaration s =
      (defaultDeclaration id (namedAs id declaration),s) := by
  unfold ownName at h
  split at h
  · obtain rfl := h
    rfl
  · obtain rfl := h
    rfl
  · cases h

theorem exportDefaultDeclaration_of_unnamed {declaration : Node}
    (hnameable : declaration.isNameable = true) (h : declaration.ownName = none) (span : Span)
    (s : NameSupply) :
    exportDefaultDeclaration span declaration s =
      (defaultDeclaration (.named (s.fresh "default").1 span)
        (namedAs (.named (s.fresh "default").1 span) declaration),(s.fresh "default").2) := by
  unfold isNameable at hnameable
  split at hnameable
  · obtain rfl := h
    rfl
  · obtain rfl := h
    rfl
  · cases hnameable

theorem exportDefaultDeclaration_of_other {declaration : Node}
    (h : declaration.isNameable = false) (span : Span) (s : NameSupply) :
    exportDefaultDeclaration span declaration s =
      ({ statement := some declaration, events := [.defaultInterface] },s) := by
  unfold exportDefaultDeclaration
  split
  · cases h
  · cases h
  · rfl

theorem namedAs_of_other {declaration : Node} (h : declaration.isNameable = false) (id : Ident) :
    namedAs id declaration = declaration := by
  unfold namedAs
  split
  · cases h
  · cases h
  · rfl

theorem freshBases_default (span : Span) (declaration : Node) :
    (node span .exportDefaultDeclaration [declaration]).freshBases =
      if declaration.isNameable && declaration.ownName.isNone then ["default"] else [] := by
  cases declaration with
  | absent | many => rfl
  | node place form parts =>
    cases form with
    | functionExpression name | classExpression name => cases name <;> rfl
    | _ => rfl

theorem exportDefaultDeclaration_lowers (span : Span) (declaration : Node) (s : NameSupply) :
    let drawn := s.draw (node span .exportDefaultDeclaration [declaration]).freshBases
    let lowered := exportDefaultDeclaration span (route hook declaration).result s
    Lowers hook (.node span .exportDefaultDeclaration [declaration]) drawn.1 lowered.1 ∧
      lowered.2 = drawn.2 := by
  have hrouted := isNameable_route hook declaration
  have hname := ownName_route hook declaration
  rw [freshBases_default]
  cases hnameable : declaration.isNameable with
  | false =>
    rw [exportDefaultDeclaration_of_other (hrouted.trans hnameable)]
    exact ⟨.otherDefault hnameable,rfl⟩
  | true =>
    cases hown : declaration.ownName with
    | some id =>
      rw [exportDefaultDeclaration_of_ownName (hname.trans hown)]
      exact ⟨.ownDefault hown,rfl⟩
    | none =>
      rw [exportDefaultDeclaration_of_unnamed (hrouted.trans hnameable) (hname.trans hown)]
      exact ⟨.freshDefault hnameable hown,rfl⟩

theorem freshBases_kept {n : Node} (h : isLowered n = false) : n.freshBases = [] := by
  unfold freshBases
  split
  all_goals first
    | cases h
    | rfl

theorem item_kept {n : Node} (h : isLowered n = false) (s : NameSupply) :
    item hook n s = (.kept n,s) := by
  unfold item
  split
  all_goals first
    | cases h
    | rfl

theorem item_spec (n : Node) (s : NameSupply) :
    Lowers hook n (s.draw n.freshBases).1 (item hook (route hook n).result s).1 ∧
      (item hook (route hook n).result s).2 = (s.draw n.freshBases).2 := by
  cases h : isLowered n with
  | false =>
    rw [item_kept hook ((isLowered_route hook n).trans h),freshBases_kept h]
    exact ⟨.kept h,rfl⟩
  | true =>
    unfold isLowered at h
    split at h
    · exact ⟨importDeclaration_lowers ..,rfl⟩
    · exact ⟨exportDeclaration_lowers ..,rfl⟩
    · rename_i specifiers source typeOnly attributes
      cases typeOnly with
      | true => cases source <;> exact ⟨.dropped rfl,rfl⟩
      | false =>
        cases source with
        | none => exact ⟨.listed,rfl⟩
        | some source => exact exportFrom_lowers ..
    · rename_i typeOnly _
      cases typeOnly with
      | true => exact ⟨.dropped rfl,rfl⟩
      | false => exact ⟨.loaded .star,rfl⟩
    · exact exportDefaultDeclaration_lowers ..
    · exact ⟨.defaultValue,rfl⟩
    · exact ⟨.assignedValue,rfl⟩
    · exact ⟨.dropped rfl,rfl⟩
    · rename_i typeOnly _ _
      cases typeOnly with
      | true => exact ⟨.dropped rfl,rfl⟩
      | false => exact ⟨.reference,rfl⟩
    · cases h

theorem Loads.unique {n : Node} {names : List String} {m m' : ModuleLoad} (h : Loads n names m)
    (h' : Loads n names m') : m = m' := by
  cases h <;> cases h' <;> rfl

theorem Loads.isLowered {n : Node} {names : List String} {m : ModuleLoad} (h : Loads n names m) :
    Lowering.isLowered n = true := by
  cases h <;> rfl

theorem Loads.dropEvent {n : Node} {names : List String} {m : ModuleLoad} (h : Loads n names m) :
    n.dropEvent = none := by
  cases h with
  | imported h | reexported h =>
    simp only [Node.dropEvent,h,Option.bind_some]
    rfl
  | star => rfl

theorem isLowered_of_dropEvent {n : Node} {event : Event} (h : n.dropEvent = some event) :
    isLowered n = true := by
  unfold dropEvent at h
  split at h
  all_goals first
    | rfl
    | cases h

theorem isNameable_of_ownName {n : Node} {id : Ident} (h : n.ownName = some id) :
    n.isNameable = true := by
  unfold ownName at h
  split at h
  · rfl
  · rfl
  · cases h

namespace Lowers

variable {hook} {n : Node} {names : List String} {l l' : Lowered}

theorem eq_kept (h : Lowers hook n names l) (hkept : isLowered n = false) :
    l = .kept (route hook n).result := by
  cases h with
  | kept => rfl
  | dropped h => cases hkept.symm.trans (isLowered_of_dropEvent h)
  | loaded h => cases hkept.symm.trans h.isLowered
  | _ => cases hkept

theorem eq_dropped {event : Event} (h : Lowers hook n names l) (hdrop : n.dropEvent = some event) :
    l = .dropped event := by
  cases h with
  | kept h => cases h.symm.trans (isLowered_of_dropEvent hdrop)
  | dropped h =>
    obtain rfl := Option.some.inj (h.symm.trans hdrop)
    rfl
  | loaded h => cases h.dropEvent.symm.trans hdrop
  | _ => cases hdrop

theorem eq_loaded {m : ModuleLoad} (h : Lowers hook n names l) (hload : Loads n names m) :
    l = m.lowered hook := by
  cases h with
  | kept h => cases h.symm.trans hload.isLowered
  | dropped h => cases hload.dropEvent.symm.trans h
  | loaded h => rw [h.unique hload]
  | _ => cases hload

/-- With the same fresh names, an item becomes one thing only. -/
theorem unique (h : Lowers hook n names l) (h' : Lowers hook n names l') : l = l' := by
  cases h with
  | kept h => exact (h'.eq_kept h).symm
  | dropped h => exact (h'.eq_dropped h).symm
  | loaded h => exact (h'.eq_loaded h).symm
  | exported hids =>
    cases h' with
    | exported hids' => rw [hids,hids']
    | kept h | dropped h | loaded h => cases h
  | listed =>
    cases h' with
    | listed => rfl
    | kept h | dropped h | loaded h => cases h
  | ownDefault h =>
    cases h' with
    | ownDefault h' => rw [Option.some.inj (h.symm.trans h')]
    | otherDefault h' => cases h'.symm.trans (isNameable_of_ownName h)
    | kept h | dropped h | loaded h => cases h
  | freshDefault =>
    cases h' with
    | freshDefault => rfl
    | loaded h => cases h
  | otherDefault h =>
    cases h' with
    | otherDefault => rfl
    | ownDefault h' => cases h.symm.trans (isNameable_of_ownName h')
    | kept h | dropped h | loaded h => cases h
  | defaultValue =>
    cases h' with
    | defaultValue => rfl
    | loaded h => cases h
  | assignedValue =>
    cases h' with
    | assignedValue => rfl
    | loaded h => cases h
  | reference =>
    cases h' with
    | reference => rfl
    | kept h | dropped h | loaded h => cases h

end Lowers

theorem item_lowers (n : Node) (s : NameSupply) :
    Lowers hook n (s.draw n.freshBases).1 (item hook (route hook n).result s).1 :=
  (item_spec hook n s).1

theorem item_supply (n : Node) (s : NameSupply) :
    (item hook (route hook n).result s).2 = (s.draw n.freshBases).2 := (item_spec hook n s).2

theorem items_cons (n : Node) (rest : List Node) (s : NameSupply) :
    items hook (n::rest) s = ((item hook n s).1 :: (items hook rest (item hook n s).2).1,
      (items hook rest (item hook n s).2).2) := rfl

theorem items_route_cons (n : Node) (rest : List Node) (s : NameSupply) :
    items hook (routeAll hook (n::rest)).result s =
      ((item hook (route hook n).result s).1 ::
          (items hook (routeAll hook rest).result (item hook (route hook n).result s).2).1,
        (items hook (routeAll hook rest).result (item hook (route hook n).result s).2).2) := rfl

theorem statements_cons (l : Lowered) (rest : List Lowered) :
    (l::rest).filterMap (·.statement) = l.statement.toList ++ rest.filterMap (·.statement) := by
  cases h : l.statement with
  | none => exact List.filterMap_cons_none h
  | some statement => exact List.filterMap_cons_some h

theorem items_supply (ns : List Node) (s : NameSupply) :
    (items hook (routeAll hook ns).result s).2 = (s.draw (ns.flatMap freshBases)).2 := by
  induction ns generalizing s with
  | nil => rfl
  | cons n rest ih =>
    rw [List.flatMap_cons,draw_append,← item_supply hook n s]
    exact ih _

theorem exists_of_mem_forall₂ {α β : Type} {R : α → β → Prop} {as : List α} {bs : List β}
    (h : List.Forall₂ R as bs) {b : β} (hb : b ∈ bs) : ∃ a ∈ as, R a b := by
  induction h with
  | nil => cases hb
  | cons hfirst _ ih =>
    rcases List.mem_cons.mp hb with rfl | hb
    · exact ⟨_,List.mem_cons_self,hfirst⟩
    · obtain ⟨a,ha,hrel⟩ := ih hb
      exact ⟨a,List.mem_cons_of_mem _ ha,hrel⟩

/-- What holds of the lowering of each item, whatever names are taken, holds along the items. -/
theorem items_forall₂ {R : Node → Lowered → Prop} {ns : List Node}
    (h : ∀ n ∈ ns, ∀ s, R n (item hook (route hook n).result s).1) (s : NameSupply) :
    List.Forall₂ R ns (items hook (routeAll hook ns).result s).1 := by
  induction ns generalizing s with
  | nil => exact .nil
  | cons n rest ih =>
    refine .cons (h n List.mem_cons_self s) (ih ?_ _)
    exact fun n hn => h n (List.mem_cons_of_mem _ hn)

end Lowering

end AsyncBody
