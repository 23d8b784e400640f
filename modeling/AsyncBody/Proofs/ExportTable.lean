import AsyncBody.Proofs.Erasure
import AsyncBody.Proofs.ItemOrder
import AsyncBody.Proofs.LoweredMeaning

/-!
The table of exports: under which names the items of a program export what their locals hold, and
the object that the `return` of a body makes of it.
-/
namespace AsyncBody

open Execution

/-- An export and the local that holds its value; a star has a local that holds all that it
exports. -/
inductive Holding where
  | named (exported held : String)
  | star (held : String)
deriving DecidableEq, Repr

def Export.holding : Export → Holding
  | .named exported value => .named exported.text value.name
  | .spread value => .star value.name

inductive Holding.Means (env : Env) : Holding → Exported → Prop where
  | named {exported held : String} {value : Value} (h : env held = some value) :
      Means env (.named exported held) (.named exported value)
  | star {held : String} {prototype : Value} {own : Properties}
      (h : env held = some (.object prototype own)) : Means env (.star held) (.star own)

theorem Export.means_of_holding {env : Env} {e : Export} {x : Exported}
    (h : e.holding.Means env x) : e.Means env x := by
  cases e with
  | named =>
    obtain ⟨h⟩ := h
    exact .named h
  | spread =>
    obtain ⟨⟩ | ⟨h⟩ := h
    exact .spread h

namespace Node

def exporting : Node → Bool
  | .node _ .exportDeclaration [_] => true
  | .node _ (.exportNamed _ _ typeOnly) [_] => ! typeOnly
  | .node _ (.exportAll _ typeOnly) [_] => ! typeOnly
  | .node _ .exportDefaultDeclaration [.node _ (.functionExpression _) _] => true
  | .node _ .exportDefaultDeclaration [.node _ (.classExpression _) _] => true
  | .node _ .exportDefaultExpression [_] => true
  | .node _ .exportAssignment [_] => true
  | .node _ (.importEquals isExport typeOnly _) [_] => isExport && ! typeOnly
  | _ => false

end Node

namespace Lowering

open Node

/-- A statement binds a name to a module that it loads, or to what the module holds under a key. -/
inductive Holds (load : Node) : Node → Option String → String → Prop where
  | whole {span : Span} {id : Ident} {rest : List Node} :
      Holds load (constDeclaration span (declarator id.pattern load :: rest)) none id.name
  | key {span place : Span} {properties : List Node} {property : Node} {key name : String}
      (hmem : property ∈ properties) (h : Reads property key name) :
      Holds load (constDeclaration span [declarator (objectPattern place properties) load])
        (some key) name
  | keyOfWhole {span place : Span} {id : Ident} {properties : List Node} {property : Node}
      {key name : String} (hmem : property ∈ properties) (h : Reads property key name) :
      Holds load (constDeclaration span [declarator id.pattern load,
        declarator (objectPattern place properties) id.reference]) (some key) name

/-- A statement binds a name to an object of all that a module holds but for its default export. -/
inductive HoldsRest (load : Node) : Node → String → Prop where
  | intro {span place at_ dots : Span} {first : Node} {unused : String} {id : Ident}
      (h : Reads first "default" unused) :
      HoldsRest load (constDeclaration span [declarator (objectPattern place
        [first,.node at_ (.restElement dots) [id.pattern,.absent]]) load]) id.name

/-- A specifier with a source exports what a statement holds. If several specifiers name the whole
module, which is not in the grammar, only the last of them is bound. -/
inductive Passes (load : Node) (once : Bool) (statement : Option Node) :
    ExportSpecifier → Holding → Prop where
  | intro {s : ExportSpecifier} {name : String}
      (h : once = true → ∃ node ∈ statement, Holds load node s.key name) :
      Passes load once statement s (.named s.exportedName name)

/-- `Exports hook item statement held`: what an item exports, in source order, and the locals that
hold it. The statement that the item becomes binds them, unless they are those of a local list. -/
inductive Exports (hook : String) : Node → Option Node → List Holding → Prop where
  | declaration {span : Span} {declaration : Node} {names : List String}
      (h : Leaves declaration names) :
      Exports hook (.node span .exportDeclaration [declaration])
        (some (route hook declaration).result) (names.map fun name => .named name name)
  | localList {span : Span} {specifiers : List ExportSpecifier} {part : Node} :
      Exports hook (.node span (.exportNamed specifiers none false) [part]) none
        (specifiers.filterMap fun s => s.local?.map fun id => .named s.exportedName id.name)
  | reexport {span : Span} {specifiers : List ExportSpecifier} {source : StringLiteral}
      {attributes : Node} {statement : Option Node} {held : List Holding}
      (h : List.Forall₂ (Passes (route hook (awaitImport span source attributes)).result
        (specifiers.countP (·.isWhole) ≤ 1) statement) (specifiers.filter (! ·.isType)) held) :
      Exports hook (.node span (.exportNamed specifiers (some source) false) [attributes])
        statement held
  | star {span : Span} {source : StringLiteral} {attributes statement : Node} {name : String}
      (h : HoldsRest (route hook (awaitImport span source attributes)).result statement name) :
      Exports hook (.node span (.exportAll source false) [attributes]) (some statement) [.star name]
  | default {span : Span} {declaration : Node} {id : Ident}
      (hexporting : exporting (.node span .exportDefaultDeclaration [declaration]) = true)
      (hname : ∀ name ∈ declaration.ownName, name = id) :
      Exports hook (.node span .exportDefaultDeclaration [declaration])
        (some (namedAs id (route hook declaration).result)) [.named "default" id.name]
  | value {span : Span} {form : Form} {value : Node} {id : Ident}
      (hform : form = .exportDefaultExpression ∨ form = .exportAssignment) :
      Exports hook (.node span form [value])
        (some (constDeclaration span [declarator id.pattern (route hook value).result]))
        [.named "default" id.name]
  | importEquals {span place : Span} {name : Ident} {reference value : Node} :
      Exports hook (.node span (.importEquals true false name) [reference])
        (some (constDeclaration span [declarator (Ident.named name.name place).pattern value]))
        [.named name.name name.name]
  | nothing {n : Node} {statement : Option Node} (h : n.exporting = false) :
      Exports hook n statement []

theorem exporting_eq_false {n : Node} (h : isLowered n = false) : n.exporting = false := by
  unfold exporting
  split
  all_goals first
    | cases h
    | rfl

section Loads

variable {names : List Loaded} {l : Loaded} {key : Option String} {name : String}

theorem loadStatement_holds (hwhole : (names.filterMap Loaded.whole?).length ≤ 1) (hmem : l ∈ names)
    (h : l.Takes (key,name)) (hook : String) (span : Span) (request : Request) :
    Holds (request.load hook span) (loadStatement hook span request names) key name := by
  cases h with
  | whole id =>
    have hid : id ∈ names.filterMap Loaded.whole? := List.mem_filterMap.mpr ⟨_,hmem,rfl⟩
    obtain ⟨only,honly⟩ := List.length_eq_one_iff.mp
      (Nat.le_antisymm hwhole (List.length_pos_of_mem hid))
    rw [honly] at hid
    obtain rfl := List.mem_singleton.mp hid
    dsimp only [loadStatement]
    rw [honly]
    cases names.filterMap Loaded.property? with
    | nil => exact .whole
    | cons => exact .whole
  | @property pattern key name hreads =>
    have hpattern : pattern ∈ names.filterMap Loaded.property? :=
      List.mem_filterMap.mpr ⟨_,hmem,rfl⟩
    dsimp only [loadStatement]
    cases hproperties : names.filterMap Loaded.property? with
    | nil =>
      rw [hproperties] at hpattern
      cases hpattern
    | cons =>
      rw [hproperties] at hpattern
      cases (names.filterMap Loaded.whole?).getLast? with
      | none => exact .key hpattern hreads
      | some => exact .keyOfWhole hpattern hreads

end Loads

def PassesEntry (specifier : ExportSpecifier) (entry : Loaded × Export) : Prop :=
  ∃ name, entry.1.Takes (specifier.key,name) ∧
    entry.2.holding = .named specifier.exportedName name

theorem through_passes (span : Span) (specifier : ExportSpecifier) (name : String) :
    PassesEntry specifier (specifier.through span name) := by
  refine ⟨name,through_takes span specifier name,?_⟩
  cases specifier <;> rfl

theorem zipWith_through_passes (span : Span) {specifiers : List ExportSpecifier}
    {names : List String} (h : names.length = specifiers.length) :
    List.Forall₂ PassesEntry specifiers (specifiers.zipWith (·.through span) names) := by
  induction specifiers generalizing names with
  | nil => exact .nil
  | cons specifier rest ih =>
    cases names with
    | nil => cases h
    | cons name names => exact .cons (through_passes span specifier name) (ih (Nat.succ.inj h))

theorem Loads.exports {n : Node} {names : List String} {m : ModuleLoad} (h : Loads n names m)
    (hook : String) : Exports hook n (some (m.statement hook)) (m.exports.map Export.holding) := by
  have hwhole := h.whole
  have hrequest := m.request_eq hook
  cases h with
  | imported => exact .nothing rfl
  | @reexported span specifiers source attributes names h hlength =>
    refine .reexport ?_
    rw [List.map_map,List.forall₂_map_right_iff]
    have hpasses := zipWith_through_passes span hlength
    rw [List.forall₂_iff_zip] at hpasses ⊢
    refine ⟨hpasses.1,fun {specifier entry} hmem => ?_⟩
    obtain ⟨name,htakes,hholding⟩ := hpasses.2 hmem
    rw [Function.comp,hholding,← hrequest]
    refine .intro fun honce => ⟨_,rfl,?_⟩
    exact loadStatement_holds (hwhole honce) (List.mem_map_of_mem (List.of_mem_zip hmem).2) htakes ..
  | star =>
    refine .star ?_
    rw [← hrequest]
    exact .intro .plain

theorem Exports.of_dropEvent {n : Node} {event : Event} (h : n.dropEvent = some event)
    (hook : String) : Exports hook n none [] := by
  unfold dropEvent at h
  split at h
  · exact .nothing rfl
  · rename_i source typeOnly _
    cases typeOnly with
    | true => exact .nothing rfl
    | false =>
      rw [if_neg Bool.false_ne_true] at h
      cases source with
      | none => cases h
      | some source =>
        rw [Option.bind_some] at h
        split at h
        · rename_i htypes
          refine .reexport ?_
          rw [filter_isType_eq_nil_iff.mpr (Bool.and_eq_true_iff.mp htypes).2]
          exact .nil
        · cases h
  · exact .nothing rfl
  · exact .nothing (Bool.and_false _)
  · exact .nothing rfl
  · cases h

theorem exporting_of_other {declaration : Node} (h : declaration.isNameable = false) (span : Span) :
    (node span .exportDefaultDeclaration [declaration]).exporting = false := by
  cases declaration with
  | absent | many => rfl
  | node place form parts =>
    cases form with
    | functionExpression | classExpression => cases h
    | _ => rfl

theorem exporting_of_nameable {declaration : Node} (h : declaration.isNameable = true)
    (span : Span) : (node span .exportDefaultDeclaration [declaration]).exporting = true := by
  unfold isNameable at h
  split at h
  · rfl
  · rfl
  · cases h

theorem localExport_holding (s : ExportSpecifier) :
    (localExport s).map Export.holding =
      s.local?.map fun id => .named s.exportedName id.name := by
  cases s with
  | named place inner exported typeOnly =>
    cases inner with
    | ident value => cases typeOnly <;> cases exported <;> rfl
    | string => rfl
  | default => rfl
  | whole => rfl

theorem Lowers.exports {hook : String} {n : Node} {names : List String} {l : Lowered}
    (hshape : n.shaped = true) (h : Lowers hook n names l) :
    Exports hook n l.statement (l.exports.map Export.holding) := by
  cases h with
  | kept h => exact .nothing (exporting_eq_false h)
  | dropped h => exact .of_dropEvent h hook
  | loaded h => exact h.exports hook
  | @exported span declaration ids hids =>
    obtain ⟨-,hparts⟩ := shaped_node_iff.mp hshape
    have hleaves := leaves_valueNames (hparts declaration List.mem_cons_self)
    have hheld : (ids.map Export.own).map Export.holding =
        declaration.valueNames.map fun name => .named name name := by
      rw [hids,valueNames]
      split
      · rw [List.map_map,List.map_map]
        rfl
      · rfl
    rw [hheld]
    exact .declaration hleaves
  | listed =>
    rw [List.map_filterMap]
    simp only [localExport_holding]
    exact .localList
  | ownDefault h =>
    refine .default (exporting_of_nameable (isNameable_of_ownName h) _) fun name hname => ?_
    exact Option.some.inj (hname.symm.trans h)
  | freshDefault hnameable h =>
    refine .default (exporting_of_nameable hnameable _) fun name hname => ?_
    cases hname.symm.trans h
  | otherDefault h => exact .nothing (exporting_of_other h _)
  | defaultValue => exact .value (.inl rfl)
  | assignedValue => exact .value (.inr rfl)
  | @reference _ isExport =>
    cases isExport with
    | true => exact .importEquals
    | false => exact .nothing rfl

theorem items_export (hook : String) {ns : List Node} (h : ∀ n ∈ ns, n.shaped = true)
    (s : NameSupply) :
    List.Forall₂ (fun n l => Exports hook n l.statement (l.exports.map Export.holding)) ns
      (items hook (routeAll hook ns).result s).1 :=
  items_forall₂ hook (fun n hn s => (item_lowers hook n s).exports (h n hn)) s

end Lowering

namespace Program

open Lowering

/-- The body of a program ends with the `return` of a literal. Where the locals that hold the
exports have values, the literal is an object of these, with nothing set as its prototype: under an
exported name the value of the last export of that name, and under any other what the last star
has. -/
theorem toFunctionBody_exports (options : Options) (p body : Program) (hshape : p.shaped = true)
    (hok : (p.toFunctionBody options).result = .ok body) :
    ∃ (steps : List (Option Node × List Holding)) (literal : Node),
      List.Forall₂ (fun n step => Exports options.importName n step.1 step.2) p.body steps ∧
      body.body = steps.filterMap Prod.fst ++ [.node p.span .returnStatement [literal]] ∧
      ∀ (host : Host) (env : Env) (calls : List Call) (exported : List Exported),
        List.Forall₂ (Holding.Means env) (steps.flatMap Prod.snd) exported →
        eval host env calls literal = some (host.plain (Exported.properties exported),calls) := by
  obtain ⟨-,-,-,rfl⟩ := toFunctionBody_eq_ok.mp hok
  let lowered := (items options.importName (Node.routeAll options.importName p.body).result
    (.ofProgram p options.importName)).1
  have hexports := items_export options.importName (Node.shapedAll_iff p.body |>.mp hshape)
    (.ofProgram p options.importName)
  let literal := Node.node p.span .object [.many (Export.properties (lowered.flatMap (·.exports)))]
  refine ⟨lowered.map fun l => (l.statement,l.exports.map Export.holding),literal,?_,?_,?_⟩
  · rw [List.forall₂_map_right_iff]
    exact hexports
  · rw [List.filterMap_map]
    exact lower_body ..
  · intro host env calls exported hmeans
    rw [List.flatMap_map,← List.map_flatMap,List.forall₂_map_left_iff] at hmeans
    exact Export.eval_literal host (hmeans.imp fun _ _ => Export.means_of_holding) p.span calls

/-- Names of nested patterns, one of them again as `__proto__`, a star, a re-export under a string
beside one of a type, an interface and a class without a name. -/
def exportedPatterns : Program :=
  let id (name : String) : Ident := .named name .nowhere
  let module (name : String) : StringLiteral := .plain name .nowhere
  let rest : Node := .node .nowhere (.restElement .nowhere) [(id "d").pattern,.absent]
  let nested : Node := .node .nowhere (.arrayPattern false)
    [.many [.absent,(id "c").pattern,rest],.absent]
  let pattern : Node := .node .nowhere (.objectPattern false)
    [.many [.node .nowhere .shorthandPattern [(id "a").pattern,.absent],
      .node .nowhere .keyValuePattern [.leaf .nowhere (.propertyName "b"),nested]],.absent]
  ⟨.module,.nowhere,
    [ .node .nowhere .exportDeclaration [.node .nowhere (.variableDeclaration 0 .const false)
        [.many [.node .nowhere (.declarator false) [pattern,(id "x").reference]]]],
      .node .nowhere (.exportNamed [.named .nowhere (.ident (id "c")) (some (.ident (id "__proto__")))
        false] none false) [.absent],
      .node .nowhere (.exportAll (module "s") false) [.absent],
      .node .nowhere (.exportNamed [.named .nowhere (.ident (id "T")) none true,
        .named .nowhere (.ident (id "y")) (some (.string (module "all of y"))) false]
        (some (module "m")) false) [.absent],
      .node .nowhere .exportDeclaration [.node .nowhere (.interfaceDeclaration (id "I") false)
        [.absent,.many [],.node .nowhere .interfaceBody [.many []]]],
      .node .nowhere .exportDefaultDeclaration [.node .nowhere (.classExpression none)
        [.node .nowhere (.classBody 0 false)
          [.many [],.many [],.absent,.absent,.absent,.many []]]] ],none⟩

def starLocals : Env := fun x =>
  if x = "_exportAll" then
    some (.object .null fun key => if key = "a" ∨ key = "w" then some (.text "star") else none)
  else some (.text x)

theorem exportedPatterns_exports :
    ∃ body steps literal, (exportedPatterns.toFunctionBody {}).result = .ok body ∧
      List.Forall₂ (fun n step => Exports "$import" n step.1 step.2) exportedPatterns.body steps ∧
      body.body = steps.filterMap Prod.fst ++ [.node .nowhere .returnStatement [literal]] ∧
      ∃ own, eval specifierHost starLocals [] literal = some (specifierHost.plain own,[]) ∧
        ["a","c","__proto__","d","w","all of y","I","default"].map own =
          [some (.text "a"),some (.text "c"),some (.text "c"),some (.text "d"),some (.text "star"),
            some (.text "_reexport"),none,some (.text "_default")] := by
  let body := (exportedPatterns.lower "$import" (.ofProgram exportedPatterns "$import")).result
  have hok : (exportedPatterns.toFunctionBody {}).result = .ok body :=
    toFunctionBody_eq_ok.mpr ⟨rfl,by decide,by decide,rfl⟩
  obtain ⟨steps,literal,hsteps,hbody,-⟩ :=
    toFunctionBody_exports {} exportedPatterns body (by decide) hok
  refine ⟨body,steps,literal,hok,hsteps,hbody,?_⟩
  have hlast := congrArg List.getLast? hbody
  rw [List.getLast?_concat] at hlast
  obtain ⟨⟩ := hlast
  exact ⟨_,rfl,rfl⟩

end Program
end AsyncBody
