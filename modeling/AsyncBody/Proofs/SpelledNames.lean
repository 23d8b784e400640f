import AsyncBody.Proofs.ItemOrder

/-!
What a function body spells: names that the program spells, the hook, fresh names, and the names of
three properties.
-/
namespace AsyncBody

open Hook Node NameSupply

/-- The names that the lowering for a hook spells of its own are among some. -/
structure Admits (S : String → Prop) (hook : String) : Prop where
  hook : S hook
  fresh : ∀ name, IsSynthetic name → S name
  metaKey : S "meta"
  withKey : S "with"
  defaultKey : S "default"

def Node.SpelledIn (S : String → Prop) (n : Node) : Prop := ∀ name ∈ n.spelled, S name

namespace Node

variable {S : String → Prop} {hook : String}

theorem spelledIn_many {items : List Node} :
    (many items).SpelledIn S ↔ ∀ item ∈ items, item.SpelledIn S := by
  simp only [SpelledIn,spelled,spelledAll_eq,List.mem_flatMap]
  constructor
  · exact fun h item hitem name hname => h name ⟨item,hitem,hname⟩
  · rintro h name ⟨item,hitem,hname⟩
    exact h item hitem name hname

theorem spelledIn_node {span : Span} {form : Form} {parts : List Node} :
    (node span form parts).SpelledIn S ↔
      (∀ name ∈ form.spelled, S name) ∧ ∀ part ∈ parts, part.SpelledIn S := by
  simp only [SpelledIn,spelled,spelledAll_eq,List.mem_append,List.mem_flatMap]
  constructor
  · exact fun h => ⟨fun name hname => h name (.inl hname),
      fun part hpart name hname => h name (.inr ⟨part,hpart,hname⟩)⟩
  · rintro ⟨hform,hparts⟩ name (hname | ⟨part,hpart,hname⟩)
    · exact hform name hname
    · exact hparts part hpart name hname

theorem spelledIn_reference {id : Ident} (h : S id.name) : id.reference.SpelledIn S :=
  fun _ hname => List.mem_singleton.mp hname ▸ h

theorem spelledIn_pattern {id : Ident} (h : S id.name) : id.pattern.SpelledIn S :=
  fun _ hname => List.mem_singleton.mp hname ▸ h

theorem spelledIn_string (literal : StringLiteral) : literal.toNode.SpelledIn S := nofun

theorem spelledIn_absent : absent.SpelledIn S := nofun

theorem spelledIn_route (hS : Admits S hook) {n : Node} (h : n.SpelledIn S) :
    (route hook n).result.SpelledIn S := by
  induction n using Node.induction with
  | absent => exact h
  | many items ih =>
    rw [spelledIn_many] at h
    rw [route,routeAll_result,spelledIn_many]
    intro item hitem
    obtain ⟨inner,hinner,rfl⟩ := List.mem_map.mp hitem
    exact ih inner hinner (h inner hinner)
  | node span form parts ih =>
    obtain ⟨hform,hparts⟩ := spelledIn_node.mp h
    have hrouted : ∀ part ∈ (routeAll hook parts).result, part.SpelledIn S := by
      rw [routeAll_result]
      intro part hpart
      obtain ⟨inner,hinner,rfl⟩ := List.mem_map.mp hpart
      exact ih inner hinner (hparts inner hinner)
    have hidentifier : ∀ place, (identifier hook place).SpelledIn S := fun _ =>
      spelledIn_reference hS.hook
    obtain ⟨hr,-⟩ | ⟨ctxt,place,inner,rest,rfl,rfl,hr⟩ | ⟨rfl,hr⟩ :=
      route_node_cases hook span form parts
    · rw [hr]
      exact spelledIn_node.mpr ⟨hform,hrouted⟩
    · rw [hr]
      refine spelledIn_node.mpr ⟨hform,List.forall_mem_cons.mpr ⟨hidentifier place,?_⟩⟩
      exact fun part hpart => hrouted part (.tail _ hpart)
    · rw [hr,metaRead]
      refine spelledIn_node.mpr ⟨?_,List.forall_mem_cons.mpr ⟨hidentifier span,?_⟩⟩
      · exact fun _ hname => absurd hname List.not_mem_nil
      refine List.forall_mem_singleton.mpr ?_
      exact fun _ hname => List.mem_singleton.mp hname ▸ hS.metaKey

end Node

section Loads

variable {S : String → Prop} {hook : String}

structure Loaded.SpelledIn (S : String → Prop) (l : Loaded) : Prop where
  whole : ∀ id ∈ l.whole?, S id.name
  property : ∀ pattern ∈ l.property?, pattern.SpelledIn S

namespace Loaded

theorem key_spelledIn {name : ExportName} (h : ∀ id ∈ name.idents, S id.name) :
    (key name).SpelledIn S := by
  cases name with
  | ident id => exact fun _ hname => List.mem_singleton.mp hname ▸ h id List.mem_cons_self
  | string literal => exact spelledIn_string literal

theorem keyed_spelledIn {key : Node} {bound : Ident} (hkey : key.SpelledIn S) (h : S bound.name) :
    (keyed key bound).SpelledIn S := by
  refine ⟨nofun,?_⟩
  rintro _ ⟨⟩
  exact spelledIn_node.mpr ⟨nofun,List.forall_mem_cons.mpr
    ⟨hkey,List.forall_mem_singleton.mpr (spelledIn_pattern h)⟩⟩

theorem named_spelledIn {imported : ExportName} {bound : Ident}
    (himported : ∀ id ∈ imported.idents, S id.name) (h : S bound.name) :
    (named imported bound).SpelledIn S := by
  unfold named
  split
  · split
    · refine ⟨nofun,?_⟩
      rintro _ ⟨⟩
      exact spelledIn_node.mpr ⟨nofun,List.forall_mem_cons.mpr
        ⟨spelledIn_pattern h,List.forall_mem_singleton.mpr spelledIn_absent⟩⟩
    · exact keyed_spelledIn (key_spelledIn himported) h
  · exact keyed_spelledIn (key_spelledIn himported) h

theorem default_spelledIn (hS : Admits S hook) {bound : Ident} (h : S bound.name) :
    (default bound).SpelledIn S :=
  keyed_spelledIn (fun _ hname => List.mem_singleton.mp hname ▸ hS.defaultKey) h

theorem whole_spelledIn {bound : Ident} (h : S bound.name) : (whole bound).SpelledIn S := by
  refine ⟨?_,nofun⟩
  rintro _ ⟨⟩
  exact h

theorem rest_spelledIn {bound : Ident} (h : S bound.name) : (rest bound).SpelledIn S := by
  refine ⟨nofun,?_⟩
  rintro _ ⟨⟩
  exact spelledIn_node.mpr ⟨nofun,List.forall_mem_cons.mpr
    ⟨spelledIn_pattern h,List.forall_mem_singleton.mpr spelledIn_absent⟩⟩

end Loaded

theorem ImportSpecifier.loaded_spelledIn (hS : Admits S hook) {specifier : ImportSpecifier}
    (h : ∀ id ∈ specifier.idents, S id.name) {l : Loaded} (hl : specifier.loaded = some l) :
    l.SpelledIn S := by
  cases specifier with
  | named span bound imported typeOnly =>
    have hbound : S bound.name := h bound List.mem_cons_self
    cases typeOnly with
    | true => cases hl
    | false =>
      obtain rfl := Option.some.inj hl
      refine Loaded.named_spelledIn (fun id hid => ?_) hbound
      cases imported with
      | none => exact List.mem_singleton.mp hid ▸ hbound
      | some imported => exact h id (.tail _ (List.mem_append_left _ hid))
  | default span bound =>
    obtain rfl := Option.some.inj hl
    exact Loaded.default_spelledIn hS (h bound List.mem_cons_self)
  | whole span bound =>
    obtain rfl := Option.some.inj hl
    exact Loaded.whole_spelledIn (h bound List.mem_cons_self)

namespace Lowering

theorem load_spelledIn (hS : Admits S hook) {request : Request}
    (h : request.attributes.SpelledIn S) (span : Span) : (request.load hook span).SpelledIn S := by
  have hargument : ∀ {value : Node}, value.SpelledIn S →
      (Node.node .nowhere (.argument none) [value]).SpelledIn S := fun hvalue =>
    spelledIn_node.mpr ⟨nofun,List.forall_mem_singleton.mpr hvalue⟩
  have hkey : (Node.leaf .nowhere (.propertyName "with")).SpelledIn S := fun _ hname =>
    List.mem_singleton.mp hname ▸ hS.withKey
  have hoptions : (Request.options request.attributes).SpelledIn S := by
    refine spelledIn_node.mpr ⟨nofun,List.forall_mem_singleton.mpr (spelledIn_many.mpr ?_)⟩
    refine List.forall_mem_singleton.mpr (spelledIn_node.mpr ⟨nofun,?_⟩)
    exact List.forall_mem_cons.mpr ⟨hkey,List.forall_mem_singleton.mpr h⟩
  have harguments : ∀ argument ∈ request.arguments, argument.SpelledIn S := by
    refine List.forall_mem_cons.mpr ⟨hargument (spelledIn_string _),?_⟩
    split
    · exact List.forall_mem_singleton.mpr (hargument hoptions)
    · exact nofun
  refine spelledIn_node.mpr ⟨nofun,List.forall_mem_singleton.mpr (spelledIn_node.mpr ⟨nofun,?_⟩)⟩
  exact List.forall_mem_cons.mpr ⟨spelledIn_reference hS.hook,List.forall_mem_cons.mpr
    ⟨spelledIn_many.mpr harguments,List.forall_mem_singleton.mpr spelledIn_absent⟩⟩

theorem constDeclaration_spelledIn {span : Span} {declarators : List Node}
    (h : ∀ declarator ∈ declarators, declarator.SpelledIn S) :
    (constDeclaration span declarators).SpelledIn S :=
  spelledIn_node.mpr ⟨nofun,List.forall_mem_singleton.mpr (spelledIn_many.mpr h)⟩

theorem declarator_spelledIn {pattern value : Node} (hpattern : pattern.SpelledIn S)
    (hvalue : value.SpelledIn S) : (declarator pattern value).SpelledIn S :=
  spelledIn_node.mpr ⟨nofun,List.forall_mem_cons.mpr
    ⟨hpattern,List.forall_mem_singleton.mpr hvalue⟩⟩

theorem constant_spelledIn {span : Span} {id : Ident} {value : Node} (hid : S id.name)
    (hvalue : value.SpelledIn S) :
    (constDeclaration span [declarator id.pattern value]).SpelledIn S :=
  constDeclaration_spelledIn
    (List.forall_mem_singleton.mpr (declarator_spelledIn (spelledIn_pattern hid) hvalue))

theorem loadStatement_spelledIn (hS : Admits S hook) {request : Request} {names : List Loaded}
    (hattributes : request.attributes.SpelledIn S) (hnames : ∀ l ∈ names, l.SpelledIn S)
    (span : Span) : (loadStatement hook span request names).SpelledIn S := by
  have hload := load_spelledIn hS hattributes span
  have hpattern : (objectPattern span (names.filterMap Loaded.property?)).SpelledIn S := by
    refine spelledIn_node.mpr ⟨nofun,List.forall_mem_cons.mpr
      ⟨spelledIn_many.mpr fun pattern hpattern => ?_,List.forall_mem_singleton.mpr spelledIn_absent⟩⟩
    obtain ⟨l,hl,hproperty⟩ := List.mem_filterMap.mp hpattern
    exact (hnames l hl).property pattern hproperty
  have hwhole : ∀ id, (names.filterMap Loaded.whole?).getLast? = some id → S id.name := by
    intro id hlast
    obtain ⟨l,hl,hwhole⟩ := List.mem_filterMap.mp (List.mem_of_getLast? hlast)
    exact (hnames l hl).whole id hwhole
  dsimp only [loadStatement]
  split
  · exact spelledIn_node.mpr ⟨nofun,List.forall_mem_singleton.mpr hload⟩
  · exact constDeclaration_spelledIn
      (List.forall_mem_singleton.mpr (declarator_spelledIn hpattern hload))
  · rename_i id hlast _
    exact constant_spelledIn (hwhole id hlast) hload
  · rename_i id hlast _
    have hid := hwhole id hlast
    refine constDeclaration_spelledIn (List.forall_mem_cons.mpr
      ⟨declarator_spelledIn (spelledIn_pattern hid) hload,?_⟩)
    exact List.forall_mem_singleton.mpr (declarator_spelledIn hpattern (spelledIn_reference hid))

end Lowering

theorem Export.exists_of_mem_properties {table : List Export} {property : Node}
    (h : property ∈ properties table) : ∃ e ∈ table, e.property = property := by
  obtain ⟨e,he,heq⟩ := List.mem_map.mp h
  rcases List.mem_append.mp he with he | he
  · exact ⟨e,(List.mem_filter.mp he).1,heq⟩
  · exact ⟨e,(List.mem_filter.mp he).1,heq⟩

theorem Export.named_spelledIn {exported : ExportName} {value : Ident}
    (hexported : ∀ id ∈ exported.idents, S id.name) (hvalue : S value.name) :
    (property (.named exported value)).SpelledIn S := by
  rw [property]
  split
  · exact spelledIn_reference hvalue
  · have hcomputed : ∀ literal, (computedKey literal).SpelledIn S := fun literal =>
      spelledIn_node.mpr ⟨nofun,List.forall_mem_singleton.mpr (spelledIn_string literal)⟩
    refine spelledIn_node.mpr ⟨nofun,List.forall_mem_cons.mpr
      ⟨?_,List.forall_mem_singleton.mpr (spelledIn_reference hvalue)⟩⟩
    cases exported with
    | ident id =>
      rw [key]
      split
      · exact hcomputed _
      · exact fun _ hname => List.mem_singleton.mp hname ▸ hexported id List.mem_cons_self
    | string literal => exact hcomputed literal

theorem Export.spread_spelledIn {value : Ident} (hvalue : S value.name) :
    (property (.spread value)).SpelledIn S :=
  spelledIn_node.mpr ⟨nofun,List.forall_mem_singleton.mpr (spelledIn_reference hvalue)⟩

theorem Export.own_spelledIn {value : Ident} (hvalue : S value.name) :
    (own value).property.SpelledIn S :=
  named_spelledIn (fun _ hid => List.mem_singleton.mp hid ▸ hvalue) hvalue

theorem Export.default_spelledIn (hS : Admits S hook) {value : Ident} (hvalue : S value.name) :
    (default value).property.SpelledIn S :=
  named_spelledIn (fun _ hid => List.mem_singleton.mp hid ▸ hS.defaultKey) hvalue

namespace Lowering

structure Lowered.SpelledIn (S : String → Prop) (l : Lowered) : Prop where
  statement : ∀ statement, l.statement = some statement → statement.SpelledIn S
  exports : ∀ e ∈ l.exports, e.property.SpelledIn S

theorem Lowered.SpelledIn.of_some {l : Lowered} {statement : Node}
    (hstatement : l.statement = some statement) (h : statement.SpelledIn S)
    (hexports : ∀ e ∈ l.exports, e.property.SpelledIn S) : l.SpelledIn S :=
  ⟨fun _ heq => Option.some.inj (hstatement.symm.trans heq) ▸ h,hexports⟩

theorem through_spelledIn (hS : Admits S hook) {specifier : ExportSpecifier}
    (h : ∀ id ∈ specifier.idents, S id.name) {name : String} (hname : S name) (span : Span) :
    (specifier.through span name).1.SpelledIn S ∧
      (specifier.through span name).2.property.SpelledIn S := by
  cases specifier with
  | named place inner exported typeOnly =>
    have hinner : ∀ id ∈ inner.idents, S id.name := fun id hid =>
      h id (List.mem_append_left _ hid)
    refine ⟨Loaded.named_spelledIn hinner hname,Export.named_spelledIn ?_ hname⟩
    cases exported with
    | none => exact hinner
    | some exported =>
      exact fun id hid => h id (List.mem_append_right _ (List.mem_append_left _ hid))
  | default exported =>
    exact ⟨Loaded.default_spelledIn hS hname,Export.named_spelledIn h hname⟩
  | whole place exported =>
    exact ⟨Loaded.whole_spelledIn hname,Export.named_spelledIn h hname⟩

theorem entityExpression_spelledIn {n : Node} (h : n.SpelledIn S) :
    (entityExpression n).SpelledIn S := by
  induction n using entityExpression.induct with
  | case1 span left right ih =>
    obtain ⟨-,hparts⟩ := spelledIn_node.mp h
    obtain ⟨hleft,hright⟩ := List.forall_mem_cons.mp hparts
    rw [entityExpression]
    exact spelledIn_node.mpr ⟨nofun,List.forall_mem_cons.mpr ⟨ih hleft,hright⟩⟩
  | case2 n hother =>
    rw [entityExpression]
    · exact h
    · exact hother

theorem localExport_spelledIn {specifier : ExportSpecifier} (h : ∀ id ∈ specifier.idents, S id.name)
    {e : Export} (he : localExport specifier = some e) : e.property.SpelledIn S := by
  unfold localExport at he
  split at he
  · rename_i value exported
    obtain rfl := Option.some.inj he
    have hvalue : S value.name := h value List.mem_cons_self
    refine Export.named_spelledIn ?_ hvalue
    cases exported with
    | none => exact fun id hid => List.mem_singleton.mp hid ▸ hvalue
    | some exported => exact fun id hid => h id (List.mem_append_right _ (List.mem_append_left _ hid))
  · cases he

theorem referenceValue_spelledIn (hS : Admits S hook) {reference : Node}
    (h : reference.SpelledIn S) (span : Span) :
    (referenceValue hook span reference).1.SpelledIn S := by
  unfold referenceValue
  split
  · exact load_spelledIn hS spelledIn_absent span
  · exact entityExpression_spelledIn h

theorem namedAs_spelledIn {id : Ident} (hid : S id.name) {declaration : Node}
    (h : declaration.SpelledIn S) : (namedAs id declaration).SpelledIn S := by
  unfold namedAs
  split
  · exact spelledIn_node.mpr ⟨List.forall_mem_singleton.mpr hid,(spelledIn_node.mp h).2⟩
  · exact spelledIn_node.mpr ⟨List.forall_mem_singleton.mpr hid,(spelledIn_node.mp h).2⟩
  · exact h

theorem ownName_spelled {n : Node} {id : Ident} (h : n.ownName = some id) : id.name ∈ n.spelled := by
  unfold ownName at h
  split at h
  · obtain rfl := h
    exact List.mem_cons_self
  · obtain rfl := h
    exact List.mem_cons_self
  · cases h

theorem Loads.spelledIn (hS : Admits S hook) {n : Node} {names : List String} {m : ModuleLoad}
    (h : Loads n names m) (hn : n.SpelledIn S) (hnames : ∀ name ∈ names, S name) :
    (m.lowered hook).SpelledIn S := by
  cases h with
  | imported =>
    obtain ⟨hform,hparts⟩ := spelledIn_node.mp hn
    have hattributes := spelledIn_route hS (hparts _ List.mem_cons_self)
    refine .of_some rfl (loadStatement_spelledIn hS hattributes (fun l hl => ?_) _) nofun
    obtain ⟨specifier,hmem,hloaded⟩ := List.mem_filterMap.mp hl
    refine ImportSpecifier.loaded_spelledIn hS (fun id hid => ?_) hloaded
    exact hform _ (List.mem_flatMap.mpr ⟨specifier,hmem,List.mem_map_of_mem hid⟩)
  | @reexported span specifiers =>
    obtain ⟨hform,hparts⟩ := spelledIn_node.mp hn
    have hattributes := spelledIn_route hS (hparts _ List.mem_cons_self)
    have hentries : ∀ entry ∈ (specifiers.filter (! ·.isType)).zipWith (·.through span) names,
        entry.1.SpelledIn S ∧ entry.2.property.SpelledIn S := by
      intro entry hentry
      obtain ⟨specifier,hmem,name,hname,rfl⟩ := exists_of_mem_through hentry
      refine through_spelledIn hS (fun id hid => ?_) (hnames name hname) span
      exact hform _ (List.mem_flatMap.mpr
        ⟨specifier,(List.mem_filter.mp hmem).1,List.mem_map_of_mem hid⟩)
    refine .of_some rfl (loadStatement_spelledIn hS hattributes (fun l hl => ?_) _) fun e he => ?_
    · obtain ⟨entry,hentry,rfl⟩ := List.mem_map.mp hl
      exact (hentries entry hentry).1
    · obtain ⟨entry,hentry,rfl⟩ := List.mem_map.mp he
      exact (hentries entry hentry).2
  | star =>
    obtain ⟨-,hparts⟩ := spelledIn_node.mp hn
    have hattributes := spelledIn_route hS (hparts _ List.mem_cons_self)
    obtain ⟨hunused,hrest⟩ := List.forall_mem_cons.mp hnames
    have hrest := hrest _ List.mem_cons_self
    refine .of_some rfl ?_ (List.forall_mem_singleton.mpr (Export.spread_spelledIn hrest))
    refine loadStatement_spelledIn hS hattributes (List.forall_mem_cons.mpr ⟨?_,?_⟩) _
    · exact Loaded.default_spelledIn hS hunused
    · exact List.forall_mem_singleton.mpr (Loaded.rest_spelledIn hrest)

/-- What an item becomes spells what the item spells, the names drawn for it, and what the lowering
spells of its own. -/
theorem Lowers.spelledIn (hS : Admits S hook) {n : Node} {names : List String} {l : Lowered}
    (h : Lowers hook n names l) (hn : n.SpelledIn S) (hnames : ∀ name ∈ names, S name) :
    l.SpelledIn S := by
  have hpart : ∀ {span form part}, n = .node span form [part] →
      (route hook part).result.SpelledIn S := by
    rintro span form part rfl
    exact spelledIn_route hS ((spelledIn_node.mp hn).2 part List.mem_cons_self)
  have hdefault : ∀ id : Ident, S id.name → ∀ e ∈ [Export.default id], e.property.SpelledIn S :=
    fun id hid => List.forall_mem_singleton.mpr (Export.default_spelledIn hS hid)
  cases h with
  | kept => exact .of_some rfl (spelledIn_route hS hn) nofun
  | dropped => exact ⟨nofun,nofun⟩
  | loaded h => exact h.spelledIn hS hn hnames
  | @exported span declaration ids hids =>
    refine .of_some rfl (hpart rfl) fun e he => ?_
    obtain ⟨id,hid,rfl⟩ := List.mem_map.mp he
    rw [hids] at hid
    split at hid
    · refine Export.own_spelledIn ((spelledIn_node.mp hn).2 declaration List.mem_cons_self _ ?_)
      exact mentioned_spelled (declaredIdents_mentioned hid)
    · cases hid
  | listed =>
    refine ⟨nofun,fun e he => ?_⟩
    obtain ⟨specifier,hmem,hexport⟩ := List.mem_filterMap.mp he
    refine localExport_spelledIn (fun id hid => ?_) hexport
    exact (spelledIn_node.mp hn).1 _
      (List.mem_flatMap.mpr ⟨specifier,hmem,List.mem_map_of_mem hid⟩)
  | @ownDefault span declaration id h =>
    have hid := (spelledIn_node.mp hn).2 declaration List.mem_cons_self _ (ownName_spelled h)
    exact .of_some rfl (namedAs_spelledIn hid (hpart rfl)) (hdefault id hid)
  | freshDefault =>
    have hname := hnames _ List.mem_cons_self
    exact .of_some rfl (namedAs_spelledIn hname (hpart rfl)) (hdefault _ hname)
  | otherDefault => exact .of_some rfl (hpart rfl) nofun
  | defaultValue | assignedValue =>
    have hname := hnames _ List.mem_cons_self
    exact .of_some rfl (constant_spelledIn hname (hpart rfl)) (hdefault _ hname)
  | @reference span isExport name =>
    have hname : S name.name := (spelledIn_node.mp hn).1 name.name List.mem_cons_self
    refine .of_some rfl
      (constant_spelledIn hname (referenceValue_spelledIn hS (hpart rfl) span)) fun e he => ?_
    cases isExport with
    | true =>
      obtain rfl := List.mem_singleton.mp he
      exact Export.own_spelledIn hname
    | false => cases he

theorem item_spelledIn (hS : Admits S hook) {n : Node} (h : n.SpelledIn S) (s : NameSupply) :
    (item hook (route hook n).result s).1.SpelledIn S := by
  refine (item_lowers hook n s).spelledIn hS h fun name hname => ?_
  exact hS.fresh name (draw_synthetic _ _ name hname)

end Lowering

end Loads

/-- A function body spells what its program spells, and what the lowering spells of its own. -/
theorem Program.lower_spelledIn {S : String → Prop} {hook : String} (hS : Admits S hook)
    {p : Program} (h : ∀ n ∈ p.body, n.SpelledIn S) (s : NameSupply) :
    ∀ statement ∈ (p.lower hook s).result.body, statement.SpelledIn S := by
  have hitems := Lowering.items_forall₂ hook (fun n hn s => Lowering.item_spelledIn hS (h n hn) s) s
  have hlowered : ∀ l ∈ (Lowering.items hook (Node.routeAll hook p.body).result s).1,
      l.SpelledIn S := by
    intro l hl
    obtain ⟨_,_,hspelled⟩ := Lowering.exists_of_mem_forall₂ hitems hl
    exact hspelled
  intro statement hstatement
  rw [lower_body] at hstatement
  rcases List.mem_append.mp hstatement with hstatement | hstatement
  · obtain ⟨l,hl,hsome⟩ := List.mem_filterMap.mp hstatement
    exact (hlowered l hl).statement statement hsome
  · obtain rfl := List.mem_singleton.mp hstatement
    refine spelledIn_node.mpr ⟨nofun,List.forall_mem_singleton.mpr (spelledIn_node.mpr ⟨nofun,?_⟩)⟩
    refine List.forall_mem_singleton.mpr (spelledIn_many.mpr fun property hproperty => ?_)
    obtain ⟨e,he,rfl⟩ := Export.exists_of_mem_properties hproperty
    obtain ⟨l,hl,he⟩ := List.mem_flatMap.mp he
    exact (hlowered l hl).exports e he

end AsyncBody
