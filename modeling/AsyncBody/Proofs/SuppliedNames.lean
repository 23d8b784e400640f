import AsyncBody.Proofs.RenamedItems
import AsyncBody.Proofs.Retouching

/-!
What an item becomes depends on the taken names only through the fresh names that are handed out for
it: with other fresh names it becomes the same, with those in their place.
-/
namespace AsyncBody

open Hook Node NameSupply

def Event.retouch (τ : Retouch) : Event → Event
  | .defaultDeclaration name => .defaultDeclaration (τ.name name)
  | event => event

def Lowering.Lowered.retouch (τ : Retouch) (l : Lowered) : Lowered :=
  { l with
    statement := l.statement.map (·.retouch τ)
    exports := l.exports.map (·.retouch τ)
    events := l.events.map (·.retouch τ) }

namespace Lowering

section Retouched

variable {τ : Retouch} {hook : String}

theorem export_retouch (hplace : τ.place = id) {e : Export} (h : τ.Keeps e.value.name) :
    e.retouch τ = e := by
  cases e with
  | named exported value =>
    rw [Export.retouch,ExportName.retouch_placing hplace]
    exact congrArg (Export.named exported) (Ident.retouch_of_keeps hplace h)
  | spread value => exact congrArg Export.spread (Ident.retouch_of_keeps hplace h)

theorem mem_spelledAll {items : List Node} {x : String} :
    x ∈ spelledAll items ↔ ∃ item ∈ items, x ∈ item.spelled := by
  rw [spelledAll_eq,List.mem_flatMap]

theorem route_of_keeps (hplace : τ.place = id) (hhook : τ.Keeps hook) {n : Node}
    (h : ∀ x ∈ n.spelled, τ.Keeps x) : (route hook n).result.retouch τ = (route hook n).result := by
  rw [route_retouch,hhook,retouch_of_keeps hplace h]

theorem loaded_retouch (hplace : τ.place = id) {specifier : ImportSpecifier}
    (h : ∀ i ∈ specifier.idents, τ.Keeps i.name) {l : Loaded} (hl : specifier.loaded = some l) :
    l.retouch τ = l := by
  have hbound : specifier.bound.retouch τ = specifier.bound := by
    refine Ident.retouch_of_keeps hplace (h _ ?_)
    cases specifier <;> exact List.mem_cons_self
  cases specifier with
  | named span bound imported typeOnly =>
    cases typeOnly with
    | true => cases hl
    | false =>
      obtain rfl := Option.some.inj hl
      have himported : ∀ i ∈ (imported.getD (.ident bound)).idents, τ.Keeps i.name := by
        cases imported with
        | none => exact fun i hi => List.mem_singleton.mp hi ▸ h bound List.mem_cons_self
        | some imported => exact fun i hi => h i (.tail _ (List.mem_append_left _ hi))
      replace hbound : bound.retouch τ = bound := hbound
      rw [Loaded.named_retouch himported,ExportName.retouch_placing hplace,hbound]
  | default span bound =>
    obtain rfl := Option.some.inj hl
    exact (Loaded.default_retouch bound).trans (congrArg Loaded.default hbound)
  | whole span bound =>
    obtain rfl := Option.some.inj hl
    exact congrArg Loaded.whole hbound

theorem request_retouch (hplace : τ.place = id) (hhook : τ.Keeps hook) (source : StringLiteral)
    {attributes : Node} (h : ∀ x ∈ attributes.spelled, τ.Keeps x) :
    (⟨source,(route hook attributes).result⟩ : Request).retouch τ =
      ⟨source,(route hook attributes).result⟩ := by
  rw [Request.retouch,StringLiteral.retouch_eq_self hplace,route_of_keeps hplace hhook h]

theorem ImportSpecifier.loaded_retouch (hplace : τ.place = id) {specifiers : List ImportSpecifier}
    (h : ∀ specifier ∈ specifiers, ∀ i ∈ specifier.idents, τ.Keeps i.name) :
    (specifiers.filterMap ImportSpecifier.loaded).map (·.retouch τ) =
      specifiers.filterMap ImportSpecifier.loaded := by
  rw [List.map_congr_left (g := id),List.map_id]
  intro l hl
  obtain ⟨specifier,hspecifier,hloaded⟩ := List.mem_filterMap.mp hl
  exact Lowering.loaded_retouch hplace (h specifier hspecifier) hloaded

theorem exports_retouch (hplace : τ.place = id) {table : List Export}
    (h : ∀ e ∈ table, τ.Keeps e.value.name) : table.map (·.retouch τ) = table := by
  rw [List.map_congr_left (g := id),List.map_id]
  exact fun e he => export_retouch hplace (h e he)

theorem localExports_retouch (hplace : τ.place = id) {specifiers : List ExportSpecifier}
    (h : ∀ specifier ∈ specifiers, ∀ i ∈ specifier.idents, τ.Keeps i.name) :
    (specifiers.filterMap localExport).map (·.retouch τ) = specifiers.filterMap localExport := by
  refine exports_retouch hplace fun e he => ?_
  obtain ⟨specifier,hspecifier,hexport⟩ := List.mem_filterMap.mp he
  exact h specifier hspecifier _ (ExportSpecifier.inner_subset specifier (localExport_value hexport))

theorem named_retouch (hplace : τ.place = id) (name : String) (span : Span) :
    (Ident.named name span).retouch τ = .named (τ.name name) span := by
  rw [Ident.retouch_named,hplace]
  rfl

theorem through_retouch (hplace : τ.place = id) (span : Span) {specifier : ExportSpecifier}
    (h : ∀ i ∈ specifier.idents, τ.Keeps i.name) (name : String) :
    specifier.through span (τ.name name) =
      ((specifier.through span name).1.retouch τ,(specifier.through span name).2.retouch τ) := by
  have hvalue := Lowering.named_retouch hplace name
  have hexport : ∀ (exported : ExportName) (value : Ident),
      (Export.named exported value).retouch τ = .named exported (value.retouch τ) := by
    intro exported value
    rw [Export.retouch,ExportName.retouch_placing hplace]
  cases specifier with
  | named place inner exported typeOnly =>
    have hinner : ∀ i ∈ inner.idents, τ.Keeps i.name := fun i hi => h i (List.mem_append_left _ hi)
    simp only [ExportSpecifier.through,Loaded.named_retouch hinner,
      ExportName.retouch_placing hplace,hexport,hvalue]
  | default exported => simp only [ExportSpecifier.through,Loaded.default_retouch,hexport,hvalue]
  | whole place exported => simp only [ExportSpecifier.through,Loaded.retouch,hexport,hvalue]

theorem zipWith_through_retouch (hplace : τ.place = id) (span : Span)
    {specifiers : List ExportSpecifier}
    (h : ∀ specifier ∈ specifiers, ∀ i ∈ specifier.idents, τ.Keeps i.name) (names : List String) :
    specifiers.zipWith (·.through span) (names.map τ.name) =
      (specifiers.zipWith (·.through span) names).map fun e => (e.1.retouch τ,e.2.retouch τ) := by
  rw [List.zipWith_map_right,List.map_zipWith]
  induction specifiers generalizing names with
  | nil => rfl
  | cons specifier rest ih =>
    cases names with
    | nil => rfl
    | cons name names =>
      rw [List.zipWith_cons_cons,List.zipWith_cons_cons,
        through_retouch hplace span (h specifier List.mem_cons_self),
        ih (fun other hother => h other (.tail _ hother)) names]

def ModuleLoad.retouch (τ : Retouch) (m : ModuleLoad) : ModuleLoad :=
  { m with names := m.names.map (·.retouch τ), exports := m.exports.map (·.retouch τ) }

theorem ModuleLoad.lowered_retouch (hplace : τ.place = id) (hhook : τ.Keeps hook) {m : ModuleLoad}
    (hattributes : ∀ x ∈ m.attributes.spelled, τ.Keeps x) (hevent : m.event.retouch τ = m.event) :
    (m.retouch τ).lowered hook = (m.lowered hook).retouch τ := by
  have hload := loadStatement_retouch (τ := τ) hook m.span (m.request hook) m.names
  have hrequest : (m.request hook).retouch τ = m.request hook :=
    request_retouch hplace hhook m.source hattributes
  rw [hhook,hrequest,hplace] at hload
  simp only [lowered,Lowered.retouch,Option.map_some,List.map_cons,List.map_nil,hevent,statement,
    hload]
  rfl

/-- With other fresh names, an item loads the same, with those in their place. -/
theorem Loads.retouch (hplace : τ.place = id) {n : Node} {names : List String} {m : ModuleLoad}
    (h : Loads n names m) (hn : ∀ x ∈ n.spelled, τ.Keeps x) :
    Loads n (names.map τ.name) (m.retouch τ) := by
  cases h with
  | @imported span specifiers source phase attributes h =>
    have hnames : (specifiers.filterMap ImportSpecifier.loaded).map (·.retouch τ) =
        specifiers.filterMap ImportSpecifier.loaded := by
      refine ImportSpecifier.loaded_retouch hplace fun specifier hmem i hi => ?_
      exact hn _ (List.mem_append_left _
        (List.mem_flatMap.mpr ⟨specifier,hmem,List.mem_map_of_mem hi⟩))
    rw [ModuleLoad.retouch,hnames]
    exact .imported h
  | @reexported span specifiers source attributes names h hlength =>
    have hspecifiers : ∀ specifier ∈ specifiers.filter (! ·.isType), ∀ i ∈ specifier.idents,
        τ.Keeps i.name := fun specifier hmem i hi => hn _ (List.mem_append_left _
      (List.mem_flatMap.mpr ⟨specifier,(List.mem_filter.mp hmem).1,List.mem_map_of_mem hi⟩))
    have hretouched : Loads (.node span (.exportNamed specifiers (some source) false) [attributes])
        (names.map τ.name) _ := .reexported h (by rw [List.length_map,hlength])
    rw [zipWith_through_retouch hplace span hspecifiers,List.map_map,List.map_map] at hretouched
    rw [ModuleLoad.retouch,List.map_map,List.map_map]
    exact hretouched
  | @star span source attributes unused rest =>
    have hstar : Loads (.node span (.exportAll source false) [attributes])
        [τ.name unused,τ.name rest] _ := .star
    rw [← named_retouch hplace,← named_retouch hplace,← Loaded.default_retouch,
      ← Loaded.rest_retouch] at hstar
    exact hstar

theorem Loads.event_retouch {n : Node} {names : List String} {m : ModuleLoad}
    (h : Loads n names m) : m.event.retouch τ = m.event := by
  cases h <;> rfl

theorem retouch_of_dropEvent {n : Node} {event : Event} (h : n.dropEvent = some event) :
    event.retouch τ = event := by
  unfold dropEvent at h
  split at h
  · split at h
    · cases h
      rfl
    · split at h
      · cases h
        rfl
      · cases h
  · split at h
    · cases h
      rfl
    · obtain ⟨source,-,h⟩ := Option.bind_eq_some_iff.mp h
      split at h
      · cases h
        rfl
      · cases h
  all_goals
    cases h
    try rfl

theorem constant_retouch (hplace : τ.place = id) (span : Span) (i : Ident) {value : Node}
    (hvalue : value.retouch τ = value) :
    (constDeclaration span [declarator i.pattern value]).retouch τ =
      constDeclaration span [declarator (i.retouch τ).pattern value] := by
  rw [constDeclaration_retouch,List.map_singleton,declarator_retouch,hvalue,Ident.retouch_pattern,
    hplace]
  rfl

theorem Lowered.constant_retouch (hplace : τ.place = id) {span : Span} {i : Ident} {value : Node}
    (hvalue : value.retouch τ = value) {exports : List Export} {requests : Nat} {event : Event}
    (hevent : event.retouch τ = event) :
    (Lowered.constant span i value exports requests event).retouch τ =
      .constant span (i.retouch τ) value (exports.map (·.retouch τ)) requests event := by
  simp only [Lowered.constant,Lowered.retouch,Option.map_some,
    Lowering.constant_retouch hplace span i hvalue,List.map_cons,List.map_nil,hevent]

theorem default_retouch (hplace : τ.place = id) (i : Ident) :
    (Export.default i).retouch τ = .default (i.retouch τ) := by
  rw [Export.default,Export.retouch,ExportName.retouch_placing hplace,Export.default,Ident.retouch,
    hplace]
  rfl

theorem defaultDeclaration_retouch (hplace : τ.place = id) (i : Ident) (declaration : Node) :
    (defaultDeclaration i declaration).retouch τ =
      defaultDeclaration (i.retouch τ) (declaration.retouch τ) := by
  simp only [defaultDeclaration,Lowered.retouch,Option.map_some,List.map_cons,List.map_nil,
    default_retouch hplace,Event.retouch,Ident.retouch]

theorem namedAs_retouch {declaration : Node} (h : declaration.isNameable = true) (i : Ident) :
    (namedAs i declaration).retouch τ = namedAs (i.retouch τ) (declaration.retouch τ) := by
  unfold isNameable at h
  split at h
  · rfl
  · rfl
  · cases h

theorem entityExpression_retouch {n : Node} (h : n.retouch τ = n) :
    (entityExpression n).retouch τ = entityExpression n := by
  induction n using entityExpression.induct with
  | case1 span left right ih =>
    obtain ⟨-,-,hparts⟩ := Node.node.inj h
    obtain ⟨hleft,hright⟩ := List.cons_eq_cons.mp hparts
    have hright := List.singleton_inj.mp hright
    have hspan : τ.place right.span = right.span := by rw [← span_retouch,hright]
    rw [entityExpression,retouch,hspan,retouchAll,retouchAll,retouchAll,ih hleft,hright]
    rfl
  | case2 n hother =>
    rw [entityExpression]
    · exact h
    · exact hother

theorem referenceValue_retouch (hplace : τ.place = id) (hhook : τ.Keeps hook) (span : Span)
    {reference : Node} (h : reference.retouch τ = reference) :
    (referenceValue hook span reference).1.retouch τ = (referenceValue hook span reference).1 := by
  unfold referenceValue
  split
  · rw [load_retouch,hhook,hplace,Request.retouch,StringLiteral.retouch_eq_self hplace]
    rfl
  · exact entityExpression_retouch h

theorem defaultDeclaration_namedAs_retouch (hplace : τ.place = id) {declaration : Node} {i j : Ident}
    (hnameable : declaration.isNameable = true)
    (hself : (route hook declaration).result.retouch τ = (route hook declaration).result)
    (hname : i.retouch τ = j) :
    (defaultDeclaration i (namedAs i (route hook declaration).result)).retouch τ =
      defaultDeclaration j (namedAs j (route hook declaration).result) := by
  rw [defaultDeclaration_retouch hplace,
    namedAs_retouch ((isNameable_route hook declaration).trans hnameable),hself,hname]

/-- The names that a declaration exports are its own, so they are kept. -/
theorem owns_retouch (hplace : τ.place = id) {declaration : Node} {ids : List Ident}
    (hids : ids = if declaration.leavesValue then declaration.declaredIdents else [])
    (h : ∀ x ∈ declaration.spelled, τ.Keeps x) :
    (ids.map Export.own).map (·.retouch τ) = ids.map Export.own := by
  refine exports_retouch hplace fun e he => ?_
  obtain ⟨i,hi,rfl⟩ := List.mem_map.mp he
  rw [hids] at hi
  split at hi
  · exact h _ (mentioned_spelled (declaredIdents_mentioned hi))
  · cases hi

theorem ownIf_retouch (hplace : τ.place = id) {i : Ident} (h : τ.Keeps i.name) (exported : Bool) :
    (if exported then [Export.own i] else []).map (·.retouch τ) =
      if exported then [Export.own i] else [] := by
  cases exported with
  | true => exact exports_retouch hplace (List.forall_mem_singleton.mpr h)
  | false => rfl

theorem defaults_retouch (hplace : τ.place = id) (name : String) (span : Span) :
    [Export.default (.named name span)].map (·.retouch τ) =
      [.default (.named (τ.name name) span)] := by
  rw [List.map_singleton,default_retouch hplace,named_retouch hplace]

theorem part_retouch (hplace : τ.place = id) (hhook : τ.Keeps hook) {span : Span} {form : Form}
    {part : Node} (h : ∀ x ∈ (node span form [part]).spelled, τ.Keeps x) :
    (∀ x ∈ form.spelled, τ.Keeps x) ∧ (∀ x ∈ part.spelled, τ.Keeps x) ∧
      (route hook part).result.retouch τ = (route hook part).result := by
  have hmem : ∀ x ∈ part.spelled, τ.Keeps x := fun x hx =>
    h x (List.mem_append_right _ (List.mem_append_left _ hx))
  exact ⟨fun x hx => h x (List.mem_append_left _ hx),hmem,route_of_keeps hplace hhook hmem⟩

/-- With other fresh names, an item becomes the same, with those in their place. -/
theorem Lowers.retouch (hplace : τ.place = id) (hhook : τ.Keeps hook) {n : Node}
    {names : List String} {l : Lowered} (h : Lowers hook n names l)
    (hn : ∀ x ∈ n.spelled, τ.Keeps x) : Lowers hook n (names.map τ.name) (l.retouch τ) := by
  cases h with
  | kept h =>
    have hself : (Lowered.kept (route hook n).result).retouch τ = .kept _ :=
      congrArg Lowered.kept (route_of_keeps hplace hhook hn)
    rw [hself]
    exact .kept h
  | @dropped _ event h =>
    have hself : (Lowered.dropped event).retouch τ = .dropped _ :=
      congrArg Lowered.dropped (retouch_of_dropEvent h)
    rw [hself]
    exact .dropped h
  | @loaded _ _ m h =>
    have hattributes : ∀ x ∈ m.attributes.spelled, τ.Keeps x := by
      cases h <;> exact (part_retouch hplace hhook hn).2.1
    rw [← m.lowered_retouch hplace hhook hattributes h.event_retouch]
    exact .loaded (h.retouch hplace hn)
  | exported hids =>
    obtain ⟨-,hspelled,hself⟩ := part_retouch hplace hhook hn
    simp only [Lowered.retouch,Option.map_some,hself,owns_retouch hplace hids hspelled]
    exact .exported hids
  | listed =>
    have hexports := localExports_retouch hplace fun specifier hmem i hi =>
      (part_retouch hplace hhook hn).1 _ (List.mem_flatMap.mpr ⟨specifier,hmem,List.mem_map_of_mem hi⟩)
    rw [Lowered.retouch,hexports]
    exact .listed
  | ownDefault h =>
    obtain ⟨-,hspelled,hself⟩ := part_retouch hplace hhook hn
    have hname := Ident.retouch_of_keeps hplace (hspelled _ (ownName_spelled h))
    rw [defaultDeclaration_namedAs_retouch hplace (isNameable_of_ownName h) hself hname]
    exact .ownDefault h
  | freshDefault hnameable h =>
    rw [defaultDeclaration_namedAs_retouch hplace hnameable (part_retouch hplace hhook hn).2.2
      (named_retouch hplace ..)]
    exact .freshDefault hnameable h
  | otherDefault h =>
    simp only [Lowered.retouch,Option.map_some,(part_retouch hplace hhook hn).2.2]
    exact .otherDefault h
  | defaultValue =>
    rw [Lowered.constant_retouch hplace (part_retouch hplace hhook hn).2.2 rfl,
      defaults_retouch hplace,named_retouch hplace]
    exact .defaultValue
  | assignedValue =>
    rw [Lowered.constant_retouch hplace (part_retouch hplace hhook hn).2.2 rfl,
      defaults_retouch hplace,named_retouch hplace]
    exact .assignedValue
  | @reference span isExport name reference =>
    obtain ⟨hform,-,hself⟩ := part_retouch hplace hhook hn
    have hname : τ.Keeps name.name := hform _ List.mem_cons_self
    rw [Lowered.constant_retouch hplace (referenceValue_retouch hplace hhook span hself) rfl,
      named_retouch hplace,hname,ownIf_retouch hplace hname]
    exact .reference

theorem items_retouch (hplace : τ.place = id) (hhook : τ.Keeps hook) {ns : List Node}
    (h : ∀ x ∈ spelledAll ns, τ.Keeps x) {s t : NameSupply}
    (hnames : (t.draw (ns.flatMap freshBases)).1 = (s.draw (ns.flatMap freshBases)).1.map τ.name) :
    (items hook (routeAll hook ns).result t).1 =
      (items hook (routeAll hook ns).result s).1.map (·.retouch τ) := by
  induction ns generalizing s t with
  | nil => rfl
  | cons n rest ih =>
    rw [List.flatMap_cons,draw_append,draw_append,List.map_append] at hnames
    obtain ⟨hfirst,hrest⟩ := List.append_inj hnames (by rw [List.length_map,draw_length,draw_length])
    rw [← item_supply hook n t,← item_supply hook n s] at hrest
    refine List.cons_eq_cons.mpr ⟨?_,?_⟩
    · have hretouched := (item_lowers hook n s).retouch hplace hhook
        fun x hx => h x (List.mem_append_left _ hx)
      rw [← hfirst] at hretouched
      exact (item_lowers hook n t).unique hretouched
    · exact ih (fun x hx => h x (List.mem_append_right _ hx)) hrest

theorem localExport_nameKept {specifier : ExportSpecifier}
    (h : ∀ i ∈ specifier.idents, τ.Keeps i.name) {e : Export} (he : localExport specifier = some e) :
    e.NameKept τ := by
  unfold localExport at he
  split at he
  · rename_i value exported
    obtain rfl := Option.some.inj he
    intro i hi
    cases exported with
    | none => exact List.mem_singleton.mp hi ▸ h value List.mem_cons_self
    | some exported => exact h i (List.mem_append_right _ (List.mem_append_left _ hi))
  · cases he

theorem through_nameKept {specifier : ExportSpecifier}
    (h : ∀ i ∈ specifier.idents, τ.Keeps i.name) (span : Span) (name : String) :
    (specifier.through span name).2.NameKept τ := by
  cases specifier with
  | named place inner exported typeOnly =>
    cases exported with
    | none => exact fun i hi => h i (List.mem_append_left _ hi)
    | some exported => exact fun i hi => h i (List.mem_append_right _ (List.mem_append_left _ hi))
  | default exported | whole place exported => exact h

theorem default_nameKept (hdefault : τ.Keeps "default") (value : Ident) :
    (Export.default value).NameKept τ := fun _ hi => List.mem_singleton.mp hi ▸ hdefault

/-- An item exports under names that it spells, and by default. -/
theorem Lowers.nameKept (hdefault : τ.Keeps "default") {n : Node} {names : List String}
    {l : Lowered} (h : Lowers hook n names l) (hn : ∀ x ∈ n.spelled, τ.Keeps x) :
    ∀ e ∈ l.exports, e.NameKept τ := by
  have hform : ∀ {span form part}, n = .node span form [part] → ∀ x ∈ form.spelled, τ.Keeps x := by
    rintro span form part rfl x hx
    exact hn x (List.mem_append_left _ hx)
  intro e he
  cases h with
  | kept | dropped | otherDefault => cases he
  | loaded h =>
    cases h with
    | imported => cases he
    | reexported =>
      obtain ⟨entry,hentry,rfl⟩ := List.mem_map.mp he
      obtain ⟨specifier,hmem,name,-,rfl⟩ := exists_of_mem_through hentry
      refine through_nameKept (fun i hi => ?_) ..
      exact hform rfl _ (List.mem_flatMap.mpr
        ⟨specifier,(List.mem_filter.mp hmem).1,List.mem_map_of_mem hi⟩)
    | star =>
      obtain rfl := List.mem_singleton.mp he
      trivial
  | exported hids =>
    obtain ⟨i,hi,rfl⟩ := List.mem_map.mp he
    rw [hids] at hi
    split at hi
    · intro j hj
      obtain rfl := List.mem_singleton.mp hj
      refine hn _ (List.mem_append_right _ (List.mem_append_left _ ?_))
      exact mentioned_spelled (declaredIdents_mentioned hi)
    · cases hi
  | listed =>
    obtain ⟨specifier,hmem,hexport⟩ := List.mem_filterMap.mp he
    refine localExport_nameKept (fun i hi => ?_) hexport
    exact hform rfl _ (List.mem_flatMap.mpr ⟨specifier,hmem,List.mem_map_of_mem hi⟩)
  | ownDefault | freshDefault | defaultValue | assignedValue =>
    obtain rfl := List.mem_singleton.mp he
    exact default_nameKept hdefault _
  | @reference _ isExport =>
    cases isExport with
    | true =>
      obtain rfl := List.mem_singleton.mp he
      exact fun i hi => List.mem_singleton.mp hi ▸ hform rfl _ List.mem_cons_self
    | false => cases he

end Retouched

theorem items_eq_of_draw {hook : String} {ns : List Node} {s t : NameSupply}
    (h : (t.draw (ns.flatMap freshBases)).1 = (s.draw (ns.flatMap freshBases)).1) :
    (items hook (routeAll hook ns).result t).1 = (items hook (routeAll hook ns).result s).1 := by
  induction ns generalizing s t with
  | nil => rfl
  | cons n rest ih =>
    rw [List.flatMap_cons,draw_append,draw_append] at h
    obtain ⟨hfirst,hrest⟩ := List.append_inj h (by rw [draw_length,draw_length])
    rw [← item_supply hook n t,← item_supply hook n s] at hrest
    have hitem := item_lowers hook n t
    rw [hfirst] at hitem
    exact List.cons_eq_cons.mpr ⟨hitem.unique (item_lowers hook n s),ih hrest⟩

end Lowering

namespace Program

open Lowering

variable {p : Program} {hook : String} {s t : NameSupply}

def freshBases (p : Program) : List String := p.body.flatMap Node.freshBases

theorem assemble_retouch {τ : Retouch} (hplace : τ.place = id) {ls : List Lowered}
    (hkept : ∀ e ∈ ls.flatMap (·.exports), e.NameKept τ) (span : Span) (uses : List HookUse) :
    (assemble span uses (ls.map (·.retouch τ))).result =
      (assemble span uses ls).result.retouch τ := by
  have hstatements : (ls.map (·.retouch τ)).filterMap (·.statement) =
      (ls.filterMap (·.statement)).map (·.retouch τ) := by
    rw [List.filterMap_map,List.map_filterMap]
    rfl
  have hexports : (ls.map (·.retouch τ)).flatMap (·.exports) =
      (ls.flatMap (·.exports)).map (·.retouch τ) := by
    rw [List.flatMap_map,List.map_flatMap]
    rfl
  have hreturn := Export.returnStatement_retouch hkept span
  simp only [assemble,Program.retouch,hstatements,hexports,retouchAll_eq,List.map_append,
    List.map_singleton,hreturn,hplace]
  rfl

/-- With other fresh names, a program is lowered to the same body, with those in their place. -/
theorem lower_retouch {τ : Retouch} (hplace : τ.place = id) (hhook : τ.Keeps hook)
    (hdefault : τ.Keeps "default") (h : ∀ x ∈ spelledAll p.body, τ.Keeps x)
    (hnames : (t.draw p.freshBases).1 = (s.draw p.freshBases).1.map τ.name) :
    (p.lower hook t).result = (p.lower hook s).result.retouch τ := by
  have hitems := items_retouch (τ := τ) hplace hhook h hnames
  have hkept : ∀ e ∈ (items hook (routeAll hook p.body).result s).1.flatMap (·.exports),
      e.NameKept τ := by
    have hitem : ∀ n ∈ p.body, ∀ s, ∀ e ∈ (item hook (Node.route hook n).result s).1.exports,
        e.NameKept τ := fun n hn =>
      fun s => (item_lowers hook n s).nameKept hdefault fun x hx =>
        h x (mem_spelledAll.mpr ⟨n,hn,hx⟩)
    have hnames := items_forall₂ hook (R := fun _ l => ∀ e ∈ l.exports, e.NameKept τ) hitem s
    intro e he
    obtain ⟨l,hl,he⟩ := List.mem_flatMap.mp he
    obtain ⟨_,-,hl⟩ := exists_of_mem_forall₂ hnames hl
    exact hl e he
  rw [lower_eq_assemble,lower_eq_assemble,← routeAll_result,hitems,assemble_retouch hplace hkept]

theorem lower_eq_of_draw (h : (t.draw p.freshBases).1 = (s.draw p.freshBases).1) :
    p.lower hook t = p.lower hook s := by
  rw [lower_eq_assemble,lower_eq_assemble,← routeAll_result,items_eq_of_draw h]

end Program
end AsyncBody
