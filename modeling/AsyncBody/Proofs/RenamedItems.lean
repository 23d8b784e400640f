import AsyncBody.Proofs.Renaming
import AsyncBody.Proofs.SpelledNames

/-!
What an item becomes for one hook and for another: the same statement up to the name of the hook,
the same exports, and the same fresh names.
-/
namespace AsyncBody

open Hook Node NameSupply

section Generated

variable {a b : String}

theorem Loaded.Plain.mentioned {l : Loaded} (h : l.Plain) {pattern : Node}
    (hpattern : l.property? = some pattern) : pattern.mentioned = l.bound.map (·.name) := by
  cases h with
  | whole => cases hpattern
  | keyed name => cases name <;> cases hpattern <;> rfl
  | shorthand | rest =>
    cases hpattern
    rfl

theorem Export.key_mentioned (name : ExportName) : (Export.key name).mentioned = [] := by
  unfold Export.key
  split
  · split <;> rfl
  · rfl

def Export.value : Export → Ident
  | .named _ value => value
  | .spread value => value

theorem Export.property_mentioned (e : Export) : e.property.mentioned = [e.value.name] := by
  cases e with
  | spread value => rfl
  | named exported value =>
    rw [property]
    split
    · rfl
    · rw [mentioned_node rfl,mentionedAll,Export.key_mentioned]
      rfl

theorem Export.rename_returnStatement {table : List Export} (h : ∀ e ∈ table, e.value.name ≠ a)
    (span : Span) : (returnStatement span table).rename a b = returnStatement span table := by
  refine rename_eq_self ?_
  show a ∉ mentionedAll (properties table) ++ [] ++ []
  rw [List.append_nil,List.append_nil,mentionedAll_eq]
  intro hm
  obtain ⟨property,hproperty,hm⟩ := List.mem_flatMap.mp hm
  obtain ⟨e,he,rfl⟩ := exists_of_mem_properties hproperty
  rw [Export.property_mentioned] at hm
  exact h e he (List.mem_singleton.mp hm).symm

namespace Lowering

theorem rename_entityExpression (n : Node) :
    (entityExpression n).rename a b = entityExpression (n.rename a b) := by
  induction n using entityExpression.induct with
  | case1 span left right ih =>
    rw [entityExpression,rename_node rfl,rename_node rfl,renameAll,renameAll,renameAll,ih,
      ← Node.span_rename right]
    rfl
  | case2 n hother =>
    rw [entityExpression,entityExpression]
    · intro span left right hn
      cases n with
      | absent => cases hn
      | many => cases hn
      | node place form parts =>
        obtain ⟨others,hform⟩ := rename_form (a := a) (b := b) place form parts
        obtain ⟨-,hqualified,-⟩ := Node.node.inj (hform.symm.trans hn)
        obtain rfl := Form.qualifiedName_of_rename hqualified
        obtain _ | ⟨_,_ | ⟨_,_ | _⟩⟩ := parts
        · cases hn
        · cases hn
        · exact hother _ _ _ rfl
        · cases hn
    · exact hother

theorem rename_load (r : Request) (span : Span) :
    (r.load a span).rename a b =
      (⟨r.source,r.attributes.rename a b⟩ : Request).load b span := by
  have harguments : renameAll a b r.arguments =
      (⟨r.source,r.attributes.rename a b⟩ : Request).arguments := by
    simp only [Request.arguments,Node.isPresent_rename,renameAll]
    split
    · simp only [Request.options,Node.span_rename]
      rfl
    · rfl
  have hcallee : (Ident.named a span).reference.rename a b = (Ident.named b span).reference :=
    rename_identifier span
  rw [Request.load,Request.load,← harguments,← hcallee]
  rfl

theorem rename_constant {id : Ident} (h : id.name ≠ a) (span : Span) (value : Node) :
    (constDeclaration span [declarator id.pattern value]).rename a b =
      constDeclaration span [declarator id.pattern (value.rename a b)] := by
  conv_rhs => rw [← rename_pattern (b := b) h]
  rfl

theorem rename_loadStatement {names : List Loaded} (hplain : ∀ l ∈ names, l.Plain)
    (hbound : ∀ l ∈ names, a ∉ l.bound.map (·.name)) (span : Span) (r : Request) :
    (loadStatement a span r names).rename a b =
      loadStatement b span ⟨r.source,r.attributes.rename a b⟩ names := by
  have hproperties : renameAll a b (names.filterMap Loaded.property?) =
      names.filterMap Loaded.property? := by
    refine renameAll_eq_self fun pattern hpattern => rename_eq_self ?_
    obtain ⟨l,hl,hproperty⟩ := List.mem_filterMap.mp hpattern
    rw [(hplain l hl).mentioned hproperty]
    exact hbound l hl
  have hpattern : (objectPattern span (names.filterMap Loaded.property?)).rename a b =
      objectPattern span (names.filterMap Loaded.property?) := by
    conv_rhs => rw [← hproperties]
    rfl
  have hwhole : ∀ bound ∈ (names.filterMap Loaded.whole?).getLast?, bound.name ≠ a := by
    intro bound hlast heq
    obtain ⟨l,hl,hwhole⟩ := List.mem_filterMap.mp (List.mem_of_getLast? hlast)
    cases l with
    | whole id =>
      obtain rfl := Option.some.inj hwhole
      exact hbound _ hl (List.mem_singleton.mpr heq.symm)
    | property => cases hwhole
  have hload := rename_load (a := a) (b := b) r span
  dsimp only [loadStatement]
  split
  · rw [← hload]
    rfl
  · rw [← hload]
    conv_rhs => rw [← hpattern]
    rfl
  · rename_i bound hlast _
    rw [← hload]
    exact rename_constant (hwhole bound hlast) span _
  · rename_i bound hlast _
    have hname := hwhole bound hlast
    rw [← hload]
    conv_rhs => rw [← rename_pattern (b := b) hname,← hpattern,← rename_reference (b := b) hname]
    rfl

end Lowering

end Generated

namespace Lowering

variable {a b : String}

def Lowered.rename (a b : String) (l : Lowered) : Lowered :=
  { l with statement := l.statement.map (Node.rename a b) }

theorem Lowered.constant_rename {id : Ident} (h : id.name ≠ a) (span : Span) (value : Node)
    (exports : List Export) (requests : Nat) (event : Event) :
    (Lowered.constant span id value exports requests event).rename a b =
      .constant span id (value.rename a b) exports requests event := by
  refine congrArg (fun statement : Node => ({
    statement := some statement
    exports := exports
    requests := requests
    events := [event] } : Lowered)) ?_
  exact rename_constant h span value

theorem through_value (span : Span) (specifier : ExportSpecifier) (name : String) :
    (specifier.through span name).1.bound = [(specifier.through span name).2.value] ∧
      (specifier.through span name).2.value.name = name := by
  cases specifier with
  | named => exact ⟨Loaded.bound_named ..,rfl⟩
  | default | whole => exact ⟨rfl,rfl⟩

theorem localExport_value {specifier : ExportSpecifier} {e : Export}
    (h : localExport specifier = some e) : e.value ∈ specifier.inner := by
  unfold localExport at h
  split at h
  · obtain rfl := Option.some.inj h
    exact List.mem_cons_self
  · cases h

theorem ownName_mentioned {n : Node} {id : Ident} (h : n.ownName = some id) :
    id.name ∈ n.mentioned := by
  unfold ownName at h
  split at h
  · obtain rfl := h
    exact List.mem_append_left _ List.mem_cons_self
  · obtain rfl := h
    exact List.mem_append_left _ List.mem_cons_self
  · cases h

theorem Loads.exports_value {n : Node} {names : List String} {m : ModuleLoad}
    (h : Loads n names m) : ∀ e ∈ m.exports, e.value.name ∈ names := by
  intro e he
  cases h with
  | imported => cases he
  | @reexported span =>
    obtain ⟨entry,hentry,rfl⟩ := List.mem_map.mp he
    obtain ⟨specifier,-,name,hname,rfl⟩ := exists_of_mem_through hentry
    rw [(through_value span specifier name).2]
    exact hname
  | star =>
    obtain rfl := List.mem_singleton.mp he
    exact List.mem_cons_of_mem _ List.mem_cons_self

/-- A load binds names of its item, and fresh ones. -/
theorem Loads.bound {n : Node} {names : List String} {m : ModuleLoad} (h : Loads n names m) :
    ∀ l ∈ m.names, ∀ id ∈ l.bound, id.name ∈ n.mentioned ∨ id.name ∈ names := by
  intro l hl id hid
  cases h with
  | imported =>
    obtain ⟨specifier,hspecifier,hloaded⟩ := List.mem_filterMap.mp hl
    rw [ImportSpecifier.bound_of_loaded hloaded] at hid
    obtain rfl := List.mem_singleton.mp hid
    exact .inl (List.mem_append_left _ (List.mem_map.mpr ⟨specifier,hspecifier,rfl⟩))
  | @reexported span =>
    obtain ⟨entry,hentry,rfl⟩ := List.mem_map.mp hl
    obtain ⟨specifier,-,name,hname,rfl⟩ := exists_of_mem_through hentry
    obtain ⟨hbound,hvalue⟩ := through_value span specifier name
    rw [hbound] at hid
    obtain rfl := List.mem_singleton.mp hid
    rw [hvalue]
    exact .inr hname
  | star =>
    rcases List.mem_cons.mp hl with rfl | hl
    · obtain rfl := List.mem_singleton.mp hid
      exact .inr List.mem_cons_self
    · obtain rfl := List.mem_singleton.mp hl
      obtain rfl := List.mem_singleton.mp hid
      exact .inr (List.mem_cons_of_mem _ List.mem_cons_self)

theorem Lowers.exports_value {hook : String} {n : Node} {names : List String} {l : Lowered}
    (h : Lowers hook n names l) :
    ∀ e ∈ l.exports, e.value.name ∈ n.mentioned ∨ e.value.name ∈ names := by
  intro e he
  cases h with
  | kept | dropped | otherDefault => cases he
  | loaded h => exact .inr (h.exports_value e he)
  | exported hids =>
    left
    obtain ⟨id,hid,rfl⟩ := List.mem_map.mp he
    rw [hids] at hid
    split at hid
    · refine mem_mentioned_of_part List.mem_cons_self (declaredIdents_mentioned hid) ?_
      rintro _ _ _ _ _ rfl
      cases hid
    · cases hid
  | listed =>
    left
    obtain ⟨specifier,hspecifier,hexport⟩ := List.mem_filterMap.mp he
    refine List.mem_append_left _ (List.mem_flatMap.mpr ⟨specifier,hspecifier,?_⟩)
    exact List.mem_map_of_mem (localExport_value hexport)
  | ownDefault hown =>
    left
    obtain rfl := List.mem_singleton.mp he
    refine mem_mentioned_of_part List.mem_cons_self (ownName_mentioned hown) ?_
    rintro _ _ _ _ _ rfl
    cases hown
  | freshDefault | defaultValue | assignedValue =>
    obtain rfl := List.mem_singleton.mp he
    exact .inr List.mem_cons_self
  | @reference _ isExport =>
    cases isExport with
    | true =>
      obtain rfl := List.mem_singleton.mp he
      exact .inl (List.mem_append_left _ List.mem_cons_self)
    | false => cases he

theorem item_exports_value (hook : String) (n : Node) (s : NameSupply) :
    ∀ e ∈ (item hook (route hook n).result s).1.exports,
      e.value.name ∈ n.mentioned ∨ IsSynthetic e.value.name := fun e he =>
  ((item_lowers hook n s).exports_value e he).imp_right (draw_synthetic _ _ _)

section Items

theorem rename_namedAs {id : Ident} (hid : id.name ≠ a) {declaration : Node}
    (h : declaration.isNameable = true) :
    (namedAs id declaration).rename a b = namedAs id (declaration.rename a b) := by
  have hsame : id.rename a b = id := Ident.rename_of_ne hid
  unfold isNameable at h
  split at h
  · rename_i parts
    rw [rename_node (Form.takesLabel_eq_false rfl parts),namedAs,
      rename_node (Form.takesLabel_eq_false rfl parts),Form.rename,Form.rename,hsame]
    rfl
  · rename_i parts
    rw [rename_node (Form.takesLabel_eq_false rfl parts),namedAs,
      rename_node (Form.takesLabel_eq_false rfl parts),Form.rename,Form.rename,hsame]
    rfl
  · cases h

theorem externalSource_rename (n : Node) : (n.rename a b).externalSource = n.externalSource := by
  refine apply_rename_eq externalSource (fun _ _ => rfl) (fun span form _ _ => ?_) n
  cases form with
  | moduleDeclaration _ _ _ name => cases name <;> rfl
  | exportNamed _ source _ => cases source <;> rfl
  | _ => rfl

theorem referenceValue_rename (span : Span) (reference : Node) :
    referenceValue b span (reference.rename a b) =
      ((referenceValue a span reference).1.rename a b,(referenceValue a span reference).2) := by
  have hentity : ∀ (hook : String) {n : Node}, n.externalSource = none →
      referenceValue hook span n = (entityExpression n,0) := by
    intro hook n h
    unfold referenceValue
    split
    · cases h
    · rfl
  cases hsource : reference.externalSource with
  | none =>
    rw [hentity a hsource,hentity b ((externalSource_rename reference).trans hsource),
      rename_entityExpression]
  | some source =>
    unfold externalSource at hsource
    split at hsource
    · rename_i place _ parts
      obtain rfl := Option.some.inj hsource
      rw [rename_node (Form.takesLabel_eq_false rfl parts)]
      exact congrArg (·,1) (rename_load ⟨_,.absent⟩ span).symm
    · cases hsource

theorem rename_part {span : Span} {form : Form} {part : Node} (hlabels : form.labels = false)
    (hshape : (node span form [part]).shaped = true) (h : a ∉ (node span form [part]).mentioned) :
    a ∉ form.mentioned ∧ a ∉ part.mentioned ∧
      (route a part).result.rename a b = (route b part).result := by
  rw [mentioned_node (Form.takesLabel_eq_false hlabels _),List.mem_append,not_or,mentionedAll_eq,
    List.flatMap_singleton] at h
  exact ⟨h.1,h.2,rename_route ((shaped_node_iff.mp hshape).2 part List.mem_cons_self) h.2⟩

theorem defaultDeclaration_rename {id : Ident} (hid : id.name ≠ a) {declaration : Node}
    (hnameable : declaration.isNameable = true)
    (hroute : (route a declaration).result.rename a b = (route b declaration).result) :
    (defaultDeclaration id (namedAs id (route a declaration).result)).rename a b =
      defaultDeclaration id (namedAs id (route b declaration).result) := by
  have hdeclaration :=
    rename_namedAs (b := b) hid ((isNameable_route a declaration).trans hnameable)
  rw [hroute] at hdeclaration
  exact congrArg (defaultDeclaration id) hdeclaration

end Items

section Hooks

variable {n : Node} {names : List String} (hmentioned : a ∉ n.mentioned) (hnames : a ∉ names)

include hmentioned hnames

theorem Loads.rename {m : ModuleLoad} (h : Loads n names m) (hshape : n.shaped = true) :
    m.lowered b = (m.lowered a).rename a b := by
  have hattributes : (route a m.attributes).result.rename a b = (route b m.attributes).result := by
    cases h <;> exact (rename_part rfl hshape hmentioned).2.2
  have hbound : ∀ l ∈ m.names, a ∉ l.bound.map (·.name) := by
    intro l hl hm
    obtain ⟨id,hid,rfl⟩ := List.mem_map.mp hm
    exact (h.bound l hl id hid).elim hmentioned hnames
  have hload := rename_loadStatement (b := b) h.plain hbound m.span (m.request a)
  have hrequest : m.request b = ⟨m.source,(route a m.attributes).result.rename a b⟩ := by
    rw [ModuleLoad.request,hattributes]
  rw [ModuleLoad.lowered,ModuleLoad.statement,hrequest]
  exact congrArg (fun statement : Node => ({
    statement := some statement, exports := m.exports, requests := 1, events := [m.event] } :
      Lowered)) hload.symm

/-- For one hook and for another, an item becomes the same up to the name of the hook. -/
theorem Lowers.rename {l : Lowered} (h : Lowers a n names l) (hshape : n.shaped = true) :
    Lowers b n names (l.rename a b) := by
  have hfresh : ∀ {name : String} (span : Span), name ∈ names → (Ident.named name span).name ≠ a :=
    fun _ hname heq => hnames (heq ▸ hname)
  -- The parts are routed for both hooks alike, so it is left to compare what is generated around them.
  cases h with
  | kept h =>
    have hkept : (Lowered.kept (route a n).result).rename a b = .kept (route b n).result :=
      congrArg Lowered.kept (rename_route hshape hmentioned)
    rw [hkept]
    exact .kept h
  | dropped h => exact .dropped h
  | loaded h =>
    rw [← h.rename hmentioned hnames hshape]
    exact .loaded h
  | exported hids =>
    rw [Lowered.rename,Option.map_some,(rename_part rfl hshape hmentioned).2.2]
    exact .exported hids
  | listed => exact .listed
  | @ownDefault _ _ id h =>
    obtain ⟨-,hfree,hroute⟩ := rename_part (b := b) rfl hshape hmentioned
    have hid : id.name ≠ a := fun heq => hfree (heq ▸ ownName_mentioned h)
    rw [defaultDeclaration_rename hid (isNameable_of_ownName h) hroute]
    exact .ownDefault h
  | freshDefault hnameable h =>
    rw [defaultDeclaration_rename (hfresh _ List.mem_cons_self) hnameable
      (rename_part rfl hshape hmentioned).2.2]
    exact .freshDefault hnameable h
  | otherDefault h =>
    rw [Lowered.rename,Option.map_some,(rename_part rfl hshape hmentioned).2.2]
    exact .otherDefault h
  | defaultValue =>
    rw [Lowered.constant_rename (hfresh _ List.mem_cons_self),
      (rename_part rfl hshape hmentioned).2.2]
    exact .defaultValue
  | assignedValue =>
    rw [Lowered.constant_rename (hfresh _ List.mem_cons_self),
      (rename_part rfl hshape hmentioned).2.2]
    exact .assignedValue
  | @reference span isExport name reference =>
    obtain ⟨hform,-,hroute⟩ := rename_part (b := b) rfl hshape hmentioned
    have hname : (Ident.named name.name name.span).name ≠ a :=
      fun heq => hform (List.mem_singleton.mpr heq.symm)
    have hreference : Lowers b (.node span (.importEquals isExport false name) [reference]) [] _ :=
      .reference
    rw [← hroute,referenceValue_rename] at hreference
    rw [Lowered.constant_rename hname]
    exact hreference

end Hooks

theorem item_rename (hne : ¬ IsSynthetic a) {n : Node} (hshape : n.shaped = true)
    (h : a ∉ n.mentioned) (s : NameSupply) :
    item b (route b n).result s =
      ((item a (route a n).result s).1.rename a b,(item a (route a n).result s).2) := by
  have hnames : a ∉ (s.draw n.freshBases).1 := fun hmem => hne (draw_synthetic _ _ a hmem)
  refine Prod.ext ?_ ((item_supply b n s).trans (item_supply a n s).symm)
  exact (item_lowers b n s).unique ((item_lowers a n s).rename h hnames hshape)

/-- Along the items, the same names are handed out for both hooks. -/
theorem items_rename (hne : ¬ IsSynthetic a) {ns : List Node} (hshape : ∀ n ∈ ns, n.shaped = true)
    (h : ∀ n ∈ ns, a ∉ n.mentioned) (s : NameSupply) :
    items b (ns.map fun n => (route b n).result) s =
      ((items a (ns.map fun n => (route a n).result) s).1.map (Lowered.rename a b),
        (items a (ns.map fun n => (route a n).result) s).2) := by
  induction ns generalizing s with
  | nil => rfl
  | cons n rest ih =>
    have hfirst := item_rename (b := b) hne (hshape n List.mem_cons_self) (h n List.mem_cons_self) s
    have hrest := ih (fun n hn => hshape n (.tail _ hn)) (fun n hn => h n (.tail _ hn))
      (item a (route a n).result s).2
    rw [List.map_cons,List.map_cons,items_cons,items_cons,hfirst,hrest]
    rfl

end Lowering

end AsyncBody
