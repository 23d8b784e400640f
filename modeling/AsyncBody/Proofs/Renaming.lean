import AsyncBody.Proofs.Bindings

/-!
Another name in the place of every identifier of a name. Routing for one hook or for another gives
the same tree up to the name of the hook, if the tree mentions none of them.
-/
namespace AsyncBody

open Hook

def renamed (a b name : String) : String := if name = a then b else name

def Ident.rename (a b : String) (id : Ident) : Ident := { id with name := renamed a b id.name }

def ImportSpecifier.rename (a b : String) : ImportSpecifier → ImportSpecifier
  | .named span bound imported typeOnly => .named span (bound.rename a b) imported typeOnly
  | .default span bound => .default span (bound.rename a b)
  | .whole span bound => .whole span (bound.rename a b)

def ExportName.rename (a b : String) : ExportName → ExportName
  | .ident name => .ident (name.rename a b)
  | .string name => .string name

def ExportSpecifier.rename (a b : String) : ExportSpecifier → ExportSpecifier
  | .named span inner exported typeOnly => .named span (inner.rename a b) exported typeOnly
  | specifier => specifier

/-- Puts `b` in the place of `a` where the form itself refers to `a` or binds it. Names of
properties stay, and so do those under which a module exports. -/
def Form.rename (a b : String) : Form → Form
  | .ident ctxt name optional => .ident ctxt (renamed a b name) optional
  | .binding ctxt name optional => .binding ctxt (renamed a b name) optional
  | .functionExpression name => .functionExpression (name.map (·.rename a b))
  | .classExpression name => .classExpression (name.map (·.rename a b))
  | .functionDeclaration name declare => .functionDeclaration (name.rename a b) declare
  | .classDeclaration name declare => .classDeclaration (name.rename a b) declare
  | .enumDeclaration declare isConst name => .enumDeclaration declare isConst (name.rename a b)
  | .moduleDeclaration declare global isNamespace (.ident name) =>
    .moduleDeclaration declare global isNamespace (.ident (name.rename a b))
  | .namespaceDeclaration declare global name =>
    .namespaceDeclaration declare global (name.rename a b)
  | .interfaceDeclaration name declare => .interfaceDeclaration (name.rename a b) declare
  | .typeAlias declare name => .typeAlias declare (name.rename a b)
  | .importEquals isExport typeOnly name => .importEquals isExport typeOnly (name.rename a b)
  | .exportAsNamespace name => .exportAsNamespace (name.rename a b)
  | .importDeclaration specifiers source typeOnly phase =>
    .importDeclaration (specifiers.map (·.rename a b)) source typeOnly phase
  | .exportNamed specifiers none typeOnly =>
    .exportNamed (specifiers.map (·.rename a b)) none typeOnly
  | form => form

namespace Node

mutual

/-- Puts `b` in the place of every identifier `a` that refers to something or binds it. Labels
stay. -/
def rename (a b : String) : Node → Node
  | .absent => .absent
  | .many items => .many (renameAll a b items)
  | .node span .labeled (.node place (.ident ctxt x optional) inner :: rest) =>
    .node span .labeled (.node place (.ident ctxt x optional) inner :: renameAll a b rest)
  | .node span .breakStatement (.node place (.ident ctxt x optional) inner :: rest) =>
    .node span .breakStatement (.node place (.ident ctxt x optional) inner :: renameAll a b rest)
  | .node span .continueStatement (.node place (.ident ctxt x optional) inner :: rest) =>
    .node span .continueStatement (.node place (.ident ctxt x optional) inner :: renameAll a b rest)
  | .node span form parts => .node span (form.rename a b) (renameAll a b parts)

def renameAll (a b : String) : List Node → List Node
  | [] => []
  | item :: rest => rename a b item :: renameAll a b rest

end

end Node

def Program.rename (a b : String) (p : Program) : Program :=
  { p with body := Node.renameAll a b p.body }

section Forms

variable {a b : String}

theorem renamed_of_ne {name : String} (h : name ≠ a) : renamed a b name = name := if_neg h

theorem Ident.rename_of_ne {id : Ident} (h : id.name ≠ a) : id.rename a b = id := by
  rw [Ident.rename,renamed_of_ne h]

theorem ImportSpecifier.rename_of_ne {s : ImportSpecifier} (h : s.bound.name ≠ a) :
    s.rename a b = s := by
  have hbound : s.bound.rename a b = s.bound := Ident.rename_of_ne h
  cases s with
  | named span bound imported typeOnly => exact congrArg (named span · imported typeOnly) hbound
  | default span bound => exact congrArg (default span) hbound
  | whole span bound => exact congrArg (whole span) hbound

theorem ExportSpecifier.rename_of_not_mem {s : ExportSpecifier} (h : a ∉ s.inner.map (·.name)) :
    s.rename a b = s := by
  cases s with
  | named span inner exported typeOnly =>
    cases inner with
    | ident name =>
      have hname : name.name ≠ a := fun heq => h (List.mem_singleton.mpr heq.symm)
      rw [rename,ExportName.rename,Ident.rename_of_ne hname]
    | string => rfl
  | default => rfl
  | whole => rfl

theorem Form.rename_eq_self {form : Form} (h : a ∉ form.mentioned) : form.rename a b = form := by
  have hone : ∀ {id : Ident}, a ∉ [id.name] → id.rename a b = id := fun hid =>
    Ident.rename_of_ne fun heq => hid (List.mem_singleton.mpr heq.symm)
  have hoption : ∀ {name : Option Ident}, a ∉ name.toList.map (·.name) →
      name.map (·.rename a b) = name := by
    intro name hname
    cases name with
    | none => rfl
    | some id => exact congrArg some (hone hname)
  unfold Form.rename
  split
  · rw [renamed_of_ne fun heq => h (List.mem_singleton.mpr heq.symm)]
  · rw [renamed_of_ne fun heq => h (List.mem_singleton.mpr heq.symm)]
  · rw [hoption h]
  · rw [hoption h]
  iterate 9 rw [hone h]
  · rename_i specifiers _ _ _
    rw [List.map_congr_left (g := id),List.map_id]
    intro s hs
    exact ImportSpecifier.rename_of_ne fun heq => h (List.mem_map.mpr ⟨s,hs,heq⟩)
  · rename_i specifiers _
    rw [List.map_congr_left (g := id),List.map_id]
    intro s hs
    exact ExportSpecifier.rename_of_not_mem fun hm => h (List.mem_flatMap.mpr ⟨s,hs,hm⟩)
  · rfl

theorem renamed_ne (hne : a ≠ b) (name : String) : renamed a b name ≠ a := by
  unfold renamed
  split
  · exact hne.symm
  · assumption

theorem ImportSpecifier.bound_rename (s : ImportSpecifier) :
    (s.rename a b).bound = s.bound.rename a b := by
  cases s <;> rfl

theorem ExportSpecifier.not_mem_inner_rename (hne : a ≠ b) (s : ExportSpecifier) :
    a ∉ (s.rename a b).inner.map (·.name) := by
  cases s with
  | named span inner =>
    cases inner with
    | ident name => exact fun h => renamed_ne hne name.name (List.mem_singleton.mp h).symm
    | string => exact List.not_mem_nil
  | default => exact List.not_mem_nil
  | whole => exact List.not_mem_nil

theorem Form.not_mem_mentioned_rename (hne : a ≠ b) (form : Form) :
    a ∉ (form.rename a b).mentioned := by
  have hone : ∀ id : Ident, a ∉ [(id.rename a b).name] := fun id h =>
    renamed_ne hne id.name (List.mem_singleton.mp h).symm
  have hoption : ∀ name : Option Ident, a ∉ (name.map (·.rename a b)).toList.map (·.name) := by
    intro name
    cases name with
    | none => exact List.not_mem_nil
    | some id => exact hone id
  cases form with
  | ident _ name | binding _ name =>
    exact fun h => renamed_ne hne name (List.mem_singleton.mp h).symm
  | functionExpression name | classExpression name => exact hoption name
  | functionDeclaration name | classDeclaration name | enumDeclaration _ _ name
  | namespaceDeclaration _ _ name | interfaceDeclaration name | typeAlias _ name
  | importEquals _ _ name | exportAsNamespace name => exact hone name
  | moduleDeclaration _ _ _ name =>
    cases name with
    | ident name => exact hone name
    | string => exact List.not_mem_nil
  | importDeclaration specifiers =>
    intro h
    rw [rename,mentioned,List.map_map] at h
    obtain ⟨s,-,heq⟩ := List.mem_map.mp h
    rw [Function.comp_apply,ImportSpecifier.bound_rename] at heq
    exact renamed_ne hne s.bound.name heq
  | exportNamed specifiers source =>
    cases source with
    | none =>
      intro h
      rw [rename,mentioned,List.flatMap_map] at h
      obtain ⟨s,-,h⟩ := List.mem_flatMap.mp h
      exact s.not_mem_inner_rename hne h
    | some => exact List.not_mem_nil
  | _ => exact List.not_mem_nil

theorem Form.qualifiedName_of_rename {form : Form} (h : form.rename a b = .qualifiedName) :
    form = .qualifiedName := by
  unfold Form.rename at h
  split at h
  all_goals first
    | exact h
    | cases h

end Forms

namespace Node

variable {a b : String}

theorem renameAll_eq (items : List Node) : renameAll a b items = items.map (rename a b) := by
  induction items with
  | nil => rfl
  | cons item rest ih => rw [renameAll,ih,List.map_cons]

theorem rename_node {span : Span} {form : Form} {parts : List Node}
    (h : form.takesLabel parts = false) :
    rename a b (.node span form parts) = .node span (form.rename a b) (renameAll a b parts) := by
  rw [rename]
  all_goals
    rintro place ctxt name optional inner rest rfl rfl
    cases h

theorem rename_label {span : Span} {form : Form} {label : Node} {rest : List Node}
    (h : form.takesLabel (label::rest) = true) :
    rename a b (.node span form (label::rest)) = .node span form (label :: renameAll a b rest) := by
  obtain ⟨hform,hfirst⟩ := Bool.and_eq_true_iff.mp h
  unfold isIdent at hfirst
  split at hfirst
  · cases form with
    | labeled | breakStatement | continueStatement => rfl
    | _ => cases hform
  · cases hfirst

theorem rename_form (span : Span) (form : Form) (parts : List Node) :
    ∃ others, (node span form parts).rename a b = .node span (form.rename a b) others := by
  cases hlabel : form.takesLabel parts with
  | false => exact ⟨_,rename_node hlabel⟩
  | true =>
    obtain ⟨_,_,_,_,_,rest,rfl,-⟩ := @mentioned_label span form parts hlabel
    rw [rename_label hlabel]
    cases form with
    | labeled | breakStatement | continueStatement => exact ⟨_,rfl⟩
    | _ => cases hlabel

/-- What does not depend on the parts of a tree, nor on the names in its form, stays. -/
theorem apply_rename_eq {α : Type} (f : Node → α)
    (hmany : ∀ items others, f (.many items) = f (.many others))
    (hnode : ∀ span form parts others,
      f (.node span (form.rename a b) others) = f (.node span form parts)) (n : Node) :
    f (n.rename a b) = f n := by
  cases n with
  | absent => rfl
  | many items => exact hmany ..
  | node span form parts =>
    obtain ⟨others,h⟩ := rename_form span form parts
    rw [h]
    exact hnode ..

theorem isIdent_rename (n : Node) : (n.rename a b).isIdent = n.isIdent := by
  refine apply_rename_eq isIdent (fun _ _ => rfl) (fun span form _ _ => ?_) n
  cases form with
  | moduleDeclaration _ _ _ name => cases name <;> rfl
  | exportNamed _ source _ => cases source <;> rfl
  | _ => rfl

theorem isPresent_rename (n : Node) : (n.rename a b).isPresent = n.isPresent :=
  apply_rename_eq isPresent (fun _ _ => rfl) (fun _ _ _ _ => rfl) n

theorem span_rename (n : Node) : (n.rename a b).span = n.span :=
  apply_rename_eq Node.span (fun _ _ => rfl) (fun _ _ _ _ => rfl) n

theorem takesLabel_rename (form : Form) (parts : List Node) :
    (form.rename a b).takesLabel (renameAll a b parts) = form.takesLabel parts := by
  cases parts with
  | nil => rfl
  | cons first rest =>
    have hlabels : (form.rename a b).labels = form.labels := by
      cases form with
      | moduleDeclaration _ _ _ name => cases name <;> rfl
      | exportNamed _ source _ => cases source <;> rfl
      | _ => rfl
    rw [renameAll,Form.takesLabel,Form.takesLabel,hlabels,isIdent_rename]

theorem renameAll_eq_self {items : List Node} (h : ∀ item ∈ items, item.rename a b = item) :
    renameAll a b items = items := by
  rw [renameAll_eq,List.map_congr_left (g := id) h,List.map_id]

theorem rename_eq_self {n : Node} (h : a ∉ n.mentioned) : n.rename a b = n := by
  induction n using Node.induction with
  | absent => rfl
  | many items ih =>
    rw [mentioned,mentionedAll_eq] at h
    rw [rename,renameAll_eq_self fun item hitem => ih item hitem fun hm =>
      h (List.mem_flatMap.mpr ⟨item,hitem,hm⟩)]
  | node span form parts ih =>
    cases hlabel : form.takesLabel parts with
    | false =>
      rw [mentioned_node hlabel,List.mem_append,not_or,mentionedAll_eq] at h
      rw [rename_node hlabel,form.rename_eq_self h.1,renameAll_eq_self fun part hpart =>
        ih part hpart fun hm => h.2 (List.mem_flatMap.mpr ⟨part,hpart,hm⟩)]
    | true =>
      obtain ⟨place,ctxt,label,optional,inner,rest,rfl,hm⟩ := mentioned_label hlabel
      rw [hm,mentionedAll_eq] at h
      rw [rename_label hlabel,renameAll_eq_self fun part hpart =>
        ih part (.tail _ hpart) fun hm => h (List.mem_flatMap.mpr ⟨part,hpart,hm⟩)]

theorem isIdent_route (hook : String) (n : Node) : (route hook n).result.isIdent = n.isIdent := by
  refine apply_route_eq hook isIdent (fun _ _ _ _ => rfl) (fun _ _ => rfl) (fun _ => rfl) ?_ n
  intro span form parts
  cases form with
  | _ => rfl

theorem takesLabel_route (hook : String) (form : Form) (parts : List Node) :
    form.takesLabel (routeAll hook parts).result = form.takesLabel parts := by
  cases parts with
  | nil => rfl
  | cons first rest => exact congrArg (form.labels && ·) (isIdent_route hook first)

theorem rename_pattern {id : Ident} (h : id.name ≠ a) : id.pattern.rename a b = id.pattern :=
  rename_eq_self fun hm => h (List.mem_singleton.mp hm).symm

theorem rename_reference {id : Ident} (h : id.name ≠ a) : id.reference.rename a b = id.reference :=
  rename_eq_self fun hm => h (List.mem_singleton.mp hm).symm

theorem rename_identifier (span : Span) :
    rename a b (identifier a span) = identifier b span := by
  simp [identifier,Ident.reference,Ident.named,leaf,rename,renameAll,Form.rename,renamed]

theorem rename_metaRead (span : Span) : rename a b (metaRead a span) = metaRead b span := by
  rw [metaRead,rename_node rfl,renameAll,rename_identifier]
  rfl

/-- A form whose label is a leaf is routed for both hooks alike, if this is so of its other
parts. -/
theorem rename_route_label {span : Span} {form : Form} {parts : List Node}
    (hshapes : ∀ part ∈ parts, part.shaped = true) (hlabel : form.takesLabel parts = true)
    (h : a ∉ (node span form parts).mentioned)
    (hparts : ∀ items : List Node, (∀ item ∈ items, item ∈ parts) → a ∉ mentionedAll items →
      renameAll a b (routeAll a items).result = (routeAll b items).result) :
    (route a (node span form parts)).result.rename a b = (route b (node span form parts)).result := by
  obtain ⟨place,ctxt,label,optional,inner,rest,rfl,hm⟩ := mentioned_label hlabel
  rw [hm] at h
  obtain rfl : inner = [] := List.eq_nil_of_length_eq_zero
    (shaped_node_iff.mp (hshapes _ List.mem_cons_self)).1
  have hnone : use? (.node span form (.node place (.ident ctxt label optional) [] :: rest)) =
      none := by
    cases form with
    | labeled | breakStatement | continueStatement => rfl
    | _ => cases hlabel
  have hrouted : form.takesLabel (.node place (.ident ctxt label optional) [] ::
      (routeAll a rest).result) = true := hlabel
  rw [route_eq_of_none hnone,route_eq_of_none hnone]
  refine (rename_label hrouted).trans ?_
  rw [hparts rest (fun _ => .tail _) h]
  rfl

/-- What is routed for one hook is routed for another, up to the name of the hook. -/
theorem rename_route {n : Node} (hshape : n.shaped = true) (h : a ∉ n.mentioned) :
    (route a n).result.rename a b = (route b n).result := by
  induction n using Node.induction with
  | absent => rfl
  | many items ih =>
    rw [shaped,shapedAll_iff] at hshape
    rw [mentioned,mentionedAll_eq] at h
    rw [route,route,rename,renameAll_eq,routeAll_result,routeAll_result,List.map_map]
    congr 1
    refine List.map_congr_left fun item hitem => ih item hitem (hshape item hitem) fun hm => ?_
    exact h (List.mem_flatMap.mpr ⟨item,hitem,hm⟩)
  | node span form parts ih =>
    have hshapes := (shaped_node_iff.mp hshape).2
    have hparts : ∀ items : List Node, (∀ item ∈ items, item ∈ parts) → a ∉ mentionedAll items →
        renameAll a b (routeAll a items).result = (routeAll b items).result := by
      intro items hitems hm
      rw [mentionedAll_eq] at hm
      rw [renameAll_eq,routeAll_result,routeAll_result,List.map_map]
      refine List.map_congr_left fun item hitem => ?_
      exact ih item (hitems item hitem) (hshapes item (hitems item hitem)) fun hm' =>
        hm (List.mem_flatMap.mpr ⟨item,hitem,hm'⟩)
    cases hlabel : form.takesLabel parts with
    | true => exact rename_route_label hshapes hlabel h hparts
    | false =>
      rw [mentioned_node hlabel,List.mem_append,not_or] at h
      obtain ⟨-,hnone⟩ | ⟨ctxt,place,inner,rest,rfl,rfl,hr⟩ | ⟨rfl,hr⟩ :=
        route_node_cases a span form parts
      · rw [route_eq_of_none hnone,route_eq_of_none hnone,
          rename_node ((takesLabel_route a form parts).trans hlabel),form.rename_eq_self h.1,
          hparts parts (fun _ => id) h.2]
      · have hrest : a ∉ mentionedAll rest := fun hm => h.2 (List.mem_append_right _ hm)
        rw [hr,rename_node rfl,renameAll,rename_identifier,hparts rest (fun _ => .tail _) hrest]
        rfl
      · rw [hr,rename_metaRead]
        rfl

theorem not_mem_mentioned_rename (hne : a ≠ b) (n : Node) : a ∉ (n.rename a b).mentioned := by
  induction n using Node.induction with
  | absent => exact List.not_mem_nil
  | many items ih =>
    rw [rename,renameAll_eq,mentioned,mentionedAll_eq,List.flatMap_map]
    intro h
    obtain ⟨item,hitem,h⟩ := List.mem_flatMap.mp h
    exact ih item hitem h
  | node span form parts ih =>
    have hparts : ∀ items : List Node, (∀ item ∈ items, item ∈ parts) →
        a ∉ mentionedAll (renameAll a b items) := by
      intro items hitems h
      rw [renameAll_eq,mentionedAll_eq,List.flatMap_map] at h
      obtain ⟨item,hitem,h⟩ := List.mem_flatMap.mp h
      exact ih item (hitems item hitem) h
    cases hlabel : form.takesLabel parts with
    | true =>
      obtain ⟨place,ctxt,label,optional,inner,rest,rfl,-⟩ := @mentioned_label span form parts hlabel
      have hrenamed : form.takesLabel (.node place (.ident ctxt label optional) inner ::
          renameAll a b rest) = true := hlabel
      obtain ⟨_,_,_,_,_,_,heq,hm⟩ := @mentioned_label span form _ hrenamed
      rw [rename_label hlabel,hm,← (List.cons.inj heq).2]
      exact hparts rest fun _ => .tail _
    | false =>
      rw [rename_node hlabel,mentioned_node ((takesLabel_rename form parts).trans hlabel)]
      intro h
      rcases List.mem_append.mp h with h | h
      · exact form.not_mem_mentioned_rename hne h
      · exact hparts parts (fun _ => id) h

end Node

end AsyncBody
