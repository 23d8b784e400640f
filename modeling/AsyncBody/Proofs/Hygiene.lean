import AsyncBody.Proofs.LoweredNames
import AsyncBody.Proofs.Shadowing

/-!
Hygiene of the hook: every identifier that the lowering inserts for the hook resolves to the
parameter of the function around the body.
-/
namespace AsyncBody

open Scope Node

/-- Wherever the hook stands in one tree and another name in the other, no scope of the tree binds
the hook. -/
def Clean (hook other : String) (n m : Node) : Prop :=
  ∀ π, Differs hook other n m π → ¬ BoundWithin hook n π

namespace Clean

variable {hook other : String}

theorem refl (hne : hook ≠ other) (n : Node) : Clean hook other n n :=
  fun _ h => absurd h (not_differs_of_eq hne rfl)

theorem identifier (span : Span) :
    Clean hook other (Hook.identifier hook span) (Hook.identifier other span) := by
  intro π h
  cases π with
  | nil => exact not_boundWithin_nil
  | cons i σ =>
    obtain ⟨_,_,hc,-⟩ := differs_cons_iff.mp h
    cases hc

theorem getElem? {ns ms : List Node} (h : List.Forall₂ (Clean hook other) ns ms) {i : Nat}
    {n m : Node} (hn : ns[i]? = some n) (hm : ms[i]? = some m) : Clean hook other n m := by
  induction h generalizing i with
  | nil => cases hn
  | cons hfirst _ ih =>
    cases i with
    | zero =>
      obtain rfl := Option.some.inj hn
      obtain rfl := Option.some.inj hm
      exact hfirst
    | succ i => exact ih hn hm

/-- Trees are clean if their children are and the outer scope does not bind the hook. -/
theorem of_children {n m : Node} (hroot : ¬ Differs hook other n m [])
    (hopens : ∀ i π kind, ¬ Opens hook n (i::π) kind)
    (hchildren : ∀ i c d, n.child? i = some c → m.child? i = some d → Clean hook other c d) :
    Clean hook other n m := by
  intro π h
  cases π with
  | nil => exact absurd h hroot
  | cons i σ =>
    obtain ⟨c,d,hc,hd,hσ⟩ := differs_cons_iff.mp h
    rw [boundWithin_cons_iff]
    rintro (⟨kind,hopen⟩ | ⟨c,hc',hbound⟩)
    · exact hopens i σ kind hopen
    · obtain rfl := Option.some.inj (hc.symm.trans hc')
      exact hchildren i _ d hc hd σ hσ hbound

theorem many {ns ms : List Node} (h : List.Forall₂ (Clean hook other) ns ms) :
    Clean hook other (.many ns) (.many ms) := by
  refine of_children ?_ ?_ fun i c d hc hd => getElem? h hc hd
  · intro hroot
    obtain ⟨⟨_,hn⟩,-⟩ := differs_nil_iff.mp hroot
    cases hn
  · intro i π kind hopen
    cases hopen

theorem node (hne : hook ≠ other) {span span' : Span} {form : Form} {ns ms : List Node}
    (hopens : ∀ i π kind, ¬ Opens hook (.node span form ns) (i::π) kind)
    (h : List.Forall₂ (Clean hook other) ns ms) :
    Clean hook other (.node span form ns) (.node span' form ms) :=
  of_children (not_differs_form hne) hopens fun _ _ _ hc hd => getElem? h hc hd

theorem scopeless (hne : hook ≠ other) {span span' : Span} {form : Form} {ns ms : List Node}
    (hform : form.scopeless = true) (h : List.Forall₂ (Clean hook other) ns ms) :
    Clean hook other (.node span form ns) (.node span' form ms) :=
  node hne (fun _ _ _ => not_opens_of_scopeless hform) h

theorem route (hne : hook ≠ other) (harguments : hook ≠ "arguments") {n : Node} {place : Place}
    {shadowed : Bool} (hscript : n.ecmaScript place = true) (hclear : Clear hook place n)
    (huses : shadowedUses hook shadowed n = []) :
    Clean hook other (Node.route hook n).result (Node.route other n).result :=
  fun _ h => not_boundWithin_route hne harguments hscript hclear huses h

theorem routeAll {ns : List Node}
    (h : ∀ n ∈ ns, Clean hook other (Node.route hook n).result (Node.route other n).result) :
    List.Forall₂ (Clean hook other) (Node.routeAll hook ns).result
      (Node.routeAll other ns).result := by
  rw [routeAll_result,routeAll_result,List.forall₂_map_left_iff,List.forall₂_map_right_iff,
    List.forall₂_same]
  exact h

theorem part (hne : hook ≠ other) (harguments : hook ≠ "arguments") {span : Span} {form : Form}
    {parts : List Node} {place : Place} {shadowed : Bool}
    (hscript : (Node.node span form parts).ecmaScript place = true)
    (huses : shadowedUses hook shadowed (.node span form parts) = []) (i : Nat) {part : Node}
    (hi : parts[i]? = some part) (hplace : form.placeOf parts.length i = .elsewhere) :
    Clean hook other (Node.route hook part).result (Node.route other part).result := by
  have hpart := (ecmaScript_node_iff.mp hscript).2.2 i part hi
  rw [hplace] at hpart
  exact route hne harguments hpart trivial (Hook.shadowedUses_part huses i hi)

theorem parts (hne : hook ≠ other) (harguments : hook ≠ "arguments") {span : Span} {form : Form}
    {parts : List Node} {place : Place} {shadowed : Bool}
    (hscript : (Node.node span form parts).ecmaScript place = true)
    (huses : shadowedUses hook shadowed (.node span form parts) = [])
    (hplaces : ∀ i, form.placeOf parts.length i = .elsewhere) :
    List.Forall₂ (Clean hook other) (Node.routeAll hook parts).result
      (Node.routeAll other parts).result := by
  refine routeAll fun n hn => ?_
  obtain ⟨i,hi⟩ := List.mem_iff_getElem?.mp hn
  exact part hne harguments hscript huses i hi (hplaces i)

theorem classDeclaration (hne : hook ≠ other) {span : Span} {name : Ident} {ns ms : List Node}
    (hname : name.name ≠ hook) (h : List.Forall₂ (Clean hook other) ns ms) :
    Clean hook other (.node span (.classDeclaration name false) ns)
      (.node span (.classDeclaration name false) ms) := by
  refine node hne (fun i π kind hopen => ?_) h
  cases hopen with
  | arguments hc => cases hc
  | parameters hc => cases hc
  | bodyVariables hc => cases hc
  | head hhead => cases hhead
  | declaredClassName hx => exact hname hx

open Lowering

variable (hne : hook ≠ other)

include hne

theorem options {attributes attributes' : Node} (h : Clean hook other attributes attributes') :
    Clean hook other (Request.options attributes) (Request.options attributes') := by
  have hkeyed := List.Forall₂.cons (refl hne (.leaf .nowhere (.propertyName "with"))) (.cons h .nil)
  have hproperty : Clean hook other
      (.node .nowhere .keyValue [.leaf .nowhere (.propertyName "with"),attributes])
      (.node .nowhere .keyValue [.leaf .nowhere (.propertyName "with"),attributes']) :=
    scopeless hne rfl hkeyed
  exact scopeless hne rfl (.cons (many (.cons hproperty .nil)) .nil)

theorem load {attributes attributes' : Node} (h : Clean hook other attributes attributes')
    (hpresent : attributes.isPresent = attributes'.isPresent) (source : StringLiteral)
    (span : Span) : Clean hook other ((⟨source,attributes⟩ : Request).load hook span)
      ((⟨source,attributes'⟩ : Request).load other span) := by
  have hsource := refl hne (.node .nowhere (.argument none) [source.toNode])
  have harguments : List.Forall₂ (Clean hook other) (Request.arguments ⟨source,attributes⟩)
      (Request.arguments ⟨source,attributes'⟩) := by
    unfold Request.arguments
    rw [hpresent]
    split
    · exact .cons hsource (.cons (scopeless hne rfl (.cons (options hne h) .nil)) .nil)
    · exact .cons hsource .nil
  refine scopeless hne rfl (.cons (scopeless hne rfl ?_) .nil)
  exact .cons (identifier span) (.cons (many harguments) (.cons (refl hne _) .nil))

theorem declarator {value value' : Node} (h : Clean hook other value value') (pattern : Node) :
    Clean hook other (Lowering.declarator pattern value) (Lowering.declarator pattern value') :=
  scopeless hne rfl (.cons (refl hne pattern) (.cons h .nil))

theorem constDeclaration {ds es : List Node} (h : List.Forall₂ (Clean hook other) ds es)
    (span : Span) : Clean hook other (Lowering.constDeclaration span ds)
      (Lowering.constDeclaration span es) :=
  scopeless hne rfl (.cons (many h) .nil)

theorem loadStatement {attributes attributes' : Node}
    (h : Clean hook other attributes attributes')
    (hpresent : attributes.isPresent = attributes'.isPresent) (source : StringLiteral)
    (span : Span) (names : List Loaded) :
    Clean hook other (Lowering.loadStatement hook span ⟨source,attributes⟩ names)
      (Lowering.loadStatement other span ⟨source,attributes'⟩ names) := by
  have hload := load hne h hpresent source span
  dsimp only [Lowering.loadStatement]
  cases (names.filterMap Loaded.whole?).getLast? with
  | none =>
    cases names.filterMap Loaded.property? with
    | nil => exact scopeless hne rfl (.cons hload .nil)
    | cons => exact constDeclaration hne (.cons (declarator hne hload _) .nil) span
  | some bound =>
    have hbound := declarator hne hload bound.pattern
    cases names.filterMap Loaded.property? with
    | nil => exact constDeclaration hne (.cons hbound .nil) span
    | cons => exact constDeclaration hne (.cons hbound (.cons (refl hne _) .nil)) span

theorem entityExpression (harguments : hook ≠ "arguments") {n : Node} {shadowed : Bool}
    (hscript : n.ecmaScript .elsewhere = true) (huses : shadowedUses hook shadowed n = []) :
    Clean hook other (Lowering.entityExpression (Node.route hook n).result)
      (Lowering.entityExpression (Node.route other n).result) := by
  induction n using Node.induction generalizing shadowed with
  | absent => exact refl hne _
  | many items => exact route hne harguments hscript trivial huses
  | node span form parts ih =>
    by_cases hname : form = .qualifiedName ∧ ∃ left right, parts = [left,right]
    · obtain ⟨rfl,left,right,rfl⟩ := hname
      have hparts := (ecmaScript_node_iff.mp hscript).2.2
      have hleft := ih left (by simp) (hparts 0 left rfl) (Hook.shadowedUses_part huses 0 rfl)
      have hright :
          Clean hook other (Node.route hook right).result (Node.route other right).result :=
        part hne harguments hscript huses 1 rfl rfl
      exact scopeless hne rfl (.cons hleft (.cons hright .nil))
    · have hkept (name : String) : Lowering.entityExpression
          (Node.route name (.node span form parts)).result =
            (Node.route name (.node span form parts)).result := by
        cases form with
        | qualifiedName =>
          match parts with
          | [] | [_] | _ :: _ :: _ :: _ => rfl
          | [left,right] => exact absurd ⟨rfl,left,right,rfl⟩ hname
        | call =>
          obtain ⟨_,hr⟩ := route_call_shape name span _ parts
          rw [hr]
          rfl
        | metaProperty kind => cases kind <;> rfl
        | _ => rfl
      rw [hkept,hkept]
      exact route hne harguments hscript trivial huses

end Clean

namespace Lowering

structure Agree (hook other : String) (l m : Lowered) : Prop where
  exports : l.exports = m.exports
  statement : List.Forall₂ (Clean hook other) l.statement.toList m.statement.toList

section Items

variable {hook other : String} (hne : hook ≠ other) (harguments : hook ≠ "arguments")

theorem isPresent_routes (n : Node) :
    (Node.route hook n).result.isPresent = (Node.route other n).result.isPresent := by
  rw [isPresent_route,isPresent_route]

theorem isClass_of_valueNames {n : Node} (h : hook ∉ n.valueNames) : n.isClass hook = false := by
  unfold isClass
  split
  · refine beq_eq_false_iff_ne.mpr fun hname => h ?_
    rw [← hname]
    exact List.mem_cons_self
  · rfl

theorem declaresClass_of_itemNames {n : Node} (h : hook ∉ n.itemNames) :
    n.declaresClass hook = false := by
  unfold declaresClass
  split
  · exact isClass_of_valueNames h
  · unfold isClass
    split
    · refine beq_eq_false_iff_ne.mpr fun hname => h ?_
      rw [← hname]
      exact List.mem_cons_self
    · rfl

theorem ownName_itemNames {span : Span} {declaration : Node} {id : Ident}
    (h : declaration.ownName = some id) :
    id.name ∈ (node span .exportDefaultDeclaration [declaration]).itemNames := by
  unfold ownName at h
  split at h
  · obtain rfl := h
    exact List.mem_singleton.mpr rfl
  · obtain rfl := h
    exact List.mem_singleton.mpr rfl
  · cases h

theorem Agree.one {l m : Lowered} {n n' : Node} (hl : l.statement = some n)
    (hm : m.statement = some n') (h : Clean hook other n n') (hexports : l.exports = m.exports) :
    Agree hook other l m := by
  refine ⟨hexports,?_⟩
  rw [hl,hm]
  exact .cons h .nil

include hne harguments

theorem namedAs_clean {place : Span} {declaration : Node}
    (hscript : (Node.node place .exportDefaultDeclaration [declaration]).ecmaScript .item = true)
    (huses : shadowedUses hook false (.node place .exportDefaultDeclaration [declaration]) = [])
    (hnameable : declaration.isNameable = true) {id : Ident} (hid : id.name ≠ hook) :
    Clean hook other (namedAs id (Node.route hook declaration).result)
      (namedAs id (Node.route other declaration).result) := by
  have hinner := (ecmaScript_node_iff.mp hscript).2.2 0 declaration rfl
  have hinnerUses := Hook.shadowedUses_part huses 0 rfl
  unfold isNameable at hnameable
  split at hnameable
  · have hparts := Clean.parts hne harguments hinner hinnerUses fun _ => rfl
    exact Clean.scopeless hne rfl hparts
  · have hparts := Clean.parts hne harguments hinner hinnerUses fun _ => rfl
    exact Clean.classDeclaration hne hid hparts
  · cases hnameable

theorem referenceValue_clean {span : Span} {reference : Node} {shadowed : Bool}
    (hscript : reference.ecmaScript .elsewhere = true)
    (huses : shadowedUses hook shadowed reference = []) :
    Clean hook other (referenceValue hook span (Node.route hook reference).result).1
      (referenceValue other span (Node.route other reference).result).1 := by
  by_cases hexternal : ∃ place source parts, reference = .node place (.externalModule source) parts
  · obtain ⟨place,source,parts,rfl⟩ := hexternal
    exact Clean.load hne (.refl hne .absent) rfl source span
  · have hvalue (name : String) : referenceValue name span (Node.route name reference).result =
        (Lowering.entityExpression (Node.route name reference).result,0) := by
      cases reference with
      | absent => rfl
      | many items => rfl
      | node place form parts =>
        cases form with
        | externalModule source => exact absurd ⟨place,source,parts,rfl⟩ hexternal
        | call =>
          obtain ⟨_,hr⟩ := route_call_shape name place _ parts
          rw [hr]
          rfl
        | metaProperty kind => cases kind <;> rfl
        | _ => rfl
    rw [hvalue,hvalue]
    exact Clean.entityExpression hne harguments hscript huses

theorem exported_clean {place : Span} {declaration : Node}
    (hscript : (Node.node place .exportDeclaration [declaration]).ecmaScript .item = true)
    (huses : shadowedUses hook false (.node place .exportDeclaration [declaration]) = [])
    (hnames : hook ∉ declaration.valueNames) :
    Clean hook other (Node.route hook declaration).result (Node.route other declaration).result := by
  have hinner := (ecmaScript_node_iff.mp hscript).2.2 0 declaration rfl
  have hclear : declaration.declaresClass hook = false := by
    unfold declaresClass
    split
    · cases (ecmaScript_node_iff.mp hinner).1
    · exact isClass_of_valueNames hnames
  exact Clean.route hne harguments hinner hclear (Hook.shadowedUses_part huses 0 rfl)

/-- What an item becomes for two hooks differs in the hook only. -/
theorem Lowers.agree {n : Node} {names : List String} {l : Lowered} (h : Lowers hook n names l)
    (hscript : n.ecmaScript .item = true) (huses : shadowedUses hook false n = [])
    (hnames : hook ∉ n.itemNames) (hfresh : hook ∉ names) :
    ∃ m, Lowers other n names m ∧ Agree hook other l m := by
  have hpart : ∀ {span form part}, n = .node span form [part] →
      form.placeOf 1 0 = .elsewhere →
      Clean hook other (Node.route hook part).result (Node.route other part).result := by
    rintro span form part rfl hplace
    exact Clean.part hne harguments hscript huses 0 rfl hplace
  have hconstant : ∀ {span : Span} {id : Ident} {value value' : Node}, Clean hook other value value' →
      Clean hook other (constDeclaration span [declarator id.pattern value])
        (constDeclaration span [declarator id.pattern value']) := fun hvalue =>
    Clean.constDeclaration hne (.cons (Clean.declarator hne hvalue _) .nil) _
  cases h with
  | kept h =>
    refine ⟨_,.kept h,.one rfl rfl ?_ rfl⟩
    exact Clean.route hne harguments hscript (declaresClass_of_itemNames hnames) huses
  | dropped h => exact ⟨_,.dropped h,rfl,.nil⟩
  | @loaded _ _ m h =>
    have hattributes : Clean hook other (m.request hook).attributes (m.request other).attributes := by
      cases h <;> exact hpart rfl rfl
    refine ⟨_,.loaded h,.one rfl rfl ?_ rfl⟩
    exact Clean.loadStatement hne hattributes (isPresent_routes _) m.source m.span m.names
  | exported hids =>
    exact ⟨_,.exported hids,.one rfl rfl (exported_clean hne harguments hscript huses hnames) rfl⟩
  | listed => exact ⟨_,.listed,rfl,.nil⟩
  | @ownDefault _ declaration id h =>
    have hid : id.name ≠ hook := fun heq => hnames (heq ▸ ownName_itemNames h)
    refine ⟨_,.ownDefault h,.one rfl rfl ?_ rfl⟩
    exact namedAs_clean hne harguments hscript huses (isNameable_of_ownName h) hid
  | freshDefault hnameable h =>
    refine ⟨_,.freshDefault hnameable h,.one rfl rfl ?_ rfl⟩
    refine namedAs_clean hne harguments hscript huses hnameable fun hid => ?_
    exact hfresh (hid ▸ List.mem_singleton.mpr rfl)
  | otherDefault h =>
    have hinner := (ecmaScript_node_iff.mp hscript).2.2 0 _ rfl
    refine ⟨_,.otherDefault h,.one rfl rfl ?_ rfl⟩
    exact Clean.route hne harguments hinner trivial (Hook.shadowedUses_part huses 0 rfl)
  | defaultValue => exact ⟨_,.defaultValue,.one rfl rfl (hconstant (hpart rfl rfl)) rfl⟩
  | assignedValue => exact ⟨_,.assignedValue,.one rfl rfl (hconstant (hpart rfl rfl)) rfl⟩
  | @reference _ _ _ reference =>
    have hinner := (ecmaScript_node_iff.mp hscript).2.2 0 reference rfl
    refine ⟨_,.reference,.one rfl rfl (hconstant ?_) rfl⟩
    exact referenceValue_clean hne harguments hinner (Hook.shadowedUses_part huses 0 rfl)

theorem item_agree {n : Node} (hscript : n.ecmaScript .item = true)
    (huses : shadowedUses hook false n = []) (hnames : hook ∉ n.itemNames) {s : NameSupply}
    (htaken : hook ∈ s.taken) :
    (item hook (Node.route hook n).result s).2 = (item other (Node.route other n).result s).2 ∧
      Agree hook other (item hook (Node.route hook n).result s).1
        (item other (Node.route other n).result s).1 := by
  have hfresh : hook ∉ (s.draw n.freshBases).1 := fun hmem =>
    (NameSupply.draw_draws _ s).not_mem_taken hook hmem htaken
  obtain ⟨m,hm,hagree⟩ := (item_lowers hook n s).agree hne harguments hscript huses hnames hfresh
  refine ⟨(item_supply hook n s).trans (item_supply other n s).symm,?_⟩
  rw [(item_lowers other n s).unique hm]
  exact hagree

theorem items_agree {ns : List Node} (hscript : ∀ n ∈ ns, n.ecmaScript .item = true)
    (huses : ∀ n ∈ ns, shadowedUses hook false n = []) (hnames : ∀ n ∈ ns, hook ∉ n.itemNames)
    {s : NameSupply} (htaken : hook ∈ s.taken) :
    List.Forall₂ (Agree hook other)
      (items hook (ns.map fun n => (Node.route hook n).result) s).1
      (items other (ns.map fun n => (Node.route other n).result) s).1 := by
  induction ns generalizing s with
  | nil => exact .nil
  | cons n rest ih =>
    have hfirst := List.mem_cons_self (a := n) (l := rest)
    obtain ⟨hsupply,hagree⟩ : (item hook (Node.route hook n).result s).2 =
        (item other (Node.route other n).result s).2 ∧ Agree hook other _ _ :=
      item_agree hne harguments (hscript n hfirst) (huses n hfirst) (hnames n hfirst) htaken
    have hstill : hook ∈ (item hook (Node.route hook n).result s).2.taken := by
      obtain ⟨_,hdraws,-⟩ := item_keeps hook n s
      rw [hdraws.taken_eq]
      exact List.mem_append_right _ htaken
    have hrest := ih (fun n hn => hscript n (List.mem_cons_of_mem _ hn))
      (fun n hn => huses n (List.mem_cons_of_mem _ hn))
      (fun n hn => hnames n (List.mem_cons_of_mem _ hn)) hstill
    have hothers : (items other ((n::rest).map fun n => (Node.route other n).result) s).1 =
        (item other (Node.route other n).result s).1 ::
          (items other (rest.map fun n => (Node.route other n).result)
            (item hook (Node.route hook n).result s).2).1 := by
      rw [hsupply]
      rfl
    rw [hothers]
    exact .cons hagree hrest

end Items

theorem Agree.statements {hook other : String} {ls ms : List Lowered} {ns ns' : List Node}
    (h : List.Forall₂ (Agree hook other) ls ms) (hlast : List.Forall₂ (Clean hook other) ns ns') :
    List.Forall₂ (Clean hook other) (ls.filterMap (·.statement) ++ ns)
      (ms.filterMap (·.statement) ++ ns') := by
  induction h with
  | nil => exact hlast
  | @cons l m ls ms hfirst _ ih =>
    have hstatement := hfirst.statement
    cases hl : l.statement with
    | none =>
      cases hm : m.statement with
      | none =>
        rw [List.filterMap_cons_none hl,List.filterMap_cons_none hm]
        exact ih
      | some _ =>
        rw [hl,hm] at hstatement
        cases hstatement
    | some _ =>
      cases hm : m.statement with
      | none =>
        rw [hl,hm] at hstatement
        cases hstatement
      | some _ =>
        rw [hl,hm] at hstatement
        rw [List.filterMap_cons_some hl,List.filterMap_cons_some hm]
        cases hstatement with
        | cons hclean _ => exact .cons hclean ih

theorem Agree.table {hook other : String} {ls ms : List Lowered}
    (h : List.Forall₂ (Agree hook other) ls ms) :
    ls.flatMap (·.exports) = ms.flatMap (·.exports) := by
  induction h with
  | nil => rfl
  | cons hfirst _ ih => rw [List.flatMap_cons,List.flatMap_cons,hfirst.exports,ih]

theorem loadStatement_ne_labeled (hook : String) (span place : Span) (request : Request)
    (names : List Loaded) (parts : List Node) :
    loadStatement hook span request names ≠ .node place .labeled parts := by
  dsimp only [loadStatement]
  split <;> intro h <;> cases h

theorem namedAs_ne_labeled {declaration : Node} (h : declaration.isNameable = true) (id : Ident)
    (span : Span) (parts : List Node) : namedAs id declaration ≠ .node span .labeled parts := by
  unfold isNameable at h
  split at h
  · exact fun heq => by cases heq
  · exact fun heq => by cases heq
  · cases h

/-- A labelled statement is never generated: it is an item, or what an item exports. -/
theorem Lowers.labeled {hook : String} {n : Node} {names : List String} {l : Lowered}
    (h : Lowers hook n names l) {span : Span} {parts : List Node}
    (hstatement : l.statement = some (.node span .labeled parts)) :
    (Node.route hook n).result = .node span .labeled parts ∨
      (∃ place, (Node.route hook n).result =
        .node place .exportDeclaration [.node span .labeled parts]) ∨
      ∃ place, (Node.route hook n).result =
        .node place .exportDefaultDeclaration [.node span .labeled parts] := by
  cases h with
  | kept => exact .inl (Option.some.inj hstatement)
  | loaded => exact absurd (Option.some.inj hstatement) (loadStatement_ne_labeled _ _ _ _ _ _)
  | @exported place =>
    exact .inr (.inl ⟨place,congrArg (Node.node place _ [·]) (Option.some.inj hstatement)⟩)
  | ownDefault h =>
    refine absurd (Option.some.inj hstatement) (namedAs_ne_labeled ?_ _ _ _)
    exact (isNameable_route hook _).trans (isNameable_of_ownName h)
  | freshDefault h =>
    refine absurd (Option.some.inj hstatement) (namedAs_ne_labeled ?_ _ _ _)
    exact (isNameable_route hook _).trans h
  | @otherDefault place =>
    exact .inr (.inr ⟨place,congrArg (Node.node place _ [·]) (Option.some.inj hstatement)⟩)
  | _ => cases hstatement

end Lowering

namespace Program

/-- Whether a program has scopes as in ECMAScript in strict mode only: no namespaces, enumerations,
parameter properties, `with` statements or loops over `using` declarations, and functions and
classes are declared in lists of statements. -/
def ecmaScript (p : Program) : Bool := p.body.all (·.ecmaScript .item)

/-- The positions, among the statements of the body, of the identifiers that the lowering inserts
for the hook: those that change with its name. -/
def Inserted (p : Program) (hook : String) (π : List Nat) : Prop :=
  ∀ name, ∃ span, (Node.many (p.lower name (.ofProgram p hook)).result.body).at? π =
    some (Hook.identifier name span)

end Program

namespace Node

theorem default_of_ecmaScript {n : Node} (hscript : n.ecmaScript .item = true) {span : Span}
    {declaration : Node} (hn : n = .node span .exportDefaultDeclaration [declaration]) :
    declaration.valueNames = [] ∧ declaration.hoistedVars = [] := by
  subst hn
  have hdefault := (ecmaScript_node_iff.mp hscript).2.2 0 declaration rfl
  cases declaration with
  | absent => exact ⟨rfl,rfl⟩
  | many items => cases hdefault
  | node place form parts =>
    cases form with
    | functionExpression | classExpression | interfaceDeclaration => exact ⟨rfl,rfl⟩
    | _ => cases (ecmaScript_node_iff.mp hdefault).1

end Node

namespace Program

variable {options : Options} {p body : Program}

theorem ecmaScript_iff : p.ecmaScript = true ↔ ∀ n ∈ p.body, n.ecmaScript .item = true :=
  List.all_eq_true

theorem not_declaresFunction_labeled (hscript : p.ecmaScript = true) {hook : String}
    {s : NameSupply} {span : Span} {label inner : Node} {x : String}
    (hmem : .node span .labeled [label,inner] ∈ (p.lower hook s).result.body) :
    ¬ DeclaresFunction x inner := by
  obtain ⟨item,hitem,t,hstatement⟩ | ⟨table,htable⟩ := mem_lower_body hmem
  · have hitemScript := ecmaScript_route hook (ecmaScript_iff.mp hscript item hitem)
    obtain hn | ⟨_,hn⟩ | ⟨_,hn⟩ :=
      (Lowering.item_lowers hook item t).labeled hstatement
    · rw [hn] at hitemScript
      exact not_declaresFunction_elsewhere ((ecmaScript_node_iff.mp hitemScript).2.2 1 inner rfl)
    · rw [hn] at hitemScript
      have hlabeled := (ecmaScript_node_iff.mp hitemScript).2.2 0 _ rfl
      exact not_declaresFunction_elsewhere ((ecmaScript_node_iff.mp hlabeled).2.2 1 inner rfl)
    · rw [hn] at hitemScript
      have hlabeled := (ecmaScript_node_iff.mp hitemScript).2.2 0 _ rfl
      cases (ecmaScript_node_iff.mp hlabeled).1
  · cases htable

theorem not_declares_hook (hscript : p.ecmaScript = true)
    (hok : (p.toFunctionBody options).result = .ok body) {statement : Node}
    (hmem : statement ∈ body.body) : ¬ Declares options.importName statement := by
  obtain ⟨-,htop,-,rfl⟩ := toFunctionBody_eq_ok.mp hok
  intro hdeclares
  rcases hdeclares.mem_valueNames with hvalue | ⟨_,_,_,rfl,hfunction⟩
  · obtain ⟨made,hdraws,hsubset,-,-⟩ := lower_keeps options.importName p
    have hdeclared : (statement.bindingKind,options.importName) ∈ statement.declared :=
      List.mem_map_of_mem hvalue
    rcases List.mem_append.mp (hsubset (List.mem_flatMap.mpr ⟨statement,hmem,hdeclared⟩)) with h | h
    · obtain ⟨item,hitem,h⟩ := List.mem_flatMap.mp h
      refine htop (List.mem_append_right _ (List.mem_flatMap.mpr ⟨item,hitem,?_⟩))
      exact Node.itemDeclared_itemNames
        (fun _ _ hn => (Node.default_of_ecmaScript (ecmaScript_iff.mp hscript item hitem) hn).1) h
    · exact hdraws.not_mem_taken _ (List.mem_map_of_mem h) List.mem_cons_self
  · exact not_declaresFunction_labeled hscript hmem hfunction

theorem not_hoists_hook (hscript : p.ecmaScript = true)
    (hok : (p.toFunctionBody options).result = .ok body) :
    options.importName ∉ Node.hoistedVarsAll body.body := by
  obtain ⟨-,htop,-,rfl⟩ := toFunctionBody_eq_ok.mp hok
  obtain ⟨-,-,-,-,hhoisted⟩ := lower_keeps options.importName p
  rw [hhoisted]
  intro h
  obtain ⟨item,hitem,h⟩ := List.mem_flatMap.mp h
  rw [Node.itemHoisted_eq fun _ _ hn =>
    (Node.default_of_ecmaScript (ecmaScript_iff.mp hscript item hitem) hn).2] at h
  refine htop (List.mem_append_left _ ?_)
  rw [Node.collectedVarsAll_eq]
  exact List.mem_flatMap.mpr ⟨item,hitem,Node.mem_collectedVars_of_hoistedVars h⟩

/-- Inside the body, no scope binds the hook where it is inserted. -/
theorem body_clean (hscript : p.ecmaScript = true)
    (hok : (p.toFunctionBody options).result = .ok body) {other : String}
    (hne : options.importName ≠ other) :
    Clean options.importName other (.many body.body)
      (.many (p.lower other (.ofProgram p options.importName)).result.body) := by
  obtain ⟨hvalid,htop,huses,rfl⟩ := toFunctionBody_eq_ok.mp hok
  have hnames : ∀ n ∈ p.body, options.importName ∉ n.itemNames := fun n hn h =>
    htop (List.mem_append_right _ (List.mem_flatMap.mpr ⟨n,hn,h⟩))
  have hagree := Lowering.items_agree hne (Options.importName_ne_arguments hvalid)
    (ecmaScript_iff.mp hscript) (Hook.shadowedUsesAll_eq_nil.mp huses) hnames
    (s := .ofProgram p options.importName) List.mem_cons_self
  rw [← Node.routeAll_result,← Node.routeAll_result] at hagree
  rw [lower_body,lower_body]
  refine .many (Lowering.Agree.statements hagree (.cons ?_ .nil))
  have htable := Lowering.Agree.table hagree
  unfold Program.route
  rw [htable]
  exact .refl hne _

/-- Every identifier that the lowering inserts for the hook, at any depth, resolves to the parameter
of the function around the body. -/
theorem inserted_resolves (hscript : p.ecmaScript = true)
    (hok : (p.toFunctionBody options).result = .ok body) {π : List Nat}
    (hinserted : p.Inserted options.importName π) :
    (∃ span, (options.asyncFunction body).at? (2 :: 0 :: π) =
      some (Hook.identifier options.importName span)) ∧
    Resolves options.importName (options.asyncFunction body) (2 :: 0 :: π) [] .parameters := by
  obtain ⟨other,hne⟩ : ∃ other, options.importName ≠ other := by
    have hfresh := NameSupply.fresh_not_mem ⟨[options.importName]⟩ ""
    exact ⟨_,fun h => hfresh (List.mem_singleton.mpr h.symm)⟩
  have hbody : body.body = (p.lower options.importName
      (.ofProgram p options.importName)).result.body := by
    rw [(toFunctionBody_eq_ok.mp hok).2.2.2]
  have hplace := hinserted options.importName
  rw [← hbody] at hplace
  have hstatements : ¬ BoundWithin options.importName (.many body.body) π :=
    body_clean hscript hok hne π ⟨hplace,hinserted other⟩
  have hblock : ∀ kind, ¬ Opens options.importName
      (.node body.span (.block 0) [.many body.body]) (0 :: π) kind := by
    intro kind hopen
    cases hopen with
    | arguments hc => cases hc
    | parameters hc => cases hc
    | bodyVariables hc => cases hc
    | head hhead => cases hhead
    | block hmem hdeclares => exact not_declares_hook hscript hok hmem hdeclares
  refine ⟨hplace,.here ?_ ?_ rfl ?_⟩
  · refine .parameters rfl (List.mem_singleton.mpr rfl) .name rfl
  · intro inner hopen
    cases hopen with
    | arguments => decide
    | parameters => decide
    | bodyVariables hc _ hvars =>
      obtain rfl := Option.some.inj hc
      refine absurd hvars.mem_hoistedVars ?_
      show options.importName ∉ Node.hoistedVarsAll [.many body.body]
      rw [Node.hoistedVarsAll_eq,List.flatMap_singleton]
      exact not_hoists_hook hscript hok
    | head hhead => cases hhead
  · rw [boundWithin_cons_iff]
    rintro (⟨kind,hopen⟩ | ⟨c,hc,hbound⟩)
    · exact hblock kind hopen
    · obtain rfl := Option.some.inj hc
      exact hstatements hbound

def nestedLoads : Program :=
  let id (name : String) : Ident := .named name .nowhere
  let statement (expression : Node) : Node := .node .nowhere .expressionStatement [expression]
  let load : Node := .node .nowhere (.call 0) [.leaf .nowhere (.importKeyword .evaluation),
    .many [.node .nowhere (.argument none) [(StringLiteral.plain "y" .nowhere).toNode]],.absent]
  let read : Node := .leaf .nowhere (.metaProperty .importMeta)
  ⟨.module,.nowhere,
    [ .node .nowhere (.importDeclaration [.default .nowhere (id "d")] (.plain "m" .nowhere) false
        .evaluation) [.absent],
      statement (.node .nowhere (.arrow 0 false false) [.many [(id "x").pattern],
        .node .nowhere (.block 0) [.many [statement load,statement read]],.absent,.absent]) ],none⟩

theorem nestedLoads_resolves :
    ∃ body, (nestedLoads.toFunctionBody {}).result = .ok body ∧
      ∀ π ∈ [[0,0,0,1,0,0],[1,0,1,0,0,0,0],[1,0,1,0,1,0,0]],
        Resolves "$import" (({} : Options).asyncFunction body) (2 :: 0 :: π) [] .parameters := by
  have hok : (nestedLoads.toFunctionBody {}).result =
      .ok (nestedLoads.lower "$import" (.ofProgram nestedLoads "$import")).result :=
    toFunctionBody_eq_ok.mpr ⟨rfl,by decide,by decide,rfl⟩
  refine ⟨_,hok,fun π hπ => ?_⟩
  have hinserted : nestedLoads.Inserted "$import" π := by
    simp only [List.mem_cons,List.not_mem_nil,or_false] at hπ
    rcases hπ with rfl | rfl | rfl
    · exact fun name => ⟨.nowhere,rfl⟩
    · exact fun name => ⟨.nowhere,rfl⟩
    · exact fun name => ⟨.nowhere,rfl⟩
  exact (inserted_resolves (by decide) hok hinserted).2

end Program

end AsyncBody
