import AsyncBody.Hook.Shadow
import AsyncBody.Proofs.EcmaScript
import Mathlib.Data.List.Basic

/-!
The analysis of shadowing against the scopes of the language: where the hook is inserted into a tree
that has no shadowed use, no scope of the tree binds its name.
-/
namespace AsyncBody

open Scope
open Node (Place)

namespace Hook

open Node

/-- Whether the analysis of shadowing takes a part of a form to stand in a scope that rebinds the
hook, if it takes the form to. -/
def shadowsAt (hook : String) (form : Form) (parts : List Node) (i : Nat) (shadowed : Bool) : Bool :=
  match form, parts, i with
  | .switchStatement, [_, cases], 1 => shadowed || cases.items.any (bindsCase hook)
  | _, _, _ => shadowed || rebinds hook form parts

theorem shadowedUsesAll_eq_nil {hook : String} {shadowed : Bool} {items : List Node} :
    shadowedUsesAll hook shadowed items = [] ↔
      ∀ item ∈ items, shadowedUses hook shadowed item = [] := by
  induction items with
  | nil => simp [shadowedUsesAll]
  | cons item rest ih => simp [shadowedUsesAll,ih]

theorem shadowedUses_switch (hook : String) (shadowed : Bool) (span : Span)
    (discriminant cases : Node) :
    shadowedUses hook shadowed (.node span .switchStatement [discriminant,cases]) =
      shadowedUses hook shadowed discriminant ++
        shadowedUses hook (shadowed || cases.items.any (bindsCase hook)) cases := by
  rw [shadowedUses]

theorem shadowedUses_node {form : Form} {parts : List Node}
    (h : ∀ discriminant cases, form = .switchStatement → parts ≠ [discriminant,cases])
    (hook : String) (shadowed : Bool) (span : Span) :
    shadowedUses hook shadowed (.node span form parts) =
      (if shadowed then (use? (.node span form parts)).toList else []) ++
        shadowedUsesAll hook (shadowed || rebinds hook form parts) parts := by
  rw [shadowedUses]
  exact fun discriminant cases hform hparts => h discriminant cases hform hparts

theorem shadowsAt_node {form : Form} {parts : List Node}
    (h : ∀ discriminant cases, form = .switchStatement → parts ≠ [discriminant,cases])
    (hook : String) (i : Nat) (shadowed : Bool) :
    shadowsAt hook form parts i shadowed = (shadowed || rebinds hook form parts) := by
  unfold shadowsAt
  split
  · exact absurd rfl (h _ _ rfl)
  · rfl

theorem shadowedUses_part {hook : String} {shadowed : Bool} {span : Span} {form : Form}
    {parts : List Node} (h : shadowedUses hook shadowed (.node span form parts) = []) (i : Nat)
    {part : Node} (hi : parts[i]? = some part) :
    shadowedUses hook (shadowsAt hook form parts i shadowed) part = [] := by
  by_cases hswitch : form = .switchStatement ∧ ∃ discriminant cases, parts = [discriminant,cases]
  · obtain ⟨rfl,discriminant,cases,rfl⟩ := hswitch
    rw [shadowedUses_switch,List.append_eq_nil_iff] at h
    match i, hi with
    | 0, hi =>
      obtain rfl := Option.some.inj hi
      have hplain : shadowsAt hook .switchStatement [discriminant,cases] 0 shadowed = shadowed :=
        Bool.or_false shadowed
      rw [hplain]
      exact h.1
    | 1, hi =>
      obtain rfl := Option.some.inj hi
      exact h.2
  · have hnot : ∀ discriminant cases, form = .switchStatement → parts ≠ [discriminant,cases] :=
      fun discriminant cases hform hparts => hswitch ⟨hform,discriminant,cases,hparts⟩
    rw [shadowedUses_node hnot,List.append_eq_nil_iff] at h
    rw [shadowsAt_node hnot]
    exact shadowedUsesAll_eq_nil.mp h.2 part (List.mem_of_getElem? hi)

theorem not_shadowed_of_use {hook : String} {shadowed : Bool} {n : Node} {u : HookUse}
    (h : shadowedUses hook shadowed n = []) (hu : use? n = some u) : shadowed = false := by
  cases n with
  | absent => cases hu
  | many items => cases hu
  | node span form parts =>
    have hnot : ∀ discriminant cases, form = .switchStatement → parts ≠ [discriminant,cases] := by
      rintro _ _ rfl
      cases hu
    rw [shadowedUses_node hnot,hu] at h
    cases shadowed with
    | false => rfl
    | true => cases (List.append_eq_nil_iff.mp h).1

theorem shadowsAt_eq_false {hook : String} {form : Form} {parts : List Node} {i : Nat}
    {shadowed : Bool} (h : shadowsAt hook form parts i shadowed = false) :
    shadowed = false ∧ shadowsAt hook form parts i false = false := by
  unfold shadowsAt at h ⊢
  split at h <;> simp_all

end Hook

def Form.scopeless : Form → Bool
  | .call _ | .member | .await | .argument _ | .object | .keyValue | .objectPattern _
  | .variableDeclaration .. | .declarator _ | .expressionStatement | .functionDeclaration .. => true
  | _ => false

theorem Scope.not_opens_of_scopeless {x : String} {span : Span} {form : Form} {parts : List Node}
    {π : List Nat} {kind : Kind} (hform : form.scopeless = true) :
    ¬ Opens x (.node span form parts) π kind := by
  have hcallable : callable? form parts = none := by
    cases form with
    | call | member | await | argument | object | keyValue | objectPattern | variableDeclaration
    | declarator | expressionStatement | functionDeclaration => rfl
    | _ => cases hform
  intro h
  cases h with
  | arguments hc | parameters hc | bodyVariables hc =>
    rw [hcallable] at hc
    cases hc
  | head hhead =>
    cases form with
    | forStatement | forInStatement | forOfStatement => cases hform
    | _ => cases hhead
  | _ => cases hform

def Form.isUnseen : Form → Bool
  | .moduleDeclaration .. | .namespaceDeclaration .. | .moduleBlock | .enumDeclaration ..
  | .classDeclaration .. | .ifStatement | .withStatement => true
  | _ => false

/-- A node opens a scope that binds a name and holds at a position inside, and the analysis of
shadowing passes over what binds the name there. -/
inductive Scope.Missed (x : String) : Node → List Nat → Prop where
  | unseen {span : Span} {form : Form} {parts : List Node} {π : List Nat} {kind : Kind}
      (hform : form.isUnseen = true) (h : Opens x (.node span form parts) π kind) :
      Missed x (.node span form parts) π
  | resource {span : Span} {form : Form} {parts : List Node} {π : List Nat}
      (hform : form.headUses parts = true) (h : Opens x (.node span form parts) π .head) :
      Missed x (.node span form parts) π
  | parameterProperty {span place : Span} {form : Form} {parts : List Node} {c : Callable}
      {accessibility : Option String} {override readonly : Bool} {params decorators pattern : Node}
      {π : List Nat} (hc : callable? form parts = some c) (hparams : params ∈ parts)
      (hmem : .node place (.parameterProperty accessibility override readonly) [decorators,pattern] ∈
        params.items) (h : Binds x pattern) (hπ : c.covers π = true) :
      Missed x (.node span form parts) π
  | labeledFunction {span place : Span} {ctxt : Nat} {statements label body : Node} {π : List Nat}
      (hmem : .node place .labeled [label,body] ∈ statements.items) (h : DeclaresFunction x body) :
      Missed x (.node span (.block ctxt) [statements]) (0::π)
  | labeledInCase {span at_ place : Span} {discriminant cases test consequent label body : Node}
      {π : List Nat} (hcase : .node at_ .switchCase [test,consequent] ∈ cases.items)
      (hmem : .node place .labeled [label,body] ∈ consequent.items) (h : DeclaresFunction x body) :
      Missed x (.node span .switchStatement [discriminant,cases]) (1::π)

namespace Node

open Hook

/-- At a position stands the hook in one tree and another name in the other. -/
def Differs (hook other : String) (n m : Node) (π : List Nat) : Prop :=
  (∃ span, n.at? π = some (identifier hook span)) ∧ ∃ span, m.at? π = some (identifier other span)

theorem differs_cons_iff {hook other : String} {n m : Node} {i : Nat} {π : List Nat} :
    Differs hook other n m (i::π) ↔
      ∃ c d, n.child? i = some c ∧ m.child? i = some d ∧ Differs hook other c d π := by
  unfold Differs
  rw [at?,at?]
  cases n.child? i with
  | none => simp
  | some c =>
    cases m.child? i with
    | none => simp
    | some d => simp

variable {hook other : String}

theorem not_differs_of_eq (hne : hook ≠ other) {n m : Node} {π : List Nat} (h : n = m) :
    ¬ Differs hook other n m π := by
  rintro ⟨⟨_,hn⟩,_,hm⟩
  rw [h] at hn
  have hid := Option.some.inj (hn.symm.trans hm)
  cases hid
  exact hne rfl

theorem differs_nil_iff {n m : Node} :
    Differs hook other n m [] ↔
      (∃ span, n = identifier hook span) ∧ ∃ span, m = identifier other span := by
  simp [Differs,at?]

theorem not_differs_form (hne : hook ≠ other) {span span' : Span} {form : Form}
    {parts parts' : List Node} :
    ¬ Differs hook other (.node span form parts) (.node span' form parts') [] := by
  rw [differs_nil_iff]
  rintro ⟨⟨_,hn⟩,_,hm⟩
  cases hn
  cases hm
  exact hne rfl

theorem getElem?_routeAll {items : List Node} {i : Nat} {c d : Node}
    (hc : (routeAll hook items).result[i]? = some c)
    (hd : (routeAll other items).result[i]? = some d) :
    ∃ item, items[i]? = some item ∧ c = (route hook item).result ∧
      d = (route other item).result := by
  rw [routeAll_result,List.getElem?_map,Option.map_eq_some_iff] at hc hd
  obtain ⟨item,hitem,rfl⟩ := hc
  obtain ⟨_,hitem',rfl⟩ := hd
  obtain rfl := Option.some.inj (hitem.symm.trans hitem')
  exact ⟨item,hitem,rfl,rfl⟩

theorem differs_many_cases {items : List Node} {π : List Nat} (h : Differs hook other
    (.many (routeAll hook items).result) (.many (routeAll other items).result) π) :
    ∃ i σ item, π = i::σ ∧ items[i]? = some item ∧
      (routeAll hook items).result[i]? = some (route hook item).result ∧
      Differs hook other (route hook item).result (route other item).result σ := by
  cases π with
  | nil =>
    obtain ⟨⟨_,hn⟩,-⟩ := differs_nil_iff.mp h
    cases hn
  | cons i σ =>
    obtain ⟨c,d,hc,hd,hσ⟩ := differs_cons_iff.mp h
    obtain ⟨item,hitem,rfl,rfl⟩ := getElem?_routeAll hc hd
    exact ⟨i,σ,item,rfl,hitem,hc,hσ⟩

theorem eq_nil_of_differs_first {span place : Span} {form : Form} {parts : List Node} {m : Node}
    {σ : List Nat}
    (h : Differs hook other (.node span form (identifier hook place::parts)) m (0::σ)) : σ = [] := by
  obtain ⟨_,_,hc,-,hσ⟩ := differs_cons_iff.mp h
  obtain rfl := Option.some.inj hc
  cases σ with
  | nil => rfl
  | cons j τ =>
    obtain ⟨_,_,hj,-⟩ := differs_cons_iff.mp hσ
    cases hj

section Inserted

variable {span : Span} {parts : List Node} {π : List Nat} (hne : hook ≠ other)

include hne

/-- Into a form that is no use, the hook is inserted inside a part. -/
theorem differs_form_cases {form : Form} (h : Differs hook other
    (.node span form (routeAll hook parts).result) (.node span form (routeAll other parts).result) π) :
    ∃ i σ part, π = i::σ ∧ parts[i]? = some part ∧
      (routeAll hook parts).result[i]? = some (route hook part).result ∧
      Differs hook other (route hook part).result (route other part).result σ := by
  cases π with
  | nil => exact absurd h (not_differs_form hne)
  | cons i σ =>
    obtain ⟨c,d,hc,hd,hσ⟩ := differs_cons_iff.mp h
    obtain ⟨part,hpart,rfl,rfl⟩ := getElem?_routeAll hc hd
    exact ⟨i,σ,part,rfl,hpart,hc,hσ⟩

/-- Into an import that is called, it is inserted as the callee, or inside what follows. -/
theorem differs_call_cases {ctxt : Nat} {place : Span} (h : Differs hook other
    (.node span (.call ctxt) (identifier hook place::(routeAll hook parts).result))
    (.node span (.call ctxt) (identifier other place::(routeAll other parts).result)) π) :
    π = [0] ∨ ∃ i σ part, π = (i+1)::σ ∧ parts[i]? = some part ∧
      (routeAll hook parts).result[i]? = some (route hook part).result ∧
      Differs hook other (route hook part).result (route other part).result σ := by
  match π, h with
  | [], h => exact absurd h (not_differs_form hne)
  | 0::σ, h => exact .inl (congrArg _ (eq_nil_of_differs_first h))
  | (i+1)::σ, h =>
    obtain ⟨c,d,hc,hd,hσ⟩ := differs_cons_iff.mp h
    obtain ⟨part,hpart,rfl,rfl⟩ := getElem?_routeAll hc hd
    exact .inr ⟨i,σ,part,rfl,hpart,hc,hσ⟩

theorem differs_metaRead (h : Differs hook other (metaRead hook span) (metaRead other span) π) :
    π = [0] := by
  match π, h with
  | [], h => exact absurd h (not_differs_form hne)
  | 0::σ, h => exact congrArg _ (eq_nil_of_differs_first h)
  | 1::σ, h =>
    obtain ⟨_,_,hc,hd,hσ⟩ := differs_cons_iff.mp h
    obtain rfl := Option.some.inj hc
    obtain rfl := Option.some.inj hd
    exact absurd hσ (not_differs_of_eq hne rfl)

theorem differs_route_cases {form : Form}
    (h : Differs hook other (route hook (.node span form parts)).result
      (route other (.node span form parts)).result π) :
    ((∃ u, use? (.node span form parts) = some u) ∧ π = [0]) ∨
      ∃ i σ part, π = i::σ ∧ parts[i]? = some part ∧
        (route hook (.node span form parts)).result.child? i = some (route hook part).result ∧
        Differs hook other (route hook part).result (route other part).result σ := by
  obtain ⟨hr,hnone⟩ | ⟨ctxt,place,inner,rest,rfl,rfl,hr⟩ | ⟨rfl,hr⟩ :=
    route_node_cases hook span form parts
  · rw [hr,route_eq_of_none hnone] at h
    rw [hr]
    exact .inr (differs_form_cases hne h)
  · rw [hr] at h
    obtain rfl | ⟨i,σ,part,rfl,hpart,hchild,hσ⟩ := differs_call_cases hne h
    · exact .inl ⟨⟨_,rfl⟩,rfl⟩
    · rw [hr]
      exact .inr ⟨i+1,σ,part,rfl,hpart,hchild,hσ⟩
  · rw [hr] at h
    exact .inl ⟨⟨_,rfl⟩,differs_metaRead hne h⟩

end Inserted

/-- Where the hook is inserted, no scope around rebinds it. -/
theorem not_shadowed_of_differs (hne : hook ≠ other) {n : Node} {shadowed : Bool} {π : List Nat}
    (huses : shadowedUses hook shadowed n = [])
    (h : Differs hook other (route hook n).result (route other n).result π) : shadowed = false := by
  induction n using Node.induction generalizing shadowed π with
  | absent => exact absurd h (not_differs_of_eq hne rfl)
  | many items ih =>
    obtain ⟨i,σ,item,rfl,hitem,-,hσ⟩ := differs_many_cases h
    have hmem := List.mem_of_getElem? hitem
    rw [shadowedUses] at huses
    exact ih item hmem (shadowedUsesAll_eq_nil.mp huses item hmem) hσ
  | node span form parts ih =>
    obtain ⟨⟨u,hu⟩,-⟩ | ⟨i,σ,part,-,hpart,-,hσ⟩ := differs_route_cases hne h
    · exact not_shadowed_of_use huses hu
    · have hpartUses := shadowedUses_part huses i hpart
      exact (shadowsAt_eq_false (ih part (List.mem_of_getElem? hpart) hpartUses hσ)).1

def isClass (hook : String) : Node → Bool
  | .node _ (.classDeclaration name false) _ => name.name == hook
  | _ => false

def declaresClass (hook : String) : Node → Bool
  | .node _ .exportDeclaration [declaration] => declaration.isClass hook
  | statement => statement.isClass hook

/-- What the scope around a tree at a place binds of what the tree declares is not the hook. -/
def Clear (hook : String) : Place → Node → Prop
  | .statements, n => n.items.any (bindsAsDeclaration hook) = false
  | .cases, n => n.items.any (bindsCase hook) = false
  | .case, n => bindsCase hook n = false
  | .statement, n => n.declaresClass hook = false
  | .item, n => n.declaresClass hook = false
  | .default, _ => True
  | .elsewhere, _ => True

theorem declaresClass_of_binds {n : Node} (h : bindsAsDeclaration hook n = false)
    (hexport : ∀ span parts, n ≠ .node span .exportDeclaration parts) :
    n.declaresClass hook = false := by
  unfold declaresClass
  split
  · exact absurd rfl (hexport _ _)
  · unfold isClass
    split
    · simpa [bindsAsDeclaration,namesIn,declaredIdents] using h
    · rfl

theorem Clear.part {span : Span} {form : Form} {parts : List Node} {place : Place}
    (h : Clear hook place (.node span form parts))
    (hscript : (node span form parts).ecmaScript place = true) {i : Nat} {part : Node}
    (hi : parts[i]? = some part) (hshadows : shadowsAt hook form parts i false = false) :
    Clear hook (form.placeOf parts.length i) part := by
  obtain ⟨hfits,-,hparts⟩ := ecmaScript_node_iff.mp hscript
  have hpart := hparts i part hi
  generalize hcount : parts.length = count at hpart ⊢
  unfold Form.placeOf at hpart ⊢
  split
  · obtain ⟨only,rfl⟩ := List.length_eq_one_iff.mp hcount
    obtain rfl := Option.some.inj hi
    exact hshadows
  · obtain ⟨discriminant,cases,rfl⟩ := List.length_eq_two.mp hcount
    obtain rfl := Option.some.inj hi
    exact hshadows
  · obtain ⟨test,consequent,rfl⟩ := List.length_eq_two.mp hcount
    obtain rfl := Option.some.inj hi
    obtain rfl : place = .case := by simpa [Form.fits] using hfits
    exact h
  · obtain ⟨only,rfl⟩ := List.length_eq_one_iff.mp hcount
    obtain rfl := Option.some.inj hi
    obtain rfl : place = .item := by simpa [Form.fits] using hfits
    show only.declaresClass hook = false
    unfold declaresClass
    split
    · cases (ecmaScript_node_iff.mp hpart).1
    · exact h
  · trivial
  · trivial

theorem not_declaresFunction_elsewhere {x : String} {n : Node}
    (hscript : n.ecmaScript .elsewhere = true) : ¬ DeclaresFunction x n := by
  intro h
  induction h with
  | function => cases (ecmaScript_node_iff.mp hscript).1
  | labeled _ ih => exact ih ((ecmaScript_node_iff.mp hscript).2.2 1 _ rfl)

theorem namesIn_iff {ids : List Ident} : namesIn ids hook = true ↔ hook ∈ ids.map (·.name) := by
  simp [namesIn]

/-- What a statement declares, the analysis sees, except for labelled functions. -/
theorem bindsAsDeclaration_or_labeled {n : Node} (h : Declares hook n) :
    bindsAsDeclaration hook n = true ∨
      ∃ span label body, n = .node span .labeled [label,body] ∧ DeclaresFunction hook body := by
  refine h.mem_valueNames.imp_left fun hnames => ?_
  rw [valueNames] at hnames
  split at hnames
  · exact namesIn_iff.mpr hnames
  · cases hnames

theorem bindsPattern_of_binds {pattern : Node} (h : Binds hook pattern) :
    bindsPattern hook pattern = true := namesIn_iff.mpr h.mem_boundIdents

theorem bindsBody_of_varDeclares {body : Node} (h : VarDeclares hook body) :
    bindsBody hook body = true :=
  List.contains_iff_mem.mpr (mem_collectedVars_of_hoistedVars h.mem_hoistedVars)

theorem ecmaScript_item {place inner : Place} {n item : Node} (hplace : place.ofItems? = some inner)
    (hscript : n.ecmaScript place = true) (hitem : item ∈ n.items) :
    item.ecmaScript inner = true := by
  cases n with
  | absent => cases hitem
  | node => cases hitem
  | many items =>
    rw [ecmaScript,hplace] at hscript
    exact ecmaScriptAll_iff.mp hscript item hitem

/-- Of the parameters that bind a name, the analysis sees all but parameter properties. -/
theorem bindsParameter_or_property {params pattern : Node}
    (hmem : pattern ∈ params.items.filterMap parameterPattern?) (h : Binds hook pattern) :
    params.items.any (bindsParameter hook) = true ∨
      ∃ span accessibility override readonly decorators,
        .node span (.parameterProperty accessibility override readonly) [decorators,pattern] ∈
          params.items := by
  obtain ⟨param,hparam,hpattern⟩ := List.mem_filterMap.mp hmem
  unfold parameterPattern? at hpattern
  split at hpattern
  · obtain rfl := Option.some.inj hpattern
    exact .inl (List.any_eq_true.mpr ⟨_,hparam,bindsPattern_of_binds h⟩)
  · obtain rfl := Option.some.inj hpattern
    exact .inr ⟨_,_,_,_,_,hparam⟩
  · cases hpattern

theorem Clear.item {place inner : Place} {items : List Node} {item : Node}
    (h : Clear hook place (.many items)) (hplace : place.ofItems? = some inner)
    (hscript : item.ecmaScript inner = true) (hitem : item ∈ items) : Clear hook inner item := by
  cases place with
  | statements =>
    obtain rfl := Option.some.inj hplace
    have hbinds : bindsAsDeclaration hook item = false := by
      have hall := List.any_eq_false.mp h item hitem
      simpa using hall
    refine declaresClass_of_binds hbinds ?_
    rintro span parts rfl
    cases (ecmaScript_node_iff.mp hscript).1
  | cases =>
    obtain rfl := Option.some.inj hplace
    have hall := List.any_eq_false.mp h item hitem
    simpa [Clear] using hall
  | elsewhere =>
    obtain rfl := Option.some.inj hplace
    trivial
  | item | statement | case | default => cases hplace

theorem shadowsAt_of_rebinds {form : Form} {parts : List Node} (i : Nat)
    (h : rebinds hook form parts = true) : shadowsAt hook form parts i false = true := by
  rw [shadowsAt_node,h]
  · rfl
  · rintro _ _ rfl
    cases h

theorem rebinds_or_property {form : Form} {parts : List Node} {c : Callable}
    (hc : callable? form parts = some c) {pattern : Node} (hmem : pattern ∈ c.patterns)
    (h : Binds hook pattern) : rebinds hook form parts = true ∨
      ∃ params ∈ parts, ∃ span accessibility override readonly decorators,
        .node span (.parameterProperty accessibility override readonly) [decorators,pattern] ∈
          params.items := by
  unfold callable? at hc
  split at hc
  · obtain rfl := Option.some.inj hc
    refine (bindsParameter_or_property hmem h).imp (fun hbinds => ?_) fun hproperty => ?_
    · exact Bool.or_eq_true_iff.mpr (.inl hbinds)
    · exact ⟨_,List.mem_cons_self,hproperty⟩
  · obtain rfl := Option.some.inj hc
    refine .inl (Bool.or_eq_true_iff.mpr (.inl ?_))
    exact namesIn_iff.mpr (mem_boundIdents_of_item hmem h.mem_boundIdents)
  · obtain rfl := Option.some.inj hc
    refine (bindsParameter_or_property hmem h).imp (fun hbinds => ?_) fun hproperty => ?_
    · exact Bool.or_eq_true_iff.mpr (.inl hbinds)
    · exact ⟨_,List.mem_cons_of_mem _ List.mem_cons_self,hproperty⟩
  · obtain rfl := Option.some.inj hc
    cases hmem
  · obtain rfl := Option.some.inj hc
    obtain rfl := List.mem_singleton.mp hmem
    exact .inl (Bool.or_eq_true_iff.mpr (.inl (bindsPattern_of_binds h)))
  · obtain rfl := Option.some.inj hc
    cases hmem
  · cases hc

theorem rebinds_of_body {form : Form} {parts : List Node} {c : Callable}
    (hc : callable? form parts = some c) (h : VarDeclares hook c.body) :
    rebinds hook form parts = true := by
  have hbody := bindsBody_of_varDeclares h
  unfold callable? at hc
  split at hc
  iterate 3
    · obtain rfl := Option.some.inj hc
      exact Bool.or_eq_true_iff.mpr (.inr hbody)
  · obtain rfl := Option.some.inj hc
    exact hbody
  · obtain rfl := Option.some.inj hc
    exact Bool.or_eq_true_iff.mpr (.inr hbody)
  · obtain rfl := Option.some.inj hc
    exact hbody
  · cases hc

theorem rebinds_or_resource {form : Form} {parts : List Node} {head : Node}
    (h : head? form parts = some head) (hdeclares : DeclaresLexically hook head) :
    rebinds hook form parts = true ∨ form.headUses parts = true := by
  cases hdeclares with
  | letOrConst hkind hbinds =>
    left
    have hnames := namesIn_iff.mpr hbinds.mem_declaratorIdents
    unfold head? at h
    split at h
    iterate 3
      · obtain rfl := Option.some.inj h
        exact Bool.and_eq_true_iff.mpr ⟨bne_iff_ne.mpr hkind,hnames⟩
    · cases h
  | usingDeclaration =>
    right
    rw [Form.headUses,h]
    rfl

/-- A scope that binds the hook where it opens is one that the analysis takes to rebind it, or one
that it misses. -/
theorem shadowsAt_or_missed (harguments : hook ≠ "arguments") {span : Span} {form : Form}
    {parts : List Node} {i : Nat} {π : List Nat} {kind : Kind}
    (h : Opens hook (.node span form parts) (i::π) kind) :
    shadowsAt hook form parts i false = true ∨ Missed hook (.node span form parts) (i::π) := by
  cases h with
  | arguments _ _ hx => exact absurd hx harguments
  | parameters hc hmem hbinds hπ =>
    obtain hrebinds | ⟨params,hparams,_,_,_,_,_,hproperty⟩ := rebinds_or_property hc hmem hbinds
    · exact .inl (shadowsAt_of_rebinds i hrebinds)
    · exact .inr (.parameterProperty hc hparams hproperty hbinds hπ)
  | bodyVariables hc _ hvars => exact .inl (shadowsAt_of_rebinds _ (rebinds_of_body hc hvars))
  | block hmem hdeclares =>
    obtain hbinds | ⟨_,_,_,rfl,hfunction⟩ := bindsAsDeclaration_or_labeled hdeclares
    · exact .inl (shadowsAt_of_rebinds 0 (List.any_eq_true.mpr ⟨_,hmem,hbinds⟩))
    · exact .inr (.labeledFunction hmem hfunction)
  | @switch _ _ _ cases _ _ _ _ hcase hmem hdeclares =>
    obtain hbinds | ⟨_,_,_,rfl,hfunction⟩ := bindsAsDeclaration_or_labeled hdeclares
    · have hcases : cases.items.any (bindsCase hook) = true :=
        List.any_eq_true.mpr ⟨_,hcase,List.any_eq_true.mpr ⟨_,hmem,hbinds⟩⟩
      exact .inl hcases
    · exact .inr (.labeledInCase hcase hmem hfunction)
  | functionName hx =>
    exact .inl (shadowsAt_of_rebinds i (namesIn_iff.mpr (List.mem_singleton.mpr hx.symm)))
  | className hx =>
    exact .inl (shadowsAt_of_rebinds 0 (namesIn_iff.mpr (List.mem_singleton.mpr hx.symm)))
  | caught hbinds => exact .inl (shadowsAt_of_rebinds i (bindsPattern_of_binds hbinds))
  | head hfound hdeclares =>
    obtain hrebinds | huses := rebinds_or_resource hfound hdeclares
    · exact .inl (shadowsAt_of_rebinds i hrebinds)
    · exact .inr (.resource huses (.head hfound hdeclares))
  | branch hbranch hdeclares => exact .inr (.unseen rfl (.branch hbranch hdeclares))
  | declaredClassName hx hi => exact .inr (.unseen rfl (.declaredClassName hx hi))
  | namespaceBody hmem hdeclares => exact .inr (.unseen rfl (.namespaceBody hmem hdeclares))
  | namespaceName hx => exact .inr (.unseen rfl (.namespaceName hx))
  | dottedName hx => exact .inr (.unseen rfl (.dottedName hx))
  | members hmem hnames => exact .inr (.unseen rfl (.members hmem hnames))
  | object => exact .inr (.unseen rfl .object)

theorem placeOf_of_callable {form : Form} {parts : List Node} {c : Callable}
    (hc : callable? form parts = some c) (count i : Nat) : form.placeOf count i = .elsewhere := by
  unfold callable? at hc
  split at hc <;> first | rfl | cases hc

/-- A tree with the scopes of ECMAScript in strict mode opens none that is missed. -/
theorem not_missed_of_ecmaScript {place : Place} {span : Span} {form : Form} {parts : List Node}
    (hscript : (node span form parts).ecmaScript place = true)
    (hclear : Clear hook place (.node span form parts)) {π : List Nat} :
    ¬ Missed hook (.node span form parts) π := by
  obtain ⟨hfits,hhead,hparts⟩ := ecmaScript_node_iff.mp hscript
  intro h
  cases h with
  | unseen hform hopens =>
    cases hopens with
    | branch hbranch hdeclares =>
      exact not_declaresFunction_elsewhere (hparts _ _ hbranch) hdeclares
    | @declaredClassName _ id _ _ _ hx =>
      have hname : (id.name == hook) = true := beq_iff_eq.mpr hx
      have hclass : (node span (.classDeclaration id false) parts).declaresClass hook = false := by
        cases place with
        | item => exact hclear
        | statement => exact hclear
        | _ => cases hfits
      exact absurd (hname.symm.trans hclass) (by decide)
    | arguments hc | parameters hc | bodyVariables hc =>
      unfold callable? at hc
      split at hc <;> first | cases hform | cases hc
    | head hfound =>
      unfold head? at hfound
      split at hfound <;> first | cases hform | cases hfound
    | namespaceBody | namespaceName | dottedName | members | object => cases hfits
    | _ => cases hform
  | resource hform => cases hform.symm.trans hhead
  | parameterProperty hc hparams hmem =>
    obtain ⟨i,hi⟩ := List.mem_iff_getElem?.mp hparams
    have hplain := hparts i _ hi
    rw [placeOf_of_callable hc] at hplain
    cases (ecmaScript_node_iff.mp (ecmaScript_item rfl hplain hmem)).1
  | labeledFunction hmem hfunction =>
    have hlabeled := ecmaScript_item rfl (hparts 0 _ rfl) hmem
    exact not_declaresFunction_elsewhere ((ecmaScript_node_iff.mp hlabeled).2.2 1 _ rfl) hfunction
  | labeledInCase hcase hmem hfunction =>
    have hitem := ecmaScript_item rfl (hparts 1 _ rfl) hcase
    have hlabeled := ecmaScript_item rfl ((ecmaScript_node_iff.mp hitem).2.2 1 _ rfl) hmem
    exact not_declaresFunction_elsewhere ((ecmaScript_node_iff.mp hlabeled).2.2 1 _ rfl) hfunction

/-- A scope of such a tree that binds the hook where it opens is one that the analysis takes to
rebind it. -/
theorem shadowsAt_of_opens (harguments : hook ≠ "arguments") {place : Place} {span : Span}
    {form : Form} {parts : List Node} (hscript : (node span form parts).ecmaScript place = true)
    (hclear : Clear hook place (.node span form parts)) {i : Nat} {π : List Nat} {kind : Kind}
    (h : Opens hook (.node span form parts) (i::π) kind) :
    shadowsAt hook form parts i false = true :=
  (shadowsAt_or_missed harguments h).resolve_right (not_missed_of_ecmaScript hscript hclear)

section Routing

variable (hook name : String)

theorem bindsPattern_route (n : Node) :
    bindsPattern hook (route name n).result = bindsPattern hook n := by
  rw [bindsPattern,bindsPattern,boundIdents_route]

theorem bindsBody_route (n : Node) :
    bindsBody hook (route name n).result = bindsBody hook n := by
  rw [bindsBody,bindsBody,collectedVars_route]

theorem bindsAsDeclaration_route (n : Node) :
    bindsAsDeclaration hook (route name n).result = bindsAsDeclaration hook n := by
  rw [bindsAsDeclaration,bindsAsDeclaration,declaredIdents_route]

theorem bindsParameter_route (n : Node) :
    bindsParameter hook (route name n).result = bindsParameter hook n := by
  cases n with
  | absent => rfl
  | many items => rfl
  | node span form parts =>
    rw [apply_route name (bindsParameter hook) (fun _ _ _ _ => rfl) fun _ _ => rfl]
    cases form with
    | parameter =>
      match parts with
      | [] | [_] | _ :: _ :: _ :: _ => rfl
      | [_,pattern] => exact bindsPattern_route hook name pattern
    | _ => rfl

theorem bindsHead_route (n : Node) :
    bindsHead hook (route name n).result = bindsHead hook n := by
  cases n with
  | absent => rfl
  | many items => rfl
  | node span form parts =>
    rw [apply_route name (bindsHead hook) (fun _ _ _ _ => rfl) fun _ _ => rfl]
    cases form with
    | variableDeclaration ctxt kind declare =>
      match parts with
      | [] | _ :: _ :: _ => rfl
      | [declarators] =>
        show (kind != .var && namesIn (route name declarators).result.declaratorIdents hook) = _
        rw [declaratorIdents_route]
        rfl
    | _ => rfl

theorem bindsCase_route (n : Node) :
    bindsCase hook (route name n).result = bindsCase hook n := by
  cases n with
  | absent => rfl
  | many items => rfl
  | node span form parts =>
    rw [apply_route name (bindsCase hook) (fun _ _ _ _ => rfl) fun _ _ => rfl]
    cases form with
    | switchCase =>
      match parts with
      | [] | [_] | _ :: _ :: _ :: _ => rfl
      | [_,consequent] => exact any_items_route name (bindsAsDeclaration_route hook name) consequent
    | _ => rfl

theorem isClass_route (n : Node) : (route name n).result.isClass hook = n.isClass hook := by
  cases n with
  | absent => rfl
  | many items => rfl
  | node span form parts =>
    rw [apply_route name (isClass hook) (fun _ _ _ _ => rfl) fun _ _ => rfl]
    cases form with
    | classDeclaration _ declare => cases declare <;> rfl
    | _ => rfl

theorem declaresClass_route (n : Node) :
    (route name n).result.declaresClass hook = n.declaresClass hook := by
  have h := isClass_route hook name n
  cases n with
  | absent => rfl
  | many items => rfl
  | node span form parts =>
    rw [apply_route name (declaresClass hook) (fun _ _ _ _ => rfl) fun _ _ => rfl]
    cases form with
    | exportDeclaration =>
      match parts with
      | [] | _ :: _ :: _ => rfl
      | [declaration] => exact isClass_route hook name declaration
    | call | metaProperty => rfl
    | _ => exact h

theorem rebinds_route (form : Form) (parts : List Node) :
    rebinds hook form (routeAll name parts).result = rebinds hook form parts := by
  have hparams (n : Node) := any_items_route name (bindsParameter_route hook name) n
  have hpattern := bindsPattern_route hook name
  have hbody := bindsBody_route hook name
  cases form with
  | function =>
    match parts with
    | [] | [_] | [_,_] => rfl
    | params :: _ :: body :: _ => exact congrArg₂ (· || ·) (hparams params) (hbody body)
  | arrow =>
    match parts with
    | [] | [_] => rfl
    | params :: body :: _ => exact congrArg₂ (· || ·) (hpattern params) (hbody body)
  | constructor =>
    match parts with
    | [] | [_] | [_,_] => rfl
    | _ :: params :: body :: _ => exact congrArg₂ (· || ·) (hparams params) (hbody body)
  | getter =>
    match parts with
    | [] | [_] | [_,_] | _ :: _ :: _ :: _ :: _ => rfl
    | [_,_,body] => exact hbody body
  | setter =>
    match parts with
    | [] | [_] | [_,_] | [_,_,_] | _ :: _ :: _ :: _ :: _ :: _ => rfl
    | [_,_,param,body] => exact congrArg₂ (· || ·) (hpattern param) (hbody body)
  | staticBlock =>
    match parts with
    | [] | _ :: _ :: _ => rfl
    | [body] => exact hbody body
  | block =>
    match parts with
    | [] | _ :: _ :: _ => rfl
    | [statements] => exact any_items_route name (bindsAsDeclaration_route hook name) statements
  | catchClause =>
    cases parts with
    | nil => rfl
    | cons param rest => exact hpattern param
  | forStatement | forInStatement | forOfStatement =>
    cases parts with
    | nil => rfl
    | cons head rest => exact bindsHead_route hook name head
  | _ => rfl

theorem shadowsAt_route (form : Form) (parts : List Node) (i : Nat) (shadowed : Bool) :
    shadowsAt hook form (routeAll name parts).result i shadowed =
      shadowsAt hook form parts i shadowed := by
  by_cases hswitch : form = .switchStatement ∧ ∃ discriminant cases, parts = [discriminant,cases]
  · obtain ⟨rfl,discriminant,cases,rfl⟩ := hswitch
    match i with
    | 0 => rfl
    | 1 => exact congrArg (shadowed || ·) (any_items_route name (bindsCase_route hook name) cases)
    | _ + 2 => rfl
  · have hnot : ∀ discriminant cases, form = .switchStatement → parts ≠ [discriminant,cases] :=
      fun discriminant cases hform hparts => hswitch ⟨hform,discriminant,cases,hparts⟩
    have hrouted : ∀ discriminant cases, form = .switchStatement →
        (routeAll name parts).result ≠ [discriminant,cases] := by
      intro discriminant cases hform hparts
      have hlength := congrArg List.length hparts
      rw [routeAll_result,List.length_map] at hlength
      obtain ⟨a,b,rfl⟩ := List.length_eq_two.mp hlength
      exact hnot a b hform rfl
    rw [shadowsAt_node hnot,shadowsAt_node hrouted,rebinds_route]

theorem Clear.route {place : Place} {n : Node} (h : Clear hook place n) :
    Clear hook place (route name n).result := by
  cases place with
  | statements => exact (any_items_route name (bindsAsDeclaration_route hook name) n).trans h
  | cases => exact (any_items_route name (bindsCase_route hook name) n).trans h
  | case => exact (bindsCase_route hook name n).trans h
  | statement => exact (declaresClass_route hook name n).trans h
  | item => exact (declaresClass_route hook name n).trans h
  | default => trivial
  | elsewhere => trivial

end Routing

theorem opens_route {x : String} {span : Span} {form : Form} {parts : List Node} {π : List Nat}
    {kind : Kind} (h : Opens x (route hook (.node span form parts)).result π kind) :
    use? (.node span form parts) = none ∧
      (route hook (.node span form parts)).result = .node span form (routeAll hook parts).result := by
  obtain ⟨hr,hu⟩ | ⟨_,_,_,_,-,-,hr⟩ | ⟨-,hr⟩ := route_node_cases hook span form parts
  · exact ⟨hu,hr⟩
  · rw [hr] at h
    exact absurd h (not_opens_of_scopeless rfl)
  · rw [hr] at h
    exact absurd h (not_opens_of_scopeless rfl)

/-- Inside a tree without shadowed uses, no scope binds the hook around a place where it is
inserted. -/
theorem not_boundWithin_route (hne : hook ≠ other) (harguments : hook ≠ "arguments") {n : Node}
    {place : Place} {shadowed : Bool} {π : List Nat} (hscript : n.ecmaScript place = true)
    (hclear : Clear hook place n) (huses : shadowedUses hook shadowed n = [])
    (h : Differs hook other (route hook n).result (route other n).result π) :
    ¬ BoundWithin hook (route hook n).result π := by
  induction n using Node.induction generalizing place shadowed π with
  | absent => exact absurd h (not_differs_of_eq hne rfl)
  | many items ih =>
    obtain ⟨i,σ,item,rfl,hitem,hc,hσ⟩ := differs_many_cases h
    have hmem := List.mem_of_getElem? hitem
    rw [shadowedUses] at huses
    have hitemUses := shadowedUsesAll_eq_nil.mp huses item hmem
    cases hplace : place.ofItems? with
    | none => simp [ecmaScript,hplace] at hscript
    | some inner =>
      have hinner : item.ecmaScript inner = true := ecmaScript_item hplace hscript hmem
      have hitemBound := ih item hmem hinner (hclear.item hplace hinner hmem) hitemUses hσ
      rw [boundWithin_cons_iff]
      rintro (⟨_,hopens⟩ | ⟨c,hc',hbound⟩)
      · cases hopens
      · obtain rfl := Option.some.inj (hc.symm.trans hc')
        exact hitemBound hbound
  | node span form parts ih =>
    obtain ⟨⟨u,hu⟩,rfl⟩ | ⟨i,σ,part,rfl,hpart,hchild,hσ⟩ := differs_route_cases hne h
    · rw [boundWithin_cons_iff]
      rintro (⟨_,hopens⟩ | ⟨_,-,hbound⟩)
      · rw [(opens_route hopens).1] at hu
        cases hu
      · exact not_boundWithin_nil hbound
    · have hpartUses := shadowedUses_part huses i hpart
      have hshadows := (shadowsAt_eq_false (not_shadowed_of_differs hne hpartUses hσ)).2
      have hpartScript := (ecmaScript_node_iff.mp hscript).2.2 i part hpart
      have hpartBound := ih part (List.mem_of_getElem? hpart) hpartScript
        (hclear.part hscript hpart hshadows) hpartUses hσ
      rw [boundWithin_cons_iff]
      rintro (⟨_,hopens⟩ | ⟨c,hc',hbound⟩)
      · have hrouted := (opens_route hopens).2
        have hscript' := ecmaScript_route hook hscript
        have hclear' := hclear.route hook hook
        rw [hrouted] at hopens hscript' hclear'
        have hrebinds := shadowsAt_of_opens harguments hscript' hclear' hopens
        rw [shadowsAt_route,hshadows] at hrebinds
        cases hrebinds
      · obtain rfl := Option.some.inj (hchild.symm.trans hc')
        exact hpartBound hbound

end Node

end AsyncBody