import AsyncBody.Proofs.Placement
import AsyncBody.Proofs.ReturnedNames
import AsyncBody.Proofs.UnseenScopes

/-!
What a refusal for a shadowed hook means: at some use of the hook its name means what a nested scope
binds, or the analysis misjudges a scope around a use, for it takes a scope to hold in all of the
form that opens it, and a declaration of which nothing is left to bind its name.
-/
namespace AsyncBody

open Hook Scope

namespace Scope

variable {x : String}

inductive Takes (x : String) : Form → List Node → Prop where
  | function {place : Span} {ctxt : Nat} {generator async : Bool}
      {params decorators pattern : Node} {rest : List Node}
      (hmem : .node place .parameter [decorators,pattern] ∈ params.items) (h : Binds x pattern) :
      Takes x (.function ctxt generator async) (params::rest)
  | arrow {ctxt : Nat} {generator async : Bool} {params pattern : Node} {rest : List Node}
      (hmem : pattern ∈ params.items) (h : Binds x pattern) :
      Takes x (.arrow ctxt generator async) (params::rest)
  | constructor {place : Span} {ctxt : Nat} {accessibility : Option String} {isOptional : Bool}
      {key params decorators pattern : Node} {rest : List Node}
      (hmem : .node place .parameter [decorators,pattern] ∈ params.items) (h : Binds x pattern) :
      Takes x (.constructor ctxt accessibility isOptional) (key::params::rest)
  | setter {key this param : Node} {rest : List Node} (h : Binds x param) :
      Takes x .setter (key::this::param::rest)

/-- A declaration introduces a name, but nothing of it is left once types are erased. -/
def DeclaresErased (x : String) (n : Node) : Prop :=
  x ∈ n.declaredIdents.map (·.name) ∧ (Node.Erased n ∨ n.isSignature = true)

/-- A scope of a node is taken to bind a name at a position inside, where it does not: the scope
does not hold there, or the declaration is erased. -/
inductive Misjudged (x : String) : Node → List Nat → Prop where
  | parameters {span : Span} {form : Form} {parts : List Node} {c : Callable} {π : List Nat}
      (hc : callable? form parts = some c) (h : Takes x form parts) (hπ : c.covers π = false) :
      Misjudged x (.node span form parts) π
  | bodyVariables {span : Span} {form : Form} {parts : List Node} {c : Callable} {i : Nat}
      {π : List Nat} (hc : callable? form parts = some c) (h : VarDeclares x c.body)
      (hi : i ≠ c.bodyIndex) : Misjudged x (.node span form parts) (i :: π)
  | className {span : Span} {id : Ident} {parts : List Node} {π : List Nat} (hx : id.name = x)
      (hπ : ∀ i σ, π = 0 :: i :: σ → i = 0) :
      Misjudged x (.node span (.classExpression (some id)) parts) π
  | block {span : Span} {ctxt : Nat} {statements statement : Node} {π : List Nat}
      (hmem : statement ∈ statements.items) (h : DeclaresErased x statement) :
      Misjudged x (.node span (.block ctxt) [statements]) (0 :: π)
  | switch {span place : Span} {discriminant cases test consequent statement : Node} {π : List Nat}
      (hcase : .node place .switchCase [test,consequent] ∈ cases.items)
      (hmem : statement ∈ consequent.items) (h : DeclaresErased x statement) :
      Misjudged x (.node span .switchStatement [discriminant,cases]) (1 :: π)
  | head {span place : Span} {form : Form} {parts : List Node} {ctxt : Nat} {kind : VariableKind}
      {declarators : Node} {i : Nat} {π : List Nat}
      (hhead : head? form parts =
        some (.node place (.variableDeclaration ctxt kind true) [declarators]))
      (hkind : kind ≠ .var) (h : BindsDeclarator x declarators) :
      Misjudged x (.node span form parts) (i :: π)

inductive MisjudgedWithin (x : String) : Node → List Nat → Prop where
  | here {n : Node} {π : List Nat} (h : Misjudged x n π) : MisjudgedWithin x n π
  | inside {n c : Node} {i : Nat} {π : List Nat} (hc : n.child? i = some c)
      (h : MisjudgedWithin x c π) : MisjudgedWithin x n (i :: π)

theorem Kind.depth_le (kind : Kind) : kind.depth ≤ 8 := by
  cases kind <;> decide

/-- Of the scopes that a node opens at a position, one lies inside all others. -/
theorem Opens.exists_deepest {n : Node} {π : List Nat} {kind : Kind} (h : Opens x n π kind) :
    ∃ deepest, Opens x n π deepest ∧ ∀ inner, Opens x n π inner → inner.depth ≤ deepest.depth := by
  by_contra hnone
  push Not at hnone
  have hdeeper : ∀ d, ∃ kind, Opens x n π kind ∧ d ≤ kind.depth := by
    intro d
    induction d with
    | zero => exact ⟨kind,h,Nat.zero_le _⟩
    | succ d ih =>
      obtain ⟨kind,hopens,hd⟩ := ih
      obtain ⟨inner,hinner,hlt⟩ := hnone kind hopens
      exact ⟨inner,hinner,by omega⟩
  obtain ⟨kind,-,hkind⟩ := hdeeper 9
  exact absurd (Nat.le_trans hkind kind.depth_le) (by decide)

/-- A scope that binds a name around a position makes the name mean something there. -/
theorem BoundWithin.resolves {n m : Node} {π : List Nat} (h : BoundWithin x n π)
    (hm : n.at? π = some m) : ∃ ρ kind, Resolves x n π ρ kind := by
  induction π generalizing n with
  | nil => exact absurd h not_boundWithin_nil
  | cons i π ih =>
    obtain ⟨c,hc,hm⟩ := Node.at?_cons_iff.mp hm
    by_cases hinside : BoundWithin x c π
    · obtain ⟨ρ,kind,hresolves⟩ := ih hinside hm
      exact ⟨_,kind,.inside hc hresolves⟩
    · obtain ⟨kind,hopens⟩ : ∃ kind, Opens x n (i::π) kind := by
        rcases boundWithin_cons_iff.mp h with hopens | ⟨c',hc',hbound⟩
        · exact hopens
        · obtain rfl := Option.some.inj (hc.symm.trans hc')
          exact absurd hbound hinside
      obtain ⟨deepest,hdeepest,hinner⟩ := hopens.exists_deepest
      exact ⟨_,deepest,.here hdeepest hinner hc hinside⟩

end Scope

namespace Node

def UseAt (n : Node) (π : List Nat) : Prop := ∃ use, n.at? π = some use ∧ use.IsHookUse

theorem useAt_nil_iff {n : Node} : n.UseAt [] ↔ n.IsHookUse := by
  simp [UseAt,at?]

theorem useAt_cons_iff {n : Node} {i : Nat} {π : List Nat} :
    n.UseAt (i::π) ↔ ∃ c, n.child? i = some c ∧ c.UseAt π := by
  unfold UseAt
  rw [at?]
  cases n.child? i with
  | none => simp
  | some c => simp

theorem hasUse_iff {n : Node} : n.HasUse ↔ ∃ π, n.UseAt π := by
  constructor
  · intro h
    induction n using Node.induction with
    | absent =>
      obtain ⟨use,hmem,huse⟩ := h
      obtain rfl := List.mem_singleton.mp hmem
      cases huse
    | many items ih =>
      obtain ⟨item,hitem,huse⟩ := hasUse_many.mp h
      obtain ⟨i,hi⟩ := List.mem_iff_getElem?.mp hitem
      obtain ⟨π,hπ⟩ := ih item hitem huse
      exact ⟨i::π,useAt_cons_iff.mpr ⟨item,hi,hπ⟩⟩
    | node span form parts ih =>
      rcases hasUse_node.mp h with huse | ⟨part,hpart,huse⟩
      · exact ⟨[],useAt_nil_iff.mpr huse⟩
      · obtain ⟨i,hi⟩ := List.mem_iff_getElem?.mp hpart
        obtain ⟨π,hπ⟩ := ih part hpart huse
        exact ⟨i::π,useAt_cons_iff.mpr ⟨part,hi,hπ⟩⟩
  · rintro ⟨π,hπ⟩
    induction π generalizing n with
    | nil =>
      have huse := useAt_nil_iff.mp hπ
      cases n with
      | node => exact hasUse_node.mpr (.inl huse)
      | absent => cases huse
      | many => cases huse
    | cons i π ih =>
      obtain ⟨c,hc,hπ⟩ := useAt_cons_iff.mp hπ
      have huse := ih hπ
      cases n with
      | absent => cases hc
      | many items => exact hasUse_many.mpr ⟨c,List.mem_of_getElem? hc,huse⟩
      | node => exact hasUse_node.mpr (.inr ⟨c,List.mem_of_getElem? hc,huse⟩)

section Scopes

variable {x : String}

theorem lacksBody_or_declaresFunction (span : Span) (id : Ident) {function : Node}
    (hshape : function.shaped = true) (hplaced : function.wellPlaced .function = true) :
    function.lacksBody = true ∨
      DeclaresFunction id.name (.node span (.functionDeclaration id false) [function]) := by
  cases function with
  | absent => cases hplaced
  | many => cases hplaced
  | node place form parts =>
    cases form with
    | function =>
      have hlength := (shaped_node_iff.mp hshape).1
      obtain _ | ⟨_,_ | ⟨_,_ | ⟨body,_ | ⟨_,_ | ⟨_,_ | _⟩⟩⟩⟩⟩ := parts
      case cons.cons.cons.cons.cons.nil =>
        by_cases hbody : body.isPresent = true
        · exact .inr (.function hbody)
        · exact .inl (by simpa [lacksBody] using hbody)
      all_goals cases hlength
    | _ => cases (wellPlaced_node_iff.mp hplaced).1

theorem declares_of_declaratorIdents {span : Span} {ctxt : Nat} {kind : VariableKind}
    {declarators : Node} (h : BindsDeclarator x declarators) :
    Declares x (.node span (.variableDeclaration ctxt kind false) [declarators]) ∨
      VarDeclares x (.node span (.variableDeclaration ctxt kind false) [declarators]) := by
  by_cases hkind : kind = .var
  · subst hkind
    exact .inr (.declaration h)
  · exact .inl (.lexical (.letOrConst hkind h))

/-- What a statement is spelled to declare, it declares for the scope of its list or as a `var`, or
nothing is left of it. -/
theorem declares_of_declaredIdents {n : Node} (hshape : n.shaped = true)
    (hplaced : n.wellPlaced .statement = true) (hx : x ∈ n.declaredIdents.map (·.name)) :
    Declares x n ∨ VarDeclares x n ∨ DeclaresErased x n := by
  cases hvalue : n.leavesValue with
  | false => exact .inr (.inr ⟨hx,.inl ((leavesValue_eq_false_iff hshape).mp hvalue)⟩)
  | true =>
    cases n with
    | absent => cases hvalue
    | many => cases hx
    | node span form parts =>
      obtain ⟨hlength,hshapes⟩ := shaped_node_iff.mp hshape
      have hparts := (wellPlaced_node_iff.mp hplaced).2
      cases form with
      | classDeclaration _ declare =>
        obtain rfl : declare = false := by simpa [leavesValue] using hvalue
        obtain rfl := List.mem_singleton.mp hx
        exact .inl .classDeclaration
      | functionDeclaration id declare =>
        obtain rfl : declare = false := by simpa [leavesValue] using hvalue
        obtain ⟨function,rfl⟩ := List.length_eq_one_iff.mp hlength
        rcases lacksBody_or_declaresFunction span id (hshapes _ List.mem_cons_self)
          (hparts 0 function rfl) with hsignature | hdeclares
        · exact .inr (.inr ⟨hx,.inr hsignature⟩)
        · obtain rfl := List.mem_singleton.mp hx
          exact .inl (.function hdeclares)
      | variableDeclaration _ kind declare =>
        obtain rfl : declare = false := by simpa [leavesValue] using hvalue
        obtain ⟨declarators,rfl⟩ := List.length_eq_one_iff.mp hlength
        exact (declares_of_declaratorIdents ((mem_declaratorIdents_iff (hshapes _ List.mem_cons_self)
          (hparts 0 _ rfl)).mp hx)).imp_right .inl
      | usingDeclaration =>
        obtain ⟨declarators,rfl⟩ := List.length_eq_one_iff.mp hlength
        exact .inl (.lexical (.usingDeclaration ((mem_declaratorIdents_iff
          (hshapes _ List.mem_cons_self) (hparts 0 _ rfl)).mp hx)))
      | enumDeclaration declare isConst =>
        obtain ⟨rfl,rfl⟩ : declare = false ∧ isConst = false := by simpa [leavesValue] using hvalue
        obtain rfl := List.mem_singleton.mp hx
        exact .inl .enumDeclaration
      | moduleDeclaration declare _ _ name =>
        cases name with
        | string => cases hvalue
        | ident =>
          obtain ⟨body,rfl⟩ := List.length_eq_one_iff.mp hlength
          obtain ⟨rfl,hbody⟩ : declare = false ∧ body.leavesValue = true := by
            simpa [leavesValue] using hvalue
          obtain rfl := List.mem_singleton.mp hx
          exact .inl (.namespaceDeclaration hbody)
      | _ => cases hx

theorem exists_parameter {params : Node} (hshape : params.shaped = true)
    (hplaced : params.wellPlaced .list = true)
    (h : params.items.any (bindsParameter x) = true) :
    ∃ place decorators pattern,
      .node place .parameter [decorators,pattern] ∈ params.items ∧ Binds x pattern := by
  obtain ⟨param,hmem,hbinds⟩ := List.any_eq_true.mp h
  have hparam := wellPlaced_item hplaced rfl hmem
  have hparamShape : param.shaped = true := by
    cases params with
    | many items => exact shaped_of_mem_listed hshape hmem
    | absent => cases hmem
    | node => cases hmem
  unfold bindsParameter at hbinds
  split at hbinds
  · rename_i pattern
    refine ⟨_,_,_,hmem,?_⟩
    have hpattern : pattern.wellPlaced .one = true :=
      (wellPlaced_node_iff.mp hparam).2 1 pattern rfl
    have hpatternShape := (shaped_node_iff.mp hparamShape).2 pattern (by simp)
    exact (mem_boundIdents_iff hpatternShape hpattern).mp (namesIn_iff.mp hbinds)
  · cases hbinds

/-- The analysis takes a function to rebind a name for a parameter of it or a variable of its
body. -/
theorem takes_or_varDeclares {slot : Slot} {span : Span} {form : Form} {parts : List Node}
    {c : Callable} (hshape : (node span form parts).shaped = true)
    (hplaced : (node span form parts).wellPlaced slot = true)
    (hc : callable? form parts = some c) (h : rebinds x form parts = true) :
    Takes x form parts ∨ VarDeclares x c.body := by
  have hshapes := (shaped_node_iff.mp hshape).2
  have hparts := (wellPlaced_node_iff.mp hplaced).2
  have hvars : ∀ body ∈ parts, body.wellPlaced .statement = true → bindsBody x body = true →
      VarDeclares x body := fun body hmem hbody hbinds =>
    (mem_collectedVars_iff (hshapes body hmem) hbody).mp (List.contains_iff_mem.mp hbinds)
  unfold callable? at hc
  split at hc
  · obtain rfl := Option.some.inj hc
    rename_i params decorators body rest
    rcases Bool.or_eq_true_iff.mp h with hparams | hbody
    · obtain ⟨_,_,_,hmem,hbinds⟩ :=
        exists_parameter (hshapes params (by simp)) (hparts 0 params rfl) hparams
      exact .inl (.function hmem hbinds)
    · exact .inr (hvars body (by simp) (hparts 2 body rfl) hbody)
  · obtain rfl := Option.some.inj hc
    rename_i params body rest
    rcases Bool.or_eq_true_iff.mp h with hparams | hbody
    · obtain ⟨_,hmem,hbinds⟩ := (mem_boundIdents_list_iff (hshapes params (by simp))
        (hparts 0 params rfl)).mp (namesIn_iff.mp hparams)
      exact .inl (.arrow hmem hbinds)
    · exact .inr (hvars body (by simp) (hparts 1 body rfl) hbody)
  · obtain rfl := Option.some.inj hc
    rename_i key params body rest
    rcases Bool.or_eq_true_iff.mp h with hparams | hbody
    · obtain ⟨_,_,_,hmem,hbinds⟩ :=
        exists_parameter (hshapes params (by simp)) (hparts 1 params rfl) hparams
      exact .inl (.constructor hmem hbinds)
    · exact .inr (hvars body (by simp) (hparts 2 body rfl) hbody)
  · obtain rfl := Option.some.inj hc
    rename_i body
    exact .inr (hvars body (by simp) (hparts 2 body rfl) h)
  · obtain rfl := Option.some.inj hc
    rename_i param body
    rcases Bool.or_eq_true_iff.mp h with hparam | hbody
    · exact .inl (.setter ((mem_boundIdents_iff (hshapes param (by simp))
        (hparts 2 param rfl)).mp (namesIn_iff.mp hparam)))
    · exact .inr (hvars body (by simp) (hparts 3 body rfl) hbody)
  · obtain rfl := Option.some.inj hc
    rename_i body
    exact .inr (hvars body (by simp) (hparts 0 body rfl) h)
  · cases hc

theorem exists_pattern_of_takes {form : Form} {parts : List Node} {c : Callable}
    (hc : callable? form parts = some c) (h : Takes x form parts) :
    ∃ pattern ∈ c.patterns, Binds x pattern := by
  cases h with
  | @function _ _ _ _ params _ _ rest hmem h =>
    match rest, hc with
    | _ :: _ :: _, hc =>
      obtain rfl := Option.some.inj hc
      exact ⟨_,List.mem_filterMap.mpr ⟨_,hmem,rfl⟩,h⟩
  | @arrow _ _ _ params _ rest hmem h =>
    match rest, hc with
    | _ :: _, hc =>
      obtain rfl := Option.some.inj hc
      exact ⟨_,hmem,h⟩
  | @constructor _ _ _ _ _ params _ _ rest hmem h =>
    match rest, hc with
    | _ :: _, hc =>
      obtain rfl := Option.some.inj hc
      exact ⟨_,List.mem_filterMap.mpr ⟨_,hmem,rfl⟩,h⟩
  | @setter _ _ param rest h =>
    match rest, hc with
    | [_], hc =>
      obtain rfl := Option.some.inj hc
      exact ⟨_,List.mem_cons_self,h⟩

theorem shaped_of_mem_items {n item : Node} (h : n.shaped = true) (hitem : item ∈ n.items) :
    item.shaped = true := by
  cases n with
  | many items => exact shaped_of_mem_listed h hitem
  | absent => cases hitem
  | node => cases hitem

theorem exists_declares {statements : Node} (hshape : statements.shaped = true)
    (hplaced : statements.wellPlaced .statements = true)
    (h : statements.items.any (bindsAsDeclaration x) = true) :
    ∃ statement ∈ statements.items,
      Declares x statement ∨ VarDeclares x statement ∨ DeclaresErased x statement := by
  obtain ⟨statement,hmem,hbinds⟩ := List.any_eq_true.mp h
  exact ⟨statement,hmem,declares_of_declaredIdents (shaped_of_mem_items hshape hmem)
    (wellPlaced_item hplaced rfl hmem) (namesIn_iff.mp hbinds)⟩

theorem declaresHead {head : Node} (hshape : head.shaped = true)
    (hplaced : head.wellPlaced .statement = true) (h : bindsHead x head = true) :
    DeclaresLexically x head ∨ ∃ place ctxt kind declarators,
      head = .node place (.variableDeclaration ctxt kind true) [declarators] ∧ kind ≠ .var ∧
        BindsDeclarator x declarators := by
  unfold bindsHead at h
  split at h
  · rename_i declare declarators
    obtain ⟨hkind,hnames⟩ := Bool.and_eq_true_iff.mp h
    have hbinds : BindsDeclarator x declarators :=
      (mem_declaratorIdents_iff ((shaped_node_iff.mp hshape).2 _ List.mem_cons_self)
        ((wellPlaced_node_iff.mp hplaced).2 0 _ rfl)).mp (namesIn_iff.mp hnames)
    cases declare with
    | false => exact .inl (.letOrConst (bne_iff_ne.mp hkind) hbinds)
    | true => exact .inr ⟨_,_,_,_,rfl,bne_iff_ne.mp hkind,hbinds⟩
  · cases h

/-- The cases of a `switch` share one scope, in which a `var` of a case is passed on. -/
theorem opens_or_misjudged_switch {slot : Slot} {span : Span} {discriminant cases : Node}
    (hshape : (node span .switchStatement [discriminant,cases]).shaped = true)
    (hplaced : (node span .switchStatement [discriminant,cases]).wellPlaced slot = true)
    (h : cases.items.any (bindsCase x) = true) (π : List Nat) :
    (∃ kind, Opens x (.node span .switchStatement [discriminant,cases]) (1::π) kind) ∨
      Misjudged x (.node span .switchStatement [discriminant,cases]) (1::π) ∨
      x ∈ (node span .switchStatement [discriminant,cases]).hoistedVars := by
  have hcases : cases.wellPlaced .statements = true := (wellPlaced_node_iff.mp hplaced).2 1 _ rfl
  have hcasesShape : cases.shaped = true := (shaped_node_iff.mp hshape).2 _ (by simp)
  obtain ⟨case,hcase,hbinds⟩ := List.any_eq_true.mp h
  have hcaseShape := shaped_of_mem_items hcasesShape hcase
  have hcasePlaced := wellPlaced_item hcases rfl hcase
  unfold bindsCase at hbinds
  split at hbinds
  · rename_i consequent
    obtain ⟨statement,hmem,hdeclares | hvar | herased⟩ :=
      exists_declares ((shaped_node_iff.mp hcaseShape).2 consequent (by simp))
        ((wellPlaced_node_iff.mp hcasePlaced).2 1 _ rfl) hbinds
    · exact .inl ⟨_,.switch hcase hmem hdeclares⟩
    · refine .inr (.inr (VarDeclares.nested hcase ?_).mem_hoistedVars)
      exact .nested hmem hvar
    · exact .inr (.inl (.switch hcase hmem herased))
  · cases hbinds

theorem exists_callable {form : Form} {parts : List Node}
    (hlength : parts.length = form.layout.parts.length) (hnests : ¬ form.nestsStatements = true)
    (hholds : form.slots.any Slot.holdsStatements = true) (hblock : form ≠ .moduleBlock) :
    ∃ c, callable? form parts = some c := by
  cases form with
  | function | arrow | constructor | getter | setter | staticBlock =>
    rcases parts with _ | ⟨_,_ | ⟨_,_ | ⟨_,_ | ⟨_,_ | _⟩⟩⟩⟩
    all_goals first
      | exact ⟨_,rfl⟩
      | cases hlength
  | moduleBlock => exact absurd rfl hblock
  | _ =>
    first
      | exact absurd rfl hnests
      | cases hholds

/-- Parameters and the variables of a body are taken to be bound in all of what can be called. -/
theorem opens_or_misjudged_callable {slot : Slot} {span : Span} {form : Form} {parts : List Node}
    {c : Callable} (hshape : (node span form parts).shaped = true)
    (hplaced : (node span form parts).wellPlaced slot = true) (hc : callable? form parts = some c)
    (h : rebinds x form parts = true) (i : Nat) (π : List Nat) :
    (∃ kind, Opens x (.node span form parts) (i::π) kind) ∨
      Misjudged x (.node span form parts) (i::π) := by
  rcases takes_or_varDeclares hshape hplaced hc h with htakes | hvars
  · cases hcovers : c.covers (i::π) with
    | true =>
      obtain ⟨pattern,hmem,hbinds⟩ := exists_pattern_of_takes hc htakes
      exact .inl ⟨_,.parameters hc hmem hbinds hcovers⟩
    | false => exact .inr (.parameters hc htakes hcovers)
  · by_cases hbody : i = c.bodyIndex
    · exact .inl ⟨_,.bodyVariables hc hbody hvars⟩
    · exact .inr (.bodyVariables hc hvars hbody)

theorem opens_or_misjudged_head {slot : Slot} {span : Span} {form : Form} {rest : List Node}
    {head : Node} (hshape : (node span form (head::rest)).shaped = true)
    (hplaced : (node span form (head::rest)).wellPlaced slot = true)
    (hslot : form.slot 0 = .statement) (hhead : head? form (head::rest) = some head)
    (h : bindsHead x head = true) (i : Nat) (π : List Nat) :
    (∃ kind, Opens x (.node span form (head::rest)) (i::π) kind) ∨
      Misjudged x (.node span form (head::rest)) (i::π) := by
  have hheadPlaced := hslot ▸ (wellPlaced_node_iff.mp hplaced).2 0 head rfl
  have hheadShape := (shaped_node_iff.mp hshape).2 head List.mem_cons_self
  rcases declaresHead hheadShape hheadPlaced h with hlexical | ⟨_,_,_,_,rfl,hkind,hdeclares⟩
  · exact .inl ⟨_,.head hhead hlexical⟩
  · exact .inr (.head hhead hkind hdeclares)

/-- A declaration in a block binds there, passes its name on by a `var`, or is erased. -/
theorem opens_or_misjudged_block {slot : Slot} {span : Span} {ctxt : Nat} {statements : Node}
    (hshape : (node span (.block ctxt) [statements]).shaped = true)
    (hplaced : (node span (.block ctxt) [statements]).wellPlaced slot = true)
    (h : statements.items.any (bindsAsDeclaration x) = true) (π : List Nat) :
    (∃ kind, Opens x (.node span (.block ctxt) [statements]) (0::π) kind) ∨
      Misjudged x (.node span (.block ctxt) [statements]) (0::π) ∨
      x ∈ (node span (.block ctxt) [statements]).hoistedVars := by
  obtain ⟨statement,hmem,hdeclares | hvar | herased⟩ :=
    exists_declares ((shaped_node_iff.mp hshape).2 _ List.mem_cons_self)
      ((wellPlaced_node_iff.mp hplaced).2 0 _ rfl) h
  · exact .inl ⟨_,.block hmem hdeclares⟩
  · exact .inr (.inr (VarDeclares.nested hmem hvar).mem_hoistedVars)
  · exact .inr (.inl (.block hmem herased))

/-- The name of a class expression is taken to be bound in its decorators too. -/
theorem opens_or_misjudged_class {span : Span} {id : Ident} {parts : List Node} (hx : id.name = x)
    (π : List Nat) :
    (∃ kind, Opens x (.node span (.classExpression (some id)) parts) (0::π) kind) ∨
      Misjudged x (.node span (.classExpression (some id)) parts) (0::π) := by
  obtain _ | ⟨_ | j,σ⟩ := π
  · exact .inr (.className hx (by simp))
  · exact .inr (.className hx (by simp))
  · exact .inl ⟨_,.className hx (Nat.succ_ne_zero j)⟩

theorem exists_ownName {name : Option Ident} (h : bindsOwnName x name = true) :
    ∃ id, name = some id ∧ id.name = x := by
  obtain ⟨id,hid,hx⟩ := List.any_eq_true.mp h
  exact ⟨id,Option.mem_toList.mp hid,beq_iff_eq.mp hx⟩

/-- Where a form is taken to rebind a name around a part, a scope of it binds the name there, or the
scope is misjudged, or the form passes the name on by a `var`. -/
theorem opens_or_misjudged {slot : Slot} {span : Span} {form : Form} {parts : List Node} {i : Nat}
    {part : Node} (hshape : (node span form parts).shaped = true)
    (hplaced : (node span form parts).wellPlaced slot = true) (hi : parts[i]? = some part)
    (h : shadowsAt x form parts i false = true) (π : List Nat) :
    (∃ kind, Opens x (.node span form parts) (i::π) kind) ∨
      Misjudged x (.node span form parts) (i::π) ∨ x ∈ (node span form parts).hoistedVars := by
  obtain ⟨hlength,hshapes⟩ := shaped_node_iff.mp hshape
  by_cases hswitch : form = .switchStatement
  · subst hswitch
    obtain ⟨discriminant,cases,rfl⟩ := List.length_eq_two.mp hlength
    obtain _ | _ | i := i
    · cases h
    · exact opens_or_misjudged_switch hshape hplaced h π
    · cases hi
  rw [shadowsAt_node (fun _ _ hform => absurd hform hswitch),Bool.false_or] at h
  have hcallable := fun c hc => opens_or_misjudged_callable (c := c) hshape hplaced hc h i π
  cases form with
  | function | arrow | constructor | getter | setter | staticBlock =>
    obtain ⟨c,hc⟩ := exists_callable hlength Bool.false_ne_true rfl Form.noConfusion
    exact (hcallable c hc).imp_right .inl
  | functionExpression name =>
    obtain ⟨id,rfl,hx⟩ := exists_ownName h
    exact .inl ⟨_,.functionName hx⟩
  | classExpression name =>
    obtain ⟨id,rfl,hx⟩ := exists_ownName h
    obtain ⟨body,rfl⟩ := List.length_eq_one_iff.mp hlength
    obtain _ | i := i
    · exact (opens_or_misjudged_class hx π).imp_right .inl
    · cases hi
  | block =>
    obtain ⟨statements,rfl⟩ := List.length_eq_one_iff.mp hlength
    obtain _ | i := i
    · exact opens_or_misjudged_block hshape hplaced h π
    · cases hi
  | catchClause =>
    obtain ⟨param,body,rfl⟩ := List.length_eq_two.mp hlength
    have hbinds : Binds x param := (mem_boundIdents_iff (hshapes _ List.mem_cons_self)
      ((wellPlaced_node_iff.mp hplaced).2 0 _ rfl)).mp (namesIn_iff.mp h)
    exact .inl ⟨_,.caught hbinds⟩
  | forStatement | forInStatement | forOfStatement =>
    cases parts with
    | nil => cases hi
    | cons head rest => exact (opens_or_misjudged_head hshape hplaced rfl rfl h i π).imp_right .inl
  | _ => cases h

theorem eq_bodyIndex {form : Form} {parts : List Node} {c : Callable} {i : Nat}
    (hc : callable? form parts = some c) (h : (form.slot i).holdsStatements = true) :
    i = c.bodyIndex ∧ (form.slot i).ofItems? = none := by
  unfold callable? at hc
  split at hc <;> cases hc <;> rcases i with _ | _ | _ | _ | i
  all_goals first
    | exact ⟨rfl,rfl⟩
    | cases h

/-- A `var` that hoists out of a part hoists out of the form, or a scope of the form binds it
there. -/
theorem hoists_or_opens {slot : Slot} {span : Span} {form : Form} {parts : List Node} {i : Nat}
    {part : Node} (hshape : (node span form parts).shaped = true)
    (hplaced : (node span form parts).wellPlaced slot = true) (hi : parts[i]? = some part)
    (hx : x ∈ part.hoistedVars) (π : List Nat) :
    (∃ kind, Opens x (.node span form parts) (i::π) kind) ∨
      x ∈ (node span form parts).hoistedVars := by
  obtain ⟨hlength,hshapes⟩ := shaped_node_iff.mp hshape
  have hmem := List.mem_of_getElem? hi
  have hpart := (wellPlaced_node_iff.mp hplaced).2 i part hi
  have hslot : (form.slot i).holdsStatements = true := by
    by_contra hinert
    rw [hoistedVars_of_inert hpart (eq_false_of_ne_true hinert)] at hx
    cases hx
  by_cases hnests : form.nestsStatements = true
  · right
    have hplain : ∀ ctxt kind declare, form ≠ .variableDeclaration ctxt kind declare := by
      rintro ctxt kind declare rfl
      cases hnests
    rw [hoistedVars_node hplain,if_pos hnests,hoistedVarsAll_eq]
    exact List.mem_flatMap.mpr ⟨part,hmem,hx⟩
  · left
    obtain ⟨statement,hlisted,hvar⟩ := exists_varDeclares (hshapes part hmem) hpart hx
    have hholds : form.slots.any Slot.holdsStatements = true := by
      rw [Form.slot,List.getD_eq_getElem?_getD] at hslot
      cases hs : form.slots[i]? with
      | none =>
        rw [hs] at hslot
        cases hslot
      | some s =>
        rw [hs] at hslot
        exact List.any_eq_true.mpr ⟨s,List.mem_of_getElem? hs,hslot⟩
    by_cases hblock : form = .moduleBlock
    · subst hblock
      obtain ⟨body,rfl⟩ := List.length_eq_one_iff.mp hlength
      cases i with
      | zero =>
        obtain rfl := Option.some.inj hi
        rcases mem_items_of_listed hpart (.inr rfl) hlisted with hitem | rfl
        · exact ⟨_,.namespaceBody hitem (.hoisted hvar)⟩
        · exact absurd hvar not_varDeclares_absent
      | succ i => cases hi
    · obtain ⟨c,hc⟩ := exists_callable hlength hnests hholds hblock
      obtain ⟨hindex,hsingle⟩ := eq_bodyIndex hc hslot
      have hbody : part = c.body :=
        Option.some.inj (hi.symm.trans (hindex ▸ Callable.body_part hc))
      rw [listed_of_single hpart hsingle,List.mem_singleton] at hlisted
      exact ⟨_,.bodyVariables hc hindex (hbody ▸ hlisted ▸ hvar)⟩

/-- A use for which a tree is taken to rebind the name is bound inside the tree, or misjudged there,
or the tree passes the name on to the scope around it by a `var`. -/
theorem exists_use_of_hasShadowedUse {n : Node} {slot : Slot} (hshape : n.shaped = true)
    (hplaced : n.wellPlaced slot = true) (h : n.HasShadowedUse x) :
    ∃ π, n.UseAt π ∧ (BoundWithin x n π ∨ MisjudgedWithin x n π ∨ x ∈ n.hoistedVars) := by
  induction n using Node.induction generalizing slot with
  | absent =>
    obtain ⟨_,_,_,hmem,-⟩ := h
    cases List.mem_singleton.mp hmem
  | many items ih =>
    obtain ⟨inner,-,hitems⟩ := wellPlaced_many_iff.mp hplaced
    rw [shaped,shapedAll_iff] at hshape
    obtain ⟨item,hitem,h⟩ := hasShadowedUse_many.mp h
    obtain ⟨i,hi⟩ := List.mem_iff_getElem?.mp hitem
    obtain ⟨π,hπ,hcases⟩ := ih item hitem (hshape item hitem) (hitems item hitem) h
    refine ⟨i::π,useAt_cons_iff.mpr ⟨item,hi,hπ⟩,?_⟩
    rcases hcases with hbound | hmisjudged | hx
    · exact .inl (.inside hi hbound)
    · exact .inr (.inl (.inside hi hmisjudged))
    · refine .inr (.inr ?_)
      rw [hoistedVars,hoistedVarsAll_eq]
      exact List.mem_flatMap.mpr ⟨item,hitem,hx⟩
  | node span form parts ih =>
    rcases hasShadowedUse_node.mp h with ⟨i,part,hi,hshadows,huse⟩ | ⟨part,hpart,h⟩
    · obtain ⟨π,hπ⟩ := hasUse_iff.mp huse
      refine ⟨i::π,useAt_cons_iff.mpr ⟨part,hi,hπ⟩,?_⟩
      rcases opens_or_misjudged hshape hplaced hi hshadows π with ⟨_,hopens⟩ | hmisjudged | hx
      · exact .inl (.here hopens)
      · exact .inr (.inl (.here hmisjudged))
      · exact .inr (.inr hx)
    · obtain ⟨i,hi⟩ := List.mem_iff_getElem?.mp hpart
      obtain ⟨π,hπ,hcases⟩ := ih part hpart ((shaped_node_iff.mp hshape).2 part hpart)
        ((wellPlaced_node_iff.mp hplaced).2 i part hi) h
      refine ⟨i::π,useAt_cons_iff.mpr ⟨part,hi,hπ⟩,?_⟩
      rcases hcases with hbound | hmisjudged | hx
      · exact .inl (.inside hi hbound)
      · exact .inr (.inl (.inside hi hmisjudged))
      · rcases hoists_or_opens hshape hplaced hi hx π with ⟨_,hopens⟩ | hx
        · exact .inl (.here hopens)
        · exact .inr (.inr hx)

theorem rebinds_of_takes {form : Form} {parts : List Node} {c : Callable}
    (hc : callable? form parts = some c) (h : Takes x form parts) : rebinds x form parts = true := by
  have hparameter : ∀ {params decorators pattern : Node} {place : Span},
      .node place .parameter [decorators,pattern] ∈ params.items → Binds x pattern →
      params.items.any (bindsParameter x) = true := fun hmem hbinds =>
    List.any_eq_true.mpr ⟨_,hmem,bindsPattern_of_binds hbinds⟩
  cases h with
  | @function _ _ _ _ _ _ _ rest hmem h =>
    match rest, hc with
    | _ :: _ :: _, _ => exact Bool.or_eq_true_iff.mpr (.inl (hparameter hmem h))
  | @arrow _ _ _ params _ rest hmem h =>
    match rest, hc with
    | _ :: _, _ =>
      refine Bool.or_eq_true_iff.mpr (.inl (namesIn_iff.mpr ?_))
      exact mem_boundIdents_of_item hmem h.mem_boundIdents
  | @constructor _ _ _ _ _ _ _ _ rest hmem h =>
    match rest, hc with
    | _ :: _, _ => exact Bool.or_eq_true_iff.mpr (.inl (hparameter hmem h))
  | @setter _ _ _ rest h =>
    match rest, hc with
    | [_], _ => exact Bool.or_eq_true_iff.mpr (.inl (bindsPattern_of_binds h))

/-- Where a scope is misjudged, the analysis takes the form to rebind the name. -/
theorem shadowsAt_of_misjudged {span : Span} {form : Form} {parts : List Node} {i : Nat} {π : List Nat}
    (h : Misjudged x (.node span form parts) (i::π)) : shadowsAt x form parts i false = true := by
  cases h with
  | parameters hc h => exact shadowsAt_of_rebinds i (rebinds_of_takes hc h)
  | bodyVariables hc h => exact shadowsAt_of_rebinds i (rebinds_of_body hc h)
  | className hx => exact shadowsAt_of_rebinds i (namesIn_iff.mpr (List.mem_singleton.mpr hx.symm))
  | block hmem h =>
    exact shadowsAt_of_rebinds 0 (List.any_eq_true.mpr ⟨_,hmem,namesIn_iff.mpr h.1⟩)
  | @switch _ place _ _ test consequent _ _ hcase hmem h =>
    have hbinds : bindsCase x (.node place .switchCase [test,consequent]) = true :=
      List.any_eq_true.mpr ⟨_,hmem,namesIn_iff.mpr h.1⟩
    exact List.any_eq_true.mpr ⟨_,hcase,hbinds⟩
  | @head _ place _ _ ctxt kind declarators _ _ hhead hkind h =>
    refine shadowsAt_of_rebinds i ?_
    have hbinds :
        bindsHead x (.node place (.variableDeclaration ctxt kind true) [declarators]) = true :=
      Bool.and_eq_true_iff.mpr ⟨bne_iff_ne.mpr hkind,namesIn_iff.mpr h.mem_declaratorIdents⟩
    unfold head? at hhead
    split at hhead
    iterate 3
      · obtain rfl := Option.some.inj hhead
        exact hbinds
    · cases hhead

theorem hasShadowedUse_of_misjudgedWithin {n : Node} {π : List Nat} (h : MisjudgedWithin x n π)
    (huse : n.UseAt π) : n.HasShadowedUse x := by
  induction h with
  | @here n π h =>
    cases n with
    | absent => cases h
    | many => cases h
    | node span form parts =>
      cases π with
      | nil =>
        -- The form of a use opens no scope.
        have hself := useAt_nil_iff.mp huse
        cases h with
        | parameters hc => cases hself <;> cases hc
        | className => cases hself
      | cons i π =>
        obtain ⟨part,hi,hπ⟩ := useAt_cons_iff.mp huse
        have hshadows := shadowsAt_of_misjudged h
        exact hasShadowedUse_node.mpr (.inl ⟨i,part,hi,hshadows,hasUse_iff.mpr ⟨π,hπ⟩⟩)
  | @inside n c i π hc _ ih =>
    obtain ⟨c',hc',hπ⟩ := useAt_cons_iff.mp huse
    obtain rfl := Option.some.inj (hc.symm.trans hc')
    have hinner := ih hπ
    cases n with
    | absent => cases hc
    | many => exact hasShadowedUse_many.mpr ⟨c,List.mem_of_getElem? hc,hinner⟩
    | node => exact hasShadowedUse_node.mpr (.inr ⟨c,List.mem_of_getElem? hc,hinner⟩)

end Scopes

end Node

namespace Program

variable {options : Options} {p : Program}

/-- A program that is refused for a shadowed hook uses the hook at a position where its name means
what a nested scope binds, or where a scope around it is misjudged; and a program that uses the hook
where a scope is misjudged is refused, if the hook can be its name at all. -/
theorem toFunctionBody_shadowed (hshape : p.shaped = true) (hplaced : p.wellPlaced = true) :
    ((p.toFunctionBody options).result = .error (.importNameShadowed options.importName) →
      ∃ π use, (Node.many p.body).at? π = some use ∧ use.IsHookUse ∧
        ((∃ ρ kind, Resolves options.importName (.many p.body) π ρ kind) ∨
          MisjudgedWithin options.importName (.many p.body) π)) ∧
    (options.validate = .ok () → options.importName ∉ p.topLevelNames →
      ∀ π use, (Node.many p.body).at? π = some use → use.IsHookUse →
        MisjudgedWithin options.importName (.many p.body) π →
        (p.toFunctionBody options).result = .error (.importNameShadowed options.importName)) := by
  constructor
  · intro h
    obtain ⟨-,-,htop,huses⟩ := toFunctionBody_eq_shadowed.mp h
    have hshadowed : (Node.many p.body).HasShadowedUse options.importName := by
      by_contra hnone
      exact huses ((shadowedUses_eq_nil_iff _ p).mpr hnone)
    have hbodyShape : (Node.many p.body).shaped = true := hshape
    have hbodyPlaced : (Node.many p.body).wellPlaced .statements = true := hplaced
    obtain ⟨π,⟨use,hat,huse⟩,hcases⟩ :=
      Node.exists_use_of_hasShadowedUse hbodyShape hbodyPlaced hshadowed
    refine ⟨π,use,hat,huse,?_⟩
    rcases hcases with hbound | hmisjudged | hx
    · exact .inl (hbound.resolves hat)
    · exact .inr hmisjudged
    · exact absurd (List.mem_append_left _ (Node.mem_collectedVars_of_hoistedVars hx)) htop
  · intro hvalid htop π use hat huse hmisjudged
    refine toFunctionBody_eq_shadowed.mpr ⟨hvalid,rfl,htop,fun hnone => ?_⟩
    exact (shadowedUses_eq_nil_iff _ p).mp hnone
      (Node.hasShadowedUse_of_misjudgedWithin hmisjudged ⟨use,hat,huse⟩)

def importCall : Node :=
  .node .nowhere (.call 0) [.leaf .nowhere (.importKeyword .evaluation),.many [],.absent]

def variableBlock : Node :=
  .node .nowhere (.block 0) [.many [.node .nowhere (.variableDeclaration 0 .var false)
    [.many [.node .nowhere (.declarator false) [hookPattern,.absent]]]]]

/-- `function f(a = import()) { var $import; }` -/
def defaultParameter : Program :=
  let value : Node := .node .nowhere .assignmentPattern [(Ident.named "a" .nowhere).pattern,importCall]
  ⟨.module,.nowhere,[.node .nowhere (.functionDeclaration (.named "f" .nowhere) false)
    [.node .nowhere (.function 0 false false)
      [.many [.node .nowhere .parameter [.many [],value]],.many [],variableBlock,.absent,.absent]]],
    none⟩

theorem defaultParameter_shadowed :
    defaultParameter.shaped = true ∧ defaultParameter.wellPlaced = true ∧
      (defaultParameter.toFunctionBody {}).result = .error (.importNameShadowed "$import") ∧
      ∃ π use, (Node.many defaultParameter.body).at? π = some use ∧ use.IsHookUse ∧
        ((∃ ρ kind, Resolves "$import" (.many defaultParameter.body) π ρ kind) ∨
          MisjudgedWithin "$import" (.many defaultParameter.body) π) := by
  have hmisjudged : MisjudgedWithin "$import" (.many defaultParameter.body) [0,0,0,0,1,1] :=
    .inside rfl (.inside rfl (.here (.bodyVariables rfl (.nested List.mem_cons_self
      (.declaration (.intro List.mem_cons_self .name))) (by decide))))
  have h := @toFunctionBody_shadowed {} defaultParameter (by decide) (by decide)
  have hrefused := h.2 rfl (by decide) _ _ rfl (.dynamicImport ..) hmisjudged
  exact ⟨by decide,by decide,hrefused,h.1 hrefused⟩

end Program

def Form.isQuiet : Form → Bool
  | .function .. | .arrow .. | .constructor .. | .getter | .setter | .staticBlock | .block _
  | .switchStatement | .ifStatement | .forStatement | .forInStatement | .forOfStatement _
  | .catchClause | .withStatement | .functionExpression _ | .classExpression _
  | .classDeclaration .. | .enumDeclaration .. | .moduleDeclaration .. | .moduleBlock
  | .namespaceDeclaration .. => false
  | _ => true

namespace Node

def isQuiet : Node → Bool
  | .node _ form _ => form.isQuiet
  | _ => true

def quietAlong (n : Node) : List Nat → Bool
  | [] => true
  | i :: π =>
    n.isQuiet &&
      match n.child? i with
      | some c => c.quietAlong π
      | none => true

mutual

def usePositions : Node → List (List Nat)
  | .absent => []
  | .many items => usePositionsFrom 0 items
  | .node span form parts =>
    (if (use? (.node span form parts)).isSome then [[]] else []) ++ usePositionsFrom 0 parts

def usePositionsFrom (i : Nat) : List Node → List (List Nat)
  | [] => []
  | item :: rest => (usePositions item).map (i :: ·) ++ usePositionsFrom (i+1) rest

end

theorem mem_usePositionsFrom {i : Nat} {items : List Node} {π : List Nat} :
    π ∈ usePositionsFrom i items ↔
      ∃ j item σ, items[j]? = some item ∧ σ ∈ item.usePositions ∧ π = (i+j)::σ := by
  induction items generalizing i with
  | nil => simp [usePositionsFrom]
  | cons item rest ih =>
    rw [usePositionsFrom,List.mem_append,List.mem_map,ih]
    constructor
    · rintro (⟨σ,hσ,rfl⟩ | ⟨j,other,σ,hj,hσ,rfl⟩)
      · exact ⟨0,item,σ,rfl,hσ,rfl⟩
      · exact ⟨j+1,other,σ,hj,hσ,by rw [Nat.add_assoc,Nat.add_comm 1]⟩
    · rintro ⟨j,other,σ,hj,hσ,rfl⟩
      cases j with
      | zero =>
        obtain rfl := Option.some.inj hj
        exact .inl ⟨σ,hσ,rfl⟩
      | succ j => exact .inr ⟨j,other,σ,hj,hσ,by rw [Nat.add_assoc,Nat.add_comm 1]⟩

theorem useAt_iff {n : Node} {π : List Nat} : n.UseAt π ↔ π ∈ n.usePositions := by
  have hself : ∀ span form parts, ([] ∈ (node span form parts).usePositions ↔
      (use? (node span form parts)).isSome = true) := by
    intro span form parts
    rw [usePositions,List.mem_append,mem_usePositionsFrom]
    split <;> simp_all
  induction π generalizing n with
  | nil =>
    rw [useAt_nil_iff,← use?_isSome_iff]
    cases n with
    | absent => simp [usePositions,use?]
    | many items => simp [usePositions,use?,mem_usePositionsFrom]
    | node => exact (hself ..).symm
  | cons i π ih =>
    have hitems : ∀ items : List Node, (i::π ∈ usePositionsFrom 0 items ↔
        ∃ item, items[i]? = some item ∧ π ∈ item.usePositions) := by
      intro items
      rw [mem_usePositionsFrom]
      constructor
      · rintro ⟨j,item,σ,hj,hσ,heq⟩
        obtain ⟨rfl,rfl⟩ := List.cons.inj heq
        exact ⟨item,(Nat.zero_add j).symm ▸ hj,hσ⟩
      · rintro ⟨item,hi,hπ⟩
        exact ⟨i,item,π,hi,hπ,by rw [Nat.zero_add]⟩
    rw [useAt_cons_iff]
    simp only [ih]
    cases n with
    | absent => simp [usePositions,child?]
    | many items => exact (hitems items).symm
    | node span form parts =>
      rw [usePositions,List.mem_append,hitems]
      refine (or_iff_right ?_).symm
      split <;> simp

theorem not_opens_of_isQuiet {x : String} {n : Node} (h : n.isQuiet = true) {π : List Nat}
    {kind : Kind} : ¬ Opens x n π kind := by
  intro hopens
  have hcallable : ∀ {form parts c}, callable? form parts = some c → form.isQuiet = false := by
    intro form parts c hc
    unfold callable? at hc
    split at hc <;> first | rfl | cases hc
  have hhead : ∀ {form parts head}, head? form parts = some head → form.isQuiet = false := by
    intro form parts head hh
    unfold head? at hh
    split at hh <;> first | rfl | cases hh
  cases hopens with
  | arguments hc | parameters hc | bodyVariables hc => exact absurd (hcallable hc ▸ h) Bool.false_ne_true
  | head hh => exact absurd (hhead hh ▸ h) Bool.false_ne_true
  | _ => cases h

/-- A name is bound around a position only by the nodes on the way that open scopes. -/
theorem not_boundWithin_of_quietAlong {x : String} {n : Node} {π : List Nat}
    (h : n.quietAlong π = true) : ¬ BoundWithin x n π := by
  induction π generalizing n with
  | nil => exact not_boundWithin_nil
  | cons i π ih =>
    obtain ⟨hquiet,hrest⟩ := Bool.and_eq_true_iff.mp h
    rw [boundWithin_cons_iff]
    rintro (⟨_,hopens⟩ | ⟨c,hc,hbound⟩)
    · exact not_opens_of_isQuiet hquiet hopens
    · simp only [hc] at hrest
      exact ih hrest hbound

theorem not_boundWithin_cons {x : String} {n c : Node} {i : Nat} {π : List Nat}
    (hopens : ∀ kind, ¬ Opens x n (i::π) kind) (hc : n.child? i = some c)
    (hinner : ¬ BoundWithin x c π) : ¬ BoundWithin x n (i::π) := by
  rw [boundWithin_cons_iff]
  rintro (⟨kind,hopen⟩ | ⟨c',hc',hbound⟩)
  · exact hopens kind hopen
  · obtain rfl := Option.some.inj (hc.symm.trans hc')
    exact hinner hbound

end Node

namespace Program

/-- A program is refused for a shadowed hook, but around no use of the hook a scope binds its
name. -/
def RefusedInVain (p : Program) : Prop :=
  (p.toFunctionBody {}).result = .error (.importNameShadowed "$import") ∧
    ∀ π, (Node.many p.body).UseAt π → ¬ BoundWithin "$import" (.many p.body) π

section Refused

/-- `({ get [import()]() { var $import; } });` -/
def computedKey : Program :=
  let key : Node := .node .nowhere .computed [importCall]
  ⟨.module,.nowhere,[.node .nowhere .expressionStatement [.node .nowhere .parenthesis
    [.node .nowhere .object [.many [.node .nowhere .getter [key,.absent,variableBlock]]]]]],none⟩

/-- `class C { @(import()) m($import) {} }` -/
def decoratedMethod : Program :=
  let decorator : Node := .node .nowhere .decorator [.node .nowhere .parenthesis [importCall]]
  let method : Node := .node .nowhere (.function 0 false false)
    [.many [.node .nowhere .parameter [.many [],hookPattern]],.many [decorator],
      .node .nowhere (.block 0) [.many []],.absent,.absent]
  ⟨.module,.nowhere,[.node .nowhere (.classDeclaration (.named "C" .nowhere) false)
    [.node .nowhere (.classBody 0 false) [.many [],.many [.node .nowhere (.classMethod .method {})
      [.leaf .nowhere (.propertyName "m"),method]],.absent,.absent,.absent,.many []]]],none⟩

/-- `{ const enum $import {} import(); }` -/
def constantEnum : Program :=
  ⟨.module,.nowhere,[.node .nowhere (.block 0) [.many
    [.node .nowhere (.enumDeclaration false true (.named "$import" .nowhere)) [.many []],
      .node .nowhere .expressionStatement [importCall]]]],none⟩

theorem RefusedInVain.of_one {p : Program} {π : List Nat}
    (h : (p.toFunctionBody {}).result = .error (.importNameShadowed "$import"))
    (huses : (Node.many p.body).usePositions = [π])
    (hbound : ¬ BoundWithin "$import" (.many p.body) π) : p.RefusedInVain := by
  refine ⟨h,fun σ hσ => ?_⟩
  rw [Node.useAt_iff,huses,List.mem_singleton] at hσ
  exact hσ ▸ hbound

theorem defaultParameter_refused : defaultParameter.RefusedInVain := by
  refine .of_one (π := [0,0,0,0,1,1]) rfl rfl ?_
  iterate 2 refine Node.not_boundWithin_cons (fun _ => Node.not_opens_of_isQuiet rfl) rfl ?_
  refine Node.not_boundWithin_cons (fun kind h => ?_) rfl (Node.not_boundWithin_of_quietAlong rfl)
  obtain ⟨-,hx | ⟨pattern,hmem,hbinds⟩ | ⟨hbody,-⟩⟩ := h.of_callable rfl
  · exact absurd hx (by decide)
  · obtain rfl := List.mem_singleton.mp hmem
    exact absurd hbinds.mem_boundIdents (by decide)
  · cases hbody

theorem computedKey_refused : computedKey.RefusedInVain := by
  refine .of_one (π := [0,0,0,0,0,0,0]) rfl rfl ?_
  iterate 5 refine Node.not_boundWithin_cons (fun _ => Node.not_opens_of_isQuiet rfl) rfl ?_
  refine Node.not_boundWithin_cons (fun kind h => ?_) rfl (Node.not_boundWithin_of_quietAlong rfl)
  cases (h.of_callable rfl).1

theorem decoratedMethod_refused : decoratedMethod.RefusedInVain := by
  refine .of_one (π := [0,0,1,0,1,1,0,0,0]) rfl rfl ?_
  refine Node.not_boundWithin_cons (fun _ => Node.not_opens_of_isQuiet rfl) rfl ?_
  refine Node.not_boundWithin_cons (fun kind h => ?_) rfl ?_
  · cases h with
    | declaredClassName hx => exact absurd hx (by decide)
    | arguments hc | parameters hc | bodyVariables hc => cases hc
    | head hhead => cases hhead
  iterate 3 refine Node.not_boundWithin_cons (fun _ => Node.not_opens_of_isQuiet rfl) rfl ?_
  refine Node.not_boundWithin_cons (fun kind h => ?_) rfl (Node.not_boundWithin_of_quietAlong rfl)
  cases (h.of_callable rfl).1

theorem constantEnum_refused : constantEnum.RefusedInVain := by
  refine .of_one (π := [0,0,1,0]) rfl rfl ?_
  refine Node.not_boundWithin_cons (fun _ => Node.not_opens_of_isQuiet rfl) rfl ?_
  refine Node.not_boundWithin_cons (fun kind h => ?_) rfl (Node.not_boundWithin_of_quietAlong rfl)
  cases h with
  | block hmem hdeclares =>
    simp only [Node.items,List.mem_cons,List.not_mem_nil,or_false] at hmem
    rcases hdeclares.mem_valueNames with hx | ⟨_,_,_,heq,-⟩
    · rcases hmem with rfl | rfl <;> exact absurd hx (by decide)
    · rcases hmem with rfl | rfl <;> cases heq
  | arguments hc | parameters hc | bodyVariables hc => cases hc
  | head hhead => cases hhead

/-- Programs are refused for a scope that does not hold at the use, around a default value of a
parameter, a computed key and a decorator, and for a declaration that is erased. -/
theorem refusedInVain :
    defaultParameter.RefusedInVain ∧ computedKey.RefusedInVain ∧ decoratedMethod.RefusedInVain ∧
      constantEnum.RefusedInVain :=
  ⟨defaultParameter_refused,computedKey_refused,decoratedMethod_refused,constantEnum_refused⟩

end Refused

end Program

end AsyncBody
