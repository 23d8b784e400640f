import AsyncBody.Proofs.LoweredNames
import AsyncBody.Proofs.Shadowing

/-!
Which programs are refused for a scope that rebinds the hook, and the scopes around a use for which
none is: those of namespaces and enumerations, of parameter properties and of `using` in a loop.
-/
namespace AsyncBody

open Hook

/-- Whether a form opens a scope that the analysis of shadowing does not look at: that of a
namespace, of an enumeration, or of a loop with a `using` declaration in its head. -/
def Form.opensUnseen (form : Form) (parts : List Node) : Bool :=
  match form with
  | .moduleDeclaration .. | .namespaceDeclaration .. | .moduleBlock | .enumDeclaration .. => true
  | _ => form.headUses parts

namespace Node

def isParameterProperty : Node → Bool
  | .node _ (.parameterProperty ..) _ => true
  | _ => false

def HasUse (n : Node) : Prop := ∃ use ∈ n.subtrees, use.IsHookUse

/-- In a tree a form is taken to rebind the hook around one of its parts, and in that part stands a
use of the hook. -/
def HasShadowedUse (hook : String) (n : Node) : Prop :=
  ∃ span form parts, .node span form parts ∈ n.subtrees ∧
    ∃ i part, parts[i]? = some part ∧ shadowsAt hook form parts i false = true ∧ part.HasUse

theorem mem_subtrees_many {items : List Node} {m : Node} :
    m ∈ (many items).subtrees ↔ m = .many items ∨ ∃ item ∈ items, m ∈ item.subtrees := by
  rw [subtrees,subtreesAll_eq,List.mem_append,List.mem_flatMap,List.mem_singleton,or_comm]

theorem mem_subtrees_node {span : Span} {form : Form} {parts : List Node} {m : Node} :
    m ∈ (node span form parts).subtrees ↔
      m = .node span form parts ∨ ∃ part ∈ parts, m ∈ part.subtrees := by
  rw [subtrees,subtreesAll_eq,List.mem_append,List.mem_flatMap,List.mem_singleton,or_comm]

theorem mem_subtrees_of_at? {n m : Node} {π : List Nat} (h : n.at? π = some m) :
    m ∈ n.subtrees := by
  induction π generalizing n with
  | nil =>
    obtain rfl := Option.some.inj h
    cases n with
    | absent => exact List.mem_singleton_self _
    | many => exact mem_subtrees_many.mpr (.inl rfl)
    | node => exact mem_subtrees_node.mpr (.inl rfl)
  | cons i π ih =>
    obtain ⟨c,hc,hm⟩ := at?_cons_iff.mp h
    cases n with
    | absent => cases hc
    | many => exact mem_subtrees_many.mpr (.inr ⟨c,List.mem_of_getElem? hc,ih hm⟩)
    | node => exact mem_subtrees_node.mpr (.inr ⟨c,List.mem_of_getElem? hc,ih hm⟩)

theorem hasUse_many {items : List Node} :
    (many items).HasUse ↔ ∃ item ∈ items, item.HasUse := by
  constructor
  · rintro ⟨use,hmem,huse⟩
    obtain rfl | ⟨item,hitem,hmem⟩ := mem_subtrees_many.mp hmem
    · cases huse
    · exact ⟨item,hitem,use,hmem,huse⟩
  · rintro ⟨item,hitem,use,hmem,huse⟩
    exact ⟨use,mem_subtrees_many.mpr (.inr ⟨item,hitem,hmem⟩),huse⟩

theorem hasUse_node {span : Span} {form : Form} {parts : List Node} :
    (node span form parts).HasUse ↔
      (node span form parts).IsHookUse ∨ ∃ part ∈ parts, part.HasUse := by
  constructor
  · rintro ⟨use,hmem,huse⟩
    obtain rfl | ⟨part,hpart,hmem⟩ := mem_subtrees_node.mp hmem
    · exact .inl huse
    · exact .inr ⟨part,hpart,use,hmem,huse⟩
  · rintro (huse | ⟨part,hpart,use,hmem,huse⟩)
    · exact ⟨_,mem_subtrees_node.mpr (.inl rfl),huse⟩
    · exact ⟨use,mem_subtrees_node.mpr (.inr ⟨part,hpart,hmem⟩),huse⟩

theorem hasShadowedUse_many {hook : String} {items : List Node} :
    (many items).HasShadowedUse hook ↔ ∃ item ∈ items, item.HasShadowedUse hook := by
  constructor
  · rintro ⟨span,form,parts,hmem,hshadowed⟩
    obtain heq | ⟨item,hitem,hmem⟩ := mem_subtrees_many.mp hmem
    · cases heq
    · exact ⟨item,hitem,span,form,parts,hmem,hshadowed⟩
  · rintro ⟨item,hitem,span,form,parts,hmem,hshadowed⟩
    exact ⟨span,form,parts,mem_subtrees_many.mpr (.inr ⟨item,hitem,hmem⟩),hshadowed⟩

theorem hasShadowedUse_node {hook : String} {span : Span} {form : Form} {parts : List Node} :
    (node span form parts).HasShadowedUse hook ↔
      (∃ i part, parts[i]? = some part ∧ shadowsAt hook form parts i false = true ∧ part.HasUse) ∨
        ∃ part ∈ parts, part.HasShadowedUse hook := by
  constructor
  · rintro ⟨span',form',parts',hmem,hshadowed⟩
    obtain heq | ⟨part,hpart,hmem⟩ := mem_subtrees_node.mp hmem
    · obtain ⟨-,rfl,rfl⟩ := Node.node.inj heq
      exact .inl hshadowed
    · exact .inr ⟨part,hpart,span',form',parts',hmem,hshadowed⟩
  · rintro (hshadowed | ⟨part,hpart,span',form',parts',hmem,hshadowed⟩)
    · exact ⟨span,form,parts,mem_subtrees_node.mpr (.inl rfl),hshadowed⟩
    · exact ⟨span',form',parts',mem_subtrees_node.mpr (.inr ⟨part,hpart,hmem⟩),hshadowed⟩

theorem shadowsAt_or (hook : String) (form : Form) (parts : List Node) (i : Nat) (shadowed : Bool) :
    shadowsAt hook form parts i shadowed = (shadowed || shadowsAt hook form parts i false) := by
  unfold shadowsAt
  split <;> simp

theorem shadowedUses_node_eq_nil_iff {hook : String} {shadowed : Bool} {span : Span} {form : Form}
    {parts : List Node} :
    shadowedUses hook shadowed (.node span form parts) = [] ↔
      (shadowed = true → use? (.node span form parts) = none) ∧
        ∀ (i : Nat) (part : Node), parts[i]? = some part →
          shadowedUses hook (shadowsAt hook form parts i shadowed) part = [] := by
  constructor
  · intro h
    refine ⟨fun hshadowed => ?_,fun i part hi => shadowedUses_part h i hi⟩
    cases huse : use? (.node span form parts) with
    | none => rfl
    | some u =>
      rw [not_shadowed_of_use h huse] at hshadowed
      cases hshadowed
  · rintro ⟨hself,hparts⟩
    -- The cases of a `switch` share a scope, and the discriminant stands outside of it.
    by_cases hswitch : form = .switchStatement ∧ ∃ discriminant cases, parts = [discriminant,cases]
    · obtain ⟨rfl,discriminant,cases,rfl⟩ := hswitch
      rw [shadowedUses_switch,List.append_eq_nil_iff]
      refine ⟨?_,hparts 1 cases rfl⟩
      have hplain : shadowsAt hook .switchStatement [discriminant,cases] 0 shadowed = shadowed :=
        Bool.or_false shadowed
      rw [← hplain]
      exact hparts 0 discriminant rfl
    · have hnot : ∀ discriminant cases, form = .switchStatement → parts ≠ [discriminant,cases] :=
        fun discriminant cases hform hparts => hswitch ⟨hform,discriminant,cases,hparts⟩
      rw [shadowedUses_node hnot,List.append_eq_nil_iff,shadowedUsesAll_eq_nil]
      constructor
      · split
        · rename_i hshadowed
          rw [hself hshadowed]
          rfl
        · rfl
      · intro part hpart
        obtain ⟨i,hi⟩ := List.mem_iff_getElem?.mp hpart
        rw [← shadowsAt_node hnot hook i]
        exact hparts i part hi

theorem use?_eq_none_iff (n : Node) : use? n = none ↔ ¬ n.IsHookUse := by
  rw [← use?_isSome_iff,Bool.not_eq_true,Option.isSome_eq_false_iff,Option.isNone_iff_eq_none]

/-- A form has no shadowed use if no part has one, and no use of a part is shadowed at it. -/
theorem shadowedUses_form_eq_nil_iff {hook : String} {shadowed : Bool} {span : Span} {form : Form}
    {parts : List Node} (ih : ∀ part ∈ parts, ∀ shadowed, shadowedUses hook shadowed part = [] ↔
      (shadowed = true → ¬ part.HasUse) ∧ ¬ part.HasShadowedUse hook) :
    shadowedUses hook shadowed (.node span form parts) = [] ↔
      (shadowed = true → ¬ (node span form parts).HasUse) ∧
        ¬ (node span form parts).HasShadowedUse hook := by
  rw [shadowedUses_node_eq_nil_iff,hasUse_node,hasShadowedUse_node,use?_eq_none_iff]
  have hpart : ∀ i part, parts[i]? = some part →
      (shadowedUses hook (shadowsAt hook form parts i shadowed) part = [] ↔
        ((shadowed = true ∨ shadowsAt hook form parts i false = true) → ¬ part.HasUse) ∧
          ¬ part.HasShadowedUse hook) := by
    intro i part hi
    rw [ih part (List.mem_of_getElem? hi),shadowsAt_or,Bool.or_eq_true]
  constructor
  · rintro ⟨hself,hparts⟩
    have hinner := fun i part hi => (hpart i part hi).mp (hparts i part hi)
    constructor
    · rintro hshadowed (huse | ⟨part,hmem,huse⟩)
      · exact hself hshadowed huse
      · obtain ⟨i,hi⟩ := List.mem_iff_getElem?.mp hmem
        exact (hinner i part hi).1 (.inl hshadowed) huse
    · rintro (⟨i,part,hi,hshadows,huse⟩ | ⟨part,hmem,huse⟩)
      · exact (hinner i part hi).1 (.inr hshadows) huse
      · obtain ⟨i,hi⟩ := List.mem_iff_getElem?.mp hmem
        exact (hinner i part hi).2 huse
  · rintro ⟨huses,hshadowed⟩
    refine ⟨fun h huse => huses h (.inl huse),fun i part hi => (hpart i part hi).mpr ⟨?_,?_⟩⟩
    · rintro (h | hshadows) huse
      · exact huses h (.inr ⟨part,List.mem_of_getElem? hi,huse⟩)
      · exact hshadowed (.inl ⟨i,part,hi,hshadows,huse⟩)
    · exact fun huse => hshadowed (.inr ⟨part,List.mem_of_getElem? hi,huse⟩)

/-- A tree has no shadowed use if no form in it shadows one, and it has no use at all if it stands
in a scope that rebinds the hook. -/
theorem shadowedUses_eq_nil_iff {hook : String} {shadowed : Bool} {n : Node} :
    shadowedUses hook shadowed n = [] ↔
      (shadowed = true → ¬ n.HasUse) ∧ ¬ n.HasShadowedUse hook := by
  -- Forms on the way to a part may rebind the hook, so the flag is not fixed.
  induction n using Node.induction generalizing shadowed with
  | absent =>
    have hnone : ¬ absent.HasUse := by
      rintro ⟨use,hmem,huse⟩
      obtain rfl := List.mem_singleton.mp hmem
      cases huse
    refine iff_of_true rfl ⟨fun _ => hnone,?_⟩
    rintro ⟨_,_,_,hmem,-⟩
    cases List.mem_singleton.mp hmem
  | many items ih =>
    rw [shadowedUses,shadowedUsesAll_eq_nil,hasUse_many,hasShadowedUse_many]
    constructor
    · intro h
      constructor
      · rintro hshadowed ⟨item,hitem,huse⟩
        exact ((ih item hitem).mp (h item hitem)).1 hshadowed huse
      · rintro ⟨item,hitem,huse⟩
        exact ((ih item hitem).mp (h item hitem)).2 huse
    · rintro ⟨huses,hshadowed⟩ item hitem
      refine (ih item hitem).mpr ⟨fun h huse => huses h ⟨item,hitem,huse⟩,fun huse => ?_⟩
      exact hshadowed ⟨item,hitem,huse⟩
  | node span form parts ih =>
    exact shadowedUses_form_eq_nil_iff fun part hpart shadowed => ih part hpart

end Node

namespace Hook

theorem bindsHead_of_isUsing {head : Node} (h : head.isUsing = true) (hook : String) :
    bindsHead hook head = false := by
  unfold Node.isUsing at h
  split at h
  · rfl
  · cases h

/-- A form that opens a scope of these kinds is not taken to rebind the hook around any part. -/
theorem shadowsAt_of_opensUnseen {form : Form} {parts : List Node} (h : form.opensUnseen parts = true)
    (hook : String) (i : Nat) : shadowsAt hook form parts i false = false := by
  cases form with
  | moduleDeclaration | namespaceDeclaration | moduleBlock | enumDeclaration => rfl
  | forStatement | forInStatement | forOfStatement =>
    cases parts with
    | nil => cases h
    | cons head rest => exact bindsHead_of_isUsing h hook
  | _ => cases h

theorem bindsParameter_of_property {param : Node} (h : param.isParameterProperty = true)
    (hook : String) : bindsParameter hook param = false := by
  unfold Node.isParameterProperty at h
  split at h
  · rfl
  · cases h

/-- Of the parameters of a constructor, those that are properties are passed over. -/
theorem shadowsAt_constructor (hook : String) (ctxt : Nat) (accessibility : Option String)
    (isOptional : Bool) (key params body : Node) (i : Nat) :
    shadowsAt hook (.constructor ctxt accessibility isOptional) [key,params,body] i false =
      ((params.items.filter (! ·.isParameterProperty)).any (bindsParameter hook) ||
        bindsBody hook body) := by
  have hplain : params.items.any (bindsParameter hook) =
      (params.items.filter (! ·.isParameterProperty)).any (bindsParameter hook) := by
    rw [List.any_filter]
    refine congrArg (List.any params.items) (funext fun param => ?_)
    cases hproperty : param.isParameterProperty with
    | true => exact bindsParameter_of_property hproperty hook
    | false => rfl
  rw [← hplain]
  rfl

end Hook

namespace Program

theorem shadowedUses_eq_nil_iff (hook : String) (p : Program) :
    p.shadowedUses hook = [] ↔ ¬ (Node.many p.body).HasShadowedUse hook := by
  have h : Node.shadowedUses hook false (.many p.body) = [] ↔ _ := Node.shadowedUses_eq_nil_iff
  rw [Node.shadowedUses] at h
  exact h.trans (and_iff_right fun hfalse => absurd hfalse Bool.false_ne_true)

theorem toFunctionBody_refused_iff {options : Options} {p : Program} :
    (∃ e, (p.toFunctionBody options).result = .error e) ↔
      options.validate ≠ .ok () ∨ options.importName ∈ p.topLevelNames ∨
        (Node.many p.body).HasShadowedUse options.importName := by
  have hresult : (∃ e, (p.toFunctionBody options).result = .error e) ↔
      ¬ ∃ body, (p.toFunctionBody options).result = .ok body := by
    cases (p.toFunctionBody options).result with
    | error e => simp
    | ok body => simp
  rw [hresult,← not_iff_not,not_not]
  simp only [toFunctionBody_eq_ok,shadowedUses_eq_nil_iff,not_or,not_not]
  constructor
  · rintro ⟨_,hvalid,htop,huses,-⟩
    exact ⟨hvalid,htop,huses⟩
  · rintro ⟨hvalid,htop,huses⟩
    exact ⟨_,hvalid,htop,huses,rfl⟩

/-- In an accepted program, a scope that binds the hook around a use is one that the analysis
misses. -/
theorem missed_of_opens {options : Options} {p body : Program}
    (h : (p.toFunctionBody options).result = .ok body) {ρ π : List Nat} {n use : Node}
    {kind : Scope.Kind} (hn : (Node.many p.body).at? ρ = some n) (hat : n.at? π = some use)
    (huse : use.IsHookUse) (hopens : Scope.Opens options.importName n π kind) :
    Scope.Missed options.importName n π := by
  obtain ⟨hvalid,-,huses,-⟩ := toFunctionBody_eq_ok.mp h
  cases n with
  | absent | many => cases hopens
  | node span form parts =>
    cases π with
    | nil => exact absurd hopens Scope.not_opens_nil
    | cons i σ =>
      obtain ⟨part,hpart,hpartAt⟩ := Node.at?_cons_iff.mp hat
      refine (Node.shadowsAt_or_missed (Options.importName_ne_arguments hvalid)
        hopens).resolve_left fun hshadows => ?_
      exact (shadowedUses_eq_nil_iff _ p).mp huses ⟨span,form,parts,Node.mem_subtrees_of_at? hn,i,part,
        hpart,hshadows,use,Node.mem_subtrees_of_at? hpartAt,huse⟩

/-- Exactly these programs are refused: for a hook that is no identifier, for one that the program
binds at the top level, and for a use in a part of a form that is taken to rebind the hook there. No
form that opens the scope of a namespace, of an enumeration or of a loop over resources is, and of a
constructor only the plain parameters and the variables of its body are looked at. So of the scopes
around a use, an accepted program binds the hook only in those that are missed. -/
theorem toFunctionBody_error_iff (options : Options) (p : Program) :
    ((∃ e, (p.toFunctionBody options).result = .error e) ↔
      options.validate ≠ .ok () ∨ options.importName ∈ p.topLevelNames ∨
        (Node.many p.body).HasShadowedUse options.importName) ∧
    (∀ (form : Form) (parts : List Node) (i : Nat), form.opensUnseen parts = true →
      shadowsAt options.importName form parts i false = false) ∧
    (∀ (ctxt : Nat) (accessibility : Option String) (isOptional : Bool) (key params body : Node)
      (i : Nat),
      shadowsAt options.importName (.constructor ctxt accessibility isOptional) [key,params,body] i
        false =
      ((params.items.filter (! ·.isParameterProperty)).any (bindsParameter options.importName) ||
        bindsBody options.importName body)) ∧
    ∀ body, (p.toFunctionBody options).result = .ok body →
      ∀ (ρ π : List Nat) (n use : Node) (kind : Scope.Kind), (Node.many p.body).at? ρ = some n →
        n.at? π = some use → use.IsHookUse → Scope.Opens options.importName n π kind →
          Scope.Missed options.importName n π :=
  ⟨toFunctionBody_refused_iff,fun _ _ i h => shadowsAt_of_opensUnseen h _ i,shadowsAt_constructor _,
    fun _ h _ _ _ _ _ => missed_of_opens h⟩

/-- In the body of an accepted program stands the hook where a scope of the body binds its name. -/
def Captures (p : Program) : Prop :=
  ∃ body, (p.toFunctionBody {}).result = .ok body ∧ ∃ π span,
    (Node.many body.body).at? π = some (identifier "$import" span) ∧
      Scope.BoundWithin "$import" (.many body.body) π

section Captured

def hookPattern : Node := (Ident.named "$import" .nowhere).pattern

def importStatement : Node := .node .nowhere .expressionStatement
  [.node .nowhere (.call 0) [.leaf .nowhere (.importKeyword .evaluation),.many [],.absent]]

/-- `class C { constructor(private $import) { import(); } }` -/
def parameterProperty : Program :=
  ⟨.module,.nowhere,[.node .nowhere (.classDeclaration (.named "C" .nowhere) false)
    [.node .nowhere (.classBody 0 false) [.many [],.many [.node .nowhere (.constructor 0 none false)
      [.leaf .nowhere (.propertyName "constructor"),
        .many [.node .nowhere (.parameterProperty (some "private") false false)
          [.many [],hookPattern]],
        .node .nowhere (.block 0) [.many [importStatement]]]],.absent,.absent,.absent,.many []]]],none⟩

/-- `namespace N { const $import = x; import(); }` -/
def namespaceConstant : Program :=
  ⟨.module,.nowhere,[.node .nowhere (.moduleDeclaration false false true
    (.ident (.named "N" .nowhere))) [.node .nowhere .moduleBlock [.many
      [.node .nowhere (.variableDeclaration 0 .const false) [.many [.node .nowhere (.declarator false)
        [hookPattern,(Ident.named "x" .nowhere).reference]]],importStatement]]]],none⟩

/-- `enum E { $import, b = import.meta }` -/
def enumMember : Program :=
  ⟨.module,.nowhere,[.node .nowhere (.enumDeclaration false false (.named "E" .nowhere)) [.many
    [.node .nowhere .enumMember [(Ident.named "$import" .nowhere).reference,.absent],
      .node .nowhere .enumMember [(Ident.named "b" .nowhere).reference,
        .leaf .nowhere (.metaProperty .importMeta)]]]],none⟩

/-- `for (using $import of x) import();` -/
def loopResource : Program :=
  ⟨.module,.nowhere,[.node .nowhere (.forOfStatement false)
    [.node .nowhere (.usingDeclaration false) [.many [.node .nowhere (.declarator false)
      [hookPattern,.absent]]],(Ident.named "x" .nowhere).reference,importStatement]],none⟩

theorem parameterProperty_captures : parameterProperty.Captures := by
  refine ⟨_,toFunctionBody_eq_ok.mpr ⟨rfl,by decide,by decide,rfl⟩,[0,0,1,0,2,0,0,0,0],.nowhere,rfl,?_⟩
  exact .inside rfl (.inside rfl (.inside rfl (.inside rfl
    (.here (.parameters rfl List.mem_cons_self .name rfl)))))

theorem namespaceConstant_captures : namespaceConstant.Captures := by
  refine ⟨_,toFunctionBody_eq_ok.mpr ⟨rfl,by decide,by decide,rfl⟩,[0,0,0,1,0,0],.nowhere,rfl,?_⟩
  exact .inside rfl (.inside rfl (.here (.namespaceBody List.mem_cons_self (.declaration
    (.lexical (.letOrConst VariableKind.noConfusion (.intro List.mem_cons_self .name)))))))

theorem enumMember_captures : enumMember.Captures := by
  refine ⟨_,toFunctionBody_eq_ok.mpr ⟨rfl,by decide,by decide,rfl⟩,[0,0,1,1,0],.nowhere,rfl,?_⟩
  exact .inside rfl (.here (.members List.mem_cons_self .ident))

theorem loopResource_captures : loopResource.Captures := by
  refine ⟨_,toFunctionBody_eq_ok.mpr ⟨rfl,by decide,by decide,rfl⟩,[0,2,0,0],.nowhere,rfl,?_⟩
  exact .inside rfl (.here (.head rfl (.usingDeclaration (.intro List.mem_cons_self .name))))

/-- Each kind of scope that the analysis does not look at can capture the hook. -/
theorem unseenScopes_capture :
    parameterProperty.Captures ∧ namespaceConstant.Captures ∧ enumMember.Captures ∧
      loopResource.Captures :=
  ⟨parameterProperty_captures,namespaceConstant_captures,enumMember_captures,loopResource_captures⟩

end Captured

end Program

end AsyncBody
