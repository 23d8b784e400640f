import AsyncBody.FreshName
import AsyncBody.Hook.Use
import AsyncBody.Proofs.Tree

/-!
What routing does to a tree: no use of the hook is left in it, each use is replaced once, and the
tree comes back when calls of the hook and reads of its property `meta` are turned into uses again.
-/
namespace AsyncBody

namespace Node

inductive IsHookUse : Node → Prop where
  | dynamicImport (span place : Span) (ctxt : Nat) (inner rest : List Node) :
      IsHookUse (.node span (.call ctxt) (.node place (.importKeyword .evaluation) inner :: rest))
  | importMeta (span : Span) (parts : List Node) :
      IsHookUse (.node span (.metaProperty .importMeta) parts)

theorem use?_isSome_iff (n : Node) : (Hook.use? n).isSome = true ↔ n.IsHookUse := by
  constructor
  · intro h
    unfold Hook.use? at h
    split at h
    · exact .dynamicImport ..
    · exact .importMeta ..
    · cases h
  · rintro (_ | _) <;> rfl

instance : DecidablePred IsHookUse := fun n => decidable_of_iff _ (use?_isSome_iff n)

end Node

namespace Hook

/-- What replacing does: a node that is no use stays, a dynamic import has its callee replaced, and
`import.meta` becomes a read. -/
theorem replace_cases (hook : String) (n : Node) :
    (replace hook n = n ∧ use? n = none) ∨
    (∃ span ctxt place inner rest,
      n = .node span (.call ctxt) (.node place (.importKeyword .evaluation) inner :: rest) ∧
      replace hook n = .node span (.call ctxt) (identifier hook place :: rest)) ∨
    (∃ span parts, n = .node span (.metaProperty .importMeta) parts ∧
      replace hook n = metaRead hook span) := by
  unfold replace use?
  split
  · exact .inr (.inl ⟨_,_,_,_,_,rfl,rfl⟩)
  · exact .inr (.inr ⟨_,_,rfl,rfl⟩)
  · exact .inl ⟨rfl,rfl⟩

theorem use?_replace (hook : String) (n : Node) : use? (replace hook n) = none := by
  obtain ⟨h,hn⟩ | ⟨_,_,_,_,_,-,h⟩ | ⟨_,_,-,h⟩ := replace_cases hook n
  · rw [h,hn]
  · rw [h]; rfl
  · rw [h]; rfl

end Hook

namespace Node

open Hook

theorem routeAll_result (hook : String) (items : List Node) :
    (routeAll hook items).result = items.map fun n => (route hook n).result := by
  induction items with
  | nil => rfl
  | cons item rest ih => rw [routeAll,ih,List.map_cons]

theorem routeAll_uses (hook : String) (items : List Node) :
    (routeAll hook items).uses = items.flatMap fun n => (route hook n).uses := by
  induction items with
  | nil => rfl
  | cons item rest ih => rw [routeAll,ih,List.flatMap_cons]

theorem importKeyword_of_route {hook : String} {n : Node} {place : Span} {phase : ImportPhase}
    {inner : List Node} (h : (route hook n).result = .node place (.importKeyword phase) inner) :
    ∃ parts, n = .node place (.importKeyword phase) parts ∧
      inner = (routeAll hook parts).result := by
  cases n with
  | absent => cases h
  | many items => cases h
  | node span form parts =>
    simp only [route] at h
    obtain ⟨hr,-⟩ | ⟨_,_,_,_,_,-,hr⟩ | ⟨_,_,-,hr⟩ :=
      replace_cases hook (.node span form (routeAll hook parts).result)
    · rw [hr] at h
      cases h
      exact ⟨parts,rfl,rfl⟩
    · rw [hr] at h
      cases h
    · rw [hr] at h
      cases h

/-- Whether a node is a use depends on its form and on whether its first part is the keyword. -/
theorem use?_congr (span : Span) (form : Form) {a b : Node} (as bs : List Node)
    (h : (∃ place inner, a = .node place (.importKeyword .evaluation) inner) ↔
      ∃ place inner, b = .node place (.importKeyword .evaluation) inner) :
    use? (.node span form (a :: as)) = use? (.node span form (b :: bs)) := by
  unfold use?
  split
  · rename_i heq
    cases heq
    obtain ⟨_,_,rfl⟩ := h.mp ⟨_,_,rfl⟩
    rfl
  · rename_i heq
    cases heq
    rfl
  · rename_i hcall hmeta
    split
    · rename_i heq
      cases heq
      obtain ⟨_,_,rfl⟩ := h.mpr ⟨_,_,rfl⟩
      exact (hcall _ _ _ _ _ rfl).elim
    · rename_i heq
      cases heq
      exact (hmeta _ _ rfl).elim
    · rfl

theorem use?_routeAll (hook : String) (span : Span) (form : Form) (parts : List Node) :
    use? (.node span form (routeAll hook parts).result) = use? (.node span form parts) := by
  cases parts with
  | nil => rfl
  | cons callee rest =>
    apply use?_congr
    constructor
    · rintro ⟨place,inner,h⟩
      obtain ⟨parts,hc,-⟩ := importKeyword_of_route h
      exact ⟨place,parts,hc⟩
    · rintro ⟨place,inner,rfl⟩
      exact ⟨place,_,rfl⟩

theorem route_uses (hook : String) (n : Node) :
    (route hook n).uses = n.subtrees.filterMap use? := by
  induction n using Node.induction with
  | absent => rfl
  | many items ih =>
    rw [route,subtrees,subtreesAll_eq,List.filterMap_append,List.filterMap_flatMap,routeAll_uses,
      List.flatMap_def,List.map_congr_left ih,← List.flatMap_def]
    exact (List.append_nil _).symm
  | node span form parts ih =>
    rw [route,subtrees,subtreesAll_eq,List.filterMap_append,List.filterMap_flatMap,
      use?_routeAll,routeAll_uses,List.flatMap_def,List.map_congr_left ih,← List.flatMap_def]
    cases h : use? (.node span form parts) <;> simp [h]

/-- What routing does to a form: it stays around its routed parts, it is a dynamic import whose
callee is replaced, or it is `import.meta`. -/
theorem route_node_cases (hook : String) (span : Span) (form : Form) (parts : List Node) :
    ((route hook (.node span form parts)).result = .node span form (routeAll hook parts).result ∧
      use? (.node span form parts) = none) ∨
    (∃ ctxt place inner rest, form = .call ctxt ∧
      parts = .node place (.importKeyword .evaluation) inner :: rest ∧
      (route hook (.node span form parts)).result =
        .node span (.call ctxt) (identifier hook place :: (routeAll hook rest).result)) ∨
    (form = .metaProperty .importMeta ∧
      (route hook (.node span form parts)).result = metaRead hook span) := by
  have hnone := use?_routeAll hook span form parts
  rw [route]
  obtain ⟨hr,hu⟩ | ⟨_,ctxt,place,inner,rest,hn,hr⟩ | ⟨_,_,hn,hr⟩ :=
    replace_cases hook (.node span form (routeAll hook parts).result)
  · exact .inl ⟨hr,hnone.symm.trans hu⟩
  · right; left
    obtain ⟨rfl,rfl,hp⟩ := Node.node.inj hn
    cases parts with
    | nil => cases hp
    | cons callee others =>
      obtain ⟨hc,rfl⟩ := List.cons.inj hp
      obtain ⟨parts,rfl,-⟩ := importKeyword_of_route hc
      exact ⟨ctxt,place,parts,others,rfl,rfl,hr⟩
  · right; right
    obtain ⟨rfl,rfl,-⟩ := Node.node.inj hn
    exact ⟨rfl,hr⟩

theorem route_eq_of_none {hook : String} {span : Span} {form : Form} {parts : List Node}
    (h : use? (.node span form parts) = none) :
    (route hook (.node span form parts)).result = .node span form (routeAll hook parts).result := by
  obtain ⟨hr,-⟩ | ⟨_,_,_,_,rfl,rfl,-⟩ | ⟨rfl,-⟩ := route_node_cases hook span form parts
  · exact hr
  · cases h
  · cases h

/-- No use of the hook is left in a routed tree. -/
theorem use?_of_mem_route (hook : String) (n : Node) :
    ∀ m ∈ (route hook n).result.subtrees, use? m = none := by
  induction n using Node.induction with
  | absent =>
    intro m hm
    obtain rfl := List.mem_singleton.mp hm
    rfl
  | many items ih =>
    intro m hm
    rw [route,subtrees,subtreesAll_eq,routeAll_result] at hm
    rcases List.mem_append.mp hm with hm | hm
    · obtain ⟨_,hi,hm⟩ := List.mem_flatMap.mp hm
      obtain ⟨item,hitem,rfl⟩ := List.mem_map.mp hi
      exact ih item hitem m hm
    · obtain rfl := List.mem_singleton.mp hm
      rfl
  | node span form parts ih =>
    intro m hm
    have hself := use?_replace hook (.node span form (routeAll hook parts).result)
    obtain ⟨hr,hu⟩ | ⟨ctxt,place,inner,rest,rfl,rfl,hr⟩ | ⟨rfl,hr⟩ :=
      route_node_cases hook span form parts
    · rw [hr,subtrees,subtreesAll_eq,routeAll_result] at hm
      rcases List.mem_append.mp hm with hm | hm
      · obtain ⟨_,hp,hm⟩ := List.mem_flatMap.mp hm
        obtain ⟨part,hpart,rfl⟩ := List.mem_map.mp hp
        exact ih part hpart m hm
      · obtain rfl := List.mem_singleton.mp hm
        rw [← routeAll_result,use?_routeAll,hu]
    · rw [hr,subtrees,subtreesAll,subtreesAll_eq,routeAll_result] at hm
      rcases List.mem_append.mp hm with hm | hm
      · rcases List.mem_append.mp hm with hm | hm
        · obtain rfl := List.mem_singleton.mp hm
          rfl
        · obtain ⟨_,hp,hm⟩ := List.mem_flatMap.mp hm
          obtain ⟨part,hpart,rfl⟩ := List.mem_map.mp hp
          exact ih part (List.mem_cons_of_mem _ hpart) m hm
      · obtain rfl := List.mem_singleton.mp hm
        rfl
    · rw [hr] at hm
      simp only [metaRead,identifier,Ident.reference,Node.leaf,subtrees,subtreesAll,List.append_nil,
        List.nil_append,List.cons_append,List.mem_cons,List.not_mem_nil,or_false] at hm
      rcases hm with rfl | rfl | rfl <;> rfl

end Node

namespace Hook

def restore (hook : String) : Node → Node
  | .node span (.call ctxt) (.node place (.ident c name o) inner :: rest) =>
    if name = hook then .node span (.call ctxt) (.leaf place (.importKeyword .evaluation) :: rest)
    else .node span (.call ctxt) (.node place (.ident c name o) inner :: rest)
  | .node span .member [.node place (.ident c name o) inner,.node at_ (.propertyName key) parts] =>
    if name = hook ∧ key = "meta" then .leaf span (.metaProperty .importMeta)
    else .node span .member [.node place (.ident c name o) inner,.node at_ (.propertyName key) parts]
  | other => other

end Hook

def ExportSpecifier.inner : ExportSpecifier → List Ident
  | .named _ inner _ _ => inner.idents
  | .default _ => []
  | .whole _ _ => []

/-- The names that a form refers to or binds. -/
def Form.mentioned : Form → List String
  | .propertyName _ => []
  | .importDeclaration specifiers _ _ _ => specifiers.map (·.bound.name)
  | .exportNamed specifiers none _ => specifiers.flatMap fun s => s.inner.map (·.name)
  | .exportNamed _ (some _) _ => []
  | form => form.spelled

def Node.isIdent : Node → Bool
  | .node _ (.ident ..) _ => true
  | _ => false

def Form.labels : Form → Bool
  | .labeled | .breakStatement | .continueStatement => true
  | _ => false

def Form.takesLabel (form : Form) : List Node → Bool
  | first :: _ => form.labels && first.isIdent
  | [] => false

theorem Form.takesLabel_eq_false {form : Form} (h : form.labels = false) (parts : List Node) :
    form.takesLabel parts = false := by
  cases parts with
  | nil => rfl
  | cons first rest => rw [takesLabel,h,Bool.false_and]

namespace Node

open Hook

mutual

/-- Puts uses back in place of the calls of the hook and the reads of its property `meta`. -/
def unroute (hook : String) : Node → Node
  | .absent => .absent
  | .many items => .many (unrouteAll hook items)
  | .node span form parts => Hook.restore hook (.node span form (unrouteAll hook parts))

def unrouteAll (hook : String) : List Node → List Node
  | [] => []
  | item :: rest => unroute hook item :: unrouteAll hook rest

end

mutual

/-- The names that a tree refers to or binds. Labels and names of properties are not among them. -/
def mentioned : Node → List String
  | .absent => []
  | .many items => mentionedAll items
  | .node _ .labeled (.node _ (.ident ..) _ :: rest) => mentionedAll rest
  | .node _ .breakStatement (.node _ (.ident ..) _ :: rest) => mentionedAll rest
  | .node _ .continueStatement (.node _ (.ident ..) _ :: rest) => mentionedAll rest
  | .node _ form parts => form.mentioned ++ mentionedAll parts

def mentionedAll : List Node → List String
  | [] => []
  | item :: rest => mentioned item ++ mentionedAll rest

end

theorem unrouteAll_eq (hook : String) (items : List Node) :
    unrouteAll hook items = items.map (unroute hook) := by
  induction items with
  | nil => rfl
  | cons item rest ih => rw [unrouteAll,ih,List.map_cons]

theorem mentionedAll_eq (items : List Node) : mentionedAll items = items.flatMap mentioned := by
  induction items with
  | nil => rfl
  | cons item rest ih => rw [mentionedAll,ih,List.flatMap_cons]

theorem mentioned_node {span : Span} {form : Form} {parts : List Node}
    (h : form.takesLabel parts = false) :
    (node span form parts).mentioned = form.mentioned ++ mentionedAll parts := by
  rw [mentioned]
  all_goals
    rintro place ctxt name optional inner rest rfl rfl
    cases h

/-- A label is an identifier, and only what stands after it is mentioned. -/
theorem mentioned_label {span : Span} {form : Form} {parts : List Node}
    (h : form.takesLabel parts = true) :
    ∃ place ctxt name optional inner rest,
      parts = .node place (.ident ctxt name optional) inner :: rest ∧
        (node span form parts).mentioned = mentionedAll rest := by
  cases parts with
  | nil => cases h
  | cons first rest =>
    obtain ⟨hform,hfirst⟩ := Bool.and_eq_true_iff.mp h
    unfold isIdent at hfirst
    split at hfirst
    · cases form with
      | labeled | breakStatement | continueStatement => exact ⟨_,_,_,_,_,_,rfl,rfl⟩
      | _ => cases hform
    · cases hfirst

/-- What a tree mentions, its parts mention, a label apart. -/
theorem not_mem_mentioned_part {name : String} {span : Span} {form : Form} {parts : List Node}
    (h : name ∉ (Node.node span form parts).mentioned) {part : Node} (hpart : part ∈ parts) :
    name ∉ part.mentioned ∨ ∃ place c x o inner, part = .node place (.ident c x o) inner := by
  cases hlabel : form.takesLabel parts with
  | false =>
    rw [mentioned_node hlabel,mentionedAll_eq] at h
    exact .inl fun hm => h (List.mem_append_right _ (List.mem_flatMap.mpr ⟨part,hpart,hm⟩))
  | true =>
    obtain ⟨place,ctxt,label,optional,inner,rest,rfl,hm⟩ := mentioned_label hlabel
    rw [hm,mentionedAll_eq] at h
    rcases List.mem_cons.mp hpart with rfl | hpart
    · exact .inr ⟨_,_,_,_,_,rfl⟩
    · exact .inl fun hm => h (List.mem_flatMap.mpr ⟨part,hpart,hm⟩)

theorem restore_of_not_mem {hook : String} {span : Span} {form : Form} {parts : List Node}
    (h : hook ∉ (Node.node span form parts).mentioned) :
    restore hook (.node span form parts) = .node span form parts := by
  unfold restore
  split
  · rename_i heq
    obtain ⟨rfl,rfl,rfl⟩ := Node.node.inj heq
    rw [if_neg]
    rintro rfl
    simp [mentioned,mentionedAll,Form.mentioned,Form.spelled] at h
  · rename_i heq
    obtain ⟨rfl,rfl,rfl⟩ := Node.node.inj heq
    rw [if_neg]
    rintro ⟨rfl,-⟩
    simp [mentioned,mentionedAll,Form.mentioned,Form.spelled] at h
  · rfl

/-- Routing is undone by putting the uses back. -/
theorem unroute_route (hook : String) (n : Node) (hshape : n.shaped = true)
    (hfree : hook ∉ n.mentioned ∨ ∃ place c x o inner, n = .node place (.ident c x o) inner) :
    unroute hook (route hook n).result = n := by
  induction n using Node.induction with
  | absent => rfl
  | many items ih =>
    rw [shaped,shapedAll_iff] at hshape
    have hitems : hook ∉ mentionedAll items := by
      rcases hfree with h | ⟨_,_,_,_,_,h⟩
      · simpa only [mentioned] using h
      · cases h
    rw [mentionedAll_eq] at hitems
    rw [route,unroute,unrouteAll_eq,routeAll_result,List.map_map]
    congr 1
    rw [List.map_congr_left (g:=id),List.map_id]
    intro item hitem
    exact ih item hitem (hshape item hitem)
      (.inl fun hm => hitems (List.mem_flatMap.mpr ⟨item,hitem,hm⟩))
  | node span form parts ih =>
    simp only [shaped,Bool.and_eq_true,beq_iff_eq,shapedAll_iff] at hshape
    obtain ⟨hlength,hparts⟩ := hshape
    rcases hfree with hfree | ⟨_,_,_,_,_,h⟩
    · have hback : ∀ part ∈ parts, unroute hook (route hook part).result = part := fun part hpart =>
        ih part hpart (hparts part hpart) (not_mem_mentioned_part hfree hpart)
      have hall : ∀ l, (∀ part ∈ l, part ∈ parts) →
          unrouteAll hook (routeAll hook l).result = l := by
        intro l hl
        rw [unrouteAll_eq,routeAll_result,List.map_map,List.map_congr_left (g:=id),List.map_id]
        exact fun part hpart => hback part (hl part hpart)
      obtain ⟨hr,-⟩ | ⟨ctxt,place,inner,rest,rfl,rfl,hr⟩ | ⟨rfl,hr⟩ :=
        route_node_cases hook span form parts
      · rw [hr,unroute,hall parts fun _ h => h,restore_of_not_mem hfree]
      · -- the keyword is a leaf, so nothing of it is lost
        have hinner : inner = [] := by
          have := hparts _ List.mem_cons_self
          simp only [shaped,Bool.and_eq_true,beq_iff_eq] at this
          exact List.eq_nil_of_length_eq_zero this.1
        rw [hr,unroute,unrouteAll,hall rest fun _ h => List.mem_cons_of_mem _ h,hinner]
        simp [identifier,Ident.reference,Ident.named,leaf,unroute,unrouteAll,restore]
      · have hnil : parts = [] := List.eq_nil_of_length_eq_zero hlength
        rw [hr,hnil]
        simp [metaRead,identifier,Ident.reference,Ident.named,leaf,unroute,unrouteAll,restore]
    · obtain ⟨rfl,rfl,rfl⟩ := Node.node.inj h
      have hnil : parts = [] := List.eq_nil_of_length_eq_zero hlength
      rw [hnil]
      rfl

end Node

def Program.mentioned (p : Program) : List String := Node.mentionedAll p.body

def Program.unroute (hook : String) (p : Program) : Program :=
  { p with body := Node.unrouteAll hook p.body }

namespace Hook.Router

/-- A visit leaves no use of the hook, counts each that there was once, and changes nothing else:
the program comes back when the uses are put back. -/
theorem visit_routes_each_use (r : Router) (p : Program) (hshape : p.shaped = true)
    (hfree : r.hook ∉ p.mentioned) :
    (∀ n ∈ (r.visit p).1.subtrees, ¬ n.IsHookUse) ∧
    (r.visit p).2.hook = r.hook ∧
    (r.visit p).2.replaced = r.replaced + p.subtrees.countP (·.IsHookUse) ∧
    (r.visit p).1.unroute r.hook = p := by
  refine ⟨?_,rfl,?_,?_⟩
  · intro n hn huse
    have hsome := (Node.use?_isSome_iff n).mpr huse
    simp only [visit,Program.route,Program.subtrees,Node.subtreesAll_eq,Node.routeAll_result] at hn
    obtain ⟨_,hi,hn⟩ := List.mem_flatMap.mp hn
    obtain ⟨item,-,rfl⟩ := List.mem_map.mp hi
    rw [Node.use?_of_mem_route r.hook item n hn] at hsome
    cases hsome
  · have huses : (Node.routeAll r.hook p.body).uses =
        (Node.subtreesAll p.body).filterMap use? := by
      rw [Node.routeAll_uses,Node.subtreesAll_eq,List.filterMap_flatMap]
      exact congrArg (List.flatMap · p.body) (funext (Node.route_uses r.hook))
    simp only [visit,Program.route,Program.subtrees]
    rw [huses,List.length_filterMap_eq_countP]
    congr 1
    apply List.countP_congr
    intro n _
    simpa using Node.use?_isSome_iff n
  · rw [Program.shaped,Node.shapedAll_iff] at hshape
    rw [Program.mentioned,Node.mentionedAll_eq] at hfree
    have hback : ∀ n ∈ p.body, Node.unroute r.hook (Node.route r.hook n).result = n := by
      intro n hn
      exact Node.unroute_route r.hook n (hshape n hn)
        (.inl fun hm => hfree (List.mem_flatMap.mpr ⟨n,hn,hm⟩))
    simp only [visit,Program.route,Program.unroute]
    rw [Node.unrouteAll_eq,Node.routeAll_result,List.map_map,List.map_congr_left (g:=id),List.map_id]
    exact hback

/-- The script `import(import.meta.meta).meta`. -/
def nestedUses : Program :=
  let read (of : Node) : Node := .node ⟨1,8⟩ .member [of,.leaf ⟨4,8⟩ (.propertyName "meta")]
  let inner := read (.leaf ⟨3,4⟩ (.metaProperty .importMeta))
  let outer := Node.node ⟨1,5⟩ (.call 0) [.leaf ⟨1,2⟩ (.importKeyword .evaluation),
    .many [.node .nowhere (.argument none) [inner]],.absent]
  ⟨.script,⟨1,9⟩,[.node ⟨1,9⟩ .expressionStatement [read outer]],none⟩

theorem visit_nestedUses :
    nestedUses.shaped = true ∧ "$import" ∉ nestedUses.mentioned ∧
    ((Router.mk "$import" 3).visit nestedUses).2.replaced = 5 ∧
    ((Router.mk "$import" 3).visit nestedUses).1.unroute "$import" = nestedUses := by
  have h := visit_routes_each_use ⟨"$import",3⟩ nestedUses (by decide) (by decide)
  exact ⟨by decide,by decide,h.2.2.1,h.2.2.2⟩

end Hook.Router
end AsyncBody
