import AsyncBody.Tree.Reading
import Mathlib.Data.Option.Basic

/-!
Trees as a whole: induction over them, the trees inside a tree, and trees whose forms have the parts
that their layouts ask for, as each tree has that is read from data.
-/
namespace AsyncBody

namespace Node

/-- Induction with a hypothesis for each item of a list and each part of a form. -/
theorem induction {P : Node → Prop} (absent : P .absent)
    (many : ∀ items, (∀ item ∈ items, P item) → P (.many items))
    (node : ∀ span form parts, (∀ part ∈ parts, P part) → P (.node span form parts)) (n : Node) :
    P n := by
  apply Node.rec (motive_1 := P) (motive_2 := fun items => ∀ item ∈ items, P item)
  · exact absent
  · exact many
  · exact node
  · intro item hitem
    cases hitem
  · intro head tail hhead htail item hitem
    cases hitem with
    | head => exact hhead
    | tail _ h => exact htail item h

mutual

/-- The trees inside a tree, inner ones first, itself last. -/
def subtrees : Node → List Node
  | .absent => [.absent]
  | .many items => subtreesAll items ++ [.many items]
  | .node span form parts => subtreesAll parts ++ [.node span form parts]

def subtreesAll : List Node → List Node
  | [] => []
  | item :: rest => subtrees item ++ subtreesAll rest

end

theorem subtreesAll_eq (items : List Node) : subtreesAll items = items.flatMap subtrees := by
  induction items with
  | nil => rfl
  | cons item rest ih => rw [subtreesAll,ih,List.flatMap_cons]

mutual

/-- Whether each form in a tree has as many parts as its layout. -/
def shaped : Node → Bool
  | .absent => true
  | .many items => shapedAll items
  | .node _ form parts => parts.length == form.layout.parts.length && shapedAll parts

def shapedAll : List Node → Bool
  | [] => true
  | item :: rest => shaped item && shapedAll rest

end

theorem shapedAll_iff (items : List Node) :
    shapedAll items = true ↔ ∀ item ∈ items, item.shaped = true := by
  induction items with
  | nil => simp [shapedAll]
  | cons item rest ih => simp [shapedAll,ih]

theorem shaped_node_iff {span : Span} {form : Form} {parts : List Node} :
    (node span form parts).shaped = true ↔
      parts.length = form.layout.parts.length ∧ ∀ part ∈ parts, part.shaped = true := by
  rw [shaped,Bool.and_eq_true,beq_iff_eq,shapedAll_iff]

end Node

def Program.subtrees (p : Program) : List Node := Node.subtreesAll p.body

def Program.shaped (p : Program) : Bool := Node.shapedAll p.body

namespace Node

theorem mapM_eq_some {α β : Type} {f : α → Option β} {l : List α} {r : List β}
    (h : l.mapM f = some r) : r.length = l.length ∧ ∀ b ∈ r, ∃ a ∈ l, f a = some b := by
  induction l generalizing r with
  | nil =>
    simp only [List.mapM_nil,Option.pure_def,Option.some.injEq] at h
    subst h
    simp
  | cons a l ih =>
    simp only [List.mapM_cons,Option.bind_eq_bind,Option.bind_eq_some_iff,Option.pure_def,
      Option.some.injEq] at h
    obtain ⟨b,hb,bs,hbs,rfl⟩ := h
    obtain ⟨hlength,hmem⟩ := ih hbs
    refine ⟨by simp [hlength],fun c hc => ?_⟩
    rcases List.mem_cons.mp hc with rfl | hc
    · exact ⟨a,List.mem_cons_self,hb⟩
    · obtain ⟨d,hd,hdc⟩ := hmem c hc
      exact ⟨d,List.mem_cons_of_mem _ hd,hdc⟩

theorem inlinedOf?_parts {j : Json} {form inner : Form} (h : form.inlinedOf? j = some inner) :
    (inner.layout.parts.filterMap fun | .field name => some name | .inlined => none).length =
      inner.layout.parts.length := by
  unfold Form.inlinedOf? at h
  split at h
  iterate 3
    simp only [Form.functionOf?,Option.bind_eq_bind,Option.bind_eq_some_iff,Option.pure_def,
      Option.some.injEq] at h
    obtain ⟨_,-,_,-,_,-,rfl⟩ := h
    rfl
  iterate 2
    simp only [Form.classOf?,Option.bind_eq_bind,Option.bind_eq_some_iff,Option.pure_def,
      Option.some.injEq] at h
    obtain ⟨_,-,_,-,rfl⟩ := h
    rfl
  cases h

section Fields

variable {j : Json} {fields : List (String × Node)}

theorem mem_of_lookup {name : String} {n : Node} (h : fields.lookup name = some n) :
    ∃ field ∈ fields, field.2 = n := by
  induction fields with
  | nil => cases h
  | cons field rest ih =>
    obtain ⟨key,value⟩ := field
    rw [List.lookup_cons] at h
    split at h
    · cases h
      exact ⟨_,List.mem_cons_self,rfl⟩
    · obtain ⟨f,hf,hn⟩ := ih h
      exact ⟨f,List.mem_cons_of_mem _ hf,hn⟩

theorem shaped_of_lookup (hfields : ∀ field ∈ fields, field.2.shaped = true) {name : String}
    {n : Node} (h : fields.lookup name = some n) : n.shaped = true := by
  obtain ⟨field,hmem,rfl⟩ := mem_of_lookup h
  exact hfields field hmem

theorem shaped_of_partOf? (hfields : ∀ field ∈ fields, field.2.shaped = true) {form : Form}
    {part : Part} {n : Node} (h : partOf? j form fields part = some n) : n.shaped = true := by
  cases part with
  | field name => exact shaped_of_lookup hfields h
  | inlined =>
    simp only [partOf?,Option.bind_eq_bind,Option.bind_eq_some_iff,Option.pure_def,
      Option.some.injEq] at h
    obtain ⟨inner,hinner,span,-,parts,hparts,rfl⟩ := h
    obtain ⟨hlength,hmem⟩ := mapM_eq_some hparts
    simp only [shaped,hlength.trans (inlinedOf?_parts hinner),beq_self_eq_true,Bool.true_and,
      shapedAll_iff]
    intro part hpart
    obtain ⟨name,-,hlookup⟩ := hmem part hpart
    exact shaped_of_lookup hfields hlookup

theorem shaped_of_ofForm? (hfields : ∀ field ∈ fields, field.2.shaped = true) {n : Node}
    (h : ofForm? j fields = some n) : n.shaped = true := by
  simp only [ofForm?,Option.bind_eq_bind,Option.bind_eq_some_iff,Option.pure_def,
    Option.some.injEq] at h
  obtain ⟨form,-,span,-,parts,hparts,rfl⟩ := h
  obtain ⟨hlength,hmem⟩ := mapM_eq_some hparts
  simp only [shaped,hlength,beq_self_eq_true,Bool.true_and,shapedAll_iff]
  intro part hpart
  obtain ⟨_,-,hp⟩ := hmem part hpart
  exact shaped_of_partOf? hfields hp

theorem shaped_of_ofOther? (hfields : ∀ field ∈ fields, field.2.shaped = true) {n : Node}
    (h : ofOther? j fields = some n) : n.shaped = true := by
  simp only [ofOther?,Option.bind_eq_bind,Option.bind_eq_some_iff,Option.pure_def,
    Option.some.injEq] at h
  obtain ⟨kind,-,parts,hparts,rfl⟩ := h
  obtain ⟨hlength,hmem⟩ := mapM_eq_some hparts
  simp only [shaped,hlength,shapedAll_iff,Form.layout,Layout.spanless,List.length_map,
    beq_self_eq_true,Bool.true_and]
  intro part hpart
  obtain ⟨name,-,hlookup⟩ := hmem part hpart
  exact shaped_of_lookup hfields hlookup

end Fields

mutual

/-- A tree that is read has the parts that the layouts of its forms ask for. -/
theorem shaped_of_ofJson? : ∀ (j : Json) {n : Node}, ofJson? j = some n → n.shaped = true
  | .null, n, h => by
    cases h
    rfl
  | .bool _, _, h => by cases h
  | .number _, _, h => by cases h
  | .string _, _, h => by cases h
  | .array items, n, h => by
    obtain ⟨nodes,hnodes,rfl⟩ := Option.map_eq_some_iff.mp h
    exact shaped_of_ofItems? items hnodes
  | .object fields, n, h => by
    have hfields := shaped_of_ofFields fields
    rcases (Option.orElse_eq_some ..).mp h with h | ⟨-,h⟩
    · exact shaped_of_ofForm? hfields h
    · exact shaped_of_ofOther? hfields h

theorem shaped_of_ofItems? : ∀ (items : List Json) {nodes : List Node},
    ofItems? items = some nodes → shapedAll nodes = true
  | [], nodes, h => by
    cases h
    rfl
  | item :: rest, nodes, h => by
    simp only [ofItems?,Option.bind_eq_bind,Option.bind_eq_some_iff,Option.pure_def,
      Option.some.injEq] at h
    obtain ⟨first,hfirst,others,hothers,rfl⟩ := h
    simp [shapedAll,shaped_of_ofJson? item hfirst,shaped_of_ofItems? rest hothers]

theorem shaped_of_ofFields : ∀ (fields : List (String × Json)),
    ∀ field ∈ ofFields fields, field.2.shaped = true
  | [], field, h => by cases h
  | (name,value) :: rest, field, h => by
    rw [ofFields] at h
    split at h
    · rename_i part hpart
      rcases List.mem_cons.mp h with rfl | h
      · exact shaped_of_ofJson? value hpart
      · exact shaped_of_ofFields rest field h
    · exact shaped_of_ofFields rest field h

end

end Node

theorem Program.shaped_of_ofJson? {j : Json} {p : Program} (h : Program.ofJson? j = some p) :
    p.shaped = true := by
  simp only [Program.ofJson?,Option.bind_eq_bind,Option.bind_eq_some_iff,Option.pure_def,
    Option.some.injEq] at h
  obtain ⟨_,-,_,-,_,-,_,-,items,-,body,hbody,_,-,_,-,rfl⟩ := h
  exact Node.shaped_of_ofItems? items hbody

end AsyncBody
