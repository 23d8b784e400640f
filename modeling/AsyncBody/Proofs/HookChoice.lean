import AsyncBody.Proofs.SuppliedNames
import AsyncBody.Proofs.UnseenScopes

/-!
The choice of the hook does not matter: lowered for a hook that it does not mention, a program is
accepted, and what it becomes for another such hook differs in the name of the hook only.
-/
namespace AsyncBody

open Hook Node NameSupply

section Accepted

variable {x : String}

theorem mentioned_of_idents {span : Span} {form : Form} {parts : List Node} {part : Node}
    (hpart : part ∈ parts) (h : namesIn part.boundIdents x = true) :
    x ∈ (Node.node span form parts).mentioned := by
  obtain ⟨id,hid,rfl⟩ := List.mem_map.mp (namesIn_iff.mp h)
  refine mem_mentioned_of_part hpart (boundIdents_mentioned hid) ?_
  rintro _ _ _ _ _ rfl
  cases hid

theorem mentioned_of_items {span : Span} {form : Form} {parts : List Node} {part item : Node}
    (hpart : part ∈ parts) (hitem : item ∈ part.items) (h : x ∈ item.mentioned) :
    x ∈ (Node.node span form parts).mentioned := by
  cases part with
  | many items => exact mem_mentioned_of_part hpart (mem_mentioned_of_item hitem h) nofun
  | absent => cases hitem
  | node => cases hitem

theorem bindsParameter_mentioned {param : Node} (h : bindsParameter x param = true) :
    x ∈ param.mentioned := by
  unfold bindsParameter at h
  split at h
  · exact mentioned_of_idents (by simp) h
  · cases h

theorem bindsAsDeclaration_mentioned {statement : Node} (h : bindsAsDeclaration x statement = true) :
    x ∈ statement.mentioned := by
  obtain ⟨id,hid,rfl⟩ := List.mem_map.mp (namesIn_iff.mp h)
  exact declaredIdents_mentioned hid

theorem bindsHead_mentioned {head : Node} (h : bindsHead x head = true) : x ∈ head.mentioned := by
  unfold bindsHead at h
  split at h
  · obtain ⟨id,hid,rfl⟩ := List.mem_map.mp (namesIn_iff.mp (Bool.and_eq_true_iff.mp h).2)
    exact mentioned_of_declarators List.mem_cons_self hid
  · cases h

theorem bindsCase_mentioned {case : Node} (h : bindsCase x case = true) : x ∈ case.mentioned := by
  unfold bindsCase at h
  split at h
  · obtain ⟨statement,hstatement,hbinds⟩ := List.any_eq_true.mp h
    exact mentioned_of_items (by simp) hstatement (bindsAsDeclaration_mentioned hbinds)
  · cases h

theorem rebinds_mentioned {span : Span} {form : Form} {parts : List Node}
    (h : rebinds x form parts = true) : x ∈ (Node.node span form parts).mentioned := by
  have hparams : ∀ params ∈ parts, params.items.any (bindsParameter x) = true →
      x ∈ (Node.node span form parts).mentioned := by
    intro params hmem hbinds
    obtain ⟨param,hparam,hbinds⟩ := List.any_eq_true.mp hbinds
    exact mentioned_of_items hmem hparam (bindsParameter_mentioned hbinds)
  have hbody : ∀ body ∈ parts, bindsBody x body = true →
      x ∈ (Node.node span form parts).mentioned := by
    intro body hmem hbinds
    have hvars := List.contains_iff_mem.mp hbinds
    refine mem_mentioned_of_part hmem (collected_mentioned (.inl hvars)) ?_
    rintro _ _ _ _ _ rfl
    cases hvars
  have hhead : ∀ head ∈ parts, bindsHead x head = true →
      x ∈ (Node.node span form parts).mentioned := by
    intro head hmem hbinds
    refine mem_mentioned_of_part hmem (bindsHead_mentioned hbinds) ?_
    rintro _ _ _ _ _ rfl
    cases hbinds
  have hname : ∀ name : Option Ident, bindsOwnName x name = true →
      x ∈ name.toList.map (·.name) := fun name hbinds => namesIn_iff.mp hbinds
  unfold rebinds at h
  split at h
  · rcases Bool.or_eq_true_iff.mp h with h | h
    · exact hparams _ List.mem_cons_self h
    · exact hbody _ (by simp) h
  · rcases Bool.or_eq_true_iff.mp h with h | h
    · exact mentioned_of_idents List.mem_cons_self h
    · exact hbody _ (by simp) h
  · rcases Bool.or_eq_true_iff.mp h with h | h
    · exact hparams _ (by simp) h
    · exact hbody _ (by simp) h
  · exact hbody _ (by simp) h
  · rcases Bool.or_eq_true_iff.mp h with h | h
    · exact mentioned_of_idents (by simp) h
    · exact hbody _ (by simp) h
  · exact hbody _ (by simp) h
  · rw [mentioned_node (Form.takesLabel_eq_false rfl _)]
    exact List.mem_append_left _ (namesIn_iff.mp h)
  · rw [mentioned_node (Form.takesLabel_eq_false rfl _)]
    exact List.mem_append_left _ (namesIn_iff.mp h)
  · obtain ⟨statement,hstatement,hbinds⟩ := List.any_eq_true.mp h
    exact mentioned_of_items List.mem_cons_self hstatement (bindsAsDeclaration_mentioned hbinds)
  · exact mentioned_of_idents List.mem_cons_self h
  · exact hhead _ List.mem_cons_self h
  · exact hhead _ List.mem_cons_self h
  · exact hhead _ List.mem_cons_self h
  · cases h

theorem shadowsAt_mentioned {span : Span} {form : Form} {parts : List Node} {i : Nat}
    (h : shadowsAt x form parts i false = true) : x ∈ (Node.node span form parts).mentioned := by
  unfold shadowsAt at h
  split at h
  · obtain ⟨case,hcase,hbinds⟩ := List.any_eq_true.mp h
    exact mentioned_of_items (by simp) hcase (bindsCase_mentioned hbinds)
  · exact rebinds_mentioned h

theorem Node.HasShadowedUse.mentioned {n : Node} (hshape : n.shaped = true)
    (h : n.HasShadowedUse x) : x ∈ n.mentioned := by
  induction n using Node.induction with
  | absent =>
    obtain ⟨_,_,_,hmem,-⟩ := h
    cases List.mem_singleton.mp hmem
  | many items ih =>
    rw [shaped,shapedAll_iff] at hshape
    obtain ⟨item,hitem,h⟩ := hasShadowedUse_many.mp h
    exact mem_mentioned_of_item hitem (ih item hitem (hshape item hitem) h)
  | node span form parts ih =>
    rcases hasShadowedUse_node.mp h with ⟨i,part,-,hshadows,-⟩ | ⟨part,hpart,h⟩
    · exact shadowsAt_mentioned hshadows
    · have hpartShape := (shaped_node_iff.mp hshape).2 part hpart
      refine mem_mentioned_of_part hpart (ih part hpart hpartShape h) ?_
      rintro _ _ _ _ inner rfl
      obtain rfl : inner = [] := List.eq_nil_of_length_eq_zero (shaped_node_iff.mp hpartShape).1
      rcases hasShadowedUse_node.mp h with ⟨_,_,hi,-⟩ | ⟨_,hmem,-⟩
      · cases hi
      · cases hmem

end Accepted

namespace Program

variable {p : Program} {options : Options}

theorem topLevelNames_mentioned {x : String} (h : x ∈ p.topLevelNames) : x ∈ p.mentioned := by
  rw [Program.mentioned,mentionedAll_eq]
  rcases List.mem_append.mp h with h | h
  · rw [collectedVarsAll_eq] at h
    obtain ⟨item,hitem,h⟩ := List.mem_flatMap.mp h
    exact List.mem_flatMap.mpr ⟨item,hitem,collected_mentioned (.inl h)⟩
  · obtain ⟨item,hitem,h⟩ := List.mem_flatMap.mp h
    exact List.mem_flatMap.mpr ⟨item,hitem,itemNames_mentioned h⟩

theorem toFunctionBody_of_not_mentioned (hshape : p.shaped = true)
    (hvalid : options.validate = .ok ()) (h : options.importName ∉ p.mentioned) :
    (p.toFunctionBody options) =
      ⟨.ok (p.lower options.importName (.ofProgram p options.importName)).result,
        (p.lower options.importName (.ofProgram p options.importName)).events⟩ := by
  have htop : options.importName ∉ p.topLevelNames := fun htop => h (topLevelNames_mentioned htop)
  have huses : p.shadowedUses options.importName = [] := by
    refine (shadowedUses_eq_nil_iff _ p).mpr fun hshadowed => h ?_
    exact hshadowed.mentioned (n := .many p.body) hshape
  exact toFunctionBody_of_clear hvalid htop huses

theorem ofProgram_alike (p : Program) {a b : String} (ha : ¬ IsSynthetic a) (hb : ¬ IsSynthetic b) :
    Alike (.ofProgram p a) (.ofProgram p b) := by
  refine ⟨rfl,fun name hname => ?_⟩
  have hne : name ≠ a ∧ name ≠ b := ⟨fun h => ha (h ▸ hname),fun h => hb (h ▸ hname)⟩
  simp [NameSupply.ofProgram,hne.1,hne.2]

theorem lower_alike (p : Program) (hook : String) {s t : NameSupply} (h : Alike s t) :
    p.lower hook s = p.lower hook t :=
  (lower_eq_of_draw (draw_eq_of_iff h.mem _)).symm

theorem assemble_rename {a : String} {ls : List Lowering.Lowered}
    (h : ∀ l ∈ ls, ∀ e ∈ l.exports, e.value.name ≠ a) (b : String) (span : Span)
    (uses : List HookUse) :
    assemble span uses (ls.map (.rename a b)) =
      ⟨(assemble span uses ls).result.rename a b,(assemble span uses ls).events⟩ := by
  have hexports : (ls.map (Lowering.Lowered.rename a b)).flatMap (·.exports) =
      ls.flatMap (·.exports) := by
    rw [List.flatMap_map]
    rfl
  have hevents : (ls.map (Lowering.Lowered.rename a b)).flatMap (·.events) =
      ls.flatMap (·.events) := by
    rw [List.flatMap_map]
    rfl
  have hrequests : (ls.map (Lowering.Lowered.rename a b)).foldr (·.requests + ·) 0 =
      ls.foldr (·.requests + ·) 0 := by
    rw [List.foldr_map]
    rfl
  have hstatements : (ls.map (Lowering.Lowered.rename a b)).filterMap (·.statement) =
      renameAll a b (ls.filterMap (·.statement)) := by
    rw [renameAll_eq,List.filterMap_map,List.map_filterMap]
    rfl
  have hfree : ∀ e ∈ ls.flatMap (·.exports), e.value.name ≠ a := by
    intro e he
    obtain ⟨l,hl,he⟩ := List.mem_flatMap.mp he
    exact h l hl e he
  have hreturn := Export.rename_returnStatement (b := b) hfree span
  simp only [assemble,hexports,hevents,hrequests,hstatements,Program.rename]
  rw [renameAll_eq,renameAll_eq,List.map_append,List.map_singleton,hreturn]

theorem route_uses_eq (p : Program) (a b : String) : (p.route a).uses = (p.route b).uses := by
  show (routeAll a p.body).uses = (routeAll b p.body).uses
  rw [routeAll_uses,routeAll_uses]
  simp only [route_uses]

/-- With the same names taken, a program is lowered for another hook to the same body, up to the
name of the hook. -/
theorem lower_rename {a : String} (hne : ¬ IsSynthetic a) (hshape : p.shaped = true)
    (h : a ∉ p.mentioned) (b : String) (s : NameSupply) :
    p.lower b s = ⟨(p.lower a s).result.rename a b,(p.lower a s).events⟩ := by
  rw [Program.shaped,shapedAll_iff] at hshape
  rw [Program.mentioned,mentionedAll_eq] at h
  have hfree : ∀ n ∈ p.body, a ∉ n.mentioned := fun n hn hm => h (List.mem_flatMap.mpr ⟨n,hn,hm⟩)
  -- An exported local is mentioned by its item or fresh, so the `return` does not change.
  have hexports : ∀ l ∈ (Lowering.items a (p.body.map fun n => (Node.route a n).result) s).1,
      ∀ e ∈ l.exports, e.value.name ≠ a := by
    intro l hl e he heq
    have hvalues := Lowering.items_forall₂ a (R := fun n l =>
      ∀ e ∈ l.exports, e.value.name ∈ n.mentioned ∨ IsSynthetic e.value.name)
      (fun n (_ : n ∈ p.body) s => Lowering.item_exports_value a n s) s
    rw [routeAll_result] at hvalues
    obtain ⟨n,hn,hvalue⟩ := Lowering.exists_of_mem_forall₂ hvalues hl
    rcases hvalue e he with hm | hsynthetic
    · exact hfree n hn (heq ▸ hm)
    · exact hne (heq ▸ hsynthetic)
  rw [lower_eq_assemble,lower_eq_assemble,Lowering.items_rename hne hshape hfree s,
    route_uses_eq p b a,assemble_rename hexports]

/-- A name that a program does not mention is in its body only if it is the hook or a fresh name. -/
theorem not_mem_mentioned_lower {x hook : String} (hne : hook ≠ x) (hsynthetic : ¬ IsSynthetic x)
    (hshape : p.shaped = true) (h : x ∉ p.mentioned) (s : NameSupply) :
    x ∉ (p.lower hook s).result.mentioned := by
  -- The body is that for the hook `x`, with another name in the place of `x`.
  rw [lower_rename hsynthetic hshape h hook s]
  show x ∉ (Node.many (p.lower x s).result.body |>.rename x hook).mentioned
  exact not_mem_mentioned_rename hne.symm _

/-- A name that a program does not spell is spelled in its body only if it is the hook, a fresh name
or a name of the properties that the lowering adds. -/
theorem not_mem_spelled_lower {x hook : String} (hne : hook ≠ x) (hsynthetic : ¬ IsSynthetic x)
    (hadded : x ∉ ["meta","with","default"]) (h : x ∉ spelledAll p.body) (s : NameSupply) :
    x ∉ spelledAll (p.lower hook s).result.body := by
  simp only [List.mem_cons,List.not_mem_nil,or_false,not_or] at hadded
  have hadmits : Admits (· ≠ x) hook := {
    hook := hne
    fresh := fun name hname heq => hsynthetic (heq ▸ hname)
    metaKey := Ne.symm hadded.1
    withKey := Ne.symm hadded.2.1
    defaultKey := Ne.symm hadded.2.2 }
  rw [spelledAll_eq] at h ⊢
  intro hm
  obtain ⟨statement,hstatement,hm⟩ := List.mem_flatMap.mp hm
  refine lower_spelledIn hadmits (fun n hn name hname heq => ?_) s statement hstatement x hm rfl
  exact h (List.mem_flatMap.mpr ⟨n,hn,heq ▸ hname⟩)

theorem mentioned_wrap (options : Options) (body : Program) :
    (options.wrap body).mentioned = options.importName :: body.mentioned := by
  simp [Options.wrap,Options.asyncFunction,Options.parameter,Ident.pattern,Ident.named,
    Program.mentioned,Node.mentioned,mentionedAll,Form.mentioned,Form.spelled]

theorem spelledAll_wrap (options : Options) (body : Program) :
    spelledAll (options.wrap body).body = options.importName :: spelledAll body.body := by
  simp [Options.wrap,Options.asyncFunction,Options.parameter,Ident.pattern,Ident.named,
    spelled,spelledAll,Form.spelled]

theorem wrap_rename (a b : Options) (body : Program) :
    b.wrap (body.rename a.importName b.importName) =
      (a.wrap body).rename a.importName b.importName := by
  simp [Options.wrap,Options.asyncFunction,Options.parameter,Ident.pattern,Ident.named,
    Program.rename,Node.rename,Node.renameAll,Form.rename,renamed]

/-- Two hooks that a program does not mention, none of them of the kind of fresh names: the program
is accepted for both, and the bodies and the functions around them are the same up to the name of
the hook, and so is what is reported. For whatever hook a program is accepted, the default hook is
in the function only if it is that hook or is in the program. -/
theorem toFunctionBody_rename (p : Program) (hshape : p.shaped = true) :
    (∀ a b : Options, a.validate = .ok () → b.validate = .ok () →
      a.importName ∉ p.mentioned → b.importName ∉ p.mentioned →
      ¬ IsSynthetic a.importName → ¬ IsSynthetic b.importName →
      ∃ body, (p.toFunctionBody a).result = .ok body ∧
        (p.toFunctionBody b).result = .ok (body.rename a.importName b.importName) ∧
        b.wrap (body.rename a.importName b.importName) =
          (a.wrap body).rename a.importName b.importName ∧
        (p.toFunctionBody b).events = (p.toFunctionBody a).events) ∧
    ∀ (options : Options) (body : Program), (p.toFunctionBody options).result = .ok body →
      options.importName ≠ ({} : Options).importName →
      (({} : Options).importName ∉ p.mentioned →
        ({} : Options).importName ∉ (options.wrap body).mentioned) ∧
      (({} : Options).importName ∉ spelledAll p.body →
        ({} : Options).importName ∉ spelledAll (options.wrap body).body) := by
  refine ⟨fun a b ha hb hap hbp has hbs => ?_,fun options body hbody hne => ⟨fun h => ?_,fun h => ?_⟩⟩
  · -- The supply for `b` is alike that for `a`, and for one supply the body is renamed.
    have halike := lower_alike p b.importName (ofProgram_alike p hbs has)
    have hrename := lower_rename has hshape hap b.importName (.ofProgram p a.importName)
    rw [toFunctionBody_of_not_mentioned hshape ha hap,toFunctionBody_of_not_mentioned hshape hb hbp,
      halike,hrename]
    exact ⟨_,rfl,rfl,wrap_rename a b _,rfl⟩
  · obtain ⟨-,-,-,rfl⟩ := toFunctionBody_eq_ok.mp hbody
    rw [mentioned_wrap,List.mem_cons,not_or]
    exact ⟨hne.symm,not_mem_mentioned_lower hne (by decide) hshape h _⟩
  · obtain ⟨-,-,-,rfl⟩ := toFunctionBody_eq_ok.mp hbody
    rw [spelledAll_wrap,List.mem_cons,not_or]
    exact ⟨hne.symm,not_mem_spelled_lower hne (by decide) (by decide) h _⟩

/-- `import x from "m" with { type: "json" }; export default import.meta;` -/
def attributedImport : Program :=
  let attributes : Node := .node .nowhere .object [.many [.node .nowhere .keyValue
    [.leaf .nowhere (.propertyName "type"),(StringLiteral.plain "json" .nowhere).toNode]]]
  ⟨.module,.nowhere,
    [ .node .nowhere (.importDeclaration [.default .nowhere (.named "x" .nowhere)]
        (.plain "m" .nowhere) false .evaluation) [attributes],
      .node .nowhere .exportDefaultExpression [.leaf .nowhere (.metaProperty .importMeta)] ],none⟩

theorem attributedImport_rename :
    ∃ body, (attributedImport.toFunctionBody ⟨"type"⟩).result = .ok body ∧
      (attributedImport.toFunctionBody ⟨"meta"⟩).result = .ok (body.rename "type" "meta") ∧
      Options.wrap ⟨"meta"⟩ (body.rename "type" "meta") =
        (Options.wrap ⟨"type"⟩ body).rename "type" "meta" ∧
      "$import" ∉ spelledAll (Options.wrap ⟨"type"⟩ body).body := by
  obtain ⟨hrename,hdefault⟩ := toFunctionBody_rename attributedImport (by decide)
  obtain ⟨body,ha,hb,hwrap,-⟩ := hrename ⟨"type"⟩ ⟨"meta"⟩ rfl rfl (by decide) (by decide) (by decide)
    (by decide)
  exact ⟨body,ha,hb,hwrap,(hdefault ⟨"type"⟩ body ha (by decide)).2 (by decide)⟩

end Program

end AsyncBody
