import AsyncBody.Proofs.Bindings
import Mathlib.Data.List.Nodup
import Mathlib.Data.List.Perm.Basic

/-!
What the items of a program declare at run time, kind by kind, and when two declarations of a name
clash. A function declares its name here whether it has a body or not: an overload is a signature
beside a function of the same name, and no clash. Where a signature without its function matters,
`BindsValue` leaves it out.
-/
namespace AsyncBody

/-- How a name is bound. A variable can be bound repeatedly, and so can what is merged with other
declarations of its name. -/
inductive BindingKind where
  | variable
  | function
  | lexical
deriving DecidableEq, Repr

abbrev Declared := BindingKind × String

def ImportSpecifier.isType : ImportSpecifier → Bool
  | .named _ _ _ typeOnly => typeOnly
  | .default _ _ => false
  | .whole _ _ => false

def ExportSpecifier.isType : ExportSpecifier → Bool
  | .named _ _ _ typeOnly => typeOnly
  | _ => false

def ImportSpecifier.isWhole : ImportSpecifier → Bool
  | .whole _ _ => true
  | _ => false

def ExportSpecifier.isWhole : ExportSpecifier → Bool
  | .whole _ _ => true
  | _ => false

namespace Node

def bindingKind : Node → BindingKind
  | .node _ (.functionDeclaration ..) _ => .function
  | .node _ (.variableDeclaration _ .var _) _ => .variable
  | .node _ (.enumDeclaration ..) _ => .variable
  | .node _ (.moduleDeclaration ..) _ => .variable
  | _ => .lexical

def declared (statement : Node) : List Declared :=
  statement.valueNames.map fun name => (statement.bindingKind,name)

/-- What a default export declares: a function or class its name, if it has one. -/
def defaultDeclared : Node → List Declared
  | .node _ (.functionExpression name) _ => name.toList.map fun id => (.function,id.name)
  | .node _ (.classExpression name) _ => name.toList.map fun id => (.lexical,id.name)
  | declaration => declaration.declared

/-- What an item of a module declares at run time. Imports of types are not among it. -/
def itemDeclared : Node → List Declared
  | .node _ (.importDeclaration specifiers _ typeOnly _) [_] =>
    if typeOnly then []
    else (specifiers.filter (! ·.isType)).map fun s => (.lexical,s.bound.name)
  | .node _ .exportDeclaration [declaration] => declaration.declared
  | .node _ .exportDefaultDeclaration [declaration] => declaration.defaultDeclared
  | .node _ (.importEquals _ typeOnly name) [_] => if typeOnly then [] else [(.lexical,name.name)]
  | statement => statement.declared

def bindsWholeOnce : Node → Bool
  | .node _ (.importDeclaration specifiers ..) _ => specifiers.countP (·.isWhole) ≤ 1
  | .node _ (.exportNamed specifiers ..) _ => specifiers.countP (·.isWhole) ≤ 1
  | _ => true

def itemHoisted : Node → List String
  | .node _ .exportDefaultDeclaration [declaration] => declaration.hoistedVars
  | statement => statement.hoistedVars

section Routing

variable (hook : String)

@[simp] theorem bindingKind_route (n : Node) :
    (route hook n).result.bindingKind = n.bindingKind := by
  cases n with
  | absent => rfl
  | many items => rfl
  | node span form parts =>
    rw [apply_route hook bindingKind (fun _ _ _ _ => rfl) fun _ _ => rfl]
    cases form with
    | variableDeclaration _ kind _ => cases kind <;> rfl
    | _ => rfl

@[simp] theorem declared_route (n : Node) : (route hook n).result.declared = n.declared := by
  simp [declared]

end Routing

section Mentioned

theorem declared_mentioned {n : Node} {d : Declared} (h : d ∈ n.declared) :
    d.2 ∈ n.mentioned := by
  obtain ⟨name,hname,rfl⟩ := List.mem_map.mp h
  exact valueNames_mentioned hname

theorem defaultDeclared_mentioned {n : Node} {d : Declared} (h : d ∈ n.defaultDeclared) :
    d.2 ∈ n.mentioned := by
  unfold defaultDeclared at h
  split at h
  · obtain ⟨id,hid,rfl⟩ := List.mem_map.mp h
    exact List.mem_append_left _ (List.mem_map_of_mem hid)
  · obtain ⟨id,hid,rfl⟩ := List.mem_map.mp h
    exact List.mem_append_left _ (List.mem_map_of_mem hid)
  · exact declared_mentioned h

theorem itemDeclared_mentioned {n : Node} {d : Declared} (h : d ∈ n.itemDeclared) :
    d.2 ∈ n.mentioned := by
  unfold itemDeclared at h
  split at h
  · split at h
    · cases h
    · obtain ⟨s,hs,rfl⟩ := List.mem_map.mp h
      exact List.mem_append_left _ (List.mem_map_of_mem (List.mem_filter.mp hs).1)
  · refine mem_mentioned_of_part List.mem_cons_self (declared_mentioned h) ?_
    rintro _ _ _ _ _ rfl
    cases h
  · refine mem_mentioned_of_part List.mem_cons_self (defaultDeclared_mentioned h) ?_
    rintro _ _ _ _ _ rfl
    cases h
  · split at h
    · cases h
    · obtain rfl := List.mem_singleton.mp h
      exact List.mem_append_left _ List.mem_cons_self
  · exact declared_mentioned h

theorem itemHoisted_mentioned {n : Node} {name : String} (h : name ∈ n.itemHoisted) :
    name ∈ n.mentioned := by
  unfold itemHoisted at h
  split at h
  · refine mem_mentioned_of_part List.mem_cons_self (hoistedVars_mentioned h) ?_
    rintro _ _ _ _ _ rfl
    cases h
  · exact hoistedVars_mentioned h

theorem itemNames_mentioned {n : Node} {name : String} (h : name ∈ n.itemNames) :
    name ∈ n.mentioned := by
  unfold itemNames at h
  split at h
  · exact List.mem_append_left _ h
  · refine mem_mentioned_of_part List.mem_cons_self (valueNames_mentioned h) ?_
    rintro _ _ _ _ _ rfl
    simp [valueNames,declaredIdents] at h
  · refine mem_mentioned_of_part List.mem_cons_self (List.mem_append_left _ h) ?_
    rintro _ _ _ _ _ ⟨⟩
  · refine mem_mentioned_of_part List.mem_cons_self (List.mem_append_left _ h) ?_
    rintro _ _ _ _ _ ⟨⟩
  · exact List.mem_append_left _ h
  · split at h
    · exact valueNames_mentioned h
    · cases h

end Mentioned

section Names

variable {n : Node}

theorem itemDeclared_itemNames
    (hdefault : ∀ span declaration, n = .node span .exportDefaultDeclaration [declaration] →
      declaration.valueNames = [])
    {d : Declared} (h : d ∈ n.itemDeclared) : d.2 ∈ n.itemNames := by
  unfold itemDeclared at h
  split at h
  · split at h
    · cases h
    · obtain ⟨specifier,hspecifier,rfl⟩ := List.mem_map.mp h
      exact List.mem_map_of_mem (List.mem_filter.mp hspecifier).1
  · obtain ⟨name,hname,rfl⟩ := List.mem_map.mp h
    exact hname
  · unfold defaultDeclared at h
    split at h
    · obtain ⟨id,hid,rfl⟩ := List.mem_map.mp h
      exact List.mem_map_of_mem hid
    · obtain ⟨id,hid,rfl⟩ := List.mem_map.mp h
      exact List.mem_map_of_mem hid
    · obtain ⟨name,hname,rfl⟩ := List.mem_map.mp h
      rw [hdefault _ _ rfl] at hname
      cases hname
  · split at h
    · cases h
    · obtain rfl := List.mem_singleton.mp h
      exact List.mem_singleton.mpr rfl
  · obtain ⟨name,hname,rfl⟩ := List.mem_map.mp h
    exact itemNames_of_valueNames hname

theorem itemHoisted_eq
    (hdefault : ∀ span declaration, n = .node span .exportDefaultDeclaration [declaration] →
      declaration.hoistedVars = []) :
    n.itemHoisted = n.hoistedVars := by
  unfold itemHoisted
  split
  · exact hdefault _ _ rfl
  · rfl

end Names

end Node

def lexicalNames (ds : List Declared) : List String :=
  (ds.filter (·.1 == .lexical)).map Prod.snd

/-- No name that is bound lexically is bound again: lexically, as a function or by a `var`. -/
structure NoLexicalClash (ds : List Declared) (hoisted : List String) : Prop where
  nodup : (lexicalNames ds).Nodup
  others : ∀ d ∈ ds, d.1 ≠ .lexical → d.2 ∉ lexicalNames ds
  hoisted : ∀ name ∈ hoisted, name ∉ lexicalNames ds

namespace NoLexicalClash

variable {ds es made : List Declared} {hoisted : List String}

theorem lexicalNames_subset {name : String} (h : name ∈ lexicalNames ds) :
    name ∈ ds.map Prod.snd := by
  obtain ⟨d,hd,rfl⟩ := List.mem_map.mp h
  exact List.mem_map_of_mem (List.mem_filter.mp hd).1

theorem lexicalNames_append : lexicalNames (ds++es) = lexicalNames ds ++ lexicalNames es := by
  simp [lexicalNames]

theorem lexicalNames_perm (hperm : es.Perm ds) : (lexicalNames es).Perm (lexicalNames ds) :=
  (hperm.filter _).map _

theorem of_perm (h : NoLexicalClash ds hoisted) (hperm : es.Perm ds) :
    NoLexicalClash es hoisted := by
  have hlexical := lexicalNames_perm hperm
  refine ⟨hlexical.nodup_iff.mpr h.nodup,?_,?_⟩
  · intro d hd hkind hm
    exact h.others d (hperm.mem_iff.mp hd) hkind (hlexical.mem_iff.mp hm)
  · intro name hname hm
    exact h.hoisted name hname (hlexical.mem_iff.mp hm)

theorem lexicalNames_append_nodup (h : (lexicalNames ds).Nodup)
    (hnodup : (made.map Prod.snd).Nodup)
    (hfresh : ∀ name ∈ made.map Prod.snd, name ∉ ds.map Prod.snd) :
    (lexicalNames (ds++made)).Nodup := by
  have hmade : (lexicalNames made).Nodup :=
    hnodup.sublist (List.Sublist.map _ List.filter_sublist)
  rw [lexicalNames_append]
  refine List.nodup_append.mpr ⟨h,hmade,?_⟩
  rintro name hold _ hnew rfl
  exact hfresh name (lexicalNames_subset hnew) (lexicalNames_subset hold)

theorem append (h : NoLexicalClash ds hoisted) (hnodup : (made.map Prod.snd).Nodup)
    (hfresh : ∀ name ∈ made.map Prod.snd, name ∉ ds.map Prod.snd ∧ name ∉ hoisted) :
    NoLexicalClash (ds++made) hoisted := by
  refine ⟨?_,?_,?_⟩
  · exact lexicalNames_append_nodup h.nodup hnodup fun name hname => (hfresh name hname).1
  · intro d hd hkind hm
    rw [lexicalNames_append] at hm
    rcases List.mem_append.mp hd with hd | hd <;> rcases List.mem_append.mp hm with hm | hm
    · exact h.others d hd hkind hm
    · exact (hfresh _ (lexicalNames_subset hm)).1 (List.mem_map_of_mem hd)
    · exact (hfresh _ (List.mem_map_of_mem hd)).1 (lexicalNames_subset hm)
    · obtain ⟨e,he,heq⟩ := List.mem_map.mp hm
      obtain ⟨hmem,hlexical⟩ := List.mem_filter.mp he
      obtain rfl := List.inj_on_of_nodup_map hnodup hmem hd heq
      exact hkind (by simpa using hlexical)
  · intro name hname hm
    rw [lexicalNames_append] at hm
    rcases List.mem_append.mp hm with hm | hm
    · exact h.hoisted name hname hm
    · exact (hfresh name (lexicalNames_subset hm)).2 hname

end NoLexicalClash

end AsyncBody
