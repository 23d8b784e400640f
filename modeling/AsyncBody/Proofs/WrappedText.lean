import AsyncBody.Compile
import AsyncBody.Proofs.LoweredNames
import AsyncBody.Text.Blank

/-!
The function around a body, printed as a tree and spelled as a text: up to white space the two are
the same text, for every list of statements. This takes a printer that goes by the tree.
-/
namespace AsyncBody

open Text (compact compact_append compact_join compact_intercalate)

/-- What a printer is relied upon for, white space aside. A statement takes the same text at the top
of a script and in the body of a function; and the function around it, with one parameter and in
parentheses, is spelled as the language has it. -/
structure Toolchain.Prints (t : Toolchain) (statement part : Node → String) : Prop where
  script : ∀ span statements,
    compact (t.print ⟨.script,span,statements,none⟩) =
      String.join (statements.map fun s => compact (statement s))
  block : ∀ span ctxt statements,
    compact (part (.node span (.block ctxt) [.many statements])) =
      "\x7b" ++ String.join (statements.map fun s => compact (statement s)) ++ "\x7d"
  expressionStatement : ∀ span expression,
    compact (statement (.node span .expressionStatement [expression])) =
      compact (part expression) ++ ";"
  parenthesis : ∀ span expression,
    compact (part (.node span .parenthesis [expression])) = "(" ++ compact (part expression) ++ ")"
  function : ∀ span place inner ctxt ctxt' parameter statements,
    let body := Node.node inner (.block ctxt') [.many statements]
    compact (part (.node span (.functionExpression none) [.node place (.function ctxt false true)
        [.many [parameter],.many [],body,.absent,.absent]])) =
      "asyncfunction(" ++ compact (part parameter) ++ ")" ++ compact (part body)
  parameter : ∀ span pattern,
    compact (part (.node span .parameter [.many [],pattern])) = compact (part pattern)
  name : ∀ name span, compact (part (Ident.named name span).pattern) = compact name

theorem compact_wrapBody (body name : String) :
    compact (Source.wrapBody body name) =
      "(asyncfunction(" ++ compact name ++ ")\x7b" ++ compact body ++ "\x7d);" := by
  have hfront : compact "(async function (" = "(asyncfunction(" := by decide +kernel
  have hopen : compact ") \x7b\n" = ")\x7b" := rfl
  have hclose : compact "\n\x7d);\n" = "\x7d);" := rfl
  rw [Source.wrapBody_eq]
  simp only [compact_append,hfront,hopen,hclose]

namespace Toolchain.Prints

variable {t : Toolchain} {statement part : Node → String}

theorem asyncFunction (h : t.Prints statement part) (options : Options) (body : Program)
    (span : Span) :
    compact (part (.node span (.functionExpression none) [options.asyncFunction body])) =
      "asyncfunction(" ++ compact options.importName ++ ")\x7b" ++
        String.join (body.body.map fun s => compact (statement s)) ++ "\x7d" := by
  have hparameter : compact (part options.parameter) = compact options.importName :=
    (h.parameter ..).trans (h.name ..)
  have hopen : ")\x7b" = ")" ++ "\x7b" := rfl
  rw [Options.asyncFunction,h.function,hparameter,h.block,hopen]
  simp only [String.append_assoc]

/-- The function as a tree and the function as a text take the same text. -/
theorem wrap (h : t.Prints statement part) (options : Options) (span : Span)
    (statements : List Node) :
    compact (t.print (options.wrap ⟨.script,span,statements,none⟩)) =
      compact (Source.wrapBody (t.print ⟨.script,span,statements,none⟩) options.importName) := by
  have hfront : "(asyncfunction(" = "(" ++ "asyncfunction(" := rfl
  have hclose : "\x7d);" = "\x7d" ++ (")" ++ ";") := rfl
  rw [Options.wrap,h.script,List.map_singleton,h.expressionStatement,h.parenthesis,h.asyncFunction,
    compact_wrapBody,h.script,hfront,hclose]
  simp only [String.join_cons,String.join_nil,String.append_empty,String.append_assoc]

end Toolchain.Prints

namespace Source

/-- Statements take the same text on lines of their own and between braces. -/
theorem compact_statements (statements : List Piece) :
    compact (Piece.group statements).statements =
      String.join (statements.map fun s => compact s.statement) := by
  have hline : compact "\n" = "" := by decide
  rw [Piece.statements,compact_intercalate hline,List.map_map]
  rfl

theorem compact_braced (lines : String) :
    compact (braced lines) = "\x7b" ++ compact lines ++ "\x7d" := by
  unfold braced
  split
  · rename_i hempty
    rw [String.isEmpty_iff.mp hempty]
    decide
  · have hopen : compact "\x7b\n" = "\x7b" := by decide
    have hclose : compact "\n\x7d" = "\x7d" := by decide
    simp [hopen,hclose]

theorem pieces_eq (items : List Node) : pieces items = items.map piece := by
  induction items with
  | nil => rfl
  | cons item rest ih => rw [pieces,ih,List.map_cons]

/-- The printer of this library goes by the tree. -/
theorem own_prints : Toolchain.own.Prints (fun n => (piece n).statement) (fun n => (piece n).str) where
  script span statements := by
    have hline : compact "\n" = "" := by decide
    have hprint : Toolchain.own.print ⟨.script,span,statements,none⟩ =
        "" ++ String.join ((pieces statements).map fun s => s.statement ++ "\n") := rfl
    rw [hprint,String.empty_append,compact_join,pieces_eq,List.map_map,List.map_map]
    congr 1
    refine List.map_congr_left fun s _ => ?_
    simp [hline]
  block span ctxt statements := by
    have hpiece : (piece (.node span (.block ctxt) [.many statements])).str =
        braced (Piece.group (pieces statements)).statements := rfl
    rw [hpiece,compact_braced,compact_statements,pieces_eq,List.map_map]
    rfl
  expressionStatement span expression := compact_append ..
  parenthesis span expression := by
    have hpiece : (piece (.node span .parenthesis [expression])).str =
        "(" ++ (piece expression).str ++ ")" := rfl
    have hopen : compact "(" = "(" := rfl
    have hclose : compact ")" = ")" := rfl
    rw [hpiece,compact_append,compact_append,hopen,hclose]
  function span place inner ctxt ctxt' parameter statements := by
    intro body
    have hparameter : Piece.commas (.group [piece parameter]) = (piece parameter).str := by
      simp only [Piece.commas,Piece.strs,Piece.items,List.map_singleton,String.intercalate_singleton]
    have hpiece : (piece (.node span (.functionExpression none) [.node place
        (.function ctxt false true) [.many [parameter],.many [],body,.absent,.absent]])).str =
      "" ++ "async " ++ "function" ++ "" ++ "" ++ "" ++ ("" ++
        ("(" ++ Piece.commas (.group [piece parameter]) ++ ")") ++ "" ++ " " ++ (piece body).str) := rfl
    have hfront : "asyncfunction(" = compact "async " ++ (compact "function" ++ compact "(") := by
      decide +kernel
    have hclose : ")" = compact ")" ++ compact " " := by decide +kernel
    rw [hfront,hclose,hpiece,hparameter]
    simp only [compact_append,String.empty_append,String.append_empty,String.append_assoc]
  parameter span pattern := by
    have hpiece : (piece (.node span .parameter [.many [],pattern])).str =
        "" ++ (piece pattern).str := rfl
    rw [hpiece,String.empty_append]
  name name span := by
    have hpiece : (piece (Ident.named name span).pattern).str = name ++ "" ++ "" := rfl
    rw [hpiece,String.append_empty,String.append_empty]

end Source

theorem Program.toFunctionBody_script {options : Options} {p body : Program}
    (h : (p.toFunctionBody options).result = .ok body) :
    body = ⟨.script,body.span,body.body,none⟩ := by
  obtain ⟨-,-,-,rfl⟩ := toFunctionBody_eq_ok.mp h
  rfl

/-- The function around a body is the same text, white space aside, whether it is built around the
statements and printed or spelled around the printed statements. So a source that is compiled to the
whole function gives what its bare body gives between the two ends of the function, and is refused
for the same reason. -/
theorem compile_wrapped (t : Toolchain) {statement part : Node → String}
    (hprints : t.Prints statement part) (options : Options) :
    (∀ (span : Span) (statements : List Node),
      let body : Program := ⟨.script,span,statements,none⟩
      compact (t.text options true body) =
        compact (Source.wrapBody (t.text options false body) options.importName)) ∧
    ∀ source file, (t.compile options true source file).map compact =
      (t.compile options false source file).map fun body =>
        compact (Source.wrapBody body options.importName) := by
  refine ⟨fun span statements => hprints.wrap options span statements,fun source file => ?_⟩
  cases hread : t.readModule source file with
  | error e =>
    rw [Toolchain.compile_eq_unread hread,Toolchain.compile_eq_unread hread]
    change (.error (.source e) : Except CompileError String) = .error (.source e)
    rfl
  | ok p =>
    cases hlower : (p.toFunctionBody options).result with
    | error e =>
      rw [Toolchain.compile_eq_refused hread hlower,Toolchain.compile_eq_refused hread hlower]
      change (.error (.config e) : Except CompileError String) = .error (.config e)
      rfl
    | ok body =>
      rw [Toolchain.compile_eq_ok hread hlower,Toolchain.compile_eq_ok hread hlower]
      rw [Program.toFunctionBody_script hlower]
      exact congrArg Except.ok (hprints.wrap options body.span body.body)

/-- The printer of this library spells the function around `import x from 'm'` like its wrapper. -/
theorem defaultImport_wrapped :
    Toolchain.own.Prints (fun n => (Source.piece n).statement) (fun n => (Source.piece n).str) ∧
      (Toolchain.own.compile {} true "import x from 'm'" "a.js").map compact =
        .ok ("(asyncfunction($import)\x7bconst\x7bdefault:x\x7d=await$import('m');" ++
          "return\x7b\x7d;\x7d);") := by
  refine ⟨Source.own_prints,?_⟩
  rw [(compile_wrapped .own Source.own_prints {}).2]
  decide +kernel

end AsyncBody
