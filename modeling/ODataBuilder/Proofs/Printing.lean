import ODataBuilder.Expr.Serializer

/-! The stack printer against a direct printer. `Expr.print` writes a tree by recursion on
its shape, under the lambda variables open around it (outermost first). The stack printer never
looks at a node's children; `Serializer.run_walk` is the invariant that makes it agree: the walk
of every subtree leaves exactly that subtree's printing on top of the stack, with its precedence,
and closes every scope it opens. -/
namespace ODataBuilder

namespace Expr

@[elab_as_elim]
theorem treeInduction {motive : Expr → Prop}
    (value : ∀ v, motive (.value v))
    (property : ∀ p, motive (.property p))
    (unary : ∀ op operand, motive operand → motive (.unary op operand))
    (binary : ∀ op left right, motive left → motive right → motive (.binary op left right))
    (call : ∀ method args, (∀ arg ∈ args, motive arg) → motive (.call method args))
    (lambda : ∀ q collection predicate, motive predicate →
      motive (.lambda q collection predicate)) :
    ∀ e, motive e
  | .value v => value v
  | .property p => property p
  | .unary op operand => unary op operand (treeInduction value property unary binary call lambda operand)
  | .binary op left right => binary op left right
      (treeInduction value property unary binary call lambda left)
      (treeInduction value property unary binary call lambda right)
  | .call method args => call method args fun arg member =>
      have : sizeOf arg < sizeOf args := List.sizeOf_lt_of_mem member
      treeInduction value property unary binary call lambda arg
  | .lambda q collection predicate => lambda q collection predicate
      (treeInduction value property unary binary call lambda predicate)
termination_by e => sizeOf e

end Expr

def parenthesizedIf (needed : Bool) (text : String) : String :=
  if needed then "(" ++ text ++ ")" else text

def fieldUnder (scopes : List String) (path : FieldPath) : String :=
  match scopes.getLast? with
  | none => path.text
  | some var => var ++ "/" ++ path.text

namespace Expr

mutual
/-- A tree printed by recursion on its shape, with the precedence of its outermost operator:
atoms 255, prefix operators 7. -/
def print (pre : String) (scopes : List String) : Expr → Fragment
  | .value v => ⟨v.literal, 255⟩
  | .property (.keyword word) => ⟨word, 255⟩
  | .property (.field path) => ⟨fieldUnder scopes path, 255⟩
  | .unary .identity operand => print pre scopes operand
  | .unary .not operand =>
    let inner := print pre scopes operand
    ⟨"not " ++ parenthesizedIf (decide (inner.precedence < 7)) inner.text, 7⟩
  | .unary .negate operand =>
    let inner := print pre scopes operand
    ⟨"-" ++ parenthesizedIf (decide (inner.precedence < 7)) inner.text, 7⟩
  | .binary op left right =>
    let l := print pre scopes left
    let r := print pre scopes right
    ⟨parenthesizedIf (decide (l.precedence < op.precedence)) l.text ++ " " ++ op.symbol ++ " " ++
      parenthesizedIf (decide (r.precedence ≤ op.precedence)) r.text, op.precedence⟩
  | .call method args =>
    ⟨method.name ++ "(" ++ ",".intercalate ((printArgs pre scopes args).map (·.text)) ++ ")", 255⟩
  | .lambda q collection predicate =>
    let var := lambdaVariable pre scopes.length
    ⟨fieldUnder scopes collection ++ "/" ++ q.keyword ++ "(" ++ var ++ ":" ++
      (print pre (scopes ++ [var]) predicate).text ++ ")", 255⟩

def printArgs (pre : String) (scopes : List String) : List Expr → List Fragment
  | [] => []
  | arg :: rest => print pre scopes arg :: printArgs pre scopes rest
end

@[simp] theorem printArgs_eq_map (pre : String) (scopes : List String) (args : List Expr) :
    printArgs pre scopes args = args.map (print pre scopes) := by
  induction args with
  | nil => rfl
  | cons arg rest ih => simp [printArgs,ih]

end Expr

theorem Fragment.wrapped_eq (f : Fragment) (parent : Precedence) (strict : Bool) :
    f.wrapped parent strict = parenthesizedIf
      (if strict then decide (f.precedence ≤ parent) else decide (f.precedence < parent)) f.text := by
  cases strict <;> simp [Fragment.wrapped,parenthesizedIf]

theorem propertyText_field (scopes : List String) (path : FieldPath) :
    propertyText scopes.reverse (.field path) = fieldUnder scopes path := by
  rw [fieldUnder,List.getLast?_eq_head?_reverse]
  cases scopes.reverse <;> rfl

namespace Serializer

@[simp] theorem run_nil (s : Serializer) : s.run [] = s := rfl

@[simp] theorem run_cons (s : Serializer) (event : WalkEvent) (events : List WalkEvent) :
    s.run (event :: events) = (s.step event).run events := rfl

@[simp] theorem run_append (s : Serializer) (first second : List WalkEvent) :
    s.run (first ++ second) = (s.run first).run second := by
  simp [run]

theorem exit_operands (s : Serializer) (node : Expr) (operands rest : List Fragment)
    (clear : s.fault = none) (count : operands.length = node.need)
    (stacked : s.stack = operands.reverse ++ rest) :
    s.exit node = { s with stack := nodeFragment s.varPrefix s.scopes node operands :: rest } := by
  have enough : ¬ s.stack.length < node.need := by simp [stacked,count]
  have taken : s.stack.take node.need = operands.reverse := by simp [stacked,← count]
  have dropped : s.stack.drop node.need = rest := by simp [stacked,← count]
  simp [exit,clear,enough,taken,dropped]

/-- Running the walk of a tree pushes exactly its direct printing, and leaves the scopes and
the fault as they were. -/
def PrintsOnStack (e : Expr) : Prop :=
  ∀ (s : Serializer) (scopes : List String), s.scopes = scopes.reverse → s.fault = none →
    s.run e.walk = { s with stack := e.print s.varPrefix scopes :: s.stack }

theorem run_walkAll (args : List Expr) (each : ∀ arg ∈ args, PrintsOnStack arg) :
    ∀ (s : Serializer) (scopes : List String), s.scopes = scopes.reverse → s.fault = none →
      s.run (Expr.walkAll args) =
        { s with stack := (args.map (Expr.print s.varPrefix scopes)).reverse ++ s.stack } := by
  induction args with
  | nil => intro s scopes nested clear; rfl
  | cons arg rest ih =>
    intro s scopes nested clear
    have first := each arg List.mem_cons_self s scopes nested clear
    have later := ih (fun other member => each other (List.mem_cons_of_mem arg member))
      { s with stack := arg.print s.varPrefix scopes :: s.stack } scopes nested clear
    simp only [Expr.walkAll,run_append,first,later]
    simp

theorem run_walk (e : Expr) : PrintsOnStack e := by
  induction e using Expr.treeInduction with
  | value v =>
    intro s scopes nested clear
    simp [Expr.walk,step,exit_operands s (.value v) [] s.stack clear rfl rfl,nodeFragment,
      Expr.print,Fragment.atom,Precedence.atom]
  | property p =>
    intro s scopes nested clear
    have left := exit_operands s (.property p) [] s.stack clear rfl rfl
    cases p with
    | keyword word =>
      simp [Expr.walk,step,left,nodeFragment,Expr.print,Fragment.atom,Precedence.atom,propertyText]
    | field path =>
      simp [Expr.walk,step,left,nodeFragment,Expr.print,Fragment.atom,Precedence.atom,nested,
        propertyText_field]
  | unary op operand ih =>
    intro s scopes nested clear
    simp only [Expr.walk,run_cons,run_append,step]
    rw [ih s scopes nested clear,run_nil]
    cases op <;> simp [exit,clear,Expr.need,nodeFragment,UnaryOp.prefixText?,Expr.print,
      Fragment.wrapped_eq,Precedence.unary]
  | binary op left right ihl ihr =>
    intro s scopes nested clear
    simp only [Expr.walk,run_cons,run_append,step]
    rw [ihl s scopes nested clear,ihr { s with stack := _ :: s.stack } scopes nested clear,run_nil]
    simp [exit,clear,Expr.need,nodeFragment,Expr.print,Fragment.wrapped_eq]
  | call method args ih =>
    intro s scopes nested clear
    simp only [Expr.walk,run_cons,run_append,step]
    rw [run_walkAll args ih s scopes nested clear,run_nil]
    simp [exit,clear,Expr.need,nodeFragment,Expr.print,Fragment.atom,Precedence.atom]
  | lambda q collection predicate ih =>
    intro s scopes nested clear
    simp only [Expr.walk,run_cons,run_append,step,run_nil,List.cons_append,List.nil_append]
    rw [exit_operands s (Expr.field collection) [] s.stack clear rfl rfl]
    -- the predicate is walked inside the scope the lambda opens, one variable deeper
    have opened : ({ s with stack := nodeFragment s.varPrefix s.scopes (Expr.field collection) [] ::
        s.stack }.pushScope).scopes = (scopes ++ [lambdaVariable s.varPrefix scopes.length]).reverse := by
      simp [pushScope,nested]
    rw [ih _ _ opened clear]
    simp [exit,popScope,pushScope,clear,nested,Expr.need,nodeFragment,Expr.print,Expr.field,
      propertyText_field,Fragment.atom,Precedence.atom]

end Serializer

/-- The stack printer never fails, and writes every tree as the direct printer does. -/
theorem render_eq_print (pre : String) (e : Expr) :
    Serializer.render pre e = .ok (e.print pre []).text := by
  have pushed := Serializer.run_walk e (Serializer.new pre) [] rfl rfl
  rw [Serializer.render,pushed]
  rfl

example : Serializer.render "x" (.binary .sub (.value (.int 1))
    (.binary .sub (.value (.int 2)) (.value (.int 3)))) = .ok "1 sub (2 sub 3)" := by rfl

end ODataBuilder
