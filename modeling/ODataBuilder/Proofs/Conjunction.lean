import Mathlib.Data.List.Induction
import ODataBuilder.Proofs.Printing

/-! Filters joined by `and`. `Expr.foldAnd` nests its predicates to the left, and the printer
writes such a chain as the conjuncts' own printings joined by ` and `. Only the grouping of each
conjunct depends on where it stands: `and` binds tighter than `or` only, so the first conjunct is
grouped when its top operator is an `or`, and a later one, standing on the right of an `and`, when
its top operator is an `and` or an `or`. Top operators are seen through `identity`, which prints
nothing. -/
namespace ODataBuilder

namespace Expr

/-- The binary operator at the top of a tree, seen through `identity` prefixes. -/
def topOperator? : Expr → Option BinaryOp
  | .unary .identity operand => operand.topOperator?
  | .binary op _ _ => some op
  | _ => none

theorem precedence_print_lt_iff (pre : String) (scopes : List String) (e : Expr) (least : Nat)
    (binaryRange : least ≤ 7) :
    (e.print pre scopes).precedence < least ↔ ∃ op, e.topOperator? = some op ∧ op.precedence < least := by
  -- leaves, calls, lambdas and prefix operators bind at least as tightly as 7, and have no top
  -- binary operator
  have tight : ∀ {bound : Nat} {top : Option BinaryOp}, 7 ≤ bound → top = none →
      (bound < least ↔ ∃ op, top = some op ∧ op.precedence < least) := by
    intro bound top atLeast none
    subst none
    constructor
    · intro below
      omega
    · rintro ⟨_,impossible,_⟩
      cases impossible
  induction e using treeInduction generalizing scopes with
  | value v => exact tight (by decide : 7 ≤ 255) rfl
  | property p => cases p <;> exact tight (by decide : 7 ≤ 255) rfl
  | unary op operand ih =>
    cases op with
    | identity => exact ih scopes
    | not => exact tight (by decide : 7 ≤ 7) rfl
    | negate => exact tight (by decide : 7 ≤ 7) rfl
  | binary op left right =>
    constructor
    · intro below
      exact ⟨op,rfl,below⟩
    · rintro ⟨_,same,below⟩
      cases same
      exact below
  | call method args => exact tight (by decide : 7 ≤ 255) rfl
  | lambda q collection predicate => exact tight (by decide : 7 ≤ 255) rfl

theorem groups_left_of_and (pre : String) (scopes : List String) (e : Expr) :
    decide ((e.print pre scopes).precedence < BinaryOp.and.precedence) =
      decide (e.topOperator? = some .or) := by
  have looser := precedence_print_lt_iff pre scopes e 2 (by omega)
  -- among the binary operators only `or` binds looser than `and`
  have onlyOr : (∃ op, e.topOperator? = some op ∧ op.precedence < 2) ↔ e.topOperator? = some .or := by
    constructor
    · rintro ⟨op,top,below⟩
      obtain rfl : op = .or := by cases op <;> simp_all [BinaryOp.precedence]
      exact top
    · intro top
      exact ⟨.or,top,by decide⟩
  exact decide_eq_decide.mpr (looser.trans onlyOr)

theorem groups_right_of_and (pre : String) (scopes : List String) (e : Expr) :
    decide ((e.print pre scopes).precedence ≤ BinaryOp.and.precedence) =
      e.topOperator?.any BinaryOp.isLogical := by
  have looser := precedence_print_lt_iff pre scopes e 3 (by omega)
  -- `and` and `or` are the binary operators that bind no tighter than `and`
  have logical : (∃ op, e.topOperator? = some op ∧ op.precedence < 3) ↔
      e.topOperator?.any BinaryOp.isLogical = true := by
    cases e.topOperator? with
    | none => simp
    | some op => cases op <;> simp [BinaryOp.precedence,BinaryOp.isLogical]
  have noTighter : (e.print pre scopes).precedence ≤ BinaryOp.and.precedence ↔
      e.topOperator?.any BinaryOp.isLogical = true :=
    (Nat.lt_succ_iff.symm.trans looser).trans logical
  rw [Bool.eq_iff_iff,decide_eq_true_iff]
  exact noTighter

end Expr

def firstConjunct (e : Expr) (text : String) : String :=
  parenthesizedIf (decide (e.topOperator? = some .or)) text

def laterConjunct (e : Expr) (text : String) : String :=
  parenthesizedIf (e.topOperator?.any BinaryOp.isLogical) text

theorem print_and_chain (pre : String) (scopes : List String) (p : Expr) (rest : List Expr)
    (more : rest ≠ []) :
    (rest.foldl Expr.and p).print pre scopes =
      ⟨" and ".intercalate (firstConjunct p (p.print pre scopes).text ::
        rest.map fun q => laterConjunct q (q.print pre scopes).text), BinaryOp.and.precedence⟩ := by
  induction rest using List.reverseRecOn with
  | nil => exact absurd rfl more
  | append_singleton front q ih =>
    have nested : (front ++ [q]).foldl Expr.and p = .binary .and (front.foldl Expr.and p) q := by
      simp [Expr.and]
    have right := Expr.groups_right_of_and pre scopes q
    rw [nested,Expr.print,right]
    rcases List.eq_nil_or_concat front with rfl | ⟨_,_,rfl⟩
    · -- two conjuncts: the chain is one `and`
      rw [List.foldl_nil,Expr.groups_left_of_and pre scopes p]
      simp only [List.nil_append,List.map_cons,List.map_nil,String.intercalate_cons_cons,
        String.intercalate_singleton,firstConjunct,laterConjunct]
      simp [BinaryOp.symbol,BinaryOp.precedence,String.append_assoc]
    · -- a longer chain: the left operand is the chain so far, an `and`, never grouped
      rw [ih (by simp)]
      have ungrouped : decide (BinaryOp.and.precedence < BinaryOp.and.precedence) = false := by
        decide
      simp only [ungrouped,List.map_append,List.map_cons,List.map_nil,← List.cons_append]
      rw [String.intercalate_append_of_ne_nil (by simp) (by simp),String.intercalate_singleton]
      simp [parenthesizedIf,laterConjunct,BinaryOp.symbol,String.append_assoc]

theorem firstConjunct_plain {e : Expr} (text : String)
    (plain : e.topOperator?.any BinaryOp.isLogical = false) : firstConjunct e text = text := by
  cases top : e.topOperator? with
  | none => simp [firstConjunct,top,parenthesizedIf]
  | some op => cases op <;> simp_all [firstConjunct,parenthesizedIf,BinaryOp.isLogical]

theorem laterConjunct_plain {e : Expr} (text : String)
    (plain : e.topOperator?.any BinaryOp.isLogical = false) : laterConjunct e text = text := by
  simp [laterConjunct,plain,parenthesizedIf]

theorem render_conjuncts (v : String) (ps : List Expr) :
    ps.mapM (Serializer.render v) = .ok (ps.map fun q => (q.print v []).text) := by
  have rendered : ∀ e, Serializer.render v e = pure (e.print v []).text := render_eq_print v
  rw [funext rendered,List.mapM_pure]
  rfl

theorem render_and_chain (v : String) (p : Expr) (rest : List Expr) :
    Serializer.render v (rest.foldl Expr.and p) = .ok (if rest = [] then (p.print v []).text
      else " and ".intercalate (firstConjunct p (p.print v []).text ::
        rest.map fun q => laterConjunct q (q.print v []).text)) := by
  rw [render_eq_print]
  by_cases single : rest = []
  · subst single
    rfl
  · rw [print_and_chain v [] p rest single,if_neg single]

/-- `foldAnd` gives nothing for no predicate, the predicate itself for one, and puts each further
predicate on the right of an `and` over the chain before it. The chain prints as the predicates'
own printings joined by `and`: the first grouped when its top operator is `or`, every later one
when its top operator is `and` or `or`; so with no such top operator it is the plain join. -/
theorem foldAnd_prints_joined_conjuncts (v : String) :
    Expr.foldAnd [] = none ∧
    (∀ p, Expr.foldAnd [p] = some p) ∧
    (∀ ps q, ps ≠ [] → Expr.foldAnd (ps ++ [q]) = (Expr.foldAnd ps).map fun chain => chain.and q) ∧
    ∀ p rest, ∃ chain text texts,
      Expr.foldAnd (p :: rest) = some chain ∧
      (p :: rest).mapM (Serializer.render v) = .ok (text :: texts) ∧
      Serializer.render v chain = .ok (if rest = [] then text else
        " and ".intercalate (firstConjunct p text :: List.zipWith laterConjunct rest texts)) ∧
      ((∀ q ∈ p :: rest, q.topOperator?.any BinaryOp.isLogical = false) →
        Serializer.render v chain = .ok (" and ".intercalate (text :: texts))) := by
  refine ⟨rfl,fun p => rfl,?_,?_⟩
  · intro ps q filled
    obtain ⟨p,front,rfl⟩ := List.exists_cons_of_ne_nil filled
    simp [Expr.foldAnd]
  · intro p rest
    have zipped : List.zipWith laterConjunct rest (rest.map fun q => (q.print v []).text) =
        rest.map fun q => laterConjunct q (q.print v []).text := by
      rw [List.zipWith_map_right,List.zipWith_self]
    refine ⟨_,_,_,rfl,render_conjuncts v (p :: rest),?_,fun plain => ?_⟩
    · rw [render_and_chain,zipped]
    · rw [render_and_chain]
      by_cases single : rest = []
      · subst single
        simp
      · -- no conjunct is grouped, wherever it stands
        have laterPlain : ∀ q ∈ rest, laterConjunct q (q.print v []).text = (q.print v []).text :=
          fun q member => laterConjunct_plain _ (plain q (List.mem_cons_of_mem p member))
        rw [if_neg single,firstConjunct_plain _ (plain p List.mem_cons_self),
          List.map_congr_left laterPlain]

theorem comparisons_join_without_parentheses :
    (∀ q ∈ [Expr.binary .eq (.value (.int 1)) (.value (.int 2)),
        Expr.binary .ne (.value (.int 3)) (.value (.int 4))],
      q.topOperator?.any BinaryOp.isLogical = false) ∧
    Serializer.render "x" (Expr.binary .and (.binary .eq (.value (.int 1)) (.value (.int 2)))
      (.binary .ne (.value (.int 3)) (.value (.int 4)))) = .ok "1 eq 2 and 3 ne 4" := by
  have plain : ∀ q ∈ [Expr.binary .eq (.value (.int 1)) (.value (.int 2)),
      Expr.binary .ne (.value (.int 3)) (.value (.int 4))],
      q.topOperator?.any BinaryOp.isLogical = false := by
    simp [Expr.topOperator?,BinaryOp.isLogical]
  obtain ⟨chain,text,texts,folded,mapped,_,joined⟩ := (foldAnd_prints_joined_conjuncts "x").2.2.2
    (.binary .eq (.value (.int 1)) (.value (.int 2))) [.binary .ne (.value (.int 3)) (.value (.int 4))]
  have computed : [Expr.binary .eq (.value (.int 1)) (.value (.int 2)),
      Expr.binary .ne (.value (.int 3)) (.value (.int 4))].mapM (Serializer.render "x") =
      .ok ["1 eq 2","3 ne 4"] := by rfl
  obtain ⟨rfl,rfl⟩ := List.cons_eq_cons.mp (Except.ok.inj (mapped.symm.trans computed))
  obtain rfl := Option.some.inj folded.symm
  exact ⟨plain,(joined plain).trans rfl⟩

end ODataBuilder
