import ODataBuilder.Proofs.Tokens

/-! Reading printed tokens back. `Skeleton.parseExpr` is a precedence-climbing parser for the
filter grammar. Every successful parse pays for the grouping parentheses its result needs
(`parseExpr_pays`), and the tokens of every printed tree read back as its skeleton. -/
namespace ODataBuilder

namespace Skeleton

mutual
/-- An expression whose binary operators all bind at least as tightly as `least`, and the tokens
after it. -/
def parseExpr (least : Nat) (ts : List Token) : Option (Skeleton × List Token) :=
  match parseUnary ts with
  | none => none
  | some (u, rest) => if rest.length < ts.length then climb least u rest else none
termination_by (ts.length, 3)

def climb (least : Nat) (lhs : Skeleton) (ts : List Token) : Option (Skeleton × List Token) :=
  match ts with
  | .binOp op :: rest =>
    if least ≤ op.precedence then
      match parseExpr (op.precedence + 1) rest with
      | none => none
      | some (rhs, after) =>
        if after.length < rest.length then climb least (.binary op lhs rhs) after else none
    else some (lhs, ts)
  | _ => some (lhs, ts)
termination_by (ts.length, 0)

def parseUnary (ts : List Token) : Option (Skeleton × List Token) :=
  match ts with
  | .notOp :: rest => (parseUnary rest).map fun (u, after) => (.not u, after)
  | .negOp :: rest => (parseUnary rest).map fun (u, after) => (.negate u, after)
  | other => parsePrimary other
termination_by (ts.length, 2)

def parsePrimary (ts : List Token) : Option (Skeleton × List Token) :=
  match ts with
  | .atom c :: .lambdaOpen q var :: rest =>
    match parseExpr 0 rest with
    | some (body, .closeParen :: after) => some (.lambda c q var body, after)
    | _ => none
  | .atom t :: rest => some (.atom t, rest)
  | .openParen :: rest =>
    match parseExpr 0 rest with
    | some (inner, .closeParen :: after) => some (inner, after)
    | _ => none
  | .callOpen name :: .closeParen :: rest => some (.call name [], rest)
  | .callOpen name :: rest => (parseArgs rest).map fun (args, after) => (.call name args, after)
  | _ => none
termination_by (ts.length, 1)

def parseArgs (ts : List Token) : Option (List Skeleton × List Token) :=
  match parseExpr 0 ts with
  | some (arg, .comma :: rest) =>
    if rest.length < ts.length then (parseArgs rest).map fun (args, after) => (arg :: args, after)
    else none
  | some (arg, .closeParen :: rest) => some ([arg], rest)
  | _ => none
termination_by (ts.length, 4)
end

def parse (ts : List Token) : Option Skeleton :=
  match parseExpr 0 ts with
  | some (s, []) => some s
  | _ => none

def Stops (least : Nat) : List Token → Prop
  | .binOp op :: _ => op.precedence < least
  | _ => True

def Follows (least : Nat) : List Token → Prop
  | .binOp op :: _ => op.precedence < least
  | .lambdaOpen _ _ :: _ => False
  | _ => True

theorem stops_of_follows {least : Nat} {ts : List Token} (h : Follows least ts) : Stops least ts := by
  match ts, h with
  | .binOp _ :: _, h => exact h
  | [], _ | .atom _ :: _, _ | .notOp :: _, _ | .negOp :: _, _ | .openParen :: _, _
  | .closeParen :: _, _ | .comma :: _, _ | .callOpen _ :: _, _ => trivial

theorem follows_mono {least wider : Nat} {ts : List Token} (le : least ≤ wider)
    (h : Follows least ts) : Follows wider ts := by
  match ts, h with
  | .binOp _ :: _, h => exact Nat.lt_of_lt_of_le h le
  | [], _ | .atom _ :: _, _ | .notOp :: _, _ | .negOp :: _, _ | .openParen :: _, _
  | .closeParen :: _, _ | .comma :: _, _ | .callOpen _ :: _, _ => trivial

theorem Follows.noLambda {least : Nat} {ts : List Token} (h : Follows least ts) :
    ∀ q var more, ts ≠ .lambdaOpen q var :: more := by
  rintro q var more rfl
  exact h

theorem precedence_le_six (op : BinaryOp) : op.precedence ≤ 6 := by
  cases op <;> decide

theorem stops_above_binary (ts : List Token) : Stops 8 ts := by
  match ts with
  | .binOp op :: _ => exact Nat.lt_succ_of_lt (Nat.lt_succ_of_le (precedence_le_six op))
  | [] | .atom _ :: _ | .notOp :: _ | .negOp :: _ | .openParen :: _ | .closeParen :: _
  | .comma :: _ | .callOpen _ :: _ | .lambdaOpen _ _ :: _ => trivial

/-! ### One lemma per branch of the parser -/

theorem parseExpr_of_unary {least : Nat} {ts rest : List Token} {u : Skeleton}
    (h : parseUnary ts = some (u, rest)) (shorter : rest.length < ts.length) :
    parseExpr least ts = climb least u rest := by
  rw [parseExpr,h]
  simp [shorter]

theorem climb_binOp {least : Nat} {lhs rhs : Skeleton} {op : BinaryOp} {rest after : List Token}
    (binds : least ≤ op.precedence) (h : parseExpr (op.precedence + 1) rest = some (rhs, after))
    (shorter : after.length < rest.length) :
    climb least lhs (.binOp op :: rest) = climb least (.binary op lhs rhs) after := by
  rw [climb]
  simp [binds,h,shorter]

theorem climb_stop {least : Nat} {lhs : Skeleton} {ts : List Token} (h : Stops least ts) :
    climb least lhs ts = some (lhs, ts) := by
  match ts, h with
  | .binOp op :: rest, h =>
    have looser : ¬ least ≤ op.precedence := Nat.not_le_of_lt h
    rw [climb]
    simp [looser]
  | [], _ | .atom _ :: _, _ | .notOp :: _, _ | .negOp :: _, _ | .openParen :: _, _
  | .closeParen :: _, _ | .comma :: _, _ | .callOpen _ :: _, _ | .lambdaOpen _ _ :: _, _ =>
    simp [climb]

theorem parseUnary_not (rest : List Token) :
    parseUnary (.notOp :: rest) = (parseUnary rest).map fun (u, after) => (.not u, after) := by
  rw [parseUnary]

theorem parseUnary_negate (rest : List Token) :
    parseUnary (.negOp :: rest) = (parseUnary rest).map fun (u, after) => (.negate u, after) := by
  rw [parseUnary]

theorem parseUnary_primary {ts : List Token} (notNot : ∀ rest, ts ≠ .notOp :: rest)
    (notNeg : ∀ rest, ts ≠ .negOp :: rest) : parseUnary ts = parsePrimary ts := by
  rw [parseUnary.eq_def]
  split
  · exact absurd rfl (notNot _)
  · exact absurd rfl (notNeg _)
  · rfl

theorem parsePrimary_lambda {c var : String} {q : Quantifier} {body : Skeleton}
    {rest after : List Token} (h : parseExpr 0 rest = some (body, .closeParen :: after)) :
    parsePrimary (.atom c :: .lambdaOpen q var :: rest) = some (.lambda c q var body, after) := by
  rw [parsePrimary,h]

theorem parsePrimary_atom {t : String} {rest : List Token}
    (noLambda : ∀ q var more, rest ≠ .lambdaOpen q var :: more) :
    parsePrimary (.atom t :: rest) = some (.atom t, rest) := by
  rw [parsePrimary.eq_def]
  split <;> simp_all

theorem parsePrimary_group {inner : Skeleton} {rest after : List Token}
    (h : parseExpr 0 rest = some (inner, .closeParen :: after)) :
    parsePrimary (.openParen :: rest) = some (inner, after) := by
  rw [parsePrimary,h]

theorem parsePrimary_call_nil (name : String) (rest : List Token) :
    parsePrimary (.callOpen name :: .closeParen :: rest) = some (.call name [], rest) := by
  rw [parsePrimary]

theorem parsePrimary_call {name : String} {rest : List Token}
    (open_ : ∀ more, rest ≠ .closeParen :: more) :
    parsePrimary (.callOpen name :: rest) =
      (parseArgs rest).map fun (args, after) => (.call name args, after) := by
  rw [parsePrimary.eq_def]
  split <;> simp_all

theorem parseArgs_last {ts rest : List Token} {arg : Skeleton}
    (h : parseExpr 0 ts = some (arg, .closeParen :: rest)) : parseArgs ts = some ([arg], rest) := by
  rw [parseArgs,h]

theorem parseArgs_more {ts rest : List Token} {arg : Skeleton}
    (h : parseExpr 0 ts = some (arg, .comma :: rest)) (shorter : rest.length < ts.length) :
    parseArgs ts = (parseArgs rest).map fun (args, after) => (arg :: args, after) := by
  rw [parseArgs,h]
  simp [shorter]

/-! ### Every parse pays for its parentheses -/

theorem need_not_negate {operand : Skeleton} {least : Nat} (atMost : least ≤ 7) :
    (not operand).need least = operand.need 7 ∧ (negate operand).need least = operand.need 7 := by
  have looser : ¬ 7 < least := by omega
  simp [need,parens,precedence,looser]

theorem need_binary (op : BinaryOp) (left right : Skeleton) {least : Nat}
    (atMost : least ≤ op.precedence) :
    (binary op left right).need least = left.need op.precedence + right.need (op.precedence + 1) := by
  have looser : ¬ op.precedence < least := Nat.not_lt.mpr atMost
  simp only [need,parens,precedence,looser,if_false]
  omega

theorem need_atomic {s : Skeleton} {least : Nat} (atMost : least ≤ 255) (tight : s.precedence = 255) :
    s.need least = s.parens := by
  have looser : ¬ s.precedence < least := by omega
  simp [need,looser]

/-- A successful parse at `least` stops before the next operator that binds that tightly, and the
parentheses its result needs at `least` are among the tokens it consumed. -/
def ExprPays (least : Nat) (ts : List Token) : Prop :=
  ∀ s r, parseExpr least ts = some (s, r) → least ≤ 7 →
    Stops least r ∧ s.need least + Token.opens r ≤ Token.opens ts

def ClimbPays (least : Nat) (lhs : Skeleton) (ts : List Token) : Prop :=
  ∀ bound budget s r, (∀ k ≤ bound, lhs.need k + Token.opens ts ≤ budget) → Stops (bound + 1) ts →
    least ≤ bound → climb least lhs ts = some (s, r) →
      Stops least r ∧ s.need least + Token.opens r ≤ budget

def UnaryPays (ts : List Token) : Prop :=
  ∀ s r, parseUnary ts = some (s, r) → ∀ k ≤ 7, s.need k + Token.opens r ≤ Token.opens ts

def PrimaryPays (ts : List Token) : Prop :=
  ∀ s r, parsePrimary ts = some (s, r) → ∀ k ≤ 7, s.need k + Token.opens r ≤ Token.opens ts

def ArgsPays (ts : List Token) : Prop :=
  ∀ args r, parseArgs ts = some (args, r) → (args.map parens).sum + Token.opens r ≤ Token.opens ts

theorem parse_pays : (∀ least ts, ExprPays least ts) ∧ (∀ least lhs ts, ClimbPays least lhs ts) ∧
    (∀ ts, UnaryPays ts) ∧ (∀ ts, PrimaryPays ts) ∧ (∀ ts, ArgsPays ts) := by
  apply parseExpr.mutual_induct ExprPays ClimbPays UnaryPays PrimaryPays ArgsPays
  · intro least ts none_ _ s r parsed
    simp [parseExpr,none_] at parsed
  · intro least ts u rest unary shorter paidUnary paidClimb s r parsed atMost
    rw [parseExpr_of_unary unary shorter] at parsed
    exact paidClimb 7 (Token.opens ts) s r (paidUnary u rest unary) (stops_above_binary rest)
      atMost parsed
  · intro least ts u rest unary longer _ s r parsed
    simp [parseExpr,unary,longer] at parsed
  · intro least lhs op rest binds none_ _ bound budget s r _ _ _ parsed
    simp [climb,binds,none_] at parsed
  · intro least lhs op rest binds rhs after operand shorter paidOperand paidClimb bound budget s r
      paid next within parsed
    rw [climb_binOp binds operand shorter] at parsed
    have tighter : op.precedence ≤ bound := Nat.le_of_lt_succ next
    obtain ⟨stops,paidRhs⟩ := paidOperand rhs after operand
      (Nat.succ_le_succ (precedence_le_six op))
    apply paidClimb op.precedence budget s r _ stops binds parsed
    intro k atMost
    have paidLhs := paid op.precedence tighter
    rw [need_binary op lhs rhs atMost]
    simp only [Token.opens_cons,reduceCtorEq,if_false,Nat.zero_add] at paidLhs
    omega
  · intro least lhs op rest binds rhs after operand longer _ bound budget s r _ _ _ parsed
    simp [climb,binds,operand,longer] at parsed
  · intro least lhs op rest looser bound budget s r paid _ within parsed
    simp [climb,looser] at parsed
    obtain ⟨rfl,rfl⟩ := parsed
    exact ⟨Nat.lt_of_not_le looser,paid least within⟩
  · intro least lhs ts notBinary bound budget s r paid _ within parsed
    have stops : Stops least ts := by
      match ts, notBinary with
      | .binOp op :: rest, notBinary => exact absurd rfl (notBinary op rest)
      | [], _ | .atom _ :: _, _ | .notOp :: _, _ | .negOp :: _, _ | .openParen :: _, _
      | .closeParen :: _, _ | .comma :: _, _ | .callOpen _ :: _, _ | .lambdaOpen _ _ :: _, _ =>
        trivial
    rw [climb_stop stops] at parsed
    obtain ⟨rfl,rfl⟩ := Option.some.inj parsed |> Prod.mk.inj
    exact ⟨stops,paid least within⟩
  · intro rest paid s r parsed k atMost
    rw [parseUnary_not] at parsed
    obtain ⟨⟨u,after⟩,operand,same⟩ := Option.map_eq_some_iff.mp parsed
    obtain ⟨rfl,rfl⟩ := Prod.mk.inj same
    rw [(need_not_negate atMost).1]
    simpa using paid u after operand 7 (Nat.le_refl 7)
  · intro rest paid s r parsed k atMost
    rw [parseUnary_negate] at parsed
    obtain ⟨⟨u,after⟩,operand,same⟩ := Option.map_eq_some_iff.mp parsed
    obtain ⟨rfl,rfl⟩ := Prod.mk.inj same
    rw [(need_not_negate atMost).2]
    simpa using paid u after operand 7 (Nat.le_refl 7)
  · intro ts notNot notNeg paid s r parsed
    rw [parseUnary_primary (fun rest same => notNot rest same) (fun rest same => notNeg rest same)]
      at parsed
    exact paid s r parsed
  · intro c q var rest body after inner paidInner s r parsed k atMost
    rw [parsePrimary_lambda inner] at parsed
    obtain ⟨rfl,rfl⟩ := Option.some.inj parsed |> Prod.mk.inj
    obtain ⟨-,paidBody⟩ := paidInner body (.closeParen :: after) inner (Nat.zero_le 7)
    rw [need_atomic (by omega) rfl]
    simp only [parens,Token.opens_cons,reduceCtorEq,if_false,Nat.zero_add] at paidBody ⊢
    rw [need_zero] at paidBody
    exact paidBody
  · intro c q var rest unclosed _ s r parsed
    rw [parsePrimary] at parsed
    split at parsed
    · exact absurd ‹_› (unclosed _ _)
    · simp at parsed
  · intro t rest noLambda s r parsed k atMost
    rw [parsePrimary_atom (fun q var more same => noLambda q var more same)] at parsed
    obtain ⟨rfl,rfl⟩ := Option.some.inj parsed |> Prod.mk.inj
    rw [need_atomic (by omega) rfl]
    simp [parens]
  · intro rest inner after grouped_ paidInner s r parsed k atMost
    rw [parsePrimary_group grouped_] at parsed
    obtain ⟨rfl,rfl⟩ := Option.some.inj parsed |> Prod.mk.inj
    obtain ⟨-,paidGroup⟩ := paidInner inner (.closeParen :: after) grouped_ (Nat.zero_le 7)
    have bounded := need_le inner k
    rw [need_zero] at paidGroup
    simp only [Token.opens_cons,reduceCtorEq,if_false,if_true,Nat.zero_add] at paidGroup ⊢
    omega
  · intro rest unclosed _ s r parsed
    rw [parsePrimary] at parsed
    split at parsed
    · exact absurd ‹_› (unclosed _ _)
    · simp at parsed
  · intro name rest s r parsed k atMost
    rw [parsePrimary_call_nil] at parsed
    obtain ⟨rfl,rfl⟩ := Option.some.inj parsed |> Prod.mk.inj
    rw [need_atomic (by omega) rfl]
    simp [parens]
  · intro name rest open_ paidArgs s r parsed k atMost
    rw [parsePrimary_call (fun more same => open_ more same)] at parsed
    obtain ⟨⟨args,after⟩,parsedArgs,same⟩ := Option.map_eq_some_iff.mp parsed
    obtain ⟨rfl,rfl⟩ := Prod.mk.inj same
    rw [need_atomic (by omega) rfl]
    simpa [parens] using paidArgs args after parsedArgs
  · intro ts notLambda notAtom notGroup notCallNil notCall s r parsed
    rw [parsePrimary.eq_def] at parsed
    split at parsed <;> simp_all
  · intro ts arg rest first shorter paidFirst paidRest args r parsed
    rw [parseArgs_more first shorter] at parsed
    obtain ⟨⟨more,after⟩,parsedRest,same⟩ := Option.map_eq_some_iff.mp parsed
    obtain ⟨rfl,rfl⟩ := Prod.mk.inj same
    obtain ⟨-,paidArg⟩ := paidFirst arg (.comma :: rest) first (Nat.zero_le 7)
    have paidMore := paidRest more after parsedRest
    rw [need_zero] at paidArg
    simp only [Token.opens_cons,reduceCtorEq,if_false,Nat.zero_add] at paidArg
    simp only [List.map_cons,List.sum_cons]
    omega
  · intro ts arg rest first longer _ args r parsed
    simp [parseArgs,first,longer] at parsed
  · intro ts arg rest last paidLast args r parsed
    rw [parseArgs_last last] at parsed
    obtain ⟨rfl,rfl⟩ := Option.some.inj parsed |> Prod.mk.inj
    obtain ⟨-,paidArg⟩ := paidLast arg (.closeParen :: rest) last (Nat.zero_le 7)
    rw [need_zero] at paidArg
    simp only [Token.opens_cons,reduceCtorEq,if_false,Nat.zero_add] at paidArg
    simpa using paidArg
  · intro ts noComma noClose _ args r parsed
    rw [parseArgs] at parsed
    split at parsed <;> simp_all

theorem parens_le_opens {ts : List Token} {s : Skeleton} (h : parse ts = some s) :
    s.parens ≤ Token.opens ts := by
  rw [parse] at h
  split at h
  · rename_i tree parsed
    obtain rfl := Option.some.inj h
    have paid := (parse_pays.1 0 ts tree [] parsed (Nat.zero_le 7)).2
    rw [need_zero] at paid
    simpa using paid
  · simp at h

end Skeleton

namespace Expr

open Skeleton

section
variable (pre : String)

theorem tokens_head (e : Expr) :
    ∀ scopes, ∃ t more, e.tokens pre scopes = t :: more ∧ t ≠ .closeParen := by
  induction e using treeInduction with
  | value v => intro scopes; exact ⟨_,_,rfl,Token.noConfusion⟩
  | property p => intro scopes; cases p <;> exact ⟨_,_,rfl,Token.noConfusion⟩
  | unary op operand ih =>
    intro scopes
    cases op with
    | identity => exact ih scopes
    | «not» => exact ⟨_,_,rfl,Token.noConfusion⟩
    | negate => exact ⟨_,_,rfl,Token.noConfusion⟩
  | binary op left right ihl ihr =>
    intro scopes
    by_cases wrap : (left.print pre scopes).precedence < op.precedence
    · simp only [tokens,grouped,wrap,decide_true,if_true,List.cons_append]
      exact ⟨_,_,rfl,Token.noConfusion⟩
    · obtain ⟨t,more,first,notClose⟩ := ihl scopes
      simp only [tokens,grouped,wrap,decide_false,Bool.false_eq_true,if_false,first,List.cons_append]
      exact ⟨_,_,rfl,notClose⟩
  | call method args _ => intro scopes; exact ⟨_,_,rfl,Token.noConfusion⟩
  | lambda q collection predicate _ => intro scopes; exact ⟨_,_,rfl,Token.noConfusion⟩

theorem tokens_ne_nil (e : Expr) (scopes : List String) : e.tokens pre scopes ≠ [] := by
  obtain ⟨t,more,first,-⟩ := tokens_head pre e scopes
  simp [first]

/-- Followed by tokens that do not continue it, a printed tree starts with the primary (under its
prefix operators) that the parser reads first, and climbing on from that primary gives the same
as climbing on from the whole tree. -/
def LeadsAt (scopes : List String) (e : Expr) : Prop :=
  ∀ rest, Follows ((e.print pre scopes).precedence + 1) rest →
    ∃ u tail, parseUnary (e.tokens pre scopes ++ rest) = some (u, tail ++ rest) ∧
      tail.length < (e.tokens pre scopes).length ∧
      (7 ≤ (e.print pre scopes).precedence → u = e.skeleton pre scopes ∧ tail = []) ∧
      ∀ k ≤ (e.print pre scopes).precedence,
        climb k u (tail ++ rest) = climb k (e.skeleton pre scopes) rest

def ReadsAt (scopes : List String) (e : Expr) : Prop :=
  ∀ k rest, Follows k rest →
    parseExpr k (grouped (decide ((e.print pre scopes).precedence < k)) (e.tokens pre scopes) ++ rest) =
      some (e.skeleton pre scopes, rest)

theorem readsAt_of_leadsAt {scopes : List String} {e : Expr} (leads : LeadsAt pre scopes e) :
    ReadsAt pre scopes e := by
  have unwrapped : ∀ k rest, k ≤ (e.print pre scopes).precedence → Follows k rest →
      parseExpr k (e.tokens pre scopes ++ rest) = some (e.skeleton pre scopes, rest) := by
    intro k rest atMost follows
    obtain ⟨u,tail,unary,shorter,-,climbs⟩ :=
      leads rest (follows_mono (Nat.le_succ_of_le atMost) follows)
    have consumed : (tail ++ rest).length < (e.tokens pre scopes ++ rest).length := by
      simp [shorter]
    rw [parseExpr_of_unary unary consumed,climbs k atMost,climb_stop (stops_of_follows follows)]
  intro k rest follows
  by_cases wrap : (e.print pre scopes).precedence < k
  · have inner := unwrapped 0 (.closeParen :: rest) (Nat.zero_le _) trivial
    have group : parseUnary (.openParen :: (e.tokens pre scopes ++ .closeParen :: rest)) =
        some (e.skeleton pre scopes, rest) := by
      rw [parseUnary_primary (by simp) (by simp),parsePrimary_group inner]
    have consumed : rest.length < (.openParen :: (e.tokens pre scopes ++ .closeParen :: rest)).length := by
      simp
      omega
    simp only [grouped,wrap,decide_true,if_true,List.cons_append,List.append_assoc,
      List.nil_append]
    rw [parseExpr_of_unary group consumed,climb_stop (stops_of_follows follows)]
  · simp only [grouped,wrap,decide_false,Bool.false_eq_true,if_false]
    exact unwrapped k rest (Nat.le_of_not_lt wrap) follows

theorem leadsAt_of_primary {scopes : List String} {e : Expr}
    (reads : ∀ rest, Follows ((e.print pre scopes).precedence + 1) rest →
      parseUnary (e.tokens pre scopes ++ rest) = some (e.skeleton pre scopes, rest)) :
    LeadsAt pre scopes e := by
  intro rest follows
  refine ⟨e.skeleton pre scopes,[],by simpa using reads rest follows,?_,fun _ => ⟨rfl,rfl⟩,
    fun _ _ => rfl⟩
  simpa [List.length_pos_iff] using tokens_ne_nil pre e scopes

theorem parseUnary_operand {scopes : List String} {e : Expr} (leads : LeadsAt pre scopes e)
    {rest : List Token} (follows : Follows 8 rest) :
    parseUnary (grouped (decide ((e.print pre scopes).precedence < 7)) (e.tokens pre scopes) ++ rest) =
      some (e.skeleton pre scopes, rest) := by
  by_cases wrap : (e.print pre scopes).precedence < 7
  · have inner := readsAt_of_leadsAt pre leads 0 (.closeParen :: rest) trivial
    simp only [Nat.not_lt_zero,decide_false,grouped,Bool.false_eq_true,if_false] at inner
    simp only [grouped,wrap,decide_true,if_true,List.cons_append,List.append_assoc,
      List.nil_append]
    rw [parseUnary_primary (by simp) (by simp),parsePrimary_group inner]
  · have tight : 7 ≤ (e.print pre scopes).precedence := Nat.le_of_not_lt wrap
    obtain ⟨u,tail,unary,-,whole,-⟩ := leads rest (follows_mono (Nat.succ_le_succ tight) follows)
    obtain ⟨rfl,rfl⟩ := whole tight
    simpa [grouped,wrap] using unary

theorem readsAt_zero {scopes : List String} {e : Expr} (reads : ReadsAt pre scopes e)
    (rest : List Token) (follows : Follows 0 rest) :
    parseExpr 0 (e.tokens pre scopes ++ rest) = some (e.skeleton pre scopes, rest) := by
  simpa [grouped] using reads 0 rest follows

theorem parseArgs_tokens {scopes : List String} (args : List Expr)
    (each : ∀ arg ∈ args, ReadsAt pre scopes arg) (nonempty : args ≠ []) (rest : List Token) :
    parseArgs ([Token.comma].intercalate (args.map (tokens pre scopes)) ++ .closeParen :: rest) =
      some (args.map (skeleton pre scopes), rest) := by
  induction args with
  | nil => exact absurd rfl nonempty
  | cons arg more ih =>
    have first := each arg List.mem_cons_self
    cases more with
    | nil =>
      rw [List.map_singleton,List.intercalate_singleton,parseArgs_last (readsAt_zero pre first _ trivial)]
      rfl
    | cons next others =>
      have later := ih (fun other member => each other (List.mem_cons_of_mem arg member)) (by simp)
      have firstRead := readsAt_zero pre first (.comma ::
        ([Token.comma].intercalate ((next :: others).map (tokens pre scopes)) ++ .closeParen :: rest)) trivial
      have shorter : ([Token.comma].intercalate ((next :: others).map (tokens pre scopes)) ++
          .closeParen :: rest).length < (arg.tokens pre scopes ++ .comma ::
          ([Token.comma].intercalate ((next :: others).map (tokens pre scopes)) ++ .closeParen :: rest)).length := by
        simp
        omega
      rw [List.map_cons,List.map_cons,List.intercalate_cons_cons,← List.map_cons,List.append_assoc,
        List.append_assoc,List.singleton_append,parseArgs_more firstRead shorter,later]
      rfl

theorem leadsAt (e : Expr) : ∀ scopes, LeadsAt pre scopes e := by
  induction e using treeInduction with
  | value v =>
    intro scopes
    apply leadsAt_of_primary
    intro rest follows
    rw [tokens,List.singleton_append,parseUnary_primary (by simp) (by simp),
      parsePrimary_atom follows.noLambda,skeleton]
  | property p =>
    intro scopes
    apply leadsAt_of_primary
    intro rest follows
    cases p <;>
      rw [tokens,List.singleton_append,parseUnary_primary (by simp) (by simp),
        parsePrimary_atom follows.noLambda,skeleton]
  | unary op operand ih =>
    intro scopes
    cases op with
    | identity =>
      have inner := ih scopes
      simpa only [LeadsAt,tokens,print,skeleton] using inner
    | «not» =>
      apply leadsAt_of_primary
      intro rest follows
      rw [tokens,List.cons_append,parseUnary_not,parseUnary_operand pre (ih scopes) follows]
      rfl
    | negate =>
      apply leadsAt_of_primary
      intro rest follows
      rw [tokens,List.cons_append,parseUnary_negate,parseUnary_operand pre (ih scopes) follows]
      rfl
  | binary op left right ihl ihr =>
    intro scopes rest follows
    have follows' : Follows (op.precedence + 1) rest := follows
    -- the right operand is read at one more than the operator's precedence, which groups equal
    -- precedences to the left
    have rightRead : parseExpr (op.precedence + 1) (grouped (decide ((right.print pre scopes).precedence
        ≤ op.precedence)) (right.tokens pre scopes) ++ rest) = some (right.skeleton pre scopes, rest) := by
      simpa [Nat.lt_add_one_iff] using readsAt_of_leadsAt pre (ihr scopes) (op.precedence + 1) rest follows'
    have rightShorter : rest.length < (grouped (decide ((right.print pre scopes).precedence
        ≤ op.precedence)) (right.tokens pre scopes) ++ rest).length := by
      have nonempty := List.length_pos_iff.mpr (tokens_ne_nil pre right scopes)
      rw [List.length_append,length_grouped]
      split <;> omega
    have climbs : ∀ k ≤ op.precedence, climb k (left.skeleton pre scopes) (.binOp op ::
        (grouped (decide ((right.print pre scopes).precedence ≤ op.precedence)) (right.tokens pre scopes) ++
          rest)) = climb k ((Expr.binary op left right).skeleton pre scopes) rest := by
      intro k atMost
      rw [climb_binOp atMost rightRead rightShorter]
      rfl
    have notTight : ¬ 7 ≤ ((Expr.binary op left right).print pre scopes).precedence := by
      show ¬ 7 ≤ op.precedence
      exact Nat.not_le_of_lt (Nat.lt_succ_of_le (precedence_le_six op))
    by_cases wrap : (left.print pre scopes).precedence < op.precedence
    · have leftRead := readsAt_zero pre (readsAt_of_leadsAt pre (ihl scopes)) (.closeParen ::
        .binOp op :: (grouped (decide ((right.print pre scopes).precedence ≤ op.precedence))
          (right.tokens pre scopes) ++ rest)) trivial
      have leftTokens : grouped (decide ((left.print pre scopes).precedence < op.precedence))
          (left.tokens pre scopes) = .openParen :: (left.tokens pre scopes ++ [.closeParen]) := by
        simp [grouped,wrap]
      refine ⟨left.skeleton pre scopes,.binOp op :: grouped (decide ((right.print pre scopes).precedence
        ≤ op.precedence)) (right.tokens pre scopes),?_,?_,fun tight => absurd tight notTight,climbs⟩
      · rw [tokens,leftTokens]
        simp only [List.cons_append,List.append_assoc,List.nil_append]
        rw [parseUnary_primary (by simp) (by simp),parsePrimary_group leftRead]
      · rw [tokens,leftTokens]
        simp only [List.length_append,List.length_cons,List.length_nil]
        omega
    · have tighter : op.precedence ≤ (left.print pre scopes).precedence := Nat.le_of_not_lt wrap
      have leftTokens : grouped (decide ((left.print pre scopes).precedence < op.precedence))
          (left.tokens pre scopes) = left.tokens pre scopes := by
        simp [grouped,wrap]
      obtain ⟨u,tail,unary,shorter,-,leftClimbs⟩ := ihl scopes (.binOp op ::
        (grouped (decide ((right.print pre scopes).precedence ≤ op.precedence)) (right.tokens pre scopes) ++
          rest)) (Nat.lt_succ_of_le tighter)
      refine ⟨u,tail ++ .binOp op :: grouped (decide ((right.print pre scopes).precedence
        ≤ op.precedence)) (right.tokens pre scopes),?_,?_,fun tight => absurd tight notTight,?_⟩
      · rw [tokens,leftTokens,List.append_assoc,List.cons_append,unary,List.append_assoc,
          List.cons_append]
      · rw [tokens,leftTokens]
        simp only [List.length_append,List.length_cons]
        omega
      · intro k atMost
        rw [List.append_assoc,List.cons_append,leftClimbs k (Nat.le_trans atMost tighter)]
        exact climbs k atMost
  | call method args ih =>
    intro scopes
    apply leadsAt_of_primary
    intro rest follows
    simp only [tokens,tokenArgs_eq_map,List.cons_append,List.append_assoc,List.nil_append]
    rw [parseUnary_primary (by simp) (by simp)]
    cases args with
    | nil => exact parsePrimary_call_nil method.name rest
    | cons arg more =>
      obtain ⟨t,tail,first,notClose⟩ := tokens_head pre arg scopes
      have each : ∀ other ∈ arg :: more, ReadsAt pre scopes other :=
        fun other member => readsAt_of_leadsAt pre (ih other member scopes)
      have open_ : ∀ after, [Token.comma].intercalate ((arg :: more).map (tokens pre scopes)) ++
          .closeParen :: rest ≠ .closeParen :: after := by
        intro after same
        cases more <;> simp [first] at same <;> exact notClose same.1
      rw [parsePrimary_call open_,parseArgs_tokens pre (arg :: more) each (by simp) rest]
      simp [skeleton]
  | lambda q collection predicate ih =>
    intro scopes
    apply leadsAt_of_primary
    intro rest follows
    have body := readsAt_zero pre (readsAt_of_leadsAt pre
      (ih (scopes ++ [lambdaVariable pre scopes.length]))) (.closeParen :: rest) trivial
    rw [tokens,List.cons_append,List.cons_append,parseUnary_primary (by simp) (by simp),
      List.append_assoc,List.singleton_append,parsePrimary_lambda body]
    rfl

theorem parse_tokens (e : Expr) : parse (e.tokens pre []) = some (e.skeleton pre []) := by
  have whole := readsAt_zero pre (readsAt_of_leadsAt pre (leadsAt pre e [])) [] trivial
  rw [List.append_nil] at whole
  rw [parse,whole]

theorem opens_tokens_le {e : Expr} {ts : List Token} (reads : parse ts = some (e.skeleton pre [])) :
    Token.opens (e.tokens pre []) ≤ Token.opens ts := by
  rw [opens_tokens]
  exact parens_le_opens reads

end

end Expr

/-- The printer writes the tokens of a tree; they read back as the tree's skeleton; and dropping
any one pair of grouping parentheses from them gives tokens that no longer read back so. -/
theorem render_reads_back_with_fewest_parens (pre : String) (e : Expr) :
    Serializer.render pre e = .ok (Token.spell (e.tokens pre [])) ∧
    Skeleton.parse (e.tokens pre []) = some (e.skeleton pre []) ∧
    ∀ before inside after, e.tokens pre [] = before ++ .openParen :: inside ++ .closeParen :: after →
      Skeleton.parse (before ++ inside ++ after) ≠ some (e.skeleton pre []) := by
  refine ⟨?_,Expr.parse_tokens pre e,?_⟩
  · have pushed := Serializer.run_walk e (Serializer.new pre) [] rfl rfl
    rw [Serializer.render,pushed,Expr.spell_tokens]
    rfl
  · intro before inside after split reads
    have fewest := Expr.opens_tokens_le pre reads
    rw [split] at fewest
    simp only [Token.opens_append,Token.opens_cons,if_true,reduceCtorEq,if_false] at fewest
    omega

end ODataBuilder
