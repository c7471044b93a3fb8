import Mathlib
import ODataBuilder.Proofs.Printing

/-! Printed trees as token sequences. A leaf's text is one opaque atom; the other tokens are the
prefix operators, the binary operators, grouping parentheses, a call's opening `name(`, commas, a
lambda's header `/any(v:` and the closing parenthesis of calls, lambdas and groups. The text of a
tree's tokens is its printing. The skeleton of a tree is its operator structure with the atoms at
the leaves and every `identity` node gone; `Skeleton.parens` counts the grouping parentheses that
the precedences force, and the tokens hold exactly that many. -/
namespace ODataBuilder

inductive Token where
  | atom (text : String)
  | notOp
  | negOp
  | binOp (op : BinaryOp)
  | openParen
  | closeParen
  | comma
  | callOpen (name : String)
  | lambdaOpen (q : Quantifier) (var : String)
  deriving DecidableEq, Repr

namespace Token

def text : Token → String
  | .atom text => text
  | .notOp => "not "
  | .negOp => "-"
  | .binOp op => " " ++ op.symbol ++ " "
  | .openParen => "("
  | .closeParen => ")"
  | .comma => ","
  | .callOpen name => name ++ "("
  | .lambdaOpen q var => "/" ++ q.keyword ++ "(" ++ var ++ ":"

def spell (tokens : List Token) : String := String.join (tokens.map text)

@[simp] theorem spell_nil : spell [] = "" := rfl

@[simp] theorem spell_cons (t : Token) (tokens : List Token) :
    spell (t :: tokens) = t.text ++ spell tokens := by
  simp [spell,String.join_cons]

@[simp] theorem spell_append (first second : List Token) :
    spell (first ++ second) = spell first ++ spell second := by
  simp [spell,String.join_append]

def opens (tokens : List Token) : Nat := tokens.count .openParen

@[simp] theorem opens_nil : opens [] = 0 := rfl

@[simp] theorem opens_cons (t : Token) (tokens : List Token) :
    opens (t :: tokens) = (if t = .openParen then 1 else 0) + opens tokens := by
  by_cases same : t = .openParen
  · simp [opens,same]
    omega
  · simp [opens,same]

@[simp] theorem opens_append (first second : List Token) :
    opens (first ++ second) = opens first + opens second := by
  simp [opens]

end Token

theorem spell_intercalate (lists : List (List Token)) :
    Token.spell ([Token.comma].intercalate lists) = ",".intercalate (lists.map Token.spell) := by
  induction lists with
  | nil => rfl
  | cons first rest ih =>
    cases rest with
    | nil => simp
    | cons second more =>
      rw [List.intercalate_cons_cons,List.map_cons,List.map_cons,String.intercalate_cons_cons,
        Token.spell_append,Token.spell_append,← List.map_cons,ih]
      simp [Token.text,String.append_assoc]

theorem opens_intercalate (lists : List (List Token)) :
    Token.opens ([Token.comma].intercalate lists) = (lists.map Token.opens).sum := by
  induction lists with
  | nil => rfl
  | cons first rest ih =>
    cases rest with
    | nil => simp
    | cons second more =>
      rw [List.intercalate_cons_cons,Token.opens_append,Token.opens_append,ih]
      simp

def grouped (needed : Bool) (tokens : List Token) : List Token :=
  if needed then .openParen :: tokens ++ [.closeParen] else tokens

@[simp] theorem spell_grouped (needed : Bool) (tokens : List Token) :
    Token.spell (grouped needed tokens) = parenthesizedIf needed (Token.spell tokens) := by
  cases needed <;> simp [grouped,parenthesizedIf,Token.text,String.append_assoc]

@[simp] theorem opens_grouped (needed : Bool) (tokens : List Token) :
    Token.opens (grouped needed tokens) = (if needed then 1 else 0) + Token.opens tokens := by
  cases needed <;> simp [grouped]

theorem length_grouped (needed : Bool) (tokens : List Token) :
    (grouped needed tokens).length = tokens.length + (if needed then 2 else 0) := by
  cases needed <;> simp [grouped]

inductive Skeleton where
  | atom (text : String)
  | not (operand : Skeleton)
  | negate (operand : Skeleton)
  | binary (op : BinaryOp) (left right : Skeleton)
  | call (name : String) (args : List Skeleton)
  | lambda (collection : String) (q : Quantifier) (var : String) (predicate : Skeleton)
  deriving Inhabited

namespace Skeleton

def precedence : Skeleton → Nat
  | .not _ | .negate _ => 7
  | .binary op _ _ => op.precedence
  | .atom _ | .call _ _ | .lambda _ _ _ _ => 255

mutual
/-- The grouping parentheses inside the structure: around an operand of a prefix operator that
binds looser than it, around a left operand that binds looser than its operator and around a
right operand that binds no tighter. -/
def parens : Skeleton → Nat
  | .atom _ => 0
  | .not operand | .negate operand => (if operand.precedence < 7 then 1 else 0) + parens operand
  | .binary op left right =>
    (if left.precedence < op.precedence then 1 else 0) + parens left +
      ((if right.precedence < op.precedence + 1 then 1 else 0) + parens right)
  | .call _ args => parensAll args
  | .lambda _ _ _ predicate => parens predicate

def parensAll : List Skeleton → Nat
  | [] => 0
  | arg :: rest => parens arg + parensAll rest
end

def need (s : Skeleton) (least : Nat) : Nat := (if s.precedence < least then 1 else 0) + s.parens

theorem need_zero (s : Skeleton) : s.need 0 = s.parens := by simp [need]

theorem need_le (s : Skeleton) (least : Nat) : s.need least ≤ s.parens + 1 := by
  unfold need
  split <;> omega

@[simp] theorem parensAll_eq_sum (args : List Skeleton) :
    parensAll args = (args.map parens).sum := by
  induction args with
  | nil => rfl
  | cons arg rest ih => simp [parensAll,ih]

end Skeleton

namespace Expr

mutual
def tokens (pre : String) (scopes : List String) : Expr → List Token
  | .value v => [.atom v.literal]
  | .property (.keyword word) => [.atom word]
  | .property (.field path) => [.atom (fieldUnder scopes path)]
  | .unary .identity operand => tokens pre scopes operand
  | .unary .not operand =>
    .notOp :: grouped (decide ((print pre scopes operand).precedence < 7)) (tokens pre scopes operand)
  | .unary .negate operand =>
    .negOp :: grouped (decide ((print pre scopes operand).precedence < 7)) (tokens pre scopes operand)
  | .binary op left right =>
    grouped (decide ((print pre scopes left).precedence < op.precedence)) (tokens pre scopes left) ++
      .binOp op :: grouped (decide ((print pre scopes right).precedence ≤ op.precedence))
        (tokens pre scopes right)
  | .call method args => .callOpen method.name :: [.comma].intercalate (tokenArgs pre scopes args) ++
      [.closeParen]
  | .lambda q collection predicate =>
    let var := lambdaVariable pre scopes.length
    .atom (fieldUnder scopes collection) :: .lambdaOpen q var ::
      (tokens pre (scopes ++ [var]) predicate ++ [.closeParen])

def tokenArgs (pre : String) (scopes : List String) : List Expr → List (List Token)
  | [] => []
  | arg :: rest => tokens pre scopes arg :: tokenArgs pre scopes rest
end

mutual
def skeleton (pre : String) (scopes : List String) : Expr → Skeleton
  | .value v => .atom v.literal
  | .property (.keyword word) => .atom word
  | .property (.field path) => .atom (fieldUnder scopes path)
  | .unary .identity operand => skeleton pre scopes operand
  | .unary .not operand => .not (skeleton pre scopes operand)
  | .unary .negate operand => .negate (skeleton pre scopes operand)
  | .binary op left right => .binary op (skeleton pre scopes left) (skeleton pre scopes right)
  | .call method args => .call method.name (skeletons pre scopes args)
  | .lambda q collection predicate =>
    let var := lambdaVariable pre scopes.length
    .lambda (fieldUnder scopes collection) q var (skeleton pre (scopes ++ [var]) predicate)

def skeletons (pre : String) (scopes : List String) : List Expr → List Skeleton
  | [] => []
  | arg :: rest => skeleton pre scopes arg :: skeletons pre scopes rest
end

@[simp] theorem tokenArgs_eq_map (pre : String) (scopes : List String) (args : List Expr) :
    tokenArgs pre scopes args = args.map (tokens pre scopes) := by
  induction args with
  | nil => rfl
  | cons arg rest ih => simp [tokenArgs,ih]

@[simp] theorem skeletons_eq_map (pre : String) (scopes : List String) (args : List Expr) :
    skeletons pre scopes args = args.map (skeleton pre scopes) := by
  induction args with
  | nil => rfl
  | cons arg rest ih => simp [skeletons,ih]

theorem skeleton_precedence (pre : String) (e : Expr) :
    ∀ scopes, (e.skeleton pre scopes).precedence = (e.print pre scopes).precedence := by
  induction e using treeInduction with
  | unary op operand ih =>
    intro scopes
    cases op with
    | identity => simpa [skeleton,print] using ih scopes
    | _ => simp [skeleton,print,Skeleton.precedence]
  | property p => intro scopes; cases p <;> simp [skeleton,print,Skeleton.precedence]
  | _ => intro scopes; simp [skeleton,print,Skeleton.precedence]

theorem spell_tokens (pre : String) (e : Expr) :
    ∀ scopes, Token.spell (e.tokens pre scopes) = (e.print pre scopes).text := by
  induction e using treeInduction with
  | value v => intro scopes; simp [tokens,print,Token.text]
  | property p => intro scopes; cases p <;> simp [tokens,print,Token.text]
  | unary op operand ih =>
    intro scopes
    cases op with
    | identity => simpa [tokens,print] using ih scopes
    | _ => simp [tokens,print,ih,Token.text]
  | binary op left right ihl ihr =>
    intro scopes
    simp [tokens,print,ihl,ihr,Token.text,String.append_assoc]
  | call method args ih =>
    intro scopes
    have texts : args.map (fun arg => Token.spell (arg.tokens pre scopes)) =
        args.map (fun arg => (arg.print pre scopes).text) :=
      List.map_congr_left fun arg member => ih arg member scopes
    simp [tokens,print,spell_intercalate,Function.comp_def,texts,Token.text,String.append_assoc]
  | lambda q collection predicate ih =>
    intro scopes
    simp [tokens,print,ih,Token.text,String.append_assoc]

theorem opens_tokens (pre : String) (e : Expr) :
    ∀ scopes, Token.opens (e.tokens pre scopes) = (e.skeleton pre scopes).parens := by
  induction e using treeInduction with
  | value v => intro scopes; simp [tokens,skeleton,Skeleton.parens]
  | property p => intro scopes; cases p <;> simp [tokens,skeleton,Skeleton.parens]
  | unary op operand ih =>
    intro scopes
    cases op with
    | identity => simpa [tokens,skeleton] using ih scopes
    | _ => simp [tokens,skeleton,Skeleton.parens,ih,skeleton_precedence]
  | binary op left right ihl ihr =>
    intro scopes
    simp [tokens,skeleton,Skeleton.parens,ihl,ihr,skeleton_precedence]
  | call method args ih =>
    intro scopes
    have counts : args.map (fun arg => Token.opens (arg.tokens pre scopes)) =
        args.map (fun arg => (arg.skeleton pre scopes).parens) :=
      List.map_congr_left fun arg member => ih arg member scopes
    simp [tokens,skeleton,Skeleton.parens,opens_intercalate,Function.comp_def,counts]
  | lambda q collection predicate ih =>
    intro scopes
    simp [tokens,skeleton,Skeleton.parens,ih]

end Expr

end ODataBuilder
