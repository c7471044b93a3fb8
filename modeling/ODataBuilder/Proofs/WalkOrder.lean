import ODataBuilder.Proofs.Printing

/-! The order of a walk, said of the list of events every visitor consumes. Each event is paired
with the number of scopes open when it happens (`WalkEvent.withScopes`), and the subtrees are
listed in pre-order and post-order with the number of lambda predicates around each. -/
namespace ODataBuilder

namespace WalkEvent

/-- The number of scopes open after an event, from the number open before it. -/
def scopesAfter (opened : Nat) : WalkEvent → Nat
  | .pushScope _ => opened + 1
  | .popScope => opened - 1
  | _ => opened

def openAfter (opened : Nat) (events : List WalkEvent) : Nat :=
  events.foldl scopesAfter opened

def withScopes : Nat → List WalkEvent → List (WalkEvent × Nat)
  | _, [] => []
  | opened, event :: rest => (event, opened) :: withScopes (event.scopesAfter opened) rest

def enteredNode? : WalkEvent → Option Expr
  | .enter node => some node
  | _ => none

def pushedQuantifier? : WalkEvent → Option Quantifier
  | .pushScope q => some q
  | _ => none

def popped? : WalkEvent → Option Unit
  | .popScope => some ()
  | _ => none

/-- The events that `pick` reads, in order, each read with the scopes open when it happens. -/
def select {β : Type} (pick : WalkEvent → Option β) (events : List (WalkEvent × Nat)) :
    List (β × Nat) :=
  events.filterMap fun (event, opened) => (pick event).map (·, opened)

section

variable {β : Type} (pick : WalkEvent → Option β)

@[simp] theorem openAfter_nil (opened : Nat) : openAfter opened [] = opened := rfl

@[simp] theorem openAfter_cons (opened : Nat) (event : WalkEvent) (rest : List WalkEvent) :
    openAfter opened (event :: rest) = openAfter (event.scopesAfter opened) rest := rfl

@[simp] theorem openAfter_append (opened : Nat) (first second : List WalkEvent) :
    openAfter opened (first ++ second) = openAfter (openAfter opened first) second := by
  simp [openAfter]

@[simp] theorem withScopes_nil (opened : Nat) : withScopes opened [] = [] := rfl

@[simp] theorem withScopes_cons (opened : Nat) (event : WalkEvent) (rest : List WalkEvent) :
    withScopes opened (event :: rest) =
      (event, opened) :: withScopes (event.scopesAfter opened) rest :=
  rfl

@[simp] theorem withScopes_append (opened : Nat) (first second : List WalkEvent) :
    withScopes opened (first ++ second) =
      withScopes opened first ++ withScopes (openAfter opened first) second := by
  induction first generalizing opened with
  | nil => rfl
  | cons event rest ih => simp [ih]

@[simp] theorem select_nil : select pick [] = [] := rfl

@[simp] theorem select_cons (event : WalkEvent) (opened : Nat) (rest : List (WalkEvent × Nat)) :
    select pick ((event, opened) :: rest) =
      ((pick event).map (·, opened)).toList ++ select pick rest := by
  cases h : pick event <;> simp [select,h]

@[simp] theorem select_append (first second : List (WalkEvent × Nat)) :
    select pick (first ++ second) = select pick first ++ select pick second := by
  simp [select]

theorem select_flatMap {α : Type} (xs : List α) (f : α → List (WalkEvent × Nat)) :
    select pick (xs.flatMap f) = xs.flatMap fun x => select pick (f x) := by
  induction xs with
  | nil => rfl
  | cons x rest ih => simp [ih]

end

end WalkEvent

namespace Expr

mutual
/-- The subtrees of a tree in pre-order, each with the number of lambda predicates around it
(counted from `depth`): a node, then the subtrees of its children in source order. -/
def preorder (depth : Nat) : Expr → List (Expr × Nat)
  | .value v => [(.value v, depth)]
  | .property p => [(.property p, depth)]
  | .unary op operand => (.unary op operand, depth) :: preorder depth operand
  | .binary op left right =>
    (.binary op left right, depth) :: (preorder depth left ++ preorder depth right)
  | .call method args => (.call method args, depth) :: preorderAll depth args
  | .lambda q collection predicate =>
    (.lambda q collection predicate, depth) :: (field collection, depth) ::
      preorder (depth + 1) predicate

def preorderAll (depth : Nat) : List Expr → List (Expr × Nat)
  | [] => []
  | e :: rest => preorder depth e ++ preorderAll depth rest
end

mutual
/-- The subtrees of a tree in post-order, each with the number of lambda predicates around it:
the subtrees of the children in source order, then the node. -/
def postorder (depth : Nat) : Expr → List (Expr × Nat)
  | .value v => [(.value v, depth)]
  | .property p => [(.property p, depth)]
  | .unary op operand => postorder depth operand ++ [(.unary op operand, depth)]
  | .binary op left right =>
    postorder depth left ++ postorder depth right ++ [(.binary op left right, depth)]
  | .call method args => postorderAll depth args ++ [(.call method args, depth)]
  | .lambda q collection predicate =>
    (field collection, depth) :: (postorder (depth + 1) predicate ++
      [(.lambda q collection predicate, depth)])

def postorderAll (depth : Nat) : List Expr → List (Expr × Nat)
  | [] => []
  | e :: rest => postorder depth e ++ postorderAll depth rest
end

def quantifier? : Expr → Option Quantifier
  | .lambda q _ _ => some q
  | _ => none

@[simp] theorem walkAll_eq_flatMap (args : List Expr) : walkAll args = args.flatMap walk := by
  induction args with
  | nil => rfl
  | cons arg rest ih => simp [walkAll,ih]

@[simp] theorem preorderAll_eq_flatMap (depth : Nat) (args : List Expr) :
    preorderAll depth args = args.flatMap (preorder depth) := by
  induction args with
  | nil => rfl
  | cons arg rest ih => simp [preorderAll,ih]

@[simp] theorem postorderAll_eq_flatMap (depth : Nat) (args : List Expr) :
    postorderAll depth args = args.flatMap (postorder depth) := by
  induction args with
  | nil => rfl
  | cons arg rest ih => simp [postorderAll,ih]

open WalkEvent

theorem openAfter_flatMap {args : List Expr}
    (each : ∀ arg ∈ args, ∀ opened, openAfter opened arg.walk = opened) (opened : Nat) :
    openAfter opened (args.flatMap walk) = opened := by
  induction args with
  | nil => rfl
  | cons arg rest ih => simp_all

@[simp] theorem openAfter_walk (e : Expr) : ∀ opened, openAfter opened e.walk = opened := by
  induction e using treeInduction with
  | value v => intro opened; rfl
  | property p => intro opened; rfl
  | unary op operand ih => intro opened; simp [walk,ih,scopesAfter]
  | binary op left right ihl ihr => intro opened; simp [walk,ihl,ihr,scopesAfter]
  | call method args ih => intro opened; simp [walk,openAfter_flatMap ih,scopesAfter]
  | lambda q collection predicate ih => intro opened; simp [walk,ih,scopesAfter,field]

@[simp] theorem openAfter_flatMap_walk (opened : Nat) (args : List Expr) :
    openAfter opened (args.flatMap walk) = opened :=
  openAfter_flatMap (fun arg _ => arg.openAfter_walk) opened

theorem withScopes_flatMap_walk (opened : Nat) (args : List Expr) :
    withScopes opened (args.flatMap walk) = args.flatMap fun arg => withScopes opened arg.walk := by
  induction args with
  | nil => rfl
  | cons arg rest ih => simp [ih]

theorem select_walkAll {β : Type} (pick : WalkEvent → Option β) (opened : Nat)
    (args : List Expr) (spec : Expr → List (β × Nat))
    (each : ∀ arg ∈ args, select pick (withScopes opened arg.walk) = spec arg) :
    select pick (withScopes opened (args.flatMap walk)) = args.flatMap spec := by
  rw [withScopes_flatMap_walk,select_flatMap]
  exact congrArg List.flatten (List.map_congr_left each)

theorem entries_walk (e : Expr) :
    ∀ opened, select enteredNode? (withScopes opened e.walk) = e.preorder opened := by
  induction e using treeInduction with
  | value v => intro opened; rfl
  | property p => intro opened; rfl
  | unary op operand ih => intro opened; simp [walk,preorder,ih,enteredNode?,scopesAfter]
  | binary op left right ihl ihr =>
    intro opened
    simp [walk,preorder,ihl,ihr,enteredNode?,scopesAfter]
  | call method args ih =>
    intro opened
    simp [walk,preorder,enteredNode?,scopesAfter,
      select_walkAll _ _ _ _ fun arg member => ih arg member opened]
  | lambda q collection predicate ih =>
    intro opened
    simp [walk,preorder,ih,enteredNode?,scopesAfter,field]

theorem exits_walk (e : Expr) :
    ∀ opened, select exitedNode? (withScopes opened e.walk) = e.postorder opened := by
  induction e using treeInduction with
  | value v => intro opened; rfl
  | property p => intro opened; rfl
  | unary op operand ih => intro opened; simp [walk,postorder,ih,exitedNode?,scopesAfter]
  | binary op left right ihl ihr =>
    intro opened
    simp [walk,postorder,ihl,ihr,exitedNode?,scopesAfter]
  | call method args ih =>
    intro opened
    simp [walk,postorder,exitedNode?,scopesAfter,
      select_walkAll _ _ _ _ fun arg member => ih arg member opened]
  | lambda q collection predicate ih =>
    intro opened
    simp [walk,postorder,ih,exitedNode?,scopesAfter,field]

/-- The walk opens one scope per lambda, in pre-order, with the lambda's quantifier and as
many scopes open as around the lambda. -/
theorem pushes_walk (e : Expr) :
    ∀ opened, select pushedQuantifier? (withScopes opened e.walk) =
      (e.preorder opened).filterMap fun x => x.1.quantifier?.map (·, x.2) := by
  induction e using treeInduction with
  | value v => intro opened; rfl
  | property p => intro opened; rfl
  | unary op operand ih =>
    intro opened
    simp [walk,preorder,ih,pushedQuantifier?,scopesAfter,quantifier?]
  | binary op left right ihl ihr =>
    intro opened
    simp [walk,preorder,ihl,ihr,pushedQuantifier?,scopesAfter,quantifier?]
  | call method args ih =>
    intro opened
    simp [walk,preorder,pushedQuantifier?,scopesAfter,quantifier?,List.filterMap_flatMap,
      select_walkAll _ _ _ _ fun arg member => ih arg member opened]
  | lambda q collection predicate ih =>
    intro opened
    simp [walk,preorder,ih,pushedQuantifier?,scopesAfter,quantifier?,field]

/-- The walk closes one scope per lambda, in post-order, each inside the lambda's own scope:
with one more scope open than around the lambda. -/
theorem pops_walk (e : Expr) :
    ∀ opened, select popped? (withScopes opened e.walk) =
      (e.postorder opened).filterMap fun x => x.1.quantifier?.map fun _ => ((), x.2 + 1) := by
  induction e using treeInduction with
  | value v => intro opened; rfl
  | property p => intro opened; rfl
  | unary op operand ih =>
    intro opened
    simp [walk,postorder,ih,popped?,scopesAfter,quantifier?]
  | binary op left right ihl ihr =>
    intro opened
    simp [walk,postorder,ihl,ihr,popped?,scopesAfter,quantifier?]
  | call method args ih =>
    intro opened
    simp [walk,postorder,popped?,scopesAfter,quantifier?,List.filterMap_flatMap,
      select_walkAll _ _ _ _ fun arg member => ih arg member opened]
  | lambda q collection predicate ih =>
    intro opened
    simp [walk,postorder,ih,popped?,scopesAfter,quantifier?,field]

theorem walk_block_of_eq {e node : Expr} {opened depth : Nat} (same : (node, depth) = (e, opened)) :
    ∃ before after, e.walk = before ++ node.walk ++ after ∧ openAfter opened before = depth := by
  obtain ⟨rfl,rfl⟩ := Prod.mk.inj same
  exact ⟨[],[],by simp,rfl⟩

/-- The events of every subtree are one block of the walk, which starts with as many scopes
open as there are lambda predicates around the subtree. -/
theorem walk_block (e : Expr) :
    ∀ opened node depth, (node, depth) ∈ e.preorder opened →
      ∃ before after, e.walk = before ++ node.walk ++ after ∧
        openAfter opened before = depth := by
  induction e using treeInduction with
  | value v =>
    intro opened node depth member
    exact walk_block_of_eq (List.mem_singleton.1 member)
  | property p =>
    intro opened node depth member
    exact walk_block_of_eq (List.mem_singleton.1 member)
  | unary op operand ih =>
    intro opened node depth member
    rcases List.mem_cons.1 member with self | inner
    · exact walk_block_of_eq self
    · obtain ⟨before,after,split,depthAt⟩ := ih opened node depth inner
      refine ⟨.enter (.unary op operand) :: before,after ++ [.exit (.unary op operand)],?_,?_⟩
      · simp [walk,split]
      · simpa [scopesAfter] using depthAt
  | binary op left right ihl ihr =>
    intro opened node depth member
    rcases List.mem_cons.1 member with self | inner
    · exact walk_block_of_eq self
    rcases List.mem_append.1 inner with inLeft | inRight
    · obtain ⟨before,after,split,depthAt⟩ := ihl opened node depth inLeft
      refine ⟨.enter (.binary op left right) :: before,
        after ++ right.walk ++ [.exit (.binary op left right)],?_,?_⟩
      · simp [walk,split]
      · simpa [scopesAfter] using depthAt
    · obtain ⟨before,after,split,depthAt⟩ := ihr opened node depth inRight
      refine ⟨.enter (.binary op left right) :: (left.walk ++ before),
        after ++ [.exit (.binary op left right)],?_,?_⟩
      · simp [walk,split]
      · simpa [scopesAfter] using depthAt
  | call method args ih =>
    intro opened node depth member
    rcases List.mem_cons.1 member with self | inner
    · exact walk_block_of_eq self
    -- the subtree lies in one argument; the arguments before it leave the scopes as they were
    obtain ⟨arg,inArgs,inArg⟩ := List.mem_flatMap.1 (by simpa using inner)
    obtain ⟨earlier,later,rfl⟩ := List.append_of_mem inArgs
    obtain ⟨before,after,split,depthAt⟩ := ih arg inArgs opened node depth inArg
    refine ⟨.enter (.call method (earlier ++ arg :: later)) :: (earlier.flatMap walk ++ before),
      after ++ later.flatMap walk ++ [.exit (.call method (earlier ++ arg :: later))],?_,?_⟩
    · simp [walk,split]
    · simpa [scopesAfter] using depthAt
  | lambda q collection predicate ih =>
    intro opened node depth member
    rcases List.mem_cons.1 member with self | inner
    · exact walk_block_of_eq self
    rcases List.mem_cons.1 inner with leaf | inPredicate
    · obtain ⟨rfl,rfl⟩ := Prod.mk.inj leaf
      refine ⟨[.enter (.lambda q collection predicate)],
        .pushScope q :: (predicate.walk ++ [.popScope,.exit (.lambda q collection predicate)]),
        ?_,?_⟩
      · simp [walk,field]
      · rfl
    · obtain ⟨before,after,split,depthAt⟩ := ih (opened + 1) node depth inPredicate
      refine ⟨.enter (.lambda q collection predicate) :: .enter (field collection) ::
          .exit (field collection) :: .pushScope q :: before,
        after ++ [.popScope,.exit (.lambda q collection predicate)],?_,?_⟩
      · simp [walk,split,field]
      · simpa [scopesAfter,field] using depthAt

end Expr

open WalkEvent in
/-- A walk visits a tree as every visitor relies on: it enters the subtrees in pre-order and
leaves them in post-order, each with as many scopes open as there are lambda predicates around
it; it opens one scope per lambda, in pre-order and with the lambda's quantifier, and closes one
per lambda, in post-order and inside that lambda's scope, so it never closes a scope that is not
open; it ends with no scope open; and the events of each lambda are one block, in which its
scope opens right after the collection's events and closes right after the predicate's. -/
theorem walk_visits_in_order (e : Expr) :
    select enteredNode? (withScopes 0 e.walk) = e.preorder 0 ∧
    select exitedNode? (withScopes 0 e.walk) = e.postorder 0 ∧
    select pushedQuantifier? (withScopes 0 e.walk) =
      (e.preorder 0).filterMap (fun x => x.1.quantifier?.map (·, x.2)) ∧
    select popped? (withScopes 0 e.walk) =
      (e.postorder 0).filterMap (fun x => x.1.quantifier?.map fun _ => ((), x.2 + 1)) ∧
    openAfter 0 e.walk = 0 ∧
    ∀ q collection predicate depth, (.lambda q collection predicate, depth) ∈ e.preorder 0 →
      ∃ before after, e.walk = before ++
          (.enter (.lambda q collection predicate) :: .enter (Expr.field collection) ::
            .exit (Expr.field collection) :: .pushScope q ::
            (predicate.walk ++ [.popScope,.exit (.lambda q collection predicate)])) ++ after ∧
        openAfter 0 before = depth := by
  refine ⟨e.entries_walk 0,e.exits_walk 0,e.pushes_walk 0,e.pops_walk 0,e.openAfter_walk 0,?_⟩
  intro q collection predicate depth member
  obtain ⟨before,after,split,depthAt⟩ := e.walk_block 0 _ depth member
  exact ⟨before,after,by simpa [Expr.walk] using split,depthAt⟩

/-- Orders all of whose items have shipped: the inner lambda's block starts inside the outer
lambda's scope. -/
theorem nested_lambda_block :
    (Expr.lambda .all ⟨["Items"]⟩ (Expr.field ⟨["Shipped"]⟩), 1) ∈
      (Expr.lambda .any ⟨["Orders"]⟩
        (.lambda .all ⟨["Items"]⟩ (Expr.field ⟨["Shipped"]⟩))).preorder 0 ∧
    ∃ before after,
      (Expr.lambda .any ⟨["Orders"]⟩
        (.lambda .all ⟨["Items"]⟩ (Expr.field ⟨["Shipped"]⟩))).walk =
        before ++ (.enter (.lambda .all ⟨["Items"]⟩ (Expr.field ⟨["Shipped"]⟩)) ::
          .enter (Expr.field ⟨["Items"]⟩) :: .exit (Expr.field ⟨["Items"]⟩) ::
          .pushScope .all :: ((Expr.field ⟨["Shipped"]⟩).walk ++
            [.popScope,.exit (.lambda .all ⟨["Items"]⟩ (Expr.field ⟨["Shipped"]⟩))])) ++
          after ∧
      WalkEvent.openAfter 0 before = 1 :=
  have member : (Expr.lambda .all ⟨["Items"]⟩ (Expr.field ⟨["Shipped"]⟩), 1) ∈
      (Expr.lambda .any ⟨["Orders"]⟩
        (.lambda .all ⟨["Items"]⟩ (Expr.field ⟨["Shipped"]⟩))).preorder 0 := by
    simp [Expr.preorder]
  ⟨member,(walk_visits_in_order _).2.2.2.2.2 _ _ _ _ member⟩

end ODataBuilder
