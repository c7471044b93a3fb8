import Mathlib.Data.List.Induction
import ODataBuilder.Proofs.Printing
import ODataBuilder.Query.Builder

/-! Query builders under any sequence of calls. A call either fails, and the builder stays as it
was, or writes its part: predicates are appended, the two count flags are set for good, and every
other field holds what the last call that writes it wrote. `QueryBuilder.replay_eq_summary` says
that the builder a sequence of calls leaves is this summary of the calls, field by field, and the
summary compiles without fail. -/
namespace ODataBuilder

/-- A call on a query builder, with what its accessor hands back in place of the accessor. -/
inductive BuilderCall where
  | filter (predicate : Expr)
  | equals (token : PathToken) (operand : Expr)
  | notEquals (token : PathToken) (operand : Expr)
  | contains (token : PathToken) (operand : Expr)
  | lt (token : PathToken) (v : Value)
  | lte (token : PathToken) (v : Value)
  | gt (token : PathToken) (v : Value)
  | gte (token : PathToken) (v : Value)
  | any (token : PathToken) (predicate : Expr)
  | all (token : PathToken) (predicate : Expr)
  | multiply (operand : Expr) (v : Value)
  | top (n : Int64)
  | skip (n : Int64)
  | inlineCount
  | count
  | search (text : String)
  | orderBy (tokens : List PathToken)
  | orderByDescending (tokens : List PathToken)
  | orderByBuilder (orders : List OrderBy)
  | select (tokens : List PathToken)
  | expand (token : PathToken)
  | expandSelect (token : PathToken)
  | addODataString (text : String)

namespace BuilderCall

/-- When a call is refused: an accessor that hands back the root path, a path list that is empty
or holds the root path, an explicit ordering on the root path, or a page count that is not
positive. -/
def Refused : BuilderCall → Prop
  | .equals token _ | .notEquals token _ | .contains token _ | .lt token _ | .lte token _
  | .gt token _ | .gte token _ | .any token _ | .all token _ | .expand token
  | .expandSelect token => token.path.isRoot = true
  | .orderBy tokens | .orderByDescending tokens | .select tokens =>
    tokens = [] ∨ ∃ token ∈ tokens, token.path.isRoot = true
  | .orderByBuilder orders => ∃ o ∈ orders, o.path.isRoot = true
  | .top n | .skip n => n.toInt ≤ 0
  | .filter _ | .multiply _ _ | .inlineCount | .count | .search _ | .addODataString _ => False

instance : DecidablePred Refused
  | .equals token _ | .notEquals token _ | .contains token _ | .lt token _ | .lte token _
  | .gt token _ | .gte token _ | .any token _ | .all token _ | .expand token
  | .expandSelect token => inferInstanceAs (Decidable (token.path.isRoot = true))
  | .orderBy tokens | .orderByDescending tokens | .select tokens =>
    inferInstanceAs (Decidable (tokens = [] ∨ ∃ token ∈ tokens, token.path.isRoot = true))
  | .orderByBuilder orders => inferInstanceAs (Decidable (∃ o ∈ orders, o.path.isRoot = true))
  | .top n | .skip n => inferInstanceAs (Decidable (n.toInt ≤ 0))
  | .filter _ | .multiply _ _ | .inlineCount | .count | .search _ | .addODataString _ =>
    inferInstanceAs (Decidable False)

@[simp] def predicate? : BuilderCall → Option Expr
  | .filter predicate => some predicate
  | .equals token operand => (Expression.equals token operand).toOption
  | .notEquals token operand => (Expression.notEquals token operand).toOption
  | .contains token operand => (Expression.contains token operand).toOption
  | .lt token v => (Expression.lt token v).toOption
  | .lte token v => (Expression.lte token v).toOption
  | .gt token v => (Expression.gt token v).toOption
  | .gte token v => (Expression.gte token v).toOption
  | .any token predicate => (Expression.lambda .any token predicate).toOption
  | .all token predicate => (Expression.lambda .all token predicate).toOption
  | .multiply operand v => some (Expression.arithmetic .mul operand v)
  | _ => none

@[simp] def topCount? : BuilderCall → Option Int64
  | .top n => if 0 < n.toInt then some n else none
  | _ => none

@[simp] def skipCount? : BuilderCall → Option Int64
  | .skip n => if 0 < n.toInt then some n else none
  | _ => none

@[simp] def ordering? : BuilderCall → Option (Option String)
  | .orderBy tokens =>
    (Expression.resolveAll tokens).toOption.map fun paths => some (QueryBuilder.joinPaths paths)
  | .orderByDescending tokens =>
    (Expression.resolveAll tokens).toOption.map fun paths =>
      some (QueryBuilder.joinPaths paths ++ " desc")
  | .orderByBuilder orders =>
    if orders.any (·.path.isRoot) then none
    else some (if orders.isEmpty then none else some (",".intercalate (orders.map OrderBy.text)))
  | _ => none

@[simp] def selection? : BuilderCall → Option String
  | .select tokens => (Expression.resolveAll tokens).toOption.map QueryBuilder.joinPaths
  | _ => none

@[simp] def expansion? : BuilderCall → Option String
  | .expand token => (Expression.resolve token).toOption.map (·.nestedForm QueryBuilder.expandKeyword)
  | .expandSelect token =>
    (Expression.resolve token).toOption.map (·.nestedForm QueryBuilder.selectKeyword)
  | _ => none

@[simp] def searchText? : BuilderCall → Option String
  | .search text => some text
  | _ => none

@[simp] def rawText? : BuilderCall → Option String
  | .addODataString text => some text
  | _ => none

@[simp] def setsInlineCount : BuilderCall → Bool
  | .inlineCount => true
  | _ => false

@[simp] def setsCount : BuilderCall → Bool
  | .count => true
  | _ => false

end BuilderCall

def lastWrite {α : Type} (write : BuilderCall → Option α) (calls : List BuilderCall) : Option α :=
  (calls.filterMap write).getLast?

@[simp] theorem lastWrite_snoc {α : Type} (write : BuilderCall → Option α) (calls : List BuilderCall)
    (c : BuilderCall) : lastWrite write (calls ++ [c]) = (write c).or (lastWrite write calls) := by
  cases h : write c <;> simp [lastWrite,h]

def pagingCount (n : Int64) : Expr := .unary .identity (.value (.int n))

@[simp] theorem print_pagingCount (pre : String) (scopes : List String) (n : Int64) :
    ((pagingCount n).print pre scopes).text = toString n.toInt := by
  simp [pagingCount,Expr.print,Value.literal]

/-- The options a sequence of calls should compile to, printed with the lambda variable `pre`:
the predicates joined by `and`, the last value written to each other option, and the two flags
once they have been asked for. -/
def expectedParams (pre : String) (calls : List BuilderCall) : QueryParams where
  search := lastWrite BuilderCall.searchText? calls
  filter := (Expr.foldAnd (calls.filterMap BuilderCall.predicate?)).map fun e => (e.print pre []).text
  select := lastWrite BuilderCall.selection? calls
  top := (lastWrite BuilderCall.topCount? calls).map fun n => toString n.toInt
  skip := (lastWrite BuilderCall.skipCount? calls).map fun n => toString n.toInt
  inlineCount := if calls.any BuilderCall.setsInlineCount then some "allpages" else none
  orderBy := (lastWrite BuilderCall.ordering? calls).join
  expand := lastWrite BuilderCall.expansion? calls
  count := if calls.any BuilderCall.setsCount then some "true" else none

namespace QueryBuilder

def apply (b : QueryBuilder) : BuilderCall → Except QueryError QueryBuilder
  | .filter predicate => .ok (b.filter predicate)
  | .equals token operand => b.equals token operand
  | .notEquals token operand => b.notEquals token operand
  | .contains token operand => b.contains token operand
  | .lt token v => b.lt token v
  | .lte token v => b.lte token v
  | .gt token v => b.gt token v
  | .gte token v => b.gte token v
  | .any token predicate => b.lambda .any token predicate
  | .all token predicate => b.lambda .all token predicate
  | .multiply operand v => .ok (b.multiply operand v)
  | .top n => b.setTop n
  | .skip n => b.setSkip n
  | .inlineCount => .ok b.withInlineCount
  | .count => .ok b.withCount
  | .search text => .ok (b.withSearch text)
  | .orderBy tokens => b.setOrder tokens .asc
  | .orderByDescending tokens => b.setOrder tokens .desc
  | .orderByBuilder orders => b.orderByList orders
  | .select tokens => b.setSelect tokens
  | .expand token => b.setExpand token expandKeyword
  | .expandSelect token => b.setExpand token selectKeyword
  | .addODataString text => .ok (b.withRaw text)

/-- The builder after a call: the one it gives back, or the same one when it fails. -/
def perform (b : QueryBuilder) (c : BuilderCall) : QueryBuilder :=
  match b.apply c with
  | .ok next => next
  | .error _ => b

def replay (calls : List BuilderCall) : QueryBuilder := calls.foldl perform {}

def record (b : QueryBuilder) (c : BuilderCall) : QueryBuilder where
  filters := b.filters ++ c.predicate?.toList
  top := (c.topCount?.map pagingCount).or b.top
  skip := (c.skipCount?.map pagingCount).or b.skip
  -- an empty explicit ordering writes `none`, which clears the ordering
  orderBy := c.ordering?.getD b.orderBy
  select := c.selection?.or b.select
  expand := c.expansion?.or b.expand
  inlineCount := b.inlineCount || c.setsInlineCount
  count := b.count || c.setsCount
  search := c.searchText?.or b.search
  raw := c.rawText?.or b.raw

def summary (calls : List BuilderCall) : QueryBuilder where
  filters := calls.filterMap BuilderCall.predicate?
  top := (lastWrite BuilderCall.topCount? calls).map pagingCount
  skip := (lastWrite BuilderCall.skipCount? calls).map pagingCount
  orderBy := (lastWrite BuilderCall.ordering? calls).join
  select := lastWrite BuilderCall.selection? calls
  expand := lastWrite BuilderCall.expansion? calls
  inlineCount := calls.any BuilderCall.setsInlineCount
  count := calls.any BuilderCall.setsCount
  search := lastWrite BuilderCall.searchText? calls
  raw := lastWrite BuilderCall.rawText? calls

theorem perform_addPredicate (b : QueryBuilder) (built : Except ConstructionError Expr) :
    (match b.addPredicate built with
      | .ok next => next
      | .error _ => b) = { b with filters := b.filters ++ built.toOption.toList } := by
  cases b
  cases built <;> simp [addPredicate,filter,Except.toOption]

theorem orderByList_cases (b : QueryBuilder) (orders : List OrderBy) :
    (orders.any (·.path.isRoot) = true ∧ ∃ e, b.orderByList orders = .error e) ∨
    (orders.any (·.path.isRoot) = false ∧ b.orderByList orders = .ok { b with
      orderBy := if orders.isEmpty then none else some (",".intercalate (orders.map OrderBy.text)) }) := by
  have found : (orders.findIdx? (·.path.isRoot)).isSome = orders.any (·.path.isRoot) :=
    List.findIdx?_isSome
  cases first : orders.findIdx? (·.path.isRoot) with
  | none =>
    rw [first,Option.isSome_none] at found
    exact .inr ⟨found.symm,by simp [orderByList,first]⟩
  | some index =>
    rw [first,Option.isSome_some] at found
    exact .inl ⟨found.symm,_,by rw [orderByList,first]⟩

theorem perform_eq_record (b : QueryBuilder) (c : BuilderCall) : b.perform c = b.record c := by
  obtain ⟨filters,top,skip,orderBy,select,expand,inlineCount,count,search,raw⟩ := b
  cases c with
  | top n | skip n =>
    by_cases positive : 0 < n.toInt <;>
      simp [perform,apply,record,setTop,setSkip,Expression.top,Expression.skip,Expression.paging,
        ← Int.not_lt,positive,pagingCount]
  | orderBy tokens | orderByDescending tokens | select tokens =>
    cases resolved : Expression.resolveAll tokens <;>
      simp [perform,apply,record,Except.toOption,setOrder,setSelect,resolved,SortDirection.suffix]
  | expand token | expandSelect token =>
    cases resolved : Expression.resolve token <;>
      simp [perform,apply,record,Except.toOption,setExpand,resolved]
  | orderByBuilder orders =>
    obtain ⟨root,e,failed⟩ | ⟨clear,written⟩ := orderByList_cases
      { filters, top, skip, orderBy, select, expand, inlineCount, count, search, raw } orders
    · simp [perform,apply,record,failed,root]
    · simp [perform,apply,record,written,clear]
  | _ =>
    simp [perform,apply,record,Except.toOption,filter,multiply,withInlineCount,withCount,
      withSearch,withRaw,equals,notEquals,contains,lt,lte,gt,gte,lambda,perform_addPredicate]

theorem summary_snoc (calls : List BuilderCall) (c : BuilderCall) :
    summary (calls ++ [c]) = (summary calls).record c := by
  have filters : (calls ++ [c]).filterMap BuilderCall.predicate? =
      calls.filterMap BuilderCall.predicate? ++ c.predicate?.toList := by
    cases added : c.predicate? <;> simp only [List.filterMap_append,List.filterMap_cons,
      List.filterMap_nil,added,Option.toList_none,Option.toList_some]
  have orderBy : (lastWrite BuilderCall.ordering? (calls ++ [c])).join =
      c.ordering?.getD (lastWrite BuilderCall.ordering? calls).join := by
    cases written : c.ordering? <;> simp only [lastWrite_snoc,written,Option.none_or,Option.some_or,
      Option.join_some,Option.getD_none,Option.getD_some]
  rw [summary,summary,filters,orderBy]
  simp only [record,lastWrite_snoc,Option.map_or,List.any_append,List.any_cons,
    List.any_nil,Bool.or_false]

theorem replay_eq_summary (calls : List BuilderCall) : replay calls = summary calls := by
  induction calls using List.reverseRecOn with
  | nil => rfl
  | append_singleton calls c ih =>
    rw [replay,List.foldl_append,← replay,ih,List.foldl_cons,List.foldl_nil,perform_eq_record,
      summary_snoc]

theorem resolve_error_iff (token : PathToken) :
    (∃ e, Expression.resolve token = .error e) ↔ token.path.isRoot = true := by
  by_cases root : token.path.isRoot <;> simp [Expression.resolve,root]

theorem resolveAll_error_iff (tokens : List PathToken) :
    (∃ e, Expression.resolveAll tokens = .error e) ↔
      tokens = [] ∨ ∃ token ∈ tokens, token.path.isRoot = true := by
  rw [Expression.resolveAll]
  split <;> simp_all

theorem apply_error_iff (b : QueryBuilder) (c : BuilderCall) :
    (∃ e, b.apply c = .error e) ↔ c.Refused := by
  cases c with
  | equals token _ | notEquals token _ | contains token _ | lt token _ | lte token _ | gt token _
  | gte token _ | any token _ | all token _ | expand token | expandSelect token =>
    rw [BuilderCall.Refused,← resolve_error_iff]
    cases resolved : Expression.resolve token <;>
      simp [apply,equals,notEquals,contains,lt,lte,gt,gte,lambda,setExpand,addPredicate,
        Expression.equals,Expression.notEquals,Expression.contains,Expression.callOnField,
        Expression.lt,Expression.lte,Expression.gt,Expression.gte,Expression.lambda,
        Expression.property,resolved,Except.map]
  | orderBy tokens | orderByDescending tokens | select tokens =>
    rw [BuilderCall.Refused,← resolveAll_error_iff]
    cases resolved : Expression.resolveAll tokens <;> simp [apply,setOrder,setSelect,resolved]
  | top n | skip n =>
    by_cases nonpositive : n.toInt ≤ 0 <;>
      simp [apply,setTop,setSkip,Expression.top,Expression.skip,Expression.paging,nonpositive,
        BuilderCall.Refused]
  | orderByBuilder orders =>
    obtain ⟨root,e,failed⟩ | ⟨clear,written⟩ := orderByList_cases b orders
    · simpa [apply,failed,BuilderCall.Refused] using root
    · simpa [apply,written,BuilderCall.Refused] using clear
  | filter _ | multiply _ _ | inlineCount | count | search _ | addODataString _ =>
    simp [apply,BuilderCall.Refused]

theorem orderByList_first_root (b : QueryBuilder) (before after : List OrderBy) (o : OrderBy)
    (root : o.path.isRoot = true) (clear : ∀ earlier ∈ before, earlier.path.isRoot = false) :
    b.orderByList (before ++ o :: after) =
      .error (.construction (.unresolvablePath ("order_by_builder[" ++ toString before.length ++ "]"))) := by
  have first : (before ++ o :: after).findIdx? (·.path.isRoot) = some before.length := by
    have none_before : before.findIdx? (·.path.isRoot) = none := List.findIdx?_eq_none_iff.mpr clear
    simp [List.findIdx?_append,List.findIdx?_cons,none_before,root]
  simp [orderByList,first]

theorem printed_eq (pre : String) (e : Expr) : printed pre e = .ok (e.print pre []).text := by
  have pushed := Serializer.run_walk e (Serializer.new pre) [] rfl rfl
  simp only [printed,Serializer.render,pushed]
  rfl

theorem compile_eq (b : QueryBuilder) (pre : String) :
    b.compile pre = .ok
      { search := b.search
        filter := (Expr.foldAnd b.filters).map fun e => (e.print pre []).text
        select := b.select
        top := b.top.map fun e => (e.print pre []).text
        skip := b.skip.map fun e => (e.print pre []).text
        inlineCount := if b.inlineCount then some "allpages" else none
        orderBy := b.orderBy
        expand := b.expand
        count := if b.count then some "true" else none } := by
  have printedOpt_eq : ∀ e? : Option Expr,
      printedOpt pre e? = .ok (e?.map fun e => (e.print pre []).text) := by
    intro e?
    cases e? <;> simp [printedOpt,printed_eq,Except.map]
  simp only [compile,printedOpt_eq]
  rfl

theorem compile_summary (calls : List BuilderCall) (pre : String) :
    (summary calls).compile pre = .ok (expectedParams pre calls) := by
  rw [compile_eq]
  simp [summary,expectedParams,Option.map_map,Function.comp_def]

theorem buildWith_eq (b : QueryBuilder) (pre : String) :
    ∃ params, b.compile pre = .ok params ∧
      b.buildWith pre = .ok (match b.raw with
        | some text => .raw text
        | none => .compiled params) := by
  refine ⟨_,compile_eq b pre,?_⟩
  cases raw : b.raw <;> simp [buildWith,raw,compile_eq,Except.map]

theorem buildWith_replay (calls : List BuilderCall) (pre : String) :
    (replay calls).buildWith pre = .ok (match lastWrite BuilderCall.rawText? calls with
      | some text => .raw text
      | none => .compiled (expectedParams pre calls)) := by
  obtain ⟨params,compiled,built⟩ := buildWith_eq (summary calls) pre
  rw [compile_summary] at compiled
  obtain rfl := Except.ok.inj compiled
  rw [replay_eq_summary,built]
  rfl

end QueryBuilder

/-- Any sequence of calls on a new builder: a call fails exactly when it is refused, and then
leaves the builder as it was; an explicit ordering is refused at its first root path; building
never fails; and what is built is the last raw text given, if any, and otherwise the options the
calls wrote, in their canonical order. -/
theorem builder_calls_contract :
    (∀ (b : QueryBuilder) (c : BuilderCall),
      ((∃ e, b.apply c = .error e) ↔ c.Refused) ∧ (c.Refused → b.perform c = b)) ∧
    (∀ (b : QueryBuilder) (before after : List OrderBy) (o : OrderBy), o.path.isRoot = true →
      (∀ earlier ∈ before, earlier.path.isRoot = false) →
      b.apply (.orderByBuilder (before ++ o :: after)) =
        .error (.construction (.unresolvablePath ("order_by_builder[" ++ toString before.length ++ "]")))) ∧
    (∀ (b : QueryBuilder) (pre : String), (∃ q, b.buildWith pre = .ok q) ∧ ∃ q, b.build = .ok q) ∧
    ∀ (calls : List BuilderCall) (pre : String),
      (QueryBuilder.replay calls).params = .ok (expectedParams "x" calls) ∧
      (QueryBuilder.replay calls).build = .ok (match lastWrite BuilderCall.rawText? calls with
        | some text => .raw text
        | none => .compiled (expectedParams "x" calls)) ∧
      (QueryBuilder.replay calls).buildWith pre = .ok (match lastWrite BuilderCall.rawText? calls with
        | some text => .raw text
        | none => .compiled (expectedParams pre calls)) := by
  refine ⟨?_,?_,?_,?_⟩
  · intro b c
    refine ⟨QueryBuilder.apply_error_iff b c,fun refused => ?_⟩
    obtain ⟨e,failed⟩ := (QueryBuilder.apply_error_iff b c).mpr refused
    simp [QueryBuilder.perform,failed]
  · intro b before after o root clear
    exact QueryBuilder.orderByList_first_root b before after o root clear
  · intro b pre
    obtain ⟨_,_,built⟩ := QueryBuilder.buildWith_eq b pre
    obtain ⟨_,_,builtDefault⟩ := QueryBuilder.buildWith_eq b "x"
    exact ⟨⟨_,built⟩,⟨_,builtDefault⟩⟩
  · intro calls pre
    refine ⟨?_,QueryBuilder.buildWith_replay calls "x",QueryBuilder.buildWith_replay calls pre⟩
    rw [QueryBuilder.params,QueryBuilder.replay_eq_summary,QueryBuilder.compile_summary]

theorem explicit_ordering_refused_at_first_root :
    (⟨⟨[]⟩,.desc⟩ : OrderBy).path.isRoot = true ∧
    ({} : QueryBuilder).apply (.orderByBuilder [⟨⟨["name"]⟩,.asc⟩,⟨⟨[]⟩,.desc⟩,⟨⟨[]⟩,.asc⟩]) =
      .error (.construction (.unresolvablePath "order_by_builder[1]")) ∧
    BuilderCall.Refused (.top 0) ∧ ({} : QueryBuilder).perform (.top 0) = {} :=
  ⟨rfl,builder_calls_contract.2.1 {} [⟨⟨["name"]⟩,.asc⟩] [⟨⟨[]⟩,.asc⟩] ⟨⟨[]⟩,.desc⟩ rfl (by decide),
    by decide,(builder_calls_contract.1 {} (.top 0)).2 (by decide)⟩

example : (QueryBuilder.replay [.top 5,.search "a b",.top 0,.equals (.field ⟨[]⟩) (.value (.int 1)),
    .count,.orderByBuilder [⟨⟨["name"]⟩,.desc⟩],.orderByBuilder []]).params =
      .ok { search := some "a b", top := some "5", count := some "true" } := by
  rfl

end ODataBuilder
