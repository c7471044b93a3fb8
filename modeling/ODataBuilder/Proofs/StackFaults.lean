import Mathlib
import ODataBuilder.Proofs.Printing

/-! The printer driven by arbitrary calls. While no exit underflows, the stack height is the sum
over the exits of one less than the node's need (`exitHeight`); the first exit that needs more
faults, and from then on nothing touches the stack. -/
namespace ODataBuilder

namespace Serializer

/-- The sum over the exits among `events` of one less than the node's need. -/
def exitHeight (events : List WalkEvent) : Int :=
  ((events.filterMap WalkEvent.exitedNode?).map fun node => 1 - (node.need : Int)).sum

/-- Every exit among `events` needs no more fragments than the exits before it leave. -/
def ExitsFit (events : List WalkEvent) : Prop :=
  ∀ before node after, events = before ++ .exit node :: after → (node.need : Int) ≤ exitHeight before

@[simp] theorem exitHeight_nil : exitHeight [] = 0 := rfl

theorem exitHeight_append (first second : List WalkEvent) :
    exitHeight (first ++ second) = exitHeight first + exitHeight second := by
  simp [exitHeight]

theorem exitHeight_singleton (e : WalkEvent) :
    exitHeight [e] = match e with
      | .exit node => 1 - (node.need : Int)
      | _ => 0 := by
  cases e with
  | exit node => simp [exitHeight,WalkEvent.exitedNode?]
  | _ => rfl

theorem exitsFit_concat {events : List WalkEvent} {e : WalkEvent} :
    ExitsFit (events ++ [e]) ↔
      ExitsFit events ∧ ∀ node, e = .exit node → (node.need : Int) ≤ exitHeight events := by
  constructor
  · intro fits
    refine ⟨fun before node after split => fits before node (after ++ [e]) (by simp [split]),?_⟩
    intro node last
    exact fits events node [] (by simp [last])
  · rintro ⟨fits,last⟩ before node after split
    rcases List.eq_nil_or_concat after with rfl | ⟨front,x,rfl⟩
    · -- the exit in question is the last call
      obtain ⟨rfl,rfl⟩ : events = before ∧ e = .exit node := by simpa using split
      exact last node rfl
    · have regrouped : before ++ WalkEvent.exit node :: (front ++ [x]) =
          (before ++ .exit node :: front) ++ [x] := by simp
      rw [List.concat_eq_append,regrouped] at split
      exact fits before node front (List.append_inj' split rfl).1

theorem exitsFit_nil : ExitsFit [] := by
  intro before node after split
  simp at split

theorem step_of_fault {s : Serializer} {err : TraversalError} (faulted : s.fault = some err)
    (e : WalkEvent) : (s.step e).fault = some err ∧ (s.step e).stack = s.stack := by
  cases e <;> simp [step,exit,pushScope,popScope,faulted]

theorem run_of_fault {s : Serializer} {err : TraversalError} (faulted : s.fault = some err)
    (events : List WalkEvent) : (s.run events).fault = some err ∧ (s.run events).stack = s.stack := by
  induction events generalizing s with
  | nil => exact ⟨faulted,rfl⟩
  | cons e rest ih =>
    obtain ⟨still,same⟩ := step_of_fault faulted e
    obtain ⟨later,kept⟩ := ih still
    exact ⟨later,kept.trans same⟩

theorem exit_underflow {s : Serializer} {node : Expr} (clear : s.fault = none)
    (short : s.stack.length < node.need) :
    (s.exit node).fault = some (.stackUnderflow node.kind node.need s.stack.length) ∧
      (s.exit node).stack = s.stack := by
  simp [exit,clear,short]

/-- A call that finds enough fragments keeps the printer clear and moves the height by the
call's own share of `exitHeight`. -/
theorem step_clean {s : Serializer} (clear : s.fault = none) (e : WalkEvent)
    (enough : ∀ node, e = .exit node → (node.need : Int) ≤ s.stack.length) :
    (s.step e).fault = none ∧ ((s.step e).stack.length : Int) = s.stack.length + exitHeight [e] := by
  rw [exitHeight_singleton]
  cases e with
  | exit node =>
    have fits := enough node rfl
    have notShort : ¬ s.stack.length < node.need := by omega
    simp only [step,exit,clear,notShort,if_false,List.length_cons,List.length_drop,true_and]
    omega
  | enter node => simp [step,clear]
  | pushScope q => simp [step,pushScope,clear]
  | popScope => simp [step,popScope,clear]

theorem run_clean (pre : String) {events : List WalkEvent} (fits : ExitsFit events) :
    ((new pre).run events).fault = none ∧
      (((new pre).run events).stack.length : Int) = exitHeight events := by
  induction events using List.reverseRecOn with
  | nil => exact ⟨rfl,rfl⟩
  | append_singleton events e ih =>
    obtain ⟨earlier,last⟩ := exitsFit_concat.mp fits
    obtain ⟨clear,height⟩ := ih earlier
    have enough : ∀ node, e = .exit node → (node.need : Int) ≤ ((new pre).run events).stack.length := by
      intro node isExit
      rw [height]
      exact last node isExit
    obtain ⟨stillClear,moved⟩ := step_clean clear e enough
    rw [run_append,run_cons,run_nil,exitHeight_append]
    exact ⟨stillClear,by rw [moved,height]⟩

theorem result_of_fault {s : Serializer} {err : TraversalError} (faulted : s.fault = some err) :
    s.result = .error err := by
  simp [result,faulted]

theorem result_clean {s : Serializer} (clear : s.fault = none) :
    (s.stack.length ≠ 1 → s.result = .error (.malformedTree s.stack.length)) ∧
      ∀ last, s.stack = [last] → s.result = .ok last.text := by
  refine ⟨fun notOne => ?_,fun last single => by simp [result,clear,single]⟩
  match stacked : s.stack with
  | [last] => simp [stacked] at notOne
  | [] => simp [result,clear,stacked]
  | _ :: _ :: _ => simp [result,clear,stacked]

end Serializer

open Serializer in
/-- Any calls on a fresh printer, then its result. The first exit that needs more fragments than
the exits before it leave decides the result, a stack underflow naming that node, its need and
that height, and no later call changes the stack. Without such an exit the height `exitHeight`
decides: the one fragment's text when it is one, and otherwise a malformed tree with that
residual. -/
theorem calls_fail_at_first_underflow (pre : String) (events : List WalkEvent) :
    (∀ before node after, events = before ++ .exit node :: after → ExitsFit before →
      exitHeight before < node.need →
      ((new pre).run events).result =
          .error (.stackUnderflow node.kind node.need (exitHeight before).toNat) ∧
        ∀ later, later <+: after →
          ((new pre).run (before ++ .exit node :: later)).stack = ((new pre).run before).stack) ∧
    (ExitsFit events →
      (exitHeight events ≠ 1 →
        ((new pre).run events).result = .error (.malformedTree (exitHeight events).toNat)) ∧
      (exitHeight events = 1 →
        ∃ last, ((new pre).run events).stack = [last] ∧
          ((new pre).run events).result = .ok last.text)) := by
  refine ⟨?_,?_⟩
  · intro before node after split fits short
    obtain ⟨clear,height⟩ := run_clean pre fits
    have available : (exitHeight before).toNat = ((new pre).run before).stack.length := by omega
    have under : ((new pre).run before).stack.length < node.need := by omega
    obtain ⟨faulted,kept⟩ := exit_underflow clear under
    -- every continuation of the faulting exit keeps the fault and the stack
    have continued (more : List WalkEvent) :
        (new pre).run (before ++ .exit node :: more) =
          (((new pre).run before).exit node).run more := by
      rw [run_append,run_cons]
      rfl
    refine ⟨?_,?_⟩
    · rw [split,continued,result_of_fault (run_of_fault faulted after).1,available]
    · intro later _
      rw [continued,(run_of_fault faulted later).2,kept]
  · intro fits
    obtain ⟨clear,height⟩ := run_clean pre fits
    refine ⟨fun notOne => ?_,fun one => ?_⟩
    · rw [(result_clean clear).1 (by omega)]
      congr
      omega
    · have single : ((new pre).run events).stack.length = 1 := by omega
      obtain ⟨last,only⟩ := List.length_eq_one_iff.mp single
      exact ⟨last,only,(result_clean clear).2 last only⟩

/-- An `add` left with only one fragment below it underflows, and the fragment pushed later
does not change that. -/
theorem binary_over_one_fragment_underflows :
    Serializer.ExitsFit [.exit (.value (.int 1))] ∧
    Serializer.exitHeight [.exit (.value (.int 1))] <
      (Expr.binary .add (.value (.int 1)) (.value (.int 2))).need ∧
    ((Serializer.new "x").run [.exit (.value (.int 1)),
        .exit (.binary .add (.value (.int 1)) (.value (.int 2))),.exit (.value (.int 3)),.popScope]).result =
      .error (.stackUnderflow "binary" 2 1) := by
  have fits : Serializer.ExitsFit [.exit (.value (.int 1))] :=
    (@Serializer.exitsFit_concat [] _).mpr
      ⟨Serializer.exitsFit_nil,fun node same => by cases same; simp [Expr.need]⟩
  have short : Serializer.exitHeight [.exit (.value (.int 1))] <
      (Expr.binary .add (.value (.int 1)) (.value (.int 2))).need := by
    simp [Serializer.exitHeight_singleton,Expr.need]
  refine ⟨fits,short,?_⟩
  exact ((calls_fail_at_first_underflow "x" _).1 [.exit (.value (.int 1))] _
    [.exit (.value (.int 3)),.popScope] rfl fits short).1

end ODataBuilder
