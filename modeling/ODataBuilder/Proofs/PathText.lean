import Mathlib.Data.List.DropRight
import ODataBuilder.Path.Basic

/-! Written paths read back. `FieldPath.parse` splits at `/` and `.`, trims blanks from each
piece and drops the empty ones, so the hops it leaves are clean: not empty, free of both
separators and with no blank at either end (`FieldPath.IsHop`). Writing joins hops with `/`
only; on clean hops that split gives the hops back, trimming keeps them and none is dropped.
So reading inverts writing on paths of clean hops, and reading, writing and reading again
reads the same path. -/
namespace ODataBuilder

namespace Blank

theorem dropFront_eq_dropWhile (cs : List Char) : dropFront cs = cs.dropWhile isBlank := by
  induction cs with
  | nil => rfl
  | cons c rest ih => by_cases blank : isBlank c <;> simp [dropFront,blank,ih]

theorem trim_eq (cs : List Char) : trim cs = (cs.dropWhile isBlank).rdropWhile isBlank := by
  simp [trim,dropFront_eq_dropWhile,List.rdropWhile]

theorem trim_subset (cs : List Char) : trim cs ⊆ cs := by
  rw [trim_eq]
  intro c member
  exact (List.dropWhile_sublist _).subset ((List.rdropWhile_prefix _ _).subset member)

theorem trim_trim (cs : List Char) : trim (trim cs) = trim cs := by
  -- the first kept character leads the front-trimmed text, so it is not blank
  have front : ((cs.dropWhile isBlank).rdropWhile isBlank).dropWhile isBlank =
      (cs.dropWhile isBlank).rdropWhile isBlank := by
    obtain ⟨back,whole⟩ := List.rdropWhile_prefix isBlank (cs.dropWhile isBlank)
    cases kept : (cs.dropWhile isBlank).rdropWhile isBlank with
    | nil => rfl
    | cons c rest =>
      have lead := List.dropWhile_idempotent (p := isBlank) (l := cs)
      rw [← whole,kept,List.cons_append,List.dropWhile_eq_self_iff] at lead
      exact List.dropWhile_cons_of_neg (by simpa using lead (by simp))
  rw [trim_eq (trim cs),trim_eq cs,front,List.rdropWhile_idempotent]

end Blank

namespace FieldPath

theorem pieces_eq_splitOnP (cs : List Char) : pieces cs = cs.splitOnP isSeparator := by
  induction cs with
  | nil => rfl
  | cons c rest ih =>
    rw [pieces,ih,List.splitOnP_cons_eq_if_modifyHead]
    cases split : rest.splitOnP isSeparator with
    | nil => exact absurd split (List.splitOnP_ne_nil _ _)
    | cons first more => by_cases sep : isSeparator c <;> simp [sep]

theorem separator_free_of_mem_pieces {cs piece : List Char} (member : piece ∈ pieces cs) :
    ∀ c ∈ piece, isSeparator c = false := by
  rw [pieces_eq_splitOnP] at member
  induction cs generalizing piece with
  | nil => simp_all
  | cons c rest ih =>
    rw [List.splitOnP_cons_eq_if_modifyHead] at member
    split at member
    · rcases List.mem_cons.1 member with rfl | later
      · simp
      · exact ih later
    · -- a character that does not separate joins the first piece of the rest
      obtain ⟨first,more,split⟩ :=
        List.exists_cons_of_ne_nil (List.splitOnP_ne_nil isSeparator rest)
      rw [split,List.modifyHead_cons] at member
      rcases List.mem_cons.1 member with rfl | later
      · intro x inside
        rcases List.mem_cons.1 inside with rfl | inFirst
        · simpa using ‹¬ isSeparator x = true›
        · exact ih (by simp [split]) x inFirst
      · exact ih (by simp [split,later])

/-- A hop as reading leaves it: not empty, without `/` or `.`, and with no blank at either
end. -/
def IsHop (hop : List Char) : Prop :=
  hop ≠ [] ∧ '/' ∉ hop ∧ '.' ∉ hop ∧ Blank.trim hop = hop

instance (hop : List Char) : Decidable (IsHop hop) :=
  inferInstanceAs (Decidable (hop ≠ [] ∧ _ ∧ _ ∧ _))

def Clean (p : FieldPath) : Prop := ∀ hop ∈ p.segments, IsHop hop.toList

instance (p : FieldPath) : Decidable p.Clean :=
  inferInstanceAs (Decidable (∀ hop ∈ p.segments, IsHop hop.toList))

theorem IsHop.separator_free {hop : List Char} (clean : IsHop hop) :
    ∀ c ∈ hop, isSeparator c = false := by
  intro c member
  have notSlash : c ≠ '/' := fun same => clean.2.1 (same ▸ member)
  have notDot : c ≠ '.' := fun same => clean.2.2.1 (same ▸ member)
  simp [isSeparator,notSlash,notDot]

theorem pieces_intercalate (hops : List (List Char)) (nonempty : hops ≠ [])
    (plain : ∀ hop ∈ hops, ∀ c ∈ hop, isSeparator c = false) :
    pieces (['/'].intercalate hops) = hops := by
  induction hops with
  | nil => contradiction
  | cons hop rest ih =>
    cases rest with
    | nil =>
      rw [List.intercalate_singleton,pieces_eq_splitOnP,
        List.splitOnP_eq_singleton (plain hop (by simp))]
    | cons next more =>
      have later := ih (by simp) fun other member => plain other (by simp [member])
      rw [List.intercalate_cons_cons,List.append_assoc,List.singleton_append,pieces_eq_splitOnP,
        List.splitOnP_append_cons_of_forall_mem (plain hop (by simp)) '/' rfl,
        ← pieces_eq_splitOnP,later]

theorem parse_clean (s : String) : (parse s).Clean := by
  intro hop member
  simp only [parse,List.mem_map,List.mem_filter] at member
  obtain ⟨kept,⟨⟨piece,inPieces,rfl⟩,nonempty⟩,rfl⟩ := member
  have plain := separator_free_of_mem_pieces inPieces
  refine ⟨by simpa using nonempty,fun slash => ?_,fun dot => ?_,by simp [Blank.trim_trim]⟩
  · simpa [isSeparator] using plain '/' (Blank.trim_subset piece (by simpa using slash))
  · simpa [isSeparator] using plain '.' (Blank.trim_subset piece (by simpa using dot))

theorem text_toList (p : FieldPath) :
    p.text.toList = ['/'].intercalate (p.segments.map String.toList) := by
  simp [text]

theorem parse_text (p : FieldPath) (clean : p.Clean) :
    parse p.text = p := by
  obtain ⟨segments⟩ := p
  cases segments with
  | nil => rfl
  | cons first rest =>
    -- as characters, the hops split apart again, and trimming and the filter keep each one
    have hops : ∀ hop ∈ (first :: rest).map String.toList, IsHop hop := by simpa [Clean] using clean
    have split := pieces_intercalate _ (by simp) fun hop member => (hops hop member).separator_free
    have trimmed : ((first :: rest).map String.toList).map Blank.trim =
        (first :: rest).map String.toList :=
      (List.map_congr_left fun hop member => (hops hop member).2.2.2).trans (List.map_id _)
    have kept : ((first :: rest).map String.toList).filter (· ≠ []) =
        (first :: rest).map String.toList :=
      List.filter_eq_self.2 fun hop member => by simpa using (hops hop member).1
    simp only [parse,text_toList,split,trimmed,kept,List.map_map]
    simp

theorem text_eq_empty_iff (p : FieldPath) (clean : p.Clean) :
    p.text = "" ↔ p.isRoot = true := by
  obtain ⟨segments⟩ := p
  cases segments with
  | nil => simp [text,isRoot]
  | cons first rest =>
    have lead : first.toList ≠ [] := (clean first (by simp)).1
    -- the written form starts with the first hop, which is not empty
    cases rest <;> simp [← String.toList_inj,text_toList,isRoot,List.intercalate_cons_cons,lead]

end FieldPath

/-- Reading and writing a field path are inverse on paths of clean hops: reading leaves only
clean hops, so writing and reading again changes nothing; and a path of clean hops is read back
from its written form, which is empty exactly for the root. -/
theorem path_text_reads_back :
    (∀ s : String, (FieldPath.parse s).Clean) ∧
    (∀ s : String, FieldPath.parse (FieldPath.parse s).text = FieldPath.parse s) ∧
    ∀ p : FieldPath, p.Clean → FieldPath.parse p.text = p ∧ (p.text ≠ "" ↔ p.isRoot = false) := by
  refine ⟨FieldPath.parse_clean,fun s => FieldPath.parse_text _ (FieldPath.parse_clean s),?_⟩
  intro p clean
  refine ⟨FieldPath.parse_text p clean,?_⟩
  simp [FieldPath.text_eq_empty_iff p clean]

theorem nested_field_reads_back :
    (⟨["Address","City"]⟩ : FieldPath).Clean ∧
    FieldPath.parse (⟨["Address","City"]⟩ : FieldPath).text = ⟨["Address","City"]⟩ ∧
    ((⟨["Address","City"]⟩ : FieldPath).text ≠ "" ↔
      (⟨["Address","City"]⟩ : FieldPath).isRoot = false) :=
  ⟨by decide,path_text_reads_back.2.2 _ (by decide)⟩

example : (FieldPath.parse " Address . City //").text = "Address/City" := by decide

end ODataBuilder
