import ODataBuilder.Entity.Derivation
import ODataBuilder.Expr.Factory

/-! Expanding a struct into its entity. Three faults stop it, found in this order: generic
parameters, an unknown `rename_all`, and a nested field whose type, once its `Option` and `Box`
layers are off (`Peels`, `unwrapped`), is a `Vec` without a type argument. Otherwise each field
not skipped gets one accessor, in field order, and a chain of calls to such accessors
(`EntityShape.Calls`) stands at the root's child by each hop in turn. -/
namespace ODataBuilder

namespace TypeSyntax

def IsLayer : TypeSyntax → Prop
  | .path last (_ :: _) _ => last = "Option" ∨ last = "Box"
  | .path _ [] _ => False
  | .other _ => False

/-- `inner` is reached from a type by taking off outer layers, each through its first type
argument. -/
inductive Peels : TypeSyntax → TypeSyntax → Prop
  | here (ty : TypeSyntax) : Peels ty ty
  | layer {last text : String} {first inner : TypeSyntax} {rest : List TypeSyntax} :
      (last = "Option" ∨ last = "Box") → Peels first inner → Peels (.path last (first :: rest) text) inner

theorem unwrapped_of_not_layer {ty : TypeSyntax} (bare : ¬ ty.IsLayer) : ty.unwrapped = ty := by
  match ty with
  | .path last (first :: rest) text =>
    have neither : ¬ (last = "Option" ∨ last = "Box") := bare
    simp only [unwrapped]
    rw [if_neg (by simpa using neither)]
  | .path _ [] _ => simp [unwrapped]
  | .other _ => simp [unwrapped]

theorem unwrapped_layer {last text : String} {first : TypeSyntax} {rest : List TypeSyntax}
    (wrapper : last = "Option" ∨ last = "Box") :
    (TypeSyntax.path last (first :: rest) text).unwrapped = first.unwrapped := by
  simp only [unwrapped]
  rw [if_pos (by simpa using wrapper)]

theorem peels_unwrapped (ty : TypeSyntax) : Peels ty ty.unwrapped ∧ ¬ ty.unwrapped.IsLayer := by
  fun_induction unwrapped ty with
  | case1 last first rest text wrapper ih =>
    exact ⟨.layer (by simpa using wrapper) ih.1,ih.2⟩
  | case2 last first rest text bare =>
    refine ⟨.here _,?_⟩
    simpa [IsLayer] using bare
  | case3 ty noArgs =>
    refine ⟨.here _,?_⟩
    cases ty with
    | path last args text =>
      cases args with
      | nil => exact id
      | cons first rest => exact absurd rfl (noArgs last first rest text)
    | other text => exact id

theorem peels_iff_unwrapped (ty inner : TypeSyntax) :
    Peels ty inner ∧ ¬ inner.IsLayer ↔ inner = ty.unwrapped := by
  constructor
  · rintro ⟨peels,bare⟩
    induction peels with
    | here ty => exact (unwrapped_of_not_layer bare).symm
    | layer wrapper _ ih => rw [unwrapped_layer wrapper]; exact ih bare
  · rintro rfl
    exact peels_unwrapped ty

end TypeSyntax

namespace Derivation

/-- The fault of a nested field that names no element type for its collection. -/
def MissesElement (field : FieldDecl × FieldOptions) : Prop :=
  field.2.skip = false ∧ field.2.nested = true ∧ ∃ text, field.1.type.unwrapped = .path "Vec" [] text

def fieldKind (options : FieldOptions) (ty : TypeSyntax) : AccessorKind :=
  if options.nested then
    match ty.unwrapped with
    | .path "Vec" (element :: _) _ => .collection (Blank.strip element.unwrapped.text)
    | inner => .nested (Blank.strip inner.text)
  else .leaf

/-- The hop of a field: its `rename`, else the rule applied to its name without `r#`, else that
name. -/
def hopOf (rule : Option CaseRule) (ident : String) (rename : Option String) : String :=
  rename.getD ((rule.map fun r => r.apply (unraw ident)).getD (unraw ident))

def accessorFor (rule : Option CaseRule) (field : FieldDecl × FieldOptions) : Accessor :=
  ⟨field.1.ident,hopOf rule field.1.ident field.2.rename,fieldKind field.2 field.1.type⟩

theorem derived_eq (rule : Option CaseRule) (field : FieldDecl × FieldOptions) :
    Accessor.derived rule field.1.ident field.2.rename (fieldKind field.2 field.1.type) =
      accessorFor rule field := by
  cases rename : field.2.rename <;> cases rule <;>
    simp [Accessor.derived,accessorFor,hopOf,unraw,rename]

theorem kindOf_missing {options : FieldOptions} {ty : TypeSyntax} {text : String}
    (nested : options.nested = true) (noElement : ty.unwrapped = .path "Vec" [] text) :
    kindOf options ty = .error "nested collection must name its element type" := by
  simp [kindOf,nested,noElement,TypeSyntax.isNamed,TypeSyntax.firstArg?]

theorem kindOf_complete {options : FieldOptions} {ty : TypeSyntax}
    (named : options.nested = true → ∀ text, ty.unwrapped ≠ .path "Vec" [] text) :
    kindOf options ty = .ok (fieldKind options ty) := by
  cases nested : options.nested with
  | false => simp [kindOf,fieldKind,nested]
  | true =>
    have named := named nested
    simp only [kindOf,fieldKind,nested,Bool.not_true,Bool.false_eq_true,if_false]
    -- only a `Vec` with its element becomes a collection
    match inner : ty.unwrapped with
    | .path last args text =>
      by_cases vec : last = "Vec"
      · subst vec
        cases args with
        | nil => exact absurd inner (named text)
        | cons element more => simp [TypeSyntax.isNamed,TypeSyntax.firstArg?]
      · simp [TypeSyntax.isNamed,vec]
    | .other text => simp [TypeSyntax.isNamed]

theorem kindOf_reads {decl : FieldDecl} {options : FieldOptions} (kept : options.skip = false)
    (reads : ¬ MissesElement (decl,options)) :
    kindOf options decl.type = .ok (fieldKind options decl.type) :=
  kindOf_complete fun nested text noElement => reads ⟨kept,nested,text,noElement⟩

theorem accessorsOf_missing (rule : Option CaseRule) (fields : List (FieldDecl × FieldOptions))
    (missing : ∃ field ∈ fields, MissesElement field) :
    accessorsOf rule fields = .error "nested collection must name its element type" := by
  induction fields with
  | nil => simp at missing
  | cons field rest ih =>
    obtain ⟨decl,options⟩ := field
    by_cases here : MissesElement (decl,options)
    · obtain ⟨kept,nested,text,noElement⟩ := here
      have kept : options.skip = false := kept
      simp [accessorsOf,kept,kindOf_missing nested noElement]
    · -- the missing element type is further on; this field is skipped or reads
      have later := ih (by simpa [here] using missing)
      cases skip : options.skip with
      | true => simp [accessorsOf,skip,later]
      | false => simp [accessorsOf,skip,kindOf_reads skip here,later]

theorem accessorsOf_complete (rule : Option CaseRule) (fields : List (FieldDecl × FieldOptions))
    (complete : ∀ field ∈ fields, ¬ MissesElement field) :
    accessorsOf rule fields = .ok ((fields.filter fun field => !field.2.skip).map (accessorFor rule)) := by
  induction fields with
  | nil => rfl
  | cons field rest ih =>
    obtain ⟨decl,options⟩ := field
    have later := ih fun other member => complete other (List.mem_cons_of_mem _ member)
    cases skip : options.skip with
    | true => simp [accessorsOf,skip,later]
    | false =>
      have reads := complete (decl,options) List.mem_cons_self
      simp [accessorsOf,skip,kindOf_reads skip reads,later,← derived_eq]

theorem ruleOf_known {renameAll : Option String}
    (known : ∀ name, renameAll = some name → name ∈ ["PascalCase","camelCase","snake_case"]) :
    ruleOf renameAll = .ok (renameAll.bind CaseRule.ofName?) := by
  cases renameAll with
  | none => rfl
  | some name =>
    have listed := known name rfl
    simp only [List.mem_cons,List.mem_nil_iff,or_false] at listed
    rcases listed with rfl | rfl | rfl <;> rfl

theorem ruleOf_unknown {name : String} (unknown : name ∉ ["PascalCase","camelCase","snake_case"]) :
    ruleOf (some name) = .error ("unsupported rename_all '" ++ name ++
      "', expected PascalCase, camelCase or snake_case") := by
  have none : CaseRule.ofName? name = none := by
    simp only [List.mem_cons,List.mem_nil_iff,or_false,not_or] at unknown
    obtain ⟨pascal,camel,snake⟩ := unknown
    unfold CaseRule.ofName?
    split <;> simp_all
  simp [ruleOf,none]

theorem fieldKind_ne_own (options : FieldOptions) (ty : TypeSyntax) :
    fieldKind options ty ≠ .own := by
  unfold fieldKind
  split
  · split <;> simp
  · simp

theorem expand_generic {input : EntityInput} (generic : 0 < input.params) :
    expand input = .error "Entity cannot be derived for generic structs" := by
  rw [expand,if_pos generic]
  rfl

theorem expand_unknown_rule {input : EntityInput} (plain : input.params = 0) {name : String}
    (given : input.options.renameAll = some name)
    (unknown : name ∉ ["PascalCase","camelCase","snake_case"]) :
    expand input = .error ("unsupported rename_all '" ++ name ++
      "', expected PascalCase, camelCase or snake_case") := by
  simp [expand,plain,given,ruleOf_unknown unknown,bind,Except.bind]

theorem expand_missing_element {input : EntityInput} (plain : input.params = 0)
    (known : ∀ name, input.options.renameAll = some name →
      name ∈ ["PascalCase","camelCase","snake_case"])
    (missing : ∃ field ∈ input.fields, MissesElement field) :
    expand input = .error "nested collection must name its element type" := by
  simp [expand,plain,ruleOf_known known,accessorsOf_missing _ _ missing,bind,Except.bind]

theorem expand_complete {input : EntityInput} (plain : input.params = 0)
    (known : ∀ name, input.options.renameAll = some name →
      name ∈ ["PascalCase","camelCase","snake_case"])
    (complete : ∀ field ∈ input.fields, ¬ MissesElement field) :
    expand input = .ok {
      ident := input.ident
      fieldsName := unraw input.ident ++ "Fields"
      vis := Blank.strip input.vis
      entitySet := input.options.entitySet.getD (unraw input.ident)
      accessors := (input.fields.filter fun field => !field.2.skip).map
        (accessorFor (input.options.renameAll.bind CaseRule.ofName?)) } := by
  simp [expand,plain,ruleOf_known known,accessorsOf_complete _ _ complete,bind,Except.bind,pure,
    Except.pure]

theorem expand_accessors {input : EntityInput} {d : Derivation} (expanded : expand input = .ok d) :
    d.accessors = (input.fields.filter fun field => !field.2.skip).map
      (accessorFor (input.options.renameAll.bind CaseRule.ofName?)) := by
  have plain : input.params = 0 := by
    rcases Nat.eq_zero_or_pos input.params with zero | generic
    · exact zero
    · simp [expand_generic generic] at expanded
  have known : ∀ name, input.options.renameAll = some name →
      name ∈ ["PascalCase","camelCase","snake_case"] := by
    intro name given
    by_cases listed : name ∈ ["PascalCase","camelCase","snake_case"]
    · exact listed
    · simp [expand_unknown_rule plain given listed] at expanded
  have complete : ∀ field ∈ input.fields, ¬ MissesElement field := by
    intro field member missing
    simp [expand_missing_element plain known ⟨field,member,missing⟩] at expanded
  rw [expand_complete plain known complete] at expanded
  cases expanded
  rfl

theorem expand_adds_hop {input : EntityInput} {d : Derivation} (expanded : expand input = .ok d) :
    ∀ a ∈ d.accessors, a.kind ≠ .own := by
  intro a member
  rw [expand_accessors expanded] at member
  obtain ⟨field,-,rfl⟩ := List.mem_map.1 member
  exact fieldKind_ne_own _ _

end Derivation

theorem Accessor.apply_path {a : Accessor} (notOwn : a.kind ≠ .own) (path : FieldPath) :
    (a.apply path).path = path.child a.hop := by
  unfold apply
  split <;> simp_all [PathToken.path]

theorem FieldPath.foldl_child (hops : List String) (path : FieldPath) :
    hops.foldl FieldPath.child path = ⟨path.segments ++ hops⟩ := by
  induction hops generalizing path with
  | nil => simp
  | cons hop rest ih => simp [ih,FieldPath.child]

namespace EntityShape

/-- A chain of accessor calls from the field set of `entity`: each accessor is the one of its
name on the entity reached, and each but the last hands back the field set of the entity the
next is called on. -/
inductive Calls (catalog : List EntityShape) : String → List Accessor → Prop
  | last {entity : String} {shape : EntityShape} {a : Accessor} :
      catalog.find? (·.name == entity) = some shape → shape.accessor? a.name = some a →
      Calls catalog entity [a]
  | step {entity next : String} {shape : EntityShape} {a : Accessor} {rest : List Accessor} :
      catalog.find? (·.name == entity) = some shape → shape.accessor? a.name = some a →
      a.kind = .nested next → Calls catalog next rest → Calls catalog entity (a :: rest)

theorem Calls.ne_nil {catalog : List EntityShape} {entity : String} {calls : List Accessor}
    (callable : Calls catalog entity calls) : calls ≠ [] := by
  cases callable <;> simp

theorem Calls.mem_catalog {catalog : List EntityShape} {entity : String} {calls : List Accessor}
    (callable : Calls catalog entity calls) :
    ∀ a ∈ calls, ∃ shape ∈ catalog, a ∈ shape.accessors := by
  induction callable with
  | last found named =>
    intro a member
    obtain rfl := List.mem_singleton.1 member
    exact ⟨_,List.mem_of_find?_eq_some found,List.mem_of_find?_eq_some named⟩
  | step found named _ _ ih =>
    intro a member
    rcases List.mem_cons.1 member with rfl | later
    · exact ⟨_,List.mem_of_find?_eq_some found,List.mem_of_find?_eq_some named⟩
    · exact ih a later

/-- Following a chain of calls whose accessors each add a hop adds their hops in order. -/
theorem followFrom_calls {catalog : List EntityShape} {entity : String} {calls : List Accessor}
    (callable : Calls catalog entity calls) (addsHop : ∀ a ∈ calls, a.kind ≠ .own)
    (path : FieldPath) :
    ∃ token, followFrom catalog (.fields entity path) (calls.map (·.name)) = .ok token ∧
      token.path = (calls.map (·.hop)).foldl FieldPath.child path := by
  induction callable generalizing path with
  | @last entity shape a found named =>
    refine ⟨a.apply path,by simp [followFrom,found,named],?_⟩
    simp [Accessor.apply_path (addsHop a (by simp))]
  | @step entity next shape a rest found named nested _ ih =>
    -- the field set handed back stands one hop further, where the rest of the chain goes on
    obtain ⟨token,followed,reached⟩ :=
      ih (fun b member => addsHop b (List.mem_cons_of_mem _ member)) (path.child a.hop)
    refine ⟨token,?_,by simpa using reached⟩
    simp [followFrom,found,named,Accessor.apply,nested,followed]

end EntityShape

/-- Expanding a struct fails exactly in three cases, found in this order: generic parameters, an
unknown `rename_all`, a nested field left without the element type of its collection, its type
stripped of as many `Option` and `Box` layers as it has. Otherwise the expansion names the entity
set and the field set, and gives each field that is not skipped its accessor, in field order.
Each accessor, called at a path, hands back something one hop further, its field's name; so a
chain of calls through derived entities stands at the root's child by each hop in order, which
resolves, and is written as the hops joined by `/`. -/
theorem expand_faults_in_order (input : EntityInput) :
    (∀ ty inner, TypeSyntax.Peels ty inner ∧ ¬ inner.IsLayer ↔ inner = ty.unwrapped) ∧
    (0 < input.params → Derivation.expand input = .error "Entity cannot be derived for generic structs") ∧
    (input.params = 0 → ∀ name, input.options.renameAll = some name →
      name ∉ ["PascalCase","camelCase","snake_case"] →
      Derivation.expand input = .error ("unsupported rename_all '" ++ name ++
        "', expected PascalCase, camelCase or snake_case")) ∧
    (input.params = 0 →
      (∀ name, input.options.renameAll = some name → name ∈ ["PascalCase","camelCase","snake_case"]) →
      (∃ field ∈ input.fields, Derivation.MissesElement field) →
      Derivation.expand input = .error "nested collection must name its element type") ∧
    (input.params = 0 →
      (∀ name, input.options.renameAll = some name → name ∈ ["PascalCase","camelCase","snake_case"]) →
      (∀ field ∈ input.fields, ¬ Derivation.MissesElement field) →
      Derivation.expand input = .ok {
        ident := input.ident
        fieldsName := unraw input.ident ++ "Fields"
        vis := Blank.strip input.vis
        entitySet := input.options.entitySet.getD (unraw input.ident)
        accessors := (input.fields.filter fun field => !field.2.skip).map
          (Derivation.accessorFor (input.options.renameAll.bind CaseRule.ofName?)) }) ∧
    (∀ d, Derivation.expand input = .ok d → ∀ a ∈ d.accessors, ∀ path,
      (a.apply path).path = path.child a.hop) ∧
    ∀ catalog entity calls,
      (∀ shape ∈ catalog, ∃ source d, Derivation.expand source = .ok d ∧
        shape.accessors = d.accessors) →
      EntityShape.Calls catalog entity calls →
      ∃ token, EntityShape.followFrom catalog (.fields entity FieldPath.root)
          (calls.map (·.name)) = .ok token ∧
        token.path = (calls.map (·.hop)).foldl FieldPath.child FieldPath.root ∧
        Expression.resolve token = .ok token.path ∧
        token.path.text = "/".intercalate (calls.map (·.hop)) := by
  refine ⟨TypeSyntax.peels_iff_unwrapped,Derivation.expand_generic,
    fun plain name given unknown => Derivation.expand_unknown_rule plain given unknown,
    Derivation.expand_missing_element,Derivation.expand_complete,?_,?_⟩
  · intro d expanded a member path
    exact Accessor.apply_path (Derivation.expand_adds_hop expanded a member) path
  · intro catalog entity calls derived callable
    -- every call is an accessor of a derived entity, so each adds its hop
    have addsHop : ∀ a ∈ calls, a.kind ≠ .own := by
      intro a member
      obtain ⟨shape,inCatalog,inShape⟩ := callable.mem_catalog a member
      obtain ⟨source,d,expanded,same⟩ := derived shape inCatalog
      exact Derivation.expand_adds_hop expanded a (same ▸ inShape)
    obtain ⟨token,followed,reached⟩ := EntityShape.followFrom_calls callable addsHop FieldPath.root
    have hops : token.path = ⟨calls.map (·.hop)⟩ := by
      simpa [FieldPath.foldl_child,FieldPath.root] using reached
    have notRoot : token.path.isRoot = false := by
      simp [hops,FieldPath.isRoot,callable.ne_nil]
    refine ⟨token,followed,reached,by simp [Expression.resolve,notRoot],?_⟩
    simp [hops,FieldPath.text]

/-- A customer with a plain field, a skipped one, a renamed raw-named field holding an optional
list of boxed orders, and a boxed referrer who is a customer too. -/
def sampleCustomer : EntityInput :=
  ⟨"r#Customer","pub",0,⟨some "Customers",none⟩,
    [(⟨[],"name",.path "String" [] "String"⟩,⟨none,false,false⟩),
      (⟨[],"secret",.path "String" [] "String"⟩,⟨none,true,false⟩),
      (⟨[],"r#orders",.path "Option" [.path "Vec" [.path "Box" [.path "Order" [] "Order"] "Box<Order>"]
        "Vec<Box<Order>>"] "Option<Vec<Box<Order>>>"⟩,⟨some "Orders",false,true⟩),
      (⟨[],"referrer",.path "Option" [.path "Box" [.path "Customer" [] "Customer"] "Box<Customer>"]
        "Option<Box<Customer>>"⟩,⟨none,false,true⟩)]⟩

def customerCatalog : List EntityShape :=
  [⟨"Customer","Customers",[⟨"name","name",.leaf⟩,⟨"r#orders","Orders",.collection "Order"⟩,
    ⟨"referrer","referrer",.nested "Customer"⟩]⟩]

theorem sample_customer_expands :
    sampleCustomer.params = 0 ∧
    (∀ name, sampleCustomer.options.renameAll = some name →
      name ∈ ["PascalCase","camelCase","snake_case"]) ∧
    (∀ field ∈ sampleCustomer.fields, ¬ Derivation.MissesElement field) ∧
    (Derivation.expand sampleCustomer).map (·.accessors) =
      .ok [⟨"name","name",.leaf⟩,⟨"r#orders","Orders",.collection "Order"⟩,
        ⟨"referrer","referrer",.nested "Customer"⟩] ∧
    EntityShape.Calls customerCatalog "Customer"
      [⟨"referrer","referrer",.nested "Customer"⟩,⟨"name","name",.leaf⟩] ∧
    ∃ token, EntityShape.followFrom customerCatalog (.fields "Customer" FieldPath.root)
        ["referrer","name"] = .ok token ∧ token.path.text = "referrer/name" := by
  have known : ∀ name, sampleCustomer.options.renameAll = some name →
      name ∈ ["PascalCase","camelCase","snake_case"] := by
    intro name given
    cases given
  have complete : ∀ field ∈ sampleCustomer.fields, ¬ Derivation.MissesElement field := by
    simp [sampleCustomer,Derivation.MissesElement,TypeSyntax.unwrapped]
  obtain ⟨d,expanded,listed⟩ : ∃ d, Derivation.expand sampleCustomer = .ok d ∧
      d.accessors = [⟨"name","name",.leaf⟩,⟨"r#orders","Orders",.collection "Order"⟩,
        ⟨"referrer","referrer",.nested "Customer"⟩] := by
    refine ⟨_,(expand_faults_in_order sampleCustomer).2.2.2.2.1 rfl known complete,?_⟩
    simp [sampleCustomer,Derivation.accessorFor,Derivation.hopOf,Derivation.fieldKind,
      TypeSyntax.unwrapped,unraw]
    -- what is left is the blank-free type text of each entity
    decide
  have callable : EntityShape.Calls customerCatalog "Customer"
      [⟨"referrer","referrer",.nested "Customer"⟩,⟨"name","name",.leaf⟩] :=
    .step rfl rfl rfl (.last rfl rfl)
  -- the catalog's one entity is the customer as derived
  have derived : ∀ shape ∈ customerCatalog, ∃ source d, Derivation.expand source = .ok d ∧
      shape.accessors = d.accessors := by
    intro shape member
    simp only [customerCatalog,List.mem_singleton] at member
    exact ⟨sampleCustomer,d,expanded,by rw [member,listed]⟩
  obtain ⟨token,followed,-,-,written⟩ :=
    (expand_faults_in_order sampleCustomer).2.2.2.2.2.2 customerCatalog "Customer" _ derived
      callable
  exact ⟨rfl,known,complete,by simp [expanded,Except.map,listed],callable,token,followed,
    by simpa using written⟩

end ODataBuilder
