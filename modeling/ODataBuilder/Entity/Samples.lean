import ODataBuilder.Entity.Shape
/-!
# Sample entities

A small model to query: people with addresses, orders and line items, entities that exercise
the naming rules, and a hand-written customer model. `Dyn` has no accessors; it stands for
queries whose paths are given directly.
-/
namespace ODataBuilder.Samples

open AccessorKind

def derivedAll (rule : Option CaseRule) (fields : List (String × Option String × AccessorKind)) :
    List Accessor :=
  fields.map fun (ident, rename, kind) => Accessor.derived rule ident rename kind

def leaves (rule : Option CaseRule) (idents : List String) : List Accessor :=
  derivedAll rule (idents.map fun ident => (ident, none, leaf))

def person : EntityShape :=
  ⟨"Person", "People", derivedAll (some .pascal)
    [("first_name", none, leaf), ("last_name", none, leaf), ("age", none, leaf),
     ("manager_id", some "MgrId", leaf), ("address", none, nested "Address"),
     ("orders", none, collection "Order"), ("mentor", none, nested "Person")]⟩

def address : EntityShape :=
  ⟨"Address", "Address", derivedAll (some .pascal)
    [("city", none, leaf), ("postal_code", some "Zip", leaf)]⟩

def order : EntityShape :=
  ⟨"Order", "Order", derivedAll (some .camel)
    [("total_amount", none, leaf), ("line_items", none, collection "LineItem")]⟩

def lineItem : EntityShape :=
  ⟨"LineItem", "LineItem", leaves (some .pascal) ["sku"]⟩

def plain : EntityShape :=
  ⟨"Plain", "Plain", leaves none ["raw_name", "r#type"]⟩

def wrapper : EntityShape :=
  ⟨"Wrapper", "Wrapped/Set", derivedAll none
    [("boxed", none, nested "Address"), ("maybe_items", none, collection "LineItem"),
     ("boxed_items", none, collection "LineItem"), ("deep", none, nested "Address"),
     ("me", some "Self", nested "Wrapper"), ("empty_name", some "", leaf),
     ("slashed", some "a/b", leaf), ("unicode", some "Ünï Cödé", leaf)]⟩

def namingIdents : List String :=
  ["simple", "two_words", "three_word_name", "with2_digits", "abc123def", "_leading",
    "trailing_", "double__under", "x", "a_b_c_d", "r#type", "r#match", "HTTPServer",
    "camelCase", "XMLHttpRequest", "ünï_cödé", "v2_api", "io_error_3d", "ALL_CAPS"]

def naming (name entitySet : String) (rule : CaseRule) : EntityShape :=
  ⟨name, entitySet, leaves (some rule) namingIdents ++
    derivedAll (some rule) [("renamed", some "kept_AS_is", leaf)]⟩

def raw : EntityShape :=
  ⟨"Raw", "Raw", leaves none ["plain_field"]⟩

def customer : EntityShape :=
  ⟨"fixtures::Customer", "Customers",
    [⟨"name", "Name", leaf⟩, ⟨"first_name", "FirstName", leaf⟩, ⟨"last_name", "LastName", leaf⟩,
     ⟨"age", "Age", leaf⟩, ⟨"manager", "Manager", leaf⟩,
     ⟨"address", "Address", nested "fixtures::Address"⟩,
     ⟨"orders", "Orders", collection "fixtures::Order"⟩,
     ⟨"itself", "", own⟩, ⟨"into_root", "", own⟩]⟩

def customerAddress : EntityShape :=
  ⟨"fixtures::Address", "Addresses", [⟨"city", "City", leaf⟩]⟩

def customerOrder : EntityShape :=
  ⟨"fixtures::Order", "Orders",
    [⟨"amount", "Amount", leaf⟩, ⟨"items", "Items", collection "fixtures::Item"⟩]⟩

def customerItem : EntityShape :=
  ⟨"fixtures::Item", "Items", [⟨"sku", "Sku", leaf⟩, ⟨"quantity", "Quantity", leaf⟩]⟩

def dyn : EntityShape := ⟨"Dyn", "Entities", []⟩

def catalog : List EntityShape :=
  [person, address, order, lineItem, plain, wrapper,
    naming "NamesPascal" "NamesPascal" .pascal, naming "NamesCamel" "NamesCamel" .camel,
    naming "NamesSnake" "names_snake" .snake, raw, customer, customerAddress,
    customerOrder, customerItem, dyn]

end ODataBuilder.Samples
