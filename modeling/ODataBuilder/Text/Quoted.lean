/-!
# Quoted text

A text literal between single quotes, a quote inside it written twice; `decode` reads one
back from the front of a character list and gives the rest.
-/
namespace ODataBuilder.Quoted

def escape : List Char → List Char
  | [] => []
  | c :: rest => if c = '\'' then '\'' :: '\'' :: escape rest else c :: escape rest

def encode (s : List Char) : List Char :=
  '\'' :: (escape s ++ ['\''])

/-- Reads a literal body up to its closing quote: the text and what follows. -/
def decodeBody : List Char → Option (List Char × List Char)
  | [] => none
  | '\'' :: '\'' :: rest => (decodeBody rest).map fun (s, after) => ('\'' :: s, after)
  | '\'' :: rest => some ([], rest)
  | c :: rest => (decodeBody rest).map fun (s, after) => (c :: s, after)

/-- Reads a literal from the front of a list: the text and what follows it. -/
def decode : List Char → Option (List Char × List Char)
  | '\'' :: rest => decodeBody rest
  | _ => none

def quote (s : String) : String :=
  String.ofList (encode s.toList)

end ODataBuilder.Quoted
