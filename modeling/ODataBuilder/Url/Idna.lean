import ODataBuilder.Url.IdnaMapping
import ODataBuilder.Url.Punycode
import ODataBuilder.Text.BidiClass
import ODataBuilder.Text.JoiningType
import ODataBuilder.Text.CombiningMark
/-!
# Internationalized domain names

A domain brought to its ASCII form by UTS #46 nontransitional processing: mapping,
Normalization Form C, the characters no host may hold, Punycode labels checked, the joiner
and bidirectional rules, then each label outside ASCII written as `xn--` and its Punycode.
-/
namespace ODataBuilder.Idna

open Unicode

/-- A character no domain of a URL may hold: C0 controls, space, DEL and
`% # / : < > ? @ [ \ ] ^ |`. -/
def isDenied (c : Char) : Bool :=
  c.toNat ≤ 0x20 || c.toNat = 0x7F || c == '%' || c == '#' || c == '/' || c == ':' ||
    c == '<' || c == '>' || c == '?' || c == '@' || c == '[' || c == '\\' || c == ']' ||
    c == '^' || c == '|'

def mapForDomain (c : Char) : Option (List Char) :=
  if c.toNat < 0x80 then some [c.toLower]
  else
    match statusOf c.toNat with
    | .valid | .deviation => some [c]
    | .ignored => some []
    | .mapped replacement => some replacement
    | .disallowed => none

/-- Whether a character may stand in a label as it is: valid or a deviation. -/
def isKept (c : Char) : Bool :=
  if c.toNat < 0x80 then !c.isUpper
  else
    match statusOf c.toNat with
    | .valid | .deviation => true
    | _ => false

def hasPunycodePrefix (cs : List Char) : Bool := cs.take 4 == ['x', 'n', '-', '-']

/-- The text a `xn--` label stands for, if it is sound Punycode for a label. -/
def decodeLabel (label : List Char) : Option (List Char) :=
  let encoded := label.drop 4
  if !encoded.all (·.toNat < 0x80) || label.getLast? == some '-' ||
      hasPunycodePrefix encoded then none
  else
    match Punycode.decode encoded with
    | none => none
    | some decoded =>
      if decoded.all (·.toNat < 0x80) || !isNfc decoded || !decoded.all isKept then none
      else some decoded

def zeroWidthJoiner : Char := Char.ofNat 0x200D

def zeroWidthNonJoiner : Char := Char.ofNat 0x200C

def isVirama (c : Char) : Bool := combiningClass c.toNat == 9

def joinsToward (sides : List JoiningType) (cs : List Char) : Bool :=
  match cs.dropWhile (joiningType · == .transparent) with
  | c :: _ => sides.contains (joiningType c)
  | [] => false

def joinerAllowed (before after : List Char) (c : Char) : Bool :=
  if c == zeroWidthJoiner then before.head?.any isVirama
  else if c == zeroWidthNonJoiner then
    before.head?.any isVirama ||
      (joinsToward [.left, .dual] before && joinsToward [.right, .dual] after)
  else true

/-- Whether every joiner of a label stands where it may; `before` holds the characters
passed, nearest first. -/
def joinersAllowed : List Char → List Char → Bool
  | _, [] => true
  | before, c :: after => joinerAllowed before after c && joinersAllowed (c :: before) after

/-- Whether a label meets the rules every label meets: it does not start with a combining
mark and its joiners stand where they may. -/
def isValidLabel (label : List Char) : Bool :=
  !(label.head?.any isMark) && joinersAllowed [] label

def readLabel (label : List Char) : Option (List Char) :=
  let text := if hasPunycodePrefix label then decodeLabel label else some label
  text.filter isValidLabel

def isRightToLeft (c : Char) : Bool :=
  match bidiClass c with
  | .rightToLeft | .arabicLetter | .arabicNumber => true
  | _ => false

def leftToRightClasses : List BidiClass :=
  [.leftToRight, .europeanNumber, .europeanSeparator, .commonSeparator, .europeanTerminator,
    .otherNeutral, .boundaryNeutral, .nonspacingMark]

def rightToLeftClasses : List BidiClass :=
  [.rightToLeft, .arabicLetter, .arabicNumber, .europeanNumber, .europeanSeparator,
    .commonSeparator, .europeanTerminator, .otherNeutral, .boundaryNeutral, .nonspacingMark]

/-- Whether a label satisfies the bidirectional rule. `body` is what follows the first
character up to the marks that end the label. -/
def satisfiesBidiRule : List Char → Bool
  | [] => true
  | first :: rest =>
    let body := ((rest.map bidiClass).reverse.dropWhile (· == .nonspacingMark)).reverse
    match bidiClass first with
    | .leftToRight =>
      body.all leftToRightClasses.contains &&
        body.getLast?.all [.leftToRight, .europeanNumber].contains
    | .rightToLeft | .arabicLetter =>
      body.all rightToLeftClasses.contains &&
        body.getLast?.all
          [.rightToLeft, .arabicLetter, .europeanNumber, .arabicNumber].contains &&
        !(body.contains .europeanNumber && body.contains .arabicNumber)
    | _ => false

/-- A label in its ASCII form: as it is when it is ASCII, else `xn--` and its Punycode. -/
def asciiLabel (label : List Char) : List Char :=
  if label.all (·.toNat < 0x80) then label else "xn--".toList ++ (Punycode.encode label).toList

def toAscii (domain : List Char) : Option (List Char) := do
  let mapped ← (domain.mapM mapForDomain).map List.flatten
  let normalized := nfc mapped
  if normalized.any isDenied then none
  let labels := normalized.splitOn '.'
  let texts ← labels.mapM readLabel
  if texts.any (·.any isRightToLeft) && !texts.all satisfiesBidiRule then none
  return ['.'].intercalate (labels.map asciiLabel)

end ODataBuilder.Idna
