import InlineFormula.Element.Ids
import InlineFormula.Formula.Token

/-!
Reading a formula. Each atom becomes an element and takes the modifiers right behind it as its
children; modifiers before the first atom decorate nothing and are dropped.
-/

set_option autoImplicit false

namespace InlineFormula

namespace Token

/-- The child that a modifier becomes holds its content without braces. -/
def modifierShape (marker : Marker) (spelling : Spelling) : Shape :=
  ⟨marker.kind, String.ofList spelling.content, [], ()⟩

/-- The modifiers at the head of a list of tokens. -/
def leadingModifiers : List Token → List Shape
  | modifier marker spelling :: rest => modifierShape marker spelling :: leadingModifiers rest
  | _ => []

def assemble : List Token → List Shape
  | [] => []
  | modifier _ _ :: rest => assemble rest
  | atom kind value :: rest =>
      ⟨kind, String.ofList value, leadingModifiers rest, ()⟩ :: assemble rest

/-- What a scan makes of one more token: an element for an atom, and for a modifier a child of the
last element. Before there is an element a modifier makes nothing and draws nothing. -/
def attach (elements : List (Element Id)) : Token → StateM Nat (List (Element Id))
  | atom kind value => do
      let id ← Id.next
      return elements ++ [⟨kind, String.ofList value, [], id⟩]
  | modifier marker spelling =>
      match elements.getLast? with
      | none => return elements
      | some last => do
          let id ← Id.next
          let child : Element Id := ⟨marker.kind, String.ofList spelling.content, [], id⟩
          return elements.dropLast ++ [last.decorated [child]]

end Token

namespace Formula

def parseChars (settings : Settings) (text : List Char) : List Shape :=
  Token.assemble (tokens settings text)

/-- Every text is a formula. -/
def parse (settings : Settings) (text : String) : List Shape := parseChars settings text.toList

/-- The parsed elements with the identifiers that come after the first `drawn` ones. -/
def parseNumbered (settings : Settings) (drawn : Nat) (text : String) : List (Element Id) :=
  Element.allNumbered drawn (parse settings text)

/-- A formula is read token by token, each element drawing its identifier when it is made. -/
def reading (settings : Settings) (text : String) : StateM Nat (List (Element Id)) :=
  (tokens settings text.toList).foldlM Token.attach []

theorem parse_numbered_shapes (settings : Settings) (drawn : Nat) (text : String) :
    Element.shapes (parseNumbered settings drawn text) = Element.shapes (parse settings text) :=
  Element.all_numbered_shapes drawn _

end Formula

end InlineFormula
