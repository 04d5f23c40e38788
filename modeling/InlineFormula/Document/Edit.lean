import InlineFormula.Document
import InlineFormula.Element.Draft

/-!
Edits of a document's content. An edit first revises the elements; then, if it changed them and
the configuration asks for it, the document is validated. A fault in revising leaves the document
as it was, and one in validating leaves the new content with the old verdict.
-/

set_option autoImplicit false

namespace InlineFormula

/-- The fields that an update replaces; those left out stay as they are. -/
structure Change where
  kind : Option Datum := none
  value : Option String := none
  children : Option (List (Element Id)) := none

inductive Edit where
  | setText (text : String)
  | insert (element : Element Id) (index : Option Int)
  | update (index : Int) (change : Change)
  | remove (index : Int)
  | setElements (elements : List (Element Id))
  | clear

/-- An edit at a position tells whether there was an element, an insertion shows the copy that
is now in the document. -/
inductive EditAnswer where
  | done
  | stored (element : Element Id)
  | found (present : Bool)

/-- Only an edit at a position without an element changes nothing. -/
def EditAnswer.changes : EditAnswer → Bool
  | found present => present
  | _ => true

/-- The place of an index that lies within a list of this length. -/
def indexWithin (index : Int) (length : Nat) : Option Nat :=
  if 0 ≤ index ∧ index < length then some index.toNat else none

/-- The element at an index, with its place. -/
def elementWithin (elements : List (Element Id)) (index : Int) : Option (Nat × Element Id) :=
  (indexWithin index elements.length).bind fun place =>
    elements[place]?.map fun element => (place, element)

/-- An index before the start stands for the start, one past the end for the end. -/
def clampIndex (index : Option Int) (length : Nat) : Nat :=
  match index with
  | none => length
  | some index => min index.toNat length

/-- An update keeps the identifier; only a kind can fail to fit. -/
def Change.apply (change : Change) (element : Element Id) : Except Fault (Element Id) :=
  let changed (kind : Kind) : Element Id :=
    ⟨kind, change.value.getD element.value, change.children.getD element.children, element.id⟩
  match change.kind with
  | none => .ok (changed element.kind)
  | some given => (Kind.ofDatum given).map changed

/-- New content, the identifiers drawn so far, and the answer of the edit. -/
structure Revision where
  elements : List (Element Id)
  drawn : Nat
  answer : EditAnswer

def Edit.revise (settings : Settings) (drawn : Nat) (elements : List (Element Id)) :
    Edit → Except Fault Revision
  | setText text =>
      let parsed := Formula.parseNumbered settings drawn text
      .ok ⟨parsed, drawn + Element.totalSize parsed, .done⟩
  | insert element index =>
      let place := clampIndex index elements.length
      let copy := element.copied drawn
      .ok ⟨elements.take place ++ copy :: elements.drop place, drawn + element.size,
        .stored copy⟩
  | update index change =>
      match elementWithin elements index with
      | none => .ok ⟨elements, drawn, .found false⟩
      | some (place, element) =>
          (change.apply element).map fun changed =>
            ⟨elements.set place changed, drawn, .found true⟩
  | remove index =>
      match indexWithin index elements.length with
      | none => .ok ⟨elements, drawn, .found false⟩
      | some place => .ok ⟨elements.eraseIdx place, drawn, .found true⟩
  | setElements given =>
      .ok ⟨Element.allCopied drawn given, drawn + Element.totalSize given, .done⟩
  | clear => .ok ⟨[], drawn, .done⟩

namespace Document

/-- Besides the outcome, the number of identifiers drawn so far. -/
def edit (settings : Settings) (configuration : Configuration) (drawn : Nat)
    (document : Document) (edit : Edit) : Outcome EditAnswer × Nat :=
  match edit.revise settings drawn document.elements with
  | .error fault => ({ document, result := .error fault }, drawn)
  | .ok revision =>
      let revised := { document with elements := revision.elements }
      if configuration.auto && revision.answer.changes then
        let validated := revised.validate settings configuration
        ({ document := validated.document
           result := validated.result.map fun _ => revision.answer
           log := validated.log }, revision.drawn)
      else ({ document := revised, result := .ok revision.answer }, revision.drawn)

/-- A new document is empty, and a text it starts with is set like any other. -/
def start (settings : Settings) (configuration : Configuration) (drawn : Nat) (text : String) :
    Outcome EditAnswer × Nat :=
  if text.isEmpty then ({ document := {}, result := .ok .done }, drawn)
  else ({} : Document).edit settings configuration drawn (.setText text)

def elementAt? (document : Document) (index : Int) : Option (Element Id) :=
  (elementWithin document.elements index).map Prod.snd

end Document

end InlineFormula
